import TraceCheck.Command.Eval
import TraceCheck.Proofs.Engine.Answers
import TraceCheck.Proofs.Text.Hex
import TraceCheck.Proofs.Text.Lines

/-!
# Evaluating an input line by line

Each line of an input of traces is treated by itself: it is blank, holds a trace that is
too large, holds a trace that is answered, is invalid, or cannot be read.  The command
prints what is found on the lines one after the other, each violation on a line of its own.
It ends at the first line that is invalid, whose number it names, or cannot be read, and
then says why.  What was found in front of that line is printed all the same.  Nothing is
printed without rules or without an input.
-/

namespace TraceCheck

open TraceCheck.Text

/-! ## Lines of an input -/

/-- A line has nothing but blanks. -/
def IsBlankLine (line : List Char) : Prop :=
  ∀ c ∈ line, isBlank c = true

/-- A line that is not blank is read as a trace. -/
def HoldsTrace (line : List Char) (t : Trace) : Prop :=
  ¬ IsBlankLine line ∧ Json.Decoder.decodeText Trace.decoder (String.ofList line) = .ok t

/-- A line that is not blank cannot be read as a trace. -/
def IsInvalidLine (line : List Char) (f : Json.Fault) : Prop :=
  ¬ IsBlankLine line ∧ Json.Decoder.decodeText Trace.decoder (String.ofList line) = .error f

/-- What an engine finds on a line that is not invalid: nothing on a blank one and in a
trace that is too large, and else the answer to the trace. -/
inductive Engine.FindsOn (e : Engine) (line : List Char) : List Violation → Prop where
  | blank (hline : IsBlankLine line) : e.FindsOn line []
  | rejected (t : Trace) (hline : HoldsTrace line t) (hlarge : t.Exceeds e.limits) :
    e.FindsOn line []
  | answered (t : Trace) (vs : List Violation) (hline : HoldsTrace line t)
    (hsmall : ¬ t.Exceeds e.limits) (hanswer : e.Answers t vs) : e.FindsOn line vs

/-- A violation as it is printed. -/
def Violation.printed (v : Violation) : List Char :=
  (Json.compact v.json).toList

/-- Why reading ends behind some lines, if they are not all: the next one is invalid and is
named by its number, or it cannot be read.  The first of all lines has a given number. -/
inductive EndsBehind (first : Nat) (read : List (List Char))
    (lines : List (Except String (List Char))) : Option Failure → Prop where
  | finished (hread : read.length = lines.length) : EndsBehind first read lines none
  | invalid (line : List Char) (f : Json.Fault) (hline : lines[read.length]? = some (.ok line))
    (hinvalid : IsInvalidLine line f) : EndsBehind first read lines
      (some ⟨"invalid trace on line " ++ toString (first + read.length), [f.message]⟩)
  | unreadable (reason : String) (hline : lines[read.length]? = some (.error reason)) :
    EndsBehind first read lines (some ⟨reason, []⟩)

/-- A command ended with a failure, of which it told at last, or without one. -/
def Outcome.EndsWith (o : Outcome) : Option Failure → Prop
  | none => o.code = 0
  | some f => o.code = 1 ∧ o.notices.getLast? = some (.text f.text)

/-- A command read some of the first lines, printed what is found on them, a violation a
line, and ended behind them. -/
structure Outcome.Reports (o : Outcome) (e : Engine) (lines : List (Except String (List Char)))
    (read : List (List Char)) (found : List (List Violation)) : Prop where
  front : read.map .ok <+: lines
  findings : List.Forall₂ e.FindsOn read found
  output : o.output.toList = (found.flatten.map Violation.printed).flatMap (· ++ ['\n'])
  printedLines : Text.lines o.output.toList = found.flatten.map Violation.printed
  ending : ∃ failure?, EndsBehind 1 read lines failure? ∧ o.EndsWith failure?

/-! ## Printed violations -/

/-- A text that is one line when a line feed follows it. -/
def IsOneLine (cs : List Char) : Prop :=
  '\n' ∉ cs ∧ cs.getLast? ≠ some '\r'

/-- Lines with line feeds behind them are the lines of their text. -/
theorem lines_flatMap {ls : List (List Char)} (h : ∀ line ∈ ls, IsOneLine line) :
    Text.lines (ls.flatMap (· ++ ['\n'])) = ls := by
  induction ls with
  | nil => rfl
  | cons line ls ih =>
      obtain ⟨⟨hfeed, hreturn⟩, hls⟩ := List.forall_mem_cons.mp h
      rw [List.flatMap_cons, List.append_assoc, List.singleton_append, lines_append_feed hfeed,
        dropReturn_of_getLast? hreturn, List.reverse_reverse, ih hls]

theorem not_mem_intercalate
    {c : Char} {separator : List Char} {ls : List (List Char)} (hseparator : c ∉ separator)
    (hls : ∀ l ∈ ls, c ∉ l) : c ∉ separator.intercalate ls := by
  induction ls with
  | nil => exact List.not_mem_nil
  | cons l ls ih =>
      obtain ⟨hl, hls⟩ := List.forall_mem_cons.mp hls
      cases ls with
      | nil =>
          rw [List.intercalate_singleton]
          exact hl
      | cons l' ls =>
          rw [List.intercalate_cons_cons, List.mem_append, List.mem_append]
          rintro ((hmem | hmem) | hmem)
          · exact hl hmem
          · exact hseparator hmem
          · exact ih hls hmem

namespace Json

theorem not_mem_escapeChar (c : Char) : '\n' ∉ escapeChar c := by
  unfold escapeChar
  split
  all_goals try decide
  next hfeed _ _ =>
    split
    · intro hmem
      rcases List.mem_append.mp hmem with hmark | hhex
      · revert hmark
        decide
      · have hdigit := isHexDigit_of_mem_hexFixed .lower hhex
        revert hdigit
        decide
    · exact fun hmem => hfeed (List.mem_singleton.mp hmem).symm

theorem not_mem_quote (s : String) : '\n' ∉ (quote s).toList := by
  unfold quote escapeChars
  rw [String.toList_ofList]
  intro hmem
  rcases List.mem_append.mp hmem with hmem | hmem
  · rcases List.mem_cons.mp hmem with heq | hmem
    · revert heq
      decide
    · obtain ⟨c, -, hc⟩ := List.mem_flatMap.mp hmem
      exact not_mem_escapeChar c hc
  · revert hmem
    decide

theorem not_mem_enclose
    {opening closing : String} {items : List String} (hopening : '\n' ∉ opening.toList)
    (hclosing : '\n' ∉ closing.toList) (hitems : ∀ s ∈ items, '\n' ∉ s.toList) :
    '\n' ∉ (enclose opening "," closing items).toList := by
  unfold enclose
  rw [String.toList_append, String.toList_append, String.toList_intercalate, List.mem_append,
    List.mem_append]
  rintro ((hmem | hmem) | hmem)
  · exact hopening hmem
  · refine not_mem_intercalate (by decide) ?_ hmem
    exact List.forall_mem_map.mpr hitems
  · exact hclosing hmem

/-- A value without numbers is printed in one line. -/
def IsWordy : Json → Prop
  | .string _ => True
  | .array items => ∀ j ∈ items, ∃ s, j = .string s
  | _ => False

theorem not_mem_compact {j : Json} (h : j.IsWordy) : '\n' ∉ (compact j).toList := by
  cases j with
  | string s =>
      rw [compact]
      exact not_mem_quote s
  | array items =>
      have hitems : ∀ s ∈ compactItems items, '\n' ∉ s.toList := by
        unfold IsWordy at h
        induction items with
        | nil => exact List.forall_mem_nil _
        | cons item items ih =>
            obtain ⟨⟨s, rfl⟩, hall⟩ := List.forall_mem_cons.mp h
            rw [compactItems]
            refine List.forall_mem_cons.mpr ⟨?_, ih hall⟩
            rw [compact]
            exact not_mem_quote s
      rw [compact]
      exact not_mem_enclose (by decide) (by decide) hitems
  | _ => exact h.elim

theorem isOneLine_object
    {members : List (String × Json)} (h : ∀ m ∈ members, m.2.IsWordy) :
    IsOneLine (compact (.object members)).toList := by
  have hmembers : ∀ s ∈ compactMembers members, '\n' ∉ s.toList := by
    induction members with
    | nil => exact List.forall_mem_nil _
    | cons m members ih =>
        obtain ⟨hm, hall⟩ := List.forall_mem_cons.mp h
        rw [compactMembers]
        refine List.forall_mem_cons.mpr ⟨?_, ih hall⟩
        rw [String.toList_append, String.toList_append, List.mem_append, List.mem_append]
        rintro ((hmem | hmem) | hmem)
        · exact not_mem_quote m.1 hmem
        · revert hmem
          decide
        · exact not_mem_compact hm hmem
  rw [compact]
  refine ⟨not_mem_enclose (by decide) (by decide) hmembers, ?_⟩
  have hlast : "\x7d".toList.getLast? = some '\x7d' := by decide
  rw [enclose, String.toList_append, List.getLast?_append, hlast, Option.some_or]
  decide

end Json

theorem Violation.isOneLine_printed (v : Violation) : IsOneLine v.printed := by
  have hids : (Json.array (v.spanIds.map .string)).IsWordy :=
    List.forall_mem_map.mpr fun s _ => ⟨s, rfl⟩
  refine Json.isOneLine_object (List.forall_mem_append.mpr ⟨?_, ?_⟩)
  · simp only [List.forall_mem_cons]
    exact ⟨trivial, trivial, trivial, trivial, hids, List.forall_mem_nil _⟩
  · split
    · exact List.forall_mem_nil _
    · exact List.forall_mem_singleton.mpr trivial

/-! ## Reading the lines -/

/-- Reading ends where it does when one more line is read at first. -/
theorem EndsBehind.cons {first : Nat} {read : List (List Char)}
    {lines : List (Except String (List Char))} {failure? : Option Failure}
    (h : EndsBehind (first + 1) read lines failure?) (line : List Char) :
    EndsBehind first (line :: read) (.ok line :: lines) failure? := by
  have hnumber : first + 1 + read.length = first + (line :: read).length := by
    rw [List.length_cons]
    omega
  cases h with
  | finished hread => exact .finished (congrArg Nat.succ hread)
  | invalid line' f hline hinvalid =>
      rw [hnumber]
      exact .invalid line' f hline hinvalid
  | unreadable reason hline => exact .unreadable reason hline

namespace Engine

variable (e : Engine)

theorem evaluateLine_of_traceOfLine
    {number : Nat} {line : List Char} {t : Trace}
    (h : traceOfLine number line = .ok (some t)) :
    e.evaluateLine number line = .ok ((e.evaluate t).toOption.getD []) := by
  simp only [evaluateLine, h, bind, Except.bind]
  cases e.evaluate t <;> rfl

/-- A line is treated by itself, and only its number is said when it is invalid. -/
theorem evaluateLine_cases (number : Nat) (line : List Char) :
    (∃ vs, e.evaluateLine number line = .ok vs ∧ e.FindsOn line vs) ∨
      ∃ f : Json.Fault, IsInvalidLine line f ∧ e.evaluateLine number line =
        .error ⟨"invalid trace on line " ++ toString number, [f.message]⟩ := by
  by_cases hblank : line.all isBlank = true
  · refine .inl ⟨[], ?_, .blank (List.all_eq_true.mp hblank)⟩
    have htrace : traceOfLine number line = .ok none := if_pos hblank
    rw [evaluateLine, htrace]
    rfl
  · have hline : ¬ IsBlankLine line := fun h => hblank (List.all_eq_true.mpr h)
    cases hdecode : Json.Decoder.decodeText Trace.decoder (String.ofList line) with
    | error f =>
        have htrace : traceOfLine number line =
            .error ⟨"invalid trace on line " ++ toString number, [f.message]⟩ := by
          rw [traceOfLine, if_neg hblank, hdecode]
        refine .inr ⟨f, ⟨hline, hdecode⟩, ?_⟩
        rw [evaluateLine, htrace]
        rfl
    | ok t =>
        have htrace : traceOfLine number line = .ok (some t) := by
          rw [traceOfLine, if_neg hblank, hdecode]
        obtain ⟨hlarge, hsmall, -⟩ := e.evaluate_answers t
        by_cases hexceeds : t.Exceeds e.limits
        · obtain ⟨x, hx⟩ := hlarge hexceeds
          refine .inl ⟨[], ?_, .rejected t ⟨hline, hdecode⟩ hexceeds⟩
          rw [e.evaluateLine_of_traceOfLine htrace, hx]
          rfl
        · obtain ⟨vs, hvs, hanswers, -⟩ := hsmall hexceeds
          refine .inl ⟨vs, ?_, .answered t vs ⟨hline, hdecode⟩ hexceeds hanswers⟩
          rw [e.evaluateLine_of_traceOfLine htrace, hvs]
          rfl

/-- Lines are read up to the first that is invalid, which is named by its number, or
cannot be read. -/
theorem evaluateLines_cases (number : Nat) (lines : List (Except String (List Char))) :
    ∃ read found, read.map .ok <+: lines ∧ List.Forall₂ e.FindsOn read found ∧
      (e.evaluateLines number lines).1 = found.flatten ∧
      EndsBehind number read lines (e.evaluateLines number lines).2 := by
  induction lines generalizing number with
  | nil => exact ⟨[], [], List.prefix_refl _, .nil, rfl, .finished rfl⟩
  | cons line rest ih =>
      cases line with
      | error reason =>
          exact ⟨[], [], List.nil_prefix, .nil, rfl, .unreadable reason rfl⟩
      | ok line =>
          rw [evaluateLines]
          rcases e.evaluateLine_cases number line with ⟨vs, heval, hfinds⟩ | ⟨f, hinvalid, heval⟩
          · obtain ⟨read, found, hfront, hfound, hall, hend⟩ := ih (number + 1)
            rw [heval]
            refine ⟨line :: read, vs :: found, ?_, .cons hfinds hfound, ?_, ?_⟩
            · exact List.cons_prefix_cons.mpr ⟨rfl, hfront⟩
            · rw [List.flatten_cons, ← hall]
            · exact hend.cons line
          · rw [heval]
            exact ⟨[], [], List.nil_prefix, .nil, rfl, .invalid line f rfl hinvalid⟩

end Engine

/-- The command with an engine and an input prints what is found on the lines, and the
last that it has to say is the failure, if there is one. -/
theorem evalCommand_of_input
    {config : Config} {ids : IdSupply} {dirs : List RuleDirectory} {traces : Input}
    {e : Engine} {stream : Stream} (hengine : Engine.ofConfig config ids dirs = .ok e)
    (hstream : traces.content = .ok stream) :
    let read := e.evaluateLines 1 stream.lines
    let outcome := evalCommand config ids dirs traces
    outcome.output.toList = (read.1.map Violation.printed).flatMap (· ++ ['\n']) ∧
      outcome.EndsWith read.2 := by
  have hopened : traces.opened ("opening " ++ traces.name) = .ok stream := by
    rw [Input.opened, hstream]
    rfl
  rw [evalCommand, hengine]
  dsimp only
  rw [hopened]
  dsimp only
  constructor
  · rw [String.toList_join, List.flatMap_map, List.flatMap_map]
    exact congrArg (List.flatMap · _) (funext fun v => String.toList_append)
  · unfold Outcome.EndsWith
    cases (e.evaluateLines 1 stream.lines).2 with
    | none => rfl
    | some f => exact ⟨rfl, List.getLast?_concat⟩

/-- Evaluating fails at once if the rules cannot be loaded or the input cannot be opened.
Else the lines are read one after the other: what each gives is printed, a violation a
line, and reading ends behind the last line or at the first that is invalid or cannot be
read. -/
theorem reports_evalCommand (config : Config) (ids : IdSupply) (dirs : List RuleDirectory)
    (traces : Input) :
    let outcome := evalCommand config ids dirs traces
    match Engine.ofConfig config ids dirs, traces.content with
    | .error f, _ =>
      outcome.output = "" ∧ outcome.EndsWith (some (.ofError "building rule engine" f))
    | .ok _, .error reason =>
      outcome.output = "" ∧ outcome.EndsWith (some ⟨"opening " ++ traces.name, [reason]⟩)
    | .ok e, .ok stream => ∃ read found, outcome.Reports e stream.lines read found := by
  dsimp only
  cases hengine : Engine.ofConfig config ids dirs with
  | error f =>
      dsimp only
      rw [evalCommand, hengine]
      exact ⟨rfl, rfl, List.getLast?_concat⟩
  | ok e =>
      cases hstream : traces.content with
      | error reason =>
          dsimp only
          rw [evalCommand, hengine]
          dsimp only
          rw [Input.opened, hstream]
          exact ⟨rfl, rfl, List.getLast?_concat⟩
      | ok stream =>
          obtain ⟨read, found, hfront, hfound, hall, hend⟩ := e.evaluateLines_cases 1 stream.lines
          obtain ⟨houtput, hends⟩ := evalCommand_of_input hengine hstream
          rw [hall] at houtput
          refine ⟨read, found, hfront, hfound, houtput, ?_, _, hend, hends⟩
          rw [houtput]
          exact lines_flatMap (List.forall_mem_map.mpr fun v _ => v.isOneLine_printed)

/-! ## Endings without a number -/

/-- A directory with one rule. -/
def chargeRules : RuleDirectory :=
  { name := "rules"
    files := some [⟨["charge.yml"], .ok "id: r1\nname: charge\nexpression: trace.has(a.b)\n"⟩] }

/-- A directory with a rule that is cut off. -/
def cutOffRules : RuleDirectory :=
  { name := "rules"
    files := some [⟨["charge.yml"], .ok "id: r1\nname: charge\nexpression: trace.has(\n"⟩] }

/-- A trace that violates the rule, and a line that is no text. -/
def brokenTraces : Input :=
  { name := "traces"
    content := .ok
      { bytes := "\x7b\"traceId\":\"t\",\"spans\":[\x7b\"name\":\"a.b\"\x7d]\x7d\n".toUTF8 ++
          ⟨#[255, 10]⟩ } }

/-- The text of a notice. -/
def Notice.text? : Notice → Option String
  | .text s => some s
  | .event _ => none

/-- Evaluating need not end well where no line is named: the second line of an input is no
text, the rules cannot be loaded, or the input cannot be opened. -/
theorem evalCommand_fails_without_number :
    ((evalCommand {} {} [chargeRules] brokenTraces).code = 1 ∧
      (evalCommand {} {} [chargeRules] brokenTraces).notices.getLast?.bind Notice.text? =
        some "Error: stream did not contain valid UTF-8\n") ∧
    (evalCommand { failOnParseError := true } {} [cutOffRules] ⟨"traces", .ok ""⟩).code = 1 ∧
    (evalCommand {} {} [chargeRules] ⟨"traces", .error "No such file"⟩).code = 1 := by
  decide +kernel

end TraceCheck
