import TraceCheck.Command.Check
import TraceCheck.Proofs.Grammar.Visibility
import TraceCheck.Proofs.Rendering.Safety

/-!
# What reports show

A report about a rule is a list of lines.  The words of a diagnostic are rendered for
where they are shown, so each line that holds nothing else neither acts on a display nor
shows a service key.  The text format also quotes the line of the rule that a diagnostic
is about, and quotes it as it is: there a report is as harmless as these lines are.
-/

namespace TraceCheck

open TraceCheck.Redaction TraceCheck.Rendering TraceCheck.Text

/-! ## Lines -/

/-- A line that does not act on a display and shows no service key. -/
structure IsHarmless (line : List Char) : Prop where
  visible : Visible line
  keyless : Keyless line

/-- The characters that stand around the words of a diagnostic. -/
def IsBland (cs : List Char) : Prop :=
  ∀ c ∈ cs, isUnsafe c = false ∧ c ≠ '_'

instance (cs : List Char) : Decidable (IsBland cs) :=
  inferInstanceAs (Decidable (∀ c ∈ cs, isUnsafe c = false ∧ c ≠ '_'))

theorem isBland_append_iff {u v : List Char} : IsBland (u ++ v) ↔ IsBland u ∧ IsBland v :=
  List.forall_mem_append

theorem isBland_toList_append {a b : String} :
    IsBland (a ++ b).toList ↔ IsBland a.toList ∧ IsBland b.toList := by
  rw [String.toList_append, isBland_append_iff]

/-- The characters of a fixed text can be checked one by one. -/
theorem isBland_ofList {cs : List Char} (h : IsBland cs) : IsBland (String.ofList cs).toList := by
  rwa [String.toList_ofList]

theorem isBland_toString (n : Nat) : IsBland (toString n).toList := by
  intro c hc
  have halnum := isAlphanum_of_mem_toString hc
  refine ⟨isUnsafe_of_isAlphanum halnum, fun heq => ?_⟩
  rw [heq] at halnum
  exact absurd halnum (by decide)

theorem isBland_replicate (n : Nat) {c : Char} (hc : isUnsafe c = false ∧ c ≠ '_') :
    IsBland (List.replicate n c) := by
  intro d hd
  rwa [List.eq_of_mem_replicate hd]

theorem Level.isBland_name (l : Level) : IsBland l.name.toList := by
  cases l <;> exact isBland_ofList (by decide)

theorem IsBland.isHarmless {cs : List Char} (h : IsBland cs) : IsHarmless cs :=
  ⟨fun c hc => (h c hc).1, keyless_of_not_mem fun hmem => (h '_' hmem).2 rfl⟩

/-- A character that ends keys keeps harmless texts apart. -/
theorem IsHarmless.join {u v : List Char} {z : Char} (hu : IsHarmless u) (hv : IsHarmless v)
    (hz : isUnsafe z = false) (hkey : z.isAlphanum = false ∧ z ≠ '_') :
    IsHarmless (u ++ z :: v) :=
  ⟨visible_append_iff.mpr ⟨hu.visible, visible_cons_iff.mpr ⟨hz, hv.visible⟩⟩,
    hu.keyless.join hv.keyless hkey⟩

theorem IsHarmless.of_isInfix {u v : List Char} (hv : IsHarmless v) (h : u <:+: v) :
    IsHarmless u :=
  ⟨hv.visible.subset h.subset, hv.keyless.of_isInfix h⟩

/-- Words behind a fixed text that ends in a blank. -/
theorem isHarmless_behind {front words : String} (hfront : IsBland front.toList)
    (hwords : IsHarmless words.toList) : IsHarmless (front ++ " " ++ words).toList := by
  have hsplit : (front ++ " " ++ words).toList = front.toList ++ ' ' :: words.toList := by
    rw [String.toList_append, String.toList_append, List.append_assoc]
    rfl
  rw [hsplit]
  exact hfront.isHarmless.join hwords (by decide) (by decide)

/-- A text of lines has no key when none of the lines has. -/
theorem keyless_lines {lines : List (List Char)} (h : ∀ line ∈ lines, Keyless line) :
    Keyless (lines.flatMap (· ++ ['\n'])) := by
  induction lines with
  | nil => exact keyless_of_not_mem List.not_mem_nil
  | cons line lines ih =>
      obtain ⟨hline, hlines⟩ := List.forall_mem_cons.mp h
      rw [List.flatMap_cons, List.append_assoc, List.singleton_append]
      exact hline.join (ih hlines) (by decide)

theorem infix_lines {lines : List (List Char)} {line : List Char} (h : line ∈ lines) :
    line <:+: lines.flatMap (· ++ ['\n']) := by
  obtain ⟨before, behind, rfl⟩ := List.append_of_mem h
  refine ⟨before.flatMap (· ++ ['\n']), '\n' :: behind.flatMap (· ++ ['\n']), ?_⟩
  simp

/-! ## Diagnostics -/

namespace Diagnostic

/-- The words of a diagnostic are harmless. -/
def HasHarmlessWords (d : Diagnostic) : Prop :=
  IsHarmless d.message.toList ∧
    ∀ s ∈ d.suggestion, IsHarmless s.toList

/-- The line with the place and the message of a diagnostic. -/
def heading (d : Diagnostic) : String :=
  d.level.name ++ " at line " ++ toString d.line ++ ", column " ++ toString d.column ++ ": " ++
    d.message

/-- The line of the source that a diagnostic is about and the carets under it. -/
def excerptLines (source : String) (d : Diagnostic) : List (List Char) :=
  match d.sourceLine? source with
  | some line =>
    [' ' :: ' ' :: line,
      ' ' :: ' ' :: (List.replicate (d.column - 1) ' ' ++
        List.replicate (d.caretCount line.length) '^')]
  | none => []

/-- The line with the hint of a diagnostic. -/
def hintLines (d : Diagnostic) : List (List Char) :=
  match d.suggestion with
  | some s => [("  suggestion: " ++ s).toList]
  | none => []

/-- The lines of a diagnostic that is shown in a source. -/
def linesIn (source : String) (d : Diagnostic) : List (List Char) :=
  d.heading.toList :: (d.excerptLines source ++ d.hintLines)

theorem toList_showIn (source : String) (d : Diagnostic) :
    (d.showIn source ++ "\n").toList = (d.linesIn source).flatMap (· ++ ['\n']) := by
  unfold showIn linesIn excerptLines hintLines heading
  cases d.sourceLine? source <;> cases d.suggestion <;> simp

theorem isHarmless_heading {d : Diagnostic} (h : d.HasHarmlessWords) :
    IsHarmless d.heading.toList := by
  have hsplit : d.heading =
      d.level.name ++ " at line " ++ toString d.line ++ ", column " ++ toString d.column ++ ":" ++
        " " ++ d.message := by
    have hcolon : ": " = ":" ++ " " := by decide
    rw [heading, hcolon, ← String.append_assoc]
  rw [hsplit]
  refine isHarmless_behind ?_ h.1
  simp only [isBland_toList_append]
  exact ⟨⟨⟨⟨⟨d.level.isBland_name, isBland_ofList (by decide)⟩, isBland_toString _⟩,
    isBland_ofList (by decide)⟩, isBland_toString _⟩, isBland_ofList (by decide)⟩

theorem isHarmless_of_mem_hintLines {d : Diagnostic} (h : d.HasHarmlessWords) :
    ∀ line ∈ d.hintLines, IsHarmless line := by
  unfold hintLines
  split
  · next s hs =>
      have hwords : IsHarmless ("  suggestion:" ++ " " ++ s).toList :=
        isHarmless_behind (isBland_ofList (by decide)) (h.2 s hs)
      exact List.forall_mem_singleton.mpr hwords
  · exact List.forall_mem_nil _

theorem forall_excerptLines_iff {d : Diagnostic} {source : String} :
    (∀ line ∈ d.excerptLines source, IsHarmless line) ↔
      ∀ line ∈ d.sourceLine? source, IsHarmless line := by
  unfold excerptLines
  have hempty : IsHarmless [' '] :=
    IsBland.isHarmless (by decide)
  cases d.sourceLine? source with
  | none => exact ⟨fun _ => nofun, fun _ => List.forall_mem_nil _⟩
  | some line =>
      constructor
      · rintro h shown hshown
        rw [← Option.mem_some.mp hshown]
        exact (h _ List.mem_cons_self).of_isInfix ⟨[' ', ' '], [], by simp⟩
      · intro h
        refine List.forall_mem_cons.mpr ⟨?_, List.forall_mem_singleton.mpr ?_⟩
        · exact hempty.join (h line rfl) (by decide) (by decide)
        · refine hempty.join (IsBland.isHarmless ?_) (by decide) (by decide)
          exact isBland_append_iff.mpr
            ⟨isBland_replicate _ (by decide), isBland_replicate _ (by decide)⟩

/-- A harmless diagnostic in a source is as harmless as the line that it quotes. -/
theorem forall_linesIn_iff {d : Diagnostic} (h : d.HasHarmlessWords) {source : String} :
    (∀ line ∈ d.linesIn source, IsHarmless line) ↔
      ∀ line ∈ d.sourceLine? source, IsHarmless line := by
  rw [linesIn, List.forall_mem_cons, List.forall_mem_append, forall_excerptLines_iff]
  constructor
  · exact fun hlines => hlines.2.1
  · exact fun hexcerpt => ⟨isHarmless_heading h, hexcerpt, isHarmless_of_mem_hintLines h⟩

theorem sourceLine?_rendered (s : Surface) (most : Nat) (d : Diagnostic) (source : String) :
    (d.rendered s most).sourceLine? source = d.sourceLine? source := by
  unfold rendered sourceLine?
  rfl

/-- A visible diagnostic is harmless where reports are shown. -/
theorem hasHarmlessWords_rendered {d : Diagnostic} (hd : d.IsVisible) (most : Nat)
    (format : ReportFormat) : (d.rendered format.surface most).HasHarmlessWords := by
  have hwords (s : String) (hs : Visible s.toList) :
      IsHarmless (format.surface.renderMessage most s).toList := by
    have hshown : Visible (format.surface.renderMessage most s).toList ∧
        Keyless (format.surface.renderMessage most s).toList := by
      cases format with
      | text => exact renderMessage_plain most hs
      | json => exact renderMessage_plain most hs
      | html => exact renderMessage_html most s
      | markdown => exact renderMessage_markdown most s
    exact ⟨hshown.1, hshown.2⟩
  refine ⟨hwords _ hd.1, fun s hs => ?_⟩
  obtain ⟨plain, hplain, rfl⟩ := Option.map_eq_some_iff.mp hs
  exact hwords plain (hd.2 plain hplain)

end Diagnostic

/-! ## Reports -/

namespace ReportFormat

theorem isHarmless_conclusion (v : Verdict) : IsHarmless (conclusion v).toList := by
  refine IsBland.isHarmless ?_
  unfold conclusion
  split <;> simp only [isBland_toList_append]
  · exact ⟨⟨isBland_ofList (by decide), isBland_toString _⟩, isBland_ofList (by decide)⟩
  · exact ⟨⟨isBland_ofList (by decide), isBland_toString _⟩, isBland_ofList (by decide)⟩

/-- A level and a place behind it, with texts around them. -/
theorem isBland_levelAndPlace (d : Diagnostic) {front first second behind : String}
    (hfront : IsBland front.toList) (hfirst : IsBland first.toList)
    (hsecond : IsBland second.toList) (hbehind : IsBland behind.toList) :
    IsBland (front ++ d.level.name ++ first ++ toString d.line ++ second ++
      toString d.column ++ behind).toList := by
  simp only [isBland_toList_append]
  exact ⟨⟨⟨⟨⟨⟨hfront, d.level.isBland_name⟩, hfirst⟩, isBland_toString _⟩, hsecond⟩,
    isBland_toString _⟩, hbehind⟩

theorem isHarmless_markdownItem {d : Diagnostic} (h : d.HasHarmlessWords) :
    IsHarmless (markdown.item d).toList := by
  have hsplit : markdown.item d =
      "- **" ++ d.level.name ++ "** (" ++ toString d.line ++ ":" ++ toString d.column ++ "):" ++
        " " ++ d.message := by
    have hcolon : "): " = "):" ++ " " := by decide
    rw [item, hcolon, ← String.append_assoc]
  rw [hsplit]
  refine isHarmless_behind ?_ h.1
  refine isBland_levelAndPlace d ?_ ?_ ?_ ?_ <;> exact isBland_ofList (by decide)

theorem isHarmless_htmlItem {d : Diagnostic} (h : d.HasHarmlessWords) :
    IsHarmless (html.item d).toList := by
  have hsplit : (html.item d).toList =
      ("  <li class=\"" ++ d.level.name ++ "\" data-line=\"" ++ toString d.line ++
        "\" data-column=\"" ++ toString d.column ++ "\"").toList ++
          '>' :: (d.message.toList ++ '<' :: "/li>".toList) := by
    unfold item
    simp
  have hfront : IsBland ("  <li class=\"" ++ d.level.name ++ "\" data-line=\"" ++
      toString d.line ++ "\" data-column=\"" ++ toString d.column ++ "\"").toList := by
    refine isBland_levelAndPlace d ?_ ?_ ?_ ?_ <;> exact isBland_ofList (by decide)
  have hend : IsBland "/li>".toList := isBland_ofList (by decide)
  rw [hsplit]
  refine hfront.isHarmless.join ?_ (by decide) (by decide)
  exact h.1.join hend.isHarmless (by decide) (by decide)

/-- The lines of a report, without the line feeds at their ends. -/
def lines (format : ReportFormat) (source : String) (v : Verdict) : List (List Char) :=
  match format with
  | .text => v.diagnostics.flatMap (·.linesIn source) ++ [(conclusion v).toList]
  | _ => (format.report source v).map String.toList

theorem lines_html (source : String) (v : Verdict) :
    html.lines source v =
      (["<ul class=\"diagnostics\">"] ++ v.diagnostics.map html.item ++ ["</ul>"]).map
        String.toList :=
  rfl

theorem lines_markdown (source : String) (v : Verdict) :
    markdown.lines source v = (v.diagnostics.map markdown.item).map String.toList :=
  rfl

/-- A report consists of its lines. -/
theorem toList_report (format : ReportFormat) (source : String) (v : Verdict) :
    (String.join ((format.report source v).map (· ++ "\n"))).toList =
      (format.lines source v).flatMap (· ++ ['\n']) := by
  have hitems (items : List String) :
      (String.join (items.map (· ++ "\n"))).toList =
        (items.map String.toList).flatMap (· ++ ['\n']) := by
    rw [String.toList_join, List.flatMap_map, List.flatMap_map]
    exact List.flatMap_congr fun s _ => String.toList_append
  cases format with
  | text =>
      have hshown : v.diagnostics.flatMap (fun d => (d.showIn source ++ "\n").toList) =
          (v.diagnostics.flatMap (·.linesIn source)).flatMap (· ++ ['\n']) := by
        rw [List.flatMap_assoc]
        exact List.flatMap_congr fun d _ => d.toList_showIn source
      have hlast : (conclusion v ++ "\n").toList = (conclusion v).toList ++ ['\n'] :=
        String.toList_append
      rw [String.toList_join, List.flatMap_map, report, lines, List.flatMap_append,
        List.flatMap_append, List.flatMap_map, hshown, List.flatMap_singleton,
        List.flatMap_singleton, hlast]
  | json => exact hitems _
  | html => exact hitems _
  | markdown => exact hitems _

theorem diagnostics_rendered (s : Surface) (most : Nat) (v : Verdict) :
    (v.rendered s most).diagnostics = v.diagnostics.map (·.rendered s most) :=
  List.map_append.symm

/-- The lines of a report are harmless, but for the lines that the text format quotes. -/
theorem forall_lines_iff {format : ReportFormat} (hformat : format ≠ .json) {v : Verdict}
    (hv : v.IsVisible) (source : String) (most : Nat) :
    (∀ line ∈ format.lines source (v.rendered format.surface most), IsHarmless line) ↔
      (format = .text → ∀ d ∈ v.diagnostics, ∀ line ∈ d.sourceLine? source, IsHarmless line) := by
  have hwords : ∀ d ∈ (v.rendered format.surface most).diagnostics, d.HasHarmlessWords := by
    rw [diagnostics_rendered]
    exact List.forall_mem_map.mpr fun d hd =>
      Diagnostic.hasHarmlessWords_rendered (hv d hd) most format
  have hitems {g : Diagnostic → String}
      (hg : ∀ d : Diagnostic, d.HasHarmlessWords → IsHarmless (g d).toList) :
      ∀ s ∈ (v.rendered format.surface most).diagnostics.map g, IsHarmless s.toList :=
    List.forall_mem_map.mpr fun d hd => hg d (hwords d hd)
  cases format with
  | json => exact absurd rfl hformat
  | text =>
      have hdiagnostic : ∀ d ∈ (v.rendered text.surface most).diagnostics,
          ((∀ line ∈ d.linesIn source, IsHarmless line) ↔
            ∀ line ∈ d.sourceLine? source, IsHarmless line) :=
        fun d hd => Diagnostic.forall_linesIn_iff (hwords d hd)
      rw [lines, List.forall_mem_append, List.forall_mem_flatMap, forall₂_congr hdiagnostic,
        diagnostics_rendered, List.forall_mem_map, List.forall_mem_singleton]
      simp only [Diagnostic.sourceLine?_rendered, forall_const]
      constructor
      · exact fun h => h.1
      · exact fun h => ⟨h, isHarmless_conclusion _⟩
  | html =>
      refine ⟨fun _ htext => absurd htext (by decide), fun _ => ?_⟩
      rw [lines_html, List.forall_mem_map, List.forall_mem_append, List.forall_mem_append]
      have hstart : IsBland "<ul class=\"diagnostics\">".toList := isBland_ofList (by decide)
      have hend : IsBland "</ul>".toList := isBland_ofList (by decide)
      refine ⟨⟨?_, hitems fun d => isHarmless_htmlItem⟩, ?_⟩
      · exact List.forall_mem_singleton.mpr hstart.isHarmless
      · exact List.forall_mem_singleton.mpr hend.isHarmless
  | markdown =>
      refine ⟨fun _ htext => absurd htext (by decide), fun _ => ?_⟩
      rw [lines_markdown, List.forall_mem_map]
      exact hitems fun d => isHarmless_markdownItem

end ReportFormat

/-- Checking a rule prints lines, each with a line feed at its end.  No other character
acts on a display and no service key is printed, whatever the rule holds, exactly when
this is true of the lines that the text format quotes from the rule. -/
theorem checkCommand_isHarmless_iff {format : ReportFormat} (hformat : format ≠ .json)
    (config : Config) (source : String) :
    let v := check config.limits source
    let lines := format.lines source (v.rendered format.surface config.limits.maxMessageLength)
    let printed := (checkCommand config format source).output.toList
    printed = lines.flatMap (· ++ ['\n']) ∧
      ((∀ line ∈ lines, Visible line) ∧ Keyless printed ↔
        (format = .text →
          ∀ d ∈ v.diagnostics, ∀ line ∈ d.sourceLine? source, Visible line ∧ Keyless line)) := by
  intro v lines printed
  have hprinted : printed = lines.flatMap (· ++ ['\n']) := format.toList_report source _
  have hlines := format.forall_lines_iff hformat (isVisible_check config.limits source) source
    config.limits.maxMessageLength
  refine ⟨hprinted, ?_⟩
  rw [hprinted]
  constructor
  · rintro ⟨hvisible, hkeyless⟩ htext d hd line hline
    have hall : ∀ line ∈ lines, IsHarmless line := fun line hmem =>
      ⟨hvisible line hmem, hkeyless.of_isInfix (infix_lines hmem)⟩
    have hquoted := hlines.mp hall htext d hd line hline
    exact ⟨hquoted.visible, hquoted.keyless⟩
  · intro hquoted
    have hall : ∀ line ∈ lines, IsHarmless line := by
      refine hlines.mpr fun htext d hd line hline => ?_
      obtain ⟨hvisible, hkeyless⟩ := hquoted htext d hd line hline
      exact ⟨hvisible, hkeyless⟩
    exact ⟨fun line hmem => (hall line hmem).visible,
      keyless_lines fun line hmem => (hall line hmem).keyless⟩

/-- A page about a rule shows no key of the rule. -/
theorem keyless_checkCommand_html :
    ReportFormat.html ≠ .json ∧
      Keyless
        (checkCommand {} .html "trace.has(a.b).where(key == sk_live_abc123)").output.toList := by
  have hformat : ReportFormat.html ≠ .json := by decide
  obtain ⟨-, hiff⟩ :=
    checkCommand_isHarmless_iff hformat {} "trace.has(a.b).where(key == sk_live_abc123)"
  exact ⟨hformat, (hiff.mpr fun htext => absurd htext (by decide)).2⟩

/-! ## Quoted lines -/

/-- The text format prints the line that a diagnostic is about as it is. -/
theorem infix_checkCommand_text {config : Config} {source : String} {d : Diagnostic}
    (hd : d ∈ (check config.limits source).diagnostics) {line : List Char}
    (hline : d.sourceLine? source = some line) :
    line <:+: (checkCommand config .text source).output.toList := by
  have hprinted := ReportFormat.text.toList_report source
    ((check config.limits source).rendered .plain config.limits.maxMessageLength)
  have hexcerpt : (' ' :: ' ' :: line) ∈
      (d.rendered .plain config.limits.maxMessageLength).linesIn source := by
    refine List.mem_cons_of_mem _ (List.mem_append_left _ ?_)
    rw [Diagnostic.excerptLines, Diagnostic.sourceLine?_rendered, hline]
    exact List.mem_cons_self
  have hmem : (' ' :: ' ' :: line) ∈ ReportFormat.text.lines source
      ((check config.limits source).rendered .plain config.limits.maxMessageLength) := by
    refine List.mem_append_left _ (List.mem_flatMap.mpr ⟨_, ?_, hexcerpt⟩)
    rw [ReportFormat.diagnostics_rendered]
    exact List.mem_map_of_mem hd
  have hquoted : line <:+: ' ' :: ' ' :: line := (List.suffix_append [' ', ' '] line).isInfix
  exact hquoted.trans (hprinted ▸ infix_lines hmem)

/-- A key that stands in the place of a value is hidden in the message, and printed in
the line below. -/
theorem key_printed_in_excerpt :
    ¬ Keyless
      (checkCommand {} .text "trace.has(a.b).where(key == sk_live_abc123)").output.toList := by
  have hfound : ((check {} "trace.has(a.b).where(key == sk_live_abc123)").diagnostics.any fun d =>
      d.sourceLine? "trace.has(a.b).where(key == sk_live_abc123)" =
        some "trace.has(a.b).where(key == sk_live_abc123)".toList) = true := by
    decide +kernel
  obtain ⟨d, hd, hline⟩ := List.any_eq_true.mp hfound
  have hquoted := @infix_checkCommand_text {} _ _ hd _ (of_decide_eq_true hline)
  have hkey : IsApiKey "sk_live_abc123".toList :=
    ⟨"sk", by decide, "live", by decide, "abc123".toList, by decide, by decide, by decide⟩
  have hstands :
      "sk_live_abc123".toList <:+: "trace.has(a.b).where(key == sk_live_abc123)".toList := by
    rw [String.toList_ofList, String.toList_ofList]
    decide
  exact fun hkeyless => hkeyless _ hkey (hstands.trans hquoted)

end TraceCheck
