import TraceCheck.Proofs.Command.Report
import TraceCheck.Proofs.Grammar.Subjects
import TraceCheck.Proofs.Text.Lines
import TraceCheck.Proofs.Token.Faults

/-!
# The lines that diagnostics quote

Every diagnostic about a rule begins where a token or a tile at fault does, at the end of the
text or at its start.  No line feed is next there, so the place lies in a line or directly
behind it, whichever way the line ends.  A report quotes this line with carets that begin at
the place and go no further than the line does.
-/

namespace TraceCheck

open TraceCheck.Text

variable {l : Limits} {cs : List Char} {source : String} {d : Diagnostic}

/-! ## Places -/

/-- A line and a column are those of a place in a text where no line feed is next, or of its
start. -/
def IsPlace (cs : List Char) (line column : Nat) : Prop :=
  ∃ before behind, cs = before ++ behind ∧ line = lineBehind before ∧
    column = columnBehind before ∧ (before = [] ∨ ∀ c ∈ behind.head?, c ≠ '\n')

theorem isPlace_start (cs : List Char) : IsPlace cs 1 1 :=
  ⟨[], cs, rfl, rfl, rfl, .inl rfl⟩

theorem isPlace_end (cs : List Char) : IsPlace cs (lineBehind cs) (columnBehind cs) :=
  ⟨cs, [], (List.append_nil cs).symm, rfl, rfl, .inr nofun⟩

/-- Only a blank begins with a line feed. -/
theorem Lexeme.Spans.head?_ne {x : Lexeme} {chars behind : List Char} (h : x.Spans chars behind)
    (hx : x ≠ .blank) : ∀ c ∈ (chars ++ behind).head?, c ≠ '\n' := by
  obtain ⟨c, chars, rfl⟩ := List.exists_cons_of_ne_nil h.ne_nil
  have hnext := Lexeme.next_of_spans h
  rintro d ⟨⟩ rfl
  have hblank : isBlank '\n' = true := by decide
  unfold Lexeme.next at hnext
  rw [if_pos hblank] at hnext
  injection hnext with hlexeme
  exact hx hlexeme.symm

theorem isPlace_of_tile {tiles : List Tile} (h : Tiling [] cs tiles) {x : Tile} (hx : x ∈ tiles)
    (hblank : x.lexeme ≠ .blank) : IsPlace cs (lineBehind x.before) (columnBehind x.before) := by
  obtain ⟨htext, hspans, -⟩ := h.part x hx
  rw [List.nil_append, List.append_assoc] at htext
  exact ⟨x.before, x.chars ++ x.behind, htext, rfl, rfl, .inr (hspans.head?_ne hblank)⟩

theorem exists_of_forall₂ {α β : Type} {R : α → β → Prop} {xs : List α} {ys : List β}
    (h : List.Forall₂ R xs ys) : ∀ a ∈ xs, ∃ b ∈ ys, R a b := by
  induction h with
  | nil => exact List.forall_mem_nil _
  | cons hab _ ih =>
      refine List.forall_mem_cons.mpr ⟨⟨_, List.mem_cons_self, hab⟩, fun a ha => ?_⟩
      obtain ⟨b, hb, hr⟩ := ih a ha
      exact ⟨b, List.mem_cons_of_mem _ hb, hr⟩

/-- Every token is at a place of the text. -/
theorem isPlace_of_mem_tokens (l : Limits) (source : String) :
    ∀ t ∈ (tokenize l source).tokens, IsPlace source.toList t.line t.column := by
  rcases tokenize_cases l source with ⟨e, hrefused⟩ | ⟨htokens, -⟩
  · rw [hrefused]
    exact List.forall_mem_singleton.mpr (isPlace_start _)
  · obtain ⟨tiles, htiling⟩ := exists_tiling [] source.toList
    obtain ⟨hlexemes, hline, hcolumn⟩ := lexemes_of_tiling htiling
    rw [htokens, hline, hcolumn]
    refine List.forall_mem_append.mpr ⟨fun t ht => ?_, List.forall_mem_singleton.mpr ?_⟩
    · obtain ⟨x, hx, hcovers⟩ := exists_of_forall₂ (covers_filterMap_token? hlexemes
        fun x hx => (htiling.part x hx).2.1) t ht
      obtain ⟨hx, htoken⟩ := List.mem_filter.mp hx
      rw [hcovers.line, hcovers.column]
      refine isPlace_of_tile htiling hx fun hblank => ?_
      rw [Tile.isToken, hblank] at htoken
      cases htoken
    · exact isPlace_end _

theorem eof_mem_tokens (l : Limits) (source : String) :
    ∃ t ∈ (tokenize l source).tokens, t.kind = .eof := by
  rcases tokenize_cases l source with ⟨e, hrefused⟩ | ⟨htokens, -⟩
  · rw [hrefused]
    exact ⟨_, List.mem_cons_self, rfl⟩
  · rw [htokens]
    exact ⟨_, List.mem_append_right _ List.mem_cons_self, rfl⟩

theorem stopToken_mem {tokens : List Token} (h : ∃ t ∈ tokens, t.kind = .eof) :
    stopToken tokens ∈ tokens := by
  obtain ⟨t, ht, hkind⟩ := h
  unfold stopToken
  split
  · next t' hfound => exact List.mem_of_find?_eq_some hfound
  · next hnone _ => exact absurd (decide_eq_true hkind) (List.find?_eq_none.mp hnone t ht)
  · next hnone _ => exact absurd (decide_eq_true hkind) (List.find?_eq_none.mp hnone t ht)

/-! ## Placed diagnostics -/

/-- A diagnostic begins at a place of a text and takes up some columns of one line. -/
structure Diagnostic.IsPlaced (cs : List Char) (d : Diagnostic) : Prop where
  place : IsPlace cs d.line d.column
  endLine : d.endLine = d.line
  endColumn : d.column < d.endColumn

theorem Diagnostic.isPlaced_spanning {line column : Nat} (h : IsPlace cs line column)
    (level : Level) (length : Nat) (message : String) (suggestion : Option String) :
    (Diagnostic.spanning level line column length message suggestion).IsPlaced cs :=
  ⟨h, rfl, Nat.lt_add_of_pos_right (Nat.lt_of_lt_of_le Nat.one_pos (Nat.le_max_right _ _))⟩

theorem Diagnostic.isPlaced_wholeInput (cs : List Char) (message : String)
    (suggestion : Option String) : (Diagnostic.wholeInput message suggestion).IsPlaced cs :=
  isPlaced_spanning (isPlace_start cs) _ _ _ _

theorem LexicalError.isPlaced_diagnostic (e : LexicalError) {line column : Nat}
    (h : IsPlace cs line column) (length : Nat) :
    (e.diagnostic line column length).IsPlaced cs := by
  unfold diagnostic
  split
  · exact Diagnostic.isPlaced_wholeInput cs _ _
  · exact Diagnostic.isPlaced_spanning h _ _ _ _

theorem Finding.isPlaced_diagnostic {f : Finding}
    (hf : f.IsAbout fun t => IsPlace cs t.line t.column) : f.diagnostic.IsPlaced cs := by
  cases f with
  | error e t => exact Diagnostic.isPlaced_spanning hf.place _ _ _ _
  | lint r t length => exact Diagnostic.isPlaced_spanning hf.place _ _ _ _

theorem Tile.IsReported.isPlaced {tiles : List Tile} (h : Tiling [] cs tiles) {x : Tile}
    (hx : x ∈ tiles) (hfaulty : x.isFaulty l = true) (hd : x.IsReported l d) : d.IsPlaced cs where
  place := by
    rw [hd.line, hd.column]
    refine isPlace_of_tile h hx fun hblank => ?_
    rw [isFaulty, hblank] at hfaulty
    cases hfaulty
  endLine := hd.endLine
  endColumn := by
    rw [hd.endColumn]
    exact Nat.lt_add_of_pos_right (byteSize_pos (h.part x hx).2.1.ne_nil)

/-- Every error in the spelling of a text is placed in it. -/
theorem isPlaced_of_mem_errors (l : Limits) (source : String) :
    ∀ d ∈ (tokenize l source).errors, d.IsPlaced source.toList := by
  rcases tokenize_cases l source with ⟨e, hrefused⟩ | ⟨-, herrors⟩
  · rw [hrefused]
    exact List.forall_mem_singleton.mpr (e.isPlaced_diagnostic (isPlace_start _) 1)
  · obtain ⟨tiles, htiling⟩ := exists_tiling [] source.toList
    have hchars : ∀ x ∈ tiles, x.chars ≠ [] := fun x hx => (htiling.part x hx).2.1.ne_nil
    obtain ⟨ds, hds, hreported⟩ :=
      lexicalErrors_of_isAt (l := l) (lexemes_of_tiling htiling).1 hchars none []
    intro d hd
    rw [herrors, hds] at hd
    obtain ⟨x, hx, hreport⟩ := exists_of_forall₂ hreported d hd
    obtain ⟨hx, hfaulty⟩ := List.mem_filter.mp hx
    exact hreport.isPlaced htiling hx hfaulty

theorem isPlaced_of_mem_check (hd : d ∈ (check l source).diagnostics) :
    d.IsPlaced source.toList := by
  have htokens := isPlace_of_mem_tokens l source
  have hstop := htokens _ (stopToken_mem (eof_mem_tokens l source))
  rcases exists_of_mem_check (P := fun t => IsPlace source.toList t.line t.column) htokens hstop
    hd with hd | ⟨e, -, rfl⟩ | ⟨f, hf, rfl⟩
  · exact isPlaced_of_mem_errors l source d hd
  · exact Diagnostic.isPlaced_wholeInput _ _ _
  · exact f.isPlaced_diagnostic hf

/-! ## Excerpts -/

/-- What is printed of a diagnostic, with an excerpt between its heading and its hint. -/
def Diagnostic.shownWith (d : Diagnostic) (excerpt : String) : String :=
  d.heading ++ excerpt ++
    match d.suggestion with
    | some s => "\n  suggestion: " ++ s
    | none => ""

/-- A diagnostic is about a line of a text, and it is shown with this line.  The carets under
the line begin at the column of the diagnostic; they are within the line, or there is one
behind its end.  An empty line at the end of the text is not shown. -/
structure Diagnostic.Quotes (d : Diagnostic) (source : String) (front line behind : List Char) :
    Prop where
  isLine : IsLine source.toList front line behind
  line_eq : d.line = 1 + front.count '\n'
  line_le : d.line ≤ 1 + source.toList.count '\n'
  column_pos : 1 ≤ d.column
  column_le : d.column ≤ 1 + line.length
  endLine : d.endLine = d.line
  endColumn : d.column < d.endColumn
  shown : ¬ (line = [] ∧ behind = []) → ∃ carets, 0 < carets ∧
    (d.column - 1 + carets ≤ line.length ∨ d.column = line.length + 1 ∧ carets = 1) ∧
    d.showIn source = d.shownWith ("\n  " ++ String.ofList line ++ "\n  " ++
      String.ofList (List.replicate (d.column - 1) ' ' ++ List.replicate carets '^'))
  hidden : line = [] ∧ behind = [] → d.showIn source = d.shownWith ""

/-- The carets under a line begin at a column of it or behind its end. -/
theorem Diagnostic.caretCount_bounds {length : Nat} (hpos : 1 ≤ d.column)
    (hle : d.column ≤ 1 + length) : 0 < d.caretCount length ∧
      (d.column - 1 + d.caretCount length ≤ length ∨
        d.column = length + 1 ∧ d.caretCount length = 1) := by
  unfold caretCount
  omega

theorem Diagnostic.showIn_of_sourceLine? {line : List Char}
    (h : d.sourceLine? source = some line) :
    d.showIn source = d.shownWith ("\n  " ++ String.ofList line ++ "\n  " ++
      String.ofList (List.replicate (d.column - 1) ' ' ++
        List.replicate (d.caretCount line.length) '^')) := by
  rw [showIn, h]
  rfl

theorem Diagnostic.showIn_of_no_sourceLine? (h : d.sourceLine? source = none) :
    d.showIn source = d.shownWith "" := by
  rw [showIn, h]
  rfl

/-- A diagnostic that is placed in a text quotes the line of its place. -/
theorem Diagnostic.IsPlaced.exists_quotes (h : d.IsPlaced source.toList) :
    ∃ front line behind, d.Quotes source front line behind := by
  obtain ⟨⟨before, behind, htext, hline, hcolumn, hplace⟩, hendLine, hendColumn⟩ := h
  obtain ⟨front, inside, line, rest, rfl, hinside, hlength, hisLine⟩ := exists_isLine hplace
  rw [← htext] at hisLine
  have hcount : d.line = 1 + front.count '\n' := by
    rw [hline, lineBehind, List.count_append, List.count_eq_zero_of_not_mem hinside, Nat.add_zero]
  have hwidth : d.column = 1 + inside.length := by
    have hall : ∀ c ∈ inside.reverse, (c != '\n') = true := fun c hc =>
      bne_iff_ne.mpr fun heq => hinside (heq ▸ List.mem_reverse.mp hc)
    rw [hcolumn, columnBehind, List.reverse_append, List.takeWhile_append_of_pos hall,
      hisLine.takeWhile_reverse, List.append_nil, List.length_reverse]
  have hpos : 1 ≤ d.column := by omega
  have hle : d.column ≤ 1 + line.length := by omega
  have hquoted : d.sourceLine? source = if line = [] ∧ rest = [] then none else some line := by
    rw [sourceLine?, hcount, Nat.add_sub_cancel_left]
    exact getElem?_lines hisLine
  refine ⟨front, line, rest, hisLine, hcount, ?_, hpos, hle, hendLine, hendColumn,
    fun hshown => ?_, fun hhidden => ?_⟩
  · rw [hcount, htext, List.append_assoc, List.count_append]
    omega
  · rw [if_neg hshown] at hquoted
    obtain ⟨hcarets, hwithin⟩ := caretCount_bounds hpos hle
    exact ⟨_, hcarets, hwithin, showIn_of_sourceLine? hquoted⟩
  · rw [if_pos hhidden] at hquoted
    exact showIn_of_no_sourceLine? hquoted

/-- Every diagnostic about a rule quotes the line that it is about. -/
theorem exists_quotes_of_mem_check (l : Limits) (source : String) :
    ∀ d ∈ (check l source).diagnostics, ∃ front line behind, d.Quotes source front line behind :=
  fun _ hd => (isPlaced_of_mem_check hd).exists_quotes

theorem exists_quotes_behind_return : ∃ d ∈ (check {} "trace.has(a)\r\n  and").diagnostics,
    d.line = 2 ∧ d.column = 6 ∧
      ∃ front line behind, d.Quotes "trace.has(a)\r\n  and" front line behind := by
  have hplaced : ∃ d ∈ (check {} "trace.has(a)\r\n  and").diagnostics,
      d.line = 2 ∧ d.column = 6 := by decide +kernel
  obtain ⟨d, hd, hline, hcolumn⟩ := hplaced
  exact ⟨d, hd, hline, hcolumn, exists_quotes_of_mem_check {} _ d hd⟩

end TraceCheck
