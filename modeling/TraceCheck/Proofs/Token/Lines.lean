import TraceCheck.Proofs.Token.Places

/-!
# Tokens line by line

A line feed ends every lexeme but a string, so what stands in front of it and what stands
behind it are cut into tiles independently.  A tile in front of a line feed says what it
says at the end of a text, and a tile behind it what it says at the start of one, further
down.
-/

namespace TraceCheck

open TraceCheck.Text

variable {l : Limits} {before cs behind : List Char} {tiles tiles' : List Tile}

/-! ## Tiles in front of a line feed -/

theorem prefix_of_prefix_line {w u : List Char} {rest : List Char} (hw : '\n' ∉ w)
    (h : w <+: u ++ '\n' :: rest) : w <+: u := by
  rcases List.prefix_or_prefix_of_prefix h (List.prefix_append u _) with hshort | ⟨v, rfl⟩
  · exact hshort
  · have hv := (List.prefix_append_right_inj u).mp h
    cases v with
    | nil => rw [List.append_nil]
    | cons c v =>
        obtain ⟨rfl, -⟩ := List.cons_prefix_cons.mp hv
        exact absurd (List.mem_append_right u List.mem_cons_self) hw

theorem forall_head?_append_line {p : Char → Prop} (rest : List Char)
    (h : ∀ c ∈ behind.head?, p c) (hline : p '\n') :
    ∀ c ∈ (behind ++ '\n' :: rest).head?, p c := by
  cases behind with
  | nil => exact fun c hc => Option.some_inj.mp hc ▸ hline
  | cons d ds => exact h

theorem Decimal.Numeral.not_mem_line (h : Decimal.Numeral cs) : '\n' ∉ cs := by
  have hdigits {ds : List Char} (hds : ∀ c ∈ ds, Decimal.isDigit c = true) : '\n' ∉ ds :=
    fun hmem => absurd (hds '\n' hmem) (by decide)
  cases h with
  | whole _ _ hds => exact hdigits hds
  | fraction ds fs hds hfs =>
      intro hmem
      rcases List.mem_append.mp hmem with hmem | hmem
      · exact hdigits hds hmem
      · rcases List.mem_cons.mp hmem with heq | hmem
        · cases heq
        · exact hdigits hfs hmem

theorem Lexeme.not_mem_line_of_mem_marks : ∀ k ∈ Lexeme.marks, '\n' ∉ k.literal.toList := by
  decide

/-- A tile that is no open string takes as much in front of a line feed. -/
theorem Lexeme.Spans.append_line {x : Lexeme} (h : x.Spans cs behind) (hx : x ≠ .openString)
    (rest : List Char) : x.Spans cs (behind ++ '\n' :: rest) := by
  cases x with
  | blank => exact h
  | string content => exact h
  | openString => exact absurd rfl hx
  | comment => exact ⟨h.start, h.chars, forall_head?_append_line rest h.stops rfl⟩
  | word => exact ⟨h.start, h.nonempty, h.chars, forall_head?_append_line rest h.stops (by decide)⟩
  | number =>
      refine ⟨h.numeral, fun more hmore hprefix hlonger => ?_⟩
      have hline : '\n' ∉ more := fun hmem =>
        hlonger.not_mem_line (List.mem_append_right cs hmem)
      exact h.longest more hmore (prefix_of_prefix_line hline hprefix) hlonger
  | symbol kind =>
      refine ⟨h.mem, h.chars, fun k hk hprefix => ?_⟩
      rw [← List.append_assoc] at hprefix
      exact h.longest k hk (prefix_of_prefix_line (not_mem_line_of_mem_marks k hk) hprefix)
  | stray c =>
      obtain ⟨hcs, hstray⟩ := h
      refine ⟨hcs, hstray.blank, hstray.word, hstray.digit, hstray.quote, ?_, ?_⟩
      · rw [← List.cons_append]
        exact fun hprefix => hstray.comment (prefix_of_prefix_line (by decide) hprefix)
      · intro k hk
        rw [← List.cons_append]
        exact fun hprefix =>
          hstray.mark k hk (prefix_of_prefix_line (not_mem_line_of_mem_marks k hk) hprefix)

namespace Tile

/-- A tile with more behind its text. -/
def inFrontOf (more : List Char) (x : Tile) : Tile :=
  { x with behind := x.behind ++ more }

/-- A tile with another text and a line feed in front of its text. -/
def behindLine (front : List Char) (x : Tile) : Tile :=
  { x with before := front ++ '\n' :: x.before }

end Tile

/-- A text without an open string keeps its tiles in front of a line feed. -/
theorem Tiling.append_line (h : Tiling before cs tiles)
    (hclosed : ∀ x ∈ tiles, x.lexeme ≠ .openString) {rest : List Char}
    (hrest : Tiling (before ++ cs) ('\n' :: rest) tiles') :
    Tiling before (cs ++ '\n' :: rest) (tiles.map (·.inFrontOf ('\n' :: rest)) ++ tiles') := by
  induction h with
  | nil before => rwa [List.append_nil] at hrest
  | cons hspans _ ih =>
      obtain ⟨hx, hall⟩ := List.forall_mem_cons.mp hclosed
      rw [← List.append_assoc] at hrest
      rw [List.append_assoc]
      exact .cons (hspans.append_line hx rest) (ih hall hrest)

/-- A text keeps its tiles behind another text and a line feed. -/
theorem Tiling.behindLine (h : Tiling before cs tiles) (front : List Char) :
    Tiling (front ++ '\n' :: before) cs (tiles.map (·.behindLine front)) := by
  induction h with
  | nil before => exact .nil _
  | cons hspans _ ih =>
      rw [← List.cons_append, ← List.append_assoc] at ih
      exact .cons hspans ih

/-- The tile of a line feed. -/
def Tile.lineFeed (before behind : List Char) : Tile :=
  ⟨.blank, before, ['\n'], behind⟩

/-- Two texts with a line feed between them are cut one after the other. -/
theorem Tiling.lines {a b : List Char} (ha : Tiling [] a tiles) (hb : Tiling [] b tiles')
    (hclosed : ∀ x ∈ tiles, x.lexeme ≠ .openString) :
    Tiling [] (a ++ '\n' :: b)
      (tiles.map (·.inFrontOf ('\n' :: b)) ++ .lineFeed a b :: tiles'.map (·.behindLine a)) :=
  have hfeed : Lexeme.Spans .blank ['\n'] b := ⟨'\n', rfl, rfl⟩
  ha.append_line hclosed (.cons hfeed (hb.behindLine a))

/-! ## What moved tiles say -/

/-- A token some lines further down. -/
def Token.movedDown (n : Nat) (t : Token) : Token :=
  { t with line := t.line + n }

/-- A diagnostic about a range some lines further down. -/
def Diagnostic.movedDown (n : Nat) (d : Diagnostic) : Diagnostic :=
  { d with line := d.line + n, endLine := d.endLine + n }

/-- A lexeme is another one some lines further down, in the same word. -/
structure Located.IsBelow (n : Nat) (x y : Located) : Prop where
  lexeme : x.lexeme = y.lexeme
  chars : x.chars = y.chars
  line : x.start.line = y.start.line + n
  column : x.start.column = y.start.column
  shownWord : x.shownWord = y.shownWord

theorem Located.IsBelow.token? {n : Nat} {x y : Located} (h : x.IsBelow n y) :
    x.token? l = (y.token? l).map (·.movedDown n) := by
  have htoken (kind : TokenKind) (text : List Char) :
      x.toToken kind text = (y.toToken kind text).movedDown n := by
    rw [toToken, toToken, h.line, h.column, h.chars]
    rfl
  unfold Located.token?
  rw [h.lexeme, h.chars]
  split
  · split
    · rw [htoken]
      rfl
    · rw [htoken]
      rfl
  · rw [htoken]
    rfl
  · rw [htoken]
    rfl
  · rw [htoken]
    rfl
  · rfl

theorem Located.IsBelow.diagnostic? {n : Nat} {x y : Located} (h : x.IsBelow n y) :
    x.diagnostic? l = (y.diagnostic? l).map (·.movedDown n) := by
  have herror : x.error? l = y.error? l := by
    unfold error?
    rw [h.lexeme, h.chars, h.shownWord]
  unfold Located.diagnostic?
  rw [herror]
  cases he : y.error? l with
  | none => rfl
  | some e =>
      have hfatal : e.isFatal = false := by
        unfold error? at he
        split at he
        · split at he <;> cases he; rfl
        · split at he <;> cases he; rfl
        · cases he; rfl
        · cases he; rfl
        · cases he
      simp only [Option.map_some, Located.diagnose, LexicalError.diagnostic, hfatal]
      rw [h.line, h.column, h.chars]
      rfl

theorem takeWhile_append_line {p : Char → Bool} (hline : p '\n' = false) (u rest : List Char) :
    (u ++ '\n' :: rest).takeWhile p = u.takeWhile p := by
  rw [List.takeWhile_append, List.takeWhile_cons_of_neg (by rw [hline]; nofun), List.append_nil]
  split
  next hall => rw [(List.takeWhile_prefix p).eq_of_length hall]
  next => rfl

theorem Tile.isBelow_inFrontOf (x : Tile) (rest : List Char) :
    (x.inFrontOf ('\n' :: rest)).located.IsBelow 0 x.located := by
  have hplace := x.standsBehind_place
  have hplace' := (x.inFrontOf ('\n' :: rest)).standsBehind_place
  have hword : (x.inFrontOf ('\n' :: rest)).word = x.word := by
    have hrun := takeWhile_append_line (p := fun c => !isBlank c) rfl (x.chars ++ x.behind) rest
    rw [List.append_assoc] at hrun
    exact congrArg (runBehind x.before ++ ·) hrun
  refine ⟨rfl, rfl, hplace'.line.trans hplace.line.symm, hplace'.column.trans hplace.column.symm, ?_⟩
  rw [shownWord_located, shownWord_located, hword]

theorem lineBehind_behindLine (front before : List Char) :
    lineBehind (front ++ '\n' :: before) = lineBehind before + (front.count '\n' + 1) := by
  unfold lineBehind
  rw [List.count_append, List.count_cons_self]
  omega

theorem columnBehind_behindLine (front before : List Char) :
    columnBehind (front ++ '\n' :: before) = columnBehind before := by
  unfold columnBehind
  rw [List.reverse_append, List.reverse_cons, List.append_assoc, List.singleton_append,
    takeWhile_append_line rfl]

theorem Tile.isBelow_behindLine (x : Tile) (front : List Char) :
    (x.behindLine front).located.IsBelow (front.count '\n' + 1) x.located := by
  have hplace := x.standsBehind_place
  have hplace' := (x.behindLine front).standsBehind_place
  have hword : (x.behindLine front).word = x.word := by
    rw [word, word, behindLine, runBehind_append_blank front rfl]
  refine ⟨rfl, rfl, ?_, ?_, ?_⟩
  · exact hplace'.line.trans ((lineBehind_behindLine front x.before).trans
      (congrArg (· + _) hplace.line.symm))
  · exact hplace'.column.trans ((columnBehind_behindLine front x.before).trans hplace.column.symm)
  · rw [shownWord_located, shownWord_located, hword]

/-! ## Two texts -/

/-- A text whose errors do not complain about an open string has none. -/
theorem not_openString_of_mem {source : String} (hbudget : l.expired = false)
    (hsize : source.utf8ByteSize ≤ l.maxTotalLength) (h : Tiling [] source.toList tiles)
    (hclosed : ∀ d ∈ (tokenize l source).errors,
      d.message ≠ LexicalError.unterminatedString.message) :
    ∀ x ∈ tiles, x.lexeme ≠ .openString := by
  intro x hx hopen
  have hdiagnostic : x.located.diagnostic? l =
      some (x.located.diagnose .unterminatedString) := by
    rw [Located.diagnostic?, Located.error?, Tile.located, hopen]
    rfl
  have hmem : x.located.diagnose .unterminatedString ∈ (tokenize l source).errors := by
    rw [tokenize_of_tiling hbudget hsize h]
    exact List.mem_filterMap.mpr ⟨x, hx, hdiagnostic⟩
  exact hclosed _ hmem rfl

/-- What is read off the tiles of two lines is read off those of each. -/
theorem filterMap_lines {γ : Type} {a b : List Char} (f : Tile → Option γ) (down : γ → γ)
    (hfeed : f (.lineFeed a b) = none) (hahead : ∀ x, f (x.inFrontOf ('\n' :: b)) = f x)
    (hbehind : ∀ x, f (x.behindLine a) = (f x).map down) (tiles tiles' : List Tile) :
    (tiles.map (·.inFrontOf ('\n' :: b)) ++
        .lineFeed a b :: tiles'.map (·.behindLine a)).filterMap f =
      tiles.filterMap f ++ (tiles'.filterMap f).map down := by
  rw [List.filterMap_append, List.filterMap_cons_none hfeed, List.filterMap_map,
    List.filterMap_map, List.map_filterMap]
  exact congrArg₂ _ (List.filterMap_congr fun x _ => hahead x)
    (List.filterMap_congr fun x _ => hbehind x)

/-- Texts are read line by line.  When the first of two texts leaves no string open, the two
with a line feed between them have the tokens of the first one but the last, which marks its
end, and then those of the second one, and likewise the errors.  What is said about the second
text is moved down by the lines of the first one and is the same otherwise. -/
theorem tokenize_lines (l : Limits) (a b : String) (hbudget : l.expired = false)
    (hsize : a.utf8ByteSize + 1 + b.utf8ByteSize ≤ l.maxTotalLength)
    (hclosed : ∀ d ∈ (tokenize l a).errors,
      d.message ≠ LexicalError.unterminatedString.message) :
    ∃ body stop, stop.kind = .eof ∧ (tokenize l a).tokens = body ++ [stop] ∧
      tokenize l (a ++ "\n" ++ b) =
        { tokens := body ++
            (tokenize l b).tokens.map (·.movedDown (a.toList.count '\n' + 1))
          errors := (tokenize l a).errors ++
            (tokenize l b).errors.map (·.movedDown (a.toList.count '\n' + 1))
          fatal := false } := by
  have hbytes : (a ++ "\n" ++ b).utf8ByteSize = a.utf8ByteSize + 1 + b.utf8ByteSize := by
    rw [String.utf8ByteSize_append, String.utf8ByteSize_append]
    rfl
  have htext : (a ++ "\n" ++ b).toList = a.toList ++ '\n' :: b.toList := by
    rw [String.toList_append, String.toList_append, List.append_assoc]
    rfl
  have hasize : a.utf8ByteSize ≤ l.maxTotalLength := by omega
  have hbsize : b.utf8ByteSize ≤ l.maxTotalLength := by omega
  obtain ⟨tiles, ha⟩ := exists_tiling [] a.toList
  obtain ⟨tiles', hb⟩ := exists_tiling [] b.toList
  have hlines := ha.lines hb (not_openString_of_mem hbudget hasize ha hclosed)
  refine ⟨_, _, rfl, by rw [tokenize_of_tiling hbudget hasize ha], ?_⟩
  have htokens := filterMap_lines (·.located.token? l) (·.movedDown (a.toList.count '\n' + 1))
    rfl (fun x => (x.isBelow_inFrontOf b.toList).token?.trans Option.map_id')
    (fun x => (x.isBelow_behindLine a.toList).token?) tiles tiles'
  have herrors := filterMap_lines (·.located.diagnostic? l)
    (·.movedDown (a.toList.count '\n' + 1))
    rfl (fun x => (x.isBelow_inFrontOf b.toList).diagnostic?.trans Option.map_id')
    (fun x => (x.isBelow_behindLine a.toList).diagnostic?) tiles tiles'
  rw [← htext] at hlines
  rw [tokenize_of_tiling hbudget (hbytes.trans_le hsize) hlines,
    tokenize_of_tiling hbudget hasize ha, tokenize_of_tiling hbudget hbsize hb, htext,
    lineBehind_behindLine, columnBehind_behindLine, htokens, herrors, List.map_append,
    List.append_assoc]
  rfl

/-- Two lines that break a word with stray characters, an operator and a comment with a
quote in it; the second one ends in an open string. -/
theorem tokenize_lines_broken :
    let a := "a\nx $é= // \""
    let b := "=é \"\\"
    ({} : Limits).expired = false ∧
      a.utf8ByteSize + 1 + b.utf8ByteSize ≤ ({} : Limits).maxTotalLength ∧
      (∀ d ∈ (tokenize {} a).errors,
        d.message ≠ LexicalError.unterminatedString.message) ∧
      ∃ body stop, stop.kind = .eof ∧ (tokenize {} a).tokens = body ++ [stop] ∧
        tokenize {} (a ++ "\n" ++ b) =
          { tokens := body ++
              (tokenize {} b).tokens.map (·.movedDown (a.toList.count '\n' + 1))
            errors := (tokenize {} a).errors ++
              (tokenize {} b).errors.map (·.movedDown (a.toList.count '\n' + 1))
            fatal := false } := by
  intro a b
  have hbudget : ({} : Limits).expired = false := by decide
  have hsize : a.utf8ByteSize + 1 + b.utf8ByteSize ≤ ({} : Limits).maxTotalLength := by decide
  have hclosed : ∀ d ∈ (tokenize {} a).errors,
      d.message ≠ LexicalError.unterminatedString.message := by
    decide +kernel
  exact ⟨hbudget, hsize, hclosed, tokenize_lines {} a b hbudget hsize hclosed⟩

end TraceCheck
