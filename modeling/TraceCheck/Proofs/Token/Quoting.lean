import TraceCheck.Proofs.Grammar.Trailing

/-!
# Words in messages

The message about a character that begins no token quotes the word around the character,
the longest part of the text around it without a blank.  A word that is kept from an
earlier error is quoted as it would be if no word were kept, whatever lies in between.
-/

namespace TraceCheck

open TraceCheck.Text

/-! ## Words and their quotes -/

/-- In a text `before ++ c :: behind` the part `left ++ c :: right` is the longest one around
the character that has no blank. -/
structure IsWordAround (before : List Char) (c : Char) (behind left right : List Char) :
    Prop where
  left_suffix : left <:+ before
  right_prefix : right <+: behind
  unbroken : ∀ d ∈ left ++ c :: right, isBlank d = false
  longest : ∀ left' right', left' <:+ before → right' <+: behind →
    (∀ d ∈ left' ++ c :: right', isBlank d = false) → left' <:+ left ∧ right' <+: right

/-- A diagnostic says that a character begins no token. -/
def Diagnostic.IsUnexpectedCharacter (d : Diagnostic) : Prop :=
  ∃ shown word isAssignment,
    d.message = (LexicalError.unexpectedCharacter shown word isAssignment).message

/-- A diagnostic is placed at a character of a text and quotes it with the word around it. -/
structure Diagnostic.QuotesWord (d : Diagnostic) (source : String) (before : List Char) (c : Char)
    (behind : List Char) : Prop where
  text : source.toList = before ++ c :: behind
  line : d.line = lineBehind before
  column : d.column = columnBehind before
  message : ∃ left right, IsWordAround before c behind left right ∧
    d.message = "Unexpected character '" ++ Redaction.displaySafe (String.singleton c) 60 ++
      "' in '" ++ Redaction.displaySafe (String.ofList (left ++ c :: right)) 60 ++ "'"

/-- The error of a tile is about an unexpected character exactly when the tile is a stray
character, which it then quotes. -/
structure Tile.IsQuotedIn (source : String) (d : Diagnostic) (x : Tile) : Prop where
  stray_iff : d.IsUnexpectedCharacter ↔ ∃ c, x.lexeme = .stray c
  quotes : ∀ c, x.lexeme = .stray c → d.QuotesWord source x.before c x.behind

/-- The errors of a text quote its words: each quotes the word around its own place, and all
together are what each lexeme reports when no word is kept for it. -/
structure QuotesWords (l : Limits) (source : String) (errors : List Diagnostic)
    (tiles : List Tile) : Prop where
  tiling : Tiling [] source.toList tiles
  quoted : List.Forall₂ (Tile.IsQuotedIn source) errors (tiles.filter (·.isFaulty l))
  afresh : errors = (lexemes source.toList).1.flatMap fun z => lexicalErrors l [z] none []

variable {l : Limits} {source : String} {x : Tile} {d : Diagnostic}

/-! ## Words around characters -/

theorem runBehind_suffix (before : List Char) : runBehind before <:+ before := by
  rw [← List.reverse_prefix, runBehind, List.reverse_reverse]
  exact List.takeWhile_prefix _

/-- The runs without blanks on both sides of a character make up the word around it. -/
theorem isWordAround_runBehind (before : List Char) {c : Char} (hc : isBlank c = false)
    (behind : List Char) :
    IsWordAround before c behind (runBehind before)
      (behind.takeWhile fun d => !isBlank d) where
  left_suffix := runBehind_suffix before
  right_prefix := List.takeWhile_prefix _
  unbroken := by
    refine List.forall_mem_append.mpr ⟨fun d hd => ?_, List.forall_mem_cons.mpr ⟨hc, ?_⟩⟩
    · exact isBlank_of_mem_takeWhile (List.mem_reverse.mp hd)
    · exact fun d hd => isBlank_of_mem_takeWhile hd
  longest := by
    rintro left' right' ⟨front, rfl⟩ ⟨back, rfl⟩ hunbroken
    obtain ⟨hleft, hright⟩ := List.forall_mem_append.mp hunbroken
    rw [runBehind_append front hleft,
      takeWhile_append_of_unbroken (List.forall_mem_cons.mp hright).2]
    exact ⟨List.suffix_append _ _, List.prefix_append _ _⟩

/-- The word of a stray tile. -/
theorem Tile.word_of_stray {c : Char} (hchars : x.chars = [c]) (hc : isBlank c = false) :
    x.word = runBehind x.before ++ c :: x.behind.takeWhile fun d => !isBlank d := by
  rw [word, hchars, List.singleton_append, List.takeWhile_cons_of_pos (by rw [hc]; rfl)]

/-! ## Errors of tiles -/

/-- Only messages about unexpected characters read like one. -/
theorem LexicalError.eq_of_message_eq {e : LexicalError} {shown word : String}
    {isAssignment : Bool}
    (h : e.message = (LexicalError.unexpectedCharacter shown word isAssignment).message) :
    ∃ shown' word' isAssignment', e = .unexpectedCharacter shown' word' isAssignment' := by
  have hopens := opens_message (.unexpectedCharacter shown word isAssignment)
  cases e with
  | unexpectedCharacter shown' word' isAssignment' => exact ⟨_, _, _, rfl⟩
  | _ => exact absurd h ((opens_message _).ne hopens (by simp [opening]) (by simp [opening]))

theorem LexicalError.message_diagnostic (e : LexicalError) (line column length : Nat) :
    (e.diagnostic line column length).message = e.message := by
  cases e <;> rfl

/-- A lexeme is at fault with an unexpected character exactly when it is one. -/
theorem Located.exists_stray_iff {z : Located} {e : LexicalError} (he : z.error? l = some e) :
    (∃ shown word isAssignment, e = .unexpectedCharacter shown word isAssignment) ↔
      ∃ c, z.lexeme = .stray c := by
  unfold error? at he
  constructor
  · rintro ⟨shown, word, isAssignment, rfl⟩
    split at he
    next => split at he <;> cases he
    next => split at he <;> cases he
    next => cases he
    next c hstray => exact ⟨c, hstray⟩
    next => cases he
  · rintro ⟨c, hstray⟩
    rw [hstray] at he
    exact ⟨_, _, _, (Option.some.inj he).symm⟩

/-- A tile is at fault when its lexeme has a diagnostic. -/
theorem Tile.isFaulty_eq_isSome (x : Tile) :
    x.isFaulty l = (x.located.diagnostic? l).isSome := by
  obtain ⟨lexeme, before, chars, behind⟩ := x
  rw [Located.diagnostic?, Option.isSome_map]
  unfold isFaulty Located.error? located
  cases lexeme with
  | word =>
      by_cases hlong : l.maxIdentifierLength < chars.length
      · simp [hlong]
      · simp [hlong]
  | string content =>
      by_cases hlong : l.maxStringLength < content.length
      · simp [hlong]
      · simp [hlong]
  | _ => rfl

/-- The diagnostic of a tile quotes the tile. -/
theorem Tile.isQuotedIn_of_diagnostic?
    (htext : source.toList = x.before ++ x.chars ++ x.behind)
    (hspans : x.lexeme.Spans x.chars x.behind) (hd : x.located.diagnostic? l = some d) :
    x.IsQuotedIn source d := by
  obtain ⟨e, he, rfl⟩ := Option.map_eq_some_iff.mp hd
  have hplace := x.standsBehind_place
  have hmessage : (x.located.diagnose e).message = e.message := e.message_diagnostic _ _ _
  constructor
  · refine Iff.trans ⟨?_, ?_⟩ (Located.exists_stray_iff he)
    · rintro ⟨shown, word, isAssignment, h⟩
      exact LexicalError.eq_of_message_eq (hmessage.symm.trans h)
    · rintro ⟨shown, word, isAssignment, rfl⟩
      exact ⟨_, _, _, hmessage⟩
  · intro c hstray
    have hlexeme : x.located.lexeme = .stray c := hstray
    rw [hstray] at hspans
    obtain ⟨hchars, hc⟩ := hspans
    rw [Located.error?, hlexeme] at he
    obtain rfl := Option.some.inj he
    refine ⟨?_, hplace.line, hplace.column, _, _, isWordAround_runBehind x.before hc.blank _, ?_⟩
    · rw [htext, hchars, List.append_assoc]
      rfl
    · rw [hmessage, x.shownWord_located, Tile.word_of_stray hchars hc.blank]
      rfl

/-! ## Errors of a text -/

/-- What is read off some of the elements of a list is related to them in their order. -/
theorem forall₂_filterMap_filter {α β : Type} {r : β → α → Prop} {f : α → Option β}
    {xs : List α} (h : ∀ x ∈ xs, ∀ y, f x = some y → r y x) :
    List.Forall₂ r (xs.filterMap f) (xs.filter fun x => (f x).isSome) := by
  induction xs with
  | nil => exact .nil
  | cons x xs ih =>
      obtain ⟨hx, hxs⟩ := List.forall_mem_cons.mp h
      cases hf : f x with
      | none =>
          rw [List.filterMap_cons_none hf, List.filter_cons_of_neg (by rw [hf]; nofun)]
          exact ih hxs
      | some y =>
          rw [List.filterMap_cons_some hf, List.filter_cons_of_pos (by rw [hf]; rfl)]
          exact .cons (hx y hf) (ih hxs)

/-- A lexeme for which no word is kept reports its own error. -/
theorem lexicalErrors_singleton (z : Located) :
    lexicalErrors l [z] none [] = (z.diagnostic? l).toList := by
  rw [lexicalErrors_eq_filterMap none [] nofun (List.pairwise_singleton _ z),
    List.filterMap_eq_flatMap_toList, List.flatMap_singleton]
  rfl

/-- The errors of every text that is short enough quote its words. -/
theorem exists_quotesWords (hbudget : l.expired = false)
    (hsize : source.utf8ByteSize ≤ l.maxTotalLength) :
    ∃ tiles, QuotesWords l source (tokenize l source).errors tiles := by
  obtain ⟨tiles, htiling⟩ := exists_tiling [] source.toList
  refine ⟨tiles, htiling, ?_, ?_⟩
  · rw [tokenize_of_tiling hbudget hsize htiling,
      List.filter_congr fun x _ => Tile.isFaulty_eq_isSome x]
    refine forall₂_filterMap_filter fun x hx d hd => ?_
    obtain ⟨htext, hspans, -⟩ := htiling.part x hx
    exact Tile.isQuotedIn_of_diagnostic? htext hspans hd
  · rw [tokenize_of_tiling hbudget hsize htiling, lexemes_eq_map_located htiling,
      List.flatMap_map]
    simp only [lexicalErrors_singleton]
    exact List.filterMap_eq_flatMap_toList _ _

/-- Two stray characters of one word, which goes on into a string with a blank in it, and one
behind the string, with a comment in its word. -/
theorem exists_quotesWords_brokenString :
    ({} : Limits).expired = false ∧
      "é@\"b c\"@//@".utf8ByteSize ≤ ({} : Limits).maxTotalLength ∧
      ∃ tiles, QuotesWords {} "é@\"b c\"@//@" (tokenize {} "é@\"b c\"@//@").errors tiles := by
  have hbudget : ({} : Limits).expired = false := by decide
  have hsize : "é@\"b c\"@//@".utf8ByteSize ≤ ({} : Limits).maxTotalLength := by decide
  exact ⟨hbudget, hsize, exists_quotesWords hbudget hsize⟩

example : (tokenize {} "é@\"b c\"@//@").errors.map (·.message) =
    ["Unexpected character 'é' in 'é@\"b'", "Unexpected character '@' in 'é@\"b'",
      "Unexpected character '@' in 'c\"@//@'"] := by
  decide +kernel

end TraceCheck
