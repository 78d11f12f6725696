import TraceCheck.Proofs.Token.Faults

/-!
# What is read off a tile

The lexemes of a text are its tiles, each with the place that is reached behind what stands
in front of it.  So the tokens and the errors of a text are found tile by tile.  The quoted
form of a word that is kept for further errors is the one that would be made again, because
there is no blank between a place and a later one in front of the end of its word.
-/

namespace TraceCheck

open TraceCheck.Text

variable {l : Limits} {before cs : List Char} {tiles : List Tile} {x y : Tile}

/-! ## Words -/

theorem isBlank_of_mem_takeWhile {cs : List Char} {c : Char}
    (hc : c ∈ cs.takeWhile fun c => !isBlank c) : isBlank c = false := by
  have hpass := List.mem_takeWhile_imp hc
  rwa [Bool.not_eq_true'] at hpass

theorem takeWhile_append_of_unbroken {between : List Char}
    (hbetween : ∀ c ∈ between, isBlank c = false) (behind : List Char) :
    ((between ++ behind).takeWhile fun c => !isBlank c) =
      between ++ behind.takeWhile fun c => !isBlank c :=
  List.takeWhile_append_of_pos fun c hc => by rw [hbetween c hc]; rfl

/-- The characters without blanks at the end of a text. -/
def runBehind (before : List Char) : List Char :=
  (before.reverse.takeWhile fun c => !isBlank c).reverse

/-- Without a blank a run goes on. -/
theorem runBehind_append (before : List Char) {between : List Char}
    (hbetween : ∀ c ∈ between, isBlank c = false) :
    runBehind (before ++ between) = runBehind before ++ between := by
  have hreverse : ∀ c ∈ between.reverse, isBlank c = false := fun c hc =>
    hbetween c (List.mem_reverse.mp hc)
  rw [runBehind, List.reverse_append, takeWhile_append_of_unbroken hreverse,
    List.reverse_append, List.reverse_reverse]
  rfl

/-- Behind a blank a run starts anew. -/
theorem runBehind_append_blank (front : List Char) {c : Char} (hc : isBlank c = true)
    (before : List Char) : runBehind (front ++ c :: before) = runBehind before := by
  unfold runBehind
  rw [List.reverse_append, List.reverse_cons, List.append_assoc, List.singleton_append,
    List.takeWhile_append, List.takeWhile_cons_of_neg (by rw [hc]; nofun), List.append_nil]
  split
  next hall => rw [(List.takeWhile_prefix _).eq_of_length hall]
  next => rfl

/-- The run without blanks in which a tile begins. -/
def Tile.word (x : Tile) : List Char :=
  runBehind x.before ++ (x.chars ++ x.behind).takeWhile fun c => !isBlank c

/-- A place knows what stands in front of it: how many bytes that has, and its characters. -/
structure Cursor.StandsIn (p : Cursor) (before : List Char) : Prop where
  offset : p.offset = byteSize before
  passed : p.passed = before.reverse

theorem Cursor.standsIn_start (cs : List Char) : (Cursor.start cs).StandsIn [] :=
  ⟨rfl, rfl⟩

theorem Cursor.StandsIn.step {p : Cursor} {c : Char} {rest : List Char}
    (h : p.StandsIn before) (hrest : p.rest = c :: rest) :
    p.step.StandsIn (before ++ [c]) := by
  have hstep : p.step.offset = p.offset + c.utf8Size ∧ p.step.passed = c :: p.passed := by
    unfold Cursor.step
    rw [hrest]
    exact ⟨rfl, rfl⟩
  obtain ⟨hoffset, hpassed⟩ := hstep
  have hsingle : byteSize [c] = c.utf8Size := Nat.zero_add _
  constructor
  · rw [hoffset, h.offset, byteSize_append, hsingle]
  · rw [hpassed, h.passed, List.reverse_concat]

theorem Cursor.StandsIn.advance {p : Cursor} {chars behind : List Char}
    (h : p.StandsIn before) (hrest : p.rest = chars ++ behind) :
    (p.advance chars.length).StandsIn (before ++ chars) := by
  induction chars generalizing p before with
  | nil => rwa [List.append_nil]
  | cons c chars ih =>
      have hstep : p.step.rest = chars ++ behind := by
        rw [Cursor.rest_step, hrest]
        rfl
      have hadvance := ih (h.step hrest) hstep
      rwa [List.append_assoc, List.singleton_append] at hadvance

theorem Tile.standsIn_place (x : Tile) : x.place.StandsIn x.before :=
  (Cursor.standsIn_start x.text).advance rfl

theorem Tile.word_place (x : Tile) : x.place.word = x.word := by
  rw [Cursor.word, Cursor.wordRest, x.standsIn_place.passed, x.rest_place]
  rfl

theorem Tile.wordEnd_place (x : Tile) :
    x.place.wordEnd =
      x.first + byteSize ((x.chars ++ x.behind).takeWhile fun c => !isBlank c) := by
  rw [Cursor.wordEnd, Cursor.wordRest, x.standsIn_place.offset, x.rest_place, first]

/-- What ends in front of the next blank has no blank. -/
theorem unbroken_of_byteSize_lt {between behind : List Char}
    (h : byteSize between < byteSize ((between ++ behind).takeWhile fun c => !isBlank c)) :
    ∀ c ∈ between, isBlank c = false := by
  rw [List.takeWhile_append] at h
  split at h
  next hlength =>
    have hall := (List.takeWhile_prefix (l := between) fun c => !isBlank c).eq_of_length hlength
    intro c hc
    rw [← hall] at hc
    exact isBlank_of_mem_takeWhile hc
  next =>
    have hle := byteSize_le_of_prefix (List.takeWhile_prefix (l := between) fun c => !isBlank c)
    omega

/-- The word of a tile is the word of each later tile that begins in front of its end. -/
theorem Tile.word_eq_of_lt_wordEnd (htext : y.text = x.text) (hlater : x.before <+: y.before)
    (hend : y.place.offset < x.place.wordEnd) : y.word = x.word := by
  obtain ⟨between, hbetween⟩ := hlater
  have hrest : x.chars ++ x.behind = between ++ (y.chars ++ y.behind) := by
    rw [text, text, ← hbetween, List.append_assoc] at htext
    exact (List.append_cancel_left htext).symm
  rw [x.wordEnd_place, first, y.standsIn_place.offset, ← hbetween, byteSize_append, hrest] at hend
  have hunbroken := unbroken_of_byteSize_lt (Nat.lt_of_add_lt_add_left hend)
  rw [word, word, hrest, ← hbetween, runBehind_append _ hunbroken,
    takeWhile_append_of_unbroken hunbroken, List.append_assoc]

/-! ## Errors -/

namespace Located

/-- The error of a lexeme, with the word around it as messages quote it. -/
def error? (l : Limits) (x : Located) : Option LexicalError :=
  match x.lexeme with
  | .word =>
    if l.maxIdentifierLength < x.chars.length then
      some (.identifierTooLong l.maxIdentifierLength)
    else none
  | .string content =>
    if l.maxStringLength < content.length then some (.stringTooLong l.maxStringLength) else none
  | .openString => some .unterminatedString
  | .stray c =>
    some (.unexpectedCharacter (Redaction.displaySafe (String.singleton c) quotedChars)
      x.shownWord (c = '='))
  | _ => none

/-- The diagnostic of a lexeme. -/
def diagnostic? (l : Limits) (x : Located) : Option Diagnostic :=
  (x.error? l).map x.diagnose

end Located

/-- A kept word is the word around each of some lexemes that begins in front of its end. -/
def Located.IsKeptFor (zs : List Located) (kept : Nat × String) : Prop :=
  ∀ z ∈ zs, z.start.offset < kept.1 → z.shownWord = kept.2

/-- A word that is kept for a lexeme is quoted as if it were made anew, and it stays or is
replaced by the one made anew. -/
theorem Located.wordGiven_eq {z : Located} {last : Option (Nat × String)}
    (hlast : ∀ kept ∈ last, Located.IsKeptFor [z] kept) :
    (z.wordGiven last).2 = z.shownWord ∧
      (some (z.wordGiven last) = last ∨ z.wordGiven last = z.keptWord) := by
  cases last with
  | none => exact ⟨rfl, .inr rfl⟩
  | some kept =>
      rw [wordGiven]
      by_cases hend : z.start.offset < kept.1
      · rw [if_pos hend]
        exact ⟨(hlast kept rfl z List.mem_cons_self hend).symm, .inl rfl⟩
      · rw [if_neg hend]
        exact ⟨rfl, .inr rfl⟩

/-- A lexeme adds its own error, and the word that is kept is the one of a stray character. -/
theorem lexicalErrors_cons_eq {z : Located} (zs : List Located)
    {last : Option (Nat × String)} (found : List Diagnostic)
    (hlast : ∀ kept ∈ last, Located.IsKeptFor [z] kept) :
    ∃ last', lexicalErrors l (z :: zs) last found =
        lexicalErrors l zs last' ((z.diagnostic? l).toList ++ found) ∧
      (last' = last ∨ last' = some z.keptWord) := by
  obtain ⟨hshown, hkept⟩ := Located.wordGiven_eq hlast
  obtain ⟨lexeme, start, chars⟩ := z
  cases lexeme with
  | word =>
      refine ⟨last, ?_, .inl rfl⟩
      by_cases hlong : l.maxIdentifierLength < chars.length
      · simp [lexicalErrors, Located.diagnostic?, Located.error?, hlong]
      · simp [lexicalErrors, Located.diagnostic?, Located.error?, hlong]
  | string content =>
      refine ⟨last, ?_, .inl rfl⟩
      by_cases hlong : l.maxStringLength < content.length
      · simp [lexicalErrors, Located.diagnostic?, Located.error?, hlong]
      · simp [lexicalErrors, Located.diagnostic?, Located.error?, hlong]
  | stray c =>
      refine ⟨some (Located.wordGiven ⟨.stray c, start, chars⟩ last), ?_,
        hkept.imp id (congrArg some)⟩
      rw [lexicalErrors]
      dsimp only
      rw [hshown]
      rfl
  | _ => exact ⟨last, rfl, .inl rfl⟩

/-- Errors are found lexeme by lexeme when the word around a lexeme is kept for all that
follow. -/
theorem lexicalErrors_eq_filterMap {zs : List Located} (last : Option (Nat × String))
    (found : List Diagnostic) (hlast : ∀ kept ∈ last, Located.IsKeptFor zs kept)
    (hwords : zs.Pairwise fun y z => Located.IsKeptFor [z] y.keptWord) :
    lexicalErrors l zs last found = found.reverse ++ zs.filterMap (·.diagnostic? l) := by
  induction zs generalizing last found with
  | nil => rw [lexicalErrors, List.filterMap_nil, List.append_nil]
  | cons z zs ih =>
      obtain ⟨hfirst, hothers⟩ := List.pairwise_cons.mp hwords
      obtain ⟨last', hscan, hkept⟩ := lexicalErrors_cons_eq (l := l) zs found
        fun kept hkept => List.forall_mem_singleton.mpr (hlast kept hkept z List.mem_cons_self)
      -- What is kept behind the lexeme is kept for the others.
      have hlast' : ∀ kept ∈ last', Located.IsKeptFor zs kept := by
        rcases hkept with rfl | rfl
        · exact fun kept hkept y hy => hlast kept hkept y (List.mem_cons_of_mem z hy)
        · intro kept hkept y hy
          rw [← Option.mem_some.mp hkept]
          exact hfirst y hy y List.mem_cons_self
      rw [hscan, ih last' _ hlast' hothers, List.reverse_append, List.append_assoc,
        List.filterMap_cons]
      cases z.diagnostic? l with
      | none => rfl
      | some d => rfl

/-! ## Tokens and errors of a text -/

theorem Tile.shownWord_located (x : Tile) :
    x.located.shownWord = Redaction.displaySafe (String.ofList x.word) Located.quotedChars := by
  rw [Located.shownWord, located, x.word_place]

/-- In a text the word around a tile is kept for all tiles that follow. -/
theorem Tiling.keptWords (h : Tiling [] cs tiles) :
    (tiles.map Tile.located).Pairwise fun y z => Located.IsKeptFor [z] y.keptWord := by
  have htext (x : Tile) (hx : x ∈ tiles) : x.text = cs := by
    rw [Tile.text, ← List.append_assoc, ← (h.part x hx).1, List.nil_append]
  refine List.pairwise_map.mpr (h.ascending.imp_of_mem fun {x y} hx hy hprefix => ?_)
  refine List.forall_mem_singleton.mpr fun hend => ?_
  have hlater : x.before <+: y.before := (List.prefix_append _ _).trans hprefix
  have hword := Tile.word_eq_of_lt_wordEnd ((htext y hy).trans (htext x hx).symm) hlater hend
  rw [y.shownWord_located, Located.keptWord, x.shownWord_located, hword]

/-- The tokens and errors of a text that is short enough are those of its tiles. -/
theorem tokenize_of_tiling {source : String} (hbudget : l.expired = false)
    (hsize : source.utf8ByteSize ≤ l.maxTotalLength) (h : Tiling [] source.toList tiles) :
    tokenize l source =
      { tokens := tiles.filterMap (·.located.token? l) ++
          [.eof (lineBehind source.toList) (columnBehind source.toList)]
        errors := tiles.filterMap (·.located.diagnostic? l)
        fatal := false } := by
  have hstop := (lexemes_of_tiling h).2
  rw [lexemes_eq_map_located h] at hstop
  have herrors := lexicalErrors_eq_filterMap (l := l) none [] nofun h.keptWords
  rw [tokenize_still, if_neg (Nat.not_lt.mpr hsize), hbudget, if_neg fun hexpired =>
    Bool.false_ne_true hexpired.1, lexemes_eq_map_located h]
  dsimp only
  rw [herrors, hstop.line, hstop.column, List.filterMap_map, List.filterMap_map]
  rfl

/-! ## The order of tokens -/

/-- A token is placed in front of another one. -/
def Token.IsBefore (t t' : Token) : Prop :=
  t.line < t'.line ∨ t.line = t'.line ∧ t.column < t'.column

/-- The token for a tile stands for it. -/
theorem Tile.covers_of_token? {t : Token} (hspans : x.lexeme.Spans x.chars x.behind)
    (ht : x.located.token? l = some t) : t.Covers l x := by
  have htoken := Located.token?_of_isAt (l := l) x.isAt_located hspans
  split at htoken
  · obtain ⟨t', ht', hcovers⟩ := htoken
    rw [ht] at ht'
    injection ht' with ht'
    rwa [ht']
  · rw [ht] at htoken
    cases htoken

/-- The tokens of a text are placed one behind the other, and their end behind all. -/
theorem tokenize_ascending {source : String} (hbudget : l.expired = false)
    (hsize : source.utf8ByteSize ≤ l.maxTotalLength) :
    (tokenize l source).tokens.Pairwise Token.IsBefore := by
  obtain ⟨tiles, h⟩ := exists_tiling [] source.toList
  have hcovers (x : Tile) (hx : x ∈ tiles) (t : Token) (ht : x.located.token? l = some t) :
      t.Covers l x :=
    Tile.covers_of_token? (h.part x hx).2.1 ht
  have hchars (x : Tile) (hx : x ∈ tiles) : x.chars ≠ [] := (h.part x hx).2.1.ne_nil
  rw [tokenize_of_tiling hbudget hsize h]
  refine List.pairwise_append.mpr ⟨?_, List.pairwise_singleton _ _, fun t ht stop hstop => ?_⟩
  · refine List.pairwise_filterMap.mpr (h.ascending.imp_of_mem ?_)
    intro x y hx hy hprefix t ht t' ht'
    have htx := hcovers x hx t ht
    have hty := hcovers y hy t' ht'
    rw [Token.IsBefore, htx.line, htx.column, hty.line, hty.column]
    exact place_lt_of_prefix (hchars x hx) hprefix
  · obtain ⟨x, hx, ht⟩ := List.mem_filterMap.mp ht
    have htx := hcovers x hx t ht
    have hprefix : x.before ++ x.chars <+: source.toList := by
      rw [← List.nil_append source.toList, (h.part x hx).1]
      exact List.prefix_append _ _
    rw [List.mem_singleton.mp hstop, Token.IsBefore, htx.line, htx.column]
    exact place_lt_of_prefix (hchars x hx) hprefix

end TraceCheck
