import TraceCheck.Proofs.Grammar.Spelling
import TraceCheck.Token.Lexer

/-!
# Pieces of a text

What a text is cut into does not depend on where its pieces stand.  `pieces`
cuts a text without regard to lines and columns; the terminals of the tokens of
a text and whether it has errors can be read off its pieces.
-/

namespace TraceCheck

/-! ## Cutting a text -/

/-- A lexeme with its characters. -/
structure Piece where
  lexeme : Lexeme
  chars : List Char
  deriving DecidableEq

/-- A lexeme without its place. -/
def Located.piece (x : Located) : Piece :=
  ⟨x.lexeme, x.chars⟩

/-- The pieces of a text that has at most as many characters as there is fuel. -/
def piecesFrom : (fuel : Nat) → List Char → List Piece
  | 0, _ => []
  | _ + 1, [] => []
  | fuel + 1, c :: rest =>
    ⟨(Lexeme.next c rest).1, (c :: rest).take (Lexeme.next c rest).2⟩ ::
      piecesFrom fuel ((c :: rest).drop (Lexeme.next c rest).2)

/-- The pieces of a text. -/
def pieces (cs : List Char) : List Piece :=
  piecesFrom cs.length cs

theorem Cursor.rest_step (p : Cursor) : p.step.rest = p.rest.tail := by
  unfold Cursor.step
  split
  next hnil => rw [hnil]; rfl
  next c rest hcons => rw [hcons]; rfl

theorem Cursor.rest_advance (n : Nat) (p : Cursor) : (p.advance n).rest = p.rest.drop n := by
  induction n generalizing p with
  | zero => rfl
  | succ n ih => rw [Cursor.advance, ih, Cursor.rest_step, List.drop_tail]

theorem lexemesFrom_map_piece (fuel : Nat) (p : Cursor) (before : List Located) :
    (lexemesFrom fuel p before).1.map Located.piece =
      before.reverse.map Located.piece ++ piecesFrom fuel p.rest := by
  induction fuel generalizing p before with
  | zero => simp [lexemesFrom, piecesFrom]
  | succ fuel ih =>
      unfold lexemesFrom
      split
      next hnil => simp [hnil, piecesFrom]
      next c rest hcons =>
        rw [ih, Cursor.rest_advance, hcons, List.reverse_cons, List.map_append,
          List.append_assoc]
        rfl

theorem lexemes_map_piece (cs : List Char) :
    (lexemes cs).1.map Located.piece = pieces cs :=
  lexemesFrom_map_piece cs.length (.start cs) []

theorem Lexeme.numberLength_pos
    {c : Char} {rest : List Char} (hc : c.isDigit = true) :
    0 < Lexeme.numberLength (c :: rest) := by
  have hwhole : 0 < ((c :: rest).takeWhile Char.isDigit).length := by
    rw [List.takeWhile_cons_of_pos hc]
    exact Nat.succ_pos _
  unfold Lexeme.numberLength
  dsimp only
  split
  · split <;> omega
  · exact hwhole

theorem Lexeme.le_scanString_count (cs content : List Char) (n : Nat) :
    n ≤ (Lexeme.scanString cs content n).2.1 := by
  fun_induction Lexeme.scanString cs content n with
  | case1 => exact Nat.le_refl _
  | case2 => exact Nat.le_succ _
  | case3 => exact Nat.le_succ _
  | case4 _ _ _ _ _ ih => omega
  | case5 _ _ _ _ _ ih => omega
  | case6 _ _ _ _ _ _ _ ih => omega

theorem Lexeme.isWordChar_of_isWordStart {c : Char} (hc : Lexeme.isWordStart c = true) :
    Lexeme.isWordChar c = true := by
  unfold Lexeme.isWordStart at hc
  unfold Lexeme.isWordChar Char.isAlphanum
  cases halpha : c.isAlpha with
  | true => rfl
  | false =>
      rw [halpha, Bool.false_or] at hc
      rw [hc, Bool.or_true]

theorem Lexeme.next_pos (c : Char) (rest : List Char) : 0 < (Lexeme.next c rest).2 := by
  have htake (p : Char → Bool) (hc : p c = true) :
      0 < ((c :: rest).takeWhile p).length := by
    rw [List.takeWhile_cons_of_pos hc]
    exact Nat.succ_pos _
  unfold Lexeme.next
  split
  · exact Nat.one_pos
  split
  next hslash => exact htake _ (by rw [hslash.1]; rfl)
  split
  next hword => exact htake _ (isWordChar_of_isWordStart hword)
  split
  · have hcount := Lexeme.le_scanString_count rest [] 1
    split
    next content n hscan => rw [hscan] at hcount; exact hcount
    next content n hscan => rw [hscan] at hcount; exact hcount
  split
  next hdigit => exact Lexeme.numberLength_pos hdigit
  split
  · exact Nat.two_pos
  · split <;> exact Nat.one_pos

theorem length_drop_next_le (c : Char) (rest : List Char) :
    ((c :: rest).drop (Lexeme.next c rest).2).length ≤ rest.length := by
  have hpos := Lexeme.next_pos c rest
  rw [List.length_drop, List.length_cons]
  omega

theorem piecesFrom_congr
    {m n : Nat} {cs : List Char} (hm : cs.length ≤ m) (hn : cs.length ≤ n) :
    piecesFrom m cs = piecesFrom n cs := by
  induction m generalizing n cs with
  | zero =>
      obtain rfl := List.eq_nil_of_length_eq_zero (Nat.le_zero.mp hm)
      cases n <;> rfl
  | succ m ih =>
      cases cs with
      | nil => cases n <;> rfl
      | cons c rest =>
          cases n with
          | zero => cases hn
          | succ n =>
              have hlen := length_drop_next_le c rest
              rw [List.length_cons] at hm hn
              rw [piecesFrom, piecesFrom, ih (n := n) (by omega) (by omega)]

theorem pieces_cons (c : Char) (rest : List Char) :
    pieces (c :: rest) =
      ⟨(Lexeme.next c rest).1, (c :: rest).take (Lexeme.next c rest).2⟩ ::
        pieces ((c :: rest).drop (Lexeme.next c rest).2) := by
  change piecesFrom (rest.length + 1) (c :: rest) = _
  rw [piecesFrom, piecesFrom_congr (length_drop_next_le c rest) (Nat.le_refl _)]
  rfl

/-- A lexeme that takes the start of a text is its first piece. -/
theorem pieces_append
    {x : Lexeme} {c : Char} {cs rest : List Char}
    (h : Lexeme.next c (cs ++ rest) = (x, cs.length + 1)) :
    pieces (c :: cs ++ rest) = ⟨x, c :: cs⟩ :: pieces rest := by
  rw [List.cons_append, pieces_cons, h]
  simp

/-! ## Errors -/

/-- Whether a piece is no error. -/
def Piece.clean (l : Limits) (p : Piece) : Bool :=
  match p.lexeme with
  | .word => p.chars.length ≤ l.maxIdentifierLength
  | .string content => content.length ≤ l.maxStringLength
  | .openString => false
  | .stray _ => false
  | _ => true

theorem lexicalErrors_eq_nil_iff
    {l : Limits} {xs : List Located} {last : Option (Nat × String)}
    {found : List Diagnostic} :
    lexicalErrors l xs last found = [] ↔ found = [] ∧ ∀ x ∈ xs, x.piece.clean l = true := by
  fun_induction lexicalErrors l xs last found with
  | case1 last found => simp
  | case2 x rest last found hword hlong ih =>
      simp [ih, Located.piece, Piece.clean, hword, Nat.not_le.mpr hlong]
  | case3 x rest last found hword hshort ih =>
      simp [ih, Located.piece, Piece.clean, hword, Nat.not_lt.mp hshort]
  | case4 x rest last found content hstring hlong ih =>
      simp [ih, Located.piece, Piece.clean, hstring, Nat.not_le.mpr hlong]
  | case5 x rest last found content hstring hshort ih =>
      simp [ih, Located.piece, Piece.clean, hstring, Nat.not_lt.mp hshort]
  | case6 x rest last found hopen ih => simp [ih, Located.piece, Piece.clean, hopen]
  | case7 x rest last found c hstray word shown ih =>
      simp [ih, Located.piece, Piece.clean, hstray]
  | case8 x rest last found hword hstring hopen hstray ih =>
      have hclean : x.piece.clean l = true := by
        unfold Piece.clean Located.piece
        split
        next hlexeme => exact absurd hlexeme hword
        next content hlexeme => exact absurd hlexeme (hstring content)
        next hlexeme => exact absurd hlexeme hopen
        next c hlexeme => exact absurd hlexeme (hstray c)
        next => rfl
      simp [ih, hclean]

/-- A text is refused as a whole, or its tokens and its errors are those of its lexemes. -/
theorem tokenize_cases (l : Limits) (source : String) :
    (∃ e, tokenize l source = .refused e) ∨
      (tokenize l source).tokens = (lexemes source.toList).1.filterMap (·.token? l) ++
          [.eof (lexemes source.toList).2.line (lexemes source.toList).2.column] ∧
        (tokenize l source).errors = lexicalErrors l (lexemes source.toList).1 none [] := by
  rw [tokenize_still]
  split
  · exact .inl ⟨_, rfl⟩
  split
  · exact .inl ⟨_, rfl⟩
  · exact .inr ⟨rfl, rfl⟩

/-- A text has no errors exactly when it is short enough and all its pieces are
clean. -/
theorem tokenize_errors_eq_nil_iff
    {l : Limits} {source : String} (hl : l.expired = false) :
    (tokenize l source).errors = [] ↔
      source.utf8ByteSize ≤ l.maxTotalLength ∧ ∀ p ∈ pieces source.toList, p.clean l = true := by
  rw [tokenize_still]
  rw [hl]
  split
  next hlarge =>
    refine ⟨nofun, ?_⟩
    rintro ⟨hsmall, -⟩
    omega
  next hsmall =>
    have hfound : (∀ p ∈ pieces source.toList, p.clean l = true) ↔
        ∀ x ∈ (lexemes source.toList).1, x.piece.clean l = true := by
      rw [← lexemes_map_piece, List.forall_mem_map]
    rw [hfound, if_neg nofun]
    dsimp only
    rw [lexicalErrors_eq_nil_iff]
    simp [Nat.not_lt.mp hsmall]

/-! ## Terminals -/

/-- The terminal of a piece that is a token, wherever it stands. -/
def Piece.terminal? (l : Limits) (p : Piece) : Option Terminal :=
  (Located.token? l ⟨p.lexeme, .start [], p.chars⟩).map Token.terminal

theorem Located.terminal_token? (l : Limits) (x : Located) :
    (x.token? l).map Token.terminal = x.piece.terminal? l := by
  obtain ⟨lexeme, start, chars⟩ := x
  unfold Piece.terminal? Located.piece Located.token?
  cases lexeme with
  | word => dsimp only; split <;> rfl
  | _ => rfl

theorem tokens_map_terminal (l : Limits) (cs : List Char) :
    ((lexemes cs).1.filterMap (·.token? l)).map Token.terminal =
      (pieces cs).filterMap (·.terminal? l) := by
  rw [← lexemes_map_piece, List.map_filterMap, List.filterMap_map]
  congr 1
  funext x
  exact x.terminal_token? l

/-! ## Spelling -/

theorem exists_span (p : Char → Bool) (cs : List Char) :
    ∃ xs ys, cs = xs ++ ys ∧ (∀ x ∈ xs, p x = true) ∧ ∀ y ∈ ys.head?, p y = false := by
  refine ⟨cs.takeWhile p, cs.dropWhile p, List.takeWhile_append_dropWhile.symm, ?_, ?_⟩
  · exact fun x hx => List.all_eq_true.mp List.all_takeWhile x hx
  · intro y hy
    have := List.head?_dropWhile_not p cs
    rw [Option.mem_def.mp hy] at this
    exact this

theorem Lexeme.numberLength_whole
    {ds rest : List Char} (hds : ∀ c ∈ ds, Decimal.isDigit c = true)
    (hrest : ∀ c ∈ rest.head?, Decimal.isDigit c = false)
    (hpoint : ∀ d tail, rest = '.' :: d :: tail → Decimal.isDigit d = false) :
    Lexeme.numberLength (ds ++ rest) = ds.length := by
  obtain ⟨htake, hdrop⟩ := Decimal.takeWhile_append_of_stop (p := Char.isDigit) rest hds hrest
  unfold Lexeme.numberLength
  rw [htake, hdrop]
  dsimp only
  split
  next d tail =>
    have hd : d.isDigit = false := hpoint d tail rfl
    rw [if_neg (Bool.eq_false_iff.mp hd)]
  next => rfl

theorem Lexeme.numberLength_fraction
    {ds fs rest : List Char} (hds : ∀ c ∈ ds, Decimal.isDigit c = true)
    (hfs : ∀ c ∈ fs, Decimal.isDigit c = true) (hne : fs ≠ [])
    (hrest : ∀ c ∈ rest.head?, Decimal.isDigit c = false) :
    Lexeme.numberLength (ds ++ '.' :: (fs ++ rest)) = ds.length + 1 + fs.length := by
  obtain ⟨htake, hdrop⟩ := Decimal.takeWhile_append_of_stop (p := Char.isDigit)
    ('.' :: (fs ++ rest)) hds (by simp)
  have hfraction := (Decimal.takeWhile_append_of_stop (p := Char.isDigit) rest hfs hrest).1
  obtain ⟨f, fs, rfl⟩ := List.exists_cons_of_ne_nil hne
  have hf : f.isDigit = true := hfs f List.mem_cons_self
  unfold Lexeme.numberLength
  rw [htake, hdrop]
  rw [List.cons_append] at hfraction ⊢
  change (if f.isDigit = true then _ else _) = _
  rw [if_pos hf, hfraction]

/-- The characters that a number takes are a numeral. -/
theorem Lexeme.numeral_take_numberLength
    {c : Char} {rest : List Char} (hc : c.isDigit = true) :
    Decimal.Numeral ((c :: rest).take (Lexeme.numberLength (c :: rest))) := by
  obtain ⟨ds, tail, hsplit, hds, htail⟩ := exists_span Char.isDigit (c :: rest)
  have hne : ds ≠ [] := by
    rintro rfl
    rw [List.nil_append] at hsplit
    rw [← hsplit] at htail
    rw [htail c rfl] at hc
    cases hc
  rw [hsplit]
  by_cases hpoint : ∃ d tail', tail = '.' :: d :: tail' ∧ d.isDigit = true
  · obtain ⟨d, tail', rfl, hd⟩ := hpoint
    obtain ⟨fs, end_, hsplit', hfs, hend⟩ := exists_span Char.isDigit (d :: tail')
    have hfne : fs ≠ [] := by
      rintro rfl
      rw [List.nil_append] at hsplit'
      rw [← hsplit'] at hend
      rw [hend d rfl] at hd
      cases hd
    rw [hsplit', Lexeme.numberLength_fraction hds hfs hfne hend]
    have htake : (ds ++ '.' :: (fs ++ end_)).take (ds.length + 1 + fs.length) =
        ds ++ '.' :: fs := by
      rw [← List.cons_append, ← List.append_assoc]
      exact List.take_left' (by simp; omega)
    rw [htake]
    exact .fraction ds fs hds hfs hne hfne
  · have hstop : ∀ d tail', tail = '.' :: d :: tail' → Decimal.isDigit d = false := by
      intro d tail' heq
      exact Bool.eq_false_iff.mpr fun hd => hpoint ⟨d, tail', heq, hd⟩
    rw [Lexeme.numberLength_whole hds htail hstop, List.take_left]
    exact .whole ds hne hds

/-- What the characters of a piece are like. -/
def Piece.WellFormed (p : Piece) : Prop :=
  match p.lexeme with
  | .word =>
    p.chars.head?.any Lexeme.isWordStart = true ∧
      ∀ c ∈ p.chars, Lexeme.isWordChar c = true
  | .number => Decimal.Numeral p.chars
  | .symbol kind => kind.isFixed = true ∧ kind.isWord = false
  | _ => True

theorem Lexeme.pair?_spec {c d : Char} {kind : TokenKind} (h : Lexeme.pair? c d = some kind) :
    kind.isFixed = true ∧ kind.isWord = false := by
  unfold Lexeme.pair? at h
  split at h <;> cases h <;> decide

theorem Lexeme.single?_spec {c : Char} {kind : TokenKind} (h : Lexeme.single? c = some kind) :
    kind.isFixed = true ∧ kind.isWord = false := by
  unfold Lexeme.single? at h
  split at h <;> cases h <;> decide

theorem Lexeme.wellFormed_word
    {c : Char} {rest : List Char} (hc : Lexeme.isWordStart c = true) :
    Piece.WellFormed ⟨.word, (c :: rest).take ((c :: rest).takeWhile isWordChar).length⟩ := by
  have htake : (c :: rest).take ((c :: rest).takeWhile isWordChar).length =
      (c :: rest).takeWhile isWordChar :=
    List.prefix_iff_eq_take.mp (List.takeWhile_prefix _) |>.symm
  rw [htake, List.takeWhile_cons_of_pos (isWordChar_of_isWordStart hc)]
  refine ⟨hc, List.forall_mem_cons.mpr ⟨isWordChar_of_isWordStart hc, ?_⟩⟩
  exact fun d hd => List.all_eq_true.mp List.all_takeWhile d hd

theorem Lexeme.wellFormed_next (c : Char) (rest : List Char) :
    Piece.WellFormed
      ⟨(Lexeme.next c rest).1, (c :: rest).take (Lexeme.next c rest).2⟩ := by
  unfold Lexeme.next
  split
  · trivial
  split
  · trivial
  split
  next hword => exact Lexeme.wellFormed_word hword
  split
  · split <;> trivial
  split
  next hdigit => exact Lexeme.numeral_take_numberLength hdigit
  split
  next kind hkind =>
    obtain ⟨d, -, hd⟩ := Option.bind_eq_some_iff.mp hkind
    exact Lexeme.pair?_spec hd
  · split
    next kind hkind => exact Lexeme.single?_spec hkind
    next => trivial

theorem wellFormed_of_mem_piecesFrom
    {fuel : Nat} {cs : List Char} {p : Piece} (hp : p ∈ piecesFrom fuel cs) :
    p.WellFormed := by
  induction fuel generalizing cs with
  | zero => cases hp
  | succ fuel ih =>
      cases cs with
      | nil => cases hp
      | cons c rest =>
          rcases List.mem_cons.mp hp with rfl | hp
          · exact Lexeme.wellFormed_next c rest
          · exact ih hp

theorem TokenKind.keyword?_spec {word : String} {kind : TokenKind}
    (h : TokenKind.keyword? word = some kind) :
    kind.literal = word ∧ kind ≠ .eof ∧ kind ≠ .number := by
  have hmem : kind ∈ TokenKind.keywords := List.mem_of_find?_eq_some h
  refine ⟨by simpa using List.find?_some h, ?_, ?_⟩
  · rintro rfl
    revert hmem
    decide
  · rintro rfl
    revert hmem
    decide

theorem Located.wellSpelled_of_token?
    {l : Limits} {x : Located} {t : Token} (hx : x.piece.WellFormed)
    (ht : x.token? l = some t) : t.WellSpelled := by
  obtain ⟨lexeme, start, chars⟩ := x
  unfold Located.token? at ht
  cases lexeme with
  | word =>
      dsimp only at ht
      split at ht
      next =>
        injection ht with ht
        subst ht
        exact ⟨nofun, nofun, nofun⟩
      next =>
        injection ht with ht
        subst ht
        cases hkey : TokenKind.keyword? (String.ofList chars) with
        | none => exact ⟨nofun, nofun, nofun⟩
        | some kind =>
            obtain ⟨hliteral, heof, hnumber⟩ := TokenKind.keyword?_spec hkey
            exact ⟨heof, fun _ => hliteral.symm, fun hkind => absurd hkind hnumber⟩
  | number =>
      injection ht with ht
      subst ht
      refine ⟨nofun, nofun, fun _ => ?_⟩
      have hnumeral : Decimal.Numeral chars := hx
      simpa [Located.toToken] using hnumeral
  | string content =>
      injection ht with ht
      subst ht
      exact ⟨nofun, nofun, nofun⟩
  | symbol kind =>
      injection ht with ht
      subst ht
      have hfixed : kind.isFixed = true := hx.1
      refine ⟨?_, fun _ => by simp [Located.toToken], ?_⟩
      · rintro rfl
        cases hfixed
      · rintro rfl
        cases hfixed
  | blank => cases ht
  | comment => cases ht
  | openString => cases ht
  | stray c => cases ht

/-- The tokens of a text are well spelled. -/
theorem wellSpelled_of_mem_tokens
    {l : Limits} {cs : List Char} {t : Token}
    (ht : t ∈ (lexemes cs).1.filterMap (·.token? l)) : t.WellSpelled := by
  obtain ⟨x, hx, htoken⟩ := List.mem_filterMap.mp ht
  have hpiece : x.piece ∈ pieces cs := by
    rw [← lexemes_map_piece]
    exact List.mem_map_of_mem hx
  exact Located.wellSpelled_of_token? (wellFormed_of_mem_piecesFrom hpiece) htoken

end TraceCheck
