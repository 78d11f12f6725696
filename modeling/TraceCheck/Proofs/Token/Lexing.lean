import Mathlib
import TraceCheck.Expr.Printer
import TraceCheck.Proofs.Token.Pieces

/-!
# Lexing piece by piece

`lexed` reads a text as terminals, with `none` in place of each error.  A text
that ends where no piece can go on is lexed independently of what follows, so
the terminals of a text can be found part by part.
-/

namespace TraceCheck

variable {l : Limits} {rest : List Char}

/-! ## Terminals and errors -/

/-- What a piece is read as: nothing, a terminal or an error. -/
def Piece.reading (l : Limits) (p : Piece) : List (Option Terminal) :=
  if p.clean l then (p.terminal? l).toList.map some else [none]

/-- The terminals of a text, with the errors among them. -/
def lexed (l : Limits) (cs : List Char) : List (Option Terminal) :=
  (pieces cs).flatMap (Piece.reading l)

theorem flatMap_reading_eq_map_some_iff {ps : List Piece} {w : List Terminal} :
    ps.flatMap (Piece.reading l) = w.map some ↔
      (∀ p ∈ ps, p.clean l = true) ∧ ps.filterMap (·.terminal? l) = w := by
  induction ps generalizing w with
  | nil => cases w <;> simp
  | cons p ps ih =>
      rw [List.flatMap_cons, List.forall_mem_cons, List.filterMap_cons]
      unfold Piece.reading at ih ⊢
      cases hp : p.clean l with
      | false =>
          constructor
          · intro h
            cases w with
            | nil => cases h
            | cons a w => injection h with h; cases h
          · rintro ⟨⟨hclean, -⟩, -⟩
            cases hclean
      | true =>
          cases ht : p.terminal? l with
          | none => simpa using ih
          | some a =>
              cases w with
              | nil => simp
              | cons b w =>
                  have hcons := ih (w := w)
                  simp only [if_true, Option.toList_some, List.map_cons, List.map_nil,
                    List.cons_append, List.nil_append, List.cons.injEq, Option.some.injEq,
                    true_and] at hcons ⊢
                  rw [hcons]
                  constructor
                  · rintro ⟨rfl, hall, rfl⟩
                    exact ⟨hall, rfl, rfl⟩
                  · rintro ⟨hall, rfl, rfl⟩
                    exact ⟨rfl, hall, rfl⟩

/-- A text of fitting size has no errors and certain terminals exactly when it
is lexed as these terminals. -/
theorem tokenize_terminals_iff
    {source : String} {w : List Terminal} (hl : l.expired = false)
    (hsize : source.utf8ByteSize ≤ l.maxTotalLength) :
    (tokenize l source).errors = [] ∧
        (tokenize l source).tokens.map Token.terminal = w ++ [⟨.eof, ""⟩] ↔
      lexed l source.toList = w.map some := by
  unfold lexed
  rw [flatMap_reading_eq_map_some_iff, tokenize_errors_eq_nil_iff hl, and_iff_right hsize]
  refine and_congr_right fun _ => ?_
  have htokens : (tokenize l source).tokens.map Token.terminal =
      (pieces source.toList).filterMap (·.terminal? l) ++ [⟨.eof, ""⟩] := by
    rw [tokenize_still]
    rw [hl, if_neg (Nat.not_lt.mpr hsize), if_neg nofun, ← tokens_map_terminal]
    dsimp only
    rw [List.map_append]
    rfl
  rw [htokens]
  exact List.append_left_inj _

/-! ## Single pieces -/

theorem lexed_append
    {x : Lexeme} {c : Char} {cs : List Char}
    (h : Lexeme.next c (cs ++ rest) = (x, cs.length + 1)) :
    lexed l (c :: cs ++ rest) = Piece.reading l ⟨x, c :: cs⟩ ++ lexed l rest := by
  unfold lexed
  rw [pieces_append h, List.flatMap_cons]

theorem isBlank_eq_false {c : Char} (hlow : 33 ≤ c.toNat) (hhigh : c.toNat ≤ 126) :
    Text.isBlank c = false := by
  simp only [Text.isBlank, Bool.or_eq_false_iff, Bool.and_eq_false_iff, decide_eq_false_iff_not,
    beq_eq_false_iff_ne]
  omega

theorem Lexeme.toNat_of_isWordStart {c : Char} (hc : Lexeme.isWordStart c = true) :
    65 ≤ c.toNat ∧ c.toNat ≤ 122 := by
  simp only [Lexeme.isWordStart, Char.isAlpha, Char.isUpper, Char.isLower, Bool.or_eq_true,
    Bool.and_eq_true, decide_eq_true_eq, beq_iff_eq, ge_iff_le, UInt32.le_iff_toNat_le] at hc
  rcases hc with (⟨hlow, hhigh⟩ | ⟨hlow, hhigh⟩) | rfl
  · change 65 ≤ c.toNat at hlow
    change c.toNat ≤ 90 at hhigh
    omega
  · change 97 ≤ c.toNat at hlow
    change c.toNat ≤ 122 at hhigh
    omega
  · decide

theorem Lexeme.toNat_of_isDigit {c : Char} (hc : Decimal.isDigit c = true) :
    48 ≤ c.toNat ∧ c.toNat ≤ 57 := by
  simp only [Decimal.isDigit, Bool.and_eq_true, decide_eq_true_eq, Char.le_def,
    UInt32.le_iff_toNat_le] at hc
  exact hc

theorem Lexeme.next_word
    {c : Char} {cs : List Char} (hc : Lexeme.isWordStart c = true)
    (hcs : ∀ d ∈ cs, Lexeme.isWordChar d = true)
    (hrest : ∀ d ∈ rest.head?, Lexeme.isWordChar d = false) :
    Lexeme.next c (cs ++ rest) = (.word, cs.length + 1) := by
  obtain ⟨hlow, hhigh⟩ := Lexeme.toNat_of_isWordStart hc
  have hblank : Text.isBlank c = false := isBlank_eq_false (by omega) (by omega)
  have hslash : c ≠ '/' := by
    rintro rfl
    exact absurd hlow (by decide)
  have hword : ∀ d ∈ c :: cs, Lexeme.isWordChar d = true :=
    List.forall_mem_cons.mpr ⟨Lexeme.isWordChar_of_isWordStart hc, hcs⟩
  have htake := (Decimal.takeWhile_append_of_stop rest hword hrest).1
  rw [List.cons_append] at htake
  unfold Lexeme.next
  rw [hblank, if_neg nofun, if_neg fun h => hslash h.1, if_pos hc, htake]
  rfl

theorem Lexeme.next_number
    {c : Char} {rest : List Char} (hc : Decimal.isDigit c = true) :
    Lexeme.next c rest = (.number, Lexeme.numberLength (c :: rest)) := by
  obtain ⟨hlow, hhigh⟩ := Lexeme.toNat_of_isDigit hc
  have hblank : Text.isBlank c = false := isBlank_eq_false (by omega) (by omega)
  have hslash : c ≠ '/' := by
    rintro rfl
    exact absurd hlow (by decide)
  have hword : Lexeme.isWordStart c = false := by
    cases hstart : Lexeme.isWordStart c with
    | false => rfl
    | true =>
        have := Lexeme.toNat_of_isWordStart hstart
        omega
  have hquote : c ≠ '"' := by
    rintro rfl
    exact absurd hlow (by decide)
  have hdigit : c.isDigit = true := hc
  unfold Lexeme.next
  rw [hblank, if_neg nofun, if_neg fun h => hslash h.1, hword, if_neg nofun, if_neg hquote,
    if_pos hdigit]

/-- Quoted characters are read back up to the closing quote. -/
theorem Lexeme.scanString_quoted (cs content : List Char) (n : Nat) :
    Lexeme.scanString (cs.flatMap quotedChar ++ '"' :: rest) content n =
      (content.reverse ++ cs, n + (cs.flatMap quotedChar).length + 1, true) := by
  induction cs generalizing content n with
  | nil => simp [Lexeme.scanString]
  | cons c cs ih =>
      rw [List.flatMap_cons, List.append_assoc]
      by_cases hc : c = '"' ∨ c = '\\'
      · rw [quotedChar, if_pos hc, List.cons_append, List.singleton_append, Lexeme.scanString,
          if_pos hc, ih]
        simp
        omega
      · obtain ⟨hquote, hslash⟩ := not_or.mp hc
        rw [quotedChar, if_neg hc, List.singleton_append, Lexeme.scanString, ih]
        · simp
          omega
        · exact hquote
        · exact fun hslash' _ => hslash hslash'
        · exact fun _ _ hslash' _ => hslash hslash'

/-! ## Texts of pieces -/

theorem Lexeme.next_string (cs : List Char) :
    Lexeme.next '"' (cs.flatMap quotedChar ++ '"' :: rest) =
      (.string cs, (cs.flatMap quotedChar ++ ['"']).length + 1) := by
  unfold Lexeme.next
  rw [if_neg (by decide), if_neg fun h => absurd h.1 (by decide), if_neg (by decide),
    if_pos rfl, Lexeme.scanString_quoted cs [] 1]
  simp
  omega

theorem lexed_blank : lexed l (' ' :: rest) = lexed l rest :=
  lexed_append (show Lexeme.next ' ' ([] ++ rest) = (.blank, 1) from rfl)

theorem lexed_minus : lexed l ('-' :: rest) = none :: lexed l rest := by
  have hnext : Lexeme.next '-' ([] ++ rest) = (.stray '-', 1) := by
    cases rest with
    | nil => rfl
    | cons d rest => rfl
  exact lexed_append hnext

theorem reading_symbol (kind : TokenKind) (cs : List Char) :
    Piece.reading l ⟨.symbol kind, cs⟩ = [some (.fixed kind)] := by
  have hterminal : Piece.terminal? l ⟨.symbol kind, cs⟩ = some (.fixed kind) := by
    change some (Terminal.mk kind (String.ofList kind.literal.toList)) = _
    rw [String.ofList_toList]
    rfl
  rw [Piece.reading, hterminal]
  rfl

theorem Lexeme.next_of_isMark
    {c : Char} (hc : c ∈ ['(', ')', '[', ']', '.', ',', '<', '>', '=', '!']) :
    Lexeme.next c rest =
      ((rest.head?.bind (Lexeme.pair? c)).map fun kind => (.symbol kind, 2)).getD
        (((Lexeme.single? c).map fun kind => (.symbol kind, 1)).getD (.stray c, 1)) := by
  have hfacts : (['(', ')', '[', ']', '.', ',', '<', '>', '=', '!'].all fun d =>
      !Text.isBlank d && d != '/' && !Lexeme.isWordStart d && d != '"' && !d.isDigit) = true := by
    decide
  have hmark := List.all_eq_true.mp hfacts c hc
  simp only [Bool.and_eq_true, Bool.not_eq_true', bne_iff_ne] at hmark
  obtain ⟨⟨⟨⟨hblank, hslash⟩, hword⟩, hquote⟩, hdigit⟩ := hmark
  unfold Lexeme.next
  rw [hblank, if_neg nofun, if_neg fun h => hslash h.1, hword, if_neg nofun, if_neg hquote,
    hdigit, if_neg nofun]
  cases rest.head?.bind (Lexeme.pair? c) with
  | some kind => rfl
  | none => cases Lexeme.single? c <;> rfl

theorem Lexeme.mem_of_single?
    {c : Char} {kind : TokenKind} (hc : Lexeme.single? c = some kind) :
    c ∈ ['(', ')', '[', ']', '.', ',', '<', '>', '=', '!'] := by
  unfold Lexeme.single? at hc
  split at hc <;> first | decide | cases hc

theorem Lexeme.mem_of_pair?
    {c d : Char} {kind : TokenKind} (hc : Lexeme.pair? c d = some kind) :
    c ∈ ['(', ')', '[', ']', '.', ',', '<', '>', '=', '!'] := by
  unfold Lexeme.pair? at hc
  split at hc <;> first | decide | cases hc

theorem lexed_single
    {c : Char} {kind : TokenKind} (hc : Lexeme.single? c = some kind)
    (hpair : ∀ d ∈ rest.head?, Lexeme.pair? c d = none) :
    lexed l (c :: rest) = some (.fixed kind) :: lexed l rest := by
  have hnone : rest.head?.bind (Lexeme.pair? c) = none := by
    cases hrest : rest.head? with
    | none => rfl
    | some d => exact hpair d hrest
  have hnext : Lexeme.next c ([] ++ rest) = (.symbol kind, 1) := by
    rw [List.nil_append, Lexeme.next_of_isMark (Lexeme.mem_of_single? hc), hnone, hc]
    rfl
  exact (lexed_append hnext).trans (by rw [reading_symbol]; rfl)

theorem lexed_pair
    {c d : Char} {kind : TokenKind} (hc : Lexeme.pair? c d = some kind) :
    lexed l (c :: d :: rest) = some (.fixed kind) :: lexed l rest := by
  have hnext : Lexeme.next c ([d] ++ rest) = (.symbol kind, 2) := by
    have hsome : ([d] ++ rest).head?.bind (Lexeme.pair? c) = some kind := hc
    rw [Lexeme.next_of_isMark (Lexeme.mem_of_pair? hc), hsome]
    rfl
  exact (lexed_append hnext).trans (by rw [reading_symbol]; rfl)

/-- The terminal of a word. -/
def wordTerminal (cs : List Char) : Terminal :=
  ⟨(TokenKind.keyword? (String.ofList cs)).getD .identifier, String.ofList cs⟩

theorem isWord_wordTerminal (cs : List Char) : (wordTerminal cs).kind.isWord = true := by
  unfold wordTerminal
  cases hkey : TokenKind.keyword? (String.ofList cs) with
  | none => rfl
  | some kind =>
      have hmem : kind ∈ TokenKind.keywords := List.mem_of_find?_eq_some hkey
      rw [Option.getD_some, TokenKind.isWord, List.contains_iff_mem.mpr hmem, Bool.or_true]

/-- A word that is not too long is read as its terminal. -/
theorem terminal?_word {cs : List Char} (hlen : cs.length ≤ l.maxIdentifierLength) :
    Piece.terminal? l ⟨.word, cs⟩ = some (wordTerminal cs) := by
  unfold Piece.terminal? Located.token?
  dsimp only
  rw [if_neg (Nat.not_lt.mpr hlen)]
  rfl

theorem lexed_word
    {c : Char} {cs : List Char} (hc : Lexeme.isWordStart c = true)
    (hcs : ∀ d ∈ cs, Lexeme.isWordChar d = true)
    (hlen : (c :: cs).length ≤ l.maxIdentifierLength)
    (hrest : ∀ d ∈ rest.head?, Lexeme.isWordChar d = false) :
    lexed l (c :: cs ++ rest) = some (wordTerminal (c :: cs)) :: lexed l rest := by
  rw [lexed_append (Lexeme.next_word hc hcs hrest)]
  have hreading : Piece.reading l ⟨.word, c :: cs⟩ = [some (wordTerminal (c :: cs))] := by
    have hclean : Piece.clean l ⟨.word, c :: cs⟩ = true := decide_eq_true hlen
    rw [Piece.reading, hclean, terminal?_word hlen]
    rfl
  rw [hreading]
  rfl

theorem lexed_string {cs : List Char} (rest : List Char) (hlen : cs.length ≤ l.maxStringLength) :
    lexed l ('"' :: cs.flatMap quotedChar ++ '"' :: rest) =
      some ⟨.string, String.ofList cs⟩ :: lexed l rest := by
  have hnext : Lexeme.next '"' (cs.flatMap quotedChar ++ ['"'] ++ rest) =
      (.string cs, (cs.flatMap quotedChar ++ ['"']).length + 1) := by
    rw [List.append_assoc]
    exact Lexeme.next_string cs
  have happend := lexed_append (l := l) hnext
  have hreading (chars : List Char) :
      Piece.reading l ⟨.string cs, chars⟩ = [some ⟨.string, String.ofList cs⟩] := by
    have hclean : Piece.clean l ⟨.string cs, chars⟩ = true := decide_eq_true hlen
    have hterminal : Piece.terminal? l ⟨.string cs, chars⟩ =
        some ⟨.string, String.ofList cs⟩ := by
      change some (Terminal.mk .string (String.ofList (cs.take l.maxStringLength))) = _
      rw [List.take_of_length_le hlen]
    rw [Piece.reading, hclean, hterminal]
    rfl
  rw [hreading, List.cons_append, List.append_assoc] at happend
  exact happend

theorem Lexeme.isDigit_eq_false {c : Char} (hc : Lexeme.isWordChar c = false) :
    Decimal.isDigit c = false := by
  unfold Lexeme.isWordChar Char.isAlphanum at hc
  rw [Bool.or_eq_false_iff, Bool.or_eq_false_iff] at hc
  exact hc.1.2

theorem Lexeme.numberLength_numeral
    {cs : List Char} (hcs : Decimal.Numeral cs)
    (hrest : ∀ d ∈ rest.head?, Lexeme.isWordChar d = false ∧ d ≠ '.') :
    Lexeme.numberLength (cs ++ rest) = cs.length := by
  have hdigit : ∀ d ∈ rest.head?, Decimal.isDigit d = false := fun d hd =>
    Lexeme.isDigit_eq_false (hrest d hd).1
  cases hcs with
  | whole _ hne hds =>
      refine Lexeme.numberLength_whole hds hdigit fun d tail htail => ?_
      subst htail
      exact absurd rfl (hrest '.' rfl).2
  | fraction ds fs hds hfs hdne hfne =>
      rw [List.append_assoc, List.cons_append,
        Lexeme.numberLength_fraction hds hfs hfne hdigit, List.length_append, List.length_cons]
      omega

/-- A numeral in front of a text that does not continue it is one terminal. -/
theorem lexed_numeral
    {cs : List Char} (hcs : Decimal.Numeral cs)
    (hrest : ∀ d ∈ rest.head?, Lexeme.isWordChar d = false ∧ d ≠ '.') :
    lexed l (cs ++ rest) = some ⟨.number, String.ofList cs⟩ :: lexed l rest := by
  have hlength := Lexeme.numberLength_numeral hcs hrest
  obtain ⟨c, tail, rfl, hc⟩ := hcs.exists_cons
  have hnext : Lexeme.next c (tail ++ rest) = (.number, tail.length + 1) := by
    rw [Lexeme.next_number hc]
    exact congrArg _ hlength
  exact lexed_append hnext

theorem lexed_numeral_alone {cs : List Char} (hcs : Decimal.Numeral cs) :
    lexed l cs = [some ⟨.number, String.ofList cs⟩] := by
  have halone : lexed l (cs ++ []) = [some ⟨.number, String.ofList cs⟩] :=
    lexed_numeral hcs nofun
  rw [List.append_nil] at halone
  exact halone

end TraceCheck
