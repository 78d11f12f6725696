import TraceCheck.Proofs.Printing.Derivation

/-!
# Lexing printed expressions

The text of a well-formed expression is lexed as the terminals of its
derivation.  Only a number is lexed as whatever its spelling is lexed as, since
some doubles are not written as numerals.
-/

namespace TraceCheck

open TraceCheck.Reading

variable {l : Limits} {rest : List Char}

/-! ## Texts that can be joined -/

/-- What a terminal is lexed as. -/
def Terminal.relexed (l : Limits) (a : Terminal) : List (Option Terminal) :=
  if a.kind = .number then lexed l a.text.toList else [some a]

/-- What terminals are lexed as. -/
def relexed (l : Limits) (w : List Terminal) : List (Option Terminal) :=
  w.flatMap (Terminal.relexed l)

/-- A text begins with a character that continues no word, number or operator. -/
def Stops (rest : List Char) : Prop :=
  ∀ c ∈ rest.head?, Lexeme.isWordChar c = false ∧ c ≠ '.' ∧ c ≠ '='

/-- A text is lexed as some terminals in front of all that does not continue it. -/
def Lexes (l : Limits) (cs : List Char) (w : List Terminal) : Prop :=
  ∀ rest, Stops rest → lexed l (cs ++ rest) = relexed l w ++ lexed l rest

theorem relexed_append (v w : List Terminal) :
    relexed l (v ++ w) = relexed l v ++ relexed l w :=
  List.flatMap_append

theorem relexed_cons {a : Terminal} (ha : a.kind ≠ .number) (w : List Terminal) :
    relexed l (a :: w) = some a :: relexed l w := by
  unfold relexed
  rw [List.flatMap_cons, Terminal.relexed, if_neg ha]
  rfl

theorem relexed_fixed (kind : TokenKind) (hkind : kind ≠ .number) (w : List Terminal) :
    relexed l (.fixed kind :: w) = some (.fixed kind) :: relexed l w :=
  relexed_cons hkind w

theorem stops_nil : Stops [] := nofun

theorem stops_cons {c : Char} (hc : c ∈ [' ', ')', ']', ',']) : Stops (c :: rest) := by
  have hfacts : ([' ', ')', ']', ','].all fun d =>
      !Lexeme.isWordChar d && d != '.' && d != '=') = true := by
    decide
  have hstop := List.all_eq_true.mp hfacts c hc
  simp only [Bool.and_eq_true, Bool.not_eq_true', bne_iff_ne] at hstop
  intro d hd
  obtain rfl : c = d := by simpa using hd
  exact ⟨hstop.1.1, hstop.1.2, hstop.2⟩

theorem Lexes.blank
    {cs ds : List Char} {v w : List Terminal} (hcs : Lexes l cs v) (hds : Lexes l ds w) :
    Lexes l (cs ++ ' ' :: ds) (v ++ w) := by
  intro rest hrest
  rw [List.append_assoc, List.cons_append, hcs _ (stops_cons (by decide)), lexed_blank,
    hds rest hrest, relexed_append, List.append_assoc]

theorem Lexes.lexed_eq {cs : List Char} {w : List Terminal} (h : Lexes l cs w) :
    lexed l cs = relexed l w := by
  have hnil := h [] stops_nil
  rw [List.append_nil] at hnil
  rw [hnil]
  exact List.append_nil _

/-! ## Words and marks -/

theorem IsSegment.exists_cons {cs : List Char} (h : IsSegment l cs) :
    ∃ c tail, cs = c :: tail ∧ Lexeme.isWordStart c = true ∧
      ∀ d ∈ tail, Lexeme.isWordChar d = true := by
  cases cs with
  | nil => cases h.begins
  | cons c tail => exact ⟨c, tail, rfl, h.begins, (List.forall_mem_cons.mp h.continues).2⟩

theorem lexed_segment
    {cs : List Char} (hcs : IsSegment l cs)
    (hrest : ∀ d ∈ rest.head?, Lexeme.isWordChar d = false) :
    lexed l (cs ++ rest) = some (wordTerminal cs) :: lexed l rest := by
  obtain ⟨c, tail, rfl, hc, htail⟩ := hcs.exists_cons
  exact lexed_word hc htail hcs.short hrest

theorem lexed_segment_alone {cs : List Char} (hcs : IsSegment l cs) :
    lexed l cs = [some (wordTerminal cs)] := by
  have halone : lexed l (cs ++ []) = [some (wordTerminal cs)] := lexed_segment hcs nofun
  rw [List.append_nil] at halone
  exact halone

/-- The words of printed texts that are no names. -/
def printedWords : List String :=
  TokenKind.keywords.map TokenKind.literal ++ [Comparator.contains.name, "NaN", "inf"]

/-- No such word has more than eight letters. -/
theorem isSegment_printedWord
    {word : String} (hword : word ∈ printedWords) (hl : 8 ≤ l.maxIdentifierLength) :
    IsSegment l word.toList := by
  have hfacts : ∀ w ∈ printedWords,
      w.toList.head?.any Lexeme.isWordStart = true ∧
        w.toList.all Lexeme.isWordChar = true ∧ w.toList.length ≤ 8 := by
    decide
  obtain ⟨hbegins, hcontinues, hshort⟩ := hfacts word hword
  exact ⟨hbegins, List.all_eq_true.mp hcontinues, Nat.le_trans hshort hl⟩

theorem wordTerminal_keyword {kind : TokenKind} (hkind : kind ∈ TokenKind.keywords) :
    wordTerminal kind.literal.toList = .fixed kind := by
  have hfacts : ∀ k ∈ TokenKind.keywords,
      wordTerminal k.literal.toList = .fixed k := by
    decide
  exact hfacts kind hkind

theorem lexed_keyword
    {kind : TokenKind} (hkind : kind ∈ TokenKind.keywords) (hl : 8 ≤ l.maxIdentifierLength)
    (hrest : ∀ d ∈ rest.head?, Lexeme.isWordChar d = false) :
    lexed l (kind.literal.toList ++ rest) = some (.fixed kind) :: lexed l rest := by
  have hword : kind.literal ∈ printedWords := List.mem_append_left _ (List.mem_map_of_mem hkind)
  rw [lexed_segment (isSegment_printedWord hword hl) hrest, wordTerminal_keyword hkind]

theorem Lexes.keyword
    (kind : TokenKind) (hkind : kind ∈ TokenKind.keywords) (hl : 8 ≤ l.maxIdentifierLength) :
    Lexes l kind.literal.toList [.fixed kind] := by
  intro rest hrest
  have hnumber : kind ≠ .number := by
    rintro rfl
    exact absurd hkind (by decide)
  rw [lexed_keyword hkind hl fun d hd => (hrest d hd).1, relexed_fixed kind hnumber]
  rfl

theorem lexed_mark
    {c : Char} {kind : TokenKind} (hc : Lexeme.single? c = some kind) (hlt : c ≠ '<')
    (hgt : c ≠ '>') :
    lexed l (c :: rest) = some (.fixed kind) :: lexed l rest := by
  refine lexed_single hc fun d _ => ?_
  unfold Lexeme.single? at hc
  unfold Lexeme.pair?
  split at hc <;> first | rfl | contradiction

/-! ## Names, comparators and values -/

theorem lexed_segments
    {cs : List Char} {css : List (List Char)} (hcss : ∀ ds ∈ cs :: css, IsSegment l ds)
    (hrest : ∀ d ∈ rest.head?, Lexeme.isWordChar d = false) :
    lexed l (['.'].intercalate (cs :: css) ++ rest) =
      relexed l (Grammar.Name.ofSegments (cs :: css)).terminals ++ lexed l rest := by
  obtain ⟨hcs, hothers⟩ := List.forall_mem_cons.mp hcss
  change _ = relexed l ((Grammar.Word.ofChars cs).terminal ::
    dottedTerminals (css.map .ofChars)) ++ _
  rw [relexed_cons (Grammar.Word.ofChars cs).kind_ne_number]
  induction css generalizing cs with
  | nil =>
      rw [List.intercalate_singleton, lexed_segment hcs hrest]
      rfl
  | cons ds css ih =>
      obtain ⟨hds, hall⟩ := List.forall_mem_cons.mp hothers
      have htail := ih hothers hds hall
      have hdot : ∀ d ∈ (['.'] ++ (['.'].intercalate (ds :: css) ++ rest)).head?,
          Lexeme.isWordChar d = false := by
        intro d hd
        obtain rfl : '.' = d := by simpa using hd
        rfl
      rw [List.intercalate_cons_cons, List.append_assoc, List.append_assoc,
        lexed_segment hcs hdot, List.singleton_append, lexed_mark rfl (by decide) (by decide),
        htail, List.map_cons, dottedTerminals_cons, relexed_fixed .dot (by decide),
        relexed_cons (Grammar.Word.ofChars ds).kind_ne_number]
      rfl

theorem IsName.lexes {name : String} (hname : IsName l name) :
    Lexes l name.toList (Grammar.Name.ofText name).terminals := by
  intro rest hrest
  have hjoin : name.toList = ['.'].intercalate (segments name) :=
    (List.intercalate_splitOn '.').symm
  obtain ⟨cs, css, hcss⟩ := List.exists_cons_of_ne_nil (List.splitOn_ne_nil '.' name.toList)
  have hsegments : segments name = cs :: css := hcss
  unfold IsName at hname
  unfold Grammar.Name.ofText
  rw [hsegments] at hname hjoin ⊢
  rw [hjoin]
  exact lexed_segments hname fun d hd => (hrest d hd).1

theorem LogicalOp.lexes (op : LogicalOp) (hl : 8 ≤ l.maxIdentifierLength) :
    Lexes l op.name.toList [op.terminal] := by
  cases op with
  | and => exact Lexes.keyword .and (by decide) hl
  | or => exact Lexes.keyword .or (by decide) hl

theorem Comparator.lexes (op : Comparator) (hl : 8 ≤ l.maxIdentifierLength) :
    Lexes l op.name.toList [op.terminal] := by
  have hpair {c d : Char} {kind : TokenKind} (hc : Lexeme.pair? c d = some kind)
      (hkind : kind ≠ .number) : Lexes l [c, d] [.fixed kind] := by
    intro rest _
    rw [relexed_fixed kind hkind]
    exact lexed_pair hc
  have hsingle {c : Char} {kind : TokenKind} (hc : Lexeme.single? c = some kind)
      (hpair : ∀ d, d ≠ '=' → Lexeme.pair? c d = none) (hkind : kind ≠ .number) :
      Lexes l [c] [.fixed kind] := by
    intro rest hrest
    rw [relexed_fixed kind hkind]
    exact lexed_single hc fun d hd => hpair d (hrest d hd).2.2
  cases op with
  | eq => exact hpair rfl nofun
  | notEq => exact hpair rfl nofun
  | gt => exact hsingle rfl (fun d hd => by simp [Lexeme.pair?, hd]) nofun
  | gte => exact hpair rfl nofun
  | lt => exact hsingle rfl (fun d hd => by simp [Lexeme.pair?, hd]) nofun
  | lte => exact hpair rfl nofun
  | «in» => exact Lexes.keyword .in (by decide) hl
  | «matches» => exact Lexes.keyword .matches (by decide) hl
  | contains =>
      intro rest hrest
      have hword : Comparator.contains.name ∈ printedWords := by decide
      rw [lexed_segment (isSegment_printedWord hword hl) fun d hd => (hrest d hd).1]
      rfl

/-- A double is lexed alike wherever its text stands, even if it is no numeral. -/
theorem lexed_positional (x : Float) (hl : 8 ≤ l.maxIdentifierLength) (hrest : Stops rest) :
    lexed l ((Decimal.positional x).toList ++ rest) =
      lexed l (Decimal.positional x).toList ++ lexed l rest := by
  have hnumeral {cs : List Char} (hcs : Decimal.Numeral cs) :
      lexed l (cs ++ rest) = lexed l cs ++ lexed l rest := by
    have hstop : ∀ d ∈ rest.head?, Lexeme.isWordChar d = false ∧ d ≠ '.' := fun d hd =>
      ⟨(hrest d hd).1, (hrest d hd).2.1⟩
    rw [lexed_numeral hcs hstop, lexed_numeral_alone hcs]
    rfl
  have hword {word : String} (hprinted : word ∈ printedWords) :
      lexed l (word.toList ++ rest) = lexed l word.toList ++ lexed l rest := by
    have hsegment := isSegment_printedWord hprinted hl
    rw [lexed_segment hsegment fun d hd => (hrest d hd).1, lexed_segment_alone hsegment]
    rfl
  rcases Decimal.isPlain_or_positional x with hx | hx | hx | ⟨cs, hx, hcs⟩
  · exact hnumeral hx.numeral
  · rw [hx]
    exact hword (by decide)
  · rw [hx]
    exact hword (by decide)
  · rw [hx, List.cons_append, lexed_minus, lexed_minus, List.cons_append]
    rcases hcs with rfl | hcs
    · rw [hword (by decide)]
    · rw [hnumeral hcs]

theorem lexes_number {spelling : String}
    (h : ∀ rest, Stops rest →
      lexed l (spelling.toList ++ rest) = lexed l spelling.toList ++ lexed l rest) :
    Lexes l spelling.toList [⟨.number, spelling⟩] := by
  intro rest hrest
  have hrelexed : relexed l [⟨.number, spelling⟩] = lexed l spelling.toList :=
    List.append_nil _
  rw [h rest hrest, hrelexed]

/-- A numeral is one terminal in front of all that does not continue it. -/
theorem lexes_numeral {cs : List Char} (hcs : Decimal.Numeral cs) :
    Lexes l cs [⟨.number, String.ofList cs⟩] := by
  have hspelling : Lexes l (String.ofList cs).toList [⟨.number, String.ofList cs⟩] := by
    refine lexes_number fun rest hrest => ?_
    rw [String.toList_ofList, lexed_numeral_alone hcs,
      lexed_numeral hcs fun d hd => ⟨(hrest d hd).1, (hrest d hd).2.1⟩]
    rfl
  rwa [String.toList_ofList] at hspelling

theorem toList_quotedLiteral (s : String) :
    (quotedLiteral s).toList = '"' :: s.toList.flatMap quotedChar ++ ['"'] :=
  String.toList_ofList

theorem lexes_quotedLiteral {s : String} (hs : s.length ≤ l.maxStringLength) :
    Lexes l (quotedLiteral s).toList [⟨.string, s⟩] := by
  intro rest _
  have hstring := lexed_string rest (show s.toList.length ≤ l.maxStringLength from hs)
  have hkind : (Terminal.mk .string s).kind ≠ .number := by simp
  rw [String.ofList_toList] at hstring
  rw [toList_quotedLiteral, relexed_cons hkind, List.append_assoc]
  exact hstring

theorem Literal.IsScalar.lexes
    {x : Literal} (hx : x.IsScalar l) (hl : 8 ≤ l.maxIdentifierLength) :
    Lexes l x.text.toList [x.scalar.terminal] := by
  cases hx with
  | string s hlen => exact lexes_quotedLiteral hlen
  | number y => exact lexes_number fun rest hrest => lexed_positional y hl hrest
  | bool b =>
      cases b with
      | true => exact Lexes.keyword .true (by decide) hl
      | false => exact Lexes.keyword .false (by decide) hl

theorem lexed_items
    {items : List Literal} (rest : List Char) (hitems : ∀ x ∈ items, x.IsScalar l)
    (hl : 8 ≤ l.maxIdentifierLength) :
    lexed l ([',', ' '].intercalate ((literalTexts items).map String.toList) ++ ']' :: rest) =
      relexed l (Grammar.itemTerminals (items.map Literal.scalar)) ++ lexed l rest := by
  have hclose : relexed l [.fixed .rBracket] ++ lexed l rest =
      some (.fixed .rBracket) :: lexed l rest := by
    rw [relexed_fixed .rBracket (by decide)]
    rfl
  induction items with
  | nil => exact (lexed_mark rfl (by decide) (by decide)).trans hclose.symm
  | cons x items ih =>
      obtain ⟨hx, hall⟩ := List.forall_mem_cons.mp hitems
      have hfirst := hx.lexes hl
      cases items with
      | nil =>
          rw [literalTexts, literalTexts, List.map_singleton, List.intercalate_singleton,
            hfirst _ (stops_cons (by decide)), lexed_mark rfl (by decide) (by decide), ← hclose,
            List.map_singleton, itemTerminals_singleton, relexed_append, List.append_assoc]
      | cons y items =>
          have htail := ih hall
          rw [literalTexts, List.map_cons] at htail ⊢
          rw [literalTexts, List.map_cons, List.intercalate_cons_cons, List.append_assoc,
            List.append_assoc, List.cons_append, List.singleton_append,
            hfirst _ (stops_cons (by decide)), lexed_mark rfl (by decide) (by decide),
            lexed_blank, htail,
            List.map_cons, List.map_cons, List.map_cons, itemTerminals_cons_cons, relexed_append,
            List.append_assoc, List.singleton_append, relexed_fixed .comma (by decide)]
          rfl

theorem Comparator.Takes.lexes
    {op : Comparator} {x : Literal} (hx : op.Takes l x) (hl : 8 ≤ l.maxIdentifierLength) :
    Lexes l x.text.toList x.value.terminals := by
  cases hx with
  | pattern p hvet hlen => exact lexes_quotedLiteral hlen
  | search s hlen => exact lexes_quotedLiteral hlen
  | list items hitems =>
      intro rest _
      have htext : (Literal.list items).text.toList ++ rest =
          '[' :: ([',', ' '].intercalate ((literalTexts items).map String.toList) ++
            ']' :: rest) := by
        simp [Literal.text, String.toList_intercalate]
      rw [htext, lexed_mark rfl (by decide) (by decide), lexed_items rest hitems hl]
      exact congrArg (· ++ lexed l rest) (relexed_fixed .lBracket (by decide) _).symm
  | scalar op x hmatches hcontains hx =>
      rw [hx.value_eq]
      exact hx.lexes hl

/-! ## Clauses and checks -/

theorem Clause.IsWellFormed.lexes
    {c : Clause} (hc : c.IsWellFormed l) (hl : 8 ≤ l.maxIdentifierLength) :
    Lexes l c.text.toList c.derivation.terminals := by
  obtain ⟨name, test, negated⟩ := c
  obtain ⟨hname, htest⟩ := hc
  have hplain : Lexes l (Clause.text ⟨name, test, false⟩).toList
      ((Grammar.Name.ofText name).terminals ++ test.derivation.terminals) := by
    cases test with
    | truthy =>
        have hnone : (Test.truthy).derivation.terminals = [] := rfl
        rw [hnone, List.append_nil]
        exact hname.lexes
    | compare op x =>
        have htext : (Clause.text ⟨name, .compare op x, false⟩).toList =
            name.toList ++ ' ' :: (op.name.toList ++ ' ' :: x.text.toList) := by
          simp [Clause.text]
        rw [htext]
        exact hname.lexes.blank ((op.lexes hl).blank (htest.lexes hl))
  cases negated with
  | false => exact hplain
  | true =>
      have htext : (Clause.text ⟨name, test, true⟩).toList =
          TokenKind.not.literal.toList ++ ' ' :: (Clause.text ⟨name, test, false⟩).toList := by
        simp [Clause.text, TokenKind.literal]
      rw [htext]
      exact (Lexes.keyword .not (by decide) hl).blank hplain

theorem lexed_call
    {kind : TokenKind} {cs : List Char} {w : List Terminal} (rest : List Char)
    (hkind : kind ∈ TokenKind.keywords) (hl : 8 ≤ l.maxIdentifierLength) (h : Lexes l cs w) :
    lexed l ('.' :: (kind.literal.toList ++ '(' :: (cs ++ ')' :: rest))) =
      relexed l (.fixed .dot :: .fixed kind :: Grammar.parenthesized w) ++ lexed l rest := by
  have hnumber : kind ≠ .number := by
    rintro rfl
    exact absurd hkind (by decide)
  have hparen : ∀ d ∈ ('(' :: (cs ++ ')' :: rest)).head?, Lexeme.isWordChar d = false := by
    intro d hd
    obtain rfl : '(' = d := by simpa using hd
    rfl
  rw [lexed_mark rfl (by decide) (by decide), lexed_keyword hkind hl hparen,
    lexed_mark rfl (by decide) (by decide), h _ (stops_cons (by decide)),
    lexed_mark rfl (by decide) (by decide), relexed_fixed .dot (by decide),
    relexed_fixed kind hnumber, Grammar.parenthesized, relexed_fixed .lParen (by decide),
    relexed_append, relexed_fixed .rParen (by decide)]
  simp [relexed]

theorem lexed_trace
    {kind : TokenKind} {cs : List Char} {w : List Terminal} (rest : List Char)
    (hkind : kind ∈ TokenKind.keywords) (hl : 8 ≤ l.maxIdentifierLength) (h : Lexes l cs w) :
    lexed l ("trace".toList ++ '.' :: (kind.literal.toList ++ '(' :: (cs ++ ')' :: rest))) =
      relexed l (.fixed .trace :: .fixed .dot :: .fixed kind :: Grammar.parenthesized w) ++
        lexed l rest := by
  have htrace : TokenKind.trace ∈ TokenKind.keywords := by decide
  have hdot : ∀ d ∈ ('.' :: (kind.literal.toList ++ '(' :: (cs ++ ')' :: rest))).head?,
      Lexeme.isWordChar d = false := by
    intro d hd
    obtain rfl : '.' = d := by simpa using hd
    rfl
  rw [show "trace" = TokenKind.trace.literal from rfl, lexed_keyword htrace hl hdot,
    lexed_call rest hkind hl h, relexed_fixed .trace (by decide)]
  rfl

theorem lexes_countText {name : String} (hname : IsName l name) (hl : 8 ≤ l.maxIdentifierLength) :
    Lexes l (countText name).toList (Grammar.countTerminals (.ofText name)) := by
  intro rest _
  have htext : (countText name).toList ++ rest =
      "trace".toList ++ '.' :: (TokenKind.count.literal.toList ++
        '(' :: (name.toList ++ ')' :: rest)) := by
    simp [countText, TokenKind.literal]
  rw [htext, lexed_trace rest (by decide) hl hname.lexes]
  rfl

theorem CountOperand.IsWellFormed.lexes
    {o : CountOperand} (ho : o.IsWellFormed l) (hl : 8 ≤ l.maxIdentifierLength) :
    Lexes l o.text.toList o.derivation.terminals := by
  cases o with
  | literal n =>
      have hnumeral := lexes_numeral (l := l) (Decimal.numeral_toString n)
      rwa [String.ofList_toList] at hnumeral
  | count name => exact lexes_countText ho hl

theorem lexed_clauses
    {cs : List Clause} (rest : List Char) (hcs : ∀ c ∈ cs, c.IsWellFormed l)
    (hl : 8 ≤ l.maxIdentifierLength) :
    lexed l ((String.join (cs.map fun c => ".where(" ++ c.text ++ ")")).toList ++ rest) =
      relexed l ((cs.map Clause.derivation).flatMap Grammar.Clause.whereTerminals) ++
        lexed l rest := by
  induction cs with
  | nil => rfl
  | cons c cs ih =>
      obtain ⟨hc, hall⟩ := List.forall_mem_cons.mp hcs
      have htext (rest : List Char) : (".where(" ++ c.text ++ ")").toList ++ rest =
          '.' :: (TokenKind.where.literal.toList ++ '(' :: (c.text.toList ++ ')' :: rest)) := by
        simp [TokenKind.literal]
      rw [List.map_cons, String.join_cons, String.toList_append, List.append_assoc, htext,
        lexed_call _ (by decide) hl (hc.lexes hl), ih hall, List.map_cons, List.flatMap_cons,
        relexed_append, List.append_assoc]
      rfl

/-! ## Expressions -/

namespace Expr

theorem IsTerm.lexes
    {t : Expr} (ht : t.IsTerm l) (hl : 8 ≤ l.maxIdentifierLength) :
    Lexes l t.text.toList t.term.terminals := by
  induction ht with
  | not e _ ih =>
      have htext : (Expr.not e).text.toList =
          TokenKind.not.literal.toList ++ ' ' :: e.text.toList := by
        simp [Expr.text, TokenKind.literal]
      rw [htext]
      exact (Lexes.keyword .not (by decide) hl).blank ih
  | has name clauses hname hclauses =>
      intro rest hrest
      have htext : (Expr.has name clauses).text.toList ++ rest =
          "trace".toList ++ '.' :: (TokenKind.has.literal.toList ++ '(' :: (name.toList ++
            ')' :: ((String.join (clauses.map fun c => ".where(" ++ c.text ++ ")")).toList ++
              rest))) := by
        simp [Expr.text, TokenKind.literal]
      rw [htext, lexed_trace _ (by decide) hl hname.lexes, lexed_clauses rest hclauses hl,
        ← List.append_assoc, ← relexed_append]
      rfl
  | count name op operand hname hop hoperand =>
      have htext : (Expr.count name op operand).text.toList =
          (countText name).toList ++ ' ' :: (op.name.toList ++ ' ' :: operand.text.toList) := by
        simp [Expr.text]
      rw [htext]
      exact (lexes_countText hname hl).blank ((op.lexes hl).blank (hoperand.lexes hl))

/-- The text of joined terms is lexed as the terminals of its derivation. -/
theorem lexes
    {e : Expr} (he : ∀ t ∈ e.terms, t.IsTerm l) (hl : 8 ≤ l.maxIdentifierLength) :
    Lexes l e.text.toList e.derivation.terminals := by
  have hterm {t : Expr} (ht : t.IsTerm l) :
      Lexes l t.text.toList (Grammar.Chain.mk t.term []).terminals := by
    rw [Grammar.Chain.terminals_single]
    exact ht.lexes hl
  induction e with
  | binary op left right ihl _ =>
      obtain ⟨hleft, hright⟩ := List.forall_mem_append.mp he
      have htext : (binary op left right).text.toList =
          left.text.toList ++ ' ' :: (op.name.toList ++ ' ' :: right.text.toList) := by
        simp [Expr.text]
      rw [htext, derivation, Grammar.Chain.terminals_append]
      exact (ihl hleft).blank
        ((op.lexes hl).blank ((List.forall_mem_singleton.mp hright).lexes hl))
  | not e _ => exact hterm (List.forall_mem_singleton.mp he)
  | has name clauses => exact hterm (List.forall_mem_singleton.mp he)
  | count name op operand => exact hterm (List.forall_mem_singleton.mp he)

end Expr

end TraceCheck
