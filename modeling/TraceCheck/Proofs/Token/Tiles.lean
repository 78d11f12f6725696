import TraceCheck.Proofs.Token.Lexing

/-!
# Tiles of a text

A rule text is made up of tiles: words, numbers, closed strings, operators and marks, and
between them blanks, comments, stray characters and a string that is open at the end.
`Lexeme.Spans` says, without regard to how a text is scanned, which characters a tile
takes when certain others stand behind it.  A text has exactly one tile at its start.
-/

namespace TraceCheck

open TraceCheck.Text

variable {x y : Lexeme} {c d : Char} {cs behind rest : List Char} {kind : TokenKind}

/-! ## What a tile takes -/

namespace Lexeme

/-- The operators and marks. -/
def marks : List TokenKind :=
  [.eq, .notEq, .gt, .gte, .lt, .lte, .lParen, .rParen, .lBracket, .rBracket, .dot, .comma]

/-- The characters between the quotes of a string and the content that they stand for: a
backslash takes quotes and backslashes as they are, and stays in front of others. -/
inductive Quotes : List Char → List Char → Prop where
  | nil : Quotes [] []
  | plain (c : Char) {body content : List Char} (hquote : c ≠ '"') (hslash : c ≠ '\\')
    (h : Quotes body content) : Quotes (c :: body) (c :: content)
  | escaped (c : Char) {body content : List Char} (hc : c = '"' ∨ c = '\\')
    (h : Quotes body content) : Quotes ('\\' :: c :: body) (c :: content)
  | kept (c : Char) {body content : List Char} (hc : ¬ (c = '"' ∨ c = '\\'))
    (h : Quotes body content) : Quotes ('\\' :: c :: body) ('\\' :: c :: content)

/-- A word begins with a letter or an underscore and goes on as far as it can. -/
structure IsWord (cs behind : List Char) : Prop where
  start : ∀ c ∈ cs.head?, isWordStart c = true
  nonempty : cs ≠ []
  chars : ∀ c ∈ cs, isWordChar c = true
  stops : ∀ c ∈ behind.head?, isWordChar c = false

/-- A number is the longest numeral from its start on. -/
structure IsNumber (cs behind : List Char) : Prop where
  numeral : Decimal.Numeral cs
  longest : ∀ more, more ≠ [] → more <+: behind → ¬ Decimal.Numeral (cs ++ more)

/-- A comment begins with two slashes and goes on to the end of its line. -/
structure IsComment (cs behind : List Char) : Prop where
  start : ['/', '/'] <+: cs
  chars : '\n' ∉ cs
  stops : ∀ c ∈ behind.head?, c = '\n'

/-- An operator or a mark is the longest one from its start on. -/
structure IsMark (kind : TokenKind) (cs behind : List Char) : Prop where
  mem : kind ∈ marks
  chars : cs = kind.literal.toList
  longest : ∀ k ∈ marks, k.literal.toList <+: cs ++ behind → k.literal.length ≤ cs.length

/-- A character is stray when it is no blank and nothing else begins with it. -/
structure IsStray (c : Char) (behind : List Char) : Prop where
  blank : isBlank c = false
  word : isWordStart c = false
  digit : Decimal.isDigit c = false
  quote : c ≠ '"'
  comment : ¬ ['/', '/'] <+: c :: behind
  mark : ∀ k ∈ marks, ¬ k.literal.toList <+: c :: behind

/-- A tile takes some characters when others stand behind them. -/
def Spans : Lexeme → List Char → List Char → Prop
  | .blank, cs, _ => ∃ c, isBlank c = true ∧ cs = [c]
  | .comment, cs, behind => IsComment cs behind
  | .word, cs, behind => IsWord cs behind
  | .number, cs, behind => IsNumber cs behind
  | .string content, cs, _ => ∃ body, Quotes body content ∧ cs = '"' :: (body ++ ['"'])
  | .openString, cs, behind =>
    behind = [] ∧ ∃ body content, Quotes body content ∧
      (cs = '"' :: body ∨ cs = '"' :: (body ++ ['\\']))
  | .symbol kind, cs, behind => IsMark kind cs behind
  | .stray c, cs, behind => cs = [c] ∧ IsStray c behind

/-! ## Strings -/

/-- The body of a string is scanned to the content that it stands for. -/
theorem scanString_append {body content : List Char} (h : Quotes body content)
    (tail before : List Char) (n : Nat) :
    scanString (body ++ tail) before n =
      scanString tail (content.reverse ++ before) (n + body.length) := by
  induction h generalizing before n with
  | nil => rfl
  | plain c hquote hslash h ih =>
      rw [List.cons_append, scanString, ih, List.length_cons, List.reverse_cons,
        List.append_assoc, List.singleton_append, Nat.add_assoc, Nat.add_comm 1]
      · exact hquote
      · exact fun heq _ => hslash heq
      · exact fun _ _ heq _ => hslash heq
  | escaped c hc h ih =>
      rw [List.cons_append, List.cons_append, scanString, if_pos hc, ih, List.length_cons,
        List.length_cons, List.reverse_cons, List.append_assoc, List.singleton_append,
        Nat.add_assoc, Nat.add_comm 2]
  | kept c hc h ih =>
      rw [List.cons_append, List.cons_append, scanString, if_neg hc, ih, List.length_cons,
        List.length_cons, List.reverse_cons, List.reverse_cons, List.append_assoc,
        List.append_assoc, List.singleton_append, List.singleton_append, Nat.add_assoc,
        Nat.add_comm 2]

/-- What follows a quote is closed by another one or open at the end. -/
def Closes (cs body : List Char) : Prop :=
  (∃ rest, cs = body ++ '"' :: rest) ∨ cs = body ∨ cs = body ++ ['\\']

theorem Closes.append {body : List Char} (h : Closes cs body) (front : List Char) :
    Closes (front ++ cs) (front ++ body) := by
  unfold Closes
  simp only [List.append_assoc, List.append_cancel_left_eq]
  exact h

theorem closes_quote (rest : List Char) : Closes ('"' :: rest) [] :=
  .inl ⟨rest, rfl⟩

theorem exists_quotes : ∀ cs : List Char, ∃ body content, Quotes body content ∧ Closes cs body
  | [] => ⟨[], [], .nil, .inr (.inl rfl)⟩
  | [c] => by
    by_cases hquote : c = '"'
    · exact ⟨[], [], .nil, hquote ▸ closes_quote []⟩
    by_cases hslash : c = '\\'
    · exact ⟨[], [], .nil, .inr (.inr (by rw [hslash]; rfl))⟩
    · exact ⟨[c], [c], .plain c hquote hslash .nil, .inr (.inl rfl)⟩
  | c :: d :: rest => by
    by_cases hquote : c = '"'
    · exact ⟨[], [], .nil, hquote ▸ closes_quote _⟩
    by_cases hslash : c = '\\'
    · subst hslash
      obtain ⟨body, content, hquotes, hcloses⟩ := exists_quotes rest
      by_cases hd : d = '"' ∨ d = '\\'
      · exact ⟨_, _, .escaped d hd hquotes, hcloses.append ['\\', d]⟩
      · exact ⟨_, _, .kept d hd hquotes, hcloses.append ['\\', d]⟩
    · obtain ⟨body, content, hquotes, hcloses⟩ := exists_quotes (d :: rest)
      exact ⟨_, _, .plain c hquote hslash hquotes, hcloses.append [c]⟩

/-! ## Numbers -/

/-- What stands behind the first digits of a numeral. -/
theorem tail_of_numeral
    {ds tail : List Char} (hds : ∀ c ∈ ds, Decimal.isDigit c = true)
    (htail : ∀ c ∈ tail.head?, Decimal.isDigit c = false) (h : Decimal.Numeral (ds ++ tail)) :
    tail = [] ∨ ∃ f fs, tail = '.' :: f :: fs ∧ ∀ c ∈ f :: fs, Decimal.isDigit c = true := by
  have hdrop := (Decimal.takeWhile_append_of_stop tail hds htail).2
  generalize ds ++ tail = cs at h hdrop
  cases h with
  | whole _ _ hall =>
      left
      rw [← hdrop]
      exact List.dropWhile_eq_nil_iff.mpr hall
  | fraction ds' fs hds' hfs _ hfne =>
      right
      have hpoint : ∀ c ∈ ('.' :: fs).head?, Decimal.isDigit c = false :=
        fun c hc => Option.some_inj.mp hc ▸ (by decide : Decimal.isDigit '.' = false)
      rw [(Decimal.takeWhile_append_of_stop _ hds' hpoint).2] at hdrop
      obtain ⟨f, fs, rfl⟩ := List.exists_cons_of_ne_nil hfne
      exact ⟨f, fs, hdrop.symm, hfs⟩

/-- Digits are the longest numeral unless a digit or a point with a digit follows. -/
theorem isNumber_whole {ds : List Char} (hne : ds ≠ [])
    (hds : ∀ c ∈ ds, Decimal.isDigit c = true)
    (hstop : ∀ c ∈ behind.head?, Decimal.isDigit c = false)
    (hpoint : ∀ d tail, behind = '.' :: d :: tail → Decimal.isDigit d = false) :
    IsNumber ds behind := by
  refine ⟨.whole ds hne hds, ?_⟩
  rintro more hmore ⟨rest, rfl⟩ hlonger
  obtain ⟨c, more, rfl⟩ := List.exists_cons_of_ne_nil hmore
  have hstop' : ∀ c' ∈ (c :: more).head?, Decimal.isDigit c' = false := hstop
  rcases tail_of_numeral hds hstop' hlonger with hnil | ⟨f, fs, hcons, hfs⟩
  · cases hnil
  · rw [hcons] at hpoint
    have hf := hpoint f _ rfl
    rw [hfs f List.mem_cons_self] at hf
    cases hf

/-- Digits around a point are the longest numeral unless a digit follows. -/
theorem isNumber_fraction {ds fs : List Char} (hdne : ds ≠ []) (hfne : fs ≠ [])
    (hds : ∀ c ∈ ds, Decimal.isDigit c = true) (hfs : ∀ c ∈ fs, Decimal.isDigit c = true)
    (hstop : ∀ c ∈ behind.head?, Decimal.isDigit c = false) :
    IsNumber (ds ++ '.' :: fs) behind := by
  refine ⟨.fraction ds fs hds hfs hdne hfne, ?_⟩
  rintro more hmore ⟨rest, rfl⟩ hlonger
  obtain ⟨c, more, rfl⟩ := List.exists_cons_of_ne_nil hmore
  have hpoint : ∀ c' ∈ ('.' :: (fs ++ c :: more)).head?, Decimal.isDigit c' = false :=
    fun c' hc' => Option.some_inj.mp hc' ▸ (by decide : Decimal.isDigit '.' = false)
  rw [List.append_assoc, List.cons_append] at hlonger
  rcases tail_of_numeral hds hpoint hlonger with hnil | ⟨f, fs', hcons, hall⟩
  · cases hnil
  · injection hcons with _ hcons
    have hc := hall c (hcons ▸ List.mem_append_right fs List.mem_cons_self)
    rw [hstop c rfl] at hc
    cases hc

theorem exists_span_cons {p : Char → Bool} (hc : p c = true) (rest : List Char) :
    ∃ xs ys, c :: rest = xs ++ ys ∧ xs ≠ [] ∧ (∀ x ∈ xs, p x = true) ∧
      ∀ y ∈ ys.head?, p y = false := by
  obtain ⟨xs, ys, hsplit, hxs, hstop⟩ := exists_span p (c :: rest)
  refine ⟨xs, ys, hsplit, ?_, hxs, hstop⟩
  rintro rfl
  rw [List.nil_append] at hsplit
  rw [hstop c (hsplit ▸ rfl)] at hc
  cases hc

theorem exists_isNumber (hc : Decimal.isDigit c = true) (rest : List Char) :
    ∃ cs behind, c :: rest = cs ++ behind ∧ IsNumber cs behind := by
  obtain ⟨ds, tail, hsplit, hne, hds, hstop⟩ := exists_span_cons hc rest
  by_cases hpoint : ∃ d tail', tail = '.' :: d :: tail' ∧ Decimal.isDigit d = true
  · obtain ⟨d, tail', rfl, hd⟩ := hpoint
    obtain ⟨fs, behind, hsplit', hfne, hfs, hstop'⟩ := exists_span_cons hd tail'
    refine ⟨ds ++ '.' :: fs, behind, ?_, isNumber_fraction hne hfne hds hfs hstop'⟩
    rw [hsplit, hsplit', List.append_assoc, List.cons_append]
  · refine ⟨ds, tail, hsplit, isNumber_whole hne hds hstop fun d tail' heq => ?_⟩
    exact Bool.eq_false_iff.mpr fun hd => hpoint ⟨d, tail', heq, hd⟩

theorem IsNumber.not_numeral_concat (h : IsNumber cs behind) (hd : d ∈ behind.head?) :
    ¬ Decimal.Numeral (cs ++ [d]) := by
  obtain ⟨tail, rfl⟩ := List.head?_eq_some_iff.mp hd
  exact h.longest [d] (List.cons_ne_nil d []) (List.prefix_append [d] tail)

theorem IsNumber.numberLength_eq (h : IsNumber cs behind) :
    numberLength (cs ++ behind) = cs.length := by
  cases h.numeral with
  | whole _ hne hds =>
      refine numberLength_whole hds (fun d hd => ?_) (fun d tail htail => ?_)
      · refine Bool.eq_false_iff.mpr fun hdigit => h.not_numeral_concat hd ?_
        exact .whole _ (List.append_ne_nil_of_left_ne_nil hne [d])
          (List.forall_mem_append.mpr ⟨hds, List.forall_mem_singleton.mpr hdigit⟩)
      · refine Bool.eq_false_iff.mpr fun hdigit =>
          h.longest ['.', d] (List.cons_ne_nil '.' [d]) ⟨tail, htail.symm⟩ ?_
        exact .fraction cs [d] hds (List.forall_mem_singleton.mpr hdigit) hne
          (List.cons_ne_nil d [])
  | fraction ds fs hds hfs hdne hfne =>
      have hstop : ∀ d ∈ behind.head?, Decimal.isDigit d = false := by
        intro d hd
        refine Bool.eq_false_iff.mpr fun hdigit => h.not_numeral_concat hd ?_
        rw [List.append_assoc, List.cons_append]
        exact .fraction ds (fs ++ [d]) hds (List.forall_mem_append.mpr
          ⟨hfs, List.forall_mem_singleton.mpr hdigit⟩) hdne
          (List.append_ne_nil_of_left_ne_nil hfne [d])
      rw [List.append_assoc, List.cons_append, numberLength_fraction hds hfs hfne hstop,
        List.length_append, List.length_cons]
      omega

/-! ## Operators and marks -/

theorem pair?_eq_some_iff :
    pair? c d = some kind ↔ kind ∈ marks ∧ kind.literal.toList = [c, d] := by
  constructor
  · intro h
    unfold pair? at h
    split at h <;> cases h <;> exact ⟨by decide, by decide⟩
  · rintro ⟨hmem, hliteral⟩
    simp only [marks, List.mem_cons, List.not_mem_nil, or_false] at hmem
    rcases hmem with rfl | rfl | rfl | rfl | rfl | rfl | rfl | rfl | rfl | rfl | rfl | rfl <;>
      cases hliteral <;> rfl

theorem single?_eq_some_iff :
    single? c = some kind ↔ kind ∈ marks ∧ kind.literal.toList = [c] := by
  constructor
  · intro h
    unfold single? at h
    split at h <;> cases h <;> exact ⟨by decide, by decide⟩
  · rintro ⟨hmem, hliteral⟩
    simp only [marks, List.mem_cons, List.not_mem_nil, or_false] at hmem
    rcases hmem with rfl | rfl | rfl | rfl | rfl | rfl | rfl | rfl | rfl | rfl | rfl | rfl <;>
      cases hliteral <;> rfl

theorem literal_cases (h : kind ∈ marks) :
    (∃ c, kind.literal.toList = [c]) ∨ ∃ c d, kind.literal.toList = [c, d] := by
  simp only [marks, List.mem_cons, List.not_mem_nil, or_false] at h
  rcases h with rfl | rfl | rfl | rfl | rfl | rfl | rfl | rfl | rfl | rfl | rfl | rfl <;>
    first | exact .inl ⟨_, rfl⟩ | exact .inr ⟨_, _, rfl⟩

/-- A mark at the start of a text has one character or two. -/
theorem mark_of_prefix (hkind : kind ∈ marks) (h : kind.literal.toList <+: c :: rest) :
    single? c = some kind ∨ ∃ d ∈ rest.head?, pair? c d = some kind := by
  obtain ⟨tail, htail⟩ := h
  rcases literal_cases hkind with ⟨c', hliteral⟩ | ⟨c', d, hliteral⟩
  · rw [hliteral] at htail
    injection htail with hc
    subst hc
    exact .inl (single?_eq_some_iff.mpr ⟨hkind, hliteral⟩)
  · rw [hliteral] at htail
    injection htail with hc htail
    subst hc htail
    exact .inr ⟨d, rfl, pair?_eq_some_iff.mpr ⟨hkind, hliteral⟩⟩

theorem isMark_of_pair? (h : pair? c d = some kind) (behind : List Char) :
    IsMark kind [c, d] behind := by
  obtain ⟨hkind, hliteral⟩ := pair?_eq_some_iff.mp h
  refine ⟨hkind, hliteral.symm, fun k hk _ => ?_⟩
  rw [← String.length_toList]
  rcases literal_cases hk with ⟨_, hk⟩ | ⟨_, _, hk⟩
  · rw [hk]
    exact Nat.le_succ 1
  · rw [hk]
    exact Nat.le_refl 2

theorem isMark_of_single?
    (h : single? c = some kind) (hpair : ∀ d ∈ behind.head?, pair? c d = none) :
    IsMark kind [c] behind := by
  obtain ⟨hkind, hliteral⟩ := single?_eq_some_iff.mp h
  refine ⟨hkind, hliteral.symm, fun k hk hprefix => ?_⟩
  rcases mark_of_prefix hk hprefix with hsingle | ⟨d, hd, hsome⟩
  · rw [← String.length_toList, (single?_eq_some_iff.mp hsingle).2]
  · rw [hpair d hd] at hsome
    cases hsome

/-- No mark of two characters begins a text in which no mark of that length is a prefix. -/
theorem bind_pair?_eq_none
    (h : ∀ k ∈ marks, k.literal.toList.length = 2 → ¬ k.literal.toList <+: c :: rest) :
    rest.head?.bind (pair? c) = none := by
  refine Option.eq_none_iff_forall_ne_some.mpr fun k hk => ?_
  obtain ⟨d, hd, hpair⟩ := Option.bind_eq_some_iff.mp hk
  obtain ⟨hmem, hliteral⟩ := pair?_eq_some_iff.mp hpair
  obtain ⟨tail, rfl⟩ := List.head?_eq_some_iff.mp hd
  exact h k hmem (hliteral ▸ rfl) (hliteral ▸ List.prefix_append [c, d] tail)

theorem single?_eq_none (h : ∀ k ∈ marks, ¬ k.literal.toList <+: c :: rest) :
    single? c = none := by
  refine Option.eq_none_iff_forall_ne_some.mpr fun k hk => ?_
  obtain ⟨hmem, hliteral⟩ := single?_eq_some_iff.mp hk
  exact h k hmem (hliteral ▸ List.prefix_append [c] rest)

/-! ## The tile at the start of a text -/

theorem next_quote {content : List Char} {n : Nat} {closed : Bool}
    (h : scanString rest [] 1 = (content, n, closed)) :
    next '"' rest = (if closed then .string content else .openString, n) := by
  unfold next
  rw [if_neg (by decide), if_neg fun h => absurd h.1 (by decide), if_neg (by decide),
    if_pos rfl, h]
  cases closed <;> rfl

theorem next_eq_comment (h : IsComment (c :: cs) behind) :
    next c (cs ++ behind) = (.comment, cs.length + 1) := by
  obtain ⟨⟨body, hbody⟩, hchars, hstops⟩ := h
  injection hbody with hc hcs
  subst hc hcs
  have hline : ∀ d ∈ '/' :: '/' :: body, (d != '\n') = true := fun d hd =>
    bne_iff_ne.mpr fun heq => hchars (heq ▸ hd)
  have hend : ∀ d ∈ behind.head?, (d != '\n') = false := fun d hd =>
    bne_eq_false_iff_eq.mpr (hstops d hd)
  have htake := (Decimal.takeWhile_append_of_stop behind hline hend).1
  unfold next
  rw [if_neg (by decide), if_pos ⟨rfl, rfl⟩]
  exact congrArg (fun cs => (Lexeme.comment, cs.length)) htake

theorem next_eq_number (h : IsNumber (c :: cs) behind) :
    next c (cs ++ behind) = (.number, cs.length + 1) := by
  have hlength := h.numberLength_eq
  have hc : Decimal.isDigit c = true := by
    obtain ⟨c', rest, heq, hc'⟩ := h.numeral.exists_cons
    injection heq with heq
    rw [heq]
    exact hc'
  rw [next_number hc]
  exact congrArg _ hlength

theorem next_eq_string {body content : List Char} (h : Quotes body content)
    (behind : List Char) :
    next '"' (body ++ '"' :: behind) = (.string content, body.length + 2) := by
  have hscan : scanString (body ++ '"' :: behind) [] 1 = (content, body.length + 2, true) := by
    rw [scanString_append h, scanString, List.append_nil, List.reverse_reverse, Nat.add_comm 1]
  exact next_quote hscan

theorem next_eq_openString {body content tail : List Char} (h : Quotes body content)
    (htail : tail = [] ∨ tail = ['\\']) :
    next '"' (body ++ tail) = (.openString, (body ++ tail).length + 1) := by
  have hscan : scanString (body ++ tail) [] 1 =
      (content, (body ++ tail).length + 1, false) := by
    rw [scanString_append h, List.append_nil, List.length_append]
    rcases htail with rfl | rfl
    · rw [scanString, List.reverse_reverse, Nat.add_comm 1]
      rfl
    · rw [scanString, List.reverse_reverse, Nat.add_comm 1]
      rfl
  exact next_quote hscan

theorem next_eq_symbol (h : IsMark kind (c :: cs) behind) :
    next c (cs ++ behind) = (.symbol kind, cs.length + 1) := by
  obtain ⟨hkind, hchars, hlongest⟩ := h
  have hprefix : kind.literal.toList <+: c :: (cs ++ behind) := by
    rw [← hchars]
    exact List.prefix_append (c :: cs) behind
  rcases mark_of_prefix hkind hprefix with hsingle | ⟨d, hd, hpair⟩
  · obtain ⟨-, hliteral⟩ := single?_eq_some_iff.mp hsingle
    obtain rfl : cs = [] := by
      rw [hliteral] at hchars
      exact (List.cons.inj hchars).2
    have hnone : behind.head?.bind (pair? c) = none := by
      refine bind_pair?_eq_none fun k hk htwo hprefix => ?_
      have hle := hlongest k hk hprefix
      rw [← String.length_toList, htwo] at hle
      exact absurd hle (Nat.not_succ_le_self 1)
    rw [List.nil_append, next_of_isMark (mem_of_single? hsingle), hnone, hsingle]
    rfl
  · obtain ⟨-, hliteral⟩ := pair?_eq_some_iff.mp hpair
    obtain rfl : cs = [d] := by
      rw [hliteral] at hchars
      exact (List.cons.inj hchars).2
    have hsome : ([d] ++ behind).head?.bind (pair? c) = some kind := hpair
    rw [next_of_isMark (mem_of_pair? hpair), hsome]
    rfl

theorem next_eq_stray (h : IsStray c behind) : next c behind = (.stray c, 1) := by
  have hcomment : ¬ (c = '/' ∧ behind.head? = some '/') := by
    rintro ⟨rfl, hhead⟩
    obtain ⟨tail, rfl⟩ := List.head?_eq_some_iff.mp hhead
    exact h.comment (List.prefix_append ['/', '/'] tail)
  have hdigit : c.isDigit = false := h.digit
  unfold next
  rw [h.blank, if_neg nofun, if_neg hcomment, h.word, if_neg nofun, if_neg h.quote, hdigit,
    if_neg nofun, bind_pair?_eq_none fun k hk _ => h.mark k hk, single?_eq_none h.mark]

/-- What is found at the start of a text is the tile there. -/
theorem next_of_spans (h : x.Spans (c :: cs) behind) :
    next c (cs ++ behind) = (x, cs.length + 1) := by
  cases x with
  | blank =>
      obtain ⟨c', hblank, heq⟩ := h
      injection heq with hc hcs
      subst hc hcs
      rw [next, if_pos hblank]
      rfl
  | comment => exact next_eq_comment h
  | word =>
      obtain ⟨hstart, -, hchars, hstops⟩ := h
      exact next_word (hstart c rfl) (List.forall_mem_cons.mp hchars).2 hstops
  | number => exact next_eq_number h
  | string content =>
      obtain ⟨body, hquotes, heq⟩ := h
      injection heq with hc hcs
      subst hc hcs
      rw [List.append_assoc, List.length_append]
      exact next_eq_string hquotes behind
  | openString =>
      obtain ⟨rfl, body, content, hquotes, heq | heq⟩ := h
      · injection heq with hc hcs
        subst hc hcs
        have hopen := next_eq_openString hquotes (.inl rfl)
        rwa [List.append_nil] at hopen ⊢
      · injection heq with hc hcs
        subst hc hcs
        rw [List.append_nil]
        exact next_eq_openString hquotes (.inr rfl)
  | symbol kind => exact next_eq_symbol h
  | stray c' =>
      obtain ⟨heq, hstray⟩ := h
      injection heq with hc hcs
      subst hc hcs
      exact next_eq_stray hstray

/-- What begins with no mark is stray, if nothing else begins there. -/
theorem exists_mark_or_stray (hblank : isBlank c = false) (hword : isWordStart c = false)
    (hdigit : Decimal.isDigit c = false) (hquote : c ≠ '"')
    (hcomment : ¬ ['/', '/'] <+: c :: rest) :
    (∃ kind cs behind, rest = cs ++ behind ∧ IsMark kind (c :: cs) behind) ∨
      IsStray c rest := by
  cases hpair : rest.head?.bind (pair? c) with
  | some kind =>
      obtain ⟨d, hd, hsome⟩ := Option.bind_eq_some_iff.mp hpair
      obtain ⟨tail, rfl⟩ := List.head?_eq_some_iff.mp hd
      exact .inl ⟨kind, [d], tail, rfl, isMark_of_pair? hsome tail⟩
  | none =>
      have hnone : ∀ d ∈ rest.head?, pair? c d = none := by
        intro d hd
        rw [Option.mem_def.mp hd] at hpair
        exact hpair
      cases hsingle : single? c with
      | some kind => exact .inl ⟨kind, [], rest, rfl, isMark_of_single? hsingle hnone⟩
      | none =>
          refine .inr ⟨hblank, hword, hdigit, hquote, hcomment, fun k hk hprefix => ?_⟩
          rcases mark_of_prefix hk hprefix with hsome | ⟨d, hd, hsome⟩
          · rw [hsingle] at hsome
            cases hsome
          · rw [hnone d hd] at hsome
            cases hsome

/-- Some tile stands at the start of every text. -/
theorem exists_spans (c : Char) (rest : List Char) :
    ∃ x cs behind, rest = cs ++ behind ∧ Spans x (c :: cs) behind := by
  by_cases hblank : isBlank c = true
  · exact ⟨.blank, [], rest, rfl, c, hblank, rfl⟩
  by_cases hcomment : ['/', '/'] <+: c :: rest
  · obtain ⟨tail, htail⟩ := hcomment
    injection htail with hc hrest
    subst hc hrest
    obtain ⟨cs, behind, rfl, hcs, hstop⟩ := exists_span (· != '\n') tail
    refine ⟨.comment, '/' :: cs, behind, rfl, List.prefix_append ['/', '/'] cs, ?_, ?_⟩
    · intro hmem
      rcases List.mem_cons.mp hmem with heq | hmem
      · cases heq
      rcases List.mem_cons.mp hmem with heq | hmem
      · cases heq
      · exact absurd (hcs _ hmem) (by decide)
    · exact fun d hd => bne_eq_false_iff_eq.mp (hstop d hd)
  by_cases hword : isWordStart c = true
  · obtain ⟨cs, behind, rfl, hcs, hstop⟩ := exists_span isWordChar rest
    refine ⟨.word, cs, behind, rfl, ?_, List.cons_ne_nil c cs, ?_, hstop⟩
    · exact fun d hd => Option.some_inj.mp hd ▸ hword
    · exact List.forall_mem_cons.mpr ⟨isWordChar_of_isWordStart hword, hcs⟩
  by_cases hquote : c = '"'
  · subst hquote
    obtain ⟨body, content, hquotes, ⟨behind, rfl⟩ | rfl | rfl⟩ := exists_quotes rest
    · exact ⟨.string content, body ++ ['"'], behind, by simp, body, hquotes, rfl⟩
    · exact ⟨.openString, rest, [], by simp, rfl, rest, content, hquotes, .inl rfl⟩
    · exact ⟨.openString, _, [], by simp, rfl, body, content, hquotes, .inr rfl⟩
  by_cases hdigit : Decimal.isDigit c = true
  · obtain ⟨cs, behind, hsplit, hnumber⟩ := exists_isNumber hdigit rest
    obtain ⟨c', cs, rfl, -⟩ := hnumber.numeral.exists_cons
    injection hsplit with hc hrest
    subst hc
    exact ⟨.number, cs, behind, hrest, hnumber⟩
  rcases exists_mark_or_stray (Bool.eq_false_iff.mpr hblank) (Bool.eq_false_iff.mpr hword)
    (Bool.eq_false_iff.mpr hdigit) hquote hcomment with ⟨kind, cs, behind, hsplit, hmark⟩ | hstray
  · exact ⟨.symbol kind, cs, behind, hsplit, hmark⟩
  · exact ⟨.stray c, [], rest, rfl, rfl, hstray⟩

theorem Spans.ne_nil (h : x.Spans cs behind) : cs ≠ [] := by
  rintro rfl
  cases x with
  | blank =>
      obtain ⟨c, -, heq⟩ := h
      cases heq
  | comment => exact absurd h.start (by decide)
  | word => exact h.nonempty rfl
  | number =>
      obtain ⟨c, rest, heq, -⟩ := h.numeral.exists_cons
      cases heq
  | string content =>
      obtain ⟨body, -, heq⟩ := h
      cases heq
  | openString =>
      obtain ⟨-, body, content, -, heq | heq⟩ := h
      · cases heq
      · cases heq
  | symbol kind =>
      have hchars := h.chars
      rcases literal_cases h.mem with ⟨c, hliteral⟩ | ⟨c, d, hliteral⟩
      · rw [hliteral] at hchars
        cases hchars
      · rw [hliteral] at hchars
        cases hchars
  | stray c =>
      obtain ⟨heq, -⟩ := h
      cases heq

/-- A text has one tile at its start. -/
theorem Spans.unique
    {cs' behind' : List Char} (h : x.Spans cs behind) (h' : y.Spans cs' behind')
    (heq : cs ++ behind = cs' ++ behind') : x = y ∧ cs = cs' ∧ behind = behind' := by
  obtain ⟨c, cs, rfl⟩ := List.exists_cons_of_ne_nil h.ne_nil
  obtain ⟨c', cs', rfl⟩ := List.exists_cons_of_ne_nil h'.ne_nil
  rw [List.cons_append, List.cons_append, List.cons.injEq] at heq
  obtain ⟨rfl, heq⟩ := heq
  have hnext := next_of_spans h'
  rw [← heq, next_of_spans h] at hnext
  injection hnext with hx hlength
  obtain ⟨rfl, rfl⟩ := List.append_inj heq (Nat.succ_injective hlength)
  exact ⟨hx, rfl, rfl⟩

end Lexeme

end TraceCheck
