import TraceCheck.Expr.Grammar
import TraceCheck.Proofs.Decimal.Numeral
import TraceCheck.Proofs.Grammar.Step

/-!
# Tokens and terminals

`Spells ts w rest` says that the tokens `ts` begin with tokens for the
terminals `w` and go on with `rest`.  The tokens of a text are well spelled:
a token of a kind with a fixed spelling has that spelling, and a number is a
numeral.  For well-spelled tokens the elementary steps of reading can be said
in terms of terminals.
-/

namespace TraceCheck

/-- Whether all tokens of a kind are spelled alike. -/
def TokenKind.isFixed (k : TokenKind) : Bool :=
  k != .identifier && k != .string && k != .number && k != .eof

/-- Tokens as texts have them; the token that marks the end is none of them. -/
def Token.WellSpelled (t : Token) : Prop :=
  t.kind ≠ .eof ∧ (t.kind.isFixed = true → t.text = t.kind.literal) ∧
    (t.kind = .number → Decimal.Numeral t.text.toList)

theorem Token.WellSpelled.terminal_eq
    {t : Token} {k : TokenKind} (h : t.WellSpelled)
    (hk : t.kind = k) (hfixed : k.isFixed = true) :
    t.terminal = .fixed k := by
  subst hk
  rw [Token.terminal, Terminal.fixed, h.2.1 hfixed]

theorem Token.kind_of_terminal
    {t : Token} {a : Terminal} (h : t.terminal = a) :
    t.kind = a.kind := by
  rw [← h]
  rfl

theorem Token.text_of_terminal
    {t : Token} {a : Terminal} (h : t.terminal = a) :
    t.text = a.text := by
  rw [← h]
  rfl

namespace Reading

variable {ctx : Context} {ts rest : List Token}

/-! ## Spelling -/

/-- Some tokens begin with tokens for the terminals and go on with others. -/
def Spells (ts : List Token) (w : List Terminal) (rest : List Token) : Prop :=
  ∃ front, ts = front ++ rest ∧ front.map Token.terminal = w

theorem spells_nil : Spells ts [] rest ↔ ts = rest := by
  simp [Spells]

theorem spells_cons {a : Terminal} {w : List Terminal} :
    Spells ts (a :: w) rest ↔
      ∃ t mid, ts = t :: mid ∧ t.terminal = a ∧ Spells mid w rest := by
  constructor
  · rintro ⟨front, rfl, hmap⟩
    obtain ⟨t, front, rfl, ht, hfront⟩ := List.map_eq_cons_iff.mp hmap
    exact ⟨t, front ++ rest, rfl, ht, front, rfl, hfront⟩
  · rintro ⟨t, mid, rfl, ht, front, rfl, hmap⟩
    exact ⟨t :: front, rfl, by rw [List.map_cons, ht, hmap]⟩

theorem spells_append {v w : List Terminal} :
    Spells ts (v ++ w) rest ↔ ∃ mid, Spells ts v mid ∧ Spells mid w rest := by
  constructor
  · rintro ⟨front, rfl, hmap⟩
    obtain ⟨f₁, f₂, rfl, h₁, h₂⟩ := List.map_eq_append_iff.mp hmap
    exact ⟨f₂ ++ rest, ⟨f₁, by rw [List.append_assoc], h₁⟩, ⟨f₂, rfl, h₂⟩⟩
  · rintro ⟨mid, ⟨f₁, rfl, h₁⟩, ⟨f₂, rfl, h₂⟩⟩
    exact ⟨f₁ ++ f₂, by rw [List.append_assoc], by rw [List.map_append, h₁, h₂]⟩

theorem spells_singleton {a : Terminal} :
    Spells ts [a] rest ↔ ∃ t, ts = t :: rest ∧ t.terminal = a := by
  simp only [spells_cons, spells_nil]
  constructor
  · rintro ⟨t, mid, rfl, ht, rfl⟩
    exact ⟨t, rfl, ht⟩
  · rintro ⟨t, rfl, ht⟩
    exact ⟨t, rest, rfl, ht, rfl⟩

/-- The tokens of a terminal and of those behind it. -/
theorem spells_cons_append {a : Terminal} {w : List Terminal} :
    Spells ts (a :: w) rest ↔ ∃ mid, Spells ts [a] mid ∧ Spells mid w rest :=
  spells_append (v := [a])

/-- All tokens are spelled when nothing is left. -/
theorem spells_end {w : List Terminal} :
    Spells ts w [] ↔ ts.map Token.terminal = w := by
  simp [Spells]

theorem Spells.length_add {w : List Terminal} (h : Spells ts w rest) :
    w.length + rest.length = ts.length := by
  obtain ⟨front, rfl, rfl⟩ := h
  simp

theorem Spells.length_lt {a : Terminal} {w : List Terminal} (h : Spells ts (a :: w) rest) :
    rest.length < ts.length := by
  have := h.length_add
  rw [List.length_cons] at this
  omega

/-! ## Tokens that can be read -/

/-- Well-spelled tokens that are fewer than the bound of all loops, before a
token that marks the end. -/
structure Ready (ctx : Context) (ts : List Token) : Prop where
  stop : ctx.stop.kind = .eof
  wellSpelled : ∀ t ∈ ts, t.WellSpelled
  bounded : ts.length < ctx.size

theorem Ready.of_append {front : List Token} (h : Ready ctx (front ++ rest)) :
    Ready ctx rest where
  stop := h.stop
  wellSpelled := fun t ht => h.wellSpelled t (List.mem_append_right _ ht)
  bounded := by
    have := h.bounded
    rw [List.length_append] at this
    omega

theorem Ready.of_spells
    {w : List Terminal} (h : Ready ctx ts) (hs : Spells ts w rest) :
    Ready ctx rest := by
  obtain ⟨front, rfl, -⟩ := hs
  exact h.of_append

theorem Ready.of_cons {t : Token} (h : Ready ctx (t :: ts)) : Ready ctx ts :=
  Ready.of_append (show Ready ctx ([t] ++ ts) from h)

theorem Ready.tail (h : Ready ctx ts) : Ready ctx ts.tail := by
  cases ts with
  | nil => exact h
  | cons t ts => exact h.of_cons

theorem Ready.head {t : Token} (h : Ready ctx (t :: ts)) : t.WellSpelled :=
  h.wellSpelled t (by simp)

/-- The kind of the next token, or of the end. -/
def nextKind (ctx : Context) (ts : List Token) : TokenKind :=
  (ts.headD ctx.stop).kind

theorem nextKind_of_spells
    {a : Terminal} {w : List Terminal} (h : Spells ts (a :: w) rest) :
    nextKind ctx ts = a.kind := by
  obtain ⟨t, mid, rfl, ht, -⟩ := spells_cons.mp h
  exact Token.kind_of_terminal ht

theorem tail_of_spells {a : Terminal} (h : Spells ts [a] rest) : ts.tail = rest := by
  obtain ⟨t, rfl, -⟩ := spells_singleton.mp h
  rfl

theorem spells_next (hkind : nextKind ctx ts ≠ ctx.stop.kind) :
    Spells ts [(ts.headD ctx.stop).terminal] ts.tail := by
  cases ts with
  | nil => exact absurd rfl hkind
  | cons first us => exact spells_singleton.mpr ⟨first, rfl, rfl⟩

theorem Ready.numeral_of_number (h : Ready ctx ts) (hkind : nextKind ctx ts = .number) :
    Decimal.Numeral (ts.headD ctx.stop).text.toList := by
  cases ts with
  | nil =>
      rw [nextKind, List.headD_nil, h.stop] at hkind
      cases hkind
  | cons t us => exact h.head.2.2 hkind

/-- A terminal with a fixed spelling comes next exactly when its kind does. -/
theorem spells_fixed_iff
    {k : TokenKind} (h : Ready ctx ts) (hfixed : k.isFixed = true) :
    Spells ts [.fixed k] rest ↔ nextKind ctx ts = k ∧ rest = ts.tail := by
  rw [spells_singleton]
  cases ts with
  | nil =>
      constructor
      · rintro ⟨t, hnil, -⟩
        cases hnil
      · rintro ⟨hkind, -⟩
        rw [nextKind, List.headD_nil, h.stop] at hkind
        subst hkind
        cases hfixed
  | cons first us =>
      constructor
      · rintro ⟨t, heq, hterm⟩
        injection heq with hfirst hus
        subst hfirst hus
        exact ⟨Token.kind_of_terminal hterm, rfl⟩
      · rintro ⟨hkind, rfl⟩
        exact ⟨first, rfl, h.head.terminal_eq hkind hfixed⟩

theorem spells_fixed_cons_iff
    {k : TokenKind} {w : List Terminal} (h : Ready ctx ts) (hfixed : k.isFixed = true) :
    Spells ts (.fixed k :: w) rest ↔ nextKind ctx ts = k ∧ Spells ts.tail w rest := by
  rw [spells_cons_append]
  constructor
  · rintro ⟨mid, hfirst, hspells⟩
    obtain ⟨hkind, rfl⟩ := (spells_fixed_iff h hfixed).mp hfirst
    exact ⟨hkind, hspells⟩
  · rintro ⟨hkind, hspells⟩
    exact ⟨ts.tail, (spells_fixed_iff h hfixed).mpr ⟨hkind, rfl⟩, hspells⟩

theorem spells_parenthesized_iff {w : List Terminal} (h : Ready ctx ts) :
    Spells ts (Grammar.parenthesized w) rest ↔
      nextKind ctx ts = .lParen ∧ ∃ mid, Spells ts.tail w mid ∧
        nextKind ctx mid = .rParen ∧ rest = mid.tail := by
  unfold Grammar.parenthesized
  rw [spells_fixed_cons_iff h rfl, spells_append]
  refine and_congr_right fun _ => exists_congr fun mid => and_congr_right fun hw => ?_
  exact spells_fixed_iff (h.tail.of_spells hw) rfl

end Reading

end TraceCheck
