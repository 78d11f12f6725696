import TraceCheck.Proofs.Grammar.Spelling

/-!
# Names and values

A name or a value is read exactly when the tokens spell a derivation of one
that fits, and what is read is what the derivation denotes.  A name is read as
far as it goes, so nothing that continues it may follow.
-/

namespace TraceCheck.Reading

variable {ctx : Context} {ts rest : List Token}

/-! ## Names -/

/-- The terminals of the words behind the first one of a name. -/
def dottedTerminals (ws : List Grammar.Word) : List Terminal :=
  ws.flatMap fun w => [.fixed .dot, w.terminal]

theorem dottedTerminals_cons (w : Grammar.Word) (ws : List Grammar.Word) :
    dottedTerminals (w :: ws) = .fixed .dot :: w.terminal :: dottedTerminals ws :=
  rfl

theorem DottedName.splitSegments_sound (ts : List Token) (h : Ready ctx ts) :
    ∃ ws, Spells ts (dottedTerminals ws) (DottedName.splitSegments ts).2 ∧
      (DottedName.splitSegments ts).1.map Token.terminal =
        ws.map Grammar.Word.terminal := by
  fun_induction DottedName.splitSegments ts with
  | case1 dot word rest hcond words tail hsplit ih =>
      obtain ⟨ws, hspells, hwords⟩ := ih h.of_cons.of_cons
      rw [hsplit] at hspells hwords
      refine ⟨⟨word.terminal, hcond.2⟩ :: ws, ?_, by rw [List.map_cons, hwords]; rfl⟩
      rw [dottedTerminals_cons, spells_cons]
      refine ⟨dot, word :: rest, rfl, h.head.terminal_eq hcond.1 rfl, ?_⟩
      exact spells_cons.mpr ⟨word, rest, rfl, rfl, hspells⟩
  | case2 dot word rest hcond => exact ⟨[], spells_nil.mpr rfl, rfl⟩
  | case3 ts hne => exact ⟨[], spells_nil.mpr rfl, rfl⟩

theorem DottedName.splitSegments_of_spells
    {ws : List Grammar.Word} (h : Spells ts (dottedTerminals ws) rest)
    (hfollow : nextKind ctx rest ≠ .dot) :
    (DottedName.splitSegments ts).1.map Token.terminal =
        ws.map Grammar.Word.terminal ∧
      (DottedName.splitSegments ts).2 = rest := by
  induction ws generalizing ts with
  | nil =>
      obtain rfl := spells_nil.mp h
      have hsplit : DottedName.splitSegments ts = ([], ts) := by
        unfold DottedName.splitSegments
        split
        next dot word rest =>
          rw [if_neg]
          rintro ⟨hdot, -⟩
          exact hfollow hdot
        next => rfl
      rw [hsplit]
      exact ⟨rfl, rfl⟩
  | cons w ws ih =>
      rw [dottedTerminals_cons, spells_cons] at h
      obtain ⟨dot, mid, rfl, hdot, h⟩ := h
      obtain ⟨word, tail, rfl, hword, h⟩ := spells_cons.mp h
      obtain ⟨hwords, htail⟩ := ih h
      have hcond : dot.kind = .dot ∧ word.kind.isWord = true := by
        refine ⟨Token.kind_of_terminal hdot, ?_⟩
        rw [Token.kind_of_terminal hword]
        exact w.isWord
      rw [DottedName.splitSegments, if_pos hcond]
      exact ⟨by rw [List.map_cons, List.map_cons, hword, hwords], htail⟩

theorem DottedName.text_eq
    {n : DottedName} {m : Grammar.Name}
    (hfirst : n.first.terminal = m.first.terminal)
    (hothers : n.segments.map Token.terminal = m.others.map Grammar.Word.terminal) :
    n.text = m.text := by
  have hparts :
      n.segments.map (fun s => "." ++ s.text) =
        m.others.map fun w => "." ++ w.terminal.text := by
    have := congrArg (List.map fun a : Terminal => "." ++ a.text) hothers
    simpa [List.map_map, Function.comp_def, Token.terminal] using this
  rw [DottedName.text, Grammar.Name.text, hparts, Token.text_of_terminal hfirst]

theorem gives_dottedName
    {what : Expectation} {n : DottedName} (h : Ready ctx ts) :
    Gives (dottedName what) ctx ts n rest ↔
      ∃ first us, ts = first :: us ∧ first.kind.isWord = true ∧
        n = ⟨first, (DottedName.splitSegments us).1⟩ ∧
        rest = (DottedName.splitSegments us).2 := by
  unfold dottedName
  simp only [gives_peek_bind, gives_ite, not_gives_unexpected, gives_pass_bind,
    gives_remaining_bind, gives_goOn_bind, gives_pure, and_false, false_or]
  cases ts with
  | nil =>
      constructor
      · rintro ⟨hword, -⟩
        rw [List.headD_nil, h.stop] at hword
        exact absurd rfl hword
      · rintro ⟨first, us, hnil, -⟩
        cases hnil
  | cons first us =>
      constructor
      · rintro ⟨hword, rfl, rfl⟩
        exact ⟨first, us, rfl, by simpa using hword, rfl, rfl⟩
      · rintro ⟨first', us', heq, hword, rfl, rfl⟩
        injection heq with hfirst hus
        subst hfirst hus
        exact ⟨by simp [hword], rfl, rfl⟩

theorem dottedName_sound
    {what : Expectation} {n : DottedName}
    (h : Ready ctx ts) (hn : Gives (dottedName what) ctx ts n rest) :
    ∃ m : Grammar.Name, n.text = m.text ∧ Spells ts m.terminals rest := by
  obtain ⟨first, us, rfl, hword, rfl, rfl⟩ := (gives_dottedName h).mp hn
  obtain ⟨ws, hspells, hwords⟩ := DottedName.splitSegments_sound us h.of_cons
  refine ⟨⟨⟨first.terminal, hword⟩, ws⟩, DottedName.text_eq rfl hwords, ?_⟩
  exact spells_cons.mpr ⟨first, us, rfl, rfl, hspells⟩

theorem dottedName_complete
    (what : Expectation) {m : Grammar.Name}
    (h : Ready ctx ts) (hm : Spells ts m.terminals rest)
    (hfollow : nextKind ctx rest ≠ .dot) :
    ∃ n, Gives (dottedName what) ctx ts n rest ∧ n.text = m.text := by
  obtain ⟨first, us, rfl, hfirst, hus⟩ := spells_cons.mp hm
  obtain ⟨hwords, hrest⟩ := DottedName.splitSegments_of_spells hus hfollow
  have hword : first.kind.isWord = true := by
    rw [Token.kind_of_terminal hfirst]
    exact m.first.isWord
  exact ⟨⟨first, (DottedName.splitSegments us).1⟩,
    (gives_dottedName h).mpr ⟨first, us, rfl, hword, rfl, hrest.symm⟩,
    DottedName.text_eq hfirst hwords⟩

theorem gives_spanName {name : String} :
    Gives spanName ctx ts name rest ↔
      ∃ n, Gives (dottedName .spanName) ctx ts n rest ∧ name = n.text := by
  unfold spanName
  rw [gives_bind]
  constructor
  · rintro ⟨n, mid, hn, hname⟩
    rw [gives_remark_bind, gives_pure] at hname
    obtain ⟨rfl, rfl⟩ := hname
    exact ⟨n, hn, rfl⟩
  · rintro ⟨n, hn, rfl⟩
    exact ⟨n, rest, hn, gives_remark_bind.mpr (gives_pure.mpr ⟨rfl, rfl⟩)⟩

/-- The name of a span in parentheses. -/
theorem gives_spanArgument {name : String} (h : Ready ctx ts) :
    Gives spanArgument ctx ts name rest ↔
      ∃ m : Grammar.Name, name = m.text ∧
        Spells ts (Grammar.parenthesized m.terminals) rest := by
  unfold spanArgument
  simp only [gives_bind, gives_spanName, gives_pure, spells_parenthesized_iff h, gives_expect]
  constructor
  · rintro ⟨u, mid, ⟨hopen, rfl⟩, n, mid₂, ⟨d, hd, rfl⟩, v, mid₃, ⟨hclose, rfl⟩, rfl, rfl⟩
    obtain ⟨m, htext, hm⟩ := dottedName_sound h.tail hd
    exact ⟨m, htext, hopen, mid₂, hm, hclose, rfl⟩
  · rintro ⟨m, rfl, hopen, mid, hm, hclose, rfl⟩
    have hfollow : nextKind ctx mid ≠ .dot := by
      rw [hclose]
      decide
    obtain ⟨n, hn, htext⟩ := dottedName_complete .spanName h.tail hm hfollow
    exact ⟨(), _, ⟨hopen, rfl⟩, m.text, mid, ⟨n, hn, htext.symm⟩, (), _, ⟨hclose, rfl⟩,
      rfl, rfl⟩

/-! ## Comparators -/

theorem comparatorOf?_eq_some_iff
    {t : Token} {op : Comparator} (h : t.WellSpelled) :
    comparatorOf? t = some op ↔ t.terminal = op.terminal := by
  constructor
  · intro hop
    unfold comparatorOf? at hop
    split at hop
    case h_9 hkind =>
      split at hop
      next htext =>
        injection hop with hop
        subst hop
        rw [Token.terminal, hkind, htext]
        rfl
      next => cases hop
    case h_10 => cases hop
    all_goals
      next hkind =>
        injection hop with hop
        subst hop
        exact h.terminal_eq hkind rfl
  · intro hterm
    have hkind := Token.kind_of_terminal hterm
    have htext := Token.text_of_terminal hterm
    unfold comparatorOf?
    rw [hkind, htext]
    cases op <;> rfl

theorem gives_comparator {op : Comparator} (h : Ready ctx ts) :
    Gives comparator ctx ts op rest ↔ Spells ts [op.terminal] rest := by
  unfold comparator
  rw [gives_peek_bind, spells_singleton]
  cases ts with
  | nil =>
      constructor
      · intro hop
        rw [List.headD_nil, comparatorOf?, h.stop] at hop
        exact absurd hop not_gives_unexpected
      · rintro ⟨t, hnil, -⟩
        cases hnil
  | cons first us =>
      constructor
      · intro hop
        split at hop
        next op' hop' =>
          rw [gives_pass_pure] at hop
          obtain ⟨rfl, rfl⟩ := hop
          exact ⟨_, rfl, (comparatorOf?_eq_some_iff h.head).mp hop'⟩
        next => exact absurd hop not_gives_unexpected
      · rintro ⟨t, heq, hterm⟩
        injection heq with hfirst hus
        subst hfirst hus
        rw [List.headD_cons, (comparatorOf?_eq_some_iff h.head).mpr hterm]
        exact gives_pass_pure.mpr ⟨rfl, rfl⟩

/-! ## Values -/

theorem scalar_kind_ne_bracket (s : Grammar.Scalar) :
    s.terminal.kind ≠ .lBracket ∧ s.terminal.kind ≠ .rBracket := by
  cases s with
  | string content => exact ⟨nofun, nofun⟩
  | number spelling => exact ⟨nofun, nofun⟩
  | bool b => cases b <;> exact ⟨nofun, nofun⟩

theorem scalar_sound {x : Literal} (h : Ready ctx ts) (hx : Gives scalar ctx ts x rest) :
    ∃ s : Grammar.Scalar, s.literal? = some x ∧ Spells ts [s.terminal] rest := by
  unfold scalar at hx
  rw [gives_peek_bind] at hx
  simp only [spells_singleton]
  cases ts with
  | nil =>
      rw [List.headD_nil, h.stop] at hx
      exact absurd hx not_gives_unexpected
  | cons first us =>
      rw [List.headD_cons] at hx
      split at hx
      next hkind =>
        rw [gives_pass_pure] at hx
        obtain ⟨rfl, rfl⟩ := hx
        refine ⟨.string first.text, rfl, first, rfl, ?_⟩
        rw [Token.terminal, hkind]
        rfl
      next hkind =>
        rw [gives_pass_pure] at hx
        obtain ⟨rfl, rfl⟩ := hx
        exact ⟨.bool true, rfl, first, rfl, h.head.terminal_eq hkind rfl⟩
      next hkind =>
        rw [gives_pass_pure] at hx
        obtain ⟨rfl, rfl⟩ := hx
        exact ⟨.bool false, rfl, first, rfl, h.head.terminal_eq hkind rfl⟩
      next hkind =>
        split at hx
        next y hy =>
          rw [gives_pass_pure] at hx
          obtain ⟨rfl, rfl⟩ := hx
          refine ⟨.number first.text, ?_, first, rfl, ?_⟩
          · rw [Grammar.Scalar.literal?, hy]
            rfl
          · rw [Token.terminal, hkind]
            rfl
        next => exact absurd hx not_gives_unexpected
      next => exact absurd hx not_gives_fail
      next => exact absurd hx not_gives_unexpected

theorem scalar_complete
    {s : Grammar.Scalar} {x : Literal} (hs : s.literal? = some x)
    (hspells : Spells ts [s.terminal] rest) :
    Gives scalar ctx ts x rest := by
  obtain ⟨first, rfl, hterm⟩ := spells_singleton.mp hspells
  have hkind := Token.kind_of_terminal hterm
  have htext := Token.text_of_terminal hterm
  unfold scalar
  rw [gives_peek_bind, List.headD_cons, hkind, htext]
  cases s with
  | string content =>
      injection hs with hs
      exact gives_pass_pure.mpr ⟨hs.symm, rfl⟩
  | number spelling =>
      obtain ⟨y, hy, rfl⟩ := Option.map_eq_some_iff.mp hs
      simp only [Grammar.Scalar.terminal, hy]
      exact gives_pass_pure.mpr ⟨rfl, rfl⟩
  | bool b =>
      injection hs with hs
      cases b with
      | true => exact gives_pass_pure.mpr ⟨hs.symm, rfl⟩
      | false => exact gives_pass_pure.mpr ⟨hs.symm, rfl⟩

theorem mapM_cons_eq_some_iff
    {σ τ : Type} {f : σ → Option τ} {a : σ} {as : List σ} {bs : List τ} :
    (a :: as).mapM f = some bs ↔
      ∃ b bs', f a = some b ∧ as.mapM f = some bs' ∧ bs = b :: bs' := by
  rw [List.mapM_cons]
  cases f a with
  | none => simp
  | some b =>
      cases as.mapM f with
      | none => simp
      | some bs' => simp [eq_comm]

theorem itemTerminals_cons_cons (s s' : Grammar.Scalar) (ss : List Grammar.Scalar) :
    Grammar.itemTerminals (s :: s' :: ss) =
      [s.terminal] ++ ([.fixed .comma] ++ Grammar.itemTerminals (s' :: ss)) :=
  rfl

theorem itemTerminals_singleton (s : Grammar.Scalar) :
    Grammar.itemTerminals [s] = [s.terminal] ++ [.fixed .rBracket] :=
  rfl

/-- The last value of a list, before the closing bracket. -/
theorem spells_lastItem_iff {s : Grammar.Scalar} (h : Ready ctx ts) :
    Spells ts (Grammar.itemTerminals [s]) rest ↔
      ∃ mid, Spells ts [s.terminal] mid ∧ nextKind ctx mid = .rBracket ∧ rest = mid.tail := by
  rw [itemTerminals_singleton, spells_append]
  refine exists_congr fun mid => and_congr_right fun hs => ?_
  exact spells_fixed_iff (h.of_spells hs) rfl

/-- A value of a list, before a comma and another value. -/
theorem spells_items_iff {s s' : Grammar.Scalar} {ss : List Grammar.Scalar} (h : Ready ctx ts) :
    Spells ts (Grammar.itemTerminals (s :: s' :: ss)) rest ↔
      ∃ mid, Spells ts [s.terminal] mid ∧ nextKind ctx mid = .comma ∧
        Spells mid.tail (Grammar.itemTerminals (s' :: ss)) rest := by
  rw [itemTerminals_cons_cons, spells_append]
  refine exists_congr fun mid => and_congr_right fun hs => ?_
  exact spells_fixed_cons_iff (h.of_spells hs) rfl

theorem listItems_sound
    {fuel : Nat} {xs : List Literal} (h : Ready ctx ts)
    (hxs : Gives (listItems fuel) ctx ts xs rest) :
    ∃ s ss, (s :: ss).mapM Grammar.Scalar.literal? = some xs ∧
      Spells ts (Grammar.itemTerminals (s :: ss)) rest := by
  induction fuel generalizing ts xs with
  | zero => exact absurd hxs not_gives_unexpected
  | succ fuel ih =>
      unfold listItems at hxs
      obtain ⟨x, mid, hx, hnext⟩ := gives_bind.mp hxs
      obtain ⟨s, hs, hspells⟩ := scalar_sound h hx
      have hmid := h.of_spells hspells
      rw [gives_peek_bind] at hnext
      split at hnext
      next hkind =>
        rw [gives_pass_bind, gives_bind] at hnext
        obtain ⟨ys, mid', hys, hpure⟩ := hnext
        obtain ⟨rfl, rfl⟩ := gives_pure.mp hpure
        obtain ⟨s', ss, hmap, hrest⟩ := ih hmid.tail hys
        have hall : (s :: s' :: ss).mapM Grammar.Scalar.literal? = some (x :: ys) :=
          mapM_cons_eq_some_iff.mpr ⟨x, ys, hs, hmap, rfl⟩
        exact ⟨s, s' :: ss, hall, (spells_items_iff h).mpr ⟨mid, hspells, hkind, hrest⟩⟩
      next hkind =>
        obtain ⟨rfl, rfl⟩ := gives_pass_pure.mp hnext
        have hall : [s].mapM Grammar.Scalar.literal? = some [x] :=
          mapM_cons_eq_some_iff.mpr ⟨x, [], hs, rfl, rfl⟩
        exact ⟨s, [], hall, (spells_lastItem_iff h).mpr ⟨mid, hspells, hkind, rfl⟩⟩
      next => exact absurd hnext not_gives_unexpected

/-- Each value of a list takes a token, so the fuel lasts. -/
theorem listItems_complete
    {fuel : Nat} {s : Grammar.Scalar} {ss : List Grammar.Scalar} {xs : List Literal}
    (h : Ready ctx ts) (hfuel : ts.length < fuel)
    (hxs : (s :: ss).mapM Grammar.Scalar.literal? = some xs)
    (hspells : Spells ts (Grammar.itemTerminals (s :: ss)) rest) :
    Gives (listItems fuel) ctx ts xs rest := by
  induction ss generalizing ts fuel s xs with
  | nil =>
      obtain ⟨fuel, rfl⟩ := Nat.exists_eq_succ_of_ne_zero (Nat.ne_zero_of_lt hfuel)
      obtain ⟨x, ys, hs, hys, rfl⟩ := mapM_cons_eq_some_iff.mp hxs
      obtain rfl : ys = [] := by simpa using hys.symm
      obtain ⟨mid, hscalar, hkind, rfl⟩ := (spells_lastItem_iff h).mp hspells
      unfold listItems
      refine gives_bind.mpr ⟨x, mid, scalar_complete hs hscalar, ?_⟩
      apply gives_peek_bind.mpr
      rw [show (mid.headD ctx.stop).kind = .rBracket from hkind]
      exact gives_pass_pure.mpr ⟨rfl, rfl⟩
  | cons s' ss ih =>
      obtain ⟨fuel, rfl⟩ := Nat.exists_eq_succ_of_ne_zero (Nat.ne_zero_of_lt hfuel)
      obtain ⟨x, ys, hs, hys, rfl⟩ := mapM_cons_eq_some_iff.mp hxs
      obtain ⟨mid, hscalar, hkind, hspells⟩ := (spells_items_iff h).mp hspells
      have hlen : mid.tail.length < fuel := by
        have := hscalar.length_lt
        rw [List.length_tail]
        omega
      have hrest := ih (h.of_spells hscalar).tail hlen hys hspells
      unfold listItems
      refine gives_bind.mpr ⟨x, mid, scalar_complete hs hscalar, ?_⟩
      apply gives_peek_bind.mpr
      rw [show (mid.headD ctx.stop).kind = .comma from hkind]
      apply gives_pass_bind.mpr
      exact gives_bind.mpr ⟨ys, rest, hrest, gives_pure.mpr ⟨rfl, rfl⟩⟩

theorem gives_listLiteral {x : Literal} (h : Ready ctx ts) :
    Gives listLiteral ctx ts x rest ↔
      ∃ items, (items.mapM Grammar.Scalar.literal?).map .list = some x ∧
        Spells ts (Grammar.itemTerminals items) rest := by
  unfold listLiteral
  rw [gives_peek_bind, gives_ite, gives_pass_pure, gives_size_bind, gives_bind]
  constructor
  · rintro (⟨hkind, rfl, rfl⟩ | ⟨hkind, xs, mid, hxs, hpure⟩)
    · exact ⟨[], rfl, (spells_fixed_iff h rfl).mpr ⟨hkind, rfl⟩⟩
    · obtain ⟨rfl, rfl⟩ := gives_pure.mp hpure
      obtain ⟨s, ss, hmap, hspells⟩ := listItems_sound h hxs
      exact ⟨s :: ss, by rw [hmap]; rfl, hspells⟩
  · rintro ⟨items, hmap, hspells⟩
    obtain ⟨xs, hxs, rfl⟩ := Option.map_eq_some_iff.mp hmap
    cases items with
    | nil =>
        obtain ⟨hkind, rfl⟩ := (spells_fixed_iff h rfl).mp hspells
        obtain rfl : xs = [] := by simpa using hxs.symm
        exact Or.inl ⟨hkind, rfl, rfl⟩
    | cons s ss =>
        have hitems := listItems_complete h h.bounded hxs hspells
        refine Or.inr ⟨?_, xs, rest, hitems, gives_pure.mpr ⟨rfl, rfl⟩⟩
        have hfirst : nextKind ctx ts = s.terminal.kind := by
          cases ss with
          | nil => exact nextKind_of_spells hspells
          | cons s' ss => exact nextKind_of_spells hspells
        change nextKind ctx ts ≠ .rBracket
        rw [hfirst]
        exact (scalar_kind_ne_bracket s).2

theorem gives_patternLiteral {x : Literal} :
    Gives patternLiteral ctx ts x rest ↔
      ∃ p, Pattern.ofText (ts.headD ctx.stop).text = .ok p ∧ x = .pattern p ∧
        rest = ts.tail := by
  unfold patternLiteral
  rw [gives_peek_bind, gives_pass_bind]
  split
  next p hp =>
    rw [gives_pure, hp]
    constructor
    · rintro ⟨rfl, rfl⟩
      exact ⟨p, rfl, rfl, rfl⟩
    · rintro ⟨q, hq, rfl, rfl⟩
      injection hq with hq
      exact ⟨by rw [hq], rfl⟩
  next e he =>
    rw [he]
    exact ⟨fun hfail => absurd hfail not_gives_fail, by rintro ⟨q, hq, -⟩; cases hq⟩

theorem ofText_spec {s : String} {p : Pattern} (h : Pattern.ofText s = .ok p) :
    p.source = s ∧ Pattern.vet s = .ok p.program := by
  unfold Pattern.ofText at h
  split at h
  next q hq =>
    injection h with h
    subst h
    exact ⟨rfl, hq⟩
  next => cases h

theorem ofText_of_toOption
    {s : String} {p : Pattern} (h : (Pattern.ofText s).toOption = some p) :
    Pattern.ofText s = .ok p := by
  cases hs : Pattern.ofText s with
  | ok q =>
      rw [hs] at h
      injection h with h
      rw [h]
  | error e =>
      rw [hs] at h
      cases h

theorem needsString_eq_false_iff {op : Comparator} :
    needsString op = false ↔ op ≠ .matches ∧ op ≠ .contains := by
  simp [needsString]

theorem value_literal?_string {op : Comparator} {content : String} (hop : op ≠ .matches) :
    (Grammar.Value.scalar (.string content)).literal? op = some (.string content) := by
  rw [Grammar.Value.literal?, if_neg hop]

theorem value_sound {op : Comparator} {x : Literal} (h : Ready ctx ts)
    (hx : Gives (value op) ctx ts x rest) :
    ∃ v : Grammar.Value, v.Fits op ∧ v.literal? op = some x ∧ Spells ts v.terminals rest := by
  unfold value at hx
  rw [gives_peek_bind, gives_ite, gives_ite, gives_ite, gives_patternLiteral,
    gives_pass_bind] at hx
  rcases hx with ⟨⟨hkind, rfl⟩, p, hp, rfl, rfl⟩ |
    ⟨hcond, ⟨hkind, ⟨rfl, hlist⟩ | ⟨hop, hfail⟩⟩ | ⟨hkind, hscalar⟩⟩
  · have hne : nextKind ctx ts ≠ ctx.stop.kind := by
      rw [h.stop, nextKind, hkind]
      decide
    have hnext := spells_next hne
    rw [Token.terminal, hkind] at hnext
    refine ⟨.scalar (.string (ts.headD ctx.stop).text), fun _ => ⟨_, (ofText_spec hp).2⟩, ?_,
      hnext⟩
    rw [Grammar.Value.literal?, if_pos rfl, hp]
    rfl
  · obtain ⟨items, hmap, hspells⟩ := (gives_listLiteral h.tail).mp hlist
    exact ⟨.list items, rfl, hmap, (spells_fixed_cons_iff h rfl).mpr ⟨hkind, hspells⟩⟩
  · exact absurd hfail not_gives_fail
  · obtain ⟨y, mid, hy, hend⟩ := gives_bind.mp hscalar
    obtain ⟨s, hs, hspells⟩ := scalar_sound h hy
    cases s with
    | string content =>
        injection hs with hs
        subst hs
        obtain ⟨rfl, rfl⟩ := gives_pure.mp hend
        have hop : op ≠ .matches := fun hop => hcond ⟨nextKind_of_spells hspells, hop⟩
        exact ⟨.scalar (.string content), fun hop' => absurd hop' hop,
          value_literal?_string hop, hspells⟩
    | number spelling =>
        obtain ⟨z, hz, rfl⟩ := Option.map_eq_some_iff.mp hs
        simp only [gives_ite, not_gives_fail, and_false, false_or, Bool.not_eq_true,
          needsString_eq_false_iff, gives_pure] at hend
        obtain ⟨hop, rfl, rfl⟩ := hend
        exact ⟨.scalar (.number spelling), hop, hs, hspells⟩
    | bool b =>
        injection hs with hs
        subst hs
        simp only [gives_ite, not_gives_fail, and_false, false_or, Bool.not_eq_true,
          needsString_eq_false_iff, gives_pure] at hend
        obtain ⟨hop, rfl, rfl⟩ := hend
        exact ⟨.scalar (.bool b), hop, rfl, hspells⟩

theorem value_complete_list
    {items : List Grammar.Scalar} {x : Literal} (h : Ready ctx ts)
    (hx : (items.mapM Grammar.Scalar.literal?).map .list = some x)
    (hspells : Spells ts (Grammar.Value.list items).terminals rest) :
    Gives (value .in) ctx ts x rest := by
  obtain ⟨hkind, hitems⟩ := (spells_fixed_cons_iff h rfl).mp hspells
  have hlist := (gives_listLiteral h.tail).mpr ⟨items, hx, hitems⟩
  unfold value
  rw [gives_peek_bind, gives_ite, gives_ite, gives_ite, gives_pass_bind]
  exact Or.inr ⟨fun hcond => absurd hcond.2 (by decide), Or.inl ⟨hkind, Or.inl ⟨rfl, hlist⟩⟩⟩

/-- A scalar is a value unless it is a string that has to be a pattern. -/
theorem value_complete_scalar
    {op : Comparator} {s : Grammar.Scalar} {x : Literal}
    (hx : s.literal? = some x) (hstring : ¬(s.terminal.kind = .string ∧ op = .matches))
    (hfits : s.terminal.kind ≠ .string → needsString op = false)
    (hspells : Spells ts [s.terminal] rest) :
    Gives (value op) ctx ts x rest := by
  have hkind : (ts.headD ctx.stop).kind = s.terminal.kind := nextKind_of_spells hspells
  unfold value
  rw [gives_peek_bind, gives_ite, gives_ite, hkind]
  refine Or.inr ⟨hstring, Or.inr ⟨(scalar_kind_ne_bracket s).1, gives_bind.mpr
    ⟨x, rest, scalar_complete hx hspells, ?_⟩⟩⟩
  cases s with
  | string content =>
      injection hx with hx
      subst hx
      exact gives_pure.mpr ⟨rfl, rfl⟩
  | number spelling =>
      obtain ⟨z, hz, rfl⟩ := Option.map_eq_some_iff.mp hx
      have hneeds := hfits (by rintro ⟨⟩)
      simp only [hneeds]
      exact gives_pure.mpr ⟨rfl, rfl⟩
  | bool b =>
      injection hx with hx
      subst hx
      have hneeds := hfits (by cases b <;> rintro ⟨⟩)
      simp only [hneeds]
      exact gives_pure.mpr ⟨rfl, rfl⟩

theorem value_complete_pattern
    {content : String} {p : Pattern} (hp : Pattern.ofText content = .ok p)
    (hspells : Spells ts [⟨.string, content⟩] rest) :
    Gives (value .matches) ctx ts (.pattern p) rest := by
  have hkind : (ts.headD ctx.stop).kind = .string := nextKind_of_spells hspells
  have htext : (ts.headD ctx.stop).text = content := by
    obtain ⟨t, rfl, ht⟩ := spells_singleton.mp hspells
    exact Token.text_of_terminal ht
  unfold value
  rw [gives_peek_bind, gives_ite, gives_patternLiteral, htext]
  exact Or.inl ⟨⟨hkind, rfl⟩, p, hp, rfl, (tail_of_spells hspells).symm⟩

/-- A value behind a comparator. -/
theorem gives_value {op : Comparator} {x : Literal} (h : Ready ctx ts) :
    Gives (value op) ctx ts x rest ↔
      ∃ v : Grammar.Value, v.Fits op ∧ v.literal? op = some x ∧
        Spells ts v.terminals rest := by
  refine ⟨value_sound h, ?_⟩
  rintro ⟨v, hfits, hx, hspells⟩
  cases v with
  | list items =>
      obtain rfl : op = .in := hfits
      exact value_complete_list h hx hspells
  | scalar s =>
      cases s with
      | string content =>
          by_cases hop : op = .matches
          · subst hop
            obtain ⟨p, hp, rfl⟩ := Option.map_eq_some_iff.mp hx
            exact value_complete_pattern (ofText_of_toOption hp) hspells
          · rw [value_literal?_string hop] at hx
            have hliteral : (Grammar.Scalar.string content).literal? = some x := hx
            exact value_complete_scalar hliteral (fun hcond => hop hcond.2)
              (fun hkind => absurd rfl hkind) hspells
      | number spelling =>
          have hliteral : (Grammar.Scalar.number spelling).literal? = some x := hx
          exact value_complete_scalar hliteral (by rintro ⟨⟨⟩, -⟩)
            (fun _ => needsString_eq_false_iff.mpr hfits) hspells
      | bool b =>
          have hliteral : (Grammar.Scalar.bool b).literal? = some x := hx
          exact value_complete_scalar hliteral (by cases b <;> rintro ⟨⟨⟩, -⟩)
            (fun _ => needsString_eq_false_iff.mpr hfits) hspells

end TraceCheck.Reading
