import Mathlib.Data.List.Infix
import TraceCheck.Regex.Parser

/-!
# Places in a regular expression

Whatever a step of reading takes is the front of the text that it was given.  Behind it the
text goes on at a place that no backslash escapes, so a reader that knows nothing of
expressions but the backslash stays in step with it.  Only a comment at the end of a text may
end in a backslash, and nothing stands behind that.  There is one rule for each way to put
steps together.
-/

namespace TraceCheck.Regex

open TraceCheck.Text

/-! ## Backslashes -/

/-- Whether what stands behind a text is escaped by a backslash at its end. -/
def endsEscaped (cs : List Char) : Bool :=
  cs.foldl (fun escaped c => !escaped && c == '\\') false

theorem endsEscaped_append {u : List Char} (hu : endsEscaped u = false) (v : List Char) :
    endsEscaped (u ++ v) = endsEscaped v := by
  unfold endsEscaped at hu ⊢
  rw [List.foldl_append, hu]

/-- Only a backslash escapes. -/
theorem endsEscaped_concat (u : List Char) {c : Char} (hc : c ≠ '\\') :
    endsEscaped (u ++ [c]) = false := by
  unfold endsEscaped
  rw [List.foldl_append, List.foldl_cons, List.foldl_nil, beq_false_of_ne hc, Bool.and_false]

/-- A backslash escapes one character. -/
theorem endsEscaped_pair (c : Char) : endsEscaped ['\\', c] = false := rfl

theorem endsEscaped_of_not_mem {u : List Char} (hu : '\\' ∉ u) : endsEscaped u = false := by
  rcases List.eq_nil_or_concat u with rfl | ⟨v, c, rfl⟩
  · rfl
  · rw [List.concat_eq_append] at hu ⊢
    refine endsEscaped_concat v fun hc => hu ?_
    rw [hc]
    exact List.mem_append_right v List.mem_cons_self

/-- What stands behind a text is not escaped, or there is nothing. -/
def Settled (u behind : List Char) : Prop :=
  behind = [] ∨ endsEscaped u = false

theorem Settled.append {u v behind : List Char} (hu : Settled u (v ++ behind))
    (hv : Settled v behind) : Settled (u ++ v) behind := by
  rcases hu with hnil | hu
  · exact .inl (List.append_eq_nil_iff.mp hnil).2
  · exact hv.imp_right (endsEscaped_append hu v).trans

/-! ## Places -/

/-- Reading is in a text, behind what it took. -/
def Within (text : List Char) (s : State) : Prop :=
  s.rest <:+ text

/-- Reading is in a text, at a place that is not escaped. -/
def Past (text : List Char) (s : State) : Prop :=
  ∃ u, text = u ++ s.rest ∧ Settled u s.rest

/-- Reading is in a text, directly behind a backslash that escapes. -/
def Pending (text : List Char) (s : State) : Prop :=
  ∃ u, text = u ++ '\\' :: s.rest ∧ endsEscaped u = false

/-- Reading is in a text, directly behind a closing parenthesis that is not escaped. -/
def Closed (text : List Char) (s : State) : Prop :=
  ∃ u, text = u ++ ')' :: s.rest ∧ endsEscaped u = false

/-- Reading is in a text, at a place that is not escaped, and a character comes next. -/
def Next (text : List Char) (c : Char) (s : State) : Prop :=
  Past text s ∧ s.rest.head? = some c

variable {text : List Char} {s t : State} {c : Char}

theorem Past.start (s : State) : Past s.rest s :=
  ⟨[], rfl, .inr rfl⟩

theorem Past.within (h : Past text s) : Within text s := by
  obtain ⟨u, htext, -⟩ := h
  exact ⟨u, htext.symm⟩

theorem Past.trans (h : Past text s) (ht : Past s.rest t) : Past text t := by
  obtain ⟨u, htext, hu⟩ := h
  obtain ⟨v, hrest, hv⟩ := ht
  rw [hrest] at htext hu
  exact ⟨u ++ v, by rw [htext, List.append_assoc], hu.append hv⟩

theorem Closed.past (h : Closed text s) : Past text s := by
  obtain ⟨u, htext, -⟩ := h
  refine ⟨u ++ [')'], ?_, .inr (endsEscaped_concat u (by decide))⟩
  rw [htext, List.append_assoc, List.singleton_append]

theorem eq_cons_of_head? {cs : List Char} (h : cs.head? = some c) : cs = c :: cs.tail := by
  cases cs with
  | nil => cases h
  | cons d ds =>
      injection h with h
      rw [h, List.tail_cons]

/-- Behind a character that is no backslash nothing is escaped. -/
theorem Within.past_behind (h : Within text s) (hbehind : c :: t.rest <:+ s.rest)
    (hc : c ≠ '\\') : Past text t := by
  obtain ⟨u, htext⟩ := hbehind.trans h
  refine ⟨u ++ [c], ?_, .inr (endsEscaped_concat u hc)⟩
  rw [List.append_assoc, List.singleton_append, htext]

theorem Within.past_tail (h : Within text s) (hnext : s.rest.head? = some c) (hc : c ≠ '\\')
    (ht : t.rest = s.rest.tail) : Past text t := by
  refine h.past_behind ?_ hc
  rw [ht, ← eq_cons_of_head? hnext]

theorem Next.pending_tail (h : Next text '\\' s) (ht : t.rest = s.rest.tail) :
    Pending text t := by
  obtain ⟨⟨u, rfl, hu⟩, hnext⟩ := h
  have hrest := eq_cons_of_head? hnext
  refine ⟨u, by rw [ht, ← hrest], hu.resolve_left fun hnil => ?_⟩
  rw [hnil] at hnext
  cases hnext

/-- An escaped character leads to a place that is not escaped. -/
theorem Pending.past_tail (h : Pending text s) (ht : t.rest = s.rest.tail) : Past text t := by
  obtain ⟨u, rfl, hu⟩ := h
  cases hrest : s.rest with
  | nil =>
      rw [hrest, List.tail_nil] at ht
      exact ⟨u ++ ['\\'], by rw [ht, List.append_nil], .inl ht⟩
  | cons c rest =>
      rw [hrest, List.tail_cons] at ht
      refine ⟨u ++ ['\\', c], by rw [ht, List.append_assoc]; rfl, .inr ?_⟩
      rw [endsEscaped_append hu, endsEscaped_pair]

theorem Next.closed_tail (h : Next text ')' s) (ht : t.rest = s.rest.tail) : Closed text t := by
  obtain ⟨⟨u, rfl, hu⟩, hnext⟩ := h
  have hrest := eq_cons_of_head? hnext
  refine ⟨u, by rw [ht, ← hrest], hu.resolve_left fun hnil => ?_⟩
  rw [hnil] at hnext
  cases hnext

/-! ## Blanks -/

/-- Blanks and comments lead to a place that is not escaped.  A comment may have backslashes,
but a line feed ends it. -/
theorem exists_dropBlanks (cs : List Char) :
    ∃ u, cs = u ++ dropBlanks cs ∧ Settled u (dropBlanks cs) := by
  suffices hboth : (∃ u, cs = u ++ dropBlanks cs ∧ Settled u (dropBlanks cs)) ∧
      ∃ u, cs = u ++ dropBlanks.dropComment cs ∧
        ∀ w, Settled (w ++ u) (dropBlanks.dropComment cs) from hboth.1
  induction cs with
  | nil => exact ⟨⟨[], rfl, .inl rfl⟩, [], rfl, fun _ => .inl rfl⟩
  | cons c cs ih =>
      obtain ⟨⟨u, hu, hsettled⟩, v, hv, hcomment⟩ := ih
      constructor
      · rw [dropBlanks]
        split
        · next hblank =>
            have hc : c ≠ '\\' := by
              rintro rfl
              cases hblank
            exact ⟨c :: u, congrArg (c :: ·) hu,
              hsettled.imp_right (endsEscaped_append (endsEscaped_concat [] hc) u).trans⟩
        split
        · exact ⟨c :: v, congrArg (c :: ·) hv, hcomment [c]⟩
        · exact ⟨[], rfl, .inr rfl⟩
      · rw [dropBlanks.dropComment]
        split
        · next hfeed =>
            have hc : c ≠ '\\' := by
              rw [hfeed]
              decide
            refine ⟨c :: u, congrArg (c :: ·) hu, fun w => hsettled.imp_right fun h => ?_⟩
            rw [List.append_cons, endsEscaped_append (endsEscaped_concat w hc), h]
        · refine ⟨c :: v, congrArg (c :: ·) hv, fun w => ?_⟩
          rw [List.append_cons]
          exact hcomment (w ++ [c])

/-! ## Steps -/

variable {α β : Type} {P P' : State → Prop} {Q : α → State → Prop} {R : β → State → Prop}

/-- Where a step succeeds in a state with a property, its result and the state behind it have
another. -/
def Ensures (P : State → Prop) (p : Parser α) (Q : α → State → Prop) : Prop :=
  ∀ s a t, P s → p s = .ok (a, t) → Q a t

/-- A step leads from places that are not escaped to such places. -/
abbrev Advances (p : Parser α) : Prop :=
  ∀ text, Ensures (Past text) p fun _ => Past text

namespace Ensures

theorem of_pure {a : α} (h : ∀ s, P s → Q a s) : Ensures P (pure a) Q := by
  rintro s _ _ hs ⟨⟩
  exact h s hs

theorem of_throw (e : SyntaxError) : Ensures P (throw e : Parser α) Q := by
  rintro s _ _ _ ⟨⟩

theorem bind {p : Parser α} {f : α → Parser β} (hp : Ensures P p Q)
    (hf : ∀ a, Ensures (Q a) (f a) R) : Ensures P (p >>= f) R := by
  intro s b t hs hrun
  change (p s >>= fun x => f x.1 x.2) = .ok (b, t) at hrun
  cases hres : p s with
  | error e =>
      rw [hres] at hrun
      cases hrun
  | ok x =>
      rw [hres] at hrun
      exact hf x.1 x.2 b t (hp s x.1 x.2 hs hres) hrun

theorem mono {p : Parser α} (hp : Ensures P' p Q) (h : ∀ s, P s → P' s) : Ensures P p Q :=
  fun s a t hs hrun => hp s a t (h s hs) hrun

theorem ite {i : Prop} [Decidable i] {p q : Parser α} (hp : i → Ensures P p Q)
    (hq : ¬ i → Ensures P q Q) : Ensures P (if i then p else q) Q := by
  split
  · next h => exact hp h
  · next h => exact hq h

/-- A step that fails under a condition. -/
theorem unless_throw {i : Prop} [Decidable i] {e : SyntaxError} {k : β → Parser α}
    {q : Parser α} (hq : ¬ i → Ensures P q Q) :
    Ensures P (if i then throw e >>= k else q) Q :=
  ite (fun _ => bind (Q := fun _ _ => False) (of_throw e) fun _ _ _ _ h => h.elim) hq

theorem of_get {f : State → Parser α} (h : ∀ s, P s → Ensures P (f s) Q) :
    Ensures P (get >>= f) Q :=
  fun s a t hs hrun => h s hs s a t hs hrun

theorem of_modify {f : State → State} (h : ∀ s, P s → P' (f s)) :
    Ensures P (modify f : Parser PUnit) fun _ => P' := by
  rintro s _ _ hs ⟨⟩
  exact h s hs

theorem of_set {s' : State} (h : P' s') : Ensures P (set s' : Parser PUnit) fun _ => P' := by
  rintro s _ _ _ ⟨⟩
  exact h

theorem of_skip {p : Parser α} : Ensures P p fun _ _ => True :=
  fun _ _ _ _ _ => trivial

theorem of_forIn {γ : Type} {xs : List γ} {b : β} {f : γ → β → Parser (ForInStep β)}
    (h : ∀ x b, Ensures P (f x b) fun _ => P) : Ensures P (forIn xs b f) fun _ => P := by
  induction xs generalizing b with
  | nil => exact of_pure fun _ hs => hs
  | cons x xs ih =>
      rw [List.forIn_cons]
      refine bind (h x b) fun next => ?_
      cases next with
      | done b => exact of_pure fun _ hs => hs
      | yield b => exact ih

/-! ### Looking at what comes next -/

theorem peek?_tells : Ensures P peek? fun next s => P s ∧ s.rest.head? = next := by
  rintro s _ _ hs ⟨⟩
  exact ⟨hs, rfl⟩

theorem of_peek {f : Option Char → Parser α} (hsome : ∀ c, Ensures (Next text c) (f (some c)) Q)
    (hnone : Ensures (Past text) (f none) Q) : Ensures (Past text) (peek? >>= f) Q := by
  refine peek?_tells.bind fun next => ?_
  cases next with
  | none => exact hnone.mono fun _ hs => hs.1
  | some c => exact hsome c

theorem isNext_tells (c : Char) :
    Ensures P (isNext c) fun b s => P s ∧ (b = true ↔ s.rest.head? = some c) := by
  intro s b t hs hrun
  change Except.ok (decide (s.rest.head? = some c), s) = .ok (b, t) at hrun
  cases hrun
  exact ⟨hs, decide_eq_true_iff⟩

/-- A step that depends on whether a character comes next. -/
theorem of_isNext {f : Bool → Parser α} (htrue : Ensures (Next text c) (f true) Q)
    (hfalse : Ensures (Past text) (f false) Q) : Ensures (Past text) (isNext c >>= f) Q := by
  refine (isNext_tells c).bind fun b => ?_
  cases b with
  | true => exact htrue.mono fun s hs => ⟨hs.1, hs.2.mp rfl⟩
  | false => exact hfalse.mono fun s hs => hs.1

theorem of_nextOr (e : SyntaxError) :
    Ensures P (nextOr e) fun c s => P s ∧ s.rest.head? = some c := by
  refine peek?_tells.bind fun next => ?_
  cases next with
  | none => exact of_throw e
  | some c => exact of_pure fun _ hs => hs

theorem of_unlessEnd (e : SyntaxError) : Ensures P (unlessEnd e) fun _ => P := by
  have hatEnd : Ensures P atEnd fun _ => P := of_get fun _ _ => of_pure fun _ hs => hs
  exact hatEnd.bind fun _ => ite (fun _ => of_throw e) fun _ => of_pure fun _ hs => hs

end Ensures

theorem Advances.of_next {p : Parser α} (hp : Advances p) :
    Ensures (Next text c) p fun _ => Past text :=
  (hp text).mono fun _ hs => hs.1

theorem advances_pure (a : α) : Advances (pure a) :=
  fun _ => Ensures.of_pure fun _ hs => hs

theorem advances_throw (e : SyntaxError) : Advances (throw e : Parser α) :=
  fun _ => Ensures.of_throw e

/-! ### Passing characters -/

theorem ensures_bump (hc : c ≠ '\\') :
    Ensures (fun s => Within text s ∧ s.rest.head? = some c) bump fun _ => Past text :=
  Ensures.of_modify fun _ hs => hs.1.past_tail hs.2 hc rfl

theorem advances_bumpBlanks : Advances bumpBlanks := by
  intro text
  refine Ensures.of_modify fun s hs => ?_
  split
  · exact hs.trans (exists_dropBlanks s.rest)
  · exact hs

theorem bump_of_next (hc : c ≠ '\\') : Ensures (Next text c) bump fun _ => Past text :=
  (ensures_bump hc).mono fun _ hs => ⟨hs.1.within, hs.2⟩

theorem bumpAndBlanks_of_next (hc : c ≠ '\\') :
    Ensures (Next text c) bumpAndBlanks fun _ => Past text :=
  (bump_of_next hc).bind fun _ => advances_bumpBlanks text

theorem bump_of_pending : Ensures (Pending text) bump fun _ => Past text :=
  Ensures.of_modify fun _ hs => hs.past_tail rfl

theorem bumpAndBlanks_of_pending : Ensures (Pending text) bumpAndBlanks fun _ => Past text :=
  bump_of_pending.bind fun _ => advances_bumpBlanks text

/-- The first character of a text leads to the rest of it. -/
theorem bump_of_first : Ensures (fun s => s.rest = c :: text) bump fun _ => Past text := by
  refine Ensures.of_modify fun s hs => ⟨[], ?_, .inr rfl⟩
  rw [hs, List.tail_cons, List.nil_append]

theorem bumpAndBlanks_of_first :
    Ensures (fun s => s.rest = c :: text) bumpAndBlanks fun _ => Past text :=
  bump_of_first.bind fun _ => advances_bumpBlanks text

theorem bumpAndBlanks_within : Ensures (Within text) bumpAndBlanks fun _ => Within text := by
  have hbump : Ensures (Within text) bump fun _ => Within text :=
    Ensures.of_modify fun s hs => (List.tail_suffix s.rest).trans hs
  refine hbump.bind fun _ => Ensures.of_modify fun s hs => ?_
  split
  · obtain ⟨u, hrest, -⟩ := exists_dropBlanks s.rest
    exact List.IsSuffix.trans ⟨u, hrest.symm⟩ hs
  · exact hs

theorem bumpIf_keeps (mark : String) :
    Ensures P (bumpIf mark) fun found s => found = false → P s := by
  refine Ensures.of_get fun s _ => Ensures.ite (fun _ => ?_) fun _ => ?_
  · exact Ensures.of_skip.bind fun _ => Ensures.of_pure fun _ _ => nofun
  · exact Ensures.of_pure fun _ hs _ => hs

/-- A fixed text that does not end in a backslash. -/
theorem advances_bumpIf {mark : String} (hmark : endsEscaped mark.toList = false) :
    Advances (bumpIf mark) := by
  intro text
  refine Ensures.of_get fun s hs => Ensures.ite (fun hprefix => ?_) fun _ => ?_
  · obtain ⟨rest, hrest⟩ := List.isPrefixOf_iff_prefix.mp hprefix
    have hpast : Past text { s with rest := s.rest.drop mark.length } := by
      refine hs.trans ⟨mark.toList, ?_, .inr hmark⟩
      rw [← hrest, ← String.length_toList, List.drop_left]
    exact (Ensures.of_set hpast).bind fun _ => Ensures.of_pure fun _ h => h
  · exact Ensures.of_pure fun _ h => h

theorem advances_ifMark {mark : String} (hmark : endsEscaped mark.toList = false)
    {p q : Parser α} (hp : Advances p) (hq : Advances q) :
    Advances (bumpIf mark >>= fun b => if b = true then p else q) := fun text =>
  (advances_bumpIf hmark text).bind fun _ => Ensures.ite (fun _ => hp text) fun _ => hq text

theorem advances_passBlanks : Advances passBlanks := by
  intro text
  refine Ensures.of_modify fun s hs => hs.trans ⟨s.rest.takeWhile isBlank, ?_, .inr ?_⟩
  · exact List.takeWhile_append_dropWhile.symm
  · refine endsEscaped_of_not_mem fun hmem => ?_
    cases List.all_eq_true.mp List.all_takeWhile '\\' hmem

end TraceCheck.Regex
