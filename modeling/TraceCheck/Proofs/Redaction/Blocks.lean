import TraceCheck.Proofs.Redaction.Boundaries
import TraceCheck.Proofs.Redaction.Masking

/-!
# Blocks that a shape cannot look into

Two texts that are equal but for a block are passed alike by a shape that takes the
block as a whole or stops in front of it.  So the block is covered in both texts, or
it is left in both and the same stands around it.
-/

namespace TraceCheck.Redaction

open TraceCheck.Text

/-! ## Passing two texts -/

/-- The remainders of two texts that differ in one block, which begins with the same
character behind `n` characters: both lie in front of the block or both behind it. -/
inductive Abreast (n : Nat) (c : Char) (k₁ k₂ w : List Char) : Remainder → Remainder → Prop
  | front {r : Remainder} (hr : r.total = n) :
      Abreast n c k₁ k₂ w (r.followedBy (c :: (k₁ ++ w))) (r.followedBy (c :: (k₂ ++ w)))
  | behind {r : Remainder} (hr : r.total = w.length) :
      Abreast n c k₁ k₂ w (r.shift (n + 1 + k₁.length)) (r.shift (n + 1 + k₂.length))

/-- A class stops in front of both blocks or takes both whole. -/
def TakesAlike (p : Char → Bool) (c : Char) (k₁ k₂ : List Char) : Prop :=
  p c = false ∨ ∀ d ∈ c :: (k₁ ++ k₂), p d = true

variable {n : Nat} {c : Char} {k₁ k₂ w : List Char} {r₁ r₂ : Remainder}

theorem rel_map {α β γ : Type} {R : β → γ → Prop} {o : Option α} {g₁ : α → β} {g₂ : α → γ}
    (h : ∀ a, o = some a → R (g₁ a) (g₂ a)) : Option.Rel R (o.map g₁) (o.map g₂) := by
  cases o with
  | none => exact .none
  | some a => exact .some (h a rfl)

theorem rel_bind {α β γ δ : Type} {R : α → β → Prop} {S : γ → δ → Prop}
    {o₁ : Option α} {o₂ : Option β} {g₁ : α → Option γ} {g₂ : β → Option δ}
    (h : Option.Rel R o₁ o₂) (hg : ∀ a b, R a b → Option.Rel S (g₁ a) (g₂ b)) :
    Option.Rel S (o₁.bind g₁) (o₂.bind g₂) := by
  cases h with
  | none => exact .none
  | some hab => exact hg _ _ hab

theorem Abreast.after? {beginning : List Char} (hc : c ∉ beginning)
    (h : Abreast n c k₁ k₂ w r₁ r₂) :
    Option.Rel (Abreast n c k₁ k₂ w) (r₁.after? beginning) (r₂.after? beginning) := by
  cases h with
  | @front r hr =>
      have hhead (t : List Char) : ∀ d ∈ (c :: t).head?, d ∉ beginning := by
        rintro d ⟨⟩
        exact hc
      rw [Remainder.after?_followedBy (hhead _), Remainder.after?_followedBy (hhead _)]
      exact rel_map fun r' hr' => .front ((Remainder.total_of_after? hr').trans hr)
  | @behind r hr =>
      rw [Remainder.after?_shift, Remainder.after?_shift]
      exact rel_map fun r' hr' => .behind ((Remainder.total_of_after? hr').trans hr)

/-- A class that takes the text in front of a block and the block goes on behind it. -/
theorem afterWhile_through {p : Char → Bool} {r : Remainder} {k : List Char}
    (hr : ∀ d ∈ r.rest, p d = true) (hk : ∀ d ∈ c :: k, p d = true) :
    (r.followedBy (c :: (k ++ w))).afterWhile p =
      ((Remainder.whole w).afterWhile p).shift (r.total + 1 + k.length) := by
  have htext : r.rest ++ c :: (k ++ w) = (r.rest ++ c :: k) ++ w := by
    rw [List.append_assoc, List.cons_append]
  have hall : ∀ d ∈ r.rest ++ c :: k, p d = true := List.forall_mem_append.mpr ⟨hr, hk⟩
  rw [Remainder.afterWhile_eq, Remainder.afterWhile_eq, Remainder.followedBy]
  dsimp only
  rw [htext, List.takeWhile_append_of_pos hall, List.dropWhile_append_of_pos hall]
  unfold Remainder.shift Remainder.whole Remainder.total
  congr 1
  simp only [List.length_append, List.length_cons]
  omega

theorem Abreast.afterWhile {p : Char → Bool} (hp : TakesAlike p c k₁ k₂)
    (h : Abreast n c k₁ k₂ w r₁ r₂) :
    Abreast n c k₁ k₂ w (r₁.afterWhile p) (r₂.afterWhile p) ∧
      (r₁.passed < (r₁.afterWhile p).passed ↔ r₂.passed < (r₂.afterWhile p).passed) := by
  cases h with
  | @front r hr =>
      by_cases hstop : p c = false ∨ ∃ d ∈ r.rest, p d = false
      · have hhead (t : List Char) :
            (∀ d ∈ (c :: t).head?, p d = false) ∨ ∃ d ∈ r.rest, p d = false := by
          refine hstop.imp_left fun hc => ?_
          rintro d ⟨⟩
          exact hc
        rw [Remainder.afterWhile_followedBy (hhead _), Remainder.afterWhile_followedBy (hhead _)]
        exact ⟨.front ((Remainder.total_afterWhile r p).trans hr), Iff.rfl⟩
      · obtain ⟨hc, hrest⟩ := not_or.mp hstop
        have hr' : ∀ d ∈ r.rest, p d = true := fun d hd =>
          (Bool.not_eq_false _).mp fun hfalse => hrest ⟨d, hd, hfalse⟩
        have hblock := hp.resolve_left hc
        have hk₁ : ∀ d ∈ c :: k₁, p d = true := fun d hd =>
          hblock d (List.cons_subset_cons c (List.subset_append_left k₁ k₂) hd)
        have hk₂ : ∀ d ∈ c :: k₂, p d = true := fun d hd =>
          hblock d (List.cons_subset_cons c (List.subset_append_right k₁ k₂) hd)
        rw [afterWhile_through hr' hk₁, afterWhile_through hr' hk₂, hr]
        refine ⟨.behind ((Remainder.total_afterWhile _ p).trans (Nat.zero_add _)), ?_⟩
        have hpassed := r.passed_le_total
        rw [hr] at hpassed
        have hbeyond (k : List Char) (m : Nat) : r.passed < n + 1 + k.length + m := by
          omega
        exact iff_of_true (hbeyond k₁ _) (hbeyond k₂ _)
  | @behind r hr =>
      rw [Remainder.afterWhile_shift, Remainder.afterWhile_shift]
      refine ⟨.behind ((Remainder.total_afterWhile r p).trans hr), ?_⟩
      have hcancel (m : Nat) : (r.shift m).passed < ((r.afterWhile p).shift m).passed ↔
          r.passed < (r.afterWhile p).passed :=
        Nat.add_lt_add_iff_left
      rw [hcancel, hcancel]

theorem Abreast.afterRun? {p : Char → Bool} (hp : TakesAlike p c k₁ k₂)
    (h : Abreast n c k₁ k₂ w r₁ r₂) :
    Option.Rel (Abreast n c k₁ k₂ w) (r₁.afterRun? p 1) (r₂.afterRun? p 1) := by
  obtain ⟨hwhile, hpassed⟩ := h.afterWhile hp
  change Option.Rel _ (if r₁.passed < (r₁.afterWhile p).passed then _ else none)
    (if r₂.passed < (r₂.afterWhile p).passed then _ else none)
  by_cases hmore : r₁.passed < (r₁.afterWhile p).passed
  · rw [if_pos hmore, if_pos (hpassed.mp hmore)]
    exact .some hwhile
  · rw [if_neg hmore, if_neg (mt hpassed.mpr hmore)]
    exact .none

/-! ## Answers about two texts -/

/-- Answers that reach equally far in two texts that differ in a block. -/
inductive AnswersAlike (n : Nat) (c : Char) (k₁ k₂ w : List Char) : Probe → Probe → Prop
  | hit {r₁ r₂ : Remainder} (h : Abreast n c k₁ k₂ w r₁ r₂) :
      AnswersAlike n c k₁ k₂ w (.hit r₁.passed) (.hit r₂.passed)
  | miss {r₁ r₂ : Remainder} (h : Abreast n c k₁ k₂ w r₁ r₂) :
      AnswersAlike n c k₁ k₂ w (.miss r₁.passed) (.miss r₂.passed)

theorem replaceAfter_before {shape : Shape} {f : List Char → List Char}
    (hforget : ∀ before before' t, shape before t = shape before' t)
    (before before' : Option Char) (cs : List Char) :
    shape.replaceAfter f before cs = shape.replaceAfter f before' cs := by
  cases cs with
  | nil => rw [replaceAfter_nil, replaceAfter_nil]
  | cons c rest =>
      unfold Shape.replaceAfter
      rw [Shape.cut, Shape.cut, hforget before before']

/-- A text in which nothing begins stays, and what is behind it is read as on its own. -/
theorem replaceAfter_append_of_forgets {shape : Shape} {f : List Char → List Char}
    {before : Option Char} {u t : List Char}
    (hforget : ∀ before before' t, shape before t = shape before' t)
    (hmiss : ∀ y, y ≠ [] → y <:+ u → ∃ n ≤ y.length, shape none (y ++ t) = .miss n) :
    shape.replaceAfter f before (u ++ t) = u ++ shape.replaceAfter f none t := by
  rw [replaceAfter_before hforget none (u.getLast?.or before)]
  refine replaceAfter_append_of_miss fun x y hsplit hne => ?_
  obtain ⟨n, hn, hprobe⟩ := hmiss y hne ⟨x, hsplit⟩
  exact ⟨n, hn, (hforget _ _ _).trans hprobe⟩

/-- Where nothing begins at the start, the character in front does not matter. -/
theorem replaceAfter_of_stop {shape : Shape} {f : List Char → List Char} {cs : List Char}
    (h : ∀ c ∈ cs.head?, ∀ before t, shape before (c :: t) = .miss 1)
    (before before' : Option Char) :
    shape.replaceAfter f before cs = shape.replaceAfter f before' cs := by
  cases cs with
  | nil => rw [replaceAfter_nil, replaceAfter_nil]
  | cons c rest =>
      rw [replaceAfter_cons (h c rfl before rest), replaceAfter_cons (h c rfl before' rest)]

/-- The character at the start of a text stays when nothing begins there. -/
theorem head?_replaceAfter {shape : Shape} {f : List Char → List Char} {before : Option Char}
    {cs : List Char} (h : ∀ c ∈ cs.head?, ∀ t, shape before (c :: t) = .miss 1) :
    (shape.replaceAfter f before cs).head? = cs.head? := by
  cases cs with
  | nil => rw [replaceAfter_nil]
  | cons c rest =>
      rw [replaceAfter_cons (h c rfl rest)]
      rfl

/-- What the texts around a block become: the text in front is covered in parts, and the
text behind begins as before. -/
structure Around (u w U W : List Char) : Prop where
  masks : Masks IsPlaceholder u U
  head : W.head? = w.head?

/-- Replacing pieces leaves two texts equal, or leaves both blocks with the same around
them. -/
def Shape.TreatsAlike (shape : Shape) (f : List Char → List Char) (c : Char)
    (k₁ k₂ w u : List Char) : Prop :=
  shape.replaceAfter f none (u ++ c :: (k₁ ++ w)) =
      shape.replaceAfter f none (u ++ c :: (k₂ ++ w)) ∨
    ∃ U W, Around u w U W ∧ ∀ k ∈ [k₁, k₂],
      shape.replaceAfter f none (u ++ c :: (k ++ w)) = U ++ c :: (k ++ W)

theorem Shape.TreatsAlike.append {shape : Shape} {f : List Char → List Char}
    {x X y : List Char} (hmasks : Masks IsPlaceholder x X)
    (hpart : ∀ k ∈ [k₁, k₂], shape.replaceAfter f none (x ++ (y ++ c :: (k ++ w))) =
      X ++ shape.replaceAfter f none (y ++ c :: (k ++ w)))
    (h : shape.TreatsAlike f c k₁ k₂ w y) : shape.TreatsAlike f c k₁ k₂ w (x ++ y) := by
  have h₁ := hpart k₁ List.mem_cons_self
  have h₂ := hpart k₂ (List.mem_cons_of_mem k₁ List.mem_cons_self)
  unfold Shape.TreatsAlike
  simp only [List.append_assoc]
  rcases h with hsame | ⟨U, W, haround, hleft⟩
  · rw [h₁, h₂, hsame]
    exact .inl rfl
  · refine .inr ⟨X ++ U, W, ⟨hmasks.append haround.masks, haround.head⟩, fun k hk => ?_⟩
    rw [hpart k hk, hleft k hk, List.append_assoc]

/-- Where a remainder in front of the blocks stands, with a step of one character at
least. -/
theorem exists_append_of_front {r : Remainder} {u : List Char} (hu : u ≠ [])
    (hr : r.total = u.length) :
    ∃ x y, u = x ++ y ∧ y.length < u.length ∧ x.length = max 1 r.passed := by
  have hpos := List.length_pos_iff.mpr hu
  have hpassed := r.passed_le_total
  refine ⟨_, _, (List.take_append_drop (max 1 r.passed) u).symm, ?_, ?_⟩
  · rw [List.length_drop]
    omega
  · exact List.length_take_of_le (by omega)

/-- Where a remainder behind the blocks stands: at the same place of the text there. -/
theorem exists_append_of_behind {r : Remainder} (c : Char) (u : List Char)
    (hr : r.total = w.length) :
    ∃ a v, w = a ++ v ∧ ∀ k : List Char,
      (u ++ c :: (k ++ a)).length = max 1 (r.shift (u.length + 1 + k.length)).passed := by
  have hpassed := r.passed_le_total
  rw [hr] at hpassed
  refine ⟨_, _, (List.take_append_drop r.passed w).symm, fun k => ?_⟩
  simp only [Remainder.shift, List.length_append, List.length_cons, List.length_take]
  omega

theorem append_block_append (u k a v : List Char) (c : Char) :
    u ++ c :: (k ++ (a ++ v)) = (u ++ c :: (k ++ a)) ++ v := by
  simp only [List.append_assoc, List.cons_append]

/-- A find that reaches equally far covers both blocks, or ends in front of them. -/
theorem treatsAlike_of_hit {shape : Shape} {f : List Char → List Char} {u : List Char}
    (hforget : ∀ before before' t, shape before t = shape before' t)
    (hconst : ∀ x y, f x = f y) (hcovers : Covers f) (hu : u ≠ [])
    (h : Abreast u.length c k₁ k₂ w r₁ r₂)
    (h₁ : shape none (u ++ c :: (k₁ ++ w)) = .hit r₁.passed)
    (h₂ : shape none (u ++ c :: (k₂ ++ w)) = .hit r₂.passed)
    (hlater : ∀ y, y <:+ u → y.length < u.length → shape.TreatsAlike f c k₁ k₂ w y) :
    shape.TreatsAlike f c k₁ k₂ w u := by
  cases h with
  | @front r hr =>
      obtain ⟨x, y, rfl, hy, hx⟩ := exists_append_of_front hu hr
      rw [List.append_assoc] at h₁ h₂
      refine (hlater y (List.suffix_append x y) hy).append (hcovers x) ?_
      refine List.forall_mem_cons.mpr ⟨?_, List.forall_mem_singleton.mpr ?_⟩
      · rw [replaceAfter_of_hit h₁ hx, replaceAfter_before hforget _ none]
      · rw [replaceAfter_of_hit h₂ hx, replaceAfter_before hforget _ none]
  | @behind r hr =>
      obtain ⟨a, v, rfl, hlength⟩ := exists_append_of_behind c u hr
      rw [append_block_append] at h₁ h₂
      refine .inl ?_
      rw [append_block_append, append_block_append, replaceAfter_of_hit h₁ (hlength k₁),
        replaceAfter_of_hit h₂ (hlength k₂)]
      exact congrArg₂ (· ++ ·) (hconst _ _) (replaceAfter_before hforget _ _ v)

/-- A miss that passes equally much leaves both blocks, or ends in front of them. -/
theorem treatsAlike_of_missAlike {shape : Shape} {f : List Char → List Char} {u : List Char}
    (hforget : ∀ before before' t, shape before t = shape before' t) (hu : u ≠ [])
    (h : Abreast u.length c k₁ k₂ w r₁ r₂)
    (h₁ : shape none (u ++ c :: (k₁ ++ w)) = .miss r₁.passed)
    (h₂ : shape none (u ++ c :: (k₂ ++ w)) = .miss r₂.passed)
    (hhead : ∀ d ∈ w.head?, ∀ t, shape none (d :: t) = .miss 1)
    (hlater : ∀ y, y <:+ u → y.length < u.length → shape.TreatsAlike f c k₁ k₂ w y) :
    shape.TreatsAlike f c k₁ k₂ w u := by
  cases h with
  | @front r hr =>
      obtain ⟨x, y, rfl, hy, hx⟩ := exists_append_of_front hu hr
      rw [List.append_assoc] at h₁ h₂
      refine (hlater y (List.suffix_append x y) hy).append (Masks.refl x) ?_
      refine List.forall_mem_cons.mpr ⟨?_, List.forall_mem_singleton.mpr ?_⟩
      · rw [replaceAfter_of_miss h₁ hx, replaceAfter_before hforget _ none]
      · rw [replaceAfter_of_miss h₂ hx, replaceAfter_before hforget _ none]
  | @behind r hr =>
      obtain ⟨a, v, rfl, hlength⟩ := exists_append_of_behind c u hr
      rw [append_block_append] at h₁ h₂
      refine .inr ⟨u, a ++ shape.replaceAfter f none v, ⟨Masks.refl u, ?_⟩, ?_⟩
      · cases a with
        | nil => exact head?_replaceAfter hhead
        | cons d a => rfl
      · refine List.forall_mem_cons.mpr ⟨?_, List.forall_mem_singleton.mpr ?_⟩
        · rw [append_block_append, replaceAfter_of_miss h₁ (hlength k₁),
            replaceAfter_before hforget _ none, append_block_append]
        · rw [append_block_append, replaceAfter_of_miss h₂ (hlength k₂),
            replaceAfter_before hforget _ none, append_block_append]

/-- A shape that answers alike everywhere in front of two blocks, and finds nothing in
them, treats the texts alike. -/
theorem treatsAlike_of_answersAlike {shape : Shape} {f : List Char → List Char} {u : List Char}
    (hforget : ∀ before before' t, shape before t = shape before' t)
    (hconst : ∀ x y, f x = f y) (hcovers : Covers f)
    (hanswers : ∀ y, y ≠ [] → y <:+ u → AnswersAlike y.length c k₁ k₂ w
      (shape none (y ++ c :: (k₁ ++ w))) (shape none (y ++ c :: (k₂ ++ w))))
    (hblocks : ∀ k ∈ [k₁, k₂], shape.replaceAfter f none (c :: (k ++ w)) =
      c :: (k ++ shape.replaceAfter f none w))
    (hhead : ∀ d ∈ w.head?, ∀ t, shape none (d :: t) = .miss 1) :
    shape.TreatsAlike f c k₁ k₂ w u := by
  induction hn : u.length using Nat.strongRecOn generalizing u with
  | ind n ih =>
      subst hn
      by_cases hu : u = []
      · subst hu
        exact .inr ⟨[], _, ⟨.nil, head?_replaceAfter hhead⟩, hblocks⟩
      have hlater : ∀ y, y <:+ u → y.length < u.length → shape.TreatsAlike f c k₁ k₂ w y :=
        fun y hy hlt => ih _ hlt (fun z hne hz => hanswers z hne (hz.trans hy)) rfl
      have hanswer := hanswers u hu List.suffix_rfl
      generalize h₁ : shape none (u ++ c :: (k₁ ++ w)) = p₁ at hanswer
      generalize h₂ : shape none (u ++ c :: (k₂ ++ w)) = p₂ at hanswer
      cases hanswer with
      | hit h => exact treatsAlike_of_hit hforget hconst hcovers hu h h₁ h₂ hlater
      | miss h => exact treatsAlike_of_missAlike hforget hu h h₁ h₂ hhead hlater

/-- A shape that does not look beyond the first character of two blocks, and finds
nothing in them, treats the texts alike. -/
theorem treatsAlike_of_separates {shape : Shape} {f : List Char → List Char} {u : List Char}
    (hforget : ∀ before before' t, shape before t = shape before' t) (hcovers : Covers f)
    (hseparates : ∀ k, shape.Separates none u (c :: k))
    (hblocks : ∀ k ∈ [k₁, k₂], shape.replaceAfter f none (c :: (k ++ w)) =
      c :: (k ++ shape.replaceAfter f none w))
    (hhead : ∀ d ∈ w.head?, ∀ t, shape none (d :: t) = .miss 1) :
    shape.TreatsAlike f c k₁ k₂ w u := by
  refine .inr ⟨shape.replaceAfter f none u, shape.replaceAfter f none w,
    ⟨masks_replaceAfter hcovers none u, head?_replaceAfter hhead⟩, fun k hk => ?_⟩
  rw [replaceAfter_append (hseparates _), replaceAfter_before hforget (u.getLast?.or none) none,
    hblocks k hk]

/-- A shape that finds nothing in front of two blocks and nothing in them treats the texts
alike. -/
theorem treatsAlike_of_miss {shape : Shape} {f : List Char → List Char} {u : List Char}
    (hforget : ∀ before before' t, shape before t = shape before' t)
    (hmiss : ∀ y, y ≠ [] → y <:+ u → ∀ t, ∃ n ≤ y.length, shape none (y ++ c :: t) = .miss n)
    (hblocks : ∀ k ∈ [k₁, k₂], shape.replaceAfter f none (c :: (k ++ w)) =
      c :: (k ++ shape.replaceAfter f none w))
    (hhead : ∀ d ∈ w.head?, ∀ t, shape none (d :: t) = .miss 1) :
    shape.TreatsAlike f c k₁ k₂ w u := by
  refine .inr ⟨u, shape.replaceAfter f none w, ⟨Masks.refl u, head?_replaceAfter hhead⟩,
    fun k hk => ?_⟩
  rw [replaceAfter_append_of_forgets hforget fun y hne hy => hmiss y hne hy (k ++ w),
    hblocks k hk]

/-! ## Rules one after the other -/

/-- A text is empty or ends in one of some characters. -/
def EndsIn (stops u : List Char) : Prop :=
  ∀ c ∈ u.getLast?, c ∈ stops

instance : DecidableRel EndsIn := fun _ u =>
  Option.decidableForallMem u.getLast?

/-- A text is empty or begins with one of some characters. -/
def BeginsIn (stops w : List Char) : Prop :=
  ∀ c ∈ w.head?, c ∈ stops

instance : DecidableRel BeginsIn := fun _ w =>
  Option.decidableForallMem w.head?

/-- Two texts are equal, or differ in one block only: the text in front of it ends in one
of some characters and has some property, the text behind it begins with one of some. -/
def DifferIn (ends begins : List Char) (Clear : List Char → Prop) (k₁ k₂ t₁ t₂ : List Char) :
    Prop :=
  t₁ = t₂ ∨ ∃ u w, EndsIn ends u ∧ Clear u ∧ BeginsIn begins w ∧
    t₁ = u ++ (k₁ ++ w) ∧ t₂ = u ++ (k₂ ++ w)

/-- A rule that leaves the block alone and treats both texts alike. -/
theorem DifferIn.replaceAfter
    {ends begins : List Char} {Clear : List Char → Prop} {shape : Shape}
    {f : List Char → List Char} {t₁ t₂ : List Char}
    (hclear : ∀ u U c, Masks IsPlaceholder u U → Clear (u ++ [c]) → Clear (U ++ [c]))
    (hblocks : ∀ k ∈ [k₁, k₂], ∀ before w, BeginsIn begins w →
      shape.replaceAfter f before (k ++ w) = k ++ shape.replaceAfter f none w)
    (hstop : ∀ d ∈ ends ++ begins, ∀ before t, shape before (d :: t) = .miss 1)
    (htreat : ∀ u c w, c ∈ ends → Clear (u ++ [c]) → BeginsIn begins w →
      (∀ k ∈ [k₁, k₂], shape.replaceAfter f none (c :: (k ++ w)) =
        c :: (k ++ shape.replaceAfter f none w)) →
      (∀ d ∈ w.head?, ∀ t, shape none (d :: t) = .miss 1) →
      shape.TreatsAlike f c k₁ k₂ w u)
    (h : DifferIn ends begins Clear k₁ k₂ t₁ t₂) :
    DifferIn ends begins Clear k₁ k₂ (shape.replaceAfter f none t₁)
      (shape.replaceAfter f none t₂) := by
  have hhead {w : List Char} (hw : BeginsIn begins w) :
      ∀ d ∈ w.head?, ∀ t, shape none (d :: t) = .miss 1 := fun d hd =>
    hstop d (List.mem_append_right ends (hw d hd)) none
  rcases h with rfl | ⟨u, w, hends, hclearu, hbegins, rfl, rfl⟩
  · exact .inl rfl
  rcases List.eq_nil_or_concat u with rfl | ⟨u, c, rfl⟩
  · have hkept : BeginsIn begins (shape.replaceAfter f none w) := fun c hc =>
      hbegins c (head?_replaceAfter (f := f) (hhead hbegins) ▸ hc)
    refine .inr ⟨[], _, hends, hclearu, hkept, ?_, ?_⟩
    · exact hblocks k₁ List.mem_cons_self none w hbegins
    · exact hblocks k₂ (List.mem_cons_of_mem k₁ List.mem_cons_self) none w hbegins
  · rw [List.concat_eq_append] at hends hclearu ⊢
    have hc : c ∈ ends := hends c (by rw [List.getLast?_append]; rfl)
    have hsplit (U k W : List Char) : U ++ [c] ++ (k ++ W) = U ++ c :: (k ++ W) := by
      rw [List.append_assoc, List.singleton_append]
    rw [hsplit, hsplit]
    have hleft : ∀ k ∈ [k₁, k₂], shape.replaceAfter f none (c :: (k ++ w)) =
        c :: (k ++ shape.replaceAfter f none w) := by
      intro k hk
      rw [replaceAfter_cons (hstop c (List.mem_append_left begins hc) none _),
        hblocks k hk _ w hbegins]
    rcases htreat u c w hc hclearu hbegins hleft (hhead hbegins) with hsame | ⟨U, W, haround, hleft⟩
    · exact .inl hsame
    · refine .inr ⟨U ++ [c], W, ?_, hclear u U c haround.masks hclearu, ?_, ?_, ?_⟩
      · intro d hd
        rw [List.getLast?_append] at hd
        injection hd with hd
        exact hd ▸ hc
      · intro d hd
        exact hbegins d (haround.head ▸ hd)
      · rw [hsplit, hleft k₁ List.mem_cons_self]
      · rw [hsplit, hleft k₂ (List.mem_cons_of_mem k₁ List.mem_cons_self)]

/-- A rule that does not look in front of a place, finds nothing in the blocks and nothing
next to them, and treats both texts alike. -/
theorem DifferIn.apply
    {ends begins : List Char} {Clear : List Char → Prop} {r : Rule} {t₁ t₂ : List Char}
    (hclear : ∀ u U c, Masks IsPlaceholder u U → Clear (u ++ [c]) → Clear (U ++ [c]))
    (hforget : ∀ before before' t, r.shape before t = r.shape before' t)
    (hmiss : ∀ k ∈ [k₁, k₂], ∀ w, BeginsIn begins w → ∀ y, y ≠ [] → y <:+ k →
      ∃ n ≤ y.length, r.shape none (y ++ w) = .miss n)
    (hstop : ∀ d ∈ ends ++ begins, ∀ before t, r.shape before (d :: t) = .miss 1)
    (htreat : ∀ u c w, c ∈ ends → Clear (u ++ [c]) →
      (∀ k ∈ [k₁, k₂], r.shape.replaceAfter r.replacement none (c :: (k ++ w)) =
        c :: (k ++ r.shape.replaceAfter r.replacement none w)) →
      (∀ d ∈ w.head?, ∀ t, r.shape none (d :: t) = .miss 1) →
      r.shape.TreatsAlike r.replacement c k₁ k₂ w u)
    (h : DifferIn ends begins Clear k₁ k₂ t₁ t₂) :
    DifferIn ends begins Clear k₁ k₂ (r.apply t₁) (r.apply t₂) := by
  rw [r.apply_eq_replaceAfter, r.apply_eq_replaceAfter]
  refine h.replaceAfter hclear ?_ hstop fun u c w hc hu _ => htreat u c w hc hu
  intro k hk before w hw
  exact replaceAfter_append_of_forgets hforget (hmiss k hk w hw)

end TraceCheck.Redaction
