import Mathlib.Data.List.TakeWhile
import TraceCheck.Proofs.Redaction.Replacement

/-!
# Boundaries between parts

A way of passing a part of a text does not look beyond a character that it cannot
pass.  So a text may be cut in front of such a character, and a shape finds on the
left what it finds in the whole.
-/

namespace TraceCheck.Redaction

open TraceCheck.Text TraceCheck.Unicode

namespace Remainder

/-- A remainder with more text behind it. -/
def followedBy (r : Remainder) (z : List Char) : Remainder :=
  ⟨r.passed, r.rest ++ z⟩

/-- A remainder with more characters in front. -/
def shift (n : Nat) (r : Remainder) : Remainder :=
  ⟨n + r.passed, r.rest⟩

/-- The number of characters in front and behind. -/
def total (r : Remainder) : Nat :=
  r.passed + r.rest.length

variable {r r' : Remainder} {z : List Char} {p : Char → Bool}

theorem whole_append (y z : List Char) : whole (y ++ z) = (whole y).followedBy z :=
  rfl

theorem passed_le_total (r : Remainder) : r.passed ≤ r.total :=
  Nat.le_add_right _ _

/-! ## A fixed beginning -/

/-- A word in front of a character that it does not have lies in front of it. -/
theorem prefix_of_prefix_append
    {w y : List Char} (hz : ∀ c ∈ z.head?, c ∉ w) (h : w <+: y ++ z) : w <+: y := by
  rcases List.prefix_or_prefix_of_prefix h (List.prefix_append y z) with hw | ⟨w', rfl⟩
  · exact hw
  · rw [List.prefix_append_right_inj] at h
    cases w' with
    | nil =>
        rw [List.append_nil]
    | cons c w' =>
        obtain ⟨t, rfl⟩ := h
        exact absurd (List.mem_append_right y List.mem_cons_self) (hz c rfl)

theorem after?_followedBy
    {beginning : List Char} (hz : ∀ c ∈ z.head?, c ∉ beginning) :
    (r.followedBy z).after? beginning = (r.after? beginning).map (·.followedBy z) := by
  obtain ⟨n, cs⟩ := r
  induction beginning generalizing n cs with
  | nil => rfl
  | cons b bs ih =>
      cases cs with
      | nil =>
          cases z with
          | nil => rfl
          | cons c z =>
              have hne : b ≠ c := by
                rintro rfl
                exact hz b rfl List.mem_cons_self
              exact if_neg hne
      | cons c cs =>
          have hrest := ih (fun c hc hmem => hz c hc (List.mem_cons_of_mem b hmem)) (n + 1) cs
          change (if b = c then _ else none) = Option.map _ (if b = c then _ else none)
          split
          · exact hrest
          · rfl

theorem after?_shift (n : Nat) (beginning : List Char) :
    (r.shift n).after? beginning = (r.after? beginning).map (shift n) := by
  obtain ⟨m, cs⟩ := r
  induction beginning generalizing m cs with
  | nil => rfl
  | cons b bs ih =>
      cases cs with
      | nil => rfl
      | cons c cs =>
          change (if b = c then _ else none) = Option.map _ (if b = c then _ else none)
          split
          · exact ih (m + 1) cs
          · rfl

theorem total_of_after? {beginning : List Char} (h : r.after? beginning = some r') :
    r'.total = r.total := by
  obtain ⟨hrest, hpassed⟩ := after?_eq_some_iff.mp h
  rw [total, total, hrest, hpassed, List.length_append, Nat.add_assoc]

/-! ## A word in any case -/

theorem afterFolded?_followedBy
    {fold : Char → Char} {word : List Char} (hz : ∀ c ∈ z.head?, fold c ∉ word) :
    (r.followedBy z).afterFolded? fold word =
      (r.afterFolded? fold word).map (·.followedBy z) := by
  obtain ⟨n, cs⟩ := r
  induction word generalizing n cs with
  | nil => rfl
  | cons w ws ih =>
      cases cs with
      | nil =>
          cases z with
          | nil => rfl
          | cons c z =>
              have hne : w ≠ fold c := by
                intro heq
                exact hz c rfl (heq ▸ List.mem_cons_self)
              exact if_neg hne
      | cons c cs =>
          have hrest := ih (fun c hc hmem => hz c hc (List.mem_cons_of_mem w hmem)) (n + 1) cs
          change (if w = fold c then _ else none) = Option.map _ (if w = fold c then _ else none)
          split
          · exact hrest
          · rfl

theorem afterFolded?_eq_some_iff {fold : Char → Char} {word : List Char} :
    r.afterFolded? fold word = some r' ↔
      ∃ written, r.rest = written ++ r'.rest ∧ written.map fold = word ∧
        r'.passed = r.passed + written.length := by
  obtain ⟨n, cs⟩ := r
  obtain ⟨n', cs'⟩ := r'
  dsimp only
  induction word generalizing n cs with
  | nil =>
      constructor
      · intro h
        injection h with h
        injection h with hn hcs
        exact ⟨[], hcs, rfl, hn.symm⟩
      · rintro ⟨written, rfl, hfold, rfl⟩
        rw [List.map_eq_nil_iff.mp hfold]
        rfl
  | cons w ws ih =>
      cases cs with
      | nil =>
          refine ⟨nofun, ?_⟩
          rintro ⟨written, hsplit, hfold, -⟩
          rw [(List.nil_eq_append_iff.mp hsplit).1] at hfold
          cases hfold
      | cons c cs =>
          rw [afterFolded?, Option.ite_none_right_eq_some, ih]
          constructor
          · rintro ⟨rfl, written, rfl, rfl, hpassed⟩
            refine ⟨c :: written, rfl, rfl, ?_⟩
            rw [hpassed, List.length_cons]
            omega
          · rintro ⟨written, hsplit, hfold, hpassed⟩
            cases written with
            | nil => cases hfold
            | cons d written =>
                injection hsplit with hd hsplit
                injection hfold with hw hfold
                subst hd
                refine ⟨hw.symm, written, hsplit, hfold, ?_⟩
                rw [hpassed, List.length_cons]
                omega

theorem total_of_afterFolded?
    {fold : Char → Char} {word : List Char} (h : r.afterFolded? fold word = some r') :
    r'.total = r.total := by
  obtain ⟨written, hrest, -, hpassed⟩ := afterFolded?_eq_some_iff.mp h
  rw [total, total, hrest, hpassed, List.length_append, Nat.add_assoc]

/-! ## The characters of a class -/

theorem afterWhile_eq (r : Remainder) (p : Char → Bool) :
    r.afterWhile p = ⟨r.passed + (r.rest.takeWhile p).length, r.rest.dropWhile p⟩ :=
  passWhile_eq p r.passed r.rest

/-- A class is passed on the left alone when the next character is not in the class, or
when a character on the left is not. -/
theorem afterWhile_followedBy (h : (∀ c ∈ z.head?, p c = false) ∨ ∃ c ∈ r.rest, p c = false) :
    (r.followedBy z).afterWhile p = (r.afterWhile p).followedBy z := by
  obtain ⟨n, cs⟩ := r
  have hspan : (cs ++ z).takeWhile p = cs.takeWhile p ∧
      (cs ++ z).dropWhile p = cs.dropWhile p ++ z := by
    by_cases hall : ∀ c ∈ cs, p c = true
    · have hz : ∀ c ∈ z.head?, p c = false := by
        rcases h with hz | ⟨c, hc, hfalse⟩
        · exact hz
        · rw [hall c hc] at hfalse
          cases hfalse
      rw [List.takeWhile_append_of_pos hall, List.dropWhile_append_of_pos hall,
        List.takeWhile_eq_self_iff.mpr hall, List.dropWhile_eq_nil_iff.mpr hall]
      cases z with
      | nil => exact ⟨List.append_nil cs, rfl⟩
      | cons c z =>
          have hc : ¬ p c = true := by
            rw [hz c rfl]
            exact Bool.false_ne_true
          rw [List.takeWhile_cons_of_neg hc, List.dropWhile_cons_of_neg hc]
          exact ⟨List.append_nil cs, rfl⟩
    · have hshort : ¬ (cs.takeWhile p).length = cs.length := by
        intro hlength
        refine hall (List.takeWhile_eq_self_iff.mp ?_)
        exact (List.takeWhile_prefix p).eq_of_length hlength
      rw [List.takeWhile_append, if_neg hshort, List.dropWhile_append, if_neg]
      · exact ⟨rfl, rfl⟩
      · rw [List.isEmpty_iff, List.dropWhile_eq_nil_iff]
        exact hall
  rw [afterWhile_eq, afterWhile_eq]
  exact congrArg₂ (fun t d => Remainder.mk (n + t) d) (congrArg List.length hspan.1) hspan.2

theorem afterRun?_followedBy
    {least : Nat} (h : (∀ c ∈ z.head?, p c = false) ∨ ∃ c ∈ r.rest, p c = false) :
    (r.followedBy z).afterRun? p least = (r.afterRun? p least).map (·.followedBy z) := by
  unfold afterRun?
  rw [afterWhile_followedBy h]
  change (if r.passed + least ≤ (r.afterWhile p).passed then _ else none) =
    Option.map _ (if r.passed + least ≤ (r.afterWhile p).passed then _ else none)
  split <;> rfl

theorem afterWhile_shift (n : Nat) (p : Char → Bool) :
    (r.shift n).afterWhile p = (r.afterWhile p).shift n := by
  rw [afterWhile_eq, afterWhile_eq, shift, shift, Nat.add_assoc]

theorem total_afterWhile (r : Remainder) (p : Char → Bool) :
    (r.afterWhile p).total = r.total := by
  have hlength := congrArg List.length (List.takeWhile_append_dropWhile (p := p) (l := r.rest))
  rw [List.length_append] at hlength
  rw [afterWhile_eq, total, total]
  dsimp only
  omega

theorem total_of_afterRun? {least : Nat} (h : r.afterRun? p least = some r') :
    r'.total = r.total := by
  obtain ⟨-, heq⟩ := Option.ite_none_right_eq_some.mp h
  injection heq with heq
  rw [← heq, total_afterWhile]

/-! ## Answers -/

theorem probe_map_followedBy (o : Option Remainder) (z : List Char) :
    probe (o.map (·.followedBy z)) = probe o := by
  cases o <;> rfl

theorem probe_eq_hit_iff {o : Option Remainder} {n : Nat} :
    probe o = .hit n ↔ ∃ r, o = some r ∧ r.passed = n := by
  cases o with
  | none =>
      refine ⟨nofun, ?_⟩
      rintro ⟨r, h, -⟩
      cases h
  | some r => simp [probe]

/-- A place where nothing begins is passed by one character. -/
theorem probe_of_not_hit {o : Option Remainder} (h : ∀ n, probe o ≠ .hit n) :
    probe o = .miss 1 := by
  cases o with
  | none => rfl
  | some r => exact absurd rfl (h r.passed)

/-- An answer about a text settles no place behind it. -/
theorem places_probe_le
    {y : List Char} (hy : y ≠ []) {o : Option Remainder}
    (h : ∀ r, o = some r → r.total = y.length) : (probe o).places ≤ y.length := by
  cases o with
  | none => exact List.length_pos_iff.mpr hy
  | some r =>
      rw [← h r rfl]
      exact r.passed_le_total

end Remainder

/-! ## Shapes that stop -/

theorem map_bind_comm {α : Type} {o : Option α} {g : α → α} {f : α → Option α}
    (h : ∀ a, f (g a) = (f a).map g) : (o.map g).bind f = (o.bind f).map g := by
  cases o with
  | none => rfl
  | some a => exact h a

theorem findSome?_eq_map {α β γ : Type} {l : List α} {f : α → Option γ} {g : α → Option β}
    {h : β → γ} (hf : ∀ a ∈ l, f a = (g a).map h) :
    l.findSome? f = (l.findSome? g).map h := by
  induction l with
  | nil => rfl
  | cons a l ih =>
      rw [List.findSome?_cons, List.findSome?_cons, hf a List.mem_cons_self,
        ih fun b hb => hf b (List.mem_cons_of_mem a hb)]
      cases g a <;> rfl

/-- Pass one of some beginnings of the same length. -/
theorem findSome?_after?_eq_some_iff {starts : List String} {n : Nat}
    (hlength : ∀ start ∈ starts, start.toList.length = n) {cs : List Char} {r : Remainder} :
    (starts.findSome? fun start => (Remainder.whole cs).after? start.toList) = some r ↔
      ∃ start ∈ starts, cs = start.toList ++ r.rest ∧ r.passed = n := by
  have hafter {start : String} (hstart : start ∈ starts) {r : Remainder} :
      (Remainder.whole cs).after? start.toList = some r ↔
        cs = start.toList ++ r.rest ∧ r.passed = n := by
    rw [Remainder.after?_eq_some_iff, Remainder.whole, Nat.zero_add, hlength start hstart]
  constructor
  · intro h
    obtain ⟨start, hstart, h⟩ := List.exists_of_findSome?_eq_some h
    exact ⟨start, hstart, (hafter hstart).mp h⟩
  · rintro ⟨start, hstart, hcs, hpassed⟩
    obtain ⟨r', hr'⟩ : ∃ r', (starts.findSome? fun start =>
        (Remainder.whole cs).after? start.toList) = some r' := by
      refine Option.isSome_iff_exists.mp (List.findSome?_isSome_iff.mpr ⟨start, hstart, ?_⟩)
      exact Option.isSome_iff_exists.mpr ⟨r, (hafter hstart).mpr ⟨hcs, hpassed⟩⟩
    -- The beginning that is found leaves the same rest.
    obtain ⟨start', hstart', h⟩ := List.exists_of_findSome?_eq_some hr'
    obtain ⟨hcs', hpassed'⟩ := (hafter hstart').mp h
    have hsame := List.append_inj_right (hcs'.symm.trans hcs)
      ((hlength _ hstart').trans (hlength _ hstart).symm)
    obtain ⟨passed, rest⟩ := r
    obtain ⟨passed', rest'⟩ := r'
    dsimp only at hsame hpassed hpassed'
    rw [hr', hsame, hpassed, hpassed']

variable {z : List Char} {before : Option Char}

theorem afterPayload?_followedBy (hz : ∀ c ∈ z.head?, isTokenChar c = false ∧ c ≠ '.')
    (r : Remainder) :
    afterPayload? (r.followedBy z) = (afterPayload? r).map (·.followedBy z) := by
  have hdot : ∀ c ∈ z.head?, c ∉ ['.'] := fun c hc hmem =>
    (hz c hc).2 (List.mem_singleton.mp hmem)
  have htoken : ∀ c ∈ z.head?, isTokenChar c = false := fun c hc => (hz c hc).1
  unfold afterPayload?
  rw [Remainder.after?_followedBy hdot]
  refine map_bind_comm fun r => ?_
  rw [Remainder.afterRun?_followedBy (.inl htoken)]
  refine map_bind_comm fun r => ?_
  rw [Remainder.after?_followedBy hdot]
  exact map_bind_comm fun r => Remainder.afterRun?_followedBy (.inl htoken)

theorem total_of_afterPayload? {r r' : Remainder} (h : afterPayload? r = some r') :
    r'.total = r.total := by
  obtain ⟨r₁, h₁, h⟩ := Option.bind_eq_some_iff.mp h
  obtain ⟨r₂, h₂, h⟩ := Option.bind_eq_some_iff.mp h
  obtain ⟨r₃, h₃, h⟩ := Option.bind_eq_some_iff.mp h
  rw [Remainder.total_of_afterRun? h, Remainder.total_of_after? h₃,
    Remainder.total_of_afterRun? h₂, Remainder.total_of_after? h₁]

/-- A signed token ends in front of a character that it does not have. -/
theorem signedToken_separates (hz : ∀ c ∈ z.head?, isTokenChar c = false ∧ c ≠ '.')
    (u : List Char) : signedToken.Separates before u z := by
  intro x y _ hy
  have hstart : ∀ c ∈ z.head?, c ∉ "eyJ".toList := by
    have hall : ∀ c ∈ "eyJ".toList, isTokenChar c = true := by decide
    intro c hc hmem
    have htoken := (hz c hc).1
    rw [hall c hmem] at htoken
    cases htoken
  have hpos := List.length_pos_iff.mpr hy
  unfold signedToken
  rw [Remainder.whole_append, Remainder.after?_followedBy hstart]
  cases hr : (Remainder.whole y).after? "eyJ".toList with
  | none => exact ⟨rfl, hpos⟩
  | some r =>
      have htotal : (r.afterWhile isTokenChar).total = y.length :=
        (Remainder.total_afterWhile r _).trans
          ((Remainder.total_of_after? hr).trans (Nat.zero_add _))
      dsimp only [Option.map_some]
      rw [Remainder.afterWhile_followedBy (.inl fun c hc => (hz c hc).1),
        afterPayload?_followedBy hz]
      cases hpayload : afterPayload? (r.afterWhile isTokenChar) with
      | none => exact ⟨rfl, htotal ▸ Remainder.passed_le_total _⟩
      | some r' =>
          have htotal' := (total_of_afterPayload? hpayload).trans htotal
          refine ⟨rfl, ?_⟩
          dsimp only
          split
          · next hthree =>
              rw [← htotal, Probe.places, ← hthree]
              exact Remainder.passed_le_total _
          · rw [← htotal']
            exact r'.passed_le_total

/-- A signed token begins with a small letter. -/
theorem signedToken_of_ne {d : Char} (hd : d ≠ 'e') (before : Option Char) (t : List Char) :
    signedToken before (d :: t) = .miss 1 := by
  have hnone : (Remainder.whole (d :: t)).after? "eyJ".toList = none := by
    refine Option.eq_none_iff_forall_ne_some.mpr fun r hr => hd ?_
    have hhead := congrArg List.head? (Remainder.after?_eq_some_iff.mp hr).1
    rw [List.head?_append] at hhead
    injection hhead
  unfold signedToken
  rw [hnone]

/-- A signed token has points. -/
theorem signedToken_of_pointless {y : List Char} (hpoint : '.' ∉ y)
    (hz : ∀ c ∈ z.head?, isTokenChar c = false ∧ c ≠ '.') (hy : y ≠ []) (before : Option Char) :
    ∃ n ≤ y.length, signedToken before (y ++ z) = .miss n := by
  have hseparates : signedToken.Separates before y z := signedToken_separates hz y
  obtain ⟨hsame, hplaces⟩ := hseparates [] y rfl hy
  change signedToken before (y ++ z) = signedToken before y at hsame
  change (signedToken before y).places ≤ y.length at hplaces
  rw [hsame]
  cases hprobe : signedToken before y with
  | miss n =>
      rw [hprobe] at hplaces
      exact ⟨n, hplaces, rfl⟩
  | hit n =>
      refine absurd ?_ hpoint
      unfold signedToken at hprobe
      split at hprobe
      · cases hprobe
      · next r hr =>
          dsimp only at hprobe
          split at hprobe
          · next r' hr' =>
              obtain ⟨r₁, hdot, -⟩ := Option.bind_eq_some_iff.mp hr'
              have hrest := (Remainder.after?_eq_some_iff.mp hdot).1
              have hwhole := (Remainder.after?_eq_some_iff.mp hr).1
              change y = _ at hwhole
              have hmem : '.' ∈ r.rest.dropWhile isTokenChar := by
                rw [Remainder.afterWhile_eq] at hrest
                dsimp only at hrest
                rw [hrest]
                exact List.mem_cons_self
              rw [hwhole]
              exact List.mem_append_right _ ((List.dropWhile_suffix _).subset hmem)
          · cases hprobe

theorem apiKey_places_le {before : Option Char} {cs : List Char} (hcs : cs ≠ []) :
    (apiKey before cs).places ≤ cs.length := by
  refine Remainder.places_probe_le hcs fun r hr => ?_
  obtain ⟨r₁, hr₁, hr⟩ := Option.bind_eq_some_iff.mp hr
  obtain ⟨start, -, hafter⟩ := List.exists_of_findSome?_eq_some hr₁
  rw [Remainder.total_of_afterRun? hr, Remainder.total_of_after? hafter]
  exact Nat.zero_add _

theorem isTokenChar_of_mem_start {start : String} (hstart : start ∈ apiKeyStarts) {c : Char}
    (hc : c ∈ start.toList) : isTokenChar c = true := by
  have hall : ∀ start ∈ apiKeyStarts, ∀ c ∈ start.toList, isTokenChar c = true := by decide
  exact hall start hstart c hc

/-- A service key ends in front of a character that is no letter and no digit. -/
theorem apiKey_separates (hz : ∀ c ∈ z.head?, isTokenChar c = false) (u : List Char) :
    apiKey.Separates before u z := by
  intro x y _ hy
  have hnext {p : Char → Bool} (hp : ∀ c, p c = true → isTokenChar c = true) :
      ∀ c ∈ z.head?, p c = false := fun c hc =>
    (Bool.not_eq_true _).mp fun hpc => Bool.false_ne_true ((hz c hc).symm.trans (hp c hpc))
  have hstart : (apiKeyStarts.findSome? fun start =>
      (Remainder.whole (y ++ z)).after? start.toList) =
      (apiKeyStarts.findSome? fun start =>
        (Remainder.whole y).after? start.toList).map (·.followedBy z) := by
    refine findSome?_eq_map fun start hmem => ?_
    rw [Remainder.whole_append, Remainder.after?_followedBy]
    intro c hc hin
    exact Bool.false_ne_true ((hz c hc).symm.trans (isTokenChar_of_mem_start hmem hin))
  have hbody : ∀ c, isAlphanumeric c = true → isTokenChar c = true := by
    intro c hc
    rw [isTokenChar, hc, Bool.true_or, Bool.true_or]
  refine ⟨?_, apiKey_places_le hy⟩
  unfold apiKey
  rw [hstart]
  exact (congrArg Remainder.probe (map_bind_comm fun r =>
    Remainder.afterRun?_followedBy (.inl (hnext hbody)))).trans
      (Remainder.probe_map_followedBy _ z)

end TraceCheck.Redaction
