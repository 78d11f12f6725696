import TraceCheck.Proofs.Redaction.Secrets
import TraceCheck.Proofs.Unicode.Words

/-!
# Mail addresses and numbers

A mail address is found wherever its form stands in a text.  A card number and a social
security number stand between the ends of words; they consist of digits and of what may
part them.
-/

namespace TraceCheck.Redaction

open TraceCheck.Text TraceCheck.Unicode

variable {before : Option Char} {cs : List Char} {n : Nat}

/-! ## Mail addresses -/

/-- A domain ends in a point and all letters behind it. -/
theorem exists_of_domainLength? {offset : Nat} (h : domainLength? offset cs = some n) :
    ∃ front letters rest : List Char, (offset ≠ 0 ∨ front ≠ []) ∧ 2 ≤ letters.length ∧
      (∀ c ∈ letters, isFoldedLetter c = true) ∧
        (∀ c ∈ rest.head?, isFoldedLetter c = false) ∧
          cs = front ++ '.' :: (letters ++ rest) ∧
            n = offset + (front ++ '.' :: letters).length := by
  induction cs generalizing offset with
  | nil => cases h
  | cons c cs ih =>
      rw [domainLength?] at h
      cases hbehind : domainLength? (offset + 1) cs with
      | some m =>
          rw [hbehind] at h
          injection h with h
          subst h
          obtain ⟨front, letters, rest, -, hlong, hall, hstop, rfl, rfl⟩ := ih hbehind
          refine ⟨c :: front, letters, rest, .inr (List.cons_ne_nil c front), hlong, hall, hstop,
            rfl, ?_⟩
          simp only [List.cons_append, List.length_cons, Nat.add_assoc, Nat.add_comm 1]
      | none =>
          rw [hbehind] at h
          obtain ⟨⟨hoffset, rfl⟩, hrun⟩ := Option.ite_none_right_eq_some.mp h
          obtain ⟨r, hr, rfl⟩ := Option.map_eq_some_iff.mp hrun
          obtain ⟨letters, hsplit, hall, hstop, hlong, hpassed⟩ :=
            Remainder.afterRun?_eq_some_iff_append.mp hr
          dsimp only at hsplit hpassed
          refine ⟨[], letters, r.rest, .inl hoffset, hlong, hall, hstop, ?_, ?_⟩
          · rw [hsplit, List.nil_append]
          · rw [hpassed, List.nil_append, List.length_cons]
            omega

theorem exists_domainLength? {offset : Nat} {front rest : List Char} {x y : Char}
    (hoffset : offset ≠ 0 ∨ front ≠ []) (hx : isFoldedLetter x = true)
    (hy : isFoldedLetter y = true) :
    ∃ n, domainLength? offset (front ++ '.' :: x :: y :: rest) = some n := by
  induction front generalizing offset with
  | nil =>
      have hoffset := hoffset.resolve_right fun h => h rfl
      obtain ⟨r, hr⟩ : ∃ r, (Remainder.mk (offset + 1) (x :: y :: rest)).afterRun?
          isFoldedLetter 2 = some r := by
        refine ⟨_, Remainder.afterRun?_eq_some_iff.mpr ⟨?_, rfl⟩⟩
        rw [List.takeWhile_cons_of_pos hx, List.takeWhile_cons_of_pos hy]
        exact Nat.le_add_left 2 _
      rw [List.nil_append, domainLength?]
      cases domainLength? (offset + 1) (x :: y :: rest) with
      | some n => exact ⟨n, rfl⟩
      | none =>
          dsimp only
          rw [if_pos ⟨hoffset, rfl⟩, hr]
          exact ⟨r.passed, rfl⟩
  | cons c front ih =>
      obtain ⟨n, hn⟩ := ih (.inl (Nat.succ_ne_zero offset))
      refine ⟨n, ?_⟩
      rw [List.cons_append, domainLength?, hn]

theorem isDomainChar_of_isFoldedLetter {c : Char} (hc : isFoldedLetter c = true) :
    isDomainChar c = true := by
  simp only [isDomainChar, hc, Bool.true_or]

/-- A mail address is found up to the last letters of its domain. -/
theorem exists_of_mailAddress (h : mailAddress before cs = .hit n) :
    ∃ box front letters rest : List Char, box ≠ [] ∧ (∀ c ∈ box, isMailboxChar c = true) ∧
      front ≠ [] ∧ (∀ c ∈ front, isDomainChar c = true) ∧ 2 ≤ letters.length ∧
        (∀ c ∈ letters, isFoldedLetter c = true) ∧
          (∀ c ∈ rest.head?, isFoldedLetter c = false) ∧
            cs = box ++ '@' :: (front ++ '.' :: (letters ++ rest)) ∧
              n = (box ++ '@' :: (front ++ '.' :: letters)).length := by
  unfold mailAddress at h
  cases hbox : (Remainder.whole cs).afterWhile isMailboxChar with
  | mk passed text =>
      rw [hbox] at h
      obtain ⟨box, hsplit, hall, -, hpassed⟩ := Remainder.afterWhile_eq_iff.mp hbox
      dsimp only at h hsplit hpassed
      split at h
      · cases h
      · next hsome =>
          split at h
          · next text =>
              split at h
              · next m hm =>
                  injection h with h
                  obtain ⟨front, letters, rest, hfront, hlong, hletters, hstop, htake, hm⟩ :=
                    exists_of_domainLength? hm
                  obtain ⟨htext, hdomain, hend⟩ :=
                    eq_run_append isDomainChar text
                  rw [htake] at hdomain
                  refine ⟨box, front, letters, rest ++ text.dropWhile isDomainChar, ?_, hall,
                    hfront.resolve_left fun h => h rfl, fun c hc => hdomain c
                      (List.mem_append_left _ hc), hlong, hletters, fun c hc => ?_, ?_, ?_⟩
                  · rintro rfl
                    exact hsome hpassed
                  · cases rest with
                    | cons d rest => exact hstop c hc
                    | nil =>
                        refine (Bool.not_eq_true _).mp fun hletter => ?_
                        have hother := hend c hc
                        rw [isDomainChar_of_isFoldedLetter hletter] at hother
                        cases hother
                  · change cs = _ at hsplit
                    rw [hsplit]
                    conv_lhs => rw [htext, htake]
                    simp only [List.append_assoc, List.cons_append]
                  · rw [← h, hm, hpassed]
                    simp only [Remainder.whole, List.length_append, List.length_cons]
                    omega
              · cases h
          · cases h

/-- The shortest form of a mail address with its whole mailbox. -/
def IsMailAddress (w : List Char) : Prop :=
  ∃ (box front : List Char) (x y : Char), box ≠ [] ∧ (∀ c ∈ box, isMailboxChar c = true) ∧
    front ≠ [] ∧ (∀ c ∈ front ++ ['.', x, y], isDomainChar c = true) ∧
      isFoldedLetter x = true ∧ isFoldedLetter y = true ∧
        w = box ++ '@' :: (front ++ ['.', x, y])

/-- A mail address is found where its shortest form stands. -/
theorem exists_hit_mailAddress_iff :
    (∃ n, mailAddress before cs = .hit n) ↔ ∃ w, IsMailAddress w ∧ w <+: cs := by
  have hpoint : isDomainChar '.' = true := by decide
  constructor
  · rintro ⟨n, hhit⟩
    obtain ⟨box, front, letters, rest, hbox, hall, hfront, hdomain, hlong, hletters, -, rfl, -⟩ :=
      exists_of_mailAddress hhit
    rcases letters with _ | ⟨x, _ | ⟨y, letters⟩⟩
    · exact absurd hlong (by simp)
    · exact absurd hlong (by simp)
    have hx := hletters x List.mem_cons_self
    have hy := hletters y (List.mem_cons_of_mem x List.mem_cons_self)
    refine ⟨_, ⟨box, front, x, y, hbox, hall, hfront, ?_, hx, hy, rfl⟩, letters ++ rest, ?_⟩
    · refine List.forall_mem_append.mpr ⟨hdomain, ?_⟩
      simp only [List.forall_mem_cons, hpoint, isDomainChar_of_isFoldedLetter hx,
        isDomainChar_of_isFoldedLetter hy, List.not_mem_nil, false_implies, implies_true, and_self]
    · simp only [List.append_assoc, List.cons_append, List.nil_append]
  · rintro ⟨w, ⟨box, front, x, y, hbox, hall, hfront, hdomain, hx, hy, rfl⟩, rest, rfl⟩
    have hat : isMailboxChar '@' = false := by decide
    have htext : box ++ '@' :: (front ++ ['.', x, y]) ++ rest =
        box ++ '@' :: (front ++ ['.', x, y] ++ rest) := by
      simp only [List.append_assoc, List.cons_append]
    have hmailbox : (Remainder.whole (box ++ '@' :: (front ++ ['.', x, y] ++ rest))).afterWhile
        isMailboxChar = ⟨box.length, '@' :: (front ++ ['.', x, y] ++ rest)⟩ := by
      refine Remainder.afterWhile_eq_iff.mpr ⟨box, rfl, hall, ?_, (Nat.zero_add _).symm⟩
      rintro c ⟨⟩
      exact hat
    obtain ⟨n, hn⟩ : ∃ n, domainLength? 0 ((front ++ ['.', x, y] ++ rest).takeWhile isDomainChar) =
        some n := by
      rw [List.takeWhile_append_of_pos hdomain, List.append_assoc]
      exact exists_domainLength? (.inr hfront) hx hy
    refine ⟨box.length + 1 + n, ?_⟩
    unfold mailAddress
    rw [htext, hmailbox]
    dsimp only
    rw [if_neg (List.length_pos_iff.mpr hbox).ne']
    simp only [hn]

theorem mailAddress_isHonest : mailAddress.IsHonest where
  fits := by
    intro before cs n hhit
    obtain ⟨box, front, letters, rest, -, -, -, -, -, -, -, rfl, rfl⟩ := exists_of_mailAddress hhit
    simp only [List.length_append, List.length_cons]
    omega
  misses := by
    intro before u v n hmiss hu m hhit
    obtain ⟨w, ⟨box, front, x, y, hbox, hall, hfront, hdomain, hx, hy, rfl⟩, hstands⟩ :=
      exists_hit_mailAddress_iff.mp ⟨m, hhit⟩
    -- What stands in front belongs to the mailbox, and the whole would be found.
    have hmailbox : ∀ c ∈ u, isMailboxChar c = true := by
      unfold mailAddress at hmiss
      dsimp only at hmiss
      rw [Remainder.afterWhile_eq] at hmiss
      have hlength : u.length ≤ ((u ++ v).takeWhile isMailboxChar).length := by
        split at hmiss
        · injection hmiss with hn
          omega
        · split at hmiss
          · split at hmiss
            · cases hmiss
            · injection hmiss with hn
              simp only [Remainder.whole] at hn
              omega
          · injection hmiss with hn
            simp only [Remainder.whole] at hn
            omega
      exact (dropWhile_append_of_length_le hlength).2
    obtain ⟨k, hk⟩ : ∃ k, mailAddress before (u ++ v) = .hit k := by
      refine exists_hit_mailAddress_iff.mpr ⟨_, ⟨u ++ box, front, x, y, ?_, ?_, hfront, hdomain,
        hx, hy, rfl⟩, ?_⟩
      · exact fun hnil => hbox (List.append_eq_nil_iff.mp hnil).2
      · exact List.forall_mem_append.mpr ⟨hmailbox, hall⟩
      · rw [List.append_assoc, List.prefix_append_right_inj]
        exact hstands
    rw [hk] at hmiss
    cases hmiss

/-! ## Card numbers -/

/-- The characters of card numbers. -/
def isCardChar (c : Char) : Bool :=
  isDecimalDigit c || c == ' ' || c == '-'

/-- Digits with at most one blank or dash between two of them. -/
inductive IsGrouped : List Char → Prop
  | digit {c : Char} (hc : isDecimalDigit c = true) : IsGrouped [c]
  | next {c : Char} {w : List Char} (hc : isDecimalDigit c = true) :
      IsGrouped w → IsGrouped (c :: w)
  | parted {c s : Char} {w : List Char} (hc : isDecimalDigit c = true) (hs : s = ' ' ∨ s = '-') :
      IsGrouped w → IsGrouped (c :: s :: w)

theorem isCardChar_of_isDecimalDigit {c : Char} (hc : isDecimalDigit c = true) :
    isCardChar c = true := by
  rw [isCardChar, hc, Bool.true_or, Bool.true_or]

namespace IsGrouped

variable {w : List Char}

theorem isCardChar_of_mem (hw : IsGrouped w) : ∀ c ∈ w, isCardChar c = true := by
  induction hw with
  | digit hc => exact List.forall_mem_singleton.mpr (isCardChar_of_isDecimalDigit hc)
  | next hc _ ih => exact List.forall_mem_cons.mpr ⟨isCardChar_of_isDecimalDigit hc, ih⟩
  | parted hc hs _ ih =>
      refine List.forall_mem_cons.mpr ⟨isCardChar_of_isDecimalDigit hc,
        List.forall_mem_cons.mpr ⟨?_, ih⟩⟩
      rcases hs with rfl | rfl <;> decide

theorem exists_head (hw : IsGrouped w) : ∃ c t, w = c :: t ∧ isDecimalDigit c = true := by
  cases hw with
  | digit hc => exact ⟨_, _, rfl, hc⟩
  | next hc _ => exact ⟨_, _, rfl, hc⟩
  | parted hc _ _ => exact ⟨_, _, rfl, hc⟩

end IsGrouped

/-- Reading a card number ends, or goes on behind a digit and what parts it from the next
one; the number may end behind this digit. -/
theorem cardLength?_cons (digits length : Nat) (best : Option Nat) (c : Char)
    (rest : List Char) : cardLength? digits length best (c :: rest) = best ∨
      isDecimalDigit c = true ∧ ∃ here between tail,
        (here = best ∨ here = some (length + 1) ∧ endsWord rest = true) ∧
          rest = between ++ tail ∧ (between = [] ∨ between = [' '] ∨ between = ['-']) ∧
            cardLength? digits length best (c :: rest) =
              cardLength? (digits + 1) (length + 1 + between.length) here tail := by
  rw [cardLength?]
  by_cases hdigit : (isDecimalDigit c && decide (digits < 19)) = true
  case neg => exact .inl (if_neg hdigit)
  rw [if_pos hdigit]
  refine .inr ⟨((Bool.and_eq_true _ _).mp hdigit).1, ?_⟩
  let here := if 13 ≤ digits + 1 && endsWord rest then some (length + 1) else best
  have hhere : here = best ∨ here = some (length + 1) ∧ endsWord rest = true := by
    by_cases hends : (13 ≤ digits + 1 && endsWord rest) = true
    · exact .inr ⟨if_pos hends, ((Bool.and_eq_true _ _).mp hends).2⟩
    · exact .inl (if_neg hends)
  refine ⟨here, ?_⟩
  cases rest with
  | nil =>
      refine ⟨[], [], hhere, rfl, .inl rfl, ?_⟩
      rw [cardLength?]
  | cons s rest =>
      dsimp only
      by_cases hs : s = ' ' ∨ s = '-'
      · rw [if_pos hs]
        refine ⟨[s], rest, hhere, rfl, .inr ?_, rfl⟩
        rcases hs with rfl | rfl
        · exact .inl rfl
        · exact .inr rfl
      · rw [if_neg hs]
        exact ⟨[], s :: rest, hhere, rfl, .inl rfl, rfl⟩

/-- A card number that is longer than the best so far consists of groups of digits and ends
where a word ends. -/
theorem exists_of_cardLength? {digits length : Nat} {best : Option Nat}
    (h : cardLength? digits length best cs = some n) : best = some n ∨
      ∃ w rest, cs = w ++ rest ∧ IsGrouped w ∧ endsWord rest = true ∧ n = length + w.length := by
  induction hcs : cs.length using Nat.strongRecOn generalizing digits length best cs with
  | ind m ih =>
      subst hcs
      cases cs with
      | nil =>
          rw [cardLength?] at h
          exact .inl h
      | cons c rest =>
          rcases cardLength?_cons digits length best c rest with hbest |
            ⟨hc, here, between, tail, hhere, rfl, hbetween, hnext⟩
          · exact .inl (hbest.symm.trans h)
          have hshorter : tail.length < (c :: (between ++ tail)).length := by
            rw [List.length_cons, List.length_append]
            omega
          rcases ih _ hshorter (hnext.symm.trans h) rfl with hn | ⟨w, rest', rfl, hw, hend, hn⟩
          · rcases hhere with rfl | ⟨rfl, hend⟩
            · exact .inl hn
            · injection hn with hn
              exact .inr ⟨[c], between ++ tail, rfl, .digit hc, hend, hn.symm⟩
          · refine .inr ⟨c :: (between ++ w), rest', ?_, ?_, hend, ?_⟩
            · rw [List.cons_append, List.append_assoc]
            · rcases hbetween with rfl | rfl | rfl
              · exact .next hc hw
              · exact .parted hc (.inl rfl) hw
              · exact .parted hc (.inr rfl) hw
            · rw [hn, List.length_cons, List.length_append]
              omega

/-- A card number is found between the ends of words. -/
theorem exists_of_cardNumber (h : cardNumber before cs = .hit n) : startsWord before = true ∧
    ∃ w rest, cs = w ++ rest ∧ IsGrouped w ∧ endsWord rest = true ∧ n = w.length := by
  unfold cardNumber at h
  split at h
  · next hstart =>
      split at h
      · next m hm =>
          injection h with h
          subst h
          rcases exists_of_cardLength? hm with hbest | ⟨w, rest, hcard⟩
          · cases hbest
          · rw [Nat.zero_add] at hcard
            exact ⟨hstart, w, rest, hcard⟩
      · cases h
  · cases h

/-- A card number begins with a digit. -/
theorem cardNumber_of_not_digit {c : Char} (hc : isDecimalDigit c = false)
    (before : Option Char) (t : List Char) : cardNumber before (c :: t) = .miss 1 := by
  have hnone : cardLength? 0 0 none (c :: t) = none := by
    rw [cardLength?, hc]
    rfl
  unfold cardNumber
  rw [hnone]
  split <;> rfl

theorem cardNumber_isHonest : cardNumber.IsHonest := by
  refine .of_not_hit (fun hhit => ?_) fun before cs hmiss => ?_
  · obtain ⟨-, w, rest, rfl, hw, -, rfl⟩ := exists_of_cardNumber hhit
    obtain ⟨c, t, rfl, -⟩ := hw.exists_head
    simp only [List.length_cons, List.length_append]
    omega
  · unfold Shape.Misses cardNumber at hmiss
    unfold cardNumber
    by_cases hstart : startsWord before = true
    · rw [if_pos hstart] at hmiss ⊢
      cases hlength : cardLength? 0 0 none cs with
      | none => rfl
      | some n =>
          rw [hlength] at hmiss
          exact absurd rfl (hmiss n)
    · exact if_neg hstart

/-! ## Social security numbers -/

/-- A social security number: three, two and four decimal digits. -/
def IsSocialSecurityNumber (w : List Char) : Prop :=
  ∃ area group serial : List Char, area.length = 3 ∧ group.length = 2 ∧ serial.length = 4 ∧
    (∀ c ∈ area ++ (group ++ serial), isDecimalDigit c = true) ∧
      w = area ++ '-' :: (group ++ '-' :: serial)

namespace IsSocialSecurityNumber

variable {w : List Char}

theorem isCardChar_of_mem (hw : IsSocialSecurityNumber w) : ∀ c ∈ w, isCardChar c = true := by
  obtain ⟨area, group, serial, -, -, -, hall, rfl⟩ := hw
  have hdash : isCardChar '-' = true := by decide
  have hdigit {c : Char} (hc : c ∈ area ++ (group ++ serial)) : isCardChar c = true :=
    isCardChar_of_isDecimalDigit (hall c hc)
  intro c hc
  simp only [List.mem_append, List.mem_cons] at hc hdigit
  rcases hc with hc | rfl | hc | rfl | hc
  · exact hdigit (.inl hc)
  · exact hdash
  · exact hdigit (.inr (.inl hc))
  · exact hdash
  · exact hdigit (.inr (.inr hc))

theorem star_not_mem (hw : IsSocialSecurityNumber w) : '*' ∉ w :=
  fun hmem => absurd (hw.isCardChar_of_mem '*' hmem) (by decide)

theorem exists_head (hw : IsSocialSecurityNumber w) :
    ∃ c t, w = c :: t ∧ isDecimalDigit c = true := by
  obtain ⟨area, group, serial, harea, -, -, hall, rfl⟩ := hw
  obtain ⟨c, area, rfl⟩ := List.exists_cons_of_length_eq_add_one harea
  exact ⟨c, _, rfl, hall c List.mem_cons_self⟩

theorem exists_last (hw : IsSocialSecurityNumber w) : ∃ c ∈ w.getLast?, isWord c = true := by
  obtain ⟨area, group, serial, -, -, hserial, hall, rfl⟩ := hw
  have hne : serial ≠ [] := List.length_pos_iff.mp (by omega)
  obtain ⟨c, hc⟩ := Option.isSome_iff_exists.mp (List.getLast?_isSome.mpr hne)
  refine ⟨c, ?_, isWord_of_isDecimalDigit (hall c ?_)⟩
  · have hsplit : area ++ '-' :: (group ++ '-' :: serial) =
        area ++ '-' :: (group ++ ['-']) ++ serial := by
      simp
    rw [hsplit, List.getLast?_append, hc]
    rfl
  · exact List.mem_append_right area (List.mem_append_right group (List.mem_of_getLast? hc))

end IsSocialSecurityNumber

theorem afterDigits?_eq_some_iff {count : Nat} {r r' : Remainder} :
    afterDigits? count r = some r' ↔ ∃ digits, r.rest = digits ++ r'.rest ∧
      digits.length = count ∧ (∀ c ∈ digits, isDecimalDigit c = true) ∧
        r'.passed = r.passed + count := by
  obtain ⟨n, cs⟩ := r
  obtain ⟨n', cs'⟩ := r'
  dsimp only
  induction count generalizing n cs with
  | zero =>
      constructor
      · intro h
        injection h with h
        injection h with hn hcs
        exact ⟨[], hcs, rfl, List.forall_mem_nil _, hn.symm⟩
      · rintro ⟨digits, rfl, hlength, -, rfl⟩
        rw [List.length_eq_zero_iff.mp hlength]
        rfl
  | succ count ih =>
      cases cs with
      | nil =>
          refine ⟨nofun, ?_⟩
          rintro ⟨digits, hsplit, hlength, -⟩
          rw [(List.nil_eq_append_iff.mp hsplit).1] at hlength
          cases hlength
      | cons c cs =>
          rw [afterDigits?, Option.ite_none_right_eq_some, ih]
          constructor
          · rintro ⟨hc, digits, rfl, rfl, hall, hpassed⟩
            refine ⟨c :: digits, rfl, rfl, List.forall_mem_cons.mpr ⟨hc, hall⟩, ?_⟩
            omega
          · rintro ⟨digits, hsplit, hlength, hall, hpassed⟩
            cases digits with
            | nil => cases hlength
            | cons d digits =>
                injection hsplit with hd hsplit
                subst hd
                injection hlength with hlength
                obtain ⟨hc, hall⟩ := List.forall_mem_cons.mp hall
                exact ⟨hc, digits, hsplit, hlength, hall, by omega⟩

/-- A social security number is found between the ends of words. -/
theorem socialSecurityNumber_eq_hit_iff : socialSecurityNumber before cs = .hit n ↔
    startsWord before = true ∧ ∃ w rest, IsSocialSecurityNumber w ∧ cs = w ++ rest ∧
      endsWord rest = true ∧ n = w.length := by
  unfold socialSecurityNumber
  rw [Remainder.probe_eq_hit_iff]
  constructor
  · rintro ⟨r, hr, rfl⟩
    obtain ⟨r₁, h₁, hr₁⟩ := Option.bind_eq_some_iff.mp hr
    obtain ⟨r₂, h₂, hr₂⟩ := Option.bind_eq_some_iff.mp hr₁
    obtain ⟨r₃, h₃, hr₃⟩ := Option.bind_eq_some_iff.mp hr₂
    obtain ⟨r₄, h₄, hr₄⟩ := Option.bind_eq_some_iff.mp hr₃
    obtain ⟨r₅, h₅, hr₅⟩ := Option.bind_eq_some_iff.mp hr₄
    obtain ⟨hends, hr₅⟩ := Option.ite_none_right_eq_some.mp hr₅
    injection hr₅ with hr₅
    subst hr₅
    obtain ⟨hstart, hend⟩ := (Bool.and_eq_true _ _).mp hends
    obtain ⟨area, hsplit₁, harea, hall₁, hpassed₁⟩ := afterDigits?_eq_some_iff.mp h₁
    obtain ⟨hsplit₂, hpassed₂⟩ := Remainder.after?_eq_some_iff.mp h₂
    obtain ⟨group, hsplit₃, hgroup, hall₃, hpassed₃⟩ := afterDigits?_eq_some_iff.mp h₃
    obtain ⟨hsplit₄, hpassed₄⟩ := Remainder.after?_eq_some_iff.mp h₄
    obtain ⟨serial, hsplit₅, hserial, hall₅, hpassed₅⟩ := afterDigits?_eq_some_iff.mp h₅
    refine ⟨hstart, _, r₅.rest, ⟨area, group, serial, harea, hgroup, hserial, ?_, rfl⟩, ?_, hend, ?_⟩
    · exact List.forall_mem_append.mpr ⟨hall₁, List.forall_mem_append.mpr ⟨hall₃, hall₅⟩⟩
    · change cs = _ at hsplit₁
      rw [hsplit₁, hsplit₂, hsplit₃, hsplit₄, hsplit₅]
      simp only [List.append_assoc, List.cons_append, List.nil_append]
    · simp only [Remainder.whole, List.length_append, List.length_cons, List.length_nil] at *
      omega
  · rintro ⟨hstart, w, rest, ⟨area, group, serial, harea, hgroup, hserial, hall, rfl⟩, rfl, hend, rfl⟩
    obtain ⟨hall₁, hall⟩ := List.forall_mem_append.mp hall
    obtain ⟨hall₂, hall₃⟩ := List.forall_mem_append.mp hall
    have h₁ : afterDigits? 3 (.whole (area ++ '-' :: (group ++ '-' :: serial) ++ rest)) =
        some ⟨3, '-' :: (group ++ '-' :: (serial ++ rest))⟩ := by
      refine afterDigits?_eq_some_iff.mpr ⟨area, ?_, harea, hall₁, rfl⟩
      simp only [Remainder.whole, List.append_assoc, List.cons_append]
    have h₂ : afterDigits? 2 ⟨4, group ++ '-' :: (serial ++ rest)⟩ =
        some ⟨6, '-' :: (serial ++ rest)⟩ :=
      afterDigits?_eq_some_iff.mpr ⟨group, rfl, hgroup, hall₂, rfl⟩
    have h₃ : afterDigits? 4 ⟨7, serial ++ rest⟩ = some ⟨11, rest⟩ :=
      afterDigits?_eq_some_iff.mpr ⟨serial, rfl, hserial, hall₃, rfl⟩
    refine ⟨⟨11, rest⟩, ?_, ?_⟩
    · rw [h₁]
      change (afterDigits? 2 ⟨4, group ++ '-' :: (serial ++ rest)⟩).bind _ = _
      rw [h₂]
      change (afterDigits? 4 ⟨7, serial ++ rest⟩).bind _ = _
      rw [h₃, Option.bind_some, hstart, hend]
      rfl
    · simp only [List.length_append, List.length_cons, harea, hgroup, hserial]

/-- A social security number begins with a digit. -/
theorem socialSecurityNumber_of_not_digit {c : Char} (hc : isDecimalDigit c = false)
    (before : Option Char) (t : List Char) : socialSecurityNumber before (c :: t) = .miss 1 := by
  have hnone : afterDigits? 3 (.whole (c :: t)) = none := by
    rw [Remainder.whole, afterDigits?, hc]
    rfl
  unfold socialSecurityNumber
  rw [hnone]
  rfl

theorem socialSecurityNumber_isHonest : socialSecurityNumber.IsHonest := by
  refine .of_not_hit (fun hhit => ?_) fun before cs hmiss => Remainder.probe_of_not_hit hmiss
  obtain ⟨-, w, rest, ⟨area, group, serial, harea, -, -, -, rfl⟩, rfl, -, rfl⟩ :=
    socialSecurityNumber_eq_hit_iff.mp hhit
  simp only [List.length_append, List.length_cons]
  omega

end TraceCheck.Redaction
