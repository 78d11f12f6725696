import TraceCheck.Proofs.Redaction.Assignees
import TraceCheck.Proofs.Redaction.Coverings
import TraceCheck.Proofs.Redaction.Identities

/-!
# Neighbours of placeholders

What the rules for keys, tokens, credentials, addresses and numbers cover stands free:
no letter or digit is in front of it and no letter behind it.  So a placeholder neither
ends a word that went on before nor begins one.
-/

namespace TraceCheck.Redaction

open TraceCheck.Text TraceCheck.Unicode

variable {before after : Option Char} {cs hidden rest : List Char} {c : Char}

/-! ## Free parts of a text -/

/-- What is covered between words. -/
structure StandsAlone (after : Option Char) (hidden rest : List Char) : Prop where
  front : ∀ c ∈ after, isWord c = false
  behind : ∀ c ∈ rest.head?, isWord c = false

/-- What is covered with no letter or digit in front and no letter behind. -/
structure StandsFree (after : Option Char) (hidden rest : List Char) : Prop where
  front : ∀ c ∈ after, c.isAlphanum = false
  behind : ∀ c ∈ rest.head?, isFoldedLetter c = false

/-- What is covered and could begin the value of a credential. -/
structure HidesValue (after : Option Char) (hidden rest : List Char) : Prop
    extends StandsFree after hidden rest where
  value : ∃ c t, hidden = c :: t ∧ isValueChar c = true

/-- What is covered and neither has stars nor could stand in a placeholder. -/
structure HidesIdentity (after : Option Char) (hidden rest : List Char) : Prop
    extends HidesValue after hidden rest where
  star : '*' ∉ hidden
  foreign : ∃ c ∈ hidden, c ∉ placeholderChars

theorem StandsAlone.standsFree (h : StandsAlone after hidden rest) :
    StandsFree after hidden rest where
  front c hc := (Bool.not_eq_true _).mp fun halnum =>
    Bool.false_ne_true ((h.front c hc).symm.trans (isWord_of_isAlphanum halnum))
  behind c hc := (Bool.not_eq_true _).mp fun hletter =>
    Bool.false_ne_true ((h.behind c hc).symm.trans (isWord_of_isFoldedLetter hletter))

theorem startsWord_iff : startsWord before = true ↔ ∀ c ∈ before, isWord c = false := by
  cases before with
  | none => exact iff_of_true rfl nofun
  | some c =>
      rw [startsWord, Option.all_some, Bool.not_eq_true']
      refine ⟨?_, fun h => h c rfl⟩
      rintro hc d ⟨⟩
      exact hc

theorem endsWord_iff : endsWord rest = true ↔ ∀ c ∈ rest.head?, isWord c = false :=
  startsWord_iff

/-! ## Kept and covered places -/

/-- In front of a place that is reached stands nothing, a placeholder, or a character at
which the shape missed. -/
def Shape.Reaches (shape : Shape) (before after : Option Char) (cs : List Char) : Prop :=
  before = none ∧ after = none ∨ after = some '*' ∨
    ∃ first c, before = some c ∧ after = some c ∧ shape.Misses first (c :: cs)

/-- A word that begins at a place begins behind what stands in front of the place now. -/
theorem front_of_startsWord (hstart : startsWord before = true)
    (h : after = before ∨ after = some '*') : ∀ c ∈ after, isWord c = false := by
  rcases h with rfl | rfl
  · exact startsWord_iff.mp hstart
  · rintro c ⟨⟩
    decide

theorem Shape.Reaches.eq_or {shape : Shape} (h : shape.Reaches before after cs) :
    after = before ∨ after = some '*' := by
  rcases h with ⟨rfl, rfl⟩ | rfl | ⟨-, c, rfl, rfl, -⟩
  · exact .inl rfl
  · exact .inr rfl
  · exact .inl rfl

/-- A rule that replaces whole pieces covers what its shape recognises. -/
theorem Shape.IsHonest.covering_whole {shape : Shape} (h : shape.IsHonest) {block : List Char}
    (hblock : IsPlaceholder block) {Hide : Option Char → List Char → List Char → Prop}
    (hhide : ∀ before after u v, shape before (u ++ v) = .hit u.length →
      shape.Reaches before after (u ++ v) → Hide after u v)
    (before after : Option Char) (cs : List Char) (hreach : shape.Reaches before after cs) :
    Covering (fun before old _ => shape.Misses before old) Hide before after cs
      (shape.replaceAfter (fun _ => block) before cs) := by
  induction before, cs using h.induction generalizing after with
  | nil before =>
      rw [replaceAfter_nil]
      exact .nil before after
  | keep before c cs hmiss ih =>
      rw [h.replaceAfter_cons hmiss]
      exact .keep hmiss (ih (some c) (.inr (.inr ⟨before, c, rfl, rfl, hmiss⟩)))
  | hit before u v hhit ih =>
      rw [h.replaceAfter_append hhit]
      exact .cover hblock (hhide before after u v hhit hreach) (ih (some '*') (.inr (.inl rfl)))

/-! ## What each rule covers -/

/-- A shape of which every piece stands between words. -/
def Shape.IsBounded (shape : Shape) : Prop :=
  ∀ before u v, shape before (u ++ v) = .hit u.length →
    startsWord before = true ∧ endsWord v = true

theorem Shape.IsBounded.standsAlone {shape : Shape} (h : shape.IsBounded) {u v : List Char}
    (hhit : shape before (u ++ v) = .hit u.length) (hafter : after = before ∨ after = some '*') :
    StandsAlone after u v where
  front := front_of_startsWord (h before u v hhit).1 hafter
  behind := endsWord_iff.mp (h before u v hhit).2

theorem cloudKey_isBounded : cloudKey.IsBounded := by
  intro before u v hhit
  obtain ⟨hlength, hstart, key, rest, hkey, hsplit, hend⟩ := cloudKey_eq_hit_iff.mp hhit
  have hsame := List.append_inj_right hsplit (hlength.trans hkey.length_eq.symm)
  exact ⟨hstart, hsame ▸ hend⟩

theorem cardNumber_isBounded : cardNumber.IsBounded := by
  intro before u v hhit
  obtain ⟨hstart, w, rest, hsplit, -, hend, hlength⟩ := exists_of_cardNumber hhit
  exact ⟨hstart, List.append_inj_right hsplit hlength ▸ hend⟩

theorem socialSecurityNumber_isBounded : socialSecurityNumber.IsBounded := by
  intro before u v hhit
  obtain ⟨hstart, w, rest, -, hsplit, hend, hlength⟩ := socialSecurityNumber_eq_hit_iff.mp hhit
  exact ⟨hstart, List.append_inj_right hsplit hlength ▸ hend⟩

theorem cloudKey_isHonest : cloudKey.IsHonest := by
  refine .of_not_hit (fun hhit => ?_) fun _ _ => cloudKey_of_not_hit
  obtain ⟨rfl, -, key, rest, hkey, rfl, -⟩ := cloudKey_eq_hit_iff.mp hhit
  rw [List.length_append, hkey.length_eq]
  omega

/-- A bearer token ends in front of a character that could not go on. -/
theorem standsFree_of_bearerToken {u v : List Char} (hhit : bearerToken before (u ++ v) = .hit u.length)
    (hafter : after = before ∨ after = some '*') : StandsFree after u v := by
  obtain ⟨hstart, written, blanks, value, rest, -, -, -, -, -, hstop, hsplit, hlength⟩ :=
    bearerToken_eq_hit_iff.mp hhit
  have hsame : v = rest := by
    rw [← List.append_assoc blanks, ← List.append_assoc written] at hsplit
    exact List.append_inj_right hsplit hlength
  refine ⟨fun c hc => ?_, fun c hc => ?_⟩
  · refine (Bool.not_eq_true _).mp fun halnum => ?_
    have hword := front_of_startsWord hstart hafter c hc
    rw [isWord_of_isAlphanum halnum] at hword
    cases hword
  · refine (Bool.not_eq_true _).mp fun hletter => ?_
    have hother := hstop c (hsame ▸ hc)
    rw [isBearerChar, hletter] at hother
    cases hother

/-! ## Characters of values -/

theorem isValueChar_of_isAlphanum (hc : c.isAlphanum = true) : isValueChar c = true :=
  of_isAlphanum (by decide) hc

theorem isValueChar_of_isMailboxChar (hc : isMailboxChar c = true) : isValueChar c = true := by
  simp only [isMailboxChar, isFoldedLetter, Bool.or_eq_true, beq_iff_eq] at hc
  rcases hc with (((((hletter | hdigit) | rfl) | rfl) | rfl) | rfl) | rfl
  · rcases hletter with (hletter | rfl) | rfl
    · exact isValueChar_of_isAlphanum ((Bool.or_eq_true _ _).mpr (.inl hletter))
    all_goals decide
  · exact isValueChar_of_isAlphanum ((Bool.or_eq_true _ _).mpr (.inr hdigit))
  all_goals decide

theorem isValueChar_of_isDecimalDigit (hc : isDecimalDigit c = true) : isValueChar c = true := by
  rcases (Bool.or_eq_true _ _).mp hc with hdigit | hscript
  · exact isValueChar_of_isAlphanum ((Bool.or_eq_true _ _).mpr (.inr hdigit))
  · obtain ⟨z, hz, hrange⟩ := List.any_eq_true.mp hscript
    simp only [Bool.and_eq_true, decide_eq_true_eq] at hrange
    have hall : ∀ z ∈ digitZeros, ∀ i < 10, isValueChar (Char.ofNat (z + i)) = true := by
      decide +kernel
    have hchar := hall z hz (c.toNat - z) (by omega)
    rwa [Nat.add_sub_cancel' hrange.1, Char.ofNat_toNat] at hchar

theorem star_not_mem_of_isCardChar (h : ∀ d ∈ hidden, isCardChar d = true) : '*' ∉ hidden :=
  fun hmem => absurd (h '*' hmem) (by decide)

theorem not_mem_placeholderChars_of_isDecimalDigit (hc : isDecimalDigit c = true) :
    c ∉ placeholderChars := by
  have hall : ∀ c ∈ placeholderChars, isDecimalDigit c = false := by decide
  intro hmem
  rw [hall c hmem] at hc
  cases hc

/-! ## Addresses and numbers -/

theorem isMailboxChar_of_isAlphanum (hc : c.isAlphanum = true) : isMailboxChar c = true :=
  of_isAlphanum (by decide) hc

/-- A mail address begins with its mailbox and ends with the letters of its domain. -/
theorem hidesIdentity_of_mailAddress {u v : List Char} (hhit : mailAddress before (u ++ v) = .hit u.length)
    (hreach : mailAddress.Reaches before after (u ++ v)) : HidesIdentity after u v := by
  obtain ⟨box, front, letters, rest, hbox, hall, hfront, hdomain, hlong, hletters, hstop, hsplit,
    hlength⟩ := exists_of_mailAddress hhit
  obtain ⟨rfl, rfl⟩ : u = box ++ '@' :: (front ++ '.' :: letters) ∧ v = rest := by
    have htext : u ++ v = box ++ '@' :: (front ++ '.' :: letters) ++ rest := by
      rw [hsplit]
      simp only [List.append_assoc, List.cons_append]
    exact List.append_inj htext hlength
  refine ⟨⟨⟨fun c hc => ?_, hstop⟩, ?_⟩, ?_, '@', ?_, by decide⟩
  · rcases hreach with ⟨-, rfl⟩ | rfl | ⟨first, d, -, rfl, hmiss⟩
    · cases hc
    · cases hc
      decide
    · -- A letter or digit in front would belong to the mailbox.
      obtain rfl : d = c := Option.some_inj.mp hc
      refine (Bool.not_eq_true _).mp fun halnum => ?_
      obtain ⟨w, ⟨box', front', x, y, -, hall', hfront', hdomain', hx, hy, rfl⟩, hstands⟩ :=
        exists_hit_mailAddress_iff.mp ⟨_, hhit⟩
      obtain ⟨n, hn⟩ : ∃ n, mailAddress first _ = .hit n := exists_hit_mailAddress_iff.mpr
        ⟨_, ⟨d :: box', front', x, y, List.cons_ne_nil d box', List.forall_mem_cons.mpr
          ⟨isMailboxChar_of_isAlphanum halnum, hall'⟩, hfront', hdomain', hx, hy, rfl⟩,
          List.cons_prefix_cons.mpr ⟨rfl, hstands⟩⟩
      exact hmiss n hn
  · obtain ⟨c, box, rfl⟩ := List.exists_cons_of_ne_nil hbox
    exact ⟨c, _, rfl, isValueChar_of_isMailboxChar (hall c List.mem_cons_self)⟩
  · have hstar : isMailboxChar '*' = false ∧ isDomainChar '*' = false ∧
        isFoldedLetter '*' = false := by
      decide
    simp only [List.mem_append, List.mem_cons, not_or]
    refine ⟨fun hmem => ?_, by decide, fun hmem => ?_, by decide, fun hmem => ?_⟩
    · exact Bool.false_ne_true (hstar.1.symm.trans (hall _ hmem))
    · exact Bool.false_ne_true (hstar.2.1.symm.trans (hdomain _ hmem))
    · exact Bool.false_ne_true (hstar.2.2.symm.trans (hletters _ hmem))
  · exact List.mem_append_right box List.mem_cons_self

/-- A number begins with a digit. -/
theorem hidesIdentity_of_digit {u v : List Char} (hfree : StandsFree after (c :: u) v)
    (hc : isDecimalDigit c = true) (hall : ∀ d ∈ u, isCardChar d = true) :
    HidesIdentity after (c :: u) v where
  toStandsFree := hfree
  value := ⟨c, u, rfl, isValueChar_of_isDecimalDigit hc⟩
  star := star_not_mem_of_isCardChar
    (List.forall_mem_cons.mpr ⟨isCardChar_of_isDecimalDigit hc, hall⟩)
  foreign := ⟨c, List.mem_cons_self, not_mem_placeholderChars_of_isDecimalDigit hc⟩

theorem isGrouped_of_cardNumber {u v : List Char}
    (hhit : cardNumber before (u ++ v) = .hit u.length) : IsGrouped u := by
  obtain ⟨-, w, rest, hsplit, hw, -, hlength⟩ := exists_of_cardNumber hhit
  exact List.append_inj_left hsplit hlength ▸ hw

theorem hidesIdentity_of_cardNumber {u v : List Char} (hhit : cardNumber before (u ++ v) = .hit u.length)
    (hafter : after = before ∨ after = some '*') : HidesIdentity after u v := by
  have hfree := (cardNumber_isBounded.standsAlone hhit hafter).standsFree
  have hgrouped := isGrouped_of_cardNumber hhit
  obtain ⟨c, t, rfl, hc⟩ := hgrouped.exists_head
  exact hidesIdentity_of_digit hfree hc fun d hd =>
    hgrouped.isCardChar_of_mem d (List.mem_cons_of_mem c hd)

theorem hidesIdentity_of_socialSecurityNumber {u v : List Char}
    (hhit : socialSecurityNumber before (u ++ v) = .hit u.length)
    (hafter : after = before ∨ after = some '*') : HidesIdentity after u v := by
  obtain ⟨-, w, rest, hw, hsplit, -, hlength⟩ := socialSecurityNumber_eq_hit_iff.mp hhit
  have hfree := (socialSecurityNumber_isBounded.standsAlone hhit hafter).standsFree
  obtain ⟨rfl, rfl⟩ : u = w ∧ v = rest := List.append_inj hsplit hlength
  obtain ⟨c, t, rfl, hc⟩ := hw.exists_head
  exact hidesIdentity_of_digit hfree hc fun d hd => hw.isCardChar_of_mem d (List.mem_cons_of_mem c hd)

/-- Card numbers are covered, and digits that are none are kept. -/
theorem covering_cardNumber (before after : Option Char) (cs : List Char)
    (hafter : after = before ∨ after = some '*') :
    Covering (fun _ _ _ => True) HidesIdentity before after cs (cardNumber.replaceAfter
      (fun piece => if isCard piece then placeholder "CARD" else piece) before cs) := by
  have hblock : IsPlaceholder (placeholder "CARD") :=
    isPlaceholder_placeholder (by decide) (by decide)
  induction before, cs using cardNumber_isHonest.induction generalizing after with
  | nil before =>
      rw [replaceAfter_nil]
      exact .nil before after
  | keep before c cs hmiss ih =>
      rw [cardNumber_isHonest.replaceAfter_cons hmiss]
      exact .keep trivial (ih (some c) (.inl rfl))
  | hit before u v hhit ih =>
      rw [cardNumber_isHonest.replaceAfter_append hhit]
      by_cases hcard : isCard u = true
      · rw [if_pos hcard]
        exact .cover hblock (hidesIdentity_of_cardNumber hhit hafter) (ih (some '*') (.inr rfl))
      · rw [if_neg hcard]
        refine .keep_append (fun _ _ _ _ => trivial) (ih _ ?_)
        rcases hafter with rfl | rfl
        · exact .inl rfl
        · cases hlast : u.getLast? with
          | none => exact .inr rfl
          | some d => exact .inl rfl

/-! ## Credentials -/

/-- What a credential is shown as: its name and the placeholder in front of what is not part
of a value. -/
def ShowsHidden (before : Option Char) (old new : List Char) : Prop :=
  startsWord before = true → ∀ lead value rest : List Char, IsAssignment lead → value ≠ [] →
    (∀ c ∈ value, isValueChar c = true) → old = lead ++ (value ++ rest) →
      ∃ rest', new = lead ++ (placeholder "SECRET" ++ rest') ∧
        ∀ c ∈ rest'.head?, isValueChar c = false

theorem isBlank_of_head {value : List Char} (hne : value ≠ [])
    (hall : ∀ c ∈ value, isValueChar c = true) (rest : List Char) :
    ∀ c ∈ (value ++ rest).head?, isBlank c = false := by
  obtain ⟨c, value, rfl⟩ := List.exists_cons_of_ne_nil hne
  rintro d ⟨⟩
  exact isBlank_of_isValueChar (hall c List.mem_cons_self)

theorem hideValue_append {lead value : List Char} (hlead : IsAssignment lead) (hne : value ≠ [])
    (hall : ∀ c ∈ value, isValueChar c = true) :
    hideValue (lead ++ value) = lead ++ placeholder "SECRET" := by
  have hblank := isBlank_of_head hne hall []
  rw [List.append_nil] at hblank
  have hread : afterAssignment? (.whole (lead ++ value)) = some ⟨lead.length, value⟩ :=
    afterAssignment?_eq_some_iff.mpr ⟨lead, hlead, rfl, hblank, rfl⟩
  rw [hideValue, credentialName, hread]
  dsimp only
  rw [List.take_left]

/-- Where a shape misses, nothing is shown in another way. -/
theorem showsHidden_of_misses {new : List Char} (h : credential.Misses before cs) :
    ShowsHidden before cs new := by
  rintro hstart lead value rest hlead hne hall rfl
  obtain ⟨htext, hrun, hstop⟩ := eq_run_append isValueChar rest
  refine absurd (credential_eq_hit_iff.mpr ⟨hstart, lead, value ++ rest.takeWhile isValueChar,
    rest.dropWhile isValueChar, hlead, ?_, List.forall_mem_append.mpr ⟨hall, hrun⟩, hstop, ?_,
    rfl⟩) (h _)
  · exact fun hnil => hne (List.append_eq_nil_iff.mp hnil).1
  · rw [List.append_assoc, ← htext]

/-- What does not belong to a value is kept behind it. -/
theorem replaceAfter_credential_head {f : List Char → List Char}
    (hcs : ∀ c ∈ cs.head?, isValueChar c = false) :
    ∀ c ∈ (credential.replaceAfter f before cs).head?, isValueChar c = false := by
  cases cs with
  | nil =>
      rw [replaceAfter_nil]
      nofun
  | cons d cs =>
      have hd := hcs d rfl
      rw [replaceAfter_cons (credential_of_not_mem (not_mem_nameStarts_of_not_isValueChar hd)
        before cs)]
      rintro c ⟨⟩
      exact hd

/-- A name is read in one way, and no other one begins inside it. -/
theorem IsAssignment.showsHidden {lead value rest new : List Char} (hlead : IsAssignment lead)
    (hne : value ≠ []) (hall : ∀ c ∈ value, isValueChar c = true)
    (hnew : ∀ c ∈ new.head?, isValueChar c = false) {x y : List Char} (hxy : x ++ y = lead)
    (hy : y ≠ []) : ShowsHidden (x.getLast?.or before) (y ++ (value ++ rest))
      (y ++ (placeholder "SECRET" ++ new)) := by
  intro hword lead' value' rest' hlead' hne' hall' heq
  cases x with
  | nil =>
      obtain rfl : y = lead := hxy
      obtain ⟨rfl, -⟩ := hlead.eq_of_append hlead' (isBlank_of_head hne hall _)
        (isBlank_of_head hne' hall' _) heq
      exact ⟨new, rfl, hnew⟩
  | cons a x =>
      obtain ⟨x, c, hx⟩ := List.eq_nil_or_concat (a :: x) |>.resolve_left (List.cons_ne_nil a x)
      obtain ⟨d, y, rfl⟩ := List.exists_cons_of_ne_nil hy
      rw [hx, List.concat_eq_append, List.append_assoc] at hxy
      rw [hx, List.concat_eq_append, List.getLast?_append] at hword
      obtain ⟨d', t, rfl, hd'⟩ := hlead'.exists_head
      injection heq with hd
      exact absurd (hd ▸ hd') (hlead.not_mem_nameStarts hxy.symm hword)

/-- The value behind a name stands free. -/
theorem IsAssignment.hidesValue {lead value rest : List Char} (hlead : IsAssignment lead)
    (hne : value ≠ []) (hall : ∀ c ∈ value, isValueChar c = true)
    (hstop : ∀ c ∈ rest.head?, isValueChar c = false) :
    HidesValue (lead.getLast?.or after) value rest := by
  obtain ⟨c, hc, halnum⟩ := hlead.isAlphanum_of_getLast?
  obtain ⟨d, value, rfl⟩ := List.exists_cons_of_ne_nil hne
  rw [hc]
  refine ⟨⟨?_, fun e he => ?_⟩, d, value, rfl, hall d List.mem_cons_self⟩
  · rintro e ⟨⟩
    exact halnum
  · refine (Bool.not_eq_true _).mp fun hletter => ?_
    have hvalue : isValueChar e = true := by
      refine isValueChar_of_isMailboxChar ?_
      simp only [isMailboxChar, hletter, Bool.true_or]
    rw [hstop e he] at hvalue
    cases hvalue

/-- The values of credentials are covered, and their names are kept. -/
theorem covering_credential (before after : Option Char) (cs : List Char)
    (hafter : after = before ∨ after = some '*') :
    Covering ShowsHidden HidesValue before after cs
      (credential.replaceAfter hideValue before cs) := by
  have hblock : IsPlaceholder (placeholder "SECRET") :=
    isPlaceholder_placeholder (by decide) (by decide)
  induction before, cs using credential_isHonest.induction generalizing after with
  | nil before =>
      rw [replaceAfter_nil]
      exact .nil before after
  | keep before c cs hmiss ih =>
      rw [credential_isHonest.replaceAfter_cons hmiss]
      exact .keep (showsHidden_of_misses hmiss) (ih (some c) (.inl rfl))
  | hit before u v hhit ih =>
      obtain ⟨hstart, lead, value, rest, hlead, hne, hall, hstop, hsplit, hlength⟩ :=
        credential_eq_hit_iff.mp hhit
      obtain ⟨rfl, rfl⟩ : u = lead ++ value ∧ v = rest := by
        rw [← List.append_assoc] at hsplit
        exact List.append_inj hsplit hlength
      have hnext : ∀ c ∈ (credential.replaceAfter hideValue
          ((lead ++ value).getLast?.or before) v).head?, isValueChar c = false :=
        replaceAfter_credential_head hstop
      rw [credential_isHonest.replaceAfter_append hhit, hideValue_append hlead hne hall,
        List.append_assoc, List.append_assoc]
      generalize credential.replaceAfter hideValue ((lead ++ value).getLast?.or before) v = new
        at ih hnext ⊢
      refine .keep_append (fun x y hxy hy => hlead.showsHidden hne hall hnext hxy hy)
        (.cover hblock (hlead.hidesValue hne hall hstop) ?_)
      rw [← getLast?_append_or]
      exact ih (some '*') (.inr rfl)

end TraceCheck.Redaction
