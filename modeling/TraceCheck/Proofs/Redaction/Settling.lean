import TraceCheck.Proofs.Redaction.Keys
import TraceCheck.Proofs.Redaction.Neighbours

/-!
# Settled rules

A rule is settled in a text when it has nothing more to replace.  A rule is settled in
its own result, and whatever later rules cover, it stays settled: what a shape would
recognise in the covered text it would have recognised before, at the same place.
-/

namespace TraceCheck.Redaction

open TraceCheck.Text TraceCheck.Unicode

variable {shape : Shape} {before after : Option Char} {old new cs w : List Char} {c : Char}
  {Keep : Option Char → List Char → List Char → Prop}
  {Hide : Option Char → List Char → List Char → Prop}

/-! ## Inside placeholders -/

/-- Behind a star of a placeholder stands a star or its first letter. -/
theorem IsPlaceholder.isChain {p : List Char} (hp : IsPlaceholder p) :
    p.IsChain fun a b => a = '*' → b ∈ ['*', 'R'] := by
  obtain ⟨kind, -, hkind, rfl⟩ := hp
  have hstart : "***REDACTED_".toList.IsChain fun a b => a = '*' → b ∈ ['*', 'R'] := by decide
  have hend : "***".toList.IsChain fun a b => a = '*' → b ∈ ['*', 'R'] := by decide
  have hstar : isKindChar '*' = false := by decide
  have hnone {a : Char} (ha : a ∈ kind) : a ≠ '*' := by
    rintro rfl
    rw [hkind _ ha] at hstar
    cases hstar
  have hmiddle : kind.IsChain fun a b => a = '*' → b ∈ ['*', 'R'] := by
    refine List.Pairwise.isChain (List.pairwise_of_forall_mem_list fun a ha b _ heq => ?_)
    exact absurd heq (hnone ha)
  refine List.isChain_append.mpr ⟨List.isChain_append.mpr ⟨hstart, hmiddle, ?_⟩, hend, ?_⟩
  · have hlast : "***REDACTED_".toList.getLast? = some '_' := by decide
    rw [hlast]
    rintro a ⟨⟩ b - heq
    exact absurd heq (by decide)
  · have hhead : "***".toList.head? = some '*' := by decide
    rw [hhead]
    rintro a - b ⟨⟩ -
    exact List.mem_cons_self

/-- A placeholder ends in a star. -/
theorem IsPlaceholder.star_mem {x y : List Char} (hp : IsPlaceholder (x ++ y)) (hy : y ≠ []) :
    '*' ∈ y := by
  have hlast := hp.getLast?
  rw [List.getLast?_append_of_ne_nil x hy] at hlast
  exact List.mem_of_getLast? hlast

/-- Where a word could begin inside a placeholder, there is a star or its first letter. -/
theorem IsPlaceholder.mem_of_startsWord {x y : List Char} {d : Char}
    (hp : IsPlaceholder (x ++ d :: y)) (hstart : startsWord (x.getLast?.or after) = true) :
    d ∈ ['*', 'R'] := by
  rcases List.eq_nil_or_concat x with rfl | ⟨x, a, rfl⟩
  · obtain ⟨t, ht⟩ := hp.exists_cons
    injection ht with hd
    exact hd ▸ List.mem_cons_self
  · rw [List.concat_eq_append] at hp hstart
    rw [List.getLast?_append] at hstart
    rw [List.append_assoc, List.singleton_append] at hp
    have hword : isWord a = false := startsWord_iff.mp hstart a rfl
    have hstars : ∀ a ∈ placeholderChars, isWord a = false → a = '*' := by decide
    have ha := hstars a (hp.mem_placeholderChars (List.mem_append_right x List.mem_cons_self)) hword
    exact (List.isChain_append_cons_cons.mp hp.isChain).2.1 ha

/-- A shape recognises nothing inside a placeholder. -/
def Shape.PassesPlaceholders (shape : Shape) : Prop :=
  ∀ x y rest after, IsPlaceholder (x ++ y) → y ≠ [] →
    shape.Misses (x.getLast?.or after) (y ++ rest)

theorem passesPlaceholders_of_head
    (hhead : ∀ before d t, d ∈ placeholderChars → shape.Misses before (d :: t)) :
    shape.PassesPlaceholders := by
  intro x y rest after hp hy
  obtain ⟨d, y, rfl⟩ := List.exists_cons_of_ne_nil hy
  exact hhead _ d _ (hp.mem_placeholderChars (List.mem_append_right x List.mem_cons_self))

theorem passesPlaceholders_of_startsWord
    (hstart : ∀ before cs n, shape before cs = .hit n → startsWord before = true)
    (hhead : ∀ before d t, d ∈ ['*', 'R'] → shape.Misses before (d :: t)) :
    shape.PassesPlaceholders := by
  intro x y rest after hp hy n hhit
  obtain ⟨d, y, rfl⟩ := List.exists_cons_of_ne_nil hy
  exact hhead _ d _ (hp.mem_of_startsWord (hstart _ _ n hhit)) n hhit

/-! ## Shapes that may stand anywhere -/

/-- What a shape recognises at a kept place of a covered text it recognises in the text,
whatever stands in front. -/
def Shape.IsPlain (shape : Shape) : Prop :=
  ∀ before after old new, Masks IsPlaceholder old new → shape.Misses before old →
    shape.Misses after new

theorem Shape.IsPlain.of_words {L : List Char → Prop}
    (hwords : ∀ before cs, (∃ n, shape before cs = .hit n) ↔ ∃ w, L w ∧ w <+: cs)
    (hstar : ∀ w, L w → '*' ∉ w) : shape.IsPlain := by
  intro before after old new hmasks hold n hhit
  obtain ⟨w, hw, hstands⟩ := (hwords after new).mp ⟨n, hhit⟩
  have hstood : w <+: old := hmasks.isPrefix (fun block hblock => by
    obtain ⟨t, rfl⟩ := hblock.exists_cons
    exact ⟨'*', t, rfl, hstar w hw⟩) hstands
  obtain ⟨m, hm⟩ := (hwords before old).mpr ⟨w, hw, hstood⟩
  exact hold m hm

theorem Shape.IsPlain.everywhere (h : shape.IsPlain) (hinside : shape.PassesPlaceholders)
    (hcover : Covering (fun before old _ => shape.Misses before old) (fun _ _ _ => True)
      before after old new) : Everywhere shape.Misses after new := by
  refine hcover.everywhere (p := fun _ => false) (fun _ _ _ _ _ _ => rfl) ?_ hinside
    (.inr fun _ _ => rfl)
  intro before after c old new hmiss _ hrest
  exact h before after _ _ (.keep c hrest.masks) hmiss

/-- A shape that may stand anywhere stays settled whatever is covered. -/
theorem Shape.IsPlain.everywhere_of_masks (h : shape.IsPlain) (hinside : shape.PassesPlaceholders)
    (hmasks : Masks IsPlaceholder old new) (hold : Everywhere shape.Misses none old) :
    Everywhere shape.Misses none new :=
  h.everywhere hinside ((hmasks.covering none none).keeping hold)

theorem IsKeyLine.star_not_mem {word : String} {line : List Char} (h : IsKeyLine word line)
    (hword : word ∈ ["BEGIN", "END"]) : '*' ∉ line :=
  fun hmem => absurd (h.forall_mem hword '*' hmem) (by decide)

theorem privateKey_isPlain : privateKey.IsPlain := by
  intro before after old new hmasks hold n hhit
  obtain ⟨first, rest, last, hfirst, rfl, hlast, hinside⟩ :=
    exists_hit_privateKey_iff.mp ⟨n, hhit⟩
  obtain ⟨old', rest', rfl, hrest, hcover⟩ := (hmasks.covering none none).exists_of_isPrefix
    (List.prefix_append first rest) (hfirst.star_not_mem (by decide))
  obtain rfl := List.append_cancel_left hrest
  have hapart (block : List Char) (hblock : IsPlaceholder block) : Apart last block :=
    hblock.apart (hlast.star_not_mem (by decide))
      ⟨'-', List.mem_of_getLast? hlast.getLast?, by decide⟩
  obtain ⟨m, hm⟩ : ∃ m, privateKey before _ = .hit m := exists_hit_privateKey_iff.mpr
    ⟨first, old', last, hfirst, rfl, hlast, hcover.masks.isInfix hapart hinside⟩
  exact hold m hm

theorem privateKey_passesPlaceholders : privateKey.PassesPlaceholders := by
  refine passesPlaceholders_of_head fun before d t hd => ?_
  have hdash : '-' ∉ placeholderChars := by decide
  refine Shape.misses_of_miss (privateKey_of_ne (fun heq => hdash ?_) before t)
  exact heq ▸ hd

theorem signedToken_isPlain : signedToken.IsPlain := by
  refine .of_words (fun _ _ => exists_hit_signedToken_iff) ?_
  rintro w ⟨header, payload, c, -, -, hall, rfl⟩ hmem
  have hstar : isTokenChar '*' = false := by decide
  have hother (hin : '*' ∈ header ++ (payload ++ [c])) : False :=
    Bool.false_ne_true (hstar.symm.trans (hall _ hin))
  have hstart : '*' ∉ "eyJ".toList := by decide
  simp only [List.mem_append, List.mem_cons, hstart, false_or, List.not_mem_nil, or_false] at hmem
  simp only [List.mem_append, List.mem_cons, List.not_mem_nil, or_false] at hother
  rcases hmem with hmem | hmem | hmem | hmem | hmem
  · exact hother (.inl hmem)
  · cases hmem
  · exact hother (.inr (.inl hmem))
  · cases hmem
  · exact hother (.inr (.inr hmem))

theorem signedToken_passesPlaceholders : signedToken.PassesPlaceholders := by
  refine passesPlaceholders_of_head fun before d t hd => ?_
  have hletter : 'e' ∉ placeholderChars := by decide
  refine Shape.misses_of_miss (signedToken_of_ne (fun heq => hletter ?_) before t)
  exact heq ▸ hd

theorem mailAddress_isPlain : mailAddress.IsPlain := by
  refine .of_words (fun _ _ => exists_hit_mailAddress_iff) ?_
  rintro w ⟨box, front, x, y, -, hall, -, hdomain, -, -, rfl⟩ hmem
  have hstar : isMailboxChar '*' = false ∧ isDomainChar '*' = false := by decide
  rcases List.mem_append.mp hmem with hmem | hmem
  · exact Bool.false_ne_true (hstar.1.symm.trans (hall _ hmem))
  · rcases List.mem_cons.mp hmem with hmem | hmem
    · cases hmem
    · exact Bool.false_ne_true (hstar.2.symm.trans (hdomain _ hmem))

theorem mailAddress_passesPlaceholders : mailAddress.PassesPlaceholders := by
  intro x y rest after hp hy n hhit
  obtain ⟨w, ⟨box, front, a, b, -, hall, -, -, -, -, rfl⟩, t, ht⟩ :=
    exists_hit_mailAddress_iff.mp ⟨n, hhit⟩
  have hstar := hp.star_mem hy
  rw [List.append_assoc, List.cons_append] at ht
  have hbox : '*' ∉ box := fun hmem => absurd (hall '*' hmem) (by decide)
  -- The mailbox would end inside the placeholder, where no sign stands.
  rcases List.append_eq_append_iff.mp ht with ⟨s, rfl, hs⟩ | ⟨s, rfl, -⟩
  · rcases List.mem_append.mp hstar with hmem | hmem
    · exact hbox hmem
    · cases s with
      | nil => cases hmem
      | cons d s =>
          injection hs with hd
          have hsign : '@' ∉ placeholderChars := by decide
          refine hsign (hp.mem_placeholderChars (List.mem_append_right x ?_))
          exact List.mem_append_right box (hd ▸ List.mem_cons_self)
  · exact hbox (List.mem_append_left s hstar)

/-! ## Shapes between words -/

theorem cloudKey_passesPlaceholders : cloudKey.PassesPlaceholders := by
  refine passesPlaceholders_of_startsWord (fun before cs n hhit => ?_) fun before d t hd => ?_
  · exact (cloudKey_eq_hit_iff.mp hhit).2.1
  · have hletter : ∀ d ∈ ['*', 'R'], d ≠ 'A' := by decide
    exact Shape.misses_of_miss (cloudKey_of_ne (hletter d hd) before t)

theorem bearerToken_passesPlaceholders : bearerToken.PassesPlaceholders := by
  refine passesPlaceholders_of_startsWord (fun before cs n hhit => ?_) fun before d t hd => ?_
  · exact (bearerToken_eq_hit_iff.mp hhit).1
  · have hletter : ∀ d ∈ ['*', 'R'], foldChar d ≠ 'b' := by decide
    exact Shape.misses_of_miss (bearerToken_of_ne (hletter d hd) before t)

theorem credential_passesPlaceholders : credential.PassesPlaceholders := by
  refine passesPlaceholders_of_startsWord (fun before cs n hhit => ?_) fun before d t hd => ?_
  · exact (credential_eq_hit_iff.mp hhit).1
  · have hletter : ∀ d ∈ ['*', 'R'], foldChar d ∉ nameStarts := by decide
    exact Shape.misses_of_miss (credential_of_not_mem (hletter d hd) before t)

theorem socialSecurityNumber_passesPlaceholders : socialSecurityNumber.PassesPlaceholders := by
  refine passesPlaceholders_of_startsWord (fun before cs n hhit => ?_) fun before d t hd => ?_
  · exact (socialSecurityNumber_eq_hit_iff.mp hhit).1
  · have hdigit : ∀ d ∈ ['*', 'R'], isDecimalDigit d = false := by decide
    exact Shape.misses_of_miss (socialSecurityNumber_of_not_digit (hdigit d hd) before t)

/-- A word at a kept place that ends where a word ends in the covered text did so in the text,
when nothing is covered directly behind its last character. -/
theorem Covering.exists_of_word {p : Char → Bool}
    (hfront : ∀ after hidden rest, Hide after hidden rest → ∀ c ∈ after, p c = false)
    (h : Covering Keep Hide (some c) (some c) old new) {rest : List Char}
    (hsplit : c :: new = w ++ rest) (hstar : '*' ∉ w) (hlast : ∃ d ∈ w.getLast?, p d = true)
    (hend : endsWord rest = true) : ∃ rest', c :: old = w ++ rest' ∧ endsWord rest' = true := by
  obtain ⟨d, hd, hp⟩ := hlast
  cases w with
  | nil => cases hd
  | cons e t =>
      injection hsplit with hc hsplit
      subst hc hsplit
      obtain ⟨old', rest', rfl, hrest, hcover⟩ :=
        h.exists_of_isPrefix (List.prefix_append t rest) fun hmem => hstar (.tail _ hmem)
      obtain rfl := List.append_cancel_left hrest
      have hbehind : t.getLast?.or (some c) = some d := by
        rw [← getLast?_cons_or c t none, hd]
        rfl
      rw [hbehind] at hcover
      refine ⟨old', rfl, ?_⟩
      cases hcover with
      | nil => exact hend
      | keep _ _ => exact hend
      | cover _ hhide _ =>
          have hother := hfront _ _ _ hhide d rfl
          rw [hp] at hother
          cases hother

theorem cloudKey_misses_of_covering (hmiss : cloudKey.Misses before (c :: old))
    (hnext : after = before ∨ isFoldedLetter c = false)
    (h : Covering Keep StandsFree (some c) (some c) old new) : cloudKey.Misses after (c :: new) := by
  intro n hhit
  obtain ⟨-, hstart, key, rest, hkey, hsplit, hend⟩ := cloudKey_eq_hit_iff.mp hhit
  have hstar : '*' ∉ key := fun hmem => absurd (hkey.isAlphanum_of_mem '*' hmem) (by decide)
  have hlast : ∃ d ∈ key.getLast?, d.isAlphanum = true := by
    have hne : key ≠ [] := List.length_pos_iff.mp (by rw [hkey.length_eq]; decide)
    obtain ⟨d, hd⟩ := Option.isSome_iff_exists.mp (List.getLast?_isSome.mpr hne)
    exact ⟨d, hd, hkey.isAlphanum_of_mem d (List.mem_of_getLast? hd)⟩
  obtain ⟨rest', hsplit', hend'⟩ :=
    h.exists_of_word (fun _ _ _ hhide => hhide.front) hsplit hstar hlast hend
  have hsame : after = before := by
    refine hnext.resolve_right fun hother => ?_
    have hhead := congrArg List.head? hsplit
    rw [List.head?_append, hkey.head?] at hhead
    injection hhead with hhead
    rw [hhead] at hother
    exact absurd hother (by decide)
  exact hmiss 20 (cloudKey_eq_hit_iff.mpr ⟨rfl, hsame ▸ hstart, key, rest', hkey, hsplit', hend'⟩)

theorem bearerToken_misses_of_covering (hmiss : bearerToken.Misses before (c :: old))
    (hnext : after = before ∨ isFoldedLetter c = false)
    (h : Masks IsPlaceholder (c :: old) (c :: new)) : bearerToken.Misses after (c :: new) := by
  intro n hhit
  obtain ⟨hstart, w, hw, hstands⟩ := exists_hit_bearerToken_iff.mp ⟨n, hhit⟩
  have hstood : w <+: c :: old := by
    refine h.isPrefix (fun block hblock => ?_) hstands
    obtain ⟨t, rfl⟩ := hblock.exists_cons
    exact ⟨'*', t, rfl, hw.star_not_mem⟩
  have hsame : after = before := by
    refine hnext.resolve_right fun hother => ?_
    by_cases hb : foldChar c = 'b'
    · have hletter : isFoldedLetter c = true := isFoldedLetter_of_foldChar (by rw [hb]; decide)
      rw [hletter] at hother
      cases hother
    · rw [bearerToken_of_ne hb] at hhit
      cases hhit
  obtain ⟨m, hm⟩ := exists_hit_bearerToken_iff.mpr ⟨hsame ▸ hstart, w, hw, hstood⟩
  exact hmiss m hm

theorem socialSecurityNumber_misses_of_covering
    (hmiss : socialSecurityNumber.Misses before (c :: old))
    (hnext : after = before ∨ isWord c = false)
    (h : Covering Keep StandsAlone (some c) (some c) old new) :
    socialSecurityNumber.Misses after (c :: new) := by
  intro n hhit
  obtain ⟨hstart, w, rest, hw, hsplit, hend, -⟩ := socialSecurityNumber_eq_hit_iff.mp hhit
  obtain ⟨rest', hsplit', hend'⟩ := h.exists_of_word (fun _ _ _ hhide => hhide.front) hsplit
    hw.star_not_mem hw.exists_last hend
  have hsame : after = before := by
    refine hnext.resolve_right fun hother => ?_
    obtain ⟨d, t, rfl, hd⟩ := hw.exists_head
    injection hsplit with hc
    rw [hc, isWord_of_isDecimalDigit hd] at hother
    cases hother
  exact hmiss _ (socialSecurityNumber_eq_hit_iff.mpr
    ⟨hsame ▸ hstart, w, rest', hw, hsplit', hend', rfl⟩)

theorem everywhere_cloudKey_of_covering
    (h : Covering (fun before old _ => cloudKey.Misses before old) StandsFree none none old new) :
    Everywhere cloudKey.Misses none new :=
  h.everywhere (fun _ _ _ hhide => hhide.behind)
    (fun _ _ _ _ _ hmiss hnext hrest => cloudKey_misses_of_covering hmiss hnext hrest)
    cloudKey_passesPlaceholders (.inl rfl)

theorem everywhere_bearerToken_of_covering
    (h : Covering (fun before old _ => bearerToken.Misses before old) StandsFree none none old new) :
    Everywhere bearerToken.Misses none new :=
  h.everywhere (fun _ _ _ hhide => hhide.behind)
    (fun _ _ c _ _ hmiss hnext hrest =>
      bearerToken_misses_of_covering hmiss hnext (.keep c hrest.masks))
    bearerToken_passesPlaceholders (.inl rfl)

theorem everywhere_socialSecurityNumber_of_covering
    (h : Covering (fun before old _ => socialSecurityNumber.Misses before old) StandsAlone
      none none old new) : Everywhere socialSecurityNumber.Misses none new :=
  h.everywhere (fun _ _ _ hhide => hhide.behind)
    (fun _ _ _ _ _ hmiss hnext hrest =>
      socialSecurityNumber_misses_of_covering hmiss hnext hrest)
    socialSecurityNumber_passesPlaceholders (.inl rfl)

/-! ## Credentials -/

/-- A credential at a place has the placeholder for its value. -/
def HasHiddenValue (before : Option Char) (cs : List Char) : Prop :=
  startsWord before = true → ∀ lead value rest : List Char, IsAssignment lead → value ≠ [] →
    (∀ c ∈ value, isValueChar c = true) → (∀ c ∈ rest.head?, isValueChar c = false) →
      cs = lead ++ (value ++ rest) → value = placeholder "SECRET"

theorem hasHiddenValue_of_misses (h : credential.Misses before cs) : HasHiddenValue before cs := by
  intro hstart lead value rest hlead hne hall hstop hsplit
  exact absurd (credential_eq_hit_iff.mpr ⟨hstart, lead, value, rest, hlead, hne, hall, hstop,
    hsplit, rfl⟩) (h _)

theorem isValueChar_of_mem_secret : ∀ c ∈ placeholder "SECRET", isValueChar c = true := by
  decide

/-- A credential at a kept place of a covered text stood there, with some value. -/
theorem exists_value_of_covering
    (hhide : ∀ after hidden rest, Hide after hidden rest → HidesValue after hidden rest)
    (hnext : after = before ∨ isFoldedLetter c = false)
    (h : Covering Keep Hide (some c) (some c) old new) {lead value rest : List Char}
    (hstart : startsWord after = true) (hlead : IsAssignment lead) (hne : value ≠ [])
    (hall : ∀ c ∈ value, isValueChar c = true) (hsplit : c :: new = lead ++ (value ++ rest)) :
    startsWord before = true ∧ ∃ d old', c :: old = lead ++ (d :: old') ∧
      isValueChar d = true ∧ ∃ e, Covering Keep Hide e e (d :: old') (value ++ rest) := by
  obtain ⟨a, t, rfl, ha⟩ := hlead.exists_head
  injection hsplit with hc hsplit
  subst hc hsplit
  have hsame : after = before := by
    refine hnext.resolve_right fun hother => ?_
    have hletters : ∀ c ∈ nameStarts, c.isAlpha = true := by decide
    rw [isFoldedLetter_of_foldChar (hletters _ ha)] at hother
    cases hother
  refine ⟨hsame ▸ hstart, ?_⟩
  obtain ⟨old', new', rfl, hnew, hcover⟩ := h.exists_of_isPrefix
    (List.prefix_append t (value ++ rest)) fun hmem => hlead.star_not_mem (.tail _ hmem)
  obtain rfl := List.append_cancel_left hnew
  obtain ⟨d, value, rfl⟩ := List.exists_cons_of_ne_nil hne
  have hd := hall d List.mem_cons_self
  generalize htext : d :: value ++ rest = text at hcover
  have hwhole := hcover
  cases hcover with
  | nil => cases htext
  | keep _ _ =>
      injection htext with hhead
      subst hhead
      exact ⟨d, _, rfl, hd, _, hwhole⟩
  | cover _ hhere _ =>
      obtain ⟨e, hidden, rfl, he⟩ := (hhide _ _ _ hhere).value
      exact ⟨e, _, rfl, he, _, hwhole⟩

/-- A value that ends where the placeholder does is the placeholder. -/
theorem eq_secret_of_append {value rest rest' : List Char}
    (hall : ∀ c ∈ value, isValueChar c = true) (hstop : ∀ c ∈ rest.head?, isValueChar c = false)
    (hstop' : ∀ c ∈ rest'.head?, isValueChar c = false)
    (hsame : value ++ rest = placeholder "SECRET" ++ rest') :
    value = placeholder "SECRET" := by
  have hvalue := (span_eq_iff.mpr ⟨rfl, hall, hstop⟩).1
  have hsecret := (span_eq_iff.mpr ⟨rfl, isValueChar_of_mem_secret, hstop'⟩).1
  rw [← hvalue, hsame, hsecret]

/-- Once values are covered, every credential has the placeholder for its value. -/
theorem everywhere_hasHiddenValue_of_covering
    (h : Covering ShowsHidden HidesValue none none old new) :
    Everywhere HasHiddenValue none new := by
  refine h.everywhere (fun _ _ _ hhide => hhide.behind) ?_ ?_ (.inl rfl)
  · intro before after c old new hshows hnext hcover hstart lead value rest hlead hne hall hstop hsplit
    obtain ⟨hstart', d, old', hold, hd, -⟩ :=
      exists_value_of_covering (fun _ _ _ hhide => hhide) hnext hcover hstart hlead hne hall hsplit
    obtain ⟨rest', hnew, hstop'⟩ := hshows hstart' lead [d] old' hlead (List.cons_ne_nil d [])
      (List.forall_mem_singleton.mpr hd) hold
    exact eq_secret_of_append hall hstop hstop'
      (List.append_cancel_left (hsplit.symm.trans hnew))
  · exact fun x y rest after hp hy => hasHiddenValue_of_misses
      (credential_passesPlaceholders x y rest after hp hy)

/-- An identity does not begin inside a placeholder. -/
theorem HidesIdentity.append_ne {hidden y z tail : List Char}
    (h : HidesIdentity after hidden tail) (hy : ∀ d ∈ y, d ∈ placeholderChars) (hstar : '*' ∈ y) :
    y ++ z ≠ hidden ++ tail := by
  intro heq
  obtain ⟨d, hd, hforeign⟩ := h.foreign
  rcases List.append_eq_append_iff.mp heq with ⟨s, rfl, -⟩ | ⟨s, rfl, -⟩
  · exact h.star (List.mem_append_left s hstar)
  · exact hforeign (hy d (List.mem_append_left s hd))

/-- What does not belong to a value is kept behind it when only identities are covered. -/
theorem head_of_covering (h : Covering Keep HidesIdentity before after old new)
    (hold : ∀ c ∈ old.head?, isValueChar c = false) : ∀ c ∈ new.head?, isValueChar c = false := by
  cases h with
  | nil => exact hold
  | keep _ _ => exact hold
  | cover _ hhide _ =>
      obtain ⟨d, t, rfl, hd⟩ := hhide.value
      have hother := hold d rfl
      rw [hd] at hother
      cases hother

/-- The value of a credential stays hidden when addresses and numbers are covered. -/
theorem everywhere_hasHiddenValue_of_identities
    (h : Covering (fun before old _ => HasHiddenValue before old) HidesIdentity none none old new) :
    Everywhere HasHiddenValue none new := by
  refine h.everywhere (fun _ _ _ hhide => hhide.behind) ?_ ?_ (.inl rfl)
  · intro before after c old new hhidden hnext hcover hstart lead value rest hlead hne hall hstop hsplit
    obtain ⟨hstart', d, old', hold, hd, e, hvalue⟩ := exists_value_of_covering
      (fun _ _ _ hhide => hhide.toHidesValue) hnext hcover hstart hlead hne hall hsplit
    -- The value in the text is the placeholder already.
    obtain ⟨htext, hrun, hend⟩ := eq_run_append isValueChar (d :: old')
    have hsecret : (d :: old').takeWhile isValueChar = placeholder "SECRET" := by
      refine hhidden hstart' lead _ _ hlead ?_ hrun hend (htext ▸ hold)
      rw [List.takeWhile_cons_of_pos hd]
      exact List.cons_ne_nil d _
    rw [hsecret] at htext
    rw [htext] at hvalue
    obtain ⟨new', hnew, hrest⟩ := hvalue.exists_of_append (fun x y hxy hy _ _ _ hhide => by
      have hplaceholder : IsPlaceholder (x ++ y) :=
        hxy ▸ isPlaceholder_placeholder (by decide) (by decide)
      exact hhide.append_ne (fun d hd => hplaceholder.mem_placeholderChars
        (List.mem_append_right x hd)) (hplaceholder.star_mem hy))
    exact eq_secret_of_append hall hstop (head_of_covering hrest hend) hnew
  · exact fun x y rest after hp hy => hasHiddenValue_of_misses
      (credential_passesPlaceholders x y rest after hp hy)

end TraceCheck.Redaction
