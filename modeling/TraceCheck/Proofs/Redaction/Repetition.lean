import TraceCheck.Proofs.Redaction.Connections
import TraceCheck.Proofs.Redaction.Credentials
import TraceCheck.Proofs.Redaction.Settling

/-!
# Redacting a text again

All rules but two have nothing to do in a redacted text.  A placeholder can complete the
password of an address, and a covered number can free another one from the word that it
was a part of.  So a redacted text is redacted further exactly when it holds a connection
string or a card number.
-/

namespace TraceCheck.Redaction

open TraceCheck.Text TraceCheck.Unicode

variable {r : Rule} {cs old new : List Char}

/-! ## Settled rules stay settled -/

theorem Shape.IsHonest.covering_apply {shape : Shape} (h : shape.IsHonest) {kind : String}
    (hne : kind.toList ≠ []) (hkind : kind.toList.all isKindChar = true)
    {Hide : Option Char → List Char → List Char → Prop}
    (hhide : ∀ before after u v, shape before (u ++ v) = .hit u.length →
      shape.Reaches before after (u ++ v) → Hide after u v) (cs : List Char) :
    Covering (fun before old _ => shape.Misses before old) Hide none none cs
      ((Rule.whole kind shape).apply cs) := by
  rw [Rule.apply_eq_replaceAfter]
  exact h.covering_whole (isPlaceholder_placeholder hne hkind) hhide none none cs (.inl ⟨rfl, rfl⟩)

theorem covering_apply_cloudKey (cs : List Char) :
    Covering (fun before old _ => cloudKey.Misses before old) StandsFree none none cs
      ((Rule.whole "AWS_KEY" cloudKey).apply cs) :=
  cloudKey_isHonest.covering_apply (by decide) (by decide) (fun _ _ _ _ hhit hreach =>
    (cloudKey_isBounded.standsAlone hhit hreach.eq_or).standsFree) cs

theorem covering_apply_bearerToken (cs : List Char) :
    Covering (fun before old _ => bearerToken.Misses before old) StandsFree none none cs
      ((Rule.whole "TOKEN" bearerToken).apply cs) :=
  bearerToken_isHonest.covering_apply (by decide) (by decide) (fun _ _ _ _ hhit hreach =>
    standsFree_of_bearerToken hhit hreach.eq_or) cs

theorem covering_apply_credential (cs : List Char) :
    Covering ShowsHidden HidesValue none none cs
      (Rule.apply ⟨credential, hideValue⟩ cs) := by
  rw [Rule.apply_eq_replaceAfter]
  exact covering_credential none none cs (.inl rfl)

/-- The rules for addresses and numbers cover identities. -/
theorem covering_identities (hr : r ∈ rules.drop 7) (cs : List Char) :
    Covering (fun _ _ _ => True) HidesIdentity none none cs (r.apply cs) := by
  revert r
  unfold rules
  simp only [List.drop_succ_cons, List.drop_zero, List.forall_mem_cons, List.not_mem_nil,
    false_implies, implies_true, and_true]
  refine ⟨?_, ?_, ?_⟩
  · exact (mailAddress_isHonest.covering_apply (by decide) (by decide)
      (fun _ _ _ _ hhit hreach => hidesIdentity_of_mailAddress hhit hreach) cs).imp
        (fun _ _ _ _ => trivial) fun _ _ _ hhide => hhide
  · rw [Rule.apply_eq_replaceAfter]
    exact covering_cardNumber none none cs (.inl rfl)
  · exact (socialSecurityNumber_isHonest.covering_apply (by decide) (by decide)
      (fun _ _ _ _ hhit hreach => hidesIdentity_of_socialSecurityNumber hhit hreach.eq_or) cs).imp
        (fun _ _ _ _ => trivial) fun _ _ _ hhide => hhide

/-- The rules from the one for cloud keys on cover what stands free. -/
theorem covering_free (hr : r ∈ rules.drop 4) (cs : List Char) :
    Covering (fun _ _ _ => True) StandsFree none none cs (r.apply cs) := by
  have hsplit : rules.drop 4 = .whole "AWS_KEY" cloudKey :: .whole "TOKEN" bearerToken ::
      ⟨credential, hideValue⟩ :: rules.drop 7 := rfl
  rw [hsplit, List.mem_cons, List.mem_cons, List.mem_cons] at hr
  rcases hr with rfl | rfl | rfl | hr
  · exact (covering_apply_cloudKey cs).imp (fun _ _ _ _ => trivial) fun _ _ _ hhide => hhide
  · exact (covering_apply_bearerToken cs).imp (fun _ _ _ _ => trivial) fun _ _ _ hhide => hhide
  · exact (covering_apply_credential cs).imp (fun _ _ _ _ => trivial)
      fun _ _ _ hhide => hhide.toStandsFree
  · exact (covering_identities hr cs).imp (fun _ _ _ _ => trivial)
      fun _ _ _ hhide => hhide.toStandsFree

/-- What a rule brings about and later rules keep holds of a redacted text. -/
theorem redactChars_induction {P : List Char → Prop} (n : Nat) (hr : rules[n]? = some r)
    (hown : ∀ cs, P (r.apply cs))
    (hlater : ∀ r' ∈ rules.drop (n + 1), ∀ cs, P cs → P (r'.apply cs)) (cs : List Char) :
    P (redactChars cs) := by
  obtain ⟨hn, hr⟩ := List.getElem?_eq_some_iff.mp hr
  have hrules : rules = rules.take n ++ r :: rules.drop (n + 1) := by
    rw [← hr, ← List.drop_eq_getElem_cons hn, List.take_append_drop]
  rw [redactChars, hrules, List.foldl_append, List.foldl_cons]
  exact foldl_apply_induction hlater (hown _)

/-- A shape that may stand anywhere is settled in a redacted text. -/
theorem Shape.IsPlain.everywhere_redactChars {shape : Shape} (h : shape.IsPlain)
    (hinside : shape.PassesPlaceholders) (hhonest : shape.IsHonest) (n : Nat) (kind : String)
    (hr : rules[n]? = some (.whole kind shape)) (hne : kind.toList ≠ [])
    (hkind : kind.toList.all isKindChar = true) (cs : List Char) :
    Everywhere shape.Misses none (redactChars cs) := by
  refine redactChars_induction (P := Everywhere shape.Misses none) n hr (fun cs => ?_)
    (fun r' hr' cs hcs => ?_) cs
  · exact h.everywhere hinside (hhonest.covering_apply hne hkind (fun _ _ _ _ _ _ => trivial) cs)
  · exact h.everywhere_of_masks hinside (masks_apply (List.mem_of_mem_drop hr') cs) hcs

theorem everywhere_redactChars_cloudKey (cs : List Char) :
    Everywhere cloudKey.Misses none (redactChars cs) := by
  refine redactChars_induction (P := Everywhere cloudKey.Misses none)
    (r := .whole "AWS_KEY" cloudKey) 4 rfl
    (fun cs => ?_) (fun r hr cs hcs => ?_) cs
  · exact everywhere_cloudKey_of_covering (covering_apply_cloudKey cs)
  · have hfree := covering_free (List.drop_subset_drop_left rules (Nat.le_succ 4) hr) cs
    exact everywhere_cloudKey_of_covering (hfree.keeping hcs)

theorem everywhere_redactChars_bearerToken (cs : List Char) :
    Everywhere bearerToken.Misses none (redactChars cs) := by
  refine redactChars_induction (P := Everywhere bearerToken.Misses none)
    (r := .whole "TOKEN" bearerToken) 5 rfl
    (fun cs => ?_) (fun r hr cs hcs => ?_) cs
  · exact everywhere_bearerToken_of_covering (covering_apply_bearerToken cs)
  · have hfree := covering_free (List.drop_subset_drop_left rules (by decide : 4 ≤ 6) hr) cs
    exact everywhere_bearerToken_of_covering (hfree.keeping hcs)

theorem everywhere_redactChars_credential (cs : List Char) :
    Everywhere HasHiddenValue none (redactChars cs) := by
  refine redactChars_induction (P := Everywhere HasHiddenValue none)
    (r := ⟨credential, hideValue⟩) 6 rfl
    (fun cs => ?_) (fun r hr cs hcs => ?_) cs
  · exact everywhere_hasHiddenValue_of_covering (covering_apply_credential cs)
  · exact everywhere_hasHiddenValue_of_identities ((covering_identities hr cs).keeping hcs)

theorem everywhere_redactChars_socialSecurityNumber (cs : List Char) :
    Everywhere socialSecurityNumber.Misses none (redactChars cs) := by
  refine redactChars_induction (P := Everywhere socialSecurityNumber.Misses none)
    (r := .whole "SSN" socialSecurityNumber) 9 rfl
    (fun cs => ?_) (fun r hr => absurd hr List.not_mem_nil) cs
  exact everywhere_socialSecurityNumber_of_covering
    (socialSecurityNumber_isHonest.covering_apply (by decide) (by decide)
      (fun _ _ _ _ hhit hreach => socialSecurityNumber_isBounded.standsAlone hhit hreach.eq_or) cs)

/-- A service key that is found stands in the text. -/
theorem exists_isApiKey_of_hit {before : Option Char} {n : Nat} (h : apiKey before cs = .hit n) :
    ∃ key, IsApiKey key ∧ key <+: cs := by
  obtain ⟨r₁, hr₁, -⟩ := Remainder.probe_eq_hit_iff.mp h
  obtain ⟨r, hstart, hbody⟩ := Option.bind_eq_some_iff.mp hr₁
  obtain ⟨start, hmem, hsplit, -⟩ := findSome?_apiKeyStarts_eq_some_iff.mp hstart
  obtain ⟨body, hrest, hall, -, hone, -⟩ := Remainder.afterRun?_eq_some_iff_append.mp hbody
  have hstarts : ∀ start ∈ apiKeyStarts, ∃ kind ∈ ["sk", "pk", "rk"], ∃ mode ∈ ["live", "test"],
      start = kind ++ "_" ++ mode ++ "_" := by
    decide
  obtain ⟨kind, hkind, mode, hmode, rfl⟩ := hstarts start hmem
  refine ⟨_, ⟨kind, hkind, mode, hmode, body, List.length_pos_iff.mp hone, hall, rfl⟩, r₁.rest, ?_⟩
  rw [hsplit, hrest, List.append_assoc]

/-! ## Rules without effect -/

/-- A rule whose shape recognises nothing leaves a text. -/
theorem Rule.apply_eq_self_of_misses (h : Everywhere r.shape.Misses none cs) : r.apply cs = cs := by
  rw [r.apply_eq_replaceAfter]
  exact replaceAfter_eq_self_of_everywhere (h.imp fun _ _ hmiss n hhit => absurd hhit (hmiss n))

/-- The rule for credentials leaves a text in which every value is hidden. -/
theorem apply_credential_eq_self (h : Everywhere HasHiddenValue none cs) :
    Rule.apply ⟨credential, hideValue⟩ cs = cs := by
  rw [Rule.apply_eq_replaceAfter]
  refine replaceAfter_eq_self_of_everywhere (h.imp fun before cs hhidden n hhit => ?_)
  obtain ⟨hstart, lead, value, rest, hlead, hne, hall, hstop, rfl, rfl⟩ :=
    credential_eq_hit_iff.mp hhit
  have hvalue := hhidden hstart lead value rest hlead hne hall hstop rfl
  have hpos := List.length_pos_iff.mpr hne
  have htake : (lead ++ (value ++ rest)).take (max 1 (lead ++ value).length) = lead ++ value := by
    rw [Nat.max_eq_right (by rw [List.length_append]; omega), ← List.append_assoc, List.take_left]
  rw [htake]
  change hideValue (lead ++ value) = _
  rw [hideValue_append hlead hne hall, hvalue]

/-- In a redacted text only the second rule, for connection strings, and the ninth, for card
numbers, can find anything. -/
theorem apply_redactChars {n : Nat} (hr : rules[n]? = some r) (hstring : n ≠ 1) (hcard : n ≠ 8)
    (cs : List Char) : r.apply (redactChars cs) = redactChars cs := by
  rcases n with _ | _ | _ | _ | _ | _ | _ | _ | _ | _ | n
  case zero =>
    cases hr
    exact Rule.apply_eq_self_of_misses (privateKey_isPlain.everywhere_redactChars
      privateKey_passesPlaceholders privateKey_isHonest 0 "PRIVATE_KEY" rfl (by decide)
        (by decide) cs)
  case succ.zero => exact absurd rfl hstring
  case succ.succ.zero =>
    cases hr
    exact Rule.apply_eq_self_of_misses (signedToken_isPlain.everywhere_redactChars
      signedToken_passesPlaceholders signedToken_isHonest 2 "JWT" rfl (by decide) (by decide) cs)
  case succ.succ.succ.zero =>
    cases hr
    refine Rule.apply_eq_self fun before c t ht => ?_
    have hmiss : apiKey before (c :: t) = .miss 1 := apiKey_of_not_hit fun n hhit => by
      obtain ⟨key, hkey, hstands⟩ := exists_isApiKey_of_hit hhit
      exact keyless_redactChars cs key hkey (hstands.isInfix.trans ht.isInfix)
    exact ⟨1, hmiss⟩
  case succ.succ.succ.succ.zero =>
    cases hr
    exact Rule.apply_eq_self_of_misses (everywhere_redactChars_cloudKey cs)
  case succ.succ.succ.succ.succ.zero =>
    cases hr
    exact Rule.apply_eq_self_of_misses (everywhere_redactChars_bearerToken cs)
  case succ.succ.succ.succ.succ.succ.zero =>
    cases hr
    exact apply_credential_eq_self (everywhere_redactChars_credential cs)
  case succ.succ.succ.succ.succ.succ.succ.zero =>
    cases hr
    exact Rule.apply_eq_self_of_misses (mailAddress_isPlain.everywhere_redactChars
      mailAddress_passesPlaceholders mailAddress_isHonest 7 "EMAIL" rfl (by decide) (by decide) cs)
  case succ.succ.succ.succ.succ.succ.succ.succ.zero => exact absurd rfl hcard
  case succ.succ.succ.succ.succ.succ.succ.succ.succ.zero =>
    cases hr
    exact Rule.apply_eq_self_of_misses (everywhere_redactChars_socialSecurityNumber cs)
  case succ.succ.succ.succ.succ.succ.succ.succ.succ.succ => cases hr

/-! ## Redacting again -/

/-- Covering parts of a text brings in no characters but those of placeholders. -/
theorem Masks.countP_le {p : Char → Bool} (hp : ∀ c ∈ placeholderChars, p c = false)
    (h : Masks IsPlaceholder old new) : new.countP p ≤ old.countP p := by
  induction h with
  | nil => exact Nat.le_refl _
  | keep c _ ih =>
      rw [List.countP_cons, List.countP_cons]
      exact Nat.add_le_add_right ih _
  | @cover hidden block old new hblock _ ih =>
      have hnone : block.countP p = 0 := List.countP_eq_zero.mpr fun c hc => by
        rw [hp c (hblock.mem_placeholderChars hc)]
        exact Bool.false_ne_true
      rw [List.countP_append, List.countP_append, hnone]
      omega

/-- A rule that replaces a piece with some character of a class by its placeholder leaves
fewer of these characters. -/
theorem countP_apply_lt {p : Char → Bool} (hp : ∀ c ∈ placeholderChars, p c = false)
    (hr : r ∈ rules) {piece : List Char} (hfound : .found piece ∈ r.shape.pieces cs) {c : Char}
    (hc : c ∈ piece) (hpc : p c = true) (hblock : IsPlaceholder (r.replacement piece)) :
    (r.apply cs).countP p < cs.countP p := by
  have hcovers := covers_of_mem_rules r hr
  have hreplaced (x : Piece) : (x.replaced r.replacement).countP p ≤ x.chars.countP p := by
    cases x with
    | plain d => exact Nat.le_refl _
    | found q => exact (hcovers q).countP_le hp
  have hpiece : ((Piece.found piece).replaced r.replacement).countP p <
      (Piece.found piece).chars.countP p := by
    have hnone : (r.replacement piece).countP p = 0 := List.countP_eq_zero.mpr fun d hd => by
      rw [hp d (hblock.mem_placeholderChars hd)]
      exact Bool.false_ne_true
    exact hnone ▸ List.countP_pos_iff.mpr ⟨c, hc, hpc⟩
  obtain ⟨front, behind, hsplit⟩ := List.append_of_mem hfound
  have hle (xs : List Piece) : (xs.flatMap (Piece.replaced r.replacement)).countP p ≤
      (xs.flatMap Piece.chars).countP p := by
    induction xs with
    | nil => exact Nat.le_refl _
    | cons x xs ih =>
        rw [List.flatMap_cons, List.flatMap_cons, List.countP_append, List.countP_append]
        exact Nat.add_le_add (hreplaced x) ih
  have hfront := hle front
  have hbehind := hle behind
  rw [r.apply_eq_replaceAfter]
  unfold Shape.replaceAfter
  conv_rhs => rw [← r.shape.flatMap_chars_pieces cs]
  change ((r.shape.pieces cs).flatMap _).countP p < _
  rw [hsplit, List.flatMap_append, List.flatMap_append, List.flatMap_cons, List.flatMap_cons,
    List.countP_append, List.countP_append, List.countP_append, List.countP_append]
  omega

/-- A card number is found among the numbers of a text. -/
def HoldsCard (cs : List Char) : Prop :=
  ∃ piece, .found piece ∈ cardNumber.pieces cs ∧ isCard piece = true

theorem exists_digit_of_isCard {piece : List Char} (h : isCard piece = true) :
    ∃ c ∈ piece, c.isDigit = true := by
  have hsome : 0 < (piece.filter Char.isDigit).length := by
    unfold isCard at h
    simp only [List.length_map, Bool.and_eq_true, decide_eq_true_eq] at h
    omega
  obtain ⟨c, hc⟩ := List.exists_mem_of_length_pos hsome
  exact ⟨c, List.mem_filter.mp hc⟩

theorem apply_connectionString_eq_self (h : ¬ HoldsConnectionString cs) :
    (Rule.whole "CONNECTION_STRING" connectionString).apply cs = cs := by
  rw [← exists_found_connectionString_iff, not_exists] at h
  exact Rule.apply_eq_self_of_misses (connectionString_isHonest.everywhere_of_not_found h)

theorem apply_cardNumber_eq_self (h : ¬ HoldsCard cs) :
    Rule.apply ⟨cardNumber, fun piece => if isCard piece then placeholder "CARD" else piece⟩ cs =
      cs := by
  rw [Rule.apply_eq_replaceAfter]
  exact replaceAfter_eq_self_of_found fun piece hfound =>
    if_neg fun hcard => h ⟨piece, hfound, hcard⟩

/-- A redacted text is redacted further when some rule that leaves fewer characters of a
class comes behind rules that leave the text. -/
theorem redactChars_ne_self {p : Char → Bool} (hp : ∀ c ∈ placeholderChars, p c = false) {n : Nat}
    (hr : rules[n]? = some r)
    (hearlier : ∀ i < n, ∀ r', rules[i]? = some r' → r'.apply cs = cs)
    (hfewer : (r.apply cs).countP p < cs.countP p) : redactChars cs ≠ cs := by
  obtain ⟨hn, hr⟩ := List.getElem?_eq_some_iff.mp hr
  have hrules : rules = rules.take n ++ r :: rules.drop (n + 1) := by
    rw [← hr, ← List.drop_eq_getElem_cons hn, List.take_append_drop]
  have hfront : (rules.take n).foldl (fun cs r => r.apply cs) cs = cs := by
    refine foldl_apply_induction (P := fun cs' => cs' = cs) (fun r' hr' cs' hcs' => ?_) rfl
    obtain ⟨i, hi⟩ := List.mem_iff_getElem?.mp hr'
    rw [List.getElem?_take, Option.ite_none_right_eq_some] at hi
    obtain ⟨hi, hr'⟩ := hi
    rw [hcs', hearlier i hi r' hr']
  have hbehind : ((rules.drop (n + 1)).foldl (fun cs r => r.apply cs) (r.apply cs)).countP p ≤
      (r.apply cs).countP p := by
    refine foldl_rules_induction (P := fun cs' => cs'.countP p ≤ (r.apply cs).countP p)
      (fun old new hmasks hold => ?_) (List.drop_subset _ rules) (Nat.le_refl _)
    exact (hmasks.countP_le hp).trans hold
  intro hself
  rw [redactChars, hrules, List.foldl_append, List.foldl_cons, hfront] at hself
  rw [hself] at hbehind
  omega

/-- A redacted text is redacted further exactly when it holds a connection string or a card
number. -/
theorem redactChars_redactChars_eq_iff (cs : List Char) :
    redactChars (redactChars cs) = redactChars cs ↔
      ¬ HoldsConnectionString (redactChars cs) ∧ ¬ HoldsCard (redactChars cs) := by
  have hothers {i : Nat} {r : Rule} (hi : i ≠ 8) (hr : rules[i]? = some r)
      (hstring : ¬ HoldsConnectionString (redactChars cs)) :
      r.apply (redactChars cs) = redactChars cs := by
    by_cases hone : i = 1
    · subst hone
      cases hr
      exact apply_connectionString_eq_self hstring
    · exact apply_redactChars hr hone hi cs
  constructor
  · intro hsettled
    have hstring : ¬ HoldsConnectionString (redactChars cs) := by
      intro hstring
      obtain ⟨piece, hfound⟩ := exists_found_connectionString_iff.mpr hstring
      have hslash : ∀ c ∈ placeholderChars, (c == '/') = false := by decide
      refine redactChars_ne_self (r := .whole "CONNECTION_STRING" connectionString) (n := 1)
        hslash rfl (fun i hi r' hr' => apply_redactChars hr' (by omega) (by omega) cs) ?_ hsettled
      exact countP_apply_lt hslash (List.mem_of_getElem? (rfl : rules[1]? = _)) hfound
        (slash_mem_of_found hfound) rfl (isPlaceholder_placeholder (by decide) (by decide))
    refine ⟨hstring, fun ⟨piece, hfound, hcard⟩ => ?_⟩
    obtain ⟨c, hc, hdigit⟩ := exists_digit_of_isCard hcard
    have hdigits : ∀ c ∈ placeholderChars, c.isDigit = false := by decide
    refine redactChars_ne_self (r := ⟨cardNumber, fun cs => if isCard cs then placeholder "CARD"
      else cs⟩) (n := 8) hdigits rfl (fun i hi r' hr' => hothers (by omega) hr' hstring) ?_ hsettled
    refine countP_apply_lt hdigits (List.mem_of_getElem? (rfl : rules[8]? = _)) hfound hc hdigit ?_
    change IsPlaceholder (if isCard piece = true then _ else _)
    rw [if_pos hcard]
    exact isPlaceholder_placeholder (by decide) (by decide)
  · rintro ⟨hstring, hcard⟩
    refine foldl_apply_induction (P := fun cs' => cs' = redactChars cs)
      (fun r hr cs' hcs' => ?_) rfl
    obtain ⟨i, hi⟩ := List.mem_iff_getElem?.mp hr
    rw [hcs']
    by_cases height : i = 8
    · subst height
      cases hi
      exact apply_cardNumber_eq_self hcard
    · exact hothers height hi hstring

/-- Redacting a redacted text changes it exactly when it holds a connection string or a card
number, and only then it looks sensitive. -/
theorem redact_redact_iff (s : String) :
    (redact (redact s) = redact s ↔
      ¬ HoldsConnectionString (redact s).toList ∧ ¬ HoldsCard (redact s).toList) ∧
    (isSensitive (redact s) = false ↔
      ¬ HoldsConnectionString (redact s).toList ∧ ¬ HoldsCard (redact s).toList) := by
  have hagain : redact (redact s) = redact s ↔
      ¬ HoldsConnectionString (redact s).toList ∧ ¬ HoldsCard (redact s).toList := by
    have htwice : redact (redact s) = String.ofList (redactChars (redactChars s.toList)) := by
      rw [redact, redact, String.toList_ofList]
    have honce : (redact s).toList = redactChars s.toList := String.toList_ofList
    rw [htwice, honce, redact, String.ofList_inj]
    exact redactChars_redactChars_eq_iff s.toList
  refine ⟨hagain, ?_⟩
  rw [← hagain, isSensitive, bne_eq_false_iff_eq]

/-- A number that is covered frees the card number in front of it, which was passed over
with the digits of the other one behind it. -/
theorem redact_redact_card :
    redact "4111 1111 1111 1111 123-45-6789" = "4111 1111 1111 1111 ***REDACTED_SSN***" ∧
      redact (redact "4111 1111 1111 1111 123-45-6789") =
        "***REDACTED_CARD*** ***REDACTED_SSN***" ∧
      redact (redact "4111 1111 1111 1111 123-45-6789") ≠
        redact "4111 1111 1111 1111 123-45-6789" ∧
      isSensitive (redact "4111 1111 1111 1111 123-45-6789") = true := by
  decide +kernel

/-- A password that is covered may complete an address. -/
example : redact "x://u:bearer abcdefgh@host" = "x://u:***REDACTED_TOKEN***@host" ∧
    redact "x://u:***REDACTED_TOKEN***@host" = "***REDACTED_CONNECTION_STRING***" := by
  decide +kernel

end TraceCheck.Redaction
