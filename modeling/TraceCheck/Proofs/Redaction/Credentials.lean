import TraceCheck.Proofs.Redaction.Hiding
import TraceCheck.Proofs.Redaction.Identities

/-!
# Which assignments hide their values

Redaction hides a value that is assigned to a credential when the value is bare and
follows the sign that assigns it, or follows the second sign at once.  A value in quotes
is never hidden, and of two signs with a space behind them only the second one is.
-/

namespace TraceCheck.Redaction

open TraceCheck.Text TraceCheck.Unicode

/-! ## Texts in which little is found -/

/-- A rule that misses everywhere in a text leaves it. -/
theorem Rule.apply_eq_self {r : Rule} {cs : List Char}
    (h : ∀ before c t, c :: t <:+ cs → ∃ m, r.shape before (c :: t) = .miss m) :
    r.apply cs = cs := by
  rw [r.apply_eq_replaceAfter]
  refine replaceAfter_eq_self fun before c t ht n hhit => ?_
  obtain ⟨m, hmiss⟩ := h before c t ht
  rw [hhit] at hmiss
  cases hmiss

/-- A mail address has its sign. -/
theorem mailAddress_of_not_mem {cs : List Char} (h : '@' ∉ cs) (before : Option Char) :
    ∃ m, mailAddress before cs = .miss m := by
  unfold mailAddress
  dsimp only
  split
  · exact ⟨_, rfl⟩
  · split
    · next rest hrest =>
        refine absurd ?_ h
        rw [Remainder.afterWhile_eq] at hrest
        exact (List.dropWhile_suffix _).subset (hrest ▸ List.mem_cons_self)
    · exact ⟨_, rfl⟩

/-- The characters of an assignment of an `x`, with quotes or without. -/
def quietChars : List Char := '"' :: 'x' :: frontChars

variable {t u z : List Char}

/-- The rules in front of the one for credentials find nothing in an assignment of an `x`. -/
theorem foldl_early_rules (ht : ∀ c ∈ t, c ∈ quietChars) (hpair : ¬ ['k', '_'] <:+: t) :
    [ .whole "PRIVATE_KEY" privateKey, .whole "CONNECTION_STRING" connectionString,
      .whole "JWT" signedToken, .whole "API_KEY" apiKey, .whole "AWS_KEY" cloudKey,
      .whole "TOKEN" bearerToken ].foldl (fun cs r => Rule.apply r cs) t = t := by
  have hquiet : ∀ c ∈ quietChars, c ≠ '-' ∧ c ≠ '/' ∧ c ≠ '.' ∧ c ≠ 'A' ∧ foldChar c ≠ 'b' := by
    decide
  have hsuffix {c : Char} {y : List Char} (hy : c :: y <:+ t) : ∀ d ∈ c :: y, d ∈ quietChars :=
    fun d hd => ht d (hy.subset hd)
  have hhead {c : Char} {y : List Char} (hy : c :: y <:+ t) : c ∈ quietChars :=
    hsuffix hy c List.mem_cons_self
  have hkey : Rule.apply (.whole "PRIVATE_KEY" privateKey) t = t :=
    Rule.apply_eq_self fun before c y hy => ⟨1, privateKey_of_ne (hquiet c (hhead hy)).1 before y⟩
  have haddress : Rule.apply (.whole "CONNECTION_STRING" connectionString) t = t := by
    refine Rule.apply_eq_self fun before c y hy => ?_
    have hmark : ¬ "://".toList <:+: c :: y := fun hinside =>
      (hquiet '/' (hsuffix hy '/' (hinside.subset (by decide)))).2.1 rfl
    obtain ⟨m, -, hmiss⟩ :=
      connectionString_of_unmarked (z := []) hmark nofun (List.cons_ne_nil c y) before
    rw [List.append_nil] at hmiss
    exact ⟨m, hmiss⟩
  have htoken : Rule.apply (.whole "JWT" signedToken) t = t := by
    refine Rule.apply_eq_self fun before c y hy => ?_
    have hpoint : '.' ∉ c :: y := fun hmem => (hquiet '.' (hsuffix hy '.' hmem)).2.2.1 rfl
    obtain ⟨m, -, hmiss⟩ :=
      signedToken_of_pointless (z := []) hpoint nofun (List.cons_ne_nil c y) before
    rw [List.append_nil] at hmiss
    exact ⟨m, hmiss⟩
  have hservice : Rule.apply (.whole "API_KEY" apiKey) t = t := by
    refine Rule.apply_eq_self fun before c y hy => ?_
    have hmiss := apiKey_of_not_infix (z := []) (fun hinside => hpair (hinside.trans hy.isInfix))
      nofun before
    rw [List.append_nil] at hmiss
    exact ⟨1, hmiss⟩
  have hcloud : Rule.apply (.whole "AWS_KEY" cloudKey) t = t :=
    Rule.apply_eq_self fun before c y hy =>
      ⟨1, cloudKey_of_ne (hquiet c (hhead hy)).2.2.2.1 before y⟩
  have hbearer : Rule.apply (.whole "TOKEN" bearerToken) t = t :=
    Rule.apply_eq_self fun before c y hy =>
      ⟨1, bearerToken_of_ne (hquiet c (hhead hy)).2.2.2.2 before y⟩
  simp only [List.foldl_cons, List.foldl_nil]
  rw [hkey, haddress, htoken, hservice, hcloud, hbearer]

/-- The rules behind the one for credentials find nothing without a digit or the sign of an
address. -/
theorem foldl_late_rules (ht : ∀ c ∈ t, c ≠ '@' ∧ isDecimalDigit c = false) :
    [ .whole "EMAIL" mailAddress,
      ⟨cardNumber, fun cs => if isCard cs then placeholder "CARD" else cs⟩,
      .whole "SSN" socialSecurityNumber ].foldl (fun cs r => Rule.apply r cs) t = t := by
  have hdigit {c : Char} {y : List Char} (hy : c :: y <:+ t) : isDecimalDigit c = false :=
    (ht c (hy.subset List.mem_cons_self)).2
  have hmail : Rule.apply (.whole "EMAIL" mailAddress) t = t :=
    Rule.apply_eq_self fun before c y hy =>
      mailAddress_of_not_mem (fun hmem => (ht '@' (hy.subset hmem)).1 rfl) before
  have hcard : Rule.apply
      ⟨cardNumber, fun cs => if isCard cs then placeholder "CARD" else cs⟩ t = t :=
    Rule.apply_eq_self fun before c y hy => ⟨1, cardNumber_of_not_digit (hdigit hy) before y⟩
  have hsocial : Rule.apply (.whole "SSN" socialSecurityNumber) t = t :=
    Rule.apply_eq_self fun before c y hy =>
      ⟨1, socialSecurityNumber_of_not_digit (hdigit hy) before y⟩
  simp only [List.foldl_cons, List.foldl_nil]
  rw [hmail, hcard, hsocial]

/-- In an assignment of an `x`, only the rule for credentials can find anything. -/
theorem redactChars_of_quiet (ht : ∀ c ∈ t, c ∈ quietChars) (hpair : ¬ ['k', '_'] <:+: t) :
    redactChars t = credential.replaceAfter hideValue none t := by
  obtain ⟨earlier, later, hrules, hearlier, hlater⟩ : ∃ earlier later : List Rule,
      rules = earlier ++ ⟨credential, hideValue⟩ :: later ∧
        earlier.foldl (fun cs r => r.apply cs) t = t ∧
        ∀ cs : List Char, (∀ c ∈ cs, c ≠ '@' ∧ isDecimalDigit c = false) →
          later.foldl (fun cs r => r.apply cs) cs = cs :=
    ⟨_, _, rfl, foldl_early_rules ht hpair, fun cs hcs => foldl_late_rules hcs⟩
  have hquiet : ∀ c ∈ quietChars, c ≠ '@' ∧ isDecimalDigit c = false := by decide
  have hstars : ∀ c ∈ placeholderChars, c ≠ '@' ∧ isDecimalDigit c = false := by decide
  have hmasks : Masks IsPlaceholder t (credential.replaceAfter hideValue none t) :=
    masks_replaceAfter covers_value none t
  rw [redactChars, hrules, List.foldl_append, List.foldl_cons, hearlier,
    Rule.apply_eq_replaceAfter]
  refine hlater _ fun c hc => ?_
  rcases hmasks.mem hc with hc | ⟨block, hblock, hc⟩
  · exact hquiet c (ht c hc)
  · exact hstars c (hblock.mem_placeholderChars hc)

/-! ## Quotes -/

theorem afterAssignment?_followedBy (r : Remainder) (z : List Char) :
    afterAssignment? (r.followedBy ('"' :: z)) =
      (afterAssignment? r).map (·.followedBy ('"' :: z)) := by
  have hquote : ∀ name ∈ credentialNames, foldChar '"' ∉ name.toList := by decide
  have hblank : ∀ c ∈ ('"' :: z).head?, isBlank c = false := by
    rintro c ⟨⟩
    decide
  have hname : (credentialNames.findSome? fun name =>
      (r.followedBy ('"' :: z)).afterFolded? foldChar name.toList) =
      (credentialNames.findSome? fun name => r.afterFolded? foldChar name.toList).map
        (·.followedBy ('"' :: z)) := by
    refine findSome?_eq_map fun name hmem => Remainder.afterFolded?_followedBy ?_
    rintro c ⟨⟩
    exact hquote name hmem
  unfold afterAssignment?
  rw [hname]
  refine map_bind_comm fun r₁ => ?_
  rw [Remainder.afterWhile_followedBy (.inl hblank)]
  obtain ⟨n, rest⟩ := r₁.afterWhile isBlank
  cases rest with
  | nil => exact if_neg (by decide)
  | cons c rest =>
      change (if c = '=' ∨ c = ':' then some _ else none) =
        Option.map _ (if c = '=' ∨ c = ':' then some _ else none)
      split
      · exact congrArg some (Remainder.afterWhile_followedBy (r := ⟨n + 1, rest⟩) (.inl hblank))
      · rfl

theorem total_of_afterAssignment? {r r' : Remainder} (h : afterAssignment? r = some r') :
    r'.total = r.total := by
  obtain ⟨r₁, hname, hsign⟩ := Option.bind_eq_some_iff.mp h
  obtain ⟨name, -, hfold⟩ := List.exists_of_findSome?_eq_some hname
  have htotal := Remainder.total_afterWhile r₁ isBlank
  rw [Remainder.total_of_afterFolded? hfold] at htotal
  generalize r₁.afterWhile isBlank = r₂ at hsign htotal
  obtain ⟨n, rest⟩ := r₂
  cases rest with
  | nil => cases hsign
  | cons c rest =>
      obtain ⟨-, heq⟩ := Option.ite_none_right_eq_some.mp hsign
      injection heq with heq
      rw [← heq, Remainder.total_afterWhile, ← htotal]
      simp only [Remainder.total, List.length_cons]
      omega

/-- A credential and its value end in front of a quote. -/
theorem credential_separates (before : Option Char) (u z : List Char) :
    credential.Separates before u ('"' :: z) := by
  intro x y _ hy
  have hquote : ∀ c ∈ ('"' :: z).head?, isValueChar c = false := by
    rintro c ⟨⟩
    decide
  constructor
  · unfold credential
    rw [Remainder.whole_append, afterAssignment?_followedBy]
    refine (congrArg Remainder.probe (map_bind_comm fun r => ?_)).trans
      (Remainder.probe_map_followedBy _ _)
    rw [Remainder.afterRun?_followedBy (.inl hquote)]
    refine map_bind_comm fun r => ?_
    split <;> rfl
  · refine Remainder.places_probe_le hy fun r hr => ?_
    obtain ⟨r₁, hassign, hr⟩ := Option.bind_eq_some_iff.mp hr
    obtain ⟨r₂, hrun, hr⟩ := Option.bind_eq_some_iff.mp hr
    obtain ⟨-, heq⟩ := Option.ite_none_right_eq_some.mp hr
    injection heq with heq
    rw [← heq, Remainder.total_of_afterRun? hrun, total_of_afterAssignment? hassign]
    exact Nat.zero_add _

/-- No name of a credential begins in a text. -/
theorem replaceAfter_credential_eq_self (ht : ∀ c ∈ t, foldChar c ∉ nameStarts)
    (f : List Char → List Char) (before : Option Char) :
    credential.replaceAfter f before t = t := by
  refine replaceAfter_eq_self fun before c y hy n => ?_
  rw [credential_of_not_mem (ht c (hy.subset List.mem_cons_self))]
  nofun

/-! ## Assignments -/

/-- An assignment to a credential, as rules write it. -/
structure Assignment where
  name : String
  /-- The number of spaces in front of the sign. -/
  front : Nat
  sign : String
  /-- The number of spaces behind the sign. -/
  behind : Nat
  /-- Whether the value stands in double quotes. -/
  quoted : Bool
  name_mem : name ∈ assignedNames
  sign_mem : sign ∈ ["=", ":", "=="]

namespace Assignment

variable (a : Assignment)

/-- A value as the assignment writes it. -/
def written (value : List Char) : List Char :=
  if a.quoted then '"' :: (value ++ ['"']) else value

/-- The assignment of a value. -/
def text (value : List Char) : List Char :=
  a.name.toList ++ (List.replicate a.front ' ' ++
    (a.sign.toList ++ (List.replicate a.behind ' ' ++ a.written value)))

/-- The value is bare, and it stands next to the sign if there are two. -/
def Hides : Prop :=
  a.quoted = false ∧ (a.sign = "==" → a.behind = 0)

/-- The name and the first sign, with the spaces in front of it and some behind it. -/
def lead (sign : Char) (behind : Nat) : List Char :=
  a.name.toList ++ (List.replicate a.front ' ' ++ sign :: List.replicate behind ' ')

theorem isLead_lead {sign : Char} (hsign : sign ∈ ['=', ':']) (behind : Nat) :
    IsLead (a.lead sign behind) :=
  ⟨a.name, a.name_mem, a.front, behind, sign, hsign, rfl⟩

/-- The sign that assigns the value, and the one behind it. -/
theorem exists_signs : ∃ sign ∈ ['=', ':'], ∃ more ∈ [[], ['=']],
    a.sign.toList = sign :: more ∧ (a.sign = "==" ↔ more = ['=']) := by
  have hsigns : ∀ s ∈ ["=", ":", "=="], ∃ sign ∈ ['=', ':'], ∃ more ∈ [[], ['=']],
      s.toList = sign :: more ∧ (s = "==" ↔ more = ['=']) := by
    decide
  exact hsigns a.sign a.sign_mem

theorem text_eq_lead {sign : Char} {more : List Char} (hsign : a.sign.toList = sign :: more)
    (value : List Char) : a.text value =
      a.lead sign 0 ++ (more ++ (List.replicate a.behind ' ' ++ a.written value)) := by
  simp [text, lead, hsign]

/-- Everything in front of a value that is hidden belongs to the assignment. -/
theorem exists_isFront (h : a.Hides) : ∃ front, IsFront front ∧ ∀ v, a.text v = front ++ v := by
  obtain ⟨hbare, hnext⟩ := h
  obtain ⟨sign, hsign, more, hmore, heq, htwo⟩ := a.exists_signs
  have hwritten (v : List Char) : a.written v = v := by
    rw [written, hbare]
    rfl
  rcases List.mem_cons.mp hmore with rfl | hmore
  · refine ⟨a.lead sign a.behind, ⟨_, a.isLead_lead hsign a.behind, [], List.mem_cons_self,
      (List.append_nil _).symm⟩, fun v => ?_⟩
    simp [text, lead, heq, hwritten]
  · obtain rfl := List.mem_singleton.mp hmore
    refine ⟨a.lead sign 0 ++ ['='], ⟨_, a.isLead_lead hsign 0, ['='],
      List.mem_cons_of_mem _ List.mem_cons_self, rfl⟩, fun v => ?_⟩
    simp [text, lead, heq, hwritten, hnext (htwo.mpr rfl)]

theorem isFront_lead {sign : Char} (hsign : sign ∈ ['=', ':']) : IsFront (a.lead sign 0) :=
  ⟨_, a.isLead_lead hsign 0, [], List.mem_cons_self, (List.append_nil _).symm⟩

theorem mem_written {value : List Char} {c : Char} (hc : c ∈ a.written value) :
    c = '"' ∨ c ∈ value := by
  unfold written at hc
  split at hc
  · simpa [or_comm, or_left_comm] using hc
  · exact .inr hc

/-- The characters behind the first sign of an assignment. -/
theorem forall_mem_behind {more value : List Char} (hmore : more ∈ [[], ['=']]) :
    ∀ c ∈ more ++ (List.replicate a.behind ' ' ++ a.written value),
      c ∈ ['=', ' ', '"'] ∨ c ∈ value := by
  have hsign : ∀ more ∈ [[], ['=']], ∀ c ∈ more, c ∈ ['=', ' ', '"'] := by decide
  intro c hc
  rcases List.mem_append.mp hc with hc | hc
  · exact .inl (hsign more hmore c hc)
  rcases List.mem_append.mp hc with hc | hc
  · rw [List.eq_of_mem_replicate hc]
    exact .inl (by decide)
  · rcases a.mem_written hc with rfl | hc
    · exact .inl (by decide)
    · exact .inr hc

/-- The characters of an assignment. -/
theorem forall_mem_text (value : List Char) :
    ∀ c ∈ a.text value, c ∈ '"' :: frontChars ∨ c ∈ value := by
  obtain ⟨sign, hsign, more, hmore, heq, -⟩ := a.exists_signs
  have hbehind : ∀ c ∈ ['=', ' ', '"'], c ∈ '"' :: frontChars := by decide
  rw [a.text_eq_lead heq]
  refine List.forall_mem_append.mpr ⟨fun c hc => ?_, fun c hc => ?_⟩
  · exact .inl (List.mem_cons_of_mem _ ((a.isFront_lead hsign).mem_frontChars c hc))
  · exact (a.forall_mem_behind hmore c hc).imp_left (hbehind c)

/-- In a redacted assignment of an `x` the rule for credentials alone has done its work. -/
theorem redactChars_text : redactChars (a.text ['x']) =
    credential.replaceAfter hideValue none (a.text ['x']) := by
  obtain ⟨sign, hsign, more, hmore, heq, -⟩ := a.exists_signs
  refine redactChars_of_quiet (fun c hc => ?_) ?_
  · have hquiet : ∀ c ∈ '"' :: frontChars, c ∈ quietChars := by decide
    rcases a.forall_mem_text ['x'] c hc with hc | hc
    · exact hquiet c hc
    · rw [List.mem_singleton.mp hc]
      decide
  · rw [a.text_eq_lead heq]
    refine not_infix_block (a.isFront_lead hsign) fun hmem => ?_
    exact absurd (a.forall_mem_behind hmore _ hmem) (by decide)

/-- A value that is not hidden stays. -/
theorem mem_redactChars_of_not_hides (h : ¬ a.Hides) : 'x' ∈ redactChars (a.text ['x']) := by
  obtain ⟨sign, hsign, more, hmore, heq, htwo⟩ := a.exists_signs
  rw [a.redactChars_text, a.text_eq_lead heq]
  cases hquoted : a.quoted with
  | true =>
      -- Whatever is found in front of the quote ends there.
      have hsplit : a.lead sign 0 ++ (more ++ (List.replicate a.behind ' ' ++ a.written ['x'])) =
          (a.lead sign 0 ++ (more ++ List.replicate a.behind ' ')) ++ ['"', 'x', '"'] := by
        simp [written, hquoted]
      have hvalue : ∀ c ∈ ['"', 'x', '"'], foldChar c ∉ nameStarts := by decide
      rw [hsplit, replaceAfter_append (credential_separates none _ ['x', '"']),
        replaceAfter_credential_eq_self hvalue]
      exact List.mem_append_right _ (by decide)
  | false =>
      -- The second sign is taken for the value.
      have hsome : a.sign = "==" ∧ a.behind ≠ 0 :=
        Classical.not_imp.mp fun himp => h ⟨hquoted, himp⟩
      obtain ⟨n, hn⟩ := Nat.exists_eq_succ_of_ne_zero hsome.2
      have hspaces : ∀ c ∈ List.replicate (n + 1) ' ' ++ ['x'], foldChar c ∉ nameStarts := by
        refine List.forall_mem_append.mpr ⟨fun c hc => ?_, by decide⟩
        rw [List.eq_of_mem_replicate hc]
        decide
      have hstop : (List.replicate (n + 1) ' ' ++ ['x']).dropWhile isValueChar =
          List.replicate (n + 1) ' ' ++ ['x'] :=
        List.dropWhile_cons_of_neg (by decide)
      have hbare : a.written ['x'] = ['x'] := by
        rw [written, hquoted]
        rfl
      rw [hbare, hn, htwo.mp hsome.1,
        replaceAfter_credential_lead rfl (a.isLead_lead hsign 0) (List.cons_ne_nil '=' [])
          (by decide), hstop, replaceAfter_credential_eq_self hspaces]
      refine List.mem_append_right _ (List.mem_append_right _ (List.mem_append_right _ ?_))
      exact List.mem_cons_self

/-- Redaction brings no small letters into a text. -/
theorem not_mem_redactChars : 'x' ∉ redactChars (a.text ['y']) := by
  have hstars : 'x' ∉ placeholderChars := by decide
  have hcover : ∀ old new, Masks IsPlaceholder old new → 'x' ∉ old → 'x' ∉ new := by
    intro old new hmasks hold hnew
    rcases hmasks.mem hnew with hmem | ⟨block, hblock, hmem⟩
    · exact hold hmem
    · exact hstars (hblock.mem_placeholderChars hmem)
  have htext : 'x' ∉ a.text ['y'] := fun hmem =>
    absurd (a.forall_mem_text ['y'] 'x' hmem) (by decide)
  unfold redactChars
  exact foldl_rules_induction (P := fun cs => 'x' ∉ cs) hcover (List.Subset.refl rules) htext

end Assignment

theorem ClaimsNext.ne_nil {w : List Char} (hw : ClaimsNext w) : w ≠ [] := by
  cases hw <;> simp

theorem isPlain_nil : IsPlain [] :=
  fun _ hw hinside => hw.ne_nil (List.infix_nil.mp hinside)

/-- Values that are assigned to a credential behind a plain text make no difference after
redaction exactly when the assignment is one that hides them. -/
theorem redact_alike_iff_hides (a : Assignment) :
    (∀ p s v₁ v₂ : List Char, EndsIn assignmentEnds p → IsPlain p →
      BeginsIn assignmentBegins s → IsValue v₁ → IsValue v₂ →
        redact (String.ofList (p ++ a.text v₁ ++ s)) =
          redact (String.ofList (p ++ a.text v₂ ++ s))) ↔ a.Hides := by
  have hredact (cs : List Char) : redact (String.ofList cs) = String.ofList (redactChars cs) := by
    rw [redact, String.toList_ofList]
  constructor
  · intro halike
    by_contra hshows
    have hsame := halike [] [] ['x'] ['y'] nofun isPlain_nil nofun
      ⟨by decide, by decide, by decide⟩ ⟨by decide, by decide, by decide⟩
    rw [List.nil_append, List.nil_append, List.append_nil, List.append_nil, hredact,
      hredact] at hsame
    have hchars := congrArg String.toList hsame
    rw [String.toList_ofList, String.toList_ofList] at hchars
    have hleak := a.mem_redactChars_of_not_hides hshows
    rw [hchars] at hleak
    exact a.not_mem_redactChars hleak
  · intro hhides p s v₁ v₂ hends hplain hbegins hv₁ hv₂
    obtain ⟨front, hfront, htext⟩ := a.exists_isFront hhides
    rw [hredact, hredact, htext, htext, List.append_assoc p, List.append_assoc p,
      redactChars_alike_of_isFront hfront hends hplain hbegins hv₁ hv₂]

/-- The second sign is taken for the value, and the value in quotes is shown. -/
theorem redact_shows_quoted_value :
    redact "password == \"hunter2\"" ≠ redact "password == \"hunter3\"" := by
  decide +kernel

end TraceCheck.Redaction
