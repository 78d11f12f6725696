import TraceCheck.Proofs.Redaction.Assignments
import TraceCheck.Proofs.Redaction.Keys
import TraceCheck.Proofs.Redaction.Spans

/-!
# Hidden values

A bare value that is assigned to a credential behind a plain text leaves no trace.  The
first rules pass the assignment as a whole or stop in front of it, the value may become
the placeholder of a cloud key, and the rule for credentials covers either.
-/

namespace TraceCheck.Redaction

open TraceCheck.Text TraceCheck.Unicode

/-- A value: letters and digits, and not the word that bearer tokens follow. -/
structure IsValue (v : List Char) : Prop where
  ne_nil : v ≠ []
  alnum : ∀ c ∈ v, c.isAlphanum = true
  other : v.map foldChar ≠ "bearer".toList

/-- The characters of an assignment in front of its value. -/
def frontChars : List Char :=
  ['p', 'a', 's', 'w', 'o', 'r', 'd', 'c', 'e', 't', 'k', 'n', 'i', 'y', '_', ' ', '=', ':']

/-- The front of an assignment whose second sign, if there is one, stands next to the
value. -/
def IsFront (front : List Char) : Prop :=
  ∃ lead, IsLead lead ∧ ∃ more ∈ [[], ['=']], front = lead ++ more

variable {lead front v k u w : List Char} {c : Char}

/-! ## Characters of an assignment -/

theorem IsLead.exists_name (h : IsLead lead) : ∃ name ∈ assignedNames, ∃ rest,
    lead = name.toList ++ rest ∧ ∀ c ∈ rest, c ∈ [' ', '=', ':'] := by
  obtain ⟨name, hname, m, n, sign, hsign, rfl⟩ := h
  have hspaces (n : Nat) : ∀ c ∈ List.replicate n ' ', c ∈ [' ', '=', ':'] := by
    intro c hc
    rw [List.eq_of_mem_replicate hc]
    exact List.mem_cons_self
  refine ⟨name, hname, _, rfl, List.forall_mem_append.mpr ⟨hspaces m, ?_⟩⟩
  exact List.forall_mem_cons.mpr ⟨List.mem_cons_of_mem ' ' hsign, hspaces n⟩

theorem IsFront.exists_name (h : IsFront front) : ∃ name ∈ assignedNames, ∃ rest,
    front = name.toList ++ rest ∧ ∀ c ∈ rest, c ∈ [' ', '=', ':'] := by
  obtain ⟨lead, hlead, more, hmore, rfl⟩ := h
  obtain ⟨name, hname, rest, rfl, hrest⟩ := hlead.exists_name
  have hsigns : ∀ more ∈ [[], ['=']], ∀ c ∈ more, c ∈ [' ', '=', ':'] := by decide
  refine ⟨name, hname, rest ++ more, List.append_assoc _ _ _, ?_⟩
  exact List.forall_mem_append.mpr ⟨hrest, hsigns more hmore⟩

theorem IsFront.mem_frontChars (h : IsFront front) : ∀ c ∈ front, c ∈ frontChars := by
  obtain ⟨name, hname, rest, rfl, hrest⟩ := h.exists_name
  have hletters : ∀ name ∈ assignedNames, ∀ c ∈ name.toList, c ∈ frontChars := by decide
  have hsigns : ∀ c ∈ [' ', '=', ':'], c ∈ frontChars := by decide
  exact List.forall_mem_append.mpr ⟨hletters name hname, fun c hc => hsigns c (hrest c hc)⟩

/-- An assignment begins with a letter. -/
theorem IsFront.head? (h : IsFront front) (z : List Char) :
    ∀ c ∈ (front ++ z).head?, isBlank c = false ∧ c ∉ ['=', ':'] := by
  obtain ⟨name, hname, rest, rfl, -⟩ := h.exists_name
  have hstarts : ∀ name ∈ assignedNames, ∃ c ∈ nameStarts, name.toList.head? = some c := by decide
  have hletters : ∀ c ∈ nameStarts, isBlank c = false ∧ c ∉ ['=', ':'] := by decide
  obtain ⟨d, hd, hstart⟩ := hstarts name hname
  intro c hc
  rw [List.append_assoc, List.head?_append, hstart] at hc
  obtain rfl : d = c := Option.some.inj hc
  exact hletters d hd

theorem not_mem_block {d : Char} (hfront : d ∉ frontChars) (hd : d.isAlphanum = false)
    (hk : IsFront front) (hv : ∀ c ∈ v, c.isAlphanum = true) : d ∉ front ++ v := by
  refine List.not_mem_append (fun hmem => hfront (hk.mem_frontChars d hmem)) fun hmem => ?_
  rw [hv d hmem] at hd
  cases hd

/-- Only one of the names has an underscore, and no service key begins there. -/
theorem not_infix_block (hk : IsFront front) {t : List Char} (ht : '_' ∉ t) :
    ¬ ['k', '_'] <:+: front ++ t := by
  obtain ⟨name, hname, rest, rfl, hrest⟩ := hk.exists_name
  have hnames : ∀ name ∈ assignedNames, ¬ ['k', '_'] <:+: name.toList := by decide
  have hbehind : '_' ∉ rest ++ t := by
    have hsigns : '_' ∉ [' ', '=', ':'] := by decide
    exact List.not_mem_append (fun hmem => hsigns (hrest '_' hmem)) ht
  rw [List.append_assoc]
  intro hinside
  rcases List.infix_append_iff.mp hinside with hleft | hright | ⟨l₁, l₂, heq, hsuffix, hstarts⟩
  · exact hnames name hname hleft
  · exact hbehind (hright.subset (by decide))
  · cases hl₂ : l₂.getLast? with
    | none =>
        rw [List.getLast?_eq_none_iff.mp hl₂, List.append_nil] at heq
        exact hnames name hname (heq ▸ hsuffix.isInfix)
    | some d =>
        have hlast := congrArg List.getLast? heq
        rw [List.getLast?_append, hl₂] at hlast
        obtain rfl : '_' = d := Option.some.inj hlast
        exact hbehind (hstarts.subset (List.mem_of_getLast? hl₂))

/-! ## The rules in front -/

/-- Two texts with a value each, assigned to the same credential behind a plain text. -/
abbrev DifferInValue (front v₁ v₂ t₁ t₂ : List Char) : Prop :=
  DifferIn assignmentEnds assignmentBegins IsPlain (front ++ v₁) (front ++ v₂) t₁ t₂

variable {v₁ v₂ t₁ t₂ : List Char}

theorem IsPlain.concat_of_masks (u U : List Char) (c : Char) (h : Masks IsPlaceholder u U)
    (hu : IsPlain (u ++ [c])) : IsPlain (U ++ [c]) :=
  hu.of_masks (h.append (Masks.refl [c]))

theorem forall_mem_blocks {P : List Char → Prop} (h : ∀ v, IsValue v → P (front ++ v))
    (hv₁ : IsValue v₁) (hv₂ : IsValue v₂) : ∀ k ∈ [front ++ v₁, front ++ v₂], P k :=
  List.forall_mem_cons.mpr ⟨h v₁ hv₁, List.forall_mem_singleton.mpr (h v₂ hv₂)⟩

theorem IsFront.barsKeyLines (hk : IsFront front) (hv : IsValue v) (hc : c ∈ assignmentEnds) :
    BarsKeyLines (c :: (front ++ v)) := by
  have hends : ∀ c ∈ assignmentEnds, '-' ≠ c := by decide
  refine ⟨List.not_mem_cons_of_ne_of_not_mem (hends c hc)
    (not_mem_block (by decide) (by decide) hk hv.alnum), ?_⟩
  obtain ⟨name, hname, rest, rfl, -⟩ := hk.exists_name
  have hletters : ∀ name ∈ assignedNames, ∃ c ∈ name.toList, isKeyLineChar c = false := by decide
  obtain ⟨d, hd, hforeign⟩ := hletters name hname
  have hmem : d ∈ name.toList ++ rest ++ v := List.mem_append_left v (List.mem_append_left rest hd)
  exact ⟨d, List.mem_cons_of_mem c hmem, hforeign⟩

theorem DifferInValue.privateKey (hk : IsFront front) (hv₁ : IsValue v₁) (hv₂ : IsValue v₂)
    (h : DifferInValue front v₁ v₂ t₁ t₂) :
    DifferInValue front v₁ v₂ (Rule.apply (.whole "PRIVATE_KEY" privateKey) t₁)
      (Rule.apply (.whole "PRIVATE_KEY" privateKey) t₂) := by
  have hneighbours : ∀ d ∈ assignmentEnds ++ assignmentBegins, d ≠ '-' := by decide
  refine h.apply IsPlain.concat_of_masks (fun _ _ _ => rfl) ?_ ?_ ?_
  · refine forall_mem_blocks (fun v hv w _ y hne hsuffix => ?_) hv₁ hv₂
    obtain ⟨d, y, rfl⟩ := List.exists_cons_of_ne_nil hne
    refine ⟨1, Nat.le_add_left 1 _, privateKey_of_ne ?_ none (y ++ w)⟩
    rintro rfl
    exact not_mem_block (by decide) (by decide) hk hv.alnum (hsuffix.subset List.mem_cons_self)
  · exact fun d hd before t => privateKey_of_ne (hneighbours d hd) before t
  · intro u c w hc _ hleft hhead
    exact treatsAlike_of_answersAlike (fun _ _ _ => rfl) (fun _ _ => rfl)
      (covers_whole (by decide) (by decide))
      (fun y hy _ =>
        privateKey_answersAlike (hk.barsKeyLines hv₁ hc) (hk.barsKeyLines hv₂ hc) hy none)
      hleft hhead

theorem DifferInValue.connectionString (hk : IsFront front) (hv₁ : IsValue v₁)
    (hv₂ : IsValue v₂) (h : DifferInValue front v₁ v₂ t₁ t₂) :
    DifferInValue front v₁ v₂ (Rule.apply (.whole "CONNECTION_STRING" connectionString) t₁)
      (Rule.apply (.whole "CONNECTION_STRING" connectionString) t₂) := by
  have hneighbours : ∀ d ∈ assignmentEnds ++ assignmentBegins,
      isLetter d = false ∧ isSchemeChar d = false ∧ d ∉ "://".toList := by
    decide
  refine h.apply IsPlain.concat_of_masks (fun _ _ _ => rfl) ?_ ?_ ?_
  · refine forall_mem_blocks (fun v hv w hw y hne hsuffix => ?_) hv₁ hv₂
    refine connectionString_of_unmarked (fun hmark => ?_)
      (fun d hd => (hneighbours d (List.mem_append_right _ (hw d hd))).2) hne none
    have hslash : '/' ∉ front ++ v := not_mem_block (by decide) (by decide) hk hv.alnum
    exact hslash (hsuffix.subset (hmark.subset (by decide)))
  · exact fun d hd before t => connectionString_of_not_letter (hneighbours d hd).1 before t
  · intro u c w hc hplain hleft hhead
    refine treatsAlike_of_miss (fun _ _ _ => rfl) (fun y hne hsuffix t => ?_) hleft hhead
    refine connectionString_of_unmarked (fun hmark => ?_) ?_ hne none
    · have hfront : y <:+: u ++ [c] := hsuffix.isInfix.trans (List.prefix_append u [c]).isInfix
      exact hplain _ .address (hmark.trans hfront)
    · rintro d ⟨⟩
      exact (hneighbours c (List.mem_append_left _ hc)).2

theorem DifferInValue.signedToken (hk : IsFront front) (hv₁ : IsValue v₁) (hv₂ : IsValue v₂)
    (h : DifferInValue front v₁ v₂ t₁ t₂) :
    DifferInValue front v₁ v₂ (Rule.apply (.whole "JWT" signedToken) t₁)
      (Rule.apply (.whole "JWT" signedToken) t₂) := by
  have hneighbours : ∀ d ∈ assignmentEnds ++ assignmentBegins,
      d ≠ 'e' ∧ isTokenChar d = false ∧ d ≠ '.' := by
    decide
  refine h.apply IsPlain.concat_of_masks (fun _ _ _ => rfl) ?_ ?_ ?_
  · refine forall_mem_blocks (fun v hv w hw y hne hsuffix => ?_) hv₁ hv₂
    refine signedToken_of_pointless (fun hpoint => ?_)
      (fun d hd => (hneighbours d (List.mem_append_right _ (hw d hd))).2) hne none
    exact not_mem_block (by decide) (by decide) hk hv.alnum (hsuffix.subset hpoint)
  · exact fun d hd before t => signedToken_of_ne (hneighbours d hd).1 before t
  · intro u c w hc _ hleft hhead
    refine treatsAlike_of_separates (fun _ _ _ => rfl) (covers_whole (by decide) (by decide))
      (fun k => signedToken_separates ?_ u) hleft hhead
    rintro d ⟨⟩
    exact (hneighbours c (List.mem_append_left _ hc)).2

theorem DifferInValue.apiKey (hk : IsFront front) (hv₁ : IsValue v₁) (hv₂ : IsValue v₂)
    (h : DifferInValue front v₁ v₂ t₁ t₂) :
    DifferInValue front v₁ v₂ (Rule.apply (.whole "API_KEY" apiKey) t₁)
      (Rule.apply (.whole "API_KEY" apiKey) t₂) := by
  have hneighbours : ∀ d ∈ assignmentEnds ++ assignmentBegins, isTokenChar d = false := by decide
  refine h.apply IsPlain.concat_of_masks (fun _ _ _ => rfl) ?_ ?_ ?_
  · refine forall_mem_blocks (fun v hv w hw y hne hsuffix => ?_) hv₁ hv₂
    have hunderscore : '_' ∉ v := fun hmem => absurd (hv.alnum '_' hmem) (by decide)
    refine ⟨1, List.length_pos_iff.mpr hne, apiKey_of_not_infix (fun hinside => ?_)
      (fun d hd => hneighbours d (List.mem_append_right _ (hw d hd))) none⟩
    exact not_infix_block hk hunderscore (hinside.trans hsuffix.isInfix)
  · exact fun d hd before t => apiKey_of_not_token (hneighbours d hd) before t
  · intro u c w hc _ hleft hhead
    refine treatsAlike_of_separates (fun _ _ _ => rfl) (covers_whole (by decide) (by decide))
      (fun k => apiKey_separates ?_ u) hleft hhead
    rintro d ⟨⟩
    exact hneighbours c (List.mem_append_left _ hc)

/-! ## The rules that look at the value -/

/-- A shape that stops at the end of a text treats it apart from what follows. -/
theorem replaceAfter_append_of_ends {shape : Shape} {f : List Char → List Char}
    (hends : EndsIn assignmentEnds u)
    (hseparates : ∀ u' c z, c ∈ assignmentEnds → shape.Separates none u' (c :: z))
    (hstop : ∀ c ∈ assignmentEnds, ∀ before t, shape before (c :: t) = .miss 1)
    (z : List Char) : EndsIn assignmentEnds (shape.replaceAfter f none u) ∧
      shape.replaceAfter f none (u ++ z) =
        shape.replaceAfter f none u ++ shape.replaceAfter f u.getLast? z := by
  rcases List.eq_nil_or_concat u with rfl | ⟨u, c, rfl⟩
  · rw [replaceAfter_nil]
    exact ⟨hends, rfl⟩
  rw [List.concat_eq_append] at hends ⊢
  have hlast : (u ++ [c]).getLast? = some c := by
    rw [List.getLast?_append]
    rfl
  have hc : c ∈ assignmentEnds := hends c hlast
  have hcut (t : List Char) : shape.replaceAfter f none (u ++ c :: t) =
      shape.replaceAfter f none u ++ c :: shape.replaceAfter f (some c) t := by
    rw [replaceAfter_append (hseparates u c t hc), replaceAfter_cons (hstop c hc _ t)]
  have hfront := hcut []
  rw [replaceAfter_nil] at hfront
  rw [hfront, hlast, List.append_assoc, List.singleton_append, hcut z, List.append_assoc]
  refine ⟨fun d hd => ?_, rfl⟩
  rw [List.getLast?_append] at hd
  injection hd with hd
  exact hd ▸ hc

/-- A shape that begins with a character that the front of an assignment does not have. -/
theorem replaceAfter_front {shape : Shape} {f : List Char → List Char} (hk : IsFront front)
    (hmiss : ∀ d ∈ frontChars, ∀ before t, shape before (d :: t) = .miss 1)
    (before : Option Char) (z : List Char) : shape.replaceAfter f before (front ++ z) =
      front ++ shape.replaceAfter f (front.getLast?.or before) z :=
  replaceAfter_append_of_forall_miss (fun d hd => hmiss d (hk.mem_frontChars d hd)) z

/-- The forms of a value in front of the rule for credentials. -/
def shownValues (v : List Char) : List (List Char) := [v, placeholder "AWS_KEY"]

/-- The rule for cloud keys changes the same in front of all values and behind them. -/
theorem apply_cloudKey (hk : IsFront front) (hends : EndsIn assignmentEnds u)
    (hplain : IsPlain u) (hw : BeginsIn assignmentBegins w) :
    ∃ U W, EndsIn assignmentEnds U ∧ IsPlain U ∧ BeginsIn assignmentBegins W ∧
      ∀ v, IsValue v → ∃ shown ∈ shownValues v,
        Rule.apply (.whole "AWS_KEY" cloudKey) (u ++ ((front ++ v) ++ w)) =
          U ++ (front ++ (shown ++ W)) := by
  have hneighbours : ∀ d ∈ assignmentEnds ++ assignmentBegins, d ≠ 'A' ∧ isWord d = false := by
    decide
  have hletters : ∀ d ∈ frontChars, d ≠ 'A' := by decide
  have hcovers : Covers fun _ => placeholder "AWS_KEY" := fun piece =>
    Masks.whole piece (isPlaceholder_placeholder (by decide) (by decide))
  have hstop : ∀ d ∈ w.head?, ∀ before t, cloudKey before (d :: t) = .miss 1 := fun d hd =>
    cloudKey_of_ne (hneighbours d (List.mem_append_right _ (hw d hd))).1
  have hseparates (u' : List Char) (c : Char) (z : List Char) (hc : c ∈ assignmentEnds) :
      cloudKey.Separates none u' (c :: z) := by
    refine cloudKey_separates ?_ u'
    rintro d ⟨⟩
    exact (hneighbours c (List.mem_append_left _ hc)).2
  have hcut (z : List Char) :=
    replaceAfter_append_of_ends (f := fun _ => placeholder "AWS_KEY") hends hseparates
      (fun c hc => cloudKey_of_ne (hneighbours c (List.mem_append_left _ hc)).1) z
  refine ⟨_, cloudKey.replaceAfter (fun _ => placeholder "AWS_KEY") none w, (hcut []).1,
    hplain.of_masks (masks_replaceAfter hcovers none u), fun d hd => hw d ?_, fun v hv => ?_⟩
  · exact head?_replaceAfter (fun d hd => hstop d hd none) ▸ hd
  · obtain ⟨shown, hshown, hvalue⟩ := replaceAfter_cloudKey_value hv.alnum
      (fun d hd => (hneighbours d (List.mem_append_right _ (hw d hd))).2)
      (fun _ => placeholder "AWS_KEY") (front.getLast?.or u.getLast?)
    refine ⟨shown, hshown, ?_⟩
    rw [Rule.apply_eq_replaceAfter, Rule.whole, (hcut _).2, List.append_assoc,
      replaceAfter_front hk (fun d hd => cloudKey_of_ne (hletters d hd)), hvalue,
      replaceAfter_of_stop hstop _ none]

/-- The rule for bearer tokens changes the text behind a value only. -/
theorem apply_bearerToken (hk : IsFront front) (hends : EndsIn assignmentEnds u)
    (hplain : IsPlain u) (hw : BeginsIn assignmentBegins w) :
    ∃ W, BeginsIn assignmentBegins W ∧ ∀ v, IsValue v → ∀ shown ∈ shownValues v,
      Rule.apply (.whole "TOKEN" bearerToken) (u ++ (front ++ (shown ++ w))) =
        u ++ (front ++ (shown ++ W)) := by
  have hneighbours : ∀ d ∈ assignmentBegins, foldChar d ≠ 'b' := by decide
  have hletters : ∀ d ∈ frontChars, foldChar d ≠ 'b' := by decide
  have hcapitals : ∀ d ∈ placeholder "AWS_KEY", foldChar d ≠ 'b' := by decide
  have hstop : ∀ d ∈ w.head?, ∀ before t, bearerToken before (d :: t) = .miss 1 := fun d hd =>
    bearerToken_of_ne (hneighbours d (hw d hd))
  refine ⟨bearerToken.replaceAfter (fun _ => placeholder "TOKEN") none w, fun d hd => hw d ?_,
    fun v hv shown hshown => ?_⟩
  · exact head?_replaceAfter (fun d hd => hstop d hd none) ▸ hd
  · have hvalue (before : Option Char) :
        bearerToken.replaceAfter (fun _ => placeholder "TOKEN") before (shown ++ w) =
          shown ++ bearerToken.replaceAfter (fun _ => placeholder "TOKEN") none w := by
      rw [← replaceAfter_of_stop hstop (shown.getLast?.or before) none]
      rcases List.mem_cons.mp hshown with rfl | hshown
      · exact replaceAfter_bearerToken_value hv.alnum hv.other hw _ before
      · rw [List.mem_singleton.mp hshown]
        exact replaceAfter_append_of_forall_miss
          (fun d hd => bearerToken_of_ne (hcapitals d hd)) w
    rw [Rule.apply_eq_replaceAfter, Rule.whole,
      replaceAfter_isPlain claimsNext_of_bearerToken bearerToken_of_not_hit hplain hends
        (hk.head? _), replaceAfter_front hk (fun d hd => bearerToken_of_ne (hletters d hd)), hvalue]

/-- The rule for credentials covers a value, however it is shown. -/
theorem apply_credential (hk : IsFront front) (hends : EndsIn assignmentEnds u)
    (hplain : IsPlain u) (w : List Char) :
    ∃ hidden, ∀ v, IsValue v → ∀ shown ∈ shownValues v,
      Rule.apply ⟨credential, hideValue⟩ (u ++ (front ++ (shown ++ w))) = hidden := by
  have hstart : startsWord u.getLast? = true := by
    have hall : ∀ c ∈ assignmentEnds, isWord c = false := by decide
    cases hlast : u.getLast? with
    | none => rfl
    | some c =>
        change (!isWord c) = true
        rw [hall c (hends c hlast)]
        rfl
  have hshow {v shown : List Char} (hv : IsValue v) (hshown : shown ∈ shownValues v) :
      shown ≠ [] ∧ ∀ c ∈ shown, isValueChar c = true := by
    rcases List.mem_cons.mp hshown with rfl | hshown
    · exact ⟨hv.ne_nil, fun c hc => of_isAlphanum (by decide) (hv.alnum c hc)⟩
    · rw [List.mem_singleton.mp hshown]
      exact ⟨by decide, by decide⟩
  have hhead := hk.head?
  obtain ⟨lead, hlead, more, hmore, rfl⟩ := hk
  have hsign : ∀ more ∈ [[], ['=']], ∀ c ∈ more, isValueChar c = true := by decide
  refine ⟨u ++ (lead ++ (placeholder "SECRET" ++
    credential.replaceAfter hideValue none (w.dropWhile isValueChar))), fun v hv shown hshown => ?_⟩
  obtain ⟨hne, hchars⟩ := hshow hv hshown
  have hmoreNe : more ++ shown ≠ [] := fun hnil => hne (List.append_eq_nil_iff.mp hnil).2
  rw [Rule.apply_eq_replaceAfter,
    replaceAfter_isPlain claimsNext_of_credential credential_of_not_hit hplain hends (hhead _),
    List.append_assoc, ← List.append_assoc more, Option.or_none,
    replaceAfter_credential_lead hstart hlead hmoreNe
      (List.forall_mem_append.mpr ⟨hsign more hmore, hchars⟩)]

/-- A bare value that is assigned to a credential behind a plain text leaves no trace. -/
theorem redactChars_alike_of_isFront (hk : IsFront front) (hends : EndsIn assignmentEnds u)
    (hplain : IsPlain u) (hw : BeginsIn assignmentBegins w) (hv₁ : IsValue v₁)
    (hv₂ : IsValue v₂) :
    redactChars (u ++ ((front ++ v₁) ++ w)) = redactChars (u ++ ((front ++ v₂) ++ w)) := by
  obtain ⟨later, hrules⟩ : ∃ later, rules = .whole "PRIVATE_KEY" privateKey ::
      .whole "CONNECTION_STRING" connectionString :: .whole "JWT" signedToken ::
      .whole "API_KEY" apiKey :: .whole "AWS_KEY" cloudKey :: .whole "TOKEN" bearerToken ::
      ⟨credential, hideValue⟩ :: later :=
    ⟨_, rfl⟩
  have hstart : DifferInValue front v₁ v₂ (u ++ ((front ++ v₁) ++ w)) (u ++ ((front ++ v₂) ++ w)) :=
    .inr ⟨u, w, hends, hplain, hw, rfl, rfl⟩
  have hdiffer := (((hstart.privateKey hk hv₁ hv₂).connectionString hk hv₁ hv₂).signedToken
    hk hv₁ hv₂).apiKey hk hv₁ hv₂
  unfold redactChars
  rw [hrules]
  simp only [List.foldl_cons]
  rcases hdiffer with hsame | ⟨u', w', hends', hplain', hw', heq₁, heq₂⟩
  · rw [hsame]
  · obtain ⟨U, W, hends, hplain, hw, hcloud⟩ := apply_cloudKey hk hends' hplain' hw'
    obtain ⟨W', -, hbearer⟩ := apply_bearerToken hk hends hplain hw
    obtain ⟨hidden, hcredential⟩ := apply_credential hk hends hplain W'
    obtain ⟨shown₁, hshown₁, hcloud₁⟩ := hcloud v₁ hv₁
    obtain ⟨shown₂, hshown₂, hcloud₂⟩ := hcloud v₂ hv₂
    rw [heq₁, heq₂, hcloud₁, hcloud₂, hbearer v₁ hv₁ shown₁ hshown₁,
      hbearer v₂ hv₂ shown₂ hshown₂, hcredential v₁ hv₁ shown₁ hshown₁,
      hcredential v₂ hv₂ shown₂ hshown₂]

end TraceCheck.Redaction
