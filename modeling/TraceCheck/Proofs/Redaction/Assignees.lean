import Mathlib.Data.List.Chain
import TraceCheck.Proofs.Redaction.Secrets

/-!
# Bearer tokens and assigned credentials

Bearer tokens and assigned credentials begin where a word begins, and they end where
their last run of characters does.  The name of a credential holds no other one, so
nothing begins between a name and its value.
-/

namespace TraceCheck.Redaction

open TraceCheck.Text TraceCheck.Unicode

variable {before : Option Char} {cs : List Char} {n : Nat}

/-! ## Bearer tokens -/

theorem isBlank_of_isBearerChar {c : Char} (hc : isBearerChar c = true) : isBlank c = false := by
  simp only [isBearerChar, isFoldedLetter, Bool.or_eq_true, beq_iff_eq] at hc
  have halnum : c.isAlphanum = true → isBlank c = false := fun hc =>
    (Bool.not_eq_true' _).mp (of_isAlphanum (p := fun c => !isBlank c) (by decide) hc)
  rcases hc with (((((((hletter | hdigit) | rfl) | rfl) | rfl) | rfl) | rfl) | rfl) | rfl
  · rcases hletter with (hletter | rfl) | rfl
    · exact halnum ((Bool.or_eq_true _ _).mpr (.inl hletter))
    all_goals decide
  · exact halnum ((Bool.or_eq_true _ _).mpr (.inr hdigit))
  all_goals decide

/-- The shortest form of a bearer token with its word. -/
def IsBearerToken (w : List Char) : Prop :=
  ∃ written blanks value : List Char, written.map foldChar = "bearer".toList ∧ blanks ≠ [] ∧
    (∀ c ∈ blanks, isBlank c = true) ∧ value.length = 8 ∧
      (∀ c ∈ value, isBearerChar c = true) ∧ w = written ++ (blanks ++ value)

theorem IsBearerToken.star_not_mem {w : List Char} (hw : IsBearerToken w) : '*' ∉ w := by
  obtain ⟨written, blanks, value, hfold, -, hblanks, -, hvalue, rfl⟩ := hw
  have hword : '*' ∉ written := not_mem_of_map_foldChar hfold (by decide)
  have hblank : '*' ∉ blanks := fun hmem => absurd (hblanks '*' hmem) (by decide)
  have hbearer : '*' ∉ value := fun hmem => absurd (hvalue '*' hmem) (by decide)
  exact List.not_mem_append hword (List.not_mem_append hblank hbearer)

theorem bearerToken_eq_hit_iff : bearerToken before cs = .hit n ↔ startsWord before = true ∧
    ∃ written blanks value rest : List Char, written.map foldChar = "bearer".toList ∧
      blanks ≠ [] ∧ (∀ c ∈ blanks, isBlank c = true) ∧ 8 ≤ value.length ∧
        (∀ c ∈ value, isBearerChar c = true) ∧ (∀ c ∈ rest.head?, isBearerChar c = false) ∧
          cs = written ++ (blanks ++ (value ++ rest)) ∧
            n = (written ++ (blanks ++ value)).length := by
  unfold bearerToken
  rw [Remainder.probe_eq_hit_iff]
  constructor
  · rintro ⟨r, hr, rfl⟩
    obtain ⟨r₁, hword, hr₁⟩ := Option.bind_eq_some_iff.mp hr
    obtain ⟨r₂, hblanks, hr₂⟩ := Option.bind_eq_some_iff.mp hr₁
    obtain ⟨r₃, hvalue, hr₃⟩ := Option.bind_eq_some_iff.mp hr₂
    obtain ⟨hstart, hr₃⟩ := Option.ite_none_right_eq_some.mp hr₃
    injection hr₃ with hr₃
    subst hr₃
    obtain ⟨written, hsplit, hfold, hpassed⟩ := Remainder.afterFolded?_eq_some_iff.mp hword
    obtain ⟨blanks, hsplit₁, hall, -, hone, hpassed₁⟩ :=
      Remainder.afterRun?_eq_some_iff_append.mp hblanks
    obtain ⟨value, hsplit₂, hall₂, hstop, height, hpassed₂⟩ :=
      Remainder.afterRun?_eq_some_iff_append.mp hvalue
    refine ⟨hstart, written, blanks, value, r₃.rest, hfold, List.length_pos_iff.mp hone, hall,
      height, hall₂, hstop, ?_, ?_⟩
    · rw [← hsplit₂, ← hsplit₁, ← hsplit]
      rfl
    · rw [hpassed₂, hpassed₁, hpassed]
      simp only [Remainder.whole, List.length_append]
      omega
  · rintro ⟨hstart, written, blanks, value, rest, hfold, hne, hall, height, hall₂, hstop, rfl, rfl⟩
    have hblank : ∀ c ∈ (value ++ rest).head?, isBlank c = false := by
      obtain ⟨c, value, rfl⟩ := List.exists_cons_of_length_pos (Nat.lt_of_lt_of_le (by decide) height)
      rintro d ⟨⟩
      exact isBlank_of_isBearerChar (hall₂ c List.mem_cons_self)
    have hword : (Remainder.whole (written ++ (blanks ++ (value ++ rest)))).afterFolded? foldChar
        "bearer".toList = some ⟨written.length, blanks ++ (value ++ rest)⟩ :=
      Remainder.afterFolded?_eq_some_iff.mpr ⟨written, rfl, hfold, (Nat.zero_add _).symm⟩
    have hblanks : (Remainder.mk written.length (blanks ++ (value ++ rest))).afterRun? isBlank 1 =
        some ⟨written.length + blanks.length, value ++ rest⟩ :=
      Remainder.afterRun?_eq_some_iff_append.mpr
        ⟨blanks, rfl, hall, hblank, List.length_pos_iff.mpr hne, rfl⟩
    have hvalue : (Remainder.mk (written.length + blanks.length) (value ++ rest)).afterRun?
        isBearerChar 8 = some ⟨written.length + blanks.length + value.length, rest⟩ :=
      Remainder.afterRun?_eq_some_iff_append.mpr ⟨value, rfl, hall₂, hstop, height, rfl⟩
    refine ⟨⟨written.length + blanks.length + value.length, rest⟩, ?_, ?_⟩
    · rw [hword, Option.bind_eq_bind, Option.bind_some, hblanks]
      dsimp only [Option.bind_eq_bind, Option.bind_some]
      rw [hvalue, Option.bind_some, if_pos hstart]
    · simp only [List.length_append, Nat.add_assoc]

/-- A bearer token is found where its shortest form stands at the start of a word. -/
theorem exists_hit_bearerToken_iff : (∃ n, bearerToken before cs = .hit n) ↔
    startsWord before = true ∧ ∃ w, IsBearerToken w ∧ w <+: cs := by
  constructor
  · rintro ⟨n, hhit⟩
    obtain ⟨hstart, written, blanks, value, rest, hfold, hne, hall, height, hall₂, -, rfl, -⟩ :=
      bearerToken_eq_hit_iff.mp hhit
    refine ⟨hstart, written ++ (blanks ++ value.take 8), ⟨written, blanks, value.take 8, hfold,
      hne, hall, List.length_take_of_le height, fun c hc => hall₂ c (List.mem_of_mem_take hc),
      rfl⟩, value.drop 8 ++ rest, ?_⟩
    rw [List.append_assoc, List.append_assoc, ← List.append_assoc (value.take 8),
      List.take_append_drop]
  · rintro ⟨hstart, w, ⟨written, blanks, value, hfold, hne, hall, height, hall₂, rfl⟩, rest, rfl⟩
    obtain ⟨hsplit, hrun, hstop⟩ := eq_run_append isBearerChar rest
    refine ⟨_, bearerToken_eq_hit_iff.mpr ⟨hstart, written, blanks,
      value ++ rest.takeWhile isBearerChar, rest.dropWhile isBearerChar, hfold, hne, hall, ?_, ?_,
      hstop, ?_, rfl⟩⟩
    · rw [List.length_append, height]
      exact Nat.le_add_right 8 _
    · exact List.forall_mem_append.mpr ⟨hall₂, hrun⟩
    · rw [List.append_assoc, List.append_assoc, List.append_assoc, ← hsplit]

theorem bearerToken_isHonest : bearerToken.IsHonest := by
  refine .of_not_hit (fun hhit => ?_) bearerToken_of_not_hit
  obtain ⟨-, written, blanks, value, rest, -, hne, -, -, -, -, rfl, rfl⟩ :=
      bearerToken_eq_hit_iff.mp hhit
  have hpos := List.length_pos_iff.mpr hne
  simp only [List.length_append]
  omega

/-! ## Assigned credentials -/

/-- The name of a credential and the sign that assigns it, with the blanks around the sign. -/
def IsAssignment (lead : List Char) : Prop :=
  ∃ name ∈ credentialNames, ∃ written blanks behind : List Char, ∃ sign ∈ ['=', ':'],
    written.map foldChar = name.toList ∧ (∀ c ∈ blanks, isBlank c = true) ∧
      (∀ c ∈ behind, isBlank c = true) ∧ lead = written ++ (blanks ++ sign :: behind)

/-- No name of a credential is the start of another one. -/
theorem findSome?_credentialNames_eq_some_iff {r r' : Remainder} :
    (credentialNames.findSome? fun name => r.afterFolded? foldChar name.toList) = some r' ↔
      ∃ name ∈ credentialNames, r.afterFolded? foldChar name.toList = some r' := by
  have hnames : ∀ name ∈ credentialNames, ∀ name' ∈ credentialNames,
      name.toList <+: name'.toList → name.toList = name'.toList := by
    decide
  constructor
  · intro h
    exact List.exists_of_findSome?_eq_some h
  · rintro ⟨name, hname, h⟩
    obtain ⟨r'', hr''⟩ : ∃ r'', (credentialNames.findSome? fun name =>
        r.afterFolded? foldChar name.toList) = some r'' := by
      refine Option.isSome_iff_exists.mp (List.findSome?_isSome_iff.mpr ⟨name, hname, ?_⟩)
      exact Option.isSome_iff_exists.mpr ⟨r', h⟩
    obtain ⟨name'', hname'', h''⟩ := List.exists_of_findSome?_eq_some hr''
    have hsame : name.toList = name''.toList := by
      obtain ⟨written, hsplit, hfold, -⟩ := Remainder.afterFolded?_eq_some_iff.mp h
      obtain ⟨written'', hsplit'', hfold'', -⟩ := Remainder.afterFolded?_eq_some_iff.mp h''
      rcases List.prefix_or_prefix_of_prefix (hsplit ▸ List.prefix_append written r'.rest)
        (hsplit'' ▸ List.prefix_append written'' r''.rest) with hle | hle
      · exact hnames name hname name'' hname'' (hfold ▸ hfold'' ▸ hle.map foldChar)
      · exact (hnames name'' hname'' name hname (hfold ▸ hfold'' ▸ hle.map foldChar)).symm
    rw [hr'', ← h'', ← hsame, h]

theorem afterAssignment?_eq_some_iff {r : Remainder} :
    afterAssignment? (.whole cs) = some r ↔ ∃ lead, IsAssignment lead ∧ cs = lead ++ r.rest ∧
      (∀ c ∈ r.rest.head?, isBlank c = false) ∧ r.passed = lead.length := by
  unfold afterAssignment?
  rw [Option.bind_eq_bind, Option.bind_eq_some_iff]
  simp only [findSome?_credentialNames_eq_some_iff, Remainder.afterFolded?_eq_some_iff]
  constructor
  · rintro ⟨r₁, ⟨name, hname, written, hsplit, hfold, hpassed⟩, hsign⟩
    cases hblanks : r₁.afterWhile isBlank with
    | mk passed rest =>
        rw [hblanks] at hsign
        obtain ⟨blanks, hsplit₁, hall, -, hpassed₁⟩ := Remainder.afterWhile_eq_iff.mp hblanks
        cases rest with
        | nil => cases hsign
        | cons sign rest =>
            obtain ⟨hsign, hr⟩ := Option.ite_none_right_eq_some.mp hsign
            injection hr with hr
            obtain ⟨behind, hsplit₂, hall₂, hstop, hpassed₂⟩ := Remainder.afterWhile_eq_iff.mp hr
            refine ⟨_, ⟨name, hname, written, blanks, behind, sign, by simpa using hsign, hfold,
              hall, hall₂, rfl⟩, ?_, hstop, ?_⟩
            · change cs = _ at hsplit
              dsimp only at hsplit₁ hsplit₂
              rw [hsplit, hsplit₁, hsplit₂]
              simp only [List.append_assoc, List.cons_append]
            · dsimp only at hpassed₁ hpassed₂
              change r₁.passed = 0 + written.length at hpassed
              rw [hpassed₂, hpassed₁, hpassed]
              simp only [List.length_append, List.length_cons]
              omega
  · rintro ⟨lead, ⟨name, hname, written, blanks, behind, sign, hsign, hfold, hall, hall₂, rfl⟩,
      hsplit, hstop, hpassed⟩
    have hsignblank : ∀ c ∈ ['=', ':'], isBlank c = false := by decide
    let rest := blanks ++ (sign :: (behind ++ r.rest))
    have hblanks : (Remainder.mk written.length rest).afterWhile isBlank =
        ⟨written.length + blanks.length, sign :: (behind ++ r.rest)⟩ := by
      refine Remainder.afterWhile_eq_iff.mpr ⟨blanks, rfl, hall, ?_, rfl⟩
      rintro c ⟨⟩
      exact hsignblank sign hsign
    have hbehind : (Remainder.mk (written.length + blanks.length + 1)
        (behind ++ r.rest)).afterWhile isBlank = r := by
      refine Remainder.afterWhile_eq_iff.mpr ⟨behind, rfl, hall₂, hstop, ?_⟩
      rw [hpassed]
      simp only [List.length_append, List.length_cons]
      omega
    refine ⟨⟨written.length, rest⟩, ⟨name, hname, written, ?_, hfold, (Nat.zero_add _).symm⟩, ?_⟩
    · change cs = _
      rw [hsplit]
      simp only [rest, List.append_assoc, List.cons_append]
    · rw [hblanks]
      dsimp only
      rw [if_pos (by simpa using hsign), hbehind]

/-- A credential is found where its name stands at the start of a word, up to the end of its
value. -/
theorem credential_eq_hit_iff : credential before cs = .hit n ↔ startsWord before = true ∧
    ∃ lead value rest : List Char, IsAssignment lead ∧ value ≠ [] ∧
      (∀ c ∈ value, isValueChar c = true) ∧ (∀ c ∈ rest.head?, isValueChar c = false) ∧
        cs = lead ++ (value ++ rest) ∧ n = (lead ++ value).length := by
  unfold credential
  rw [Remainder.probe_eq_hit_iff]
  constructor
  · rintro ⟨r, hr, rfl⟩
    obtain ⟨r₁, hassign, hr₁⟩ := Option.bind_eq_some_iff.mp hr
    obtain ⟨r₂, hvalue, hr₂⟩ := Option.bind_eq_some_iff.mp hr₁
    obtain ⟨hstart, hr₂⟩ := Option.ite_none_right_eq_some.mp hr₂
    injection hr₂ with hr₂
    subst hr₂
    obtain ⟨lead, hlead, hsplit, -, hpassed⟩ := afterAssignment?_eq_some_iff.mp hassign
    obtain ⟨value, hsplit₁, hall, hstop, hone, hpassed₁⟩ :=
      Remainder.afterRun?_eq_some_iff_append.mp hvalue
    refine ⟨hstart, lead, value, r₂.rest, hlead, List.length_pos_iff.mp hone, hall, hstop, ?_, ?_⟩
    · rw [hsplit, hsplit₁]
    · rw [hpassed₁, hpassed, List.length_append]
  · rintro ⟨hstart, lead, value, rest, hlead, hne, hall, hstop, rfl, rfl⟩
    have hblank : ∀ c ∈ (value ++ rest).head?, isBlank c = false := by
      obtain ⟨c, value, rfl⟩ := List.exists_cons_of_ne_nil hne
      rintro d ⟨⟩
      exact isBlank_of_isValueChar (hall c List.mem_cons_self)
    have hassign : afterAssignment? (.whole (lead ++ (value ++ rest))) =
        some ⟨lead.length, value ++ rest⟩ :=
      afterAssignment?_eq_some_iff.mpr ⟨lead, hlead, rfl, hblank, rfl⟩
    have hvalue : (Remainder.mk lead.length (value ++ rest)).afterRun? isValueChar 1 =
        some ⟨lead.length + value.length, rest⟩ :=
      Remainder.afterRun?_eq_some_iff_append.mpr
        ⟨value, rfl, hall, hstop, List.length_pos_iff.mpr hne, rfl⟩
    refine ⟨⟨lead.length + value.length, rest⟩, ?_, List.length_append.symm⟩
    rw [hassign, Option.bind_eq_bind, Option.bind_some, hvalue, Option.bind_some, if_pos hstart]

theorem credential_isHonest : credential.IsHonest := by
  refine .of_not_hit (fun hhit => ?_) credential_of_not_hit
  obtain ⟨-, lead, value, rest, -, hne, -, -, rfl, rfl⟩ := credential_eq_hit_iff.mp hhit
  have hpos := List.length_pos_iff.mpr hne
  simp only [List.length_append]
  omega

/-- A character that folds to a letter is one of those that do. -/
theorem isFoldedLetter_of_foldChar {c : Char} (hc : (foldChar c).isAlpha = true) :
    isFoldedLetter c = true := by
  unfold isFoldedLetter
  by_cases hlong : c = '\u017f'
  · rw [hlong]
    decide
  by_cases hkelvin : c = '\u212a'
  · rw [hkelvin]
    decide
  rw [foldChar, if_neg hlong, if_neg hkelvin] at hc
  have hletter : c.isAlpha = true := by
    by_cases hcapital : c.val ≥ 'A'.val ∧ c.val ≤ 'Z'.val
    · exact (Bool.or_eq_true _ _).mpr (.inl (decide_eq_true hcapital))
    · have hsame : c.toLower = c := dif_neg hcapital
      rwa [hsame] at hc
  rw [hletter, Bool.true_or, Bool.true_or]

namespace IsAssignment

variable {lead : List Char}

/-- An assignment is read in one way. -/
theorem eq_of_append (h : IsAssignment lead) {lead' rest rest' : List Char}
    (h' : IsAssignment lead') (hrest : ∀ c ∈ rest.head?, isBlank c = false)
    (hrest' : ∀ c ∈ rest'.head?, isBlank c = false) (heq : lead ++ rest = lead' ++ rest') :
    lead = lead' ∧ rest = rest' := by
  have hread : afterAssignment? (.whole (lead ++ rest)) = some ⟨lead.length, rest⟩ :=
    afterAssignment?_eq_some_iff.mpr ⟨lead, h, rfl, hrest, rfl⟩
  have hread' : afterAssignment? (.whole (lead ++ rest)) = some ⟨lead'.length, rest'⟩ :=
    afterAssignment?_eq_some_iff.mpr ⟨lead', h', heq, hrest', rfl⟩
  rw [hread] at hread'
  injection hread' with hsame
  injection hsame with hlength hsame
  exact ⟨List.append_inj_left heq hlength, hsame⟩

/-- What stands behind the name of a credential is blank or a sign. -/
theorem exists_name (h : IsAssignment lead) : ∃ name ∈ credentialNames, ∃ written behind,
    written.map foldChar = name.toList ∧ lead = written ++ behind ∧ behind ≠ [] ∧
      ∀ c ∈ behind, isBlank c = true ∨ c ∈ ['=', ':'] := by
  obtain ⟨name, hname, written, blanks, behind, sign, hsign, hfold, hblanks, hbehind, rfl⟩ := h
  refine ⟨name, hname, written, _, hfold, rfl, by simp, ?_⟩
  refine List.forall_mem_append.mpr ⟨fun c hc => .inl (hblanks c hc), ?_⟩
  exact List.forall_mem_cons.mpr ⟨.inr hsign, fun c hc => .inl (hbehind c hc)⟩

theorem star_not_mem (h : IsAssignment lead) : '*' ∉ lead := by
  obtain ⟨name, hname, written, behind, hfold, rfl, -, hbehind⟩ := h.exists_name
  have hother : ∀ name ∈ credentialNames, foldChar '*' ∉ name.toList := by decide
  have hstar : ¬ (isBlank '*' = true ∨ '*' ∈ ['=', ':']) := by decide
  exact List.not_mem_append (not_mem_of_map_foldChar hfold (hother name hname))
    fun hmem => hstar (hbehind '*' hmem)

theorem isAlphanum_of_getLast? (h : IsAssignment lead) :
    ∃ c, lead.getLast? = some c ∧ c.isAlphanum = false := by
  obtain ⟨name, -, written, behind, -, rfl, hne, hbehind⟩ := h.exists_name
  obtain ⟨c, hc⟩ := Option.isSome_iff_exists.mp (List.getLast?_isSome.mpr hne)
  refine ⟨c, ?_, ?_⟩
  · rw [List.getLast?_append, hc]
    rfl
  · have hsigns : ∀ c ∈ ['=', ':'], c.isAlphanum = false := by decide
    rcases hbehind c (List.mem_of_getLast? hc) with hblank | hsign
    · refine (Bool.not_eq_true _).mp fun halnum => ?_
      have hother := of_isAlphanum (p := fun c => !isBlank c) (by decide) halnum
      rw [hblank] at hother
      cases hother
    · exact hsigns c hsign

/-- The first letter of a name. -/
theorem exists_head (h : IsAssignment lead) : ∃ c t, lead = c :: t ∧ foldChar c ∈ nameStarts := by
  obtain ⟨name, hname, written, behind, hfold, rfl, -, -⟩ := h.exists_name
  have hstarts : ∀ name ∈ credentialNames, name.toList.head?.any (· ∈ nameStarts) = true := by
    decide
  have hstart := hstarts name hname
  rw [← hfold] at hstart
  cases written with
  | nil => cases hstart
  | cons c written => exact ⟨c, written ++ behind, rfl, of_decide_eq_true hstart⟩

/-- No name of a credential begins inside an assignment at the start of a word. -/
theorem not_mem_nameStarts (h : IsAssignment lead) {x y : List Char} {c d : Char}
    (hsplit : lead = x ++ c :: d :: y) (hword : startsWord (some c) = true) :
    foldChar d ∉ nameStarts := by
  obtain ⟨name, hname, written, behind, hfold, rfl, -, hbehind⟩ := h.exists_name
  -- In a name every letter that could begin a name stands behind a letter.
  have hnames : ∀ name ∈ credentialNames,
      name.toList.IsChain fun a b => b ∈ nameStarts → a.isAlpha = true := by
    decide
  have hother (hd : d ∈ behind) : foldChar d ∉ nameStarts := by
    have hsigns : ∀ c ∈ ['=', ':'], foldChar c ∉ nameStarts := by decide
    rcases hbehind d hd with hblank | hsign
    · refine not_mem_nameStarts_of_not_isValueChar ?_
      rw [isValueChar, hblank]
      rfl
    · exact hsigns d hsign
  rcases List.append_eq_append_iff.mp hsplit with ⟨t, -, rfl⟩ | ⟨t, rfl, ht⟩
  · exact hother (List.mem_append_right t (List.mem_cons_of_mem c List.mem_cons_self))
  · rcases t with _ | ⟨c', _ | ⟨d', t⟩⟩
    · rw [List.nil_append] at ht
      exact hother (ht ▸ List.mem_cons_of_mem c List.mem_cons_self)
    · injection ht with _ ht
      change d :: y = behind at ht
      exact hother (ht ▸ List.mem_cons_self)
    · injection ht with hc ht
      injection ht with hd ht
      subst hc hd
      have hchain := hnames name hname
      rw [← hfold, List.map_append, List.map_cons, List.map_cons,
        List.isChain_append_cons_cons] at hchain
      intro hmem
      have hletter := isWord_of_isFoldedLetter (isFoldedLetter_of_foldChar (hchain.2.1 hmem))
      change (!isWord c) = true at hword
      rw [hletter] at hword
      cases hword

end IsAssignment

end TraceCheck.Redaction
