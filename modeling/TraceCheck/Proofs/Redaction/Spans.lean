import TraceCheck.Proofs.Redaction.Blocks

/-!
# Shapes that span other text

A private key and a connection string can stretch over a block in a text.  They do so
for every block of the same class of characters, and where they end in front of the
block, they do not depend on it.
-/

namespace TraceCheck.Redaction

open TraceCheck.Text

/-! ## Lines of private keys -/

/-- The characters of the lines around a private key. -/
def isKeyLineChar (c : Char) : Bool :=
  isTitleChar c || c == '-'

/-- A line around a private key, with its word. -/
def IsKeyLine (word : String) (line : List Char) : Prop :=
  ∃ title : List Char, (∀ c ∈ title, isTitleChar c = true) ∧
    title.reverse.take 11 = "PRIVATE KEY".toList.reverse ∧
    line = ("-----" ++ word ++ " ").toList ++ (title ++ "-----".toList)

theorem afterKeyLine?_eq_some_iff {word : String} {r r' : Remainder} :
    afterKeyLine? word r = some r' ↔ ∃ line, IsKeyLine word line ∧
      r.rest = line ++ r'.rest ∧ r'.passed = r.passed + line.length := by
  have hdash : isTitleChar '-' = false := by decide
  have hdashes : ∃ t, "-----".toList = '-' :: t := ⟨"----".toList, by decide⟩
  unfold afterKeyLine? IsKeyLine
  generalize ("-----" ++ word ++ " ").toList = start
  generalize "-----".toList = dashes at hdashes
  obtain ⟨dashes, rfl⟩ := hdashes
  constructor
  · intro h
    obtain ⟨r₁, hstart, h⟩ := Option.bind_eq_some_iff.mp h
    obtain ⟨htitle, h⟩ := Option.ite_none_right_eq_some.mp h
    obtain ⟨hrest₁, hpassed₁⟩ := Remainder.after?_eq_some_iff.mp hstart
    rw [Remainder.afterWhile_eq] at h
    obtain ⟨hrest, hpassed⟩ := Remainder.after?_eq_some_iff.mp h
    refine ⟨_, ⟨_, fun c hc => List.all_eq_true.mp List.all_takeWhile c hc, htitle, rfl⟩, ?_, ?_⟩
    · change r₁.rest.dropWhile isTitleChar = _ at hrest
      rw [hrest₁, List.append_assoc, List.append_assoc, ← hrest, List.takeWhile_append_dropWhile]
    · dsimp only at hpassed
      rw [hpassed, hpassed₁]
      simp only [List.length_append]
      omega
  · rintro ⟨line, ⟨title, htitle, hend, rfl⟩, hrest, hpassed⟩
    have hspan : (title ++ ('-' :: (dashes ++ r'.rest))).takeWhile isTitleChar = title ∧
        (title ++ ('-' :: (dashes ++ r'.rest))).dropWhile isTitleChar =
          '-' :: (dashes ++ r'.rest) := by
      rw [List.takeWhile_append_of_pos htitle, List.dropWhile_append_of_pos htitle,
        List.takeWhile_cons_of_neg (by simp [hdash]), List.dropWhile_cons_of_neg (by simp [hdash]),
        List.append_nil]
      exact ⟨rfl, rfl⟩
    refine Option.bind_eq_some_iff.mpr
      ⟨⟨r.passed + start.length, title ++ ('-' :: (dashes ++ r'.rest))⟩, ?_, ?_⟩
    · refine Remainder.after?_eq_some_iff.mpr ⟨?_, rfl⟩
      rw [hrest]
      simp only [List.append_assoc, List.cons_append]
    · rw [Remainder.afterWhile_eq]
      dsimp only
      rw [hspan.1, if_pos hend, hspan.2]
      refine Remainder.after?_eq_some_iff.mpr ⟨rfl, ?_⟩
      rw [hpassed]
      simp only [List.length_append]
      omega

theorem IsKeyLine.forall_mem {word : String} {line : List Char} (h : IsKeyLine word line)
    (hword : word ∈ ["BEGIN", "END"]) : ∀ c ∈ line, isKeyLineChar c = true := by
  have hstart : ∀ word ∈ ["BEGIN", "END"], ∀ c ∈ ("-----" ++ word ++ " ").toList,
      isKeyLineChar c = true := by
    decide
  have hdashes : ∀ c ∈ "-----".toList, isKeyLineChar c = true := by decide
  obtain ⟨title, htitle, -, rfl⟩ := h
  refine List.forall_mem_append.mpr ⟨hstart word hword, List.forall_mem_append.mpr ⟨?_, hdashes⟩⟩
  intro c hc
  rw [isKeyLineChar, htitle c hc, Bool.true_or]

theorem IsKeyLine.getLast? {word : String} {line : List Char} (h : IsKeyLine word line) :
    line.getLast? = some '-' := by
  obtain ⟨title, -, -, rfl⟩ := h
  have hdashes : "-----".toList.getLast? = some '-' := by decide
  rw [List.getLast?_append, List.getLast?_append, hdashes]
  rfl

theorem IsKeyLine.head? {word : String} {line : List Char} (h : IsKeyLine word line)
    (hword : word ∈ ["BEGIN", "END"]) : line.head? = some '-' := by
  obtain ⟨title, -, -, rfl⟩ := h
  have hstart : ∀ word ∈ ["BEGIN", "END"], ("-----" ++ word ++ " ").toList.head? = some '-' := by
    decide
  rw [List.head?_append, hstart word hword]
  rfl

/-! ## Blocks without key lines -/

/-- A block that key lines neither cross nor end in. -/
structure BarsKeyLines (k : List Char) : Prop where
  dash : '-' ∉ k
  foreign : ∃ c ∈ k, isKeyLineChar c = false

theorem BarsKeyLines.prefix_of_prefix_append {word : String} {line y k w : List Char}
    (hk : BarsKeyLines k) (hword : word ∈ ["BEGIN", "END"]) (hline : IsKeyLine word line)
    (h : line <+: y ++ (k ++ w)) : line <+: y := by
  rcases List.prefix_or_prefix_of_prefix h (List.prefix_append y _) with hy | ⟨s, rfl⟩
  · exact hy
  · cases hs : s.getLast? with
    | none => rw [List.getLast?_eq_none_iff.mp hs, List.append_nil]
    | some d =>
        have hd : d = '-' := by
          have hlast := hline.getLast?
          rw [List.getLast?_append, hs] at hlast
          injection hlast
        have hmem : '-' ∈ s := hd ▸ List.mem_of_getLast? hs
        rw [List.prefix_append_right_inj] at h
        rcases List.prefix_or_prefix_of_prefix h (List.prefix_append k w) with hsk | hks
        · exact absurd (hsk.subset hmem) hk.dash
        · obtain ⟨c, hc, hforeign⟩ := hk.foreign
          have hchar := hline.forall_mem hword c (List.mem_append_right y (hks.subset hc))
          rw [hchar] at hforeign
          cases hforeign

theorem afterKeyLine?_followedBy {word : String} {k : List Char} (hk : BarsKeyLines k)
    (hword : word ∈ ["BEGIN", "END"]) (r : Remainder) (w : List Char) :
    afterKeyLine? word (r.followedBy (k ++ w)) =
      (afterKeyLine? word r).map (·.followedBy (k ++ w)) := by
  cases hr : afterKeyLine? word r with
  | some r' =>
      obtain ⟨line, hline, hrest, hpassed⟩ := afterKeyLine?_eq_some_iff.mp hr
      refine afterKeyLine?_eq_some_iff.mpr ⟨line, hline, ?_, hpassed⟩
      rw [Remainder.followedBy, hrest, List.append_assoc]
      rfl
  | none =>
      refine Option.eq_none_iff_forall_ne_some.mpr fun r' hr' => ?_
      obtain ⟨line, hline, hrest, -⟩ := afterKeyLine?_eq_some_iff.mp hr'
      obtain ⟨rest, hsplit⟩ :=
        hk.prefix_of_prefix_append hword hline (hrest ▸ List.prefix_append line r'.rest)
      have hsome : afterKeyLine? word r = some ⟨r.passed + line.length, rest⟩ :=
        afterKeyLine?_eq_some_iff.mpr ⟨line, hline, hsplit.symm, rfl⟩
      rw [hr] at hsome
      cases hsome

theorem afterKeyLine?_shift (word : String) (n : Nat) (r : Remainder) :
    afterKeyLine? word (r.shift n) = (afterKeyLine? word r).map (·.shift n) := by
  cases hr : afterKeyLine? word r with
  | some r' =>
      obtain ⟨line, hline, hrest, hpassed⟩ := afterKeyLine?_eq_some_iff.mp hr
      refine afterKeyLine?_eq_some_iff.mpr ⟨line, hline, hrest, ?_⟩
      change n + r'.passed = n + r.passed + line.length
      rw [hpassed, Nat.add_assoc]
  | none =>
      refine Option.eq_none_iff_forall_ne_some.mpr fun r' hr' => ?_
      obtain ⟨line, hline, hrest, -⟩ := afterKeyLine?_eq_some_iff.mp hr'
      have hsome : afterKeyLine? word r = some ⟨r.passed + line.length, r'.rest⟩ :=
        afterKeyLine?_eq_some_iff.mpr ⟨line, hline, hrest, rfl⟩
      rw [hr] at hsome
      cases hsome

/-- A key line begins with a dash. -/
theorem afterKeyLine?_of_ne {word : String} (hword : word ∈ ["BEGIN", "END"]) {n : Nat}
    {c : Char} (hc : c ≠ '-') (t : List Char) : afterKeyLine? word ⟨n, c :: t⟩ = none := by
  refine Option.eq_none_iff_forall_ne_some.mpr fun r' hr' => ?_
  obtain ⟨line, hline, hrest, -⟩ := afterKeyLine?_eq_some_iff.mp hr'
  have hhead := congrArg List.head? hrest
  rw [List.head?_append, hline.head? hword] at hhead
  injection hhead with hhead
  exact hc hhead

theorem total_of_afterKeyLine? {word : String} {r r' : Remainder}
    (h : afterKeyLine? word r = some r') : r'.total = r.total := by
  obtain ⟨line, -, hrest, hpassed⟩ := afterKeyLine?_eq_some_iff.mp h
  rw [Remainder.total, Remainder.total, hrest, hpassed, List.length_append, Nat.add_assoc]

/-! ## Private keys -/

theorem total_of_afterKeyBlock? {n : Nat} {cs : List Char} {r : Remainder}
    (h : afterKeyBlock? n cs = some r) : r.total = n + cs.length := by
  induction cs generalizing n with
  | nil => exact total_of_afterKeyLine? h
  | cons c rest ih =>
      rcases Option.or_eq_some_iff.mp h with hline | ⟨-, hrest⟩
      · exact total_of_afterKeyLine? hline
      · rw [ih hrest, List.length_cons]
        omega

theorem afterKeyBlock?_shift (n m : Nat) (cs : List Char) :
    afterKeyBlock? (n + m) cs = (afterKeyBlock? m cs).map (·.shift n) := by
  induction cs generalizing m with
  | nil => exact afterKeyLine?_shift "END" n ⟨m, []⟩
  | cons c rest ih =>
      have hline := afterKeyLine?_shift "END" n ⟨m, c :: rest⟩
      have hrest := ih (m + 1)
      rw [← Nat.add_assoc] at hrest
      rw [afterKeyBlock?, afterKeyBlock?, hrest, Option.map_or]
      exact congrArg (Option.or · _) hline

/-- No key line begins in a block without dashes. -/
theorem afterKeyBlock?_of_dashless {k : List Char} (hk : '-' ∉ k) (n : Nat) (w : List Char) :
    afterKeyBlock? n (k ++ w) = afterKeyBlock? (n + k.length) w := by
  induction k generalizing n with
  | nil => rfl
  | cons c k ih =>
      have hc : c ≠ '-' := fun heq => hk (heq ▸ List.mem_cons_self)
      rw [List.cons_append, afterKeyBlock?, afterKeyLine?_of_ne (by decide) hc, Option.none_or,
        ih fun hmem => hk (List.mem_cons_of_mem c hmem)]
      congr 1
      rw [List.length_cons]
      omega

theorem afterKeyBlock?_append {k : List Char} (hk : BarsKeyLines k) (n : Nat)
    (y w : List Char) :
    afterKeyBlock? n (y ++ (k ++ w)) =
      ((afterKeyBlock? n y).map (·.followedBy (k ++ w))).or
        ((afterKeyBlock? 0 w).map (·.shift (n + y.length + k.length))) := by
  induction y generalizing n with
  | nil =>
      have hnone : afterKeyBlock? n [] = none := by
        refine Option.eq_none_iff_forall_ne_some.mpr fun r' hr' => ?_
        obtain ⟨line, hline, hrest, -⟩ := afterKeyLine?_eq_some_iff.mp hr'
        have hlast := hline.getLast?
        rw [(List.nil_eq_append_iff.mp hrest).1] at hlast
        cases hlast
      rw [hnone, Option.map_none, Option.none_or, List.nil_append,
        afterKeyBlock?_of_dashless hk.dash, ← afterKeyBlock?_shift]
      rfl
  | cons c y ih =>
      have hline : afterKeyLine? "END" ⟨n, c :: (y ++ (k ++ w))⟩ =
          (afterKeyLine? "END" ⟨n, c :: y⟩).map (·.followedBy (k ++ w)) :=
        afterKeyLine?_followedBy hk (by decide) ⟨n, c :: y⟩ w
      have hlength : n + 1 + y.length + k.length = n + (c :: y).length + k.length := by
        rw [List.length_cons]
        omega
      rw [List.cons_append, afterKeyBlock?, afterKeyBlock?, hline, ih, Option.map_or,
        Option.or_assoc, hlength]

variable {c : Char} {k₁ k₂ w y : List Char}

/-- A private key begins with a dash. -/
theorem privateKey_of_ne {d : Char} (hd : d ≠ '-') (before : Option Char) (t : List Char) :
    privateKey before (d :: t) = .miss 1 := by
  have hnone : afterKeyLine? "BEGIN" (.whole (d :: t)) = none :=
    afterKeyLine?_of_ne (by decide) hd t
  unfold privateKey
  rw [hnone]

/-- What a private key begins with or ends in does not depend on a block. -/
theorem privateKey_answersAlike (hk₁ : BarsKeyLines (c :: k₁)) (hk₂ : BarsKeyLines (c :: k₂))
    (hy : y ≠ []) (before : Option Char) :
    AnswersAlike y.length c k₁ k₂ w (privateKey before (y ++ c :: (k₁ ++ w)))
      (privateKey before (y ++ c :: (k₂ ++ w))) := by
  have hbegin {k : List Char} (hk : BarsKeyLines (c :: k)) :
      afterKeyLine? "BEGIN" (.whole (y ++ c :: (k ++ w))) =
        (afterKeyLine? "BEGIN" (.whole y)).map (·.followedBy (c :: (k ++ w))) :=
    afterKeyLine?_followedBy hk (by decide) (.whole y) w
  unfold privateKey
  rw [hbegin hk₁, hbegin hk₂]
  cases hr : afterKeyLine? "BEGIN" (.whole y) with
  | none =>
      obtain ⟨d, y, rfl⟩ := List.exists_cons_of_ne_nil hy
      have htotal : (Remainder.mk 1 y).total = (d :: y).length := Nat.add_comm _ _
      exact .miss (.front htotal)
  | some r =>
      have htotal : r.total = y.length :=
        (total_of_afterKeyLine? hr).trans (Nat.zero_add _)
      have hblock {k : List Char} (hk : BarsKeyLines (c :: k)) :
          afterKeyBlock? r.passed (r.rest ++ c :: (k ++ w)) =
            ((afterKeyBlock? r.passed r.rest).map (·.followedBy (c :: (k ++ w)))).or
              ((afterKeyBlock? 0 w).map (·.shift (y.length + 1 + k.length))) := by
        have happend := afterKeyBlock?_append hk r.passed r.rest w
        have hlength : r.passed + r.rest.length + (c :: k).length = y.length + 1 + k.length := by
          rw [← htotal, Remainder.total, List.length_cons]
          omega
        rwa [hlength] at happend
      dsimp only [Option.map_some, Remainder.followedBy]
      rw [hblock hk₁, hblock hk₂]
      cases hfront : afterKeyBlock? r.passed r.rest with
      | some r' => exact .hit (.front ((total_of_afterKeyBlock? hfront).trans htotal))
      | none =>
          cases hbehind : afterKeyBlock? 0 w with
          | some r' =>
              exact .hit (.behind ((total_of_afterKeyBlock? hbehind).trans (Nat.zero_add _)))
          | none =>
              have hend (k : List Char) : (y ++ c :: (k ++ w)).length =
                  ((Remainder.mk w.length []).shift (y.length + 1 + k.length)).passed := by
                simp only [Remainder.shift, List.length_append, List.length_cons]
                omega
              dsimp only [Option.map_none, Option.none_or]
              rw [hend, hend]
              exact .miss (.behind rfl)

/-! ## Connection strings -/

/-- A block that connection strings stop in front of or take whole. -/
structure BarsSchemes (c : Char) (k₁ k₂ : List Char) : Prop where
  scheme : isSchemeChar c = false
  mark : c ∉ ['/', ':', '@']
  user : TakesAlike (fun d => !(isBlank d || d == ':' || d == '/' || d == '@')) c k₁ k₂
  password : TakesAlike isPasswordChar c k₁ k₂
  host : TakesAlike (fun d => !(isBlank d || d == '\'' || d == '"')) c k₁ k₂

variable {n : Nat} {r₁ r₂ : Remainder}

theorem afterUser?_abreast (hk : BarsSchemes c k₁ k₂) (h : Abreast n c k₁ k₂ w r₁ r₂) :
    Option.Rel (Abreast n c k₁ k₂ w) (afterUser? r₁) (afterUser? r₂) := by
  have hmarks : "://".toList ⊆ ['/', ':', '@'] := by decide
  have hcolon : [':'] ⊆ ['/', ':', '@'] := by decide
  refine rel_bind (h.after? fun hmem => hk.mark (hmarks hmem)) fun _ _ h => ?_
  exact rel_bind (h.afterRun? hk.user) fun _ _ h => h.after? fun hmem => hk.mark (hcolon hmem)

theorem afterHost?_abreast (hk : BarsSchemes c k₁ k₂) (h : Abreast n c k₁ k₂ w r₁ r₂) :
    Option.Rel (Abreast n c k₁ k₂ w) (afterHost? r₁) (afterHost? r₂) := by
  have hat : ['@'] ⊆ ['/', ':', '@'] := by decide
  exact rel_bind (h.after? fun hmem => hk.mark (hat hmem)) fun _ _ h => h.afterRun? hk.host

/-- A connection string begins with a letter. -/
theorem connectionString_of_not_letter {d : Char} (hd : isLetter d = false)
    (before : Option Char) (t : List Char) : connectionString before (d :: t) = .miss 1 := by
  unfold connectionString
  rw [List.head?_cons, Option.any_some, hd]
  rfl

/-- No connection string begins in a text without the mark of an address. -/
theorem connectionString_of_unmarked {z : List Char} (hmark : ¬ "://".toList <:+: y)
    (hz : ∀ d ∈ z.head?, isSchemeChar d = false ∧ d ∉ "://".toList) (hy : y ≠ [])
    (before : Option Char) : ∃ m ≤ y.length, connectionString before (y ++ z) = .miss m := by
  obtain ⟨d, y, rfl⟩ := List.exists_cons_of_ne_nil hy
  by_cases hd : isLetter d = true
  · let scheme := (Remainder.whole (d :: y)).afterWhile isSchemeChar
    have htotal : scheme.total = (d :: y).length :=
      (Remainder.total_afterWhile _ _).trans (Nat.zero_add _)
    have hscheme : (Remainder.whole (d :: (y ++ z))).afterWhile isSchemeChar =
        scheme.followedBy z :=
      Remainder.afterWhile_followedBy (r := .whole (d :: y)) (.inl fun c hc => (hz c hc).1)
    have hnone : scheme.after? "://".toList = none := by
      refine Option.eq_none_iff_forall_ne_some.mpr fun r hr => hmark ?_
      obtain ⟨hrest, -⟩ := Remainder.after?_eq_some_iff.mp hr
      have hsuffix : scheme.rest <:+ d :: y := by
        change ((Remainder.whole (d :: y)).afterWhile isSchemeChar).rest <:+ _
        rw [Remainder.afterWhile_eq]
        exact List.dropWhile_suffix _
      exact (hrest ▸ List.prefix_append _ r.rest).isInfix.trans hsuffix.isInfix
    have huser : afterUser? (scheme.followedBy z) = none := by
      unfold afterUser?
      rw [Remainder.after?_followedBy fun c hc => (hz c hc).2, hnone]
      rfl
    refine ⟨scheme.passed, htotal ▸ scheme.passed_le_total, ?_⟩
    unfold connectionString
    rw [List.cons_append, List.head?_cons, Option.any_some, if_pos hd]
    dsimp only
    rw [hscheme, huser]
    rfl
  · refine ⟨1, Nat.le_add_left 1 _, ?_⟩
    exact connectionString_of_not_letter ((Bool.not_eq_true _).mp hd) before _

/-- How far a connection string goes does not depend on a block. -/
theorem connectionString_answersAlike (hk : BarsSchemes c k₁ k₂) (hy : y ≠ [])
    (before : Option Char) :
    AnswersAlike y.length c k₁ k₂ w (connectionString before (y ++ c :: (k₁ ++ w)))
      (connectionString before (y ++ c :: (k₂ ++ w))) := by
  obtain ⟨d, y, rfl⟩ := List.exists_cons_of_ne_nil hy
  unfold connectionString
  rw [List.cons_append, List.cons_append, List.head?_cons, List.head?_cons]
  by_cases hletter : (some d).any isLetter = true
  · rw [if_pos hletter, if_pos hletter]
    have hstart : Abreast (d :: y).length c k₁ k₂ w (.whole (d :: (y ++ c :: (k₁ ++ w))))
        (.whole (d :: (y ++ c :: (k₂ ++ w)))) :=
      .front (r := .whole (d :: y)) (Nat.zero_add _)
    have hscheme := (hstart.afterWhile (.inl hk.scheme)).1
    have huser := afterUser?_abreast hk hscheme
    dsimp only
    generalize afterUser? _ = user₁ at huser ⊢
    generalize afterUser? _ = user₂ at huser ⊢
    cases huser with
    | none => exact .miss hscheme
    | @some user₁ user₂ huser =>
        obtain ⟨hpassword, hmore⟩ := huser.afterWhile hk.password
        have hhost := afterHost?_abreast hk hpassword
        dsimp only
        generalize afterHost? _ = host₁ at hhost ⊢
        generalize afterHost? _ = host₂ at hhost ⊢
        cases hhost with
        | none => exact .miss hpassword
        | some hhost =>
            dsimp only
            by_cases hsome : user₁.passed < (user₁.afterWhile isPasswordChar).passed
            · rw [if_pos hsome, if_pos (hmore.mp hsome)]
              exact .hit hhost
            · rw [if_neg hsome, if_neg (mt hmore.mpr hsome)]
              exact .miss hpassword
  · rw [if_neg hletter, if_neg hletter]
    exact .miss (.front (r := ⟨1, y⟩) (Nat.add_comm 1 y.length))

end TraceCheck.Redaction
