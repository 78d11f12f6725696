import TraceCheck.Proofs.Redaction.Assignments
import TraceCheck.Proofs.Redaction.Places
import TraceCheck.Proofs.Redaction.Spans

/-!
# Private keys and signed tokens

Private keys and signed tokens have a form, and wherever it stands in a text, they are
found.  Both shapes are honest about the places that they settle by a miss.
-/

namespace TraceCheck.Redaction

open TraceCheck.Text TraceCheck.Unicode

variable {before : Option Char} {cs : List Char} {n : Nat}

/-! ## Runs -/

/-- A text is cut at the end of a class of characters in one way. -/
theorem span_eq_iff {p : Char → Bool} {text run rest : List Char} :
    text.takeWhile p = run ∧ text.dropWhile p = rest ↔
      text = run ++ rest ∧ (∀ c ∈ run, p c = true) ∧ ∀ c ∈ rest.head?, p c = false := by
  constructor
  · rintro ⟨rfl, rfl⟩
    refine ⟨List.takeWhile_append_dropWhile.symm, fun c hc => ?_, fun c hc => ?_⟩
    · exact List.all_eq_true.mp List.all_takeWhile c hc
    · have hstop := List.head?_dropWhile_not p text
      rwa [Option.mem_def.mp hc] at hstop
  · rintro ⟨rfl, hrun, hrest⟩
    rw [List.takeWhile_append_of_pos hrun, List.dropWhile_append_of_pos hrun]
    cases rest with
    | nil => exact ⟨List.append_nil run, rfl⟩
    | cons c rest =>
        have hc : ¬ p c = true := by
          rw [hrest c rfl]
          exact Bool.false_ne_true
        rw [List.takeWhile_cons_of_neg hc, List.dropWhile_cons_of_neg hc, List.append_nil]
        exact ⟨rfl, rfl⟩

/-- The cut of a text at the end of a class of characters. -/
theorem eq_run_append (p : Char → Bool) (text : List Char) :
    text = text.takeWhile p ++ text.dropWhile p ∧ (∀ c ∈ text.takeWhile p, p c = true) ∧
      ∀ c ∈ (text.dropWhile p).head?, p c = false :=
  span_eq_iff.mp ⟨rfl, rfl⟩

theorem Remainder.afterWhile_eq_iff {p : Char → Bool} {r r' : Remainder} :
    r.afterWhile p = r' ↔ ∃ run, r.rest = run ++ r'.rest ∧ (∀ c ∈ run, p c = true) ∧
      (∀ c ∈ r'.rest.head?, p c = false) ∧ r'.passed = r.passed + run.length := by
  rw [Remainder.afterWhile_eq]
  constructor
  · rintro rfl
    obtain ⟨hsplit, hrun, hrest⟩ := eq_run_append p r.rest
    exact ⟨_, hsplit, hrun, hrest, rfl⟩
  · rintro ⟨run, hsplit, hrun, hrest, hpassed⟩
    obtain ⟨htake, hdrop⟩ := span_eq_iff.mpr ⟨hsplit, hrun, hrest⟩
    rw [htake, hdrop, ← hpassed]

theorem Remainder.afterRun?_eq_some_iff_append {p : Char → Bool} {least : Nat}
    {r r' : Remainder} : r.afterRun? p least = some r' ↔
      ∃ run, r.rest = run ++ r'.rest ∧ (∀ c ∈ run, p c = true) ∧
        (∀ c ∈ r'.rest.head?, p c = false) ∧ least ≤ run.length ∧
          r'.passed = r.passed + run.length := by
  unfold Remainder.afterRun?
  rw [Option.ite_none_right_eq_some, Option.some_inj, Remainder.afterWhile_eq_iff]
  constructor
  · rintro ⟨hleast, run, hsplit, hrun, hrest, hpassed⟩
    have heq := Remainder.afterWhile_eq_iff.mpr ⟨run, hsplit, hrun, hrest, hpassed⟩
    rw [heq, hpassed, Nat.add_le_add_iff_left] at hleast
    exact ⟨run, hsplit, hrun, hrest, hleast, hpassed⟩
  · rintro ⟨run, hsplit, hrun, hrest, hleast, hpassed⟩
    have heq := Remainder.afterWhile_eq_iff.mpr ⟨run, hsplit, hrun, hrest, hpassed⟩
    refine ⟨?_, run, hsplit, hrun, hrest, hpassed⟩
    rw [heq, hpassed, Nat.add_le_add_iff_left]
    exact hleast

/-! ## Private keys -/

/-- A block is passed exactly when an end line stands in the text. -/
theorem exists_afterKeyBlock?_iff : (∃ r, afterKeyBlock? n cs = some r) ↔
    ∃ line, IsKeyLine "END" line ∧ line <:+: cs := by
  have hline {n : Nat} {cs : List Char} : (∃ r, afterKeyLine? "END" ⟨n, cs⟩ = some r) ↔
      ∃ line, IsKeyLine "END" line ∧ line <+: cs := by
    constructor
    · rintro ⟨r, hr⟩
      obtain ⟨line, hline, hsplit, -⟩ := afterKeyLine?_eq_some_iff.mp hr
      exact ⟨line, hline, r.rest, hsplit.symm⟩
    · rintro ⟨line, hline, rest, rfl⟩
      exact ⟨⟨n + line.length, rest⟩, afterKeyLine?_eq_some_iff.mpr ⟨line, hline, rfl, rfl⟩⟩
  induction cs generalizing n with
  | nil => simp only [afterKeyBlock?, hline, List.prefix_nil, List.infix_nil]
  | cons c rest ih =>
      constructor
      · rintro ⟨r, hr⟩
        rcases Option.or_eq_some_iff.mp hr with hhere | ⟨-, hbehind⟩
        · obtain ⟨line, hend, hstarts⟩ := hline.mp ⟨r, hhere⟩
          exact ⟨line, hend, hstarts.isInfix⟩
        · obtain ⟨line, hend, hinside⟩ := ih.mp ⟨r, hbehind⟩
          exact ⟨line, hend, hinside.trans (List.suffix_cons c rest).isInfix⟩
      · rintro ⟨line, hend, hinside⟩
        rcases List.infix_cons_iff.mp hinside with hstarts | hinside
        · obtain ⟨r, hr⟩ := hline.mpr ⟨line, hend, hstarts⟩
          exact ⟨r, Option.or_eq_some_iff.mpr (.inl hr)⟩
        · obtain ⟨r, hr⟩ := (ih (n := n + 1)).mpr ⟨line, hend, hinside⟩
          cases hhere : afterKeyLine? "END" ⟨n, c :: rest⟩ with
          | none => exact ⟨r, Option.or_eq_some_iff.mpr (.inr ⟨hhere, hr⟩)⟩
          | some r' => exact ⟨r', Option.or_eq_some_iff.mpr (.inl hhere)⟩

theorem le_passed_of_afterKeyBlock? {r : Remainder} (h : afterKeyBlock? n cs = some r) :
    n ≤ r.passed := by
  induction cs generalizing n with
  | nil =>
      obtain ⟨line, -, -, hpassed⟩ := afterKeyLine?_eq_some_iff.mp h
      exact hpassed ▸ Nat.le_add_right n _
  | cons c rest ih =>
      rcases Option.or_eq_some_iff.mp h with hhere | ⟨-, hbehind⟩
      · obtain ⟨line, -, -, hpassed⟩ := afterKeyLine?_eq_some_iff.mp hhere
        exact hpassed ▸ Nat.le_add_right n _
      · exact Nat.le_of_succ_le (ih hbehind)

/-- A private key is found where a begin line stands and an end line behind it. -/
theorem exists_hit_privateKey_iff : (∃ n, privateKey before cs = .hit n) ↔
    ∃ first rest last, IsKeyLine "BEGIN" first ∧ cs = first ++ rest ∧
      IsKeyLine "END" last ∧ last <:+: rest := by
  constructor
  · rintro ⟨n, hhit⟩
    unfold privateKey at hhit
    split at hhit
    · cases hhit
    · next r hr =>
        obtain ⟨first, hfirst, hsplit, -⟩ := afterKeyLine?_eq_some_iff.mp hr
        split at hhit
        · next r' hr' =>
            obtain ⟨last, hlast, hinside⟩ := exists_afterKeyBlock?_iff.mp ⟨r', hr'⟩
            exact ⟨first, r.rest, last, hfirst, hsplit, hlast, hinside⟩
        · cases hhit
  · rintro ⟨first, rest, last, hfirst, rfl, hlast, hinside⟩
    have hbegin : afterKeyLine? "BEGIN" (.whole (first ++ rest)) = some ⟨first.length, rest⟩ :=
      afterKeyLine?_eq_some_iff.mpr ⟨first, hfirst, rfl, (Nat.zero_add _).symm⟩
    obtain ⟨r, hr⟩ : ∃ r, afterKeyBlock? first.length rest = some r :=
      exists_afterKeyBlock?_iff.mpr ⟨last, hlast, hinside⟩
    refine ⟨r.passed, ?_⟩
    unfold privateKey
    rw [hbegin]
    dsimp only
    rw [hr]

/-- A key line has the five dashes at its start and the five at its end. -/
theorem IsKeyLine.count_dash {word : String} {line : List Char} (h : IsKeyLine word line)
    (hword : word ∈ ["BEGIN", "END"]) : line.count '-' = 10 := by
  obtain ⟨title, htitle, -, rfl⟩ := h
  have hstart : ∀ word ∈ ["BEGIN", "END"], ("-----" ++ word ++ " ").toList.count '-' = 5 := by
    decide
  have hdashes : "-----".toList.count '-' = 5 := by decide
  have hnone : title.count '-' = 0 :=
    List.count_eq_zero.mpr fun hmem => absurd (htitle '-' hmem) (by decide)
  rw [List.count_append, List.count_append, hstart word hword, hnone, hdashes]

/-- What stands behind a later begin line stands behind an earlier one. -/
theorem IsKeyLine.suffix_of_append {first first' u rest rest' : List Char}
    (h : IsKeyLine "BEGIN" first) (h' : IsKeyLine "BEGIN" first')
    (heq : first ++ rest = u ++ (first' ++ rest')) : rest' <:+ rest := by
  have hboth : rest' <:+ first ++ rest := by
    rw [heq, ← List.append_assoc]
    exact List.suffix_append _ rest'
  rcases List.suffix_or_suffix_of_suffix hboth (List.suffix_append first rest) with hle | ⟨t, rfl⟩
  · exact hle
  -- Otherwise the second line would end inside the first one, which has no more dashes.
  rw [← List.append_assoc, ← List.append_assoc, List.append_cancel_right_eq] at heq
  cases t with
  | nil => exact List.suffix_rfl
  | cons c t =>
      have hcount := congrArg (List.count '-') heq
      rw [List.count_append, List.count_append, h.count_dash (by decide),
        h'.count_dash (by decide)] at hcount
      have hlast := h.getLast?
      rw [heq, List.getLast?_append_of_ne_nil _ (List.cons_ne_nil c t)] at hlast
      have hpos := List.count_pos_iff.mpr (List.mem_of_getLast? hlast)
      omega

theorem privateKey_isHonest : privateKey.IsHonest where
  fits := by
    intro before cs n hhit
    unfold privateKey at hhit
    split at hhit
    · cases hhit
    · next r hr =>
        split at hhit
        · next r' hr' =>
            injection hhit with hn
            obtain ⟨first, hfirst, -, hpassed⟩ := afterKeyLine?_eq_some_iff.mp hr
            have hpos : 0 < first.length :=
              List.length_pos_of_mem (List.mem_of_getLast? hfirst.getLast?)
            have hle := le_passed_of_afterKeyBlock? hr'
            have htotal : r'.total = cs.length :=
              (total_of_afterKeyBlock? hr').trans
                ((total_of_afterKeyLine? hr).trans (Nat.zero_add _))
            have hfits := r'.passed_le_total
            omega
        · cases hhit
  misses := by
    intro before u v n hmiss hu m hhit
    obtain ⟨first', rest', last, hfirst', rfl, hlast, hinside⟩ :=
      exists_hit_privateKey_iff.mp ⟨m, hhit⟩
    have hhere : ¬ ∃ n, privateKey before (u ++ (first' ++ rest')) = .hit n := by
      rintro ⟨k, hk⟩
      rw [hmiss] at hk
      cases hk
    unfold privateKey at hmiss
    split at hmiss
    · injection hmiss with hn
      have hnil : u = [] := List.length_eq_zero_iff.mp (by omega)
      subst hnil
      exact hhere (exists_hit_privateKey_iff.mpr
        ⟨first', rest', last, hfirst', rfl, hlast, hinside⟩)
    · next r hr =>
        obtain ⟨first, hfirst, hsplit, -⟩ := afterKeyLine?_eq_some_iff.mp hr
        have hrest := hfirst.suffix_of_append hfirst' hsplit.symm
        exact hhere (exists_hit_privateKey_iff.mpr
          ⟨first, r.rest, last, hfirst, hsplit, hlast, hinside.trans hrest.isInfix⟩)

/-! ## Signed tokens -/

/-- A part of a text in front of the end of a class of characters belongs to the class. -/
theorem dropWhile_append_of_length_le {p : Char → Bool} {u v : List Char}
    (h : u.length ≤ ((u ++ v).takeWhile p).length) :
    (u ++ v).dropWhile p = v.dropWhile p ∧ ∀ c ∈ u, p c = true := by
  have hu : u <+: (u ++ v).takeWhile p :=
    List.prefix_of_prefix_length_le (List.prefix_append u v) (List.takeWhile_prefix p) h
  have hall : ∀ c ∈ u, p c = true := fun c hc =>
    List.all_eq_true.mp List.all_takeWhile c (hu.subset hc)
  exact ⟨List.dropWhile_append_of_pos hall, hall⟩

/-- The shortest form of a signed token. -/
def IsSignedToken (w : List Char) : Prop :=
  ∃ header payload : List Char, ∃ c : Char, header ≠ [] ∧ payload ≠ [] ∧
    (∀ d ∈ header ++ (payload ++ [c]), isTokenChar d = true) ∧
      w = "eyJ".toList ++ (header ++ '.' :: (payload ++ ['.', c]))

theorem isTokenChar_head?_point (rest : List Char) :
    ∀ c ∈ ('.' :: rest).head?, isTokenChar c = false :=
  fun _ hc => Option.some_inj.mp hc ▸ (by decide : isTokenChar '.' = false)

/-- Where a signed token stands, its header and its payload can be read off the text. -/
theorem IsSignedToken.cut {w v : List Char} (hw : IsSignedToken w) (h : w <+: v) :
    "eyJ".toList <+: v ∧ 3 < (v.takeWhile isTokenChar).length ∧
      ∃ (payload : List Char) (c : Char) (rest : List Char), payload ≠ [] ∧
        (∀ d ∈ payload ++ [c], isTokenChar d = true) ∧
          v.dropWhile isTokenChar = '.' :: (payload ++ '.' :: c :: rest) := by
  obtain ⟨header, payload, c, hne, hpayload, hall, rfl⟩ := hw
  obtain ⟨rest, rfl⟩ := h
  obtain ⟨hheader, hall⟩ := List.forall_mem_append.mp hall
  have htext : "eyJ".toList ++ (header ++ '.' :: (payload ++ ['.', c])) ++ rest =
      "eyJ".toList ++ header ++ '.' :: (payload ++ '.' :: c :: rest) := by
    simp only [List.append_assoc, List.cons_append, List.nil_append]
  have hfront : ∀ d ∈ "eyJ".toList ++ header, isTokenChar d = true :=
    List.forall_mem_append.mpr ⟨by decide, hheader⟩
  obtain ⟨htake, hdrop⟩ := span_eq_iff.mpr ⟨htext, hfront, isTokenChar_head?_point _⟩
  refine ⟨⟨header ++ '.' :: (payload ++ '.' :: c :: rest), ?_⟩, ?_, payload, c, rest, hpayload,
    hall, hdrop⟩
  · rw [htext, List.append_assoc]
  · rw [htake, List.length_append]
    exact Nat.lt_add_of_pos_right (List.length_pos_iff.mpr hne)

/-- What follows the header of a signed token. -/
theorem exists_afterPayload?_iff : (∃ r, afterPayload? ⟨n, cs⟩ = some r) ↔
    ∃ (payload : List Char) (c : Char) (rest : List Char), payload ≠ [] ∧
      (∀ d ∈ payload ++ [c], isTokenChar d = true) ∧
        cs = '.' :: (payload ++ '.' :: c :: rest) := by
  constructor
  · rintro ⟨r, hr⟩
    obtain ⟨r₁, h₁, hr₁⟩ := Option.bind_eq_some_iff.mp hr
    obtain ⟨r₂, h₂, hr₂⟩ := Option.bind_eq_some_iff.mp hr₁
    obtain ⟨r₃, h₃, h₄⟩ := Option.bind_eq_some_iff.mp hr₂
    have hsplit₁ : cs = ['.'] ++ r₁.rest := (Remainder.after?_eq_some_iff.mp h₁).1
    have hsplit₃ : r₂.rest = ['.'] ++ r₃.rest := (Remainder.after?_eq_some_iff.mp h₃).1
    obtain ⟨payload, hsplit₂, hpayload, -, hone, -⟩ :=
      Remainder.afterRun?_eq_some_iff_append.mp h₂
    obtain ⟨signature, hsplit₄, hsignature, -, hone', -⟩ :=
      Remainder.afterRun?_eq_some_iff_append.mp h₄
    obtain ⟨c, more, rfl⟩ := List.exists_cons_of_length_pos hone'
    refine ⟨payload, c, more ++ r.rest, List.length_pos_iff.mp hone, ?_, ?_⟩
    · exact List.forall_mem_append.mpr
        ⟨hpayload, List.forall_mem_singleton.mpr (hsignature c List.mem_cons_self)⟩
    · rw [hsplit₁, hsplit₂, hsplit₃, hsplit₄]
      rfl
  · rintro ⟨payload, c, rest, hne, hall, rfl⟩
    obtain ⟨hall, hc⟩ := List.forall_mem_append.mp hall
    have hc := List.forall_mem_singleton.mp hc
    have hpoint₁ : (Remainder.mk n ('.' :: (payload ++ '.' :: c :: rest))).after? ['.'] =
        some ⟨n + 1, payload ++ '.' :: c :: rest⟩ := rfl
    have hpayload : (Remainder.mk (n + 1) (payload ++ '.' :: c :: rest)).afterRun? isTokenChar 1 =
        some ⟨n + 1 + payload.length, '.' :: c :: rest⟩ :=
      Remainder.afterRun?_eq_some_iff_append.mpr
        ⟨payload, rfl, hall, isTokenChar_head?_point _, List.length_pos_iff.mpr hne, rfl⟩
    have hpoint₂ : (Remainder.mk (n + 1 + payload.length) ('.' :: c :: rest)).after? ['.'] =
        some ⟨n + 1 + payload.length + 1, c :: rest⟩ := rfl
    have hone : 1 ≤ ((c :: rest).takeWhile isTokenChar).length := by
      rw [List.takeWhile_cons_of_pos hc]
      exact Nat.le_add_left 1 _
    obtain ⟨hsplit, hsignature, hstop⟩ := eq_run_append isTokenChar (c :: rest)
    have hrun : (Remainder.mk (n + 1 + payload.length + 1) (c :: rest)).afterRun? isTokenChar 1 =
        some ⟨_, _⟩ :=
      Remainder.afterRun?_eq_some_iff_append.mpr ⟨_, hsplit, hsignature, hstop, hone, rfl⟩
    unfold afterPayload?
    rw [hpoint₁, Option.bind_eq_bind, Option.bind_some, hpayload, Option.bind_some, hpoint₂,
      Option.bind_some, hrun]
    exact ⟨_, rfl⟩

theorem passed_le_of_afterPayload? {r r' : Remainder} (h : afterPayload? r = some r') :
    r.passed ≤ r'.passed := by
  obtain ⟨r₁, h₁, hr₁⟩ := Option.bind_eq_some_iff.mp h
  obtain ⟨r₂, h₂, hr₂⟩ := Option.bind_eq_some_iff.mp hr₁
  obtain ⟨r₃, h₃, h₄⟩ := Option.bind_eq_some_iff.mp hr₂
  have hpassed₁ := (Remainder.after?_eq_some_iff.mp h₁).2
  have hpassed₂ := congrArg Remainder.passed (Remainder.afterRun?_eq_some_iff.mp h₂).2
  have hpassed₃ := (Remainder.after?_eq_some_iff.mp h₃).2
  have hpassed₄ := congrArg Remainder.passed (Remainder.afterRun?_eq_some_iff.mp h₄).2
  dsimp only at hpassed₂ hpassed₄
  omega

/-- A signed token is settled by its beginning, by its header, which goes on up to the end
of the characters of tokens, and by what follows the header. -/
theorem signedToken_cases (before : Option Char) (cs : List Char) :
    ¬ "eyJ".toList <+: cs ∧ signedToken before cs = .miss 1 ∨
      ∃ header, cs.takeWhile isTokenChar = "eyJ".toList ++ header ∧
        ((∃ r, afterPayload? ⟨3 + header.length, cs.dropWhile isTokenChar⟩ = some r ∧
            signedToken before cs = if header = [] then .miss 3 else .hit r.passed) ∨
          afterPayload? ⟨3 + header.length, cs.dropWhile isTokenChar⟩ = none ∧
            signedToken before cs = .miss (3 + header.length)) := by
  unfold signedToken
  cases hr : (Remainder.whole cs).after? "eyJ".toList with
  | none =>
      refine .inl ⟨?_, rfl⟩
      rintro ⟨rest, rfl⟩
      have hsome : (Remainder.whole ("eyJ".toList ++ rest)).after? "eyJ".toList =
          some ⟨0 + 3, rest⟩ :=
        Remainder.after?_eq_some_iff.mpr ⟨rfl, rfl⟩
      rw [hsome] at hr
      cases hr
  | some r =>
      obtain ⟨hsplit, hthree⟩ := Remainder.after?_eq_some_iff.mp hr
      change cs = _ at hsplit
      change r.passed = 3 at hthree
      have hstart : ∀ c ∈ "eyJ".toList, isTokenChar c = true := by decide
      refine .inr ⟨r.rest.takeWhile isTokenChar, ?_, ?_⟩
      · rw [hsplit, List.takeWhile_append_of_pos hstart]
      · rw [hsplit, List.dropWhile_append_of_pos hstart]
        dsimp only
        rw [Remainder.afterWhile_eq, hthree]
        cases afterPayload? ⟨3 + (r.rest.takeWhile isTokenChar).length,
            r.rest.dropWhile isTokenChar⟩ with
        | none => exact .inr ⟨rfl, rfl⟩
        | some r' =>
            have hempty : 3 + (r.rest.takeWhile isTokenChar).length = 3 ↔
                r.rest.takeWhile isTokenChar = [] := by
              rw [Nat.add_eq_left, List.length_eq_zero_iff]
            exact .inl ⟨r', rfl, by simp only [hempty]⟩

/-- A signed token is found where its shortest form stands. -/
theorem exists_hit_signedToken_iff :
    (∃ n, signedToken before cs = .hit n) ↔ ∃ w, IsSignedToken w ∧ w <+: cs := by
  constructor
  · rintro ⟨n, hhit⟩
    rcases signedToken_cases before cs with
      ⟨-, hmiss⟩ | ⟨header, htake, ⟨r, hr, hsettled⟩ | ⟨-, hmiss⟩⟩
    · rw [hmiss] at hhit
      cases hhit
    · obtain ⟨payload, c, rest, hpayload, hall, hdrop⟩ := exists_afterPayload?_iff.mp ⟨r, hr⟩
      have hne : header ≠ [] := by
        intro hnil
        rw [hsettled, if_pos hnil] at hhit
        cases hhit
      obtain ⟨hsplit, hfront, -⟩ := span_eq_iff.mp ⟨htake, hdrop⟩
      refine ⟨_, ⟨header, payload, c, hne, hpayload, ?_, rfl⟩, rest, ?_⟩
      · exact List.forall_mem_append.mpr ⟨(List.forall_mem_append.mp hfront).2, hall⟩
      · rw [hsplit]
        simp only [List.append_assoc, List.cons_append, List.nil_append]
    · rw [hmiss] at hhit
      cases hhit
  · rintro ⟨w, hw, hstands⟩
    obtain ⟨hstart, hlong, hpayload⟩ := hw.cut hstands
    rcases signedToken_cases before cs with
      ⟨hnot, -⟩ | ⟨header, htake, ⟨r, -, hsettled⟩ | ⟨hnone, -⟩⟩
    · exact absurd hstart hnot
    · have hne : header ≠ [] := by
        rintro rfl
        rw [htake] at hlong
        exact absurd hlong (by decide)
      exact ⟨r.passed, hsettled.trans (if_neg hne)⟩
    · obtain ⟨r, hr⟩ := exists_afterPayload?_iff.mpr hpayload
      rw [hr] at hnone
      cases hnone

/-- A find of a signed token is a part of the text. -/
theorem bounds_of_signedToken {n : Nat} (hhit : signedToken before cs = .hit n) :
    0 < n ∧ n ≤ cs.length := by
  rcases signedToken_cases before cs with
    ⟨-, hmiss⟩ | ⟨header, htake, ⟨r, hr, hsettled⟩ | ⟨-, hmiss⟩⟩
  · rw [hmiss] at hhit
    cases hhit
  · rw [hsettled] at hhit
    split at hhit
    · cases hhit
    · injection hhit with hn
      have hpassed := passed_le_of_afterPayload? hr
      have hfits := r.passed_le_total
      rw [total_of_afterPayload? hr, Remainder.total] at hfits
      have hlength := congrArg List.length
        (List.takeWhile_append_dropWhile (p := isTokenChar) (l := cs))
      have heyJ : "eyJ".toList.length = 3 := by decide
      rw [htake, List.length_append, List.length_append, heyJ] at hlength
      dsimp only at hpassed hfits
      omega
  · rw [hmiss] at hhit
    cases hhit

/-- No other letter of the beginning of a token begins one. -/
theorem length_of_eyJ_prefix {u v : List Char} (hne : u ≠ [])
    (houter : "eyJ".toList <+: u ++ v) (hinner : "eyJ".toList <+: v) : 3 ≤ u.length := by
  have heyJ : "eyJ".toList = ['e', 'y', 'J'] := by decide
  obtain ⟨t, hsplit⟩ := houter
  obtain ⟨t', rfl⟩ := hinner
  rw [heyJ] at hsplit
  rcases u with _ | ⟨a, _ | ⟨b, _ | ⟨c, u⟩⟩⟩
  · exact absurd rfl hne
  · simp at hsplit
  · simp at hsplit
  · exact Nat.le_add_left 3 _

theorem signedToken_isHonest : signedToken.IsHonest where
  fits := bounds_of_signedToken
  misses := by
    intro before u v n hmiss hu m hhit
    obtain ⟨w, hw, hstands⟩ := exists_hit_signedToken_iff.mp ⟨m, hhit⟩
    obtain ⟨hbegins, -, hpayload⟩ := hw.cut hstands
    have hne : u ≠ [] := by
      rintro rfl
      obtain ⟨k, hk⟩ := exists_hit_signedToken_iff.mpr ⟨w, hw, hstands⟩
      rw [List.nil_append, hk] at hmiss
      cases hmiss
    have hpos := List.length_pos_iff.mpr hne
    rcases signedToken_cases before (u ++ v) with
      ⟨-, hsettled⟩ | ⟨header, htake, ⟨r, -, hsettled⟩ | ⟨hnone, hsettled⟩⟩
    · rw [hmiss] at hsettled
      injection hsettled with hn
      omega
    · rw [hmiss] at hsettled
      split at hsettled
      · injection hsettled with hn
        have houter := (List.prefix_append _ header).trans
          (htake ▸ List.takeWhile_prefix (l := u ++ v) isTokenChar)
        have hlong := length_of_eyJ_prefix hne houter hbegins
        omega
      · cases hsettled
    · -- The headers end at the same place.
      rw [hmiss] at hsettled
      injection hsettled with hn
      have heyJ : "eyJ".toList.length = 3 := by decide
      have hlength : u.length ≤ ((u ++ v).takeWhile isTokenChar).length := by
        rw [htake, List.length_append, heyJ]
        omega
      rw [(dropWhile_append_of_length_le hlength).1] at hnone
      obtain ⟨r, hr⟩ := exists_afterPayload?_iff.mpr hpayload
      rw [hr] at hnone
      cases hnone

end TraceCheck.Redaction
