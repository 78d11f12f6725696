import TraceCheck.Proofs.Redaction.Boundaries
import TraceCheck.Proofs.Redaction.Masking
import TraceCheck.Redaction.Cut

/-!
# Service keys

A service key is found where it stands and is replaced as a whole.  No later rule brings
one back, so a redacted text has none, whatever stood around it.
-/

namespace TraceCheck.Redaction

/-! ## The form of keys -/

/-- A service key: the kind of the key, the mode of the account and letters or digits. -/
def IsApiKey (key : List Char) : Prop :=
  ∃ kind ∈ ["sk", "pk", "rk"], ∃ mode ∈ ["live", "test"], ∃ body : List Char,
    body ≠ [] ∧ (∀ c ∈ body, c.isAlphanum = true) ∧
      key = (kind ++ "_" ++ mode ++ "_").toList ++ body

/-- No service key stands in a text. -/
def Keyless (text : List Char) : Prop :=
  ∀ key, IsApiKey key → ¬ key <:+: text

theorem IsApiKey.exists_start {key : List Char} (hkey : IsApiKey key) :
    ∃ start ∈ apiKeyStarts, ∃ body : List Char, body ≠ [] ∧
      (∀ c ∈ body, isAlphanumeric c = true) ∧ key = start.toList ++ body := by
  obtain ⟨kind, hkind, mode, hmode, body, hne, hbody, rfl⟩ := hkey
  have hstart : ∀ kind ∈ ["sk", "pk", "rk"], ∀ mode ∈ ["live", "test"],
      kind ++ "_" ++ mode ++ "_" ∈ apiKeyStarts := by
    decide
  exact ⟨_, hstart kind hkind mode hmode, body, hne, hbody, rfl⟩

/-- The characters of keys. -/
theorem IsApiKey.forall_mem {key : List Char} (hkey : IsApiKey key) :
    ∀ c ∈ key, c.isAlphanum = true ∨ c = '_' := by
  obtain ⟨start, hstart, body, -, hbody, rfl⟩ := hkey.exists_start
  have hchars : ∀ start ∈ apiKeyStarts, ∀ c ∈ start.toList, c.isAlphanum = true ∨ c = '_' := by
    decide
  intro c hc
  rcases List.mem_append.mp hc with hc | hc
  · exact hchars start hstart c hc
  · exact .inl (hbody c hc)

theorem IsApiKey.not_mem {key : List Char} (hkey : IsApiKey key) {c : Char}
    (hc : c.isAlphanum = false ∧ c ≠ '_') : c ∉ key := by
  intro hmem
  rcases hkey.forall_mem c hmem with halnum | hunderscore
  · rw [halnum] at hc
    exact Bool.false_ne_true hc.1.symm
  · exact hc.2 hunderscore

theorem IsApiKey.letter_mem {key : List Char} (hkey : IsApiKey key) : 'k' ∈ key := by
  obtain ⟨start, hstart, body, -, -, rfl⟩ := hkey.exists_start
  have hletter : ∀ start ∈ apiKeyStarts, 'k' ∈ start.toList := by decide
  exact List.mem_append_left body (hletter start hstart)

/-- A key does not overlap placeholders. -/
theorem IsApiKey.apart {key block : List Char} (hkey : IsApiKey key)
    (hblock : IsPlaceholder block) : Apart key block := by
  exact hblock.apart (hkey.not_mem (by decide)) ⟨'k', hkey.letter_mem, by decide⟩

/-- Covering parts of a text makes no key. -/
theorem Keyless.of_masks {old new : List Char} (hold : Keyless old)
    (h : Masks IsPlaceholder old new) : Keyless new :=
  fun key hkey hnew => hold key hkey (h.isInfix (fun _ hblock => hkey.apart hblock) hnew)

/-! ## Texts without keys -/

theorem IsApiKey.pair_isInfix {key : List Char} (hkey : IsApiKey key) : ['k', '_'] <:+: key := by
  obtain ⟨start, hstart, body, -, -, rfl⟩ := hkey.exists_start
  have hpair : ∀ start ∈ apiKeyStarts, ['k', '_'] <:+: start.toList := by decide
  exact (hpair start hstart).trans (List.prefix_append _ body).isInfix

theorem Keyless.of_isInfix {t u : List Char} (h : Keyless t) (hu : u <:+: t) : Keyless u :=
  fun key hkey hinside => h key hkey (hinside.trans hu)

theorem keyless_of_not_infix {t : List Char} (h : ¬ ['k', '_'] <:+: t) : Keyless t :=
  fun _ hkey hinside => h (hkey.pair_isInfix.trans hinside)

theorem keyless_of_not_mem {t : List Char} (h : '_' ∉ t) : Keyless t :=
  keyless_of_not_infix fun hinside => h (hinside.subset (by decide))

/-- No key stretches over a character that keys do not have. -/
theorem Keyless.join {u v : List Char} {z : Char} (hu : Keyless u) (hv : Keyless v)
    (hz : z.isAlphanum = false ∧ z ≠ '_') : Keyless (u ++ z :: v) := by
  intro key hkey hinside
  rw [← List.singleton_append, ← List.append_assoc] at hinside
  rcases infix_of_infix_concat_append (hkey.not_mem hz) hinside with hleft | hright
  · exact hu key hkey hleft
  · exact hv key hkey hright

/-- A message that is cut has no key that it did not have. -/
theorem Keyless.cutWith {cs : List Char} (h : Keyless cs) (most : Nat) :
    Keyless (Redaction.cutWith truncationMarker most cs) := by
  have hmarker : truncationMarker.toList = '.' :: ".. (truncated)".toList := by decide
  unfold Redaction.cutWith
  split
  · rw [hmarker]
    refine (h.of_isInfix (List.take_prefix _ cs).isInfix).join ?_ (by decide)
    exact keyless_of_not_mem (by decide)
  · exact h

/-! ## Finding keys -/

/-- Pass the start of a key. -/
theorem findSome?_apiKeyStarts_eq_some_iff {cs : List Char} {r : Remainder} :
    (apiKeyStarts.findSome? fun start => (Remainder.whole cs).after? start.toList) = some r ↔
      ∃ start ∈ apiKeyStarts, cs = start.toList ++ r.rest ∧ r.passed = 8 :=
  findSome?_after?_eq_some_iff (by decide)

/-- A key is found up to the end of its letters and digits. -/
theorem apiKey_append {before : Option Char} {start : String} {body rest : List Char}
    (hstart : start ∈ apiKeyStarts) (hne : body ≠ [])
    (hbody : ∀ c ∈ body, isAlphanumeric c = true) :
    apiKey before (start.toList ++ (body ++ rest)) =
      .hit (start.toList.length + (body ++ rest.takeWhile isAlphanumeric).length) := by
  have hrun : (Remainder.mk start.toList.length (body ++ rest)).afterRun? isAlphanumeric 1 =
      some ⟨start.toList.length + (body ++ rest.takeWhile isAlphanumeric).length,
        rest.dropWhile isAlphanumeric⟩ := by
    refine Remainder.afterRun?_eq_some_iff.mpr ⟨?_, ?_⟩
    · rw [List.takeWhile_append_of_pos hbody, List.length_append]
      have hpos := List.length_pos_iff.mpr hne
      omega
    · rw [List.takeWhile_append_of_pos hbody, List.dropWhile_append_of_pos hbody]
  have hlength : ∀ start ∈ apiKeyStarts, start.toList.length = 8 := by decide
  have hbegin : (apiKeyStarts.findSome? fun first =>
      (Remainder.whole (start.toList ++ (body ++ rest))).after? first.toList) =
      some ⟨start.toList.length, body ++ rest⟩ :=
    findSome?_apiKeyStarts_eq_some_iff.mpr ⟨start, hstart, rfl, hlength start hstart⟩
  unfold apiKey
  rw [hbegin]
  dsimp only [Option.bind_eq_bind, Option.bind_some]
  rw [hrun]
  rfl

/-- A place where no key begins is passed by one character. -/
theorem apiKey_of_not_hit {before : Option Char} {cs : List Char}
    (h : ∀ n, apiKey before cs ≠ .hit n) : apiKey before cs = .miss 1 :=
  Remainder.probe_of_not_hit h

/-- A key begins with a letter. -/
theorem apiKey_of_not_token {d : Char} (hd : isTokenChar d = false) (before : Option Char)
    (t : List Char) : apiKey before (d :: t) = .miss 1 := by
  have hlength : ∀ start ∈ apiKeyStarts, start.toList ≠ [] := by decide
  have hnone : (apiKeyStarts.findSome? fun start =>
      (Remainder.whole (d :: t)).after? start.toList) = none := by
    refine Option.eq_none_iff_forall_ne_some.mpr fun r hr => ?_
    obtain ⟨start, hmem, hsplit, -⟩ := findSome?_apiKeyStarts_eq_some_iff.mp hr
    obtain ⟨c, cs, hstart⟩ := List.exists_cons_of_ne_nil (hlength start hmem)
    rw [hstart] at hsplit
    injection hsplit with hc
    have htoken := isTokenChar_of_mem_start hmem (hstart ▸ List.mem_cons_self)
    rw [← hc, hd] at htoken
    cases htoken
  unfold apiKey
  rw [hnone]
  rfl

/-- No key begins in a text that does not have the middle of one. -/
theorem apiKey_of_not_infix {y z : List Char} (hy : ¬ ['k', '_'] <:+: y)
    (hz : ∀ c ∈ z.head?, isTokenChar c = false) (before : Option Char) :
    apiKey before (y ++ z) = .miss 1 := by
  have hpairs : ∀ start ∈ apiKeyStarts, ['k', '_'] <:+: start.toList := by decide
  refine apiKey_of_not_hit fun n hhit => hy ?_
  obtain ⟨r, hr, -⟩ := Remainder.probe_eq_hit_iff.mp hhit
  obtain ⟨r₁, hbegin, -⟩ := Option.bind_eq_some_iff.mp hr
  obtain ⟨start, hstart, hsplit, -⟩ := findSome?_apiKeyStarts_eq_some_iff.mp hbegin
  have hbegins : start.toList <+: y := by
    refine Remainder.prefix_of_prefix_append (fun c hc hmem => ?_)
      (hsplit ▸ List.prefix_append _ r₁.rest)
    exact Bool.false_ne_true ((hz c hc).symm.trans (isTokenChar_of_mem_start hstart hmem))
  exact (hpairs start hstart).trans hbegins.isInfix

/-! ## Redacted texts -/

/-- Once its keys are replaced, a text has none. -/
theorem keyless_replaceAfter_apiKey (before : Option Char) (cs : List Char) :
    Keyless (apiKey.replaceAfter (fun _ => placeholder "API_KEY") before cs) := by
  have hplaceholder : IsPlaceholder (placeholder "API_KEY") :=
    isPlaceholder_placeholder (by decide) (by decide)
  have hcovers : Covers fun _ => placeholder "API_KEY" := fun piece =>
    Masks.whole piece hplaceholder
  induction hn : cs.length using Nat.strongRecOn generalizing before cs with
  | ind n ih =>
      subst hn
      intro key hkey hinside
      cases cs with
      | nil =>
          rw [replaceAfter_nil, List.infix_nil] at hinside
          obtain ⟨start, -, body, hne, -, rfl⟩ := hkey.exists_start
          exact hne (List.append_eq_nil_iff.mp hinside).2
      | cons c rest =>
          by_cases hhit : ∃ m, apiKey before (c :: rest) = .hit m
          · obtain ⟨m, hhit⟩ := hhit
            have hplaces : (apiKey before (c :: rest)).places ≤ (c :: rest).length :=
              apiKey_places_le (List.cons_ne_nil c rest)
            rw [hhit] at hplaces
            change m ≤ (c :: rest).length at hplaces
            have hpos : 1 ≤ (c :: rest).length := Nat.le_add_left 1 _
            have hlength : ((c :: rest).take (max 1 m)).length = max 1 m :=
              List.length_take_of_le (by omega)
            rw [← List.take_append_drop (max 1 m) (c :: rest)] at hhit hinside
            rw [replaceAfter_of_hit hhit hlength] at hinside
            have hdrop : ((c :: rest).drop (max 1 m)).length < (c :: rest).length := by
              rw [List.length_drop]
              omega
            have hrest := (hkey.apart hplaceholder).infix_of_infix_append hinside
            exact ih _ hdrop _ _ rfl key hkey hrest
          · have hmiss := apiKey_of_not_hit (not_exists.mp hhit)
            rw [replaceAfter_cons hmiss] at hinside
            rcases List.infix_cons_iff.mp hinside with hstarts | hrest
            · -- A key at the start would stand in the text itself and be found.
              have hmasks : Masks IsPlaceholder (c :: rest)
                  (c :: apiKey.replaceAfter (fun _ => placeholder "API_KEY") (some c) rest) :=
                (masks_replaceAfter hcovers (some c) rest).keep c
              have hstands : key <+: c :: rest :=
                hmasks.isPrefix (fun _ hblock => (hkey.apart hblock).exists_foreign_head) hstarts
              obtain ⟨start, hstart, body, hne, hbody, rfl⟩ := hkey.exists_start
              obtain ⟨t, ht⟩ := hstands
              rw [← ht, List.append_assoc] at hhit
              exact hhit ⟨_, apiKey_append hstart hne hbody⟩
            · exact ih _ (Nat.lt_succ_self _) _ _ rfl key hkey hrest

/-- A redacted text has no key. -/
theorem keyless_redactChars (cs : List Char) : Keyless (redactChars cs) := by
  obtain ⟨earlier, later, hrules⟩ :
      ∃ earlier later, rules = earlier ++ .whole "API_KEY" apiKey :: later :=
    ⟨[_, _, _], _, rfl⟩
  have hlater : later ⊆ rules := by
    rw [hrules]
    exact List.subset_append_of_subset_right _ (List.subset_cons_self _ _)
  rw [redactChars, hrules, List.foldl_append, List.foldl_cons]
  refine foldl_rules_induction (fun _ _ hmasks hold => Keyless.of_masks hold hmasks) hlater ?_
  rw [Rule.apply_eq_replaceAfter]
  exact keyless_replaceAfter_apiKey none _

end TraceCheck.Redaction
