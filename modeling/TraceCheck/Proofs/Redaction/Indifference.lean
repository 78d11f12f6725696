import TraceCheck.Proofs.Redaction.Keys
import TraceCheck.Proofs.Redaction.Spans
import TraceCheck.Proofs.Text.Ascii
import TraceCheck.Verdict.Rendering

/-!
# Service keys leave no trace

A text looks the same after redaction whichever service key stands in it between blanks
or quotes.  The rules that come before the one for keys pass a key as a whole or stop in
front of it, and the rules behind it see the placeholder only.
-/

namespace TraceCheck.Redaction

open TraceCheck.Text

/-- What may stand next to a key: a space or a quote. -/
def keyNeighbours : List Char := [' ', '\'', '"']

/-! ## Keys as blocks -/

/-- A property of the characters of keys. -/
theorem IsApiKey.forall_mem_of
    {key : List Char} (hkey : IsApiKey key) {p : Char → Bool}
    (halnum : ∀ n < 128, (Char.ofNat n).isAlphanum = true → p (Char.ofNat n) = true)
    (hunderscore : p '_' = true) : ∀ c ∈ key, p c = true := by
  intro c hc
  rcases hkey.forall_mem c hc with hc | rfl
  · exact of_isAlphanum halnum hc
  · exact hunderscore

variable {k k₁ k₂ : List Char} {c : Char}

theorem IsApiKey.barsKeyLines (hk : IsApiKey k) (hc : c ∈ keyNeighbours) :
    BarsKeyLines (c :: k) := by
  have hneighbours : ∀ c ∈ keyNeighbours, '-' ≠ c := by decide
  refine ⟨fun hmem => ?_, 'k', List.mem_cons_of_mem c hk.letter_mem, by decide⟩
  rcases List.mem_cons.mp hmem with hdash | hdash
  · exact hneighbours c hc hdash
  · exact hk.not_mem (by decide) hdash

theorem takesAlike_keys {p : Char → Bool} (hk₁ : IsApiKey k₁) (hk₂ : IsApiKey k₂)
    (halnum : ∀ n < 128, (Char.ofNat n).isAlphanum = true → p (Char.ofNat n) = true)
    (hunderscore : p '_' = true) : TakesAlike p c k₁ k₂ := by
  cases hpc : p c with
  | false => exact .inl hpc
  | true =>
      refine .inr (List.forall_mem_cons.mpr ⟨hpc, List.forall_mem_append.mpr ⟨?_, ?_⟩⟩)
      · exact hk₁.forall_mem_of halnum hunderscore
      · exact hk₂.forall_mem_of halnum hunderscore

theorem IsApiKey.barsSchemes (hk₁ : IsApiKey k₁) (hk₂ : IsApiKey k₂)
    (hc : c ∈ keyNeighbours) : BarsSchemes c k₁ k₂ := by
  have hscheme : ∀ c ∈ keyNeighbours, isSchemeChar c = false := by decide
  have hmark : ∀ c ∈ keyNeighbours, c ∉ ['/', ':', '@'] := by decide
  exact {
    scheme := hscheme c hc
    mark := hmark c hc
    user := takesAlike_keys hk₁ hk₂ (by decide) (by decide)
    password := takesAlike_keys hk₁ hk₂ (by decide) (by decide)
    host := takesAlike_keys hk₁ hk₂ (by decide) (by decide) }

/-! ## The rules in front -/

/-- Two texts with a key each, the same around them. -/
abbrev DifferInKey (k₁ k₂ t₁ t₂ : List Char) : Prop :=
  DifferIn keyNeighbours keyNeighbours (fun _ => True) k₁ k₂ t₁ t₂

variable {t₁ t₂ : List Char}

theorem mem_neighbours {d : Char} (hd : d ∈ keyNeighbours ++ keyNeighbours) : d ∈ keyNeighbours :=
  (List.mem_append.mp hd).elim id id

theorem forall_mem_pair (hk₁ : IsApiKey k₁) (hk₂ : IsApiKey k₂) : ∀ k ∈ [k₁, k₂], IsApiKey k :=
  List.forall_mem_cons.mpr ⟨hk₁, List.forall_mem_singleton.mpr hk₂⟩

theorem DifferInKey.privateKey (hk₁ : IsApiKey k₁) (hk₂ : IsApiKey k₂)
    (h : DifferInKey k₁ k₂ t₁ t₂) :
    DifferInKey k₁ k₂ (Rule.apply (.whole "PRIVATE_KEY" privateKey) t₁)
      (Rule.apply (.whole "PRIVATE_KEY" privateKey) t₂) := by
  have hneighbours : ∀ d ∈ keyNeighbours, d ≠ '-' := by decide
  refine h.apply (fun _ _ _ _ _ => trivial) (fun _ _ _ => rfl) ?_ ?_ ?_
  · intro k hk w _ y hne hsuffix
    obtain ⟨d, y, rfl⟩ := List.exists_cons_of_ne_nil hne
    refine ⟨1, Nat.le_add_left 1 _, privateKey_of_ne ?_ none (y ++ w)⟩
    rintro rfl
    exact (forall_mem_pair hk₁ hk₂ k hk).not_mem (by decide) (hsuffix.subset List.mem_cons_self)
  · exact fun d hd before t => privateKey_of_ne (hneighbours d (mem_neighbours hd)) before t
  · intro u c w hc _ hleft hhead
    exact treatsAlike_of_answersAlike (fun _ _ _ => rfl) (fun _ _ => rfl)
      (covers_whole (by decide) (by decide))
      (fun y hy _ => privateKey_answersAlike (hk₁.barsKeyLines hc) (hk₂.barsKeyLines hc) hy none)
      hleft hhead

theorem DifferInKey.connectionString (hk₁ : IsApiKey k₁) (hk₂ : IsApiKey k₂)
    (h : DifferInKey k₁ k₂ t₁ t₂) :
    DifferInKey k₁ k₂ (Rule.apply (.whole "CONNECTION_STRING" connectionString) t₁)
      (Rule.apply (.whole "CONNECTION_STRING" connectionString) t₂) := by
  have hneighbours : ∀ d ∈ keyNeighbours,
      isLetter d = false ∧ isSchemeChar d = false ∧ d ∉ "://".toList := by
    decide
  refine h.apply (fun _ _ _ _ _ => trivial) (fun _ _ _ => rfl) ?_ ?_ ?_
  · intro k hk w hw y hne hsuffix
    refine connectionString_of_unmarked (fun hmark => ?_)
      (fun d hd => (hneighbours d (hw d hd)).2) hne none
    refine (forall_mem_pair hk₁ hk₂ k hk).not_mem (c := '/') (by decide) (hsuffix.subset ?_)
    exact hmark.subset (by decide)
  · exact fun d hd before t =>
      connectionString_of_not_letter (hneighbours d (mem_neighbours hd)).1 before t
  · intro u c w hc _ hleft hhead
    exact treatsAlike_of_answersAlike (fun _ _ _ => rfl) (fun _ _ => rfl)
      (covers_whole (by decide) (by decide))
      (fun y hy _ => connectionString_answersAlike (hk₁.barsSchemes hk₂ hc) hy none)
      hleft hhead

theorem DifferInKey.signedToken (hk₁ : IsApiKey k₁) (hk₂ : IsApiKey k₂)
    (h : DifferInKey k₁ k₂ t₁ t₂) :
    DifferInKey k₁ k₂ (Rule.apply (.whole "JWT" signedToken) t₁)
      (Rule.apply (.whole "JWT" signedToken) t₂) := by
  have hneighbours : ∀ d ∈ keyNeighbours, isTokenChar d = false ∧ d ≠ '.' := by decide
  have hletter : ∀ d ∈ keyNeighbours, d ≠ 'e' := by decide
  refine h.apply (fun _ _ _ _ _ => trivial) (fun _ _ _ => rfl) ?_ ?_ ?_
  · intro k hk w hw y hne hsuffix
    refine signedToken_of_pointless (fun hpoint => ?_)
      (fun d hd => hneighbours d (hw d hd)) hne none
    exact (forall_mem_pair hk₁ hk₂ k hk).not_mem (by decide) (hsuffix.subset hpoint)
  · exact fun d hd before t => signedToken_of_ne (hletter d (mem_neighbours hd)) before t
  · intro u c w hc _ hleft hhead
    refine treatsAlike_of_separates (fun _ _ _ => rfl) (covers_whole (by decide) (by decide))
      (fun k => signedToken_separates ?_ u) hleft hhead
    rintro d ⟨⟩
    exact hneighbours c hc

/-! ## The rule for keys and the others -/

/-- A key next to a blank, a quote or an end is replaced as a whole. -/
theorem replaceAfter_apiKey {f : List Char → List Char} {w : List Char} (hk : IsApiKey k)
    (hw : BeginsIn keyNeighbours w) (before : Option Char) :
    apiKey.replaceAfter f before (k ++ w) = f k ++ apiKey.replaceAfter f none w := by
  have hneighbours : ∀ d ∈ keyNeighbours, isAlphanumeric d = false := by decide
  obtain ⟨start, hstart, body, hne, hbody, rfl⟩ := hk.exists_start
  have hrun : w.takeWhile isAlphanumeric = [] := by
    cases w with
    | nil => rfl
    | cons d w =>
        refine List.takeWhile_cons_of_neg ?_
        rw [hneighbours d (hw d rfl)]
        exact Bool.false_ne_true
  have hhit : apiKey before ((start.toList ++ body) ++ w) =
      .hit (start.toList ++ body).length := by
    rw [List.append_assoc, apiKey_append hstart hne hbody, hrun, List.append_nil,
      List.length_append]
  have hpos := List.length_pos_iff.mpr hne
  rw [replaceAfter_of_hit hhit (by rw [List.length_append]; omega),
    replaceAfter_before (fun _ _ _ => rfl) _ none]

/-- Texts that differ in a key are equal when the keys are replaced. -/
theorem DifferInKey.apiKey (hk₁ : IsApiKey k₁) (hk₂ : IsApiKey k₂)
    (h : DifferInKey k₁ k₂ t₁ t₂) :
    Rule.apply (.whole "API_KEY" apiKey) t₁ = Rule.apply (.whole "API_KEY" apiKey) t₂ := by
  have hneighbours : ∀ d ∈ keyNeighbours, isTokenChar d = false := by decide
  rw [Rule.apply_eq_replaceAfter, Rule.apply_eq_replaceAfter, Rule.whole]
  dsimp only
  rcases h with rfl | ⟨u, w, hends, -, hw, rfl, rfl⟩
  · rfl
  rcases List.eq_nil_or_concat u with rfl | ⟨u, c, rfl⟩
  · rw [List.nil_append, List.nil_append, replaceAfter_apiKey hk₁ hw, replaceAfter_apiKey hk₂ hw]
  · have hc : isTokenChar c = false :=
      hneighbours c (hends c (by rw [List.concat_eq_append, List.getLast?_append]; rfl))
    have hkey {k : List Char} (hk : IsApiKey k) :
        Redaction.apiKey.replaceAfter (fun _ => placeholder "API_KEY") none
          (u.concat c ++ (k ++ w)) =
        Redaction.apiKey.replaceAfter (fun _ => placeholder "API_KEY") none u ++
          c :: (placeholder "API_KEY" ++
            Redaction.apiKey.replaceAfter (fun _ => placeholder "API_KEY") none w) := by
      rw [List.concat_append, replaceAfter_append (apiKey_separates (by rintro d ⟨⟩; exact hc) u),
        replaceAfter_cons (apiKey_of_not_token hc _ _), replaceAfter_apiKey hk hw]
    rw [hkey hk₁, hkey hk₂]

/-- A text reads the same once it is redacted, whichever key stands in it between blanks,
quotes or ends, and so does every message on every surface and at every length. -/
theorem shown_alike_of_keys {p s : List Char} (hk₁ : IsApiKey k₁) (hk₂ : IsApiKey k₂)
    (hp : EndsIn keyNeighbours p) (hs : BeginsIn keyNeighbours s) :
    let text key := String.ofList (p ++ key ++ s)
    redact (text k₁) = redact (text k₂) ∧
      ∀ (surface : Surface) (most : Nat),
        surface.renderMessage most (text k₁) = surface.renderMessage most (text k₂) := by
  intro text
  have hredact : redact (text k₁) = redact (text k₂) := by
    obtain ⟨later, hrules⟩ : ∃ later, rules = .whole "PRIVATE_KEY" privateKey ::
        .whole "CONNECTION_STRING" connectionString :: .whole "JWT" signedToken ::
        .whole "API_KEY" apiKey :: later :=
      ⟨_, rfl⟩
    have hstart : DifferInKey k₁ k₂ (text k₁).toList (text k₂).toList := by
      refine .inr ⟨p, s, hp, trivial, hs, ?_, ?_⟩
      · rw [String.toList_ofList, List.append_assoc]
      · rw [String.toList_ofList, List.append_assoc]
    have hkeys := ((hstart.privateKey hk₁ hk₂).connectionString hk₁ hk₂).signedToken hk₁ hk₂
    unfold redact redactChars
    rw [hrules]
    simp only [List.foldl_cons]
    rw [hkeys.apiKey hk₁ hk₂]
  refine ⟨hredact, fun surface most => ?_⟩
  rw [Surface.renderMessage, Surface.renderMessage, hredact]

/-- Keys of different lengths inside the password of an address. -/
theorem shown_alike_in_password :
    let text key := String.ofList ("x://u:'".toList ++ key ++ "'@host".toList)
    redact (text "sk_live_a1".toList) = redact (text "sk_live_b23".toList) ∧
      ∀ (surface : Surface) (most : Nat),
        surface.renderMessage most (text "sk_live_a1".toList) =
          surface.renderMessage most (text "sk_live_b23".toList) := by
  have hk₁ : IsApiKey "sk_live_a1".toList :=
    ⟨"sk", by decide, "live", by decide, "a1".toList, by decide, by decide, by decide⟩
  have hk₂ : IsApiKey "sk_live_b23".toList :=
    ⟨"sk", by decide, "live", by decide, "b23".toList, by decide, by decide, by decide⟩
  exact shown_alike_of_keys hk₁ hk₂ (by decide) (by decide)

end TraceCheck.Redaction
