import TraceCheck.Proofs.Redaction.Blocks
import TraceCheck.Proofs.Text.Ascii
import TraceCheck.Proofs.Unicode.Words

/-!
# Assigned credentials

An assignment to the name of a credential is found where it stands and its value is
replaced, as far as no quote or blank ends it.  Some words lay claim to what follows
them: the mark of an address, the word in front of a bearer token, and assignments
themselves.  In a text without such words nothing is found but cloud keys, and an
assignment behind it is read from its start.
-/

namespace TraceCheck.Redaction

open TraceCheck.Text TraceCheck.Unicode

/-! ## Words with a claim -/

/-- A word that lays claim to what follows it. -/
inductive ClaimsNext : List Char → Prop
  | address : ClaimsNext "://".toList
  | bearer {written : List Char} {blank : Char} (hword : written.map foldChar = "bearer".toList)
      (hblank : isBlank blank = true) : ClaimsNext (written ++ [blank])
  | assignment {name : String} (hname : name ∈ credentialNames) {written blanks : List Char}
      {sign : Char} (hword : written.map foldChar = name.toList)
      (hblanks : ∀ c ∈ blanks, isBlank c = true) (hsign : sign ∈ ['=', ':']) :
      ClaimsNext (written ++ (blanks ++ [sign]))

/-- No part of a text lays claim to what follows. -/
def IsPlain (text : List Char) : Prop :=
  ∀ w, ClaimsNext w → ¬ w <:+: text

/-- What may stand in front of an assignment: a space or an opening parenthesis. -/
def assignmentEnds : List Char := [' ', '(']

/-- What may stand behind an assignment: a space or a closing parenthesis. -/
def assignmentBegins : List Char := [' ', ')']

variable {w y z u : List Char}

/-- A character that does not fold to a letter of a word is not in the word. -/
theorem not_mem_of_map_foldChar {written word : List Char} (hword : written.map foldChar = word)
    {c : Char} (hc : foldChar c ∉ word) : c ∉ written := by
  intro hmem
  rw [← hword] at hc
  exact hc (List.mem_map_of_mem hmem)

/-- A claim consists of a word and the blanks and signs behind it. -/
theorem ClaimsNext.exists_split (hw : ClaimsNext w) : ∃ written behind, w = written ++ behind ∧
    (∀ c ∈ '*' :: assignmentEnds, c ∉ written) ∧
      ∀ c ∈ behind, isBlank c = true ∨ c ∈ ['=', ':'] := by
  cases hw with
  | address =>
      have hmark : ∀ c ∈ '*' :: assignmentEnds, c ∉ "://".toList := by decide
      exact ⟨_, [], (List.append_nil _).symm, hmark, List.forall_mem_nil _⟩
  | @bearer written blank hword hblank =>
      have hother : ∀ c ∈ '*' :: assignmentEnds, foldChar c ∉ "bearer".toList := by decide
      exact ⟨written, [blank], rfl, fun c hc => not_mem_of_map_foldChar hword (hother c hc),
        List.forall_mem_singleton.mpr (.inl hblank)⟩
  | @assignment name hname written blanks sign hword hblanks hsign =>
      have hother : ∀ name ∈ credentialNames, ∀ c ∈ '*' :: assignmentEnds,
          foldChar c ∉ name.toList := by
        decide
      refine ⟨written, blanks ++ [sign], rfl,
        fun c hc => not_mem_of_map_foldChar hword (hother name hname c hc), ?_⟩
      exact List.forall_mem_append.mpr ⟨fun c hc => .inl (hblanks c hc),
        List.forall_mem_singleton.mpr (.inr hsign)⟩

/-- A claim does not overlap placeholders. -/
theorem ClaimsNext.apart (hw : ClaimsNext w) {p : List Char} (hp : IsPlaceholder p) :
    Apart w p := by
  have hblank : ∀ c ∈ placeholderChars, isBlank c = false := by decide
  refine hp.apart ?_ ?_
  · obtain ⟨written, behind, rfl, hwritten, hbehind⟩ := hw.exists_split
    have hstar : ¬ (isBlank '*' = true ∨ '*' ∈ ['=', ':']) := by decide
    exact List.not_mem_append (hwritten '*' List.mem_cons_self) fun hmem => hstar (hbehind _ hmem)
  · cases hw with
    | address => exact ⟨'/', by decide, by decide⟩
    | @bearer written blank hword hspace =>
        refine ⟨blank, List.mem_append_right _ List.mem_cons_self, fun hmem => ?_⟩
        rw [hblank blank hmem] at hspace
        cases hspace
    | @assignment name hname written blanks sign hword hblanks hsign =>
        have hsigns : ∀ c ∈ ['=', ':'], c ∉ placeholderChars := by decide
        refine ⟨sign, ?_, hsigns sign hsign⟩
        exact List.mem_append_right _ (List.mem_append_right _ List.mem_cons_self)

theorem IsPlain.of_masks {old new : List Char} (hold : IsPlain old)
    (h : Masks IsPlaceholder old new) : IsPlain new :=
  fun w hw hinside => hold w hw (h.isInfix (fun _ hblock => hw.apart hblock) hinside)

/-- A claim does not reach over the end of a text in front of an assignment. -/
theorem ClaimsNext.prefix_of_prefix_append (hw : ClaimsNext w) (hne : y ≠ [])
    (hy : EndsIn assignmentEnds y)
    (hz : ∀ d ∈ z.head?, isBlank d = false ∧ d ∉ ['=', ':']) (h : w <+: y ++ z) : w <+: y := by
  rcases List.prefix_or_prefix_of_prefix h (List.prefix_append y z) with hpart | ⟨t, rfl⟩
  · exact hpart
  rw [List.prefix_append_right_inj] at h
  cases t with
  | nil =>
      rw [List.append_nil]
  | cons d t =>
      obtain ⟨written, behind, hsplit, hwritten, hbehind⟩ := hw.exists_split
      have hd : isBlank d = false ∧ d ∉ ['=', ':'] := by
        obtain ⟨rest, rfl⟩ := h
        exact hz d rfl
      obtain ⟨c, hc⟩ := Option.isSome_iff_exists.mp (List.getLast?_isSome.mpr hne)
      rcases List.append_eq_append_iff.mp hsplit with ⟨a, rfl, -⟩ | ⟨a, -, rfl⟩
      · -- The text ends inside the word.
        have hmem := List.mem_append_left a (List.mem_of_getLast? hc)
        exact absurd hmem (hwritten c (List.mem_cons_of_mem _ (hy c hc)))
      · -- The text ends inside the blanks, and no sign follows.
        rcases hbehind d (List.mem_append_right a List.mem_cons_self) with hblank | hsign
        · rw [hd.1] at hblank
          cases hblank
        · exact absurd hsign hd.2

/-- A shape that looks for claims finds nothing in a text without them. -/
theorem replaceAfter_isPlain {shape : Shape} {f : List Char → List Char}
    (hclaims : ∀ before cs n, shape before cs = .hit n → ∃ w, ClaimsNext w ∧ w <+: cs)
    (hmiss : ∀ before cs, (∀ n, shape before cs ≠ .hit n) → shape before cs = .miss 1)
    (hu : IsPlain u) (hends : EndsIn assignmentEnds u)
    (hz : ∀ d ∈ z.head?, isBlank d = false ∧ d ∉ ['=', ':']) (before : Option Char) :
    shape.replaceAfter f before (u ++ z) =
      u ++ shape.replaceAfter f (u.getLast?.or before) z := by
  refine replaceAfter_append_of_miss fun x y hsplit hne => ?_
  have hy : EndsIn assignmentEnds y := by
    intro c hc
    refine hends c ?_
    rw [← hsplit, List.getLast?_append, Option.mem_def.mp hc]
    rfl
  refine ⟨1, List.length_pos_iff.mpr hne, hmiss _ _ fun n hhit => ?_⟩
  obtain ⟨w, hw, hstarts⟩ := hclaims _ _ n hhit
  have hstands := hw.prefix_of_prefix_append hne hy hz hstarts
  exact hu w hw (hstands.isInfix.trans (hsplit ▸ (List.suffix_append x y).isInfix))

/-- Inside a text of letters and digits no word begins. -/
theorem eq_nil_of_startsWord {v x : List Char} {before : Option Char}
    (hv : ∀ c ∈ v, c.isAlphanum = true) (hsplit : x ++ y = v)
    (hstart : startsWord (x.getLast?.or before) = true) : x = [] := by
  rcases List.eq_nil_or_concat x with rfl | ⟨x, c, rfl⟩
  · rfl
  have hmem : c ∈ v := by
    rw [← hsplit, List.concat_eq_append]
    exact List.mem_append_left _ (List.mem_append_right x List.mem_cons_self)
  rw [List.concat_eq_append, List.getLast?_append] at hstart
  change (!isWord c) = true at hstart
  rw [isWord_of_isAlphanum (hv c hmem)] at hstart
  cases hstart

/-! ## Cloud keys -/

/-- A cloud access key. -/
def IsCloudKey (key : List Char) : Prop :=
  ∃ start ∈ ["AKIA", "ASIA"], ∃ body : List Char, body.length = 16 ∧
    (∀ c ∈ body, (c.isDigit || c.isUpper) = true) ∧ key = start.toList ++ body

theorem IsCloudKey.length_eq (hw : IsCloudKey w) : w.length = 20 := by
  obtain ⟨start, hstart, body, hbody, -, rfl⟩ := hw
  have hlength : ∀ start ∈ ["AKIA", "ASIA"], start.toList.length = 4 := by decide
  rw [List.length_append, hlength start hstart, hbody]

theorem IsCloudKey.isAlphanum_of_mem (hw : IsCloudKey w) : ∀ c ∈ w, c.isAlphanum = true := by
  obtain ⟨start, hstart, body, -, hbody, rfl⟩ := hw
  have hletters : ∀ start ∈ ["AKIA", "ASIA"], ∀ c ∈ start.toList, c.isAlphanum = true := by
    decide
  refine List.forall_mem_append.mpr ⟨hletters start hstart, fun c hc => ?_⟩
  rcases (Bool.or_eq_true _ _).mp (hbody c hc) with hdigit | hupper
  · exact (Bool.or_eq_true _ _).mpr (.inr hdigit)
  · exact (Bool.or_eq_true _ _).mpr (.inl ((Bool.or_eq_true _ _).mpr (.inl hupper)))

theorem IsCloudKey.isWord_of_mem (hw : IsCloudKey w) : ∀ c ∈ w, isWord c = true :=
  fun c hc => isWord_of_isAlphanum (hw.isAlphanum_of_mem c hc)

theorem IsCloudKey.head? (hw : IsCloudKey w) : w.head? = some 'A' := by
  obtain ⟨start, hstart, body, -, -, rfl⟩ := hw
  have hletter : ∀ start ∈ ["AKIA", "ASIA"], start.toList.head? = some 'A' := by decide
  rw [List.head?_append, hletter start hstart]
  rfl

/-- A cloud key is found between the ends of words. -/
theorem cloudKey_eq_hit_iff {before : Option Char} {cs : List Char} {n : Nat} :
    cloudKey before cs = .hit n ↔ n = 20 ∧ startsWord before = true ∧
      ∃ key rest, IsCloudKey key ∧ cs = key ++ rest ∧ endsWord rest = true := by
  have hlength : ∀ start ∈ ["AKIA", "ASIA"], start.toList.length = 4 := by decide
  unfold cloudKey
  rw [Remainder.probe_eq_hit_iff]
  constructor
  · rintro ⟨r, hr, rfl⟩
    obtain ⟨r₁, hstart, hbody⟩ := Option.bind_eq_some_iff.mp hr
    obtain ⟨start, hmem, rfl, hpassed⟩ := (findSome?_after?_eq_some_iff hlength).mp hstart
    obtain ⟨hcond, hr⟩ := Option.ite_none_right_eq_some.mp hbody
    simp only [Bool.and_eq_true, decide_eq_true_eq, List.all_eq_true] at hcond
    obtain ⟨⟨⟨hbefore, hbody⟩, hall⟩, hend⟩ := hcond
    injection hr with hr
    rw [← hr, hpassed]
    refine ⟨rfl, hbefore, _, _, ⟨start, hmem, _, hbody, hall, rfl⟩, ?_, hend⟩
    rw [List.append_assoc, List.take_append_drop]
  · rintro ⟨rfl, hbefore, key, rest, ⟨start, hmem, body, hbody, hall, rfl⟩, rfl, hend⟩
    have hstart := (findSome?_after?_eq_some_iff (r := ⟨4, body ++ rest⟩) hlength).mpr
      ⟨start, hmem, List.append_assoc _ _ _, rfl⟩
    refine ⟨⟨20, rest⟩, Option.bind_eq_some_iff.mpr ⟨_, hstart, ?_⟩, rfl⟩
    dsimp only
    rw [List.take_left' hbody, List.drop_left' hbody]
    refine Option.ite_none_right_eq_some.mpr ⟨?_, rfl⟩
    simp only [Bool.and_eq_true, decide_eq_true_eq, List.all_eq_true]
    exact ⟨⟨⟨hbefore, hbody⟩, hall⟩, hend⟩

theorem cloudKey_of_not_hit {before : Option Char} {cs : List Char}
    (h : ∀ n, cloudKey before cs ≠ .hit n) : cloudKey before cs = .miss 1 :=
  Remainder.probe_of_not_hit h

/-- A cloud key begins with a capital. -/
theorem cloudKey_of_ne {d : Char} (hd : d ≠ 'A') (before : Option Char) (t : List Char) :
    cloudKey before (d :: t) = .miss 1 := by
  refine cloudKey_of_not_hit fun n hhit => hd ?_
  obtain ⟨-, -, key, rest, hkey, hsplit, -⟩ := cloudKey_eq_hit_iff.mp hhit
  have hhead := congrArg List.head? hsplit
  rw [List.head?_append, hkey.head?] at hhead
  injection hhead

theorem endsWord_append {rest : List Char} (hz : ∀ c ∈ z.head?, isWord c = false) :
    endsWord (rest ++ z) = endsWord rest := by
  cases rest with
  | nil =>
      cases z with
      | nil => rfl
      | cons c z =>
          change (!isWord c) = true
          rw [hz c rfl]
          rfl
  | cons c rest => rfl

/-- A cloud key ends where a word ends. -/
theorem IsCloudKey.prefix_of_prefix_append (hw : IsCloudKey w)
    (hz : ∀ c ∈ z.head?, isWord c = false) (h : w <+: y ++ z) : w <+: y := by
  refine Remainder.prefix_of_prefix_append (fun c hc hmem => ?_) h
  exact Bool.false_ne_true ((hz c hc).symm.trans (hw.isWord_of_mem c hmem))

theorem cloudKey_append {before : Option Char} (hz : ∀ c ∈ z.head?, isWord c = false) {n : Nat} :
    cloudKey before (y ++ z) = .hit n ↔ cloudKey before y = .hit n := by
  rw [cloudKey_eq_hit_iff, cloudKey_eq_hit_iff]
  refine and_congr_right fun _ => and_congr_right fun _ => ⟨?_, ?_⟩
  · rintro ⟨key, rest, hkey, hsplit, hend⟩
    obtain ⟨rest', rfl⟩ := hkey.prefix_of_prefix_append hz (hsplit ▸ List.prefix_append key rest)
    rw [List.append_assoc, List.append_cancel_left_eq] at hsplit
    rw [← hsplit, endsWord_append hz] at hend
    exact ⟨key, rest', hkey, rfl, hend⟩
  · rintro ⟨key, rest, hkey, rfl, hend⟩
    exact ⟨key, rest ++ z, hkey, List.append_assoc _ _ _, (endsWord_append hz).trans hend⟩

theorem cloudKey_separates {before : Option Char} (hz : ∀ c ∈ z.head?, isWord c = false)
    (u : List Char) : cloudKey.Separates before u z := by
  intro x y _ hy
  by_cases hhit : ∃ n, cloudKey (x.getLast?.or before) y = .hit n
  · obtain ⟨n, hhit⟩ := hhit
    rw [(cloudKey_append hz).mpr hhit, hhit]
    obtain ⟨rfl, -, key, rest, hkey, rfl, -⟩ := cloudKey_eq_hit_iff.mp hhit
    refine ⟨rfl, ?_⟩
    rw [List.length_append, hkey.length_eq]
    exact Nat.le_add_right 20 _
  · have hmiss := cloudKey_of_not_hit (not_exists.mp hhit)
    have hmore : cloudKey (x.getLast?.or before) (y ++ z) = .miss 1 :=
      cloudKey_of_not_hit fun n h => hhit ⟨n, (cloudKey_append hz).mp h⟩
    rw [hmiss, hmore]
    exact ⟨rfl, List.length_pos_iff.mpr hy⟩

/-- A value of letters and digits stays, or is a cloud key. -/
theorem replaceAfter_cloudKey_value {v : List Char} (hv : ∀ c ∈ v, c.isAlphanum = true)
    (hz : ∀ c ∈ z.head?, isWord c = false) (f : List Char → List Char) (before : Option Char) :
    ∃ v' ∈ [v, f v], cloudKey.replaceAfter f before (v ++ z) =
      v' ++ cloudKey.replaceAfter f (v.getLast?.or before) z := by
  by_cases hhit : ∃ n, cloudKey before v = .hit n
  · obtain ⟨n, hhit⟩ := hhit
    have hhit' := (cloudKey_append hz).mpr hhit
    obtain ⟨rfl, -, key, rest, hkey, rfl, hend⟩ := cloudKey_eq_hit_iff.mp hhit
    have hrest : rest = [] := by
      cases rest with
      | nil => rfl
      | cons c rest =>
          have hword := isWord_of_isAlphanum (hv c (List.mem_append_right _ List.mem_cons_self))
          change (!isWord c) = true at hend
          rw [hword] at hend
          cases hend
    subst hrest
    rw [List.append_nil] at hhit' ⊢
    refine ⟨_, List.mem_cons_of_mem _ List.mem_cons_self, ?_⟩
    exact replaceAfter_of_hit hhit' (by rw [hkey.length_eq]; rfl)
  · refine ⟨v, List.mem_cons_self, replaceAfter_append_of_miss fun x y hsplit hne => ?_⟩
    refine ⟨1, List.length_pos_iff.mpr hne, cloudKey_of_not_hit fun n h => hhit ⟨n, ?_⟩⟩
    rw [cloudKey_append hz] at h
    obtain ⟨-, hstart, -⟩ := cloudKey_eq_hit_iff.mp h
    obtain rfl := eq_nil_of_startsWord hv hsplit hstart
    rwa [← hsplit]

/-! ## Bearer tokens -/

/-- A bearer token is found behind its word, which begins at the start of a word. -/
theorem bearerToken_of_hit {before : Option Char} {cs : List Char} {n : Nat}
    (h : bearerToken before cs = .hit n) : startsWord before = true ∧
      ∃ written blank rest, written.map foldChar = "bearer".toList ∧ isBlank blank = true ∧
        cs = written ++ blank :: rest := by
  obtain ⟨r, hr, -⟩ := Remainder.probe_eq_hit_iff.mp h
  obtain ⟨r₁, hword, hr⟩ := Option.bind_eq_some_iff.mp hr
  obtain ⟨r₂, hblanks, hr⟩ := Option.bind_eq_some_iff.mp hr
  obtain ⟨r₃, -, hr⟩ := Option.bind_eq_some_iff.mp hr
  obtain ⟨hbefore, -⟩ := Option.ite_none_right_eq_some.mp hr
  obtain ⟨written, hsplit, hfold, -⟩ := Remainder.afterFolded?_eq_some_iff.mp hword
  obtain ⟨hrun, -⟩ := Remainder.afterRun?_eq_some_iff.mp hblanks
  obtain ⟨blank, rest, hrest⟩ := List.exists_cons_of_length_pos hrun
  have hblank : isBlank blank = true :=
    List.all_eq_true.mp List.all_takeWhile blank (hrest ▸ List.mem_cons_self)
  obtain ⟨t, ht⟩ : blank :: rest <+: r₁.rest := hrest ▸ List.takeWhile_prefix isBlank
  refine ⟨hbefore, written, blank, rest ++ t, hfold, hblank, ?_⟩
  change cs = _ at hsplit
  rw [hsplit, ← ht]
  rfl

theorem claimsNext_of_bearerToken (before : Option Char) (cs : List Char) (n : Nat)
    (h : bearerToken before cs = .hit n) : ∃ w, ClaimsNext w ∧ w <+: cs := by
  obtain ⟨-, written, blank, rest, hword, hblank, rfl⟩ := bearerToken_of_hit h
  refine ⟨_, .bearer hword hblank, rest, ?_⟩
  rw [List.append_assoc, List.singleton_append]

theorem bearerToken_of_not_hit (before : Option Char) (cs : List Char)
    (h : ∀ n, bearerToken before cs ≠ .hit n) : bearerToken before cs = .miss 1 :=
  Remainder.probe_of_not_hit h

/-- The word of a bearer token has a first letter. -/
theorem bearerToken_of_ne {d : Char} (hd : foldChar d ≠ 'b') (before : Option Char)
    (t : List Char) : bearerToken before (d :: t) = .miss 1 := by
  refine bearerToken_of_not_hit _ _ fun n hhit => hd ?_
  obtain ⟨-, written, blank, rest, hword, -, hsplit⟩ := bearerToken_of_hit hhit
  have hstart : "bearer".toList = 'b' :: "earer".toList := by decide
  rw [hstart] at hword
  obtain ⟨c, written', rfl, hc, -⟩ := List.map_eq_cons_iff.mp hword
  injection hsplit with hdc
  rw [hdc, hc]

/-- A value of letters and digits is no bearer token and no word in front of one, unless
it is that word. -/
theorem replaceAfter_bearerToken_value {v : List Char} (hv : ∀ c ∈ v, c.isAlphanum = true)
    (hword : v.map foldChar ≠ "bearer".toList) (hz : BeginsIn assignmentBegins z)
    (f : List Char → List Char) (before : Option Char) :
    bearerToken.replaceAfter f before (v ++ z) =
      v ++ bearerToken.replaceAfter f (v.getLast?.or before) z := by
  refine replaceAfter_append_of_miss fun x y hsplit hne => ?_
  refine ⟨1, List.length_pos_iff.mpr hne, bearerToken_of_not_hit _ _ fun n hhit => ?_⟩
  obtain ⟨hstart, written, blank, rest, hfold, hblank, hcs⟩ := bearerToken_of_hit hhit
  obtain rfl := eq_nil_of_startsWord hv hsplit hstart
  obtain rfl : y = v := hsplit
  -- Neither is the word longer than the value nor does a blank stand in the value.
  have hletters : ∀ c ∈ assignmentBegins, foldChar c ∉ "bearer".toList := by decide
  obtain ⟨t, rfl⟩ : written <+: y := by
    refine Remainder.prefix_of_prefix_append (fun c hc => ?_)
      (hcs ▸ List.prefix_append written (blank :: rest))
    exact not_mem_of_map_foldChar hfold (hletters c (hz c hc))
  rw [List.append_assoc, List.append_cancel_left_eq] at hcs
  cases t with
  | nil =>
      rw [List.append_nil] at hword
      exact hword hfold
  | cons d t =>
      injection hcs with hd
      have halnum := hv d (List.mem_append_right written List.mem_cons_self)
      have hother : isBlank d = false := by
        have hall := of_isAlphanum (p := fun c => !isBlank c) (by decide) halnum
        exact (Bool.not_eq_true' _).mp hall
      rw [hd, hblank] at hother
      cases hother

/-! ## Credentials -/

/-- The names of attributes that hold credentials. -/
def assignedNames : List String :=
  ["password", "passwd", "pwd", "secret", "token", "api_key"]

/-- The text in front of an assigned value, with the spaces that belong to it. -/
def IsLead (lead : List Char) : Prop :=
  ∃ name ∈ assignedNames,
    ∃ (front behind : Nat) (sign : Char), sign ∈ ['=', ':'] ∧
      lead = name.toList ++ (List.replicate front ' ' ++ sign :: List.replicate behind ' ')

theorem foldChar_of_isBlank {d : Char} (hd : isBlank d = true) : foldChar d = d := by
  have hlong : d ≠ '\u017f' := by
    rintro rfl
    exact absurd hd (by decide)
  have hkelvin : d ≠ '\u212a' := by
    rintro rfl
    exact absurd hd (by decide)
  have hcapital : ¬ (d.val ≥ 'A'.val ∧ d.val ≤ 'Z'.val) := by
    rintro ⟨hlow, hhigh⟩
    have hlow : 65 ≤ d.toNat := UInt32.le_iff_toNat_le.mp hlow
    have hhigh : d.toNat ≤ 90 := UInt32.le_iff_toNat_le.mp hhigh
    simp only [isBlank, Bool.or_eq_true, Bool.and_eq_true, decide_eq_true_eq, beq_iff_eq] at hd
    omega
  rw [foldChar, if_neg hlong, if_neg hkelvin]
  exact dif_neg hcapital

/-- The letters that the names of credentials begin with. -/
def nameStarts : List Char := ['p', 's', 't', 'a']

/-- What ends a value begins no name. -/
theorem not_mem_nameStarts_of_not_isValueChar {d : Char} (hd : isValueChar d = false) :
    foldChar d ∉ nameStarts := by
  simp only [isValueChar, Bool.not_eq_false', Bool.or_eq_true, beq_iff_eq] at hd
  have hblank : isBlank d = true → foldChar d ∉ nameStarts := by
    have hletters : ∀ c ∈ nameStarts, isBlank c = false := by decide
    intro hd hmem
    rw [foldChar_of_isBlank hd] at hmem
    rw [hletters d hmem] at hd
    cases hd
  rcases hd with (((hd | rfl) | rfl) | rfl) | rfl
  · exact hblank hd
  · decide
  · decide
  · decide
  · decide

/-- An assigned credential begins with its name and the sign behind it. -/
theorem claimsNext_of_afterAssignment? {cs : List Char} {r : Remainder}
    (h : afterAssignment? (.whole cs) = some r) :
    (∃ w, ClaimsNext w ∧ w <+: cs) ∧ ∀ c ∈ cs.head?, foldChar c ∈ nameStarts := by
  obtain ⟨r₁, hname, hsign⟩ := Option.bind_eq_some_iff.mp h
  obtain ⟨name, hmem, hfold⟩ := List.exists_of_findSome?_eq_some hname
  obtain ⟨written, hsplit, hword, -⟩ := Remainder.afterFolded?_eq_some_iff.mp hfold
  change cs = _ at hsplit
  rw [Remainder.afterWhile_eq] at hsign
  constructor
  · cases hrest : r₁.rest.dropWhile isBlank with
    | nil =>
        rw [hrest] at hsign
        cases hsign
    | cons sign rest =>
        rw [hrest] at hsign
        obtain ⟨hsign, -⟩ := Option.ite_none_right_eq_some.mp hsign
        have hsigns : sign ∈ ['=', ':'] := by
          rcases hsign with rfl | rfl
          · exact List.mem_cons_self
          · exact List.mem_cons_of_mem _ List.mem_cons_self
        have hblanks : ∀ c ∈ r₁.rest.takeWhile isBlank, isBlank c = true := fun c hc =>
          List.all_eq_true.mp List.all_takeWhile c hc
        refine ⟨_, .assignment hmem hword hblanks hsigns, rest, ?_⟩
        rw [hsplit, List.append_assoc, List.append_assoc, List.singleton_append, ← hrest,
          List.takeWhile_append_dropWhile]
  · have hstarts : ∀ name ∈ credentialNames,
        name.toList.head?.any (· ∈ nameStarts) = true := by
      decide
    have hstart := hstarts name hmem
    rw [← hword] at hstart
    rw [hsplit]
    cases written with
    | nil => cases hstart
    | cons d written =>
        rintro c ⟨⟩
        exact of_decide_eq_true hstart

theorem claimsNext_of_credential (before : Option Char) (cs : List Char) (n : Nat)
    (h : credential before cs = .hit n) : ∃ w, ClaimsNext w ∧ w <+: cs := by
  obtain ⟨r, hr, -⟩ := Remainder.probe_eq_hit_iff.mp h
  obtain ⟨r₁, hassign, -⟩ := Option.bind_eq_some_iff.mp hr
  exact (claimsNext_of_afterAssignment? hassign).1

theorem credential_of_not_hit (before : Option Char) (cs : List Char)
    (h : ∀ n, credential before cs ≠ .hit n) : credential before cs = .miss 1 :=
  Remainder.probe_of_not_hit h

/-- The name of a credential has a first letter. -/
theorem credential_of_not_mem {d : Char} (hd : foldChar d ∉ nameStarts) (before : Option Char)
    (t : List Char) : credential before (d :: t) = .miss 1 := by
  refine credential_of_not_hit _ _ fun n hhit => hd ?_
  obtain ⟨r, hr, -⟩ := Remainder.probe_eq_hit_iff.mp hhit
  obtain ⟨r₁, hassign, -⟩ := Option.bind_eq_some_iff.mp hr
  exact (claimsNext_of_afterAssignment? hassign).2 d rfl

variable {lead value : List Char}

/-- The name and the sign of an assignment are passed with the spaces around the sign. -/
theorem afterAssignment?_lead (hlead : IsLead lead) (hz : ∀ c ∈ z.head?, isBlank c = false) :
    afterAssignment? (.whole (lead ++ z)) = some ⟨lead.length, z⟩ := by
  obtain ⟨name, hname, front, behind, sign, hsign, rfl⟩ := hlead
  have hfold : ∀ name ∈ assignedNames, ∀ t : List Char, (credentialNames.findSome? fun n =>
        (Remainder.whole (name.toList ++ t)).afterFolded? foldChar n.toList) =
          some ⟨name.toList.length, t⟩ := by
    simp only [assignedNames, List.forall_mem_cons]
    refine ⟨fun _ => rfl, fun _ => rfl, fun _ => rfl, fun _ => rfl, fun _ => rfl, fun _ => rfl, ?_⟩
    exact List.forall_mem_nil _
  have hspaces (n : Nat) {t : List Char} (ht : ∀ c ∈ t.head?, isBlank c = false) (m : Nat) :
      (Remainder.mk m (List.replicate n ' ' ++ t)).afterWhile isBlank = ⟨m + n, t⟩ := by
    have hspace : ∀ c ∈ List.replicate n ' ', isBlank c = true := by
      intro c hc
      rw [List.eq_of_mem_replicate hc]
      decide
    change ((Remainder.mk m (List.replicate n ' ')).followedBy t).afterWhile isBlank = _
    rw [Remainder.afterWhile_followedBy (.inl ht), Remainder.afterWhile_eq,
      List.takeWhile_eq_self_iff.mpr hspace, List.dropWhile_eq_nil_iff.mpr hspace,
      List.length_replicate]
    rfl
  have hblank : ∀ c ∈ ['=', ':'], isBlank c = false := by decide
  unfold afterAssignment?
  rw [List.append_assoc, hfold name hname, Option.bind_eq_bind, Option.bind_some,
    List.append_assoc, List.cons_append, hspaces front (by rintro c ⟨⟩; exact hblank _ hsign)]
  dsimp only
  rw [if_pos, hspaces behind hz]
  · simp only [List.length_append, List.length_cons, List.length_replicate]
    congr 2
    omega
  · simpa using hsign

theorem credentialName_lead (hlead : IsLead lead) (hz : ∀ c ∈ z.head?, isBlank c = false) :
    credentialName (lead ++ z) = lead := by
  rw [credentialName, afterAssignment?_lead hlead hz]
  exact List.take_left

theorem isBlank_of_isValueChar {c : Char} (hc : isValueChar c = true) : isBlank c = false := by
  cases hblank : isBlank c with
  | false => rfl
  | true =>
      rw [isValueChar, hblank] at hc
      cases hc

/-- What takes the place of an assigned credential. -/
def hideValue (piece : List Char) : List Char :=
  credentialName piece ++ placeholder "SECRET"

/-- A value that is assigned to a credential is replaced, whatever it is. -/
theorem replaceAfter_credential_lead {before : Option Char} (hbefore : startsWord before = true)
    (hlead : IsLead lead) (hne : value ≠ []) (hvalue : ∀ c ∈ value, isValueChar c = true) :
    credential.replaceAfter hideValue before (lead ++ (value ++ z)) =
      lead ++ (placeholder "SECRET" ++
        credential.replaceAfter hideValue none (z.dropWhile isValueChar)) := by
  have hblank (t : List Char) : ∀ c ∈ (value ++ t).head?, isBlank c = false := by
    obtain ⟨d, value, rfl⟩ := List.exists_cons_of_ne_nil hne
    rintro c ⟨⟩
    exact isBlank_of_isValueChar (hvalue _ List.mem_cons_self)
  let piece := lead ++ (value ++ z.takeWhile isValueChar)
  have hsplit : lead ++ (value ++ z) = piece ++ z.dropWhile isValueChar := by
    simp only [piece, List.append_assoc, List.takeWhile_append_dropWhile]
  have hrun : (Remainder.mk lead.length (value ++ z)).afterRun? isValueChar 1 =
      some ⟨piece.length, z.dropWhile isValueChar⟩ := by
    have hpos := List.length_pos_iff.mpr hne
    refine Remainder.afterRun?_eq_some_iff.mpr ⟨?_, ?_⟩
    · rw [List.takeWhile_append_of_pos hvalue, List.length_append]
      omega
    · rw [List.takeWhile_append_of_pos hvalue, List.dropWhile_append_of_pos hvalue]
      simp only [piece, List.length_append]
  have hhit : credential before (piece ++ z.dropWhile isValueChar) = .hit piece.length := by
    unfold credential
    rw [← hsplit, afterAssignment?_lead hlead (hblank z)]
    dsimp only [Option.bind_eq_bind, Option.bind_some]
    rw [hrun, Option.bind_some, if_pos hbefore]
    rfl
  have hstop : ∀ d ∈ (z.dropWhile isValueChar).head?, ∀ before t,
      credential before (d :: t) = .miss 1 := by
    intro d hd
    have hends := List.head?_dropWhile_not isValueChar z
    rw [Option.mem_def.mp hd] at hends
    exact credential_of_not_mem (not_mem_nameStarts_of_not_isValueChar hends)
  have hpiece : piece.length = max 1 piece.length := by
    have hpos := List.length_pos_iff.mpr hne
    simp only [piece, List.length_append]
    omega
  rw [hsplit, replaceAfter_of_hit hhit hpiece, replaceAfter_of_stop hstop _ none, hideValue,
    credentialName_lead hlead (hblank _), List.append_assoc]

end TraceCheck.Redaction
