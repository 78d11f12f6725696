import TraceCheck.Pattern.Basic
import TraceCheck.Proofs.Pattern.Outline

/-!
# What the guard of patterns lets through

The guard knows backslashes, but no brackets and no groups.  Along the outline of a pattern its
count of open parentheses never falls behind by more than the closing parentheses that it
passes, so each of these hides at most one level: those that close a group are paid for, and
only those in brackets and comments let a deeper pattern through.  Of two repetitions one
inside the other the guard sees those with no parenthesis between them.
-/

namespace TraceCheck.Pattern

open Regex

/-! ## Counting parentheses -/

/-- What is counted along a text: whether the next character is escaped, how many parentheses
are open, how many were open at most, and how many closing ones there were. -/
structure Tally where
  escaped : Bool
  depth : Nat
  deepest : Nat
  closed : Nat

namespace Tally

/-- Nothing was passed. -/
def start : Tally := ⟨false, 0, 0, 0⟩

/-- Count one character. -/
def pass (n : Tally) (c : Char) : Tally :=
  if n.escaped then { n with escaped := false }
  else if c = '\\' then { n with escaped := true }
  else if c = '(' then { n with depth := n.depth + 1, deepest := max n.deepest (n.depth + 1) }
  else if c = ')' then { n with depth := n.depth - 1, closed := n.closed + 1 }
  else n

/-- Count the characters of a text. -/
def passAll (n : Tally) (cs : List Char) : Tally :=
  cs.foldl pass n

end Tally

/-- How many closing parentheses of a text are not behind a backslash. -/
def closings (cs : List Char) : Nat :=
  (Tally.start.passAll cs).closed

namespace Tally

variable {n m k : Tally}

@[simp] theorem passAll_nil (n : Tally) : n.passAll [] = n := rfl

@[simp] theorem passAll_cons (n : Tally) (c : Char) (cs : List Char) :
    n.passAll (c :: cs) = (n.pass c).passAll cs := rfl

@[simp] theorem passAll_append (n : Tally) (u v : List Char) :
    n.passAll (u ++ v) = (n.passAll u).passAll v :=
  List.foldl_append

theorem escaped_pass (n : Tally) (c : Char) :
    (n.pass c).escaped = (!n.escaped && c == '\\') := by
  unfold pass
  cases hn : n.escaped with
  | true => rfl
  | false =>
      by_cases hc : c = '\\'
      · rw [if_neg Bool.false_ne_true, if_pos hc, hc]
        rfl
      · rw [if_neg Bool.false_ne_true, if_neg hc, beq_false_of_ne hc]
        split
        · rfl
        split
        · rfl
        · exact hn

theorem escaped_passAll (h : n.escaped = false) (cs : List Char) :
    (n.passAll cs).escaped = endsEscaped cs := by
  unfold endsEscaped
  rw [← h]
  clear h
  induction cs generalizing n with
  | nil => rfl
  | cons c cs ih => rw [passAll_cons, List.foldl_cons, ih, escaped_pass]

theorem pass_open (h : n.escaped = false) :
    n.pass '(' = { n with depth := n.depth + 1, deepest := max n.deepest (n.depth + 1) } := by
  rw [pass, h]
  rfl

theorem pass_close (h : n.escaped = false) :
    n.pass ')' = { n with depth := n.depth - 1, closed := n.closed + 1 } := by
  rw [pass, h]
  rfl

theorem escaped_open (h : n.escaped = false) : (n.pass '(').escaped = false := by
  rw [pass_open h, h]

theorem escaped_close (h : n.escaped = false) : (n.pass ')').escaped = false := by
  rw [pass_close h, h]

end Tally

theorem groupDepth_eq (cs : List Char) : groupDepth cs = (Tally.start.passAll cs).deepest := by
  suffices hgo : ∀ n : Tally, groupDepth.go cs n.escaped n.depth n.deepest =
      (n.passAll cs).deepest from hgo Tally.start
  induction cs with
  | nil => exact fun n => by rw [groupDepth.go, Tally.passAll_nil]
  | cons c cs ih =>
      intro n
      rw [Tally.passAll_cons, ← ih, Tally.pass]
      cases hn : n.escaped with
      | true => rw [groupDepth.go, if_pos rfl]
      | false =>
          rw [groupDepth.go, if_neg Bool.false_ne_true]
          split
          · rfl
          split
          · rfl
          split
          · rfl
          · rw [hn]

/-! ## Counting along an outline -/

/-- What counting on never takes back: the closing parentheses, the open ones together with
them, and the most that were open. -/
structure Tally.Grows (n m : Tally) : Prop where
  closed : n.closed ≤ m.closed
  opened : n.depth + n.closed ≤ m.depth + m.closed
  deepest : n.deepest ≤ m.deepest

theorem Tally.grows_pass (n : Tally) (c : Char) : n.Grows (n.pass c) := by
  unfold Tally.pass
  split
  · exact ⟨le_rfl, le_rfl, le_rfl⟩
  split
  · exact ⟨le_rfl, le_rfl, le_rfl⟩
  split
  · exact ⟨le_rfl, by dsimp only; omega, le_max_left _ _⟩
  split
  · exact ⟨Nat.le_succ _, by dsimp only; omega, le_rfl⟩
  · exact ⟨le_rfl, le_rfl, le_rfl⟩

theorem Tally.grows_passAll (n : Tally) (cs : List Char) : n.Grows (n.passAll cs) := by
  induction cs generalizing n with
  | nil => exact ⟨le_rfl, le_rfl, le_rfl⟩
  | cons c cs ih =>
      have hpass := n.grows_pass c
      have hrest := ih (n.pass c)
      exact ⟨hpass.closed.trans hrest.closed, hpass.opened.trans hrest.opened,
        hpass.deepest.trans hrest.deepest⟩

/-- What the count along an outline shows of it: each pair of parentheses adds to what was
opened and to what was closed, and the most that were open falls short of the depth by the
closing parentheses at most. -/
structure Shows (o : Outline) (n m : Tally) : Prop where
  closed : n.closed + o.pairs ≤ m.closed
  opened : n.depth + n.closed + o.pairs ≤ m.depth + m.closed
  deepest : n.deepest ≤ m.deepest
  depth : o.depth = 0 ∨ n.depth + n.closed + o.depth + o.pairs ≤ m.deepest + m.closed

/-- What comes next is not escaped, or there is nothing. -/
def Tally.Ready (n : Tally) (later : List Char) : Prop :=
  later = [] ∨ n.escaped = false

variable {n m k l : Tally} {o body rest : Outline} {tail : List Char}

theorem Tally.Ready.passAll {u later : List Char} (hn : n.Ready (u ++ later))
    (hu : Settled u later) : (n.passAll u).Ready later := by
  rcases hn with hnil | hn
  · exact .inl (List.append_eq_nil_iff.mp hnil).2
  · exact hu.imp_right (Tally.escaped_passAll hn u).trans

theorem Tally.Ready.cons {c : Char} {later : List Char} (hn : n.Ready (c :: later)) :
    n.escaped = false :=
  hn.resolve_left (List.cons_ne_nil c later)

/-- Where a part only grows the count, what is behind it shows the same. -/
theorem Tally.Grows.shows (hgrows : n.Grows m) (h : Shows o m k) : Shows o n k := by
  obtain ⟨hclosed, hopened, hdeepest⟩ := hgrows
  obtain ⟨hclosed', hopened', hdeepest', hdepth⟩ := h
  exact ⟨by omega, by omega, by omega, hdepth.imp_right fun hdepth => by omega⟩

theorem Shows.done (n : Tally) : Shows .done n n :=
  ⟨le_rfl, le_rfl, le_rfl, .inl rfl⟩

/-- A pair of parentheses around a body, with something behind it. -/
theorem Shows.group (opening : List Char) (hn : n.escaped = false) (hm : m.escaped = false)
    (hopening : (n.pass '(').Grows k) (hbody : Shows body k m)
    (hrest : Shows rest (m.pass ')') l) : Shows (.group opening body rest) n l := by
  obtain ⟨hclosed, hopened, hdeepest⟩ := hopening
  rw [Tally.pass_open hn] at hclosed hopened hdeepest
  obtain ⟨hclosed', hopened', hdeepest', hdepth'⟩ := hbody
  obtain ⟨hclosed'', hopened'', hdeepest'', hdepth''⟩ := hrest
  rw [Tally.pass_close hm] at hclosed'' hopened'' hdeepest'' hdepth''
  dsimp only at hclosed hopened hdeepest hclosed'' hopened'' hdeepest'' hdepth''
  refine ⟨?_, ?_, ?_, .inr ?_⟩
  · rw [Outline.pairs]
    omega
  · rw [Outline.pairs]
    omega
  · omega
  · rw [Outline.pairs, Outline.depth]
    omega

/-- Pass a part other than a group. -/
theorem shows_behind {u : List Char} (hn : n.Ready (u ++ (o.text ++ tail)))
    (hu : Settled u (o.text ++ tail))
    (ih : ∀ n : Tally, n.Ready (o.text ++ tail) →
      Shows o n (n.passAll o.text) ∧ (n.passAll o.text).Ready tail) :
    Shows o n (n.passAll (u ++ o.text)) ∧ (n.passAll (u ++ o.text)).Ready tail := by
  rw [Tally.passAll_append]
  obtain ⟨hshows, hready⟩ := ih _ (hn.passAll hu)
  exact ⟨(n.grows_passAll u).shows hshows, hready⟩

theorem passAll_group (n : Tally) (opening : List Char) (body rest : Outline) :
    n.passAll (Outline.group opening body rest).text =
      ((((n.pass '(').passAll opening).passAll body.text).pass ')').passAll rest.text := by
  rw [Outline.text, Tally.passAll_append, Tally.passAll_cons, Tally.passAll_cons,
    Tally.passAll_append]

/-- A backslash leaves no parenthesis of an outline out of the count. -/
theorem shows_passAll (ho : o.WellPlaced tail) (hn : n.Ready (o.text ++ tail)) :
    Shows o n (n.passAll o.text) ∧ (n.passAll o.text).Ready tail := by
  induction o generalizing n tail with
  | done => exact ⟨Shows.done n, hn⟩
  | plain chars rest ih =>
      obtain ⟨hchars, hrest⟩ := ho
      rw [Outline.text, List.append_assoc] at hn
      obtain ⟨hshows, hready⟩ := shows_behind hn hchars fun n => ih hrest
      exact ⟨⟨hshows.closed, hshows.opened, hshows.deepest, hshows.depth⟩, hready⟩
  | operator mark more rest ih =>
      obtain ⟨hmore, hrest⟩ := ho
      rw [Outline.text, List.append_assoc] at hn
      obtain ⟨hshows, hready⟩ := shows_behind hn hmore fun n => ih hrest
      exact ⟨⟨hshows.closed, hshows.opened, hshows.deepest, hshows.depth⟩, hready⟩
  | group opening body rest ihbody ihrest =>
      obtain ⟨hopening, hbody, hrest⟩ := ho
      -- a parenthesis follows the body, so the count stands behind no backslash there
      have hescaped : n.escaped = false := hn.cons
      have hstart : ((n.pass '(').passAll opening).escaped = false :=
        (Tally.escaped_passAll (Tally.escaped_open hescaped) opening).trans hopening
      obtain ⟨hshowsBody, hready⟩ := ihbody hbody (.inr hstart)
      have hend := hready.cons
      obtain ⟨hshowsRest, hreadyRest⟩ := ihrest hrest (.inr (Tally.escaped_close hend))
      have hgrows := (n.pass '(').grows_passAll opening
      rw [passAll_group]
      exact ⟨Shows.group opening hescaped hend hgrows hshowsBody hshowsRest, hreadyRest⟩

/-! ## Repetitions -/

theorem mem_text_of_repeats (h : o.repeats = true) : '+' ∈ o.text ∨ '*' ∈ o.text := by
  induction o with
  | done => cases h
  | plain chars rest ih =>
      exact (ih h).imp (List.mem_append_right chars) (List.mem_append_right chars)
  | operator mark more rest ih =>
      rw [Outline.repeats, Bool.or_eq_true, Bool.or_eq_true, beq_iff_eq, beq_iff_eq] at h
      rcases h with (rfl | rfl) | h
      · exact .inl List.mem_cons_self
      · exact .inr List.mem_cons_self
      · exact (ih h).imp (List.mem_append_right (mark :: more))
          (List.mem_append_right (mark :: more))
  | group opening body rest ihbody ihrest =>
      rw [Outline.repeats, Bool.or_eq_true] at h
      have hbody {c : Char} (hc : c ∈ body.text) : c ∈ (Outline.group opening body rest).text :=
        List.mem_append_left _ (List.mem_cons_of_mem '(' (List.mem_append_right opening hc))
      have hrest {c : Char} (hc : c ∈ rest.text) : c ∈ (Outline.group opening body rest).text :=
        List.mem_append_right _ (List.mem_cons_of_mem ')' hc)
      rcases h with h | h
      · exact (ihbody h).imp hbody hbody
      · exact (ihrest h).imp hrest hrest

theorem exists_text_of_isRepeated (h : o.isRepeated = true) :
    ∃ q later, o.text = q :: later ∧ (q = '+' ∨ q = '*' ∨ q = '\x7b') := by
  cases o with
  | done => cases h
  | plain chars rest => cases h
  | operator mark more rest =>
      rw [Outline.isRepeated, Bool.or_eq_true, Bool.or_eq_true, beq_iff_eq, beq_iff_eq,
        beq_iff_eq, or_assoc] at h
      exact ⟨mark, more ++ rest.text, rfl, h⟩
  | group opening body rest => cases h

/-- A text with a repetition inside stands between parentheses that are repeated. -/
def RepeatsIn (text inside : List Char) : Prop :=
  ('+' ∈ inside ∨ '*' ∈ inside) ∧
    ∃ front q later, text = front ++ '(' :: (inside ++ ')' :: q :: later) ∧
      (q = '+' ∨ q = '*' ∨ q = '\x7b')

theorem RepeatsIn.append {text inside : List Char} (h : RepeatsIn text inside)
    (u v : List Char) : RepeatsIn (u ++ text ++ v) inside := by
  obtain ⟨hrepeats, front, q, later, rfl, hq⟩ := h
  refine ⟨hrepeats, u ++ front, q, later ++ v, ?_, hq⟩
  simp only [List.append_assoc, List.cons_append]

theorem repeatsIn_of_mem_nestedRepetitions {inside : List Char}
    (h : inside ∈ o.nestedRepetitions) : RepeatsIn o.text inside := by
  induction o with
  | done => cases h
  | plain chars rest ih =>
      have hrest := (ih h).append chars []
      rwa [List.append_nil] at hrest
  | operator mark more rest ih =>
      have hrest := (ih h).append (mark :: more) []
      rwa [List.append_nil] at hrest
  | group opening body rest ihbody ihrest =>
      have hinner (hmem : inside ∈ body.nestedRepetitions ++ rest.nestedRepetitions) :
          RepeatsIn (Outline.group opening body rest).text inside := by
        rcases List.mem_append.mp hmem with hmem | hmem
        · exact (ihbody hmem).append ('(' :: opening) (')' :: rest.text)
        · have hrest := (ihrest hmem).append ('(' :: (opening ++ body.text) ++ [')']) []
          rwa [List.append_nil, List.append_assoc] at hrest
      rw [Outline.nestedRepetitions] at h
      split at h
      · next hnested =>
          rw [Bool.and_eq_true] at hnested
          rcases List.mem_cons.mp h with rfl | hmem
          · obtain ⟨q, later, hrest, hq⟩ := exists_text_of_isRepeated hnested.2
            refine ⟨(mem_text_of_repeats hnested.1).imp (List.mem_append_right opening)
              (List.mem_append_right opening), [], q, later, ?_, hq⟩
            rw [Outline.text, hrest, List.nil_append, List.cons_append]
          · exact hinner hmem
      · exact hinner h

/-- The guard finds a repetition in repeated parentheses if there are no others between them. -/
theorem RepeatsIn.hasNestedQuantifier {text inside : List Char} (h : RepeatsIn text inside)
    (hopen : '(' ∉ inside) (hclose : ')' ∉ inside) : hasNestedQuantifier text = true := by
  obtain ⟨hrepeats, front, q, later, rfl, hq⟩ := h
  induction front with
  | nil =>
      have hinside : ∀ c ∈ inside, (!(c == '(' || c == ')')) = true := by
        intro c hc
        have hne : c ≠ '(' ∧ c ≠ ')' :=
          ⟨fun h => hopen (h ▸ hc), fun h => hclose (h ▸ hc)⟩
        rw [beq_false_of_ne hne.1, beq_false_of_ne hne.2]
        rfl
      have hany : inside.any (fun c => c == '+' || c == '*') = true := by
        rcases hrepeats with hmem | hmem
        · exact List.any_eq_true.mpr ⟨'+', hmem, rfl⟩
        · exact List.any_eq_true.mpr ⟨'*', hmem, rfl⟩
      rw [List.nil_append, Pattern.hasNestedQuantifier, isNestedQuantifier]
      dsimp only
      rw [List.takeWhile_append_of_pos hinside, List.dropWhile_append_of_pos hinside]
      rw [List.takeWhile_cons_of_neg (by decide), List.dropWhile_cons_of_neg (by decide)]
      rw [List.append_nil, hany]
      rcases hq with rfl | rfl | rfl
      · rfl
      · rfl
      · rfl
  | cons c front ih => rw [List.cons_append, Pattern.hasNestedQuantifier, ih, Bool.or_true]

/-! ## The guard -/

theorem exists_of_vet_toBool {source : String} (h : (vet source).toBool = true) :
    ∃ program, vet source = .ok program := by
  cases hvet : vet source with
  | error e =>
      rw [hvet] at h
      cases h
  | ok program => exact ⟨program, rfl⟩

theorem vet_eq_ok {source : String} {program : Program} (h : vet source = .ok program) :
    groupDepth source.toList ≤ maxGroupDepth ∧ hasNestedQuantifier source.toList = false ∧
      ∃ ast, parse source.toList = .ok ast := by
  unfold vet at h
  dsimp only at h
  split at h
  · cases h
  split at h
  · cases h
  split at h
  · cases h
  split at h
  · cases h
  next hdepth hquantifier =>
  refine ⟨not_lt.mp hdepth, (Bool.not_eq_true _).mp hquantifier, ?_⟩
  unfold compile at h
  cases hparse : parse source.toList with
  | error e =>
      rw [hparse] at h
      cases h
  | ok ast => exact ⟨ast, rfl⟩

/-- An accepted pattern can be read, and its parentheses are nested no deeper than the limit
and one level for each closing parenthesis that closes no group: one in a bracket or in a
comment. -/
theorem depth_add_pairs_le_of_vet {source : String} {program : Program}
    (h : vet source = .ok program) :
    ∃ o, outline source.toList = .ok o ∧ o.text = source.toList ∧
      o.depth + o.pairs ≤ maxGroupDepth + closings source.toList := by
  obtain ⟨hdepth, -, ast, hparse⟩ := vet_eq_ok h
  obtain ⟨o, ho⟩ := exists_outline hparse
  obtain ⟨htext, hplaced⟩ := spells_outline ho
  rw [List.append_nil] at htext
  obtain ⟨hshows, -⟩ := shows_passAll (n := Tally.start) hplaced (.inr rfl)
  refine ⟨o, ho, htext.symm, ?_⟩
  rw [groupDepth_eq, htext] at hdepth
  rw [closings, htext]
  have hclosed := hshows.closed
  have hstart : Tally.start.depth = 0 ∧ Tally.start.closed = 0 := ⟨rfl, rfl⟩
  have hshown := hshows.depth
  omega

theorem depth_add_pairs_le_of_two_levels :
    (vet "(a[)](b))").toBool = true ∧
      ∃ o, outline "(a[)](b))".toList = .ok o ∧ o.text = "(a[)](b))".toList ∧
        o.depth + o.pairs ≤ maxGroupDepth + closings "(a[)](b))".toList := by
  have haccepted : (vet "(a[)](b))").toBool = true := by decide +kernel
  obtain ⟨program, hvet⟩ := exists_of_vet_toBool haccepted
  exact ⟨haccepted, depth_add_pairs_le_of_vet hvet⟩

/-- The bound is reached: a parenthesis in a bracket takes one of ten open ones off the count,
and a group at the eleventh level follows. -/
theorem eleven_levels_accepted :
    (vet "(((((((((([)](a)))))))))))").toBool = true ∧
      (outline "(((((((((([)](a)))))))))))".toList).map Outline.depth =
        .ok (maxGroupDepth + 1) := by
  decide +kernel

/-- In an accepted pattern a parenthesis stands in each group that is repeated and has a
repetition inside. -/
theorem mem_parenthesis_of_vet {source : String} {program : Program}
    (h : vet source = .ok program) :
    ∃ o, outline source.toList = .ok o ∧ o.text = source.toList ∧
      ∀ inside ∈ o.nestedRepetitions, '(' ∈ inside ∨ ')' ∈ inside := by
  obtain ⟨-, hquantifier, ast, hparse⟩ := vet_eq_ok h
  obtain ⟨o, ho⟩ := exists_outline hparse
  have htext := (spells_outline ho).text_eq
  rw [List.append_nil] at htext
  refine ⟨o, ho, htext.symm, fun inside hmem => ?_⟩
  by_contra hnone
  rw [not_or] at hnone
  have hfound := (repeatsIn_of_mem_nestedRepetitions hmem).hasNestedQuantifier hnone.1 hnone.2
  rw [← htext, hquantifier] at hfound
  cases hfound

theorem mem_parenthesis_of_starred_group :
    (vet "(a(b)*)+").toBool = true ∧
      ∃ o, outline "(a(b)*)+".toList = .ok o ∧ o.text = "(a(b)*)+".toList ∧
        ∀ inside ∈ o.nestedRepetitions, '(' ∈ inside ∨ ')' ∈ inside := by
  have haccepted : (vet "(a(b)*)+").toBool = true := by decide +kernel
  obtain ⟨program, hvet⟩ := exists_of_vet_toBool haccepted
  exact ⟨haccepted, mem_parenthesis_of_vet hvet⟩

/-- A group around one letter hides the repetition of the group. -/
theorem nested_repetition_accepted :
    (vet "((a)+)+").toBool = true ∧
      (outline "((a)+)+".toList).map Outline.nestedRepetitions = .ok ["(a)+".toList] := by
  decide +kernel

end TraceCheck.Pattern
