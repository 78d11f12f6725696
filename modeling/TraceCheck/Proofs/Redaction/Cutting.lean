import TraceCheck.Proofs.Redaction.Places
import TraceCheck.Proofs.Text.Visible

/-!
# Texts that are cut

A text that is too long is cut at the last place, no further than allowed, that is not
inside a placeholder.  The placeholders that count are the matches from left to right, each
looked for behind the end of the one before it; those that end in front of the cut are the
matches of what is left.
-/

namespace TraceCheck.Redaction

open TraceCheck.Text

variable {cs p : List Char} {n most : Nat}

/-! ## Matches from left to right -/

/-- A part of a text: the numbers of characters in front of it and up to its end. -/
structure Extent where
  start : Nat
  stop : Nat

/-- A placeholder stands in a part of a text. -/
def StandsIn (cs : List Char) (m : Extent) : Prop :=
  ∃ front block behind, cs = front ++ (block ++ behind) ∧ IsPlaceholder block ∧
    m = ⟨front.length, front.length + block.length⟩

/-- The placeholders of a text from a place on: the first one, and then those behind it. -/
inductive Matches (cs : List Char) : Nat → List Extent → Prop
  | nil {n : Nat} (hnone : ∀ m, StandsIn cs m → m.start < n) : Matches cs n []
  | cons {n : Nat} {m : Extent} {ms : List Extent} (hstands : StandsIn cs m) (hfrom : n ≤ m.start)
      (hfirst : ∀ m', StandsIn cs m' → n ≤ m'.start → m.start ≤ m'.start) :
      Matches cs m.stop ms → Matches cs n (m :: ms)

namespace StandsIn

variable {m m' : Extent}

theorem start_lt_stop (h : StandsIn cs m) : m.start < m.stop := by
  obtain ⟨front, block, behind, -, hblock, rfl⟩ := h
  obtain ⟨kind, -, -, rfl⟩ := hblock
  simp

theorem stop_le (h : StandsIn cs m) : m.stop ≤ cs.length := by
  obtain ⟨front, block, behind, rfl, -, rfl⟩ := h
  simp only [List.length_append]
  omega

/-- At most one placeholder begins at a place. -/
theorem stop_eq (h : StandsIn cs m) (h' : StandsIn cs m') (hstart : m.start = m'.start) :
    m.stop = m'.stop := by
  obtain ⟨front, block, behind, rfl, hblock, rfl⟩ := h
  obtain ⟨front', block', behind', hsplit, hblock', rfl⟩ := h'
  have hrest := List.append_inj_right hsplit hstart
  have hhit := anyPlaceholder_append hblock none behind
  rw [hrest, anyPlaceholder_append hblock' none behind'] at hhit
  injection hhit with hlength
  dsimp only at hstart ⊢
  omega

/-- A placeholder of a prefix is one of the text that ends in the prefix. -/
theorem of_isPrefix_iff (hp : p <+: cs) : StandsIn p m ↔ StandsIn cs m ∧ m.stop ≤ p.length := by
  constructor
  · intro h
    refine ⟨?_, h.stop_le⟩
    obtain ⟨front, block, behind, rfl, hblock, rfl⟩ := h
    obtain ⟨rest, rfl⟩ := hp
    exact ⟨front, block, behind ++ rest, by simp only [List.append_assoc], hblock, rfl⟩
  · rintro ⟨⟨front, block, behind, rfl, hblock, rfl⟩, hstop⟩
    have hfront : front ++ block <+: p := by
      refine List.prefix_of_prefix_length_le ?_ hp (by rwa [List.length_append])
      exact ⟨behind, List.append_assoc _ _ _⟩
    obtain ⟨behind', rfl⟩ := hfront
    exact ⟨front, block, behind', List.append_assoc _ _ _, hblock, rfl⟩

end StandsIn

namespace Matches

variable {ms ms' : List Extent}

theorem unique (h : Matches cs n ms) (h' : Matches cs n ms') : ms = ms' := by
  induction h generalizing ms' with
  | nil hnone =>
      cases h' with
      | nil _ => rfl
      | cons hstands hfrom _ _ => exact absurd (hnone _ hstands) (Nat.not_lt.mpr hfrom)
  | @cons n m ms hstands hfrom hfirst _ ih =>
      cases h' with
      | nil hnone => exact absurd (hnone _ hstands) (Nat.not_lt.mpr hfrom)
      | @cons _ m' ms' hstands' hfrom' hfirst' hrest' =>
          have hstart : m.start = m'.start :=
            Nat.le_antisymm (hfirst m' hstands' hfrom') (hfirst' m hstands hfrom)
          have hstop := hstands.stop_eq hstands' hstart
          obtain rfl : m = m' := by
            cases m
            cases m'
            cases hstart
            cases hstop
            rfl
          rw [ih hrest']

theorem standsIn (h : Matches cs n ms) : ∀ m ∈ ms, StandsIn cs m ∧ n ≤ m.start := by
  induction h with
  | nil _ => exact List.forall_mem_nil _
  | cons hstands hfrom _ _ ih =>
      refine List.forall_mem_cons.mpr ⟨⟨hstands, hfrom⟩, fun m' hm' => ⟨(ih m' hm').1, ?_⟩⟩
      exact (hfrom.trans hstands.start_lt_stop.le).trans (ih m' hm').2

/-- Matches do not overlap. -/
theorem apart (h : Matches cs n ms) {m m' : Extent} (hm : m ∈ ms) (hm' : m' ∈ ms)
    (hstart : m.start < m'.start) : m.stop ≤ m'.start := by
  induction h with
  | nil _ => cases hm
  | cons hstands hfrom _ hrest ih =>
      rcases List.mem_cons.mp hm with rfl | hin
      · rcases List.mem_cons.mp hm' with rfl | hin'
        · exact absurd hstart (Nat.lt_irrefl _)
        · exact (hrest.standsIn m' hin').2
      · rcases List.mem_cons.mp hm' with rfl | hin'
        · have hbehind := (hrest.standsIn m hin).2
          have hpos := hstands.start_lt_stop
          omega
        · exact ih hin hin'

/-- The matches from a place on are those from the next one on when no placeholder begins
there. -/
theorem of_succ (hnone : ∀ m, StandsIn cs m → m.start ≠ n) (h : Matches cs (n + 1) ms) :
    Matches cs n ms := by
  have hlater {m : Extent} (hm : StandsIn cs m) (hfrom : n ≤ m.start) : n + 1 ≤ m.start :=
    Nat.lt_of_le_of_ne hfrom (hnone m hm).symm
  cases h with
  | nil hbefore =>
      exact .nil fun m hm => Nat.lt_of_le_of_ne (Nat.le_of_lt_succ (hbefore m hm)) (hnone m hm)
  | cons hstands hfrom hfirst hrest =>
      exact .cons hstands (Nat.le_of_succ_le hfrom)
        (fun m' hm' hfrom' => hfirst m' hm' (hlater hm' hfrom')) hrest

/-- A prefix that ends inside no match has those matches that end in it. -/
theorem of_isPrefix (h : Matches cs n ms) (hp : p <+: cs)
    (hwhole : ∀ m ∈ ms, ¬ (m.start < p.length ∧ p.length < m.stop)) :
    Matches p n (ms.filter fun m => m.stop ≤ p.length) := by
  induction h with
  | nil hnone => exact .nil fun m hm => hnone m ((StandsIn.of_isPrefix_iff hp).mp hm).1
  | @cons n m ms hstands hfrom hfirst hrest ih =>
      obtain ⟨hhere, hbehind⟩ := List.forall_mem_cons.mp hwhole
      by_cases hstop : m.stop ≤ p.length
      · rw [List.filter_cons, if_pos (decide_eq_true hstop)]
        exact .cons ((StandsIn.of_isPrefix_iff hp).mpr ⟨hstands, hstop⟩) hfrom
          (fun m' hm' => hfirst m' ((StandsIn.of_isPrefix_iff hp).mp hm').1) (ih hbehind)
      · -- The prefix ends in front of this match, and so in front of all others.
        have hnone : (m :: ms).filter (fun m => m.stop ≤ p.length) = [] := by
          refine List.filter_eq_nil_iff.mpr fun m' hm' hle => hstop ?_
          have hle := of_decide_eq_true hle
          rcases List.mem_cons.mp hm' with rfl | hm'
          · exact hle
          · obtain ⟨hm', hfrom'⟩ := hrest.standsIn m' hm'
            have hpos := hm'.start_lt_stop
            omega
        rw [hnone]
        refine .nil fun m' hm' => ?_
        obtain ⟨hm', hle⟩ := (StandsIn.of_isPrefix_iff hp).mp hm'
        have hpos := hm'.start_lt_stop
        by_contra hfrom'
        have hstart := hfirst m' hm' (Nat.not_lt.mp hfrom')
        omega

end Matches

/-! ## The pieces of a text -/

/-- The parts of a text where its pieces are found; `offset` characters are in front. -/
def extents : (offset : Nat) → List Piece → List Extent
  | _, [] => []
  | offset, .plain _ :: rest => extents (offset + 1) rest
  | offset, .found block :: rest =>
    ⟨offset, offset + block.length⟩ :: extents (offset + block.length) rest

/-- The pieces that are found are the matches from left to right. -/
theorem matches_extents (front rest : List Char) :
    Matches (front ++ rest) front.length (extents front.length (anyPlaceholder.pieces rest)) := by
  induction hn : rest.length using Nat.strongRecOn generalizing front rest with
  | ind n ih =>
      subst hn
      cases rest with
      | nil =>
          rw [pieces_empty]
          refine .nil fun m hm => ?_
          have hpos := hm.start_lt_stop
          have hstop := hm.stop_le
          rw [List.append_nil] at hstop
          omega
      | cons c rest =>
          by_cases hhit : ∃ n, anyPlaceholder none (c :: rest) = .hit n
          · obtain ⟨n, hhit⟩ := hhit
            obtain ⟨block, behind, hsplit, hblock, -⟩ := exists_of_anyPlaceholder hhit
            have hstands : StandsIn (front ++ (c :: rest)) ⟨front.length,
                front.length + block.length⟩ :=
              ⟨front, block, behind, by rw [hsplit], hblock, rfl⟩
            have hshorter : behind.length < (c :: rest).length := by
              have hpos := hstands.start_lt_stop
              rw [hsplit, List.length_append]
              dsimp only at hpos
              omega
            have hrest := ih behind.length hshorter (front ++ block) behind rfl
            rw [List.append_assoc, ← hsplit, List.length_append] at hrest
            rw [hsplit, pieces_placeholder_append hblock, ← hsplit]
            exact .cons hstands (Nat.le_refl _) (fun _ _ hfrom => hfrom) hrest
          · have hrest := ih rest.length (Nat.lt_succ_self _) (front ++ [c]) rest rfl
            rw [List.append_assoc, List.singleton_append, List.length_append] at hrest
            rw [pieces_plain_cons (not_exists.mp hhit)]
            refine .of_succ (fun m hm hstart => ?_) hrest
            obtain ⟨front', block, behind, hsplit, hblock, rfl⟩ := hm
            rw [List.append_inj_right hsplit hstart.symm] at hhit
            exact hhit ⟨_, anyPlaceholder_append hblock none behind⟩

theorem matches_pieces (cs : List Char) :
    Matches cs 0 (extents 0 (anyPlaceholder.pieces cs)) :=
  matches_extents [] cs

/-- A cut is moved to the start of the match that it would split. -/
theorem splitPlaceholder?_eq (cut offset : Nat) (pieces : List Piece) :
    splitPlaceholder? cut offset pieces =
      ((extents offset pieces).find? fun m => m.start < cut ∧ cut < m.stop).map Extent.start := by
  induction pieces generalizing offset with
  | nil => rfl
  | cons piece pieces ih =>
      cases piece with
      | plain c => exact ih (offset + 1)
      | found block =>
          rw [splitPlaceholder?, extents, List.find?_cons]
          by_cases hsplit : offset < cut ∧ cut < offset + block.length
          · rw [if_pos hsplit, decide_eq_true hsplit]
            rfl
          · rw [if_neg hsplit, decide_eq_false hsplit]
            exact ih _

/-! ## Cuts -/

/-- The longest beginning of a text with at most `most` characters that ends inside none of
its matches.  It has those of the matches that end in it. -/
structure IsCut (most : Nat) (cs : List Char) (ms : List Extent) (p : List Char) : Prop where
  isPrefix : p <+: cs
  length_le : p.length ≤ most
  whole : ∀ m ∈ ms, ¬ (m.start < p.length ∧ p.length < m.stop)
  longest : ∀ q, q <+: cs → q.length ≤ most →
    (∀ m ∈ ms, ¬ (m.start < q.length ∧ q.length < m.stop)) → q.length ≤ p.length
  matchesOf : Matches p 0 (ms.filter fun m => m.stop ≤ p.length)

/-- A text is kept when it is short enough, and cut and marked otherwise. -/
structure CutsWith (marker : List Char) (most : Nat) (cs result : List Char) : Prop where
  short : cs.length ≤ most → result = cs
  long : most < cs.length → ∃ ms, (∀ ms', Matches cs 0 ms' ↔ ms' = ms) ∧
    ∃ p, result = p ++ marker ∧ IsCut most cs ms p

/-- The matches of a text decide where it is cut. -/
theorem isCut_take {ms : List Extent} (hms : Matches cs 0 ms) (hlong : most < cs.length) :
    IsCut most cs ms (cs.take
      (((ms.find? fun m => m.start < most ∧ most < m.stop).map Extent.start).getD most)) := by
  have hkept (k : Nat) : cs.take k <+: cs := List.take_prefix k cs
  cases hfind : ms.find? fun m => m.start < most ∧ most < m.stop with
  | none =>
      have hlength : (cs.take most).length = most := List.length_take_of_le hlong.le
      have hwhole : ∀ m ∈ ms, ¬ (m.start < (cs.take most).length ∧
          (cs.take most).length < m.stop) := fun m hm => by
        have hnone := List.find?_eq_none.mp hfind m hm
        rwa [hlength, ← decide_eq_true_iff (p := _ ∧ _)]
      exact ⟨hkept _, hlength.le, hwhole, fun q _ hq _ => hlength.symm ▸ hq,
        hms.of_isPrefix (hkept _) hwhole⟩
  | some m =>
      have hfound := List.find?_some hfind
      have hsplit := of_decide_eq_true hfound
      have hmem := List.mem_of_find?_eq_some hfind
      have hlength : (cs.take m.start).length = m.start :=
        List.length_take_of_le (hsplit.1.le.trans hlong.le)
      have hwhole : ∀ m' ∈ ms, ¬ (m'.start < (cs.take m.start).length ∧
          (cs.take m.start).length < m'.stop) := fun m' hm' h => by
        rw [hlength] at h
        have hapart := hms.apart hm' hmem h.1
        omega
      refine ⟨hkept _, hlength.symm ▸ hsplit.1.le, hwhole, fun q _ hq hqwhole => ?_,
        hms.of_isPrefix (hkept _) hwhole⟩
      have hinside := hqwhole m hmem
      change q.length ≤ (cs.take m.start).length
      omega

theorem cutsWith_cutWith (marker : String) (most : Nat) (cs : List Char) :
    CutsWith marker.toList most cs (cutWith marker most cs) where
  short hshort := by
    unfold cutWith cutLength?
    rw [if_pos hshort]
  long hlong := by
    have hms := matches_pieces cs
    refine ⟨_, fun ms' => ⟨fun h => h.unique hms, fun h => h ▸ hms⟩, _, ?_, isCut_take hms hlong⟩
    unfold cutWith cutLength?
    rw [if_neg (Nat.not_le.mpr hlong), splitPlaceholder?_eq]

theorem CutsWith.length_le {marker result : List Char} (h : CutsWith marker most cs result) :
    result.length ≤ most + marker.length := by
  by_cases hshort : cs.length ≤ most
  · rw [h.short hshort]
    omega
  · obtain ⟨ms, -, p, rfl, hp⟩ := h.long (Nat.not_le.mp hshort)
    rw [List.length_append]
    exact Nat.add_le_add_right hp.length_le _

/-- Messages and quoted texts are cut at the last place that splits no placeholder.  A quoted
text has at most three characters more than it may have, and all of it is visible. -/
theorem cutsWith_truncate_displaySafe (s : String) (most : Nat) :
    CutsWith truncationMarker.toList most s.toList (truncate s most).toList ∧
      CutsWith "...".toList most ((redact s).toList.flatMap Escape.plainChar)
        (displaySafe s most).toList ∧
      (displaySafe s most).length ≤ most + 3 ∧ Visible (displaySafe s most).toList := by
  have hquoted : CutsWith "...".toList most ((redact s).toList.flatMap Escape.plainChar)
      (displaySafe s most).toList := by
    have hredact : (redact s).toList = redactChars s.toList := String.toList_ofList
    have hsafe : (displaySafe s most).toList = cutWith "..." most
        ((redactChars s.toList).flatMap Escape.plainChar) := String.toList_ofList
    rw [hredact, hsafe]
    exact cutsWith_cutWith "..." most _
  refine ⟨?_, hquoted, ?_, visible_displaySafe s most⟩
  · have htruncate : (truncate s most).toList = cutWith truncationMarker most s.toList :=
      String.toList_ofList
    rw [htruncate]
    exact cutsWith_cutWith truncationMarker most s.toList
  · have hlength := hquoted.length_le
    have hmarker : "...".toList.length = 3 := by decide
    rwa [hmarker, String.length_toList] at hlength

/-- Of two placeholders that share their stars the first one is found. -/
example : truncate "***REDACTED_A***REDACTED_B*** tail" 20 =
    "***REDACTED_A***REDA... (truncated)" := by
  decide +kernel

end TraceCheck.Redaction
