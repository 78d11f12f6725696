import TraceCheck.Text.Blank

/-!
# Lines of a text

A line goes from the start of a text or a line feed to the next line feed, or to a carriage
return in front of that, or to the end of the text.  `Text.lines` lists all of them but an
empty one at the end.
-/

namespace TraceCheck.Text

variable {cs u front line behind : List Char}

/-- A line of a text without its ending, between what is in front of it and what is behind
it. -/
structure IsLine (cs front line behind : List Char) : Prop where
  split : cs = front ++ (line ++ behind)
  start : ∀ c ∈ front.getLast?, c = '\n'
  feedless : '\n' ∉ line
  ending : behind = [] ∨ (∃ rest, behind = '\r' :: '\n' :: rest) ∨
    ∃ rest, behind = '\n' :: rest ∧ line.getLast? ≠ some '\r'

/-- Nothing but a line feed is directly in front of a line. -/
theorem IsLine.takeWhile_reverse (h : IsLine cs front line behind) :
    front.reverse.takeWhile (· != '\n') = [] := by
  cases hrev : front.reverse with
  | nil => rfl
  | cons c u =>
      have hfeed : c = '\n' := h.start c (by rw [← List.head?_reverse, hrev]; rfl)
      rw [hfeed]
      rfl

/-! ## Listing lines -/

theorem lines_go_append (hu : '\n' ∉ u) (rest line : List Char) :
    lines.go (u ++ rest) line = lines.go rest (u.reverse ++ line) := by
  induction u generalizing line with
  | nil => rfl
  | cons c u ih =>
      rw [List.mem_cons, not_or] at hu
      rw [List.cons_append, lines.go, ih hu.2, List.reverse_cons, List.append_assoc]
      · rfl
      · exact fun heq => hu.1 heq.symm

theorem dropReturn_of_getLast? (h : u.getLast? ≠ some '\r') :
    lines.dropReturn u.reverse = u.reverse := by
  unfold lines.dropReturn
  split
  next line hline =>
    rw [← List.head?_reverse, hline] at h
    exact absurd rfl h
  next => rfl

theorem lines_append_feed (hu : '\n' ∉ u) (rest : List Char) :
    lines (u ++ '\n' :: rest) = (lines.dropReturn u.reverse).reverse :: lines rest := by
  unfold lines
  rw [lines_go_append hu, List.append_nil, lines.go]

theorem lines_of_feedless (hu : '\n' ∉ u) (hne : u ≠ []) : lines u = [u] := by
  have hscan := lines_go_append hu [] []
  rw [List.append_nil, List.append_nil] at hscan
  unfold lines
  rw [hscan, lines.go, List.reverse_reverse]
  exact fun hnil => hne (List.reverse_eq_nil_iff.mp hnil)

/-- The first line is listed first, unless the text is empty. -/
theorem head?_lines (h : IsLine cs [] line behind) :
    (lines cs)[0]? = if line = [] ∧ behind = [] then none else some line := by
  obtain ⟨rfl, -, hfeedless, hending⟩ := h
  rw [List.nil_append]
  rcases hending with rfl | ⟨rest, rfl⟩ | ⟨rest, rfl, hlast⟩
  · rw [List.append_nil]
    by_cases hne : line = []
    · rw [hne, if_pos ⟨rfl, rfl⟩]
      rfl
    · rw [lines_of_feedless hfeedless hne, if_neg fun h => hne h.1]
      rfl
  · have hfeed : '\n' ∉ line ++ ['\r'] := by
      rw [List.mem_append, not_or]
      exact ⟨hfeedless, by decide⟩
    have hsplit : line ++ '\r' :: '\n' :: rest = line ++ ['\r'] ++ '\n' :: rest := by
      rw [List.append_assoc, List.singleton_append]
    rw [hsplit, lines_append_feed hfeed, List.reverse_concat, if_neg fun h => nomatch h.2]
    change some line.reverse.reverse = _
    rw [List.reverse_reverse]
  · rw [lines_append_feed hfeedless, dropReturn_of_getLast? hlast, List.reverse_reverse,
      if_neg fun h => nomatch h.2]
    rfl

/-- A line is listed behind as many others as there are line feeds in front of it, unless it
is empty at the end. -/
theorem getElem?_lines (h : IsLine cs front line behind) :
    (lines cs)[front.count '\n']? = if line = [] ∧ behind = [] then none else some line := by
  induction hn : front.length using Nat.strongRecOn generalizing cs front with
  | ind n ih =>
      subst hn
      obtain ⟨rfl, hstart, hfeedless, hending⟩ := h
      by_cases hfront : front = []
      · rw [hfront]
        exact head?_lines ⟨rfl, nofun, hfeedless, hending⟩
      · -- What is in front has a first line, and the rest of it is shorter.
        obtain ⟨c, hc⟩ := Option.isSome_iff_exists.mp (List.getLast?_isSome.mpr hfront)
        have hfeed : '\n' ∈ front := hstart c hc ▸ List.mem_of_getLast? hc
        obtain ⟨u, rest, rfl, hu⟩ := List.eq_append_cons_of_mem hfeed
        have hcount : (u ++ '\n' :: rest).count '\n' = rest.count '\n' + 1 := by
          rw [List.count_append, List.count_eq_zero_of_not_mem hu, List.count_cons_self,
            Nat.zero_add]
        have hrest : IsLine (rest ++ (line ++ behind)) rest line behind := by
          refine ⟨rfl, fun d hd => hstart d ?_, hfeedless, hending⟩
          rw [List.getLast?_append, List.getLast?_cons, Option.mem_def.mp hd]
          rfl
        rw [List.append_assoc, List.cons_append, lines_append_feed hu, hcount,
          List.getElem?_cons_succ]
        refine ih rest.length ?_ hrest rfl
        rw [List.length_append, List.length_cons]
        omega

/-! ## Lines at a place -/

/-- A text is its last line behind the other ones. -/
theorem exists_last_line (before : List Char) : ∃ front inside, before = front ++ inside ∧
    (∀ c ∈ front.getLast?, c = '\n') ∧ '\n' ∉ inside := by
  by_cases hfeed : '\n' ∈ before
  · obtain ⟨u, rest, hsplit, hu⟩ := List.eq_append_cons_of_mem (List.mem_reverse.mpr hfeed)
    refine ⟨rest.reverse ++ ['\n'], u.reverse, ?_, ?_, fun hmem => hu (List.mem_reverse.mp hmem)⟩
    · rw [← List.reverse_reverse before, hsplit, List.reverse_append, List.reverse_cons]
    · rw [List.getLast?_concat]
      rintro c ⟨⟩
      rfl
  · exact ⟨[], before, rfl, nofun, hfeed⟩

/-- A text is its first line and what is behind that. -/
theorem exists_first_line (behind : List Char) : ∃ inside rest, behind = inside ++ rest ∧
    '\n' ∉ inside ∧ (rest = [] ∨ ∃ rest', rest = '\n' :: rest') := by
  by_cases hfeed : '\n' ∈ behind
  · obtain ⟨u, rest, hsplit, hu⟩ := List.eq_append_cons_of_mem hfeed
    exact ⟨u, '\n' :: rest, hsplit, hu, .inr ⟨rest, rfl⟩⟩
  · exact ⟨behind, [], (List.append_nil behind).symm, hfeed, .inl rfl⟩

/-- A place in a text lies in a line or at its end, unless a line feed follows it. -/
theorem exists_isLine {before behind : List Char}
    (hplace : before = [] ∨ ∀ c ∈ behind.head?, c ≠ '\n') :
    ∃ front inside line rest, before = front ++ inside ∧ '\n' ∉ inside ∧
      inside.length ≤ line.length ∧ IsLine (before ++ behind) front line rest := by
  obtain ⟨front, inside, rfl, hstart, hinside⟩ := exists_last_line before
  obtain ⟨more, rest, rfl, hmore, hrest⟩ := exists_first_line behind
  have hfeedless : '\n' ∉ inside ++ more := fun hmem =>
    (List.mem_append.mp hmem).elim hinside hmore
  have hlength : inside.length ≤ (inside ++ more).length := by
    rw [List.length_append]
    exact Nat.le_add_right _ _
  have hsplit : front ++ inside ++ (more ++ rest) = front ++ (inside ++ more ++ rest) := by
    simp only [List.append_assoc]
  rcases hrest with rfl | ⟨rest, rfl⟩
  · exact ⟨front, inside, inside ++ more, [], rfl, hinside, hlength, hsplit, hstart, hfeedless,
      .inl rfl⟩
  by_cases hlast : (inside ++ more).getLast? = some '\r'
  · obtain ⟨line, hline⟩ := List.getLast?_eq_some_iff.mp hlast
    refine ⟨front, inside, line, '\r' :: '\n' :: rest, rfl, hinside, ?_, ?_, hstart,
      fun hmem => hfeedless (hline ▸ List.mem_append_left _ hmem), .inr (.inl ⟨rest, rfl⟩)⟩
    · -- The carriage return is behind the place: no line feed follows this directly.
      have hsome : more ≠ [] := by
        rintro rfl
        rcases hplace with hnil | hhead
        · rw [(List.append_eq_nil_iff.mp hnil).2] at hlast
          cases hlast
        · exact hhead '\n' rfl rfl
      have hpos := List.length_pos_iff.mpr hsome
      have hlengths := congrArg List.length hline
      rw [List.length_append, List.length_append, List.length_singleton] at hlengths
      omega
    · rw [hsplit, hline, List.append_assoc, List.singleton_append]
  · exact ⟨front, inside, inside ++ more, '\n' :: rest, rfl, hinside, hlength, hsplit, hstart,
      hfeedless, .inr (.inr ⟨rest, rfl, hlast⟩)⟩

end TraceCheck.Text
