import TraceCheck.Proofs.Redaction.Neighbours

/-!
# Card numbers in a redacted text

The rule for card numbers takes as many digits as it can.  A card number that stands between
blanks is left in a text when the digits of a neighbour, across one blank, are taken together
with it and the checksum of all of them fails.  Nothing else leaves one: the rules in front
of it and the one behind it neither bring one in nor take one out.
-/

namespace TraceCheck.Redaction

open TraceCheck.Text TraceCheck.Unicode

variable {before : Option Char} {cs run : List Char}

/-! ## Words between blanks -/

/-- What is around a part of a text, with nothing but blanks next to it. -/
structure BetweenBlanks (front behind : List Char) : Prop where
  front : ∀ c ∈ front.getLast?, isBlank c = true
  behind : ∀ c ∈ behind.head?, isBlank c = true

/-- A word of a text, between blanks or the ends of the text. -/
def StandsByItself (run cs : List Char) : Prop :=
  ∃ front behind, cs = front ++ (run ++ behind) ∧ BetweenBlanks front behind

theorem not_mem_placeholderChars_of_isBlank {c : Char} (hc : isBlank c = true) :
    c ∉ placeholderChars := by
  have hchars : ∀ c ∈ placeholderChars, isBlank c = false := by decide
  intro hmem
  rw [hchars c hmem] at hc
  cases hc

theorem isBlank_of_isDecimalDigit {c : Char} (hc : isDecimalDigit c = true) :
    isBlank c = false := by
  refine (Bool.not_eq_true _).mp fun hblank => ?_
  have hword := isWord_of_isDecimalDigit hc
  rw [isWord_of_isBlank hblank] at hword
  cases hword

namespace BetweenBlanks

variable {front front' behind behind' : List Char}

/-- Blanks are never covered together with what they follow or precede. -/
theorem of_masks (h : BetweenBlanks front behind) (hfront : Masks IsPlaceholder front' front)
    (hbehind : Masks IsPlaceholder behind' behind) : BetweenBlanks front' behind' where
  front := by
    rw [hfront.getLast? fun c hc => not_mem_placeholderChars_of_isBlank (h.front c hc)]
    exact h.front
  behind := by
    have hstar : isBlank '*' = false := by decide
    rw [hbehind.head? fun c hc heq => ?_]
    · exact h.behind
    · have hblank := h.behind c hc
      rw [heq, hstar] at hblank
      cases hblank

end BetweenBlanks

/-- A word of characters that no placeholder has stood in the text already. -/
theorem StandsByItself.of_masks {old new : List Char} (h : StandsByItself run new) (hne : run ≠ [])
    (hforeign : ∀ c ∈ run, c ∉ placeholderChars) (hmasks : Masks IsPlaceholder old new) :
    StandsByItself run old := by
  obtain ⟨front, behind, rfl, hblanks⟩ := h
  obtain ⟨front', behind', rfl, hfront, hbehind⟩ := hmasks.exists_of_infix hne hforeign
  exact ⟨front', behind', rfl, hblanks.of_masks hfront hbehind⟩

/-- A word of a text between blanks, with a digit across a single space on one side. -/
def IsCrowded (run cs : List Char) : Prop :=
  ∃ front behind, cs = front ++ (run ++ behind) ∧ BetweenBlanks front behind ∧
    ((∃ u d, front = u ++ [d, ' '] ∧ isDecimalDigit d = true) ∨
      ∃ d v, behind = ' ' :: d :: v ∧ isDecimalDigit d = true)

theorem IsCrowded.of_masks {old new : List Char} (h : IsCrowded run new)
    (hforeign : ∀ c ∈ run, c ∉ placeholderChars) (hmasks : Masks IsPlaceholder old new) :
    IsCrowded run old := by
  obtain ⟨front, behind, rfl, hblanks, hdigit⟩ := h
  have hspace : ' ' ∉ placeholderChars := by decide
  rcases hdigit with ⟨u, d, rfl, hd⟩ | ⟨d, v, rfl, hd⟩
  · have hd' := not_mem_placeholderChars_of_isDecimalDigit hd
    have hsplit : u ++ [d, ' '] ++ (run ++ behind) = u ++ (d :: ' ' :: run ++ behind) := by
      simp only [List.append_assoc, List.cons_append, List.nil_append]
    rw [hsplit] at hmasks
    obtain ⟨u', behind', rfl, -, hbehind⟩ := hmasks.exists_of_infix (List.cons_ne_nil d _)
      (List.forall_mem_cons.mpr ⟨hd', List.forall_mem_cons.mpr ⟨hspace, hforeign⟩⟩)
    refine ⟨u' ++ [d, ' '], behind', ?_, ?_, .inl ⟨u', d, rfl, hd⟩⟩
    · simp only [List.append_assoc, List.cons_append, List.nil_append]
    · have hspace : BetweenBlanks [] behind := ⟨nofun, hblanks.behind⟩
      refine ⟨fun c hc => ?_, (hspace.of_masks .nil hbehind).behind⟩
      rw [List.getLast?_append] at hc
      obtain rfl : ' ' = c := Option.some.inj hc
      decide
  · have hd' := not_mem_placeholderChars_of_isDecimalDigit hd
    have hsplit : run ++ ' ' :: d :: v = run ++ [' ', d] ++ v := by
      simp only [List.append_assoc, List.cons_append, List.nil_append]
    rw [hsplit] at hmasks
    obtain ⟨front', v', rfl, hfront, hv⟩ := hmasks.exists_of_infix
      (List.append_ne_nil_of_right_ne_nil run (List.cons_ne_nil ' ' [d]))
      (List.forall_mem_append.mpr ⟨hforeign, List.forall_mem_cons.mpr
        ⟨hspace, List.forall_mem_singleton.mpr hd'⟩⟩)
    refine ⟨front', ' ' :: d :: v', ?_, ?_, .inr ⟨d, v', rfl, hd⟩⟩
    · simp only [List.append_assoc, List.cons_append, List.nil_append]
    · exact hblanks.of_masks hfront (.keep ' ' (.keep d hv))

/-! ## Digits that a rule keeps -/

/-- A shape of which every piece is without blanks and has more than digits. -/
def Shape.MissesNumbers (shape : Shape) : Prop :=
  ∀ before u v, shape before (u ++ v) = .hit u.length →
    (∀ c ∈ u, isBlank c = false) ∧ ∃ c ∈ u, isDecimalDigit c = false

theorem socialSecurityNumber_missesNumbers : socialSecurityNumber.MissesNumbers := by
  intro before u v hhit
  obtain ⟨-, w, rest, ⟨area, group, serial, -, -, -, hall, rfl⟩, hsplit, -, hlength⟩ :=
    socialSecurityNumber_eq_hit_iff.mp hhit
  obtain rfl := List.append_inj_left hsplit hlength
  have hdash : isBlank '-' = false ∧ isDecimalDigit '-' = false := by decide
  obtain ⟨harea, hall⟩ := List.forall_mem_append.mp hall
  obtain ⟨hgroup, hserial⟩ := List.forall_mem_append.mp hall
  refine ⟨?_, '-', List.mem_append_right area List.mem_cons_self, hdash.2⟩
  refine List.forall_mem_append.mpr ⟨fun c hc => isBlank_of_isDecimalDigit (harea c hc), ?_⟩
  refine List.forall_mem_cons.mpr ⟨hdash.1, List.forall_mem_append.mpr ⟨fun c hc =>
    isBlank_of_isDecimalDigit (hgroup c hc), ?_⟩⟩
  exact List.forall_mem_cons.mpr ⟨hdash.1, fun c hc => isBlank_of_isDecimalDigit (hserial c hc)⟩

theorem getLast?_eq_some_of_append {u v : List Char} {c : Char} (h : (u ++ v).getLast? = some c)
    (hc : c ∉ u) : v.getLast? = some c := by
  rw [List.getLast?_append, Option.or_eq_some_iff] at h
  exact h.resolve_right fun hlast => hc (List.mem_of_getLast? hlast.2)

namespace Shape.MissesNumbers

variable {shape : Shape} {front behind : List Char}

/-- No piece begins with digits in front of a blank. -/
theorem misses (h : shape.MissesNumbers) (hhonest : shape.IsHonest)
    (hall : ∀ c ∈ run, isDecimalDigit c = true) (hbehind : ∀ c ∈ behind.head?, isBlank c = true) :
    shape.Misses before (run ++ behind) := by
  intro n hhit
  obtain ⟨u, v, hsplit, hhit⟩ := hhonest.exists_append hhit
  obtain ⟨hblank, c, hc, hother⟩ := h before u v hhit
  rcases List.append_eq_append_iff.mp hsplit with ⟨x, rfl, hx⟩ | ⟨x, rfl, -⟩
  · cases x with
    | nil =>
        rw [List.append_nil] at hc
        exact Bool.false_ne_true (hother.symm.trans (hall c hc))
    | cons d x =>
        have hd := hbehind d (by rw [hx]; rfl)
        rw [hblank d (List.mem_append_right run List.mem_cons_self)] at hd
        cases hd
  · exact Bool.false_ne_true (hother.symm.trans (hall c (List.mem_append_left x hc)))

/-- Digits in front of a blank are kept, and so is the blank. -/
theorem exists_of_digits (h : shape.MissesNumbers) (hhonest : shape.IsHonest)
    (f : List Char → List Char) (before : Option Char)
    (hall : ∀ c ∈ run, isDecimalDigit c = true) (hbehind : ∀ c ∈ behind.head?, isBlank c = true) :
    ∃ behind', shape.replaceAfter f before (run ++ behind) = run ++ behind' ∧
      behind'.head? = behind.head? := by
  induction run generalizing before with
  | nil =>
      cases behind with
      | nil => exact ⟨[], replaceAfter_nil, rfl⟩
      | cons b behind =>
          have hmiss : shape.Misses before ([] ++ b :: behind) :=
            h.misses hhonest (List.forall_mem_nil _) hbehind
          exact ⟨_, hhonest.replaceAfter_cons hmiss, rfl⟩
  | cons c run ih =>
      have hmiss : shape.Misses before (c :: run ++ behind) := h.misses hhonest hall hbehind
      obtain ⟨behind', hrest, hhead⟩ := ih (some c) (List.forall_mem_cons.mp hall).2
      exact ⟨behind', (hhonest.replaceAfter_cons hmiss).trans (congrArg (c :: ·) hrest), hhead⟩

theorem exists_in_front (h : shape.MissesNumbers) (hhonest : shape.IsHonest)
    (f : List Char → List Char) (before : Option Char)
    (hall : ∀ c ∈ run, isDecimalDigit c = true) (hbehind : ∀ c ∈ behind.head?, isBlank c = true)
    (htext : [] ++ (run ++ behind) = cs) :
    ∃ front' behind', shape.replaceAfter f before cs = front' ++ (run ++ behind') ∧
      front'.getLast? = none ∧ behind'.head? = behind.head? := by
  obtain ⟨behind', hrest, hhead⟩ := h.exists_of_digits hhonest f before hall hbehind
  exact ⟨[], behind', htext ▸ hrest, rfl, hhead⟩

/-- Digits between blanks are kept, and so are the blanks next to them. -/
theorem exists_of_blanks (h : shape.MissesNumbers) (hhonest : shape.IsHonest)
    (f : List Char → List Char) (before : Option Char)
    (hall : ∀ c ∈ run, isDecimalDigit c = true) (hblanks : BetweenBlanks front behind) :
    ∃ front' behind', shape.replaceAfter f before (front ++ (run ++ behind)) =
      front' ++ (run ++ behind') ∧ front'.getLast? = front.getLast? ∧
        behind'.head? = behind.head? := by
  generalize htext : front ++ (run ++ behind) = cs
  induction before, cs using hhonest.induction generalizing front with
  | nil before =>
      obtain ⟨rfl, -⟩ := List.append_eq_nil_iff.mp htext
      exact h.exists_in_front hhonest f before hall hblanks.behind htext
  | keep before c cs hmiss ih =>
      cases front with
      | nil => exact h.exists_in_front hhonest f before hall hblanks.behind htext
      | cons d front =>
          injection htext with hd htext
          subst hd
          have hfront : ∀ c ∈ front.getLast?, isBlank c = true := fun c hc => by
            refine hblanks.front c ?_
            rw [List.getLast?_cons, Option.mem_def.mp hc, Option.getD_some]
            rfl
          obtain ⟨front', behind', hrest, hlast, hhead⟩ := ih ⟨hfront, hblanks.behind⟩ htext
          refine ⟨d :: front', behind', ?_, ?_, hhead⟩
          · exact (hhonest.replaceAfter_cons hmiss).trans (congrArg (d :: ·) hrest)
          · rw [List.getLast?_cons, List.getLast?_cons, hlast]
  | hit before u v hhit ih =>
      cases front with
      | nil => exact h.exists_in_front hhonest f before hall hblanks.behind htext
      | cons c front =>
          -- The blank at the end of what is in front is behind the piece.
          obtain ⟨b, hb⟩ := Option.isSome_iff_exists.mp
            (List.getLast?_isSome.mpr (List.cons_ne_nil c front))
          have houtside : b ∉ u := fun hmem =>
            Bool.false_ne_true (((h before u v hhit).1 b hmem).symm.trans (hblanks.front b hb))
          rcases List.append_eq_append_iff.mp htext with ⟨x, rfl, -⟩ | ⟨x, hu, rfl⟩
          · exact absurd (List.mem_append_left x (List.mem_of_getLast? hb)) houtside
          have hx : x.getLast? = some b := by
            rw [hu] at hb
            exact getLast?_eq_some_of_append hb houtside
          have hbehind : BetweenBlanks x behind :=
            ⟨by rw [hx, ← hb]; exact hblanks.front, hblanks.behind⟩
          obtain ⟨x', behind', hrest, hlast, hhead⟩ := ih hbehind rfl
          refine ⟨f u ++ x', behind', ?_, ?_, hhead⟩
          · rw [hhonest.replaceAfter_append hhit, hrest, List.append_assoc]
          · rw [hb, List.getLast?_append, hlast, hx, Option.some_or]

theorem standsByItself (h : shape.MissesNumbers) (hhonest : shape.IsHonest)
    (f : List Char → List Char) (before : Option Char)
    (hall : ∀ c ∈ run, isDecimalDigit c = true) (hrun : StandsByItself run cs) :
    StandsByItself run (shape.replaceAfter f before cs) := by
  obtain ⟨front, behind, rfl, hblanks⟩ := hrun
  obtain ⟨front', behind', htext, hlast, hhead⟩ :=
    h.exists_of_blanks hhonest f before hall hblanks
  exact ⟨front', behind', htext, by rw [hlast]; exact hblanks.front,
    by rw [hhead]; exact hblanks.behind⟩

end Shape.MissesNumbers

/-! ## Card numbers in plain digits -/

/-- A card number of ASCII digits only. -/
structure IsPlainCard (run : List Char) : Prop where
  digits : ∀ c ∈ run, c.isDigit = true
  card : isCard run = true

namespace IsPlainCard

theorem length_bounds (h : IsPlainCard run) : 13 ≤ run.length ∧ run.length ≤ 19 := by
  have hcard := h.card
  unfold isCard at hcard
  rw [List.filter_eq_self.mpr h.digits] at hcard
  simp only [List.length_map, Bool.and_eq_true, decide_eq_true_eq] at hcard
  exact hcard.1

theorem ne_nil (h : IsPlainCard run) : run ≠ [] := by
  rintro rfl
  exact absurd h.length_bounds.1 (by decide)

theorem isDecimalDigit (h : IsPlainCard run) : ∀ c ∈ run, isDecimalDigit c = true := by
  intro c hc
  rw [Unicode.isDecimalDigit, h.digits c hc, Bool.true_or]

theorem foreign (h : IsPlainCard run) : ∀ c ∈ run, c ∉ placeholderChars := fun c hc =>
  not_mem_placeholderChars_of_isDecimalDigit (h.isDecimalDigit c hc)

end IsPlainCard

/-- Reading goes on once a card number could end. -/
theorem exists_cardLength?_of_some (digits length best : Nat) (cs : List Char) :
    ∃ n, cardLength? digits length (some best) cs = some n := by
  induction hn : cs.length using Nat.strongRecOn generalizing digits length best cs with
  | ind n ih =>
      subst hn
      cases cs with
      | nil => exact ⟨best, by rw [cardLength?]⟩
      | cons c rest =>
          rcases cardLength?_cons digits length (some best) c rest with hbest |
            ⟨-, here, between, tail, hhere, rfl, -, hnext⟩
          · exact ⟨best, hbest⟩
          · obtain ⟨m, rfl⟩ : ∃ m, here = some m := by
              rcases hhere with rfl | ⟨rfl, -⟩
              · exact ⟨best, rfl⟩
              · exact ⟨_, rfl⟩
            rw [hnext]
            exact ih _ (by rw [List.length_cons, List.length_append]; omega) _ _ _ _ rfl

/-- Enough digits in front of the end of a word are a card number. -/
theorem exists_cardLength?_of_digits (digits length : Nat) (best : Option Nat)
    {rest : List Char} (hall : ∀ c ∈ run, isDecimalDigit c = true) (hne : run ≠ [])
    (hends : endsWord rest = true) (hlow : 13 ≤ digits + run.length)
    (hhigh : digits + run.length ≤ 19) :
    ∃ n, cardLength? digits length best (run ++ rest) = some n := by
  induction run generalizing digits length best with
  | nil => exact absurd rfl hne
  | cons c run ih =>
      rw [List.length_cons] at hlow hhigh
      have hc := hall c List.mem_cons_self
      have hroom : (isDecimalDigit c && decide (digits < 19)) = true := by
        rw [hc, Bool.true_and, decide_eq_true_eq]
        omega
      rw [List.cons_append, cardLength?, if_pos hroom]
      cases run with
      | nil =>
          have hend : (decide (13 ≤ digits + 1) && endsWord ([] ++ rest)) = true := by
            rw [List.nil_append, hends, Bool.and_true, decide_eq_true_eq]
            exact hlow
          rw [if_pos hend]
          dsimp only
          split
          · split
            · exact exists_cardLength?_of_some _ _ _ _
            · exact exists_cardLength?_of_some _ _ _ _
          · exact ⟨_, rfl⟩
      | cons d run =>
          have hd : ¬ (d = ' ' ∨ d = '-') := by
            have hdigit := hall d (List.mem_cons_of_mem c List.mem_cons_self)
            rintro (rfl | rfl)
            · exact absurd hdigit (by decide)
            · exact absurd hdigit (by decide)
          dsimp only [List.cons_append]
          rw [if_neg hd]
          exact ih _ _ _ (List.forall_mem_cons.mp hall).2 (List.cons_ne_nil d run)
            (by omega) (by omega)

/-- A card number between blanks is recognised, alone or with what follows. -/
theorem IsPlainCard.exists_hit (h : IsPlainCard run) {behind : List Char}
    (hfront : ∀ c ∈ before, isBlank c = true) (hbehind : ∀ c ∈ behind.head?, isBlank c = true) :
    ∃ n, cardNumber before (run ++ behind) = .hit n := by
  have hstart : startsWord before = true :=
    startsWord_iff.mpr fun c hc => isWord_of_isBlank (hfront c hc)
  have hends : endsWord behind = true :=
    endsWord_iff.mpr fun c hc => isWord_of_isBlank (hbehind c hc)
  obtain ⟨hlow, hhigh⟩ := h.length_bounds
  obtain ⟨n, hn⟩ := exists_cardLength?_of_digits 0 0 none h.isDecimalDigit h.ne_nil hends
    (by omega) (by omega)
  refine ⟨n, ?_⟩
  unfold cardNumber
  rw [if_pos hstart, hn]

/-! ## Numbers that are taken together -/

namespace IsGrouped

/-- What parts the groups stands between digits. -/
theorem digits_of_append {w u v : List Char} {b : Char} (hw : IsGrouped w)
    (hsplit : w = u ++ b :: v) (hb : isDecimalDigit b = false) :
    (∃ u' d, u = u' ++ [d] ∧ isDecimalDigit d = true) ∧
      ∃ d v', v = d :: v' ∧ isDecimalDigit d = true := by
  have hother {c : Char} (hc : isDecimalDigit c = true) : c ≠ b := by
    rintro rfl
    rw [hb] at hc
    cases hc
  induction hw generalizing u with
  | digit hc =>
      cases u with
      | nil =>
          injection hsplit with hhead
          exact absurd hhead (hother hc)
      | cons d u =>
          injection hsplit with _ hrest
          exact absurd hrest.symm (List.append_ne_nil_of_right_ne_nil u (List.cons_ne_nil b v))
  | next hc _ ih =>
      cases u with
      | nil =>
          injection hsplit with hhead
          exact absurd hhead (hother hc)
      | cons d u =>
          injection hsplit with _ hrest
          obtain ⟨⟨u', e, rfl, he⟩, hbehind⟩ := ih hrest
          exact ⟨⟨d :: u', e, rfl, he⟩, hbehind⟩
  | @parted c s w hc _ hw ih =>
      rcases u with _ | ⟨d, _ | ⟨e, u⟩⟩
      · injection hsplit with hhead
        exact absurd hhead (hother hc)
      · injection hsplit with hhead hrest
        injection hrest with _ hrest
        subst hhead hrest
        obtain ⟨e, t, rfl, he⟩ := hw.exists_head
        exact ⟨⟨[], c, rfl, hc⟩, e, t, rfl, he⟩
      · injection hsplit with _ hrest
        injection hrest with _ hrest
        obtain ⟨⟨u', x, rfl, hx⟩, hbehind⟩ := ih hrest
        exact ⟨⟨d :: e :: u', x, rfl, hx⟩, hbehind⟩

theorem not_blank_head {w : List Char} (hw : IsGrouped w) {c : Char} (hc : c ∈ w.head?) :
    isBlank c = false := by
  obtain ⟨d, t, rfl, hd⟩ := hw.exists_head
  cases hc
  exact isBlank_of_isDecimalDigit hd

theorem not_blank_last {w : List Char} (hw : IsGrouped w) {c : Char} (hc : c ∈ w.getLast?) :
    isBlank c = false := by
  by_cases hdigit : isDecimalDigit c = true
  · exact isBlank_of_isDecimalDigit hdigit
  · obtain ⟨u, rfl⟩ := List.getLast?_eq_some_iff.mp hc
    obtain ⟨-, d, v', hv, -⟩ := hw.digits_of_append rfl ((Bool.not_eq_true _).mp hdigit)
    cases hv

end IsGrouped

/-- What the rule for card numbers puts in the place of a number. -/
def hideCard (piece : List Char) : List Char :=
  if isCard piece then placeholder "CARD" else piece

theorem isGrouped_of_found {step : Step} {q : List Char}
    (h : .found q ∈ cardNumber.cut before step cs) : IsGrouped q := by
  obtain ⟨x, y, n, -, -, hhit, rfl⟩ := exists_of_found h
  obtain ⟨-, w, rest, rfl, hw, -, rfl⟩ := exists_of_cardNumber hhit
  have hpos : 1 ≤ w.length := by
    obtain ⟨c, t, rfl, -⟩ := hw.exists_head
    exact Nat.le_add_left 1 _
  rwa [Nat.max_eq_right hpos, List.take_left]

theorem masks_hideCard (before : Option Char) (cs : List Char) :
    Masks IsPlaceholder cs (cardNumber.replaceAfter hideCard before cs) :=
  masks_replaceAfter covers_card before cs

/-- In a text behind `before`, the digits `run` stand between blanks inside a longer number
that is recognised and is no card number. -/
def IsSwallowed (before : Option Char) (cs run : List Char) : Prop :=
  ∃ (ps qs : List Piece) (x y : List Char),
    cardNumber.cut before .ask cs = ps ++ .found (x ++ (run ++ y)) :: qs ∧
      isCard (x ++ (run ++ y)) = false ∧
        (∀ c ∈ (ps.flatMap Piece.chars ++ x).getLast?.or before, isBlank c = true) ∧
          ∀ c ∈ (y ++ qs.flatMap Piece.chars).head?, isBlank c = true

namespace IsSwallowed

/-- What is swallowed behind a part of the text is swallowed in the text. -/
theorem of_cut {p : Piece} {rest : List Char} (hcut : cardNumber.cut before .ask cs =
      p :: cardNumber.cut (p.chars.getLast?.or before) .ask rest)
    (h : IsSwallowed (p.chars.getLast?.or before) rest run) : IsSwallowed before cs run := by
  obtain ⟨ps, qs, x, y, hpieces, hother, hfront, hbehind⟩ := h
  refine ⟨p :: ps, qs, x, y, ?_, hother, ?_, hbehind⟩
  · rw [hcut, hpieces, List.cons_append]
  · rw [List.flatMap_cons, List.append_assoc, getLast?_append_or]
    exact hfront

/-- Digits behind a blank begin neither in a placeholder nor directly behind one. -/
theorem exists_behind_placeholder (hrun : IsPlainCard run) {block text front behind : List Char}
    (hblock : IsPlaceholder block) (htext : block ++ text = front ++ (run ++ behind))
    (hfront : ∀ c ∈ front.getLast?.or before, isBlank c = true) :
    ∃ x, text = x ++ (run ++ behind) ∧ ∀ p, ∀ c ∈ x.getLast?.or p, isBlank c = true := by
  have hstar : isBlank '*' = false := by decide
  have hbeside {p : Option Char} : ¬ ∀ c ∈ block.getLast?.or p, isBlank c = true := by
    rw [hblock.getLast?, Option.some_or]
    exact fun h => Bool.false_ne_true (hstar.symm.trans (h '*' rfl))
  rcases List.append_eq_append_iff.mp htext with ⟨x, rfl, hx⟩ | ⟨x, hx, hrest⟩
  · rw [getLast?_append_or] at hfront
    cases hlast : x.getLast? with
    | none =>
        rw [hlast] at hfront
        exact absurd hfront hbeside
    | some d =>
        rw [hlast] at hfront
        exact ⟨x, hx, fun p => hlast ▸ hfront⟩
  · -- The digits would begin inside the placeholder or directly behind it.
    obtain ⟨c, t, rfl⟩ := List.exists_cons_of_ne_nil hrun.ne_nil
    cases x with
    | nil =>
        rw [List.append_nil] at hx
        exact absurd (hx ▸ hfront) hbeside
    | cons d x =>
        injection hrest with hd
        subst hd
        refine absurd (hblock.mem_placeholderChars ?_) (hrun.foreign c List.mem_cons_self)
        exact hx ▸ List.mem_append_right front List.mem_cons_self

/-- Blanks that are behind a text once card numbers are hidden were there. -/
theorem blank_behind {old behind : List Char} (hmasks : Masks IsPlaceholder old behind)
    (hbehind : ∀ c ∈ behind.head?, isBlank c = true) : ∀ c ∈ old.head?, isBlank c = true := by
  have hblanks : BetweenBlanks [] behind := ⟨nofun, hbehind⟩
  exact (hblanks.of_masks .nil hmasks).behind

/-- Digits that begin in a number which is kept are swallowed by it. -/
theorem of_kept (hrun : IsPlainCard run) {front x v behind : List Char}
    (hhit : cardNumber before (front ++ x ++ v) = .hit (front ++ x).length)
    (hcard : isCard (front ++ x) = false)
    (hx : run ++ behind =
      x ++ cardNumber.replaceAfter hideCard ((front ++ x).getLast?.or before) v)
    (hfront : ∀ c ∈ front.getLast?.or before, isBlank c = true)
    (hbehind : ∀ c ∈ behind.head?, isBlank c = true) :
    IsSwallowed before (front ++ x ++ v) run := by
  have hmasks := masks_hideCard ((front ++ x).getLast?.or before) v
  have hinside (y : List Char) (hxy : x = run ++ y)
      (hbehind' : behind = y ++ cardNumber.replaceAfter hideCard
        ((front ++ x).getLast?.or before) v) : IsSwallowed before (front ++ x ++ v) run := by
    subst hxy
    refine ⟨[], _, front, y, cardNumber_isHonest.cut_append hhit, hcard, hfront, ?_⟩
    rw [Shape.flatMap_chars_cut]
    exact blank_behind ((Masks.refl y).append hmasks) (hbehind' ▸ hbehind)
  rcases List.append_eq_append_iff.mp hx with ⟨y, hy, hrest⟩ | ⟨y, hy, hrest⟩
  · exact hinside y hy hrest
  cases y with
  | nil =>
      rw [List.append_nil] at hy
      exact hinside [] (by rw [hy, List.append_nil]) hrest.symm
  | cons d y =>
      -- A number ends where a word ends, not in front of a digit.
      have hd : d ∈ run := hy ▸ List.mem_append_right x List.mem_cons_self
      have hhead : v.head? = some d := by
        rw [hmasks.head?, hrest]
        · rfl
        · rw [hrest]
          rintro c ⟨⟩ rfl
          exact hrun.foreign '*' hd (by decide)
      have hends := endsWord_iff.mp (cardNumber_isBounded before _ v hhit).2 d hhead
      rw [isWord_of_isDecimalDigit (hrun.isDecimalDigit d hd)] at hends
      cases hends

/-- A card number that stands between blanks once card numbers are hidden is swallowed. -/
theorem of_replaceAfter (hrun : IsPlainCard run) {front behind : List Char}
    (htext : cardNumber.replaceAfter hideCard before cs = front ++ (run ++ behind))
    (hfront : ∀ c ∈ front.getLast?.or before, isBlank c = true)
    (hbehind : ∀ c ∈ behind.head?, isBlank c = true) : IsSwallowed before cs run := by
  induction before, cs using cardNumber_isHonest.induction generalizing front with
  | nil before =>
      rw [replaceAfter_nil] at htext
      exact absurd (List.append_eq_nil_iff.mp (List.append_eq_nil_iff.mp htext.symm).2).1
        hrun.ne_nil
  | keep before c cs hmiss ih =>
      rw [cardNumber_isHonest.replaceAfter_cons hmiss] at htext
      cases front with
      | nil =>
          -- It would stand there in the text, too, and be recognised.
          have hstar : '*' ∉ run := fun hmem => hrun.foreign '*' hmem (by decide)
          have hmasks := Masks.keep c (masks_hideCard (some c) cs)
          rw [htext, List.nil_append] at hmasks
          obtain ⟨behind', hcs, hrest⟩ := hmasks.exists_of_prefix hstar
          obtain ⟨n, hn⟩ := hrun.exists_hit hfront (blank_behind hrest hbehind)
          rw [← hcs] at hn
          exact absurd hn (hmiss n)
      | cons d front =>
          injection htext with hc htext
          subst hc
          rw [getLast?_cons_or] at hfront
          exact of_cut (p := .plain c) (cardNumber_isHonest.cut_cons hmiss) (ih htext hfront)
  | hit before u v hhit ih =>
      have hcut := cardNumber_isHonest.cut_append hhit
      rw [cardNumber_isHonest.replaceAfter_append hhit] at htext
      cases hcard : isCard u with
      | true =>
          have hhidden : hideCard u = placeholder "CARD" := if_pos hcard
          rw [hhidden] at htext
          obtain ⟨x, hx, hblanks⟩ := exists_behind_placeholder hrun
            (isPlaceholder_placeholder (by decide) (by decide)) htext hfront
          exact of_cut hcut (ih hx (hblanks _))
      | false =>
          have hkept : hideCard u = u := if_neg (Bool.eq_false_iff.mp hcard)
          rw [hkept] at htext
          rcases List.append_eq_append_iff.mp htext with ⟨x, rfl, hx⟩ | ⟨x, rfl, hx⟩
          · rw [getLast?_append_or] at hfront
            exact of_cut hcut (ih hx hfront)
          · exact of_kept hrun hhit hcard hx hfront hbehind

/-- Hiding card numbers keeps the blanks at the end of a text. -/
theorem blank_last {ps : List Piece} (hps : ∀ q, .found q ∈ ps → IsGrouped q) {x : List Char}
    (h : ∀ c ∈ (ps.flatMap Piece.chars ++ x).getLast?, isBlank c = true) :
    ∀ c ∈ (ps.flatMap (Piece.replaced hideCard) ++ x).getLast?, isBlank c = true := by
  rw [List.getLast?_append] at h ⊢
  cases hx : x.getLast? with
  | some d => rwa [hx] at h
  | none =>
      rw [hx, Option.none_or] at h
      rw [Option.none_or]
      rcases List.eq_nil_or_concat ps with rfl | ⟨ps, p, rfl⟩
      · exact nofun
      rw [List.concat_eq_append] at hps h ⊢
      rw [List.flatMap_append, List.flatMap_singleton] at h ⊢
      cases p with
      | plain c =>
          rw [Piece.chars, List.getLast?_concat] at h
          rwa [Piece.replaced, List.getLast?_concat]
      | found q =>
          -- A number ends with a digit.
          have hq := hps q (List.mem_append_right ps List.mem_cons_self)
          obtain ⟨c, t, rfl, -⟩ := hq.exists_head
          obtain ⟨d, hd⟩ := Option.isSome_iff_exists.mp
            (List.getLast?_isSome.mpr (List.cons_ne_nil c t))
          have hblank := h d (by rw [Piece.chars, List.getLast?_append, hd, Option.some_or]; rfl)
          rw [hq.not_blank_last hd] at hblank
          cases hblank

/-- Hiding card numbers keeps the blanks at the start of a text. -/
theorem blank_head {qs : List Piece} (hqs : ∀ q, .found q ∈ qs → IsGrouped q) {y : List Char}
    (h : ∀ c ∈ (y ++ qs.flatMap Piece.chars).head?, isBlank c = true) :
    ∀ c ∈ (y ++ qs.flatMap (Piece.replaced hideCard)).head?, isBlank c = true := by
  cases y with
  | cons d y => exact h
  | nil =>
      cases qs with
      | nil => exact h
      | cons q qs =>
          cases q with
          | plain c => exact h
          | found q =>
              -- A number begins with a digit.
              have hq := hqs q List.mem_cons_self
              obtain ⟨c, t, rfl, -⟩ := hq.exists_head
              have hblank := h c rfl
              rw [hq.not_blank_head rfl] at hblank
              cases hblank

/-- A swallowed number is left where it is. -/
theorem standsByItself (h : IsSwallowed none cs run) :
    StandsByItself run (cardNumber.replaceAfter hideCard none cs) := by
  obtain ⟨ps, qs, x, y, hcut, hother, hfront, hbehind⟩ := h
  rw [Option.or_none] at hfront
  have hgrouped : ∀ q, .found q ∈ ps ++ .found (x ++ (run ++ y)) :: qs → IsGrouped q :=
    fun q hq => isGrouped_of_found (hcut ▸ hq)
  refine ⟨_, _, ?_, blank_last (fun q hq => hgrouped q (List.mem_append_left _ hq)) hfront,
    blank_head (fun q hq => hgrouped q (List.mem_append_right ps (List.mem_cons_of_mem _ hq)))
      hbehind⟩
  have hkept : hideCard (x ++ (run ++ y)) = x ++ (run ++ y) := if_neg (Bool.eq_false_iff.mp hother)
  unfold Shape.replaceAfter
  rw [hcut, List.flatMap_append, List.flatMap_cons, Piece.replaced, hkept]
  simp only [List.append_assoc]

theorem of_standsByItself (hrun : IsPlainCard run)
    (h : StandsByItself run (cardNumber.replaceAfter hideCard none cs)) :
    IsSwallowed none cs run := by
  obtain ⟨front, behind, htext, hblanks⟩ := h
  exact of_replaceAfter hrun htext (by rw [Option.or_none]; exact hblanks.front) hblanks.behind

/-- A card number is swallowed together with a digit across a single space. -/
theorem isCrowded (h : IsSwallowed none cs run) (hrun : isCard run = true) : IsCrowded run cs := by
  obtain ⟨ps, qs, x, y, hcut, hother, hfront, hbehind⟩ := h
  have hgrouped : IsGrouped (x ++ (run ++ y)) :=
    isGrouped_of_found (hcut ▸ List.mem_append_right ps List.mem_cons_self)
  have hspace {c : Char} (hblank : isBlank c = true) (hc : c ∈ x ++ (run ++ y)) :
      c = ' ' ∧ isDecimalDigit c = false := by
    have hdigit : isDecimalDigit c = false := by
      refine (Bool.not_eq_true _).mp fun hdigit => ?_
      rw [isBlank_of_isDecimalDigit hdigit] at hblank
      cases hblank
    have hcard := hgrouped.isCardChar_of_mem c hc
    rw [isCardChar, hdigit, Bool.false_or, Bool.or_eq_true, beq_iff_eq, beq_iff_eq] at hcard
    refine ⟨hcard.resolve_right ?_, hdigit⟩
    rintro rfl
    exact absurd hblank (by decide)
  rw [Option.or_none] at hfront
  refine ⟨_, _, ?_, ⟨hfront, hbehind⟩, ?_⟩
  · have hchars : (cardNumber.cut none .ask cs).flatMap Piece.chars = cs :=
      cardNumber.flatMap_chars_cut none .ask cs
    rw [hcut, List.flatMap_append, List.flatMap_cons, Piece.chars] at hchars
    simp only [← hchars, List.append_assoc]
  · rcases List.eq_nil_or_concat x with rfl | ⟨x, c, rfl⟩
    · cases y with
      | nil =>
          rw [List.nil_append, List.append_nil, hrun] at hother
          cases hother
      | cons c y =>
          have hmem : c ∈ [] ++ (run ++ c :: y) := List.mem_append_right run List.mem_cons_self
          obtain ⟨rfl, hdigit⟩ := hspace (hbehind c rfl) hmem
          obtain ⟨-, d, v, rfl, hd⟩ := hgrouped.digits_of_append (List.nil_append _) hdigit
          exact .inr ⟨d, v ++ qs.flatMap Piece.chars, rfl, hd⟩
    · rw [List.concat_eq_append] at *
      have hmem : c ∈ x ++ [c] ++ (run ++ y) :=
        List.mem_append_left _ (List.mem_append_right x List.mem_cons_self)
      have hlast : (ps.flatMap Piece.chars ++ (x ++ [c])).getLast? = some c := by
        rw [← List.append_assoc, List.getLast?_concat]
      obtain ⟨rfl, hdigit⟩ := hspace (hfront c hlast) hmem
      have hsplit : x ++ [' '] ++ (run ++ y) = x ++ ' ' :: (run ++ y) := by
        rw [List.append_assoc, List.singleton_append]
      obtain ⟨⟨u, d, rfl, hd⟩, -⟩ := hgrouped.digits_of_append hsplit hdigit
      refine .inl ⟨ps.flatMap Piece.chars ++ u, d, ?_, hd⟩
      simp only [List.append_assoc, List.cons_append, List.nil_append]

end IsSwallowed

/-! ## Redacted texts -/

/-- The text that the rule for card numbers reads: the rules for the other secrets in front
of it are applied. -/
def textForCards (cs : List Char) : List Char :=
  (rules.take 8).foldl (fun cs r => r.apply cs) cs

theorem redactChars_eq (cs : List Char) : redactChars cs =
    (Rule.whole "SSN" socialSecurityNumber).apply
      (cardNumber.replaceAfter hideCard none (textForCards cs)) := by
  have hrules : rules =
      rules.take 8 ++ [⟨cardNumber, hideCard⟩, .whole "SSN" socialSecurityNumber] := rfl
  rw [redactChars, hrules, List.foldl_append, List.foldl_cons, List.foldl_cons, List.foldl_nil,
    ← Rule.apply_eq_replaceAfter ⟨cardNumber, hideCard⟩]
  rfl

theorem isPlainCard_fours : IsPlainCard "4111111111111111".toList :=
  ⟨by decide, by decide⟩

theorem redact_behind_digit : redact "1 4111111111111111" = "1 4111111111111111" := by
  decide +kernel

theorem standsByItself_behind_digit :
    StandsByItself "4111111111111111".toList (redact "1 4111111111111111").toList := by
  rw [redact_behind_digit]
  refine ⟨"1 ".toList, [], by decide, ?_, nofun⟩
  rintro c ⟨⟩
  rfl

/-- A card number in plain digits stands between blanks in a redacted text exactly when it is
swallowed in what the rule for card numbers reads.  Then it stands in the text itself with a
digit across a single space. -/
theorem redact_standsByItself_iff (hrun : IsPlainCard run) (s : String) :
    (StandsByItself run (redact s).toList ↔ IsSwallowed none (textForCards s.toList) run) ∧
      (StandsByItself run (redact s).toList → IsCrowded run s.toList) := by
  have hssn : Rule.whole "SSN" socialSecurityNumber ∈ rules := List.mem_of_getElem? (i := 9) rfl
  have hiff : StandsByItself run (redact s).toList ↔
      IsSwallowed none (textForCards s.toList) run := by
    rw [redact, String.toList_ofList, redactChars_eq]
    constructor
    · intro h
      exact .of_standsByItself hrun (h.of_masks hrun.ne_nil hrun.foreign (masks_apply hssn _))
    · intro h
      rw [Rule.apply_eq_replaceAfter]
      exact socialSecurityNumber_missesNumbers.standsByItself socialSecurityNumber_isHonest _ _
        hrun.isDecimalDigit h.standsByItself
  refine ⟨hiff, fun h => ?_⟩
  have hcrowded := (hiff.mp h).isCrowded hrun.card
  -- No rule in front of the one for card numbers brings the digits together.
  refine foldl_rules_induction (P := fun cs => IsCrowded run cs → IsCrowded run s.toList)
    (fun old new hmasks hold hnew => hold (hnew.of_masks hrun.foreign hmasks))
    (List.take_subset 8 rules) id hcrowded

/-- The digit in front is taken for a part of the number. -/
theorem isSwallowed_behind_digit :
    IsPlainCard "4111111111111111".toList ∧
      IsSwallowed none (textForCards "1 4111111111111111".toList) "4111111111111111".toList ∧
      IsCrowded "4111111111111111".toList "1 4111111111111111".toList := by
  obtain ⟨hiff, hcrowded⟩ := redact_standsByItself_iff isPlainCard_fours "1 4111111111111111"
  exact ⟨isPlainCard_fours, hiff.mp standsByItself_behind_digit,
    hcrowded standsByItself_behind_digit⟩

/-- A card number behind a digit and a space stays in a text. -/
theorem redact_card_behind_digit :
    IsPlainCard "4111111111111111".toList ∧
      StandsByItself "4111111111111111".toList "1 4111111111111111".toList ∧
      redact "1 4111111111111111" = "1 4111111111111111" ∧
      StandsByItself "4111111111111111".toList (redact "1 4111111111111111").toList := by
  have hstands := standsByItself_behind_digit
  refine ⟨isPlainCard_fours, ?_, redact_behind_digit, hstands⟩
  rwa [redact_behind_digit] at hstands

end TraceCheck.Redaction
