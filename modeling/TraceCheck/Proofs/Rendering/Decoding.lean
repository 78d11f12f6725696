import Mathlib.Data.Bool.AllAny
import TraceCheck.Redaction.Basic

/-!
# Decoding escaped texts

A surface undoes its escapes unit by unit from left to right.  This module describes
such decoders by the reader of one unit, and the characters of a text that no
backslash escapes.
-/

namespace TraceCheck.Rendering

/-! ## Units -/

/-- A reader of the first unit of a text: the character that the unit stands for, and
what follows the unit. -/
abbrev UnitReader := List Char → Option (Char × List Char)

/-- The characters for which the units of a text stand, if the text has no other parts. -/
def decodeUnits (unit : UnitReader) (cs : List Char) : Option (List Char) :=
  if cs = [] then some []
  else match unit cs with
    | none => none
    | some (c, rest) =>
      if rest.length < cs.length then (decodeUnits unit rest).map (c :: ·) else none
termination_by cs.length

/-- Some characters are the unit of a character wherever they stand. -/
def Spells (unit : UnitReader) (cs : List Char) (c : Char) : Prop :=
  cs ≠ [] ∧ ∀ rest, unit (cs ++ rest) = some (c, rest)

/-- Some characters are read as a text wherever they stand. -/
def DecodesTo (unit : UnitReader) (cs text : List Char) : Prop :=
  ∀ rest, decodeUnits unit (cs ++ rest) = (decodeUnits unit rest).map (text ++ ·)

section Units

variable {unit : UnitReader} {cs ds text : List Char} {c : Char}

theorem DecodesTo.nil : DecodesTo unit [] [] := fun rest => by
  cases h : decodeUnits unit rest <;> simp [h]

theorem DecodesTo.append {text' : List Char}
    (hcs : DecodesTo unit cs text) (hds : DecodesTo unit ds text') :
    DecodesTo unit (cs ++ ds) (text ++ text') := by
  intro rest
  rw [List.append_assoc, hcs, hds, Option.map_map]
  congr 1
  funext tail
  exact (List.append_assoc text text' tail).symm

theorem Spells.decodesTo (h : Spells unit cs c) : DecodesTo unit cs [c] := by
  intro rest
  obtain ⟨hne, hunit⟩ := h
  have hlength : rest.length < (cs ++ rest).length := by
    have hpos := List.length_pos_iff.mpr hne
    rw [List.length_append]
    omega
  rw [decodeUnits, if_neg (List.append_ne_nil_of_left_ne_nil hne rest), hunit]
  dsimp only
  rw [if_pos hlength]
  rfl

theorem DecodesTo.flatMap {α : Type} {xs : List α} {spelling meaning : α → List Char}
    (h : ∀ x ∈ xs, DecodesTo unit (spelling x) (meaning x)) :
    DecodesTo unit (xs.flatMap spelling) (xs.flatMap meaning) := by
  induction xs with
  | nil => exact DecodesTo.nil
  | cons x xs ih =>
      obtain ⟨hx, hall⟩ := List.forall_mem_cons.mp h
      exact hx.append (ih hall)

theorem DecodesTo.decodeUnits_eq (h : DecodesTo unit cs text) :
    decodeUnits unit cs = some text := by
  have hend := h []
  rw [List.append_nil] at hend
  rw [hend, decodeUnits, if_pos rfl]
  simp

/-- A text whose characters are spelled by units is read as itself. -/
theorem decodeUnits_flatMap {spelling : Char → List Char}
    (h : ∀ c ∈ text, Spells unit (spelling c) c) :
    decodeUnits unit (text.flatMap spelling) = some text := by
  have hdecodes : DecodesTo unit (text.flatMap spelling) (text.flatMap fun c => [c]) :=
    DecodesTo.flatMap fun c hc => (h c hc).decodesTo
  rw [hdecodes.decodeUnits_eq, List.flatMap_singleton']

end Units

/-! ## Entities -/

/-- The unit at each ampersand of a text can be read. -/
def EntitiesComplete (unit : UnitReader) (cs : List Char) : Prop :=
  ∀ rest, '&' :: rest <:+ cs → (unit ('&' :: rest)).isSome = true

theorem EntitiesComplete.nil {unit : UnitReader} : EntitiesComplete unit [] := by
  intro rest h
  exact absurd (List.suffix_nil.mp h) (List.cons_ne_nil _ _)

theorem EntitiesComplete.cons
    {unit : UnitReader} {c : Char} {cs : List Char} (hcs : EntitiesComplete unit cs)
    (hc : c = '&' → (unit (c :: cs)).isSome = true) :
    EntitiesComplete unit (c :: cs) := by
  intro rest h
  rcases List.suffix_cons_iff.mp h with heq | h
  · rw [heq]
    exact hc (List.cons.inj heq).1.symm
  · exact hcs rest h

theorem EntitiesComplete.append_of_not_mem
    {unit : UnitReader} {cs rest : List Char} (hcs : '&' ∉ cs)
    (hrest : EntitiesComplete unit rest) :
    EntitiesComplete unit (cs ++ rest) := by
  induction cs with
  | nil => exact hrest
  | cons c cs ih =>
      obtain ⟨hc, hothers⟩ := not_or.mp (mt List.mem_cons.mpr hcs)
      exact (ih hothers).cons fun heq => absurd heq.symm hc

/-- A unit without an ampersand behind its first character may stand in front. -/
theorem EntitiesComplete.append
    {unit : UnitReader} {cs rest : List Char} {c : Char} (h : Spells unit cs c)
    (htail : '&' ∉ cs.tail) (hrest : EntitiesComplete unit rest) :
    EntitiesComplete unit (cs ++ rest) := by
  obtain ⟨hne, hunit⟩ := h
  obtain ⟨x, tail, rfl⟩ := List.exists_cons_of_ne_nil hne
  refine (hrest.append_of_not_mem htail).cons fun _ => ?_
  change (unit (x :: tail ++ rest)).isSome = true
  rw [hunit]
  rfl

/-- Parts that may stand in front of any text with complete entities may all stand there. -/
theorem EntitiesComplete.flatMap_append
    {α : Type} {unit : UnitReader} {xs : List α} {f : α → List Char} {rest : List Char}
    (h : ∀ x ∈ xs, ∀ behind, EntitiesComplete unit behind → EntitiesComplete unit (f x ++ behind))
    (hrest : EntitiesComplete unit rest) :
    EntitiesComplete unit (xs.flatMap f ++ rest) := by
  induction xs with
  | nil => exact hrest
  | cons x xs ih =>
      obtain ⟨hx, hall⟩ := List.forall_mem_cons.mp h
      rw [List.flatMap_cons, List.append_assoc]
      exact hx _ (ih hall)

theorem EntitiesComplete.flatMap
    {α : Type} {unit : UnitReader} {xs : List α} {f : α → List Char}
    (h : ∀ x ∈ xs, ∀ behind, EntitiesComplete unit behind → EntitiesComplete unit (f x ++ behind)) :
    EntitiesComplete unit (xs.flatMap f) := by
  have hend := EntitiesComplete.flatMap_append h EntitiesComplete.nil
  rwa [List.append_nil] at hend

/-! ## Characters that are not escaped -/

/-- The characters outside placeholders that a scan from left to right meets and that no
backslash escapes.  A backslash in front of a placeholder escapes nothing. -/
def unescaped : List Redaction.Piece → List Char
  | [] => []
  | .plain '\\' :: .plain _ :: rest => unescaped rest
  | .plain c :: rest => c :: unescaped rest
  | .found _ :: rest => unescaped rest

/-- The characters of a text that no backslash escapes. -/
def unescapedChars (cs : List Char) : List Char :=
  unescaped (cs.map .plain)

/-- Pieces add no unescaped characters but allowed ones to those behind them. -/
def AddsOnly (P : Char → Prop) (ps : List Redaction.Piece) : Prop :=
  ∀ rest, (∀ c ∈ unescaped rest, P c) → ∀ c ∈ unescaped (ps ++ rest), P c

section Unescaped

variable {P : Char → Prop} {ps qs : List Redaction.Piece} {c : Char}

theorem AddsOnly.nil : AddsOnly P [] := fun _ h => h

theorem AddsOnly.append (hps : AddsOnly P ps) (hqs : AddsOnly P qs) : AddsOnly P (ps ++ qs) := by
  intro rest hrest
  rw [List.append_assoc]
  exact hps _ (hqs rest hrest)

theorem AddsOnly.flatMap {α : Type} {xs : List α} {f : α → List Redaction.Piece}
    (h : ∀ x ∈ xs, AddsOnly P (f x)) : AddsOnly P (xs.flatMap f) := by
  induction xs with
  | nil => exact AddsOnly.nil
  | cons x xs ih =>
      obtain ⟨hx, hall⟩ := List.forall_mem_cons.mp h
      exact hx.append (ih hall)

theorem AddsOnly.pair : AddsOnly P [.plain '\\', .plain c] := fun _ hrest => hrest

theorem AddsOnly.found (p : List Char) : AddsOnly P [.found p] := fun _ hrest => hrest

theorem AddsOnly.plain (hc : P c) (hne : c ≠ '\\') : AddsOnly P [.plain c] := by
  intro rest hrest
  have hcons : unescaped (.plain c :: rest) = c :: unescaped rest := by
    rw [unescaped]
    intro _ _ _
    exact hne
  rw [List.singleton_append, hcons]
  exact List.forall_mem_cons.mpr ⟨hc, hrest⟩

theorem AddsOnly.map_plain {cs : List Char} (hcs : ∀ c ∈ cs, P c ∧ c ≠ '\\') :
    AddsOnly P (cs.map .plain) := by
  rw [List.map_eq_flatMap]
  exact AddsOnly.flatMap fun c hc => AddsOnly.plain (hcs c hc).1 (hcs c hc).2

theorem AddsOnly.forall_unescaped (h : AddsOnly P ps) : ∀ c ∈ unescaped ps, P c := by
  have hend := h [] (List.forall_mem_nil _)
  rwa [List.append_nil] at hend

/-- A text that is escaped character by character has only allowed characters bare. -/
theorem forall_unescapedChars_flatMap {text : List Char} {escape : Char → List Char}
    (h : ∀ c ∈ text, AddsOnly P ((escape c).map .plain)) :
    ∀ c ∈ unescapedChars (text.flatMap escape), P c := by
  have hadds : AddsOnly P ((text.flatMap escape).map .plain) := by
    rw [List.map_flatMap]
    exact AddsOnly.flatMap h
  exact hadds.forall_unescaped

end Unescaped

end TraceCheck.Rendering
