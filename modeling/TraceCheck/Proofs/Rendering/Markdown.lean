import Mathlib.Data.List.Basic
import TraceCheck.Verdict.Rendering
import TraceCheck.Proofs.Redaction.Placeholders
import TraceCheck.Proofs.Rendering.Html

/-!
# Texts in markdown

A text is shown in markdown with its control characters visible and its marks behind
backslashes, but for the placeholders in it, which stand as they are.  Escaping makes
no new placeholder and hides none, since every star outside a placeholder has a
backslash in front.
-/

namespace TraceCheck.Rendering

open TraceCheck.Redaction

/-! ## Reading escapes -/

/-- The marks of markdown. -/
def markdownMarks : List Char :=
  ['\\', '\x60', '*', '_', '\x7b', '\x7d', '[', ']', '(', ')', '#', '+', '!', '|', '~']

/-- The entities that texts in markdown have. -/
def markdownEntities : List (String × Char) :=
  [("&amp;", '&'), ("&lt;", '<'), ("&gt;", '>')]

/-- Read a mark behind a backslash, an entity or any other character. -/
def markdownUnit : UnitReader
  | [] => none
  | c :: rest =>
    if c = '\\' then
      match rest with
      | [] => none
      | x :: rest => if x ∈ markdownMarks then some (x, rest) else none
    else if c = '&' then entity? markdownEntities (c :: rest)
    else some (c, rest)

/-- The placeholders among some pieces. -/
def placeholders (ps : List Redaction.Piece) : List (List Char) :=
  ps.filterMap fun
    | .plain _ => none
    | .found p => some p

/-- A text is encoded in markdown: reading it gives the text with visible control
characters, it has the placeholders of the text and outside them no bare mark, no
markup stands as it is, and every ampersand begins an entity. -/
structure EncodesMarkdown (text out : List Char) : Prop where
  decoded : decodeUnits markdownUnit out = some (text.flatMap Escape.plainChar)
  placeholders : placeholders (anyPlaceholder.pieces out) =
    placeholders (anyPlaceholder.pieces text)
  closed : ∀ c ∈ unescaped (anyPlaceholder.pieces out), c ∉ markdownMarks
  inert : ∀ c ∈ out, c ∉ ['<', '>']
  entities : EntitiesComplete markdownUnit out

/-! ## Escaping -/

/-- A visible character stands as it is, behind a backslash or as an entity. -/
theorem markdownVisible_cases (c : Char) :
    (Escape.markdownVisible c = [c] ∧ c ∉ markdownMarks ∧ c ∉ ['&', '<', '>']) ∨
      (Escape.markdownVisible c = ['\\', c] ∧ c ∈ markdownMarks) ∨
      ∃ entity ∈ markdownEntities, entity.2 = c ∧ Escape.markdownVisible c = entity.1.toList := by
  unfold Escape.markdownVisible
  split
  · exact .inr (.inr ⟨("&amp;", '&'), by decide, rfl, rfl⟩)
  · exact .inr (.inr ⟨("&lt;", '<'), by decide, rfl, rfl⟩)
  · exact .inr (.inr ⟨("&gt;", '>'), by decide, rfl, rfl⟩)
  · split
    · next hmark => exact .inr (.inl ⟨rfl, List.contains_iff_mem.mp hmark⟩)
    · next hmark =>
        have hmem : c ∉ markdownMarks := fun h => hmark (List.contains_iff_mem.mpr h)
        exact .inl ⟨rfl, hmem, by simp_all⟩

/-- The entities hold no mark, no markup and no ampersand but the one in front. -/
theorem markdownEntity_inert {entity : String × Char} (h : entity ∈ markdownEntities) :
    entity.1.toList ≠ [] ∧ (∀ x ∈ entity.1.toList, x ∉ markdownMarks ∧ x ∉ ['<', '>']) ∧
      '&' ∉ entity.1.toList.tail := by
  have hall : ∀ e ∈ markdownEntities, e.1.toList ≠ [] ∧
      (e.1.toList.all fun x => x ∉ markdownMarks ∧ x ∉ ['<', '>']) = true ∧
        '&' ∉ e.1.toList.tail := by
    decide
  obtain ⟨hne, hinert, htail⟩ := hall entity h
  exact ⟨hne, List.all_iff_forall_prop.mp hinert, htail⟩

theorem spells_self {c : Char} (hbackslash : c ≠ '\\') (hand : c ≠ '&') :
    Spells markdownUnit [c] c := by
  refine ⟨List.cons_ne_nil _ _, fun rest => ?_⟩
  rw [List.singleton_append, markdownUnit.eq_def]
  dsimp only
  rw [if_neg hbackslash, if_neg hand]

theorem spells_markdownVisible (c : Char) :
    Spells markdownUnit (Escape.markdownVisible c) c := by
  rcases markdownVisible_cases c with ⟨heq, hmark, hother⟩ | ⟨heq, hmark⟩ | ⟨entity, hmem, rfl, heq⟩
  · rw [heq]
    refine spells_self (fun h => hmark ?_) (fun h => hother ?_)
    · rw [h]
      decide
    · rw [h]
      decide
  · rw [heq]
    refine ⟨List.cons_ne_nil _ _, fun rest => ?_⟩
    change (if c ∈ markdownMarks then some (c, rest) else none) = some (c, rest)
    exact if_pos hmark
  · rw [heq]
    refine ⟨(markdownEntity_inert hmem).1, fun rest => ?_⟩
    simp only [markdownEntities, List.mem_cons, List.not_mem_nil, or_false] at hmem
    rcases hmem with rfl | rfl | rfl <;> rfl

/-! ## Placeholders of an escaped text -/

/-- A text that does not go on like a placeholder behind its first star. -/
def Quiet (cs : List Char) : Prop :=
  ∀ rest, cs ≠ '*' :: '*' :: 'R' :: rest

theorem not_hit_of_quiet
    {c : Char} {rest : List Char} (h : c = '*' → Quiet rest) (n : Nat) :
    anyPlaceholder none (c :: rest) ≠ .hit n := by
  intro hhit
  obtain ⟨p, tail, hsplit, ⟨kind, -, -, rfl⟩, -⟩ := exists_of_anyPlaceholder hhit
  have hcons : c :: rest =
      '*' :: '*' :: '*' :: 'R' :: ("EDACTED_".toList ++ kind ++ "***".toList ++ tail) := hsplit
  injection hcons with hc hrest
  exact h hc _ hrest

theorem pieces_append_of_not_mem {cs rest : List Char} (hcs : '*' ∉ cs) :
    anyPlaceholder.pieces (cs ++ rest) = cs.map .plain ++ anyPlaceholder.pieces rest := by
  induction cs with
  | nil => rfl
  | cons c cs ih =>
      obtain ⟨hc, hothers⟩ := not_or.mp (mt List.mem_cons.mpr hcs)
      have hplain : ∀ n, anyPlaceholder none (c :: (cs ++ rest)) ≠ .hit n :=
        not_hit_of_quiet fun h => absurd h.symm hc
      rw [List.cons_append, pieces_plain_cons hplain, ih hothers]
      rfl

theorem quiet_append_of_not_mem {cs rest : List Char} (hne : cs ≠ []) (hcs : '*' ∉ cs) :
    Quiet (cs ++ rest) := by
  obtain ⟨c, tail, rfl⟩ := List.exists_cons_of_ne_nil hne
  intro others h
  injection h with hc
  exact hcs (hc ▸ List.mem_cons_self)

/-- An escaped character in front of a quiet text is a piece of its own, and the text
stays quiet. -/
theorem pieces_markdownVisible (c : Char) {rest : List Char} (hrest : Quiet rest) :
    anyPlaceholder.pieces (Escape.markdownVisible c ++ rest) =
        (Escape.markdownVisible c).map .plain ++ anyPlaceholder.pieces rest ∧
      Quiet (Escape.markdownVisible c ++ rest) := by
  have hstar : '*' ∈ markdownMarks := by decide
  rcases markdownVisible_cases c with ⟨heq, hmark, -⟩ | ⟨heq, -⟩ | ⟨entity, hmem, -, heq⟩
  · rw [heq]
    have hcs : '*' ∉ [c] := fun h => hmark (List.mem_singleton.mp h ▸ hstar)
    exact ⟨pieces_append_of_not_mem hcs, quiet_append_of_not_mem (List.cons_ne_nil _ _) hcs⟩
  · rw [heq]
    have hbackslash : ∀ n, anyPlaceholder none ('\\' :: c :: rest) ≠ .hit n :=
      not_hit_of_quiet fun h => absurd h (by decide)
    have hescaped : ∀ n, anyPlaceholder none (c :: rest) ≠ .hit n :=
      not_hit_of_quiet fun _ => hrest
    refine ⟨?_, fun tail h => ?_⟩
    · change anyPlaceholder.pieces ('\\' :: c :: rest) = _
      rw [pieces_plain_cons hbackslash, pieces_plain_cons hescaped]
      rfl
    · injection h with hhead
      exact absurd hhead (by decide)
  · rw [heq]
    obtain ⟨hne, hinert, -⟩ := markdownEntity_inert hmem
    have hcs : '*' ∉ entity.1.toList := fun h => (hinert '*' h).1 hstar
    exact ⟨pieces_append_of_not_mem hcs, quiet_append_of_not_mem hne hcs⟩

theorem pieces_markdownChars (cs : List Char) {rest : List Char} (hrest : Quiet rest) :
    anyPlaceholder.pieces (cs.flatMap Escape.markdownVisible ++ rest) =
        (cs.flatMap Escape.markdownVisible).map .plain ++ anyPlaceholder.pieces rest ∧
      Quiet (cs.flatMap Escape.markdownVisible ++ rest) := by
  induction cs with
  | nil => exact ⟨rfl, hrest⟩
  | cons c cs ih =>
      obtain ⟨hpieces, hquiet⟩ := pieces_markdownVisible c ih.2
      rw [List.flatMap_cons, List.append_assoc, List.map_append, List.append_assoc]
      exact ⟨hpieces.trans (congrArg _ ih.1), hquiet⟩

/-- The pieces of what a piece is shown as. -/
def shownPieces : Redaction.Piece → List Redaction.Piece
  | .plain c => (Escape.markdownChar c).map .plain
  | .found p => [.found p]

/-- The pieces of an escaped text are those of its pieces. -/
theorem pieces_rendered {ps : List Redaction.Piece} (hps : ∀ p, .found p ∈ ps → IsPlaceholder p) :
    anyPlaceholder.pieces (ps.flatMap Surface.markdown.renderPiece) = ps.flatMap shownPieces ∧
      Quiet (ps.flatMap Surface.markdown.renderPiece) := by
  induction ps with
  | nil => exact ⟨pieces_empty, nofun⟩
  | cons piece ps ih =>
      obtain ⟨hpieces, hquiet⟩ := ih fun p hp => hps p (List.mem_cons_of_mem _ hp)
      rw [List.flatMap_cons, List.flatMap_cons]
      cases piece with
      | plain c =>
          obtain ⟨hchar, hfront⟩ := pieces_markdownChars (Escape.plainChar c) hquiet
          exact ⟨hchar.trans (congrArg _ hpieces), hfront⟩
      | found p =>
          have hp := hps p List.mem_cons_self
          refine ⟨(pieces_placeholder_append hp).trans (congrArg _ hpieces), fun rest h => ?_⟩
          obtain ⟨kind, -, -, rfl⟩ := hp
          injection h with _ h
          injection h with _ h
          injection h with hthird
          exact absurd hthird (by decide)

/-! ## Rendered messages -/

theorem plainChar_of_mem_placeholderChars {c : Char} (hc : c ∈ placeholderChars) :
    Escape.plainChar c = [c] := by
  have hall : ∀ x ∈ placeholderChars, Escape.plainChar x = [x] :=
    List.all_iff_forall_prop.mp (by decide)
  exact hall c hc

theorem decodesTo_renderPiece
    {piece : Redaction.Piece} (hpiece : ∀ p, piece = .found p → IsPlaceholder p) :
    DecodesTo markdownUnit (Surface.markdown.renderPiece piece)
      (piece.chars.flatMap Escape.plainChar) := by
  cases piece with
  | plain c =>
      have hdecodes : DecodesTo markdownUnit
          ((Escape.plainChar c).flatMap Escape.markdownVisible)
          ((Escape.plainChar c).flatMap fun x => [x]) :=
        DecodesTo.flatMap fun x _ => (spells_markdownVisible x).decodesTo
      rw [List.flatMap_singleton'] at hdecodes
      change DecodesTo markdownUnit _ ([c].flatMap Escape.plainChar)
      rw [List.flatMap_singleton]
      exact hdecodes
  | found p =>
      have hp := hpiece p rfl
      have hspelled : ∀ c ∈ p, DecodesTo markdownUnit [c] [c] := by
        intro c hc
        have hmem := hp.mem_placeholderChars hc
        have hother : ∀ x ∈ placeholderChars, x ≠ '\\' ∧ x ≠ '&' :=
          List.all_iff_forall_prop.mp (by decide)
        exact (spells_self (hother c hmem).1 (hother c hmem).2).decodesTo
      have hdecodes := DecodesTo.flatMap hspelled
      have hvisible : p.flatMap Escape.plainChar = p.flatMap fun c => [c] :=
        List.flatMap_congr fun c hc =>
          plainChar_of_mem_placeholderChars (hp.mem_placeholderChars hc)
      change DecodesTo markdownUnit p (p.flatMap Escape.plainChar)
      rw [hvisible]
      rwa [List.flatMap_singleton'] at hdecodes ⊢

/-- What a visible character is escaped to has no bare mark and no markup, and an
ampersand only in front. -/
theorem markdownVisible_inert (c : Char) :
    AddsOnly (· ∉ markdownMarks) ((Escape.markdownVisible c).map .plain) ∧
      (∀ x ∈ Escape.markdownVisible c, x ∉ ['<', '>']) ∧
      '&' ∉ (Escape.markdownVisible c).tail := by
  have hbackslash {x : Char} (hx : x ∉ markdownMarks) : x ≠ '\\' := by
    rintro rfl
    exact hx (by decide)
  rcases markdownVisible_cases c with ⟨heq, hmark, hother⟩ | ⟨heq, hmark⟩ | ⟨entity, hmem, -, heq⟩
  · rw [heq]
    refine ⟨AddsOnly.plain hmark (hbackslash hmark), ?_, List.not_mem_nil⟩
    exact List.forall_mem_singleton.mpr fun h => hother (List.mem_cons_of_mem _ h)
  · rw [heq]
    have hall : ∀ x ∈ markdownMarks, x ∉ ['<', '>'] ∧ '&' ∉ [x] :=
      List.all_iff_forall_prop.mp (by decide)
    refine ⟨AddsOnly.pair, List.forall_mem_cons.mpr ⟨by decide, ?_⟩, (hall c hmark).2⟩
    exact List.forall_mem_singleton.mpr (hall c hmark).1
  · rw [heq]
    obtain ⟨-, hinert, htail⟩ := markdownEntity_inert hmem
    exact ⟨AddsOnly.map_plain fun x hx => ⟨(hinert x hx).1, hbackslash (hinert x hx).1⟩,
      fun x hx => (hinert x hx).2, htail⟩

theorem addsOnly_shownPieces (piece : Redaction.Piece) :
    AddsOnly (· ∉ markdownMarks) (shownPieces piece) := by
  cases piece with
  | plain c =>
      change AddsOnly _ (((Escape.plainChar c).flatMap Escape.markdownVisible).map .plain)
      rw [List.map_flatMap]
      exact AddsOnly.flatMap fun x _ => (markdownVisible_inert x).1
  | found p => exact AddsOnly.found p

theorem inert_renderPiece
    {piece : Redaction.Piece} (hpiece : ∀ p, piece = .found p → IsPlaceholder p) :
    ∀ x ∈ Surface.markdown.renderPiece piece, x ∉ ['<', '>'] := by
  cases piece with
  | plain c => exact List.forall_mem_flatMap.mpr fun x _ => (markdownVisible_inert x).2.1
  | found p =>
      intro x hx
      have hall : ∀ y ∈ placeholderChars, y ∉ ['<', '>'] := List.all_iff_forall_prop.mp (by decide)
      exact hall x ((hpiece p rfl).mem_placeholderChars hx)

theorem entitiesComplete_renderPiece
    {piece : Redaction.Piece} (hpiece : ∀ p, piece = .found p → IsPlaceholder p) {rest : List Char}
    (hrest : EntitiesComplete markdownUnit rest) :
    EntitiesComplete markdownUnit (Surface.markdown.renderPiece piece ++ rest) := by
  cases piece with
  | plain c =>
      refine EntitiesComplete.flatMap_append (fun x _ behind hbehind => ?_) hrest
      exact hbehind.append (spells_markdownVisible x) (markdownVisible_inert x).2.2
  | found p =>
      refine hrest.append_of_not_mem fun h => ?_
      have hall : ∀ y ∈ placeholderChars, y ≠ '&' := List.all_iff_forall_prop.mp (by decide)
      exact hall '&' ((hpiece p rfl).mem_placeholderChars h) rfl

theorem placeholders_append (ps qs : List Redaction.Piece) :
    placeholders (ps ++ qs) = placeholders ps ++ placeholders qs :=
  List.filterMap_append

theorem placeholders_flatMap_shownPieces (ps : List Redaction.Piece) :
    placeholders (ps.flatMap shownPieces) = placeholders ps := by
  induction ps with
  | nil => rfl
  | cons piece ps ih =>
      rw [List.flatMap_cons, placeholders_append, ih]
      cases piece with
      | plain c =>
          have hnone : placeholders (shownPieces (.plain c)) = [] := by
            simp [placeholders, shownPieces]
          rw [hnone]
          rfl
      | found p => rfl

/-- A text whose pieces are rendered is encoded in markdown. -/
theorem encodesMarkdown (text : List Char) :
    EncodesMarkdown text
      ((anyPlaceholder.pieces text).flatMap Surface.markdown.renderPiece) := by
  have hfound : ∀ p, .found p ∈ anyPlaceholder.pieces text → IsPlaceholder p := fun p hp =>
    isPlaceholder_of_found hp
  have heach : ∀ piece ∈ anyPlaceholder.pieces text, ∀ p, piece = .found p → IsPlaceholder p := by
    rintro piece hpiece p rfl
    exact hfound p hpiece
  have hpieces := (pieces_rendered hfound).1
  refine ⟨?_, ?_, ?_, ?_, ?_⟩
  · have hdecodes := DecodesTo.flatMap fun piece hpiece =>
      decodesTo_renderPiece (heach piece hpiece)
    rw [hdecodes.decodeUnits_eq, ← List.flatMap_assoc, Shape.flatMap_chars_pieces]
  · rw [hpieces, placeholders_flatMap_shownPieces]
  · rw [hpieces]
    exact (AddsOnly.flatMap fun piece _ => addsOnly_shownPieces piece).forall_unescaped
  · exact List.forall_mem_flatMap.mpr fun piece hpiece => inert_renderPiece (heach piece hpiece)
  · exact EntitiesComplete.flatMap fun piece hpiece _ hbehind =>
      entitiesComplete_renderPiece (heach piece hpiece) hbehind

end TraceCheck.Rendering
