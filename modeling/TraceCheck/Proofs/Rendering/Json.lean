import TraceCheck.Escape
import TraceCheck.Json.Reader
import TraceCheck.Proofs.Rendering.Decoding
import TraceCheck.Proofs.Text.Hex

/-!
# Texts in JSON strings

A text that is escaped for JSON is the body of a string that is read as the text.  It
holds no bare quote and, for the sake of script elements, no character of markup.
-/

namespace TraceCheck.Rendering

open TraceCheck.Json TraceCheck.Text

/-- A text is encoded in a JSON string: between quotes it is read as the text, no quote
is bare, and no markup stands as it is. -/
structure EncodesJson (text out : List Char) : Prop where
  decoded : parse (String.ofList ('"' :: out ++ ['"'])) = .ok (.string (String.ofList text))
  closed : ∀ c ∈ unescapedChars out, c ≠ '"'
  inert : ∀ c ∈ out, c ∉ ['<', '>', '&']

/-! ## Escaping -/

/-- The characters that never stand bare. -/
def jsonMarks : List Char :=
  ['"', '\\', '<', '>', '&']

/-- The letters of escapes and the characters that they stand for. -/
def jsonEscapes : List (Char × Char) :=
  [('"', '"'), ('\\', '\\'), ('b', '\x08'), ('f', '\x0c'), ('n', '\n'), ('r', '\r'), ('t', '\t')]

/-- A character stands as it is, as a letter behind a backslash or by its code. -/
theorem jsonChar_cases (c : Char) :
    (Escape.jsonChar c = [c] ∧ c ∉ jsonMarks ∧ 0x20 ≤ c.toNat) ∨
      (∃ e ∈ jsonEscapes, e.2 = c ∧ Escape.jsonChar c = ['\\', e.1]) ∨
      (Escape.jsonChar c = ['\\', 'u'] ++ hexFixed .lower 4 c.toNat ∧ c.toNat < 0x80) := by
  unfold Escape.jsonChar
  split
  · exact .inr (.inr ⟨by decide, by decide⟩)
  · exact .inr (.inr ⟨by decide, by decide⟩)
  · exact .inr (.inr ⟨by decide, by decide⟩)
  · unfold Json.escapeChar
    split
    · exact .inr (.inl ⟨('"', '"'), by decide, rfl, rfl⟩)
    · exact .inr (.inl ⟨('\\', '\\'), by decide, rfl, rfl⟩)
    · exact .inr (.inl ⟨('b', '\x08'), by decide, rfl, rfl⟩)
    · exact .inr (.inl ⟨('f', '\x0c'), by decide, rfl, rfl⟩)
    · exact .inr (.inl ⟨('n', '\n'), by decide, rfl, rfl⟩)
    · exact .inr (.inl ⟨('r', '\r'), by decide, rfl, rfl⟩)
    · exact .inr (.inl ⟨('t', '\t'), by decide, rfl, rfl⟩)
    · split
      · next hlow => exact .inr (.inr ⟨rfl, Nat.lt_trans hlow (by decide)⟩)
      · next hlow => exact .inl ⟨rfl, by simp_all [jsonMarks], Nat.le_of_not_lt hlow⟩

/-! ## Reading a string -/

/-- A reader passes some characters wherever they stand, and gives a result. -/
def Passes {α : Type} (r : Reader α) (cs : List Char) (a : α) : Prop :=
  ∀ rest position depth size, ∃ position',
    r ⟨cs ++ rest, position, depth, size⟩ = .ok a ⟨rest, position', depth, size⟩

theorem Passes.bind_eq
    {α β : Type} {r : Reader α} {cs : List Char} {a : α} (h : Passes r cs a) (f : α → Reader β)
    (rest : List Char) (position : Position) (depth size : Nat) :
    ∃ position', (r >>= f) ⟨cs ++ rest, position, depth, size⟩ =
      f a ⟨rest, position', depth, size⟩ := by
  obtain ⟨p, hp⟩ := h rest position depth size
  refine ⟨p, ?_⟩
  change EStateM.bind r f _ = _
  rw [EStateM.bind, hp]

theorem passes_next (c : Char) : Passes next [c] (some c) := by
  intro rest position depth size
  exact ⟨position.after c, rfl⟩

theorem passes_escape {e : Char × Char} (he : e ∈ jsonEscapes) :
    Passes (escape true) [e.1] e.2 := by
  intro rest position depth size
  refine ⟨position.after e.1, ?_⟩
  simp only [jsonEscapes, List.mem_cons, List.not_mem_nil, or_false] at he
  rcases he with rfl | rfl | rfl | rfl | rfl | rfl | rfl <;> rfl

theorem length_le_byteSize (cs : List Char) : cs.length ≤ hexEscape.byteSize cs := by
  have hfold (start : Nat) :
      start + cs.length ≤ cs.foldl (fun n c => n + c.utf8Size) start := by
    induction cs generalizing start with
    | nil => exact Nat.le_refl _
    | cons c cs ih =>
        have hpos := c.utf8Size_pos
        have hrest := ih (start + c.utf8Size)
        rw [List.foldl_cons, List.length_cons]
        omega
  have hzero := hfold 0
  rwa [Nat.zero_add] at hzero

theorem passes_hexEscape (n : Nat) :
    Passes hexEscape (hexFixed .lower 4 n) (n % 16 ^ 4) := by
  intro rest position depth size
  have hlength := length_hexFixed .lower 4 n
  have htake : (hexFixed .lower 4 n ++ rest).take 4 = hexFixed .lower 4 n := List.take_left' hlength
  have hdrop : (hexFixed .lower 4 n ++ rest).drop 4 = rest := List.drop_left' hlength
  have hbytes : ¬ hexEscape.byteSize (hexFixed .lower 4 n) < 4 := by
    rw [← hlength]
    exact Nat.not_lt.mpr (length_le_byteSize _)
  refine ⟨placeAfterBytes 4 (hexFixed .lower 4 n ++ rest) position, ?_⟩
  unfold hexEscape
  dsimp only
  rw [htake, hdrop, if_neg hbytes, hexNumber?_hexFixed]

theorem passes_unicodeEscape {n : Nat} (hn : n < 0xD800) :
    Passes unicodeEscape (hexFixed .lower 4 n) (Char.ofNat n) := by
  intro rest position depth size
  obtain ⟨p, hp⟩ := passes_hexEscape n rest position depth size
  have hmod : n % 16 ^ 4 = n := Nat.mod_eq_of_lt (by omega)
  rw [hmod] at hp
  refine ⟨p, ?_⟩
  unfold unicodeEscape
  change EStateM.bind hexEscape _ _ = _
  rw [EStateM.bind, hp]
  dsimp only
  rw [if_neg (by omega), if_pos (Or.inl hn)]
  rfl

theorem stringChars_plain
    {c : Char} (hquote : c ≠ '"') (hbackslash : c ≠ '\\') (hlow : 0x20 ≤ c.toNat)
    (fuel : Nat) (read rest : List Char) (position : Position) (depth size : Nat) :
    ∃ position', stringChars true (fuel + 1) read ⟨c :: rest, position, depth, size⟩ =
      stringChars true fuel (c :: read) ⟨rest, position', depth, size⟩ := by
  rw [stringChars]
  obtain ⟨p, hp⟩ := (passes_next c).bind_eq _ rest position depth size
  refine ⟨p, hp.trans (congrFun ?_ _)⟩
  split
  · next h => cases h
  · next h => exact absurd (Option.some.inj h) hquote
  · next h => exact absurd (Option.some.inj h) hbackslash
  · next d h =>
      obtain rfl := Option.some.inj h
      rw [if_neg (by omega)]

/-- An escape behind a backslash is read as its character. -/
theorem stringChars_escape
    {cs : List Char} {c : Char} (h : Passes (escape true) cs c)
    (fuel : Nat) (read rest : List Char) (position : Position) (depth size : Nat) :
    ∃ position', stringChars true (fuel + 1) read ⟨'\\' :: (cs ++ rest), position, depth, size⟩ =
      stringChars true fuel (c :: read) ⟨rest, position', depth, size⟩ := by
  rw [stringChars]
  obtain ⟨p, hp⟩ := (passes_next '\\').bind_eq _ (cs ++ rest) position depth size
  obtain ⟨p', hp'⟩ := h.bind_eq (fun c => stringChars true fuel (c :: read)) rest p depth size
  exact ⟨p', hp.trans hp'⟩

theorem passes_escape_unicode {n : Nat} (hn : n < 0xD800) :
    Passes (escape true) ('u' :: hexFixed .lower 4 n) (Char.ofNat n) := by
  intro rest position depth size
  exact passes_unicodeEscape hn rest (position.after 'u') depth size

/-- A character of a string is read from what it is escaped to. -/
theorem stringChars_jsonChar
    (c : Char) (fuel : Nat) (read rest : List Char) (position : Position) (depth size : Nat) :
    ∃ position', stringChars true (fuel + 1) read
        ⟨Escape.jsonChar c ++ rest, position, depth, size⟩ =
      stringChars true fuel (c :: read) ⟨rest, position', depth, size⟩ := by
  rcases jsonChar_cases c with ⟨heq, hmark, hlow⟩ | ⟨e, he, rfl, heq⟩ | ⟨heq, hlow⟩
  · rw [heq]
    have hquote : c ≠ '"' := fun h => hmark (h ▸ by decide)
    have hbackslash : c ≠ '\\' := fun h => hmark (h ▸ by decide)
    exact stringChars_plain hquote hbackslash hlow fuel read rest position depth size
  · rw [heq]
    exact stringChars_escape (passes_escape he) fuel read rest position depth size
  · have hpasses := passes_escape_unicode (n := c.toNat) (by omega)
    rw [Char.ofNat_toNat] at hpasses
    rw [heq]
    exact stringChars_escape hpasses fuel read rest position depth size

/-- The characters of a string are read up to its closing quote. -/
theorem stringChars_flatMap
    (text : List Char) {fuel : Nat} (hfuel : text.length < fuel) (read rest : List Char)
    (position : Position) (depth size : Nat) :
    ∃ position', stringChars true fuel read
        ⟨text.flatMap Escape.jsonChar ++ '"' :: rest, position, depth, size⟩ =
      .ok (read.reverse ++ text) ⟨rest, position', depth, size⟩ := by
  induction text generalizing fuel read position with
  | nil =>
      obtain ⟨fuel, rfl⟩ : ∃ n, fuel = n + 1 := ⟨fuel - 1, by omega⟩
      rw [stringChars, List.append_nil]
      exact (passes_next '"').bind_eq _ rest position depth size
  | cons c text ih =>
      obtain ⟨fuel, rfl⟩ : ∃ n, fuel = n + 1 := ⟨fuel - 1, by omega⟩
      rw [List.flatMap_cons, List.append_assoc]
      obtain ⟨p, hp⟩ := stringChars_jsonChar c fuel read
        (text.flatMap Escape.jsonChar ++ '"' :: rest) position depth size
      obtain ⟨p', hp'⟩ := ih (Nat.lt_of_succ_lt_succ hfuel) (c :: read) p
      refine ⟨p', hp.trans (hp'.trans ?_)⟩
      rw [List.reverse_cons, List.append_assoc]
      rfl

theorem length_le_flatMap (text : List Char) :
    text.length ≤ (text.flatMap Escape.jsonChar).length := by
  induction text with
  | nil => exact Nat.le_refl _
  | cons c text ih =>
      have hpos : 1 ≤ (Escape.jsonChar c).length := by
        rcases jsonChar_cases c with ⟨heq, -⟩ | ⟨e, -, -, heq⟩ | ⟨heq, -⟩ <;> simp [heq]
      rw [List.flatMap_cons, List.length_append, List.length_cons]
      omega

theorem stringRest_flatMap
    (text rest : List Char) (position : Position) (depth : Nat) {size : Nat}
    (hsize : text.length ≤ size) :
    ∃ position', stringRest true
        ⟨text.flatMap Escape.jsonChar ++ '"' :: rest, position, depth, size⟩ =
      .ok (String.ofList text) ⟨rest, position', depth, size⟩ := by
  obtain ⟨p, hp⟩ :=
    stringChars_flatMap text (Nat.lt_succ_of_le hsize) [] rest position depth size
  refine ⟨p, ?_⟩
  change EStateM.bind (stringChars true (size + 1) []) _ _ = _
  rw [EStateM.bind, hp]
  rfl

theorem anyValue_quoted
    (text rest : List Char) (position : Position) (depth : Nat) {size : Nat}
    (hsize : text.length ≤ size) :
    ∃ position', anyValue
        ⟨'"' :: (text.flatMap Escape.jsonChar ++ '"' :: rest), position, depth, size⟩ =
      .ok (.string (String.ofList text)) ⟨rest, position', depth, size⟩ := by
  have hstart (cs : List Char) : anyValue ⟨'"' :: cs, position, depth, size⟩ =
      (do return Json.string (← stringRest true)) ⟨cs, position.after '"', depth, size⟩ := by
    change readValue (size + 1) ⟨'"' :: cs, position, depth, size⟩ = _
    rw [readValue]
    rfl
  obtain ⟨p, hp⟩ := stringRest_flatMap text rest (position.after '"') depth hsize
  refine ⟨p, ?_⟩
  rw [hstart]
  change EStateM.bind (stringRest true) _ _ = _
  rw [EStateM.bind, hp]
  rfl

/-- A text between quotes is read as a string. -/
theorem parse_quoted (text : List Char) :
    parse (String.ofList ('"' :: text.flatMap Escape.jsonChar ++ ['"'])) =
      .ok (.string (String.ofList text)) := by
  have hsize : text.length ≤ ('"' :: text.flatMap Escape.jsonChar ++ ['"']).length := by
    have hle := length_le_flatMap text
    rw [List.length_append, List.length_cons]
    omega
  obtain ⟨p, hp⟩ := anyValue_quoted text [] ⟨1, 0⟩ maxDepth hsize
  have hrun : (do let j ← anyValue; endOfText; pure j : Reader Json)
      (Cursor.ofText ('"' :: text.flatMap Escape.jsonChar ++ ['"'])) =
        .ok (.string (String.ofList text)) ⟨[], p, maxDepth,
          ('"' :: text.flatMap Escape.jsonChar ++ ['"']).length⟩ := by
    change EStateM.bind anyValue _ _ = _
    rw [EStateM.bind, Cursor.ofText, List.cons_append]
    rw [List.cons_append] at hp
    rw [hp]
    rfl
  unfold parse runText
  rw [String.toList_ofList, hrun]

/-- What a character is escaped to has no bare quote and no markup. -/
theorem jsonChar_inert (c : Char) :
    AddsOnly (· ≠ '"') ((Escape.jsonChar c).map .plain) ∧
      ∀ x ∈ Escape.jsonChar c, x ∉ ['<', '>', '&'] := by
  have hothers : ['<', '>', '&'] ⊆ jsonMarks := by decide
  have hbare {x : Char} (hx : x ∉ jsonMarks) : x ≠ '"' ∧ x ≠ '\\' := by
    constructor
    · rintro rfl
      exact hx (by decide)
    · rintro rfl
      exact hx (by decide)
  rcases jsonChar_cases c with ⟨heq, hmark, -⟩ | ⟨e, he, -, heq⟩ | ⟨heq, -⟩
  · rw [heq]
    exact ⟨AddsOnly.plain (hbare hmark).1 (hbare hmark).2,
      List.forall_mem_singleton.mpr fun h => hmark (hothers h)⟩
  · rw [heq]
    have hall : ∀ e ∈ jsonEscapes, e.1 ∉ ['<', '>', '&'] := by decide
    exact ⟨AddsOnly.pair,
      List.forall_mem_cons.mpr ⟨by decide, List.forall_mem_singleton.mpr (hall e he)⟩⟩
  · rw [heq]
    have hdigits : ∀ x ∈ hexFixed .lower 4 c.toNat, x ∉ jsonMarks := fun x hx =>
      not_mem_of_isHexDigit (by decide) (isHexDigit_of_mem_hexFixed .lower hx)
    refine ⟨AddsOnly.pair.append (AddsOnly.map_plain fun x hx => hbare (hdigits x hx)), ?_⟩
    refine List.forall_mem_append.mpr ⟨?_, fun x hx h => hdigits x hx (hothers h)⟩
    exact List.all_iff_forall_prop.mp (by decide)

/-- A text that is escaped character by character is encoded in JSON. -/
theorem encodesJson (text : List Char) :
    EncodesJson text (text.flatMap Escape.jsonChar) where
  decoded := parse_quoted text
  closed := forall_unescapedChars_flatMap fun c _ => (jsonChar_inert c).1
  inert := List.forall_mem_flatMap.mpr fun c _ => (jsonChar_inert c).2

end TraceCheck.Rendering
