import Mathlib.Data.List.Basic
import TraceCheck.Rule.Directory

/-!
# Files that are no text

Bytes in which no character is wrong are a text.  So a file with rules that is no text is
refused for what is wrong with a character or for something in front of that, and never as
a file that cannot be read.
-/

namespace TraceCheck

namespace Yaml

namespace Encoding

variable {first b : UInt8} {rest trailing bytes : List UInt8} {width n : Nat}

/-! ## Single characters -/

theorem ofNat_eq (h : n = b.toNat) : UInt8.ofNat n = b := by
  rw [h, UInt8.ofNat_toNat]

theorem width?_eq_some (h : width? first = some width) :
    (width = 1 ∧ first.toNat < 0x80) ∨ (width = 2 ∧ 0xC0 ≤ first.toNat ∧ first.toNat < 0xE0) ∨
      (width = 3 ∧ 0xE0 ≤ first.toNat ∧ first.toNat < 0xF0) ∨
      (width = 4 ∧ 0xF0 ≤ first.toNat ∧ first.toNat < 0xF8) := by
  simp only [width?, UInt8.lt_iff_toNat_lt, UInt8.reduceToNat] at h
  split at h
  · cases h
    omega
  split at h
  · cases h
  split at h
  · cases h
    omega
  split at h
  · cases h
    omega
  split at h
  · cases h
    omega
  · cases h

theorem toNat_of_isTrailing (h : isTrailing b = true) : 0x80 ≤ b.toNat ∧ b.toNat < 0xC0 := by
  simpa [isTrailing, UInt8.le_iff_toNat_le, UInt8.lt_iff_toNat_lt] using h

/-- Bytes of the form of a character are the bytes of the one with their number, unless that
takes fewer. -/
theorem utf8EncodeChar_of_number {c : Char} (hwidth : width? first = some width)
    (hlength : trailing.length = width - 1) (htrailing : ∀ b ∈ trailing, isTrailing b = true)
    (hleast : least width ≤ c.val.toNat) (hnumber : c.val.toNat = number width first trailing) :
    String.utf8EncodeChar c = first :: trailing := by
  unfold String.utf8EncodeChar
  dsimp only
  rcases width?_eq_some hwidth with ⟨rfl, hfirst⟩ | ⟨rfl, hfirst⟩ | ⟨rfl, hfirst⟩ | ⟨rfl, hfirst⟩
  · obtain rfl := List.length_eq_zero_iff.mp hlength
    change _ = first.toNat % 0x80 at hnumber
    rw [if_pos (by omega), ofNat_eq (b := first) (by omega)]
  · obtain ⟨b₁, rfl⟩ := List.length_eq_one_iff.mp hlength
    have h₁ := toNat_of_isTrailing (htrailing b₁ (by simp))
    change _ = first.toNat % 0x20 * 64 + b₁.toNat % 64 at hnumber
    change 0x80 ≤ _ at hleast
    rw [if_neg (by omega), if_pos (by omega), ofNat_eq (b := first) (by omega),
      ofNat_eq (b := b₁) (by omega)]
  · obtain ⟨b₁, b₂, rfl⟩ := List.length_eq_two.mp hlength
    have h₁ := toNat_of_isTrailing (htrailing b₁ (by simp))
    have h₂ := toNat_of_isTrailing (htrailing b₂ (by simp))
    change _ = (first.toNat % 0x10 * 64 + b₁.toNat % 64) * 64 + b₂.toNat % 64 at hnumber
    change 0x800 ≤ _ at hleast
    rw [if_neg (by omega), if_neg (by omega), if_pos (by omega), ofNat_eq (b := first) (by omega),
      ofNat_eq (b := b₁) (by omega), ofNat_eq (b := b₂) (by omega)]
  · obtain ⟨b₁, b₂, b₃, rfl⟩ := List.length_eq_three.mp hlength
    have h₁ := toNat_of_isTrailing (htrailing b₁ (by simp))
    have h₂ := toNat_of_isTrailing (htrailing b₂ (by simp))
    have h₃ := toNat_of_isTrailing (htrailing b₃ (by simp))
    change _ = ((first.toNat % 0x08 * 64 + b₁.toNat % 64) * 64 + b₂.toNat % 64) * 64 +
      b₃.toNat % 64 at hnumber
    change 0x10000 ≤ _ at hleast
    rw [if_neg (by omega), if_neg (by omega), if_neg (by omega), ofNat_eq (b := first) (by omega),
      ofNat_eq (b := b₁) (by omega), ofNat_eq (b := b₂) (by omega), ofNat_eq (b := b₃) (by omega)]

theorem wrong?_eq_none (h : wrong? width n = none) :
    ∃ c : Char, c.val.toNat = n ∧ least width ≤ n := by
  by_cases hleast : n < least width
  · rw [wrong?, if_pos hleast] at h
    cases h
  · by_cases hvalid : n.isValidChar
    · exact ⟨Char.ofNatAux n hvalid, rfl, Nat.not_lt.mp hleast⟩
    · rw [wrong?, if_neg hleast, dif_neg hvalid] at h
      cases h

/-- A character in which nothing is wrong is the one that has these bytes. -/
theorem exists_of_character (h : character first rest = .ok width) :
    ∃ c : Char, String.utf8EncodeChar c = first :: rest.take (width - 1) := by
  unfold character at h
  split at h
  · cases h
  next w hwidth =>
    dsimp only at h
    split at h
    · cases h
    next hlength =>
      split at h
      · cases h
      next htrailing =>
        split at h
        · cases h
        next hwrong =>
          cases h
          obtain ⟨c, hc, hleast⟩ := wrong?_eq_none hwrong
          have hlong : (rest.take (width - 1)).length = width - 1 :=
            Nat.le_antisymm (List.length_take_le _ _) (Nat.not_lt.mp hlength)
          have hall : ∀ b ∈ rest.take (width - 1), isTrailing b = true := fun b hb =>
            (Bool.not_eq_false' _).mp (List.findIdx?_eq_none_iff.mp htrailing b hb)
          exact ⟨c, utf8EncodeChar_of_number hwidth hlong hall (hc ▸ hleast) hc⟩

/-! ## Texts -/

/-- Bytes in which no character is wrong are a text. -/
theorem isValidUTF8_of_error? {fuel before : Nat} (hfuel : bytes.length ≤ fuel)
    (h : error? fuel before bytes = none) : bytes.toByteArray.IsValidUTF8 := by
  induction fuel generalizing before bytes with
  | zero =>
      obtain rfl := List.length_eq_zero_iff.mp (Nat.le_zero.mp hfuel)
      exact ByteArray.isValidUTF8_empty
  | succ fuel ih =>
      cases bytes with
      | nil => exact ByteArray.isValidUTF8_empty
      | cons first rest =>
          rw [error?] at h
          cases hcharacter : character first rest with
          | error e =>
              rw [hcharacter] at h
              cases h
          | ok width =>
              rw [hcharacter] at h
              obtain ⟨c, hc⟩ := exists_of_character hcharacter
              have hshort : (rest.drop (width - 1)).length ≤ fuel := by
                rw [List.length_drop]
                rw [List.length_cons] at hfuel
                omega
              have hsplit : first :: rest = String.utf8EncodeChar c ++ rest.drop (width - 1) := by
                rw [hc, List.cons_append, List.take_append_drop]
              rw [hsplit, List.toByteArray_append]
              exact Char.isValidUTF8_toByteArray_utf8EncodeChar.append (ih hshort h)

/-- In bytes that are no text there is a character that is wrong. -/
theorem exists_error_of_not_text {bytes : ByteArray} (h : String.fromUTF8? bytes = none) :
    ∃ e, error? bytes.size 0 bytes.data.toList = some e := by
  cases herror : error? bytes.size 0 bytes.data.toList with
  | some e => exact ⟨e, rfl⟩
  | none =>
      have hvalid := isValidUTF8_of_error? (Nat.le_of_eq Array.length_toList) herror
      have hbytes : bytes.data.toList.toByteArray = bytes := by
        refine ByteArray.ext ?_
        rw [List.data_toByteArray]
      rw [hbytes] at hvalid
      unfold String.fromUTF8? at h
      rw [dif_pos hvalid] at h
      cases h

end Encoding

/-- A document that cannot be read is refused before any part of it. -/
theorem ofDocument_unreadable (e : SyntaxError) :
    Definition.ofDocument (.unreadable (some e)) = .error (.document (.spelling e)) :=
  rfl

end Yaml

/-! ## Files -/

/-- A file with a text has the definitions that are in the text. -/
theorem definitionsOfFile_ofText (path text : String) :
    definitionsOfFile path (.ok (.ofText text)) =
      (Definition.ofYaml text).mapError (.ruleFile path) := by
  have htext : String.fromUTF8? text.toUTF8 = some text := dif_pos text.isValidUTF8
  change (Definition.ofDocument (.ofBytes text.toUTF8)).mapError _ = _
  unfold Yaml.Document.ofBytes
  rw [htext]
  rfl

/-- A file that is no text is refused for a character that is wrong. -/
theorem definitionsOfFile_of_not_text (path : String) {bytes : ByteArray}
    (h : String.fromUTF8? bytes = none) :
    ∃ e, Yaml.Encoding.error? bytes.size 0 bytes.data.toList = some e ∧
      definitionsOfFile path (.ok { bytes }) =
        .error (.ruleFile path (.document (.spelling e))) := by
  obtain ⟨e, he⟩ := Yaml.Encoding.exists_error_of_not_text h
  refine ⟨e, he, ?_⟩
  change (Definition.ofDocument (.ofBytes bytes)).mapError _ = _
  unfold Yaml.Document.ofBytes
  rw [h]
  dsimp only
  rw [he, Yaml.ofDocument_unreadable]
  rfl

/-- The second byte begins no character. -/
example : (Yaml.Encoding.error? 2 0 [0x61, 0xFF]).map (·.message) =
    some "invalid leading UTF-8 octet at position 1" := by
  decide

end TraceCheck
