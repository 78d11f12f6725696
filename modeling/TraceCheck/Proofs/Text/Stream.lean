import Mathlib.Data.List.Basic
import TraceCheck.Proofs.Text.Lines
import TraceCheck.Text.Stream

/-!
# Streams of texts

The bytes of a text are read as that text, and line by line as its lines.  A line feed is a
byte of its own, which is part of no other character.
-/

namespace TraceCheck.Stream

variable {cs line : List Char}

/-- The bytes of some characters. -/
def encode (cs : List Char) : List UInt8 :=
  cs.flatMap String.utf8EncodeChar

theorem toByteArray_encode (cs : List Char) : (encode cs).toByteArray = cs.utf8Encode :=
  rfl

theorem toList_bytes_ofText (s : String) : (ofText s).bytes.data.toList = encode s.toList := by
  change s.toByteArray.data.toList = _
  rw [← String.utf8Encode_toList, ← toByteArray_encode, List.toList_data_toByteArray]

theorem decode_utf8Encode (cs : List Char) : decode cs.utf8Encode = .ok (String.ofList cs) := by
  unfold decode String.fromUTF8?
  rw [dif_pos ByteArray.isValidUTF8_utf8Encode]
  refine congrArg Except.ok (String.toByteArray_inj.mp ?_)
  rw [String.toByteArray_ofList]
  rfl

/-- The bytes of a text are read as that text. -/
theorem text_ofText (s : String) : (ofText s).text = .ok s := by
  change decode s.toByteArray = _
  rw [← String.utf8Encode_toList, decode_utf8Encode, String.ofList_toList]

/-! ## Lines -/

theorem eq_of_ten_eq_ofNat {n : Nat} (h : 10 = UInt8.ofNat n) (hn : n < 0x100) : n = 10 := by
  have hmod : 10 = n % 0x100 := congrArg UInt8.toNat h
  rw [Nat.mod_eq_of_lt hn] at hmod
  exact hmod.symm

theorem ten_ne_ofNat {n : Nat} (hlow : 0x80 ≤ n) (hhigh : n < 0x100) : 10 ≠ UInt8.ofNat n := by
  intro heq
  have hn := eq_of_ten_eq_ofNat heq hhigh
  omega

/-- No byte of a character that is not a line feed is one. -/
theorem not_mem_utf8EncodeChar {c : Char} (hc : c ≠ '\n') : 10 ∉ String.utf8EncodeChar c := by
  unfold String.utf8EncodeChar
  dsimp only
  split
  next hsmall =>
    intro hmem
    have hn := eq_of_ten_eq_ofNat (List.mem_singleton.mp hmem) (by omega)
    exact hc (Char.ext (UInt32.toNat_inj.mp hn))
  next =>
    split
    · simp only [List.mem_cons, List.not_mem_nil, or_false, not_or]
      exact ⟨ten_ne_ofNat (by omega) (by omega), ten_ne_ofNat (by omega) (by omega)⟩
    · split
      · simp only [List.mem_cons, List.not_mem_nil, or_false, not_or]
        exact ⟨ten_ne_ofNat (by omega) (by omega), ten_ne_ofNat (by omega) (by omega),
          ten_ne_ofNat (by omega) (by omega)⟩
      · simp only [List.mem_cons, List.not_mem_nil, or_false, not_or]
        exact ⟨ten_ne_ofNat (by omega) (by omega), ten_ne_ofNat (by omega) (by omega),
          ten_ne_ofNat (by omega) (by omega), ten_ne_ofNat (by omega) (by omega)⟩

theorem lines_go_append (s : Stream) {u : List UInt8} (hu : 10 ∉ u) (rest line : List UInt8) :
    lines.go s (u ++ rest) line = lines.go s rest (u.reverse ++ line) := by
  induction u generalizing line with
  | nil => rfl
  | cons b u ih =>
      rw [List.mem_cons, not_or] at hu
      rw [List.cons_append, lines.go, if_neg (Ne.symm hu.1), ih hu.2, List.reverse_cons,
        List.append_assoc]
      rfl

theorem lineText_encode (line : List Char) : lines.lineText (encode line).reverse = .ok line := by
  rw [lines.lineText, List.reverse_reverse, toByteArray_encode, decode_utf8Encode]
  exact congrArg Except.ok String.toList_ofList

theorem lines_go_nil {s : Stream} (hs : s.failure = none) {line : List UInt8} (hline : line ≠ []) :
    lines.go s [] line = [lines.lineText line] := by
  unfold lines.go
  rw [hs]
  cases line with
  | nil => exact absurd rfl hline
  | cons b line => rfl

theorem encode_concat (cs : List Char) (c : Char) :
    (encode (cs ++ [c])).reverse = (String.utf8EncodeChar c).reverse ++ (encode cs).reverse := by
  unfold encode
  rw [List.flatMap_append, List.flatMap_singleton, List.reverse_append]

theorem lines_go_encode {s : Stream} (hs : s.failure = none) (cs line : List Char) :
    lines.go s (encode cs) (encode line.reverse).reverse = (Text.lines.go cs line).map .ok := by
  induction cs generalizing line with
  | nil =>
      cases line with
      | nil =>
          change lines.go s [] [] = []
          unfold lines.go
          rw [hs]
      | cons c line =>
          have hne : (encode (c :: line).reverse).reverse ≠ [] := by
            rw [List.reverse_cons, encode_concat]
            intro hnil
            exact String.utf8EncodeChar_ne_nil
              (List.reverse_eq_nil_iff.mp (List.append_eq_nil_iff.mp hnil).1)
          refine (lines_go_nil hs hne).trans ?_
          rw [lineText_encode, Text.lines.go]
          · rfl
          · exact List.cons_ne_nil c line
  | cons c cs ih =>
      have hcons : encode (c :: cs) = String.utf8EncodeChar c ++ encode cs := List.flatMap_cons
      by_cases hc : c = '\n'
      · subst hc
        have hfeed : String.utf8EncodeChar '\n' = [10] := by decide
        rw [hcons, hfeed, List.singleton_append, lines.go, if_pos rfl, lineText_encode,
          Text.lines.go, List.map_cons, ← ih []]
        change Except.ok (Text.lines.dropReturn line.reverse.reverse).reverse :: _ = _
        rw [List.reverse_reverse]
        rfl
      · rw [hcons, lines_go_append s (not_mem_utf8EncodeChar hc), Text.lines.go, ← ih (c :: line),
          List.reverse_cons, encode_concat]
        exact hc

/-- The lines of a stream of a text are the lines of the text. -/
theorem lines_ofText (s : String) : (ofText s).lines = (Text.lines s.toList).map .ok := by
  unfold lines
  rw [toList_bytes_ofText]
  exact lines_go_encode rfl s.toList []

end TraceCheck.Stream
