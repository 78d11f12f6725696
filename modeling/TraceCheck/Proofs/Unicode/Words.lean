import Mathlib.Data.List.Forall2
import TraceCheck.Proofs.Text.Ascii
import TraceCheck.Redaction.Secret

/-!
# Digits, folded letters and blanks in words

The decimal digits of every script are word characters, and so are the characters that
fold to ASCII letters; blanks are none.  The table of word characters is text: it is read once, row by
row, and then searched as a list of ranges.
-/

namespace TraceCheck.Unicode

open TraceCheck.Text TraceCheck.Redaction

/-! ## Ascending ranges -/

/-- Ranges with members, each behind the one before it. -/
def Ascending : List Range → Prop
  | [] => True
  | r :: rest => r.first ≤ r.last ∧ (∀ s ∈ rest.head?, r.last < s.first) ∧ Ascending rest

instance : (rs : List Range) → Decidable (Ascending rs)
  | [] => inferInstanceAs (Decidable True)
  | r :: rest =>
    have := instDecidableAscending rest
    inferInstanceAs (Decidable (r.first ≤ r.last ∧ (∀ s ∈ rest.head?, r.last < s.first) ∧
      Ascending rest))

theorem Ascending.lt_of_mem {r : Range} {rest : List Range} (h : Ascending (r :: rest)) :
    ∀ s ∈ rest, r.last < s.first := by
  induction rest generalizing r with
  | nil => exact List.forall_mem_nil _
  | cons t rest ih =>
      obtain ⟨-, hnext, hrest⟩ := h
      have ht := hnext t rfl
      have hsome := hrest.1
      refine List.forall_mem_cons.mpr ⟨ht, fun s hs => ?_⟩
      have hs := ih hrest s hs
      omega

/-- A number is found in the range that it lies in. -/
theorem inRanges_of_mem {rs : List Range} (h : Ascending rs) {r : Range} (hr : r ∈ rs) {n : Nat}
    (hfirst : r.first ≤ n) (hlast : n ≤ r.last) : CodePoints.inRanges n rs = true := by
  induction rs with
  | nil => cases hr
  | cons s rest ih =>
      have hbehind := h.lt_of_mem
      obtain ⟨hsome, -, hrest⟩ := h
      rw [CodePoints.inRanges]
      rcases List.mem_cons.mp hr with rfl | hr
      · rw [if_neg (Nat.not_lt.mpr hfirst), decide_eq_true hlast, Bool.true_or]
      · have hlt := hbehind r hr
        rw [if_neg (by omega), ih hrest hr, Bool.or_true]

/-! ## The table of words -/

/-- The ranges of some rows whose characters are given. -/
def rangesOfRows (rows : List (List Char)) : List Range :=
  rows.flatMap fun row => (row.splitOnP (· == ' ')).filterMap CodePoints.rangeOfText?

theorem ranges_ofText {rows : List (List Char)} {texts : List String}
    (h : List.Forall₂ (fun row text => text = String.ofList row) rows texts) :
    (CodePoints.ofText texts).ranges = rangesOfRows rows := by
  unfold CodePoints.ofText rangesOfRows
  induction h with
  | nil => rfl
  | cons hrow _ ih => rw [List.flatMap_cons, List.flatMap_cons, ← ih, hrow, String.toList_ofList]

/-- Whether every zero has its ten digits in one of the ranges; the zeros that a range does
not reach wait for the next one. -/
def holdDigits : List Range → List Nat → Bool
  | [], zeros => zeros.isEmpty
  | r :: rest, zeros => holdDigits rest (zeros.dropWhile fun z => r.first ≤ z && z + 9 ≤ r.last)

theorem exists_range_of_holdDigits {rs : List Range} {zeros : List Nat}
    (h : holdDigits rs zeros = true) {z : Nat} (hz : z ∈ zeros) :
    ∃ r ∈ rs, r.first ≤ z ∧ z + 9 ≤ r.last := by
  induction rs generalizing zeros with
  | nil =>
      rw [holdDigits, List.isEmpty_iff] at h
      rw [h] at hz
      cases hz
  | cons r rest ih =>
      rw [← List.takeWhile_append_dropWhile (p := fun z => r.first ≤ z && z + 9 ≤ r.last)
        (l := zeros)] at hz
      rcases List.mem_append.mp hz with hz | hz
      · have hreach := List.all_eq_true.mp List.all_takeWhile z hz
        simp only [Bool.and_eq_true, decide_eq_true_eq] at hreach
        exact ⟨r, List.mem_cons_self, hreach⟩
      · obtain ⟨s, hs, hreach⟩ := ih h hz
        exact ⟨s, List.mem_cons_of_mem r hs, hreach⟩

/-- The letters beyond ASCII that fold to ASCII letters. -/
def foldedBeyondAscii : List Nat := [0x17F, 0x212A]

/-- The blanks beyond ASCII. -/
def blanksBeyondAscii : List Nat :=
  [0x85, 0xA0, 0x1680, 0x2000, 0x2001, 0x2002, 0x2003, 0x2004, 0x2005, 0x2006, 0x2007, 0x2008,
    0x2009, 0x200A, 0x2028, 0x2029, 0x202F, 0x205F, 0x3000]

/-- The table as ranges.  The characters of its rows are found by unification: to compute
them from the rows takes far longer than to read the ranges. -/
theorem wordsBeyondAscii_facts :
    Ascending wordsBeyondAscii.ranges ∧ holdDigits wordsBeyondAscii.ranges digitZeros = true ∧
      (∀ n ∈ foldedBeyondAscii, ∃ r ∈ wordsBeyondAscii.ranges, r.first ≤ n ∧ n ≤ r.last) ∧
        ∀ n ∈ blanksBeyondAscii, CodePoints.inRanges n wordsBeyondAscii.ranges = false := by
  obtain ⟨rows, hrows, hfacts⟩ : ∃ rows : List (List Char),
      List.Forall₂ (fun row text => text = String.ofList row) rows wordRows ∧
        (Ascending (rangesOfRows rows) ∧ holdDigits (rangesOfRows rows) digitZeros = true ∧
          (∀ n ∈ foldedBeyondAscii, ∃ r ∈ rangesOfRows rows, r.first ≤ n ∧ n ≤ r.last) ∧
            ∀ n ∈ blanksBeyondAscii, CodePoints.inRanges n (rangesOfRows rows) = false) := by
    apply Exists.intro
    apply And.intro
    · dsimp only [wordRows]
      repeat' constructor
    · decide +kernel
  rwa [wordsBeyondAscii, ranges_ofText hrows]

/-! ## Words -/

/-- ASCII letters and digits are word characters. -/
theorem isWord_of_isAlphanum {c : Char} (hc : c.isAlphanum = true) : isWord c = true := by
  rw [isWord, hc, Bool.true_or, Bool.true_or]

theorem isWord_of_mem_range {c : Char} (hc : 128 ≤ c.toNat) {r : Range}
    (hr : r ∈ wordsBeyondAscii.ranges) (hfirst : r.first ≤ c.toNat) (hlast : c.toNat ≤ r.last) :
    isWord c = true := by
  have hfound : wordsBeyondAscii.contains c = true :=
    inRanges_of_mem wordsBeyondAscii_facts.1 hr hfirst hlast
  rw [isWord, hfound, decide_eq_true hc, Bool.and_true, Bool.or_true]

/-- Decimal digits are word characters. -/
theorem isWord_of_isDecimalDigit {c : Char} (hc : isDecimalDigit c = true) : isWord c = true := by
  rcases (Bool.or_eq_true _ _).mp hc with hdigit | hscript
  · refine isWord_of_isAlphanum ?_
    rw [Char.isAlphanum, hdigit, Bool.or_true]
  · obtain ⟨z, hz, hrange⟩ := List.any_eq_true.mp hscript
    simp only [Bool.and_eq_true, decide_eq_true_eq] at hrange
    have hbeyond : ∀ z ∈ digitZeros, 128 ≤ z := by decide
    obtain ⟨r, hr, hfirst, hlast⟩ := exists_range_of_holdDigits wordsBeyondAscii_facts.2.1 hz
    have hz := hbeyond z hz
    exact isWord_of_mem_range (by omega) hr (by omega) (by omega)

/-- The characters that fold to ASCII letters are word characters. -/
theorem isWord_of_isFoldedLetter {c : Char} (hc : isFoldedLetter c = true) : isWord c = true := by
  rcases (Bool.or_eq_true _ _).mp hc with hletter | hkelvin
  · rcases (Bool.or_eq_true _ _).mp hletter with hletter | hlong
    · refine isWord_of_isAlphanum ?_
      rw [Char.isAlphanum, hletter, Bool.true_or]
    · rw [beq_iff_eq.mp hlong]
      obtain ⟨r, hr, hfirst, hlast⟩ :=
        wordsBeyondAscii_facts.2.2.1 0x17F List.mem_cons_self
      exact isWord_of_mem_range (by decide) hr hfirst hlast
  · rw [beq_iff_eq.mp hkelvin]
    obtain ⟨r, hr, hfirst, hlast⟩ :=
      wordsBeyondAscii_facts.2.2.1 0x212A (List.mem_cons_of_mem _ List.mem_cons_self)
    exact isWord_of_mem_range (by decide) hr hfirst hlast

theorem toNat_mem_blanksBeyondAscii {c : Char} (hc : isBlank c = true) (hbeyond : 128 ≤ c.toNat) :
    c.toNat ∈ blanksBeyondAscii := by
  simp only [isBlank, Bool.or_eq_true, Bool.and_eq_true, decide_eq_true_eq, beq_iff_eq] at hc
  simp only [blanksBeyondAscii, List.mem_cons, List.not_mem_nil, or_false]
  omega

/-- Blanks are no word characters. -/
theorem isWord_of_isBlank {c : Char} (hc : isBlank c = true) : isWord c = false := by
  rw [isWord, Bool.or_eq_false_iff, Bool.or_eq_false_iff]
  refine ⟨⟨?_, ?_⟩, ?_⟩
  · refine (Bool.not_eq_true _).mp fun halnum => ?_
    have hother : (!isBlank c) = true := of_isAlphanum (p := fun c => !isBlank c) (by decide) halnum
    rw [hc] at hother
    cases hother
  · refine (Bool.not_eq_true _).mp fun hline => ?_
    rw [beq_iff_eq.mp hline] at hc
    cases hc
  · refine Bool.and_eq_false_imp.mpr fun hbeyond => ?_
    exact wordsBeyondAscii_facts.2.2.2 c.toNat
      (toNat_mem_blanksBeyondAscii hc (of_decide_eq_true hbeyond))

end TraceCheck.Unicode
