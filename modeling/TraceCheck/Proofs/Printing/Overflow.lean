import TraceCheck.Proofs.Printing.RoundTrip

/-!
# Numbers out of range

A comparison with a numeral is a rule however large the value of the numeral is.
A value out of the range of doubles is read as infinity, whose text is the word
`inf`, and the text of such a rule is no rule.
-/

namespace TraceCheck

open TraceCheck.Reading

variable {l : Limits}

/-! ## A rule with a numeral -/

namespace Grammar

/-- The derivation of a rule that compares an attribute with a number. -/
def Chain.comparison (name key spelling : String) : Chain :=
  ⟨.check (.has (.ofText name) [⟨false, .ofText key, .compare .eq (.scalar (.number spelling))⟩]),
    []⟩

variable {name key spelling : String} {x : Float}

theorem Chain.terminals_comparison :
    (Chain.comparison name key spelling).terminals =
      .fixed .trace :: .fixed .dot :: .fixed .has :: parenthesized (Name.ofText name).terminals ++
        .fixed .dot :: .fixed .where :: parenthesized
          ((Name.ofText key).terminals ++ ([Comparator.eq.terminal] ++ [⟨.number, spelling⟩])) := by
  simp [comparison, Chain.terminals, Term.terminals, Check.terminals, Clause.whereTerminals,
    Clause.terminals, Test.terminals, Value.terminals, Scalar.terminal]

theorem Chain.fits_comparison (depth : Nat) : (Chain.comparison name key spelling).Fits depth := by
  refine ⟨?_, ?_⟩
  · intro t ht
    obtain rfl := List.mem_singleton.mp ht
    exact List.forall_mem_singleton.mpr ⟨nofun, nofun⟩
  · intro i t ht
    change ([.check _] : List Term)[i]? = some t at ht
    have hi : i = 0 := by
      have hlt := (List.getElem?_eq_some_iff.mp ht).1
      simpa using hlt
    subst hi
    obtain rfl : Term.check _ = t := by simpa using ht
    exact Nat.zero_le _

theorem Chain.expr?_comparison (hx : Decimal.readDouble? spelling = some x) :
    (Chain.comparison name key spelling).expr? =
      some (.has name [⟨key, .compare .eq (.number x), false⟩]) := by
  simp [comparison, Chain.expr?, Term.expr?, Check.expr?, Clause.meaning?, Test.meaning?,
    Value.literal?, Scalar.literal?, hx, Name.text_ofText]

end Grammar

/-- A comparison with a numeral is valid, however large its value is. -/
theorem check_comparison
    {source name key : String} {cs : List Char} {x : Float} (hl : l.expired = false)
    (hroom : 8 ≤ l.maxIdentifierLength) (hname : IsName l name) (hkey : IsName l key)
    (hcs : Decimal.Numeral cs) (hx : Decimal.readDouble? (String.ofList cs) = some x)
    (hsource : source =
      "trace.has(" ++ name ++ ").where(" ++ key ++ " == " ++ String.ofList cs ++ ")")
    (hsize : source.utf8ByteSize ≤ l.maxTotalLength) :
    (check l source).isValid = true ∧
      (check l source).ast = some (.has name [⟨key, .compare .eq (.number x), false⟩]) := by
  have hclause := hkey.lexes.blank ((Comparator.lexes .eq hroom).blank (lexes_numeral hcs))
  have htext : source.toList =
      "trace".toList ++ '.' :: (TokenKind.has.literal.toList ++ '(' :: (name.toList ++ ')' ::
        ('.' :: (TokenKind.where.literal.toList ++ '(' :: ((key.toList ++ ' ' ::
          (Comparator.eq.name.toList ++ ' ' :: cs)) ++ [')']))))) := by
    simp [hsource, TokenKind.literal, Comparator.name]
  have hrelexed : lexed l source.toList =
      relexed l (Grammar.Chain.comparison name key (String.ofList cs)).terminals := by
    rw [htext, lexed_trace _ (by decide) hroom hname.lexes,
      lexed_call [] (by decide) hroom hclause, Grammar.Chain.terminals_comparison,
      relexed_append]
    exact congrArg _ (List.append_nil _)
  have hspelled : WellSpelled (Grammar.Chain.comparison name key (String.ofList cs)).terminals := by
    rw [Grammar.Chain.terminals_comparison, List.cons_append, List.cons_append, List.cons_append,
      wellSpelled_fixed_cons .trace (by decide), wellSpelled_fixed_cons .dot (by decide),
      wellSpelled_fixed_cons .has (by decide), wellSpelled_append_iff, wellSpelled_parenthesized,
      wellSpelled_fixed_cons .dot (by decide), wellSpelled_fixed_cons .where (by decide),
      wellSpelled_parenthesized, wellSpelled_append_iff]
    refine ⟨wellSpelled_name _, wellSpelled_name _,
      (wellSpelled_fixed_cons .eq (by decide)).mpr (List.forall_mem_singleton.mpr fun _ => ?_)⟩
    rwa [String.toList_ofList]
  have hlexed := hrelexed.trans (relexed_eq_map_some hspelled)
  obtain ⟨herrors, hd⟩ := (tokenize_terminals_iff hl hsize).mpr hlexed
  obtain ⟨a, ha, hvalid, hast⟩ :=
    check_of_derives hl herrors hd (Grammar.Chain.fits_comparison l.maxRecursionDepth)
  obtain rfl := Option.some.inj (ha.symm.trans (Grammar.Chain.expr?_comparison hx))
  exact ⟨hvalid, hast⟩

/-! ## A number that is too large -/

/-- The number above all doubles. -/
def infinity : Float :=
  Float.ofBits (UInt64.ofNat (2047 <<< 52))

/-- A comparison with a number out of range is a rule, and its text is none. -/
theorem check_text_of_overflow
    {cs : List Char} (hcs : Decimal.Numeral cs)
    (hread : Decimal.readDouble? (String.ofList cs) = some infinity)
    (hsize : String.utf8Len cs ≤ 65000) :
    let source := "trace.has(a.b).where(x == " ++ String.ofList cs ++ ")"
    (check {} source).isValid = true ∧
      ∃ e, (check {} source).ast = some e ∧
        e.text.utf8ByteSize ≤ ({} : Limits).maxTotalLength ∧ (check {} e.text).isValid = false := by
  intro source
  have hname : IsName {} "a.b" := by decide
  have hkey : IsName {} "x" := by decide
  have hroom : 8 ≤ ({} : Limits).maxIdentifierLength := by decide
  have hsource : source =
      "trace.has(" ++ "a.b" ++ ").where(" ++ "x" ++ " == " ++ String.ofList cs ++ ")" := rfl
  have htotal : source.utf8ByteSize ≤ ({} : Limits).maxTotalLength := by
    have hbefore : "trace.has(a.b).where(x == ".utf8ByteSize = 26 := by decide
    have hbehind : ")".utf8ByteSize = 1 := by decide
    have hmax : ({} : Limits).maxTotalLength = 65536 := rfl
    rw [String.utf8ByteSize_append, String.utf8ByteSize_append, String.utf8ByteSize_ofList cs,
      hbefore, hbehind, hmax]
    omega
  obtain ⟨hvalid, hast⟩ := check_comparison rfl hroom hname hkey hcs hread hsource htotal
  exact ⟨hvalid, _, hast, by decide +kernel, by decide +kernel⟩

end TraceCheck
