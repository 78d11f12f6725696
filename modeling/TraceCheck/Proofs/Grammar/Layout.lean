import TraceCheck.Proofs.Grammar.Parallel

/-!
# Layout

Blanks, line ends and comments decide the places of tokens, not the tokens.  Two texts with
tokens of the same kinds and spellings are read alike, and their verdicts say the same: the
same expression, and the same errors and remarks in the same order.
-/

namespace TraceCheck

open TraceCheck.Reading

namespace Reading

/-! ## All tokens of a text -/

theorem SameTerminals.bodyOf {tokens tokens' : List Token} (h : SameTerminals tokens tokens') :
    SameTerminals (bodyOf tokens) (bodyOf tokens') := by
  have htake := congrArg (List.takeWhile fun w : Terminal => w.kind ≠ .eof) h
  rwa [List.takeWhile_map, List.takeWhile_map] at htake

theorem SameTerminals.stopToken {tokens tokens' : List Token}
    (h : SameTerminals tokens tokens') :
    (stopToken tokens).terminal = (stopToken tokens').terminal := by
  have hfind := congrArg (List.find? fun w : Terminal => w.kind = .eof) h
  rw [List.find?_map, List.find?_map] at hfind
  change (tokens.find? (·.kind = .eof)).map _ = (tokens'.find? (·.kind = .eof)).map _ at hfind
  have hplaced (ts : List Token) (hnone : ts.find? (·.kind = .eof) = none) :
      (TraceCheck.stopToken ts).terminal = .eof := by
    unfold TraceCheck.stopToken
    rw [hnone]
    cases ts.getLast? <;> rfl
  cases hstop : tokens.find? (·.kind = .eof) with
  | none =>
      rw [hstop] at hfind
      rw [hplaced tokens hstop, hplaced tokens' (Option.map_eq_none_iff.mp hfind.symm)]
  | some t =>
      rw [hstop] at hfind
      obtain ⟨t', hstop', hterminal⟩ := Option.map_eq_some_iff.mp hfind.symm
      unfold TraceCheck.stopToken
      rw [hstop, hstop']
      exact hterminal.symm

/-- Reading tokens of the same kinds and spellings. -/
theorem parallel_readTokens (l : Limits) {tokens tokens' : List Token}
    (h : SameTerminals tokens tokens') :
    (readTokens l tokens).Parallel Eq (readTokens l tokens') := by
  have hbody : SameTerminals (bodyOf tokens) (bodyOf tokens') := h.bodyOf
  have hcontext : (readingContext l tokens (bodyOf tokens)).Parallel
      (readingContext l tokens' (bodyOf tokens')) :=
    ⟨rfl, h.stopToken, congrArg (· + 1) hbody.length_eq⟩
  exact Parallel.expression _ _ _ _ hcontext hbody

variable {out out' : Outcome (Option Expr)}

theorem Outcome.Parallel.expr?_eq (h : out.Parallel Eq out') : out.expr? = out'.expr? := by
  obtain ⟨found, rest, result⟩ := out
  obtain ⟨found', rest', result'⟩ := out'
  cases h.result with
  | ok heq => exact heq
  | error e => rfl

theorem Outcome.Parallel.trailing (h : out.Parallel Eq out') :
    out.trailing.map (·.finding.advice) = out'.trailing.map (·.finding.advice) := by
  cases hexpr : out'.expr? with
  | none =>
      rw [Outcome.trailing_of_none hexpr, Outcome.trailing_of_none (h.expr?_eq.trans hexpr)]
  | some x =>
      have hrest := h.rest
      cases hleft : out.rest with
      | nil =>
          rw [hleft] at hrest
          rw [Outcome.trailing_of_nil hleft, Outcome.trailing_of_nil hrest.eq_nil]
      | cons t us =>
          rw [hleft] at hrest
          obtain ⟨t', us', hleft', ⟨hkind, htext⟩, -⟩ := hrest.exists_cons
          rw [Outcome.trailing_of_cons hexpr hleft',
            Outcome.trailing_of_cons (h.expr?_eq.trans hexpr) hleft]
          rw [Parallel.describe_eq hkind htext]
          rfl

end Reading

/-! ## Verdicts -/

/-- Verdicts that say the same, at whatever places. -/
structure Verdict.SaysLike (v v' : Verdict) : Prop where
  valid : v.isValid = v'.isValid
  ast : v.ast = v'.ast
  errors : v.errors.map Diagnostic.advice = v'.errors.map Diagnostic.advice
  warnings : v.warnings.map Diagnostic.advice = v'.warnings.map Diagnostic.advice

theorem Verdict.SaysLike.refl (v : Verdict) : v.SaysLike v :=
  ⟨rfl, rfl, rfl, rfl⟩

/-- Diagnostics that say the same are parted into errors and remarks that say the same. -/
theorem Verdict.SaysLike.ofDiagnostics {ds ds' : List Diagnostic}
    (h : ds.map Diagnostic.advice = ds'.map Diagnostic.advice) (ast : Option Expr) :
    (Verdict.ofDiagnostics ds ast).SaysLike (.ofDiagnostics ds' ast) := by
  have hpart (p : Level → Bool) : (ds.filter fun d => p d.level).map Diagnostic.advice =
      (ds'.filter fun d => p d.level).map Diagnostic.advice := by
    have hfilter := congrArg (List.filter fun a : Advice => p a.level) h
    rwa [List.filter_map, List.filter_map] at hfilter
  have herrors := hpart fun level => decide (level = .error)
  refine ⟨?_, rfl, herrors, hpart fun level => !decide (level = .error)⟩
  have hempty := congrArg List.isEmpty herrors
  rwa [List.isEmpty_map, List.isEmpty_map] at hempty

/-- Findings that say the same are reported alike behind earlier diagnostics. -/
theorem Verdict.SaysLike.ofFindings (earlier : List Diagnostic) {found found' : List Finding}
    (h : found.map Finding.advice = found'.map Finding.advice) (ast : Option Expr) :
    (Verdict.ofDiagnostics (earlier ++ found.map Finding.diagnostic) ast).SaysLike
      (.ofDiagnostics (earlier ++ found'.map Finding.diagnostic) ast) := by
  have hadvice (found : List Finding) :
      (found.map Finding.diagnostic).map Diagnostic.advice = found.map Finding.advice := by
    rw [List.map_map]
    exact List.map_congr_left fun f _ => f.advice_diagnostic
  refine .ofDiagnostics ?_ ast
  rw [List.map_append, List.map_append, hadvice, hadvice, h]

/-- Tokens of the same kinds and spellings have verdicts that say the same. -/
theorem saysLike_checkTokens (l : Limits) (earlier : List Diagnostic)
    {tokens tokens' : List Token} (h : SameTerminals tokens tokens') :
    (checkTokens l earlier tokens).SaysLike (checkTokens l earlier tokens') := by
  have hbody : SameTerminals (bodyOf tokens) (bodyOf tokens') := h.bodyOf
  by_cases hnil : bodyOf tokens = []
  · have hnil' : bodyOf tokens' = [] := by
      rw [hnil] at hbody
      exact hbody.eq_nil
    rw [checkTokens_of_bodyOf_eq_nil earlier hnil, checkTokens_of_bodyOf_eq_nil earlier hnil']
    exact .refl _
  have hnil' : bodyOf tokens' ≠ [] := by
    intro hnil'
    rw [hnil'] at hbody
    exact hnil (SameTerminals.eq_nil hbody.symm)
  cases hl : l.expired with
  | true =>
      rw [checkTokens_of_expired earlier hl hnil, checkTokens_of_expired earlier hl hnil']
      exact .refl _
  | false =>
      have hread := parallel_readTokens l h
      rw [checkTokens_eq_ofDiagnostics earlier hl hnil,
        checkTokens_eq_ofDiagnostics earlier hl hnil', hread.expr?_eq]
      refine .ofFindings earlier ?_ _
      rw [List.map_append, List.map_append, hread.findings, List.map_map, List.map_map]
      exact congrArg (_ ++ ·) hread.trailing

/-- The layout of a rule does not matter.  Two texts that are spelled without errors, with
tokens of the same kinds and spellings, have verdicts that say the same: both are valid or
neither is, the expressions are equal, and the errors and the remarks have the same levels,
messages and suggestions in the same order. -/
theorem check_saysLike_of_sameTerminals (l : Limits) (source source' : String)
    (hlex : (tokenize l source).errors = []) (hlex' : (tokenize l source').errors = [])
    (hsame : SameTerminals (tokenize l source).tokens (tokenize l source').tokens) :
    (check l source).SaysLike (check l source') := by
  rw [check_of_errors_eq_nil hlex, check_of_errors_eq_nil hlex']
  exact saysLike_checkTokens l [] hsame

/-- A rule in one line and the same rule in several lines with comments, with a term that
cannot be read and remarks in front of it and behind it. -/
theorem saysLike_in_lines :
    let source := "trace.has(ab).where(x.amount == 1) or not trace.find(c) or trace.count(d) == 2"
    let source' := "trace\n  .has( ab ) // first\n.where(x.\n amount == 1) or\n\tnot trace." ++
      "find (c)\n  // second\n  or trace . count(d) ==\n2 // end"
    (tokenize {} source).errors = [] ∧ (tokenize {} source').errors = [] ∧
      SameTerminals (tokenize {} source).tokens (tokenize {} source').tokens ∧
      (check {} source).SaysLike (check {} source') := by
  intro source source'
  obtain ⟨hlex, hlex', hsame⟩ :
      (tokenize {} source).errors = [] ∧ (tokenize {} source').errors = [] ∧
        (tokenize {} source).tokens.map Token.terminal =
          (tokenize {} source').tokens.map Token.terminal := by
    decide +kernel
  exact ⟨hlex, hlex', hsame, check_saysLike_of_sameTerminals {} source source' hlex hlex' hsame⟩

end TraceCheck
