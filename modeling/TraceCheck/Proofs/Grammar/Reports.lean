import TraceCheck.Proofs.Grammar.Derivability

/-!
# What a verdict reports

What reading notes are faults and remarks, and a fault is an error at a token.  A verdict
on tokens reports the faults of reading them behind the errors that were there before, and
a fault more when tokens are left behind an expression.  The advice of a report is what it
says, apart from its place.
-/

namespace TraceCheck

open TraceCheck.Reading

/-! ## Faults -/

/-- An error at a token. -/
structure Fault where
  error : ParseError
  place : Token
  deriving DecidableEq, Repr

/-- The finding that a fault is. -/
def Fault.finding (f : Fault) : Finding :=
  .error f.error f.place

/-- The diagnostic that reports a fault. -/
def Fault.diagnostic (f : Fault) : Diagnostic :=
  f.finding.diagnostic

/-- The fault that a finding is, if it is no remark. -/
def Finding.fault? : Finding → Option Fault
  | .error e t => some ⟨e, t⟩
  | .lint .. => none

theorem Fault.isError_diagnostic (f : Fault) : f.diagnostic.isError = true :=
  Finding.isError_diagnostic _

/-! ## Advice -/

/-- What a report says, whatever its place. -/
structure Advice where
  level : Level
  message : String
  suggestion : Option String
  deriving DecidableEq, Repr

/-- The advice of a diagnostic. -/
def Diagnostic.advice (d : Diagnostic) : Advice :=
  ⟨d.level, d.message, d.suggestion⟩

/-- The advice of a remark. -/
def Lint.advice (l : Lint) : Advice :=
  ⟨l.level, l.message, l.suggestion⟩

/-- The advice of a finding. -/
def Finding.advice : Finding → Advice
  | .error e _ => ⟨.error, e.message, e.suggestion⟩
  | .lint l _ _ => l.advice

theorem Finding.advice_diagnostic (f : Finding) : f.diagnostic.advice = f.advice := by
  cases f <;> rfl

namespace Reading

/-- The faults among some findings. -/
def faults (found : List Finding) : List Fault :=
  found.filterMap Finding.fault?

/-- The diagnostics of the remarks among some findings. -/
def remarks (found : List Finding) : List Diagnostic :=
  (found.map Finding.diagnostic).filter fun d => !d.isError

theorem faults_append (xs ys : List Finding) : faults (xs ++ ys) = faults xs ++ faults ys :=
  List.filterMap_append

theorem faults_lints (ls : List Lint) (first : Token) (length : Nat) :
    faults (ls.map fun l => .lint l first length) = [] := by
  rw [faults, List.filterMap_map]
  exact List.filterMap_eq_nil_iff.mpr fun _ _ => rfl

theorem faults_map_finding (fs : List Fault) : faults (fs.map Fault.finding) = fs := by
  rw [faults, List.filterMap_map]
  exact List.filterMap_some

theorem remarks_append (xs ys : List Finding) : remarks (xs ++ ys) = remarks xs ++ remarks ys := by
  rw [remarks, List.map_append, List.filter_append]
  rfl

theorem remarks_map_finding (fs : List Fault) : remarks (fs.map Fault.finding) = [] := by
  rw [remarks, List.map_map, List.filter_eq_nil_iff]
  refine List.forall_mem_map.mpr fun f _ => ?_
  have herror : (Finding.diagnostic f.finding).isError = true := f.isError_diagnostic
  simp [herror]

theorem faults_eq_nil_iff {found : List Finding} : faults found = [] ↔ noErrors found = true := by
  rw [faults, List.filterMap_eq_nil_iff, noErrors, List.all_eq_true]
  refine forall_congr' fun f => imp_congr_right fun _ => ?_
  cases f with
  | error e t =>
      constructor
      · intro h
        cases h
      · intro h
        cases h
  | lint l first length => exact ⟨fun _ => rfl, fun _ => rfl⟩

/-- The diagnostics that are errors are those of the faults. -/
theorem filter_isError_map_diagnostic (found : List Finding) :
    (found.map Finding.diagnostic).filter (·.isError) =
      (faults found).map Fault.diagnostic := by
  induction found with
  | nil => rfl
  | cons f found ih =>
      rw [List.map_cons]
      cases f with
      | error e t =>
          rw [List.filter_cons_of_pos (Finding.isError_diagnostic _), ih]
          rfl
      | lint l first length =>
          have hremark : ¬(Finding.lint l first length).diagnostic.isError = true := by
            rw [Finding.isError_diagnostic]
            nofun
          rw [List.filter_cons_of_neg hremark, ih]
          rfl

/-! ## Outcomes -/

namespace Outcome

/-- The expression that was read, if there is one. -/
def expr? (out : Outcome (Option Expr)) : Option Expr :=
  match out.result with
  | .ok e => e
  | .error _ => none

/-- The fault that tokens are left behind an expression. -/
def trailing (out : Outcome (Option Expr)) : List Fault :=
  match out.expr?, out.rest with
  | some _, t :: _ => [⟨.trailing t.describe, t⟩]
  | _, _ => []

/-- The faults of reading a rule to its end. -/
def allFaults (out : Outcome (Option Expr)) : List Fault :=
  faults out.findings ++ out.trailing

theorem trailing_of_none {out : Outcome (Option Expr)} (hexpr : out.expr? = none) :
    out.trailing = [] := by
  rw [trailing, hexpr]

theorem trailing_of_nil {out : Outcome (Option Expr)} (hrest : out.rest = []) :
    out.trailing = [] := by
  unfold trailing
  rw [hrest]
  cases out.expr? with
  | none => rfl
  | some e => rfl

theorem trailing_of_cons {out : Outcome (Option Expr)} {e : Expr} {t : Token} {rest : List Token}
    (hexpr : out.expr? = some e) (hrest : out.rest = t :: rest) :
    out.trailing = [⟨.trailing t.describe, t⟩] := by
  rw [trailing, hexpr, hrest]

theorem expr?_eq_some_iff {out : Outcome (Option Expr)} {e : Expr} :
    out.expr? = some e ↔ out.result = .ok (some e) := by
  unfold expr?
  cases out.result with
  | ok a => simp
  | error a => simp

theorem eq_of_mem_trailing {out : Outcome (Option Expr)} {f : Fault} (hf : f ∈ out.trailing) :
    ∃ e t us, out.result = .ok (some e) ∧ out.rest = t :: us ∧ f = ⟨.trailing t.describe, t⟩ := by
  unfold trailing at hf
  split at hf
  next e t us hexpr hrest =>
    exact ⟨e, t, us, expr?_eq_some_iff.mp hexpr, hrest, List.mem_singleton.mp hf⟩
  next => cases hf

end Outcome

end Reading

/-! ## Verdicts -/

/-- The tokens in front of the first that marks the end. -/
def bodyOf (tokens : List Token) : List Token :=
  tokens.takeWhile (·.kind ≠ .eof)

/-- Reading the tokens of a text. -/
def readTokens (l : Limits) (tokens : List Token) : Outcome (Option Expr) :=
  expression (readingContext l tokens (bodyOf tokens)) (bodyOf tokens)

theorem kind_of_mem_bodyOf {tokens : List Token} {t : Token} (ht : t ∈ bodyOf tokens) :
    t.kind ≠ .eof :=
  of_decide_eq_true (List.all_eq_true.mp List.all_takeWhile t ht)

theorem bodyOf_append_of_forall {ts us : List Token} (hts : ∀ t ∈ ts, t.kind ≠ .eof) :
    bodyOf (ts ++ us) = ts ++ bodyOf us :=
  List.takeWhile_append_of_pos fun t ht => decide_eq_true (hts t ht)

/-- The tokens in front of one that marks the end are the body. -/
theorem bodyOf_append {ts rest : List Token} {stop : Token} (hts : ∀ t ∈ ts, t.kind ≠ .eof)
    (hstop : stop.kind = .eof) : bodyOf (ts ++ stop :: rest) = ts := by
  rw [bodyOf_append_of_forall hts, bodyOf, List.takeWhile_cons_of_neg, List.append_nil]
  rw [hstop]
  nofun

theorem kind_stopToken (tokens : List Token) : (stopToken tokens).kind = .eof := by
  unfold stopToken
  split
  next t _ hfind => simpa using List.find?_some hfind
  next => rfl
  next => rfl

theorem checkTokens_of_bodyOf_eq_nil {l : Limits} {tokens : List Token}
    (earlier : List Diagnostic) (hbody : bodyOf tokens = []) :
    checkTokens l earlier tokens =
      if earlier.isEmpty then
        .refused (.wholeInput ParseError.empty.message ParseError.empty.suggestion)
      else .ofDiagnostics earlier none := by
  rw [checkTokens_still]
  rw [← bodyOf, hbody]
  rfl

theorem checkTokens_of_expired {l : Limits} {tokens : List Token} (earlier : List Diagnostic)
    (hl : l.expired = true) (hbody : bodyOf tokens ≠ []) :
    checkTokens l earlier tokens =
      .refused (.wholeInput (ParseError.timeout l.maxParseTimeMs).message
        (ParseError.timeout l.maxParseTimeMs).suggestion) := by
  rw [checkTokens_still]
  rw [← bodyOf]
  dsimp only
  rw [if_neg (by simpa using hbody), if_pos hl]

/-- The diagnostics of a verdict on tokens are those of before and those of reading. -/
theorem checkTokens_eq_ofDiagnostics {l : Limits} {tokens : List Token}
    (earlier : List Diagnostic) (hl : l.expired = false) (hbody : bodyOf tokens ≠ []) :
    checkTokens l earlier tokens = .ofDiagnostics
      (earlier ++ ((readTokens l tokens).findings ++
        (readTokens l tokens).trailing.map Fault.finding).map Finding.diagnostic)
      (readTokens l tokens).expr? := by
  have htrailing : (readTokens l tokens).trailing.map Fault.finding =
      match (readTokens l tokens).expr?, (readTokens l tokens).rest with
      | some _, t :: _ => [Finding.error (.trailing t.describe) t]
      | _, _ => [] := by
    unfold Outcome.trailing
    split <;> rfl
  rw [htrailing]
  rw [checkTokens_still]
  rw [← bodyOf]
  dsimp only
  rw [if_neg (by simpa using hbody), if_neg (by rw [hl]; nofun)]
  rfl

/-- What a verdict on tokens reports: the errors of before and the faults of reading, the
remarks, and the expression. -/
theorem checkTokens_eq_readTokens {l : Limits} {tokens : List Token} (earlier : List Diagnostic)
    (hl : l.expired = false) (hbody : bodyOf tokens ≠ []) :
    checkTokens l earlier tokens =
      { errors := earlier.filter (·.isError) ++
          (readTokens l tokens).allFaults.map Fault.diagnostic
        warnings := earlier.filter (fun d => !d.isError) ++
          remarks (readTokens l tokens).findings
        ast := (readTokens l tokens).expr? } := by
  rw [checkTokens_eq_ofDiagnostics earlier hl hbody, Verdict.ofDiagnostics, List.filter_append,
    List.filter_append, ← remarks, filter_isError_map_diagnostic, faults_append,
    faults_map_finding, remarks_append, remarks_map_finding, List.append_nil]
  rfl

/-! ## Valid rules -/

theorem bodyOf_ne_nil_of_isValid {l : Limits} {tokens : List Token}
    (hvalid : (checkTokens l [] tokens).isValid = true) :
    bodyOf tokens ≠ [] := by
  intro hnil
  rw [checkTokens_of_bodyOf_eq_nil [] hnil] at hvalid
  cases hvalid

/-- Tokens that are a rule are read as an expression, and none are left. -/
theorem exists_readTokens_of_isValid {l : Limits} {tokens : List Token} (hl : l.expired = false)
    (hvalid : (checkTokens l [] tokens).isValid = true) :
    ∃ x, (readTokens l tokens).result = .ok (some x) ∧ (readTokens l tokens).rest = [] := by
  rw [checkTokens_eq_readTokens [] hl (bodyOf_ne_nil_of_isValid hvalid)] at hvalid
  have hall : (readTokens l tokens).allFaults = [] :=
    List.map_eq_nil_iff.mp (List.isEmpty_iff.mp hvalid)
  obtain ⟨hfaults, htrailing⟩ := List.append_eq_nil_iff.mp hall
  obtain ⟨x, hresult⟩ : ∃ x, (readTokens l tokens).result = .ok (some x) :=
    (HonestOption.expression _ _).mpr (faults_eq_nil_iff.mp hfaults)
  refine ⟨x, hresult, ?_⟩
  cases hrest : (readTokens l tokens).rest with
  | nil => rfl
  | cons t us =>
      have hexpr := Outcome.expr?_eq_some_iff.mpr hresult
      rw [Outcome.trailing_of_cons hexpr hrest] at htrailing
      cases htrailing

theorem expired_eq_false_of_isValid {l : Limits} {tokens : List Token}
    (hvalid : (checkTokens l [] tokens).isValid = true) : l.expired = false := by
  cases hl : l.expired with
  | false => rfl
  | true =>
      rw [checkTokens_of_expired [] hl (bodyOf_ne_nil_of_isValid hvalid)] at hvalid
      cases hvalid

theorem check_of_errors_eq_nil {l : Limits} {source : String}
    (hlex : (tokenize l source).errors = []) :
    check l source = checkTokens l [] (tokenize l source).tokens := by
  have hfatal : (tokenize l source).fatal = false := by
    by_cases hlarge : l.maxTotalLength < source.utf8ByteSize
    · rw [tokenize_still, if_pos hlarge] at hlex
      cases hlex
    by_cases hexpired : l.expired = true ∧ source ≠ ""
    · rw [tokenize_still, if_neg hlarge, if_pos hexpired] at hlex
      cases hlex
    · rw [tokenize_still, if_neg hlarge, if_neg hexpired]
  exact check_eq_checkTokens hfatal hlex rfl

/-- A valid rule has an expression, and its remarks are those of reading the tokens. -/
theorem exists_gives_of_check {l : Limits} {source : String}
    (hvalid : (check l source).isValid = true) :
    ∃ ctx ts e, Gives expression ctx ts (some e) [] ∧ (check l source).ast = some e ∧
      (check l source).warnings = remarks (expression ctx ts).findings := by
  have hcheck := check_of_errors_eq_nil (errors_eq_nil_of_isValid hvalid)
  rw [hcheck] at hvalid ⊢
  have hl := expired_eq_false_of_isValid hvalid
  obtain ⟨e, hresult, hrest⟩ := exists_readTokens_of_isValid hl hvalid
  rw [checkTokens_eq_readTokens [] hl (bodyOf_ne_nil_of_isValid hvalid)]
  exact ⟨_, _, e, ⟨hresult, hrest⟩, Outcome.expr?_eq_some_iff.mpr hresult, rfl⟩

end TraceCheck
