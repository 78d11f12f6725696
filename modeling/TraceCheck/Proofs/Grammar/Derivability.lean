import TraceCheck.Proofs.Grammar.Denotation
import TraceCheck.Proofs.Grammar.Timing
import TraceCheck.Proofs.Grammar.Unambiguity
import TraceCheck.Proofs.Token.Pieces

/-!
# Valid rules are the derivable ones

A text without lexical errors is a valid rule exactly when its tokens have a
derivation that fits.  The derivation is then the only one, and the expression
of the verdict is the one that it denotes.
-/

namespace TraceCheck

open TraceCheck.Reading

/-! ## The tokens of a text -/

/-- The terminal that ends the terminals of a text. -/
def Terminal.eof : Terminal :=
  ⟨.eof, ""⟩

/-- A derivation of the tokens of a text. -/
def Derives (l : Limits) (source : String) (d : Grammar.Chain) : Prop :=
  (tokenize l source).tokens.map Token.terminal = d.terminals ++ [.eof]

/-- The context in which the tokens of a text are read. -/
def readingContext (l : Limits) (tokens body : List Token) : Context :=
  ⟨l.maxRecursionDepth, stopToken tokens, body.length + 1⟩

theorem tokenize_of_no_errors
    {l : Limits} {source : String} (hl : l.expired = false)
    (hlex : (tokenize l source).errors = []) :
    ∃ body line column,
      (tokenize l source).tokens = body ++ [.eof line column] ∧
      (tokenize l source).fatal = false ∧ (∀ t ∈ body, t.WellSpelled) ∧
      body.map Token.terminal = (pieces source.toList).filterMap (·.terminal? l) := by
  have hsize := ((tokenize_errors_eq_nil_iff hl).mp hlex).1
  rw [tokenize_still]
  rw [hl, if_neg (Nat.not_lt.mpr hsize), if_neg nofun]
  exact ⟨_, _, _, rfl, rfl, fun t ht => wellSpelled_of_mem_tokens ht,
    tokens_map_terminal l source.toList⟩

theorem takeWhile_body
    {body : List Token} {line column : Nat} (hbody : ∀ t ∈ body, t.WellSpelled) :
    (body ++ [Token.eof line column]).takeWhile (·.kind ≠ .eof) = body := by
  have hall : ∀ t ∈ body, decide (t.kind ≠ .eof) = true := fun t ht =>
    decide_eq_true (hbody t ht).1
  exact (Decimal.takeWhile_append_of_stop [Token.eof line column] hall
    (by simp [Token.eof])).1

theorem stopToken_kind {body : List Token} {line column : Nat} :
    (stopToken (body ++ [.eof line column])).kind = .eof := by
  unfold stopToken
  cases hfind : (body ++ [Token.eof line column]).find? (·.kind = .eof) with
  | none =>
      have hnone := List.find?_eq_none.mp hfind (.eof line column) (by simp)
      exact absurd (decide_eq_true rfl) hnone
  | some t => simpa using List.find?_some hfind

theorem ready_body
    (l : Limits) {body : List Token} (line column : Nat)
    (hbody : ∀ t ∈ body, t.WellSpelled) :
    Ready (readingContext l (body ++ [.eof line column]) body) body where
  stop := stopToken_kind
  wellSpelled := hbody
  bounded := Nat.lt_succ_self _

/-! ## The verdict -/

/-- The verdict on tokens that are not none. -/
theorem checkTokens_eq
    {l : Limits} {body : List Token} {line column : Nat} (hl : l.expired = false)
    (hbody : ∀ t ∈ body, t.WellSpelled) (hne : body ≠ []) :
    let out := expression (readingContext l (body ++ [.eof line column]) body) body
    let ast := match out.result with
      | .ok e => e
      | .error _ => none
    let trailing := match ast, out.rest with
      | some _, t :: _ => [Finding.error (.trailing t.describe) t]
      | _, _ => []
    checkTokens l [] (body ++ [.eof line column]) =
      .ofDiagnostics ((out.findings ++ trailing).map Finding.diagnostic) ast := by
  have hempty : body.isEmpty = false := by simpa using hne
  intro out ast trailing
  rw [checkTokens_still]
  rw [takeWhile_body hbody]
  dsimp only
  rw [hempty, hl]
  rfl

/-- Tokens are accepted when all of them are read. -/
theorem checkTokens_of_gives
    {l : Limits} {body : List Token} {line column : Nat} {e : Expr} (hl : l.expired = false)
    (hbody : ∀ t ∈ body, t.WellSpelled) (hne : body ≠ [])
    (he : Gives expression (readingContext l (body ++ [.eof line column]) body) body
      (some e) []) :
    (checkTokens l [] (body ++ [.eof line column])).isValid = true ∧
      (checkTokens l [] (body ++ [.eof line column])).ast = some e := by
  obtain ⟨hresult, hrest⟩ := he
  have hclean := (HonestOption.expression _ _).mp ⟨e, hresult⟩
  rw [checkTokens_eq hl hbody hne]
  simp only [hresult, hrest, List.append_nil]
  exact ⟨by rw [isValid_ofDiagnostics, hclean], rfl⟩

/-- Only tokens that are all read are accepted. -/
theorem exists_gives_of_isValid
    {l : Limits} {body : List Token} {line column : Nat} (hl : l.expired = false)
    (hbody : ∀ t ∈ body, t.WellSpelled)
    (hvalid : (checkTokens l [] (body ++ [.eof line column])).isValid = true) :
    ∃ e, Gives expression (readingContext l (body ++ [.eof line column]) body) body
      (some e) [] := by
  have hne : body ≠ [] := by
    rintro rfl
    cases hvalid
  rw [checkTokens_eq hl hbody hne, isValid_ofDiagnostics, noErrors_append,
    Bool.and_eq_true] at hvalid
  obtain ⟨hfindings, htrailing⟩ := hvalid
  obtain ⟨e, hresult⟩ := (HonestOption.expression _ _).mpr hfindings
  refine ⟨e, hresult, ?_⟩
  rw [hresult] at htrailing
  cases hrest : (expression (readingContext l (body ++ [.eof line column]) body) body).rest with
  | nil => rfl
  | cons t rest =>
      rw [hrest] at htrailing
      cases htrailing

theorem check_eq_checkTokens
    {l : Limits} {source : String} {tokens : List Token}
    (hfatal : (tokenize l source).fatal = false) (hlex : (tokenize l source).errors = [])
    (htokens : (tokenize l source).tokens = tokens) :
    check l source = checkTokens l [] tokens := by
  unfold check
  dsimp only
  rw [hfatal, hlex, htokens]
  rfl

/-! ## Lexical errors -/

theorem LexicalError.isError_diagnostic (e : LexicalError) (line column length : Nat) :
    (e.diagnostic line column length).isError = true := by
  cases e <;> rfl

/-- A diagnostic reports an error in the spelling of a text. -/
def Diagnostic.IsLexical (d : Diagnostic) : Prop :=
  ∃ (e : LexicalError) (line column length : Nat), e.diagnostic line column length = d

theorem isLexical_of_mem_lexicalErrors
    {l : Limits} {xs : List Located} {last : Option (Nat × String)} {found : List Diagnostic}
    (hfound : ∀ d ∈ found, d.IsLexical) : ∀ d ∈ lexicalErrors l xs last found, d.IsLexical := by
  have hmore (x : Located) (e : LexicalError) {found : List Diagnostic}
      (hfound : ∀ d ∈ found, d.IsLexical) : ∀ d ∈ x.diagnose e :: found, d.IsLexical :=
    List.forall_mem_cons.mpr ⟨⟨e, _, _, _, rfl⟩, hfound⟩
  fun_induction lexicalErrors l xs last found with
  | case1 last found => exact fun d hd => hfound d (List.mem_reverse.mp hd)
  | case2 x rest last found hword hlong ih => exact ih (hmore x _ hfound)
  | case3 x rest last found hword hshort ih => exact ih hfound
  | case4 x rest last found content hstring hlong ih => exact ih (hmore x _ hfound)
  | case5 x rest last found content hstring hshort ih => exact ih hfound
  | case6 x rest last found hopen ih => exact ih (hmore x _ hfound)
  | case7 x rest last found c hstray word shown ih => exact ih (hmore x _ hfound)
  | case8 x rest last found _ _ _ _ ih => exact ih hfound

theorem isLexical_of_mem_errors (l : Limits) (source : String) :
    ∀ d ∈ (tokenize l source).errors, d.IsLexical := by
  rcases tokenize_cases l source with ⟨e, hrefused⟩ | ⟨-, herrors⟩
  · rw [hrefused]
    exact List.forall_mem_singleton.mpr ⟨_, _, _, _, rfl⟩
  · rw [herrors]
    exact isLexical_of_mem_lexicalErrors nofun

theorem isError_of_mem_errors (l : Limits) (source : String) :
    ∀ d ∈ (tokenize l source).errors, d.isError = true := by
  intro d hd
  obtain ⟨e, line, column, length, rfl⟩ := isLexical_of_mem_errors l source d hd
  exact e.isError_diagnostic line column length

theorem isValid_ofDiagnostics_iff {ds : List Diagnostic} {ast : Option Expr} :
    (Verdict.ofDiagnostics ds ast).isValid = true ↔ ∀ d ∈ ds, d.isError = false := by
  simp [Verdict.ofDiagnostics, Verdict.isValid]

/-- A valid rule has no lexical errors. -/
theorem errors_eq_nil_of_isValid
    {l : Limits} {source : String} (hvalid : (check l source).isValid = true) :
    (tokenize l source).errors = [] := by
  -- An error of the lexer is among the diagnostics of every verdict but those
  -- that refuse the text as a whole, which are not valid.
  have hnil (hnone : ∀ d ∈ (tokenize l source).errors, d.isError = false) :
      (tokenize l source).errors = [] := by
    refine List.eq_nil_iff_forall_not_mem.mpr fun d hd => ?_
    have herror := isError_of_mem_errors l source d hd
    rw [hnone d hd] at herror
    cases herror
  unfold check at hvalid
  dsimp only at hvalid
  split at hvalid
  · exact hnil (isValid_ofDiagnostics_iff.mp hvalid)
  · rw [checkTokens_still] at hvalid
    dsimp only at hvalid
    split at hvalid
    · split at hvalid
      next hempty => exact List.isEmpty_iff.mp hempty
      next => exact hnil (isValid_ofDiagnostics_iff.mp hvalid)
    split at hvalid
    · cases hvalid
    · exact hnil fun d hd =>
        isValid_ofDiagnostics_iff.mp hvalid d (List.mem_append_left _ hd)

/-! ## Derivable texts -/

theorem derives_iff_spells
    {l : Limits} {source : String} {d : Grammar.Chain} {body : List Token} {line column : Nat}
    (htokens : (tokenize l source).tokens = body ++ [.eof line column]) :
    Derives l source d ↔ Spells body d.terminals [] := by
  unfold Derives
  rw [htokens, List.map_append, spells_end]
  exact List.append_left_inj [Terminal.eof]

/-- A text whose tokens have a derivation that fits is a valid rule with the
expression that the derivation denotes, and has no other derivation. -/
theorem check_of_derives
    {l : Limits} {source : String} {d : Grammar.Chain} (hl : l.expired = false)
    (hlex : (tokenize l source).errors = []) (hd : Derives l source d)
    (hfits : d.Fits l.maxRecursionDepth) :
    ∃ e, d.expr? = some e ∧ (check l source).isValid = true ∧
      (check l source).ast = some e := by
  obtain ⟨body, line, column, htokens, hfatal, hbody, -⟩ := tokenize_of_no_errors hl hlex
  have hspells := (derives_iff_spells htokens).mp hd
  have hready := ready_body l line column hbody
  have hne : body ≠ [] := by
    rintro rfl
    exact d.terminals_ne_nil (spells_end.mp hspells).symm
  obtain ⟨e, he⟩ := exists_chain_expr (wellSpelled_of_spells hready hspells) hfits
  have hgives := (gives_expression hready).mpr ⟨d, hfits, he, hspells⟩
  rw [check_eq_checkTokens hfatal hlex htokens]
  exact ⟨e, he, checkTokens_of_gives hl hbody hne hgives⟩

/-- The tokens of a valid rule have a derivation that fits and denotes its
expression, with numerals for numbers. -/
theorem exists_derives_of_isValid
    {l : Limits} {source : String} (hl : l.expired = false)
    (hvalid : (check l source).isValid = true) :
    ∃ d e, Derives l source d ∧ WellSpelled d.terminals ∧ d.Fits l.maxRecursionDepth ∧
      d.expr? = some e ∧ (check l source).ast = some e := by
  have hlex := errors_eq_nil_of_isValid hvalid
  obtain ⟨body, line, column, htokens, hfatal, hbody, -⟩ := tokenize_of_no_errors hl hlex
  have hready := ready_body l line column hbody
  rw [check_eq_checkTokens hfatal hlex htokens] at hvalid
  obtain ⟨e, hgives⟩ := exists_gives_of_isValid hl hbody hvalid
  obtain ⟨d, hfits, -, hspells⟩ := (gives_expression hready).mp hgives
  have hd := (derives_iff_spells htokens).mpr hspells
  obtain ⟨a, ha, -, hast⟩ := check_of_derives hl hlex hd hfits
  exact ⟨d, a, hd, wellSpelled_of_spells hready hspells, hfits, ha, hast⟩

/-- A text without lexical errors is a valid rule exactly when its tokens have
a derivation that fits.  No text has two derivations, and the expression of the
verdict is the one that the derivation denotes. -/
theorem check_isValid_iff_derives
    (l : Limits) (source : String) (hl : l.expired = false)
    (hlex : (tokenize l source).errors = []) :
    ((check l source).isValid = true ↔
        ∃ d, Derives l source d ∧ d.Fits l.maxRecursionDepth) ∧
      ∀ d, Derives l source d → d.Fits l.maxRecursionDepth →
        (∀ d', Derives l source d' → d' = d) ∧
          ∃ e, d.expr? = some e ∧ (check l source).ast = some e := by
  obtain ⟨body, line, column, htokens, -⟩ := tokenize_of_no_errors hl hlex
  refine ⟨⟨?_, ?_⟩, ?_⟩
  · intro hvalid
    obtain ⟨d, -, hd, -, hfits, -⟩ := exists_derives_of_isValid hl hvalid
    exact ⟨d, hd, hfits⟩
  · rintro ⟨d, hd, hfits⟩
    obtain ⟨e, -, hvalid, -⟩ := check_of_derives hl hlex hd hfits
    exact hvalid
  · intro d hd hfits
    refine ⟨?_, ?_⟩
    · intro d' hd'
      have h := (spells_end.mp ((derives_iff_spells htokens).mp hd)).symm
      have h' := (spells_end.mp ((derives_iff_spells htokens).mp hd')).symm
      exact Grammar.Chain.terminals_injective (h'.trans h.symm)
    · obtain ⟨e, he, -, hast⟩ := check_of_derives hl hlex hd hfits
      exact ⟨e, he, hast⟩

/-- A rule that negates an attribute whose name is a keyword has one derivation. -/
theorem existsUnique_derives_negation :
    let source := "trace.has(a).where(not not) or not trace.count(b.in) > 2"
    (tokenize {} source).errors = [] ∧
      ∃ d, Derives {} source d ∧ ∀ d', Derives {} source d' → d' = d := by
  intro source
  have hlex : (tokenize {} source).errors = [] := by decide +kernel
  have hvalid : (check {} source).isValid = true := by decide +kernel
  obtain ⟨hiff, hunique⟩ := check_isValid_iff_derives {} source rfl hlex
  obtain ⟨d, hd, hfits⟩ := hiff.mp hvalid
  exact ⟨hlex, d, hd, (hunique d hd hfits).1⟩

end TraceCheck
