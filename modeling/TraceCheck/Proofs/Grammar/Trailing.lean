import TraceCheck.Proofs.Grammar.Continuations

/-!
# Tokens behind a rule

A rule is read in the same way whatever stands behind it, unless that continues the rule.
So tokens behind a rule add one error to the verdict and change nothing else in it, and when
a verdict has such an error, the tokens in front of it are a rule.
-/

namespace TraceCheck

open TraceCheck.Reading

/-! ## Messages -/

/-- A text begins with some characters. -/
def Opens (opening : List Char) (s : String) : Prop :=
  opening <+: s.toList

theorem Opens.append {opening : List Char} {s : String} (h : Opens opening s) (t : String) :
    Opens opening (s ++ t) := by
  rw [Opens, String.toList_append]
  exact h.trans (List.prefix_append _ _)

/-- The beginning of a fixed text can be checked. -/
theorem opens_ofList {opening cs : List Char} (h : opening <+: cs) :
    Opens opening (String.ofList cs) := by
  rwa [Opens, String.toList_ofList]

/-- Texts with different beginnings differ. -/
theorem Opens.ne {opening opening' : List Char} {s t : String} (hs : Opens opening s)
    (ht : Opens opening' t) (hlength : opening.length ≤ opening'.length)
    (hother : ¬opening <+: opening') : s ≠ t := by
  rintro rfl
  exact hother (List.prefix_of_prefix_length_le hs ht hlength)

/-- A diagnostic says that something stands behind an expression. -/
def Diagnostic.IsTrailing (d : Diagnostic) : Prop :=
  ∃ found, d.message = (ParseError.trailing found).message

/-- What messages about a token behind an expression begin with.  Messages about other
tokens or about characters begin otherwise. -/
def trailingOpening : List Char :=
  ['U', 'n', 'e', 'x', 'p', 'e', 'c', 't', 'e', 'd', ' ', 't']

theorem Opens.ne_trailing {opening : List Char} {s : String} (h : Opens opening s)
    (hlength : opening.length ≤ trailingOpening.length) (hother : ¬opening <+: trailingOpening)
    (found : String) : s ≠ (ParseError.trailing found).message := by
  have htrailing : Opens trailingOpening (ParseError.trailing found).message :=
    ((opens_ofList (by decide)).append _).append _
  exact h.ne htrailing hlength hother

theorem Opens.ne_trailing_of_letter {letter : Char} {s : String} (h : Opens [letter] s)
    (hother : letter ≠ 'U') (found : String) : s ≠ (ParseError.trailing found).message := by
  refine h.ne_trailing (show 1 ≤ 12 by decide) (fun hopens => hother ?_) found
  exact (List.cons_prefix_cons.mp hopens).1

/-- What the message of an error in the spelling of a text begins with. -/
def LexicalError.opening : LexicalError → List Char
  | .unterminatedString => ['U', 'n', 't']
  | .identifierTooLong _ => ['I']
  | .stringTooLong _ => ['S']
  | .unexpectedCharacter _ _ _ => ['U', 'n', 'e', 'x', 'p', 'e', 'c', 't', 'e', 'd', ' ', 'c']
  | .inputTooLarge _ _ | .timeout _ => ['R']

theorem LexicalError.opens_message (e : LexicalError) : Opens e.opening e.message := by
  unfold opening
  cases e with
  | unterminatedString => exact opens_ofList (by decide)
  | identifierTooLong limit =>
      dsimp only
      exact ((opens_ofList (by decide)).append _).append _
  | stringTooLong limit =>
      dsimp only
      exact ((opens_ofList (by decide)).append _).append _
  | unexpectedCharacter shown word isAssignment =>
      dsimp only
      exact ((((opens_ofList (by decide)).append _).append _).append _).append _
  | inputTooLarge bytes limit =>
      dsimp only
      exact ((((opens_ofList (by decide)).append _).append _).append _).append _
  | timeout limitMs =>
      dsimp only
      exact ((opens_ofList (by decide)).append _).append _

theorem LexicalError.message_ne_trailing (e : LexicalError) (found : String) :
    e.message ≠ (ParseError.trailing found).message := by
  refine e.opens_message.ne_trailing ?_ ?_ found
  · cases e <;> simp [opening, trailingOpening]
  · cases e <;> simp [opening, trailingOpening]

theorem ParseError.message_ne_trailing {e : ParseError} (he : ∀ found, e ≠ .trailing found)
    (found : String) : e.message ≠ (ParseError.trailing found).message := by
  -- All messages but one begin with another letter.
  obtain ⟨letter, hopens, hother⟩ : ∃ letter, Opens [letter] e.message ∧ letter ≠ 'U' := by
    cases e with
    | empty => exact ⟨'R', opens_ofList (by decide), by decide⟩
    | expected what found =>
        exact ⟨'E', (((opens_ofList (by decide)).append _).append _).append _, by decide⟩
    | trailing found => exact absurd rfl (he found)
    | tooDeep limit => exact ⟨'E', ((opens_ofList (by decide)).append _).append _, by decide⟩
    | timeout limitMs => exact ⟨'R', ((opens_ofList (by decide)).append _).append _, by decide⟩
    | pattern e => exact ⟨'I', (opens_ofList (by decide)).append _, by decide⟩
    | countOperand found => exact ⟨'C', (opens_ofList (by decide)).append _, by decide⟩
    | countOperator op => exact ⟨'O', ((opens_ofList (by decide)).append _).append _, by decide⟩
    | listNotAllowed op => exact ⟨'L', ((opens_ofList (by decide)).append _).append _, by decide⟩
    | stringRequired op => exact ⟨'O', ((opens_ofList (by decide)).append _).append _, by decide⟩
    | nestedList => exact ⟨'L', opens_ofList (by decide), by decide⟩
  exact hopens.ne_trailing_of_letter hother found

theorem Diagnostic.IsLexical.not_isTrailing {d : Diagnostic} (h : d.IsLexical) :
    ¬d.IsTrailing := by
  rintro ⟨found, hmessage⟩
  obtain ⟨e, line, column, length, rfl⟩ := h
  refine e.message_ne_trailing found ?_
  rw [← hmessage, LexicalError.diagnostic]
  split <;> rfl

theorem Fault.not_isTrailing {f : Fault} (h : ∀ found, f.error ≠ .trailing found) :
    ¬f.diagnostic.IsTrailing := by
  rintro ⟨found, hmessage⟩
  exact ParseError.message_ne_trailing h found hmessage

/-! ## Reading in front of other tokens -/

variable {l : Limits} {tokens tokens' ts more more' : List Token} {x : Expr}

/-- Two ways in which the tokens of a text go on behind the same first ones. -/
def endingsOf (l : Limits) (tokens tokens' ts more more' : List Token)
    (hends : (more'.headD (stopToken tokens')).kind ≠ .dot ∧
      operatorOf? (more'.headD (stopToken tokens')) = none) : Endings where
  ctx := readingContext l tokens (ts ++ more)
  ctx' := readingContext l tokens' (ts ++ more')
  more := more
  more' := more'
  depth := rfl
  stop := kind_stopToken tokens
  ends := hends

/-- When an expression is read and some tokens are left, the tokens in front of these are
read in the same way in front of others that do not continue them. -/
theorem readTokens_of_readTokens (hbody : bodyOf tokens = ts ++ more)
    (hbody' : bodyOf tokens' = ts ++ more')
    (hends : (more'.headD (stopToken tokens')).kind ≠ .dot ∧
      operatorOf? (more'.headD (stopToken tokens')) = none)
    (hresult : (readTokens l tokens).result = .ok (some x))
    (hrest : (readTokens l tokens).rest = more) :
    ts ≠ [] ∧ readTokens l tokens' = ⟨(readTokens l tokens).findings, more', .ok (some x)⟩ := by
  let e := endingsOf l tokens tokens' ts more more' hends
  have hread : readTokens l tokens = expression e.ctx (ts ++ more) := by
    rw [readTokens, hbody]
    rfl
  have hread' : readTokens l tokens' = expression e.ctx' (ts ++ more') := by
    rw [readTokens, hbody']
    rfl
  rw [hread] at hresult hrest
  have hgives : Gives expression e.ctx (ts ++ e.more) (some x) ([] ++ e.more) :=
    ⟨hresult, hrest⟩
  have hbounds : e.Bounds ts :=
    ⟨Nat.lt_succ_of_le (List.sublist_append_left ts more).length_le,
      Nat.lt_succ_of_le (List.sublist_append_left ts more').length_le⟩
  constructor
  · rintro rfl
    exact not_gives_expression hgives
  · rw [hread, hread']
    exact (FramedSome.expression hbounds).same (some x) [] rfl hgives

/-- What reading leaves are the last tokens, and what it notes on the way is no fault behind
an expression. -/
theorem readTokens_rest (l : Limits) (tokens : List Token) :
    (readTokens l tokens).rest <:+ bodyOf tokens ∧
      ∀ f ∈ faults (readTokens l tokens).findings, ∀ found, f.error ≠ .trailing found := by
  have hterms : ReadsTerms (readingContext l tokens (bodyOf tokens)) expression (bodyOf tokens) :=
    readsTerms_expression (kind_stopToken tokens) (bodyOf tokens)
  obtain ⟨attempts, hattempts, hfaults⟩ := hterms
  refine ⟨hattempts.suffix, fun f hf => ?_⟩
  rw [readTokens, hfaults] at hf
  exact (hattempts.blames (List.reduceOption_mem_iff.mp hf)).notTrailing

/-! ## Verdicts -/

/-- A verdict on tokens of which the first ones are a rule, and the next one begins
something else.  Besides earlier errors there is one error, at that token; the expression
and the remarks are those of the rule. -/
structure Verdict.TrailsBehind (v rule : Verdict) (earlier : List Diagnostic) (t : Token) :
    Prop where
  valid : rule.isValid = true
  ast : ∃ e, rule.ast = some e ∧ v.ast = some e
  warnings : v.warnings = rule.warnings
  errors : v.errors = earlier ++ [Fault.diagnostic ⟨.trailing t.describe, t⟩]

/-- The verdicts on tokens that are read in the same way up to a token. -/
theorem trailsBehind_of_readTokens {earlier : List Diagnostic} {found : List Finding}
    {stop t : Token} {us : List Token} (hl : l.expired = false)
    (hearlier : ∀ d ∈ earlier, d.isError = true) (hrule : bodyOf (ts ++ [stop]) ≠ [])
    (hbody : bodyOf tokens ≠ [])
    (hreadRule : readTokens l (ts ++ [stop]) = ⟨found, [], .ok (some x)⟩)
    (hread : readTokens l tokens = ⟨found, t :: us, .ok (some x)⟩) :
    (checkTokens l earlier tokens).TrailsBehind (checkTokens l [] (ts ++ [stop])) earlier t := by
  have hclean : faults found = [] := by
    have hhonest := HonestOption.expression (readingContext l tokens (bodyOf tokens)) (bodyOf tokens)
    rw [← readTokens, hread] at hhonest
    exact faults_eq_nil_iff.mpr (hhonest.mp ⟨x, rfl⟩)
  have hwarnings : earlier.filter (fun d => !d.isError) = [] :=
    List.filter_eq_nil_iff.mpr fun d hd => by simp [hearlier d hd]
  have hnone : Outcome.allFaults ⟨found, [], .ok (some x)⟩ = [] := by
    rw [Outcome.allFaults, hclean]
    rfl
  have hone : Outcome.allFaults ⟨found, t :: us, .ok (some x)⟩ = [⟨.trailing t.describe, t⟩] := by
    rw [Outcome.allFaults, hclean]
    rfl
  rw [checkTokens_eq_readTokens earlier hl hbody, checkTokens_eq_readTokens [] hl hrule,
    hreadRule, hread, hnone, hone, hwarnings, List.filter_eq_self.mpr hearlier]
  exact ⟨rfl, ⟨x, rfl, rfl⟩, rfl, rfl⟩

/-- The verdict on a rule with tokens behind it that do not continue it. -/
theorem trailsBehind_append {stop t : Token} (us : List Token) (hl : l.expired = false)
    (hts : ∀ s ∈ ts, s.kind ≠ .eof) (hstop : stop.kind = .eof)
    (hkind : t.kind ∉ [.and, .or, .dot, .eof])
    (hvalid : (checkTokens l [] (ts ++ [stop])).isValid = true) :
    (checkTokens l [] (ts ++ t :: us)).TrailsBehind (checkTokens l [] (ts ++ [stop])) [] t := by
  obtain ⟨hand, hor, hdot, heof⟩ :
      t.kind ≠ .and ∧ t.kind ≠ .or ∧ t.kind ≠ .dot ∧ t.kind ≠ .eof := by
    simpa using hkind
  have hoperator : operatorOf? t = none :=
    Option.not_isSome_iff_eq_none.mp fun h => (isSome_operatorOf?_iff.mp h).elim hand hor
  have hrule : bodyOf (ts ++ [stop]) = ts ++ [] := by
    rw [bodyOf_append hts hstop, List.append_nil]
  have hbody : bodyOf (ts ++ t :: us) = ts ++ t :: bodyOf us := by
    have hcons : bodyOf ([t] ++ us) = [t] ++ bodyOf us :=
      bodyOf_append_of_forall (List.forall_mem_singleton.mpr heof)
    rw [bodyOf_append_of_forall hts, ← List.singleton_append, hcons]
    rfl
  obtain ⟨x, hresult, hrest⟩ := exists_readTokens_of_isValid hl hvalid
  obtain ⟨-, hread⟩ := readTokens_of_readTokens hrule hbody ⟨hdot, hoperator⟩ hresult hrest
  have hreadRule : readTokens l (ts ++ [stop]) =
      ⟨(readTokens l (ts ++ [stop])).findings, [], .ok (some x)⟩ :=
    Gives.run ⟨hresult, hrest⟩
  refine trailsBehind_of_readTokens hl nofun (bodyOf_ne_nil_of_isValid hvalid) ?_ hreadRule hread
  rw [hbody]
  exact List.append_ne_nil_of_right_ne_nil _ (List.cons_ne_nil _ _)

/-- Behind lexical errors, an error about a token behind an expression is the one that
reading the tokens ends with. -/
theorem exists_trailing_of_mem_errors {lexing : Limits} {source : String} {d : Diagnostic}
    (hl : l.expired = false)
    (hd : d ∈ (checkTokens l (tokenize lexing source).errors tokens).errors)
    (htrailing : d.IsTrailing) :
    ∃ x t us, bodyOf tokens ≠ [] ∧ (readTokens l tokens).result = .ok (some x) ∧
      (readTokens l tokens).rest = t :: us ∧ d = Fault.diagnostic ⟨.trailing t.describe, t⟩ := by
  have hlexical (hmem : d ∈ (tokenize lexing source).errors) : False :=
    (isLexical_of_mem_errors lexing source d hmem).not_isTrailing htrailing
  by_cases hbody : bodyOf tokens = []
  · rw [checkTokens_of_bodyOf_eq_nil _ hbody] at hd
    split at hd
    next =>
      obtain rfl := List.mem_singleton.mp hd
      obtain ⟨found, hmessage⟩ := htrailing
      exact absurd hmessage (ParseError.message_ne_trailing (e := .empty) nofun found)
    next => exact (hlexical (List.mem_of_mem_filter hd)).elim
  · rw [checkTokens_eq_readTokens _ hl hbody] at hd
    rcases List.mem_append.mp hd with hmem | hmem
    · exact (hlexical (List.mem_of_mem_filter hmem)).elim
    obtain ⟨f, hf, rfl⟩ := List.mem_map.mp hmem
    rcases List.mem_append.mp hf with hf | hf
    · exact absurd htrailing (Fault.not_isTrailing ((readTokens_rest l tokens).2 f hf))
    · obtain ⟨x, t, us, hresult, hrest, rfl⟩ := Outcome.eq_of_mem_trailing hf
      exact ⟨x, t, us, hbody, hresult, hrest, rfl⟩

/-- Tokens behind a rule never change what was read.  When tokens are a rule, one behind
them that does not continue it adds one error, at that token, whatever follows it.  When a
verdict has an error about a token behind an expression, the tokens in front of that token
are a rule, with the same expression and the same remarks. -/
theorem checkTokens_trailing (l : Limits) (hl : l.expired = false) :
    (∀ (ts : List Token) (stop t : Token) (us : List Token),
      (∀ s ∈ ts, s.kind ≠ .eof) → stop.kind = .eof → t.kind ∉ [.and, .or, .dot, .eof] →
      (checkTokens l [] (ts ++ [stop])).isValid = true →
      (checkTokens l [] (ts ++ t :: us)).TrailsBehind (checkTokens l [] (ts ++ [stop])) [] t) ∧
    ∀ (lexing : Limits) (source : String) (tokens : List Token),
      let earlier := (tokenize lexing source).errors
      ∀ d ∈ (checkTokens l earlier tokens).errors, d.IsTrailing →
        ∃ ts t us, tokens = ts ++ t :: us ∧ (∀ s ∈ ts, s.kind ≠ .eof) ∧
          d = Fault.diagnostic ⟨.trailing t.describe, t⟩ ∧
          ∀ stop, stop.kind = .eof → (checkTokens l earlier tokens).TrailsBehind
            (checkTokens l [] (ts ++ [stop])) earlier t := by
  refine ⟨fun ts stop t us hts hstop hkind hvalid =>
    trailsBehind_append us hl hts hstop hkind hvalid, ?_⟩
  intro lexing source tokens earlier d hd htrailing
  obtain ⟨x, t, us, hne, hresult, hrest, rfl⟩ := exists_trailing_of_mem_errors hl hd htrailing
  obtain ⟨ts, hbody⟩ := (readTokens_rest l tokens).1
  rw [hrest] at hbody
  have hts : ∀ s ∈ ts, s.kind ≠ .eof := fun s hs =>
    kind_of_mem_bodyOf (hbody ▸ List.mem_append_left _ hs)
  refine ⟨ts, t, us ++ tokens.dropWhile (·.kind ≠ .eof), ?_, hts, rfl, fun stop hstop => ?_⟩
  · rw [← List.cons_append, ← List.append_assoc, hbody]
    exact List.takeWhile_append_dropWhile.symm
  · have hrule : bodyOf (ts ++ [stop]) = ts := bodyOf_append hts hstop
    have hrule' : bodyOf (ts ++ [stop]) = ts ++ [] := by rw [hrule, List.append_nil]
    have hkind : (stopToken (ts ++ [stop])).kind = .eof := kind_stopToken _
    have hends : (stopToken (ts ++ [stop])).kind ≠ .dot ∧
        operatorOf? (stopToken (ts ++ [stop])) = none := by
      rw [hkind]
      exact ⟨by decide, operatorOf?_eq_none_of_eof hkind⟩
    obtain ⟨hnil, hreadRule⟩ := readTokens_of_readTokens hbody.symm hrule' hends hresult hrest
    exact trailsBehind_of_readTokens hl (isError_of_mem_errors lexing source) (by rwa [hrule]) hne
      hreadRule (Gives.run ⟨hresult, hrest⟩)

/-- A clause that lacks its dot stands behind a rule with a remark. -/
theorem checkTokens_trailing_where :
    let source := "trace.has(ab) or trace.has(cd) where (x)"
    let tokens := (tokenize {} source).tokens
    let ts := tokens.take 13
    let stop := Token.eof 1 31
    let t : Token := ⟨.where, "where", 1, 32, 5⟩
    let us := tokens.drop 14
    let d := Fault.diagnostic ⟨.trailing t.describe, t⟩
    let earlier := (tokenize {} source).errors
    ({} : Limits).expired = false ∧
      ((∀ s ∈ ts, s.kind ≠ .eof) ∧ stop.kind = .eof ∧ t.kind ∉ [.and, .or, .dot, .eof] ∧
        (checkTokens {} [] (ts ++ [stop])).isValid = true ∧
        (checkTokens {} [] (ts ++ t :: us)).TrailsBehind (checkTokens {} [] (ts ++ [stop])) [] t) ∧
      d ∈ (checkTokens {} earlier tokens).errors ∧ d.IsTrailing ∧
        ∃ ts t us, tokens = ts ++ t :: us ∧ (∀ s ∈ ts, s.kind ≠ .eof) ∧
          d = Fault.diagnostic ⟨.trailing t.describe, t⟩ ∧
          ∀ stop, stop.kind = .eof → (checkTokens {} earlier tokens).TrailsBehind
            (checkTokens {} [] (ts ++ [stop])) earlier t := by
  intro source tokens ts stop t us d earlier
  have htheorem := checkTokens_trailing {} rfl
  have hts : ∀ s ∈ ts, s.kind ≠ .eof := by decide +kernel
  have hkind : t.kind ∉ [.and, .or, .dot, .eof] := by decide
  have hvalid : (checkTokens {} [] (ts ++ [stop])).isValid = true := by decide +kernel
  have hd : d ∈ (checkTokens {} earlier tokens).errors := by decide +kernel
  have htrailing : d.IsTrailing := ⟨t.describe, rfl⟩
  exact ⟨rfl, ⟨hts, rfl, hkind, hvalid, htheorem.1 ts stop t us hts rfl hkind hvalid⟩, hd,
    htrailing, htheorem.2 {} source tokens d hd htrailing⟩

end TraceCheck
