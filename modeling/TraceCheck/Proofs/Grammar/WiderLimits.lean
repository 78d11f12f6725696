import Mathlib.Data.List.Basic
import TraceCheck.Proofs.Grammar.Derivability

/-!
# Wider limits

A rule that is valid within some limits is read in the same way within wider ones.  The
words and strings of a text without errors are not cut, so the tokens are the same; and a
step of reading that noted no error never came to the greatest depth, so it does the same
when that is greater.
-/

namespace TraceCheck

open TraceCheck.Reading

/-- Other limits allow at least as long texts, words and strings and at least as deep
expressions. -/
structure Limits.IsWithin (l wider : Limits) : Prop where
  totalLength : l.maxTotalLength ≤ wider.maxTotalLength
  identifierLength : l.maxIdentifierLength ≤ wider.maxIdentifierLength
  stringLength : l.maxStringLength ≤ wider.maxStringLength
  recursionDepth : l.maxRecursionDepth ≤ wider.maxRecursionDepth

variable {l wider : Limits}

/-! ## Tokens -/

theorem Piece.clean_of_isWithin (h : l.IsWithin wider) {p : Piece} (hp : p.clean l = true) :
    p.clean wider = true := by
  unfold Piece.clean at hp ⊢
  split
  next hword =>
    rw [hword] at hp
    exact decide_eq_true (Nat.le_trans (of_decide_eq_true hp) h.identifierLength)
  next content hstring =>
    rw [hstring] at hp
    exact decide_eq_true (Nat.le_trans (of_decide_eq_true hp) h.stringLength)
  next hopen =>
    rw [hopen] at hp
    exact hp
  next c hstray =>
    rw [hstray] at hp
    exact hp
  next => rfl

/-- A piece that is not too long is the same token within wider limits. -/
theorem Located.token?_of_isWithin (h : l.IsWithin wider) {x : Located}
    (hx : x.piece.clean l = true) : x.token? wider = x.token? l := by
  obtain ⟨lexeme, start, chars⟩ := x
  unfold Located.token?
  cases lexeme with
  | word =>
      have hshort : chars.length ≤ l.maxIdentifierLength := of_decide_eq_true hx
      have hlonger := Nat.le_trans hshort h.identifierLength
      dsimp only
      rw [if_neg (Nat.not_lt.mpr hshort), if_neg (Nat.not_lt.mpr hlonger)]
  | string content =>
      have hshort : content.length ≤ l.maxStringLength := of_decide_eq_true hx
      have hlonger := Nat.le_trans hshort h.stringLength
      dsimp only
      rw [List.take_of_length_le hshort, List.take_of_length_le hlonger]
  | _ => rfl

/-- A text without lexical errors has the same tokens within wider limits. -/
theorem tokenize_of_isWithin (h : l.IsWithin wider) {source : String}
    (hl : l.expired = false) (hwider : wider.expired = false)
    (hlex : (tokenize l source).errors = []) :
    tokenize wider source = tokenize l source := by
  obtain ⟨hsize, hclean⟩ := (tokenize_errors_eq_nil_iff hl).mp hlex
  have hfound : ∀ x ∈ (lexemes source.toList).1, x.piece.clean l = true := by
    rwa [← lexemes_map_piece, List.forall_mem_map] at hclean
  have htokens : (lexemes source.toList).1.filterMap (·.token? wider) =
      (lexemes source.toList).1.filterMap (·.token? l) :=
    List.filterMap_congr fun x hx => Located.token?_of_isWithin h (hfound x hx)
  have herrors (m : Limits) (hm : ∀ x ∈ (lexemes source.toList).1, x.piece.clean m = true) :
      lexicalErrors m (lexemes source.toList).1 none [] = [] :=
    lexicalErrors_eq_nil_iff.mpr ⟨rfl, hm⟩
  rw [tokenize_still, tokenize_still, hl, hwider, if_neg (Nat.not_lt.mpr hsize),
    if_neg (Nat.not_lt.mpr (Nat.le_trans hsize h.totalLength)),
    if_neg (fun hexpired => Bool.false_ne_true hexpired.1),
    if_neg (fun hexpired => Bool.false_ne_true hexpired.1)]
  dsimp only
  rw [htokens, herrors l hfound,
    herrors wider fun x hx => Piece.clean_of_isWithin h (hfound x hx)]

end TraceCheck

namespace TraceCheck.Reading

/-! ## Steps of reading -/

variable {α β : Type}

/-- A step that notes no error does the same when expressions may be deeper. -/
def Step.Steady (p : Step α) : Prop :=
  ∀ ctx ts depth, ctx.maxDepth ≤ depth → noErrors (p ctx ts).findings = true →
    p { ctx with maxDepth := depth } ts = p ctx ts

theorem Steady.bind {p : Step α} {f : α → Step β} (hp : p.Steady) (hf : ∀ a, (f a).Steady) :
    (p >>= f).Steady := by
  intro ctx ts depth hdepth hclean
  change Step.bind p f { ctx with maxDepth := depth } ts = Step.bind p f ctx ts
  change noErrors (Step.bind p f ctx ts).findings = true at hclean
  have hfirst := hp ctx ts depth hdepth
  unfold Step.bind at hclean ⊢
  cases hres : p ctx ts with
  | mk found mid result =>
      rw [hres] at hfirst hclean
      cases result with
      | ok a =>
          dsimp only at hclean hfirst
          rw [noErrors_append, Bool.and_eq_true] at hclean
          rw [hfirst hclean.1]
          dsimp only
          rw [hf a ctx mid depth hdepth hclean.2]
      | error e => rw [hfirst hclean]

theorem Steady.enter (taken : Nat) : (enter taken).Steady := by
  intro ctx ts depth hdepth hclean
  unfold Reading.enter at hclean ⊢
  split at hclean
  · cases hclean
  · next hallowed =>
      have hdeeper : ¬depth ≤ taken := fun h => hallowed (Nat.le_trans hdepth h)
      rw [if_neg hallowed]
      exact if_neg hdeeper

/-- Only entering a level of nesting asks for the greatest depth. -/
theorem Step.Composed.steady {p : Step α} (hp : p.Composed) : p.Steady := by
  induction hp with
  | bind _ _ ihp ihf => exact Steady.bind ihp ihf
  | enter taken => exact Steady.enter taken
  | _ => exact fun _ _ _ _ _ => rfl

theorem Steady.attempt {p : Step α} (hp : p.Steady) : (attempt p).Steady := by
  intro ctx ts depth hdepth hclean
  have hfirst := hp ctx ts depth hdepth
  unfold Reading.attempt at hclean ⊢
  cases hres : p ctx ts with
  | mk found mid result =>
      rw [hres] at hfirst hclean
      cases result with
      | ok a => rw [hfirst hclean]
      | error e =>
          cases e with
          | failed => rw [hfirst hclean]
          | stopped => rw [hfirst hclean]
          | timedOut => rw [hfirst hclean]

theorem Step.Recovering.steady {p : Step α} (hp : p.Recovering) : p.Steady := by
  induction hp with
  | composed hp => exact hp.steady
  | bind _ _ ihp ihf => exact Steady.bind ihp ihf
  | attempt hp => exact Steady.attempt hp.steady

end TraceCheck.Reading

namespace TraceCheck

open TraceCheck.Reading

/-! ## Verdicts -/

variable {l wider : Limits}

/-- Tokens that are accepted have the same verdict when expressions may be deeper. -/
theorem checkTokens_of_isWithin (h : l.IsWithin wider)
    {body : List Token} {line column : Nat} (hl : l.expired = false)
    (hwider : wider.expired = false) (hbody : ∀ t ∈ body, t.WellSpelled)
    (hvalid : (checkTokens l [] (body ++ [.eof line column])).isValid = true) :
    checkTokens wider [] (body ++ [.eof line column]) =
      checkTokens l [] (body ++ [.eof line column]) := by
  have hne : body ≠ [] := by
    rintro rfl
    cases hvalid
  have hdeeper : readingContext wider (body ++ [.eof line column]) body =
      { readingContext l (body ++ [.eof line column]) body with
        maxDepth := wider.maxRecursionDepth } := rfl
  have hclean : noErrors
      (expression (readingContext l (body ++ [.eof line column]) body) body).findings = true := by
    rw [checkTokens_eq hl hbody hne, isValid_ofDiagnostics, noErrors_append,
      Bool.and_eq_true] at hvalid
    exact hvalid.1
  have hout : expression (readingContext wider (body ++ [.eof line column]) body) body =
      expression (readingContext l (body ++ [.eof line column]) body) body := by
    rw [hdeeper]
    exact Step.Recovering.expression.steady _ body wider.maxRecursionDepth h.recursionDepth hclean
  rw [checkTokens_eq hl hbody hne, checkTokens_eq hwider hbody hne, hout]

/-- Raising limits never rejects a rule.  A text that is a valid rule within some limits is
valid within wider ones, and the verdict is the same: the same expression and the same
remarks at the same places. -/
theorem check_of_isWithin (l wider : Limits) (source : String) (h : l.IsWithin wider)
    (hl : l.expired = false) (hwider : wider.expired = false)
    (hvalid : (check l source).isValid = true) :
    (check wider source).isValid = true ∧ check wider source = check l source := by
  have hlex := errors_eq_nil_of_isValid hvalid
  have hlexed := tokenize_of_isWithin h hl hwider hlex
  obtain ⟨body, line, column, htokens, hfatal, hbody, -⟩ := tokenize_of_no_errors hl hlex
  have hcheck := check_eq_checkTokens hfatal hlex htokens
  have hcheckWider : check wider source = checkTokens wider [] (body ++ [.eof line column]) := by
    rw [← hlexed] at hfatal hlex htokens
    exact check_eq_checkTokens hfatal hlex htokens
  have hsame : check wider source = check l source := by
    rw [hcheckWider, hcheck]
    rw [hcheck] at hvalid
    exact checkTokens_of_isWithin h hl hwider hbody hvalid
  exact ⟨hsame ▸ hvalid, hsame⟩

/-- A rule that just fits: its names have as many characters as words may have, its string
as many as strings may have, and it nests as deep as rules may. -/
theorem check_of_isWithin_tight :
    let source := "trace.has(pay).where(kind == \"ab\") or not trace.count(db) > 2000"
    let l : Limits := ⟨64, 5, 2, 2, 1, 1, 1, 1⟩
    l.IsWithin {} ∧ (check l source).isValid = true ∧ (check l source).warnings.length = 4 ∧
      (check {} source).isValid = true ∧ check {} source = check l source := by
  intro source l
  have hwithin : l.IsWithin {} := ⟨by decide, by decide, by decide, by decide⟩
  have hvalid : (check l source).isValid = true := by decide +kernel
  have hremarks : (check l source).warnings.length = 4 := by decide +kernel
  exact ⟨hwithin, hvalid, hremarks, check_of_isWithin l {} source hwithin rfl rfl hvalid⟩

end TraceCheck
