import TraceCheck.Proofs.Pattern.Places

/-!
# How reading a regular expression moves on

Each step of reading follows its own definition with the rules for places.  Numbers, brackets
and names lead from places that are not escaped to such places; an escape starts behind its
backslash.  What is read between two parentheses leads from one such place to another, for
every character that it may begin with.
-/

namespace TraceCheck.Regex

open TraceCheck.Text

variable {text : List Char} {c : Char} {P : State → Prop}

/-! ## Numbers -/

theorem advances_decimalDigits (fuel : Nat) : Advances (decimalDigits fuel) := by
  induction fuel with
  | zero => exact advances_pure []
  | succ fuel ih =>
      intro text
      refine Ensures.of_peek (fun c => ?_) (advances_pure [] text)
      refine Ensures.ite (fun hdigit => ?_) fun _ => (advances_pure []).of_next
      have hc : c ≠ '\\' := by
        rintro rfl
        exact absurd hdigit (by decide)
      refine (bumpAndBlanks_of_next hc).bind fun _ => ?_
      exact (ih text).bind fun ds => advances_pure (c :: ds) text

theorem advances_decimal : Advances decimal := by
  intro text
  refine (advances_passBlanks text).bind fun _ => ?_
  refine Ensures.of_get fun s _ => ?_
  refine (advances_decimalDigits s.rest.length text).bind fun ds => ?_
  refine (advances_passBlanks text).bind fun _ => ?_
  refine Ensures.ite (fun _ => advances_pure _ text) fun _ => ?_
  exact Ensures.ite (fun _ => advances_pure _ text) fun _ => advances_pure _ text

theorem advances_isGreedy : Advances isGreedy := by
  intro text
  refine Ensures.of_isNext (c := '?') ?_ (advances_pure true text)
  exact (bump_of_next (by decide)).bind fun _ => advances_pure false text

theorem advances_liftExcept (r : Except SyntaxError Nat) : Advances (counts.liftExcept r) := by
  cases r with
  | ok n => exact advances_pure n
  | error e => exact advances_throw e

/-- The counts of a repetition, whose brace is passed in one way or another. -/
theorem ensures_counts (hfirst : Ensures P bumpAndBlanks fun _ => Past text) :
    Ensures P counts fun _ => Past text := by
  refine hfirst.bind fun _ => ?_
  refine (Ensures.of_unlessEnd _).bind fun _ => ?_
  refine (advances_decimal text).bind fun first => ?_
  refine (Ensures.of_unlessEnd _).bind fun _ => ?_
  refine Ensures.bind (Q := fun _ => Past text) ?_ fun range => ?_
  · refine Ensures.of_isNext ?_ ?_
    · refine (bumpAndBlanks_of_next (by decide)).bind fun _ => ?_
      refine (Ensures.of_unlessEnd _).bind fun _ => ?_
      refine Ensures.of_isNext ?_ ?_
      · exact ((advances_liftExcept first).of_next).bind fun least => advances_pure _ text
      · refine (advances_liftExcept first text).bind fun least => ?_
        refine (advances_decimal text).bind fun second => ?_
        exact (advances_liftExcept second text).bind fun most => advances_pure _ text
    · exact (advances_liftExcept first text).bind fun n => advances_pure _ text
  · refine Ensures.of_isNext ?_ ?_
    · refine Ensures.unless_throw fun _ => ?_
      refine (bumpAndBlanks_of_next (by decide)).bind fun _ => ?_
      refine (advances_isGreedy text).bind fun greedy => ?_
      exact Ensures.unless_throw fun _ => advances_pure _ text
    · exact Ensures.unless_throw fun h => absurd rfl h

/-! ## Escapes -/

theorem advances_hexCharacter (ds : List Char) (asByte : Bool) :
    Advances (hexCharacter ds asByte) := by
  intro text
  unfold hexCharacter
  split
  · exact Ensures.ite (fun _ => advances_pure _ text) fun _ => advances_throw _ text
  · exact advances_throw _ text

theorem ne_backslash_of_hexValue? (h : ¬ (hexValue? c).isNone = true) : c ≠ '\\' := by
  rintro rfl
  exact h (by decide)

theorem advances_hexDigits (count : Nat) : Advances (hexDigits count) := by
  induction count with
  | zero => exact advances_pure []
  | succ count ih =>
      intro text
      refine (Ensures.of_nextOr _).bind fun c => Ensures.unless_throw fun hdigit => ?_
      refine (bumpAndBlanks_of_next (ne_backslash_of_hexValue? hdigit)).bind fun _ => ?_
      exact (ih text).bind fun ds => advances_pure (c :: ds) text

theorem advances_hexInBraces (fuel : Nat) : Advances (hexInBraces fuel) := by
  induction fuel with
  | zero => exact advances_throw _
  | succ fuel ih =>
      intro text
      refine (Ensures.of_nextOr _).bind fun c => Ensures.ite (fun hbrace => ?_) fun _ => ?_
      · refine (bumpAndBlanks_of_next ?_).bind fun _ => advances_pure [] text
        rw [hbrace]
        decide
      · refine Ensures.unless_throw fun hdigit => ?_
        refine (bumpAndBlanks_of_next (ne_backslash_of_hexValue? hdigit)).bind fun _ => ?_
        exact (ih text).bind fun ds => advances_pure (c :: ds) text

theorem ensures_hexEscape (kind : Char) :
    Ensures (Pending text) (hexEscape kind) fun _ => Past text := by
  refine bumpAndBlanks_of_pending.bind fun _ => ?_
  refine (Ensures.of_nextOr _).bind fun c => Ensures.ite (fun hbrace => ?_) fun _ => ?_
  · have hc : c ≠ '\\' := by
      rw [hbrace]
      decide
    refine (bumpAndBlanks_of_next hc).bind fun _ => Ensures.of_get fun s _ => ?_
    refine (advances_hexInBraces (s.rest.length + 1) text).bind fun ds => ?_
    exact Ensures.unless_throw fun _ => advances_hexCharacter ds false text
  · refine ((advances_hexDigits _).of_next).bind fun ds => ?_
    exact advances_hexCharacter ds _ text

/-- What stands in braces may be anything up to the closing one. -/
theorem ensures_nameInBraces (fuel : Nat) :
    Ensures (Within text) (nameInBraces fuel) fun _ s =>
      Within text s ∧ s.rest.head? = some '\x7d' := by
  induction fuel with
  | zero => exact Ensures.of_throw _
  | succ fuel ih =>
      refine (Ensures.of_nextOr _).bind fun c => Ensures.ite (fun hbrace => ?_) fun _ => ?_
      · exact Ensures.of_pure fun s hs => hbrace ▸ hs
      · refine (bumpAndBlanks_within.mono fun _ hs => hs.1).bind fun _ => ?_
        exact ih.bind fun cs => Ensures.of_pure fun _ hs => hs

theorem ensures_propertyClass : Ensures (Pending text) propertyClass fun _ => Past text := by
  refine bumpAndBlanks_of_pending.bind fun _ => ?_
  refine (Ensures.of_nextOr _).bind fun c => Ensures.ite (fun hbrace => ?_) fun _ => ?_
  · have hc : c ≠ '\\' := by
      rw [hbrace]
      decide
    refine (bumpAndBlanks_of_next hc).bind fun _ => Ensures.of_get fun s _ => ?_
    refine ((ensures_nameInBraces _).mono fun _ hs => hs.within).bind fun name => ?_
    exact (ensures_bump (by decide)).bind fun _ => advances_pure _ text
  · refine Ensures.ite (fun _ => Ensures.of_throw _) fun hc => ?_
    exact (bumpAndBlanks_of_next hc).bind fun _ => advances_pure _ text

theorem ne_backslash_of_isBoundaryChar (h : isBoundaryChar c = true) : c ≠ '\\' := by
  rintro rfl
  exact absurd h (by decide)

theorem advances_boundaryName (fuel : Nat) : Advances (boundaryName fuel) := by
  induction fuel with
  | zero => exact advances_pure []
  | succ fuel ih =>
      intro text
      refine Ensures.of_peek (fun c => ?_) (advances_pure [] text)
      refine Ensures.ite (fun hletter => ?_) fun _ => (advances_pure []).of_next
      refine (bumpAndBlanks_of_next (ne_backslash_of_isBoundaryChar hletter)).bind fun _ => ?_
      exact (ih text).bind fun cs => advances_pure (c :: cs) text

theorem advances_wordBoundary : Advances wordBoundary := by
  intro text
  refine Ensures.of_isNext (c := '\x7b') ?_ ?_
  · refine Ensures.ite (fun h => absurd h (by decide)) fun _ => Ensures.of_get fun before hs => ?_
    refine (bumpAndBlanks_of_next (by decide)).bind fun _ => ?_
    refine (Ensures.of_nextOr _).bind fun c => Ensures.ite (fun _ => ?_) fun _ => ?_
    · exact (Ensures.of_set hs.1).bind fun _ => advances_pure _ text
    · refine Ensures.of_get fun s _ => ?_
      refine ((advances_boundaryName _).of_next).bind fun name => Ensures.of_isNext ?_ ?_
      · refine Ensures.unless_throw fun _ => (bump_of_next (by decide)).bind fun _ => ?_
        split
        · exact advances_pure _ text
        · exact advances_pure _ text
        · exact advances_pure _ text
        · exact advances_pure _ text
        · exact advances_throw _ text
      · exact Ensures.unless_throw fun h => absurd rfl h
  · exact Ensures.ite (fun _ => advances_pure _ text) fun h => absurd rfl h

/-- An escape is behind one backslash, which it passes together with what this escapes. -/
theorem ensures_escape : Ensures (Next text '\\') escape fun _ => Past text := by
  have hbackslash : Ensures (Next text '\\') bump fun _ => Pending text :=
    Ensures.of_modify fun _ hs => hs.pending_tail rfl
  have hclass (a : Ast) : Ensures (Pending text) (bump >>= fun _ => pure a) fun _ => Past text :=
    bump_of_pending.bind fun _ => advances_pure a text
  refine hbackslash.bind fun _ => ?_
  refine (Ensures.of_nextOr _).bind fun c => ?_
  suffices hkind : Ensures (Pending text) _ fun _ => Past text from hkind.mono fun _ h => h.1
  split
  · exact (ensures_hexEscape _).bind fun x => advances_pure _ text
  · exact (ensures_hexEscape _).bind fun x => advances_pure _ text
  · exact (ensures_hexEscape _).bind fun x => advances_pure _ text
  · exact ensures_propertyClass.bind fun query => advances_pure _ text
  · exact ensures_propertyClass.bind fun query => advances_pure _ text
  · exact hclass _
  · exact hclass _
  · exact hclass _
  · exact hclass _
  · exact hclass _
  · exact hclass _
  · refine Ensures.unless_throw fun _ => bump_of_pending.bind fun _ => ?_
    refine Ensures.ite (fun _ => advances_pure _ text) fun _ => ?_
    split
    · exact advances_pure _ text
    split
    · exact advances_pure _ text
    · exact advances_pure _ text
    · exact (advances_wordBoundary text).bind fun a => advances_pure _ text
    · exact advances_pure _ text
    · exact advances_pure _ text
    · exact advances_pure _ text
    · exact advances_throw _ text

/-! ## Brackets -/

/-- A class with a name ends in a bracket; where none comes next, nothing is passed. -/
theorem ensures_asciiClass? :
    Ensures (Next text c) asciiClass? fun item s =>
      (item.isSome = true → Past text s) ∧ (item = none → Next text c s) := by
  refine Ensures.of_get fun s hs => ?_
  have hnone : Ensures (Next text c) (pure none : Parser (Option SetItem)) fun item s =>
      (item.isSome = true → Past text s) ∧ (item = none → Next text c s) :=
    Ensures.of_pure fun _ hs => ⟨nofun, fun _ => hs⟩
  have hsome {behind rest inside : List Char} {item : SetItem}
      (hrest : s.rest = '[' :: ':' :: rest) (hinside : inside <:+ rest)
      (hclose : inside.dropWhile (· != ':') = ':' :: ']' :: behind) :
      Ensures (Next text c)
        (do set { s with rest := behind }; pure (some item) : Parser (Option SetItem))
        fun item s => (item.isSome = true → Past text s) ∧ (item = none → Next text c s) := by
    have hpast : Past text { s with rest := behind } := by
      refine hs.1.within.past_behind (c := ']') ?_ (by decide)
      have hname : ':' :: ']' :: behind <:+ inside := hclose ▸ List.dropWhile_suffix _
      rw [hrest]
      exact (List.suffix_cons ':' _).trans (hname.trans (hinside.trans
        ((List.suffix_cons ':' _).trans (List.suffix_cons '[' _))))
    exact (Ensures.of_set hpast).bind fun _ => Ensures.of_pure fun _ hs => ⟨fun _ => hs, nofun⟩
  split
  · next rest hrest =>
      dsimp only
      split
      · next behind hclose =>
          refine Ensures.ite (fun _ => hsome hrest ?_ hclose) fun _ => hnone
          split
          · exact List.suffix_cons '^' _
          · exact List.suffix_refl _
      · exact hnone
  · exact hnone

theorem advances_setPrimitive : Advances setPrimitive := by
  intro text
  refine Ensures.of_peek (fun c => ?_) (advances_throw _ text)
  split
  · next heq =>
      cases heq
      exact ensures_escape
  · next hne heq =>
      cases heq
      exact (bump_of_next fun hc => hne (hc ▸ rfl)).bind fun _ => advances_pure _ text
  · next heq => cases heq

theorem advances_itemOf (a : Ast) : Advances (itemOf a) := by
  intro text
  unfold itemOf
  split
  · exact advances_pure _ text
  · exact advances_pure _ text
  · exact advances_pure _ text
  · exact advances_throw _ text

theorem advances_endOf (a : Ast) : Advances (endOf a) := by
  intro text
  unfold endOf
  split
  · exact advances_pure _ text
  · exact advances_throw _ text

theorem peekSecond?_keeps : Ensures P peekSecond? fun _ => P := by
  refine Ensures.of_get fun s _ => ?_
  have hkeep (o : Option Char) : Ensures P (pure o) fun _ => P :=
    Ensures.of_pure fun _ hs => hs
  refine Ensures.ite (fun _ => ?_) fun _ => hkeep _
  dsimp only
  split
  · exact hkeep _
  · exact hkeep _
  · exact hkeep _

theorem advances_setRange : Advances setRange := by
  intro text
  refine (advances_setPrimitive text).bind fun first => ?_
  refine (advances_bumpBlanks text).bind fun _ => ?_
  refine (Ensures.of_unlessEnd _).bind fun _ => ?_
  refine peekSecond?_keeps.bind fun second => ?_
  refine Ensures.of_isNext (c := '-') ?_ ?_
  · refine Ensures.ite (fun _ => (advances_itemOf first).of_next) fun _ => ?_
    refine (bumpAndBlanks_of_next (by decide)).bind fun _ => ?_
    refine (Ensures.of_unlessEnd _).bind fun _ => ?_
    refine (advances_setPrimitive text).bind fun last => ?_
    refine (advances_endOf first text).bind fun a => ?_
    refine (advances_endOf last text).bind fun b => ?_
    exact Ensures.unless_throw fun _ => advances_pure _ text
  · exact Ensures.ite (fun _ => advances_itemOf first text) fun h => absurd rfl h

theorem advances_openingDashes (fuel : Nat) : Advances (openingDashes fuel) := by
  induction fuel with
  | zero => exact advances_pure []
  | succ fuel ih =>
      intro text
      refine Ensures.of_isNext (c := '-') ?_ (advances_pure [] text)
      refine (bumpAndBlanks_of_next (by decide)).bind fun _ => ?_
      refine (Ensures.of_unlessEnd _).bind fun _ => ?_
      exact (ih text).bind fun items => advances_pure _ text

theorem advances_firstItems : Advances firstItems := by
  intro text
  refine Ensures.of_get fun s _ => ?_
  refine (advances_openingDashes _ text).bind fun dashes => ?_
  refine Ensures.of_isNext (c := ']') ?_ ?_
  · refine Ensures.ite (fun _ => ?_) fun _ => (advances_pure dashes).of_next
    refine (bumpAndBlanks_of_next (by decide)).bind fun _ => ?_
    exact (Ensures.of_unlessEnd _).bind fun _ => advances_pure _ text
  · refine Ensures.ite (fun h => ?_) fun _ => advances_pure dashes text
    rw [Bool.and_false] at h
    cases h

/-- The start of a bracket, whose first character is passed in one way or another. -/
theorem ensures_openBracket (hfirst : Ensures P bumpAndBlanks fun _ => Past text) :
    Ensures P openBracket fun _ => Past text := by
  have hitems (negated : Bool) : Advances (firstItems >>= fun items => pure (negated, items)) :=
    fun text => (advances_firstItems text).bind fun items => advances_pure _ text
  refine hfirst.bind fun _ => (Ensures.of_unlessEnd _).bind fun _ => ?_
  refine Ensures.of_isNext (c := '^') ?_ (hitems false text)
  refine (bumpAndBlanks_of_next (by decide)).bind fun _ => ?_
  exact (Ensures.of_unlessEnd _).bind fun _ => hitems true text

theorem advances_bracketRest (fuel : Nat) (left : Option (SetOperator × SetContent))
    (items : List SetItem) : Advances (bracketRest fuel left items) := by
  induction fuel generalizing left items with
  | zero => exact advances_throw _
  | succ fuel ih =>
      intro text
      refine (advances_bumpBlanks text).bind fun _ => (Ensures.of_unlessEnd _).bind fun _ => ?_
      refine Ensures.of_isNext (c := '[') ?_ ?_
      · refine ensures_asciiClass?.bind fun item => ?_
        cases item with
        | some item => exact (ih left (item :: items) text).mono fun _ hs => hs.1 rfl
        | none =>
            have hfirst : Ensures (Next text '[') bumpAndBlanks fun _ => Past text :=
              bumpAndBlanks_of_next (by decide)
            refine ((ensures_openBracket hfirst).mono fun _ hs => hs.2 rfl).bind fun start => ?_
            refine (ih none _ text).bind fun inner => ?_
            exact ih left _ text
      · refine Ensures.of_isNext (c := ']') ?_ ?_
        · exact (bump_of_next (by decide)).bind fun _ => advances_pure _ text
        · refine advances_ifMark (by decide) (ih _ []) ?_ text
          refine advances_ifMark (by decide) (ih _ []) ?_
          refine advances_ifMark (by decide) (ih _ []) fun text => ?_
          exact (advances_setRange text).bind fun item => ih left _ text

/-- A bracket, whose first character is passed in one way or another. -/
theorem ensures_bracket (hfirst : Ensures P bumpAndBlanks fun _ => Past text) :
    Ensures P bracket fun _ => Past text := by
  refine (ensures_openBracket hfirst).bind fun start => ?_
  refine Ensures.of_get fun s _ => ?_
  exact (advances_bracketRest _ none _ text).bind fun content => advances_pure _ text

/-! ## Groups -/

theorem ne_backslash_of_flagOf? {flag : Flag} (h : flagOf? c = some flag) : c ≠ '\\' := by
  rintro rfl
  cases h

/-- Flags end in front of a colon or a closing parenthesis. -/
theorem ensures_flagLetters (fuel : Nat) (change : FlagChange) (negated dangling : Bool) :
    Ensures (Past text) (flagLetters fuel change negated dangling) fun _ s =>
      Next text ':' s ∨ Next text ')' s := by
  induction fuel generalizing change negated dangling with
  | zero => exact Ensures.of_throw _
  | succ fuel ih =>
      refine (Ensures.of_nextOr _).bind fun c => Ensures.ite (fun hend => ?_) fun _ => ?_
      · refine Ensures.unless_throw fun _ => Ensures.of_pure fun s hs => ?_
        rcases hend with rfl | rfl
        · exact .inl hs
        · exact .inr hs
      refine Ensures.ite (fun hdash => ?_) fun _ => ?_
      · have hc : c ≠ '\\' := by
          rw [hdash]
          decide
        refine Ensures.unless_throw fun _ => (bump_of_next hc).bind fun _ => ?_
        exact (Ensures.of_unlessEnd _).bind fun _ => ih change true true
      · split
        · exact Ensures.of_throw _
        · next flag hflag =>
            refine Ensures.unless_throw fun _ => ?_
            refine (bump_of_next (ne_backslash_of_flagOf? hflag)).bind fun _ => ?_
            exact (Ensures.of_unlessEnd _).bind fun _ => ih _ negated false

/-- A name ends in front of its closing angle. -/
theorem ensures_groupName (fuel : Nat) (first : Bool) :
    Ensures (Within text) (groupName fuel first) fun _ s =>
      Within text s ∧ s.rest.head? = some '>' := by
  induction fuel generalizing first with
  | zero => exact Ensures.of_throw _
  | succ fuel ih =>
      refine (Ensures.of_nextOr _).bind fun c => Ensures.ite (fun hangle => ?_) fun _ => ?_
      · exact Ensures.of_pure fun s hs => hangle ▸ hs
      · have hbump : Ensures (fun s => Within text s ∧ s.rest.head? = some c) bump fun _ =>
            Within text :=
          Ensures.of_modify fun s hs => (List.tail_suffix s.rest).trans hs.1
        refine Ensures.unless_throw fun _ => hbump.bind fun _ => ?_
        exact (ih false).bind fun cs => Ensures.of_pure fun _ hs => hs

theorem advances_namedGroup : Advances namedGroup := by
  intro text
  refine Ensures.of_get fun s _ => ?_
  refine ((ensures_groupName _ true).mono fun _ hs => hs.within).bind fun name => ?_
  refine (ensures_bump (by decide)).bind fun _ => Ensures.unless_throw fun _ => ?_
  refine Ensures.of_get fun s hs => Ensures.unless_throw fun _ => ?_
  exact Ensures.of_set hs

/-- The end of flags: a colon, or a parenthesis that closes them. -/
theorem ensures_flagsEnd (change : FlagChange) :
    Ensures (fun s => Next text ':' s ∨ Next text ')' s)
      (do
        let closed ← isNext ')'
        bump
        if closed then
          if change.set.isEmpty && change.clear.isEmpty then throw .repetitionMissing
          return .inr change
        return .inl (.flags change) : Parser (GroupKind ⊕ FlagChange))
      fun start s => Past text s ∧ (start.isRight = true → Closed text s) := by
  refine (Ensures.isNext_tells ')').bind fun closed => ?_
  cases closed with
  | true =>
      have hbump : Ensures
          (fun s => (Next text ':' s ∨ Next text ')' s) ∧ (true = true ↔ s.rest.head? = some ')'))
          bump fun _ => Closed text :=
        Ensures.of_modify fun s hs =>
          Next.closed_tail ⟨hs.1.elim And.left And.left, hs.2.mp rfl⟩ rfl
      refine hbump.bind fun _ => Ensures.unless_throw fun _ => ?_
      exact Ensures.of_pure fun s hs => ⟨hs.past, fun _ => hs⟩
  | false =>
      have hbump : Ensures
          (fun s => (Next text ':' s ∨ Next text ')' s) ∧ (false = true ↔ s.rest.head? = some ')'))
          bump fun _ => Past text := by
        refine (bump_of_next (c := ':') (by decide)).mono fun s hs => ?_
        exact hs.1.resolve_right fun hclose => nomatch hs.2.mpr hclose.2
      exact hbump.bind fun _ => Ensures.of_pure fun s hs => ⟨hs, nofun⟩

/-- The start of a group, behind its parenthesis.  Flags on their own end with a closing one. -/
theorem ensures_openGroup :
    Ensures (fun s => s.rest = '(' :: text) openGroup fun start s =>
      Past text s ∧ (start.isRight = true → Closed text s) := by
  have hcapture : Ensures (Past text) (pure (.inl .capture) : Parser (GroupKind ⊕ FlagChange))
      fun start s => Past text s ∧ (start.isRight = true → Closed text s) :=
    Ensures.of_pure fun s hs => ⟨hs, nofun⟩
  refine bump_of_first.bind fun _ => (advances_bumpBlanks text).bind fun _ => ?_
  refine Ensures.bind (Q := fun _ => Past text) (Ensures.of_forIn fun mark _ => ?_) fun _ => ?_
  · refine (bumpIf_keeps mark).bind fun found => Ensures.unless_throw fun hnot => ?_
    exact Ensures.of_pure fun s hs => hs ((Bool.not_eq_true _).mp hnot)
  · refine (advances_bumpIf (by decide) text).bind fun _ => Ensures.ite (fun _ => ?_) fun _ => ?_
    · exact (advances_namedGroup text).bind fun _ => hcapture
    refine (advances_bumpIf (by decide) text).bind fun _ => Ensures.ite (fun _ => ?_) fun _ => ?_
    · exact (advances_namedGroup text).bind fun _ => hcapture
    refine (advances_bumpIf (by decide) text).bind fun _ =>
      Ensures.ite (fun _ => ?_) fun _ => hcapture
    refine (Ensures.of_unlessEnd _).bind fun _ => Ensures.of_get fun s _ => ?_
    refine (ensures_flagLetters _ _ false false).bind fun change => ?_
    exact ensures_flagsEnd change

/-! ## Parts -/

theorem lastPart_keeps (parts : List Ast) : Ensures P (lastPart parts) fun _ => P := by
  unfold lastPart
  split
  · exact Ensures.of_throw _
  · exact Ensures.of_throw _
  · exact Ensures.of_throw _
  · exact Ensures.of_pure fun _ hs => hs

theorem ensures_repeatLast (hfirst : Ensures P bump fun _ => Past text) (parts : List Ast)
    (least : Nat) (most : Option Nat) :
    Ensures P (repeatLast parts least most) fun _ => Past text := by
  refine (lastPart_keeps parts).bind fun _ => hfirst.bind fun _ => ?_
  exact (advances_isGreedy text).bind fun greedy => advances_pure _ text

theorem ensures_countLast (hfirst : Ensures P bumpAndBlanks fun _ => Past text)
    (parts : List Ast) : Ensures P (countLast parts) fun _ => Past text := by
  refine (lastPart_keeps parts).bind fun _ => (ensures_counts hfirst).bind fun _ => ?_
  exact advances_pure _ text

/-- The characters that repeat what is in front of them. -/
def isOperator (c : Char) : Bool :=
  c == '?' || c == '*' || c == '+' || c == '\x7b'

/-- A part, behind the character that it begins with. -/
theorem ensures_extend (branches parts : List Ast) (c : Char) :
    Ensures (Next text c) (extend branches parts c) fun _ => Past text := by
  have hbump (r : List Ast × List Ast) (hc : c ≠ '\\') :
      Ensures (Next text c) (bump >>= fun _ => pure r) fun _ => Past text :=
    (bump_of_next hc).bind fun _ => advances_pure r text
  have hrepeat (least : Nat) (most : Option Nat) (hc : c ≠ '\\') :
      Ensures (Next text c) (repeatLast parts least most >>= fun parts => pure (branches, parts))
        fun _ => Past text :=
    (ensures_repeatLast (bump_of_next hc) parts least most).bind fun _ => advances_pure _ text
  unfold extend
  split
  · exact hbump _ (by decide)
  · refine (ensures_bracket (bumpAndBlanks_of_next (by decide))).bind fun a => ?_
    exact advances_pure _ text
  · exact hrepeat _ _ (by decide)
  · exact hrepeat _ _ (by decide)
  · exact hrepeat _ _ (by decide)
  · refine (ensures_countLast (bumpAndBlanks_of_next (by decide)) parts).bind fun _ => ?_
    exact advances_pure _ text
  · exact ensures_escape.bind fun a => advances_pure _ text
  · exact hbump _ (by decide)
  · exact hbump _ (by decide)
  · exact hbump _ (by decide)
  · next hbackslash _ _ _ => exact hbump _ hbackslash

/-- An operator leads to the rest behind its first character. -/
theorem ensures_extend_operator (branches parts : List Ast) (hc : isOperator c = true) :
    Ensures (fun s => s.rest = c :: text) (extend branches parts c) fun _ => Past text := by
  have hrepeat (least : Nat) (most : Option Nat) :
      Ensures (fun s => s.rest = c :: text)
        (repeatLast parts least most >>= fun parts => pure (branches, parts))
        fun _ => Past text :=
    (ensures_repeatLast bump_of_first parts least most).bind fun _ => advances_pure _ text
  unfold isOperator at hc
  simp only [Bool.or_eq_true, beq_iff_eq] at hc
  rcases hc with ((rfl | rfl) | rfl) | rfl
  · exact hrepeat 0 (some 1)
  · exact hrepeat 0 none
  · exact hrepeat 1 none
  · exact (ensures_countLast bumpAndBlanks_of_first parts).bind fun _ => advances_pure _ text

end TraceCheck.Regex
