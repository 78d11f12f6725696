import TraceCheck.Proofs.Pattern.Reading

/-!
# The outline of a regular expression

An outline says where the parentheses and the operators of an expression are, and keeps every
character of its text.  It is read in step with the expression, so an expression that can be
read has an outline; its text is that of the expression, and no backslash in front of a part
reaches into the part.
-/

namespace TraceCheck.Regex

/-- What an expression or the body of a group consists of, from left to right.  Flags on their
own are a group without a body. -/
inductive Outline where
  | done
  | plain (chars : List Char) (rest : Outline)
  | operator (mark : Char) (more : List Char) (rest : Outline)
  | group (opening : List Char) (body rest : Outline)

namespace Outline

/-- The characters of an outline. -/
def text : Outline → List Char
  | done => []
  | plain chars rest => chars ++ rest.text
  | operator mark more rest => mark :: more ++ rest.text
  | group opening body rest => '(' :: (opening ++ body.text) ++ ')' :: rest.text

/-- How many pairs of parentheses there are. -/
def pairs : Outline → Nat
  | done => 0
  | plain _ rest => rest.pairs
  | operator _ _ rest => rest.pairs
  | group _ body rest => body.pairs + rest.pairs + 1

/-- How deep pairs of parentheses are nested. -/
def depth : Outline → Nat
  | done => 0
  | plain _ rest => rest.depth
  | operator _ _ rest => rest.depth
  | group _ body rest => max (body.depth + 1) rest.depth

/-- Whether there is a plus sign or a star at any depth. -/
def repeats : Outline → Bool
  | done => false
  | plain _ rest => rest.repeats
  | operator mark _ rest => mark == '+' || mark == '*' || rest.repeats
  | group _ body rest => body.repeats || rest.repeats

/-- Whether a plus sign, a star or a brace comes first. -/
def isRepeated : Outline → Bool
  | operator mark _ _ => mark == '+' || mark == '*' || mark == '\x7b'
  | _ => false

/-- The texts between the parentheses of those groups that are repeated and have a
repetition inside. -/
def nestedRepetitions : Outline → List (List Char)
  | done => []
  | plain _ rest => rest.nestedRepetitions
  | operator _ _ rest => rest.nestedRepetitions
  | group opening body rest =>
    let inner := body.nestedRepetitions ++ rest.nestedRepetitions
    if body.repeats && rest.isRepeated then (opening ++ body.text) :: inner else inner

/-- Blanks in front of an outline. -/
def behind (blanks : List Char) (o : Outline) : Outline :=
  if blanks.isEmpty then o else plain blanks o

/-- A part other than a group, in front of an outline. -/
def part (next : Char) (chars : List Char) (rest : Outline) : Outline :=
  if isOperator next then operator next chars.tail rest else plain chars rest

end Outline

variable {α β γ : Type}

/-- What is passed of a text where reading goes on in a state. -/
def passed (text : List Char) (s : State) : List Char :=
  text.take (text.length - s.rest.length)

/-- A step together with the text that it passes. -/
def taking (p : Parser α) : Parser (α × List Char) := do
  let text := (← get).rest
  let a ← p
  return (a, passed text (← get))

/-- An expression with its outline, up to the end of the text or of its group.  The steps are
those of `expression`. -/
def outlined : (fuel : Nat) → (inGroup : Bool) → (branches parts : List Ast) →
    Parser (Ast × Outline)
  | 0, _, _, _ => throw .groupUnclosed
  | fuel + 1, inGroup, branches, parts => do
    let (_, blanks) ← taking bumpBlanks
    let (ast, o) ← (do
      match ← peek? with
      | none =>
        if inGroup then throw .groupUnclosed
        return (branchesOf branches parts, .done)
      | some c =>
        if c = '(' then
          match ← taking openGroup with
          | (.inr change, opening) =>
            setBlanks change
            let (ast, rest) ← outlined fuel inGroup branches (.flags change :: parts)
            return (ast, .group opening.tail.dropLast .done rest)
          | (.inl kind, opening) =>
            let outer := (← get).ignoreBlanks
            enterGroup kind
            let (body, inner) ← outlined fuel true [] []
            modify fun s => { s with ignoreBlanks := outer }
            let (ast, rest) ← outlined fuel inGroup branches (.group kind body :: parts)
            return (ast, .group opening.tail inner rest)
        else if c = ')' then
          if !inGroup then throw .groupUnopened
          bump
          return (branchesOf branches parts, .done)
        else
          let ((branches, parts), chars) ← taking (extend branches parts c)
          let (ast, rest) ← outlined fuel inGroup branches parts
          return (ast, .part c chars rest))
    return (ast, .behind blanks o)

/-- The outline of the text of a regular expression. -/
def outline (text : List Char) : Except SyntaxError Outline := do
  let ((_, o), _) ← (outlined (2 * text.length + 2) false [] []).run ⟨text, false, []⟩
  return o

/-! ## Reading in step -/

/-- One way to read gives the results of another, and something beside them. -/
def Retraces (q : Parser (α × γ)) (p : Parser α) : Prop :=
  Prod.fst <$> q = p

namespace Retraces

variable {p : Parser α}

theorem of_pure (a : α) (x : γ) : Retraces (pure (a, x)) (pure a) :=
  map_pure _ _

theorem of_throw (e : SyntaxError) : Retraces (throw e : Parser (α × γ)) (throw e) :=
  rfl

theorem of_taking (p : Parser α) : Retraces (taking p) p := by
  funext s
  change (p s >>= fun x => _) >>= _ = p s
  cases p s with
  | error e => rfl
  | ok x => rfl

/-- What stands beside the result has no part in it. -/
theorem bind {q : Parser (α × γ)} {δ : Type} {f : α × γ → Parser (β × δ)} {g : α → Parser β}
    (hq : Retraces q p) (hf : ∀ a x, Retraces (f (a, x)) (g a)) :
    Retraces (q >>= f) (p >>= g) := by
  unfold Retraces at hq
  rw [Retraces, map_bind, ← hq, bind_map_left]
  exact bind_congr fun x => hf x.1 x.2

/-- A step that both take. -/
theorem step {f : α → Parser (β × γ)} {g : α → Parser β} (hf : ∀ a, Retraces (f a) (g a)) :
    Retraces (p >>= f) (p >>= g) := by
  rw [Retraces, map_bind]
  exact bind_congr hf

/-- What comes last changes only what stands beside the result. -/
theorem last {q : Parser (α × γ)} {δ : Type} {f : α × γ → Parser (α × δ)}
    (hq : Retraces q p) (hf : ∀ a x, Retraces (f (a, x)) (pure a)) : Retraces (q >>= f) p := by
  rw [← bind_pure p]
  exact hq.bind hf

theorem ite {i : Prop} [Decidable i] {q q' : Parser (α × γ)} {p' : Parser α}
    (hq : Retraces q p) (hq' : Retraces q' p') :
    Retraces (if i then q else q') (if i then p else p') := by
  split
  · exact hq
  · exact hq'

theorem exists_of_ok {q : Parser (α × γ)} {s t : State} {a : α} (hq : Retraces q p)
    (hrun : p s = .ok (a, t)) : ∃ x, q s = .ok ((a, x), t) := by
  rw [← hq] at hrun
  change (q s >>= fun x => pure (x.1.1, x.2)) = .ok (a, t) at hrun
  cases hres : q s with
  | error e =>
      rw [hres] at hrun
      cases hrun
  | ok x =>
      rw [hres] at hrun
      cases hrun
      exact ⟨x.1.2, rfl⟩

end Retraces

/-- An outline is read by the steps of the expression. -/
theorem retraces_outlined (fuel : Nat) (inGroup : Bool) (branches parts : List Ast) :
    Retraces (outlined fuel inGroup branches parts)
      (expression fuel inGroup branches parts) := by
  induction fuel generalizing inGroup branches parts with
  | zero => exact Retraces.of_throw _
  | succ fuel ih =>
      refine (Retraces.of_taking bumpBlanks).bind fun _ blanks => ?_
      refine Retraces.last (Retraces.step fun next => ?_) fun _ _ => Retraces.of_pure _ _
      cases next with
      | none =>
          exact Retraces.ite (Retraces.step fun _ => Retraces.of_pure _ _) (Retraces.of_pure _ _)
      | some c =>
          refine Retraces.ite ?_ (Retraces.ite ?_ ?_)
          · refine (Retraces.of_taking openGroup).bind fun start opening => ?_
            cases start with
            | inr change =>
                refine Retraces.step fun _ => ?_
                exact (ih inGroup branches _).last fun _ _ => Retraces.of_pure _ _
            | inl kind =>
                refine Retraces.step fun outer => Retraces.step fun _ => ?_
                refine (ih true [] []).bind fun body inner => Retraces.step fun _ => ?_
                exact (ih inGroup branches _).last fun _ _ => Retraces.of_pure _ _
          · refine Retraces.ite (Retraces.step fun _ => ?_) ?_
            · exact Retraces.step fun _ => Retraces.of_pure _ _
            · exact Retraces.step fun _ => Retraces.of_pure _ _
          · refine (Retraces.of_taking _).bind fun extended chars => ?_
            exact (ih inGroup _ _).last fun _ _ => Retraces.of_pure _ _

theorem exists_outline {text : List Char} {ast : Ast} (h : parse text = .ok ast) :
    ∃ o, outline text = .ok o := by
  unfold parse StateT.run at h
  cases hrun : expression (2 * text.length + 2) false [] [] ⟨text, false, []⟩ with
  | error e =>
      rw [hrun] at h
      cases h
  | ok x =>
      obtain ⟨o, houtlined⟩ := (retraces_outlined _ _ _ _).exists_of_ok hrun
      refine ⟨o, ?_⟩
      unfold outline StateT.run
      rw [houtlined]
      rfl

/-! ## The text of an outline -/

namespace Outline

/-- No backslash in front of a part of an outline reaches into it, nor one in front of what is
behind the outline. -/
def WellPlaced (tail : List Char) : Outline → Prop
  | done => True
  | plain chars rest => Settled chars (rest.text ++ tail) ∧ rest.WellPlaced tail
  | operator mark more rest =>
    Settled (mark :: more) (rest.text ++ tail) ∧ rest.WellPlaced tail
  | group opening body rest =>
    endsEscaped opening = false ∧ body.WellPlaced (')' :: rest.text ++ tail) ∧
      rest.WellPlaced tail

/-- A text is that of an outline with something behind it. -/
structure Spells (o : Outline) (tail text : List Char) : Prop where
  text_eq : text = o.text ++ tail
  placed : o.WellPlaced tail

theorem Spells.done (tail : List Char) : Outline.done.Spells tail tail :=
  ⟨rfl, trivial⟩

variable {o body rest : Outline} {u opening tail later : List Char} {c : Char}

theorem Spells.plain (ho : o.Spells tail later) (hu : Settled u later) :
    (Outline.plain u o).Spells tail (u ++ later) := by
  obtain ⟨rfl, hplaced⟩ := ho
  exact ⟨(List.append_assoc _ _ _).symm, hu, hplaced⟩

theorem Spells.behind (ho : o.Spells tail later) (hu : Settled u later) :
    (Outline.behind u o).Spells tail (u ++ later) := by
  unfold Outline.behind
  split
  · next hempty =>
      rw [List.isEmpty_iff.mp hempty]
      exact ho
  · exact ho.plain hu

theorem Spells.operator (ho : o.Spells tail later) (hu : Settled (c :: u) later) :
    (Outline.operator c u o).Spells tail (c :: u ++ later) := by
  obtain ⟨rfl, hplaced⟩ := ho
  exact ⟨(List.append_assoc _ _ _).symm, hu, hplaced⟩

theorem Spells.group (hrest : rest.Spells tail later)
    (hbody : body.Spells (')' :: later) u) (hopening : endsEscaped opening = false) :
    (Outline.group opening body rest).Spells tail ('(' :: (opening ++ u)) := by
  obtain ⟨rfl, hrest⟩ := hrest
  obtain ⟨rfl, hbody⟩ := hbody
  refine ⟨?_, hopening, hbody, hrest⟩
  simp only [Outline.text, List.cons_append, List.append_assoc]

end Outline

/-! ## Passed texts -/

variable {s t : State} {text : List Char} {c : Char}
variable {P : State → Prop} {Q : α → State → Prop}

theorem passed_eq {u : List Char} (h : text = u ++ s.rest) : passed text s = u := by
  rw [passed, h, List.length_append, Nat.add_sub_cancel, List.take_left]

theorem Ensures.of_taking {p : Parser α} (hp : Ensures (fun s => s.rest = text) p Q) :
    Ensures (fun s => s.rest = text) (taking p) fun x s => Q x.1 s ∧ x.2 = passed text s := by
  refine Ensures.of_get fun s hs => hp.bind fun a => ?_
  rintro t _ _ ht ⟨⟩
  exact ⟨ht, hs ▸ rfl⟩

/-! ## Reading spells the text -/

/-- What is put in front of an outline of what comes next makes one of a text. -/
def Prepends (front : Outline → Outline) (text : List Char) (s : State) : Prop :=
  ∀ o tail, o.Spells tail s.rest → (front o).Spells tail text

/-- Behind the start of a group, its body and a closing parenthesis make a group that is put in
front of what is behind them. -/
def Opens (opening text : List Char) (s : State) : Prop :=
  ∀ (body : Outline) (t : State), body.Spells (')' :: t.rest) s.rest →
    Prepends (Outline.group opening body) text t

/-- What is behind an expression: the parenthesis that closes its group, or nothing. -/
def ending (inGroup : Bool) (s : State) : List Char :=
  if inGroup then ')' :: s.rest else []

theorem prepends_behind (h : Past text s) :
    Prepends (Outline.behind (passed text s)) text s := by
  intro o tail ho
  obtain ⟨u, rfl, hu⟩ := h
  rw [passed_eq rfl]
  exact ho.behind hu

theorem ensures_blanks :
    Ensures (fun s => s.rest = text) (taking bumpBlanks) fun x s =>
      Prepends (Outline.behind x.2) text s := by
  have hblanks : Ensures (fun s => s.rest = text) bumpBlanks fun _ => Past text :=
    (advances_bumpBlanks text).mono fun s hs => hs ▸ Past.start s
  rintro s x t hs hrun
  obtain ⟨hpast, hx⟩ := hblanks.of_taking s x t hs hrun
  rw [hx]
  exact prepends_behind hpast

/-- A part other than a group.  An operator is its first character. -/
theorem ensures_part (branches parts : List Ast) (c : Char) :
    Ensures (fun s => s.rest = c :: text) (taking (extend branches parts c)) fun x s =>
      Prepends (Outline.part c x.2) (c :: text) s := by
  have hpart : Ensures (fun s => s.rest = c :: text) (extend branches parts c) fun _ =>
      Past (c :: text) :=
    (ensures_extend branches parts c).mono fun s hs =>
      ⟨hs ▸ Past.start s, by rw [hs, List.head?_cons]⟩
  rintro s x t hs hrun o tail ho
  obtain ⟨⟨u, htext, hu⟩, hx⟩ := hpart.of_taking s x t hs hrun
  rw [hx, passed_eq htext, htext, Outline.part]
  split
  · next hoperator =>
      have hrest : Ensures (fun s => s.rest = c :: text) (extend branches parts c) fun _ =>
          Past text := ensures_extend_operator branches parts hoperator
      obtain ⟨⟨v, rfl, -⟩, -⟩ := hrest.of_taking s x t hs hrun
      have hcons : u = c :: v := List.append_cancel_right htext.symm
      subst hcons
      exact ho.operator hu
  · exact ho.plain hu

/-- Flags on their own are read to the parenthesis that closes them, the start of a group up
to its body. -/
theorem ensures_opening :
    Ensures (fun s => s.rest = '(' :: text) (taking openGroup) fun x s =>
      match x.1 with
      | .inr _ => Prepends (Outline.group x.2.tail.dropLast .done) ('(' :: text) s
      | .inl _ => Opens x.2.tail ('(' :: text) s := by
  rintro s ⟨start, u⟩ t hs hrun
  obtain ⟨⟨hpast, hclosed⟩, rfl : u = _⟩ := ensures_openGroup.of_taking s _ t hs hrun
  cases start with
  | inr change =>
      obtain ⟨inside, rfl, hinside⟩ := hclosed rfl
      have hpassed : passed ('(' :: (inside ++ ')' :: t.rest)) t = '(' :: inside ++ [')'] :=
        passed_eq (by simp only [List.cons_append, List.append_assoc, List.nil_append])
      intro o tail ho
      rw [hpassed, List.cons_append, List.tail_cons, List.dropLast_concat]
      exact ho.group (Outline.Spells.done _) hinside
  | inl kind =>
      obtain ⟨opening, rfl, hopening⟩ := hpast
      have hpassed : passed ('(' :: (opening ++ t.rest)) t = '(' :: opening := passed_eq rfl
      intro body m hbody o tail ho
      rw [hpassed, List.tail_cons]
      refine ho.group hbody (hopening.resolve_left fun hnil => ?_)
      have htext := hbody.text_eq
      rw [hnil] at htext
      exact List.append_ne_nil_of_right_ne_nil _ (List.cons_ne_nil _ _) htext.symm

theorem Ensures.of_peek_rest {f : Option Char → Parser α}
    (h : Ensures (fun s => s.rest = text) (f text.head?) Q) :
    Ensures (fun s => s.rest = text) (peek? >>= f) Q :=
  fun s a t hs hrun => h s a t hs (hs ▸ hrun)

theorem prepends_setIgnoreBlanks {front : Outline → Outline} (b : Bool) :
    Ensures (Prepends front text) (modify fun s => { s with ignoreBlanks := b }) fun _ =>
      Prepends front text :=
  Ensures.of_modify fun _ hs => hs

theorem prepends_setBlanks {front : Outline → Outline} (change : FlagChange) :
    Ensures (Prepends front text) (setBlanks change) fun _ => Prepends front text :=
  Ensures.of_modify fun _ hs => hs

theorem opens_enterGroup {opening : List Char} (kind : GroupKind) :
    Ensures (Opens opening text) (enterGroup kind) fun _ => Opens opening text := by
  cases kind with
  | capture => exact Ensures.of_pure fun _ hs => hs
  | flags change => exact Ensures.of_modify fun _ hs => hs

/-- What is read of a text that comes next, with something put in front of it. -/
theorem Ensures.prepend {front : Outline → Outline} {inGroup : Bool}
    {q : Parser (Ast × Outline)}
    (hq : ∀ later, Ensures (fun s => s.rest = later) q fun x s =>
      x.2.Spells (ending inGroup s) later) :
    Ensures (Prepends front text) (q >>= fun x => pure (x.1, front x.2)) fun x s =>
      x.2.Spells (ending inGroup s) text := by
  refine Ensures.bind (Q := fun x s => (front x.2).Spells (ending inGroup s) text) ?_ fun x =>
    Ensures.of_pure fun _ hs => hs
  exact fun s x t hs hrun => hs _ _ (hq s.rest s x t rfl hrun)

/-- The body of a group, read from its start to the closing parenthesis. -/
theorem prepends_body {opening : List Char} {q : Parser (Ast × Outline)}
    (hq : ∀ later, Ensures (fun s => s.rest = later) q fun x s =>
      x.2.Spells (ending true s) later) :
    Ensures (Opens opening text) q fun x => Prepends (Outline.group opening x.2) text :=
  fun s x t hs hrun => hs x.2 t (hq s.rest s x t rfl hrun)

theorem ensures_outlined (fuel : Nat) (inGroup : Bool) (branches parts : List Ast)
    (text : List Char) :
    Ensures (fun s => s.rest = text) (outlined fuel inGroup branches parts) fun x s =>
      x.2.Spells (ending inGroup s) text := by
  induction fuel generalizing inGroup branches parts text with
  | zero => exact Ensures.of_throw _
  | succ fuel ih =>
      refine ensures_blanks.bind fun x => Ensures.prepend fun later => ?_
      refine Ensures.of_peek_rest ?_
      cases later with
      | nil =>
          refine Ensures.unless_throw fun hgroup => Ensures.of_pure fun s hs => ?_
          rw [ending, if_neg hgroup]
          exact Outline.Spells.done []
      | cons c later =>
          refine Ensures.ite (fun hopen => ?_) fun _ => Ensures.ite (fun hclose => ?_) fun _ => ?_
          · subst hopen
            refine ensures_opening.bind fun ⟨start, opening⟩ => ?_
            cases start with
            | inr change =>
                refine (prepends_setBlanks change).bind fun _ => ?_
                exact Ensures.prepend (ih inGroup branches _)
            | inl kind =>
                refine Ensures.of_get fun outer _ => (opens_enterGroup kind).bind fun _ => ?_
                refine (prepends_body (ih true [] [])).bind fun body => ?_
                refine (prepends_setIgnoreBlanks outer.ignoreBlanks).bind fun _ => ?_
                exact Ensures.prepend (ih inGroup branches _)
          · subst hclose
            have hbump : Ensures (fun s => s.rest = ')' :: later) bump fun _ s =>
                s.rest = later :=
              Ensures.of_modify fun s hs => hs ▸ rfl
            refine Ensures.unless_throw fun hgroup => hbump.bind fun _ => ?_
            refine Ensures.of_pure fun s hs => ?_
            rw [Bool.not_eq_true, Bool.not_eq_false'] at hgroup
            rw [ending, if_pos hgroup, hs]
            exact Outline.Spells.done _
          · refine (ensures_part branches parts c).bind fun y => ?_
            exact Ensures.prepend (ih inGroup _ _)

/-- An outline has the characters of its text, and no more. -/
theorem spells_outline {o : Outline} (h : outline text = .ok o) : o.Spells [] text := by
  unfold outline StateT.run at h
  cases hrun : outlined (2 * text.length + 2) false [] [] ⟨text, false, []⟩ with
  | error e =>
      rw [hrun] at h
      cases h
  | ok x =>
      rw [hrun] at h
      cases h
      exact ensures_outlined _ false [] [] text _ _ _ rfl hrun

end TraceCheck.Regex
