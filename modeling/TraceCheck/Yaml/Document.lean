import TraceCheck.Yaml.Event

/-!
# Documents

The nodes of the first document of a text as a row of items, in which a mention of an
anchor is a reference to the item that it names. What is wrong further on is kept
beside the items, since it matters only when reading gets there.
-/

namespace TraceCheck.Yaml

/-- A scalar or the start or end of a collection. -/
inductive Item where
  /-- The text has no document. -/
  | void
  /-- A mention of the item at a position. -/
  | reference (position : Nat)
  | scalar (tag : Option String) (style : ScalarStyle) (content : String)
  | sequenceStart (tag : Option String)
  | sequenceEnd
  | mappingStart (tag : Option String)
  | mappingEnd
  deriving DecidableEq, Repr

/-- What is wrong with a text that holds a document. -/
inductive DocumentError where
  | spelling (e : SyntaxError)
  | unknownAnchor (place : Place)
  deriving DecidableEq, Repr

/-- The words for what is wrong. -/
def DocumentError.message : DocumentError → String
  | .spelling e => e.message
  | .unknownAnchor p => "unknown anchor" ++ if p.isInner then " at " ++ p.text else ""

/-- A document: its items with their places, what is wrong behind them, and whether
more documents follow. -/
structure Document where
  items : Array (Item × Place)
  error : Option DocumentError
  hasMore : Bool

/-- The anchors of a document: the number of each name, and the position of the item
of each number. A name that is used again gets the number of names so far. -/
structure Anchors where
  numbers : List (String × Nat) := []
  positions : List (Nat × Nat) := []

namespace Anchors

/-- Give a name to the item at a position. -/
def add (a : Anchors) (name : Option String) (position : Nat) : Anchors :=
  match name with
  | none => a
  | some name =>
    let number := a.numbers.length
    let others := a.numbers.filter (·.1 ≠ name)
    ⟨(name, number) :: others, (number, position) :: a.positions⟩

end Anchors

/-- A mention of an anchor by its number, until all items are known. -/
structure Loading where
  items : Array (Item × Place) := #[]
  anchors : Anchors := {}

namespace Loading

/-- Add an item, which may get a name. -/
def add (l : Loading) (anchor : Option String) (item : Item) (place : Place) : Loading :=
  { items := l.items.push (item, place), anchors := l.anchors.add anchor l.items.size }

/-- The items, with the mentions of anchors resolved. -/
def finish (l : Loading) : Array (Item × Place) :=
  l.items.map fun (item, place) =>
    match item with
    | .reference number => (.reference ((l.anchors.positions.lookup number).getD 0), place)
    | item => (item, place)

/-- The items of a document up to its end, an error, or the end of the text. -/
def run : List Placed → Loading → Loading × Option DocumentError × List Placed
  | [], l => (l, none, [])
  | ⟨e, place⟩ :: rest, l =>
    match e with
    | .documentStart => run rest l
    | .documentEnd => (l, none, rest)
    | .alias name =>
      match l.anchors.numbers.lookup name with
      | some number => run rest (l.add none (.reference number) place)
      | none => (l, some (.unknownAnchor place), rest)
    | .scalar p style content => run rest (l.add p.anchor (.scalar p.tag style content) place)
    | .sequenceStart p => run rest (l.add p.anchor (.sequenceStart p.tag) place)
    | .sequenceEnd => run rest (l.add none .sequenceEnd place)
    | .mappingStart p => run rest (l.add p.anchor (.mappingStart p.tag) place)
    | .mappingEnd => run rest (l.add none .mappingEnd place)

end Loading

/-- Whether the events of a document reach its end. -/
def reachesEnd (events : List Placed) : Bool :=
  events.any (·.event == .documentEnd)

/-- The first document of a text. -/
def Document.ofText (text : String) : Document :=
  let es := events text
  let (l, error, rest) := Loading.run es.events {}
  let isWhole := reachesEnd es.events
  let error := error.or (if isWhole then none else es.error.map .spelling)
  let items := l.finish
  { items :=
      if items.isEmpty ∧ error.isNone ∧ !isWhole then #[(.void, es.stop)] else items
    error
    hasMore := isWhole && (!rest.isEmpty || es.error.isSome) }

end TraceCheck.Yaml
