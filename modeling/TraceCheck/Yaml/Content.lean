import TraceCheck.Yaml.Resolution

/-!
# Values without a type

A document as a value whose type is settled by its own spelling. Reading one can only
succeed or fail. Mentions of anchors are copied in, up to a number of copies, and
collections nest up to a number of levels.
-/

namespace TraceCheck.Yaml

/-- A value whose type is settled by its spelling. -/
inductive Content where
  | null
  | bool (b : Bool)
  | integer (i : Int)
  | double (x : Float)
  | text (s : String)
  | list (items : List Content)
  | map (entries : List (Content × Content))

namespace Content

/-- A place in a document while it is read: the position of the next item, and the
number of copies so far. -/
structure Walk where
  position : Nat
  copies : Nat

/-- A step of reading. -/
abbrev Reader (α : Type) := Document → Walk → Option (α × Walk)

/-- The value of a scalar. Numbers of more than 64 bits and tags of the application
are not accepted. -/
def ofScalar (tag : Option String) (style : ScalarStyle) (s : String) : Option Content :=
  if (localTag? tag).isSome then none
  else
    match meaning tag style s with
    | .ok .null => some .null
    | .ok (.bool b) => some (.bool b)
    | .ok (.integer i) => some (.integer i)
    | .ok (.wide _) => none
    | .ok (.double x) => some (.double x)
    | .ok (.text s) => some (.text s)
    | .error _ => none

/-- The values up to the end of a list. -/
def items (read : Reader Content) (d : Document) :
    (fuel : Nat) → Walk → Option (List Content × Walk)
  | 0, _ => none
  | fuel + 1, w => do
    let (item, _) ← d.items[w.position]?
    if item = .sequenceEnd then return ([], { w with position := w.position + 1 })
    let (a, w) ← read d w
    let (rest, w) ← items read d fuel w
    return (a :: rest, w)

/-- The entries up to the end of a map. -/
def entries (read : Reader Content) (d : Document) :
    (fuel : Nat) → Walk → Option (List (Content × Content) × Walk)
  | 0, _ => none
  | fuel + 1, w => do
    let (item, _) ← d.items[w.position]?
    if item = .mappingEnd then return ([], { w with position := w.position + 1 })
    let (k, w) ← read d w
    let (v, w) ← read d w
    let (rest, w) ← entries read d fuel w
    return ((k, v) :: rest, w)

/-- The value of an item that is no reference; the place is behind it. -/
def ofItem (read : Option (Reader Content)) (item : Item) : Reader Content := fun d w =>
  match item with
  | .void => some (.null, w)
  | .scalar tag style s => (ofScalar tag style s).map fun c => (c, w)
  | .sequenceStart tag => do
    if (localTag? tag).isSome then none
    let (cs, w) ← items (← read) d (d.items.size + 1) w
    return (.list cs, w)
  | .mappingStart tag => do
    if (localTag? tag).isSome then none
    let (es, w) ← entries (← read) d (d.items.size + 1) w
    return (.map es, w)
  | _ => none

/-- Copies of mentioned items per item of the document. -/
def copiesPerItem : Nat := 100

/-- The value at a place, whose parts are read by `read`. -/
def ofPlace (read : Option (Reader Content)) : Reader Content := fun d w => do
  let (item, _) ← d.items[w.position]?
  match item with
  | .reference target =>
    if d.items.size * copiesPerItem < w.copies + 1 then none
    let (item, _) ← d.items[target]?
    let (c, inner) ← ofItem read item d ⟨target + 1, w.copies + 1⟩
    return (c, ⟨w.position + 1, inner.copies⟩)
  | item => ofItem read item d { w with position := w.position + 1 }

/-- The value at a place with at most so many levels of collections. -/
def reader : (levels : Nat) → Reader Content
  | 0 => ofPlace none
  | levels + 1 => ofPlace (some (reader levels))

/-- Levels of collections in a value. -/
def maxLevels : Nat := 128

/-- The value of the only document of a text. -/
def ofDocument? (d : Document) : Option Content := do
  let (c, _) ← reader maxLevels d ⟨0, 0⟩
  if d.error.isSome ∨ d.hasMore then none else return c

end Content

end TraceCheck.Yaml
