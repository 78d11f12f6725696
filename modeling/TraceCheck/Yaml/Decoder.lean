import TraceCheck.Yaml.Content

/-!
# Decoding typed data from YAML

A `Decoder` gives a typed value from the items of a document, and from a value without
a type, where it can only succeed or fail. In a document a mismatch is placed at the
value that does not fit, with the path to it; one that concerns a field as such is
placed at the record.
-/

namespace TraceCheck.Yaml

/-- A step from a collection to a part of it. -/
inductive Segment where
  | item (index : Nat)
  | key (name : String)
  | unknown
  deriving DecidableEq, Repr

/-- The way to a part of a document, last step first. -/
abbrev Path := List Segment

/-- A path in words; the whole document is a point. -/
def Path.text : Path → String
  | [] => "."
  | .item i :: rest => Path.text rest ++ "[" ++ toString i ++ "]"
  | .key name :: rest => dotted rest ++ name
  | .unknown :: rest => dotted rest ++ "?"
where
  /-- The path in front of a name. -/
  dotted : Path → String
    | [] => ""
    | path => Path.text path ++ "."

/-- Why data could not be decoded. -/
inductive Fault where
  /-- The data does not fit; its place and path, once they are known. -/
  | mismatch (m : Mismatch) (place : Option (Place × Path))
  | document (e : DocumentError)
  | endOfText
  | severalDocuments

/-- How YAML data is worded. -/
def wording : Wording := ⟨"unit value", pointedDouble⟩

/-- The words for a fault. -/
def Fault.message : Fault → String
  | .mismatch m none => m.message wording
  | .mismatch m (some (place, path)) =>
    (if path.isEmpty then "" else path.text ++ ": ") ++ m.message wording ++
      if place.isInner then " at " ++ place.text else ""
  | .document e => e.message
  | .endOfText => "EOF while parsing a value"
  | .severalDocuments =>
    "deserializing from YAML containing more than one document is not supported"

/-- A fault at a value, unless its place is known. -/
def Fault.orAt (place : Place) (path : Path) : Fault → Fault
  | .mismatch m none => .mismatch m (some (place, path))
  | f => f

/-- A step of decoding: the document, the path, and the position of the next item. -/
abbrev Reader (α : Type) := Document → Path → Nat → Except Fault (α × Nat)

namespace Reader

/-- The item at a position. -/
def itemAt (d : Document) (position : Nat) : Except Fault (Item × Place) :=
  match d.items[position]? with
  | some x => .ok x
  | none =>
    match d.error with
    | some e => .error (.document e)
    | none => .error .endOfText

/-- A mismatch with what an item stands for. -/
def wrongType {α : Type} (expected : String) (item : Item) : Except Fault α :=
  let found : Except Mismatch Found := match item with
    | .scalar tag style s => (meaning tag style s).map (·.found)
    | .sequenceStart _ => .ok .list
    | .mappingStart _ => .ok .record
    | _ => .ok .nothing
  match item, found with
  | .void, _ => .error .endOfText
  | _, .ok f => .error (.mismatch (.wrongType f expected) none)
  | _, .error m => .error (.mismatch m none)

/-- Decode the item at the position, or the one that it refers to. Faults are placed
at the item itself. -/
def atItem {α : Type} (read : Item → Place → Reader α) : Reader α := fun d path position => do
  let (item, place) ← itemAt d position
  let result := match item with
    | .reference target => do
      let (item, place) ← itemAt d target
      match read item place d path (target + 1) with
      | .ok (a, _) => .ok (a, position + 1)
      | .error f => .error (f.orAt place path)
    | item => read item place d path (position + 1)
  match result with
  | .ok r => .ok r
  | .error f => .error (f.orAt place path)

/-- A text: the content of any scalar. -/
def scalarText (expected : String) (parse : String → Except Mismatch α) : Reader α :=
  atItem fun item _ _ _ next =>
    match item with
    | .scalar _ _ s =>
      match parse s with
      | .ok a => .ok (a, next)
      | .error m => .error (.mismatch m none)
    | item => wrongType expected item

/-- A text. -/
def string : Reader String := scalarText "a string" .ok

/-- Whether a scalar may spell a value of a basic type. -/
def maySpell (type : String) (tag : Option String) (style : ScalarStyle) : Bool :=
  match style with
  | .plain => true
  | .literal => tag == some (coreTag type)
  | _ => false

/-- A value of a basic type that a scalar spells. -/
def spelled (type expected : String) (parse : String → Option α) : Reader α :=
  atItem fun item _ _ _ next =>
    match item with
    | .scalar tag style s =>
      match if maySpell type tag style then parse s else none with
      | some a => .ok (a, next)
      | none => wrongType expected item
    | item => wrongType expected item

/-- A truth value. -/
def boolean : Reader Bool := spelled "bool" "a boolean" truthOf?

/-- A whole number of 64 bits, without a sign. -/
def natural (expected : String) : Reader Nat :=
  spelled "int" expected fun s => naturalOf? (1 <<< 64) s.toList

/-- Whether an item stands for an absent value. -/
def isAbsent : Item → Except Fault Bool
  | .scalar tag .plain s =>
    match tag with
    | none => .ok (s == "" || isNull s)
    | some t =>
      if t = coreTag "null" then
        if isNull s then .ok true
        else .error (.mismatch (.wrongValue (.text s) "null") none)
      else .ok false
  | .void => .ok true
  | _ => .ok false

/-- A value that may be absent. -/
def optional (read : Reader α) : Reader (Option α) := fun d path position => do
  let (item, _) ← itemAt d position
  let (target, after) ← match item with
    | .reference target => do pure ((← itemAt d target).1, some (target, position + 1))
    | item => pure (item, none)
  if ← isAbsent target then return (none, position + 1)
  else
    match after with
    | none => return ((← read d path position).map some id)
    | some (target, next) => return (some (← read d path target).1, next)

/-- Pass a value of any type. -/
def skip (d : Document) : (fuel : Nat) → (nested : Nat) → (position : Nat) → Except Fault Nat
  | 0, _, position => .ok position
  | fuel + 1, n, position => do
    let (item, _) ← itemAt d position
    let n := match item with
      | .sequenceStart _ | .mappingStart _ => n + 1
      | .sequenceEnd | .mappingEnd => n - 1
      | _ => n
    if n = 0 then return position + 1 else skip d fuel n (position + 1)

/-- Whether an item stands for an empty collection. -/
def isEmptyCollection : Item → Bool
  | .void => true
  | .scalar _ .plain s => s == ""
  | _ => false

/-- The values of a list from an index on, up to its end. -/
def items (read : Reader α) (d : Document) (path : Path) :
    (fuel : Nat) → (index : Nat) → (position : Nat) → Except Fault (List α × Nat)
  | 0, _, position => .ok ([], position)
  | fuel + 1, index, position => do
    match (← itemAt d position).1 with
    | .sequenceEnd => return ([], position + 1)
    | _ =>
      let (a, position) ← read d (.item index :: path) position
      let (rest, position) ← items read d path fuel (index + 1) position
      return (a :: rest, position)

/-- A list of values. -/
def list (read : Reader α) : Reader (List α) :=
  atItem fun item _ d path next =>
    match item with
    | .sequenceStart _ => items read d path (d.items.size + 1) 0 next
    | item => if isEmptyCollection item then .ok ([], next) else wrongType "a sequence" item

/-- The value that a name stands for. -/
def named (names : List (String × α)) (s : String) : Except Mismatch α :=
  match names.lookup s with
  | some a => .ok a
  | none => .error (.unknownVariant s (names.map (·.1)))

/-- Nothing but an absent value, behind a tag. -/
def nothing : Reader Unit :=
  atItem fun item _ _ _ next =>
    match item with
    | .scalar _ style s =>
      if style = .plain ∧ (s = "" ∨ isNull s) then .ok ((), next)
      else .error (.mismatch (.wrongValue (.text s) "null") none)
    | .void => .ok ((), next)
    | item => wrongType "unit" item

/-- One of the named values: its name as a scalar, or as the tag of an absent value. -/
def enumeration (names : List (String × α)) : Reader α := fun d path position => do
  let (item, place) ← itemAt d position
  match item with
  | .reference target => do
    let (item, place) ← itemAt d target
    let (a, _) ← one item place d path target
    return (a, position + 1)
  | item => one item place d path position
where
  /-- One of the named values at an item that is no reference. -/
  one (item : Item) (place : Place) : Reader α := fun d path position =>
    let tagged (name : String) : Except Fault (α × Nat) :=
      match named names name with
      | .ok a => do
        let (_, next) ← nothing d path position
        return (a, next)
      | .error m => .error (.mismatch m none)
    let refuse (found : Found) : Except Fault (α × Nat) :=
      .error (.mismatch (.wrongType found "a YAML tag starting with '!'") (some (place, path)))
    match item with
    | .scalar tag _ _ =>
      match localTag? tag with
      | some name => tagged name
      | none => scalarText "variant identifier" (named names) d path position
    | .sequenceStart tag =>
      match localTag? tag with
      | some name => tagged name
      | none => refuse .list
    | .mappingStart tag =>
      match localTag? tag with
      | some name => tagged name
      | none => refuse .record
    | _ => .error .endOfText

end Reader


/-- How to decode one type from a document and from a value without a type. -/
structure Decoder (α : Type) where
  read : Reader α
  fromContent : Content → Option α

/-- One field of a record that is being filled: its name, whether it must be given, and
how to see and to set it. -/
structure Field (σ : Type) where
  name : String
  required : Bool
  isSet : σ → Bool
  set : σ → Reader σ
  setFromContent : σ → Content → Option σ

/-- The field that holds a value of a decoded type. -/
def Field.of (name : String) (required : Bool) (decoder : Decoder α) (get : σ → Option α)
    (put : σ → α → σ) : Field σ where
  name := name
  required := required
  isSet s := (get s).isSome
  set s d path position := do
    let (a, next) ← decoder.read d path position
    return (put s a, next)
  setFromContent s c := (decoder.fromContent c).map (put s)

namespace Decoder

/-- A text. -/
def string : Decoder String where
  read := .string
  fromContent
    | .text s => some s
    | _ => none

/-- A truth value. -/
def boolean : Decoder Bool where
  read := .boolean
  fromContent
    | .bool b => some b
    | _ => none

/-- A whole number of 64 bits, without a sign. -/
def natural (expected : String) : Decoder Nat where
  read := .natural expected
  fromContent
    | .integer i => if 0 ≤ i then some i.toNat else none
    | _ => none

/-- A value that may be absent. -/
def optional (d : Decoder α) : Decoder (Option α) where
  read := .optional d.read
  fromContent
    | .null => some none
    | c => (d.fromContent c).map some

/-- A list of values. -/
def list (d : Decoder α) : Decoder (List α) where
  read := .list d.read
  fromContent
    | .list cs => cs.mapM d.fromContent
    | _ => none

/-- The place in a list of names that a key stands for: by name, or by its number. -/
inductive Identifier where
  | known (index : Nat)
  | other

/-- What a key stands for; keys of other types stand for nothing. -/
def identifier? (names : List String) : Content → Option Identifier
  | .text s =>
    match names.findIdx? (· == s) with
    | some i => some (.known i)
    | none => some .other
  | .integer i =>
    if i < 0 then none
    else if i.toNat < names.length then some (.known i.toNat)
    else some .other
  | _ => none

/-- One of the named values: its name, or the only key of a map with an absent value. -/
def enumeration (names : List (String × α)) : Decoder α where
  read := .enumeration names
  fromContent
    | .text s => names.lookup s
    | .map [(k, .null)] =>
      match identifier? (names.map (·.1)) k with
      | some (.known i) => names[i]?.map (·.2)
      | _ => none
    | _ => none

/-- The entries of a record, each into its field, up to the end of the record. -/
def entries (fields : List (Field σ)) (d : Document) (path : Path) :
    (fuel : Nat) → σ → (position : Nat) → Except Fault (σ × Nat)
  | 0, s, position => .ok (s, position)
  | fuel + 1, s, position => do
    let (item, _) ← Reader.itemAt d position
    match item with
    | .mappingEnd => return (s, position + 1)
    | item =>
      let (name, next) ← Reader.scalarText "field identifier" .ok d path position
      let segment := match item with
        | .scalar _ _ s => Segment.key s
        | _ => .unknown
      match fields.find? (·.name = name) with
      | some f =>
        if f.isSet s then throw (.mismatch (.duplicateField name) none)
        let (s, next) ← f.set s d (segment :: path) next
        entries fields d path fuel s next
      | none => entries fields d path fuel s (← Reader.skip d (d.items.size + 1) 0 next)

/-- The entries of a map, each into its field. -/
def entriesFromContent (fields : List (Field σ)) :
    List (Content × Content) → σ → Option σ
  | [], s => some s
  | (k, c) :: rest, s => do
    match ← identifier? (fields.map (·.name)) k with
    | .known i =>
      let f ← fields[i]?
      if f.isSet s then none else entriesFromContent fields rest (← f.setFromContent s c)
    | .other => entriesFromContent fields rest s

/-- The items of a list, each into the next field; there must not be more of them. -/
def itemsFromContent : List (Field σ) → List Content → σ → Option σ
  | _, [], s => some s
  | [], _ :: _, _ => none
  | f :: rest, c :: cs, s => do itemsFromContent rest cs (← f.setFromContent s c)

/-- The first required field that is not set. -/
def missing? (fields : List (Field σ)) (s : σ) : Option (Field σ) :=
  fields.find? fun f => f.required && !f.isSet s

/-- The record `expected`, filled from `start` entry by entry. Without a type it may
also be a list of its fields in order. -/
def record (expected : String) (fields : List (Field σ)) (start : σ) (finish : σ → α) :
    Decoder α where
  read := Reader.atItem fun item _ d path next => do
    let (s, next) ← match item with
      | .mappingStart _ => entries fields d path (d.items.size + 1) start next
      | item =>
        if Reader.isEmptyCollection item then .ok (start, next)
        else Reader.wrongType expected item
    match missing? fields s with
    | some f => .error (.mismatch (.missingField f.name) none)
    | none => .ok (finish s, next)
  fromContent c := do
    let s ← match c with
      | .map es => entriesFromContent fields es start
      | .list cs => itemsFromContent fields cs start
      | _ => none
    if (missing? fields s).isSome then none else return finish s

/-- Decode the only document of a text. -/
def decodeDocument (decoder : Decoder α) (d : Document) : Except Fault α := do
  let (a, _) ← decoder.read d [] 0
  match d.error with
  | some e => .error (.document e)
  | none => if d.hasMore then .error .severalDocuments else .ok a

end Decoder

end TraceCheck.Yaml
