import TraceCheck.Yaml.Lexer

/-!
# Events of YAML text

The structure of a text as a row of events: scalars, mentions of anchors, and the
starts and ends of documents and collections. `events` reads tokens with a stack of
what is expected next; where the tokens end early or fit no rule, it yields the events
so far and the error.
-/

namespace TraceCheck.Yaml

/-- The name and the type that a text gives to a node. -/
structure Properties where
  anchor : Option String := none
  tag : Option String := none
  deriving DecidableEq, Repr

/-- An event. -/
inductive Event where
  | documentStart
  | documentEnd
  | alias (name : String)
  | scalar (properties : Properties) (style : ScalarStyle) (content : String)
  | sequenceStart (properties : Properties)
  | sequenceEnd
  | mappingStart (properties : Properties)
  | mappingEnd
  deriving DecidableEq, Repr

/-- What is expected next. The place is the start of the collection. -/
inductive Expected where
  /-- A document; one that is not the first needs a mark. -/
  | document (isFirst : Bool)
  | content
  | documentEnd
  | node (block indentless : Bool)
  | blockItem (first : Bool) (start : Place)
  | indentlessItem
  | blockKey (first : Bool) (start : Place)
  | blockValue (start : Place)
  | flowItem (first : Bool) (start : Place)
  | pairKey
  | pairValue
  | pairEnd
  | flowKey (first : Bool) (start : Place)
  | flowValue (empty : Bool) (start : Place)
  deriving DecidableEq, Repr

/-- What is known while tokens are read. -/
structure Parsing where
  tokens : List Located
  /-- The error that ends the tokens early. -/
  lexical : Option SyntaxError
  expected : List Expected
  /-- What the handles of tags stand for in this document. -/
  handles : List (String × String)

/-- What a step yields: an event at a place, or the end. -/
inductive Progress where
  | event (e : Event) (place : Place) (next : Parsing)
  | quiet (next : Parsing)
  | done (error : Option SyntaxError) (place : Place)

namespace Parsing

/-- A scalar without any text. -/
def emptyScalar : Event := .scalar {} .plain ""

/-- The handles that stand for something in every document. -/
def defaultHandles : List (String × String) :=
  [("!", "!"), ("!!", "tag:yaml.org,2002:")]

/-- An error at a token. -/
def fail (problem : String) (place : Place) : Progress :=
  .done (some ⟨problem, place, none⟩) place

/-- An error at a token in something that began at another place. -/
def failIn (what : String) (start : Place) (problem : String) (place : Place) : Progress :=
  .done (some ⟨problem, place, some (what, start)⟩) place

/-- The tokens ended early. -/
def outOfTokens (s : Parsing) : Progress :=
  .done s.lexical .start

/-- Go on with another stack. -/
def expecting (s : Parsing) (expected : List Expected) : Parsing :=
  { s with expected }

/-- Go on behind the next token. -/
def passing (s : Parsing) : Parsing :=
  { s with tokens := s.tokens.tail }

/-! ## Documents -/

/-- Take directives off the tokens: whether a version was named, and the handles. -/
def directives : List Located → (version : Bool) → (handles : List (String × String)) →
    Except SyntaxError (List Located × List (String × String))
  | t :: rest, version, handles =>
    match t.token with
    | .version major minor =>
      if version then .error ⟨"found duplicate %YAML directive", t.start, none⟩
      else if major = 1 ∧ (minor = 1 ∨ minor = 2) then directives rest true handles
      else .error ⟨"found incompatible YAML document", t.start, none⟩
    | .tagDirective handle lead =>
      if (handles.lookup handle).isSome then
        .error ⟨"found duplicate %TAG directive", t.start, none⟩
      else directives rest version (handles ++ [(handle, lead)])
    | _ => .ok (t :: rest, handles ++ defaultHandles)
  | [], _, handles => .ok ([], handles ++ defaultHandles)

/-- Whether a token belongs to the head of a document. -/
def isHead : Token → Bool
  | .version .. | .tagDirective .. | .documentStart | .streamEnd => true
  | _ => false

/-- The start of a document, or the end of the text. -/
def document (isFirst : Bool) (rest : List Expected) (s : Parsing) : Progress :=
  match s.tokens with
  | [] => s.outOfTokens
  | t :: more =>
    if !isFirst && t.token == .documentEnd then
      .quiet { s with tokens := more, expected := .document false :: rest }
    else if isFirst && !isHead t.token then
      .event .documentStart t.start
        { s with
          handles := defaultHandles
          expected := .node true false :: .documentEnd :: rest }
    else if t.token == .streamEnd then .done none t.start
    else
      match directives s.tokens false [] with
      | .error e => .done (some e) e.place
      | .ok (tokens, handles) =>
        match tokens with
        | [] => s.outOfTokens
        | t' :: more =>
          if t'.token == .documentStart then
            .event .documentStart t.start
              { s with tokens := more, handles, expected := .content :: .documentEnd :: rest }
          else fail "did not find expected <document start>" t'.start

/-- Whether a document has no content in front of a token. -/
def endsContent : Token → Bool
  | .version .. | .tagDirective .. | .documentStart | .documentEnd | .streamEnd => true
  | _ => false

/-! ## Nodes -/

/-- The properties in front of a node: the anchor, the handle and the suffix of the
tag with its place, the start of the node, and the tokens behind. -/
structure Prelude where
  anchor : Option String
  tag : Option (String × String × Place)
  start : Place
  rest : List Located

/-- Take the properties of a node off the tokens. -/
def takePrelude (t : Located) (rest : List Located) : Prelude :=
  match t.token with
  | .anchor name =>
    match rest with
    | ⟨.tag handle suffix, place, _⟩ :: more =>
      ⟨some name, some (handle, suffix, place), t.start, more⟩
    | _ => ⟨some name, none, t.start, rest⟩
  | .tag handle suffix =>
    match rest with
    | ⟨.anchor name, _, _⟩ :: more => ⟨some name, some (handle, suffix, t.start), t.start, more⟩
    | _ => ⟨none, some (handle, suffix, t.start), t.start, rest⟩
  | _ => ⟨none, none, t.start, t :: rest⟩

/-- The tag that a handle and a suffix stand for. -/
def resolveTag (handles : List (String × String)) (start : Place) :
    Option (String × String × Place) → Except SyntaxError (Option String)
  | none => .ok none
  | some (handle, suffix, place) =>
    if handle = "" then .ok (some suffix)
    else
      match handles.lookup handle with
      | some lead => .ok (some (lead ++ suffix))
      | none =>
        .error ⟨"found undefined tag handle", place, some ("while parsing a node", start)⟩

/-- A node. -/
def node (block indentless : Bool) (rest : List Expected) (s : Parsing) : Progress :=
  match s.tokens with
  | [] => s.outOfTokens
  | ⟨.alias name, place, _⟩ :: more =>
    .event (.alias name) place { s with tokens := more, expected := rest }
  | t :: more =>
    let p := takePrelude t more
    match p.rest with
    | [] => s.outOfTokens
    | t :: more =>
      match resolveTag s.handles p.start p.tag with
      | .error e => .done (some e) e.place
      | .ok tag =>
        let properties : Properties := ⟨p.anchor, tag⟩
        let opened (e : Event) (expected : Expected) (tokens : List Located) : Progress :=
          .event e p.start { s with tokens, expected := expected :: rest }
        match t.token, block with
        | .blockEntry, _ =>
          if indentless then opened (.sequenceStart properties) .indentlessItem (t :: more)
          else bare properties p rest { s with tokens := t :: more } t.start
        | .scalar style content, _ =>
          let tag := if tag = some "!" then none else tag
          .event (.scalar ⟨p.anchor, tag⟩ style content) p.start
            { s with tokens := more, expected := rest }
        | .flowSequenceStart, _ =>
          opened (.sequenceStart properties) (.flowItem true t.start) (t :: more)
        | .flowMappingStart, _ =>
          opened (.mappingStart properties) (.flowKey true t.start) (t :: more)
        | .blockSequenceStart, true =>
          opened (.sequenceStart properties) (.blockItem true t.start) (t :: more)
        | .blockMappingStart, true =>
          opened (.mappingStart properties) (.blockKey true t.start) (t :: more)
        | _, _ => bare properties p rest { s with tokens := t :: more } t.start
where
  /-- A node without content: an empty scalar if it has properties. -/
  bare (properties : Properties) (p : Prelude) (rest : List Expected) (s : Parsing)
      (place : Place) : Progress :=
    if properties.anchor.isSome ∨ properties.tag.isSome then
      .event (.scalar properties .plain "") p.start { s with expected := rest }
    else
      failIn (if block then "while parsing a block node" else "while parsing a flow node")
        p.start "did not find expected node content" place

/-! ## Collections -/

/-- Pass a token; a node or an empty scalar follows, and then what is expected next. -/
def nodeOrEmpty (s : Parsing) (stop : Place) (ends : Token → Bool) (block indentless : Bool)
    (next : List Expected) : Progress :=
  match s.tokens with
  | [] => s.outOfTokens
  | t :: _ =>
    if ends t.token then .event emptyScalar stop (s.expecting next)
    else .quiet (s.expecting (.node block indentless :: next))

/-- Whether a token ends an item of a block sequence. -/
def endsItem : Token → Bool
  | .blockEntry | .blockEnd => true
  | _ => false

/-- Whether a token ends a key or a value of a block mapping. -/
def endsEntry : Token → Bool
  | .key | .value | .blockEnd => true
  | _ => false

/-- An item of a block sequence, or its end. -/
def blockItem (first : Bool) (start : Place) (rest : List Expected) (s : Parsing) : Progress :=
  let s := if first then s.passing else s
  match s.tokens with
  | [] => s.outOfTokens
  | t :: _ =>
    match t.token with
    | .blockEntry =>
      s.passing.nodeOrEmpty t.stop endsItem true false (.blockItem false start :: rest)
    | .blockEnd => .event .sequenceEnd t.start (s.passing.expecting rest)
    | _ =>
      failIn "while parsing a block collection" start "did not find expected '-' indicator"
        t.start

/-- An item of a sequence that is not indented, or its end. -/
def indentlessItem (rest : List Expected) (s : Parsing) : Progress :=
  match s.tokens with
  | [] => s.outOfTokens
  | t :: _ =>
    match t.token with
    | .blockEntry =>
      s.passing.nodeOrEmpty t.stop (fun t => endsItem t || endsEntry t) true false
        (.indentlessItem :: rest)
    | _ => .event .sequenceEnd t.start (s.expecting rest)

/-- A key of a block mapping, or its end. -/
def blockKey (first : Bool) (start : Place) (rest : List Expected) (s : Parsing) : Progress :=
  let s := if first then s.passing else s
  match s.tokens with
  | [] => s.outOfTokens
  | t :: _ =>
    match t.token with
    | .key => s.passing.nodeOrEmpty t.stop endsEntry true true (.blockValue start :: rest)
    | .blockEnd => .event .mappingEnd t.start (s.passing.expecting rest)
    | _ => failIn "while parsing a block mapping" start "did not find expected key" t.start

/-- A value of a block mapping. -/
def blockValue (start : Place) (rest : List Expected) (s : Parsing) : Progress :=
  match s.tokens with
  | [] => s.outOfTokens
  | t :: _ =>
    match t.token with
    | .value =>
      s.passing.nodeOrEmpty t.stop endsEntry true true (.blockKey false start :: rest)
    | _ => .event emptyScalar t.start (s.expecting (.blockKey false start :: rest))

/-- Pass the comma in front of a further entry. -/
def separated (first : Bool) (what : String) (start : Place) (problem : String)
    (close : Token) (s : Parsing) : Except Progress Parsing :=
  match s.tokens with
  | [] => .error s.outOfTokens
  | t :: _ =>
    if first ∨ t.token = close then .ok s
    else if t.token = .flowEntry then .ok s.passing
    else .error (failIn what start problem t.start)

/-- An item of a sequence in brackets, or its end. -/
def flowItem (first : Bool) (start : Place) (rest : List Expected) (s : Parsing) : Progress :=
  let s := if first then s.passing else s
  match s.separated first "while parsing a flow sequence" start
    "did not find expected ',' or ']'" .flowSequenceEnd with
  | .error p => p
  | .ok s =>
    match s.tokens with
    | [] => s.outOfTokens
    | t :: _ =>
      match t.token with
      | .flowSequenceEnd => .event .sequenceEnd t.start (s.passing.expecting rest)
      | .key =>
        .event (.mappingStart {}) t.start
          (s.passing.expecting (.pairKey :: .flowItem false start :: rest))
      | _ => .quiet (s.expecting (.node false false :: .flowItem false start :: rest))

/-- Whether a token ends an item of a sequence in brackets. -/
def endsFlowItem : Token → Bool
  | .flowEntry | .flowSequenceEnd => true
  | _ => false

/-- The key of a pair among the items of a sequence. -/
def pairKey (rest : List Expected) (s : Parsing) : Progress :=
  match s.tokens with
  | [] => s.outOfTokens
  | t :: _ =>
    if t.token = .value ∨ endsFlowItem t.token then
      .event emptyScalar t.stop (s.passing.expecting (.pairValue :: rest))
    else .quiet (s.expecting (.node false false :: .pairValue :: rest))

/-- The value of a pair among the items of a sequence. -/
def pairValue (rest : List Expected) (s : Parsing) : Progress :=
  match s.tokens with
  | [] => s.outOfTokens
  | t :: _ =>
    let s := if t.token = .value then s.passing else s
    match s.tokens with
    | [] => s.outOfTokens
    | t' :: _ =>
      if t.token = .value ∧ !endsFlowItem t'.token then
        .quiet (s.expecting (.node false false :: .pairEnd :: rest))
      else .event emptyScalar t'.start (s.expecting (.pairEnd :: rest))

/-- The end of a pair among the items of a sequence. -/
def pairEnd (rest : List Expected) (s : Parsing) : Progress :=
  match s.tokens with
  | [] => s.outOfTokens
  | t :: _ => .event .mappingEnd t.start (s.expecting rest)

/-- Whether a token ends a key or a value in braces. -/
def endsFlowEntry : Token → Bool
  | .flowEntry | .flowMappingEnd => true
  | _ => false

/-- A key in braces, or their end. -/
def flowKey (first : Bool) (start : Place) (rest : List Expected) (s : Parsing) : Progress :=
  let s := if first then s.passing else s
  match s.separated first "while parsing a flow mapping" start
    "did not find expected ',' or '\x7d'" .flowMappingEnd with
  | .error p => p
  | .ok s =>
    match s.tokens with
    | [] => s.outOfTokens
    | t :: _ =>
      match t.token with
      | .flowMappingEnd => .event .mappingEnd t.start (s.passing.expecting rest)
      | .key =>
        let s := s.passing
        match s.tokens with
        | [] => s.outOfTokens
        | t' :: _ =>
          s.nodeOrEmpty t'.start (fun t => t == .value || endsFlowEntry t) false false
            (.flowValue false start :: rest)
      | _ => .quiet (s.expecting (.node false false :: .flowValue true start :: rest))

/-- A value in braces. -/
def flowValue (empty : Bool) (start : Place) (rest : List Expected) (s : Parsing) : Progress :=
  let next := .flowKey false start :: rest
  match s.tokens with
  | [] => s.outOfTokens
  | t :: _ =>
    if empty then .event emptyScalar t.start (s.expecting next)
    else
      let s := if t.token = .value then s.passing else s
      match s.tokens with
      | [] => s.outOfTokens
      | t' :: _ =>
        if t.token = .value ∧ !endsFlowEntry t'.token then
          .quiet (s.expecting (.node false false :: next))
        else .event emptyScalar t'.start (s.expecting next)

/-! ## The row of events -/

/-- One step. -/
def step (s : Parsing) : Progress :=
  match s.expected with
  | [] => .done none .start
  | .document isFirst :: rest => s.document isFirst rest
  | .content :: rest =>
    match s.tokens with
    | [] => s.outOfTokens
    | t :: _ =>
      if endsContent t.token then .event emptyScalar t.start (s.expecting rest)
      else .quiet (s.expecting (.node true false :: rest))
  | .documentEnd :: _ =>
    match s.tokens with
    | [] => s.outOfTokens
    | t :: _ =>
      let s := if t.token = .documentEnd then s.passing else s
      .event .documentEnd t.start (s.expecting [.document false])
  | .node block indentless :: rest => s.node block indentless rest
  | .blockItem first start :: rest => s.blockItem first start rest
  | .indentlessItem :: rest => s.indentlessItem rest
  | .blockKey first start :: rest => s.blockKey first start rest
  | .blockValue start :: rest => s.blockValue start rest
  | .flowItem first start :: rest => s.flowItem first start rest
  | .pairKey :: rest => s.pairKey rest
  | .pairValue :: rest => s.pairValue rest
  | .pairEnd :: rest => s.pairEnd rest
  | .flowKey first start :: rest => s.flowKey first start rest
  | .flowValue empty start :: rest => s.flowValue empty start rest

end Parsing

/-- An event with its place. -/
structure Placed where
  event : Event
  place : Place
  deriving DecidableEq, Repr

/-- The events of a text, the error that ends them early, and the place of the end. -/
structure Events where
  events : List Placed
  error : Option SyntaxError
  stop : Place

/-- Read tokens to their end. -/
def Parsing.run : (fuel : Nat) → Parsing → List Placed → Events
  | 0, _, events => ⟨events.reverse, none, .start⟩
  | fuel + 1, s, events =>
    match s.step with
    | .event e place next => run fuel next (⟨e, place⟩ :: events)
    | .quiet next => run fuel next events
    | .done error place => ⟨events.reverse, error, place⟩

/-- The events of a text. -/
def events (text : String) : Events :=
  let (tokens, lexical) := tokenize text
  match tokens with
  | [] => ⟨[], lexical, .start⟩
  | _ :: tokens =>
    Parsing.run (8 * tokens.length + 8) ⟨tokens, lexical, [.document true], []⟩ []

end TraceCheck.Yaml
