import TraceCheck.Regex.Syntax
import TraceCheck.Unicode.Age
import TraceCheck.Unicode.Binary
import TraceCheck.Unicode.GeneralCategory
import TraceCheck.Unicode.Script
import TraceCheck.Unicode.ScriptExtension
import TraceCheck.Unicode.Segmentation
import TraceCheck.Unicode.Word

/-!
# Character properties by name

The sets that `\p` escapes mean. Names are compared without case, blanks, dashes
and underscores, and an `is` in front of a name does not count.
-/

namespace TraceCheck.Regex

open TraceCheck.Unicode

/-- A name without an `is` in front, in whatever case. -/
def dropIs : List Char → Bool × List Char
  | a :: b :: rest =>
    if a.toLower = 'i' ∧ b.toLower = 's' then (true, rest) else (false, a :: b :: rest)
  | cs => (false, cs)

/-- A name in the form in which names are compared; `isc` is the name of a
property of its own. -/
def normalName (name : String) : String :=
  let (dropped, cs) := dropIs name.toList
  let cs := (cs.filter fun c => c.toNat < 128 && c != ' ' && c != '_' && c != '-').map
    Char.toLower
  if dropped && cs = ['c'] then "isc" else String.ofList cs

/-- The first row of a table with a name. -/
def row? (table : List (List String × List String)) (name : String) : Option CodePoints :=
  (table.find? fun (names, _) => names.contains name).map fun (_, rows) => .ofText rows

/-- The categories that are unions of others, by the first letter or letters of
their members. -/
def categoryGroups : List (List String × List String) :=
  [ (["c", "other"], ["cc", "cf", "cn", "co", "cs"]),
    (["l", "letter"], ["ll", "lm", "lo", "lt", "lu"]),
    (["lc", "casedletter"], ["ll", "lt", "lu"]),
    (["m", "mark", "combiningmark"], ["mc", "me", "mn"]),
    (["n", "number"], ["nd", "nl", "no"]),
    (["p", "punctuation", "punct"], ["pc", "pd", "pe", "pf", "pi", "po", "ps"]),
    (["s", "symbol"], ["sc", "sk", "sm", "so"]),
    (["z", "separator"], ["zl", "zp", "zs"]) ]

/-- The code points of some categories. -/
def categories (names : List String) : CodePoints :=
  .ofRanges <| categoryTable.flatMap fun (ns, rows) =>
    if ns.any names.contains then (CodePoints.ofText rows).ranges else []

/-- The code points of a category. -/
def category? (name : String) : Option CodePoints :=
  if name = "any" then some .all
  else if name = "assigned" then some (categories ["cn"]).complement
  else if name = "ascii" then some ⟨[⟨0, 127⟩]⟩
  else
    match categoryGroups.find? fun (ns, _) => ns.contains name with
    | some (_, members) => some (categories members)
    | none => row? categoryTable name

/-- The code points of a script. -/
def script? (name : String) : Option CodePoints := row? scriptTable name

/-- The code points that are used with a script. -/
def scriptExtension? (name : String) : Option CodePoints :=
  (row? scriptExtensionTable name).or (row? scriptTable name)

/-- The code points that were assigned in a version or before. -/
def age? (name : String) : Option CodePoints :=
  go ageTable []
where
  /-- Collect the versions up to the one with the name. -/
  go : List (List String × List String) → List Range → Option CodePoints
    | [], _ => none
    | (names, rows) :: rest, earlier =>
      let ranges := earlier ++ (CodePoints.ofText rows).ranges
      if names.contains name then some (.ofRanges ranges) else go rest ranges

/-- The names of the categories and scripts to which no character belongs. A
query for one of them is refused. -/
def emptyValueNames : List String :=
  ["cs", "surrogate", "hrkt", "katakanaorhiragana", "zzzz", "unknown"]

/-- The names of the properties of which only values are sets, or nothing. -/
def valuedNames : List String :=
  [ "gc", "generalcategory", "sc", "script", "scx", "scriptextensions", "age", "gcb",
    "graphemeclusterbreak", "wb", "wordbreak", "sb", "sentencebreak", "bc", "bidiclass",
    "blk", "block", "bmg", "bidimirroringglyph", "bpb", "bidipairedbracket", "bpt",
    "bidipairedbrackettype", "ccc", "canonicalcombiningclass", "ce",
    "compositionexclusion", "cf", "casefolding", "cjkaccountingnumeric",
    "kaccountingnumeric", "cjkcompatibilityvariant", "kcompatibilityvariant", "cjkiicore",
    "kiicore", "cjkirggsource", "kirggsource", "cjkirghsource", "kirghsource",
    "cjkirgjsource", "kirgjsource", "cjkirgkpsource", "kirgkpsource", "cjkirgksource",
    "kirgksource", "cjkirgmsource", "kirgmsource", "cjkirgssource", "kirgssource",
    "cjkirgtsource", "kirgtsource", "cjkirguksource", "kirguksource", "cjkirgusource",
    "kirgusource", "cjkirgvsource", "kirgvsource", "cjkothernumeric", "kothernumeric",
    "cjkprimarynumeric", "kprimarynumeric", "cjkrsunicode", "krsunicode", "compex",
    "fullcompositionexclusion", "cwkcf", "changeswhennfkccasefolded", "dm",
    "decompositionmapping", "dt", "decompositiontype", "ea", "eastasianwidth", "equideo",
    "equivalentunifiedideograph", "fcnfkc", "fcnfkcclosure", "hst", "hangulsyllabletype",
    "incb", "indicconjunctbreak", "inpc", "indicpositionalcategory", "insc",
    "indicsyllabiccategory", "isc", "isocomment", "jg", "joininggroup", "jsn",
    "jamoshortname", "jt", "joiningtype", "kehcat", "kehcore", "kehdesc", "kehhg",
    "kehifao", "kehjsesh", "kehnomirror", "kehnorotate", "lb", "linebreak", "lc",
    "lowercasemapping", "na",
    "name", "na1", "unicode1name", "namealias", "nfcqc", "nfcquickcheck", "nfdqc",
    "nfdquickcheck", "nfkccf", "nfkccasefold", "nfkcqc", "nfkcquickcheck", "nfkcscf",
    "nfkcsimplecasefold", "nfkdqc", "nfkdquickcheck", "nt", "numerictype", "nv",
    "numericvalue", "scf", "sfc", "simplecasefolding", "slc", "simplelowercasemapping",
    "stc", "simpletitlecasemapping", "suc", "simpleuppercasemapping", "tc",
    "titlecasemapping", "uc", "uppercasemapping", "unicoderadicalstroke", "urs", "vo",
    "verticalorientation", "xonfc", "expandsonnfc", "xonfd", "expandsonnfd", "xonfkc",
    "expandsonnfkc", "xonfkd", "expandsonnfkd" ]

/-- The properties of which each value is a set, by their names. -/
def segmentationTables : List (List String × List (List String × List String)) :=
  [ (["gcb", "graphemeclusterbreak"], graphemeBreakTable),
    (["wb", "wordbreak"], wordBreakTable),
    (["sb", "sentencebreak"], sentenceBreakTable) ]

/-- The set of a property without a value. Three short names mean categories and
not the properties of the same name. -/
def byName (name : String) : Except SyntaxError CodePoints :=
  let isCategory := ["cf", "sc", "lc"].contains name
  match if isCategory then none else row? binaryTable name with
  | some s => .ok s
  | none =>
    if valuedNames.contains name && !isCategory then .error .propertyNotFound
    else if emptyValueNames.contains name then .error .propertyValueNotFound
    else
      match (category? name).or (script? name) with
      | some s => .ok s
      | none => .error .propertyNotFound

/-- The set of a value of a property; none if there is no such value. -/
def value? (name value : String) : Option CodePoints :=
  if emptyValueNames.contains value then none
  else if ["gc", "generalcategory"].contains name then category? value
  else if ["sc", "script"].contains name then script? value
  else if ["scx", "scriptextensions"].contains name then scriptExtension? value
  else if name = "age" then age? value
  else
    (segmentationTables.find? fun (names, _) => names.contains name).bind fun (_, table) =>
      row? table value

/-- The set of a property with a value. -/
def byValue (name value : String) : Except SyntaxError CodePoints :=
  if valuedNames.contains name || (row? binaryTable name).isSome then
    match value? name value with
    | some s => .ok s
    | none => .error .propertyValueNotFound
  else .error .propertyNotFound

/-- The set that a query names, whether or not it asks for the others. -/
def PropertyQuery.set : PropertyQuery → Except SyntaxError CodePoints
  | .letter c => byName (normalName (String.singleton c))
  | .named name => byName (normalName name)
  | .valued name value _ => byValue (normalName name) (normalName value)

/-- Whether a query asks for the characters outside the set that it names. -/
def PropertyQuery.isNegated : PropertyQuery → Bool
  | .valued _ _ equal => !equal
  | _ => false

/-- The set of a class with a one-letter escape. -/
def PerlClass.set : PerlClass → CodePoints
  | .digit => digitSet
  | .space =>
    ⟨[⟨9, 13⟩, ⟨0x20, 0x20⟩, ⟨0x85, 0x85⟩, ⟨0xA0, 0xA0⟩, ⟨0x1680, 0x1680⟩,
      ⟨0x2000, 0x200A⟩, ⟨0x2028, 0x2029⟩, ⟨0x202F, 0x202F⟩, ⟨0x205F, 0x205F⟩,
      ⟨0x3000, 0x3000⟩]⟩
  | .word => wordSet

/-- The ASCII members of a class with a one-letter escape. -/
def PerlClass.asciiSet : PerlClass → CodePoints
  | .digit => ⟨[⟨0x30, 0x39⟩]⟩
  | .space => ⟨[⟨9, 13⟩, ⟨0x20, 0x20⟩]⟩
  | .word => ⟨[⟨0x30, 0x39⟩, ⟨0x41, 0x5A⟩, ⟨0x5F, 0x5F⟩, ⟨0x61, 0x7A⟩]⟩

/-- The set of a class `[:name:]`. -/
def asciiSet (name : String) : CodePoints :=
  match name with
  | "alnum" => ⟨[⟨0x30, 0x39⟩, ⟨0x41, 0x5A⟩, ⟨0x61, 0x7A⟩]⟩
  | "alpha" => ⟨[⟨0x41, 0x5A⟩, ⟨0x61, 0x7A⟩]⟩
  | "ascii" => ⟨[⟨0, 0x7F⟩]⟩
  | "blank" => ⟨[⟨9, 9⟩, ⟨0x20, 0x20⟩]⟩
  | "cntrl" => ⟨[⟨0, 0x1F⟩, ⟨0x7F, 0x7F⟩]⟩
  | "digit" => ⟨[⟨0x30, 0x39⟩]⟩
  | "graph" => ⟨[⟨0x21, 0x7E⟩]⟩
  | "lower" => ⟨[⟨0x61, 0x7A⟩]⟩
  | "print" => ⟨[⟨0x20, 0x7E⟩]⟩
  | "punct" => ⟨[⟨0x21, 0x2F⟩, ⟨0x3A, 0x40⟩, ⟨0x5B, 0x60⟩, ⟨0x7B, 0x7E⟩]⟩
  | "space" => ⟨[⟨9, 13⟩, ⟨0x20, 0x20⟩]⟩
  | "upper" => ⟨[⟨0x41, 0x5A⟩]⟩
  | "word" => ⟨[⟨0x30, 0x39⟩, ⟨0x41, 0x5A⟩, ⟨0x5F, 0x5F⟩, ⟨0x61, 0x7A⟩]⟩
  | "xdigit" => ⟨[⟨0x30, 0x39⟩, ⟨0x41, 0x46⟩, ⟨0x61, 0x66⟩]⟩
  | _ => .empty

end TraceCheck.Regex
