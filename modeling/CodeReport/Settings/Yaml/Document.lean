import CodeReport.Settings.Yaml.Node

/-!
# Configuration in YAML

A configuration is one document that holds a mapping of scalars, in a block or
between braces. A document that is empty, or that has nothing but properties,
sets nothing.

A document may begin with a mark and end with marks. Directives stand before the
mark at its beginning, which they make necessary.
-/

namespace CodeReport.Yaml

/-! ## Directives -/

/-- What directives say up to some line. -/
structure Head where
  /-- Whether a version is given. -/
  versioned : Bool
  /-- The handles that have been given stems. -/
  given : List (String × List UInt8)
  deriving Repr, DecidableEq

namespace Head

/-- Nothing is said. -/
def empty : Head := ⟨false, []⟩

/-- The head with one more directive. Nothing is said twice, and two versions are known. -/
def add? (head : Head) : Directive → Option Head
  | .version major minor =>
    if !head.versioned && major = 1 && (minor = 1 || minor = 2) then
      some { head with versioned := true }
    else none
  | .stem handle octets =>
    if (head.given.lookup handle).isNone then
      some { head with given := (handle, octets) :: head.given }
    else none

/-- The stems of all handles. -/
def stems (head : Head) : List (String × List UInt8) :=
  head.given ++ Tag.stems

end Head

/-- What directives say, and the tokens that follow them. -/
def head? (head : Head) : List Token → Option (Head × List Token)
  | .directive directive :: rest => do head? (← head.add? directive) rest
  | rest => some (head, rest)

/-! ## Mappings -/

/-- A mapping. -/
structure Mapping where
  anchor : Option String
  /-- Its keys with their values. -/
  pairs : List (Node × Node)
  deriving Repr, DecidableEq

/-- A node that is left out. -/
def leftOut : Node := .scalar none ⟨.plain, none, ""⟩

/-- A key with its value behind the token that announces it, and the tokens that follow. -/
def pair? (stems : List (String × List UInt8)) (tokens : List Token) :
    Option ((Node × Node) × List Token) := do
  let (key, rest) ← node? stems tokens
  match rest with
  | .value :: rest => do
    let (value, rest) ← node? stems rest
    return ((key, value), rest)
  | rest => return ((key, leftOut), rest)

/-- The pairs of a mapping in a block up to its end, of which there are fewer than `fuel`. -/
def blockPairs? (stems : List (String × List UInt8)) :
    (fuel : Nat) → List Token → Option (List (Node × Node) × List Token)
  | 0, _ => none
  | _, .mappingEnd false :: rest => some ([], rest)
  | fuel + 1, .key :: rest => do
    let (pair, rest) ← pair? stems rest
    let (pairs, rest) ← blockPairs? stems fuel rest
    return (pair :: pairs, rest)
  | _, _ => none

/-- A pair between braces. A key that nothing announces has no value. -/
def flowPair? (stems : List (String × List UInt8)) :
    List Token → Option ((Node × Node) × List Token)
  | .key :: rest => pair? stems rest
  | tokens =>
    if beginsNode tokens then
      (node? stems tokens).map fun (key, rest) => ((key, leftOut), rest)
    else none

/-- The pairs of a mapping between braces up to its end, of which there are fewer than `fuel`. A
    comma stands behind each of them, but maybe the last. -/
def flowPairs? (stems : List (String × List UInt8)) :
    (fuel : Nat) → List Token → Option (List (Node × Node) × List Token)
  | 0, _ => none
  | _, .mappingEnd true :: rest => some ([], rest)
  | fuel + 1, tokens => do
    let (pair, rest) ← flowPair? stems tokens
    match rest with
    | .comma :: rest =>
      let (pairs, rest) ← flowPairs? stems fuel rest
      return (pair :: pairs, rest)
    | .mappingEnd true :: rest => return ([pair], rest)
    | _ => none

/-! ## Documents -/

/-- The content of a document and the tokens that follow it. Properties alone set nothing. -/
def content? (stems : List (String × List UInt8)) (tokens : List Token) :
    Option (Mapping × List Token) := do
  let (properties, rest) := properties tokens
  let _ ← properties.tag? stems
  let fuel := rest.length + 1
  let mapping (read : List (Node × Node) × List Token) : Mapping × List Token :=
    (⟨properties.anchor, read.1⟩, read.2)
  match rest with
  | .mappingStart false :: rest => (blockPairs? stems fuel rest).map mapping
  | .mappingStart true :: rest => (flowPairs? stems fuel rest).map mapping
  | .scalar _ _ :: _ => none
  | rest => return (⟨none, []⟩, rest)

/-- The mapping of a document without a mark at its beginning; a document of no tokens has an empty
    one, and there is no other without content. -/
def unmarked? (tokens : List Token) : Option (Mapping × List Token) :=
  match tokens with
  | [] => some (⟨none, []⟩, [])
  | .mappingStart _ :: _ => content? Tag.stems tokens
  | _ => if beginsNode tokens then content? Tag.stems tokens else none

/-- The mapping of a document and the tokens that follow it. -/
def mapping? (tokens : List Token) : Option (Mapping × List Token) := do
  let (head, rest) ← head? .empty tokens
  match rest with
  | .documentStart :: rest => content? head.stems rest
  | _ => unmarked? tokens

/-- The configuration that a mapping writes. -/
def Mapping.config? (mapping : Mapping) : Option Config := do
  let scalars ← scalars? mapping.anchor mapping.pairs
  let named ← scalars.mapM fun (key, value) =>
    value.setting?.map fun setting => (key.content, setting)
  Config.ofScalars? named

/-- The configuration that a text writes. Nothing follows its document but marks of its end. -/
def config? (text : String) : Option Config :=
  if text.toList.all isAllowed then do
    let tokens ← tokens? (joinLineEnds text.toList)
    let (mapping, rest) ← mapping? tokens
    if rest.all (· = .documentEnd) then mapping.config? else none
  else none

end CodeReport.Yaml
