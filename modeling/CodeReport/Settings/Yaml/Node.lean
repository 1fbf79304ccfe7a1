import CodeReport.Settings.Config
import CodeReport.Settings.Yaml.Token

/-!
# YAML nodes

A node of a configuration is a scalar, maybe with a tag and an anchor, or an
alias for a node that has an anchor.

An anchor has a number: how many different names stand before it in the
document. An alias takes the number of the last anchor of its name before it,
and means the last node of the whole document whose anchor has that number. A
name that is given twice thus moves its alias, and two names can share a number
afterwards.
-/

namespace CodeReport.Yaml

/-- A scalar with its tag in full. -/
structure Scalar where
  style : Style
  tag : Option (List UInt8)
  content : String
  deriving Repr, DecidableEq

/-- A key or a value. -/
inductive Node where
  | scalar (anchor : Option String) (scalar : Scalar)
  | alias (name : String)
  deriving Repr, DecidableEq

/-! ## Scalars as settings -/

namespace Scalar

/-- The words for a setting that is left out. -/
def nothingWords : List String :=
  ["null", "Null", "NULL", "~"]

/-- The tag of a setting that is left out. -/
def nothingTag : List UInt8 := Tag.ofText "tag:yaml.org,2002:null"

/-- The tag of a whole number. -/
def numberTag : List UInt8 := Tag.ofText "tag:yaml.org,2002:int"

/-- The number that decimal digits write; no zero stands before other digits. -/
def decimal? : List Char → Option Nat
  | '0' :: _ :: _ => none
  | digits => Digits.number? 10 digits

/-- The number that digits write, maybe behind a sign of their base. -/
def digits? : List Char → Option Nat
  | '0' :: 'x' :: digits => Digits.number? 16 digits
  | '0' :: 'o' :: digits => Digits.number? 8 digits
  | '0' :: 'b' :: digits => Digits.number? 2 digits
  | digits => decimal? digits

/-- The number that a scalar without quotes writes, if it is one. -/
def natural? : List Char → Option Nat
  | '+' :: digits => digits? digits
  | digits => digits? digits

/-- A scalar that is a text, and also a number if it writes one. -/
def unquoted (content : String) : Config.Scalar :=
  .unquoted content (natural? content.toList)

/-- What a scalar sets. A plain one counts as written, whatever its tag, but for the tag of nothing.
    A literal one can be a number by its tag only. -/
def setting? (scalar : Scalar) : Option Config.Scalar :=
  let isNothing := nothingWords.contains scalar.content
  match scalar.style, scalar.tag with
  | .plain, none =>
    some (if isNothing || scalar.content.isEmpty then .nothing else unquoted scalar.content)
  | .plain, some tag =>
    if tag = nothingTag then if isNothing then some .nothing else none
    else some (unquoted scalar.content)
  | .literal, some tag =>
    some (if tag = numberTag then unquoted scalar.content else .text scalar.content)
  | _, _ => some (.text scalar.content)

end Scalar

/-! ## Nodes from tokens -/

/-- What stands before the content of a node. -/
structure Properties where
  anchor : Option String
  tag : Option Tag
  deriving Repr, DecidableEq

/-- An anchor and a tag, in any order, and the tokens that follow them. -/
def properties : List Token → Properties × List Token
  | .anchor name :: .tag tag :: rest => (⟨some name, some tag⟩, rest)
  | .tag tag :: .anchor name :: rest => (⟨some name, some tag⟩, rest)
  | .anchor name :: rest => (⟨some name, none⟩, rest)
  | .tag tag :: rest => (⟨none, some tag⟩, rest)
  | rest => (⟨none, none⟩, rest)

/-- The full tag, if there is one; its handle must have a stem. -/
def Properties.tag? (stems : List (String × List UInt8)) (properties : Properties) :
    Option (Option (List UInt8)) :=
  match properties.tag with
  | none => some none
  | some tag => (tag.full? stems).map some

/-- Whether a node begins here that is more than left out. -/
def beginsNode : List Token → Bool
  | .alias _ :: _ => true
  | .anchor _ :: _ => true
  | .tag _ :: _ => true
  | .scalar _ _ :: _ => true
  | _ => false

/-- A node and the tokens that follow it. Content that is left out is an empty plain scalar. A tag
    that says no more than that there is one counts only without content. -/
def node? (stems : List (String × List UInt8)) (tokens : List Token) :
    Option (Node × List Token) :=
  match tokens with
  | .alias name :: rest => some (.alias name, rest)
  | tokens => do
    let (properties, rest) := properties tokens
    let tag ← properties.tag? stems
    match rest with
    | .scalar style content :: rest =>
      return (.scalar properties.anchor ⟨style, tag.filter (· != Tag.mark), content⟩, rest)
    | rest => return (.scalar properties.anchor ⟨.plain, tag, ""⟩, rest)

/-! ## Aliases -/

/-- The anchors of a document up to some node, last first. -/
structure Anchors where
  /-- The names with their numbers. -/
  numbers : List (String × Nat)
  /-- The numbers with their nodes, none of which is the mapping itself. -/
  targets : List (Nat × Option Scalar)
  deriving Repr, DecidableEq

namespace Anchors

/-- No anchors. -/
def empty : Anchors := ⟨[], []⟩

/-- The anchors with that of one more node, if it has one. -/
def add (anchors : Anchors) (name : Option String) (target : Option Scalar) : Anchors :=
  match name with
  | none => anchors
  | some name =>
    let number := (anchors.numbers.map Prod.fst).eraseDups.length
    ⟨(name, number) :: anchors.numbers, (number, target) :: anchors.targets⟩

/-- The scalar that a number stands for in the end. -/
def scalar? (anchors : Anchors) (number : Nat) : Option Scalar :=
  (anchors.targets.lookup number).join

end Anchors

/-- A node whose alias is a number. -/
abbrev Numbered := Scalar ⊕ Nat

/-- A node with a number for its alias, and the anchors up to it. -/
def Anchors.number? (anchors : Anchors) : Node → Option (Numbered × Anchors)
  | .scalar name scalar => some (.inl scalar, anchors.add name (some scalar))
  | .alias name => (anchors.numbers.lookup name).map fun number => (.inr number, anchors)

/-- Pairs with numbers for their aliases, and all anchors. -/
def numbered? (anchors : Anchors) :
    List (Node × Node) → Option (List (Numbered × Numbered) × Anchors)
  | [] => some ([], anchors)
  | (key, value) :: pairs => do
    let (key, anchors) ← anchors.number? key
    let (value, anchors) ← anchors.number? value
    let (pairs, anchors) ← numbered? anchors pairs
    return ((key, value) :: pairs, anchors)

/-- The scalar that a node is or stands for. -/
def Anchors.target? (anchors : Anchors) : Numbered → Option Scalar
  | .inl scalar => some scalar
  | .inr number => anchors.scalar? number

/-- The scalars that pairs are or stand for, in a mapping that may itself have an anchor. -/
def scalars? (mapping : Option String) (pairs : List (Node × Node)) :
    Option (List (Scalar × Scalar)) := do
  let (numbered, anchors) ← numbered? (Anchors.empty.add mapping none) pairs
  numbered.mapM fun (key, value) => return (← anchors.target? key, ← anchors.target? value)

end CodeReport.Yaml
