import ClientForge.Json.Parse
import ClientForge.Yaml.Node

/-!
YAML documents read as JSON: the core scalars of YAML 1.2, keys as they are written, and aliases
replaced by what they stand for.
-/

namespace ClientForge.Yaml

/-! ## Plain scalars -/

def nullWords : List String := ["null", "Null", "NULL", "~"]

def boolean? (text : String) : Option Bool :=
  if ["true", "True", "TRUE"].contains text then some true
  else if ["false", "False", "FALSE"].contains text then some false
  else none

/-- The value of digits in a base; there must be at least one. -/
def digits? (base : Nat) (cs : List Char) : Option Nat :=
  if cs.isEmpty then none
  else cs.foldlM (fun n c => ((hexValue? c).filter (· < base)).map (n * base + ·)) 0

/-- Several digits of which the first is a zero; they are no number. -/
def hasLeadingZero (digits : List Char) : Bool :=
  1 < digits.length && digits.head? == some '0' && digits.all Char.isDigit

def magnitude? : List Char → Option Nat
  | '0' :: 'x' :: digits => digits? 16 digits
  | '0' :: 'o' :: digits => digits? 8 digits
  | '0' :: 'b' :: digits => digits? 2 digits
  | digits => if hasLeadingZero digits then none else digits? 10 digits

/-- An integer of at most 128 bits. -/
def integer? : List Char → Option Int
  | '-' :: cs => (magnitude? cs).bind fun n => if n ≤ Nat.pow 2 127 then some (-n) else none
  | '+' :: cs => (magnitude? cs).bind fun n => if n < Nat.pow 2 128 then some n else none
  | cs => (magnitude? cs).bind fun n => if n < Nat.pow 2 128 then some n else none

/-- A finite double in decimal digits, with a digit before or after the point. -/
def decimal? (negative : Bool) (cs : List Char) : Option Json.Binary64 := do
  let whole := cs.takeWhile Char.isDigit
  let (fraction, rest) := match cs.dropWhile Char.isDigit with
    | '.' :: rest => (rest.takeWhile Char.isDigit, rest.dropWhile Char.isDigit)
    | rest => ([], rest)
  if whole.isEmpty ∧ fraction.isEmpty then none
  else
    let (exponent, rest) ← Json.exponent? rest
    if rest.isEmpty then
      Json.Binary64.ofDecimal negative (Json.natOfDigits (whole ++ fraction))
        (exponent - fraction.length)
    else none

/-- The words for infinities and for what is no number. A document has null in their place. -/
def isNotFinite (text : String) : Bool :=
  [".inf", ".Inf", ".INF", "+.inf", "+.Inf", "+.INF", "-.inf", "-.Inf", "-.INF", ".nan", ".NaN",
    ".NAN", "+.nan", "+.NaN", "+.NAN"].contains text

def float? (text : String) : Option Json :=
  if isNotFinite text then some .null
  else
    (match text.toList with
      | '-' :: cs => decimal? true cs
      | '+' :: cs => decimal? false cs
      | cs => decimal? false cs).map fun x => .number (.binary x)

/-- An integer beyond 64 bits is refused. -/
def word? (n : Int) : Option Json := if Json.isWord n then some (.ofInt n) else none

def dropSign : List Char → List Char
  | '-' :: cs => cs
  | '+' :: cs => cs
  | cs => cs

def plainValue? (text : String) : Option Json :=
  if text.isEmpty ∨ nullWords.contains text then some .null
  else
    match boolean? text, integer? text.toList with
    | some b, _ => some (.bool b)
    | none, some n => word? n
    | none, none =>
      if hasLeadingZero (dropSign text.toList) then some (.string text)
      else some ((float? text).getD (.string text))

/-! ## Tags -/

/-- A tag of the application's own; there is nothing to read such a node as. -/
def isLocal (tag : Option String) : Bool := (tag.map (·.startsWith "!")).getD false

/-- The value of a scalar. The tags of the core types insist on their type, quoted or not; any other
tag makes a string. -/
def scalarValue? (text : String) (plain : Bool) (tag : Option String) : Option Json :=
  match tag with
  | none => if plain then plainValue? text else some (.string text)
  | some "tag:yaml.org,2002:bool" => (boolean? text).map .bool
  | some "tag:yaml.org,2002:int" => (integer? text.toList).bind word?
  | some "tag:yaml.org,2002:float" => float? text
  | some "tag:yaml.org,2002:null" => if nullWords.contains text then some .null else none
  | some tag => if tag.startsWith "!" then none else some (.string text)

/-! ## Documents -/

/-- What aliases stand for, and how many of them a document may have replaced. -/
structure Aliases where
  anchors : List (Nat × Node)
  limit : Nat

/-- Counts the aliases replaced. -/
abbrev Replacing := StateT Nat Option

/-- The node itself, not an alias and without its anchor. -/
def Aliases.resolve (aliases : Aliases) : Node → Replacing Node
  | .alias number => do
    modify (· + 1)
    if aliases.limit < (← get) then failure
    else
      match aliases.anchors.lookup number with
      | some node => return node
      | none => failure
  | .anchored _ node => return node
  | node => return node

/-- Collections may be nested in one another so often. -/
def nestingLimit : Nat := 128

/-- The text of a key, which must be a scalar. -/
def Aliases.key (aliases : Aliases) (node : Node) : Replacing String := do
  match ← aliases.resolve node with
  | .scalar text .. => return text
  | _ => failure

/-- The value of a node that may hold so many levels of collections. Of entries with one key the last
counts, in the place of the first. -/
def Aliases.value (aliases : Aliases) : Nat → Node → Replacing Json
  | 0, node => do
    match ← aliases.resolve node with
    | .scalar text plain tag => (scalarValue? text plain tag : Option Json)
    | _ => failure
  | depth + 1, node => do
    match ← aliases.resolve node with
    | .scalar text plain tag => (scalarValue? text plain tag : Option Json)
    | .sequence items tag =>
      if isLocal tag then failure
      else return .array (← items.mapM (aliases.value depth))
    | .mapping entries tag =>
      if isLocal tag then failure
      else
        let rows ← entries.mapM fun (key, value) => do
          return (← aliases.key key, ← aliases.value depth value)
        return .object (Table.ofRows rows)
    | _ => failure

def Node.toJson? (node : Node) : Option Json :=
  let aliases : Aliases := ⟨node.anchors, node.size * 100⟩
  ((aliases.value nestingLimit node).run 0).map (·.1)

/-- Reads a text with at most one document; no document is null. -/
def parse? (text : String) : Option Json := do
  match ← Node.ofTokens? (← tokens? text) with
  | some node => node.toJson?
  | none => return .null

end ClientForge.Yaml
