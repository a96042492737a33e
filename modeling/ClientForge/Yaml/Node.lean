import ClientForge.Table
import ClientForge.Yaml.Token

/-!
The tree that the tokens of a YAML document spell. Anchors are numbered by the count of distinct
anchor names before them, so two anchors can share a number; the later one then counts, also for
aliases between them.
-/

namespace ClientForge.Yaml

inductive Node where
  | alias (number : Nat)
  | scalar (text : String) (plain : Bool) (tag : Option String)
  | sequence (items : List Node) (tag : Option String)
  | mapping (entries : List (Node × Node)) (tag : Option String)
  | anchored (number : Nat) (node : Node)
deriving Inhabited

namespace Node

def empty : Node := .scalar "" true none

mutual

/-- The number of scalars, aliases, and starts and ends of collections. -/
def size : Node → Nat
  | .alias _ => 1
  | .scalar .. => 1
  | .sequence items _ => 2 + sizeOfItems items
  | .mapping entries _ => 2 + sizeOfEntries entries
  | .anchored _ node => node.size

def sizeOfItems : List Node → Nat
  | [] => 0
  | node :: rest => node.size + sizeOfItems rest

def sizeOfEntries : List (Node × Node) → Nat
  | [] => 0
  | (key, value) :: rest => key.size + value.size + sizeOfEntries rest

end

mutual

/-- The anchored nodes by number, those that start later first. -/
def anchors : Node → List (Nat × Node)
  | .alias _ => []
  | .scalar .. => []
  | .sequence items _ => anchorsOfItems items
  | .mapping entries _ => anchorsOfEntries entries
  | .anchored number node => node.anchors ++ [(number, node)]

def anchorsOfItems : List Node → List (Nat × Node)
  | [] => []
  | node :: rest => anchorsOfItems rest ++ node.anchors

def anchorsOfEntries : List (Node × Node) → List (Nat × Node)
  | [] => []
  | (key, value) :: rest => anchorsOfEntries rest ++ value.anchors ++ key.anchors

end

end Node

/-! ## From tokens -/

structure TokenReader where
  tokens : List Token
  /-- What each anchor name stands for so far. -/
  names : List (String × Nat)
  /-- What the tag handles stand for. -/
  handles : List (String × String)

abbrev Reading := StateT TokenReader Option

namespace Reading

def peek : Reading (Option Token) := do return (← get).tokens.head?

def skip : Reading Unit := modify fun r => { r with tokens := r.tokens.drop 1 }

/-- The next token is one of these. -/
def sees (tokens : List Token) : Reading Bool := do
  return ((← peek).map tokens.contains).getD false

def skipIf (token : Token) : Reading Bool := do
  if ← sees [token] then skip; return true else return false

def expect (token : Token) : Reading Unit := do
  if ← skipIf token then return () else failure

def anchor? : Reading (Option String) := do
  match ← peek with
  | some (.anchor name) => skip; return some name
  | _ => return none

/-- A tag in full: its handle is replaced by what it stands for. -/
def tag? : Reading (Option String) := do
  match ← peek with
  | some (.tag handle suffix) =>
    skip
    if handle.isEmpty then return some suffix
    else
      let meaning ← ((← get).handles.lookup handle : Option String)
      return some (meaning ++ suffix)
  | _ => return none

/-- An anchor and a tag in either order. -/
def properties : Reading (Option String × Option String) := do
  match ← anchor? with
  | some name => return (some name, ← tag?)
  | none =>
    match ← tag? with
    | some tag => return (← anchor?, some tag)
    | none => return (none, none)

/-- Numbers an anchor. -/
def number (name : String) : Reading Nat := do
  let n := (← get).names.length
  modify fun r => { r with names := Table.insert name n r.names }
  return n

mutual

/-- Reads a node. Outside flow collections it may be a block, and after a key or a value its sequence
may stand at the mapping's own indentation. -/
def node (block indentless : Bool) : Nat → Reading Node
  | 0 => failure
  | fuel + 1 => do
    match ← peek with
    | some (.alias name) =>
      skip
      return .alias (← ((← get).names.lookup name : Option Nat))
    | _ =>
      match ← properties with
      | (none, tag) => content block indentless false tag fuel
      | (some name, tag) =>
        let n ← number name
        return .anchored n (← content block indentless true tag fuel)

def content (block indentless anchored : Bool) (tag : Option String) : Nat → Reading Node
  | 0 => failure
  | fuel + 1 => do
    match ← peek with
    | some (.scalar text plain) =>
      skip
      return .scalar text plain (tag.filter (· ≠ "!"))
    | some .flowSequenceStart => skip; return .sequence (← flowItems true fuel) tag
    | some .flowMappingStart => skip; return .mapping (← flowEntries true fuel) tag
    | token =>
      if indentless ∧ token = some .blockEntry then
        return .sequence (← indentlessItems fuel) tag
      else if block ∧ token = some .blockSequenceStart then
        skip; return .sequence (← blockItems fuel) tag
      else if block ∧ token = some .blockMappingStart then
        skip; return .mapping (← blockEntries fuel) tag
      else if anchored || tag.isSome then return .scalar "" true tag
      else failure

/-- A node of a block, or nothing if the next token is one of these. -/
def blockNode (indentless : Bool) (stops : List Token) : Nat → Reading Node
  | 0 => failure
  | fuel + 1 => do
    if ← sees stops then return .empty else node true indentless fuel

def blockItems : Nat → Reading (List Node)
  | 0 => failure
  | fuel + 1 => do
    if ← skipIf .blockEntry then
      let item ← blockNode false [.blockEntry, .blockEnd] fuel
      return item :: (← blockItems fuel)
    else
      expect .blockEnd
      return []

def indentlessItems : Nat → Reading (List Node)
  | 0 => failure
  | fuel + 1 => do
    if ← skipIf .blockEntry then
      let item ← blockNode false [.blockEntry, .key, .value, .blockEnd] fuel
      return item :: (← indentlessItems fuel)
    else return []

def blockEntries : Nat → Reading (List (Node × Node))
  | 0 => failure
  | fuel + 1 => do
    if ← skipIf .key then
      let key ← blockNode true [.key, .value, .blockEnd] fuel
      let value ←
        if ← skipIf .value then blockNode true [.key, .value, .blockEnd] fuel
        else pure .empty
      return (key, value) :: (← blockEntries fuel)
    else
      expect .blockEnd
      return []

/-- A node of a flow collection, or nothing if the next token is one of these. -/
def flowNode (stops : List Token) : Nat → Reading Node
  | 0 => failure
  | fuel + 1 => do
    if ← sees stops then return .empty else node false false fuel

/-- The value of a flow pair whose key has been read. -/
def flowValue (close : Token) : Nat → Reading Node
  | 0 => failure
  | fuel + 1 => do
    if ← skipIf .value then flowNode [.flowEntry, close] fuel else return .empty

/-- A pair in a flow sequence, after its key token. A key left out takes the token that shows its
absence with it. -/
def flowPair : Nat → Reading Node
  | 0 => failure
  | fuel + 1 => do
    let key ←
      if ← sees [.value, .flowEntry, .flowSequenceEnd] then skip; pure .empty
      else node false false fuel
    return .mapping [(key, ← flowValue .flowSequenceEnd fuel)] none

def flowItems (first : Bool) : Nat → Reading (List Node)
  | 0 => failure
  | fuel + 1 => do
    if ← skipIf .flowSequenceEnd then return []
    else
      if !first then expect .flowEntry
      if ← skipIf .key then
        let item ← flowPair fuel
        return item :: (← flowItems false fuel)
      else if ← skipIf .flowSequenceEnd then return []
      else
        let item ← node false false fuel
        return item :: (← flowItems false fuel)

def flowEntries (first : Bool) : Nat → Reading (List (Node × Node))
  | 0 => failure
  | fuel + 1 => do
    if ← skipIf .flowMappingEnd then return []
    else
      if !first then expect .flowEntry
      if ← skipIf .key then
        let key ← flowNode [.value, .flowEntry, .flowMappingEnd] fuel
        let value ← flowValue .flowMappingEnd fuel
        return (key, value) :: (← flowEntries false fuel)
      else if ← skipIf .flowMappingEnd then return []
      else
        let key ← node false false fuel
        return (key, .empty) :: (← flowEntries false fuel)

end

/-! ## Documents -/

/-- Handles that need no directive. -/
def standardHandles : List (String × String) := [("!", "!"), ("!!", "tag:yaml.org,2002:")]

/-- Reads directives: one version at most, which is 1.1 or 1.2, and each handle once. -/
def directives (versioned : Bool) (handles : List (String × String)) :
    List Token → Option (Bool × List (String × String) × List Token)
  | .directive (.version major minor) :: rest =>
    if versioned || major != 1 || !(minor == 1 || minor == 2) then none
    else directives true handles rest
  | .directive (.tag handle meaning) :: rest =>
    if handles.any (·.1 == handle) then none
    else directives versioned (handles ++ [(handle, meaning)]) rest
  | tokens => some (versioned, handles, tokens)

/-- Reads the node of a document, and the marks that end it. -/
def document (content : Reading Node) (handles : List (String × String)) (tokens : List Token) :
    Option (Node × List Token) := do
  let (node, reader) ← content.run ⟨tokens, [], handles ++ standardHandles⟩
  return (node, reader.tokens.dropWhile (· == .documentEnd))

end Reading

/-- The node of a text with one document; `none` inside if it has no document at all. -/
def Node.ofTokens? (tokens : List Token) : Option (Option Node) := do
  let fuel := 4 * tokens.length + 8
  if tokens = [.streamEnd] then return none
  else
    let (versioned, handles, rest) ← Reading.directives false [] tokens
    let (node, rest) ←
      match rest with
      | .documentStart :: rest =>
        Reading.document
          (Reading.blockNode false [.documentStart, .documentEnd, .streamEnd] fuel) handles rest
      | _ =>
        if versioned || !handles.isEmpty then none
        else Reading.document (Reading.node true false fuel) [] rest
    if rest = [.streamEnd] then return some node else none

end ClientForge.Yaml
