import ClientForge.Yaml.Scalar
import ClientForge.Yaml.Tag

/-!
YAML as tokens. Indentation becomes explicit starts and ends of block collections. A key is recognised
only at the colon behind it; its token is then put in front of what has been read since.
-/

namespace ClientForge.Yaml

inductive Token where
  | directive (value : Directive)
  | documentStart
  | documentEnd
  | streamEnd
  | blockSequenceStart
  | blockMappingStart
  | blockEnd
  | flowSequenceStart
  | flowSequenceEnd
  | flowMappingStart
  | flowMappingEnd
  | blockEntry
  | flowEntry
  | key
  | value
  | alias (name : String)
  | anchor (name : String)
  | tag (handle suffix : String)
  | scalar (text : String) (plain : Bool)
deriving DecidableEq, Repr

/-- A place where a key may have started. -/
structure KeyStart where
  /-- Nothing but a key can stand here. -/
  required : Bool
  /-- Number of tokens before it. -/
  position : Nat
  index : Nat
  line : Nat
  column : Nat

structure Scanner where
  cursor : Cursor
  /-- The tokens so far, last one first. -/
  tokens : List Token
  indent : Int
  indents : List Int
  /-- The possible key starts, of the innermost flow collection first and of the block last. -/
  keys : List (Option KeyStart)
  keyAllowed : Bool

namespace Scanner

def start (text : List Char) : Scanner := ⟨⟨text, 0, 0, 0⟩, [], -1, [], [none], true⟩

def inFlow (s : Scanner) : Bool := 1 < s.keys.length

def emit (s : Scanner) (token : Token) : Scanner := { s with tokens := token :: s.tokens }

/-- Puts a token after the first `position` ones. -/
def emitAt (s : Scanner) (position : Nat) (token : Token) : Scanner :=
  let later := s.tokens.length - position
  { s with tokens := s.tokens.take later ++ token :: s.tokens.drop later }

def skip (s : Scanner) (n : Nat) : Scanner := { s with cursor := s.cursor.skip n }

/-- Steps over blanks, comments and line breaks. In blocks, a tab may not stand where a key may. -/
def toNextToken : Nat → Scanner → Scanner
  | 0, s => s
  | fuel + 1, s =>
    let tabs := s.inFlow || !s.keyAllowed
    let c := (s.cursor.skipWhile fun ch => ch == ' ' || (tabs && ch == '\t')).skipComment
    if c.atBreak then
      toNextToken fuel { s with cursor := c.takeBreak.2, keyAllowed := s.keyAllowed || !s.inFlow }
    else { s with cursor := c }

/-! ## Keys -/

/-- A key must end on its line, within 1024 characters. -/
def isStale (s : Scanner) (key : KeyStart) : Bool :=
  key.line < s.cursor.line || key.index + 1024 < s.cursor.index

/-- Gives up the keys that have gone stale; a required one is missed. -/
def dropStale? (s : Scanner) : Option Scanner :=
  if s.keys.any fun k => (k.map fun k => s.isStale k && k.required).getD false then none
  else some { s with keys := s.keys.map fun k => k.filter (!s.isStale ·) }

/-- Gives up the innermost key start; a required one is missed. -/
def dropKey? (s : Scanner) : Option Scanner :=
  match s.keys with
  | some key :: keys => if key.required then none else some { s with keys := none :: keys }
  | _ => some s

/-- Notes that a key may start here. -/
def saveKey? (s : Scanner) : Option Scanner :=
  if s.keyAllowed then do
    let s ← s.dropKey?
    let required := !s.inFlow && s.indent == s.cursor.column
    let key : KeyStart :=
      ⟨required, s.tokens.length, s.cursor.index, s.cursor.line, s.cursor.column⟩
    return { s with keys := some key :: s.keys.drop 1 }
  else some s

/-! ## Indentation -/

/-- Opens a block collection at a column, unless one is open there. -/
def openBlock (s : Scanner) (column position : Nat) (token : Token) : Scanner :=
  if s.inFlow then s
  else if s.indent < column then
    { s.emitAt position token with indent := column, indents := s.indent :: s.indents }
  else s

/-- Closes the block collections that are indented further than a column. -/
def closeBlocks (column : Int) : List Int → Scanner → Scanner
  | outer :: indents, s =>
    if column < s.indent then
      closeBlocks column indents { s.emit .blockEnd with indent := outer, indents }
    else s
  | [], s => s

def unindent (s : Scanner) (column : Int) : Scanner :=
  if s.inFlow then s else closeBlocks column s.indents s

/-! ## Tokens -/

def streamEnd? (s : Scanner) : Option Scanner := do
  let s ← (s.unindent (-1)).dropKey?
  return s.emit .streamEnd

def directive? (s : Scanner) : Option Scanner := do
  let s ← (s.unindent (-1)).dropKey?
  let (value, cursor) ← Yaml.directive? (s.cursor.skip 1)
  return { s.emit (.directive value) with cursor, keyAllowed := false }

def documentMark? (s : Scanner) (token : Token) : Option Scanner := do
  let s ← (s.unindent (-1)).dropKey?
  return { (s.skip 3).emit token with keyAllowed := false }

def flowStart? (s : Scanner) (token : Token) : Option Scanner := do
  let s ← s.saveKey?
  return { (s.skip 1).emit token with keys := none :: s.keys, keyAllowed := true }

def flowEnd? (s : Scanner) (token : Token) : Option Scanner := do
  let s ← s.dropKey?
  let keys := if s.inFlow then s.keys.drop 1 else s.keys
  return { (s.skip 1).emit token with keys, keyAllowed := false }

def flowEntry? (s : Scanner) : Option Scanner := do
  let s ← s.dropKey?
  return { (s.skip 1).emit .flowEntry with keyAllowed := true }

/-- Here a block collection may be opened or continued. -/
def blockPoint? (s : Scanner) (token : Token) : Option Scanner :=
  if s.inFlow then some s
  else if s.keyAllowed then some (s.openBlock s.cursor.column s.tokens.length token)
  else none

def blockEntry? (s : Scanner) : Option Scanner := do
  let s ← (← s.blockPoint? .blockSequenceStart).dropKey?
  return { (s.skip 1).emit .blockEntry with keyAllowed := true }

def key? (s : Scanner) : Option Scanner := do
  let s ← (← s.blockPoint? .blockMappingStart).dropKey?
  return { (s.skip 1).emit .key with keyAllowed := !s.inFlow }

def value? (s : Scanner) : Option Scanner :=
  match s.keys with
  | some key :: keys =>
    let s := (s.emitAt key.position .key).openBlock key.column key.position .blockMappingStart
    some { (s.skip 1).emit .value with keys := none :: keys, keyAllowed := false }
  | _ => do
    let s ← s.blockPoint? .blockMappingStart
    return { (s.skip 1).emit .value with keyAllowed := !s.inFlow }

def anchor? (s : Scanner) (token : String → Token) : Option Scanner := do
  let s ← s.saveKey?
  let (name, cursor) ← anchorName? (s.cursor.skip 1)
  return { s.emit (token name) with cursor, keyAllowed := false }

def tag? (s : Scanner) : Option Scanner := do
  let s ← s.saveKey?
  let (handle, suffix, cursor) ← Yaml.tag? s.inFlow s.cursor
  return { s.emit (.tag handle suffix) with cursor, keyAllowed := false }

def block? (s : Scanner) (literal : Bool) : Option Scanner := do
  let s ← s.dropKey?
  let (text, cursor) ← Yaml.block? literal s.indent (s.cursor.skip 1)
  return { s.emit (.scalar (String.ofList text) false) with cursor, keyAllowed := true }

def quoted? (s : Scanner) (quote : Char) : Option Scanner := do
  let s ← s.saveKey?
  let (text, cursor) ← Yaml.quoted? quote (s.cursor.rest.length + 1) (s.cursor.skip 1)
  return { s.emit (.scalar (String.ofList text) false) with cursor, keyAllowed := false }

def plain? (s : Scanner) : Option Scanner := do
  let s ← s.saveKey?
  let (text, broken, cursor) ←
    Yaml.plain? s.inFlow (s.indent + 1) (s.cursor.rest.length + 1) Gap.none s.cursor
  return { s.emit (.scalar (String.ofList text) true) with cursor, keyAllowed := broken }

/-- Characters that no plain scalar starts with. -/
def indicators : List Char :=
  ['-', '?', ':', ',', '[', ']', '\x7b', '\x7d', '#', '&', '*', '!', '|', '>', '\'', '"', '%', '@',
   Char.ofNat 0x60]

/-- Reads the next token, the cursor being right before it. -/
def token? (s : Scanner) : Option Scanner :=
  let c := s.cursor
  match c.rest.head? with
  | none => s.streamEnd?
  | some ch =>
    if c.column = 0 ∧ ch = '%' then s.directive?
    else if c.atDocumentMark then s.documentMark? (if ch = '-' then .documentStart else .documentEnd)
    else if ch = '[' then s.flowStart? .flowSequenceStart
    else if ch = '\x7b' then s.flowStart? .flowMappingStart
    else if ch = ']' then s.flowEnd? .flowSequenceEnd
    else if ch = '\x7d' then s.flowEnd? .flowMappingEnd
    else if ch = ',' then s.flowEntry?
    else if ch = '-' ∧ c.isSeparated 1 then s.blockEntry?
    else if ch = '?' ∧ (s.inFlow ∨ c.isSeparated 1) then s.key?
    else if ch = ':' ∧ (s.inFlow ∨ c.isSeparated 1) then s.value?
    else if ch = '*' then s.anchor? .alias
    else if ch = '&' then s.anchor? .anchor
    else if ch = '!' then s.tag?
    else if ch = '|' ∧ !s.inFlow then s.block? true
    else if ch = '>' ∧ !s.inFlow then s.block? false
    else if ch = '\'' ∨ ch = '"' then s.quoted? ch
    else if !(isBlank ch || isBreak ch || indicators.contains ch) ∨ ch = '-' ∨
        (!s.inFlow ∧ (ch = '?' ∨ ch = ':')) then s.plain?
    else none

/-- Reads tokens up to the end of the text. -/
def scan? : Nat → Scanner → Option (List Token)
  | 0, _ => none
  | fuel + 1, s =>
    match s.tokens with
    | .streamEnd :: _ => some s.tokens.reverse
    | _ => do
      let s ← (s.toNextToken (s.cursor.rest.length + 1)).dropStale?
      scan? fuel (← (s.unindent s.cursor.column).token?)

end Scanner

/-- The tokens of a text; byte order marks at its start say nothing. -/
def tokens? (text : String) : Option (List Token) :=
  let cs := match text.toList with
    | '\ufeff' :: '\ufeff' :: cs => cs
    | '\ufeff' :: cs => cs
    | cs => cs
  if cs.all isAllowed then Scanner.scan? (2 * cs.length + 4) (.start cs) else none

end ClientForge.Yaml
