/-!
A place in a YAML text: what is still to be read, and the position for indentation.
-/

namespace ClientForge.Yaml

def isBreak (c : Char) : Bool :=
  c == '\n' || c == '\r' || c == '\u0085' || c == '\u2028' || c == '\u2029'

def isBlank (c : Char) : Bool := c == ' ' || c == '\t'

/-- Characters of anchors, tag handles and directive names. -/
def isWordChar (c : Char) : Bool := c.isAlphanum || c == '_' || c == '-'

/-- Characters that a text may hold at all. -/
def isAllowed (c : Char) : Bool :=
  let n := c.toNat
  n == 0x09 || n == 0x0A || n == 0x0D || (0x20 ≤ n && n ≤ 0x7E) || n == 0x85 ||
    (0xA0 ≤ n && n ≤ 0xFFFD) || 0x10000 ≤ n

structure Cursor where
  rest : List Char
  index : Nat
  line : Nat
  column : Nat

namespace Cursor

def peek? (c : Cursor) (n : Nat) : Option Char := c.rest[n]?

def startsWith (c : Cursor) (ch : Char) : Bool := c.rest.head? == some ch

/-- The character `n` places ahead is a blank, a line break or the end. -/
def isSeparated (c : Cursor) (n : Nat) : Bool :=
  match c.peek? n with
  | some ch => isBlank ch || isBreak ch
  | none => true

def atBlank (c : Cursor) : Bool := (c.rest.head?.map isBlank).getD false

def atBreak (c : Cursor) : Bool := (c.rest.head?.map isBreak).getD false

def atBreakOrEnd (c : Cursor) : Bool := (c.rest.head?.map isBreak).getD true

/-- Steps over `n` characters of the line. -/
def skip (c : Cursor) (n : Nat) : Cursor :=
  { c with rest := c.rest.drop n, index := c.index + n, column := c.column + n }

/-- Reads a line break: a line feed, unless it is one of the two Unicode separators. -/
def takeBreak (c : Cursor) : List Char × Cursor :=
  let below (text : List Char) (rest : List Char) (n : Nat) : List Char × Cursor :=
    (text, ⟨rest, c.index + n, c.line + 1, 0⟩)
  match c.rest with
  | '\r' :: '\n' :: rest => below ['\n'] rest 2
  | '\u2028' :: rest => below ['\u2028'] rest 1
  | '\u2029' :: rest => below ['\u2029'] rest 1
  | ch :: rest => if isBreak ch then below ['\n'] rest 1 else ([], c)
  | [] => ([], c)

def skipWhile (c : Cursor) (p : Char → Bool) : Cursor := c.skip (c.rest.takeWhile p).length

def skipBlanks (c : Cursor) : Cursor := c.skipWhile isBlank

/-- Steps over a comment, up to the end of the line. -/
def skipComment (c : Cursor) : Cursor :=
  if c.startsWith '#' then c.skipWhile (!isBreak ·) else c

/-- Three dashes or three dots alone at the start of a line. -/
def atDocumentMark (c : Cursor) : Bool :=
  c.column == 0 && (['-', '-', '-'].isPrefixOf c.rest || ['.', '.', '.'].isPrefixOf c.rest) &&
    c.isSeparated 3

/-- The blanks and comment that may end a line, and the line break. -/
def endLine? (c : Cursor) : Option Cursor :=
  let c := c.skipBlanks.skipComment
  if c.atBreakOrEnd then some c.takeBreak.2 else none

end Cursor

end ClientForge.Yaml
