import ClientForge.Template.Basic
import ClientForge.Text.Blank

/-!
Reading templates. Values stand in double braces, statements in a brace and a percent sign, comments
in a brace and a number sign; a hyphen inside such a tag takes away the blanks of the text next to
it.

Only a part of Tera is read: text, values with filters that take no arguments, conditions that are a
value or compare two of them with `==` or `>`, their `elif` and `else`, and loops over one variable.
A template with anything else does not parse: `set`, `include`, `extends`, blocks and macros, `raw`,
`filter`, loops with a key or an `else`, arithmetic, `and`, `or`, `not`, `in`, `is` and the other
comparisons, calls of functions, filters with arguments, arrays and fields in brackets.
-/

namespace ClientForge.Template

inductive TagKind where
  | value
  | statement
deriving DecidableEq, Repr

inductive Token where
  /-- An identifier with the fields that follow it. -/
  | word (name : String) (fields : List String)
  | text (value : String)
  | integer (value : Int)
  | pipe
  | equals
  | exceeds
deriving DecidableEq, Repr

inductive Piece where
  | text (value : List Char)
  | tag (kind : TagKind) (tokens : List Token)
deriving Repr

/-! ## Tokens -/

def isWordStart (c : Char) : Bool := c.isAlpha || c == '_'

def isWordChar (c : Char) : Bool := c.isAlphanum || c == '_'

/-- The fields after an identifier, each a dot and one or more word characters. -/
def takeFields : Nat → List Char → List String × List Char
  | fuel + 1, '.' :: c :: rest =>
    if isWordChar c then
      let field := c :: rest.takeWhile isWordChar
      let (fields, rest) := takeFields fuel (rest.dropWhile isWordChar)
      (String.ofList field :: fields, rest)
    else ([], '.' :: c :: rest)
  | _, cs => ([], cs)

/-- A text up to its closing quote. -/
def takeQuoted (quote : Char) (cs : List Char) : Option (Token × List Char) :=
  match cs.dropWhile (· ≠ quote) with
  | _ :: rest => some (.text (String.ofList (cs.takeWhile (· ≠ quote))), rest)
  | [] => none

def takeToken (cs : List Char) : Option (Token × List Char) :=
  match cs with
  | '|' :: rest => some (.pipe, rest)
  | '=' :: '=' :: rest => some (.equals, rest)
  | '>' :: rest => some (.exceeds, rest)
  | c :: rest =>
    if c = '"' ∨ c = '\'' ∨ c.toNat = 0x60 then takeQuoted c rest
    else if c.isDigit then
      let n : Nat := (cs.takeWhile Char.isDigit).foldl (fun n d => n * 10 + (d.toNat - '0'.toNat)) 0
      some (.integer n, cs.dropWhile Char.isDigit)
    else if isWordStart c then
      let (fields, after) := takeFields rest.length (rest.dropWhile isWordChar)
      some (.word (String.ofList (cs.takeWhile isWordChar)) fields, after)
    else none
  | [] => none

/-- The end of a tag: whether it trims the text after it, and that text. -/
def tagEnd? (kind : TagKind) (cs : List Char) : Option (Bool × List Char) :=
  let mark := match kind with
    | .value => '\x7d'
    | .statement => '%'
  match cs with
  | '-' :: c :: '\x7d' :: rest => if c = mark then some (true, rest) else none
  | c :: '\x7d' :: rest => if c = mark then some (false, rest) else none
  | _ => none

/-- The tokens of a tag up to its end. -/
def tagBody (kind : TagKind) : Nat → List Char → Option (List Token × Bool × List Char)
  | 0, _ => none
  | fuel + 1, cs =>
    let cs := cs.dropWhile Text.isBlank
    match tagEnd? kind cs with
    | some (trims, rest) => some ([], trims, rest)
    | none => do
      let (token, rest) ← takeToken cs
      let (tokens, trims, rest) ← tagBody kind fuel rest
      return (token :: tokens, trims, rest)

/-- The rest of a comment: whether it trims the text after it, and that text. -/
def commentEnd : List Char → Option (Bool × List Char)
  | '-' :: '#' :: '\x7d' :: rest => some (true, rest)
  | '#' :: '\x7d' :: rest => some (false, rest)
  | _ :: rest => commentEnd rest
  | [] => none

/-- A hyphen at the start of a tag. -/
def takeHyphen : List Char → Bool × List Char
  | '-' :: rest => (true, rest)
  | cs => (false, cs)

def textPiece (trimStart trimEnd : Bool) (text : List Char) : List Piece :=
  let text := if trimStart then text.dropWhile Text.isBlank else text
  let text := if trimEnd then Text.dropEndWhile Text.isBlank text else text
  if text.isEmpty then [] else [.text text]

/-- Cuts a template into texts and tags. `text` is the text read so far, last character first, and
`trimStart` tells whether its leading blanks go. -/
def pieces : Nat → Bool → List Char → List Char → Option (List Piece)
  | 0, _, _, _ => none
  | fuel + 1, trimStart, text, cs =>
    match cs with
    | [] => some (textPiece trimStart false text.reverse)
    | '\x7b' :: '\x7b' :: rest => tag fuel trimStart text .value rest
    | '\x7b' :: '%' :: rest => tag fuel trimStart text .statement rest
    | '\x7b' :: '#' :: rest => do
      let (trimEnd, rest) := takeHyphen rest
      let (trims, rest) ← commentEnd rest
      let after ← pieces fuel trims [] rest
      return textPiece trimStart trimEnd text.reverse ++ after
    | c :: rest => pieces fuel trimStart (c :: text) rest
where
  /-- A tag after some text. -/
  tag (fuel : Nat) (trimStart : Bool) (text : List Char) (kind : TagKind) (rest : List Char) :
      Option (List Piece) := do
    let (trimEnd, rest) := takeHyphen rest
    let (tokens, trims, rest) ← tagBody kind (rest.length + 1) rest
    let after ← pieces fuel trims [] rest
    return textPiece trimStart trimEnd text.reverse ++ .tag kind tokens :: after

/-! ## Expressions and nodes -/

def operand? : List Token → Option (Operand × List Token)
  | .word name fields :: rest =>
    if fields.isEmpty ∧ (name = "true" ∨ name = "True") then some (.bool true, rest)
    else if fields.isEmpty ∧ (name = "false" ∨ name = "False") then some (.bool false, rest)
    else some (.path name fields, rest)
  | .text s :: rest => some (.text s, rest)
  | .integer n :: rest => some (.integer n, rest)
  | _ => none

def filters : List Token → List String × List Token
  | .pipe :: .word name [] :: rest =>
    let (names, rest) := filters rest
    (name :: names, rest)
  | rest => ([], rest)

def expression? (tokens : List Token) : Option (Expression × List Token) := do
  let (operand, rest) ← operand? tokens
  let (names, rest) := filters rest
  return (⟨operand, names⟩, rest)

def condition? (tokens : List Token) : Option Condition := do
  let (left, rest) ← expression? tokens
  match rest with
  | [] => return .holds left
  | .equals :: rest =>
    let (right, rest) ← expression? rest
    if rest.isEmpty then return .equals left right else none
  | .exceeds :: rest =>
    let (right, rest) ← expression? rest
    if rest.isEmpty then return .exceeds left right else none
  | _ => none

/-- A statement that ends the nodes before it. -/
inductive Closing where
  | otherwise
  | otherwiseIf (condition : Condition)
  | endIf
  | endFor

def closing? : List Token → Option Closing
  | [.word "else" []] => some .otherwise
  | [.word "endif" []] => some .endIf
  | [.word "endfor" []] => some .endFor
  | .word "elif" [] :: rest => (condition? rest).map .otherwiseIf
  | _ => none

mutual

/-- The nodes up to the end or to a closing statement, that statement, and what follows it. -/
def nodes? : Nat → List Piece → Option (List Node × Option Closing × List Piece)
  | 0, _ => none
  | fuel + 1, pieces =>
    match pieces with
    | [] => some ([], none, [])
    | .text s :: rest => do
      let (nodes, closing, rest) ← nodes? fuel rest
      return (.text (String.ofList s) :: nodes, closing, rest)
    | .tag .value tokens :: rest => do
      let (e, extra) ← expression? tokens
      if extra.isEmpty then
        let (nodes, closing, rest) ← nodes? fuel rest
        return (.value e :: nodes, closing, rest)
      else none
    | .tag .statement (.word "if" [] :: tokens) :: rest => do
      let (node, rest) ← branch? fuel (← condition? tokens) rest
      let (nodes, closing, rest) ← nodes? fuel rest
      return (node :: nodes, closing, rest)
    | .tag .statement (.word "for" [] :: .word name [] :: .word "in" [] :: tokens) :: rest => do
      let (container, extra) ← expression? tokens
      let (body, closing, rest) ← nodes? fuel rest
      match extra, closing with
      | [], some .endFor =>
        let (nodes, closing, rest) ← nodes? fuel rest
        return (.each name container body :: nodes, closing, rest)
      | _, _ => none
    | .tag .statement tokens :: rest => (closing? tokens).map fun closing => ([], some closing, rest)

/-- A condition's node, from behind its tag up to and including its end. -/
def branch? : Nat → Condition → List Piece → Option (Node × List Piece)
  | 0, _, _ => none
  | fuel + 1, condition, pieces => do
    let (yes, closing, rest) ← nodes? fuel pieces
    match closing with
    | some .endIf => return (.branch condition yes [], rest)
    | some .otherwise =>
      let (no, closing, rest) ← nodes? fuel rest
      match closing with
      | some .endIf => return (.branch condition yes no, rest)
      | _ => none
    | some (.otherwiseIf next) =>
      let (no, rest) ← branch? fuel next rest
      return (.branch condition yes [no], rest)
    | _ => none

end

end ClientForge.Template

namespace ClientForge

/-- The template that a text spells. -/
def Template.parse? (source : String) : Option Template := do
  let cs := source.toList
  let pieces ← Template.pieces (cs.length + 1) false [] cs
  let (nodes, closing, _) ← Template.nodes? (2 * pieces.length + 2) pieces
  if closing.isNone then return nodes else none

end ClientForge
