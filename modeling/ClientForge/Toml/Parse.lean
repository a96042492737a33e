import ClientForge.Toml.Scalar
import ClientForge.Toml.Value

/-!
Reading TOML 1.0.
-/

namespace ClientForge.Toml

/-- Nesting that arrays, inline tables and dotted keys may have. -/
def nestingLimit : Nat := 79

def skipBlanks (cs : List Char) : List Char := cs.dropWhile fun c => c = ' ' ∨ c = '\t'

/-- A line end at the front. -/
def dropNewline? : List Char → Option (List Char)
  | '\n' :: rest => some rest
  | '\r' :: '\n' :: rest => some rest
  | _ => none

/-- Control characters other than the tab may stand nowhere. -/
def isForbidden (c : Char) : Bool := (c.toNat < 0x20 && c != '\t') || c.toNat == 0x7f

/-- An optional comment, up to but not including the line end. -/
def dropComment? (cs : List Char) : Option (List Char) :=
  match cs with
  | '#' :: rest =>
    let after := rest.dropWhile fun c => !isForbidden c
    if after.isEmpty || (dropNewline? after).isSome then some after else none
  | _ => some cs

/-- Blanks, comments and line ends. -/
def skipLines? : Nat → List Char → Option (List Char)
  | 0, cs => some cs
  | fuel + 1, cs => do
    let rest ← dropComment? (skipBlanks cs)
    match dropNewline? rest with
    | some rest => skipLines? fuel rest
    | none => some rest

/-- Nothing but a comment before the line ends. -/
def endLine? (cs : List Char) : Option (List Char) := do
  let rest ← dropComment? (skipBlanks cs)
  if rest.isEmpty then some [] else dropNewline? rest

/-! ## Texts -/

/-- The character of a code point written with so many hexadecimal digits. -/
def codePoint? (count : Nat) (cs : List Char) : Option (Char × List Char) :=
  let digits := cs.take count
  let n := runValue 16 digits
  if digits.length = count ∧ digits.all isHexDigit ∧ n.isValidChar then
    some (Char.ofNat n, cs.drop count)
  else none

/-- The character of an escape after its backslash. -/
def escape? : List Char → Option (Char × List Char)
  | 'b' :: rest => some ('\x08', rest)
  | 't' :: rest => some ('\t', rest)
  | 'n' :: rest => some ('\n', rest)
  | 'f' :: rest => some ('\x0c', rest)
  | 'r' :: rest => some ('\r', rest)
  | '"' :: rest => some ('"', rest)
  | '\\' :: rest => some ('\\', rest)
  | 'u' :: rest => codePoint? 4 rest
  | 'U' :: rest => codePoint? 8 rest
  | _ => none

/-- The rest of a one-line text. -/
def lineText? (quote : Char) : Nat → List Char → Option (List Char × List Char)
  | 0, _ => none
  | fuel + 1, cs =>
    match cs with
    | [] => none
    | c :: rest =>
      if c = quote then some ([], rest)
      else if isForbidden c then none
      else do
        let (c, rest) ← if c = '\\' ∧ quote = '"' then escape? rest else some (c, rest)
        let (body, rest) ← lineText? quote fuel rest
        return (c :: body, rest)

/-- The line end after a backslash, with all blanks and line ends that follow; at least the line
end must be there. -/
def dropContinuation? (cs : List Char) : Option (List Char) :=
  (dropNewline? (skipBlanks cs)).map skip
where
  /-- Blanks and line ends. -/
  skip (cs : List Char) : List Char :=
    match cs with
    | ' ' :: rest => skip rest
    | '\t' :: rest => skip rest
    | '\n' :: rest => skip rest
    | '\r' :: '\n' :: rest => skip rest
    | rest => rest

/-- The rest of a text over several lines. Up to two quotes may stand right before the closing
three. -/
def longText? (quote : Char) : Nat → List Char → Option (List Char × List Char)
  | 0, _ => none
  | fuel + 1, cs =>
    match cs with
    | [] => none
    | c :: rest =>
      if c = quote then
        let run := (cs.takeWhile (· = quote)).length
        if run < 3 then do
          let (body, rest) ← longText? quote fuel (cs.drop run)
          return (List.replicate run quote ++ body, rest)
        else if run ≤ 5 then some (List.replicate (run - 3) quote, cs.drop run)
        else none
      else
        match dropNewline? cs with
        | some rest => do
          let (body, rest) ← longText? quote fuel rest
          return ('\n' :: body, rest)
        | none =>
          if isForbidden c then none
          else if c = '\\' ∧ quote = '"' then
            match dropContinuation? rest with
            | some rest => longText? quote fuel rest
            | none => do
              let (c, rest) ← escape? rest
              let (body, rest) ← longText? quote fuel rest
              return (c :: body, rest)
          else do
            let (body, rest) ← longText? quote fuel rest
            return (c :: body, rest)

/-- A text after its first quote. -/
def text? (quote : Char) (cs : List Char) : Option (String × List Char) :=
  let parsed :=
    match cs with
    | a :: b :: rest =>
      if a = quote ∧ b = quote then
        let rest := (dropNewline? rest).getD rest
        longText? quote (rest.length + 1) rest
      else lineText? quote (cs.length + 1) cs
    | _ => lineText? quote (cs.length + 1) cs
  parsed.map fun (body, rest) => (String.ofList body, rest)

/-- Two quotes with no third one are the empty text. -/
def quoted? (quote : Char) (cs : List Char) : Option (String × List Char) :=
  match cs with
  | a :: b :: _ => if a = quote ∧ b ≠ quote then some ("", cs.drop 1) else text? quote cs
  | [a] => if a = quote then some ("", []) else none
  | [] => none

/-! ## Keys -/

def isBareKeyChar (c : Char) : Bool := c.isAlphanum || c == '_' || c == '-'

def simpleKey? (cs : List Char) : Option (String × List Char) :=
  match cs with
  | '"' :: rest =>
    (lineText? '"' (rest.length + 1) rest).map fun (body, rest) => (String.ofList body, rest)
  | '\'' :: rest =>
    (lineText? '\'' (rest.length + 1) rest).map fun (body, rest) => (String.ofList body, rest)
  | _ =>
    let key := cs.takeWhile isBareKeyChar
    if key.isEmpty then none else some (String.ofList key, cs.dropWhile isBareKeyChar)

/-- Keys joined by dots, with at most so many parts. -/
def dottedKey? : Nat → List Char → Option (List String × List Char)
  | 0, _ => none
  | fuel + 1, cs => do
    let (key, rest) ← simpleKey? (skipBlanks cs)
    match skipBlanks rest with
    | '.' :: rest =>
      let (keys, rest) ← dottedKey? fuel rest
      return (key :: keys, rest)
    | rest => return ([key], rest)

/-! ## Values -/

mutual

/-- A value at the front, with at most `depth` levels of nesting. -/
def value? : Nat → Nat → List Char → Option (Value × List Char)
  | 0, _, _ => none
  | fuel + 1, depth, cs =>
    match cs with
    | '"' :: rest => (quoted? '"' rest).map fun (s, r) => (.text s, r)
    | '\'' :: rest => (quoted? '\'' rest).map fun (s, r) => (.text s, r)
    | '[' :: rest =>
      match depth with
      | 0 => none
      | depth + 1 => (items? fuel depth rest).map fun (items, r) => (.array items, r)
    | '\x7b' :: rest =>
      match depth with
      | 0 => none
      | depth + 1 =>
        match skipBlanks rest with
        | '\x7d' :: rest => some (.table .inline [], rest)
        | rest => (pairs? fuel depth [] rest).map fun (rows, r) => (.table .inline rows, r)
    | _ => (dropScalar? cs).map (.scalar, ·)

/-- The rest of an array. -/
def items? : Nat → Nat → List Char → Option (List Value × List Char)
  | 0, _, _ => none
  | fuel + 1, depth, cs => do
    match ← skipLines? cs.length cs with
    | ']' :: rest => return ([], rest)
    | rest =>
      let (item, rest) ← value? fuel depth rest
      match ← skipLines? rest.length rest with
      | ',' :: rest =>
        let (items, rest) ← items? fuel depth rest
        return (item :: items, rest)
      | ']' :: rest => return ([item], rest)
      | _ => none

/-- The rest of an inline table that has a row to come. -/
def pairs? : Nat → Nat → Rows → List Char → Option (Rows × List Char)
  | 0, _, _, _ => none
  | fuel + 1, depth, rows, cs => do
    let (path, rest) ← dottedKey? nestingLimit cs
    match rest with
    | '=' :: rest =>
      let (value, rest) ← value? fuel depth (skipBlanks rest)
      let rows ← assign? path value .header rows
      match skipBlanks rest with
      | ',' :: rest => pairs? fuel depth rows rest
      | '\x7d' :: rest => return (rows, rest)
      | _ => none
    | _ => none

end

/-! ## Documents -/

/-- Adds a value below the table that the last header opened. -/
def assignBelow? (header path : List String) (value : Value) (document : Rows) : Option Rows :=
  descend? false (assign? path value) header .header document

/-- The lines from here on, put into a document whose last header is `header`. -/
def lines? : Nat → List String → Rows → List Char → Option Rows
  | 0, _, _, _ => none
  | fuel + 1, header, document, cs => do
    match skipBlanks (← skipLines? cs.length cs) with
    | [] => return document
    | '[' :: '[' :: rest =>
      let (path, rest) ← dottedKey? nestingLimit rest
      match rest with
      | ']' :: ']' :: rest => lines? fuel path (← openElement? path document) (← endLine? rest)
      | _ => none
    | '[' :: rest =>
      let (path, rest) ← dottedKey? nestingLimit rest
      match rest with
      | ']' :: rest => lines? fuel path (← openTable? path document) (← endLine? rest)
      | _ => none
    | rest =>
      let (path, rest) ← dottedKey? nestingLimit rest
      match rest with
      | '=' :: rest =>
        let (value, rest) ← value? (2 * rest.length + 2) nestingLimit (skipBlanks rest)
        lines? fuel header (← assignBelow? header path value document) (← endLine? rest)
      | _ => none

/-- The rows of the document that a text spells; a byte order mark may come first. -/
def parse? (text : String) : Option Rows :=
  let cs := match text.toList with
    | '\ufeff' :: rest => rest
    | cs => cs
  lines? (cs.length + 1) [] [] cs

end ClientForge.Toml
