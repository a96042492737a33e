import ClientForge.Json.Basic
import ClientForge.Table

/-!
Reading JSON. The grammar is RFC 8259's, with four decisions: nesting is bounded, a repeated key
keeps its first place and its last value, an integer too large for a word becomes a double, and a
number too large for a double is malformed.
-/

namespace ClientForge.Json

/-- Nesting that a document may have: so many arrays and objects inside one another. -/
def nestingLimit : Nat := 127

def isSpace (c : Char) : Bool := c == ' ' || c == '\t' || c == '\n' || c == '\r'

def skipSpace (cs : List Char) : List Char := cs.dropWhile isSpace

def hexDigit? (c : Char) : Option Nat :=
  if c.isDigit then some (c.toNat - '0'.toNat)
  else if 'a' ≤ c ∧ c ≤ 'f' then some (c.toNat - 'a'.toNat + 10)
  else if 'A' ≤ c ∧ c ≤ 'F' then some (c.toNat - 'A'.toNat + 10)
  else none

/-- Four hexadecimal digits and what follows them. -/
def hexUnit? : List Char → Option (Nat × List Char)
  | a :: b :: c :: d :: rest => do
    let a ← hexDigit? a
    let b ← hexDigit? b
    let c ← hexDigit? c
    let d ← hexDigit? d
    return (((a * 16 + b) * 16 + c) * 16 + d, rest)
  | _ => none

/-- The character of a `\u` escape, a surrogate pair taken together; a lone surrogate is malformed. -/
def unicodeEscape? (cs : List Char) : Option (Char × List Char) := do
  let (unit, rest) ← hexUnit? cs
  if 0xD800 ≤ unit ∧ unit < 0xDC00 then
    match rest with
    | '\\' :: 'u' :: rest =>
      let (low, rest) ← hexUnit? rest
      if 0xDC00 ≤ low ∧ low < 0xE000 then
        return (Char.ofNat (0x10000 + (unit - 0xD800) * 0x400 + (low - 0xDC00)), rest)
      else none
    | _ => none
  else if 0xDC00 ≤ unit ∧ unit < 0xE000 then none
  else return (Char.ofNat unit, rest)

def simpleEscape? (c : Char) : Option Char :=
  match c with
  | '"' => some '"'
  | '\\' => some '\\'
  | '/' => some '/'
  | 'b' => some '\x08'
  | 'f' => some '\x0c'
  | 'n' => some '\n'
  | 'r' => some '\r'
  | 't' => some '\t'
  | _ => none

/-- The rest of a string after its opening quote: its characters, and what follows the closing
quote. -/
def stringBody? : Nat → List Char → Option (List Char × List Char)
  | 0, _ => none
  | fuel + 1, cs =>
    match cs with
    | [] => none
    | '"' :: rest => some ([], rest)
    | '\\' :: 'u' :: rest => do
      let (c, rest) ← unicodeEscape? rest
      let (body, rest) ← stringBody? fuel rest
      return (c :: body, rest)
    | '\\' :: e :: rest => do
      let c ← simpleEscape? e
      let (body, rest) ← stringBody? fuel rest
      return (c :: body, rest)
    | c :: rest =>
      if c.toNat < 0x20 ∨ c = '\\' then none
      else do
        let (body, rest) ← stringBody? fuel rest
        return (c :: body, rest)

def natOfDigits (ds : List Char) : Nat := ds.foldl (fun n d => n * 10 + (d.toNat - '0'.toNat)) 0

/-- An optional exponent: its value and what follows. -/
def exponent? (cs : List Char) : Option (Int × List Char) :=
  match cs with
  | e :: rest =>
    if e = 'e' ∨ e = 'E' then
      let (negative, rest) :=
        match rest with
        | '-' :: r => (true, r)
        | '+' :: r => (false, r)
        | r => (false, r)
      let digits := rest.takeWhile Char.isDigit
      if digits.isEmpty then none
      else
        let n : Int := natOfDigits digits
        some (if negative then -n else n, rest.dropWhile Char.isDigit)
    else some (0, cs)
  | [] => some (0, [])

/-- The digits of an optional fraction and what follows. -/
def fraction? (cs : List Char) : Option (List Char × List Char) :=
  match cs with
  | '.' :: rest =>
    let digits := rest.takeWhile Char.isDigit
    if digits.isEmpty then none else some (digits, rest.dropWhile Char.isDigit)
  | _ => some ([], cs)

/-- The number written `± whole . fraction e exponent`; `plain` when it has neither fraction nor
exponent. `-0` is a double, so that its sign is kept. -/
def number? (negative : Bool) (whole fraction : List Char) (exponent : Int) (plain : Bool) :
    Option Number :=
  let n : Int := natOfDigits whole
  let value := if negative then -n else n
  if plain ∧ isWord value ∧ ¬(negative ∧ n = 0) then some (.integer value)
  else (Binary64.ofDecimal negative (natOfDigits (whole ++ fraction))
    (exponent - fraction.length)).map .binary

def numeral? (cs : List Char) : Option (Number × List Char) := do
  let (negative, cs) := match cs with
    | '-' :: rest => (true, rest)
    | _ => (false, cs)
  let whole := cs.takeWhile Char.isDigit
  let rest := cs.dropWhile Char.isDigit
  if whole.isEmpty ∨ (whole.head? = some '0' ∧ 1 < whole.length) then none
  else
    let (fraction, rest) ← fraction? rest
    let (exponent, rest') ← exponent? rest
    let plain := fraction.isEmpty && rest.length == rest'.length
    return (← number? negative whole fraction exponent plain, rest')

/-- Removes the characters of `word` from the front. -/
def dropWord? : List Char → List Char → Option (List Char)
  | [], cs => some cs
  | w :: ws, c :: cs => if w = c then dropWord? ws cs else none
  | _ :: _, [] => none

mutual

/-- A value at the front of the text, with at most `depth` levels of nesting, and what follows it. -/
def value? : Nat → Nat → List Char → Option (Json × List Char)
  | 0, _, _ => none
  | fuel + 1, depth, cs =>
    match skipSpace cs with
    | 'n' :: rest => (dropWord? ['u', 'l', 'l'] rest).map (Json.null, ·)
    | 't' :: rest => (dropWord? ['r', 'u', 'e'] rest).map (Json.bool true, ·)
    | 'f' :: rest => (dropWord? ['a', 'l', 's', 'e'] rest).map (Json.bool false, ·)
    | '"' :: rest =>
      (stringBody? (rest.length + 1) rest).map fun (s, r) => (.string (String.ofList s), r)
    | '[' :: rest =>
      match depth with
      | 0 => none
      | depth + 1 =>
        match skipSpace rest with
        | ']' :: rest => some (.array [], rest)
        | rest => (items? fuel depth rest).map fun (items, r) => (.array items, r)
    | '\x7b' :: rest =>
      match depth with
      | 0 => none
      | depth + 1 =>
        match skipSpace rest with
        | '\x7d' :: rest => some (.object [], rest)
        | rest => (fields? fuel depth rest).map fun (fields, r) => (.object fields, r)
    | rest => (numeral? rest).map fun (n, r) => (.number n, r)

/-- One or more values separated by commas, up to and including the closing bracket. -/
def items? : Nat → Nat → List Char → Option (List Json × List Char)
  | 0, _, _ => none
  | fuel + 1, depth, cs => do
    let (item, rest) ← value? fuel depth cs
    match skipSpace rest with
    | ',' :: rest => do
      let (items, rest) ← items? fuel depth rest
      return (item :: items, rest)
    | ']' :: rest => return ([item], rest)
    | _ => none

/-- One or more fields, repeated keys included, up to and including the closing brace. -/
def fields? : Nat → Nat → List Char → Option (List (String × Json) × List Char)
  | 0, _, _ => none
  | fuel + 1, depth, cs => do
    match skipSpace cs with
    | '"' :: rest => do
      let (key, rest) ← stringBody? (rest.length + 1) rest
      match skipSpace rest with
      | ':' :: rest => do
        let (value, rest) ← value? fuel depth rest
        let field := (String.ofList key, value)
        match skipSpace rest with
        | ',' :: rest => do
          let (fields, rest) ← fields? fuel depth rest
          return (field :: fields, rest)
        | '\x7d' :: rest => return ([field], rest)
        | _ => none
      | _ => none
    | _ => none

end

mutual

/-- Settles repeated keys: first place, last value. -/
def distinct : Json → Json
  | .array items => .array (distinctItems items)
  | .object fields => .object (Table.ofRows (distinctFields fields))
  | scalar => scalar

def distinctItems : List Json → List Json
  | [] => []
  | item :: items => distinct item :: distinctItems items

def distinctFields : List (String × Json) → List (String × Json)
  | [] => []
  | (key, value) :: fields => (key, distinct value) :: distinctFields fields

end

/-- The document a text spells, nested at most `depth` levels, with its repeated keys. -/
def parseRaw? (depth : Nat) (text : String) : Option Json :=
  let cs := text.toList
  match value? (2 * cs.length + 2) depth cs with
  | some (document, rest) => if (skipSpace rest).isEmpty then some document else none
  | none => none

def parseWithin? (depth : Nat) (text : String) : Option Json := (parseRaw? depth text).map distinct

def parse? (text : String) : Option Json := parseWithin? nestingLimit text

example : (parse? "\x7b\"a\":1,\"b\":[-0],\"a\":2\x7d").bind (·.object? "a") = none := by decide +kernel

end ClientForge.Json
