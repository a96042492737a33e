import ClientForge.Yaml.Cursor
import ClientForge.Yaml.Scalar

/-!
Tags, anchors and directives of YAML.
-/

namespace ClientForge.Yaml

/-- Characters of a tag's URI; commas and brackets only in the verbatim form. -/
def isUriChar (verbatim : Bool) (c : Char) : Bool :=
  isWordChar c ||
    [';', '/', '?', ':', '@', '&', '=', '+', '$', '.', '%', '!', '~', '*', '\'', '(', ')'].contains c ||
    (verbatim && (c == ',' || c == '[' || c == ']'))

/-- The bytes of the percent escapes at the front. -/
def escapedBytes : List Char → List UInt8
  | '%' :: a :: b :: rest =>
    match hexValue? a, hexValue? b with
    | some a, some b => UInt8.ofNat (a * 16 + b) :: escapedBytes rest
    | _, _ => []
  | _ => []

/-- The number of bytes of a UTF-8 character that starts with this one. -/
def sequenceLength (b : UInt8) : Nat :=
  if b &&& 0x80 = 0 then 1
  else if b &&& 0xE0 = 0xC0 then 2
  else if b &&& 0xF0 = 0xE0 then 3
  else if b &&& 0xF8 = 0xF0 then 4
  else 0

/-- The character that percent escapes spell, and how many escapes it takes. -/
def escapedChar? (cs : List Char) : Option (Char × Nat) :=
  match escapedBytes cs with
  | [] => none
  | b :: bytes =>
    let n := sequenceLength b
    if n = 0 ∨ bytes.length + 1 < n then none
    else
      match (String.fromUTF8? (ByteArray.mk ((b :: bytes).take n).toArray)).map String.toList with
      | some [c] => some (c, n)
      | _ => none

/-- Reads a URI. -/
def uri? (verbatim : Bool) : Nat → Cursor → Option (List Char × Cursor)
  | 0, c => some ([], c)
  | fuel + 1, c =>
    match c.rest.head? with
    | none => some ([], c)
    | some ch =>
      if isUriChar verbatim ch then
        if ch = '%' then do
          let (decoded, n) ← escapedChar? c.rest
          let (more, c) ← uri? verbatim fuel (c.skip (3 * n))
          return (decoded :: more, c)
        else do
          let (more, c) ← uri? verbatim fuel (c.skip 1)
          return (ch :: more, c)
      else some ([], c)

/-- Reads an exclamation mark, word characters, and perhaps a second exclamation mark. -/
def handle? (c : Cursor) : Option (List Char × Cursor) :=
  if c.startsWith '!' then
    let word := (c.rest.drop 1).takeWhile isWordChar
    let c := c.skip (1 + word.length)
    if c.startsWith '!' then some ('!' :: word ++ ['!'], c.skip 1) else some ('!' :: word, c)
  else none

/-- Reads a tag: its handle and its suffix. A verbatim tag and the tag `!` have no handle. -/
def tag? (flow : Bool) (c : Cursor) : Option (String × String × Cursor) := do
  let (handle, suffix, c) ←
    if c.peek? 1 = some '<' then do
      let (uri, c) ← uri? true (c.rest.length + 1) (c.skip 2)
      if uri.isEmpty ∨ !c.startsWith '>' then none else some ([], uri, c.skip 1)
    else do
      let (handle, c) ← handle? c
      let (uri, c) ← uri? false (c.rest.length + 1) c
      if 1 < handle.length ∧ handle.getLast? = some '!' then
        if uri.isEmpty then none else some (handle, uri, c)
      else
        let suffix := handle.drop 1 ++ uri
        if suffix.isEmpty then some ([], ['!'], c) else some (['!'], suffix, c)
  if c.isSeparated 0 ∨ (flow ∧ c.startsWith ',') then
    return (String.ofList handle, String.ofList suffix, c)
  else none

/-- Reads the name of an anchor or alias after its indicator. -/
def anchorName? (c : Cursor) : Option (String × Cursor) :=
  let name := c.rest.takeWhile isWordChar
  let c := c.skip name.length
  let ends := c.isSeparated 0 ||
    (c.rest.head?.map ['?', ':', ',', ']', '\x7d', '%', '@', Char.ofNat 0x60].contains).getD false
  if name.isEmpty ∨ !ends then none else some (String.ofList name, c)

inductive Directive where
  | version (major minor : Nat)
  /-- What a tag handle stands for. -/
  | tag (handle expansion : String)
deriving DecidableEq, Repr

/-- At most nine digits. -/
def versionNumber? (c : Cursor) : Option (Nat × Cursor) :=
  let digits := c.rest.takeWhile Char.isDigit
  if digits.isEmpty ∨ 9 < digits.length then none
  else some (digits.foldl (fun n d => n * 10 + (d.toNat - '0'.toNat)) 0, c.skip digits.length)

/-- Reads a directive's line after its percent sign. -/
def directive? (c : Cursor) : Option (Directive × Cursor) := do
  let name := c.rest.takeWhile isWordChar
  let c := c.skip name.length
  if name.isEmpty ∨ !c.isSeparated 0 then none
  else
    let c := c.skipBlanks
    if String.ofList name = "YAML" then
      let (major, c) ← versionNumber? c
      if c.startsWith '.' then
        let (minor, c) ← versionNumber? (c.skip 1)
        return (.version major minor, ← c.endLine?)
      else none
    else if String.ofList name = "TAG" then
      let (handle, c) ← handle? c
      if (handle.getLast? ≠ some '!') ∨ !c.atBlank then none
      else
        let (uri, c) ← uri? true (c.rest.length + 1) c.skipBlanks
        if uri.isEmpty ∨ !c.isSeparated 0 then none
        else return (.tag (String.ofList handle) (String.ofList uri), ← c.endLine?)
    else none

end ClientForge.Yaml
