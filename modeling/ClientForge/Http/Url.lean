import ClientForge.Text.Blank
import ClientForge.Text.Case

/-!
HTTP URLs after the URL standard: parsing, serialization, and what a reference leads to. Hosts are
ASCII names or addresses, and user names in a URL are passed over.
-/

namespace ClientForge.Http

structure Url where
  secure : Bool
  host : String
  /-- The number behind the host, unless it is the one that the scheme implies. -/
  portNumber : Option Nat
  /-- The percent-encoded segments of the path. -/
  path : List String
  query : Option String
  fragment : Option String
deriving DecidableEq, Repr

namespace Url

/-! ## Percent encoding -/

def hexDigit (n : Nat) : Char :=
  if n < 10 then Char.ofNat ('0'.toNat + n) else Char.ofNat ('A'.toNat + (n - 10))

def encodeByte (b : UInt8) : List Char := ['%', hexDigit (b.toNat / 16), hexDigit (b.toNat % 16)]

/-- Writes as escapes the bytes of the characters in `special`, of control characters and of all
beyond ASCII. -/
def encode (special : List Char) (cs : List Char) : List Char :=
  cs.flatMap fun c =>
    if c.toNat < 0x20 ∨ 0x7F ≤ c.toNat ∨ special.contains c then
      (String.singleton c).toUTF8.toList.flatMap encodeByte
    else [c]

def fragmentSpecial : List Char := [' ', '"', '<', '>', Char.ofNat 0x60]

def querySpecial : List Char := [' ', '"', '#', '<', '>', '\'']

def pathSpecial : List Char := fragmentSpecial ++ ['#', '?', '^', '\x7b', '\x7d']

/-- The form encoding of one key or value. -/
def encodeForm (s : String) : List Char :=
  s.toList.flatMap fun c =>
    if c.isAlphanum || ['*', '-', '.', '_'].contains c then [c]
    else if c = ' ' then ['+']
    else (String.singleton c).toUTF8.toList.flatMap encodeByte

def formText (pairs : List (String × String)) : String :=
  String.ofList <| Text.joinWith ['&'] <|
    pairs.map fun (key, value) => encodeForm key ++ '=' :: encodeForm value

/-! ## Hosts -/

def digitValue? (c : Char) : Option Nat :=
  if c.isDigit then some (c.toNat - '0'.toNat)
  else if 'a' ≤ c ∧ c ≤ 'f' then some (c.toNat - 'a'.toNat + 10)
  else none

def inBase? (base : Nat) (cs : List Char) : Option Nat :=
  cs.foldlM (fun n c => ((digitValue? c).filter (· < base)).map (n * base + ·)) 0

/-- A part of an address: decimal, octal after a zero, or hexadecimal after `0x`. -/
def addressPart? : List Char → Option Nat
  | [] => none
  | '0' :: 'x' :: cs => inBase? 16 cs
  | '0' :: cs => inBase? 8 cs
  | cs => inBase? 10 cs

/-- Whether the last label makes a host an address. -/
def endsInNumber (labels : List (List Char)) : Bool :=
  match labels.getLast? with
  | some label =>
    !label.isEmpty && (label.all Char.isDigit ||
      ((['0', 'x'].isPrefixOf label) && (inBase? 16 (label.drop 2)).isSome))
  | none => false

/-- The value of an address; its last part fills the bytes that the others leave. -/
def address? (labels : List (List Char)) : Option Nat := do
  let parts ← labels.mapM addressPart?
  let last ← parts.getLast?
  let front := parts.dropLast
  if 3 < front.length ∨ front.any (255 < ·) ∨ Nat.pow 256 (4 - front.length) ≤ last then none
  else
    let high := front.foldl (fun n p => n * 256 + p) 0
    return high * Nat.pow 256 (4 - front.length) + last

def addressText (n : Nat) : String :=
  ".".intercalate <| [n / 0x1000000, n / 0x10000 % 256, n / 256 % 256, n % 256].map toString

/-- Characters that no host name holds. -/
def forbiddenInHost : List Char :=
  [' ', '"', '#', '%', '/', ':', '<', '>', '?', '@', '[', '\\', ']', '^', '|', Char.ofNat 0x60]

def host? (cs : List Char) : Option String :=
  let cs := cs.map Char.toLower
  if cs.isEmpty then none
  else if cs.head? = some '[' then
    if cs.getLast? = some ']' ∧
        ((cs.drop 1).dropLast).all (fun c => (digitValue? c).isSome || c == ':' || c == '.') then
      some (String.ofList cs)
    else none
  else if cs.any fun c => c.toNat ≤ 0x20 ∨ 0x7F ≤ c.toNat ∨ forbiddenInHost.contains c then none
  else
    let labels := cs.splitOn '.'
    let labels := if labels.getLast? = some [] ∧ 1 < labels.length then labels.dropLast else labels
    if endsInNumber labels then (address? labels).map addressText else some (String.ofList cs)

def impliedPort (secure : Bool) : Nat := if secure then 443 else 80

/-- The number behind a host; none at all and the one implied are left out. -/
def portNumber? (secure : Bool) (digits : List Char) : Option (Option Nat) :=
  if digits.all Char.isDigit then
    let n := digits.foldl (fun n d => n * 10 + (d.toNat - '0'.toNat)) 0
    if 65535 < n then none
    else some (if digits.isEmpty ∨ n = impliedPort secure then none else some n)
  else none

/-! ## Paths -/

def isSlash (c : Char) : Bool := c == '/' || c == '\\'

/-- A segment that stays where it is, `.` also in its escaped form. -/
def isSingleDot (segment : List Char) : Bool :=
  ["." , "%2e"].contains (String.ofList (segment.map Char.toLower))

/-- A segment that goes one up. -/
def isDoubleDot (segment : List Char) : Bool :=
  ["..", ".%2e", "%2e.", "%2e%2e"].contains (String.ofList (segment.map Char.toLower))

/-- Removes dot segments, the segments before being given last one first. A path that ends in one
ends in a slash. -/
def normalize (before : List String) : List (List Char) → List String
  | [] => before.reverse
  | segment :: rest =>
    let close (before : List String) := if rest.isEmpty then "" :: before else before
    if isDoubleDot segment then normalize (close (before.drop 1)) rest
    else if isSingleDot segment then normalize (close before) rest
    else normalize (String.ofList (encode pathSpecial segment) :: before) rest

/-! ## Parsing -/

/-- The text up to the first character that satisfies `p`, and the rest from it on. -/
def cutAt (p : Char → Bool) (cs : List Char) : List Char × List Char :=
  (cs.takeWhile (!p ·), cs.dropWhile (!p ·))

/-- Whether a scheme is the secure one, and what follows the scheme. -/
def scheme? (cs : List Char) : Option (Bool × List Char) :=
  let (scheme, rest) := cutAt (· == ':') cs
  match String.ofList (scheme.map Char.toLower), rest with
  | "http", ':' :: rest => some (false, rest)
  | "https", ':' :: rest => some (true, rest)
  | _, _ => none

/-- The host of an authority and the digits behind it. -/
def hostAndDigits (authority : List Char) : List Char × List Char :=
  let place := ((authority.reverse).takeWhile (· != '@')).reverse
  let (inBrackets, rest) :=
    if place.head? = some '[' then
      (place.takeWhile (· != ']') ++ [']'], (place.dropWhile (· != ']')).drop 1)
    else ([], place)
  let (name, digits) := cutAt (· == ':') rest
  (inBrackets ++ name, digits.drop 1)

/-- Space and control characters around a URL say nothing, nor do tabs and line breaks within. -/
def bare (text : String) : List Char :=
  (Text.strip (fun c => c.toNat ≤ 0x20) text.toList).filter
    fun c => c != '\t' && c != '\n' && c != '\r'

def parse? (text : String) : Option Url := do
  let (secure, rest) ← scheme? (bare text)
  let (authority, rest) := cutAt (fun c => isSlash c || c == '?' || c == '#') (rest.dropWhile isSlash)
  let (path, rest) := cutAt (fun c => c == '?' || c == '#') rest
  let (query, fragment) := cutAt (· == '#') rest
  let (name, digits) := hostAndDigits authority
  let part (special : List Char) (cs : List Char) : Option String :=
    if cs.isEmpty then none else some (String.ofList (encode special (cs.drop 1)))
  return {
    secure
    host := ← host? name
    portNumber := ← portNumber? secure digits
    path := normalize [] ((path.map fun c => if isSlash c then '/' else c).drop 1 |>.splitOn '/')
    query := part querySpecial query
    fragment := part fragmentSpecial fragment
  }

/-! ## Serialization -/

def origin (url : Url) : String :=
  (if url.secure then "https://" else "http://") ++ url.host ++
    ((url.portNumber.map fun p => ":" ++ toString p).getD "")

def pathText (url : Url) : String := "/" ++ "/".intercalate url.path

def queryText (url : Url) : String := (url.query.map ("?" ++ ·)).getD ""

/-- What a request asks for. -/
def target (url : Url) : String := url.pathText ++ url.queryText

def text (url : Url) : String := url.origin ++ url.target ++ (url.fragment.map ("#" ++ ·)).getD ""

/-- Appends pairs to the query. An empty query is none. -/
def addQuery (url : Url) (pairs : List (String × String)) : Url :=
  let added := formText pairs
  let query := match url.query with
    | some old => if old.isEmpty ∨ added.isEmpty then old ++ added else old ++ "&" ++ added
    | none => added
  { url with query := if query.isEmpty then none else some query }

/-- A reference that starts with a scheme of its own. -/
def hasScheme (reference : List Char) : Bool :=
  let (scheme, rest) := cutAt (· == ':') reference
  !rest.isEmpty && (scheme.head?.map Char.isAlpha).getD false &&
    scheme.all fun c => c.isAlphanum || c == '+' || c == '-' || c == '.'

/-- The URL that a reference on the page `url` leads to. -/
def join? (url : Url) (reference : String) : Option Url :=
  let cs := bare reference
  let directory := "/".intercalate (url.path.dropLast ++ [""])
  let text := String.ofList cs
  if hasScheme cs then parse? text
  else
    match cs.take 2 |>.map isSlash with
    | [true, true] => parse? ((if url.secure then "https:" else "http:") ++ text)
    | true :: _ => parse? (url.origin ++ text)
    | _ =>
      match cs.head? with
      | none => parse? (url.origin ++ url.target)
      | some '?' => parse? (url.origin ++ url.pathText ++ text)
      | some '#' => parse? (url.origin ++ url.target ++ text)
      | some _ => parse? (url.origin ++ "/" ++ directory ++ text)

example : (parse? "HTTP://Ex.com:80/a b/./c/../d?q=é#f").map text =
    some "http://ex.com/a%20b/d?q=%C3%A9#f" := by decide +kernel
example : (parse? "http://127.1:8080").map text = some "http://127.0.0.1:8080/" := by decide +kernel
example : ((parse? "http://h/a/b?x=1").bind (·.join? "c?y=2")).map text = some "http://h/a/c?y=2" := by
  decide +kernel
example : parse? "http://" = none := by decide +kernel

end Url

end ClientForge.Http
