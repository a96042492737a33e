/-!
The words that are TOML values: booleans, numbers, dates and times.
-/

namespace ClientForge.Toml

def isScalarChar (c : Char) : Bool :=
  c.isAlphanum || c == '_' || c == '+' || c == '-' || c == ':' || c == '.'

def dropSign : List Char → List Char
  | '+' :: cs => cs
  | '-' :: cs => cs
  | cs => cs

/-- Digits of one kind, single underscores between them. -/
def isDigitRun (isDigit : Char → Bool) (cs : List Char) : Bool :=
  (cs.splitOn '_').all fun part => !part.isEmpty && part.all isDigit

def digitValue (c : Char) : Nat :=
  if c.isDigit then c.toNat - '0'.toNat else c.toLower.toNat - 'a'.toNat + 10

def runValue (base : Nat) (cs : List Char) : Nat :=
  (cs.filter (· ≠ '_')).foldl (fun n c => n * base + digitValue c) 0

def isHexDigit (c : Char) : Bool := c.isDigit || ('a' ≤ c.toLower && c.toLower ≤ 'f')

/-- Digits without a leading zero, perhaps after a sign. -/
def isDecimal (cs : List Char) : Bool :=
  let digits := dropSign cs
  isDigitRun Char.isDigit digits && (digits.head? != some '0' || digits.length == 1)

/-- An integer in the range of signed 64-bit words. -/
def isInteger (cs : List Char) : Bool :=
  let within (base : Nat) (isDigit : Char → Bool) (digits : List Char) : Bool :=
    isDigitRun isDigit digits && runValue base digits < Nat.pow 2 63
  match cs with
  | '0' :: 'x' :: digits => within 16 isHexDigit digits
  | '0' :: 'o' :: digits => within 8 (fun c => '0' ≤ c && c ≤ '7') digits
  | '0' :: 'b' :: digits => within 2 (fun c => c == '0' || c == '1') digits
  | _ =>
    let limit := if cs.head? = some '-' then Nat.pow 2 63 else Nat.pow 2 63 - 1
    isDecimal cs && runValue 10 (dropSign cs) ≤ limit

/-- A number with a fraction, an exponent or both. A positive one must not be too large. -/
def isFloat (cs : List Char) : Bool :=
  let isMantissa (c : Char) : Bool := c != 'e' && c != 'E'
  let (mantissa, exponent) := (cs.takeWhile isMantissa, cs.dropWhile isMantissa)
  let (whole, fraction) := (mantissa.takeWhile (· ≠ '.'), mantissa.dropWhile (· ≠ '.'))
  let fractionOk := fraction.isEmpty || isDigitRun Char.isDigit (fraction.drop 1)
  let exponentOk := exponent.isEmpty || isDigitRun Char.isDigit (dropSign (exponent.drop 1))
  let power := runValue 10 (dropSign (exponent.drop 1))
  let significant := (runValue 10 (dropSign whole ++ fraction.drop 1))
  let size : Int := (Nat.toDigits 10 significant).length - (fraction.drop 1).length
  let small := exponent.drop 1 |>.head? |> (· == some '-')
  let tooLarge := significant != 0 && !small && decide (309 < size + power)
  isDecimal whole && fractionOk && exponentOk && !(fraction.isEmpty && exponent.isEmpty)
    && (cs.head? == some '-' || !tooLarge)

def isSpecialFloat (cs : List Char) : Bool :=
  dropSign cs == ['i', 'n', 'f'] || dropSign cs == ['n', 'a', 'n']

/-- Exactly `count` digits at the front, with their value. -/
def number? (count : Nat) (cs : List Char) : Option (Nat × List Char) :=
  let digits := cs.take count
  if digits.length = count ∧ digits.all Char.isDigit then some (runValue 10 digits, cs.drop count)
  else none

def daysIn (year month : Nat) : Nat :=
  if month = 2 then
    (if (year % 4 = 0 ∧ year % 100 ≠ 0) ∨ year % 400 = 0 then 29 else 28)
  else if month = 4 ∨ month = 6 ∨ month = 9 ∨ month = 11 then 30
  else 31

/-- A date at the front. -/
def dropDate? (cs : List Char) : Option (List Char) := do
  let (year, rest) ← number? 4 cs
  let '-' :: rest := rest | none
  let (month, rest) ← number? 2 rest
  let '-' :: rest := rest | none
  let (day, rest) ← number? 2 rest
  if 1 ≤ month ∧ month ≤ 12 ∧ 1 ≤ day ∧ day ≤ daysIn year month then some rest else none

/-- A time of day at the front. -/
def dropTime? (cs : List Char) : Option (List Char) := do
  let (hour, rest) ← number? 2 cs
  let ':' :: rest := rest | none
  let (minute, rest) ← number? 2 rest
  let ':' :: rest := rest | none
  let (second, rest) ← number? 2 rest
  if hour ≤ 23 ∧ minute ≤ 59 ∧ second ≤ 60 then
    match rest with
    | '.' :: fraction =>
      if (fraction.head?.map Char.isDigit).getD false then some (fraction.dropWhile Char.isDigit)
      else none
    | _ => some rest
  else none

/-- Nothing, `Z` or a distance from universal time. -/
def isOffset (cs : List Char) : Bool :=
  match cs with
  | [] => true
  | [c] => c == 'Z' || c == 'z'
  | sign :: rest =>
    (sign == '+' || sign == '-') &&
      match number? 2 rest with
      | some (hour, ':' :: rest) =>
        match number? 2 rest with
        | some (minute, []) => hour * 60 + minute ≤ 24 * 60 && hour ≤ 23 && minute ≤ 59
        | _ => false
      | _ => false

def isDate (cs : List Char) : Bool := dropDate? cs == some []

def isDateTime (cs : List Char) : Bool :=
  match dropDate? cs with
  | some [] => true
  | some (delimiter :: rest) =>
    (delimiter == 'T' || delimiter == 't' || delimiter == ' ') &&
      match dropTime? rest with
      | some offset => isOffset offset
      | none => false
  | none => dropTime? cs == some []

def isScalar (cs : List Char) : Bool :=
  cs == ['t', 'r', 'u', 'e'] || cs == ['f', 'a', 'l', 's', 'e'] || isDateTime cs || isFloat cs ||
    isSpecialFloat cs || isInteger cs

/-- A scalar at the front, and what follows it. A date and a time may stand apart by one space. -/
def dropScalar? (cs : List Char) : Option (List Char) :=
  let word := cs.takeWhile isScalarChar
  let rest := cs.dropWhile isScalarChar
  match rest with
  | ' ' :: c :: after =>
    if isDate word ∧ c.isDigit then
      let time := (c :: after).takeWhile isScalarChar
      if isDateTime (word ++ ' ' :: time) then some ((c :: after).dropWhile isScalarChar) else none
    else if isScalar word then some rest else none
  | _ => if isScalar word then some rest else none

example : isScalar "1979-05-27T07:32:00.5-07:00".toList = true := by decide +kernel
example : isScalar "1_000".toList = true := by decide +kernel
example : isScalar "01".toList = false := by decide +kernel
example : isScalar "6.26e-34".toList = true := by decide +kernel
example : isScalar "1.".toList = false := by decide +kernel
example : isScalar "9223372036854775808".toList = false := by decide +kernel

end ClientForge.Toml
