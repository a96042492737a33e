/-!
Finite IEEE 754 doubles as exact values: rounding of a decimal to the nearest of them, and the
shortest decimal that reads back. Everything is integer arithmetic.
-/

namespace ClientForge.Json

/-- The value `± mantissa · 2 ^ exponent`, with `mantissa < 2 ^ 53` and the least exponent, not below
`-1074`, that allows it. -/
structure Binary64 where
  negative : Bool
  mantissa : Nat
  exponent : Int
deriving DecidableEq, Repr, Inhabited

namespace Binary64

def isZero (x : Binary64) : Bool := x.mantissa == 0

/-- `num / den` to the nearest integer, a half to the even neighbour. -/
def roundHalfEven (num den : Nat) : Nat :=
  let q := num / den
  let r := num % den
  if 2 * r < den then q else if den < 2 * r then q + 1 else if q % 2 = 0 then q else q + 1

/-- `num · 2 ^ -e / den` as a quotient. -/
def scaled (num den : Nat) (e : Int) : Nat × Nat :=
  if 0 ≤ e then (num, den * Nat.pow 2 e.toNat) else (num * Nat.pow 2 (-e).toNat, den)

/-- The double nearest to `± num / den`; `none` beyond the largest one. -/
def ofRatio (negative : Bool) (num den : Nat) : Option Binary64 :=
  if num = 0 then some ⟨negative, 0, -1074⟩
  else
    let guess : Int := (num.log2 : Int) - den.log2 - 52
    let (n, d) := scaled num den guess
    let e := max (if n < d * Nat.pow 2 52 then guess - 1 else guess) (-1074)
    let (n, d) := scaled num den e
    let m := roundHalfEven n d
    let (m, e) := if m = Nat.pow 2 53 then (Nat.pow 2 52, e + 1) else (m, e)
    if 971 < e then none else some ⟨negative, m, e⟩

/-- The double nearest to `± digits · 10 ^ exponent`. Exponents far outside the range are decided
without being computed. -/
def ofDecimal (negative : Bool) (digits : Nat) (exponent : Int) : Option Binary64 :=
  if digits = 0 then some ⟨negative, 0, -1074⟩
  else
    let size : Int := (Nat.toDigits 10 digits).length + exponent
    if 310 < size then none
    else if size < -330 then some ⟨negative, 0, -1074⟩
    else if 0 ≤ exponent then ofRatio negative (digits * Nat.pow 10 exponent.toNat) 1
    else ofRatio negative digits (Nat.pow 10 (-exponent).toNat)

/-- A decimal `digits · 10 ^ exponent`. -/
structure Decimal where
  digits : Nat
  exponent : Int
deriving DecidableEq, Repr

/-- `|x|` and the half-way points to its neighbours, times one common power of two and over one
common denominator: `(low, value, high, denominator)`. -/
def interval (x : Binary64) : Nat × Nat × Nat × Nat :=
  let lowGap := if x.mantissa = Nat.pow 2 52 ∧ -1074 < x.exponent then 1 else 2
  let up := Nat.pow 2 x.exponent.toNat
  ((4 * x.mantissa - lowGap) * up, 4 * x.mantissa * up, (4 * x.mantissa + 2) * up,
    4 * Nat.pow 2 (-x.exponent).toNat)

/-- The number of decimal digits before the point of `num / den`, negative for leading zeros after
it, searched upwards from `least`. -/
def magnitude (num den : Nat) : Nat → Int → Int
  | 0, k => k
  | fuel + 1, k =>
    let below :=
      if 0 ≤ k then num < den * Nat.pow 10 k.toNat else num * Nat.pow 10 (-k).toNat < den
    if below then k else magnitude num den fuel (k + 1)

/-- Among the decimals with the exponent `e`, the nearest one to `x` that reads back as `x`. Of two
equally near ones the even digit string is taken. -/
def nearestOn (x : Binary64) (e : Int) : Option Nat :=
  let (low, value, high, den) := x.interval
  let (scale, den) :=
    if 0 ≤ e then (1, den * Nat.pow 10 e.toNat) else (Nat.pow 10 (-e).toNat, den)
  let (low, value, high) := (low * scale, value * scale, high * scale)
  let inside (d : Nat) : Bool :=
    if x.mantissa % 2 = 0 then low ≤ d * den && d * den ≤ high
    else low < d * den && d * den < high
  let nearest := roundHalfEven value den
  let floor := value / den
  let other := if nearest = floor then floor + 1 else floor
  if inside nearest then some nearest else if inside other then some other else none

/-- The first exponent, downwards from `e`, on which a decimal reads back as `x`. -/
def shortestFrom (x : Binary64) : Nat → Int → Decimal
  | 0, e => ⟨(x.nearestOn e).getD 0, e⟩
  | fuel + 1, e =>
    match x.nearestOn e with
    | some d => ⟨d, e⟩
    | none => shortestFrom x fuel (e - 1)

/-- Drops trailing zeros of the digits. -/
def Decimal.normalize (fuel : Nat) (d : Decimal) : Decimal :=
  match fuel with
  | 0 => d
  | fuel + 1 =>
    if d.digits ≠ 0 ∧ d.digits % 10 = 0 then Decimal.normalize fuel ⟨d.digits / 10, d.exponent + 1⟩
    else d

/-- The decimal with the fewest digits that reads back as `|x|`, and the nearest of those. -/
def shortest (x : Binary64) : Decimal :=
  if x.isZero then ⟨0, 0⟩
  else
    let (_, value, _, den) := x.interval
    let k := magnitude value den 700 (-330)
    (shortestFrom x 20 (k - 1)).normalize 20

end Binary64

/-- Where the digits of a number go: `0.00ddd`, `dd.dd` or `dd000`. -/
def positional (digits : List Char) (exponent : Int) : List Char :=
  let point : Int := digits.length + exponent
  if 0 ≤ exponent then digits ++ List.replicate exponent.toNat '0'
  else if 0 < point then digits.take point.toNat ++ '.' :: digits.drop point.toNat
  else '0' :: '.' :: List.replicate (-point).toNat '0' ++ digits

/-- `d.ddde+xx`, the sign always written. -/
def scientific (digits : List Char) (exponent : Int) : List Char :=
  let e : Int := digits.length + exponent - 1
  let head := digits.take 1 ++ (if digits.length ≤ 1 then [] else '.' :: digits.drop 1)
  head ++ 'e' :: (if e < 0 then '-' else '+') :: Nat.toDigits 10 e.natAbs

/-- The text of a double in a document: positional from `1e-5` up to below `1e16`, with `.0` where it
is integral, and scientific outside. -/
def Binary64.toText (x : Binary64) : String :=
  let d := x.shortest
  let digits := Nat.toDigits 10 d.digits
  let point : Int := digits.length + d.exponent
  let body :=
    if x.isZero then ['0', '.', '0']
    else if -5 < point ∧ point ≤ 16 then
      positional digits d.exponent ++ (if 0 ≤ d.exponent then ['.', '0'] else [])
    else scientific digits d.exponent
  String.ofList (if x.negative then '-' :: body else body)

/-- The text of a double without exponent and without a trailing `.0`. -/
def Binary64.toPlainText (x : Binary64) : String :=
  let d := x.shortest
  let body := positional (Nat.toDigits 10 d.digits) d.exponent
  String.ofList (if x.negative then '-' :: body else body)

example : ((Binary64.ofDecimal false 3 (-1)).map Binary64.toText) = some "0.3" := by decide +kernel
example : ((Binary64.ofDecimal true 5 (-324)).map Binary64.toText) = some "-5e-324" := by decide +kernel
example : ((Binary64.ofDecimal false 1 16).map Binary64.toText) = some "1e+16" := by decide +kernel
example : ((Binary64.ofDecimal false 1 (-5)).map Binary64.toText) = some "0.00001" := by decide +kernel
example : Binary64.ofDecimal false 2 308 = none := by decide +kernel

end ClientForge.Json
