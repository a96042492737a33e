/-!
Rows of the Unicode tables: evenly spaced code points, with or without a distance that maps them.
-/

namespace ClientForge.Text

/-- The code points `first`, `first + step`, … up to `last`. -/
structure Stripe where
  first : Nat
  last : Nat
  step : Nat

def Stripe.contains (s : Stripe) (n : Nat) : Bool :=
  s.first ≤ n && n ≤ s.last && (n - s.first) % s.step == 0

/-- A stripe whose members all map to the code point `delta` away. -/
structure Shift where
  first : Nat
  last : Nat
  step : Nat
  delta : Int

def Shift.contains (s : Shift) (n : Nat) : Bool :=
  s.first ≤ n && n ≤ s.last && (n - s.first) % s.step == 0

/-- The image of `c` under the first row that holds it, `c` itself when none does. -/
def shifted (rows : List Shift) (c : Char) : Char :=
  match rows.find? (·.contains c.toNat) with
  | some row => Char.ofNat (c.toNat + row.delta).toNat
  | none => c

end ClientForge.Text
