/-!
Bytes read as UTF-8 whatever they are: each longest run of bytes that starts a character but does not
end one becomes the replacement character.
-/

namespace ClientForge.Text

/-- A character begun: how many bytes it lacks, the range of the next one, and the bits so far. -/
structure Begun where
  missing : Nat
  low : Nat
  high : Nat
  bits : Nat
deriving DecidableEq, Repr

/-- What a first byte begins, unless it is a character of its own or nothing. -/
def begin? (b : Nat) : Option Begun :=
  if 0xC2 ≤ b ∧ b ≤ 0xDF then some ⟨1, 0x80, 0xBF, b - 0xC0⟩
  else if 0xE0 ≤ b ∧ b ≤ 0xEF then
    some ⟨2, if b = 0xE0 then 0xA0 else 0x80, if b = 0xED then 0x9F else 0xBF, b - 0xE0⟩
  else if 0xF0 ≤ b ∧ b ≤ 0xF4 then
    some ⟨3, if b = 0xF0 then 0x90 else 0x80, if b = 0xF4 then 0x8F else 0xBF, b - 0xF0⟩
  else none

def replacement : Char := '\ufffd'

/-- A byte between characters. -/
def firstByte (b : Nat) : List Char × Option Begun :=
  if b < 0x80 then ([Char.ofNat b], none)
  else
    match begin? b with
    | some begun => ([], some begun)
    | none => ([replacement], none)

/-- A byte in any place: the characters it completes, and what is begun after it. -/
def nextByte (begun : Option Begun) (b : Nat) : List Char × Option Begun :=
  match begun with
  | none => firstByte b
  | some begun =>
    if begun.low ≤ b ∧ b ≤ begun.high then
      let bits := begun.bits * 64 + (b - 0x80)
      if begun.missing = 1 then ([Char.ofNat bits], none)
      else ([], some ⟨begun.missing - 1, 0x80, 0xBF, bits⟩)
    else
      let (cs, next) := firstByte b
      (replacement :: cs, next)

def lossyFrom (begun : Option Begun) : List Nat → List Char
  | [] => if begun.isSome then [replacement] else []
  | b :: rest =>
    let (cs, next) := nextByte begun b
    cs ++ lossyFrom next rest

/-- The text of bytes; a byte order mark at its start is left out. -/
def lossy (bytes : List UInt8) : String :=
  let cs := lossyFrom none (bytes.map UInt8.toNat)
  String.ofList (if cs.head? = some '\ufeff' then cs.drop 1 else cs)

example : lossyFrom none [0x61, 0xC3, 0xA9, 0xFF, 0xE2, 0x82, 0x62] =
    ['a', 'é', replacement, replacement, 'b'] := by decide

end ClientForge.Text
