/-!
The number a binary floating point value stands for, and exact comparison of such numbers.
-/

namespace LanguageClient

/-- The fields of a floating point value: a finite one is `mantissa * 2 ^ exponent`. -/
inductive Binary where
  | notANumber
  | infinite (negative : Bool)
  | finite (negative : Bool) (mantissa : Nat) (exponent : Int)
deriving DecidableEq

namespace Binary

def ofFloat (x : Float) : Binary :=
  let bits := x.toBits.toNat
  let negative := bits / Nat.pow 2 63 == 1
  let biased : Nat := bits / Nat.pow 2 52 % Nat.pow 2 11
  let fraction : Nat := bits % Nat.pow 2 52
  if biased == 0x7FF then (if fraction == 0 then .infinite negative else .notANumber)
  else if biased == 0 then .finite negative fraction (-1074)
  else .finite negative (Nat.pow 2 52 + fraction) ((biased : Int) - 1075)

end Binary

inductive Exact where
  | notANumber
  | infinite (negative : Bool)
  | finite (value : Rat)
deriving DecidableEq

namespace Exact

def ofInt (n : Int) : Exact := .finite n

def ofFloat (x : Float) : Exact :=
  match Binary.ofFloat x with
  | .notANumber => .notANumber
  | .infinite negative => .infinite negative
  | .finite negative m e =>
    let value : Rat := if e < 0 then mkRat m (Nat.pow 2 e.natAbs) else (m * Nat.pow 2 e.natAbs : Nat)
    .finite (if negative then -value else value)

/-- What is not a number equals nothing. -/
def same : Exact → Exact → Bool
  | .notANumber, _ | _, .notANumber => false
  | a, b => a = b

/-- What is not a number compares with nothing. -/
def atMost : Exact → Exact → Bool
  | .notANumber, _ | _, .notANumber => false
  | .infinite true, _ | _, .infinite false => true
  | .infinite false, _ | _, .infinite true => false
  | .finite a, .finite b => a ≤ b

end Exact

end LanguageClient
