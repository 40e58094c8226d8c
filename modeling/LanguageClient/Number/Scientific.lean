import LanguageClient.Number.Fixed

/-!
Floating point values as a number from one to ten and a power of ten. The exact value is rounded; a
half goes to the even neighbour.
-/

namespace LanguageClient.Scientific

/-- The power of ten that `num / den` reaches and the next one does not, for a positive quotient. -/
def magnitude (num den : Nat) : Int :=
  if den ≤ num then ((Nat.repr (num / den)).length : Int) - 1
  else -((Nat.repr ((den - 1) / num)).length : Int)

/-- The digits of a positive quotient, so many of them after the first, and its power of ten. -/
def digits (places num den : Nat) : Nat × Int :=
  let k := magnitude num den
  let shift := (places : Int) - k
  let n :=
    if 0 ≤ shift then Fixed.roundHalfEven (num * Nat.pow 10 shift.natAbs) den
    else Fixed.roundHalfEven num (den * Nat.pow 10 shift.natAbs)
  if n = Nat.pow 10 (places + 1) then (Nat.pow 10 places, k + 1) else (n, k)

/-- The sign, digits and power of ten of a finite value. -/
def ofFloat? (places : Nat) (x : Float) : Option (Bool × Nat × Int) :=
  match Binary.ofFloat x with
  | .finite negative m e =>
    if m = 0 then some (negative, 0, 0)
    else
      let (n, k) := digits places (if 0 ≤ e then m * Nat.pow 2 e.natAbs else m)
        (if 0 ≤ e then 1 else Nat.pow 2 e.natAbs)
      some (negative, n, k)
  | _ => none

def exponentText (k : Int) : Text :=
  let ds := Text.ofNat k.natAbs
  (if k < 0 then "e-" else "e+") ++ Text.zeros (2 - ds.length) ++ ds

def mantissaText (places n : Nat) : Text :=
  let ds := Text.ofNat n
  let ds := ds ++ Text.zeros (places + 1 - ds.length)
  if places = 0 then ds else ds.take 1 ++ "." ++ ds.drop 1

def text (places : Nat) (x : Float) : Text :=
  match ofFloat? places x with
  | some (negative, n, k) =>
    (if negative then "-" else "") ++ mantissaText places n ++ exponentText k
  | none => Fixed.text 0 x

/-- Zeros at the end of a fraction are not written. -/
def withoutZeros (t : Text) : Text :=
  let isPoint (c : CodePoint) : Bool := c = '.'
  if t.any isPoint then
    let t : Text := (t.reverse.dropWhile fun (c : CodePoint) => c = '0').reverse
    if t.getLast?.any isPoint then t.dropLast else t
  else t

/-- So many digits in the shorter of the two ways. -/
def general (precision : Nat) (x : Float) : Text :=
  let most := max 1 precision
  match ofFloat? (most - 1) x with
  | some (negative, n, k) =>
    if -4 ≤ k && k < most then withoutZeros (Fixed.text ((most : Int) - 1 - k).toNat x)
    else
      (if negative then "-" else "") ++ withoutZeros (mantissaText (most - 1) n) ++ exponentText k
  | none => Fixed.text 0 x

end LanguageClient.Scientific
