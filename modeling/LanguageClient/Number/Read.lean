import LanguageClient.Text.Blank

/-!
Reading numbers. A decimal reads as the nearest floating point value; beyond the largest one it is
infinite.
-/

namespace LanguageClient.Number

def ofDigits (ds : Text) : Nat := ds.foldl (fun n c => n * 10 + (c.val - 0x30)) 0

/-- Integers of more digits are neither read nor written. -/
def longestInteger : Nat := 4300

/-- Digits in which a single underscore may stand between two of them. -/
def groupedDigits? : Text → Option Text
  | [] => none
  | [c] => if c.isDigit then some [c] else none
  | c :: d :: rest =>
    if !c.isDigit then none
    else if d = '_' then (groupedDigits? rest).map (c :: ·)
    else (groupedDigits? (d :: rest)).map (c :: ·)

/-- A whole number with blanks around it and a sign in front of it. -/
def integer? (t : Text) : Option Int := do
  let t := Text.trim CodePoint.isBlank t
  let (negative, digits) : Bool × Text :=
    match t with
    | c :: rest => if c = '-' then (true, rest) else if c = '+' then (false, rest) else (false, t)
    | [] => (false, t)
  let ds ← groupedDigits? digits
  if ds.length > longestInteger then none
  else
    let n : Int := ofDigits ds
    return if negative then -n else n

/-- `mantissa * 10 ^ exponent`. The exponent is bounded first, so that no power is computed that the
result does not depend on. -/
def scale (mantissa : Nat) (exponent : Int) : Float :=
  let size : Int := (Nat.toDigits 10 mantissa).length
  if mantissa == 0 || size + exponent < -330 then 0.0
  else if size + exponent > 330 then 1.0 / 0.0
  else Float.ofScientific mantissa (exponent < 0) exponent.natAbs

end LanguageClient.Number
