import LanguageClient.Number.Exact
import LanguageClient.Text.Basic

/-!
The shortest decimal that reads back as a given floating point value, and its notation.
-/

namespace LanguageClient.Shortest

/-- A positive ratio of natural numbers, over the power of ten `10 ^ e`. -/
def overPower (num den : Nat) (e : Int) : Nat × Nat :=
  if 0 ≤ e then (num, den * Nat.pow 10 e.natAbs) else (num * Nat.pow 10 e.natAbs, den)

def decimalLength (n : Nat) : Nat := (Nat.toDigits 10 n).length

/-- The place of the decimal point of `num / den`: the least `k` with `num / den < 10 ^ k`. -/
def pointPlace (num den : Nat) : Int :=
  let k : Int := (decimalLength num : Int) - decimalLength den
  let (a, b) := overPower num den k
  if b ≤ a then k + 1 else k

/-- The numbers that read as one value: its own ratio, and the bounds over the same denominator. -/
structure Interval where
  low : Nat
  value : Nat
  high : Nat
  den : Nat
  closed : Bool

/-- Half a unit of the last place on both sides, and a quarter below a power of two. -/
def interval (m : Nat) (e : Int) : Interval :=
  let below := if m == Nat.pow 2 52 && e != -1074 then 1 else 2
  let closed := m % 2 == 0
  if 2 ≤ e then
    let unit := Nat.pow 2 (e - 2).natAbs
    ⟨(4 * m - below) * unit, 4 * m * unit, (4 * m + 2) * unit, 1, closed⟩
  else ⟨4 * m - below, 4 * m, 4 * m + 2, Nat.pow 2 (2 - e).natAbs, closed⟩

def Interval.holds (i : Interval) (e : Int) (d : Nat) : Bool :=
  let (low, den) := overPower i.low i.den e
  let (high, _) := overPower i.high i.den e
  if i.closed then low ≤ d * den && d * den ≤ high else low < d * den && d * den < high

/-- The multiple of `10 ^ e` nearest to the value among those that read back, if there is one. -/
def Interval.onGrid (i : Interval) (e : Int) : Option Nat :=
  let (value, den) := overPower i.value i.den e
  let d := value / den
  match i.holds e d, i.holds e (d + 1) with
  | false, false => none
  | true, false => some d
  | false, true => some (d + 1)
  | true, true =>
    let twice := 2 * (value % den)
    if twice < den || (twice == den && d % 2 == 0) then some d else some (d + 1)

def search (i : Interval) (place : Int) : Nat → Nat → Nat × Int
  | count, 0 =>
    let e := place - count
    let (value, den) := overPower i.value i.den e
    (value / den, e)
  | count, fuel + 1 =>
    let e := place - count
    match i.onGrid e with
    | some d => (d, e)
    | none => search i place (count + 1) fuel

/-- The decimal `d * 10 ^ e` of fewest digits for the positive value `m * 2 ^ e`. -/
def decimal (m : Nat) (e : Int) : Nat × Int :=
  let i := interval m e
  search i (pointPlace i.value i.den) 1 17

/-- Exponents from `-4` to `15` are written with a decimal point alone, the others with `e`, a sign
and at least two digits. -/
structure Style where
  leastPositional : Int := -4
  leastScientific : Int := 16
  exponentDigits : Nat := 2

def Style.write (style : Style) (digits : Text) (place : Int) : Text :=
  let exponent := place - 1
  if style.leastPositional ≤ exponent && exponent < style.leastScientific then
    if place ≤ 0 then "0." ++ Text.zeros place.natAbs ++ digits
    else
      let n := place.toNat
      let whole := digits.take n
      let fraction := digits.drop n
      whole ++ Text.zeros (n - digits.length) ++ "." ++
        (if fraction.isEmpty then Text.zeros 1 else fraction)
  else
    let power := Text.ofNat exponent.natAbs
    let fraction := digits.drop 1
    let point : Text := if fraction.isEmpty then [] else "."
    let sign : Text := if exponent < 0 then "-" else "+"
    digits.take 1 ++ point ++ fraction ++ "e" ++ sign ++
      Text.zeros (style.exponentDigits - power.length) ++ power

def finiteText (negative : Bool) (m : Nat) (e : Int) : Text :=
  let digits : Text :=
    if m == 0 then "0.0"
    else
      let (d, power) := decimal m e
      let ds := Text.ofNat d
      ({} : Style).write (Text.trimEnd (· == '0') ds) (ds.length + power)
  (if negative then "-" else "") ++ digits

end LanguageClient.Shortest
