import LanguageClient.Number.Exact
import LanguageClient.Text.Basic

/-!
Floating point values with a fixed number of places. The exact value is rounded; a half goes to the
even neighbour.
-/

namespace LanguageClient.Fixed

def roundHalfEven (num den : Nat) : Nat :=
  let whole := num / den
  let twice := 2 * (num % den)
  if twice < den || (twice == den && whole % 2 == 0) then whole else whole + 1

/-- `m * 2 ^ e` in units of `10 ^ -places`. -/
def units (places m : Nat) (e : Int) : Nat :=
  if 0 ≤ e then m * Nat.pow 10 places * Nat.pow 2 e.natAbs
  else roundHalfEven (m * Nat.pow 10 places) (Nat.pow 2 e.natAbs)

def text (places : Nat) (x : Float) : Text :=
  match Binary.ofFloat x with
  | .notANumber => "nan"
  | .infinite negative => if negative then "-inf" else "inf"
  | .finite negative m e =>
    let n := units places m e
    let ds := Text.ofNat n
    let ds := Text.zeros (places + 1 - ds.length) ++ ds
    (if negative then "-" else "") ++ ds.take (ds.length - places) ++ "." ++
      ds.drop (ds.length - places)

end LanguageClient.Fixed
