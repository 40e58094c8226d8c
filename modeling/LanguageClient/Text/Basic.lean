/-!
Texts are lists of code points. A lone surrogate is a code point like any other, since a JSON
escape can write one.
-/

namespace LanguageClient

structure CodePoint where
  val : Nat
  isLt : val < 0x110000
deriving DecidableEq

namespace CodePoint

def ofChar (c : Char) : CodePoint :=
  ⟨c.val.toNat, by
    have h := c.valid
    simp only [UInt32.isValidChar, Nat.isValidChar] at h
    omega⟩

instance : Coe Char CodePoint := ⟨ofChar⟩

instance : Inhabited CodePoint := ⟨'?'⟩

def replacement : CodePoint := '\uFFFD'

def ofNat (n : Nat) : CodePoint := if h : n < 0x110000 then ⟨n, h⟩ else replacement

def within (lo hi : Nat) (c : CodePoint) : Bool := lo ≤ c.val && c.val ≤ hi

def isAscii (c : CodePoint) : Bool := c.val < 0x80

def isSurrogate (c : CodePoint) : Bool := c.within 0xD800 0xDFFF

def isDigit (c : CodePoint) : Bool := c.within 0x30 0x39

def isAsciiLetter (c : CodePoint) : Bool := c.within 0x41 0x5A || c.within 0x61 0x7A

/-- The value of a hexadecimal digit of either case. -/
def hexDigit? (c : CodePoint) : Option Nat :=
  if c.isDigit then some (c.val - 0x30)
  else if c.within 0x61 0x66 then some (c.val - 0x61 + 10)
  else if c.within 0x41 0x46 then some (c.val - 0x41 + 10)
  else none

/-- Upper case ASCII letters become lower case; every other code point stays. -/
def lowerAscii (c : CodePoint) : CodePoint :=
  if c.within 0x41 0x5A then ofNat (c.val + 0x20) else c

theorem ext_val {a b : CodePoint} (h : a.val = b.val) : a = b := by
  cases a; cases b; simp_all

theorem ofNat_val (c : CodePoint) : ofNat c.val = c := by
  simp [ofNat, c.isLt]

end CodePoint

abbrev Text := List CodePoint

abbrev Bytes := List UInt8

namespace Text

def ofString (s : String) : Text := s.toList.map CodePoint.ofChar

instance : Coe String Text := ⟨ofString⟩

def lowerAscii (t : Text) : Text := t.map CodePoint.lowerAscii

def zeros (n : Nat) : Text := List.replicate n '0'

/-- The digits of `n` in `base`, most significant first; zero has the single digit `0`. -/
def digits (base : Nat) (n : Nat) : Text :=
  (Nat.toDigits base n).map CodePoint.ofChar

def ofNat (n : Nat) : Text := digits 10 n

def ofInt : Int → Text
  | .ofNat n => ofNat n
  | .negSucc n => CodePoint.ofChar '-' :: ofNat (n + 1)

/-- The digits of `n` in base sixteen, filled with zeros up to `width`. -/
def hex (width n : Nat) : Text :=
  let ds := digits 16 n
  zeros (width - ds.length) ++ ds

def joinWith (separator : Text) : List Text → Text
  | [] => []
  | [t] => t
  | t :: ts => t ++ separator ++ joinWith separator ts

/-- The pieces between the occurrences of one code point. -/
def splitAt (c : CodePoint) : Text → List Text
  | [] => [[]]
  | x :: xs =>
    if x = c then [] :: splitAt c xs
    else match splitAt c xs with
      | [] => [[x]]
      | p :: ps => (x :: p) :: ps

/-- The part before the first occurrence of `c` and the part after it, if `c` occurs. -/
def cutAt (c : CodePoint) : Text → Option (Text × Text)
  | [] => none
  | x :: xs => if x = c then some ([], xs) else (cutAt c xs).map fun (a, b) => (x :: a, b)

/-- The part before the first occurrence of `c`; everything if there is none. -/
def before (c : CodePoint) (t : Text) : Text := t.takeWhile (· ≠ c)

/-- The part after the first occurrence of `c`; nothing if there is none. -/
def after (c : CodePoint) (t : Text) : Text := (t.dropWhile (· ≠ c)).drop 1

/-- Drops the code points of a class from both ends. -/
def trim (blank : CodePoint → Bool) (t : Text) : Text :=
  ((t.dropWhile blank).reverse.dropWhile blank).reverse

def trimEnd (blank : CodePoint → Bool) (t : Text) : Text :=
  (t.reverse.dropWhile blank).reverse

/-- Order by code point; a proper initial part comes first. -/
def precedes : Text → Text → Bool
  | [], [] => false
  | [], _ :: _ => true
  | _ :: _, [] => false
  | a :: as, b :: bs => a.val < b.val || (a.val == b.val && precedes as bs)

end Text

end LanguageClient
