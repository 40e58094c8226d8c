import LanguageClient.Text.Boundary

/-!
Blank code points: the ASCII blanks with the four information separators, the next line control
and the space separators.
-/

namespace LanguageClient.CodePoint

def blankBoundaries : List Nat :=
  [0x9, 0xE, 0x1C, 0x21, 0x85, 0x86, 0xA0, 0xA1, 0x1680, 0x1681, 0x2000, 0x200B, 0x2028, 0x202A,
   0x202F, 0x2030, 0x205F, 0x2060, 0x3000, 0x3001]

def isBlank (c : CodePoint) : Bool := Boundary.holds blankBoundaries c

end LanguageClient.CodePoint
