import LanguageClient.Text.Basic

/-!
Classes of code points given by the increasing list of the places where membership changes.
-/

namespace LanguageClient.Boundary

def holds : List Nat → CodePoint → Bool
  | [], _ => false
  | b :: bs, c => if c.val < b then false else !holds bs c

end LanguageClient.Boundary
