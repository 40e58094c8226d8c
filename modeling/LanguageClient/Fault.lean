import LanguageClient.Failure
import LanguageClient.Number.Read

/-!
Why an operation does not return.
-/

namespace LanguageClient

inductive Fault where
  /-- A mandatory field is missing. -/
  | missingField
  /-- A value of a type that the operation is not defined on. -/
  | wrongType
  /-- A field was asked of what is no object. -/
  | notAnObject
  /-- A text with a lone surrogate has no bytes. -/
  | unencodable
  /-- A pattern that cannot be read. -/
  | badPattern
  /-- A list of the wrong length. -/
  | wrongLength
  /-- A number too large for a floating point value. -/
  | overflow
  | invalidValue (message : Text)
  /-- Code of the host failed. -/
  | host (message : Text)
  | failure (f : Failure)
  /-- There is no server to talk to. -/
  | noServer
  /-- There is no link to a server. -/
  | noLink
  /-- Callbacks within callbacks, too many. -/
  | nestedTooDeep

namespace Fault

def message? : Fault → Option Text
  | invalidValue message | host message => some message
  | failure f => some f.message
  | _ => none

def longInteger (more : Text) : Fault :=
  .invalidValue ("Exceeds the limit (" ++ Text.ofNat Number.longestInteger ++
    " digits) for integer string conversion" ++ more ++
    "; use sys.set_int_max_str_digits() to increase the limit")

/-- An integer of so many digits that it is not read. -/
def longToRead (digits : Nat) : Fault :=
  longInteger (": value has " ++ Text.ofNat digits ++ " digits")

/-- An integer of so many digits that it is not written. -/
def longToWrite : Fault := longInteger []

/-- Whether sending failed because the server is gone. -/
def isClosed : Fault → Bool
  | failure f => f.isClosed
  | _ => false

end Fault

abbrev Checked := Except Fault

end LanguageClient
