import LanguageClient.Json.Display

/-!
The ways in which a session with a server fails.
-/

namespace LanguageClient

inductive Failure where
  | general (text : Text)
  /-- The server could not be launched. -/
  | spawn (text : Text)
  /-- The server is gone, or its pipe is broken. -/
  | closed (text : Text)
  /-- A message could not be handed to the server. -/
  | write (text : Text)
  /-- A frame that cannot be decoded, with its bytes. -/
  | malformed (reason : Text) (raw : Bytes)
  /-- The server answered with an error. -/
  | protocol (code message data : Json)
  /-- The server does not offer a feature. -/
  | unsupported (feature : Json)
  /-- An answer to no pending request. -/
  | unmatched (id : Json)
  | timedOut (text : Text)
  | cancelled (text : Text)

namespace Failure

def shownBytes : Nat := 200

def message : Failure → Text
  | general text | spawn text | closed text | write text | timedOut text | cancelled text => text
  | malformed reason raw => reason ++ ": " ++ Quoted.bytes (raw.take shownBytes)
  | protocol code message _ => "code=" ++ code.display ++ ", message=" ++ message.display
  | unsupported feature => feature.display ++ " not supported"
  | unmatched id => "No pending request with ID " ++ id.describe

inductive Kind where
  | general
  | spawn
  | closed
  | write
  | malformed
  | protocol
  | unsupported
  | unmatched
  | timedOut
  | cancelled
deriving DecidableEq

def kind : Failure → Kind
  | general _ => .general
  | spawn _ => .spawn
  | closed _ => .closed
  | write _ => .write
  | malformed .. => .malformed
  | protocol .. => .protocol
  | unsupported _ => .unsupported
  | unmatched _ => .unmatched
  | timedOut _ => .timedOut
  | cancelled _ => .cancelled

namespace Kind

/-- The kinds that a kind is a case of, the nearest first. -/
def ancestors : Kind → List Kind
  | general => []
  | write => [closed, general]
  | _ => [general]

def isA (a b : Kind) : Bool := a == b || a.ancestors.contains b

end Kind

/-- Whether nothing more can be sent. -/
def isClosed (f : Failure) : Bool := f.kind.isA .closed

/-- The text of a failure that only has details: none, one or several. -/
def detailText : List Json → Text
  | [] => []
  | [v] => v.display
  | vs => "(" ++ Text.joinWith ", " (vs.map Json.describe) ++ ")"

/-- A failure of a given kind from its details; `none` if there are too few or too many. -/
def ofDetails? : Kind → List Json → Option Failure
  | .general, vs => some (general (detailText vs))
  | .spawn, vs => some (spawn (detailText vs))
  | .closed, vs => some (closed (detailText vs))
  | .write, vs => some (write (detailText vs))
  | .timedOut, vs => some (timedOut (detailText vs))
  | .cancelled, vs => some (cancelled (detailText vs))
  | .protocol, [code, message] => some (protocol code message .null)
  | .protocol, [code, message, data] => some (protocol code message data)
  | .unsupported, [feature] => some (unsupported feature)
  | .unmatched, [id] => some (unmatched id)
  | _, _ => none

end Failure

end LanguageClient
