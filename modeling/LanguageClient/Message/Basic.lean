import LanguageClient.Json.Access

/-!
Messages between a client and a server: requests, notifications and responses.
-/

namespace LanguageClient.Message

def request (id method params : Json) : Json :=
  .object [("jsonrpc", "2.0"), ("id", id), ("method", method), ("params", params)]

def notification (method params : Json) : Json :=
  .object [("jsonrpc", "2.0"), ("method", method), ("params", params)]

def response (id result : Json) : Json :=
  .object [("jsonrpc", "2.0"), ("id", id), ("result", result)]

def errorObject (code message data : Json) : Json :=
  .object [("code", code), ("message", message), ("data", data)]

def errorResponse (id code message data : Json) : Json :=
  .object [("jsonrpc", "2.0"), ("id", id), ("error", errorObject code message data)]

namespace Code

def methodNotFound : Int := -32601
def requestCancelled : Int := -32800

/-- Never sent by a server: the link to it was closed. -/
def transportClosed : Int := -1

/-- Never sent by a server: no answer came in time. -/
def requestTimeout : Int := -2

end Code

inductive Kind where
  | request
  | response
  | error
  | notification
deriving DecidableEq

/-- A request asks for an answer under an id; a notification has none. -/
def kindOf (fields : Fields) : Kind :=
  if (fields.get? "method").isSome then
    if (fields.getD "id" .null).isNull then .notification else .request
  else if (fields.getD "error" .null).isNull then .response
  else .error

def kind : Json → Checked Kind
  | .object fields => .ok (kindOf fields)
  | .text _ | .list _ => .error .notAnObject
  | _ => .error .wrongType

end LanguageClient.Message
