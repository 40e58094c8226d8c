import LanguageClient.Message.Basic

/-!
The failure that a response carries.
-/

namespace LanguageClient.Message

/-- Two codes are the client's own, and a third is the server's word that it gave up. -/
def failureOfError (error : Fields) : Failure :=
  let code := error.getD "code" .null
  let message := (error.getD "message" .null).orElse ""
  if code.same (.int Code.transportClosed) then .closed message.display
  else if code.same (.int Code.requestTimeout) then .timedOut message.display
  else if code.same (.int Code.requestCancelled) then .cancelled message.display
  else .protocol code message (error.getD "data" .null)

/-- A response without an error succeeded. -/
def failure? (response : Json) : Checked (Option Failure) := do
  let error ← response.field "error"
  if !error.holds then return none
  return some (failureOfError (← error.fields))

end LanguageClient.Message
