import LanguageClient.Session.Sending

/-!
Open documents. A document is opened once before it is closed, and changes only while it is open.
-/

namespace LanguageClient.Session

def uriOf (params : Json) : Checked Json := do
  (← params.mandatory "textDocument").mandatory "uri"

def openDocument (id : SessionId) (params : Json) : Act Unit := do
  let uri ← Act.check (uriOf params)
  let key ← Act.check uri.key
  if !(← getSession id).isOpen key then
    if ← pushNotification id "textDocument/didOpen" params then
      updateSession id fun s => { s with openDocuments := s.openDocuments ++ [(key, uri)] }

def closeDocument (id : SessionId) (params : Json) : Act Unit := do
  let key ← Act.check ((uriOf params) >>= Json.key)
  if (← getSession id).isOpen key then
    let _ ← pushNotification id "textDocument/didClose" params
    updateSession id fun s =>
      { s with openDocuments := s.openDocuments.filter fun (k, _) => k ≠ key }

def changeDocument (id : SessionId) (params : Json) : Act Unit := do
  let key ← Act.check ((uriOf params) >>= Json.key)
  if (← getSession id).isOpen key then
    let _ ← pushNotification id "textDocument/didChange" params

def complete (id : SessionId) (params : Json) (handler : Option Handler) : Act Unit := do
  let _ ← pushRequest id "textDocument/completion" params handler .null

/-- Asks for the places of a symbol: its definition, declaration, type or implementation. -/
def goTo (id : SessionId) (method params : Json) (handler : Option Handler) : Act Unit := do
  let _ ← pushRequest id ("textDocument/" ++ method.display : Text) params handler .null

end LanguageClient.Session
