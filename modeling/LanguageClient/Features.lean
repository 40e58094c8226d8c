import LanguageClient.Capability
import LanguageClient.Document
import LanguageClient.Location
import LanguageClient.Registry
import LanguageClient.Session.Documents

/-!
What an editor offers with the help of servers: synchronised documents, completion, and going to the
place where a symbol is defined.
-/

namespace LanguageClient.Features

def say (id : SessionId) (text : Text) : Act Unit := do
  log .features Level.info ((← getSession id).tag ++ text)

def sayQuietly (id : SessionId) (text : Text) : Act Unit := do
  log .client Level.debug ((← getSession id).tag ++ text)

/-! Listeners -/

def onLogMessage (id : SessionId) (params : Json) : Act Unit := do
  let message := params.lookup ["message"] .null
  if message.holds then say id message.display

def joined (characters : Json) : Checked Text := do
  let parts ← (← characters.elements).mapM fun c =>
    match c with
    | .text t => Except.ok t
    | _ => Except.error Fault.wrongType
  return Text.joinWith ", " parts

/-- An open session is told its settings, and the host the characters that trigger completion. -/
def onReady (id : SessionId) : Act Unit := do
  say id "Initialized"
  let s ← getSession id
  let settings := s.setting "settings"
  if settings.holds then
    let _ ← Session.pushNotification id "workspace/didChangeConfiguration"
      (.object [("settings", settings)])
  let characters := s.triggers
  if characters.holds then
    if s.isVerbose then
      let shown ← Act.check (joined characters)
      log .client Level.info
        (s.tag ++ "Adding triggers for '" ++ s.language.display ++ "' - " ++ shown)
    askHost id (.triggered s.language s.filePatterns characters)

/-! Documents -/

/-- The sessions for a document. -/
def sessionsFor (doc : Json) : Act (List SessionId) := do
  let fileName ← Act.check (Document.fileName doc)
  return (← Registry.active fileName).map (·.2)

def openIn (doc : Json) : List SessionId → Act Unit
  | [] => pure ()
  | id :: rest => do
    let item ← Act.check (Document.item doc)
    Session.openDocument id (.object [("textDocument", item)])
    openIn doc rest

/-- Starts the servers for a document and opens it with them. -/
def openDocument (doc : Json) : Act Unit := do
  let fileName ← Act.check (Document.fileName doc)
  let _ ← Registry.start fileName (← get).project
  openIn doc (← sessionsFor doc)

def closeIn (doc : Json) : List SessionId → Act Unit
  | [] => pure ()
  | id :: rest => do
    let identifier ← Act.check (Document.identifier doc)
    Session.closeDocument id (.object [("textDocument", identifier)])
    closeIn doc rest

def closeDocument (doc : Json) : Act Unit := do
  closeIn doc (← sessionsFor doc)

/-! Completion -/

/-- Sends the document as it is, then asks for completion, if the server offers it. -/
def completeWith (doc line col : Json) (id : SessionId) : Act Unit := do
  Session.changeDocument id (← Act.check (Document.changeParams doc))
  let s ← getSession id
  match ← Act.check (Capability.supports s.capabilities "textDocument/completion") with
  | .null => pure ()
  | .bool true =>
    let params ← Act.check (Document.positionParams doc line col)
    Session.complete id params (some .completion)
  | _ => sayQuietly id (Failure.unsupported "Completion").message

def completeIn (doc line col : Json) : List SessionId → Act Unit
  | [] => pure ()
  | id :: rest => do
    completeWith doc line col id
    completeIn doc line col rest

def requestCompletion (doc line col : Json) : Act Unit := do
  completeIn doc line col (← sessionsFor doc)

/-- Hands completion items to the host. -/
def offer (id : SessionId) (items : Json) : Act Unit := do
  if items.holds then
    let s ← getSession id
    let entries ← Act.check (Completion.entries items)
    askHost id (.completed s.name s.filePatterns entries)

/-- The result is a list of items, or an object that holds one and tells whether it is complete. -/
def onCompletion (id : SessionId) (response : Json) : Act Unit := do
  match ← Act.check (Message.failure? response) with
  | some f => sayQuietly id ("Completion failed: " ++ f.message)
  | none =>
    let result ← Act.check (response.field "result")
    match result with
    | .object list =>
      if (Fields.getD list "isIncomplete" .null).holds then
        sayQuietly id "Completion list incomplete"
      else offer id (Fields.getD list "items" .null)
    | items => offer id items

/-! Going to symbols -/

/-- The methods for a symbol, the first choice first, and the capability that each needs. -/
def definitionMethods : List (Text × Text) :=
  [("definition", "definitionProvider"), ("declaration", "declarationProvider"),
    ("typeDefinition", "typeDefinitionProvider")]

def implementationMethods : List (Text × Text) := [("implementation", "implementationProvider")]

def firstEnabled (capabilities : Json) : List (Text × Text) → Checked (Option Text)
  | [] => .ok none
  | (method, provider) :: rest => do
    if Capability.enabled (← capabilities.field provider) then return some method
    else firstEnabled capabilities rest

def goToWith (doc line col : Json) (implementation : Bool) (id : SessionId) : Act Unit := do
  let s ← getSession id
  match s.capabilities with
  | none => pure ()
  | some capabilities =>
    let methods := if implementation then implementationMethods else definitionMethods
    match ← Act.check (firstEnabled capabilities methods) with
    | none =>
      let feature : Text := if implementation then "implementation" else "definition"
      say id (Failure.unsupported ("Goto " ++ feature : Text)).message
    | some method =>
      let params ← Act.check (Document.positionParams doc line col)
      Session.goTo id method params (some (.goTo method))

def goToIn (doc line col : Json) (implementation : Bool) : List SessionId → Act Unit
  | [] => pure ()
  | id :: rest => do
    goToWith doc line col implementation id
    goToIn doc line col implementation rest

def goTo (doc line col : Json) (implementation : Bool) : Act Unit := do
  goToIn doc line col implementation (← sessionsFor doc)

def pathOf (uri : Json) : Checked Text :=
  match uri with
  | .text t => Uri.toPath t
  | _ => .error .notAnObject

/-- Of several locations the host opens the first one. -/
def onGoTo (method : Text) (id : SessionId) (response : Json) : Act Unit := do
  match ← Act.check (Message.failure? response) with
  | some f => say id ("Goto " ++ method ++ " failed: " ++ f.message)
  | none =>
    let location := Location.firstOf (← Act.check (response.field "result"))
    let uri := Location.uri location
    if !uri.holds then say id ("No " ++ method ++ " found")
    else
      let (line, col) ← Act.check (Location.selection (Location.range location))
      let path ← Act.check (pathOf uri)
      askHost id (.opened path (← Act.check line.writable) (← Act.check col.writable))

/-! Events of the host -/

/-- The start of a selection, if the selection is empty. -/
def caret? (selection : Json) : Checked (Option (Json × Json)) := do
  match ← selection.elements with
  | [line1, col1, line2, col2] =>
    return if line1.same line2 && col1.same col2 then some (line1, col1) else none
  | _ => throw .wrongLength

def textInput (doc selection : Json) : Act Unit := do
  match ← Act.check (caret? selection) with
  | some (line, col) => requestCompletion doc line col
  | none => pure ()

def goToSelected (implementation : Bool) (doc selection : Json) : Act Unit := do
  match ← Act.check (caret? selection) with
  | some (line, col) => goTo doc line col implementation
  | none => pure ()

end LanguageClient.Features
