import LanguageClient.Fault
import LanguageClient.Json.Basic

/-!
What a host does with clients, as data: operations, and callbacks that run operations themselves.
-/

namespace LanguageClient

/-- What the other end of a link does. -/
inductive LinkAction where
  | write (messages : List Json)
  /-- Bytes, or why there are none. -/
  | writeBytes (data : Checked Bytes)
  | complain (lines : List Json)
  | setAlive (value : Json)
  | setBroken (value : Json)
  | setCode (value : Json)

inductive RegistryAction where
  | addServer (config : Json)
  | servers
  | active (fileName : Json)
  | start (fileName project : Json)
  | process
  | shutdown (timeout : Json)
  | breakProcess (message : Json)

inductive FeatureAction where
  | openDocument (doc : Json)
  | closeDocument (doc : Json)
  | requestCompletion (doc line col : Json)
  | goTo (doc line col implementation : Json)
  | textInput (doc selection : Json)
  | complete (doc selection : Json)
  | goToDefinition (doc selection : Json)
  | goToImplementation (doc selection : Json)

inductive SchedulerAction where
  | interval
  | runOnce
  | isRunning
  | start
  | stop

inductive AppAction where
  | start
  | shutdown (timeout : Json)
  | setUpLogging
  | tearDownLogging

mutual

inductive SessionAction where
  | start
  | handshake (rootUri name version : Json) (callback : Option Callback)
  | shutdown (timeout : Json)
  | teardown (reason timeout : Json)
  | tick
  | readMessages
  | sendNotifications
  | sendRequests
  | dispatchResponses
  | dispatchErrors
  | dispatchTimeouts
  | pushNotification (method params : Json)
  | pushRequest (method params : Json) (callback : Option Callback) (timeout : Json)
  | openDocument (params : Json)
  | closeDocument (params : Json)
  | changeDocument (params : Json)
  | isDocumentOpen (uri : Json)
  | complete (params : Json) (callback : Option Callback)
  | goTo (method params : Json) (callback : Option Callback)
  | supports (method : Json)
  | capabilities
  | serverInfo
  | triggers
  | itemKind (kind : Json)
  | config
  | phase
  | onEvent (name : Json) (callback : Option Callback)
  | onMethod (name : Json) (callback : Option Callback)
  | log (message level : Json)
  | nextId
  | register (id method : Json) (callback : Option Callback) (timeout : Json)
  | resolve (id response : Json)
  | failAll (code message : Json)
  | expire (now : Json)
  | contains (id : Json)
  | pending
  | hasMethod (name : Json)
  | fireEvent (name : Json) (args : List Json)
  | fireMethod (name params : Json)
  | breakTick (message : Json)

inductive Action where
  | advance (seconds : Json)
  | failLaunches (names : List Json)
  | setFocus (value : Json)
  | setProject (value : Json)
  | link (server : Json) (action : LinkAction)
  | session (server : Json) (action : SessionAction)
  | registry (action : RegistryAction)
  | feature (action : FeatureAction)
  | scheduler (action : SchedulerAction)
  | app (action : AppAction)

/-- A callback of the host: it leaves a mark, runs operations and may fail at the end. -/
inductive Callback where
  | mk (label : Json) (actions : List Action) (fails : Option Json)

end

/-- What is called with the answer to a request. -/
inductive Handler where
  | host (callback : Callback)
  /-- The answer to the request that opens a session. -/
  | opening (callback : Option Callback)
  | completion
  | goTo (method : Text)

/-- What is called when something happens in a session. Nothing at all can be called, in vain. -/
inductive Listener where
  | host (callback : Option Callback)
  | logMessage
  | ready

end LanguageClient
