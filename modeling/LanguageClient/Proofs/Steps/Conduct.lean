import LanguageClient.Proofs.Session.Dealings

/-!
Conduct: what a host does with its sessions, and what its callbacks do with them.
-/

namespace LanguageClient

/-! What callbacks do -/

mutual

/-- Whether the callbacks that an operation hands over do only what `p` allows. -/
def SessionAction.callbacksObey (p : SessionAction → Bool) : SessionAction → Bool
  | .handshake _ _ _ callback | .pushRequest _ _ callback _ | .complete _ callback
  | .goTo _ _ callback | .onEvent _ callback | .onMethod _ callback
  | .register _ _ callback _ => callbackObeys p callback
  | _ => true

def Action.obeys (p : SessionAction → Bool) : Action → Bool
  | .session _ action => p action && action.callbacksObey p
  | .registry _ | .feature _ | .scheduler _ | .app _ => false
  | _ => true

def Callback.obeys (p : SessionAction → Bool) : Callback → Bool
  | .mk _ actions _ => actionsObey p actions

def actionsObey (p : SessionAction → Bool) : List Action → Bool
  | [] => true
  | a :: rest => a.obeys p && actionsObey p rest

def callbackObeys (p : SessionAction → Bool) : Option Callback → Bool
  | none => true
  | some callback => callback.obeys p

end

/-- A handler of a feature, which turns to the host and leaves the session alone. -/
def Handler.isFeature : Handler → Bool
  | .completion | .goTo _ => true
  | _ => false

def Handler.obeys (p : SessionAction → Bool) : Handler → Bool
  | .host callback => callback.obeys p
  | .opening callback => callbackObeys p callback
  | .completion | .goTo _ => true

lemma Handler.obeys_of_isFeature {p : SessionAction → Bool} {handler : Handler}
    (h : handler.isFeature) : handler.obeys p := by
  cases handler <;> first | rfl | cases h

/-- Whether a listener in a session of a configuration does only what `p` allows. -/
def Listener.obeys (p : SessionAction → Bool) (config : Fields) : Listener → Prop
  | .host callback => callbackObeys p callback
  | .logMessage => True
  | .ready =>
    let settings := config.getD "settings" .null
    settings.holds →
      p (.pushNotification "workspace/didChangeConfiguration" (.object [("settings", settings)]))

/-! Kinds of operations -/

namespace SessionAction

/-- What a client leaves to itself: to fill and to empty its table of requests. -/
def isOwn : SessionAction → Bool
  | register _ _ _ _ | resolve _ _ | failAll _ _ => true
  | _ => false

/-- What ends a session for good. -/
def isEnding : SessionAction → Bool
  | shutdown _ | teardown _ _ => true
  | _ => false

/-- What keeps the documents of a session in step. -/
def isDocument : SessionAction → Bool
  | openDocument _ | closeDocument _ | changeDocument _ => true
  | _ => false

/-- The phases of a tick. -/
def isPhase : SessionAction → Bool
  | readMessages | sendNotifications | sendRequests | dispatchResponses | dispatchErrors
  | dispatchTimeouts => true
  | _ => false

/-- A tick, and what it ends with. -/
def isRound : SessionAction → Bool
  | tick | expire _ => true
  | _ => false

lemma isPhase_of_isEnding {a : SessionAction} (h : a.isEnding) : a.isPhase = false := by
  cases a <;> first | rfl | cases h

/-- What a session is asked to send. A request without a timeout has that of the configuration. -/
def item? (s : Session) : SessionAction → Option Deferred
  | pushNotification method params => some (.inl ⟨method, params⟩)
  | pushRequest method params callback timeout =>
    let timeout := if timeout.isNull then s.setting "request_timeout" else timeout
    some (.inr ⟨method, params, callback.map .host, timeout, s.tickets⟩)
  | openDocument params => some (.inl ⟨"textDocument/didOpen", params⟩)
  | closeDocument params => some (.inl ⟨"textDocument/didClose", params⟩)
  | changeDocument params => some (.inl ⟨"textDocument/didChange", params⟩)
  | complete params callback =>
    some (.inr ⟨"textDocument/completion", params, callback.map .host, s.setting "request_timeout",
      s.tickets⟩)
  | goTo method params callback =>
    some (.inr ⟨("textDocument/" ++ method.display : Text), params, callback.map .host,
      s.setting "request_timeout", s.tickets⟩)
  | _ => none

end SessionAction

/-- Who performs an operation: the host of its own accord, or one of its callbacks. -/
inductive Level where
  | host
  | callback

/-- What a host may do of its own accord, and what its callbacks may do. -/
structure Conduct where
  host : SessionAction → Bool
  callback : SessionAction → Bool
  hostIsOutside : ∀ a, host a → a.isOwn = false
  callbackIsOutside : ∀ a, callback a → a.isOwn = false

namespace Conduct

variable (c : Conduct)

/-- Whatever a client offers. -/
def any : Conduct where
  host a := !a.isOwn
  callback a := !a.isOwn
  hostIsOutside _ h := by simpa using h
  callbackIsOutside _ h := by simpa using h

def may : Level → SessionAction → Bool
  | .host => c.host
  | .callback => c.callback

def allows (a : SessionAction) : Prop := c.host a ∨ c.callback a

/-- Whether callbacks leave it to a tick to go through its phases. -/
def LeavesPhases : Prop := ∀ a : SessionAction, a.isPhase → c.callback a = false

/-- Whatever a client offers, but for callbacks the phases of a tick. -/
def sparing : Conduct where
  host a := !a.isOwn
  callback a := !a.isOwn && !a.isPhase
  hostIsOutside _ h := by simpa using h
  callbackIsOutside _ h := by
    rw [Bool.and_eq_true] at h
    simpa using h.1

lemma leavesPhases_sparing : sparing.LeavesPhases := fun a h => by
  change (!a.isOwn && !a.isPhase) = false
  rw [h, Bool.not_true, Bool.and_false]

/-- Whether an action, with the callbacks it hands over, is in accord with the conduct. -/
def admits (ℓ : Level) : Action → Bool
  | .session _ action => c.may ℓ action && action.callbacksObey c.callback
  | .registry _ | .feature _ | .scheduler _ | .app _ => false
  | _ => true

variable {c}

lemma may_isOutside {ℓ : Level} {a : SessionAction} (h : c.may ℓ a) : a.isOwn = false := by
  cases ℓ with
  | host => exact c.hostIsOutside a h
  | callback => exact c.callbackIsOutside a h

lemma admits_of_obeys {a : Action} (h : a.obeys c.callback) : c.admits .callback a := by
  cases a <;> exact h

lemma allows_of_may {ℓ : Level} {a : SessionAction} (h : c.may ℓ a) : c.allows a := by
  cases ℓ with
  | host => exact .inl h
  | callback => exact .inr h

end Conduct

/-! Whatever is in accord with a conduct is public -/

namespace SessionAction

def callback : SessionAction → Option Callback
  | handshake _ _ _ callback | pushRequest _ _ callback _ | complete _ callback
  | goTo _ _ callback | onEvent _ callback | onMethod _ callback | register _ _ callback _ => callback
  | _ => none

lemma callbacksObey_eq (p : SessionAction → Bool) (a : SessionAction) :
    a.callbacksObey p = callbackObeys p a.callback := by
  cases a <;> rfl

lemma isPublic_eq {a : SessionAction} (h : a.isOwn = false) :
    a.isPublic = callbackIsPublic a.callback := by
  cases a
  all_goals first | rfl | cases h

lemma sizeOf_callback_le (a : SessionAction) : sizeOf a.callback ≤ sizeOf a := by
  cases a
  all_goals
    simp [callback]
    try omega

end SessionAction

mutual

lemma Action.isPublic_of_obeys {p : SessionAction → Bool} (hp : ∀ a, p a → a.isOwn = false) :
    (a : Action) → a.obeys p → a.isPublic
  | .session _ action, h => by
    rw [Action.obeys, Bool.and_eq_true, SessionAction.callbacksObey_eq] at h
    rw [Action.isPublic, SessionAction.isPublic_eq (hp action h.1)]
    have hs := action.sizeOf_callback_le
    exact callbackIsPublic_of_obeys hp action.callback h.2
  | .advance _, _ | .failLaunches _, _ | .setFocus _, _ | .setProject _, _ | .link _ _, _ => rfl

lemma Callback.isPublic_of_obeys {p : SessionAction → Bool} (hp : ∀ a, p a → a.isOwn = false) :
    (callback : Callback) → callback.obeys p → callback.isPublic
  | .mk _ actions _, h => actionsArePublic_of_obey hp actions h

lemma actionsArePublic_of_obey {p : SessionAction → Bool} (hp : ∀ a, p a → a.isOwn = false) :
    (actions : List Action) → actionsObey p actions → actionsArePublic actions
  | [], _ => rfl
  | a :: rest, h => by
    rw [actionsObey, Bool.and_eq_true] at h
    rw [actionsArePublic, Action.isPublic_of_obeys hp a h.1, actionsArePublic_of_obey hp rest h.2]
    rfl

lemma callbackIsPublic_of_obeys {p : SessionAction → Bool} (hp : ∀ a, p a → a.isOwn = false) :
    (callback : Option Callback) → callbackObeys p callback → callbackIsPublic callback
  | none, _ => rfl
  | some callback, h => Callback.isPublic_of_obeys hp callback h

end

lemma Conduct.actionsArePublic {c : Conduct} {actions : List Action} (h : actions.all (c.admits .host)) :
    actionsArePublic actions := by
  induction actions with
  | nil => rfl
  | cons a rest ih =>
    rw [List.all_cons, Bool.and_eq_true] at h
    rw [LanguageClient.actionsArePublic, ih h.2, Bool.and_true]
    cases a with
    | session server action =>
      have ha := h.1
      rw [admits, Bool.and_eq_true, SessionAction.callbacksObey_eq] at ha
      rw [Action.isPublic, SessionAction.isPublic_eq (c.hostIsOutside action ha.1)]
      exact callbackIsPublic_of_obeys c.callbackIsOutside action.callback ha.2
    | registry | feature | scheduler | app => cases h.1
    | _ => rfl

end LanguageClient
