import LanguageClient.World
import Mathlib.Tactic.Lemma

/-!
What becomes of requests, and what it is for their answers to be correlated with them.
-/

namespace LanguageClient

/-!
Operations that a host may use. It leaves it to its client to fill and to empty the table of requests.
-/

mutual

def SessionAction.isPublic : SessionAction → Bool
  | .handshake _ _ _ callback | .pushRequest _ _ callback _ | .complete _ callback
  | .goTo _ _ callback | .onEvent _ callback | .onMethod _ callback => callbackIsPublic callback
  | .register _ _ _ _ | .resolve _ _ | .failAll _ _ => false
  | _ => true

/-- Whether an action uses only what a client offers, and its callbacks do so too. -/
def Action.isPublic : Action → Bool
  | .session _ action => action.isPublic
  | .registry _ | .feature _ | .scheduler _ | .app _ => false
  | _ => true

def Callback.isPublic : Callback → Bool
  | .mk _ actions _ => actionsArePublic actions

def actionsArePublic : List Action → Bool
  | [] => true
  | a :: rest => a.isPublic && actionsArePublic rest

def callbackIsPublic : Option Callback → Bool
  | none => true
  | some callback => callback.isPublic

end

def Handler.callback? : Handler → Option Callback
  | .host callback => some callback
  | .opening callback => callback
  | _ => none

def Handler.isPublic : Handler → Bool
  | .host callback => callback.isPublic
  | .opening callback => callbackIsPublic callback
  | _ => false

def Listener.isPublic : Listener → Bool
  | .host callback => callbackIsPublic callback
  | _ => false

def Callback.label : Callback → Json
  | .mk label _ _ => label

/-! Dealings -/

namespace Dealing

def accepts (t : Nat) : Dealing → Bool
  | accepted u _ => u = t
  | _ => false

/-- Whether a request was accepted with a callback. -/
def asks (t : Nat) : Dealing → Bool
  | accepted u (some handler) => u = t && handler.callback?.isSome
  | _ => false

def registers (t : Nat) : Dealing → Bool
  | registered u _ => u = t
  | _ => false

def answers (t : Nat) : Dealing → Bool
  | answered u _ _ => u = t
  | _ => false

lemma eq_accepted_of_asks {t : Nat} {d : Dealing} (h : d.asks t) :
    ∃ handler, d = accepted t (some handler) ∧ handler.callback?.isSome := by
  cases d with
  | accepted u handler =>
    cases handler with
    | none => cases h
    | some handler =>
      rw [asks, Bool.and_eq_true, decide_eq_true_eq] at h
      exact ⟨handler, by rw [h.1], h.2⟩
  | _ => cases h

lemma eq_registered_of_registers {t : Nat} {d : Dealing} (h : d.registers t) :
    ∃ n, d = registered t n := by
  cases d with
  | registered u n => exact ⟨n, by rw [of_decide_eq_true h]⟩
  | _ => cases h

lemma eq_answered_of_answers {t : Nat} {d : Dealing} (h : d.answers t) :
    ∃ label response, d = answered t label response := by
  cases d with
  | answered u label response => exact ⟨label, response, by rw [of_decide_eq_true h]⟩
  | _ => cases h

end Dealing

/-- The codes of the errors that a client answers its own requests with. -/
def ownCodes : List Int :=
  [Message.Code.requestCancelled, Message.Code.transportClosed, Message.Code.requestTimeout]

/-- A response that answers the request of this number: a message of the server with an id that
equals it, or an error of the client's own. -/
def Answers (ds : List Dealing) (number : Nat) (response : Json) : Prop :=
  (∃ m : Fields, response = .object m ∧ .read m ∈ ds ∧
    (m.getD "id" .null).same (Json.ofNat number)) ∨
  ∃ code ∈ ownCodes, ∃ message : Text,
    response = Message.errorResponse (Json.ofNat number) (.int code) message .null

/-- Every answer, the last first, is for a request that was accepted and registered before. -/
structure Correlated (ds : List Dealing) : Prop where
  acceptedOnce : ∀ t, ds.countP (·.accepts t) ≤ 1
  registeredOnce : ∀ t, ds.countP (·.registers t) ≤ 1
  answeredOnce : ∀ t, ds.countP (·.answers t) ≤ 1
  numbersDiffer : ∀ t u n, .registered t n ∈ ds → .registered u n ∈ ds → t = u
  answered : ∀ t label response earlier, .answered t label response :: earlier <:+ ds →
    ∃ handler callback number, .accepted t (some handler) ∈ earlier ∧
      handler.callback? = some callback ∧ callback.label = label ∧
      .registered t number ∈ earlier ∧ Answers earlier number response

lemma Answers.cons {ds : List Dealing} {number : Nat} {response : Json}
    (h : Answers ds number response) (d : Dealing) : Answers (d :: ds) number response := by
  rcases h with ⟨m, hr, hm, hs⟩ | h
  · exact .inl ⟨m, hr, List.mem_cons_of_mem d hm, hs⟩
  · exact .inr h

lemma Correlated.nil : Correlated [] where
  acceptedOnce _ := Nat.zero_le 1
  registeredOnce _ := Nat.zero_le 1
  answeredOnce _ := Nat.zero_le 1
  numbersDiffer _ _ _ h := (List.not_mem_nil h).elim
  answered _ _ _ _ h := (List.cons_ne_nil _ _ (List.suffix_nil.mp h)).elim

lemma countP_cons_le_one {p : Dealing → Bool} {ds : List Dealing} {d : Dealing}
    (h : ds.countP p ≤ 1) (hd : p d → ∀ e ∈ ds, ¬ p e) : (d :: ds).countP p ≤ 1 := by
  rw [List.countP_cons]
  split
  next hp => exact Nat.le_of_eq (congrArg (· + 1) (List.countP_eq_zero.mpr (hd hp)))
  next => exact h

/-- A dealing may come next if it is not the second of its kind for a request, if its number is
new, and if it is an answer only where one is due. -/
lemma Correlated.cons {ds : List Dealing} (h : Correlated ds) (d : Dealing)
    (accepted : ∀ t handler, d = .accepted t handler → ∀ g, .accepted t g ∉ ds)
    (registered : ∀ t n, d = .registered t n →
      (∀ m, .registered t m ∉ ds) ∧ ∀ u, .registered u n ∉ ds)
    (answered : ∀ t label response, d = .answered t label response →
      (∀ l r, .answered t l r ∉ ds) ∧ ∃ handler callback number,
        .accepted t (some handler) ∈ ds ∧ handler.callback? = some callback ∧
        callback.label = label ∧ .registered t number ∈ ds ∧ Answers ds number response) :
    Correlated (d :: ds) where
  acceptedOnce t := by
    refine countP_cons_le_one (h.acceptedOnce t) fun hd e he hp => ?_
    cases d <;> cases e <;> simp [Dealing.accepts] at hd hp
    subst hd hp
    exact accepted _ _ rfl _ he
  registeredOnce t := by
    refine countP_cons_le_one (h.registeredOnce t) fun hd e he hp => ?_
    cases d <;> cases e <;> simp [Dealing.registers] at hd hp
    subst hd hp
    exact (registered _ _ rfl).1 _ he
  answeredOnce t := by
    refine countP_cons_le_one (h.answeredOnce t) fun hd e he hp => ?_
    cases d <;> cases e <;> simp [Dealing.answers] at hd hp
    subst hd hp
    exact (answered _ _ _ rfl).1 _ _ he
  numbersDiffer t u n ht hu := by
    rcases List.mem_cons.mp ht with ht | ht <;> rcases List.mem_cons.mp hu with hu | hu
    · exact (Dealing.registered.inj (ht.trans hu.symm)).1
    · exact ((registered t n ht.symm).2 u hu).elim
    · exact ((registered u n hu.symm).2 t ht).elim
    · exact h.numbersDiffer t u n ht hu
  answered t label response earlier hs := by
    rcases List.suffix_cons_iff.mp hs with he | hs
    · obtain ⟨rfl, rfl⟩ := List.cons.inj he
      exact (answered t label response rfl).2
    · exact h.answered t label response earlier hs

end LanguageClient
