import LanguageClient.Session.Calls
import Mathlib.Tactic.Lemma

/-!
Causes. A request is resolved with a message that was read, or with an error of the client's own for
which there was an occasion. Whoever waited for it is called back with that.
-/

namespace LanguageClient

open Message (errorResponse)

/-- An error that a client has for its own request of a number, and the occasion for it. -/
inductive IsOwn (id : SessionId) (n : Nat) (es : List Event) : Int → Text → Prop where
  | leaving (text : Text) : IsOwn id n es Message.Code.requestCancelled text
  | ended (text : Text) (ended : .noted id .ended ∈ es) :
    IsOwn id n es Message.Code.transportClosed text
  | overdue {p : Pending Handler} {now : Json} {time : Float}
    (registered : .dealt id (.registered p.ticket n) ∈ es) (time_eq : now.toFloat = .ok time)
    (overdue : Correlator.isOverdue now p = .ok true) :
    IsOwn id n es Message.Code.requestTimeout (Session.timeoutText p (time - p.timestamp))

/-- What the request of a number may be resolved with. -/
inductive Cause (id : SessionId) (n : Nat) (es : List Event) : Json → Prop where
  | read {m : Fields} (read : .dealt id (.read m) ∈ es)
    (same : (m.getD "id" .null).same (Json.ofNat n)) : Cause id n es (.object m)
  | own {code : Int} {text : Text} (own : IsOwn id n es code text) :
    Cause id n es (errorResponse (Json.ofNat n) (.int code) text .null)

/-- Whether an event may come after others: requests are resolved for a cause, and answered with what
they were resolved with. -/
def Event.HasCause (es : List Event) : Event → Prop
  | .dealt id (.resolved t response) => ∃ n, .dealt id (.registered t n) ∈ es ∧ Cause id n es response
  | .answered id t _ _ response => .dealt id (.resolved t response) ∈ es
  | _ => True

/-- Events that came after others one by one, each with its cause. -/
inductive Ensues (es : List Event) : List Event → Prop where
  | refl : Ensues es es
  | cons {e : Event} {es' : List Event} (ensues : Ensues es es') (cause : e.HasCause es') :
    Ensues es (e :: es')

variable {id : SessionId} {n : Nat} {es es' es'' : List Event}

lemma IsOwn.mono {code : Int} {text : Text} (h : IsOwn id n es code text) (hs : es ⊆ es') :
    IsOwn id n es' code text := by
  cases h with
  | leaving => exact .leaving text
  | ended _ ended => exact .ended text (hs ended)
  | overdue registered time_eq overdue => exact .overdue (hs registered) time_eq overdue

lemma Cause.mono {response : Json} (h : Cause id n es response) (hs : es ⊆ es') :
    Cause id n es' response := by
  cases h with
  | read read same => exact .read (hs read) same
  | own own => exact .own (own.mono hs)

lemma Cause.exists_fields {response : Json} (h : Cause id n es response) :
    ∃ m : Fields, response = .object m := by
  cases h <;> exact ⟨_, rfl⟩

namespace Ensues

lemma single {e : Event} (h : e.HasCause es) : Ensues es (e :: es) := .cons .refl h

lemma trans (h : Ensues es es') (g : Ensues es' es'') : Ensues es es'' := by
  induction g with
  | refl => exact h
  | cons _ cause ih => exact .cons ih cause

lemma suffix (h : Ensues es es') : es <:+ es' := by
  induction h with
  | refl => exact List.suffix_rfl
  | cons _ _ ih => exact ih.trans (List.suffix_cons _ _)

/-- From the first event on, every event has its cause in those before it. -/
lemma hasCause {e : Event} (h : Ensues [] es) (hs : e :: es' <:+ es) : e.HasCause es' := by
  induction h with
  | refl => cases List.suffix_nil.mp hs
  | cons _ cause ih =>
    rcases List.suffix_cons_iff.mp hs with he | hs
    · obtain ⟨rfl, rfl⟩ := List.cons.inj he
      exact cause
    · exact ih hs

end Ensues

end LanguageClient
