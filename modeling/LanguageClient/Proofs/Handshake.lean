import LanguageClient.Proofs.Steps.Answering
import LanguageClient.Proofs.Steps.Runs

/-!
A session that is open went through the whole handshake: it knows what its server can do, it asked to
tell it so once, before all that had been deferred, and told its listeners once.
-/

namespace LanguageClient

/-! What is noted of a handshake -/

namespace Event

def deferred? : Event → Option Deferred
  | .noted _ (.deferred item) => some item
  | _ => none

def announced? : Event → Option (List Deferred)
  | .noted _ (.announced items) => some items
  | _ => none

/-- Whether listeners were told that a session is open. -/
def declares : Event → Bool
  | .noted _ (.fired key) => key = .text "initialized"
  | _ => false

end Event

/-- What was deferred, the first item first. -/
def deferredItems (es : List Event) : List Deferred := (es.filterMap Event.deferred?).reverse

def announcements (es : List Event) : List (List Deferred) := es.filterMap Event.announced?

def declarations (es : List Event) : Nat := es.countP Event.declares

def Callback.fails : Callback → Option Json
  | .mk _ _ fails => fails

namespace SessionAction

end SessionAction

namespace Handshake

variable {id : SessionId} {p q : Position}

def isOpening : Task → Bool
  | .opening _ => true
  | _ => false

/-- A handshake that is not over yet. -/
structure Pends (p : Position) : Prop where
  deferred : p.session.deferred = deferredItems p.events
  announced : announcements p.events = []
  declared : declarations p.events = 0
  opening : p.tasks.countP isOpening = 0

/-- A handshake that is over but for what is about to be done. -/
structure Completes (p : Position) : Prop where
  capabilities : p.session.capabilities.isSome
  deferred : p.session.deferred = []
  announced : announcements p.events = [deferredItems p.events]
  declared : declarations p.events + p.tasks.countP isOpening = 1

structure Proceeds (p : Position) : Prop where
  pends : p.session.status = .uninitialized ∨ p.session.status = .initializing → Pends p
  completes : p.session.status = .initialized → Completes p

/-- An event that is of no concern to a handshake. -/
structure IsAside (e : Event) : Prop where
  deferred : e.deferred? = none
  announced : e.announced? = none
  declared : e.declares = false

structure AreAside (es es' : List Event) : Prop where
  deferred : deferredItems es' = deferredItems es
  announced : announcements es' = announcements es
  declared : declarations es' = declarations es

lemma AreAside.refl (es : List Event) : AreAside es es := ⟨rfl, rfl, rfl⟩

lemma AreAside.trans {es es' es'' : List Event} (h : AreAside es es') (g : AreAside es' es'') :
    AreAside es es'' :=
  ⟨g.deferred.trans h.deferred, g.announced.trans h.announced, g.declared.trans h.declared⟩

lemma IsAside.cons {e : Event} (h : IsAside e) (es : List Event) : AreAside es (e :: es) where
  deferred := by rw [deferredItems, List.filterMap_cons_none h.deferred, deferredItems]
  announced := by rw [announcements, List.filterMap_cons_none h.announced, announcements]
  declared := by rw [declarations, List.countP_cons_of_neg (by simp [h.declared]), declarations]

lemma areAside_of_writes {s : Session} {message : Json} {es es' : List Event}
    {result : Except Fault Unit} (h : Writes id s message es result es') : AreAside es es' := by
  cases h with
  | sent | refused | unlinked => exact IsAside.cons ⟨rfl, rfl, rfl⟩ es
  | unencodable => exact .refl es

lemma areAside_dealt (d : Dealing) (es : List Event) : AreAside es (.dealt id d :: es) :=
  IsAside.cons ⟨rfl, rfl, rfl⟩ es

lemma areAside_acceptance (item : Deferred) (es : List Event) :
    AreAside es (Deferred.acceptance id item ++ es) := by
  cases item with
  | inl n => exact .refl es
  | inr r => exact areAside_dealt _ es

lemma Proceeds.aside {s s' : Session} {es es' : List Event} {K K' : List Task}
    (h : Proceeds ⟨s, es, K⟩) (hs : s'.status = s.status) (hc : s'.capabilities = s.capabilities)
    (hd : s'.deferred = s.deferred) (he : AreAside es es')
    (hK : K'.countP isOpening = K.countP isOpening) : Proceeds ⟨s', es', K'⟩ where
  pends hst := by
    have hp := h.pends (hs ▸ hst)
    exact ⟨hd.trans (hp.deferred.trans he.deferred.symm), he.announced.trans hp.announced,
      he.declared.trans hp.declared, hK.trans hp.opening⟩
  completes hst := by
    have hp := h.completes (hs ▸ hst)
    refine ⟨hc ▸ hp.capabilities, hd.trans hp.deferred, ?_, ?_⟩
    · exact he.announced.trans (hp.announced.trans (he.deferred ▸ rfl))
    · exact he.declared ▸ hK ▸ hp.declared

lemma countP_owed (ticket : Nat) (m : Fields) (handler : Option Handler) (K : List Task) :
    (Task.owed ticket m handler ++ K).countP isOpening = K.countP isOpening := by
  cases handler <;> rfl

lemma Proceeds.of_leaving {s : Session} {es : List Event} {K : List Task}
    (h : s.status = .shuttingDown ∨ s.status = .terminated) : Proceeds ⟨s, es, K⟩ := by
  refine ⟨fun hs => ?_, fun hs => ?_⟩ <;> rcases h with h | h <;> simp [h] at hs

lemma Proceeds.defer {s : Session} {es : List Event} {K : List Task} (h : Proceeds ⟨s, es, K⟩)
    (item : Deferred) (hs : s.status = .uninitialized ∨ s.status = .initializing) :
    Proceeds ⟨{ s with deferred := s.deferred ++ [item] }, .noted id (.deferred item) :: es, K⟩ where
  pends hst := by
    have hp := h.pends hst
    refine ⟨?_, hp.announced, ?_, hp.opening⟩
    · have hitems : deferredItems (.noted id (.deferred item) :: es) = deferredItems es ++ [item] := by
        exact List.reverse_cons
      rw [hitems, ← hp.deferred]
    · exact (List.countP_cons_of_neg (by simp [Event.declares])).trans hp.declared
  completes hst := by rcases hs with hs | hs <;> simp [hs] at hst

lemma Pends.welcome {s : Session} {es : List Event} {K : List Task} (h : Pends ⟨s, es, K⟩)
    (capabilities serverInfo : Json) (callback : Option Callback) :
    Completes ⟨s.welcome capabilities serverInfo, .noted id (.announced s.deferred) :: es,
      .opening callback :: K⟩ where
  capabilities := rfl
  deferred := rfl
  announced := by
    have hitems : announcements (.noted id (.announced s.deferred) :: es) =
        s.deferred :: announcements es := List.filterMap_cons_some rfl
    have hsame : deferredItems (.noted id (.announced s.deferred) :: es) = deferredItems es := rfl
    rw [hitems, hsame, h.announced, ← h.deferred]
  declared := by
    have hd : declarations (.noted id (.announced s.deferred) :: es) = declarations es :=
      List.countP_cons_of_neg (by simp [Event.declares])
    have hK : (Task.opening callback :: K).countP isOpening = K.countP isOpening + 1 :=
      List.countP_cons_of_pos rfl
    rw [hd, hK, h.declared, h.opening]

/-- To tell the listeners is what was left to do. -/
lemma Proceeds.declare {s : Session} {es : List Event} {K : List Task} {callback : Option Callback}
    (h : Proceeds ⟨s, es, .opening callback :: K⟩) :
    Proceeds ⟨s, .noted id (.fired (.text "initialized")) :: es, K⟩ where
  pends hst := by
    have hopening := (h.pends hst).opening
    rw [List.countP_cons_of_pos rfl] at hopening
    cases hopening
  completes hst := by
    have hp := h.completes hst
    refine ⟨hp.capabilities, hp.deferred, hp.announced, ?_⟩
    have hd : declarations (.noted id (.fired (.text "initialized")) :: es) = declarations es + 1 :=
      List.countP_cons_of_pos (by simp [Event.declares])
    have hK : (Task.opening callback :: K).countP isOpening = K.countP isOpening + 1 :=
      List.countP_cons_of_pos rfl
    have hcount := hp.declared
    change declarations es + List.countP isOpening (.opening callback :: K) = 1 at hcount
    change declarations (_ :: es) + List.countP isOpening K = 1
    omega

end Handshake

end LanguageClient
