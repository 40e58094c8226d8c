import LanguageClient.Proofs.Session.Course
import LanguageClient.Proofs.Steps.Basic

/-!
Sessions side by side. What is done with a session depends on that session alone, on what all sessions have
in common, and on nothing else; and it changes nothing of the others. So it comes to the same wherever the
session stands and whatever the others are.
-/

namespace LanguageClient

/-! Voices -/

/-- What is heard of a session: frames for its server, and what is asked of the host on its behalf. -/
inductive Voice where
  | frame (server message : Json)
  | call (event : Event)

def Event.isCall : Event → Bool
  | .completed _ _ _ | .opened _ _ _ | .triggered _ _ _ => true
  | _ => false

/-- The session on whose behalf the host is asked next. -/
def asker? : List Event → Option SessionId
  | .noted id .asking :: _ => some id
  | _ => none

def Event.voice? (id : SessionId) (earlier : List Event) : Event → Option Voice
  | .sent session server message => if session = id then some (.frame server message) else none
  | e => if e.isCall && asker? earlier = some id then some (.call e) else none

/-- What was heard of a session, the last first. -/
def voices (id : SessionId) : List Event → List Voice
  | [] => []
  | e :: es => (e.voice? id es).toList ++ voices id es

def Event.IsSilent (e : Event) : Prop := ∀ id es, e.voice? id es = none

lemma voices_cons_of_none {id : SessionId} {e : Event} {es : List Event} (h : e.voice? id es = none) :
    voices id (e :: es) = voices id es := by
  rw [voices, h]
  rfl

lemma voices_sent (id other : SessionId) (server message : Json) (es : List Event) :
    voices other (.sent id server message :: es) =
      if id = other then .frame server message :: voices other es else voices other es := by
  rw [voices, Event.voice?]
  split <;> rfl

lemma Event.voice?_of_isCall {e : Event} (he : e.isCall) (id : SessionId) (es : List Event) :
    e.voice? id es = if asker? es = some id then some (.call e) else none := by
  cases e with
  | completed | opened | triggered => simp [voice?, isCall]
  | _ => cases he

lemma voices_asked (id other : SessionId) {e : Event} (he : e.isCall) (es : List Event) :
    voices other (e :: .noted id .asking :: es) =
      if id = other then .call e :: voices other es else voices other es := by
  have hnote : voices other (.noted id .asking :: es) = voices other es := voices_cons_of_none rfl
  rw [voices, Event.voice?_of_isCall he, asker?, hnote]
  by_cases h : id = other <;> simp [h]

/-! What the client calls back itself -/

/-- A handler that is no callback of a host. -/
def Handler.isOwn : Handler → Bool
  | .host _ => false
  | .opening callback => callback.isNone
  | .completion | .goTo _ => true

def Listener.isOwn : Listener → Bool
  | .host _ => false
  | .logMessage | .ready => true

def OutgoingRequest.IsOwn (r : OutgoingRequest) : Prop := ∀ h ∈ r.handler, h.isOwn

def Deferred.IsOwn (item : Deferred) : Prop := ∀ r, item = .inr r → r.IsOwn

namespace Session

/-- A session of which a host is never called back. -/
def IsOwn (s : Session) : Prop :=
  (∀ p ∈ s.correlator.pending, ∀ h ∈ p.handler, h.isOwn) ∧ (∀ r ∈ s.requests, r.IsOwn) ∧
    (∀ item ∈ s.deferred, item.IsOwn) ∧ ∀ l ∈ s.listeners.all, l.isOwn

/-- One session is configured as another one, and calls back no host unless the other does. -/
def Persists (s t : Session) : Prop := t.name = s.name ∧ t.config = s.config ∧ (s.IsOwn → t.IsOwn)

variable {s t u : Session}

lemma Persists.of_own (hname : t.name = s.name) (hconfig : t.config = s.config)
    (h : s.IsOwn → t.IsOwn) : s.Persists t :=
  ⟨hname, hconfig, h⟩

lemma Persists.refl (s : Session) : s.Persists s := ⟨rfl, rfl, id⟩

lemma Persists.trans (h : s.Persists t) (g : t.Persists u) : s.Persists u :=
  ⟨g.1.trans h.1, g.2.1.trans h.2.1, g.2.2 ∘ h.2.2⟩

lemma isOwn_default : (default : Session).IsOwn := by
  refine ⟨?_, ?_, ?_, ?_⟩ <;> exact fun _ h => by cases h

end Session

/-! Worlds -/

namespace World

/-- What all sessions have in common, without what is there for show. -/
def common (w : World) : World :=
  { w with sessions := [], running := [], events := [], journal := .recorder, scheduler := {} }

/-- Nothing has changed that a session or its server could tell. -/
structure Quiet (v w : World) : Prop where
  sessions : w.sessions = v.sessions
  running : w.running = v.running
  common : w.common = v.common
  voices : ∀ id, voices id w.events = voices id v.events

/-- Nothing has changed but for one session. -/
structure Spares (id : SessionId) (v w : World) : Prop where
  length : w.sessions.length = v.sessions.length
  running : w.running = v.running
  common : w.common = v.common
  stays : (v.session id).Persists (w.session id)
  session : ∀ other, other ≠ id → w.session other = v.session other
  voices : ∀ other, other ≠ id → voices other w.events = voices other v.events

/-- A session of one world and a session of another world that cannot be told apart. -/
structure Twin (id id' : SessionId) (w v : World) : Prop where
  lt : id < w.sessions.length
  lt' : id' < v.sessions.length
  session : w.session id = v.session id'
  own : (w.session id).IsOwn
  voices : voices id w.events = voices id' v.events
  common : w.common = v.common

variable {id id' : SessionId} {u v w : World}

lemma Quiet.refl (w : World) : Quiet w w := ⟨rfl, rfl, rfl, fun _ => rfl⟩

lemma Quiet.trans (h : Quiet u v) (g : Quiet v w) : Quiet u w :=
  ⟨g.sessions.trans h.sessions, g.running.trans h.running, g.common.trans h.common,
    fun id => (g.voices id).trans (h.voices id)⟩

lemma Quiet.session (h : Quiet v w) (id : SessionId) : w.session id = v.session id := by
  rw [World.session, World.session, h.sessions]

lemma Quiet.spares (h : Quiet v w) (id : SessionId) : Spares id v w where
  length := congrArg List.length h.sessions
  running := h.running
  common := h.common
  stays := h.session id ▸ Session.Persists.refl _
  session other _ := h.session other
  voices other _ := h.voices other

lemma quiet_record {e : Event} (he : e.IsSilent) (w : World) : Quiet w (w.record e) :=
  ⟨rfl, rfl, rfl, fun id => voices_cons_of_none (he id _)⟩

lemma quiet_printed (lines : List Text) (w : World) :
    Quiet w (lines.foldl (fun w line => w.record (.printed line)) w) := by
  induction lines generalizing w with
  | nil => exact .refl w
  | cons line lines ih => exact (quiet_record (fun _ _ => rfl) w).trans (ih _)

lemma quiet_log (w : World) (source : Source) (level : Json) (text : Text) (cause : Option Fault) :
    Quiet w (w.log source level text cause) := by
  unfold log
  cases w.journal with
  | recorder =>
    dsimp only
    split
    next => exact .refl w
    next => exact quiet_record (fun _ _ => rfl) w
  | loggers setup =>
    have h : Quiet w { w with journal := .loggers (setup.emit source level text).2 } :=
      ⟨rfl, rfl, rfl, fun _ => rfl⟩
    exact h.trans (quiet_printed _ _)

lemma Spares.trans (h : Spares id u v) (g : Spares id v w) : Spares id u w where
  length := g.length.trans h.length
  running := g.running.trans h.running
  common := g.common.trans h.common
  stays := h.stays.trans g.stays
  session other ho := (g.session other ho).trans (h.session other ho)
  voices other ho := (g.voices other ho).trans (h.voices other ho)

lemma Spares.lt (h : Spares id v w) {other : SessionId} (ho : other < v.sessions.length) :
    other < w.sessions.length :=
  h.length ▸ ho

lemma Twin.symm (h : Twin id id' w v) : Twin id' id v w :=
  ⟨h.lt', h.lt, h.session.symm, h.session ▸ h.own, h.voices.symm, h.common.symm⟩

lemma Twin.of_quiet {w' v' : World} (h : Twin id id' w v) (hw : Quiet w w') (hv : Quiet v v') :
    Twin id id' w' v' where
  lt := hw.sessions ▸ h.lt
  lt' := hv.sessions ▸ h.lt'
  session := by rw [hw.session, hv.session, h.session]
  own := hw.session id ▸ h.own
  voices := by rw [hw.voices, hv.voices, h.voices]
  common := by rw [hw.common, hv.common, h.common]

/-- Another session has its say. -/
lemma Twin.of_spares {other : SessionId} {x : World} (h : Twin id id' w v) (hx : Spares other w x)
    (ho : id ≠ other) : Twin id id' x v where
  lt := hx.lt h.lt
  lt' := h.lt'
  session := (hx.session id ho).trans h.session
  own := hx.session id ho ▸ h.own
  voices := (hx.voices id ho).trans h.voices
  common := hx.common.trans h.common

lemma spares_setSession {s : Session} (hid : id < w.sessions.length) (hs : (w.session id).Persists s) :
    Spares id w (w.setSession id s) where
  length := List.length_set ..
  running := rfl
  common := rfl
  stays := by rwa [session_setSession s hid]
  session _ ho := session_setSession_of_ne s ho
  voices _ _ := rfl

lemma Twin.setSession (h : Twin id id' w v) {f : Session → Session} (hf : ∀ s : Session, s.Persists (f s)) :
    Twin id id' (w.setSession id (f (w.session id))) (v.setSession id' (f (v.session id'))) where
  lt := (spares_setSession h.lt (hf _)).lt h.lt
  lt' := (spares_setSession h.lt' (hf _)).lt h.lt'
  session := by rw [session_setSession _ h.lt, session_setSession _ h.lt', h.session]
  own := by
    rw [session_setSession _ h.lt]
    exact (hf _).2.2 h.own
  voices := h.voices
  common := h.common

/-- Something is heard of a session. -/
lemma spares_of_voices {es : List Event}
    (h : ∀ other, other ≠ id → voices other es = voices other w.events) :
    Spares id w { w with events := es } where
  length := rfl
  running := rfl
  common := rfl
  stays := .refl _
  session _ _ := rfl
  voices := h

end World

/-! Actions -/

namespace Act

open World

variable {α β : Type}

/-- An action on a session that comes to the same wherever the session is, and that leaves the others as
they are. -/
def Local (a : SessionId → Act α) : Prop :=
  ∀ ⦃id id' : SessionId⦄ ⦃w v : World⦄, Twin id id' w v →
    ((a id).run w).1 = ((a id').run v).1 ∧ Twin id id' ((a id).after w) ((a id').after v) ∧
      Spares id w ((a id).after w)

section

variable {a b : SessionId → Act α} {f : α → SessionId → Act β} {x : α}

lemma local_of_quiet (h : ∀ id w, ((a id).run w).1 = .ok x ∧ Quiet w ((a id).after w)) : Local a :=
  fun id id' w v ht => ⟨(h id w).1.trans (h id' v).1.symm, ht.of_quiet (h id w).2 (h id' v).2,
    (h id w).2.spares id⟩

lemma local_pure (x : α) : Local fun _ => (pure x : Act α) :=
  fun _ _ w _ h => ⟨rfl, h, (Quiet.refl w).spares _⟩

lemma local_throw (e : Fault) : Local fun _ => (throw e : Act α) :=
  fun _ _ w _ h => ⟨rfl, h, (Quiet.refl w).spares _⟩

lemma Local.attempt (h : Local a) : Local fun id => (a id).attempt := fun _ _ _ _ ht =>
  ⟨congrArg Except.ok (h ht).1, (h ht).2⟩

lemma Local.bind (ha : Local a) (hf : ∀ x, Local (f x)) : Local fun id => a id >>= fun x => f x id := by
  intro id id' w v ht
  obtain ⟨hresult, htwin, hspares⟩ := ha ht
  simp only [after, run_bind] at htwin hspares ⊢
  rcases hw : (a id).run w with ⟨r, w'⟩
  rcases hv : (a id').run v with ⟨r', v'⟩
  rw [hw] at hresult htwin hspares
  rw [hv] at hresult htwin
  obtain rfl : r = r' := hresult
  cases r with
  | error e => exact ⟨rfl, htwin, hspares⟩
  | ok x =>
    obtain ⟨hnext, htwin', hspares'⟩ := hf x htwin
    exact ⟨hnext, htwin', hspares.trans hspares'⟩

lemma Local.ite {c : Prop} [Decidable c] (ha : c → Local a) (hb : ¬ c → Local b) :
    Local fun id => if c then a id else b id := by
  by_cases h : c
  · simpa only [h, if_true] using ha h
  · simpa only [h, if_false] using hb h

lemma local_check_bind {r : Checked α} (hf : ∀ x, r = .ok x → Local (f x)) :
    Local fun id => check r >>= fun x => f x id := by
  cases r with
  | ok x => exact hf x rfl
  | error e => exact local_throw e

lemma local_getSession_bind {f : Session → SessionId → Act β} (hf : ∀ s, s.IsOwn → Local (f s)) :
    Local fun id => getSession id >>= fun s => f s id := fun id id' w v h => by
  have hrun : (getSession id' >>= fun s => f s id').run v = (f (w.session id) id').run v := by
    rw [h.session]
    rfl
  rw [after, after, hrun]
  exact hf _ h.own h

/-- What regards the session and what all have in common can regard the world. -/
lemma local_get_bind {f : World → SessionId → Act β} (g : Session → World → SessionId → Act β)
    (hg : ∀ w id, f w id = g (w.session id) w.common id) (h : ∀ s c, s.IsOwn → Local (g s c)) :
    Local fun id => get >>= fun w => f w id := fun id id' w v ht => by
  have hw : (get >>= fun w => f w id).run w = (g (w.session id) w.common id).run w := by
    rw [← hg]
    rfl
  have hv : (get >>= fun w => f w id').run v = (g (w.session id) w.common id').run v := by
    rw [ht.session, ht.common, ← hg]
    rfl
  rw [after, after, hw, hv]
  exact h _ _ ht.own ht

lemma local_updateSession {f : Session → Session} (hf : ∀ s : Session, s.Persists (f s)) :
    Local fun id => updateSession id f := fun _ _ _ _ h =>
  ⟨rfl, h.setSession hf, spares_setSession h.lt (hf _)⟩

lemma local_updateSession_bind {f : Session → Session} {g : Unit → SessionId → Act β}
    (hf : ∀ s : Session, s.Persists (f s)) (hg : ∀ x, Local (g x)) :
    Local fun id => updateSession id f >>= fun x => g x id :=
  (local_updateSession hf).bind hg

lemma local_record {e : SessionId → Event} (he : ∀ id, (e id).IsSilent) : Local fun id => record (e id) :=
  local_of_quiet fun id w => ⟨rfl, quiet_record (he id) w⟩

lemma local_note (n : Note) : Local fun id => note id n := local_record fun _ _ _ => rfl

lemma local_log (source : Source) (level : Int) (text : Text) : Local fun _ => log source level text :=
  local_of_quiet fun _ w => ⟨rfl, quiet_log w source (.int level) text none⟩

lemma local_logFault (source : Source) (text : Text) (cause : Fault) :
    Local fun _ => logFault source text cause :=
  local_of_quiet fun _ w => ⟨rfl, quiet_log w source (.int Level.error) text (some cause)⟩

lemma local_deal (d : Dealing) {f : Session → Session} (hf : ∀ s : Session, s.Persists (f s)) :
    Local fun id => deal id d f := by
  change Local fun id => updateSession id f >>= fun _ => record (.dealt id d)
  exact (local_updateSession hf).bind fun _ => local_record (e := fun id => .dealt id d) fun _ _ _ => rfl

lemma local_deal_bind {d : Dealing} {f : Session → Session} {g : Unit → SessionId → Act β}
    (hf : ∀ s : Session, s.Persists (f s)) (hg : ∀ x, Local (g x)) :
    Local fun id => deal id d f >>= fun x => g x id :=
  (local_deal d hf).bind hg

/-- What is heard of both of two twins. -/
lemma local_voice {a : SessionId → Act Unit} {e : SessionId → List Event} {voice : Voice}
    (ha : ∀ id w, (a id).run w = (.ok (), { w with events := e id ++ w.events }))
    (he : ∀ id other es, voices other (e id ++ es) =
      if id = other then voice :: voices other es else voices other es) : Local a := by
  intro id id' w v h
  rw [after, after, ha, ha]
  refine ⟨rfl, ⟨h.lt, h.lt', h.session, h.own, ?_, h.common⟩, spares_of_voices fun other ho => ?_⟩
  · simp only [he, if_true, h.voices]
  · rw [he, if_neg (Ne.symm ho)]

lemma local_sent (server message : Json) : Local fun id => record (.sent id server message) :=
  local_voice (e := fun id => [.sent id server message]) (fun _ _ => rfl)
    fun id other es => voices_sent id other server message es

lemma local_askHost {e : Event} (he : e.isCall) : Local fun id => askHost id e :=
  local_voice (e := fun id => [e, .noted id .asking]) (fun _ _ => rfl)
    fun id other es => voices_asked id other he es

end

end Act

end LanguageClient
