import LanguageClient.Proofs.Active
import LanguageClient.Proofs.Documents
import LanguageClient.Proofs.Wire.Queues

/-!
Typing. While someone types, a server is told what the document is like now and asked how it goes on. All
that it is told between two ticks is written before all that it is asked, so the last text that it was
told stands behind each question.
-/

namespace LanguageClient

open Act World

/-- A document as it is now, and the place in it where completion is asked for. -/
structure Typing where
  doc : Json
  line : Json
  col : Json

namespace Typing

def action (t : Typing) : Action := .feature (.requestCompletion t.doc t.line t.col)

/-- What the server is told: the document as it is now. -/
def change (t : Typing) : Utterance :=
  ⟨false, "textDocument/didChange", (Document.changeParams t.doc).toOption.getD .null⟩

/-- What the server is asked: how to go on at that place. -/
def completion (t : Typing) : Utterance :=
  ⟨true, "textDocument/completion",
    (Document.positionParams t.doc t.line t.col).toOption.getD .null⟩

def utterances (t : Typing) : List Utterance := [t.change, t.completion]

/-- The typing speaks of the document with that URI, and the session is for its file. No other session
that is for it stumbles over the capabilities of its server. -/
structure Reaches (t : Typing) (id : SessionId) (uri : Json.Key) (w : World) : Prop where
  tells : ∃ params, Document.changeParams t.doc = .ok params ∧
    Session.uriOf params >>= Json.key = .ok uri
  asks : ∃ params, Document.positionParams t.doc t.line t.col = .ok params
  active : ∃ name entries, Document.fileName t.doc = .ok name ∧
    Registry.activeAmong w name w.running = .ok entries ∧ (entries.map (·.2)).count id = 1 ∧
      ∀ entry ∈ entries, ∃ b,
        Capability.supports (w.session entry.2).capabilities "textDocument/completion" = .ok b

/-- What the typing sends is in accord with a conduct. -/
structure Obeys (t : Typing) (c : Conduct) : Prop where
  tells : ∀ params, Document.changeParams t.doc = .ok params → c.allows (.changeDocument params)
  asks : ∀ params, Document.positionParams t.doc t.line t.col = .ok params →
    c.allows (.complete params none)

end Typing

/-- The session is open, the document is open in it, and its server offers completion. -/
structure Session.Completes (s : Session) (uri : Json.Key) : Prop where
  status : s.status = .initialized
  opened : s.isOpen uri
  supports : Capability.supports s.capabilities "textDocument/completion" = .ok (.bool true)

def Action.typing? : Action → Option Typing
  | .feature (.requestCompletion doc line col) => some ⟨doc, line, col⟩
  | _ => none

/-- What happens around the sessions: what servers write, and what becomes of them. -/
def Action.isAround : Action → Bool
  | .advance _ | .failLaunches _ | .setFocus _ | .setProject _ | .link _ _ => true
  | _ => false

/-- What someone typed, in the course of all that happened. -/
def typings (actions : List Action) : List Typing := actions.filterMap Action.typing?

/-- Whether an action is in accord with a conduct. To type is. -/
def Conduct.Admits (c : Conduct) (a : Action) : Prop :=
  c.admits .host a ∨ ∃ t : Typing, a = t.action ∧ t.Obeys c

/-- Whether a server is told what the document with a URI is like now. -/
def Utterance.isChangeOf (uri : Json.Key) (u : Utterance) : Bool :=
  !u.isRequest && DocumentCall.ofNotification? uri ⟨u.method, u.params⟩ = some .changed

/-- What a server was told last of what a document is like. -/
def lastChange (uri : Json.Key) (us : List Utterance) : Option Utterance :=
  (us.filter (·.isChangeOf uri)).getLast?

/-- A world before anything has happened. Sessions may have listeners already, all in accord with a
conduct. -/
structure World.IsSetUp (c : Conduct) (w : World) : Prop where
  sessions : ∀ s ∈ w.sessions, ∃ config name listeners,
    s = { Session.blank config name with listeners := listeners } ∧
      ∀ l ∈ listeners.all, l.obeys c.callback config
  running : ∀ entry ∈ w.running, entry.2 < w.sessions.length
  events : w.events = []

/-- The world after a host did this and that. -/
def World.afterAll (w : World) (actions : List Action) : World :=
  actions.foldl (fun w a => (act a).after w) w

namespace World.IsSetUp

variable {c : Conduct} {w : World}

lemma story_eq (h : w.IsSetUp c) (id : SessionId) : w.story id = [] := by
  rw [story, h.events]
  rfl

lemma exists_session (h : w.IsSetUp c) (id : SessionId) : ∃ config name listeners,
    w.session id = { Session.blank config name with listeners := listeners } ∧
      ∀ l ∈ listeners.all, l.obeys c.callback config := by
  rw [World.session, List.getD_eq_getElem?_getD]
  cases hget : w.sessions[id]? with
  | none => exact ⟨[], .null, {}, rfl, fun _ hl => (List.not_mem_nil hl).elim⟩
  | some s => exact h.sessions s (List.mem_of_getElem? hget)

lemma lawful (h : w.IsSetUp c) : w.Lawful c where
  sessions id := by
    obtain ⟨config, name, listeners, hs, hobeys⟩ := h.exists_session id
    rw [hs, h.story_eq id]
    exact { Session.Sound.blank config name with listeners := hobeys }
  running := h.running

lemma sound (h : w.IsSetUp c) (id : SessionId) : (w.position id []).Sound c id := by
  have hsound := h.lawful.sessions id
  rw [h.story_eq id] at hsound
  rw [World.position, h.story_eq id]
  exact .of_session hsound

lemma isInStep (h : w.IsSetUp c) (id : SessionId) : Queues.IsInStep id (w.position id []) := by
  obtain ⟨config, name, listeners, hs, -⟩ := h.exists_session id
  rw [World.position, hs, h.story_eq id]
  exact (Queues.IsInStep.blank config name).aside rfl (fun h => h) rfl (.refl _)

end World.IsSetUp

namespace Typing

open Queues
open Utterance (only)

variable {c : Conduct} {id other : SessionId} {u v w : World} {us us' : List Utterance} {t : Typing}
  {uri : Json.Key}

/-! Sessions that take what they are to say -/

/-- Sessions that differ at most in their link and in what waits to be sent. -/
structure Akin (s s' : Session) : Prop where
  config : s'.config = s.config
  status : s'.status = s.status
  capabilities : s'.capabilities = s.capabilities
  documents : s'.openDocuments = s.openDocuments
  fault : s'.fault = s.fault

lemma Akin.refl (s : Session) : Akin s s := ⟨rfl, rfl, rfl, rfl, rfl⟩

lemma Akin.trans {s s' s'' : Session} (h : Akin s s') (g : Akin s' s'') : Akin s s'' :=
  ⟨g.config.trans h.config, g.status.trans h.status, g.capabilities.trans h.capabilities,
    g.documents.trans h.documents, g.fault.trans h.fault⟩

lemma Akin.completes {s s' : Session} (h : Akin s s') (hs : s.Completes uri) : s'.Completes uri where
  status := h.status.trans hs.status
  opened := by
    rw [Session.isOpen, h.documents]
    exact hs.opened
  supports := h.capabilities ▸ hs.supports

/-- All that came of something is that a session has more to say, if it is open. -/
structure Takes (id : SessionId) (us : List Utterance) (v w : World) : Prop where
  becomes : Becomes id (w.session id) (w.story id) v w
  akin : Akin (v.session id) (w.session id)
  waiting : (v.session id).status = .initialized → ∀ b,
    (w.session id).waiting b = (v.session id).waiting b ++ only b us
  uttered : uttered id (w.story id) = uttered id (v.story id)

lemma Takes.of_becomes {s : Session} {es : List Event} (h : Becomes id s es v w)
    (ha : Akin (v.session id) s) (hw : (v.session id).status = .initialized → ∀ b,
      s.waiting b = (v.session id).waiting b ++ only b us)
    (he : Adds (isSilent id) (v.story id) es) : Takes id us v w := by
  obtain ⟨rfl, rfl⟩ := And.intro h.session h.story
  exact ⟨h, ha, hw, uttered_eq_of_adds he⟩

lemma Takes.of_alike (h : Alike v w) (hn : (v.session id).status = .initialized → us = []) :
    Takes id us v w :=
  .of_becomes h.becomes (.refl _) (fun hs b => by rw [hn hs]; exact (List.append_nil _).symm) (.refl _)

lemma Takes.trans (h : Takes id us u v) (g : Takes id us' v w) : Takes id (us ++ us') u w where
  becomes := h.becomes.trans g.becomes
  akin := h.akin.trans g.akin
  waiting hs b := by
    rw [g.waiting (h.akin.status.trans hs) b, h.waiting hs b, Utterance.only_append, List.append_assoc]
  uttered := g.uttered.trans h.uttered

lemma takes_put {item : Deferred} (hl : Session.isLifecycle (Deferred.method item) = .ok false)
    (hw : id < w.sessions.length) : Ends (Session.put id item (Deferred.method item)) w fun r v =>
      (∃ b, r = .ok b) ∧ Takes id [.ofDeferred item] w v := by
  refine (Session.ends_put_given item hw).mono fun r v hv => ?_
  cases hv with
  | dropped leaving alike =>
    refine ⟨⟨_, rfl⟩, .of_alike alike fun hs => ?_⟩
    rw [hs] at leaving
    cases leaving
  | failed method => cases hl.symm.trans method
  | deferred status lifecycle becomes =>
    refine ⟨⟨_, rfl⟩, .of_becomes becomes ?_ (fun hs => ?_) ?_⟩
    · cases item <;> exact ⟨rfl, rfl, rfl, rfl, rfl⟩
    · rcases status with status | status <;> cases hs.symm.trans status
    · exact (Adds.single rfl).acceptance (fun _ _ => rfl) item
  | queued status becomes =>
    refine ⟨⟨_, rfl⟩, .of_becomes becomes ?_ (fun _ b => ?_) ?_⟩
    · cases item <;> exact ⟨rfl, rfl, rfl, rfl, rfl⟩
    · exact waiting_queue item b
    · exact (Adds.single rfl).acceptance (fun _ _ => rfl) item

lemma takes_changeDocument {params : Json} {key : Json.Key}
    (hk : Session.uriOf params >>= Json.key = .ok key) (hw : id < w.sessions.length) :
    Ends (Session.changeDocument id params) w fun r v => r = .ok () ∧
      Takes id (if (w.session id).isOpen key then [⟨false, "textDocument/didChange", params⟩] else [])
        w v := by
  unfold Session.changeDocument
  rw [hk]
  refine ends_check_bind (fun k h => ends_getSession_bind ?_) fun f h => by cases h
  obtain rfl := Except.ok.inj h
  split
  next =>
    have hput := @takes_put _ _ (.inl ⟨"textDocument/didChange", params⟩) rfl hw
    refine Ends.bind (hput.mono ?_)
    rintro r v ⟨⟨b, rfl⟩, hv⟩
    exact next_ok (ends_pure ⟨rfl, hv⟩)
  next => exact ends_pure ⟨rfl, .of_alike (.refl w) fun _ => rfl⟩

lemma takes_complete {params : Json} {handler : Option Handler} (hw : id < w.sessions.length) :
    Ends (Session.complete id params handler) w fun r v =>
      r = .ok () ∧ Takes id [⟨true, "textDocument/completion", params⟩] w v := by
  have hput := @takes_put _ _ (.inr ⟨"textDocument/completion", params, handler,
    (w.session id).setting "request_timeout", (w.session id).tickets⟩) rfl hw
  refine Ends.bind (ends_getSession_bind (hput.mono ?_))
  rintro r v ⟨⟨b, rfl⟩, hv⟩
  exact next_ok (ends_pure ⟨rfl, hv⟩)

lemma change_eq {params : Json} (h : Document.changeParams t.doc = .ok params) :
    t.change = ⟨false, "textDocument/didChange", params⟩ := by
  rw [change, h]
  rfl

lemma completion_eq {params : Json} (h : Document.positionParams t.doc t.line t.col = .ok params) :
    t.completion = ⟨true, "textDocument/completion", params⟩ := by
  rw [completion, h]
  rfl

lemma takes_completeWith (ht : t.Reaches id uri u) (hw : other < w.sessions.length) {b : Json}
    (hb : Capability.supports (w.session other).capabilities "textDocument/completion" = .ok b) :
    Ends (Features.completeWith t.doc t.line t.col other) w fun r v => r = .ok () ∧
      ∃ us, Takes other us w v ∧ ((w.session other).isOpen uri → b = .bool true → us = t.utterances) := by
  obtain ⟨params, hparams, hkey⟩ := ht.tells
  obtain ⟨position, hposition⟩ := ht.asks
  unfold Features.completeWith
  rw [hparams]
  refine ends_check_bind (fun p h => ?_) fun f h => by cases h
  obtain rfl := Except.ok.inj h
  refine Ends.bind ((takes_changeDocument hkey hw).mono ?_)
  rintro r v ⟨rfl, hv⟩
  refine next_ok (ends_getSession_bind ?_)
  rw [hv.akin.capabilities, hb]
  refine ends_check_bind (fun b' h => ?_) fun f h => by cases h
  obtain rfl := Except.ok.inj h
  split
  next => exact ends_pure ⟨rfl, _, hv, fun _ h => by cases h⟩
  next =>
    rw [hposition]
    refine ends_check_bind (fun p h => ?_) fun f h => by cases h
    obtain rfl := Except.ok.inj h
    refine (takes_complete (hv.becomes.lt hw)).mono ?_
    rintro r x ⟨rfl, hx⟩
    refine ⟨rfl, _, hv.trans hx, fun hopen _ => ?_⟩
    rw [if_pos hopen, utterances, change_eq hparams, completion_eq hposition]
    rfl
  next hno =>
    obtain ⟨x, hr, hx⟩ := (isRemark_sayQuietly (Failure.unsupported "Completion").message : IsRemark
      (Features.sayQuietly other _)).run v
    rw [Ends, hr]
    have hmore : Takes other [] v x := .of_alike hx fun _ => rfl
    exact ⟨rfl, _, hv.trans hmore, fun _ h => (hno h).elim⟩

/-! All sessions -/

/-- All that came of something is that a session has more to say, and others may. -/
structure Queued (id : SessionId) (us : List Utterance) (v w : World) : Prop where
  length : w.sessions.length = v.sessions.length
  running : w.running = v.running
  akin : ∀ other, Akin (v.session other) (w.session other)
  waiting : (v.session id).status = .initialized → ∀ b,
    (w.session id).waiting b = (v.session id).waiting b ++ only b us
  uttered : uttered id (w.story id) = uttered id (v.story id)

lemma Queued.refl (w : World) : Queued id [] w w :=
  ⟨rfl, rfl, fun _ => .refl _, fun _ _ => (List.append_nil _).symm, rfl⟩

lemma Queued.trans (h : Queued id us u v) (g : Queued id us' v w) : Queued id (us ++ us') u w where
  length := g.length.trans h.length
  running := g.running.trans h.running
  akin other := (h.akin other).trans (g.akin other)
  waiting hs b := by
    rw [g.waiting ((h.akin id).status.trans hs) b, h.waiting hs b, Utterance.only_append,
      List.append_assoc]
  uttered := g.uttered.trans h.uttered

instance : Course (Queued id []) := ⟨.refl, fun h g => h.trans g⟩

lemma Takes.queued (h : Takes id us v w) : Queued id us v w where
  length := h.becomes.length
  running := h.becomes.running
  akin other := by
    by_cases ho : other = id
    · exact ho ▸ h.akin
    · rw [(h.becomes.others other ho).1]
      exact .refl _
  waiting := h.waiting
  uttered := h.uttered

lemma Takes.queued_of_ne (h : Takes other us v w) (hne : id ≠ other) : Queued id [] v w where
  length := h.becomes.length
  running := h.becomes.running
  akin := h.queued.akin
  waiting _ b := by
    rw [(h.becomes.others id hne).1]
    exact (List.append_nil _).symm
  uttered := by rw [(h.becomes.others id hne).2]

/-- The sessions are there, and know what their servers can do. -/
def Know (w : World) (ids : List SessionId) : Prop :=
  ∀ other ∈ ids, other < w.sessions.length ∧ ∃ b,
    Capability.supports (w.session other).capabilities "textDocument/completion" = .ok b

lemma Queued.know {ids : List SessionId} (h : Queued id us v w) (hv : Know v ids) : Know w ids :=
  fun other ho => by
    rw [h.length, (h.akin other).capabilities]
    exact hv other ho

/-- Each time its turn comes, the session has a change and a question more to send. -/
lemma queued_completeIn (ht : t.Reaches id uri u) (ids : List SessionId) (hw : Know w ids)
    (hs : (w.session id).Completes uri) :
    Ends (Features.completeIn t.doc t.line t.col ids) w fun r v =>
      r = .ok () ∧ Queued id (List.replicate (ids.count id) t.utterances).flatten w v := by
  induction ids generalizing w with
  | nil => exact ends_pure ⟨rfl, .refl w⟩
  | cons other rest ih =>
    obtain ⟨⟨hlt, b, hb⟩, hrest⟩ := List.forall_mem_cons.mp hw
    refine Ends.bind ((takes_completeWith ht hlt hb).mono ?_)
    rintro r v ⟨rfl, us, hv, hus⟩
    by_cases ho : other = id
    · subst ho
      obtain rfl := hus hs.opened (Except.ok.inj (hb.symm.trans hs.supports))
      have hq := hv.queued
      refine next_ok ((ih (hq.know hrest) ((hq.akin other).completes hs)).mono ?_)
      rintro r x ⟨rfl, hx⟩
      refine ⟨rfl, ?_⟩
      rw [List.count_cons_self, List.replicate_succ, List.flatten_cons]
      exact hq.trans hx
    · have hq : Queued id [] w v := hv.queued_of_ne (Ne.symm ho)
      refine next_ok ((ih (hq.know hrest) ((hq.akin id).completes hs)).mono ?_)
      rintro r x ⟨rfl, hx⟩
      rw [List.count_cons_of_ne ho]
      exact ⟨rfl, hq.trans hx⟩

/-- Which sessions are for a file is a matter of their status and their configuration. -/
lemma activeAmong_congr {name : Json} (h : ∀ other, Akin (v.session other) (w.session other))
    (running : List (Json × SessionId)) :
    Registry.activeAmong w name running = Registry.activeAmong v name running := by
  induction running with
  | nil => rfl
  | cons entry rest ih =>
    have hpatterns : (w.session entry.2).filePatterns = (v.session entry.2).filePatterns := by
      rw [Session.filePatterns, (h entry.2).config]
      rfl
    rw [Registry.activeAmong, Registry.activeAmong, ih, hpatterns, (h entry.2).status]

lemma Reaches.of_queued (h : t.Reaches id uri v) (hq : Queued id us v w) : t.Reaches id uri w where
  tells := h.tells
  asks := h.asks
  active := by
    obtain ⟨name, entries, hname, hactive, hcount, hsupports⟩ := h.active
    refine ⟨name, entries, hname, ?_, hcount, fun entry he => ?_⟩
    · rw [hq.running, activeAmong_congr hq.akin]
      exact hactive
    · rw [(hq.akin entry.2).capabilities]
      exact hsupports entry he

/-! What happens between two ticks -/

/-- The call returns. The session has the change and the question more to send. -/
lemma queued_act (hrunning : ∀ entry ∈ w.running, entry.2 < w.sessions.length)
    (ht : t.Reaches id uri w) (hs : (w.session id).Completes uri) :
    Ends (act t.action) w fun r v => (∃ x, r = .ok x) ∧ Queued id t.utterances w v := by
  obtain ⟨name, entries, hname, hactive, hcount, hsupports⟩ := ht.active
  have hknow : Know w (entries.map (·.2)) := fun other ho => by
    obtain ⟨entry, he, rfl⟩ := List.mem_map.mp ho
    exact ⟨hrunning entry ((Registry.sublist_of_activeAmong hactive).subset he), hsupports entry he⟩
  have hall := queued_completeIn ht _ hknow hs
  rw [hcount, List.replicate_one, List.flatten_singleton] at hall
  refine Ends.bind (Ends.bind ((Features.ends_sessionsFor t.doc w).mono ?_))
  rintro r v ⟨rfl, -, hids⟩
  obtain rfl := hids name entries hname hactive
  refine next_ok (hall.mono ?_)
  rintro r x ⟨rfl, hx⟩
  exact next_ok (ends_pure ⟨⟨_, rfl⟩, hx⟩)

lemma queued_updateLink (f : Link → Link) : Within (Queued id []) (fun _ => True) (updateLink other f) := by
  refine ⟨fun w _ => ?_⟩
  by_cases ho : other < w.sessions.length
  · have hb := becomes_setSession ho { w.session other with link := (w.session other).link.map f }
    have htakes : Takes other [] w _ := .of_becomes hb ⟨rfl, rfl, rfl, rfl, rfl⟩
      (fun _ b => by cases b <;> exact (List.append_nil _).symm) (.refl _)
    by_cases hid : id = other
    · exact hid ▸ htakes.queued
    · exact htakes.queued_of_ne hid
  · have hsame : w.setSession other { w.session other with link := (w.session other).link.map f } = w := by
      rw [setSession, List.set_eq_of_length_le (Nat.le_of_not_lt ho)]
    change Queued id [] w (w.setSession other _)
    rw [hsame]
    exact .refl w

lemma queued_performLink (action : LinkAction) :
    Within (Queued id []) (fun _ => True) (performLink other action) := by
  have hwrite : ∀ messages, Within (Queued id []) (fun _ => True) (writeMessages other messages) := by
    intro messages
    induction messages with
    | nil => exact within_pure ()
    | cons m rest ih =>
      exact within_check_bind fun bytes _ => (queued_updateLink _).bind_any fun _ => ih
  cases action with
  | write messages => exact hwrite messages
  | writeBytes data => exact within_check_bind fun _ _ => queued_updateLink _
  | complain | setAlive | setBroken | setCode => exact queued_updateLink _

/-- What happens around a session gives it nothing to send. -/
lemma queued_of_isAround {a : Action} (ha : a.isAround) :
    Within (Queued id []) (fun _ => True) (act a) := by
  have hset : ∀ {f : World → World}, (∀ w, (f w).sessions = w.sessions) →
      (∀ w, (f w).running = w.running) → (∀ w, (f w).events = w.events) →
      Within (Queued id []) (fun _ => True) (answerNothing (modify f)) := by
    intro f hs hr he
    refine Within.bind_any (within_modify fun w _ => ?_) fun _ => within_pure _
    have hsession : ∀ other, (f w).session other = w.session other := fun other => by
      rw [World.session, hs]
      rfl
    refine ⟨congrArg _ (hs w), hr w, fun other => ?_, fun _ b => ?_, ?_⟩
    · rw [hsession]
      exact .refl _
    · rw [hsession]
      exact (List.append_nil _).symm
    · rw [story, he]
      rfl
  cases a
  case advance =>
    exact within_check_bind fun x _ => hset (fun _ => rfl) (fun _ => rfl) fun _ => rfl
  case failLaunches => exact hset (fun _ => rfl) (fun _ => rfl) fun _ => rfl
  case setFocus => exact hset (fun _ => rfl) (fun _ => rfl) fun _ => rfl
  case setProject => exact hset (fun _ => rfl) (fun _ => rfl) fun _ => rfl
  case link server action =>
    change Within _ _ (linked server >>= fun id' => answerNothing (performLink id' action))
    rw [linked, bind_assoc]
    refine within_get_bind fun w _ => ?_
    split
    · rw [pure_bind]
      exact ((queued_performLink action).mono fun _ _ => trivial).bind_any fun _ => within_pure _
    · exact within_throw _
  all_goals cases ha

lemma typing?_of_isAround {a : Action} (ha : a.isAround) : a.typing? = none := by
  cases a <;> first | rfl | cases ha

lemma queued_afterAll {batch : List Action} (hrunning : ∀ entry ∈ w.running, entry.2 < w.sessions.length)
    (hs : (w.session id).Completes uri)
    (hb : ∀ a ∈ batch, a.isAround ∨ ∃ t : Typing, a = t.action ∧ t.Reaches id uri w) :
    Queued id ((typings batch).flatMap utterances) w (w.afterAll batch) := by
  induction batch generalizing w with
  | nil => exact .refl w
  | cons a rest ih =>
    obtain ⟨ha, hrest⟩ := List.forall_mem_cons.mp hb
    have hnext : ∀ {us}, Queued id us w ((act a).after w) → Queued id
        (us ++ (typings rest).flatMap utterances) w (w.afterAll (a :: rest)) := fun hq => by
      refine hq.trans (ih (fun entry he => ?_) ((hq.akin id).completes hs) fun b hb => ?_)
      · rw [hq.running] at he
        exact hq.length ▸ hrunning entry he
      · refine (hrest b hb).imp_right ?_
        rintro ⟨t, ht, hreaches⟩
        exact ⟨t, ht, hreaches.of_queued hq⟩
    rcases ha with ha | ⟨t, rfl, ht⟩
    · rw [typings, List.filterMap_cons_none (typing?_of_isAround ha)]
      exact hnext ((queued_of_isAround ha).after w trivial)
    · exact hnext (queued_act hrunning ht hs).2

/-! Typing is in accord with a conduct -/

lemma stays_completeWith (h : t.Obeys c) :
    Stays c other [] (Features.completeWith t.doc t.line t.col other) := by
  refine within_check_bind fun params hparams => ?_
  refine (Session.moves_changeDocument (h.tells params hparams)).bind fun _ => ?_
  refine stays_getSession_bind fun w _ => within_check_bind fun b _ => ?_
  split
  · exact within_pure ()
  · refine within_check_bind fun position hposition => ?_
    exact Session.moves_completeFor rfl (h.asks position hposition)
  · exact (isRemark_sayQuietly _).within

lemma goes_completeIn (h : t.Obeys c) (ids : List SessionId) :
    Within (Goes c .host) (fun w => w.Lawful c ∧ ∀ other ∈ ids, other < w.sessions.length)
      (Features.completeIn t.doc t.line t.col ids) := by
  induction ids with
  | nil => exact within_pure ()
  | cons other rest ih =>
    refine Within.bind_of (fun w hw => ?_) fun _ => ih
    obtain ⟨hlt, hrest⟩ := List.forall_mem_cons.mp hw.2
    have hgoes : Goes c .host w _ :=
      (((stays_completeWith h).lift Task.areIdle_nil).after w ⟨hw.1, hlt⟩).goes
    exact ⟨hgoes, hgoes.lawful hw.1, fun o ho => hgoes.length ▸ hrest o ho⟩

lemma goes_action (h : t.Obeys c) : Within (Goes c .host) (Lawful c) (act t.action) := by
  refine Within.bind_any ?_ fun _ => within_pure _
  refine within_of_ends fun w hw => Ends.bind ((Features.ends_sessionsFor t.doc w).mono ?_)
  rintro r v ⟨rfl, hids, -⟩
  cases r with
  | error f => exact Course.refl _
  | ok ids =>
    refine next_ok (ends_of_within (goes_completeIn h ids) ⟨hw, fun other ho => ?_⟩)
    obtain ⟨name, entries, -, hactive, rfl⟩ := hids ids rfl
    obtain ⟨entry, he, rfl⟩ := List.mem_map.mp ho
    exact hw.running entry ((Registry.sublist_of_activeAmong hactive).subset he)

lemma goes_of_admits {a : Action} (h : c.Admits a) : Within (Goes c .host) (Lawful c) (act a) := by
  rcases h with h | ⟨t, rfl, ht⟩
  · exact goes_act h
  · exact goes_action ht

lemma admits_of_isAround {a : Action} (ha : a.isAround) : c.Admits a := by
  cases a <;> first | exact .inl rfl | cases ha

lemma goes_afterAll {actions : List Action} (ha : ∀ a ∈ actions, c.Admits a) (hw : w.Lawful c) :
    Goes c .host w (w.afterAll actions) := by
  induction actions generalizing w with
  | nil => exact Course.refl w
  | cons a rest ih =>
    rw [List.forall_mem_cons] at ha
    have hgoes : Goes c .host w ((act a).after w) := (goes_of_admits ha.1).after w hw
    exact Course.trans hgoes (ih ha.2 (hgoes.lawful hw))

/-! The last change -/

lemma lastChange_only (us : List Utterance) : lastChange uri (only false us) = lastChange uri us := by
  unfold lastChange only
  rw [List.filter_filter]
  congr 2
  funext u
  cases h : u.isRequest <;> simp [Utterance.isChangeOf, h]

lemma lastChange_append_of_isRequest (h : ∀ u ∈ us', u.isRequest) :
    lastChange uri (us ++ us') = lastChange uri us := by
  have hnone : us'.filter (·.isChangeOf uri) = [] :=
    List.filter_eq_nil_iff.mpr fun u hu => by simp [Utterance.isChangeOf, h u hu]
  rw [lastChange, List.filter_append, hnone, List.append_nil]
  rfl

lemma lastChange_append_singleton {x : Utterance} (h : x.isChangeOf uri) :
    lastChange uri (us ++ [x]) = some x := by
  rw [lastChange, List.filter_append, List.filter_cons_of_pos h]
  exact List.getLast?_append

lemma Reaches.isChangeOf (h : t.Reaches id uri w) : t.change.isChangeOf uri := by
  obtain ⟨params, hparams, hkey⟩ := h.tells
  have hchanged : DocumentCall.ofNotification? uri ⟨"textDocument/didChange", params⟩ = some .changed := by
    unfold DocumentCall.ofNotification?
    rw [hkey]
    exact if_pos rfl
  rw [change_eq hparams, Utterance.isChangeOf, hchanged]
  rfl

lemma only_false_utterances (ts : List Typing) :
    only false (ts.flatMap utterances) = ts.map change := by
  induction ts with
  | nil => rfl
  | cons t rest ih => exact congrArg (t.change :: ·) ih

lemma only_true_utterances (ts : List Typing) :
    only true (ts.flatMap utterances) = ts.map completion := by
  induction ts with
  | nil => rfl
  | cons t rest ih => exact congrArg (t.completion :: ·) ih

end Typing

/-- A tick writes what was typed before it: the changes first, after what waited to be told, and then the
questions, after what waited to be asked. Whatever is asked, the server was told the last text before. -/
structure World.AsksLast (id : SessionId) (uri : Json.Key) (ts : List Typing) (v w : World) : Prop where
  sends : uttered id (v.story id) ++ (v.session id).waiting false ++ ts.map Typing.change ++
    ((v.session id).waiting true ++ ts.map Typing.completion) <+: uttered id (w.story id)
  last : ∀ t ∈ ts.getLast?, ∀ before u,
    before ++ [u] <+: (v.session id).waiting true ++ ts.map Typing.completion →
      lastChange uri (uttered id (v.story id) ++ (v.session id).waiting false ++
        ts.map Typing.change ++ before) = some t.change

open Typing Queues in
/-- Whatever a server is asked, the text that it was told last is the one that was to be told last by then.
Of all that is typed between two ticks, this is the last text, and the next tick writes it before all that
is asked. It is taken for granted that the host leaves the life of a session to the client, sends requests
in the course of ticks and asks for nothing that cannot be sent, and that no message is refused; and for a
tick, that it can read what the server wrote. -/
theorem asksLast_of_mem_outcomes {c : Conduct} {w : World} (hw : w.IsSetUp c) {actions : List Action}
    (ha : ∀ a ∈ actions, c.Admits a) {o : Outcome} (ho : o ∈ outcomes w actions) {id : SessionId}
    (hid : id < o.world.sessions.length) (turns : c.TakesTurns) (sends : c.Sends (w.session id).config)
    (uri : Json.Key) :
    ((o.world.session id).correlator.lastId < numberLimit → ∀ s es, o.world.Saw id s es →
      s.status.isLeaving = false → (∀ refused, .noted id (.refused refused) ∉ es) →
        ∀ server message earlier, .sent id server message :: earlier <:+ es →
          ∀ u ∈ Utterance.ofMessage? message, u.isRequest →
            lastChange uri (uttered id earlier) =
              lastChange uri ((enqueued id earlier).map .ofDeferred)) ∧
    ∀ batch : List Action, (o.world.session id).Completes uri → (o.world.session id).fault = none →
      (∀ a ∈ batch, a.isAround ∨ ∃ t : Typing, a = t.action ∧ t.Obeys c ∧ t.Reaches id uri o.world) →
        Act.Ends (Session.tick (callWithin nestingLimit) id) (o.world.afterAll batch) fun _ v =>
          Session.Legible id v → (∀ refused, .noted id (.refused refused) ∉ v.story id) →
            o.world.AsksLast id uri (typings batch) v := by
  have hgoes : w.Goes c .host o.world := goes_outcomes hw.lawful (fun a h => goes_of_admits (ha a h)) ho
  refine ⟨fun few s es saw live accepted server message earlier hsent u hu hr => ?_,
    fun batch completes hf hbatch => ?_⟩
  · obtain ⟨K, hto, hfrom⟩ := exists_position_of_saw (hgoes.steps id [] rfl) (hw.story_eq id) saw
    have hstep := Steps.isInStep hto turns sends (hw.sound id)
      (Nat.lt_of_le_of_lt hfrom.lastId_le few) live accepted (hw.isInStep id)
    rw [← lastChange_only, hstep.pauses server message earlier hsent u hu hr, lastChange_only]
  · have hlawful := hgoes.lawful hw.lawful
    have hadmits : ∀ a ∈ batch, c.Admits a := fun a h => by
      rcases hbatch a h with h | ⟨t, rfl, hobeys, -⟩
      · exact admits_of_isAround h
      · exact .inr ⟨t, rfl, hobeys⟩
    have hgoes' := goes_afterAll hadmits hlawful
    have hqueued := queued_afterAll hlawful.running completes fun a h =>
      (hbatch a h).imp_right fun ⟨t, hat, _, hreaches⟩ => ⟨t, hat, hreaches⟩
    have hakin := hqueued.akin id
    have hsteps := (hgoes.steps id [] rfl).trans (hgoes'.steps id [] rfl)
    refine (Queues.ends_tick hsteps (hw.sound id) (hw.isInStep id)
      ⟨hgoes'.lawful hlawful, hqueued.length ▸ hid⟩ turns sends (hakin.status.trans completes.status)
      (hakin.fault.trans hf)).mono ?_
    intro result v hsent legible accepted
    obtain ⟨hbefore, u, hu, hto, hsuffix, hlegible, hafter⟩ := hsent legible accepted
    have hall := hbefore.exchange hafter hu.exchanged (Exchanges.waiting_eq hu)
    rw [hqueued.uttered, hqueued.waiting completes.status, hqueued.waiting completes.status,
      only_false_utterances, only_true_utterances] at hall
    have hprefix : uttered id (u.story id) <+: uttered id (v.story id) := uttered_prefix_of_suffix hsuffix
    rw [hall] at hprefix
    refine ⟨by simpa only [List.append_assoc] using hprefix, fun t ht before x hx => ?_⟩
    obtain ⟨ts, hts⟩ := List.getLast?_eq_some_iff.mp ht
    have hrequests : ∀ y ∈ before, y.isRequest := fun y hy => by
      have hmem := hx.subset (List.mem_append_left _ hy)
      rcases List.mem_append.mp hmem with hmem | hmem
      · obtain ⟨r, -, rfl⟩ := List.mem_map.mp hmem
        rfl
      · obtain ⟨t, -, rfl⟩ := List.mem_map.mp hmem
        rfl
    have hchange : t.change.isChangeOf uri := by
      obtain ⟨a, hmem, htyped⟩ := List.mem_filterMap.mp (List.mem_of_getLast? ht)
      rcases hbatch a hmem with h | ⟨t', rfl, -, hreaches⟩
      · cases (typing?_of_isAround h).symm.trans htyped
      · obtain rfl := Option.some.inj htyped
        exact hreaches.isChangeOf
    rw [lastChange_append_of_isRequest hrequests, hts, List.map_append, ← List.append_assoc]
    exact lastChange_append_singleton hchange

/-! Someone who types twice before the next tick -/

/-- A world with one server for the files whose names have a pattern, with the listeners that every
session has. -/
def World.servingFiles (name pattern : Json) : World where
  sessions := [{ Session.blank [("name", name), ("file_patterns", .list [pattern])] name with
    listeners := Registry.featureListeners }]
  running := [(name, 0)]

lemma World.isSetUp_servingFiles (c : Conduct) (name pattern : Json) :
    (servingFiles name pattern).IsSetUp c where
  sessions s hs := by
    obtain rfl := List.mem_singleton.mp hs
    refine ⟨_, _, _, rfl, fun l hl => ?_⟩
    simp only [Listeners.all, Registry.featureListeners, List.map_cons, List.map_nil, List.mem_append,
      List.mem_cons, List.not_mem_nil, or_false, or_self] at hl
    rcases hl with rfl | rfl
    · exact nofun
    · trivial
  running entry h := by
    obtain rfl := List.mem_singleton.mp h
    exact Nat.zero_lt_one
  events := rfl

namespace Typing

variable {t : Typing} {id : SessionId} {uri : Json.Key} {w : World}

def isHeard (t : Typing) (id : SessionId) (uri : Json.Key) (w : World) : Bool :=
  (Document.changeParams t.doc >>= fun params => Session.uriOf params >>= Json.key).toOption = some uri &&
    (Document.positionParams t.doc t.line t.col).toOption.isSome &&
    (Document.fileName t.doc >>= fun name => Registry.activeAmong w name w.running).toOption.any
      fun entries => (entries.map (·.2)).count id = 1 && entries.all fun entry =>
        (Capability.supports (w.session entry.2).capabilities "textDocument/completion").toOption.isSome

lemma toOption_eq_some {α : Type} {r : Checked α} {x : α} : r.toOption = some x ↔ r = .ok x := by
  cases r <;> simp [Except.toOption]

lemma reaches_of_isHeard (h : t.isHeard id uri w) : t.Reaches id uri w := by
  simp only [isHeard, Bool.and_eq_true, decide_eq_true_eq, Option.any_eq_true,
    Option.isSome_iff_exists, toOption_eq_some, List.all_eq_true] at h
  obtain ⟨⟨htells, hasks⟩, entries, hentries, hcount, hsupports⟩ := h
  refine ⟨?_, hasks, ?_⟩
  · cases hp : Document.changeParams t.doc with
    | error f => rw [hp] at htells; cases htells
    | ok params => rw [hp] at htells; exact ⟨params, rfl, htells⟩
  · cases hn : Document.fileName t.doc with
    | error f => rw [hn] at hentries; cases hentries
    | ok name => rw [hn] at hentries; exact ⟨name, entries, rfl, hentries, hcount, hsupports⟩

lemma obeys_pushing (htells : t.change.params.isPlain) (hasks : t.completion.params.isPlain) :
    t.Obeys .pushing where
  tells params h := by
    rw [change_eq h] at htells
    exact .inl htells
  asks params h := by
    rw [completion_eq h] at hasks
    exact .inl hasks

/-- Whether an action is one of a host that pushes what is plain, or types what is plain. -/
def isPlain (a : Action) : Bool :=
  Conduct.pushing.admits .host a ||
    a.typing?.any fun t => t.change.params.isPlain && t.completion.params.isPlain

lemma admits_of_isPlain {a : Action} (h : isPlain a) : Conduct.pushing.Admits a := by
  rcases Bool.or_eq_true_iff.mp h with h | h
  · exact .inl h
  · obtain ⟨t, ht, hplain⟩ := (Option.any_eq_true _ _).mp h
    rw [Bool.and_eq_true] at hplain
    refine .inr ⟨t, ?_, obeys_pushing hplain.1 hplain.2⟩
    unfold Action.typing? at ht
    split at ht
    · obtain rfl := Option.some.inj ht
      rfl
    · cases ht

end Typing

/-- Whether the session is one in which completion can be asked for. -/
def Session.offersCompletion (s : Session) (uri : Json.Key) : Bool :=
  s.status = .initialized && s.isOpen uri &&
    match Capability.supports s.capabilities "textDocument/completion" with
    | .ok (.bool b) => b
    | _ => false

lemma Session.completes_of_offersCompletion {s : Session} {uri : Json.Key}
    (h : s.offersCompletion uri) : s.Completes uri := by
  simp only [offersCompletion, Bool.and_eq_true, decide_eq_true_eq] at h
  refine ⟨h.1.1, h.1.2, ?_⟩
  have hs := h.2
  split at hs
  next b hb => exact hs ▸ hb
  next => cases hs

/-- A number or a text somewhere in what is said. -/
def Utterance.detail (u : Utterance) (path : List Json) : Option Json.Key :=
  (u.params.lookup path .null).key?

theorem asksLast_of_mem_outcomes_twice :
    let typed (version : Int) (text : Json) : Json :=
      .object [("filename", "/a.py"), ("version", .int version), ("text", text)]
    let first : Typing := ⟨typed 1 "x", .int 1, .int 2⟩
    let second : Typing := ⟨typed 2 "xy", .int 1, .int 3⟩
    let uri : Json.Key := .text "file:///a.py"
    let actions : List Action :=
      [.session .null (.handshake .null "editor" "1" none), .session .null .tick,
        .link .null (.write [Message.response (.int 1)
          (.object [("capabilities", .object [("completionProvider", .object [])])])]),
        .session .null .tick,
        .session .null (.openDocument (.object [("textDocument", .object [("uri", "file:///a.py")])])),
        .session .null .tick]
    let batch : List Action :=
      [first.action, .link .null (.write [Message.notification "news" .null]), second.action]
    (World.servingFiles "server" "\\.py$").IsSetUp .pushing ∧ (∀ a ∈ actions, Conduct.pushing.Admits a) ∧
      ∃ o ∈ outcomes (.servingFiles "server" "\\.py$") actions, (o.world.session 0).Completes uri ∧
        (∀ a ∈ batch, a.isAround ∨ ∃ t : Typing, a = t.action ∧ t.Obeys .pushing ∧
          t.Reaches 0 uri o.world) ∧
        Act.Ends (Session.tick (callWithin nestingLimit) 0) (o.world.afterAll batch) fun _ v =>
          o.world.AsksLast 0 uri [first, second] v := by
  intro typed first second uri actions batch
  have hw : (World.servingFiles "server" "\\.py$").IsSetUp .pushing := World.isSetUp_servingFiles _ _ _
  have ha : ∀ a ∈ actions, Conduct.pushing.Admits a := fun a h => by
    have hall : actions.all (Conduct.pushing.admits .host) := by decide +kernel
    exact .inl (List.all_eq_true.mp hall a h)
  have hrun : ∃ o ∈ outcomes (.servingFiles "server" "\\.py$") actions, 0 < o.world.sessions.length ∧
      (o.world.session 0).offersCompletion uri ∧ (o.world.session 0).fault.isNone ∧
      first.isHeard 0 uri o.world ∧ second.isHeard 0 uri o.world ∧
      let v := ((Session.tick (callWithin nestingLimit) 0).run (o.world.afterAll batch)).2
      (v.story 0).all (!·.isRefusal) ∧ (v.story 0).all (!·.isUnreadable) ∧
        (v.session 0).correlator.lastId < numberLimit := by
    decide +kernel
  obtain ⟨o, ho, hid, hoffers, hf, hfirst, hsecond, hrefusing, hlegible, hfew⟩ := hrun
  have hcompletes := Session.completes_of_offersCompletion hoffers
  have hobeys : first.Obeys .pushing ∧ second.Obeys .pushing :=
    ⟨Typing.obeys_pushing (by decide +kernel) (by decide +kernel),
      Typing.obeys_pushing (by decide +kernel) (by decide +kernel)⟩
  have hbatch : ∀ a ∈ batch, a.isAround ∨ ∃ t : Typing, a = t.action ∧ t.Obeys .pushing ∧
      t.Reaches 0 uri o.world := fun a h => by
    simp only [batch, List.mem_cons, List.not_mem_nil, or_false] at h
    rcases h with rfl | rfl | rfl
    · exact .inr ⟨first, rfl, hobeys.1, Typing.reaches_of_isHeard hfirst⟩
    · exact .inl rfl
    · exact .inr ⟨second, rfl, hobeys.2, Typing.reaches_of_isHeard hsecond⟩
  have hasks := (asksLast_of_mem_outcomes hw ha ho hid Conduct.takesTurns_pushing
    (Conduct.sends_pushing rfl rfl) uri).2 batch hcompletes (Option.isNone_iff_eq_none.mp hf) hbatch
  have hreads : Session.Legible 0 _ := legible_of_all hlegible hfew
  have haccepted : ∀ refused, Event.noted 0 (.refused refused) ∉ _ := not_refused_of_all hrefusing
  have hlast := hasks hreads haccepted
  exact ⟨hw, ha, o, ho, hcompletes, hbatch, hlast⟩

/-- The first of two questions is asked after the second text was told. -/
theorem lastChange_ne_of_mem_outcomes_twice :
    let typed (version : Int) (text : Json) : Json :=
      .object [("filename", "/a.py"), ("version", .int version), ("text", text)]
    let first : Typing := ⟨typed 1 "x", .int 1, .int 2⟩
    let second : Typing := ⟨typed 2 "xy", .int 1, .int 3⟩
    let uri : Json.Key := .text "file:///a.py"
    let actions : List Action :=
      [.session .null (.handshake .null "editor" "1" none), .session .null .tick,
        .link .null (.write [Message.response (.int 1)
          (.object [("capabilities", .object [("completionProvider", .object [])])])]),
        .session .null .tick,
        .session .null (.openDocument (.object [("textDocument", .object [("uri", "file:///a.py")])])),
        .session .null .tick, first.action, second.action, .session .null .tick]
    let place (u : Utterance) := u.detail ["position", "character"]
    (World.servingFiles "server" "\\.py$").IsSetUp .pushing ∧ (∀ a ∈ actions, Conduct.pushing.Admits a) ∧
      ∃ o ∈ outcomes (.servingFiles "server" "\\.py$") actions, (o.world.session 0).Completes uri ∧
        first.Reaches 0 uri o.world ∧ second.Reaches 0 uri o.world ∧
        (∀ refused, .noted 0 (.refused refused) ∉ o.world.story 0) ∧
        ∃ n u, (uttered 0 (o.world.story 0))[n]? = some u ∧ u.isRequest ∧
          place u = place first.completion ∧ place u ≠ place second.completion ∧
          lastChange uri ((uttered 0 (o.world.story 0)).take n) ≠ some first.change := by
  intro typed first second uri actions place
  have ha : ∀ a ∈ actions, Conduct.pushing.Admits a := fun a h => by
    have hall : actions.all Typing.isPlain := by decide +kernel
    exact Typing.admits_of_isPlain (List.all_eq_true.mp hall a h)
  have hrun : ∃ o ∈ outcomes (.servingFiles "server" "\\.py$") actions,
      (o.world.session 0).offersCompletion uri ∧ first.isHeard 0 uri o.world ∧
      second.isHeard 0 uri o.world ∧ (o.world.story 0).all (!·.isRefusal) ∧
      (uttered 0 (o.world.story 0))[5]?.any (fun u => u.isRequest &&
        place u = place first.completion && place u ≠ place second.completion) ∧
      (lastChange uri ((uttered 0 (o.world.story 0)).take 5)).map
        (·.detail ["textDocument", "version"]) ≠
          some (first.change.detail ["textDocument", "version"]) := by
    decide +kernel
  obtain ⟨o, ho, hoffers, hfirst, hsecond, hrefusing, hasked, hlast⟩ := hrun
  obtain ⟨u, hu, hplace⟩ := (Option.any_eq_true _ _).mp hasked
  simp only [Bool.and_eq_true, decide_eq_true_eq] at hplace
  exact ⟨World.isSetUp_servingFiles _ _ _, ha, o, ho, Session.completes_of_offersCompletion hoffers,
    Typing.reaches_of_isHeard hfirst, Typing.reaches_of_isHeard hsecond, not_refused_of_all hrefusing,
    5, u, hu, hplace.1.1, hplace.1.2, hplace.2, fun h => hlast (congrArg _ h)⟩

end LanguageClient
