import LanguageClient.Proofs.Session.Course
import LanguageClient.Session.Documents

/-!
Sending. A request that is pushed gets a ticket of its own, and a number of its own when it is
taken from the queue.
-/

namespace LanguageClient.Session

open Act

variable {id : SessionId}

/-- An item that a session may take: a request has the next ticket and a handler of the host. -/
structure Takes (id : SessionId) (item : Deferred) (w : World) : Prop where
  known : w.Known id
  ticket : ∀ r, item = .inr r → r.ticket = (w.session id).tickets
  isPublic : ∀ r, item = .inr r → ∀ h ∈ r.handler, h.isPublic

lemma Takes.note {item : Deferred} {w : World} (h : Takes id item w) (n : Note) :
    Takes id item (w.record (.noted id n)) :=
  ⟨Stable.step (World.leads_record (fun _ => rfl) w) h.known, h.ticket, h.isPublic⟩

lemma Takes.log {item : Deferred} {w : World} (h : Takes id item w) (level : Int) (text : Text) :
    Takes id item (w.log .client (.int level) text none) := by
  have hl := World.leads_log w .client (.int level) text none
  refine ⟨Stable.step hl h.known, fun r hr => ?_, h.isPublic⟩
  have hs := (World.log_eq w .client (.int level) text none id).2.1
  rw [World.session, hs]
  exact h.ticket r hr

lemma within_accept {item : Deferred} {f : Session → Session}
    (hn : ∀ n, item = .inl n → ∀ s ds, (f s).account ds = s.account ds)
    (hr : ∀ r, item = .inr r → ∀ s ds, ∃ waiting, waiting.Perm (r :: (s.account ds).waiting) ∧
      (f s).account ds = { s.account ds with waiting }) :
    Within World.Leads (Takes id item) (accept id item f) := by
  cases item with
  | inl n => exact (keeps_updateSession_of_eq (hn n rfl)).mono fun w hw => hw.known
  | inr r =>
    refine ⟨fun w hw => World.leads_deal hw.known.lt ?_ trivial⟩
    obtain ⟨waiting, hperm, ha⟩ := hr r rfl (w.session id) (.accepted r.ticket r.handler ::
      dealings id w.events)
    have he : ({ f (w.session id) with tickets := (w.session id).tickets + 1 } : Session).account
        (.accepted r.ticket r.handler :: dealings id w.events) =
        { (f (w.session id)).account (.accepted r.ticket r.handler :: dealings id w.events) with
          tickets := (w.session id).tickets + 1 } := rfl
    rw [he, ha]
    exact .accepted (a := w.account id) r waiting (hw.ticket r rfl) (hw.isPublic r rfl) hperm

lemma within_accept_queue (item : Deferred) :
    Within World.Leads (Takes id item) (accept id item fun s => s.queue item) := by
  refine within_accept (fun n hn s ds => by subst hn; rfl) fun r hr s ds => ?_
  subst hr
  refine ⟨s.requests ++ [r] ++ s.deferred.filterMap Sum.getRight?, ?_, rfl⟩
  rw [List.append_assoc]
  exact List.perm_middle

lemma within_accept_defer (item : Deferred) :
    Within World.Leads (Takes id item)
      (accept id item fun s => { s with deferred := s.deferred ++ [item] }) := by
  refine within_accept (fun n hn s ds => ?_) fun r hr s ds => ?_
  · subst hn
    simp [account]
  · subst hr
    refine ⟨s.requests ++ (s.deferred ++ [Sum.inr r]).filterMap Sum.getRight?, ?_, rfl⟩
    rw [List.filterMap_append, ← List.append_assoc]
    exact List.perm_append_singleton r _

lemma within_put (item : Deferred) (method : Json) :
    Within World.Leads (Takes id item) (put id item method) := by
  refine within_getSession_bind fun w hw => Within.mono (Q := Takes id item) ?_ (fun v hv => hv ▸ hw)
  have hlog : ∀ {α : Type} {a : Act α} (level : Int) (text : Text),
      Within World.Leads (Takes id item) a →
      Within World.Leads (Takes id item) (log .client level text >>= fun _ => a) :=
    fun level text ha => Within.bind_of
      (fun v hv => ⟨World.leads_log v .client (.int level) text none, hv.log level text⟩) fun _ => ha
  have hqueue : Within World.Leads (Takes id item) (do
      note id (.queued item)
      accept id item fun s => s.queue item
      return true) :=
    Within.bind_of (fun v hv => ⟨World.leads_record (fun _ => rfl) v, hv.note _⟩) fun _ =>
      (within_accept_queue item).bind_any fun _ => within_pure true
  have hdefer : Within World.Leads (Takes id item) (do
      note id (.deferred item)
      accept id item fun s => { s with deferred := s.deferred ++ [item] }
      return true) :=
    Within.bind_of (fun v hv => ⟨World.leads_record (fun _ => rfl) v, hv.note _⟩) fun _ =>
      (within_accept_defer item).bind_any fun _ => within_pure true
  dsimp only
  split
  next => exact hlog _ _ (within_pure false)
  split
  next =>
    refine within_check_bind fun lifecycle _ => ?_
    split
    next => exact hlog _ _ hdefer
    next => exact hqueue
  next => exact hqueue

lemma keeps_pushNotification (method params : Json) :
    Keeps id (pushNotification id method params) :=
  (within_put _ method).mono fun w hw => ⟨hw, fun r hr => (by cases hr), fun r hr => (by cases hr)⟩

lemma keeps_pushRequest (method params : Json) {handler : Option Handler} (timeout : Json)
    (hp : ∀ h ∈ handler, h.isPublic) : Keeps id (pushRequest id method params handler timeout) := by
  refine within_getSession_bind fun w hw => ?_
  dsimp only
  refine (within_put _ method).mono fun v hv => ?_
  subst hv
  refine ⟨hw, fun r hr => ?_, fun r hr => ?_⟩
  · obtain rfl := Sum.inr.inj hr
    rfl
  · obtain rfl := Sum.inr.inj hr
    exact hp

/-! Writing -/

lemma keeps_logTraffic (s : Session) (direction : Text) (message : Json) :
    Keeps id (logTraffic s direction message) := by
  refine keeps_get_bind fun w hw => ?_
  split
  next => exact within_log _ _ _
  next => exact within_pure ()

lemma keeps_write (message : Json) : Keeps id (write id message) := by
  refine keeps_getSession_bind fun w hw => ?_
  split
  next => exact (within_note _).bind fun _ => within_throw _
  next link _ =>
    refine within_check_bind fun v _ => (keeps_logTraffic _ _ v).bind fun _ => ?_
    refine within_check_bind fun bytes _ => ?_
    split
    next => exact within_record fun _ => rfl
    next => exact (within_note _).bind fun _ => within_throw _

lemma keeps_writeOrLog (message : Json) (complaint : Text) :
    Keeps id (writeOrLog id message complaint) := by
  refine (keeps_write message).attempt.bind fun result => ?_
  cases result with
  | ok _ => exact within_pure true
  | error f =>
    dsimp only
    split
    next => exact keeps_getSession_bind fun w hw => (within_log _ _ _).bind fun _ => within_pure false
    next => exact within_throw f

lemma keeps_sendNotificationsUpTo (fuel sent : Nat) :
    Keeps id (sendNotificationsUpTo id fuel sent) := by
  induction fuel generalizing sent with
  | zero => exact within_pure sent
  | succ fuel ih =>
    refine keeps_getSession_bind fun w hw => ?_
    split
    next => exact within_pure sent
    next n rest _ =>
      refine keeps_updateSession_bind (fun _ _ => rfl) fun _ => ?_
      exact (keeps_writeOrLog _ _).bind fun written => ih _

lemma keeps_sendNotifications : Keeps id (sendNotifications id) :=
  keeps_getSession_bind fun _ _ => keeps_sendNotificationsUpTo _ 0

/-! Requests -/

/-- A request that was taken from the queue and is not in the table yet. -/
structure Holds (id : SessionId) (r : OutgoingRequest) (w : World) : Prop where
  known : w.Known id
  accepted : .accepted r.ticket r.handler ∈ dealings id w.events
  new : ∀ n, .registered r.ticket n ∉ dealings id w.events
  taken : ∀ q ∈ (w.account id).waiting, q.ticket ≠ r.ticket

def HasNewNumber (id : SessionId) (w : World) : Prop :=
  ∀ t, .registered t (w.account id).lastId ∉ (w.account id).dealings

lemma keeps_advance :
    Keeps id (updateSession id fun s => { s with correlator := s.correlator.advance }) :=
  keeps_updateSession fun _ _ => .aside _ rfl (List.Sublist.refl _) (Nat.le_succ _) rfl
    (List.Subset.refl _) (fun _ hl => .inl hl) rfl

lemma Holds.advance {r : OutgoingRequest} {w : World} (h : Holds id r w) :
    let a := updateSession id fun s => { s with correlator := s.correlator.advance }
    w.Leads (a.after w) ∧ Holds id r (a.after w) ∧ HasNewNumber id (a.after w) := by
  intro a
  have hl : w.Leads (a.after w) := keeps_advance.after w h.known
  have ha : (a.after w).account id = { w.account id with lastId := (w.account id).lastId + 1 } :=
    account_updateSession _ h.known.lt
  refine ⟨hl, ⟨Stable.step hl h.known, h.accepted, h.new, ?_⟩, fun t ht => ?_⟩
  · rw [ha]
    exact h.taken
  · rw [ha] at ht
    exact absurd ((h.known.sound.accounts id).registered t _ ht).1 (Nat.not_succ_le_self _)

lemma within_sendRequest (r : OutgoingRequest) :
    Within World.Leads (Holds id r) (sendRequest id r) := by
  refine Within.bind_of (Q := fun w => Holds id r w ∧ HasNewNumber id w)
    (fun w hw => hw.advance) fun _ => ?_
  refine within_get_bind fun w ⟨hw, hunused⟩ => within_check_bind fun p hp => ?_
  obtain ⟨ht, hh, hn⟩ := Correlator.numbered_of_entry hp
  have hl : w.Leads ((deal id (.registered r.ticket (w.session id).correlator.lastId) fun s =>
      { s with correlator := s.correlator.register p }).after w) := by
    refine World.leads_deal hw.known.lt ?_ trivial
    have hm := Account.Move.registered (a := w.account id) p (by rw [ht, hh]; exact hw.accepted)
      (by rw [ht]; exact hw.new) (by rw [ht]; exact hw.taken) hunused hn
    rw [ht] at hm
    exact hm
  refine Within.bind_at hl fun _ => ?_
  exact (keeps_writeOrLog _ _).mono fun v hv => hv ▸ Stable.step hl hw.known

lemma leads_takeRequest {w : World} (hw : w.Known id) {r : OutgoingRequest}
    {rest : List OutgoingRequest} (hr : (w.session id).requests = r :: rest) :
    let a := updateSession id fun s => { s with requests := rest }
    w.Leads (a.after w) ∧ Holds id r (a.after w) := by
  intro a
  have hs := hw.sound.accounts id
  have hwait : (w.account id).waiting =
      r :: (rest ++ (w.session id).deferred.filterMap Sum.getRight?) := by
    rw [World.account, account, hr]
    rfl
  have hl : w.Leads (a.after w) := World.leads_setSession hw.lt
    (.aside _ rfl (hwait ▸ List.sublist_cons_self r _) (Nat.le_refl _) rfl (List.Subset.refl _)
      (fun _ hl => .inl hl) rfl)
  have ha : (a.after w).account id = { w.account id with
      waiting := rest ++ (w.session id).deferred.filterMap Sum.getRight? } :=
    account_updateSession _ hw.lt
  obtain ⟨hacc, hnew⟩ := hs.waiting r (hwait ▸ List.mem_cons_self)
  have hdiffer := hs.ticketsDiffer
  rw [hwait, List.map_cons, List.nodup_cons] at hdiffer
  refine ⟨hl, Stable.step hl hw, hacc, hnew, fun q hq he => ?_⟩
  rw [ha] at hq
  exact hdiffer.1 (he ▸ List.mem_map_of_mem hq)

lemma keeps_sendRequestsUpTo (fuel sent : Nat) : Keeps id (sendRequestsUpTo id fuel sent) := by
  induction fuel generalizing sent with
  | zero => exact within_pure sent
  | succ fuel ih =>
    refine within_getSession_bind fun w hw => ?_
    cases hr : (w.session id).requests with
    | nil => exact within_pure sent
    | cons r rest =>
      obtain ⟨hl, hh⟩ := leads_takeRequest hw hr
      refine Within.bind_at hl fun _ => ?_
      refine ((within_sendRequest r).mono fun v hv => hv ▸ hh).bind_mono (Q := World.Known id)
        (fun v hv => hv ▸ hh.known) fun written => ih _

lemma keeps_sendRequests : Keeps id (sendRequests id) :=
  keeps_getSession_bind fun _ _ => keeps_sendRequestsUpTo _ 0

/-! Documents -/

lemma keeps_openDocument (params : Json) : Keeps id (openDocument id params) := by
  refine within_check_bind fun uri _ => within_check_bind fun key _ => ?_
  refine keeps_getSession_bind fun w _ => ?_
  split
  next =>
    refine (keeps_pushNotification _ _).bind fun accepted => ?_
    split
    next => exact keeps_updateSession_of_eq fun _ _ => rfl
    next => exact within_pure ()
  next => exact within_pure ()

lemma keeps_closeDocument (params : Json) : Keeps id (closeDocument id params) := by
  refine within_check_bind fun key _ => keeps_getSession_bind fun w _ => ?_
  split
  next =>
    refine (keeps_pushNotification _ _).bind fun _ => ?_
    exact keeps_updateSession_of_eq fun _ _ => rfl
  next => exact within_pure ()

lemma keeps_changeDocument (params : Json) : Keeps id (changeDocument id params) := by
  refine within_check_bind fun key _ => keeps_getSession_bind fun w _ => ?_
  split
  next => exact (keeps_pushNotification _ _).bind fun _ => within_pure ()
  next => exact within_pure ()

lemma keeps_complete (params : Json) {handler : Option Handler}
    (hp : ∀ h ∈ handler, h.isPublic) : Keeps id (complete id params handler) :=
  (keeps_pushRequest _ params .null hp).bind fun _ => within_pure ()

lemma keeps_goTo (method params : Json) {handler : Option Handler}
    (hp : ∀ h ∈ handler, h.isPublic) : Keeps id (goTo id method params handler) :=
  (keeps_pushRequest _ params .null hp).bind fun _ => within_pure ()

end LanguageClient.Session
