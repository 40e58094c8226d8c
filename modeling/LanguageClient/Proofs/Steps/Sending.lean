import LanguageClient.Proofs.Steps.World
import LanguageClient.Session.Documents

/-!
The steps of sending: what is pushed is deferred or queued, and what is queued is written.
-/

namespace LanguageClient.Session

open Act World

variable {c : Conduct} {ℓ : Level} {id : SessionId} {L : List Task}

/-! Writing -/

lemma isRemark_logTraffic (s : Session) (direction : Text) (message : Json) :
    IsRemark (logTraffic s direction message) := by
  refine ⟨fun w => ?_⟩
  have hr : (logTraffic s direction message).run w = (if w.logsTraffic then
      log .traffic Level.debug (s.tag ++ direction ++ " " ++ trafficText w message)
      else pure ()).run w := rfl
  rw [hr]
  split
  · exact (isRemark_log _ _ _).run w
  · exact isRemark_pure.run w

lemma isClosed_of_encode {message : Json} {f : Fault} (h : Frame.encode message = .error f) :
    f.isClosed = false := by
  unfold Frame.encode at h
  split at h
  · cases h
    rfl
  · split at h <;> cases h
    rfl

/-- A message is written, refused by a link that is broken, or cannot be written at all. -/
lemma ends_write (message : Json) (w : World) : Ends (write id message) w fun result v =>
    ∃ es, Writes id (w.session id) message (w.story id) result es ∧
      Becomes id (w.session id) es w v := by
  refine ends_getSession_bind ?_
  split
  next hl => exact ⟨_, .unlinked hl rfl, becomes_record fun _ => rfl⟩
  next link hl =>
    refine ends_check_bind (fun m _ => ?_) fun f hf => ?_
    · refine (isRemark_logTraffic _ _ m).bind fun v hv => ?_
      refine ends_check_bind (fun bytes hb => ?_) fun f hf => ?_
      · split
        next ha => exact ⟨_, .sent hl ha ⟨bytes, hb⟩, hv.becomes.record fun _ => rfl⟩
        next ha =>
          rw [Bool.not_eq_true] at ha
          exact ⟨_, .refused hl ha ⟨bytes, hb⟩ rfl, hv.becomes.record fun _ => rfl⟩
      · have hne : ¬ message.Encodes := fun ⟨bytes, hb⟩ => by rw [hb] at hf; cases hf
        exact ⟨_, .unencodable hl hne (isClosed_of_encode hf), hv.becomes⟩
    · have hne : ¬ message.Encodes := fun he => by
        rw [Json.writable, if_pos he.isWritable] at hf
        cases hf
      rw [Json.writable] at hf
      split at hf
      next => cases hf
      next =>
        obtain rfl := Except.error.inj hf
        exact ⟨_, .unencodable hl hne rfl, (Alike.refl w).becomes⟩

lemma ends_writeOrLog (message : Json) (complaint : Text) (w : World) :
    Ends (writeOrLog id message complaint) w fun result v =>
      (∃ r es, Writes id (w.session id) message (w.story id) r es ∧
        Becomes id (w.session id) es w v) ∧ (message.Encodes → ∃ b, result = .ok b) := by
  refine Ends.attempt_bind ((ends_write message w).mono fun r v ⟨es, hw, hb⟩ => ?_)
  cases r with
  | ok _ => exact ⟨⟨_, es, hw, hb⟩, fun _ => ⟨true, rfl⟩⟩
  | error f =>
    dsimp only
    split
    next =>
      refine ends_getSession_bind ((isRemark_log _ _ _).bind fun u hu => ends_pure ?_)
      exact ⟨⟨_, es, hw, hb.alike hu⟩, fun _ => ⟨false, rfl⟩⟩
    next hc =>
      refine ends_throw ⟨⟨_, es, hw, hb⟩, fun he => ?_⟩
      cases hw with
      | refused _ _ _ closed => exact (hc closed).elim
      | unlinked _ closed => exact (hc closed).elim
      | unencodable _ encodes _ => exact (encodes he).elim

/-! Pushing -/

lemma ends_accept (item : Deferred) {f : Session → Session} (hf : ∀ s, (f s).tickets = s.tickets)
    {w : World} (hw : id < w.sessions.length) : Ends (accept id item f) w fun r v => r = .ok () ∧
      Becomes id ((f (w.session id)).count item) (Deferred.acceptance id item ++ w.story id) w v := by
  cases item with
  | inl n => exact ⟨rfl, becomes_setSession hw _⟩
  | inr r =>
    have hc : (f (w.session id)).count (.inr r) =
        { f (w.session id) with tickets := (w.session id).tickets + 1 } := by rw [count, hf]
    rw [hc]
    exact ⟨rfl, becomes_deal hw _ _⟩

/-- An item that is taken while the session is open waits behind what was queued before. -/
lemma ends_queue (item : Deferred) {w : World} (hw : id < w.sessions.length) : Ends (do
    note id (.queued item)
    accept id item fun s => s.queue item
    return true) w fun r v => r = .ok true ∧ Becomes id (((w.session id).queue item).count item)
      (Deferred.acceptance id item ++ .noted id (.queued item) :: w.story id) w v := by
  refine ends_note fun u hu => ?_
  have ha := ends_accept (f := fun s => s.queue item) item (fun s => by cases item <;> rfl) (hu.lt hw)
  refine Ends.bind (ha.mono ?_)
  rintro r v ⟨rfl, hv⟩
  rw [hu.session, hu.story] at hv
  exact ⟨rfl, hu.trans hv⟩

/-- An item that is taken before the session is open waits behind what was deferred before. -/
lemma ends_defer (item : Deferred) (text : Text) {w : World} (hw : id < w.sessions.length) : Ends (do
    log .client Level.debug text
    note id (.deferred item)
    accept id item fun s => { s with deferred := s.deferred ++ [item] }
    return true) w fun r v => r = .ok true ∧
      Becomes id ({ w.session id with deferred := (w.session id).deferred ++ [item] }.count item)
        (Deferred.acceptance id item ++ .noted id (.deferred item) :: w.story id) w v := by
  refine (isRemark_log _ _ _).bind fun u hu => ends_note fun v hv => ?_
  have hb := hu.becomes.trans hv
  rw [hu.becomes.session, hu.becomes.story] at hb
  have ha := ends_accept (f := fun s => { s with deferred := s.deferred ++ [item] }) item
    (fun _ => rfl) (hb.lt hw)
  refine Ends.bind (ha.mono ?_)
  rintro r x ⟨rfl, hx⟩
  rw [hb.session, hb.story] at hx
  exact ⟨rfl, hb.trans hx⟩

/-- What a session is asked to send: by whom, and what. -/
structure Asked (c : Conduct) (id : SessionId) (a : SessionAction) (item : Deferred) (w : World) :
    Prop where
  ready : w.Ready c id
  allowed : c.allows a
  obeys : a.callbacksObey c.callback
  asked : a.Asks (w.session id) item

/-- What comes of a session being asked to send something. -/
inductive Put (c : Conduct) (id : SessionId) (a : SessionAction) (w : World) :
    Except Fault Bool → World → Prop where
  | dropped {v} (leaving : (w.session id).status.isLeaving) (alike : Alike w v) :
    Put c id a w (.ok false) v
  | failed {v f} (alike : Alike w v) : Put c id a w (.error f) v
  | taken {v s es} (becomes : Becomes id s es w v)
    (same : s.openDocuments = (w.session id).openDocuments)
    (step : ∀ documents, a.Tracks (w.session id) documents → ∀ K,
      Step c id (w.position id K) ⟨{ s with openDocuments := documents }, es, K⟩) :
    Put c id a w (.ok true) v

/-- What becomes of an item that a session is given, by the status it finds. -/
inductive Given (id : SessionId) (item : Deferred) (w : World) : Except Fault Bool → World → Prop where
  | dropped {v} (leaving : (w.session id).status.isLeaving) (alike : Alike w v) :
    Given id item w (.ok false) v
  | failed {f} (method : isLifecycle (Deferred.method item) = .error f) : Given id item w (.error f) w
  | deferred {v} (status : (w.session id).status = .uninitialized ∨ (w.session id).status = .initializing)
    (lifecycle : isLifecycle (Deferred.method item) = .ok false)
    (becomes : Becomes id ({ w.session id with deferred := (w.session id).deferred ++ [item] }.count item)
      (Deferred.acceptance id item ++ .noted id (.deferred item) :: w.story id) w v) :
    Given id item w (.ok true) v
  | queued {v} (status : (w.session id).status = .initialized ∨
      (w.session id).status.isLeaving = false ∧ isLifecycle (Deferred.method item) = .ok true)
    (becomes : Becomes id (((w.session id).queue item).count item)
      (Deferred.acceptance id item ++ .noted id (.queued item) :: w.story id) w v) :
    Given id item w (.ok true) v

lemma ends_put_given (item : Deferred) {w : World} (hw : id < w.sessions.length) :
    Ends (put id item (Deferred.method item)) w (Given id item w) := by
  refine ends_getSession_bind ?_
  have hqueue : (w.session id).status = .initialized ∨ (w.session id).status.isLeaving = false ∧
      isLifecycle (Deferred.method item) = .ok true → Ends (do
        note id (.queued item)
        accept id item fun s => s.queue item
        return true) w (Given id item w) := fun hs => by
    refine (ends_queue item hw).mono ?_
    rintro r v ⟨rfl, hv⟩
    exact .queued hs hv
  dsimp only
  split
  next hleaving => exact (isRemark_log _ _ _).bind fun v hv => .dropped hleaving hv
  next hleaving =>
    rw [Bool.not_eq_true] at hleaving
    split
    next hopen =>
      refine ends_check_bind (fun lifecycle hl => ?_) fun f hf => .failed hf
      split
      next hno =>
        obtain rfl : lifecycle = false := by simpa using hno
        have hs : (w.session id).status = .uninitialized ∨ (w.session id).status = .initializing := by
          cases h : (w.session id).status <;> simp_all [Status.isLeaving]
        refine (ends_defer item _ hw).mono ?_
        rintro r v ⟨rfl, hv⟩
        exact .deferred hs hl hv
      next hyes =>
        obtain rfl : lifecycle = true := by simpa using hyes
        exact hqueue (.inr ⟨hleaving, hl⟩)
    next hopen => exact hqueue (.inl (by simpa using hopen))

lemma ends_put {a : SessionAction} {item : Deferred} {w : World} (hw : Asked c id a item w) :
    Ends (put id item (Deferred.method item)) w (Put c id a w) := by
  refine (ends_put_given item hw.ready.lt).mono fun result v hv => ?_
  cases hv with
  | dropped leaving alike => exact .dropped leaving alike
  | failed => exact .failed (.refl w)
  | deferred status lifecycle becomes =>
    refine .taken becomes (by cases item <;> rfl) fun documents ht K => ?_
    exact .deferred hw.allowed hw.obeys hw.asked ht status lifecycle
  | queued status becomes =>
    refine .taken becomes (by cases item <;> rfl) fun documents ht K => ?_
    exact .queued hw.allowed hw.obeys hw.asked ht status

/-- What leaves the documents as they are is put by itself. -/
lemma Put.moves {a : SessionAction} {w v : World} {result : Except Fault Bool}
    (h : Put c id a w result v) (ht : a.Tracks (w.session id) (w.session id).openDocuments) :
    Moves c .callback id [] [] w v := by
  cases h with
  | dropped leaving alike | failed alike => exact .of_alike alike
  | taken becomes same step =>
    have hstep := step _ ht
    rw [← same] at hstep
    exact .of_becomes becomes fun K _ => .single (hstep K)

lemma moves_put {a : SessionAction} (item : Deferred) (ha : a.isDocument = false) :
    Within (Moves c .callback id [] []) (Asked c id a item) (put id item (Deferred.method item)) :=
  within_of_ends fun _ hw => (ends_put hw).mono fun _ _ h => h.moves (.aside ha)

lemma moves_pushNotification {a : SessionAction} {method params : Json} (ha : c.allows a)
    (ho : a.callbacksObey c.callback) (hd : a.isDocument = false)
    (hi : ∀ s, a.item? s = some (.inl ⟨method, params⟩)) :
    Stays c id [] (pushNotification id method params) :=
  (moves_put (.inl ⟨method, params⟩) hd).mono fun _ hw => ⟨hw, ha, ho, .host (hi _)⟩

lemma moves_pushRequest {a : SessionAction} {method params timeout : Json}
    {handler : Option Handler} (ha : c.allows a) (ho : a.callbacksObey c.callback)
    (hd : a.isDocument = false)
    (hi : ∀ s, a.Asks s (.inr ⟨method, params, handler,
      if timeout.isNull then s.setting "request_timeout" else timeout, s.tickets⟩)) :
    Stays c id [] (pushRequest id method params handler timeout) :=
  within_getSession_bind fun w hw => (moves_put _ hd).mono fun v hv => by
    subst hv
    exact ⟨hw, ha, ho, hi _⟩

/-! Documents -/

/-- A document is noted as open as soon as its server is to be told so. -/
lemma moves_openDocument {params : Json} (ha : c.allows (.openDocument params)) :
    Stays c id [] (openDocument id params) := by
  refine within_check_bind fun uri hu => within_check_bind fun key hk => ?_
  refine within_of_ends fun w hw => ends_getSession_bind ?_
  split
  next hclosed =>
    have hclosed : (w.session id).isOpen key = false := by simpa using hclosed
    refine Ends.bind ((ends_put ⟨hw, ha, rfl, .host rfl⟩).mono fun result v hv => ?_)
    cases hv with
    | dropped leaving alike => exact next_ok (ends_pure (.of_alike alike))
    | failed alike => exact Moves.of_alike alike
    | taken becomes same step =>
      refine next_ok ?_
      rw [if_pos rfl]
      refine ends_updateSession (becomes.lt hw.lt) fun x hx => ?_
      rw [becomes.session, becomes.story, same] at hx
      exact .of_becomes (becomes.trans hx) fun K _ => .single (step _ (.opened hu hk hclosed) K)
  next => exact ends_pure (Course.refl w)

lemma moves_closeDocument {params : Json} (ha : c.allows (.closeDocument params)) :
    Stays c id [] (closeDocument id params) := by
  refine within_check_bind fun key hk => within_of_ends fun w hw => ends_getSession_bind ?_
  split
  next hopen =>
    refine Ends.bind ((ends_put ⟨hw, ha, rfl, .host rfl⟩).mono fun result v hv => ?_)
    cases hv with
    | dropped leaving alike =>
      have hb : Becomes id _ _ w v := alike.becomes
      refine next_ok (ends_updateSession (hb.lt hw.lt) fun x hx => ?_)
      rw [hb.session, hb.story] at hx
      exact .of_becomes (hb.trans hx) fun K _ =>
        .single (.documented _ leaving (List.filter_subset_self _))
    | failed alike => exact Moves.of_alike alike
    | taken becomes same step =>
      refine next_ok (ends_updateSession (becomes.lt hw.lt) fun x hx => ?_)
      rw [becomes.session, becomes.story, same] at hx
      exact .of_becomes (becomes.trans hx) fun K _ => .single (step _ (.closed hk hopen) K)
  next => exact ends_pure (Course.refl w)

lemma moves_changeDocument {params : Json} (ha : c.allows (.changeDocument params)) :
    Stays c id [] (changeDocument id params) := by
  refine within_check_bind fun key hk => within_of_ends fun w hw => ends_getSession_bind ?_
  split
  next hopen =>
    refine Ends.bind ((ends_put ⟨hw, ha, rfl, .host rfl⟩).mono fun result v hv => ?_)
    have hm := hv.moves (.changed hk hopen)
    cases result with
    | ok accepted => exact next_ok (ends_pure hm)
    | error f => exact hm
  next => exact ends_pure (Course.refl w)

lemma moves_complete {params : Json} {callback : Option Callback}
    (ha : c.allows (.complete params callback)) (ho : callbackObeys c.callback callback) :
    Stays c id [] (complete id params (callback.map .host)) :=
  (moves_pushRequest ha ho rfl fun _ => .host rfl).bind fun _ => within_pure ()

lemma moves_completeFor {params : Json} {handler : Handler} (hf : handler.isFeature)
    (ha : c.allows (.complete params none)) : Stays c id [] (complete id params (some handler)) := by
  refine (moves_pushRequest ha rfl rfl fun s => ?_).bind fun _ => within_pure ()
  exact .feature (r := ⟨"textDocument/completion", params, none, s.setting "request_timeout", s.tickets⟩)
    hf rfl

lemma moves_goTo {method params : Json} {callback : Option Callback}
    (ha : c.allows (.goTo method params callback)) (ho : callbackObeys c.callback callback) :
    Stays c id [] (goTo id method params (callback.map .host)) :=
  (moves_pushRequest ha ho rfl fun _ => .host rfl).bind fun _ => within_pure ()

/-! Draining the queues -/

/-- Messages may be written now, on top of whatever the operation began with. -/
def Free (c : Conduct) (ℓ : Level) (L : List Task) (a : SessionAction) (s : Session) : Prop :=
  ∀ K, ℓ.Base K → c.Frees a s (L ++ K)

/-- The notifications that are queued are written one by one. All of them are, unless one of them has
no bytes. -/
lemma ends_sendNotificationsUpTo (fuel sent : Nat) {w : World} (hw : w.Ready c id)
    (hf : Free c ℓ L .sendNotifications (w.session id)) :
    Ends (sendNotificationsUpTo id fuel sent) w fun result v =>
      Moves c ℓ id L L w v ∧ (v.session id).status = (w.session id).status ∧
        ((w.session id).notifications.length ≤ fuel → (∃ n, result = .ok n) →
          (v.session id).notifications = []) ∧
        ((∀ n ∈ (w.session id).notifications, n.IsSendable) → ∃ n, result = .ok n) := by
  induction fuel generalizing sent w with
  | zero =>
    refine ends_pure ⟨Course.refl w, rfl, fun hl _ => ?_, fun _ => ⟨sent, rfl⟩⟩
    exact List.length_eq_zero_iff.mp (Nat.le_zero.mp hl)
  | succ fuel ih =>
    refine ends_getSession_bind ?_
    split
    next hq => exact ends_pure ⟨Course.refl w, rfl, fun _ _ => hq, fun _ => ⟨sent, rfl⟩⟩
    next n rest hq =>
      refine ends_update hw.lt fun u hb => Ends.bind ((ends_writeOrLog _ _ u).mono ?_)
      rintro result v ⟨⟨r, es, hwrites, hv⟩, hok⟩
      rw [hb.session] at hv
      rw [hb.session, hb.story] at hwrites
      have hm : Moves c ℓ id L L w v := .of_becomes (hb.trans hv) fun K hK =>
        .single (.notified hq (hf K hK) (hwrites.of_eq rfl rfl))
      cases result with
      | error f =>
        refine ⟨hm, by rw [hv.session], fun _ ⟨_, h⟩ => (by cases h), fun hs => ?_⟩
        obtain ⟨b, h⟩ := hok (hs n (hq ▸ List.mem_cons_self))
        cases h
      | ok written =>
        have hfree : Free c ℓ L .sendNotifications (v.session id) := by
          rw [hv.session]
          exact hf
        refine next_ok ((ih (if written then sent + 1 else sent) (hm.ready hw) hfree).mono ?_)
        rintro result x ⟨hx, hst, hend, hall⟩
        rw [hv.session] at hst hend hall
        refine ⟨hm.trans hx, hst, fun hl => hend ?_, fun hs => hall fun k hk => hs k ?_⟩
        · rw [hq] at hl
          exact Nat.le_of_succ_le_succ hl
        · exact hq ▸ List.mem_cons_of_mem n hk

lemma ends_sendNotifications {w : World} (hw : w.Ready c id)
    (hf : Free c ℓ L .sendNotifications (w.session id)) :
    Ends (sendNotifications id) w fun result v =>
      Moves c ℓ id L L w v ∧ (v.session id).status = (w.session id).status ∧
        ((∃ n, result = .ok n) → (v.session id).notifications = []) ∧
        ((∀ n ∈ (w.session id).notifications, n.IsSendable) → ∃ n, result = .ok n) := by
  refine ends_getSession_bind ((ends_sendNotificationsUpTo _ 0 hw hf).mono ?_)
  rintro result v ⟨hm, hst, hend, hall⟩
  exact ⟨hm, hst, hend (Nat.le_refl _), hall⟩

/-- What can be sent has a timeout that can be added to the time. -/
lemma entry_ne_error {r : OutgoingRequest} (h : r.IsSendable) (n : Nat) (now : Float) (f : Fault) :
    Correlator.entry (Json.ofNat n) r.method r.handler r.ticket now r.timeout ≠ .error f := by
  have hk : (Json.ofNat n).key = .ok (.number (.ofInt n)) := rfl
  intro hf
  unfold Correlator.entry at hf
  rw [hk] at hf
  rcases h.timeout with ht | ⟨x, ht⟩
  · rw [ht] at hf
    cases hf
  · split at hf
    next => cases hf
    next =>
      rw [ht] at hf
      cases hf

/-- What may come of a request that was taken from its queue: it gets a number, and under it it is
registered and written, unless its timeout is none. -/
inductive Requests (id : SessionId) (r : OutgoingRequest) (v w : World) : Prop where
  | registered {p now result es}
    (entry : Correlator.entry (Json.ofNat (v.session id).nextNumber) r.method r.handler r.ticket now
      r.timeout = .ok p)
    (writes : Writes id (v.session id)
      (Message.request (Json.ofNat (v.session id).nextNumber) r.method r.params)
      (.dealt id (.registered r.ticket (v.session id).nextNumber) :: v.story id) result es)
    (becomes : Becomes id
      { v.session id with correlator := (v.session id).correlator.advance.register p } es v w)
  | dropped {now f}
    (entry : Correlator.entry (Json.ofNat (v.session id).nextNumber) r.method r.handler r.ticket now
      r.timeout = .error f)
    (becomes : Becomes id { v.session id with correlator := (v.session id).correlator.advance }
      (v.story id) v w)

lemma ends_sendRequest (r : OutgoingRequest) {w : World} (hw : id < w.sessions.length) :
    Ends (sendRequest id r) w fun result v => Requests id r w v ∧
      (r.IsSendable → (w.session id).nextNumber < numberLimit → ∃ b, result = .ok b) := by
  refine ends_update hw fun u hu => ends_get_bind ?_
  dsimp only
  rw [hu.session]
  refine ends_check_bind (fun p hp => ends_deal (hu.lt hw) fun x hx => ?_) fun f hf => ?_
  · have hb := hu.trans hx
    rw [hu.session, hu.story] at hb
    refine (ends_writeOrLog _ _ _).mono ?_
    rintro result v ⟨⟨wr, es, hwrites, hv⟩, hok⟩
    rw [hb.session] at hv
    rw [hb.session, hb.story] at hwrites
    refine ⟨.registered hp (hwrites.of_eq rfl rfl) (hb.trans hv), fun hs hn => ?_⟩
    exact hok (hs.encodes _ hn)
  · exact ⟨.dropped hf hu, fun hs _ => (entry_ne_error hs _ u.clock f hf).elim⟩

/-- What is so after requests were sent from a queue: none is left in it, if there was fuel for all, and
nothing fails if all of them can be sent. -/
structure SendsRequests (c : Conduct) (ℓ : Level) (id : SessionId) (L : List Task) (fuel : Nat)
    (w : World) (result : Except Fault Nat) (v : World) : Prop where
  moves : Moves c ℓ id L L w v
  status : (v.session id).status = (w.session id).status
  notifications : (v.session id).notifications = (w.session id).notifications
  empty : (w.session id).requests.length ≤ fuel → (∃ n, result = .ok n) → (v.session id).requests = []
  done : (∀ r ∈ (w.session id).requests, r.IsSendable) →
    (v.session id).correlator.lastId < numberLimit → ∃ n, result = .ok n

lemma ends_sendRequestsUpTo (fuel sent : Nat) {w : World} (hw : w.Ready c id)
    (hf : Free c ℓ L .sendRequests (w.session id))
    (hn : (w.session id).notifications = [] ∨ c.allows .sendRequests) :
    Ends (sendRequestsUpTo id fuel sent) w (SendsRequests c ℓ id L fuel w) := by
  induction fuel generalizing sent w with
  | zero =>
    refine ends_pure ⟨Course.refl w, rfl, rfl, fun hl _ => ?_, fun _ _ => ⟨sent, rfl⟩⟩
    exact List.length_eq_zero_iff.mp (Nat.le_zero.mp hl)
  | succ fuel ih =>
    refine ends_getSession_bind ?_
    split
    next hq => exact ends_pure ⟨Course.refl w, rfl, rfl, fun _ _ => hq, fun _ _ => ⟨sent, rfl⟩⟩
    next r rest hq =>
      refine ends_update hw.lt fun u hu => Ends.bind ((ends_sendRequest r (hu.lt hw.lt)).mono ?_)
      rintro result v ⟨hrequests, hok⟩
      rw [hu.session] at hok
      -- Whether it was registered or dropped: the session took a step and has one request less.
      obtain ⟨hm, hrest, hlast, hst, hnot⟩ : Moves c ℓ id L L w v ∧
          (v.session id).requests = rest ∧
          (v.session id).correlator.lastId = (w.session id).nextNumber ∧
          (v.session id).status = (w.session id).status ∧
          (v.session id).notifications = (w.session id).notifications := by
        cases hrequests with
        | registered entry writes becomes =>
          rw [hu.session] at entry becomes
          rw [hu.session, hu.story] at writes
          refine ⟨.of_becomes (hu.trans becomes) fun K hK => .single ?_, ?_⟩
          · exact .requested hq (hf K hK) hn entry (writes.of_eq rfl rfl)
          · rw [becomes.session]
            exact ⟨rfl, rfl, rfl, rfl⟩
        | dropped entry becomes =>
          rw [hu.session] at entry becomes
          rw [hu.story] at becomes
          refine ⟨.of_becomes (hu.trans becomes) fun K hK => .single ?_, ?_⟩
          · exact .dropped hq (hf K hK) entry
          · rw [becomes.session]
            exact ⟨rfl, rfl, rfl, rfl⟩
      cases result with
      | error f =>
        refine ⟨hm, hst, hnot, fun _ ⟨_, h⟩ => (by cases h), fun hs hlt => ?_⟩
        obtain ⟨b, h⟩ := hok (hs r (hq ▸ List.mem_cons_self)) (hlast ▸ hlt)
        cases h
      | ok written =>
        have hfree : Free c ℓ L .sendRequests (v.session id) := fun K hK => by
          rw [Conduct.Frees, hst]
          exact hf K hK
        refine next_ok ((ih (if written then sent + 1 else sent) (hm.ready hw) hfree
          (hnot ▸ hn)).mono ?_)
        intro result x hx
        refine ⟨hm.trans hx.moves, hx.status.trans hst, hx.notifications.trans hnot, fun hl => ?_,
          fun hs => ?_⟩
        · rw [hq] at hl
          exact hx.empty (hrest ▸ Nat.le_of_succ_le_succ hl)
        · exact hx.done fun k hk => hs k (hq ▸ List.mem_cons_of_mem r (hrest ▸ hk))

lemma ends_sendRequests {w : World} (hw : w.Ready c id)
    (hf : Free c ℓ L .sendRequests (w.session id))
    (hn : (w.session id).notifications = [] ∨ c.allows .sendRequests) :
    Ends (sendRequests id) w (SendsRequests c ℓ id L (w.session id).requests.length w) :=
  ends_getSession_bind (ends_sendRequestsUpTo _ 0 hw hf hn)

end LanguageClient.Session
