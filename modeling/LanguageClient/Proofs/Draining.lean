import LanguageClient.Proofs.Steps.Runs

/-!
Draining a queue. The items have their turns in order: each is sent, or it is logged why the link does not
take it. What has no bytes ends the turns, and leaves those behind it in the queue.
-/

namespace LanguageClient

open Act World

variable {α : Type} {id : SessionId} {v w : World}

/-! One item -/

/-- Why a link does not take a message, as it is noted and as it is logged. -/
inductive Session.Obstacle (s : Session) (message : Json) : Note → Text → Prop
  | unlinked (linked : s.link = none) : Obstacle s message (.unlinked message) " - Server is not running"
  | refused {link : Link} (linked : s.link = some link) (refuses : link.accepts = false) :
    Obstacle s message (.refused message) " - Can't write; Transport is closed"

/-- A message is handed to the link of a session. Whether it was sent is told; if not, it is logged. -/
inductive World.Hands (id : SessionId) (message method : Json) (w : World) : Bool → World → Prop
  | sent {link : Link} {u : World} (linked : (w.session id).link = some link) (accepts : link.accepts)
    (alike : Alike w u) : Hands id message method w true (u.record (.sent id (w.session id).name message))
  | failed {n : Note} {reason : Text} {u : World} (obstacle : (w.session id).Obstacle message n reason)
    (alike : Alike w u) : Hands id message method w false
      ((u.record (.noted id n)).log .client (.int Level.error) ((w.session id).tag ++
        ("Can't send " ++ method.display) ++ ": " ++ ((w.session id).name.display ++ reason)) none)

/-- Whether a message can be handed to a link. If there is none, nobody asks for its bytes. -/
def Session.takes (s : Session) (message : Json) : Bool := s.link.isNone || (Frame.encode message).isOk

lemma World.Hands.sessions {message method : Json} {b : Bool} (h : Hands id message method w b v) :
    v.sessions = w.sessions := by
  cases h with
  | sent linked accepts alike => exact alike.sessions
  | failed obstacle alike => exact (alike_log _ _ _ _ _).sessions.trans alike.sessions

/-- Whether a message was handed to the link of a session. -/
def Event.hands : Event → Bool
  | .sent _ _ _ | .noted _ (.refused _) | .noted _ (.unlinked _) => true
  | _ => false

namespace Session

lemma encodes_of_takes {s : Session} {message : Json} {link : Link} (hlink : s.link = some link) :
    s.takes message = (Frame.encode message).isOk := by
  rw [takes, hlink]
  rfl

lemma encode_of_writable {message : Json} {f : Fault} (h : message.writable = .error f) :
    f.isClosed = false ∧ ∃ g, Frame.encode message = .error g := by
  unfold Json.writable at h
  split at h
  next => cases h
  next hw =>
    obtain rfl := Except.error.inj h
    rw [Bool.not_eq_true] at hw
    exact ⟨rfl, _, by rw [Frame.encode, hw]; rfl⟩

lemma ends_complain {message method : Json} {n : Note} {reason : Text} {u : World}
    (h : (w.session id).Obstacle message n reason) (hu : Alike w u) : Ends (do
      log .client Level.error ((← getSession id).tag ++ ("Can't send " ++ method.display) ++ ": " ++
        ((w.session id).name.display ++ reason))
      return false) (u.record (.noted id n)) fun result v =>
        v.sessions = w.sessions ∧ ∃ b, result = .ok b ∧ Hands id message method w b v := by
  have hhands : Hands id message method w false _ := .failed h hu
  have hsession : (u.record (.noted id n)).session id = w.session id := hu.becomes.session
  refine ends_getSession_bind ?_
  rw [hsession]
  exact ⟨hhands.sessions, false, rfl, hhands⟩

lemma ends_write_hands (message method : Json) (w : World) :
    Ends (writeOrLog id message ("Can't send " ++ method.display)) w fun result v =>
      v.sessions = w.sessions ∧
        if (w.session id).takes message then ∃ b, result = .ok b ∧ Hands id message method w b v
        else Alike w v ∧ ∃ f, result = .error f ∧ f.isClosed = false := by
  refine Ends.attempt_bind (ends_getSession_bind ?_)
  cases hlink : (w.session id).link with
  | none =>
    rw [takes, hlink]
    exact ends_complain (.unlinked hlink) (.refl w)
  | some link =>
    rw [encodes_of_takes hlink]
    refine ends_check_bind (fun m _ => ?_) fun f hf => ?_
    · refine (isRemark_logTraffic _ _ m).bind fun u hu => ?_
      refine ends_check_bind (fun bytes hb => ?_) fun f hf => ?_
      · rw [hb]
        split
        next ha => exact ⟨hu.sessions, true, rfl, .sent hlink ha hu⟩
        next ha => exact ends_complain (.refused hlink (by simpa using ha)) hu
      · have hopen := isClosed_of_encode hf
        dsimp only
        rw [hopen, hf]
        exact ends_throw ⟨hu.sessions, hu, f, rfl, hopen⟩
    · obtain ⟨hopen, g, hg⟩ := encode_of_writable hf
      dsimp only
      rw [hopen, hg]
      exact ends_throw ⟨rfl, .refl w, f, rfl, hopen⟩

end Session

lemma session_congr (h : v.sessions = w.sessions) (id : SessionId) : v.session id = w.session id :=
  congrArg (·.getD id default) h

lemma setSession_setSession (s t : Session) : (w.setSession id s).setSession id t = w.setSession id t := by
  simp only [setSession, List.set_set]

/-! Items in turn -/

/-- Items have their turns, one after the other; it is counted how many were sent. -/
inductive Each (turn : α → World → Bool → World → Prop) : List α → World → Nat → World → Prop
  | nil {w : World} : Each turn [] w 0 w
  | cons {x : α} {xs : List α} {b : Bool} {n : Nat} {u v w : World} (head : turn x w b u)
    (tail : Each turn xs u n v) : Each turn (x :: xs) w (b.toNat + n) v

/-- What comes of a queue of which some items pass. The first one that does not is lost, and those behind
it are left. -/
inductive Drains (id : SessionId) (turn : α → World → Bool → World → Prop) (passes : α → Bool)
    (items : Session → List α) (w : World) : Except Fault Nat → World → Prop
  | all {n : Nat} {v : World} (each : Each turn (items (w.session id)) w n v)
    (passing : ∀ x ∈ items (w.session id), passes x) (left : items (v.session id) = []) :
    Drains id turn passes items w (.ok n) v
  | stopped {before after : List α} {x : α} {n : Nat} {f : Fault} {u v : World}
    (order : items (w.session id) = before ++ x :: after) (each : Each turn before w n u)
    (passing : ∀ y ∈ before, passes y) (fails : passes x = false) (isOpen : f.isClosed = false)
    (unhanded : (v.story id).filter Event.hands = (u.story id).filter Event.hands)
    (left : items (v.session id) = after) : Drains id turn passes items w (.error f) v

lemma Drains.returns_iff {turn : α → World → Bool → World → Prop} {passes : α → Bool}
    {items : Session → List α} {result : Except Fault Nat} (h : Drains id turn passes items w result v) :
    (∃ n, result = .ok n) ↔ ∀ x ∈ items (w.session id), passes x := by
  cases h with
  | all each passing left => exact iff_of_true ⟨_, rfl⟩ passing
  | @stopped before after x n f u v order each passing fails isOpen unhanded left =>
    refine iff_of_false nofun fun hall => ?_
    rw [hall x (by simp [order])] at fails
    cases fails

lemma Drains.cons {turn : α → World → Bool → World → Prop} {passes : α → Bool} {items : Session → List α}
    {result : Except Fault Nat} {x : α} {b : Bool} {u : World}
    (hx : items (w.session id) = x :: items (u.session id)) (hpass : passes x) (hturn : turn x w b u)
    (h : Drains id turn passes items u result v) :
    Drains id turn passes items w (result.map (b.toNat + ·)) v := by
  cases h with
  | all each passing left =>
    refine .all (hx ▸ .cons hturn each) (fun y hy => ?_) left
    rw [hx, List.mem_cons] at hy
    exact hy.elim (fun h => h ▸ hpass) (passing y)
  | stopped order each passing fails isOpen unhanded left =>
    refine .stopped (by rw [hx, order]; rfl) (.cons hturn each) ?_ fails isOpen unhanded left
    exact List.forall_mem_cons.mpr ⟨hpass, passing⟩

/-- One turn of a loop over a queue: the first item is taken off and sent. -/
structure Loops (id : SessionId) (turn : α → World → Bool → World → Prop) (passes : Session → α → Bool)
    (items : Session → List α) (pop : Session → Session) (send : α → Act Bool) (loop : Nat → Nat → Act Nat) :
    Prop where
  stop : ∀ sent, loop 0 sent = pure sent
  empty : ∀ fuel sent w, items (World.session w id) = [] → (loop (fuel + 1) sent).run w = (.ok sent, w)
  next : ∀ fuel sent w x rest, items (World.session w id) = x :: rest → (loop (fuel + 1) sent).run w =
    (send x >>= fun b => loop fuel (if b then sent + 1 else sent) : Act Nat).run
      (w.setSession id (pop (w.session id)))
  sends : ∀ w x rest, items (World.session w id) = x :: rest →
    Ends (send x) (w.setSession id (pop (w.session id))) fun result u =>
      items (u.session id) = rest ∧ passes (u.session id) = passes (w.session id) ∧
        if passes (w.session id) x then ∃ b, result = .ok b ∧ turn x w b u
        else (u.story id).filter Event.hands = (w.story id).filter Event.hands ∧
          ∃ f, result = .error f ∧ f.isClosed = false

lemma lt_length_of_items {items : Session → List α} (hitems : items default = []) {x : α} {rest : List α}
    (h : items (w.session id) = x :: rest) : id < w.sessions.length := by
  by_contra hid
  rw [World.session, List.getD_eq_getElem?_getD, List.getElem?_eq_none (Nat.le_of_not_lt hid)] at h
  cases hitems.symm.trans h

lemma Loops.drains {turn : α → World → Bool → World → Prop} {passes : Session → α → Bool}
    {items : Session → List α} {pop : Session → Session} {send : α → Act Bool} {loop : Nat → Nat → Act Nat}
    (h : Loops id turn passes items pop send loop) (xs : List α) (sent : Nat)
    (hxs : items (w.session id) = xs) : Ends (loop xs.length sent) w fun result v =>
      ∃ r, Drains id turn (passes (w.session id)) items w r v ∧ result = r.map (sent + ·) := by
  induction xs generalizing sent w with
  | nil =>
    rw [List.length_nil, h.stop]
    exact ends_pure ⟨.ok 0, .all (hxs ▸ .nil) (by simp [hxs]) hxs, rfl⟩
  | cons x rest ih =>
    rw [List.length_cons, Ends, h.next _ _ _ _ _ hxs]
    suffices hrun : Ends (send x >>= fun b => loop rest.length (if b then sent + 1 else sent))
        (w.setSession id (pop (w.session id))) fun result v =>
          ∃ r, Drains id turn (passes (w.session id)) items w r v ∧ result = r.map (sent + ·) from hrun
    refine Ends.bind ((h.sends w x rest hxs).mono ?_)
    rintro result u ⟨hrest, hpasses, hturn⟩
    split at hturn
    next hpass =>
      obtain ⟨b, rfl, hturn⟩ := hturn
      refine next_ok ((ih (if b then sent + 1 else sent) hrest).mono ?_)
      rintro result v ⟨r, hdrains, rfl⟩
      rw [hpasses] at hdrains
      refine ⟨_, hdrains.cons (hrest ▸ hxs) hpass hturn, ?_⟩
      cases r with
      | error f => rfl
      | ok n => cases b <;> simp [Except.map, Nat.add_assoc]
    next hpass =>
      obtain ⟨hstory, f, rfl, hopen⟩ := hturn
      have horder : items (w.session id) = [] ++ x :: rest := hxs
      exact ⟨.error f, .stopped horder .nil (by simp) (by simpa using hpass) hopen hstory hrest, rfl⟩

lemma Loops.ends {turn : α → World → Bool → World → Prop} {passes : Session → α → Bool}
    {items : Session → List α} {pop : Session → Session} {send : α → Act Bool} {loop : Nat → Nat → Act Nat}
    (h : Loops id turn passes items pop send loop) (w : World) :
    Ends (loop (items (w.session id)).length 0) w fun result v =>
      ((∃ n, result = .ok n) ↔ ∀ x ∈ items (w.session id), passes (w.session id) x) ∧
        Drains id turn (passes (w.session id)) items w result v := by
  refine (h.drains _ 0 rfl).mono ?_
  rintro _ v ⟨r, hdrains, rfl⟩
  have hr : r.map (0 + ·) = r := by
    cases r with
    | error f => rfl
    | ok n => exact congrArg _ (Nat.zero_add n)
  rw [hr]
  exact ⟨hdrains.returns_iff, hdrains⟩

/-! Notifications -/

namespace Session

lemma run_getSession_bind {β : Type} (f : Session → Act β) (w : World) :
    (getSession id >>= f).run w = (f (w.session id)).run w := rfl

def notify (s : Session) : Session := { s with notifications := s.notifications.tail }

/-- A notification is taken off its queue and handed to the link. -/
def Notifies (id : SessionId) (n : OutgoingNotification) (w : World) : Bool → World → Prop :=
  Hands id (Message.notification n.method n.params) n.method (w.setSession id (w.session id).notify)

def takesNotification (s : Session) (n : OutgoingNotification) : Bool :=
  s.takes (Message.notification n.method n.params)

lemma loops_sendNotifications (id : SessionId) :
    Loops id (Notifies id) takesNotification notifications notify
      (fun n => writeOrLog id (Message.notification n.method n.params) ("Can't send " ++ n.method.display))
      (sendNotificationsUpTo id) where
  stop _ := rfl
  empty fuel sent w h := by
    rw [sendNotificationsUpTo, run_getSession_bind, h]
    rfl
  next fuel sent w x rest h := by
    rw [sendNotificationsUpTo, run_getSession_bind, h, notify, h]
    rfl
  sends w x rest h := by
    have hid := lt_length_of_items rfl h
    have hs := session_setSession (w.session id).notify hid
    refine (ends_write_hands _ _ _).mono ?_
    rintro result v ⟨hsessions, hv⟩
    have hsession : v.session id = (w.session id).notify := (session_congr hsessions id).trans hs
    rw [hsession]
    refine ⟨by rw [notify, h]; rfl, rfl, ?_⟩
    rw [hs] at hv
    change if takesNotification (w.session id) x then _ else _ at hv
    split at hv
    next htakes => rwa [if_pos htakes]
    next htakes =>
      rw [if_neg htakes]
      exact ⟨by rw [hv.1.stories id]; rfl, hv.2⟩

/-! Requests -/

/-- The requests of a queue with the numbers that are theirs if all of them are sent. -/
def numbered (s : Session) : List (OutgoingRequest × Nat) := s.requests.zipIdx s.nextNumber

def requestMessage (x : OutgoingRequest × Nat) : Json := Message.request (Json.ofNat x.2) x.1.method x.1.params

def dequeue (s : Session) : Session := { s with requests := s.requests.tail }

/-- The session when a request was taken off its queue and got its number. -/
def advance (s : Session) : Session := { s.dequeue with correlator := s.correlator.advance }

def enroll (s : Session) (p : Pending Handler) : Session :=
  { s.advance with correlator := s.advance.correlator.register p }

/-- A request is taken off its queue, is registered under its number and is handed to the link. -/
inductive Requests.Turn (id : SessionId) (x : OutgoingRequest × Nat) (w : World) (b : Bool) (v : World) : Prop
  | intro {p : Pending Handler}
    (entry : Correlator.entry (Json.ofNat x.2) x.1.method x.1.handler x.1.ticket w.clock x.1.timeout = .ok p)
    (hands : Hands id (requestMessage x) x.1.method ((w.setSession id ((w.session id).enroll p)).record
      (.dealt id (.registered x.1.ticket x.2))) b v)

def takesRequest (s : Session) (x : OutgoingRequest × Nat) : Bool :=
  (x.1.timeout.isNull || x.1.timeout.toFloat.isOk) && s.takes (requestMessage x)

/-- A request can be registered if its timeout is none, or a number that is not too large. -/
lemma entry_isOk (n : Nat) (r : OutgoingRequest) (now : Float) :
    (Correlator.entry (Json.ofNat n) r.method r.handler r.ticket now r.timeout).isOk =
      (r.timeout.isNull || r.timeout.toFloat.isOk) := by
  unfold Correlator.entry
  cases r.timeout with
  | null => rfl
  | int seconds =>
    dsimp only
    cases Json.toFloat (.int seconds) <;> rfl
  | _ => rfl

lemma isClosed_of_entry {n : Nat} {r : OutgoingRequest} {now : Float} {f : Fault}
    (h : Correlator.entry (Json.ofNat n) r.method r.handler r.ticket now r.timeout = .error f) :
    f.isClosed = false := by
  unfold Correlator.entry at h
  cases ht : r.timeout with
  | int seconds =>
    rw [ht] at h
    dsimp only [Json.toFloat, Json.floatOfInt] at h
    split at h <;> cases h
    rfl
  | _ =>
    rw [ht] at h
    cases h <;> rfl

lemma numbered_cons {s : Session} {x : OutgoingRequest × Nat} {rest : List (OutgoingRequest × Nat)}
    (h : s.numbered = x :: rest) : x.2 = s.nextNumber ∧ s.requests = x.1 :: s.requests.tail ∧
      s.advance.numbered = rest := by
  rw [numbered] at h
  cases hrs : s.requests with
  | nil => rw [hrs] at h; cases h
  | cons r rs =>
    rw [hrs, List.zipIdx_cons] at h
    obtain ⟨rfl, rfl⟩ := List.cons.inj h
    refine ⟨rfl, rfl, ?_⟩
    rw [numbered, advance, dequeue, hrs]
    rfl

lemma ends_sendRequest_hands {x : OutgoingRequest × Nat} {rest : List (OutgoingRequest × Nat)}
    (hx : (w.session id).numbered = x :: rest) :
    Ends (sendRequest id x.1) (w.setSession id (w.session id).dequeue) fun result u =>
      (u.session id).numbered = rest ∧ (u.session id).takesRequest = (w.session id).takesRequest ∧
        if (w.session id).takesRequest x then ∃ b, result = .ok b ∧ Requests.Turn id x w b u
        else (u.story id).filter Event.hands = (w.story id).filter Event.hands ∧
          ∃ f, result = .error f ∧ f.isClosed = false := by
  obtain ⟨hnumber, -, hrest⟩ := numbered_cons hx
  have hid := lt_length_of_items rfl hx
  have hadvanced : (w.setSession id (w.session id).advance).session id = (w.session id).advance :=
    session_setSession _ hid
  refine ends_update_bind ?_
  rw [session_setSession (w.session id).dequeue hid, setSession_setSession]
  change Ends (get >>= _) (w.setSession id (w.session id).advance) _
  refine ends_get_bind ?_
  rw [hadvanced]
  change Ends (Act.check (Correlator.entry (Json.ofNat (w.session id).nextNumber) _ _ _ w.clock _) >>= fun p =>
    deal id (.registered x.1.ticket (w.session id).nextNumber) _ >>= fun _ =>
      writeOrLog id (Message.request (Json.ofNat (w.session id).nextNumber) _ _) _) _ _
  rw [← hnumber]
  have hentry := entry_isOk x.2 x.1 w.clock
  refine ends_check_bind (fun p hp => ends_deal_bind ?_) fun f hf => ?_
  · rw [hadvanced, setSession_setSession]
    change Ends _ ((w.setSession id ((w.session id).enroll p)).record _) _
    have henrolled := session_setSession ((w.session id).enroll p) hid
    rw [hp] at hentry
    have htakes : (w.session id).takesRequest x = (w.session id).takes (requestMessage x) := by
      rw [takesRequest, ← hentry]
      rfl
    refine (ends_write_hands _ _ _).mono ?_
    rintro result v ⟨hsessions, hv⟩
    have hsession : v.session id = (w.session id).enroll p := (session_congr hsessions id).trans henrolled
    change if ((w.setSession id ((w.session id).enroll p)).session id).takes (requestMessage x) then _ else _ at hv
    rw [henrolled] at hv
    change if (w.session id).takes (requestMessage x) then _ else _ at hv
    rw [hsession, htakes]
    refine ⟨hrest, rfl, ?_⟩
    split at hv
    next hpass =>
      obtain ⟨b, rfl, hhands⟩ := hv
      rw [if_pos hpass]
      exact ⟨b, rfl, hp, hhands⟩
    next hpass =>
      rw [if_neg hpass]
      refine ⟨?_, hv.2⟩
      rw [hv.1.stories id]
      simp [story, World.record, setSession, Event.concerns, Event.hands]
  · rw [hadvanced]
    rw [hf] at hentry
    have htakes : (w.session id).takesRequest x = false := by
      rw [takesRequest, ← hentry]
      rfl
    rw [htakes, if_neg Bool.false_ne_true]
    exact ⟨hrest, rfl, rfl, f, rfl, isClosed_of_entry hf⟩

lemma loops_sendRequests (id : SessionId) : Loops id (Requests.Turn id) takesRequest numbered dequeue
    (fun x => sendRequest id x.1) (sendRequestsUpTo id) where
  stop _ := rfl
  empty fuel sent w h := by
    rw [numbered, List.zipIdx_eq_nil_iff] at h
    rw [sendRequestsUpTo, run_getSession_bind, h]
    rfl
  next fuel sent w x rest h := by
    rw [sendRequestsUpTo, run_getSession_bind, (numbered_cons h).2.1]
    rfl
  sends _ _ _ := ends_sendRequest_hands

/-- The items of a queue have their turns up to the first one that does not pass. That one is lost, and
those behind it are left; so all is well if and only if all of them pass. -/
theorem ends_sending (w : World) (id : SessionId) :
    (Ends (sendNotifications id) w fun result v =>
      ((∃ n, result = .ok n) ↔ ∀ n ∈ (w.session id).notifications, (w.session id).takesNotification n) ∧
        Drains id (Notifies id) (w.session id).takesNotification notifications w result v) ∧
      Ends (sendRequests id) w fun result v =>
        ((∃ n, result = .ok n) ↔ ∀ x ∈ (w.session id).numbered, (w.session id).takesRequest x) ∧
          Drains id (Requests.Turn id) (w.session id).takesRequest numbered w result v := by
  have hrequests := (loops_sendRequests id).ends w
  rw [numbered, List.length_zipIdx] at hrequests
  exact ⟨ends_getSession_bind ((loops_sendNotifications id).ends w), ends_getSession_bind hrequests⟩

/-- The first of two items has a lone surrogate: neither is sent, nothing is logged, and the second one is
left in its queue. -/
theorem left_of_mem_outcomes_surrogate :
    let lone : Json := .object [("a", .text [.ofNat 0xD800])]
    let notifications : List Action := [.session .null .start, .session .null (.pushNotification "exit" lone),
      .session .null (.pushNotification "exit" .null), .session .null .sendNotifications]
    let requests : List Action := [.session .null .start, .session .null (.pushRequest "shutdown" lone none .null),
      .session .null (.pushRequest "shutdown" .null none .null), .session .null .sendRequests]
    (World.serving "server").IsNew ∧
      (∃ o ∈ outcomes (.serving "server") notifications, o.result.isOk = false ∧
        (o.world.session 0).link.any Link.accepts ∧ (o.world.session 0).notifications.length = 1 ∧
          o.events.any (fun e => e matches .sent .. | .logged ..) = false) ∧
      ∃ o ∈ outcomes (.serving "server") requests, o.result.isOk = false ∧
        (o.world.session 0).link.any Link.accepts ∧ (o.world.session 0).requests.length = 1 ∧
          o.events.any (fun e => e matches .sent .. | .logged ..) = false := by
  refine ⟨World.isNew_serving "server", ?_, ?_⟩ <;> decide +kernel

end Session

end LanguageClient
