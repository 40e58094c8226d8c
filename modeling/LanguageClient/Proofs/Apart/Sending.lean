import LanguageClient.Proofs.Apart.Basic
import LanguageClient.Proofs.Session.Calls

/-!
Calling back and sending, which regard one session alone as long as no host is called back.
-/

namespace LanguageClient

open Act

/-- Whatever the client calls back itself regards one session alone. -/
structure CallsLocally (call : Caller) : Prop where
  answer : ∀ {h : Handler}, h.isOwn → ∀ ticket response, Local fun id => call (.answer h id ticket response)
  event : ∀ {l : Listener}, l.isOwn → ∀ args, Local fun id => call (.event l id args)
  message : ∀ {l : Listener}, l.isOwn → ∀ params, Local fun id => call (.message l id params)

lemma Correlator.mem_insert {κ : Type} {p q : Pending κ} {qs : List (Pending κ)} (h : q ∈ insert p qs) :
    q ∈ qs ∨ q.handler = p.handler := by
  induction qs with
  | nil => exact .inr (List.mem_singleton.mp h ▸ rfl)
  | cons r rs ih =>
    rw [insert] at h
    split at h
    next =>
      rcases List.mem_cons.mp h with rfl | h
      · exact .inr rfl
      · exact .inl (List.mem_cons_of_mem _ h)
    next =>
      rcases List.mem_cons.mp h with rfl | h
      · exact .inl List.mem_cons_self
      · exact (ih h).imp_left (List.mem_cons_of_mem _)

namespace Session

variable {call : Caller} {s : Session}

/-! What is own stays own -/

lemma IsOwn.requests (h : s.IsOwn) {r : OutgoingRequest} {rest : List OutgoingRequest}
    (hr : s.requests = r :: rest) : r.IsOwn ∧ ∀ q ∈ rest, q.IsOwn := by
  have hall := h.2.1
  rw [hr] at hall
  exact ⟨hall r List.mem_cons_self, fun q hq => hall q (List.mem_cons_of_mem _ hq)⟩

lemma IsOwn.queue (h : s.IsOwn) {item : Deferred} (hi : item.IsOwn) : (s.queue item).IsOwn := by
  cases item with
  | inl n => exact h
  | inr r =>
    refine ⟨h.1, fun q hq => ?_, h.2.2⟩
    rcases List.mem_append.mp hq with hq | hq
    · exact h.2.1 q hq
    · exact List.mem_singleton.mp hq ▸ hi r rfl

lemma IsOwn.defer (h : s.IsOwn) {item : Deferred} (hi : item.IsOwn) :
    ({ s with deferred := s.deferred ++ [item] } : Session).IsOwn := by
  refine ⟨h.1, h.2.1, fun other ho => ?_, h.2.2.2⟩
  rcases List.mem_append.mp ho with ho | ho
  · exact h.2.2.1 other ho
  · exact List.mem_singleton.mp ho ▸ hi

lemma IsOwn.flush (h : s.IsOwn) : s.flush.IsOwn := by
  refine ⟨h.1, fun r hr => ?_, (fun _ hi => by cases hi), h.2.2.2⟩
  rcases List.mem_append.mp hr with hr | hr
  · exact h.2.1 r hr
  · obtain ⟨item, hitem, hr⟩ := List.mem_filterMap.mp hr
    exact h.2.2.1 item hitem r (Sum.getRight?_eq_some_iff.mp hr)

lemma IsOwn.register (h : s.IsOwn) {p : Pending Handler} (hp : ∀ k ∈ p.handler, k.isOwn) :
    ({ s with correlator := s.correlator.register p } : Session).IsOwn := by
  refine ⟨fun q hq => ?_, h.2⟩
  rcases Correlator.mem_insert hq with hq | hq
  · exact h.1 q hq
  · exact hq ▸ hp

lemma IsOwn.clearQueues (h : s.IsOwn) : s.clearQueues.IsOwn :=
  ⟨h.1, (fun _ hr => by cases hr), (fun _ hi => by cases hi), h.2.2.2⟩

/-! Calling back -/

lemma local_resolve (hc : CallsLocally call) (answered response : Json) :
    Local fun id => resolve call id answered response := by
  unfold resolve
  refine local_getSession_bind fun s hs => ?_
  cases ha : s.correlator.answered? answered with
  | none => exact (local_log _ _ _).bind fun _ => local_pure false
  | some p =>
    have hp := hs.1 p (Correlator.mem_of_answered? ha).1
    refine local_deal_bind (fun t => .of_own rfl rfl fun ht => ⟨fun q hq => ?_, ht.2⟩) fun _ => ?_
    · exact ht.1 q (List.mem_filter.mp hq).1
    cases hh : p.handler with
    | none => exact local_pure true
    | some handler =>
      refine (hc.answer (hp _ hh) p.ticket response).attempt.bind fun r => ?_
      cases r with
      | ok _ => exact local_pure true
      | error f => exact (local_logFault _ _ f).bind fun _ => local_pure true

lemma local_failEach (hc : CallsLocally call) (code message : Json) (slots : List Json) :
    Local fun id => failEach call id code message slots := by
  induction slots with
  | nil => exact local_pure ()
  | cons slot rest ih => exact (local_resolve hc _ _).bind fun _ => ih

lemma local_failAll (hc : CallsLocally call) (code message : Json) :
    Local fun id => failAll call id code message := by
  unfold failAll
  refine local_getSession_bind fun s _ => ?_
  have hrest := (local_failEach hc code message (s.correlator.pending.map (·.slot))).bind fun _ =>
    local_pure (s.correlator.pending.map (·.slot)).length
  exact .ite (fun _ => (local_log _ _ _).bind fun _ => hrest) fun _ => (local_pure ()).bind fun _ => hrest

lemma local_expireEach (hc : CallsLocally call) (now : Json) (overdue : List (Pending Handler)) :
    Local fun id => expireEach call id now overdue := by
  induction overdue with
  | nil => exact local_pure ()
  | cons p rest ih =>
    refine local_getSession_bind fun s _ => (local_log _ _ _).bind fun _ => local_check_bind fun _ _ => ?_
    exact (local_resolve hc _ _).bind fun _ => ih

lemma local_expire (hc : CallsLocally call) (now : Json) : Local fun id => expire call id now := by
  refine local_get_bind (fun s c id => do
    let now := if now.isNull then Json.float c.clock else now
    let overdue ← Act.check (s.correlator.overdue now)
    expireEach call id now overdue
    return overdue.length) (fun _ _ => rfl) fun s c _ => ?_
  exact local_check_bind fun overdue _ => (local_expireEach hc _ overdue).bind fun _ => local_pure _

lemma local_callEach {makeCall : SessionId → Listener → Call} {onFault : Fault → Act Unit}
    {listeners : List Listener} (hcall : ∀ l ∈ listeners, Local fun id => call (makeCall id l))
    (hfault : ∀ f, Local fun _ => onFault f) :
    Local fun id => callEach call (makeCall id) onFault listeners := by
  induction listeners with
  | nil => exact local_pure ()
  | cons l rest ih =>
    refine (hcall l List.mem_cons_self).attempt.bind fun r => ?_
    have hrest := ih fun k hk => hcall k (List.mem_cons_of_mem _ hk)
    cases r with
    | ok _ => exact (local_pure ()).bind fun _ => hrest
    | error f => exact (hfault f).bind fun _ => hrest

lemma mem_all_of_mem_ofEvent {ls : Listeners Listener} {key : Json.Key} {l : Listener}
    (h : l ∈ ls.ofEvent key) : l ∈ ls.all := by
  obtain ⟨⟨k, l'⟩, hl, hk⟩ := List.mem_filterMap.mp h
  obtain ⟨-, rfl⟩ : k = key ∧ l' = l := by simpa using hk
  exact List.mem_append_left _ (List.mem_map_of_mem hl)

lemma mem_all_of_mem_ofMethod {ls : Listeners Listener} {key : Json.Key} {l : Listener}
    (h : l ∈ ls.ofMethod key) : l ∈ ls.all := by
  obtain ⟨⟨k, l'⟩, hl, hk⟩ := List.mem_filterMap.mp h
  obtain ⟨-, rfl⟩ : k = key ∧ l' = l := by simpa using hk
  exact List.mem_append_right _ (List.mem_map_of_mem hl)

lemma local_fireEvent (hc : CallsLocally call) (name : Json) (args : List Json) :
    Local fun id => fireEvent call id name args := by
  refine local_check_bind fun key _ => (local_note _).bind fun _ => local_getSession_bind fun s hs => ?_
  refine (local_callEach (fun l hl => ?_) fun f => local_logFault _ _ f).bind fun _ => local_pure _
  exact hc.event (hs.2.2.2 l (mem_all_of_mem_ofEvent hl)) args

lemma local_fireMethod (hc : CallsLocally call) (name params : Json) :
    Local fun id => fireMethod call id name params := by
  refine local_check_bind fun key _ => local_getSession_bind fun s hs => ?_
  refine (local_callEach (fun l hl => ?_) fun f => local_logFault _ _ f).bind fun _ => local_pure _
  exact hc.message (hs.2.2.2 l (mem_all_of_mem_ofMethod hl)) params

/-! Queues -/

lemma local_accept {item : Deferred} {f : Session → Session} (hf : ∀ s : Session, s.Persists (f s)) :
    Local fun id => accept id item f := by
  cases item with
  | inl n => exact local_updateSession hf
  | inr r => exact local_deal _ fun s => hf s

lemma local_put {item : Deferred} (hi : item.IsOwn) (method : Json) : Local fun id => put id item method := by
  unfold put
  refine local_getSession_bind fun s _ => .ite (fun _ => ?_) fun _ => ?_
  · exact (local_log _ _ _).bind fun _ => local_pure false
  have hqueue : Local fun id => (do
      note id (.queued item)
      accept id item fun s => s.queue item
      return true) := by
    refine (local_note _).bind fun _ => (local_accept fun t => ?_).bind fun _ => local_pure true
    refine .of_own ?_ ?_ fun ht => ht.queue hi <;> cases item <;> rfl
  have hdefer : Local fun id => (do
      note id (.deferred item)
      accept id item fun s => { s with deferred := s.deferred ++ [item] }
      return true) := by
    refine (local_note _).bind fun _ => (local_accept fun t => ?_).bind fun _ => local_pure true
    exact .of_own rfl rfl fun ht => ht.defer hi
  refine .ite (fun _ => local_check_bind fun lifecycle _ => .ite (fun _ => ?_) fun _ => hqueue) fun _ => hqueue
  exact (local_log _ _ _).bind fun _ => hdefer

lemma local_pushNotification (method params : Json) : Local fun id => pushNotification id method params :=
  local_put (fun _ h => by cases h) method

lemma local_pushRequest (method params : Json) {handler : Option Handler} (hh : ∀ h ∈ handler, h.isOwn)
    (timeout : Json) : Local fun id => pushRequest id method params handler timeout := by
  refine local_getSession_bind fun s _ => local_put (fun r hr => ?_) method
  obtain rfl := Sum.inr.inj hr
  exact hh

/-! Writing -/

lemma local_logTraffic (s : Session) (direction : Text) (message : Json) :
    Local fun _ => logTraffic s direction message :=
  local_of_quiet (x := ()) fun id w => by
    have hrun : (logTraffic s direction message).run w =
        (if w.logsTraffic then log .traffic Level.debug (s.tag ++ direction ++ " " ++ trafficText w message)
          else pure ()).run w := rfl
    rw [after, hrun]
    split
    next => exact ⟨rfl, World.quiet_log ..⟩
    next => exact ⟨rfl, .refl w⟩

lemma local_write (message : Json) : Local fun id => write id message := by
  refine local_getSession_bind fun s _ => ?_
  cases s.link with
  | none => exact (local_note _).bind fun _ => local_throw _
  | some link =>
    refine local_check_bind fun v _ => (local_logTraffic s _ v).bind fun _ => local_check_bind fun _ _ => ?_
    exact .ite (fun _ => local_sent _ _) fun _ => (local_note _).bind fun _ => local_throw _

lemma local_writeOrLog (message : Json) (complaint : Text) :
    Local fun id => writeOrLog id message complaint := by
  refine (local_write message).attempt.bind fun r => ?_
  cases r with
  | ok _ => exact local_pure true
  | error f =>
    refine .ite (fun _ => ?_) fun _ => local_throw f
    exact local_getSession_bind fun s _ => (local_log _ _ _).bind fun _ => local_pure false

lemma local_sendNotificationsUpTo (fuel sent : Nat) : Local fun id => sendNotificationsUpTo id fuel sent := by
  induction fuel generalizing sent with
  | zero => exact local_pure sent
  | succ fuel ih =>
    refine local_getSession_bind fun s _ => ?_
    cases s.notifications with
    | nil => exact local_pure sent
    | cons n rest =>
      refine local_updateSession_bind (fun t => .of_own rfl rfl fun ht => ht) fun _ => ?_
      exact (local_writeOrLog _ _).bind fun _ => ih _

lemma local_sendNotifications : Local fun id => sendNotifications id :=
  local_getSession_bind fun _ _ => local_sendNotificationsUpTo _ 0

lemma local_sendRequest {r : OutgoingRequest} (hr : r.IsOwn) : Local fun id => sendRequest id r := by
  refine local_updateSession_bind (fun t => .of_own rfl rfl fun ht => ht) fun _ => ?_
  refine local_get_bind (fun s c id => do
    let number := s.correlator.lastId
    let p ← Act.check
      (Correlator.entry (Json.ofNat number) r.method r.handler r.ticket c.clock r.timeout)
    deal id (.registered r.ticket number) fun s => { s with correlator := s.correlator.register p }
    writeOrLog id (Message.request (Json.ofNat number) r.method r.params) ("Can't send " ++ r.method.display))
    (fun _ _ => rfl) fun s c _ => local_check_bind fun p hp => ?_
  have hown : ∀ k ∈ p.handler, k.isOwn := (Correlator.numbered_of_entry hp).2.1 ▸ hr
  exact local_deal_bind (fun t => .of_own rfl rfl fun ht => ht.register hown) fun _ => local_writeOrLog _ _

lemma local_sendRequestsUpTo (fuel sent : Nat) : Local fun id => sendRequestsUpTo id fuel sent := by
  induction fuel generalizing sent with
  | zero => exact local_pure sent
  | succ fuel ih =>
    refine local_getSession_bind fun s hs => ?_
    cases hr : s.requests with
    | nil => exact local_pure sent
    | cons r rest =>
      obtain ⟨hown, hrest⟩ := hs.requests hr
      refine local_updateSession_bind (fun t => .of_own rfl rfl fun ht => ⟨ht.1, hrest, ht.2.2⟩) fun _ => ?_
      exact (local_sendRequest hown).bind fun _ => ih _

lemma local_sendRequests : Local fun id => sendRequests id :=
  local_getSession_bind fun _ _ => local_sendRequestsUpTo _ 0

/-! Documents -/

lemma local_openDocument (params : Json) : Local fun id => openDocument id params := by
  refine local_check_bind fun uri _ => local_check_bind fun key _ => local_getSession_bind fun s _ => ?_
  refine .ite (fun _ => (local_pushNotification _ _).bind fun accepted => ?_) fun _ => local_pure ()
  exact .ite (fun _ => local_updateSession fun t => .of_own rfl rfl fun ht => ht) fun _ => local_pure ()

lemma local_closeDocument (params : Json) : Local fun id => closeDocument id params := by
  refine local_check_bind fun key _ => local_getSession_bind fun s _ => ?_
  refine .ite (fun _ => (local_pushNotification _ _).bind fun _ => ?_) fun _ => local_pure ()
  exact local_updateSession fun t => .of_own rfl rfl fun ht => ht

lemma local_changeDocument (params : Json) : Local fun id => changeDocument id params := by
  refine local_check_bind fun key _ => local_getSession_bind fun s _ => ?_
  exact .ite (fun _ => (local_pushNotification _ _).bind fun _ => local_pure ()) fun _ => local_pure ()

lemma local_complete (params : Json) {handler : Option Handler} (hh : ∀ h ∈ handler, h.isOwn) :
    Local fun id => complete id params handler :=
  (local_pushRequest _ params hh .null).bind fun _ => local_pure ()

lemma local_goTo (method params : Json) {handler : Option Handler} (hh : ∀ h ∈ handler, h.isOwn) :
    Local fun id => goTo id method params handler :=
  (local_pushRequest _ params hh .null).bind fun _ => local_pure ()

end Session

end LanguageClient
