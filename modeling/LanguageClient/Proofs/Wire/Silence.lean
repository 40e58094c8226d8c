import LanguageClient.Proofs.Wire.Queues

/-!
Silence. A session tells and asks its server something when it sends what waits, and at its end. Whatever
else is done, nothing is written but answers to what the server asked.
-/

namespace LanguageClient

open Act World Queues

/-- No server was told or asked anything. -/
def World.Silent (v w : World) : Prop := ∀ id, Adds (isSilent id) (v.story id) (w.story id)

namespace World

variable {v w : World} {id : SessionId}

instance : Course Silent where
  refl _ _ := .refl _
  trans h g id := (h id).trans (g id)

instance : Stable Silent fun _ => True := ⟨fun _ _ => trivial⟩

lemma Alike.silent (h : Alike v w) : Silent v w := fun id => by
  rw [h.stories id]
  exact .refl _

lemma Becomes.silent {s : Session} {es : List Event} (h : Becomes id s es v w)
    (he : Adds (isSilent id) (v.story id) es) : Silent v w := fun other => by
  by_cases ho : other = id
  · subst ho
    rw [h.story]
    exact he
  · rw [(h.others other ho).2]
    exact .refl _

end World

/-! Whatever calls no one back -/

namespace Act

variable {α β : Type} {id : SessionId}

/-- An action in which no server is told or asked anything. -/
abbrev IsSilent (a : Act α) : Prop := Within Silent (fun _ => True) a

lemma silent_record {e : Event} (he : ∀ id, isSilent id e) : IsSilent (record e) := by
  refine ⟨fun w _ id => ?_⟩
  change Adds _ (w.events.filter _) ((e :: w.events).filter _)
  rw [List.filter_cons]
  split
  · exact .single (he id)
  · exact .refl _

lemma silent_note (n : Note) : IsSilent (note id n) := silent_record fun _ => rfl

lemma silent_askHost {e : Event} (he : ∀ id, isSilent id e) : IsSilent (askHost id e) :=
  (silent_note _).bind fun _ => silent_record he

lemma silent_updateSession (f : Session → Session) : IsSilent (updateSession id f) :=
  ⟨fun _ _ _ => .refl _⟩

lemma silent_deal (d : Dealing) (f : Session → Session) : IsSilent (deal id d f) :=
  ⟨fun w _ => (silent_record fun _ => rfl).after (w.setSession id (f (w.session id))) trivial⟩

lemma IsRemark.silent {a : Act Unit} (h : IsRemark a) : IsSilent a := ⟨fun w _ => by
  obtain ⟨v, hr, hv⟩ := h.run w
  rw [after, hr]
  exact hv.silent⟩

lemma silent_modify {f : World → World} (hf : ∀ w, Alike w (f w)) : IsSilent (modify f) :=
  within_modify fun w _ => (hf w).silent

lemma silent_get_bind {f : World → Act β} (hf : ∀ w, IsSilent (f w)) : IsSilent (get >>= f) :=
  within_get_bind fun w _ => (hf w).mono fun _ _ => trivial

lemma silent_getSession_bind {f : Session → Act β} (hf : ∀ s, IsSilent (f s)) :
    IsSilent (getSession id >>= f) :=
  within_getSession_bind fun w _ => (hf (w.session id)).mono fun _ _ => trivial

lemma silent_ask {f : Session → Answer} : IsSilent (do return f (← getSession id)) :=
  silent_getSession_bind fun _ => within_pure _

lemma IsSilent.answers {a : Act α} {f : α → Answer} (h : IsSilent a) : IsSilent (do return f (← a)) :=
  h.bind fun _ => within_pure _

end Act

namespace Session

variable {id : SessionId}

lemma silent_accept (item : Deferred) (f : Session → Session) : IsSilent (accept id item f) := by
  unfold accept
  cases item with
  | inl n => exact silent_updateSession _
  | inr r => exact silent_deal _ _

lemma silent_put (item : Deferred) (method : Json) : IsSilent (put id item method) := by
  refine silent_getSession_bind fun s => ?_
  have hqueue : IsSilent (do
      note id (.queued item)
      accept id item fun s => s.queue item
      return true) :=
    (silent_note _).bind fun _ => (silent_accept item _).bind fun _ => within_pure _
  dsimp only
  split
  next => exact (isRemark_log _ _ _).silent.bind fun _ => within_pure _
  next =>
    split
    next =>
      refine within_check_bind fun lifecycle _ => ?_
      split
      next =>
        refine (isRemark_log _ _ _).silent.bind fun _ => (silent_note _).bind fun _ => ?_
        exact (silent_accept item _).bind fun _ => within_pure _
      next => exact hqueue
    next => exact hqueue

lemma silent_pushNotification (method params : Json) : IsSilent (pushNotification id method params) :=
  silent_put _ _

lemma silent_pushRequest (method params : Json) (handler : Option Handler) (timeout : Json) :
    IsSilent (pushRequest id method params handler timeout) :=
  silent_getSession_bind fun _ => silent_put _ _

lemma silent_openDocument (params : Json) : IsSilent (openDocument id params) := by
  refine within_check_bind fun uri _ => within_check_bind fun key _ => silent_getSession_bind fun s => ?_
  split
  next =>
    refine (silent_pushNotification _ _).bind fun accepted => ?_
    split
    next => exact silent_updateSession _
    next => exact within_pure ()
  next => exact within_pure ()

lemma silent_closeDocument (params : Json) : IsSilent (closeDocument id params) := by
  refine within_check_bind fun key _ => silent_getSession_bind fun s => ?_
  split
  next => exact (silent_pushNotification _ _).bind fun _ => silent_updateSession _
  next => exact within_pure ()

lemma silent_changeDocument (params : Json) : IsSilent (changeDocument id params) := by
  refine within_check_bind fun key _ => silent_getSession_bind fun s => ?_
  split
  next => exact (silent_pushNotification _ _).bind fun _ => within_pure ()
  next => exact within_pure ()

lemma silent_complete (params : Json) (handler : Option Handler) : IsSilent (complete id params handler) :=
  (silent_pushRequest _ _ _ _).bind fun _ => within_pure ()

lemma silent_goTo (method params : Json) (handler : Option Handler) :
    IsSilent (goTo id method params handler) :=
  (silent_pushRequest _ _ _ _).bind fun _ => within_pure ()

lemma silent_launch : IsSilent (launch id) := by
  refine silent_get_bind fun w => ?_
  dsimp only
  split
  next =>
    refine (isRemark_forM_log _).silent.bind fun _ => ?_
    split <;> exact within_throw _
  next =>
    split
    next => exact within_throw _
    next => exact (silent_record fun _ => rfl).bind fun _ => silent_updateSession _

lemma silent_start : IsSilent (start id) := by
  refine silent_getSession_bind fun s => ?_
  dsimp only
  split
  next => exact within_pure ()
  next =>
    split
    next => exact within_throw _
    next => exact silent_launch

lemma silent_handshake (rootUri name version : Json) (callback : Option Callback) :
    IsSilent (handshake id rootUri name version callback) := by
  refine silent_getSession_bind fun s => ?_
  dsimp only
  split
  next => exact (isRemark_log _ _ _).silent.bind fun _ => within_pure ()
  next =>
    refine silent_start.bind fun _ => within_check_bind fun rootPath _ => ?_
    refine (silent_updateSession _).bind fun _ => (isRemark_log _ _ _).silent.bind fun _ => ?_
    exact silent_getSession_bind fun s => (silent_note _).bind fun _ => silent_accept _ _

/-- What a server is answered tells it and asks it nothing. -/
lemma silent_reply {m : Fields} {reply : Json} (h : Message.IsReply m reply) (complaint : Text) :
    IsSilent (writeOrLog id reply complaint) :=
  within_of_ends fun w _ => (ends_writeOrLog reply complaint w).mono fun _ _ ⟨⟨_, _, hw, hb⟩, _⟩ =>
    hb.silent (hw.adds (isSilent_of_isAside (isAside_sent_of_isReply h _)) rfl rfl)

end Session

namespace Features

variable {id : SessionId}

lemma silent_onLogMessage (params : Json) : IsSilent (onLogMessage id params) := by
  unfold onLogMessage
  dsimp only
  split
  next => exact (isRemark_say _).silent
  next => exact within_pure ()

lemma silent_onReady : IsSilent (onReady id) := by
  refine (isRemark_say _).silent.bind fun _ => silent_getSession_bind fun s => ?_
  have htriggers : IsSilent (do
      if s.triggers.holds then
        if s.isVerbose then
          let shown ← Act.check (joined s.triggers)
          log .client Level.info (s.tag ++ "Adding triggers for '" ++ s.language.display ++ "' - " ++ shown)
        askHost id (.triggered s.language s.filePatterns s.triggers)) := by
    have hlast : IsSilent (askHost id (.triggered s.language s.filePatterns s.triggers)) :=
      silent_askHost fun _ => rfl
    split
    next =>
      split
      next => exact within_check_bind fun shown _ => (isRemark_log _ _ _).silent.bind fun _ => hlast
      next => exact hlast
    next => exact within_pure ()
  dsimp only
  split
  next => exact (Session.silent_pushNotification _ _).bind fun _ => htriggers
  next => exact htriggers

lemma silent_offer (items : Json) : IsSilent (offer id items) := by
  unfold offer
  split
  next => exact silent_getSession_bind fun s => within_check_bind fun _ _ => silent_askHost fun _ => rfl
  next => exact within_pure ()

lemma silent_onCompletion (response : Json) : IsSilent (onCompletion id response) := by
  refine within_check_bind fun failure _ => ?_
  split
  next => exact (isRemark_sayQuietly _).silent
  next =>
    refine within_check_bind fun result _ => ?_
    split
    next =>
      split
      next => exact (isRemark_sayQuietly _).silent
      next => exact silent_offer _
    next => exact silent_offer _

lemma silent_onGoTo (method : Text) (response : Json) : IsSilent (onGoTo method id response) := by
  refine within_check_bind fun failure _ => ?_
  split
  next => exact (isRemark_say _).silent
  next =>
    refine within_check_bind fun result _ => ?_
    dsimp only
    split
    next => exact (isRemark_say _).silent
    next =>
      refine within_check_bind fun range _ => within_check_bind fun path _ => ?_
      exact within_check_bind fun line _ => within_check_bind fun col _ => silent_askHost fun _ => rfl

end Features

/-! What calls back -/

/-- What a callback may not do if it is to be silent: to tick, to go through a phase of a tick, or to end
a session. -/
def SessionAction.speaks (a : SessionAction) : Bool := a matches .tick || a.isPhase || a.isEnding

/-- Whether callbacks leave it to the host to speak to servers. -/
def Conduct.LeavesSpeaking (c : Conduct) : Prop := ∀ a : SessionAction, a.speaks → c.callback a = false

/-- A caller in whose calls no server is told or asked anything. -/
structure Hushes (c : Conduct) (call : Caller) : Prop where
  answer : ∀ handler id ticket (m : Fields), handler.obeys c.callback →
    Within Silent (Ready c id) (call (.answer handler id ticket (.object m)))
  event : ∀ listener id args, Within Silent (Heeds c id listener) (call (.event listener id args))
  message : ∀ listener id params,
    Within Silent (Heeds c id listener) (call (.message listener id params))

variable {c : Conduct} {call : Caller} {id : SessionId}

lemma World.Becomes.ready {v w : World} {s : Session} {es : List Event} (h : Becomes id s es v w)
    (hv : v.Ready c id) (hs : s.Sound c id es) : w.Ready c id where
  lawful := {
    sessions := fun other => by
      by_cases ho : other = id
      · subst ho
        rw [h.session, h.story]
        exact hs
      · rw [(h.others other ho).1, (h.others other ho).2]
        exact hv.lawful.sessions other
    running := by
      rw [h.running, h.length]
      exact hv.lawful.running }
  lt := h.lt hv.lt

namespace Act

variable {α β : Type}

/-- An action on a session that is ready, in which no server is told or asked anything. -/
abbrev Hushed (c : Conduct) (id : SessionId) (a : Act α) : Prop := Within Silent (Ready c id) a

lemma IsSilent.hushed {a : Act α} (h : IsSilent a) : Hushed c id a := h.mono fun _ _ => trivial

lemma hushed_getSession_bind {f : Session → Act β}
    (hf : ∀ w : World, w.Ready c id → Hushed c id (f (w.session id))) :
    Hushed c id (getSession id >>= f) :=
  within_getSession_bind fun w hw => (hf w hw).mono fun _ hv => hv ▸ hw

lemma Hushed.bind_ready {a : Act α} {f : α → Act β} (ha : Hushed c id a)
    (hr : ∀ w : World, w.Ready c id → Ready c id (a.after w)) (hf : ∀ x, Hushed c id (f x)) :
    Hushed c id (a >>= f) :=
  .bind_of (fun w hw => ⟨ha.after w hw, hr w hw⟩) hf

lemma IsRemark.hushed_bind {a : Act Unit} (h : IsRemark a) {f : Unit → Act β}
    (hf : Hushed c id (f ())) : Hushed c id (a >>= f) := by
  have hm : Stays c id [] a := h.within
  exact h.silent.hushed.bind_ready (fun w hw => (hm.after w hw).ready hw) fun _ => hf

end Act

namespace Session

lemma silent_resolve (hs : Hushes c call) {answered : Json} {m : Fields} {w : World}
    (hw : w.Ready c id) :
    Ends (resolve call id answered (.object m)) w fun _ v => Silent w v := by
  refine ends_getSession_bind ?_
  split
  next => exact (isRemark_log _ _ _).bind fun v hv => ends_pure hv.silent
  next p ha =>
    refine ends_deal hw.lt fun u hu => ?_
    have hdealt : Silent w u := hu.silent (.single rfl)
    have hready : u.Ready c id := hu.ready hw ((hw.sound.erase p.key).mono (List.suffix_cons _ _))
    cases hh : p.handler with
    | none => exact ends_pure hdealt
    | some handler =>
      have hp : handler.obeys c.callback :=
        hw.sound.pending p (Correlator.mem_of_answered? ha).1 handler hh
      have hcall := ends_of_within (hs.answer handler id p.ticket m hp) hready
      refine Ends.attempt_bind (hcall.mono fun result v hv => ?_)
      cases result with
      | ok _ => exact ends_pure (Course.trans hdealt hv)
      | error f =>
        refine (isRemark_logFault _ _ _).bind fun x hx => ends_pure ?_
        exact Course.trans (Course.trans hdealt hv) hx.silent

lemma hushed_expireEach (hc : Abides c call) (hs : Hushes c call) (now : Json)
    (overdue : List (Pending Handler)) : Hushed c id (expireEach call id now overdue) := by
  induction overdue with
  | nil => exact within_pure ()
  | cons p rest ih =>
    refine hushed_getSession_bind fun w _ => (isRemark_log _ _ _).hushed_bind ?_
    refine within_check_bind fun x _ => Within.bind_of (fun v hv => ?_) fun _ => ih
    refine ⟨silent_resolve hs hv, Moves.ready (ℓ := .callback) (L := [.expiring]) (M := [.expiring]) ?_ hv⟩
    exact (ends_resolve_failure hc p.id _ _ hv (Task.areIdle_singleton rfl) fun K => .inl ⟨K, rfl⟩).2.1

lemma hushed_expire (hc : Abides c call) (hs : Hushes c call) (now : Json) :
    Hushed c id (expire call id now) := by
  refine within_get_bind fun w hw => within_check_bind fun overdue _ => ?_
  exact ((hushed_expireEach hc hs _ overdue).mono fun v hv => hv ▸ hw).bind_any fun _ => within_pure _

lemma silent_callEach {makeCall : Listener → Call} {onFault : Fault → Act Unit}
    (owes : Listener → List Task) {listeners : List Listener}
    (hc : ∀ l, Within (Moves c .callback id (owes l) []) (Heeds c id l) (call (makeCall l)))
    (hs : ∀ l, Within Silent (Heeds c id l) (call (makeCall l))) (hf : ∀ f, IsRemark (onFault f))
    {w : World} (hw : w.Ready c id) (hl : ∀ l ∈ listeners, l.obeys c.callback (w.session id).config) :
    Ends (callEach call makeCall onFault listeners) w fun _ v => Silent w v := by
  induction listeners generalizing w with
  | nil => exact ends_pure (Course.refl w)
  | cons l rest ih =>
    rw [List.forall_mem_cons] at hl
    refine Ends.attempt_bind (((ends_of_within (hc l) ⟨hw, hl.1⟩).and
      (ends_of_within (hs l) ⟨hw, hl.1⟩)).mono ?_)
    rintro result v ⟨hv, hsilent⟩
    have hrest : ∀ {x : World}, Moves c .callback id (owes l) [] w x → Silent w x →
        Ends (callEach call makeCall onFault rest) x fun _ y => Silent w y := fun hx hsx =>
      (ih (hx.ready hw) (hx.config_eq ▸ hl.2)).mono fun _ y hy => Course.trans hsx hy
    cases result with
    | ok _ => exact hrest hv hsilent
    | error f =>
      exact (hf f).bind fun u hu => hrest (hv.trans (.of_alike hu)) (Course.trans hsilent hu.silent)

lemma hushed_fireEvent (hc : Abides c call) (hs : Hushes c call) (name : Json) (args : List Json) :
    Hushed c id (fireEvent call id name args) := by
  refine within_check_bind fun key _ => (silent_note _).hushed.bind_ready (fun w hw => ?_) fun _ => ?_
  · exact (becomes_record fun _ => rfl).ready hw (hw.sound.mono (List.suffix_cons _ _))
  refine within_getSession_bind fun w hw => (within_of_ends fun v hv => ?_).bind_any fun _ => within_pure _
  subst hv
  refine silent_callEach (fun _ => []) (fun l => hc.event l id args) (fun l => hs.event l id args)
    (fun f => isRemark_logFault _ _ f) hw fun l hl => ?_
  exact hw.sound.listeners l (List.mem_append_left _ (mem_of_named hl))

lemma hushed_fireMethod (hc : Abides c call) (hs : Hushes c call) (name params : Json) :
    Hushed c id (fireMethod call id name params) := by
  refine within_check_bind fun key _ => within_getSession_bind fun w hw => ?_
  refine (within_of_ends fun v hv => ?_).bind_any fun _ => within_pure _
  subst hv
  refine silent_callEach (fun l => [.telling l params]) (fun l => hc.message l id params)
    (fun l => hs.message l id params) (fun f => isRemark_logFault _ _ f) hw fun l hl => ?_
  exact hw.sound.listeners l (List.mem_append_right _ (mem_of_named hl))

/-! The answer to the request that opens a session -/

lemma hushed_callBack (hs : Hushes c call) {callback : Option Callback}
    (ho : callbackObeys c.callback callback) (ticket : Nat) (m : Fields) :
    Hushed c id (callBack call callback id ticket (.object m)) := by
  cases callback with
  | none => exact within_pure ()
  | some callback => exact hs.answer (.host callback) id ticket m ho

lemma hushed_openingRefused (hs : Hushes c call) {callback : Option Callback}
    (ho : callbackObeys c.callback callback) (ticket : Nat) (error : Json) (m : Fields) :
    Hushed c id (openingRefused call callback id ticket error (.object m)) := by
  refine (hushed_callBack hs ho ticket m).bind_any fun _ => silent_getSession_bind fun s => ?_
  split
  next => exact within_pure ()
  next =>
    refine within_check_bind fun code _ => within_check_bind fun text _ => ?_
    exact (isRemark_log _ _ _).silent.bind fun _ => silent_updateSession _

lemma hushed_openingAccepted (hc : Abides c call) (hs : Hushes c call) {callback : Option Callback}
    (ho : callbackObeys c.callback callback) (ticket : Nat) (m : Fields) :
    Hushed c id (openingAccepted call callback id ticket (.object m)) := by
  have hdeclare : Hushed c id (do
      callBack call callback id ticket (.object m)
      let _ ← fireEvent call id "initialized" []) := by
    refine (hushed_callBack hs ho ticket m).bind_ready (fun v hv => ?_) fun _ => ?_
    · exact (ends_callBack hc ho ticket m hv).1.ready hv
    · exact (hushed_fireEvent hc hs _ _).bind_any fun _ => within_pure _
  refine within_of_ends fun w hw => ends_openingAccepted hw.lt (fun v _ hv => hv.silent (.single rfl))
    (fun f v _ _ _ hv => hv.silent (.refl _)) fun capabilities serverInfo v _ _ hv => ?_
  have hwelcomed : Silent w v := hv.silent (.single rfl)
  refine (ends_of_within hdeclare ?_).mono fun _ _ hx => Course.trans hwelcomed hx
  exact hv.ready hw ((hw.sound.welcome capabilities serverInfo).mono (List.suffix_cons _ _))

lemma hushed_openingAnswered (hc : Abides c call) (hs : Hushes c call) {callback : Option Callback}
    (ho : callbackObeys c.callback callback) (ticket : Nat) (m : Fields) :
    Hushed c id (openingAnswered call callback id ticket (.object m)) := by
  refine within_check_bind fun error _ => ?_
  split
  next => exact hushed_openingRefused hs ho ticket error m
  next => exact hushed_openingAccepted hc hs ho ticket m

/-! Dispatching -/

lemma hushed_answerRequest (hc : Abides c call) (hs : Hushes c call) {m : Fields}
    (hk : Message.kindOf m = .request) : Hushed c id (answerRequest call id m) := by
  obtain ⟨method, hget, hmethod⟩ := mandatory_method (.inl hk)
  unfold answerRequest
  rw [hmethod]
  refine within_check_bind fun method' he => (hushed_fireMethod hc hs _ _).bind_any fun handled => ?_
  obtain rfl := Except.ok.inj he
  have hreply : Message.IsReply m (if handled = 0 then
      Message.errorResponse (m.getD "id" .null) (.int Message.Code.methodNotFound)
        ("Unhandled method " ++ method.display : Text) .null
      else Message.response (m.getD "id" .null) .null) := by
    split
    · exact .unhandled hget
    · exact .done
  exact (silent_reply hreply _).bind fun _ => within_pure ()

/-- What was read is given to the request that it answers. -/
lemma silent_given (hs : Hushes c call) {answered : Json} {m : Fields} {w : World} (hw : w.Ready c id) :
    Ends (do let _ ← resolve call id answered (.object m)) w fun _ v => Silent w v := by
  refine Ends.bind ((silent_resolve hs hw).mono fun result v hv => ?_)
  cases result with
  | ok _ => exact next_ok (ends_pure hv)
  | error f => exact hv

lemma silent_dispatchResponse (hc : Abides c call) (hs : Hushes c call) {m : Fields}
    (hk : Message.kindOf m ≠ .error) {w : World} (hw : w.Ready c id) :
    Ends (dispatchResponse call id m) w fun _ v => Silent w v := by
  unfold dispatchResponse
  cases hkind : Message.kindOf m with
  | response =>
    refine (isRemark_logVerbosely _ _).bind fun u hu => ?_
    exact (silent_given hs (hu.becomes.ready hw hw.sound)).mono fun _ _ hv =>
      Course.trans hu.silent hv
  | notification =>
    have hnotified : Hushed c id (do
        let method ← Act.check ((Json.object m).mandatory "method")
        let _ ← fireMethod call id method (m.getD "params" .null)) :=
      within_check_bind fun _ _ => (hushed_fireMethod hc hs _ _).bind_any fun _ => within_pure _
    exact ends_of_within hnotified hw
  | request => exact ends_of_within (hushed_answerRequest hc hs hkind) hw
  | error => exact (hk hkind).elim

lemma silent_dispatchError (hs : Hushes c call) {m : Fields} {w : World} (hw : w.Ready c id) :
    Ends (dispatchError call id m) w fun _ v => Silent w v := by
  refine (isRemark_logVerbosely _ _).bind fun u hu => ?_
  have hready := hu.becomes.ready hw hw.sound
  dsimp only
  split
  next =>
    refine ends_getSession_bind ?_
    exact (ends_of_within (isRemark_log _ _ _).silent trivial).mono fun _ _ hv =>
      Course.trans hu.silent hv
  next =>
    exact (silent_given hs hready).mono fun _ _ hv => Course.trans hu.silent hv

/-- A message is taken from its queue and dispatched, and then the next ones. -/
lemma silent_round {m : Fields} {f : Session → Session} {dispatched : Act Unit} {others : Act Nat}
    {w : World} (hw : id < w.sessions.length)
    (hd : ∀ u, Becomes id (f (w.session id))
      (.noted id (.dispatched m (f (w.session id))) :: w.story id) w u →
      Ends dispatched u fun _ v => v.Ready c id ∧ Silent u v)
    (ho : Hushed c id others) :
    Ends (do
      turn id m f
      dispatched
      others) w fun _ v => Silent w v := by
  refine ends_turn_bind hw fun u hu => Ends.bind ((hd u hu).mono ?_)
  rintro result v ⟨hready, hsilent⟩
  have hsilent : Silent w v := Course.trans (hu.silent (.single rfl)) hsilent
  cases result with
  | error f => exact hsilent
  | ok _ => exact next_ok ((ends_of_within ho hready).mono fun _ _ hx => Course.trans hsilent hx)

lemma hushed_dispatchResponses (hc : Abides c call) (hs : Hushes c call) :
    Hushed c id (dispatchResponses call id) := by
  have hall : ∀ fuel done, Hushed c id (dispatchResponsesUpTo call id fuel done) := by
    intro fuel
    induction fuel with
    | zero => exact fun done => within_pure done
    | succ fuel ih =>
      refine fun done => within_of_ends fun w hw => ends_getSession_bind ?_
      split
      next => exact ends_pure (Course.refl w)
      next m rest hq =>
        have hmem : m ∈ (w.session id).responses := hq ▸ List.mem_cons_self
        have hread := hw.sound.inbox m (List.mem_append_left _ hmem)
        have hkind := hw.sound.kinds m hmem
        refine silent_round hw.lt (fun u hu => ?_) (ih _)
        have hready : u.Ready c id := by
          have hstep : Step c id (w.position id [.phase]) _ := .dispatched rfl (.inl (.inl rfl)) hq
          exact hu.ready hw (hstep.sound hw.sound)
        have hread : .dealt id (.read m) ∈ u.story id := hu.story ▸ List.mem_cons_of_mem _ hread
        exact ((ends_dispatchResponse hc hkind hready hread).and
          (silent_dispatchResponse hc hs hkind hready)).mono fun _ _ h =>
            ⟨h.1.1.ready hready, h.2⟩
  exact hushed_getSession_bind fun w _ => hall _ 0

lemma hushed_dispatchErrors (hc : Abides c call) (hs : Hushes c call) :
    Hushed c id (dispatchErrors call id) := by
  have hall : ∀ fuel done, Hushed c id (dispatchErrorsUpTo call id fuel done) := by
    intro fuel
    induction fuel with
    | zero => exact fun done => within_pure done
    | succ fuel ih =>
      refine fun done => within_of_ends fun w hw => ends_getSession_bind ?_
      split
      next => exact ends_pure (Course.refl w)
      next m rest hq =>
        have hmem : m ∈ (w.session id).errors := hq ▸ List.mem_cons_self
        have hread := hw.sound.inbox m (List.mem_append_right _ hmem)
        refine silent_round hw.lt (fun u hu => ?_) (ih _)
        have hready : u.Ready c id := by
          have hstep : Step c id (w.position id [.phase]) _ := .dispatchedError rfl (.inl (.inl rfl)) hq
          exact hu.ready hw (hstep.sound hw.sound)
        have hread : .dealt id (.read m) ∈ u.story id := hu.story ▸ List.mem_cons_of_mem _ hread
        exact ((ends_dispatchError hc (hw.sound.errorKinds m hmem) hready hread).and (silent_dispatchError hs hready)).mono
          fun _ _ h => ⟨h.1.1.ready hready, h.2⟩
  exact hushed_getSession_bind fun w _ => hall _ 0

/-- The phases of a tick after the first three. -/
lemma hushed_dispatch (hc : Abides c call) (hs : Hushes c call) : Hushed c id (do
    let _ ← dispatchResponses call id
    let _ ← dispatchErrors call id
    let _ ← dispatchTimeouts call id) := by
  refine (hushed_dispatchResponses hc hs).bind_ready (fun w hw => ?_) fun _ => ?_
  · exact (ends_dispatchResponses (t := .phase) hc rfl (Level.room_host c _) hw).1.ready hw
  refine (hushed_dispatchErrors hc hs).bind_ready (fun w hw => ?_) fun _ => ?_
  · exact (ends_dispatchErrors (t := .phase) hc rfl (Level.room_host c _) hw).1.ready hw
  exact (hushed_expire hc hs .null).bind_any fun _ => within_pure _

/-- A tick reads and writes, and is silent afterwards. -/
lemma ends_drain_hushed (hc : Abides c call) (hs : Hushes c call) {w : World} (hw : w.Ready c id)
    (hst : (w.session id).status ≠ .terminated) : Ends (drain call id) w fun _ v =>
      ∃ u, Exchanged id w u ∧ Moves c .host id [.ticking] [.ticking] w u ∧
        Moves c .host id [.ticking] [.ticking] u v ∧ Silent u v := by
  refine ends_exchange (Level.room_host c _) hw hst
    (fun f v hv _ he _ => ⟨v, he, hv, Course.refl v, Course.refl v⟩) fun u hu => ?_
  have hready := hu.moves.ready hw
  refine ((ends_dispatch hc (Level.room_host c _) hready).and (ends_of_within (hushed_dispatch hc hs) hready)).mono ?_
  rintro result v ⟨⟨hv, -⟩, hsilent⟩
  exact ⟨u, hu.exchanged, hu.moves, hv, hsilent⟩

lemma ends_tick_hushed (hc : Abides c call) (hs : Hushes c call) {w : World} (hw : w.Ready c id) :
    Ends (tick call id) w fun _ v => (v.session id).status.isLeaving = false →
      ∃ u K, Exchanged id w u ∧ Steps c id (w.position id []) (u.position id K) ∧
        Steps c id (u.position id K) (v.position id K) ∧ Silent u v := by
  have hnothing : ∃ u K, Exchanged id w u ∧ Steps c id (w.position id []) (u.position id K) ∧
      Steps c id (u.position id K) (w.position id K) ∧ Silent u w :=
    ⟨w, [], Course.refl w, .refl, .refl, Course.refl w⟩
  refine ends_getSession_bind ?_
  split
  next => exact ends_throw fun _ => hnothing
  next =>
    split
    next => exact ends_pure fun _ => hnothing
    next hruns =>
      obtain ⟨hst, hl⟩ := runs_of_not hruns
      refine Ends.bind ((ends_drain_hushed hc hs hw hst).mono ?_)
      rintro result v ⟨u, he, hu, hv, hsilent⟩
      have hsaid : ∃ u K, Exchanged id w u ∧ Steps c id (w.position id []) (u.position id K) ∧
          Steps c id (u.position id K) (v.position id K) ∧ Silent u v :=
        ⟨u, [.ticking], he, .head (.ticked hst hl) (hu.steps [] rfl), hv.steps [] rfl, hsilent⟩
      cases result with
      | error f => exact fun _ => hsaid
      | ok _ =>
        refine next_ok (ends_getSession_bind ?_)
        split
        next reason _ =>
          have hbegin : Moves c .host id [] [.ticking] w w :=
            .of_becomes (Alike.refl w).becomes fun K _ => .single (.ticked hst hl)
          refine (moves_teardown hc _ _ (((hbegin.trans hu).trans hv).ready hw)).mono ?_
          rintro result x ⟨-, -, hx⟩ hlive
          rw [hx] at hlive
          cases hlive
        next => exact ends_pure fun _ => hsaid

end Session

/-! What a host does -/

lemma silent_onEvent (name : Json) (callback : Option Callback) : IsSilent (onEvent id name callback) :=
  within_check_bind fun _ _ => silent_updateSession _

lemma silent_onMethod (name : Json) (callback : Option Callback) :
    IsSilent (onMethod id name callback) :=
  within_check_bind fun _ _ => silent_updateSession _

lemma silent_logMessage (message level : Json) : IsSilent (logMessage id message level) := by
  unfold logMessage
  split
  next => exact silent_getSession_bind fun s => (isRemark_logAt _ _ _).silent
  next => exact within_throw _

lemma silent_nextId : IsSilent (nextId id) :=
  (silent_updateSession _).bind fun _ => silent_getSession_bind fun _ => within_pure _

/-- What does not speak of itself leaves it to callbacks to be silent. -/
lemma hushed_performSession (hc : Abides c call) (hs : Hushes c call) {a : SessionAction}
    (ho : a.isOwn = false) (hq : a.speaks = false) : Hushed c id (performSession call id a) := by
  cases a
  case start => exact Session.silent_start.answers.hushed
  case handshake => exact (Session.silent_handshake _ _ _ _).answers.hushed
  case pushNotification => exact (Session.silent_pushNotification _ _).answers.hushed
  case pushRequest => exact (Session.silent_pushRequest _ _ _ _).answers.hushed
  case openDocument => exact (Session.silent_openDocument _).answers.hushed
  case closeDocument => exact (Session.silent_closeDocument _).answers.hushed
  case changeDocument => exact (Session.silent_changeDocument _).answers.hushed
  case complete => exact (Session.silent_complete _ _).answers.hushed
  case goTo => exact (Session.silent_goTo _ _ _).answers.hushed
  case capabilities | serverInfo | triggers | config | phase | pending => exact silent_ask.hushed
  case isDocumentOpen | contains | hasMethod => exact within_check_bind fun _ _ => silent_ask.hushed
  case supports =>
    exact hushed_getSession_bind fun _ _ => within_check_bind fun _ _ => within_pure _
  case itemKind =>
    rw [performSession]
    split
    next => exact within_pure _
    next => exact within_check_bind fun _ _ => within_pure _
  case onEvent => exact (silent_onEvent _ _).answers.hushed
  case onMethod => exact (silent_onMethod _ _).answers.hushed
  case log => exact (silent_logMessage _ _).answers.hushed
  case nextId => exact silent_nextId.answers.hushed
  case expire => exact (Session.hushed_expire hc hs _).bind_any fun _ => within_pure _
  case fireEvent => exact (Session.hushed_fireEvent hc hs _ _).bind_any fun _ => within_pure _
  case fireMethod => exact (Session.hushed_fireMethod hc hs _ _).bind_any fun _ => within_pure _
  case breakTick => exact (silent_updateSession _).answers.hushed
  case register | resolve | failAll => cases ho
  all_goals cases hq

lemma hushed_performNoted (hc : Abides c call) (hs : Hushes c call) {a : SessionAction}
    (ho : a.isOwn = false) (hq : a.speaks = false) : Hushed c id (performNoted call id a) := by
  refine hushed_getSession_bind fun w _ => (hushed_performSession hc hs ho hq).attempt.bind_any fun _ => ?_
  exact silent_getSession_bind fun s => (silent_note _).bind fun _ => within_check _

lemma silent_updateLink (f : Link → Link) : IsSilent (updateLink id f) := silent_updateSession _

lemma silent_performLink (action : LinkAction) : IsSilent (performLink id action) := by
  have hwrite : ∀ messages, IsSilent (writeMessages id messages) := by
    intro messages
    induction messages with
    | nil => exact within_pure ()
    | cons m rest ih => exact within_check_bind fun bytes _ => (silent_updateLink _).bind fun _ => ih
  cases action with
  | write messages => exact hwrite messages
  | writeBytes data => exact within_check_bind fun _ _ => silent_updateLink _
  | complain | setAlive | setBroken | setCode => exact silent_updateLink _

lemma silent_perform (hc : Abides c call) (hs : Hushes c call) (hq : c.LeavesSpeaking) {a : Action}
    (h : a.obeys c.callback) : Within Silent (Lawful c) (perform call a) := by
  have hset : ∀ {f : World → World}, (∀ w, Alike w (f w)) →
      Within Silent (Lawful c) (answerNothing (modify f)) := fun hf =>
    (silent_modify hf).answers.mono fun _ _ => trivial
  cases a
  case advance => exact within_check_bind fun x _ => hset fun w => ⟨rfl, rfl, fun _ => rfl⟩
  case failLaunches => exact hset fun w => ⟨rfl, rfl, fun _ => rfl⟩
  case setFocus => exact hset fun w => ⟨rfl, rfl, fun _ => rfl⟩
  case setProject => exact hset fun w => ⟨rfl, rfl, fun _ => rfl⟩
  case link action =>
    exact within_linked_bind (fun _ _ _ _ => trivial) fun id => (silent_performLink action).answers
  case session action =>
    rw [Action.obeys, Bool.and_eq_true] at h
    have hquiet : action.speaks = false := by
      by_contra hspeaks
      rw [Bool.not_eq_false] at hspeaks
      cases h.1.symm.trans (hq action hspeaks)
    exact within_runningNamed_bind (fun _ hw entry he => ⟨hw, hw.running entry he⟩) fun id =>
      hushed_performNoted hc hs (c.callbackIsOutside action h.1) hquiet
  case registry | feature | scheduler | app => cases h

/-! Callbacks -/

lemma silent_performInner (hc : Abides c call) (hs : Hushes c call) (hq : c.LeavesSpeaking)
    {actions : List Action} (h : actionsObey c.callback actions) :
    Within Silent (Lawful c) (performInner call actions) := by
  induction actions with
  | nil => exact within_pure ()
  | cons a rest ih =>
    rw [actionsObey, Bool.and_eq_true] at h
    have hgoes : Within (Goes c .callback) (Lawful c) (perform call a) :=
      goes_perform hc (c.admits_of_obeys h.1)
    have hrest : ∀ result, Within Silent (Lawful c) (do
        record (.inner result)
        performInner call rest) := fun result => by
      refine Within.bind_of (fun v hv => ?_) fun _ => ih h.2
      have hinner : Alike v (v.record (.inner result)) := alike_record fun _ => rfl
      exact ⟨hinner.silent, (hinner.goes (ℓ := .callback)).lawful hv⟩
    refine Within.bind_of (fun w hw => ?_) hrest
    exact ⟨(silent_perform hc hs hq h.1).attempt.after w hw, (hgoes.attempt.after w hw).lawful hw⟩

lemma silent_performCallback (hc : Abides c call) (hs : Hushes c call) (hq : c.LeavesSpeaking)
    {callback : Callback} {mark : Json → Event} (hm : ∀ label id, isSilent id (mark label))
    (h : callback.obeys c.callback) {w : World} (hw : (w.record (mark callback.label)).Lawful c) :
    Ends (performCallback call mark callback) w fun _ v => Silent w v := by
  obtain ⟨label, actions, fails⟩ := callback
  have hmarked : Silent w (w.record (mark label)) := (silent_record (hm label)).after w trivial
  have hinner := (ends_performInner_ok actions _).and
    (ends_of_within (silent_performInner hc hs hq h) hw)
  refine ends_record_bind (Ends.bind (hinner.mono ?_))
  rintro result v ⟨rfl, hv⟩
  refine next_ok ?_
  cases fails with
  | some message => exact ends_throw (Course.trans hmarked hv)
  | none => exact ends_pure (Course.trans hmarked hv)

lemma silent_performListener (hc : Abides c call) (hs : Hushes c call) (hq : c.LeavesSpeaking)
    {l : Listener} {mark : Json → Event}
    (hm : ∀ label (w : World), w.Ready c id → (w.record (mark label)).Lawful c) (hsilent : ∀ label id, isSilent id (mark label)) (params : Json) :
    Within Silent (Heeds c id l) (performListener call id mark params l) := by
  cases l with
  | host callback =>
    cases callback with
    | some callback =>
      exact within_of_ends fun w hw =>
        silent_performCallback hc hs hq hsilent hw.obeys (hm callback.label w hw.ready)
    | none => exact within_throw _
  | logMessage => exact (Features.silent_onLogMessage params).mono fun _ _ => trivial
  | ready => exact Features.silent_onReady.mono fun _ _ => trivial

lemma hushes_performCall (hc : Abides c call) (hs : Hushes c call) (hq : c.LeavesSpeaking) :
    Hushes c (performCall call) where
  answer handler id ticket m hp := by
    refine within_of_ends fun w hw => ends_getSession_bind ?_
    cases handler with
    | host callback =>
      have hr : Becomes id (w.session id) (.answered id ticket callback.label (w.session id).title
          (.object m) :: w.story id) w _ := becomes_record fun _ => rfl
      have hm : Moves c .callback id [.answering ticket (.host callback) m] [] w _ :=
        .of_becomes hr fun K _ => .single .answered
      exact silent_performCallback hc hs hq (fun _ _ => rfl) hp (hm.lawful hw.lawful)
    | opening callback => exact ends_of_within (Session.hushed_openingAnswered hc hs hp ticket m) hw
    | completion => exact ends_of_within (Features.silent_onCompletion _) trivial
    | goTo method => exact ends_of_within (Features.silent_onGoTo method _) trivial
  event l id args := within_getSession_bind fun w hw =>
    (silent_performListener hc hs hq (fun _ _ hv =>
      ((alike_record fun _ => rfl).goes (ℓ := .callback)).lawful hv.lawful) (fun _ _ => rfl) .null).mono
        fun _ hv => hv ▸ hw
  message l id params := within_getSession_bind fun w hw =>
    (silent_performListener hc hs hq (fun _ _ hv => ((becomes_record fun _ => rfl).ready hv
      (hv.sound.mono (List.suffix_cons _ _))).lawful) (fun _ _ => rfl) params).mono fun _ hv => hv ▸ hw

/-- If callbacks leave it to the host to speak to servers, nothing is said while they are called. -/
lemma hushes_callWithin (hq : c.LeavesSpeaking) (depth : Nat) : Hushes c (callWithin depth) := by
  induction depth with
  | succ depth ih => exact hushes_performCall (abides_callWithin depth) ih hq
  | zero =>
    have hnote : ∀ e : Call, IsSilent (callWithin 0 e) := fun e =>
      (silent_note _).bind fun _ => within_throw _
    exact ⟨fun _ _ _ _ _ => (hnote _).hushed, fun _ _ _ => (hnote _).mono fun _ _ => trivial,
      fun _ _ _ => (hnote _).mono fun _ _ => trivial⟩

end LanguageClient
