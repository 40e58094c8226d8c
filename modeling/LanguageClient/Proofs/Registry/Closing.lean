import LanguageClient.Proofs.Registry.Tending

/-!
Closing. Whoever is called back, a session that is shut down or torn down closes its link, and all other
links are tended meanwhile.
-/

namespace LanguageClient

open Act World

/-- Callers tend the links of a tidy world. -/
def Minds (call : Caller) : Prop := ∀ c, Tended (call c)

namespace Act

variable {α β : Type}

/-- An action that is always done. -/
def Succeeds (a : Act α) : Prop := ∀ w, Ends a w fun result _ => ∃ x, result = .ok x

lemma succeeds_pure (x : α) : Succeeds (pure x) := fun _ => ends_pure ⟨x, rfl⟩

lemma Succeeds.bind {a : Act α} {f : α → Act β} (ha : Succeeds a) (hf : ∀ x, Succeeds (f x)) :
    Succeeds (a >>= f) := fun w => by
  refine Ends.bind ((ha w).mono ?_)
  rintro result v ⟨x, rfl⟩
  exact hf x v

lemma succeeds_modify (f : World → World) : Succeeds (modify f) := fun _ => ⟨(), rfl⟩

lemma succeeds_get_bind {f : World → Act β} (hf : ∀ w, Succeeds (f w)) : Succeeds (get >>= f) :=
  fun w => hf w w

lemma succeeds_getSession_bind {id : SessionId} {f : Session → Act β} (hf : ∀ s, Succeeds (f s)) :
    Succeeds (getSession id >>= f) :=
  fun w => hf (w.session id) w

lemma succeeds_attempt (a : Act α) : Succeeds a.attempt := fun w => ⟨(a.run w).1, rfl⟩

lemma succeeds_log (source : Source) (level : Int) (text : Text) : Succeeds (log source level text) :=
  succeeds_modify _

lemma Tended.ends {a : Act α} (h : Tended a) {w : World} (hw : w.IsTidy) :
    Ends a w fun _ v => w.Tends v :=
  h.after w hw

/-- An action that is always done and tends all links. -/
lemma Tended.ends_ok {a : Act α} (h : Tended a) (hs : Succeeds a) {w : World} (hw : w.IsTidy) :
    Ends a w fun result v => (∃ x, result = .ok x) ∧ w.Tends v :=
  (hs w).and (h.ends hw)

end Act

/-! Calling back -/

namespace Session

variable {call : Caller} {id : SessionId}

lemma tended_resolve (hc : Minds call) (answered response : Json) :
    Tended (resolve call id answered response) := by
  refine tended_getSession_bind fun s => ?_
  split
  next => exact (tended_log _ _ _).bind fun _ => within_pure _
  next p _ =>
    refine (tended_deal _ fun s => .of_eq (by rfl)).bind fun _ => ?_
    split
    next => exact (within_pure ()).bind fun _ => within_pure _
    next handler _ =>
      refine Within.bind (hc _).attempt fun result => ?_
      cases result with
      | ok _ => exact (within_pure ()).bind fun _ => within_pure _
      | error f => exact (tended_logFault _ _ _).bind fun _ => within_pure _

lemma succeeds_resolve (answered response : Json) : Succeeds (resolve call id answered response) := by
  refine succeeds_getSession_bind fun s => ?_
  split
  next => exact (succeeds_log _ _ _).bind fun _ => succeeds_pure _
  next p _ =>
    refine Succeeds.bind (succeeds_modify _) fun _ => ?_
    split
    next => exact (succeeds_pure ()).bind fun _ => succeeds_pure _
    next handler _ =>
      refine (succeeds_attempt _).bind fun result => ?_
      cases result with
      | ok _ => exact (succeeds_pure ()).bind fun _ => succeeds_pure _
      | error f => exact Succeeds.bind (succeeds_modify _) fun _ => succeeds_pure _

lemma tended_failEach (hc : Minds call) (code message : Json) (slots : List Json) :
    Tended (failEach call id code message slots) := by
  induction slots with
  | nil => exact within_pure ()
  | cons slot rest ih => exact (tended_resolve hc _ _).bind fun _ => ih

lemma succeeds_failEach (code message : Json) (slots : List Json) :
    Succeeds (failEach call id code message slots) := by
  induction slots with
  | nil => exact succeeds_pure ()
  | cons slot rest ih => exact (succeeds_resolve _ _).bind fun _ => ih

lemma tended_failAll (hc : Minds call) (code message : Json) : Tended (failAll call id code message) := by
  refine tended_getSession_bind fun s => ?_
  have hrest : Tended (do
      failEach call id code message (s.correlator.pending.map (·.slot))
      return (s.correlator.pending.map (·.slot)).length) :=
    (tended_failEach hc _ _ _).bind fun _ => within_pure _
  dsimp only
  split
  next => exact (tended_log _ _ _).bind fun _ => hrest
  next => exact hrest

lemma succeeds_failAll (code message : Json) : Succeeds (failAll call id code message) := by
  refine succeeds_getSession_bind fun s => ?_
  have hrest : Succeeds (do
      failEach call id code message (s.correlator.pending.map (·.slot))
      return (s.correlator.pending.map (·.slot)).length) :=
    (succeeds_failEach _ _ _).bind fun _ => succeeds_pure _
  dsimp only
  split
  next => exact (succeeds_log _ _ _).bind fun _ => hrest
  next => exact hrest

lemma tended_expireEach (hc : Minds call) (now : Json) (ps : List (Pending Handler)) :
    Tended (expireEach call id now ps) := by
  induction ps with
  | nil => exact within_pure ()
  | cons p rest ih =>
    refine tended_getSession_bind fun s => (tended_log _ _ _).bind fun _ => ?_
    exact within_check_bind fun x _ => (tended_resolve hc _ _).bind fun _ => ih

lemma tended_expire (hc : Minds call) (now : Json) : Tended (expire call id now) := by
  refine tended_get_bind fun w _ => within_check_bind fun ps _ => ?_
  exact (tended_expireEach hc _ ps).bind fun _ => within_pure _

lemma tended_callEach (hc : Minds call) (makeCall : Listener → Call) {onFault : Fault → Act Unit}
    (hf : ∀ f, Tended (onFault f)) (ls : List Listener) : Tended (callEach call makeCall onFault ls) := by
  induction ls with
  | nil => exact within_pure ()
  | cons l rest ih =>
    refine Within.bind (hc _).attempt fun result => ?_
    cases result with
    | ok _ => exact ih
    | error f => exact (hf f).bind fun _ => ih

lemma succeeds_callEach (makeCall : Listener → Call) {onFault : Fault → Act Unit}
    (hf : ∀ f, Succeeds (onFault f)) (ls : List Listener) :
    Succeeds (callEach call makeCall onFault ls) := by
  induction ls with
  | nil => exact succeeds_pure ()
  | cons l rest ih =>
    refine (succeeds_attempt _).bind fun result => ?_
    cases result with
    | ok _ => exact ih
    | error f => exact (hf f).bind fun _ => ih

lemma tended_fireEvent (hc : Minds call) (name : Json) (args : List Json) :
    Tended (fireEvent call id name args) := by
  refine within_check_bind fun key _ => (tended_note _).bind fun _ => tended_getSession_bind fun s => ?_
  exact (tended_callEach hc _ (fun f => tended_logFault _ _ f) _).bind fun _ => within_pure _

lemma succeeds_fireEvent (text : Text) (args : List Json) : Succeeds (fireEvent call id (.text text) args) := by
  refine Succeeds.bind (fun w => ⟨.text text, rfl⟩) fun key => ?_
  refine Succeeds.bind (succeeds_modify _) fun _ => succeeds_getSession_bind fun s => ?_
  exact (succeeds_callEach _ (fun f => succeeds_modify _) _).bind fun _ => succeeds_pure _

lemma tended_fireMethod (hc : Minds call) (name params : Json) : Tended (fireMethod call id name params) := by
  refine within_check_bind fun key _ => tended_getSession_bind fun s => ?_
  exact (tended_callEach hc _ (fun f => tended_logFault _ _ f) _).bind fun _ => within_pure _

/-! Receiving -/

lemma tended_logComplaints (s : Session) (lines : List Json) : Tended (logComplaints s lines) := by
  induction lines with
  | nil => exact within_pure ()
  | cons line rest ih => exact (tended_log _ _ _).bind fun _ => ih

lemma lingers_enqueue (s : Session) (m : Fields) : s.Lingers (s.enqueue m) := by
  unfold enqueue
  split <;> exact .of_eq rfl

lemma tended_takeMessages (fuel taken : Nat) : Tended (takeMessages id fuel taken) := by
  induction fuel generalizing taken with
  | zero => exact within_pure _
  | succ fuel ih =>
    refine tended_getSession_bind fun s => (tended_updateSession fun s => .of_eq (by rfl)).bind fun _ => ?_
    split
    next => exact within_pure _
    next => exact (tended_log _ _ _).bind fun _ => ih _
    next => exact (tended_note _).bind fun _ => within_throw _
    next m _ =>
      refine (tended_logTraffic _ _ _).bind fun _ => ?_
      exact (tended_deal _ fun s => lingers_enqueue s m).bind fun _ => ih _

lemma tended_readMessages : Tended (readMessages id) := by
  refine tended_getSession_bind fun s => ?_
  split
  next => exact within_pure _
  next link _ =>
    have hread : Tended (updateSession id fun s : Session =>
        { s with link := s.link.map fun l => { l with complaints := [], incoming := none } }) :=
      tended_updateSession fun _ => ⟨rfl, Option.map_map .., rfl, fun h => h, fun h => h, Nat.le_refl _⟩
    refine hread.bind fun _ => (tended_logComplaints _ _).bind fun _ => ?_
    split
    next => exact within_pure _
    next =>
      refine (tended_note _).bind fun _ => (tended_updateSession fun s => .of_eq (by rfl)).bind fun _ => ?_
      exact tended_getSession_bind fun s => tended_takeMessages _ _

lemma tended_answerRequest (hc : Minds call) (m : Fields) : Tended (answerRequest call id m) := by
  refine within_check_bind fun method _ => (tended_fireMethod hc _ _).bind fun handled => ?_
  exact (tended_writeOrLog _ _).bind fun _ => within_pure ()

lemma tended_logVerbosely (what : Text) (m : Fields) : Tended (logVerbosely id what m) := by
  refine tended_get_bind fun w _ => ?_
  dsimp only
  split
  next => exact tended_log _ _ _
  next => exact within_pure ()

lemma tended_dispatchResponse (hc : Minds call) (m : Fields) : Tended (dispatchResponse call id m) := by
  unfold dispatchResponse
  split
  next =>
    refine (tended_logVerbosely _ _).bind fun _ => ?_
    exact (tended_resolve hc _ _).bind fun _ => within_pure ()
  next =>
    exact within_check_bind fun method _ => (tended_fireMethod hc _ _).bind fun _ => within_pure ()
  next => exact tended_answerRequest hc m

lemma tended_turn (m : Fields) {f : Session → Session} (hf : ∀ s : Session, s.Lingers (f s)) :
    Tended (turn id m f) :=
  (tended_updateSession hf).bind fun _ => tended_getSession_bind fun _ => tended_note _

lemma tended_dispatchResponsesUpTo (hc : Minds call) (fuel done : Nat) :
    Tended (dispatchResponsesUpTo call id fuel done) := by
  induction fuel generalizing done with
  | zero => exact within_pure _
  | succ fuel ih =>
    refine tended_getSession_bind fun s => ?_
    split
    next => exact within_pure _
    next =>
      refine (tended_turn _ fun s => .of_eq (by rfl)).bind fun _ => ?_
      exact (tended_dispatchResponse hc _).bind fun _ => ih _

lemma tended_dispatchError (hc : Minds call) (m : Fields) : Tended (dispatchError call id m) := by
  refine (tended_logVerbosely _ _).bind fun _ => ?_
  dsimp only
  split
  next => exact tended_getSession_bind fun s => tended_log _ _ _
  next => exact (tended_resolve hc _ _).bind fun _ => within_pure ()

lemma tended_dispatchErrorsUpTo (hc : Minds call) (fuel done : Nat) :
    Tended (dispatchErrorsUpTo call id fuel done) := by
  induction fuel generalizing done with
  | zero => exact within_pure _
  | succ fuel ih =>
    refine tended_getSession_bind fun s => ?_
    split
    next => exact within_pure _
    next =>
      refine (tended_turn _ fun s => .of_eq (by rfl)).bind fun _ => ?_
      exact (tended_dispatchError hc _).bind fun _ => ih _

lemma tended_dispatchResponses (hc : Minds call) : Tended (dispatchResponses call id) :=
  tended_getSession_bind fun _ => tended_dispatchResponsesUpTo hc _ _

lemma tended_dispatchErrors (hc : Minds call) : Tended (dispatchErrors call id) :=
  tended_getSession_bind fun _ => tended_dispatchErrorsUpTo hc _ _

lemma tended_drain (hc : Minds call) : Tended (drain call id) := by
  refine tended_readMessages.bind fun _ => tended_sendNotifications.bind fun _ => ?_
  refine tended_sendRequests.bind fun _ => (tended_dispatchResponses hc).bind fun _ => ?_
  exact (tended_dispatchErrors hc).bind fun _ => (tended_expire hc _).bind fun _ => within_pure ()

end Session

/-! The end of a session -/

namespace World

variable {u v w : World} {id : SessionId}

/-- A tidy world with that session in it. -/
structure Houses (id : SessionId) (w : World) : Prop where
  tidy : w.IsTidy
  lt : id < w.sessions.length

instance : Stable Tends (Houses id) :=
  ⟨fun h hv => ⟨h.tidy hv.tidy, Nat.lt_of_lt_of_le hv.lt h.length⟩⟩

/-- Where a session turns to its end. -/
lemma houses_setSession {s : Session} (hw : w.Houses id) (hs : (w.session id).Endures s) :
    (w.setSession id s).Houses id where
  tidy := by
    refine hw.tidy.of_eq (List.length_set ..) (fun other _ => ?_) (List.Sublist.refl _) rfl
    rcases session_setSession_or w id other s with h | ⟨rfl, h⟩
    · rw [h]
      exact .refl _
    · rw [h]
      exact hs
  lt := by
    rw [setSession, List.length_set]
    exact hw.lt

/-- A session that turns to its end is taken care of if its link is closed in the end. -/
lemma Tends.of_leaving {s : Session} (hw : id < w.sessions.length)
    (hs : (w.session id).Endures s) (hlink : s.link = (w.session id).link)
    (hleaving : s.status.isLeaving) (hsessions : u.sessions = w.sessions.set id s)
    (hr : u.running = w.running) (hservers : u.servers = w.servers)
    (he : Adds (!·.movesLink) w.events u.events) (h : u.Tends v) (hstrands : ¬ v.Strands id) :
    w.Tends v := by
  have hsession : ∀ other, u.session other = (w.setSession id s).session other := fun other => by
    rw [session, session, setSession, hsessions]
  have hid : u.session id = s := (hsession id).trans (session_setSession s hw)
  refine .of_care (hid ▸ hs) (hid ▸ hlink)
    (fun other ho => (hsession other).trans (session_setSession_of_ne s ho))
    (by rw [hsessions, List.length_set]) hr hservers he h (fun hforgets => ?_) hstrands
  have hlive := (h.forgets id hforgets).live
  rw [hid, hleaving] at hlive
  cases hlive

/-- What is not linked now will not be stranded. -/
lemma Tends.not_strands (h : v.Tends w) (hv : (v.session id).isLinked = false) : ¬ w.Strands id :=
  fun hstrands => by
    have hlinked := (h.strands id hstrands).1.linked
    rw [hv] at hlinked
    cases hlinked

/-- To close a link is to tend it. -/
lemma tends_close (hw : id < w.sessions.length) (name timeout : Json) :
    let s := { w.session id with link := (w.session id).link.map fun l => { l with closed := true } }
    let v := (w.record (.closed id name timeout)).setSession id s
    w.Tends v ∧ (v.session id).isLinked = false := by
  intro s v
  have hid : v.session id = s := session_setSession s hw
  have hothers : ∀ other, other ≠ id → v.session other = w.session other :=
    fun other ho => session_setSession_of_ne s ho
  have hunlinked : (v.session id).isLinked = false := by
    rw [hid, Session.isLinked, Option.any_map]
    cases (w.session id).link <;> rfl
  have hends : ∀ other, (w.session other).Endures (v.session other) := fun other => by
    by_cases ho : other = id
    · subst ho
      rw [hid]
      refine ⟨rfl, fun hl => Option.isSome_map.trans hl, fun hl => ?_, fun hl => hl, fun hl => hl,
        Nat.le_refl _⟩
      obtain ⟨l, hl, -⟩ := (Option.any_eq_true _ _).mp hl
      simp [Session.isShut, s, hl]
    · rw [hothers other ho]
      exact .refl _
  have hlinked : ∀ other, (v.session other).isLinked → v.session other = w.session other :=
    fun other h => hothers other fun ho => by
      rw [ho, hunlinked] at h
      cases h
  have hlength : v.sessions.length = w.sessions.length := List.length_set ..
  refine ⟨?_, hunlinked⟩
  exact {
    length := Nat.le_of_eq hlength.symm
    endures := fun other _ => hends other
    forgets := fun other h => by
      have hs := hlinked other h.linked
      exact ⟨h.few.of_le fun id => (hends id).lastId, hs ▸ h.linked, hs ▸ h.live, h.absent⟩
    strands := fun other h => by
      have hs := hlinked other h.linked
      exact ⟨⟨hs ▸ h.linked, hs ▸ h.leaving, hs ▸ h.few⟩, fun ht => hs ▸ ht⟩
    running := fun entry h => .inl h
    tidy := fun h => h.of_eq hlength (fun other _ => hends other) (List.Sublist.refl _) rfl
    accounts := fun h link hl => by
      obtain ⟨hl, ho⟩ := List.mem_filter.mp hl
      have hsame := hothers link.1 (by simpa using ho)
      rw [hsame]
      exact h link hl
    adds := ⟨[_], rfl, fun other name h => by cases List.mem_singleton.mp h⟩
    shut := fun other h => by
      by_cases ho : other = id
      · exact .inr ⟨name, timeout, ho ▸ List.mem_cons_self⟩
      · exact .inl (hothers other ho ▸ h) }

end World

namespace Session

variable {call : Caller} {id : SessionId}

lemma lingers_clearQueues (s : Session) : s.Lingers s.clearQueues := .of_eq rfl

/-- A session is torn down to the end: its link is closed. -/
lemma tends_teardown (hc : Minds call) (reason timeout : Json) {w : World} (hw : w.Houses id) :
    Ends (teardown call id reason timeout) w fun result v => result = .ok () ∧ w.Tends v ∧
      (if (w.session id).status = .terminated then v = w else ¬ v.Strands id) := by
  refine ends_getSession_bind ?_
  dsimp only
  split
  next => exact ends_pure ⟨rfl, .refl w, rfl⟩
  next hlive =>
    refine ends_update_bind (ends_record_bind ?_)
    have hs : (w.session id).Endures { w.session id with status := .terminated } :=
      ⟨rfl, fun h => h, fun h => h, fun _ => rfl, nofun, Nat.le_refl _⟩
    obtain ⟨u, hu⟩ : ∃ u : World, u = (w.setSession id { w.session id with status := .terminated }).record
        (.noted id .ended) := ⟨_, rfl⟩
    rw [← hu]
    refine Ends.mono (Q := fun result v => result = .ok () ∧ u.Tends v ∧ ¬ v.Strands id) ?_
      fun result v ⟨hr, hv, hstrands⟩ => ⟨hr, ?_, hstrands⟩
    · have hhouses : u.Houses id := hu ▸ Stable.step (saysMore_record rfl).tends (houses_setSession hw hs)
      refine Ends.bind (((tended_failAll hc _ _).ends_ok (succeeds_failAll _ _) hhouses.tidy).mono ?_)
      rintro result v ⟨⟨n, rfl⟩, huv⟩
      refine next_ok (ends_update_bind ?_)
      have hclear : v.Tends (v.setSession id { (v.session id).clearQueues with openDocuments := [] }) :=
        tends_setSession (.of_eq rfl)
      obtain ⟨x, hx⟩ : ∃ x, x = v.setSession id { (v.session id).clearQueues with openDocuments := [] } :=
        ⟨_, rfl⟩
      rw [← hx] at hclear ⊢
      have hux := huv.trans hclear
      have hhousesx : x.Houses id := Stable.step hux hhouses
      -- All that is left is to tell the listeners.
      have hrest : ∀ y : World, x.Tends y → (y.session id).isLinked = false → Ends (do
          log .client Level.info ((w.session id).tag ++ "Terminated; " ++ reason.display)
          let _ ← fireEvent call id "shutdown" []) y fun result v =>
            result = .ok () ∧ u.Tends v ∧ ¬ v.Strands id := by
        intro y hxy hunlinked
        have htended : Tended (do
            log .client Level.info ((w.session id).tag ++ "Terminated; " ++ reason.display)
            let _ ← fireEvent call id "shutdown" []) :=
          (tended_log _ _ _).bind fun _ => (tended_fireEvent hc _ _).bind fun _ => within_pure ()
        have hsucceeds : Succeeds (do
            log .client Level.info ((w.session id).tag ++ "Terminated; " ++ reason.display)
            let _ ← fireEvent call id "shutdown" []) :=
          (succeeds_log _ _ _).bind fun _ => (succeeds_fireEvent _ _).bind fun _ => succeeds_pure ()
        refine (htended.ends_ok hsucceeds (hxy.tidy hhousesx.tidy)).mono ?_
        rintro result z ⟨⟨_, rfl⟩, hyz⟩
        exact ⟨rfl, (hux.trans hxy).trans hyz, hyz.not_strands hunlinked⟩
      refine ends_getSession_bind ?_
      split
      next =>
        refine ends_record_bind (ends_update_bind ?_)
        obtain ⟨hclose, hunlinked⟩ := tends_close hhousesx.lt (w.session id).name timeout
        exact hrest _ hclose hunlinked
      next hnone =>
        refine hrest x (.refl x) ?_
        rw [Bool.not_eq_true, Option.isSome_eq_false_iff, Option.isNone_iff_eq_none] at hnone
        rw [isLinked, hnone]
        rfl
    · exact .of_leaving hw.lt hs rfl rfl (hu ▸ rfl) (hu ▸ rfl) (hu ▸ rfl)
        (hu ▸ .single rfl) hv hstrands

lemma saysMore_ends_log (source : Source) (level : Int) (text : Text) (w : World) :
    Ends (log source level text) w fun result v =>
      result = .ok () ∧ w.SaysMore v :=
  ⟨rfl, saysMore_log w source (.int level) text none⟩

/-- That the server cannot be told goodbye is not for want of numbers. -/
lemma Goodbye.isClosed {s : Session} {es es' : List Event} {f : Fault} (h : Goodbye id s es (.error f) es')
    (hs : s.nextNumber < numberLimit) : f.isClosed := by
  cases h with
  | said told left => exact left.isClosed exitNotification_encodes
  | unheard told => exact told.isClosed (shutdownRequest_encodes hs)

lemma tended_sayGoodbye : Tended (sayGoodbye id) := by
  refine (tended_updateSession lingers_advance).bind fun _ => tended_getSession_bind fun s => ?_
  exact (tended_write _).bind fun _ => tended_write _

/-- A session that is shut down closes its link, unless it ran out of numbers. -/
lemma tends_shutdown (hc : Minds call) (timeout : Json) {w : World} (hw : w.Houses id) :
    Ends (shutdown call id timeout) w fun result v => w.Tends v ∧ (v.session id).status.isLeaving ∧
      ((v.session id).correlator.lastId < numberLimit → result = .ok ()) := by
  refine ends_getSession_bind ?_
  dsimp only
  split
  next hs => exact ends_pure ⟨.refl w, hs, fun _ => rfl⟩
  next hlive =>
    refine Ends.bind ((saysMore_ends_log _ _ _ w).mono ?_)
    rintro result x ⟨rfl, hsays⟩
    have hwx := hsays.tends
    have hhousesx : x.Houses id := Stable.step hwx hw
    refine next_ok (ends_update_bind ?_)
    have hs : (x.session id).Endures { x.session id with status := .shuttingDown } :=
      ⟨rfl, fun h => h, fun h => h, fun _ => rfl, nofun, Nat.le_refl _⟩
    obtain ⟨u, hu⟩ : ∃ u, u = x.setSession id { x.session id with status := .shuttingDown } := ⟨_, rfl⟩
    have hhouses : u.Houses id := hu ▸ houses_setSession hhousesx hs
    have hstatus : (u.session id).status = .shuttingDown := by
      rw [hu, session_setSession _ hhousesx.lt]
    rw [← hu]
    refine Ends.mono (Q := fun result v => u.Tends v ∧ ¬ v.Strands id ∧
      ((v.session id).correlator.lastId < numberLimit → result = .ok ())) ?_
      fun result v ⟨hv, hstrands, hr⟩ => ⟨hwx.trans ?_, ?_, hr⟩
    · refine Ends.bind (((tended_failAll hc _ _).ends_ok (succeeds_failAll _ _) hhouses.tidy).mono ?_)
      rintro result v ⟨⟨n, rfl⟩, huv⟩
      refine next_ok (ends_update_bind ?_)
      obtain ⟨y, hy⟩ : ∃ y, y = v.setSession id (v.session id).clearQueues := ⟨_, rfl⟩
      have huy : u.Tends y := huv.trans (hy ▸ tends_setSession (lingers_clearQueues _))
      rw [← hy]
      have hend : ∀ z, u.Tends z → Ends (teardown call id "Shutdown" timeout) z fun result v =>
          u.Tends v ∧ ¬ v.Strands id ∧
            ((v.session id).correlator.lastId < numberLimit → result = .ok ()) := fun z huz => by
        refine (tends_teardown hc _ _ (Stable.step huz hhouses)).mono ?_
        rintro result v ⟨rfl, hzv, hdone⟩
        refine ⟨huz.trans hzv, ?_, fun _ => rfl⟩
        split at hdone
        next ht =>
          -- A callback may have torn the session down before: then its link is closed.
          subst hdone
          intro hstrands
          have hended := (huz.strands id hstrands).2 ht
          rw [hstatus] at hended
          cases hended
        next => exact hdone
      refine ends_getSession_bind ?_
      split
      next =>
        have hhousesy : y.Houses id := Stable.step huy hhouses
        refine Ends.attempt_bind (((ends_sayGoodbye hhousesy.lt).and
          (tended_sayGoodbye.ends hhousesy.tidy)).mono ?_)
        rintro result z ⟨⟨es, hgoodbye, hz⟩, hyz⟩
        have huz := huy.trans hyz
        cases result with
        | ok _ => exact hend z huz
        | error f =>
          dsimp only
          split
          next hf =>
            refine Ends.bind (((tended_log _ _ _).ends_ok (succeeds_log _ _ _)
              (Stable.step huz hhouses.tidy)).mono ?_)
            rintro result t ⟨⟨_, rfl⟩, hzt⟩
            exact next_ok (hend t (huz.trans hzt))
          next hf =>
            have hmany : numberLimit ≤ (z.session id).correlator.lastId := by
              rw [hz.session]
              exact not_lt.mp fun hlt => hf (hgoodbye.isClosed hlt)
            refine ends_throw ⟨huz, fun hstrands => ?_, fun hfew => ?_⟩
            · exact Nat.not_lt.mpr hmany hstrands.few
            · exact absurd hfew (Nat.not_lt.mpr hmany)
      next => exact hend y huy
    · exact .of_leaving hhousesx.lt hs rfl rfl (hu ▸ rfl) (hu ▸ rfl) (hu ▸ rfl) (hu ▸ .refl _) hv hstrands
    · exact (hv.endures id hhouses.lt).leaving (by rw [hstatus]; rfl)

lemma tended_tick (hc : Minds call) : Within Tends (Houses id) (tick call id) := by
  refine within_getSession_bind fun w hw => ?_
  split
  next => exact within_throw _
  next =>
    split
    next => exact within_pure ()
    next =>
      refine Within.bind_mono (Q := Houses id) ((tended_drain hc).mono fun v hv => hv ▸ hw.tidy)
        (fun v hv => hv ▸ hw) fun _ => within_getSession_bind fun v hv => ?_
      split
      next => exact within_of_ends fun x hx => (tends_teardown hc _ _ (hx ▸ hv)).mono fun _ _ h => h.2.1
      next => exact within_pure ()

end Session

end LanguageClient
