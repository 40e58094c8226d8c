import LanguageClient.Features
import LanguageClient.Proofs.Apart.Sending

/-!
Receiving, opening and ending, which regard one session alone as long as no host is called back.
-/

namespace LanguageClient.Session

open Act

variable {call : Caller}

/-! Receiving -/

lemma local_logComplaints (s : Session) (lines : List Json) : Local fun _ => logComplaints s lines := by
  induction lines with
  | nil => exact local_pure ()
  | cons line rest ih => exact (local_log _ _ _).bind fun _ => ih

lemma persists_enqueue (s : Session) (m : Fields) : s.Persists (s.enqueue m) := by
  unfold enqueue
  split <;> exact .of_own rfl rfl fun h => h

lemma local_takeMessages (fuel taken : Nat) : Local fun id => takeMessages id fuel taken := by
  induction fuel generalizing taken with
  | zero => exact local_pure taken
  | succ fuel ih =>
    unfold takeMessages
    refine local_getSession_bind fun s _ => ?_
    rcases s.reader.next with ⟨reading, reader⟩
    refine local_updateSession_bind (fun t => .of_own rfl rfl fun ht => ht) fun _ => ?_
    cases reading with
    | more => exact local_pure taken
    | fault f =>
      cases f with
      | failure f => exact (local_log _ _ _).bind fun _ => ih taken
      | _ => exact (local_note _).bind fun _ => local_throw _
    | message m =>
      refine (local_logTraffic s _ _).bind fun _ => ?_
      exact local_deal_bind (fun t => persists_enqueue t m) fun _ => ih (taken + 1)

lemma local_readMessages : Local fun id => readMessages id := by
  refine local_getSession_bind fun s _ => ?_
  cases s.link with
  | none => exact local_pure 0
  | some link =>
    refine local_updateSession_bind (fun t => .of_own rfl rfl fun ht => ht) fun _ => ?_
    refine (local_logComplaints s _).bind fun _ => ?_
    cases link.incoming with
    | none => exact local_pure 0
    | some data =>
      refine (local_note _).bind fun _ => ?_
      refine local_updateSession_bind (fun t => .of_own rfl rfl fun ht => ht) fun _ => ?_
      exact local_getSession_bind fun s _ => local_takeMessages _ 0

lemma local_answerRequest (hc : CallsLocally call) (m : Fields) :
    Local fun id => answerRequest call id m := by
  refine local_check_bind fun method _ => (local_fireMethod hc _ _).bind fun handled => ?_
  exact (local_writeOrLog _ _).bind fun _ => local_pure ()

lemma local_logVerbosely (what : Text) (m : Fields) : Local fun id => logVerbosely id what m := by
  refine local_get_bind (fun s c _ => do
    if s.isVerbose then
      log .client Level.info (s.tag ++ what ++ ": " ++ trafficText c (.object m)))
    (fun _ _ => rfl) fun s c _ => ?_
  exact .ite (fun _ => local_log _ _ _) fun _ => local_pure ()

lemma local_dispatchResponse (hc : CallsLocally call) (m : Fields) :
    Local fun id => dispatchResponse call id m := by
  unfold dispatchResponse
  cases Message.kindOf m with
  | response => exact (local_logVerbosely _ m).bind fun _ => (local_resolve hc _ _).bind fun _ => local_pure ()
  | notification =>
    exact local_check_bind fun method _ => (local_fireMethod hc _ _).bind fun _ => local_pure ()
  | _ => exact local_answerRequest hc m

lemma local_turn (m : Fields) {f : Session → Session} (hf : ∀ s : Session, s.Persists (f s)) :
    Local fun id => turn id m f :=
  local_updateSession_bind hf fun _ => local_getSession_bind fun _ _ => local_note _

lemma local_dispatchResponsesUpTo (hc : CallsLocally call) (fuel done : Nat) :
    Local fun id => dispatchResponsesUpTo call id fuel done := by
  induction fuel generalizing done with
  | zero => exact local_pure done
  | succ fuel ih =>
    refine local_getSession_bind fun s _ => ?_
    cases s.responses with
    | nil => exact local_pure done
    | cons m rest =>
      have hturn : Local fun id => turn id m fun s => { s with responses := rest } :=
        local_turn m fun t => .of_own rfl rfl fun ht => ht
      exact hturn.bind fun _ => (local_dispatchResponse hc m).bind fun _ => ih (done + 1)

lemma local_dispatchResponses (hc : CallsLocally call) : Local fun id => dispatchResponses call id :=
  local_getSession_bind fun _ _ => local_dispatchResponsesUpTo hc _ 0

lemma local_dispatchError (hc : CallsLocally call) (m : Fields) : Local fun id => dispatchError call id m := by
  refine (local_logVerbosely _ m).bind fun _ => .ite (fun _ => ?_) fun _ => ?_
  · exact local_getSession_bind fun s _ => local_log _ _ _
  · exact (local_resolve hc _ _).bind fun _ => local_pure ()

lemma local_dispatchErrorsUpTo (hc : CallsLocally call) (fuel done : Nat) :
    Local fun id => dispatchErrorsUpTo call id fuel done := by
  induction fuel generalizing done with
  | zero => exact local_pure done
  | succ fuel ih =>
    refine local_getSession_bind fun s _ => ?_
    cases s.errors with
    | nil => exact local_pure done
    | cons m rest =>
      have hturn : Local fun id => turn id m fun s => { s with errors := rest } :=
        local_turn m fun t => .of_own rfl rfl fun ht => ht
      exact hturn.bind fun _ => (local_dispatchError hc m).bind fun _ => ih (done + 1)

lemma local_dispatchErrors (hc : CallsLocally call) : Local fun id => dispatchErrors call id :=
  local_getSession_bind fun _ _ => local_dispatchErrorsUpTo hc _ 0

/-! Opening -/

lemma local_forM_log (lines : List Text) : Local fun _ => lines.forM fun line => log .client Level.debug line := by
  induction lines with
  | nil => exact local_pure ()
  | cons line rest ih => exact (local_log _ _ _).bind fun _ => ih

lemma local_launchProgram (s : Session) : Local fun _ => launchProgram s := by
  unfold launchProgram
  rcases Pipes.prepare (.object s.config) with ⟨result, said⟩
  refine (local_forM_log said).bind fun _ => ?_
  cases result with
  | error f => exact local_throw f
  | ok _ => exact local_throw .noLink

lemma local_launch : Local fun id => launch id := by
  refine local_get_bind (fun s c id => if c.launcher = .programs then launchProgram s else do
      if c.failing.any fun name => name.same s.name then
        throw (.failure (.spawn (s.name.display ++ " - Failed to start server process")))
      record (.launched id s.name)
      updateSession id fun s => { s with link := some {} }) (fun w id => ?_) fun s c _ => ?_
  · change _ = if w.launcher = .programs then _ else _
    cases w.launcher <;> rfl
  · refine .ite (fun _ => local_launchProgram s) fun _ => ?_
    refine .ite (fun _ => local_throw _) fun _ => ?_
    refine (local_record (e := fun id => .launched id s.name) fun _ _ _ => rfl).bind fun _ => ?_
    exact local_updateSession fun t => .of_own rfl rfl fun ht => ht

lemma local_start : Local fun id => start id := by
  refine local_getSession_bind fun s _ => .ite (fun _ => local_pure ()) fun _ => ?_
  exact .ite (fun _ => local_throw _) fun _ => local_launch

lemma local_handshake (rootUri name version : Json) :
    Local fun id => handshake id rootUri name version none := by
  refine local_getSession_bind fun s _ => .ite (fun _ => ?_) fun _ => ?_
  · exact (local_log _ _ _).bind fun _ => local_pure ()
  refine local_start.bind fun _ => local_check_bind fun rootPath _ => ?_
  refine local_updateSession_bind (fun t => .of_own rfl rfl fun ht => ht) fun _ => ?_
  refine (local_log _ _ _).bind fun _ => ?_
  refine local_getSession_bind fun s _ => (local_note _).bind fun _ => local_accept fun t => ?_
  refine .of_own rfl rfl fun ht => ht.queue fun r hr h hh => ?_
  obtain rfl := Sum.inr.inj hr
  obtain rfl := Option.some.inj hh
  rfl

lemma local_openingRefused (ticket : Nat) (error response : Json) :
    Local fun id => openingRefused call none id ticket error response := by
  refine (local_pure ()).bind fun _ => local_getSession_bind fun s _ => .ite (fun _ => local_pure ()) fun _ => ?_
  refine local_check_bind fun code _ => local_check_bind fun text _ => (local_log _ _ _).bind fun _ => ?_
  exact local_updateSession fun t => .of_own rfl rfl fun ht => ht

lemma local_learn (result : Json) : Local fun id => learn id result := by
  refine .ite (fun _ => local_check_bind fun capabilities _ => ?_) fun _ => ?_
  · refine local_updateSession_bind (fun t => .of_own rfl rfl fun ht => ht) fun _ => local_check_bind fun info _ => ?_
    exact local_updateSession fun t => .of_own rfl rfl fun ht => ht
  · exact local_updateSession fun t => .of_own rfl rfl fun ht => ht

lemma local_announce : Local fun id => announce id := by
  refine local_getSession_bind fun s _ => (local_note _).bind fun _ => local_updateSession fun t => ?_
  exact .of_own rfl rfl fun ht => (ht.queue fun r hr => by cases hr).flush

lemma local_openingAccepted (hc : CallsLocally call) (ticket : Nat) (response : Json) :
    Local fun id => openingAccepted call none id ticket response := by
  refine local_getSession_bind fun s _ => .ite (fun _ => ?_) fun _ => ?_
  · exact (local_note _).bind fun _ => local_pure ()
  refine local_updateSession_bind (fun t => .of_own rfl rfl fun ht => ht) fun _ => local_check_bind fun result _ => ?_
  refine (local_learn result).bind fun _ => (local_log _ _ _).bind fun _ => local_announce.bind fun _ => ?_
  exact (local_pure ()).bind fun _ => (local_fireEvent hc _ _).bind fun _ => local_pure ()

lemma local_openingAnswered (hc : CallsLocally call) (ticket : Nat) (response : Json) :
    Local fun id => openingAnswered call none id ticket response :=
  local_check_bind fun error _ => .ite (fun _ => local_openingRefused ticket error response) fun _ =>
    local_openingAccepted hc ticket response

/-! Ending -/

lemma local_teardown (hc : CallsLocally call) (reason timeout : Json) :
    Local fun id => teardown call id reason timeout := by
  refine local_getSession_bind fun s _ => .ite (fun _ => local_pure ()) fun _ => ?_
  refine local_updateSession_bind (fun t => .of_own rfl rfl fun ht => ht) fun _ => (local_note _).bind fun _ => ?_
  refine (local_failAll hc _ _).bind fun _ => ?_
  refine local_updateSession_bind (fun t => .of_own rfl rfl fun ht => ht.clearQueues) fun _ => ?_
  have hrest : Local fun id => (do
      log .client Level.info (s.tag ++ "Terminated; " ++ reason.display)
      let _ ← fireEvent call id "shutdown" []) :=
    (local_log _ _ _).bind fun _ => (local_fireEvent hc _ _).bind fun _ => local_pure ()
  refine local_getSession_bind fun t _ => .ite (fun _ => ?_) fun _ => hrest
  refine (local_record (e := fun id => .closed id s.name timeout) fun _ _ _ => rfl).bind fun _ => ?_
  exact local_updateSession_bind (fun t => .of_own rfl rfl fun ht => ht) fun _ => hrest

lemma local_drain (hc : CallsLocally call) : Local fun id => drain call id := by
  refine local_readMessages.bind fun _ => local_sendNotifications.bind fun _ => ?_
  refine local_sendRequests.bind fun _ => (local_dispatchResponses hc).bind fun _ => ?_
  exact (local_dispatchErrors hc).bind fun _ => (local_expire hc .null).bind fun _ => local_pure ()

lemma local_tick (hc : CallsLocally call) : Local fun id => tick call id := by
  refine local_getSession_bind fun s _ => ?_
  cases s.fault with
  | some message => exact local_throw _
  | none =>
    refine .ite (fun _ => local_pure ()) fun _ => (local_drain hc).bind fun _ => ?_
    refine local_getSession_bind fun t _ => ?_
    cases endingReason? t with
    | some reason => exact local_teardown hc _ _
    | none => exact local_pure ()

end LanguageClient.Session
