import LanguageClient.Proofs.Session.Receiving
import LanguageClient.Session.Lifecycle

/-!
The operations that open a session, end it, and drain its queues.
-/

namespace LanguageClient.Session

open Act

variable {call : Caller} {id : SessionId}

/-! Starting -/

lemma keeps_forM_log (lines : List Text) :
    Keeps id (lines.forM fun line => log .client Level.debug line) := by
  induction lines with
  | nil => exact within_pure ()
  | cons line rest ih => exact Within.bind (within_log _ _ _) fun _ => ih

lemma keeps_launch : Keeps id (launch id) := by
  refine keeps_get_bind fun w _ => ?_
  dsimp only
  split
  next =>
    refine (keeps_forM_log _).bind fun _ => ?_
    split <;> exact within_throw _
  next =>
    split
    next => exact within_throw _
    next =>
      refine Within.bind (within_record fun _ => rfl) fun _ => ?_
      exact keeps_updateSession_of_eq fun _ _ => rfl

lemma keeps_start : Keeps id (start id) := by
  refine keeps_getSession_bind fun w _ => ?_
  dsimp only
  split
  next => exact within_pure ()
  split
  next => exact within_throw _
  next => exact keeps_launch

lemma keeps_handshake (rootUri name version : Json) {callback : Option Callback}
    (hp : callbackIsPublic callback) : Keeps id (handshake id rootUri name version callback) := by
  refine keeps_getSession_bind fun w _ => ?_
  dsimp only
  split
  next => exact (within_log _ _ _).bind fun _ => within_pure ()
  next =>
    refine keeps_start.bind fun _ => within_check_bind fun rootPath _ => ?_
    refine keeps_updateSession_bind (fun _ _ => rfl) fun _ => (within_log _ _ _).bind fun _ => ?_
    refine within_getSession_bind fun v hv => ?_
    refine Within.bind_of (fun u hu => ⟨World.leads_record (fun _ => rfl) u, Takes.note ?_ _⟩) fun _ =>
      within_accept_queue _
    subst hu
    refine ⟨hv, fun r hr => ?_, fun r hr h hh => ?_⟩
    · obtain rfl := Sum.inr.inj hr
      rfl
    · obtain rfl := Sum.inr.inj hr
      obtain rfl := Option.some.inj hh
      exact hp

/-! The answer to the request that opens a session -/

lemma within_callBack (hc : LawfulCaller call) {callback : Option Callback}
    (hp : callbackIsPublic callback) (t : Nat) (response : Json) :
    Within World.Leads (World.Owes id t (.opening callback) response)
      (callBack call callback id t response) := by
  cases callback with
  | none => exact within_pure ()
  | some callback =>
    exact (hc.answer (.host callback) id t response hp).mono fun w hw =>
      ⟨hw.known, hw.accepted, hw.resolved, hw.once⟩

lemma events_learn (result : Json) (w : World) :
    ((learn id result).after w).events = w.events := by
  unfold learn
  split
  next =>
    cases result.field "capabilities" with
    | error e => rfl
    | ok capabilities => cases result.field "serverInfo" <;> rfl
  next => rfl

lemma keeps_learn (result : Json) : Keeps id (learn id result) := by
  unfold learn
  split
  next =>
    refine within_check_bind fun capabilities _ => ?_
    refine keeps_updateSession_bind (fun _ _ => rfl) fun _ => within_check_bind fun info _ => ?_
    exact keeps_updateSession_of_eq fun _ _ => rfl
  next => exact keeps_updateSession_of_eq fun _ _ => rfl

lemma within_openingRefused (hc : LawfulCaller call) {callback : Option Callback}
    (hp : callbackIsPublic callback) (t : Nat) (error response : Json) :
    Within World.Leads (World.Owes id t (.opening callback) response)
      (openingRefused call callback id t error response) := by
  refine (within_callBack hc hp t response).bind_mono (Q := World.Known id) (fun w hw => hw.known)
    fun _ => ?_
  refine keeps_getSession_bind fun w _ => ?_
  split
  next => exact within_pure ()
  next =>
    refine within_check_bind fun code _ => within_check_bind fun text _ => ?_
    refine (within_log _ _ _).bind fun _ => ?_
    exact keeps_updateSession_of_eq fun _ _ => rfl

/-- What is due stays due while nothing is dealt with. -/
lemma within_bind_of_quiet {α β : Type} {t : Nat} {handler : Handler} {response : Json}
    {a : Act α} {f : α → Act β} (ha : Keeps id a)
    (hq : ∀ w, dealings id (a.after w).events = dealings id w.events)
    (hf : ∀ x, Within World.Leads (World.Owes id t handler response) (f x)) :
    Within World.Leads (World.Owes id t handler response) (a >>= f) :=
  Within.bind_of (fun w hw =>
    have hl := ha.after w hw.known
    ⟨hl, hw.step hl (hq w)⟩) hf

lemma account_flush (s : Session) (ds : List Dealing) :
    (s.queue (.inl opened)).flush.account ds = s.account ds := by
  simp [account, flush, queue]

lemma keeps_announce : Keeps id (announce id) :=
  keeps_getSession_bind fun _ _ => (within_note _).bind fun _ =>
    keeps_updateSession_of_eq account_flush

lemma within_openingAccepted (hc : LawfulCaller call) {callback : Option Callback}
    (hp : callbackIsPublic callback) (t : Nat) (response : Json) :
    Within World.Leads (World.Owes id t (.opening callback) response)
      (openingAccepted call callback id t response) := by
  refine within_getSession_bind fun w hw =>
    Within.mono (Q := World.Owes id t (.opening callback) response) ?_ (fun v hv => hv ▸ hw)
  split
  next =>
    exact within_bind_of_quiet (within_note _) (fun _ => rfl) fun _ => within_pure ()
  next =>
    refine within_bind_of_quiet (keeps_updateSession_of_eq fun _ _ => rfl) (fun _ => rfl) fun _ => ?_
    refine within_check_bind fun result _ => ?_
    refine within_bind_of_quiet (keeps_learn result)
      (fun w => congrArg (dealings id) (events_learn result w)) fun _ => ?_
    refine within_bind_of_quiet (within_log _ _ _)
      (fun w => (World.log_eq w .client _ _ none id).2.2.2.1) fun _ => ?_
    refine within_bind_of_quiet keeps_announce (fun _ => rfl) fun _ => ?_
    refine (within_callBack hc hp t response).bind_mono (Q := World.Known id)
      (fun w hw => hw.known) fun _ => ?_
    exact (keeps_fireEvent hc _ _).bind fun _ => within_pure ()

lemma within_openingAnswered (hc : LawfulCaller call) {callback : Option Callback}
    (hp : callbackIsPublic callback) (t : Nat) (response : Json) :
    Within World.Leads (World.Owes id t (.opening callback) response)
      (openingAnswered call callback id t response) := by
  refine within_check_bind fun error _ => ?_
  split
  next => exact within_openingRefused hc hp t error response
  next => exact within_openingAccepted hc hp t response

/-! Ending -/

lemma keeps_clearQueues {f : Session → Session}
    (hf : ∀ s ds, (f s).account ds = { s.account ds with waiting := [], inbox := [] }) :
    Keeps id (updateSession id f) := by
  refine keeps_updateSession fun w _ => ?_
  rw [hf]
  exact .aside _ rfl (List.nil_sublist _) (Nat.le_refl _) rfl (List.nil_subset _)
    (fun _ hl => .inl hl) rfl

lemma keeps_teardown (hc : LawfulCaller call) (reason timeout : Json) :
    Keeps id (teardown call id reason timeout) := by
  refine keeps_getSession_bind fun w _ => ?_
  dsimp only
  split
  next => exact within_pure ()
  next =>
    refine keeps_updateSession_bind (fun _ _ => rfl) fun _ => ?_
    refine Within.bind_of (Q := fun v => v.Known id ∧ .noted id .ended ∈ v.events) (fun v hv => ?_)
      fun _ => ?_
    · have hl : v.Leads (v.record (.noted id .ended)) := World.leads_record (fun _ => rfl) v
      exact ⟨hl, Stable.step hl hv, List.mem_cons_self⟩
    refine (within_failAll hc fun v n hv => .ended _ hv).bind_mono (Q := World.Known id)
      (fun v hv => hv.1) fun _ => ?_
    refine (keeps_clearQueues fun _ _ => rfl).bind fun _ => keeps_getSession_bind fun v _ => ?_
    have hrest : ∀ text, Keeps id (do
        log .client Level.info text
        let _ ← fireEvent call id "shutdown" []) := fun text =>
      (within_log _ _ _).bind fun _ => (keeps_fireEvent hc _ _).bind fun _ => within_pure ()
    split
    next =>
      refine Within.bind (within_record fun _ => rfl) fun _ => ?_
      exact keeps_updateSession_bind (fun _ _ => rfl) fun _ => hrest _
    next => exact hrest _

lemma keeps_sayGoodbye : Keeps id (sayGoodbye id) := by
  refine keeps_advance.bind fun _ => keeps_getSession_bind fun w _ => ?_
  exact (keeps_write _).bind fun _ => keeps_write _

lemma keeps_shutdown (hc : LawfulCaller call) (timeout : Json) :
    Keeps id (shutdown call id timeout) := by
  refine keeps_getSession_bind fun w _ => ?_
  dsimp only
  split
  next => exact within_pure ()
  next =>
    refine (within_log _ _ _).bind fun _ => keeps_updateSession_bind (fun _ _ => rfl) fun _ => ?_
    refine ((within_failAll hc (P := World.Known id) fun v n _ => .leaving _).mono fun v hv =>
      ⟨hv, hv⟩).bind fun _ => ?_
    refine (keeps_clearQueues fun _ _ => rfl).bind fun _ => keeps_getSession_bind fun v _ => ?_
    split
    next =>
      refine keeps_sayGoodbye.attempt.bind fun result => ?_
      cases result with
      | ok _ => exact keeps_teardown hc _ _
      | error f =>
        dsimp only
        split
        next => exact (within_log _ _ _).bind fun _ => keeps_teardown hc _ _
        next => exact Within.bind (within_throw f) fun _ => keeps_teardown hc _ _
    next => exact keeps_teardown hc _ _

/-! Ticks -/

lemma keeps_drain (hc : LawfulCaller call) : Keeps id (drain call id) := by
  refine keeps_readMessages.bind fun _ => keeps_sendNotifications.bind fun _ => ?_
  refine keeps_sendRequests.bind fun _ => (keeps_dispatchResponses hc).bind fun _ => ?_
  refine (keeps_dispatchErrors hc).bind fun _ => ?_
  exact (keeps_expire hc .null).bind fun _ => within_pure ()

lemma keeps_tick (hc : LawfulCaller call) : Keeps id (tick call id) := by
  refine keeps_getSession_bind fun w _ => ?_
  split
  next => exact within_throw _
  split
  next => exact within_pure ()
  next =>
    refine (keeps_drain hc).bind fun _ => keeps_getSession_bind fun v _ => ?_
    split
    next => exact keeps_teardown hc _ _
    next => exact within_pure ()

end LanguageClient.Session
