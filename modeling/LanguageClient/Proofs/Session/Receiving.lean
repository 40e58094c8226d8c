import LanguageClient.Proofs.Session.Calls
import LanguageClient.Proofs.Session.Sending
import LanguageClient.Session.Receiving

/-!
Receiving. What is dispatched was read before.
-/

namespace LanguageClient.Session

open Act

variable {call : Caller} {id : SessionId}

/-! Reading -/

lemma keeps_logComplaints (s : Session) (lines : List Json) :
    Keeps id (logComplaints s lines) := by
  induction lines with
  | nil => exact within_pure ()
  | cons line rest ih => exact (within_log _ _ _).bind fun _ => ih

lemma inbox_enqueue (s : Session) (m : Fields) (ds : List Dealing) :
    ((s.enqueue m).account ds).inbox ⊆ m :: (s.account ds).inbox := by
  unfold enqueue
  split
  all_goals
    intro x hx
    simp only [account, List.mem_append, List.mem_cons, List.not_mem_nil, or_false] at hx ⊢
    tauto

lemma account_enqueue (s : Session) (m : Fields) (ds : List Dealing) :
    (s.enqueue m).account ds = { s.account ds with inbox := ((s.enqueue m).account ds).inbox } := by
  unfold enqueue
  split <;> rfl

lemma keeps_read (m : Fields) : Keeps id (deal id (.read m) fun s => s.enqueue m) := by
  refine ⟨fun w hw => World.leads_deal hw.lt ?_ trivial⟩
  rw [account_enqueue]
  exact .read (a := w.account id) m _ (inbox_enqueue _ m _)

lemma keeps_takeMessages (fuel taken : Nat) : Keeps id (takeMessages id fuel taken) := by
  induction fuel generalizing taken with
  | zero => exact within_pure taken
  | succ fuel ih =>
    refine keeps_getSession_bind fun w _ => ?_
    refine keeps_updateSession_bind (fun _ _ => rfl) fun _ => ?_
    split
    next => exact within_pure taken
    next f _ => exact (within_log _ _ _).bind fun _ => ih taken
    next f _ _ => exact (within_note _).bind fun _ => within_throw f
    next m _ =>
      exact (keeps_logTraffic _ _ _).bind fun _ => (keeps_read m).bind fun _ => ih (taken + 1)

lemma keeps_readMessages : Keeps id (readMessages id) := by
  refine keeps_getSession_bind fun w _ => ?_
  split
  next => exact within_pure 0
  next link _ =>
    refine keeps_updateSession_bind (fun _ _ => rfl) fun _ => ?_
    refine (keeps_logComplaints _ _).bind fun _ => ?_
    split
    next => exact within_pure 0
    next data _ =>
      refine Within.bind (within_note _) fun _ => ?_
      refine keeps_updateSession_bind (fun _ _ => rfl) fun _ => ?_
      exact keeps_getSession_bind fun v _ => keeps_takeMessages _ 0

/-! Dispatching -/

lemma keeps_answerRequest (hc : LawfulCaller call) (m : Fields) :
    Keeps id (answerRequest call id m) := by
  refine within_check_bind fun method _ => (keeps_fireMethod hc _ _).bind fun handled => ?_
  exact (keeps_writeOrLog _ _).bind fun _ => within_pure ()

lemma keeps_logVerbosely (what : Text) (m : Fields) : Keeps id (logVerbosely id what m) := by
  refine keeps_get_bind fun w _ => ?_
  dsimp only
  split
  next => exact within_log _ _ _
  next => exact within_pure ()

def HasRead (id : SessionId) (m : Fields) (w : World) : Prop :=
  w.Known id ∧ .read m ∈ dealings id w.events

instance (id : SessionId) (m : Fields) : Stable World.Leads (HasRead id m) :=
  inferInstanceAs (Stable World.Leads fun w => w.Known id ∧ .read m ∈ dealings id w.events)

lemma within_resolve_read (hc : LawfulCaller call) (m : Fields) :
    Within World.Leads (HasRead id m) (resolve call id (m.getD "id" .null) (.object m)) :=
  (within_resolve hc _ _).mono fun _ hw => ⟨hw.1, .inl ⟨m, rfl, rfl, hw.2⟩⟩

lemma within_dispatchResponse (hc : LawfulCaller call) (m : Fields) :
    Within World.Leads (HasRead id m) (dispatchResponse call id m) := by
  unfold dispatchResponse
  split
  next =>
    refine ((keeps_logVerbosely _ m).mono fun _ hw => hw.1).bind fun _ => ?_
    exact (within_resolve_read hc m).bind fun _ => within_pure ()
  next =>
    refine within_check_bind fun method _ => Within.mono (Q := World.Known id) ?_ fun _ hw => hw.1
    exact (keeps_fireMethod hc _ _).bind fun _ => within_pure ()
  next => exact (keeps_answerRequest hc m).mono fun _ hw => hw.1

lemma within_dispatchError (hc : LawfulCaller call) (m : Fields) :
    Within World.Leads (HasRead id m) (dispatchError call id m) := by
  refine ((keeps_logVerbosely _ m).mono fun _ hw => hw.1).bind fun _ => ?_
  dsimp only
  split
  next =>
    refine Within.mono (Q := World.Known id) ?_ fun _ hw => hw.1
    exact keeps_getSession_bind fun w _ => within_log _ _ _
  next => exact (within_resolve_read hc m).bind fun _ => within_pure ()

/-- A queued message has its turn, and then come the next ones. -/
lemma within_turn {w : World} (hw : w.Known id) {m : Fields} {f : Session → Session}
    (hm : m ∈ (w.account id).inbox)
    (hf : (f (w.session id)).account (dealings id w.events) =
      { w.account id with inbox := ((f (w.session id)).account (dealings id w.events)).inbox })
    (hs : ((f (w.session id)).account (dealings id w.events)).inbox ⊆ (w.account id).inbox)
    {dispatched : Act Unit} {others : Act Nat}
    (hd : Within World.Leads (HasRead id m) dispatched) (ho : Keeps id others) :
    Within World.Leads (fun v => v = w) (do
      turn id m f
      dispatched
      others) := by
  have hl : w.Leads ((updateSession id f).after w) := by
    refine World.leads_setSession hw.lt ?_
    rw [hf]
    exact .aside _ rfl (List.Sublist.refl _) (Nat.le_refl _) rfl hs (fun _ hl => .inl hl) rfl
  have hread : HasRead id m ((updateSession id f).after w) :=
    ⟨Stable.step hl hw, (hw.sound.accounts id).inbox m hm⟩
  unfold turn
  simp only [bind_assoc]
  refine Within.bind_at hl fun _ => within_getSession_bind fun v hv => ?_
  refine Within.mono (Q := HasRead id m) ?_ fun u hu => hu ▸ hv ▸ hread
  refine (within_note _).bind fun _ => ?_
  exact hd.bind_mono (Q := World.Known id) (fun _ hv => hv.1) fun _ => ho

lemma keeps_dispatchResponsesUpTo (hc : LawfulCaller call) (fuel done : Nat) :
    Keeps id (dispatchResponsesUpTo call id fuel done) := by
  induction fuel generalizing done with
  | zero => exact within_pure done
  | succ fuel ih =>
    refine within_getSession_bind fun w hw => ?_
    cases hr : (w.session id).responses with
    | nil => exact within_pure done
    | cons m rest =>
      have hi : (w.account id).inbox = m :: (rest ++ (w.session id).errors) := by
        rw [World.account, account, hr]
        rfl
      exact within_turn hw (hi ▸ List.mem_cons_self) rfl (hi ▸ List.subset_cons_self _ _)
        (within_dispatchResponse hc m) (ih (done + 1))

lemma keeps_dispatchResponses (hc : LawfulCaller call) : Keeps id (dispatchResponses call id) :=
  keeps_getSession_bind fun _ _ => keeps_dispatchResponsesUpTo hc _ 0

lemma keeps_dispatchErrorsUpTo (hc : LawfulCaller call) (fuel done : Nat) :
    Keeps id (dispatchErrorsUpTo call id fuel done) := by
  induction fuel generalizing done with
  | zero => exact within_pure done
  | succ fuel ih =>
    refine within_getSession_bind fun w hw => ?_
    cases hr : (w.session id).errors with
    | nil => exact within_pure done
    | cons m rest =>
      have hi : (w.account id).inbox = (w.session id).responses ++ m :: rest := by
        rw [World.account, account, hr]
      have hs : (w.session id).responses ++ rest ⊆ (w.account id).inbox := by
        rw [hi]
        exact fun x hx => (List.mem_append.mp hx).elim (List.mem_append_left _) fun hx =>
          List.mem_append_right _ (List.mem_cons_of_mem m hx)
      exact within_turn hw (f := fun s => { s with errors := rest })
        (hi ▸ List.mem_append_right _ List.mem_cons_self) rfl hs
        (within_dispatchError hc m) (ih (done + 1))

lemma keeps_dispatchErrors (hc : LawfulCaller call) : Keeps id (dispatchErrors call id) :=
  keeps_getSession_bind fun _ _ => keeps_dispatchErrorsUpTo hc _ 0

end LanguageClient.Session
