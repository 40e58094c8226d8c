import LanguageClient.Proofs.Steps.Passage
import LanguageClient.Session.Receiving

/-!
Exchanging messages with a server. Nothing is pushed and no one is called back while messages are read
and written.
-/

namespace LanguageClient

/-- Whether a message was read or written, or could not be. -/
def Event.isExchange : Event → Bool
  | .sent _ _ _ | .noted _ (.refused _) | .noted _ (.unlinked _) | .noted _ (.received _)
  | .noted _ (.unreadable _) | .dealt _ (.read _) | .dealt _ (.registered _ _) => true
  | _ => false

/-- Nothing came of an action for a session but an exchange of messages. -/
def World.Exchanged (id : SessionId) (v w : World) : Prop :=
  Adds Event.isExchange (v.story id) (w.story id)

namespace Act

open World

variable {id : SessionId} {P : World → Prop}

instance : Course (Exchanged id) where
  refl w := Adds.refl (w.story id)
  trans h g := Adds.trans h g

instance : Stable (Exchanged id) fun _ => True := ⟨fun _ _ => trivial⟩

lemma exchanged_of_alike {v w : World} (h : Alike v w) : Exchanged id v w := by
  rw [Exchanged, h.stories id]
  exact .refl _

lemma exchanged_record {e : Event} (he : e.isExchange) (w : World) : Exchanged id w (w.record e) := by
  change Adds _ (w.events.filter _) ((e :: w.events).filter _)
  rw [List.filter_cons]
  split
  · exact .single he
  · exact .refl _

lemma exchanges_updateSession (f : Session → Session) : Within (Exchanged id) P (updateSession id f) :=
  ⟨fun w _ => Adds.refl (w.story id)⟩

lemma exchanges_note {n : Note} (hn : (Event.noted id n).isExchange) :
    Within (Exchanged id) P (note id n) :=
  ⟨fun w _ => exchanged_record hn w⟩

lemma exchanges_deal {d : Dealing} (f : Session → Session) (hd : (Event.dealt id d).isExchange) :
    Within (Exchanged id) P (deal id d f) :=
  ⟨fun w _ => exchanged_record hd (w.setSession id (f (w.session id)))⟩

lemma exchanges_log (source : Source) (level : Int) (text : Text) :
    Within (Exchanged id) P (log source level text) :=
  ⟨fun w _ => exchanged_of_alike (alike_log w source _ text none)⟩

end Act

namespace Session

open Act World

variable {id : SessionId} {P : World → Prop}

lemma exchanges_logTraffic (s : Session) (direction : Text) (message : Json) :
    Within (Exchanged id) P (logTraffic s direction message) :=
  within_get_bind fun w _ => by
    split
    · exact exchanges_log _ _ _
    · exact within_pure ()

/-! Writing -/

lemma exchanges_write (message : Json) : Within (Exchanged id) (fun _ => True) (write id message) := by
  refine within_getSession_bind fun w _ => ?_
  split
  · exact (exchanges_note rfl).bind_any fun _ => within_throw _
  · refine within_check_bind fun m _ => ?_
    refine (exchanges_logTraffic _ _ m).bind_any fun _ => within_check_bind fun bytes _ => ?_
    split
    · exact ⟨fun v _ => exchanged_record rfl v⟩
    · exact (exchanges_note rfl).bind_any fun _ => within_throw _

lemma exchanges_writeOrLog (message : Json) (complaint : Text) :
    Within (Exchanged id) (fun _ => True) (writeOrLog id message complaint) := by
  refine (exchanges_write message).attempt.bind fun result => ?_
  split
  · exact within_pure true
  · split
    · refine within_getSession_bind fun w _ => ?_
      exact (exchanges_log _ _ _).bind_any fun _ => within_pure false
    · exact within_throw _

lemma exchanges_sendNotifications :
    Within (Exchanged id) (fun _ => True) (sendNotifications id) := by
  have hall : ∀ fuel sent, Within (Exchanged id) (fun _ => True) (sendNotificationsUpTo id fuel sent) := by
    intro fuel
    induction fuel with
    | zero => exact fun sent => within_pure sent
    | succ fuel ih =>
      refine fun sent => within_getSession_bind fun w _ => ?_
      split
      · exact within_pure sent
      · refine (exchanges_updateSession _).bind_any fun _ => ?_
        exact (exchanges_writeOrLog _ _).bind fun written => ih _
  exact within_getSession_bind fun w _ => (hall _ 0).mono fun _ _ => trivial

lemma exchanges_sendRequest (r : OutgoingRequest) :
    Within (Exchanged id) (fun _ => True) (sendRequest id r) := by
  refine (exchanges_updateSession _).bind fun _ => within_get_bind fun w _ => ?_
  refine within_check_bind fun p _ => (exchanges_deal _ rfl).bind_any fun _ => ?_
  exact exchanges_writeOrLog _ _

lemma exchanges_sendRequests : Within (Exchanged id) (fun _ => True) (sendRequests id) := by
  have hall : ∀ fuel sent, Within (Exchanged id) (fun _ => True) (sendRequestsUpTo id fuel sent) := by
    intro fuel
    induction fuel with
    | zero => exact fun sent => within_pure sent
    | succ fuel ih =>
      refine fun sent => within_getSession_bind fun w _ => ?_
      split
      · exact within_pure sent
      · refine (exchanges_updateSession _).bind_any fun _ => ?_
        exact (exchanges_sendRequest _).bind fun written => ih _
  exact within_getSession_bind fun w _ => (hall _ 0).mono fun _ _ => trivial

/-! Reading -/

lemma exchanges_logComplaints (s : Session) (lines : List Json) :
    Within (Exchanged id) (fun _ => True) (logComplaints s lines) := by
  induction lines with
  | nil => exact within_pure ()
  | cons line rest ih => exact (exchanges_log _ _ _).bind fun _ => ih

lemma exchanges_takeMessages (fuel taken : Nat) :
    Within (Exchanged id) (fun _ => True) (takeMessages id fuel taken) := by
  induction fuel generalizing taken with
  | zero => exact within_pure taken
  | succ fuel ih =>
    refine within_getSession_bind fun w _ => ?_
    dsimp only
    refine (exchanges_updateSession _).bind_any fun _ => ?_
    split
    · exact within_pure taken
    · exact (exchanges_log _ _ _).bind fun _ => ih taken
    · exact (exchanges_note rfl).bind_any fun _ => within_throw _
    · refine (exchanges_logTraffic _ _ _).bind fun _ => ?_
      exact (exchanges_deal _ rfl).bind fun _ => ih (taken + 1)

lemma exchanges_readMessages : Within (Exchanged id) (fun _ => True) (readMessages id) := by
  refine within_getSession_bind fun w _ => ?_
  split
  · exact within_pure 0
  · refine (exchanges_updateSession _).bind_any fun _ => (exchanges_logComplaints _ _).bind fun _ => ?_
    split
    · exact within_pure 0
    · refine (exchanges_note rfl).bind fun _ => (exchanges_updateSession _).bind fun _ => ?_
      exact within_getSession_bind fun v _ => (exchanges_takeMessages _ 0).mono fun _ _ => trivial

end Session

end LanguageClient
