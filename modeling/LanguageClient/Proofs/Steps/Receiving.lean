import LanguageClient.Proofs.Steps.Calls
import LanguageClient.Proofs.Steps.Over
import LanguageClient.Proofs.Steps.Sending
import LanguageClient.Session.Receiving

/-!
The steps of receiving: bytes are read into messages, and messages are dispatched.
-/

namespace LanguageClient.Session

open Act World

variable {c : Conduct} {call : Caller} {ℓ : Level} {id : SessionId} {t : Task} {L : List Task}

/-! Reading -/

lemma isRemark_logComplaints (s : Session) (lines : List Json) : IsRemark (logComplaints s lines) := by
  induction lines with
  | nil => exact isRemark_pure
  | cons line rest ih => exact (isRemark_log _ _ _).andThen ih

lemma ends_takeMessages (fuel taken : Nat) {w : World} (hw : w.Ready c id)
    (running : (w.session id).status ≠ .terminated ∨ t = .phase)
    (hf : (w.session id).reader.buffered < fuel) :
    Ends (takeMessages id fuel taken) w fun result v =>
      Moves c .callback id [.reading, t] [t] w v ∧ (v.session id).status = (w.session id).status ∧
        ((∃ n, result = .ok n) ∨ ∃ f, .noted id (.unreadable f) ∈ v.story id) := by
  induction fuel generalizing taken w with
  | zero => exact absurd hf (Nat.not_lt_zero _)
  | succ fuel ih =>
    refine ends_getSession_bind ?_
    rcases hn : (w.session id).reader.next with ⟨reading, reader⟩
    dsimp only
    have hless : reading ≠ .more → reader.buffered < fuel := by
      intro hne
      have hb := Frame.Reader.buffered_next hw.sound.reader (by rw [hn]; exact hne)
      rw [hn] at hb
      dsimp only at hb
      omega
    refine ends_update hw.lt fun u hu => ?_
    split
    next =>
      refine ends_pure ⟨.of_becomes hu fun K _ => .single (.readAll hn), ?_, .inl ⟨taken, rfl⟩⟩
      rw [hu.session]
    next f =>
      have hm : Moves c .callback id [.reading, t] [.reading, t] w u :=
        .of_becomes hu fun K _ => .single (.skipped hn)
      refine (isRemark_log _ _ _).bind fun v hv => ?_
      have hx := hu.alike hv
      have hm := hm.trans (.of_alike hv)
      refine (ih taken (hm.ready hw) ?_ ?_).mono fun result x hx' => ?_
      · rw [hx.session]
        exact running
      · rw [hx.session]
        exact hless (by simp)
      · rw [hx.session] at hx'
        exact ⟨hm.trans hx'.1, hx'.2⟩
    next f _ =>
      refine ends_note fun v hv => ends_throw ?_
      have hx := hu.trans hv
      rw [hu.session, hu.story] at hx
      refine ⟨.of_becomes hx fun K _ => .single (.unread hn), ?_, .inr ⟨f, ?_⟩⟩
      · rw [hx.session]
      · rw [hx.story]
        exact List.mem_cons_self
    next m =>
      refine (isRemark_logTraffic _ _ _).bind fun v hv => ?_
      have hx := hu.alike hv
      refine ends_deal (hx.lt hw.lt) fun y hy => ?_
      have hz := hx.trans hy
      rw [hx.session, hx.story] at hz
      have hm : Moves c .callback id [.reading, t] [.reading, t] w y :=
        .of_becomes hz fun K _ => .single (.took hn running)
      have hr : ∀ s : Session, (s.enqueue m).reader = s.reader ∧ (s.enqueue m).status = s.status := by
        intro s
        obtain ⟨responses, errors, he⟩ := s.exists_enqueue_eq m
        rw [he]
        exact ⟨rfl, rfl⟩
      refine (ih (taken + 1) (hm.ready hw) ?_ ?_).mono fun result x hx' => ?_
      · rw [hz.session, (hr _).2]
        exact running
      · rw [hz.session, (hr _).1]
        exact hless (by simp)
      · rw [hz.session, (hr _).2] at hx'
        exact ⟨hm.trans hx'.1, hx'.2⟩

lemma ends_readMessages (ht : t.drains) (room : ℓ.Room c .readMessages L) {w : World} (hw : w.Ready c id)
    (running : (w.session id).status ≠ .terminated ∨ t = .phase) :
    Ends (readMessages id) w fun result v =>
      Moves c ℓ id (t :: L) (t :: L) w v ∧ (v.session id).status = (w.session id).status ∧
        ((∃ n, result = .ok n) ∨ ∃ f, .noted id (.unreadable f) ∈ v.story id) ∧
          ∀ data ∈ (w.session id).incoming?, .noted id (.received data) ∈ v.story id := by
  refine ends_getSession_bind ?_
  unfold incoming?
  split
  next hl =>
    rw [hl]
    exact ends_pure ⟨.of_alike (.refl w), rfl, .inl ⟨0, rfl⟩, nofun⟩
  next link hl =>
    refine ends_update hw.lt fun u hu => (isRemark_logComplaints _ _).bind fun v hv => ?_
    have hx := hu.alike hv
    rw [hl, Option.map_some] at hx
    have hm : Moves c ℓ id (t :: L) (t :: L) w v :=
      .of_becomes hx fun K _ => .single (.relinked _ hl rfl)
    have hst : (v.session id).status = (w.session id).status := by rw [hx.session]
    rw [hl, Option.bind_some]
    split
    next hnone =>
      rw [hnone]
      exact ends_pure ⟨hm, hst, .inl ⟨0, rfl⟩, nofun⟩
    next data hsome =>
      refine ends_note fun y hy => ends_update ((hx.trans hy).lt hw.lt) fun z hz =>
        ends_getSession_bind ?_
      have hb := hy.trans hz
      rw [hy.session, hy.story] at hb
      have hfed : Moves c ℓ id (t :: L) (.reading :: t :: L) v z :=
        .of_becomes hb fun K hK => .single
          (.fed data ht (room.free K hK) (by rw [hx.session]; rfl) (by rw [hst]; exact running))
      have hst' : (z.session id).status = (v.session id).status := by rw [hb.session]
      refine (ends_takeMessages (t := t) _ 0 (hfed.ready (hm.ready hw)) ?_ (Nat.lt_succ_self _)).mono ?_
      · rw [hst', hst]
        exact running
      intro result u hu
      refine ⟨(hm.trans hfed).trans (hu.1.under room.idle), hu.2.1.trans (hst'.trans hst), hu.2.2, fun bytes hb' => ?_⟩
      obtain rfl : data = bytes := Option.some.inj (hsome.symm.trans hb')
      refine (hu.1.steps [] Task.areIdle_nil).suffix.subset ?_
      rw [position, hb.story]
      exact List.mem_cons_self

/-! Dispatching -/

lemma isRemark_logVerbosely (what : Text) (m : Fields) : IsRemark (logVerbosely id what m) := by
  refine ⟨fun w => ?_⟩
  have hr : (logVerbosely id what m).run w = (if (w.session id).isVerbose then
      log .client Level.info ((w.session id).tag ++ what ++ ": " ++ trafficText w (.object m))
      else pure ()).run w := rfl
  rw [hr]
  split
  · exact (isRemark_log _ _ _).run w
  · exact isRemark_pure.run w

lemma mandatory_method {m : Fields} (h : Message.kindOf m = .request ∨ Message.kindOf m = .notification) :
    ∃ method, m.get? "method" = some method ∧
      (Json.object m).mandatory "method" = .ok method := by
  cases hm : m.get? "method" with
  | none =>
    rw [Message.kindOf, hm, if_neg (by simp)] at h
    split at h <;> simp at h
  | some method => exact ⟨method, rfl, by rw [Json.mandatory, hm]⟩

lemma get?_method_of_kindOf {m : Fields} (h : Message.kindOf m = .response ∨ Message.kindOf m = .error) :
    m.get? "method" = none := by
  cases hm : m.get? "method" with
  | none => rfl
  | some method =>
    rw [Message.kindOf, hm, Option.isSome_some, if_pos rfl] at h
    split at h <;> simp at h

lemma due_of_response {s : Session} {m : Fields}
    (h : Message.kindOf m = .response ∨ Message.kindOf m = .error) : s.due m = [.turning m s] := by
  rw [due, audience, get?_method_of_kindOf h]
  rfl

lemma due_of_key {s : Session} {m : Fields} {method : Json} {key : Json.Key}
    (h : m.get? "method" = some method) (hk : method.key = .ok key) :
    s.due m =
      (s.listeners.ofMethod key).map (.telling · (m.getD "params" .null)) ++ [.turning m s] := by
  rw [due, audience, h, Option.map_some, hk]

lemma due_of_error {s : Session} {m : Fields} {method : Json} {f : Fault}
    (h : m.get? "method" = some method) (hk : method.key = .error f) : s.due m = [.turning m s] := by
  rw [due, audience, h, Option.map_some, hk]
  rfl

lemma areIdle_due (s : Session) (m : Fields) : Task.AreIdle (s.due m) := fun t ht => by
  rcases mem_due.mp ht with ⟨l, -, rfl⟩ | rfl <;> rfl

lemma due_apart (s : Session) (m : Fields) : ∀ t ∈ s.due m, t ≠ .phase ∧ t ≠ .reading := fun t ht => by
  rcases mem_due.mp ht with ⟨l, -, rfl⟩ | rfl <;> simp

lemma phase_not_mem_due (s : Session) (m : Fields) : .phase ∉ s.due m := fun h => (due_apart s m _ h).1 rfl

lemma replyTo_eq {s : Session} {m : Fields} {method : Json} {key : Json.Key}
    (h : m.get? "method" = some method) (hk : method.key = .ok key) :
    s.replyTo m = (if (s.listeners.ofMethod key).length = 0 then
        Message.errorResponse (m.getD "id" .null) (.int Message.Code.methodNotFound)
          ("Unhandled method " ++ method.display : Text) .null
      else Message.response (m.getD "id" .null) .null) := by
  have hshown : m.getD "method" .null = method := by rw [Fields.getD, h, Option.getD_some]
  simp only [replyTo, audience, h, Option.map_some, hk, hshown, List.isEmpty_iff_length_eq_zero]

lemma isReply_replyTo {s : Session} {m : Fields} {method : Json} (h : m.get? "method" = some method) :
    Message.IsReply m (s.replyTo m) := by
  have hshown : m.getD "method" .null = method := by rw [Fields.getD, h, Option.getD_some]
  unfold replyTo
  rw [hshown]
  split
  · exact .unhandled h
  · exact .done

/-- A message that no one has to answer had its turn. -/
lemma moves_passed {m : Fields} {found : Session} (h : m.IsTame → Message.kindOf m ≠ .request) (w : World) :
    Moves c .callback id [.turning m found] [] w w :=
  .of_becomes (Alike.refl w).becomes fun _ _ => .single (.passed h)

/-- The listeners of the method of a message are told. This fails only if the method cannot be looked
up. -/
lemma ends_fireMethod_message (hc : Abides c call) {m : Fields} {method : Json}
    (hm : m.get? "method" = some method) {w : World} (hw : w.Ready c id) :
    Ends (fireMethod call id method (m.getD "params" .null)) w fun result v =>
      Moves c .callback id ((w.session id).due m) [.turning m (w.session id)] w v ∧
        ((∃ key, method.key = .ok key ∧ result = .ok ((w.session id).listeners.ofMethod key).length) ∨
          (∃ f, result = .error f) ∧ ¬ m.IsTame) := by
  cases hk : method.key with
  | ok key =>
    rw [due_of_key hm hk]
    refine (ends_fireMethod_told hc _ hk hw).mono ?_
    rintro result v ⟨rfl, hv⟩
    exact ⟨hv.under (Task.areIdle_singleton rfl), .inl ⟨key, rfl, rfl⟩⟩
  | error f =>
    rw [due_of_error hm hk]
    unfold fireMethod
    rw [hk]
    refine ends_throw ⟨.of_alike (.refl w), .inr ⟨⟨f, rfl⟩, fun htame => ?_⟩⟩
    obtain ⟨key, hkey⟩ := htame.method _ hm
    cases hk.symm.trans hkey

lemma ends_answerRequest (hc : Abides c call) {m : Fields} (hk : Message.kindOf m = .request) {w : World}
    (hw : w.Ready c id) : Ends (answerRequest call id m) w fun result v =>
      Moves c .callback id ((w.session id).due m) [] w v ∧
        (m.IsTame → result = .ok ()) := by
  obtain ⟨method, hget, hmethod⟩ := mandatory_method (.inl hk)
  unfold answerRequest
  rw [hmethod]
  refine ends_check_bind (fun x hx => ?_) fun f hf => by cases hf
  obtain rfl := Except.ok.inj hx
  refine Ends.bind ((ends_fireMethod_message hc hget hw).mono ?_)
  rintro result u ⟨hu, hresult⟩
  rcases hresult with ⟨key, hkey, rfl⟩ | ⟨⟨f, rfl⟩, hwild⟩
  · have hreply := isReply_replyTo (s := w.session id) hget
    refine next_ok ?_
    dsimp only
    rw [← replyTo_eq hget hkey]
    refine Ends.bind ((ends_writeOrLog _ _ u).mono ?_)
    rintro result v ⟨⟨r, es, hwrites, hv⟩, hok⟩
    have hm : Moves c .callback id ((w.session id).due m) [] w v :=
      hu.trans (.of_becomes hv fun K _ => .single (.replied hk hreply hwrites))
    cases result with
    | ok b => exact next_ok (ends_pure ⟨hm, fun _ => rfl⟩)
    | error f =>
      refine ⟨hm, fun htame => ?_⟩
      obtain ⟨b, hb⟩ := hok (htame.reply hk _ hreply)
      cases hb
  · exact ⟨hu.trans (moves_passed (fun htame => (hwild htame).elim) u),
      fun htame => (hwild htame).elim⟩

/-- A message that has its turn is given to the request that it answers. -/
lemma ends_given (hc : Abides c call) {m : Fields} (found : Session) {w : World}
    (hw : w.Ready c id) (hm : .dealt id (.read m) ∈ w.story id) :
    Ends (resolve call id (m.getD "id" .null) (.object m)) w fun result v =>
      (∃ b, result = .ok b) ∧ Moves c .callback id [.turning m found] [.turning m found] w v ∧
        Erases id (m.getD "id" .null) w v :=
  (ends_resolve hc hw (.inl hm) (Task.areIdle_singleton rfl) fun K => ⟨rfl, .inl ⟨found, K, rfl⟩⟩).mono
    fun _ _ h => ⟨h.1, h.2.1, h.2.2.2⟩

lemma Erases.of_alike {answered : Json} {u v w : World} (h : Erases id answered u v) (hu : Alike w u) :
    Erases id answered w v := by
  rw [Erases, ← show u.session id = w.session id from hu.becomes.session]
  exact h

lemma ends_dispatchResponse (hc : Abides c call) {m : Fields} (hk : Message.kindOf m ≠ .error) {w : World}
    (hw : w.Ready c id) (hm : .dealt id (.read m) ∈ w.story id) :
    Ends (dispatchResponse call id m) w fun result v =>
      Moves c .callback id ((w.session id).due m) [] w v ∧ (m.IsTame → result = .ok ()) ∧
        (Message.kindOf m = .response → Erases id (m.getD "id" .null) w v) := by
  unfold dispatchResponse
  cases hkind : Message.kindOf m with
  | response =>
    rw [due_of_response (.inl hkind)]
    refine (isRemark_logVerbosely _ _).bind fun u hu => ?_
    have hmu : Moves c .callback id [.turning m (w.session id)] [.turning m (w.session id)] w u :=
      .of_alike hu
    refine Ends.bind ((ends_given hc (w.session id) (hmu.ready hw) (hu.stories id ▸ hm)).mono ?_)
    rintro result v ⟨⟨b, rfl⟩, hv, herases⟩
    have hanswers : m.IsTame → Message.kindOf m ≠ .request := fun _ h => by cases hkind.symm.trans h
    exact next_ok (ends_pure ⟨(hmu.trans hv).trans (moves_passed hanswers v), fun _ => rfl,
      fun _ => herases.of_alike hu⟩)
  | notification =>
    obtain ⟨method, hget, hmethod⟩ := mandatory_method (.inr hkind)
    rw [hmethod]
    refine ends_check_bind (fun x hx => ?_) fun f hf => by cases hf
    obtain rfl := Except.ok.inj hx
    refine Ends.bind ((ends_fireMethod_message hc hget hw).mono ?_)
    rintro result v ⟨hv, hresult⟩
    have hpassed : Moves c .callback id ((w.session id).due m) [] w v :=
      hv.trans (moves_passed (fun _ h => by cases hkind.symm.trans h) v)
    rcases hresult with ⟨key, -, rfl⟩ | ⟨⟨f, rfl⟩, hwild⟩
    · exact next_ok (ends_pure ⟨hpassed, fun _ => rfl, nofun⟩)
    · exact ⟨hpassed, fun htame => (hwild htame).elim, nofun⟩
  | request => exact (ends_answerRequest hc hkind hw).mono fun _ _ h => ⟨h.1, h.2, nofun⟩
  | error => exact (hk hkind).elim

lemma ends_dispatchError (hc : Abides c call) {m : Fields} (hk : Message.kindOf m = .error) {w : World}
    (hw : w.Ready c id) (hm : .dealt id (.read m) ∈ w.story id) :
    Ends (dispatchError call id m) w fun result v =>
      Moves c .callback id ((w.session id).due m) [] w v ∧ result = .ok () ∧
        Erases id (m.getD "id" .null) w v := by
  have hpassed : ∀ v, Moves c .callback id [.turning m (w.session id)] [] v v := fun v =>
    moves_passed (fun _ h => by cases hk.symm.trans h) v
  rw [due_of_response (.inr hk)]
  refine (isRemark_logVerbosely _ _).bind fun u hu => ?_
  have hmu : Moves c .callback id [.turning m (w.session id)] [.turning m (w.session id)] w u :=
    .of_alike hu
  dsimp only
  split
  next hnull =>
    refine ends_getSession_bind ?_
    obtain ⟨v, hr, hv⟩ := (isRemark_log .client Level.error _).run u
    rw [Ends, hr]
    refine ⟨(hmu.trans (.of_alike hv)).trans (hpassed v), rfl, fun r _ hk => ?_⟩
    cases hid : m.getD "id" .null with
    | null =>
      rw [hid] at hk
      cases hk
    | _ =>
      rw [hid] at hnull
      cases hnull
  next =>
    refine Ends.bind ((ends_given hc (w.session id) (hmu.ready hw) (hu.stories id ▸ hm)).mono ?_)
    rintro result v ⟨⟨b, rfl⟩, hv, herases⟩
    exact next_ok (ends_pure ⟨(hmu.trans hv).trans (hpassed v), rfl, herases.of_alike hu⟩)

/-! Draining the inbox -/

lemma ends_turn_bind {β : Type} {m : Fields} {f : Session → Session} {g : Unit → Act β} {w : World}
    {Q : Except Fault β → World → Prop} (hw : id < w.sessions.length)
    (h : ∀ u, Becomes id (f (w.session id))
      (.noted id (.dispatched m (f (w.session id))) :: w.story id) w u → Ends (g ()) u Q) :
    Ends (turn id m f >>= g) w Q := by
  unfold turn
  simp only [bind_assoc]
  refine ends_update hw fun v hv => ends_getSession_bind (ends_note fun u hu => h u ?_)
  rw [hv.session, hv.story] at hu
  exact hv.trans hu

/-- Messages are dispatched one by one. None of them stops it, and no others wait at the end. -/
lemma ends_dispatchResponsesUpTo (hc : Abides c call) (ht : t.drains)
    (room : ℓ.Room c .dispatchResponses L) (fuel done : Nat) {w : World} (hw : w.Ready c id) :
    Ends (dispatchResponsesUpTo call id fuel done) w fun result v =>
      Moves c ℓ id (t :: L) (t :: L) w v ∧
        (c.LeavesPhases → (w.session id).Emptied → (v.session id).Emptied) ∧
        (Calm id (v.session id) (v.story id) →
          (∃ n, result = .ok n) ∧ (c.LeavesPhases → c.Sends (w.session id).config →
            (v.session id).WaitsLess (w.session id) ∧
              ((w.session id).responses.length ≤ fuel → (v.session id).responses = []))) := by
  induction fuel generalizing done w with
  | zero =>
    refine ends_pure ⟨.of_alike (.refl w), fun _ h => h, fun _ => ⟨⟨done, rfl⟩, fun _ _ => ⟨.refl _, fun hl => ?_⟩⟩⟩
    exact List.length_eq_zero_iff.mp (Nat.le_zero.mp hl)
  | succ fuel ih =>
    refine ends_getSession_bind ?_
    split
    next hq =>
      exact ends_pure
        ⟨.of_alike (.refl w), fun _ h => h, fun _ => ⟨⟨done, rfl⟩, fun _ _ => ⟨.refl _, fun _ => hq⟩⟩⟩
    next m rest hq =>
      have hmem : m ∈ (w.session id).responses := hq ▸ List.mem_cons_self
      have hread := hw.sound.inbox m (List.mem_append_left _ hmem)
      refine ends_turn_bind hw.lt fun u hu => ?_
      have hread : .dealt id (.read m) ∈ u.story id := hu.story ▸ List.mem_cons_of_mem _ hread
      have hidle : Task.AreIdle (t :: L) := room.idle.cons (Task.isIdle_of_drains ht)
      have hmu : Moves c ℓ id (t :: L) ((u.session id).due m ++ t :: L) w u :=
        .of_becomes hu fun K hK => by
          rw [List.append_assoc, hu.session]
          exact .single (.dispatched ht (room.free K hK) hq)
      have hless : (u.session id).WaitsLess (w.session id) := by
        rw [hu.session]
        exact ⟨hq ▸ List.suffix_cons m rest, List.suffix_refl _⟩
      have hlen : (u.session id).responses.length + 1 = (w.session id).responses.length := by
        rw [hu.session, hq]
        rfl
      refine Ends.bind ((ends_dispatchResponse hc (hw.sound.kinds m hmem) (hmu.ready hw) hread).mono ?_)
      rintro result v ⟨hv, hok, -⟩
      have hmv : Moves c ℓ id (t :: L) (t :: L) w v := hmu.trans (hv.under hidle)
      have hempty : c.LeavesPhases → (w.session id).Emptied → (v.session id).Emptied := fun hp he =>
        hv.emptied (phase_not_mem_due _ m) hp fun hs => by
          rw [hu.session] at hs
          cases hq.symm.trans (Prod.mk.inj (he hs)).1
      cases result with
      | error f =>
        refine ⟨hmv, hempty, fun calm => ?_⟩
        cases hok (calm.tame m ((hv.steps [] Task.areIdle_nil).suffix.subset hread))
      | ok _ =>
        refine next_ok ((ih (done + 1) (hmv.ready hw)).mono fun result x hx => ?_)
        obtain ⟨hx, hxempty, hend⟩ := hx
        refine ⟨hmv.trans hx, fun hp he => hxempty hp (hempty hp he),
          fun calm => ⟨(hend calm).1, fun hp hs => ?_⟩⟩
        have hwaits := hv.waitsLess (due_apart _ m) hp (hmu.config_eq.symm ▸ hs) (hx.calm calm)
        obtain ⟨hxless, hnone⟩ := (hend calm).2 hp (hmv.config_eq.symm ▸ hs)
        refine ⟨hxless.trans (hwaits.trans hless), fun hl => hnone ?_⟩
        have hle := hwaits.responses.length_le
        omega

lemma ends_dispatchResponses (hc : Abides c call) (ht : t.drains) (room : ℓ.Room c .dispatchResponses L)
    {w : World} (hw : w.Ready c id) : Ends (dispatchResponses call id) w fun result v =>
      Moves c ℓ id (t :: L) (t :: L) w v ∧
        (c.LeavesPhases → (w.session id).Emptied → (v.session id).Emptied) ∧
        (Calm id (v.session id) (v.story id) →
          (∃ n, result = .ok n) ∧ (c.LeavesPhases → c.Sends (w.session id).config →
            (v.session id).WaitsLess (w.session id) ∧ (v.session id).responses = [])) := by
  refine ends_getSession_bind ((ends_dispatchResponsesUpTo hc ht room _ 0 hw).mono ?_)
  rintro result v ⟨hm, he, hend⟩
  refine ⟨hm, he, fun calm => ⟨(hend calm).1, fun hp hs => ?_⟩⟩
  obtain ⟨hless, hempty⟩ := (hend calm).2 hp hs
  exact ⟨hless, hempty (Nat.le_refl _)⟩

lemma ends_dispatchErrorsUpTo (hc : Abides c call) (ht : t.drains) (room : ℓ.Room c .dispatchErrors L)
    (fuel done : Nat) {w : World} (hw : w.Ready c id) :
    Ends (dispatchErrorsUpTo call id fuel done) w fun result v =>
      Moves c ℓ id (t :: L) (t :: L) w v ∧
        (c.LeavesPhases → (w.session id).Emptied → (v.session id).Emptied) ∧ (∃ n, result = .ok n) ∧
        (Calm id (v.session id) (v.story id) → c.LeavesPhases → c.Sends (w.session id).config →
          (v.session id).WaitsLess (w.session id) ∧
            ((w.session id).errors.length ≤ fuel → (v.session id).errors = [])) := by
  induction fuel generalizing done w with
  | zero =>
    refine ends_pure ⟨.of_alike (.refl w), fun _ h => h, ⟨done, rfl⟩, fun _ _ _ => ⟨.refl _, fun hl => ?_⟩⟩
    exact List.length_eq_zero_iff.mp (Nat.le_zero.mp hl)
  | succ fuel ih =>
    refine ends_getSession_bind ?_
    split
    next hq =>
      exact ends_pure ⟨.of_alike (.refl w), fun _ h => h, ⟨done, rfl⟩, fun _ _ _ => ⟨.refl _, fun _ => hq⟩⟩
    next m rest hq =>
      have hmem : m ∈ (w.session id).errors := hq ▸ List.mem_cons_self
      have hread := hw.sound.inbox m (List.mem_append_right _ hmem)
      refine ends_turn_bind hw.lt fun u hu => ?_
      have hread : .dealt id (.read m) ∈ u.story id := hu.story ▸ List.mem_cons_of_mem _ hread
      have hidle : Task.AreIdle (t :: L) := room.idle.cons (Task.isIdle_of_drains ht)
      have hmu : Moves c ℓ id (t :: L) ((u.session id).due m ++ t :: L) w u :=
        .of_becomes hu fun K hK => by
          rw [List.append_assoc, hu.session]
          exact .single (.dispatchedError ht (room.free K hK) hq)
      have hless : (u.session id).WaitsLess (w.session id) := by
        rw [hu.session]
        exact ⟨List.suffix_refl _, hq ▸ List.suffix_cons m rest⟩
      have hlen : (u.session id).errors.length + 1 = (w.session id).errors.length := by
        rw [hu.session, hq]
        rfl
      refine Ends.bind ((ends_dispatchError hc (hw.sound.errorKinds m hmem) (hmu.ready hw) hread).mono ?_)
      rintro result v ⟨hv, rfl, -⟩
      have hmv : Moves c ℓ id (t :: L) (t :: L) w v := hmu.trans (hv.under hidle)
      have hempty : c.LeavesPhases → (w.session id).Emptied → (v.session id).Emptied := fun hp he =>
        hv.emptied (phase_not_mem_due _ m) hp fun hs => by
          rw [hu.session] at hs
          cases hq.symm.trans (Prod.mk.inj (he hs)).2
      refine next_ok ((ih (done + 1) (hmv.ready hw)).mono fun result x hx => ?_)
      obtain ⟨hx, hxempty, hok, hend⟩ := hx
      refine ⟨hmv.trans hx, fun hp he => hxempty hp (hempty hp he), hok, fun calm hp hs => ?_⟩
      have hwaits := hv.waitsLess (due_apart _ m) hp (hmu.config_eq.symm ▸ hs) (hx.calm calm)
      obtain ⟨hxless, hnone⟩ := hend calm hp (hmv.config_eq.symm ▸ hs)
      refine ⟨hxless.trans (hwaits.trans hless), fun hl => hnone ?_⟩
      have hle := hwaits.errors.length_le
      omega

lemma ends_dispatchErrors (hc : Abides c call) (ht : t.drains) (room : ℓ.Room c .dispatchErrors L)
    {w : World} (hw : w.Ready c id) : Ends (dispatchErrors call id) w fun result v =>
      Moves c ℓ id (t :: L) (t :: L) w v ∧
        (c.LeavesPhases → (w.session id).Emptied → (v.session id).Emptied) ∧ (∃ n, result = .ok n) ∧
        (Calm id (v.session id) (v.story id) → c.LeavesPhases → c.Sends (w.session id).config →
          (v.session id).WaitsLess (w.session id) ∧ (v.session id).errors = []) := by
  refine ends_getSession_bind ((ends_dispatchErrorsUpTo hc ht room _ 0 hw).mono ?_)
  rintro result v ⟨hm, he, hok, hend⟩
  refine ⟨hm, he, hok, fun calm hp hs => ?_⟩
  obtain ⟨hless, hempty⟩ := hend calm hp hs
  exact ⟨hless, hempty (Nat.le_refl _)⟩

end LanguageClient.Session
