import LanguageClient.Proofs.Steps.Exchange
import LanguageClient.Proofs.Steps.Over
import LanguageClient.Proofs.Steps.Receiving
import LanguageClient.Session.Lifecycle

/-!
The steps of a session's life: it is launched and introduced, learns what its server can do, is shut
down and torn down.
-/

namespace LanguageClient.Session

open Act World

variable {c : Conduct} {call : Caller} {ℓ : Level} {id : SessionId} {L : List Task}

/-! Launching -/

lemma isRemark_forM_log (lines : List Text) :
    IsRemark (lines.forM fun line => log .client Level.debug line) := by
  induction lines with
  | nil => exact isRemark_pure
  | cons line rest ih => exact (isRemark_log _ _ _).andThen ih

lemma ends_launch {w : World} (hw : w.Ready c id) (hl : (w.session id).link = none)
    (hs : (w.session id).status = .uninitialized) : Ends (launch id) w fun result v =>
      Moves c .callback id [] [] w v ∧ (v.session id).status = (w.session id).status ∧
        (result = .ok () → (v.session id).link.isSome) := by
  refine ends_get_bind ?_
  dsimp only
  split
  next =>
    refine (isRemark_forM_log _).bind fun v hv => ?_
    have hb : Becomes id _ _ w v := hv.becomes
    split <;> exact ends_throw ⟨.of_alike hv, congrArg status hb.session, nofun⟩
  next =>
    split
    next => exact ends_throw ⟨Course.refl w, rfl, nofun⟩
    next =>
      have hr := becomes_record (w := w) (e := .launched id (w.session id).name) fun _ => rfl
      refine ends_record_bind (ends_updateSession hw.lt fun v hv => ?_)
      rw [hr.session, hr.story] at hv
      refine ⟨.of_becomes (hr.trans hv) fun K _ => .single (.launched hl hs), ?_, fun _ => ?_⟩
      · rw [hv.session]
      · rw [hv.session]
        rfl

lemma ends_start {w : World} (hw : w.Ready c id) : Ends (start id) w fun result v =>
    Moves c .callback id [] [] w v ∧ (v.session id).status = (w.session id).status ∧
      (result = .ok () → (v.session id).link.isSome) := by
  refine ends_getSession_bind ?_
  dsimp only
  split
  next hl => exact ends_pure ⟨Course.refl w, rfl, fun _ => hl⟩
  next hl =>
    split
    next => exact ends_throw ⟨Course.refl w, rfl, nofun⟩
    next hs => exact ends_launch hw (by simpa using hl) (by simpa using hs)

lemma openingParams_eq {s s' : Session} (h : s'.config = s.config) (rootUri : Json)
    (rootPath : Option Text) (name version : Json) :
    s'.openingParams rootUri rootPath name version = s.openingParams rootUri rootPath name version := by
  unfold openingParams setting
  rw [h]

lemma moves_handshake {rootUri name version : Json} {callback : Option Callback}
    (ha : c.allows (.handshake rootUri name version callback))
    (ho : callbackObeys c.callback callback) :
    Stays c id [] (handshake id rootUri name version callback) := by
  refine within_of_ends fun w hw => ends_getSession_bind ?_
  dsimp only
  split
  next => exact (isRemark_log _ _ _).bind fun v hv => .of_alike hv
  next hs =>
    have hs : (w.session id).status = .uninitialized := by simpa using hs
    refine Ends.bind ((ends_start hw).mono ?_)
    rintro result v ⟨hv, hst, hlink⟩
    cases result with
    | error f => exact hv
    | ok _ =>
      refine next_ok (ends_check_bind (fun rootPath hp => ?_) fun f _ => hv)
      refine ends_update (hv.ready hw).lt fun x hx => (isRemark_log _ _ _).bind fun y hy =>
        ends_getSession_bind ?_
      have hb := hx.alike hy
      rw [hb.session, ← openingParams_eq hv.config_eq]
      refine ends_note fun t ht => ?_
      have hbt := hb.trans ht
      rw [hb.session, hb.story] at hbt
      let r := (v.session id).openingRequest
        ((v.session id).openingParams rootUri rootPath name version) callback
      have haccept := ends_accept (f := fun s => s.queue (.inr r)) (.inr r) (fun _ => rfl)
        (hbt.lt (hv.ready hw).lt)
      refine Ends.mono haccept ?_
      rintro result z ⟨rfl, hz⟩
      rw [hbt.session, hbt.story] at hz
      refine hv.trans (.of_becomes (hbt.trans hz) fun K _ => .single ?_)
      exact .introduced (hst.trans hs) (hlink rfl) ha ho hp

/-! The answer to the request that opens a session -/

lemma ends_callBack (hc : Abides c call) {callback : Option Callback}
    (ho : callbackObeys c.callback callback) (ticket : Nat) (m : Fields) {w : World}
    (hw : w.Ready c id) : Ends (callBack call callback id ticket (.object m)) w fun result v =>
      Moves c .callback id (Task.owed ticket m (callback.map .host)) [] w v ∧
        ((∃ x, result = .ok x) ∨
          (∃ label actions fault, callback = some (.mk label actions (some fault))) ∨
            .noted id .tooDeep ∈ v.story id) := by
  cases callback with
  | none => exact ends_pure ⟨.of_alike (.refl w), .inl ⟨(), rfl⟩⟩
  | some callback =>
    have hanswer := hc.answer (.host callback) id ticket m ho w hw
    obtain ⟨label, actions, fails⟩ := callback
    cases fails with
    | none =>
      have hreturns := hc.returns label actions id ticket (.object m) w
      exact ⟨hanswer, hreturns.imp_right .inr⟩
    | some fault => exact ⟨hanswer, .inr (.inl ⟨label, actions, fault, rfl⟩)⟩

lemma error_fields_of_field {v : Json} {key : Text} {f : Fault} (h : v.field key = .error f) :
    v.fields = .error f := by
  cases v with
  | object fields => cases h
  | _ => obtain rfl := Except.error.inj h; rfl

lemma moves_openingRefused (hc : Abides c call) {callback : Option Callback}
    (ho : callbackObeys c.callback callback) (ticket : Nat) (m : Fields) :
    Within (Moves c .callback id
        (Task.owed ticket m (callback.map .host) ++ [.refused ticket callback m]) []) (Ready c id)
      (openingRefused call callback id ticket (m.getD "error" .null) (.object m)) := by
  refine within_of_ends fun w hw => Ends.bind ((ends_callBack hc ho ticket m hw).mono ?_)
  rintro result v ⟨hv, hreason⟩
  have hcalled := hv.under (ℓ := .callback) (K := [.refused ticket callback m])
    (Task.areIdle_singleton rfl)
  have hspared : ∀ {u : World}, Alike v u → ((v.session id).status ≠ .initializing ∨
      (∃ f, (m.getD "error" .null).fields = .error f) ∨
      (∃ label actions fault, callback = some (.mk label actions (some fault))) ∨
        .noted id .tooDeep ∈ v.story id) →
      Moves c .callback id
        (Task.owed ticket m (callback.map .host) ++ [.refused ticket callback m]) [] w u :=
    fun hu h => hcalled.trans (.of_becomes hu.becomes fun K _ => .single (.spared h))
  cases result with
  | error f => exact hspared (.refl v) (.inr (.inr (hreason.resolve_left nofun)))
  | ok _ =>
    refine next_ok (ends_getSession_bind ?_)
    split
    next hs => exact ends_pure (hspared (.refl v) (.inl hs))
    next hs =>
      have hs : (v.session id).status = .initializing := by simpa using hs
      refine ends_check_bind (fun code _ => ?_) fun f hf =>
        hspared (.refl v) (.inr (.inl ⟨f, error_fields_of_field hf⟩))
      refine ends_check_bind (fun text _ => ?_) fun f hf =>
        hspared (.refl v) (.inr (.inl ⟨f, error_fields_of_field hf⟩))
      refine (isRemark_log _ _ _).bind fun x hx => ?_
      have hb : Becomes id (v.session id) (v.story id) v x := hx.becomes
      refine ends_updateSession (hb.lt (hcalled.ready hw).lt) fun y hy => ?_
      rw [hb.session, hb.story] at hy
      exact hcalled.trans (.of_becomes (hb.trans hy) fun K _ => .single (.doomed _ hs))

/-- What is learnt from a result. From one that holds and is no object nothing can be learnt. -/
inductive Learns (id : SessionId) (result : Json) (w : World) : Except Fault Unit → World → Prop where
  | refused {f v} (holds : result.holds) (fields : result.fields = .error f)
    (becomes : Becomes id (w.session id) (w.story id) w v) : Learns id result w (.error f) v
  | learnt {capabilities serverInfo v}
    (fields : result.holds → ∃ fields, result = .object fields)
    (becomes : Becomes id
      { w.session id with capabilities := some capabilities, serverInfo := serverInfo } (w.story id)
        w v) : Learns id result w (.ok ()) v

lemma ends_learn (result : Json) {w : World} (hw : id < w.sessions.length) :
    Ends (learn id result) w (Learns id result w) := by
  unfold learn
  split
  next hh =>
    have hsame : Becomes id (w.session id) (w.story id) w w := (Alike.refl w).becomes
    cases result with
    | object fields =>
      refine ends_check_bind (fun capabilities _ => ?_) fun f hf => by cases hf
      refine ends_update hw fun u hu => ?_
      refine ends_check_bind (fun info _ => ?_) fun f hf => by cases hf
      refine ends_updateSession (hu.lt hw) fun v hv => ?_
      rw [hu.session, hu.story] at hv
      exact .learnt (fun _ => ⟨fields, rfl⟩) (hu.trans hv)
    | null => cases hh
    | bool | int | float | text | list => exact .refused hh rfl hsame
  next hh =>
    refine ends_updateSession hw fun v hv => ?_
    exact .learnt (fun h => (hh h).elim) hv

lemma ends_announce {w : World} (hw : id < w.sessions.length) :
    Ends (announce id) w fun result v => result = .ok () ∧
      Becomes id ((w.session id).queue (.inl opened)).flush
        (.noted id (.announced (w.session id).deferred) :: w.story id) w v := by
  refine ends_getSession_bind (ends_note fun u hu => ends_updateSession (hu.lt hw) fun v hv => ?_)
  rw [hu.session, hu.story] at hv
  exact ⟨rfl, hu.trans hv⟩

/-- The answer to the request that opens a session comes too late, or nothing can be learnt from it, or
the session is welcomed before anyone is called. -/
lemma ends_openingAccepted {callback : Option Callback} {ticket : Nat} {m : Fields} {w : World}
    {Q : Except Fault Unit → World → Prop} (hw : id < w.sessions.length)
    (late : ∀ v, (w.session id).status ≠ .initializing →
      Becomes id (w.session id) (.noted id (.late ticket) :: w.story id) w v → Q (.ok ()) v)
    (stuck : ∀ f v, (w.session id).status = .initializing → (m.getD "result" .null).holds →
      (m.getD "result" .null).fields = .error f →
        Becomes id { w.session id with status := .initialized } (w.story id) w v → Q (.error f) v)
    (welcomed : ∀ capabilities serverInfo v, (w.session id).status = .initializing →
      ((m.getD "result" .null).holds → ∃ fields, m.getD "result" .null = .object fields) →
        Becomes id ((w.session id).welcome capabilities serverInfo)
          (.noted id (.announced (w.session id).deferred) :: w.story id) w v → Ends (do
            callBack call callback id ticket (.object m)
            let _ ← fireEvent call id "initialized" []) v Q) :
    Ends (openingAccepted call callback id ticket (.object m)) w Q := by
  refine ends_getSession_bind ?_
  split
  next hs => exact ends_note fun v hv => ends_pure (late v hs hv)
  next hs =>
    have hs : (w.session id).status = .initializing := by simpa using hs
    refine ends_update hw fun u hu => ?_
    refine ends_check_bind (fun result hr => ?_) fun f hf => by cases hf
    obtain rfl : m.getD "result" .null = result := Except.ok.inj hr
    refine Ends.bind ((ends_learn _ (hu.lt hw)).mono ?_)
    rintro r v hlearn
    cases hlearn with
    | refused holds fields becomes =>
      rw [hu.session, hu.story] at becomes
      exact stuck _ v hs holds fields (hu.trans becomes)
    | learnt fields becomes =>
      have hb := hu.trans becomes
      rw [hu.session, hu.story] at hb
      refine next_ok ((isRemark_log _ _ _).bind fun x hx => ?_)
      have hbx := hb.alike hx
      refine Ends.bind ((ends_announce (hbx.lt hw)).mono ?_)
      rintro r y ⟨rfl, hy⟩
      rw [hbx.session, hbx.story] at hy
      exact next_ok (welcomed _ _ y hs fields (hbx.trans hy))

lemma moves_openingAccepted (hc : Abides c call) {callback : Option Callback}
    (ho : callbackObeys c.callback callback) (ticket : Nat) {m : Fields}
    (he : (m.getD "error" .null).holds = false) :
    Within (Moves c .callback id [.answering ticket (.opening callback) m] []) (Ready c id)
      (openingAccepted call callback id ticket (.object m)) := by
  refine within_of_ends fun w hw => ends_openingAccepted hw.lt (fun v hs hv => ?_)
    (fun f v hs holds fields hv => ?_) fun capabilities serverInfo v hs fields hv => ?_
  · exact .of_becomes hv fun K _ => .single (.late he hs)
  · exact .of_becomes hv fun K _ => .single (.stuck he hs holds fields)
  · have hwelcome : Moves c .callback id [.answering ticket (.opening callback) m]
        (Task.owed ticket m (callback.map .host) ++ [.opening callback]) w v :=
      .of_becomes hv fun K _ => by
        rw [List.append_assoc]
        exact .single (.welcomed he hs fields)
    refine Ends.bind ((ends_callBack hc ho ticket m (hwelcome.ready hw)).mono ?_)
    rintro r z ⟨hz, hreason⟩
    have hopen := hwelcome.trans (hz.under (ℓ := .callback) (Task.areIdle_singleton rfl))
    cases r with
    | error f =>
      refine hopen.trans (.of_becomes (Alike.refl z).becomes fun K _ => .single ?_)
      exact .undeclared (hreason.resolve_left nofun)
    | ok _ =>
      have hk : Json.key "initialized" = .ok (.text "initialized") := rfl
      refine next_ok (Ends.bind ((ends_fireEvent (M := []) hc [] hk Task.areIdle_nil hw
        fun u hu => hopen.trans (.of_becomes hu fun K _ => .single .declared)).mono ?_))
      rintro r x ⟨⟨n, rfl⟩, hx, -⟩
      exact next_ok (ends_pure hx)

lemma moves_openingAnswered (hc : Abides c call) {callback : Option Callback}
    (ho : callbackObeys c.callback callback) (ticket : Nat) (m : Fields) :
    Within (Moves c .callback id [.answering ticket (.opening callback) m] []) (Ready c id)
      (openingAnswered call callback id ticket (.object m)) := by
  refine within_of_ends fun w hw => ?_
  refine ends_check_bind (fun error he => ?_) fun f hf => by cases hf
  obtain rfl : m.getD "error" .null = error := Except.ok.inj he
  split
  next hh =>
    have hdown : Moves c .callback id [.answering ticket (.opening callback) m]
        (Task.owed ticket m (callback.map .host) ++ [.refused ticket callback m]) w w :=
      .of_becomes (Alike.refl w).becomes fun K _ => by
        rw [List.append_assoc]
        exact .single (.turnedDown hh)
    exact hdown.trans ((moves_openingRefused hc ho ticket m).after w hw)
  next hh =>
    exact (moves_openingAccepted hc ho ticket (by simpa using hh)).after w hw

/-! Ending -/

lemma ends_teardown (hc : Abides c call) (reason timeout : Json) {w₀ w : World}
    (hw₀ : w₀.Ready c id) (hlt : id < w.sessions.length)
    (hover : (w.session id).status = .terminated → Moves c .callback id L [] w₀ w)
    (hend : (w.session id).status ≠ .terminated → ∀ v,
      Becomes id { w.session id with status := .terminated } (.noted id .ended :: w.story id) w v →
        Moves c .callback id L [.ending (w.session id).correlator.lastId] w₀ v) :
    Ends (teardown call id reason timeout) w fun result v =>
      result = .ok () ∧ Moves c .callback id L [] w₀ v ∧ (v.session id).status = .terminated := by
  refine ends_getSession_bind ?_
  dsimp only
  split
  next hs => exact ends_pure ⟨rfl, hover hs, hs⟩
  next hs =>
    refine ends_update hlt fun x hx => ends_note fun u hu => ?_
    rw [hx.session, hx.story] at hu
    have hu := hx.trans hu
    have hmu := hend hs u hu
    have hleaving : (u.session id).status.isLeaving := by rw [hu.session]; rfl
    refine Ends.bind ((ends_failAll hc _ _ (hmu.ready hw₀) hleaving).mono ?_)
    rintro result v ⟨⟨n, rfl⟩, hv, hsettled⟩
    rw [hu.session] at hsettled
    have hmv : Moves c .callback id L [.ending (w.session id).correlator.lastId] w₀ v :=
      hmu.trans (hv.lift (Task.areIdle_singleton rfl))
    have hname : (v.session id).name = (w.session id).name := by rw [hv.name_eq, hu.session]
    have hover : (v.session id).status = .terminated :=
      hv.terminated (by rw [hu.session])
    refine next_ok (ends_update (hmv.ready hw₀).lt fun x hx => ends_getSession_bind ?_)
    have hrest : ∀ y text es, Becomes id (v.session id).buried es v y →
        (v.session id).burial id timeout ++ v.story id = .noted id (.fired (.text "shutdown")) :: es →
        Ends (do
          log .client Level.info text
          let _ ← fireEvent call id "shutdown" []) y fun result z =>
        result = .ok () ∧ Moves c .callback id L [] w₀ z ∧ (z.session id).status = .terminated := by
      intro y text es hy hes
      refine (isRemark_log _ _ _).bind fun z hz => ?_
      have hbz := hy.alike hz
      have hk : Json.key "shutdown" = .ok (.text "shutdown") := rfl
      refine Ends.bind ((ends_fireEvent (L := L) (M := []) hc [] hk Task.areIdle_nil hw₀
        fun u hu => ?_).mono ?_)
      · rw [hbz.session, hbz.story, ← hes] at hu
        exact hmv.trans (.of_becomes (hbz.trans hu) fun K _ => .single (.buried timeout hover hsettled))
      rintro result t ⟨⟨n, rfl⟩, ht, hterminated⟩
      exact next_ok (ends_pure ⟨rfl, ht, hterminated (hbz.session ▸ hover)⟩)
    split
    next hl =>
      obtain ⟨link, hl⟩ := Option.isSome_iff_exists.mp hl
      have hr := hx.record (e := .closed id (w.session id).name timeout) fun _ => rfl
      refine ends_record_bind (ends_update (hr.lt (hmv.ready hw₀).lt) fun y hy => ?_)
      rw [hr.session, hr.story] at hy
      rw [hx.session] at hl
      have hburial : (v.session id).burial id timeout = [.noted id (.fired (.text "shutdown")),
          .closed id (w.session id).name timeout] := by
        rw [burial, show (v.session id).link = some link from hl, hname]
      exact hrest y _ _ (hr.trans hy) (hburial ▸ rfl)
    next hl =>
      rw [hx.session, Bool.not_eq_true, Option.isSome_eq_false_iff, Option.isNone_iff_eq_none] at hl
      have hl : (v.session id).link = none := hl
      have hburial : (v.session id).burial id timeout = [.noted id (.fired (.text "shutdown"))] := by
        rw [burial, hl]
      have hburied : (v.session id).buried = { (v.session id).clearQueues with openDocuments := [] } := by
        simp [buried, clearQueues, hl]
      exact hrest x _ _ (hburied ▸ hx) (hburial ▸ rfl)

lemma moves_teardown (hc : Abides c call) (reason timeout : Json) {w : World} (hw : w.Ready c id) :
    Ends (teardown call id reason timeout) w fun result v =>
      result = .ok () ∧ Moves c .callback id [] [] w v ∧ (v.session id).status = .terminated :=
  ends_teardown hc reason timeout hw hw.lt (fun _ => Course.refl w) fun hs _ hv =>
    .of_becomes hv fun _ _ => .single (.ended hs)

/-- A session that is torn down turns to its end at once. -/
lemma quits_teardown (hc : Abides c call) (reason timeout : Json) {w : World} (hw : w.Ready c id)
    (hs : (w.session id).status ≠ .terminated) :
    Ends (teardown call id reason timeout) w fun _ v => Quits c id w v := by
  -- The world in which the session is over, and nothing failed yet.
  obtain ⟨u, hu⟩ : ∃ u, Becomes id { w.session id with status := .terminated }
      (.noted id .ended :: w.story id) w u :=
    ⟨_, (becomes_setSession hw.lt _).record fun _ => rfl⟩
  have hended : Moves c .callback id [] [.ending (w.session id).correlator.lastId] w u :=
    .of_becomes hu fun K _ => .single (.ended hs)
  refine (ends_teardown (L := [.ending (w.session id).correlator.lastId]) hc reason timeout
    (hended.ready hw) hw.lt (fun h => (hs h).elim) fun _ v hv => ?_).mono fun _ v hv => ?_
  · refine .of_becomes (hu.agree hv) fun K _ => ?_
    rw [position, hu.session, hu.story]
  · exact .of_moves (by simp) hended (by rw [hu.session]; rfl) (by rw [hu.session]) hv.2.1

/-- What a server is told at the end: to shut down, and to exit if the first could be told. -/
inductive Goodbye (id : SessionId) (s : Session) (es : List Event) :
    Except Fault Unit → List Event → Prop where
  | said {es₁ es₂ result} (told : Writes id s s.shutdownRequest es (.ok ()) es₁)
    (left : Writes id s exitNotification es₁ result es₂) : Goodbye id s es result es₂
  | unheard {f es₁} (told : Writes id s s.shutdownRequest es (.error f) es₁) :
    Goodbye id s es (.error f) es₁

lemma ends_sayGoodbye {w : World} (hw : id < w.sessions.length) :
    Ends (sayGoodbye id) w fun result v => ∃ es,
      Goodbye id (w.session id) (w.story id) result es ∧
        Becomes id { w.session id with correlator := (w.session id).correlator.advance } es w v := by
  refine ends_update hw fun u hu => ends_getSession_bind ?_
  dsimp only
  rw [hu.session]
  refine Ends.bind ((ends_write _ u).mono ?_)
  rintro result v ⟨es, hwrites, hv⟩
  rw [hu.session] at hv
  rw [hu.session, hu.story] at hwrites
  have htold : Writes id (w.session id) _ _ _ es := hwrites.of_eq rfl rfl
  cases result with
  | error f => exact ⟨es, .unheard htold, hu.trans hv⟩
  | ok _ =>
    refine next_ok ((ends_write _ v).mono ?_)
    rintro result x ⟨es', hwrites', hx⟩
    rw [hv.session] at hx
    rw [hv.session, hv.story] at hwrites'
    exact ⟨es', .said htold (hwrites'.of_eq rfl rfl), (hu.trans hv).trans hx⟩

lemma exitNotification_encodes : exitNotification.Encodes := ⟨_, rfl⟩

lemma shutdownRequest_encodes {s : Session} (h : s.nextNumber < numberLimit) :
    s.shutdownRequest.Encodes := by
  refine encodes_of_isPlain ?_
  have hn := isPlain_ofNat h
  simp only [shutdownRequest, Message.request, Json.isPlain, Json.fieldsArePlain, List.map, hn]
  decide +kernel

/-- A session says goodbye and is over then, unless it ran out of numbers. -/
lemma ends_farewell (hc : Abides c call) (timeout : Json) (tag : Text) {w v : World} (hw : w.Ready c id)
    (hs : (w.session id).status = .shuttingDown)
    (hv : Becomes id (w.session id).clearQueues (w.story id) w v) :
    Ends (do
      match ← (sayGoodbye id).attempt with
      | .ok _ => pure ()
      | .error f =>
        if f.isClosed then log .client Level.debug (tag ++ f.message?.getD [])
        else throw f
      teardown call id "Shutdown" timeout) v fun _ x => Moves c .callback id [.leaving true] [] w x ∧
        ((x.session id).status = .terminated ∨ numberLimit ≤ (x.session id).correlator.lastId) := by
  refine Ends.attempt_bind ((ends_sayGoodbye (hv.lt hw.lt)).mono ?_)
  rintro result z ⟨es, hgoodbye, hz⟩
  rw [hv.session] at hz
  rw [hv.session, hv.story] at hgoodbye
  have hend : ∀ t, Alike z t → (∀ K, Step c id ⟨w.session id, w.story id, .leaving true :: K⟩
      ⟨{ (w.session id).clearQueues with
          status := .terminated, correlator := (w.session id).correlator.advance },
        .noted id .ended :: es, .ending (w.session id).nextNumber :: K⟩) →
      Ends (teardown call id "Shutdown" timeout) t fun _ x => Moves c .callback id [.leaving true] [] w x ∧
        ((x.session id).status = .terminated ∨ numberLimit ≤ (x.session id).correlator.lastId) := by
    intro t ht hstep
    have hbt := (hv.trans hz).alike ht
    refine (ends_teardown hc _ _ hw (hbt.lt hw.lt) (fun h => ?_) fun _ x hx => ?_).mono
      fun _ _ h => ⟨h.2.1, .inl h.2.2⟩
    · rw [hbt.session] at h
      cases hs.symm.trans h
    · rw [hbt.session, hbt.story] at hx
      rw [hbt.session]
      exact .of_becomes (hbt.trans hx) fun K _ => .single (hstep K)
  cases hgoodbye with
  | said told left =>
    cases result with
    | ok _ => exact hend z (.refl z) fun K => .saidGoodbye hs (told.of_eq rfl rfl) (left.of_eq rfl rfl)
    | error f =>
      dsimp only
      rw [if_pos (left.isClosed exitNotification_encodes)]
      exact (isRemark_log _ _ _).bind fun t ht =>
        hend t ht fun K => .saidGoodbye hs (told.of_eq rfl rfl) (left.of_eq rfl rfl)
  | unheard told =>
    dsimp only
    split
    next hf =>
      exact (isRemark_log _ _ _).bind fun t ht =>
        hend t ht fun K => .unheardGoodbye hs hf (told.of_eq rfl rfl)
    next hf =>
      cases told with
      | unencodable linked encodes closed =>
        refine ends_throw ⟨.of_becomes (hv.trans hz) fun K _ =>
          .single (.abandoned (s := w.session id) hs encodes), .inr ?_⟩
        rw [(hv.trans hz).session]
        exact not_lt.mp fun hlt => encodes (shutdownRequest_encodes hlt)
      | refused linked refuses encodes closed => exact (hf closed).elim
      | unlinked linked closed => exact (hf closed).elim

/-- A session that is not leaving yet turns to its end when it is shut down, and is over then, unless it
ran out of numbers. -/
lemma ends_shutdown (hc : Abides c call) (timeout : Json) (earlier : List Event) {w : World}
    (hw : w.Ready c id) :
    let L := [Task.performing (.shutdown timeout) (w.session id) earlier]
    Ends (shutdown call id timeout) w fun _ v => Moves c .callback id L L w v ∧
      ((w.session id).status.isLeaving = false → Quits c id w v ∧
        ((v.session id).status = .terminated ∨ numberLimit ≤ (v.session id).correlator.lastId)) := by
  intro L
  have hL : Task.AreIdle L := Task.areIdle_singleton rfl
  refine ends_getSession_bind ?_
  dsimp only
  split
  next hs => exact ends_pure ⟨Course.refl w, fun h => by rw [hs] at h; cases h⟩
  next hs =>
    rw [Bool.not_eq_true] at hs
    refine (isRemark_log _ _ _).bind fun x hx => ?_
    have hb : Becomes id _ _ w x := hx.becomes
    refine ends_update (hb.lt hw.lt) fun u hu => ?_
    rw [hb.session, hb.story] at hu
    have hu := hb.trans hu
    obtain ⟨wasOpen, hwas⟩ : ∃ b, decide ((w.session id).status = .initialized) = b := ⟨_, rfl⟩
    have hleft : Moves c .callback id L (.leaving wasOpen :: L) w u :=
      .of_becomes hu fun K _ => .single (hwas ▸ .left hs)
    refine Ends.mono (Q := fun _ v => Moves c .callback id [.leaving wasOpen] [] u v ∧
      ((v.session id).status = .terminated ∨ numberLimit ≤ (v.session id).correlator.lastId)) ?_
      fun _ v hv => ⟨hleft.trans (hv.1.under hL), fun _ =>
        ⟨.of_moves (by simp [L]) hleft (by rw [hu.session]; rfl) (by rw [hu.session])
          (hv.1.under hL), hv.2⟩⟩
    replace hw := hleft.ready hw
    refine Ends.bind ((ends_failAll hc _ _ hw (by rw [hu.session]; rfl)).mono ?_)
    rintro result v ⟨⟨n, rfl⟩, hv, -⟩
    have hmv : Moves c .callback id [.leaving wasOpen] [.leaving wasOpen] u v :=
      hv.lift (Task.areIdle_singleton rfl)
    have hleaving : (v.session id).status = .shuttingDown ∨ (v.session id).status = .terminated :=
      hv.isLeaving (by rw [hu.session])
    -- A callback may have torn the session down meanwhile: then its link is closed.
    have hclosed : (v.session id).status = .terminated → (v.session id).isAlive = false := fun ht =>
      ((hv.steps [.calling] (Task.areIdle_singleton rfl)).isClosed (by simp) (by rw [hu.session]; simp)
        ht).isAlive
    refine next_ok (ends_update (hmv.ready hw).lt fun y hy => ends_getSession_bind ?_)
    rw [hy.session]
    split
    next hopen =>
      rw [Bool.and_eq_true] at hopen
      have hlive : (v.session id).isAlive = true := hopen.2
      have hstatus : (v.session id).status = .shuttingDown := hleaving.resolve_right fun ht => by
        rw [hclosed ht] at hlive
        cases hlive
      obtain rfl : wasOpen = true := hwas.symm.trans hopen.1
      exact (ends_farewell hc timeout _ (hmv.ready hw) hstatus hy).mono fun _ _ hx =>
        ⟨hmv.trans hx.1, hx.2⟩
    next hsilent =>
      refine (ends_teardown hc _ _ hw (hy.lt (hmv.ready hw).lt) (fun h => ?_) fun h x hx => ?_).mono
        fun _ _ h => ⟨h.2.1, .inl h.2.2⟩
      · rw [hy.session] at h
        exact hmv.trans (.of_becomes hy fun K _ => .single (.overtaken h))
      · rw [hy.session] at h
        rw [hy.session, hy.story] at hx
        rw [hy.session]
        have hstatus := hleaving.resolve_right h
        refine hmv.trans (.of_becomes (hy.trans hx) fun K _ => .single (.parted ?_ hstatus))
        rw [Bool.not_eq_true, Bool.and_eq_false_iff, hwas] at hsilent
        exact hsilent

/-! Ticks -/

/-- What is so when a tick comes to its end: all that the server wrote before was taken, and if callbacks
left the phases alone, no message waits. -/
structure Drained (c : Conduct) (id : SessionId) (s : Session) (v : World) : Prop where
  received : ∀ data ∈ s.incoming?, .noted id (.received data) ∈ v.story id
  dispatched : c.LeavesPhases → (v.session id).responses = [] ∧ (v.session id).errors = []

/-- What callbacks do afterwards makes no difference. -/
lemma Drained.moves {s : Session} {u v : World} (h : Drained c id s u)
    (hm : Moves c .callback id [] [] u v) (hs : c.Sends (u.session id).config)
    (calm : Calm id (v.session id) (v.story id)) : Drained c id s v where
  received data hd := (hm.steps [] Task.areIdle_nil).suffix.subset (h.received data hd)
  dispatched hp := by
    obtain ⟨hresponses, herrors⟩ := h.dispatched hp
    have hless := hm.waitsLess (by simp) hp hs calm
    exact ⟨List.suffix_nil.mp (hresponses ▸ hless.responses),
      List.suffix_nil.mp (herrors ▸ hless.errors)⟩

/-- What was read could be read, and there were not too many requests. -/
structure Legible (id : SessionId) (v : World) : Prop where
  readable : ∀ f, .noted id (.unreadable f) ∉ v.story id
  few : (v.session id).correlator.lastId < numberLimit

lemma Legible.of_calm {v : World} (h : Calm id (v.session id) (v.story id)) : Legible id v :=
  ⟨h.readable, h.few⟩

lemma Legible.of_moves {L M : List Task} {u v : World} (h : Legible id v)
    (hm : Moves c ℓ id L M u v) : Legible id u where
  readable f hf := h.readable f ((hm.steps [] ℓ.base_nil).suffix.subset hf)
  few := Nat.lt_of_le_of_lt (hm.steps [] ℓ.base_nil).lastId_le h.few

/-- The first three phases of a tick went well: all that the server wrote was taken, and nothing waits to
be sent any more. No callback had its turn meanwhile. -/
structure Exchanges (c : Conduct) (ℓ : Level) (id : SessionId) (L : List Task) (v w : World) : Prop where
  moves : Moves c ℓ id (.ticking :: L) (.ticking :: L) v w
  status : (w.session id).status = (v.session id).status
  received : ∀ data ∈ (v.session id).incoming?, .noted id (.received data) ∈ w.story id
  notifications : (w.session id).notifications = []
  requests : (w.session id).requests = []
  exchanged : Exchanged id v w

/-- A tick reads and writes first. This fails only if something cannot be read or sent. -/
lemma ends_exchange {rest : Act Unit} {Q : Except Fault Unit → World → Prop} (room : ℓ.Room c .tick L)
    {w : World} (hw : w.Ready c id) (hst : (w.session id).status ≠ .terminated)
    (failed : ∀ f v, Moves c ℓ id (.ticking :: L) (.ticking :: L) w v →
      (v.session id).status = (w.session id).status → Exchanged id w v → (c.Sends (w.session id).config → ¬ Legible id v) → Q (.error f) v)
    (exchanged : ∀ u, Exchanges c ℓ id L w u → Ends rest u Q) : Ends (do
      let _ ← readMessages id
      let _ ← sendNotifications id
      let _ ← sendRequests id
      rest) w Q := by
  refine Ends.bind (((ends_readMessages (t := .ticking) rfl (room.of_tick _) hw (.inl hst)).and
    (ends_of_within exchanges_readMessages trivial)).mono ?_)
  rintro result w₁ ⟨⟨h₁, hst₁, hok₁, hread⟩, he₁⟩
  cases result with
  | error f =>
    refine failed f w₁ h₁ hst₁ he₁ fun _ legible => ?_
    obtain ⟨n, hn⟩ | ⟨f, hf⟩ := hok₁
    · cases hn
    · exact legible.readable f hf
  | ok _ =>
  have hw₁ := h₁.ready hw
  have hroom : ∀ a K, ℓ.Base K → c.HasRoom a (.ticking :: L ++ K) := fun a K hK =>
    .inr ⟨.ticking, _, rfl, rfl, (room.of_tick a).free K hK⟩
  have hfree₁ : Free c ℓ (.ticking :: L) .sendNotifications (w₁.session id) := fun K hK =>
    ⟨.inl (hst₁ ▸ hst), hroom _ K hK⟩
  refine next_ok (Ends.bind (((ends_sendNotifications hw₁ hfree₁).and
    (ends_of_within exchanges_sendNotifications trivial)).mono ?_))
  rintro result w₂ ⟨⟨h₂, hst₂, hend₂, hok₂⟩, he₂⟩
  have hm₂ := h₁.trans h₂
  cases result with
  | error f =>
    refine failed f w₂ hm₂ (hst₂.trans hst₁) (he₁.trans he₂) fun hs _ => ?_
    obtain ⟨n, hn⟩ := hok₂ (hw₁.sound.sendsNotifications (h₁.config_eq.symm ▸ hs))
    cases hn
  | ok n =>
  have hw₂ := hm₂.ready hw
  have hfree₂ : Free c ℓ (.ticking :: L) .sendRequests (w₂.session id) := fun K hK =>
    ⟨.inl (hst₂ ▸ hst₁ ▸ hst), hroom _ K hK⟩
  have hempty₂ := hend₂ ⟨n, rfl⟩
  refine next_ok (Ends.bind (((ends_sendRequests hw₂ hfree₂ (.inl hempty₂)).and
    (ends_of_within exchanges_sendRequests trivial)).mono ?_))
  rintro result w₃ ⟨h₃, he₃⟩
  have hm₃ := hm₂.trans h₃.moves
  cases result with
  | error f =>
    refine failed f w₃ hm₃ ((h₃.status.trans hst₂).trans hst₁) ((he₁.trans he₂).trans he₃)
      fun hs legible => ?_
    obtain ⟨n, hn⟩ := h₃.done (hw₂.sound.sendsRequests (hm₂.config_eq.symm ▸ hs)) legible.few
    cases hn
  | ok n =>
    have hsuffix := ((h₂.trans h₃.moves).steps [] ℓ.base_nil).suffix
    refine next_ok (exchanged w₃ ⟨hm₃, ?_, fun data hd => hsuffix.subset (hread data hd), ?_, ?_, ?_⟩)
    · exact (h₃.status.trans hst₂).trans hst₁
    · exact h₃.notifications.trans hempty₂
    · exact h₃.empty (Nat.le_refl _) ⟨n, rfl⟩
    · exact (he₁.trans he₂).trans he₃

lemma moves_over_lapsed {v w : World} (h : Moves c .callback id [.expiring] [.expiring] v w) :
    Moves c .callback id [.expiring] [] v w :=
  h.trans (.of_becomes (Alike.refl w).becomes fun _ _ => .single .lapsed)

/-- Then a tick dispatches. This does not fail if the server is tame, and what was read is dispatched. -/
lemma ends_dispatch (hc : Abides c call) (room : ℓ.Room c .tick L) {w : World} (hw : w.Ready c id) :
    Ends (do
      let _ ← dispatchResponses call id
      let _ ← dispatchErrors call id
      let _ ← dispatchTimeouts call id) w fun result v =>
    Moves c ℓ id (.ticking :: L) (.ticking :: L) w v ∧
      (c.LeavesPhases → (w.session id).Emptied → (v.session id).Emptied) ∧
      (c.Sends (w.session id).config → Calm id (v.session id) (v.story id) → result = .ok () ∧
        (c.LeavesPhases → (v.session id).responses = [] ∧ (v.session id).errors = [])) := by
  refine Ends.bind ((ends_dispatchResponses (t := .ticking) hc rfl (room.of_tick _) hw).mono ?_)
  rintro result w₁ ⟨h₁, he₁, hend₁⟩
  cases result with
  | error f =>
    refine ⟨h₁, he₁, fun _ calm => ?_⟩
    obtain ⟨n, hn⟩ := (hend₁ calm).1
    cases hn
  | ok _ =>
  have hw₁ := h₁.ready hw
  refine next_ok (Ends.bind ((ends_dispatchErrors (t := .ticking) hc rfl (room.of_tick _) hw₁).mono ?_))
  rintro result w₂ ⟨h₂, he₂, ⟨n, rfl⟩, hend₂⟩
  have hm₂ := h₁.trans h₂
  have hw₂ := hm₂.ready hw
  refine next_ok (Ends.bind ((ends_expire hc .null hw₂).mono ?_))
  rintro result w₃ ⟨h₃, hok₃⟩
  have hm₃ : Moves c ℓ id (.ticking :: L) (.ticking :: L) w w₃ := hm₂.trans (moves_lapsed
    (fun K hK => .inr (.inr (.inr ⟨.ticking, _, rfl, rfl, (room.of_tick _).free K hK⟩)))
    (room.idle.cons rfl) h₃)
  have hlapsed := moves_over_lapsed h₃
  obtain ⟨n, rfl⟩ := hok₃ rfl
  refine next_ok (ends_pure ⟨hm₃, fun hp he => hlapsed.emptied (by simp) hp (he₂ hp (he₁ hp he)),
    fun hs calm => ⟨rfl, fun hp => ?_⟩⟩)
  have calm₂ := h₃.calm calm
  have hresponses := ((hend₁ (h₂.calm calm₂)).2 hp hs).2
  obtain ⟨hless, herrors⟩ := hend₂ calm₂ hp (h₁.config_eq.symm ▸ hs)
  have hless₃ := hlapsed.waitsLess (by simp) hp (hm₂.config_eq.symm ▸ hs) calm
  have hresponses₂ : (w₂.session id).responses = [] :=
    List.suffix_nil.mp (hresponses ▸ hless.responses)
  exact ⟨List.suffix_nil.mp (hresponses₂ ▸ hless₃.responses),
    List.suffix_nil.mp (herrors ▸ hless₃.errors)⟩

/-- The phases of a tick come one after the other. If what the server wrote can be read, all that waited
was sent before a callback had its turn; none of the phases fails if the server is tame as well. -/
lemma ends_drain (hc : Abides c call) (room : ℓ.Room c .tick L) {w : World} (hw : w.Ready c id)
    (hst : (w.session id).status ≠ .terminated) : Ends (drain call id) w fun result v =>
      Moves c ℓ id (.ticking :: L) (.ticking :: L) w v ∧ (c.LeavesPhases → (v.session id).Emptied) ∧
        (c.Sends (w.session id).config → Legible id v →
          ∃ u, Exchanges c ℓ id L w u ∧ Moves c ℓ id (.ticking :: L) (.ticking :: L) u v) ∧
        (c.Sends (w.session id).config → Calm id (v.session id) (v.story id) →
          result = .ok () ∧ Drained c id (w.session id) v) := by
  refine ends_exchange room hw hst (fun f v hv hsv _ hfailed => ?_)
    fun u hu => (ends_dispatch hc room (hu.moves.ready hw)).mono ?_
  · exact ⟨hv, fun _ => emptied_of_ne (hsv.symm ▸ hst), fun hs legible => (hfailed hs legible).elim,
      fun hs calm => (hfailed hs (.of_calm calm)).elim⟩
  · rintro result v ⟨hv, hempty, hend⟩
    refine ⟨hu.moves.trans hv, fun hp => hempty hp (emptied_of_ne (hu.status.symm ▸ hst)),
      fun _ _ => ⟨u, hu, hv⟩, fun hs calm => ?_⟩
    obtain ⟨hok, hdispatched⟩ := hend (hu.moves.config_eq.symm ▸ hs) calm
    have hsuffix := (hv.steps [] ℓ.base_nil).suffix
    exact ⟨hok, ⟨fun data hd => hsuffix.subset (hu.received data hd), hdispatched⟩⟩

lemma runs_of_not {s : Session} (h : ¬ (s.status = .terminated || s.link.isNone)) :
    s.status ≠ .terminated ∧ s.link.isSome := by
  cases hl : s.link <;> simp_all

/-- A session that is over or was not started does not tick. -/
lemma ends_tick_idle {w : World} (hs : (w.session id).status = .terminated ∨ (w.session id).link = none) :
    Ends (tick call id) w fun _ v => v = w := by
  refine ends_getSession_bind ?_
  split
  next => exact ends_throw rfl
  next =>
    rw [if_pos (by rcases hs with hs | hs <;> simp [hs])]
    exact ends_pure rfl

/-- A tick does what a session does in its course. If the server is tame, and no one made it fail, it
comes to its end and no message waits. -/
lemma ends_tick (hc : Abides c call) (room : ℓ.Room c .tick L) {w : World} (hw : w.Ready c id) :
    Ends (tick call id) w fun result v => Moves c ℓ id L L w v ∧
      (c.LeavesPhases → (w.session id).Emptied → (v.session id).Emptied) ∧
      ((w.session id).fault = none → c.Sends (w.session id).config →
        Calm id (v.session id) (v.story id) → result = .ok () ∧
          ((w.session id).status ≠ .terminated → (w.session id).link.isSome →
            Drained c id (w.session id) v)) := by
  refine ends_getSession_bind ?_
  split
  next message hf =>
    exact ends_throw ⟨Course.refl w, fun _ h => h, fun h => by rw [h] at hf; cases hf⟩
  next hf =>
    split
    next hidle =>
      refine ends_pure ⟨Course.refl w, fun _ h => h, fun _ _ _ => ⟨rfl, fun hs hl => ?_⟩⟩
      have hnone : (w.session id).link = none := by simpa [hs] using hidle
      rw [hnone] at hl
      cases hl
    next hruns =>
      obtain ⟨hs, hl⟩ := runs_of_not hruns
      have hbegin : Moves c ℓ id L (.ticking :: L) w w :=
        .of_becomes (Alike.refl w).becomes fun K _ => .single (.ticked hs hl)
      refine Ends.bind ((ends_drain hc room hw hs).mono ?_)
      rintro result u ⟨hu, hempty, -, hdrained⟩
      have hrested : Moves c ℓ id L L w u := by
        refine (hbegin.trans hu).trans (.of_becomes (Alike.refl u).becomes fun K _ => .single ?_)
        refine .rested fun hp hsends calm => ?_
        exact (hdrained (hu.config_eq ▸ hsends) calm).2.dispatched hp
      cases result with
      | error f =>
        refine ⟨hrested, fun hp _ => hempty hp, fun _ hsends calm => ?_⟩
        cases (hdrained hsends calm).1
      | ok _ =>
        refine next_ok (ends_getSession_bind ?_)
        split
        next reason _ =>
          refine (moves_teardown hc _ _ (hrested.ready hw)).mono ?_
          rintro result v ⟨rfl, hv, -⟩
          refine ⟨hrested.trans (hv.lift room.idle), fun hp _ => hv.emptied (by simp) hp (hempty hp),
            fun _ hsends calm => ⟨rfl, fun _ _ => ?_⟩⟩
          exact (hdrained hsends (hv.calm calm)).2.moves hv (hrested.config_eq.symm ▸ hsends) calm
        next =>
          refine ends_pure ⟨hrested, fun hp _ => hempty hp, fun _ hsends calm => ⟨rfl, fun _ _ => ?_⟩⟩
          exact (hdrained hsends calm).2

/-- In a tick of a session that runs, all that waited was sent before a callback had its turn. -/
lemma ends_tick_exchanges (hc : Abides c call) (room : ℓ.Room c .tick L) {w : World} (hw : w.Ready c id)
    (hf : (w.session id).fault = none) (hst : (w.session id).status ≠ .terminated)
    (hl : (w.session id).link.isSome) : Ends (tick call id) w fun _ v =>
      c.Sends (w.session id).config → Legible id v →
        ∃ u, Exchanges c ℓ id L w u ∧ u.story id <:+ v.story id ∧ Legible id u := by
  have hruns : ¬ ((w.session id).status = .terminated || (w.session id).link.isNone) := by
    simp [hst, Option.isSome_iff_ne_none.mp hl]
  refine ends_getSession_bind ?_
  rw [hf]
  dsimp only
  rw [if_neg hruns]
  refine Ends.bind ((ends_drain hc room hw hst).mono ?_)
  rintro result x ⟨hx, -, hexchanged, -⟩
  have hsent : c.Sends (w.session id).config → Legible id x →
      ∃ u, Exchanges c ℓ id L w u ∧ u.story id <:+ x.story id ∧ Legible id u := fun hs legible => by
    obtain ⟨u, hu, hux⟩ := hexchanged hs legible
    exact ⟨u, hu, (hux.steps [] ℓ.base_nil).suffix, legible.of_moves hux⟩
  cases result with
  | error f => exact hsent
  | ok _ =>
    refine next_ok (ends_getSession_bind ?_)
    split
    next =>
      refine (moves_teardown hc _ _ (hx.ready hw)).mono ?_
      rintro result v ⟨-, hv, -⟩ hs legible
      obtain ⟨u, hu, hsuffix, hlegible⟩ := hsent hs (legible.of_moves hv)
      exact ⟨u, hu, hsuffix.trans (hv.steps [] Task.areIdle_nil).suffix, hlegible⟩
    next => exact ends_pure hsent

end LanguageClient.Session
