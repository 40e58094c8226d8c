import LanguageClient.Proofs.Session.Calls
import LanguageClient.Proofs.Steps.World

/-!
The steps of calling back: requests get their answers, and listeners are told.
-/

namespace LanguageClient

open Act World

/-- A listener of a session may be called. -/
structure World.Heeds (c : Conduct) (id : SessionId) (l : Listener) (w : World) : Prop where
  ready : w.Ready c id
  obeys : l.obeys c.callback (w.session id).config

instance (c : Conduct) (id : SessionId) (l : Listener) :
    Stable (Moves c .callback id [] []) (Heeds c id l) :=
  ⟨fun h hv => ⟨h.ready hv.ready, h.config_eq ▸ hv.obeys⟩⟩

/-- A caller that gives each answer it is asked to give, and otherwise takes only steps of the
conduct. A callback that is not to fail does so only if it is nested too deep. -/
structure Abides (c : Conduct) (call : Caller) : Prop where
  answer : ∀ handler id ticket (m : Fields), handler.obeys c.callback → ∀ w : World, w.Ready c id →
    Moves c .callback id [.answering ticket handler m] [] w
      ((call (.answer handler id ticket (.object m))).after w)
  event : ∀ listener id args, Within (Moves c .callback id [] []) (Heeds c id listener)
    (call (.event listener id args))
  message : ∀ listener id params, Within (Moves c .callback id [.telling listener params] [])
    (Heeds c id listener) (call (.message listener id params))
  returns : ∀ label actions id ticket response w,
    Ends (call (.answer (.host (.mk label actions none)) id ticket response)) w fun result v =>
      (∃ x, result = .ok x) ∨ .noted id .tooDeep ∈ v.story id

variable {c : Conduct} {call : Caller} {ℓ : Level} {id : SessionId} {L M : List Task}

lemma World.Moves.addsNew {v w : World} (h : Moves c ℓ id L M v w) (hv : v.Ready c id) :
    (v.session id).AddsNew (w.session id) :=
  (h.steps [] ℓ.base_nil).addsNew hv.sound

lemma World.Moves.lastId_le {v w : World} (h : Moves c ℓ id L M v w) :
    (v.session id).correlator.lastId ≤ (w.session id).correlator.lastId :=
  (h.steps [] ℓ.base_nil).lastId_le

/-- A session that is leaving does not come back. -/
lemma World.Moves.leaving {v w : World} (h : Moves c ℓ id L M v w)
    (hv : (v.session id).status.isLeaving) : (w.session id).status.isLeaving := by
  by_contra hw
  rw [Bool.not_eq_true] at hw
  cases hv.symm.trans ((h.steps [] ℓ.base_nil).live hw)

namespace Session

/-- What is pending once these were answered: nothing of them, and nothing else that was not pending
before but under new numbers. -/
def Leaves (id : SessionId) (slots : List Json) (w v : World) : Prop :=
  ∀ q ∈ (v.session id).correlator.pending,
    (q ∈ (w.session id).correlator.pending ∧ q.slot ∉ slots) ∨
      ∃ n, (w.session id).correlator.lastId < n ∧ q.Numbered n

lemma Leaves.moves {slots : List Json} {w u v : World} (h : Leaves id slots w u)
    (hl : (w.session id).correlator.lastId ≤ (u.session id).correlator.lastId)
    (hu : u.Ready c id) (hm : Moves c ℓ id L M u v) : Leaves id slots w v := by
  intro q hq
  rcases hm.addsNew hu q hq with hq | ⟨n, hn, hnumbered⟩
  · exact h q hq
  · exact .inr ⟨n, Nat.lt_of_le_of_lt hl hn, hnumbered⟩

lemma slot_ne_of_answered?_none {s : Session} {es : List Event} (hs : s.Sound c id es)
    {answered : Json} (ha : s.correlator.answered? answered = none) :
    ∀ q ∈ s.correlator.pending, q.slot ≠ answered := by
  rintro q hq rfl
  obtain ⟨n, -, hn, -⟩ := hs.numbered q hq
  rw [hn.slot, Correlator.answered?, Correlator.answerKey?_ofNat, Option.bind_some,
    Correlator.find?, List.find?_eq_none] at ha
  exact ha q hq (by simp [hn.key])

lemma slot_ne_of_key_ne {s : Session} {es : List Event} (hs : s.Sound c id es)
    {answered : Json} {p : Pending Handler} (ha : s.correlator.answered? answered = some p) :
    ∀ q ∈ s.correlator.pending, q.key ≠ p.key → q.slot ≠ answered := by
  rintro q hq hk rfl
  obtain ⟨n, -, hn, -⟩ := hs.numbered q hq
  obtain ⟨-, hp⟩ := Correlator.mem_of_answered? ha
  rw [hn.slot, Correlator.answerKey?_ofNat, Option.some.injEq] at hp
  exact hk (hn.key.trans hp)

/-- Whoever waited for this answer does not wait any more. -/
def Erases (id : SessionId) (answered : Json) (w v : World) : Prop :=
  ∀ r ∈ (w.session id).correlator.pending, Correlator.answerKey? answered = some r.key →
    r ∉ (v.session id).correlator.pending

lemma answered?_of_mem {s : Session} {es : List Event} (hs : s.Sound c id es) {answered : Json}
    {r : Pending Handler} (hr : r ∈ s.correlator.pending)
    (hk : Correlator.answerKey? answered = some r.key) : s.correlator.answered? answered = some r :=
  Correlator.answered?_of_unique hr hk fun _ hq hkey => hs.eq_of_key_eq hq hr hkey

/-- What is not pending any more does not come back. -/
lemma not_pending_of_moves {v w : World} {r : Pending Handler} {n : Nat}
    (hr : r ∉ (v.session id).correlator.pending) (hn : r.Numbered n)
    (hle : n ≤ (v.session id).correlator.lastId) (hv : v.Ready c id) (hm : Moves c ℓ id L M v w) :
    r ∉ (w.session id).correlator.pending := fun hmem => by
  rcases hm.addsNew hv r hmem with h | ⟨k, hk, hnumbered⟩
  · exact hr h
  · have heq := hn.number_eq hnumbered rfl
    omega

lemma Erases.moves {answered : Json} {w u v : World} (h : Erases id answered w u) (hw : w.Ready c id)
    (hwu : (w.session id).correlator.lastId ≤ (u.session id).correlator.lastId) (hu : u.Ready c id)
    (hm : Moves c ℓ id L M u v) : Erases id answered w v := fun r hr hk => by
  obtain ⟨n, hle, hn, -⟩ := hw.sound.numbered r hr
  exact not_pending_of_moves (h r hr hk) hn (Nat.le_trans hle hwu) hu hm

lemma ends_resolve (hc : Abides c call) {answered : Json} {m : Fields} {w : World}
    (hw : w.Ready c id)
    (source : .dealt id (.read m) ∈ w.story id ∨ (m.getD "error" .null).holds)
    (hL : Task.AreIdle L) (reason : ∀ K, Resolves (w.session id) answered m (L ++ K)) :
    Ends (resolve call id answered (.object m)) w fun result v =>
      (∃ b, result = .ok b) ∧ Moves c .callback id L L w v ∧ Leaves id [answered] w v ∧
        Erases id answered w v := by
  refine ends_getSession_bind ?_
  split
  next ha =>
    refine (isRemark_log _ _ _).bind fun v hv => ends_pure ⟨⟨false, rfl⟩, .of_alike hv, ?_, ?_⟩
    · intro q hq
      rw [hv.becomes.session] at hq
      have hne := slot_ne_of_answered?_none hw.sound ha q hq
      exact .inl ⟨hq, List.mem_singleton.not.mpr hne⟩
    · intro r hr hk
      cases ha.symm.trans (answered?_of_mem hw.sound hr hk)
  next p ha =>
    refine ends_deal hw.lt fun u hu => ?_
    have hstep : Moves c .callback id L (Task.owed p.ticket m p.handler ++ L) w u :=
      .of_becomes hu fun K _ => by
        rw [List.append_assoc]
        exact .single (.resolved ha source (reason K))
    have hleaves : Leaves id [answered] w u := by
      intro q hq
      rw [hu.session] at hq
      obtain ⟨hmem, hk⟩ := List.mem_filter.mp hq
      have hne := slot_ne_of_key_ne hw.sound ha q hmem (by simpa using hk)
      exact .inl ⟨hmem, List.mem_singleton.not.mpr hne⟩
    have herases : Erases id answered w u := by
      intro r hr hk hmem
      rw [hu.session] at hmem
      obtain rfl := Option.some.inj (ha.symm.trans (answered?_of_mem hw.sound hr hk))
      simpa using (List.mem_filter.mp hmem).2
    cases hh : p.handler with
    | none =>
      rw [hh] at hstep
      exact ends_pure ⟨⟨true, rfl⟩, hstep, hleaves, herases⟩
    | some handler =>
      rw [hh] at hstep
      have hp : handler.obeys c.callback :=
        hw.sound.pending p (Correlator.mem_of_answered? ha).1 handler hh
      have hcall := hc.answer handler id p.ticket m hp u (hstep.ready hw)
      refine Ends.attempt_bind (Ends.mono (Q := fun _ v => Moves c .callback id _ _ u v) hcall ?_)
      intro result v hv
      have hrest : Leaves id [answered] w v := hleaves.moves hstep.lastId_le (hstep.ready hw) hv
      have hanswered : Moves c .callback id L L w v := hstep.trans (hv.under hL)
      have hgone : Erases id answered w v := herases.moves hw hstep.lastId_le (hstep.ready hw) hv
      cases result with
      | ok _ => exact ends_pure ⟨⟨true, rfl⟩, hanswered, hrest, hgone⟩
      | error f =>
        refine (isRemark_logFault _ _ _).bind fun x hx => ends_pure ?_
        have hsame : Leaves id [answered] w x := by
          rw [Leaves, hx.becomes.session]
          exact hrest
        have hsame' : Erases id answered w x := by
          rw [Erases, hx.becomes.session]
          exact hgone
        exact ⟨⟨true, rfl⟩, hanswered.trans (.of_alike hx), hsame, hsame'⟩

/-- What the client answers itself, when a request is overdue or its session is leaving. -/
lemma ends_resolve_failure (hc : Abides c call) (answered code message : Json) {w : World}
    (hw : w.Ready c id) (hL : Task.AreIdle L)
    (reason : ∀ K, (∃ rest, L ++ K = .expiring :: rest) ∨ (w.session id).status.isLeaving) :
    Ends (resolve call id answered (Message.errorResponse answered code message .null)) w
      fun result v => (∃ b, result = .ok b) ∧ Moves c .callback id L L w v ∧ Leaves id [answered] w v :=
  have hresolve : Ends (resolve call id answered (Message.errorResponse answered code message .null)) w _ :=
    ends_resolve hc hw (.inr rfl) hL fun K => ⟨rfl, .inr (reason K)⟩
  hresolve.mono fun _ _ h => ⟨h.1, h.2.1, h.2.2.1⟩

/-! Answering all that is pending -/

lemma ends_failEach (hc : Abides c call) (code message : Json) (slots : List Json) {w : World}
    (hw : w.Ready c id) (hs : (w.session id).status.isLeaving) : Ends (failEach call id code message slots) w fun result v =>
      result = .ok () ∧ Moves c .callback id [] [] w v ∧ Leaves id slots w v := by
  induction slots generalizing w with
  | nil => exact ends_pure ⟨rfl, Course.refl w, fun q hq => .inl ⟨hq, List.not_mem_nil⟩⟩
  | cons slot rest ih =>
    refine Ends.bind ((ends_resolve_failure (L := []) hc slot code message hw Task.areIdle_nil
      fun _ => .inr hs).mono ?_)
    rintro result v ⟨⟨b, rfl⟩, hv, hfirst⟩
    refine next_ok ((ih (hv.ready hw) (hv.leaving hs)).mono ?_)
    rintro result x ⟨rfl, hx, hrest⟩
    refine ⟨rfl, hv.trans hx, fun q hq => ?_⟩
    rcases hrest q hq with ⟨hq, hnot⟩ | ⟨n, hn, hnumbered⟩
    · refine (hfirst q hq).imp_left fun ⟨hq, hne⟩ => ⟨hq, ?_⟩
      rw [List.mem_cons, not_or]
      exact ⟨List.mem_singleton.not.mp hne, hnot⟩
    · exact .inr ⟨n, Nat.lt_of_le_of_lt hv.lastId_le hn, hnumbered⟩

lemma ends_failAll (hc : Abides c call) (code message : Json) {w : World} (hw : w.Ready c id)
    (hs : (w.session id).status.isLeaving) : Ends (failAll call id code message) w fun result v =>
      (∃ n, result = .ok n) ∧ Moves c .callback id [] [] w v ∧
        ∀ q ∈ (v.session id).correlator.pending,
          ∃ n, (w.session id).correlator.lastId < n ∧ q.Numbered n := by
  refine ends_getSession_bind ?_
  have hrest : ∀ u : World, Alike w u → Ends (do
      failEach call id code message ((w.session id).correlator.pending.map (·.slot))
      return ((w.session id).correlator.pending.map (·.slot)).length) u fun result v =>
      (∃ n, result = .ok n) ∧ Moves c .callback id [] [] w v ∧
        ∀ q ∈ (v.session id).correlator.pending,
          ∃ n, (w.session id).correlator.lastId < n ∧ q.Numbered n := by
    intro u hu
    have hm : Moves c .callback id [] [] w u := .of_alike hu
    refine Ends.bind ((ends_failEach hc code message _ (hm.ready hw) (hm.leaving hs)).mono ?_)
    rintro result v ⟨rfl, hv, hleaves⟩
    refine ⟨⟨_, rfl⟩, hm.trans hv, fun q hq => ?_⟩
    have hq := hleaves q hq
    rw [hu.becomes.session] at hq
    exact hq.resolve_left fun ⟨hmem, hnot⟩ => hnot (List.mem_map_of_mem hmem)
  dsimp only
  split
  next => exact (isRemark_log _ _ _).bind hrest
  next => exact hrest w (.refl w)

lemma ends_expireEach (hc : Abides c call) (now : Json) (overdue : List (Pending Handler))
    {w : World} (hw : w.Ready c id) : Ends (expireEach call id now overdue) w fun result v =>
      Moves c .callback id [.expiring] [.expiring] w v ∧
        ((∃ x, now.toFloat = .ok x) → result = .ok ()) := by
  induction overdue generalizing w with
  | nil => exact ends_pure ⟨Course.refl w, fun _ => rfl⟩
  | cons p rest ih =>
    refine ends_getSession_bind ((isRemark_log _ _ _).bind fun u hu => ?_)
    have hm : Moves c .callback id [.expiring] [.expiring] w u := .of_alike hu
    refine ends_check_bind (fun x _ => ?_) fun f hf => ⟨hm, fun ⟨x, hx⟩ => ?_⟩
    · refine Ends.bind ((ends_resolve_failure hc p.id _ _ (hm.ready hw) (Task.areIdle_singleton rfl)
        fun K => .inl ⟨K, rfl⟩).mono ?_)
      rintro result v ⟨⟨b, rfl⟩, hv, -⟩
      refine next_ok ((ih ((hm.trans hv).ready hw)).mono fun result y hy => ?_)
      exact ⟨(hm.trans hv).trans hy.1, hy.2⟩
    · rw [hx] at hf
      cases hf

lemma ends_expire (hc : Abides c call) (now : Json) {w : World} (hw : w.Ready c id) :
    Ends (expire call id now) w fun result v =>
      Moves c .callback id [.expiring] [.expiring] w v ∧ (now = .null → ∃ n, result = .ok n) := by
  refine ends_get_bind ?_
  dsimp only
  refine ends_check_bind (fun overdue _ => ?_) fun f hf => ⟨Course.refl w, fun hn => ?_⟩
  · refine Ends.bind ((ends_expireEach hc _ overdue hw).mono ?_)
    rintro result v ⟨hv, hok⟩
    cases result with
    | ok _ => exact next_ok (ends_pure ⟨hv, fun _ => ⟨_, rfl⟩⟩)
    | error f =>
      refine ⟨hv, fun hn => ?_⟩
      subst hn
      cases hok ⟨w.clock, rfl⟩
  · subst hn
    cases (Correlator.overdue_eq rfl (w.session id).correlator).symm.trans hf

/-- What is overdue is answered where there is room for it. -/
lemma moves_lapsed (free : ∀ K, ℓ.Base K → c.Expires (L ++ K)) (hL : Task.AreIdle L) {v w : World}
    (h : Moves c .callback id [.expiring] [.expiring] v w) : Moves c ℓ id L L v w := by
  have hlapsing : Moves c ℓ id L (.expiring :: L) v v :=
    .of_becomes (Alike.refl v).becomes fun K hK => .single (.lapsing (free K hK))
  have hlapsed : Moves c ℓ id (.expiring :: L) L w w :=
    .of_becomes (Alike.refl w).becomes fun K _ => .single .lapsed
  exact (hlapsing.trans (h.under hL)).trans hlapsed

/-! Listeners -/

lemma ends_callEach {makeCall : Listener → Call} {onFault : Fault → Act Unit} (owes : Listener → List Task)
    {listeners : List Listener} (hc : ∀ l, Within (Moves c .callback id (owes l) []) (Heeds c id l)
      (call (makeCall l))) (ho : ∀ l, Task.AreIdle (owes l)) (hf : ∀ f, IsRemark (onFault f)) {w : World}
    (hw : w.Ready c id) (hl : ∀ l ∈ listeners, l.obeys c.callback (w.session id).config) :
    Ends (callEach call makeCall onFault listeners) w fun result v =>
      result = .ok () ∧ Moves c .callback id (listeners.flatMap owes) [] w v := by
  induction listeners generalizing w with
  | nil => exact ends_pure ⟨rfl, .of_alike (.refl w)⟩
  | cons l rest ih =>
    rw [List.forall_mem_cons] at hl
    have howed : Task.AreIdle (rest.flatMap owes) := fun t ht => by
      obtain ⟨k, -, hk⟩ := List.mem_flatMap.mp ht
      exact ho k t hk
    refine Ends.attempt_bind ((ends_of_within (hc l) ⟨hw, hl.1⟩).mono fun result v hv => ?_)
    have htold : Moves c .callback id (owes l ++ rest.flatMap owes) (rest.flatMap owes) w v :=
      hv.under howed
    have hrest : ∀ {x : World}, Moves c .callback id (owes l ++ rest.flatMap owes) (rest.flatMap owes) w x →
        Ends (callEach call makeCall onFault rest) x fun result v =>
          result = .ok () ∧ Moves c .callback id (owes l ++ rest.flatMap owes) [] w v := fun hx =>
      (ih (hx.ready hw) (hx.config_eq ▸ hl.2)).mono fun result v hv => ⟨hv.1, hx.trans hv.2⟩
    cases result with
    | ok _ => exact hrest htold
    | error f => exact (hf f).bind fun u hu => hrest (htold.trans (.of_alike hu))

/-- It is noted that an event is told of, and then the listeners do what they do. -/
lemma ends_fireEvent (hc : Abides c call) {name : Json} {key : Json.Key} (args : List Json)
    (hk : name.key = .ok key) (hM : Task.AreIdle M) {w₀ w : World} (hw₀ : w₀.Ready c id)
    (hfired : ∀ u, Becomes id (w.session id) (.noted id (.fired key) :: w.story id) w u →
      Moves c .callback id L M w₀ u) : Ends (fireEvent call id name args) w fun result v =>
      (∃ n, result = .ok n) ∧ Moves c .callback id L M w₀ v ∧
        ((w.session id).status = .terminated → (v.session id).status = .terminated) := by
  unfold fireEvent
  rw [hk]
  refine ends_check_bind (fun k h => ?_) fun f h => by cases h
  obtain rfl := Except.ok.inj h
  refine ends_note fun u hu => ends_getSession_bind ?_
  have hm := hfired u hu
  refine Ends.bind ((ends_callEach (fun _ => []) (fun l => hc.event l id args)
    (fun _ => Task.areIdle_nil) (fun f => isRemark_logFault _ _ f) (hm.ready hw₀) fun l hl => ?_).mono ?_)
  · exact (hm.ready hw₀).sound.listeners l (List.mem_append_left _ (mem_of_named hl))
  rintro result v ⟨rfl, hv⟩
  rw [List.flatMap_eq_nil_iff.mpr fun _ _ => rfl] at hv
  have hover : (w.session id).status = .terminated → (v.session id).status = .terminated := fun h =>
    hv.terminated (hu.session ▸ h)
  exact next_ok (ends_pure ⟨⟨_, rfl⟩, hm.trans (hv.lift hM), hover⟩)

/-- The listeners of a method are told one after the other. -/
lemma ends_fireMethod_told (hc : Abides c call) {name : Json} {key : Json.Key} (params : Json)
    (hk : name.key = .ok key) {w : World} (hw : w.Ready c id) :
    Ends (fireMethod call id name params) w fun result v =>
      result = .ok ((w.session id).listeners.ofMethod key).length ∧
        Moves c .callback id (((w.session id).listeners.ofMethod key).map (.telling · params)) [] w v := by
  unfold fireMethod
  rw [hk]
  refine ends_check_bind (fun k h => ends_getSession_bind ?_) fun f h => by cases h
  obtain rfl := Except.ok.inj h
  refine Ends.bind ((ends_callEach (fun l => [.telling l params])
    (fun l => hc.message l id params) (fun _ => Task.areIdle_singleton rfl)
    (fun f => isRemark_logFault _ _ f) hw fun l hl => ?_).mono ?_)
  · exact hw.sound.listeners l (List.mem_append_right _ (mem_of_named hl))
  rintro result v ⟨rfl, hv⟩
  rw [← List.map_eq_flatMap] at hv
  exact next_ok (ends_pure ⟨rfl, hv⟩)

lemma moves_hailed (listeners : List Listener) (params : Json) (w : World) :
    Moves c .callback id [] (listeners.map (.telling · params)) w w := by
  induction listeners with
  | nil => exact .of_alike (.refl w)
  | cons l rest ih => exact ih.trans (.of_becomes (Alike.refl w).becomes fun K _ => .single (.hailed l params))

lemma ends_fireMethod (hc : Abides c call) (name params : Json) {w : World} (hw : w.Ready c id) :
    Ends (fireMethod call id name params) w fun result v =>
      Moves c .callback id [] [] w v ∧ ((∃ key, name.key = .ok key) → ∃ n, result = .ok n) := by
  cases hk : name.key with
  | ok key =>
    refine (ends_fireMethod_told hc params hk hw).mono ?_
    rintro result v ⟨rfl, hv⟩
    exact ⟨(moves_hailed _ params w).trans hv, fun _ => ⟨_, rfl⟩⟩
  | error f =>
    unfold fireMethod
    rw [hk]
    exact ends_throw ⟨Course.refl w, fun ⟨key, hkey⟩ => by cases hkey⟩

end Session

end LanguageClient
