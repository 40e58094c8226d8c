import LanguageClient.Proofs.Session.Calls
import LanguageClient.Proofs.Steps.Sound

/-!
Answers that are owed. Whoever is about to be given an answer asked for it, and the answer is what the
request was resolved with.
-/

namespace LanguageClient

variable {c : Conduct} {id : SessionId} {p q : Position}

/-- What a handler may pass its answer on to. -/
inductive Handler.Passes : Handler → Handler → Prop where
  | itself (g : Handler) : Passes g g
  | on (callback : Callback) : Passes (.opening (some callback)) (.host callback)

lemma Handler.Passes.isFeature_eq {h g : Handler} (hp : h.Passes g) (hc : h.callback?.isSome) :
    g.isFeature = false := by
  cases hp with
  | itself => cases h <;> first | rfl | cases hc
  | on callback => rfl

/-- A handler that has an answer to wait for: its request was accepted and is resolved. -/
structure IsAnswered (id : SessionId) (es : List Event) (ticket : Nat) (handler : Handler)
    (m : Fields) : Prop where
  resolved : .dealt id (.resolved ticket (.object m)) ∈ es
  source : .dealt id (.read m) ∈ es ∨ (m.getD "error" .null).holds
  accepted : ∃ g : Handler, .dealt id (.accepted ticket (some g)) ∈ es ∧ g.Passes handler

lemma IsAnswered.mono {es es' : List Event} {ticket : Nat} {handler : Handler} {m : Fields}
    (h : IsAnswered id es ticket handler m) (hs : es <:+ es') :
    IsAnswered id es' ticket handler m := by
  obtain ⟨g, hg, hp⟩ := h.accepted
  exact ⟨hs.subset h.resolved, h.source.imp_left (hs.subset ·), g, hs.subset hg, hp⟩

lemma IsAnswered.opening {es : List Event} {ticket : Nat} {callback : Option Callback} {m : Fields}
    (h : IsAnswered id es ticket (.opening callback) m) :
    .dealt id (.accepted ticket (some (.opening callback))) ∈ es := by
  obtain ⟨g, hg, hp⟩ := h.accepted
  cases hp
  exact hg

structure Position.Sound (c : Conduct) (id : SessionId) (p : Position) : Prop where
  session : p.session.Sound c id p.events
  answering : ∀ ticket handler m, .answering ticket handler m ∈ p.tasks →
    IsAnswered id p.events ticket handler m
  opening : ∀ callback, .opening callback ∈ p.tasks →
    ∃ ticket, .dealt id (.accepted ticket (some (.opening callback))) ∈ p.events
  introduced : ∀ ticket callback,
    .dealt id (.accepted ticket (some (.opening callback))) ∈ p.events →
      ∃ rootUri name version, c.allows (.handshake rootUri name version callback)

lemma Step.answering (h : Step c id p q) (hp : p.Sound c id) (ticket : Nat) (handler : Handler)
    (m : Fields) (ht : .answering ticket handler m ∈ q.tasks) :
    IsAnswered id q.events ticket handler m := by
  have hm : ∀ ticket handler m, .answering ticket handler m ∈ p.tasks →
      IsAnswered id q.events ticket handler m := fun ticket handler m ht =>
    (hp.answering ticket handler m ht).mono h.suffix
  cases h
  case resolved answered r m' found source reason =>
    rcases List.mem_append.mp ht with ht | ht
    · obtain ⟨handler', hh, he⟩ := Task.mem_owed.mp ht
      obtain ⟨rfl, rfl, rfl⟩ := Task.answering.inj he
      have hmem := (Correlator.mem_of_answered? found).1
      have hacc := hp.session.pendingAccepted r hmem
      rw [hh] at hacc
      have hsource := source.imp_left (List.mem_cons_of_mem (.dealt id (.resolved r.ticket (.object m))))
      exact ⟨List.mem_cons_self, hsource, handler, List.mem_cons_of_mem _ hacc, .itself handler⟩
    · exact hm ticket handler m ht
  case turnedDown error =>
    rcases List.mem_append.mp ht with ht | ht
    · obtain ⟨handler', hh, he⟩ := Task.mem_owed.mp ht
      obtain ⟨rfl, rfl, rfl⟩ := Task.answering.inj he
      obtain ⟨callback, rfl, rfl⟩ := Option.map_eq_some_iff.mp hh
      have hdue := hm _ _ _ List.mem_cons_self
      exact ⟨hdue.resolved, hdue.source, _, hdue.opening, .on callback⟩
    · exact hm ticket handler m (List.mem_cons_of_mem _ (by simpa using ht))
  case welcomed error status result =>
    rcases List.mem_append.mp ht with ht | ht
    · obtain ⟨handler', hh, he⟩ := Task.mem_owed.mp ht
      obtain ⟨rfl, rfl, rfl⟩ := Task.answering.inj he
      obtain ⟨callback, rfl, rfl⟩ := Option.map_eq_some_iff.mp hh
      have hdue := hm _ _ _ List.mem_cons_self
      exact ⟨hdue.resolved, hdue.source, _, hdue.opening, .on callback⟩
    · exact hm ticket handler m (List.mem_cons_of_mem _ (by simpa using ht))
  all_goals
    first
    | exact hm ticket handler m ht
    | exact hm ticket handler m (List.mem_cons_of_mem _ ht)
    | exact hm ticket handler m (by simpa using ht)

lemma Step.opening (h : Step c id p q) (hp : p.Sound c id) (callback : Option Callback)
    (ht : .opening callback ∈ q.tasks) :
    ∃ ticket, .dealt id (.accepted ticket (some (.opening callback))) ∈ q.events := by
  have hm : ∀ callback, .opening callback ∈ p.tasks →
      ∃ ticket, .dealt id (.accepted ticket (some (.opening callback))) ∈ q.events := by
    intro callback ht
    obtain ⟨ticket, hacc⟩ := hp.opening callback ht
    exact ⟨ticket, h.suffix.subset hacc⟩
  cases h
  case welcomed ticket callback' _ _ m error status result =>
    simp only [List.mem_append, List.mem_cons, Task.mem_owed, reduceCtorEq, and_false, exists_false,
      false_or, Task.opening.injEq] at ht
    rcases ht with rfl | ht
    · have hdue := (hp.answering ticket _ m List.mem_cons_self).opening
      exact ⟨ticket, List.mem_cons_of_mem _ hdue⟩
    · exact hm callback (List.mem_cons_of_mem _ ht)
  all_goals
    first
    | exact hm callback ht
    | exact hm callback (List.mem_cons_of_mem _ ht)
    | exact hm callback (by simpa [Task.mem_owed] using ht)

/-! New dealings -/

/-- What a step adds to the dealings of a session. -/
inductive Deals (c : Conduct) (p q : Position) : Dealing → Prop where
  | introduced {rootUri name version callback} (status : p.session.status = .uninitialized)
    (asks : q.session.status = .initializing)
    (allowed : c.allows (.handshake rootUri name version callback)) :
    Deals c p q (.accepted p.session.tickets (some (.opening callback)))
  | asked {a : SessionAction} {r} (asked : a.Asks p.session (.inr r)) :
    Deals c p q (.accepted r.ticket r.handler)
  | registered {r : Pending Handler} (mem : r ∈ q.session.correlator.pending)
    (numbered : r.Numbered q.session.correlator.lastId) :
    Deals c p q (.registered r.ticket q.session.correlator.lastId)
  | read {m} : Deals c p q (.read m)
  | resolved {r : Pending Handler} {m : Fields} (mem : r ∈ p.session.correlator.pending)
    (tasks : q.tasks = Task.owed r.ticket m r.handler ++ p.tasks) :
    Deals c p q (.resolved r.ticket (.object m))

lemma Deferred.eq_of_mem_acceptance {item : Deferred} {d : Dealing}
    (h : .dealt id d ∈ acceptance id item) :
    ∃ r, item = .inr r ∧ d = .accepted r.ticket r.handler := by
  cases item with
  | inl n => cases h
  | inr r =>
    obtain ⟨-, rfl⟩ := Event.dealt.inj (List.mem_singleton.mp h)
    exact ⟨r, rfl, rfl⟩

lemma Session.dealt_not_mem_burial (s : Session) (timeout : Json) (d : Dealing) :
    .dealt id d ∉ s.burial id timeout := by
  unfold Session.burial
  split <;> simp

lemma Step.deals (h : Step c id p q) (hs : p.session.Sound c id p.events) {d : Dealing}
    (hd : .dealt id d ∈ q.events) : .dealt id d ∈ p.events ∨ Deals c p q d := by
  have hcons : ∀ {e : Dealing} {es : List Event}, .dealt id d ∈ .dealt id e :: es →
      d = e ∨ .dealt id d ∈ es := fun hd => by simpa using hd
  cases h
  case introduced status linked allowed obeys path =>
    rcases hcons hd with rfl | hd
    · exact .inr (.introduced status rfl allowed)
    · exact .inl (by simpa using hd)
  case deferred item _ allowed obeys asked tracks status lifecycle =>
    rcases List.mem_append.mp hd with hd | hd
    · obtain ⟨r, rfl, rfl⟩ := Deferred.eq_of_mem_acceptance hd
      exact .inr (.asked asked)
    · exact .inl (by simpa using hd)
  case queued item _ allowed obeys asked tracks status =>
    rcases List.mem_append.mp hd with hd | hd
    · obtain ⟨r, rfl, rfl⟩ := Deferred.eq_of_mem_acceptance hd
      exact .inr (.asked asked)
    · exact .inl (by simpa using hd)
  case requested s es K r rest p now result es' queue free first entry writes =>
    rcases hcons (writes.mem_of_dealt hd) with rfl | hd
    · obtain ⟨ht, -, hnumbered⟩ := Correlator.numbered_of_entry entry
      rw [← ht]
      refine .inr (.registered ?_ hnumbered)
      change p ∈ Correlator.insert p s.correlator.pending
      rw [(hs.insert_eq hnumbered).2]
      exact List.mem_append_right _ List.mem_cons_self
    · exact .inl hd
  case took =>
    rcases hcons hd with rfl | hd
    · exact .inr .read
    · exact .inl hd
  case resolved s es K answered r m found source reason =>
    rcases hcons hd with rfl | hd
    · exact .inr (.resolved (Correlator.mem_of_answered? found).1 rfl)
    · exact .inl hd
  case notified writes | replied writes => exact .inl (writes.mem_of_dealt hd)
  case unheardGoodbye told => exact .inl (told.mem_of_dealt (by simpa using hd))
  case saidGoodbye told left =>
    exact .inl (told.mem_of_dealt (left.mem_of_dealt (by simpa using hd)))
  case buried s es K last timeout status settled =>
    exact .inl ((List.mem_append.mp hd).resolve_left (s.dealt_not_mem_burial timeout d))
  all_goals exact .inl (by simpa using hd)

/-- No request that the host asks for opens a session. -/
lemma SessionAction.handler_ne_opening {a : SessionAction} {s : Session} {r : OutgoingRequest}
    (h : a.Asks s (.inr r)) (callback : Option Callback) : r.handler ≠ some (.opening callback) := by
  cases h with
  | feature isFeature asked =>
    intro h
    rw [Option.some.inj h] at isFeature
    cases isFeature
  | host h =>
  cases a <;> simp only [item?, Option.some.injEq, Sum.inr.injEq, reduceCtorEq] at h
  all_goals
    subst h
    simp

/-- A session is asked to open itself only if it was not asked before. -/
lemma Step.opening_accepted_or (h : Step c id p q) (hs : p.session.Sound c id p.events) {ticket : Nat}
    {callback : Option Callback}
    (ha : .dealt id (.accepted ticket (some (.opening callback))) ∈ q.events) :
    .dealt id (.accepted ticket (some (.opening callback))) ∈ p.events ∨
      ticket = p.session.tickets ∧ p.session.status = .uninitialized ∧
        q.session.status = .initializing ∧
          ∃ rootUri name version, c.allows (.handshake rootUri name version callback) := by
  refine (h.deals hs ha).imp_right fun hd => ?_
  generalize hg : some (Handler.opening callback) = handler at hd
  cases hd with
  | introduced status asks allowed =>
    obtain rfl := Handler.opening.inj (Option.some.inj hg)
    exact ⟨rfl, status, asks, _, _, _, allowed⟩
  | asked asked => exact (SessionAction.handler_ne_opening asked callback hg.symm).elim

lemma Step.introduced_of_accepted (h : Step c id p q) (hp : p.Sound c id) (ticket : Nat)
    (callback : Option Callback)
    (ha : .dealt id (.accepted ticket (some (.opening callback))) ∈ q.events) :
    ∃ rootUri name version, c.allows (.handshake rootUri name version callback) :=
  (h.opening_accepted_or hp.session ha).elim (hp.introduced ticket callback) (·.2.2.2)

lemma Step.sound_position (h : Step c id p q) (hp : p.Sound c id) : q.Sound c id :=
  ⟨h.sound hp.session, h.answering hp, h.opening hp, h.introduced_of_accepted hp⟩

lemma Position.Sound.of_session {s : Session} (h : s.Sound c id []) :
    Position.Sound c id ⟨s, [], []⟩ where
  session := h
  answering _ _ _ h := (List.not_mem_nil h).elim
  opening _ h := (List.not_mem_nil h).elim
  introduced _ _ h := (List.not_mem_nil h).elim

lemma Position.Sound.blank (config : Fields) (name : Json) :
    Position.Sound c id ⟨.blank config name, [], []⟩ :=
  .of_session (.blank config name)

lemma Steps.sound_position (h : Steps c id p q) (hp : p.Sound c id) : q.Sound c id := by
  induction h with
  | refl => exact hp
  | tail _ h ih => exact h.sound_position ih

/-! Answers that a session can take -/

/-- The request that opens a session was answered with nothing that holds but objects. -/
def IsWellAnswered (id : SessionId) (es : List Event) : Prop :=
  ∀ ticket callback (m : Fields), .dealt id (.accepted ticket (some (.opening callback))) ∈ es →
    .dealt id (.resolved ticket (.object m)) ∈ es → (m.getD "result" .null).holds →
      ∃ fields, m.getD "result" .null = .object fields

lemma IsWellAnswered.of_suffix {es es' : List Event} (h : IsWellAnswered id es') (hs : es <:+ es') :
    IsWellAnswered id es :=
  fun ticket callback m ha hr => h ticket callback m (hs.subset ha) (hs.subset hr)

lemma Position.Sound.not_isWellAnswered (hp : p.Sound c id) {ticket : Nat}
    {callback : Option Callback} {m : Fields} {f : Fault}
    (ht : .answering ticket (.opening callback) m ∈ p.tasks)
    (holds : (m.getD "result" .null).holds) (result : (m.getD "result" .null).fields = .error f) :
    ¬ IsWellAnswered id p.events := by
  intro hw
  have hdue := hp.answering ticket _ m ht
  obtain ⟨fields, hf⟩ := hw ticket callback m hdue.opening hdue.resolved holds
  rw [hf] at result
  cases result

/-- What a session could take: answers that it understands, and callbacks that are not nested too deep. -/
structure IsSmooth (id : SessionId) (es : List Event) : Prop where
  answered : IsWellAnswered id es
  shallow : .noted id .tooDeep ∉ es

lemma IsSmooth.of_suffix {es es' : List Event} (h : IsSmooth id es') (hs : es <:+ es') :
    IsSmooth id es :=
  ⟨h.answered.of_suffix hs, fun hm => h.shallow (hs.subset hm)⟩

/-- An event after which all is still smooth. -/
def Event.isSmooth : Event → Bool
  | .dealt _ (.resolved _ (.object m)) =>
    let result := Fields.getD m "result" .null
    !result.holds || result.fields.isOk
  | .noted _ .tooDeep => false
  | _ => true

lemma isSmooth_of_all {es : List Event} (h : es.all Event.isSmooth) : IsSmooth id es where
  answered ticket callback m _ hr holds := by
    have hm := List.all_eq_true.mp h _ hr
    rw [Event.isSmooth, holds] at hm
    cases hv : m.getD "result" .null with
    | object fields => exact ⟨fields, rfl⟩
    | _ => rw [hv] at hm; cases hm
  shallow hm := by cases List.all_eq_true.mp h _ hm

/-! What becomes of an answer -/

/-- A request waits until it is resolved; then the answer is owed to whoever waits for it. -/
lemma Step.pending_or (h : Step c id p q) (hs : p.session.Sound c id p.events)
    {r : Pending Handler} (hr : r ∈ p.session.correlator.pending) :
    r ∈ q.session.correlator.pending ∨
      ∃ m : Fields, q.events = .dealt id (.resolved r.ticket (.object m)) :: p.events ∧
        q.tasks = Task.owed r.ticket m r.handler ++ p.tasks ∧
          Correlator.answerKey? (m.getD "id" .null) = some r.key := by
  cases h
  case requested s es K k rest p now result es' queue free first entry writes =>
    obtain ⟨-, -, hnumbered⟩ := Correlator.numbered_of_entry entry
    refine .inl ?_
    change r ∈ Correlator.insert p s.correlator.pending
    rw [(hs.insert_eq hnumbered).2]
    exact List.mem_append_left _ hr
  case resolved s es K answered k m found source reason =>
    obtain ⟨hk, hanswers⟩ := Correlator.mem_of_answered? found
    by_cases hkey : r.key = k.key
    · obtain rfl := hs.eq_of_key_eq hr hk hkey
      exact .inr ⟨m, rfl, rfl, reason.1 ▸ hanswers⟩
    · exact .inl (List.mem_filter.mpr ⟨hr, by simpa using hkey⟩)
  case deferred item _ _ _ _ _ _ _ | queued item _ _ _ _ _ _ => cases item <;> exact .inl hr
  case took s es t K m reader next running =>
    obtain ⟨responses, errors, he⟩ := Session.exists_enqueue_eq { s with reader } m
    rw [he]
    exact .inl hr
  all_goals exact .inl hr

lemma Handler.IsTold.mono {es es' : List Event} {ticket : Nat} {m : Fields} {k : Handler}
    (h : k.IsTold id es ticket m) (hs : es <:+ es') : k.IsTold id es' ticket m := by
  cases h with
  | answered mem => exact .answered (hs.subset mem)
  | late opening mem => exact .late opening (hs.subset mem)
  | unheard mem => exact .unheard (hs.subset mem)

/-- The answer for the request that opens a session is owed to the callback that came with it. -/
lemma Handler.Passes.owed {k : Handler} {callback : Option Callback}
    (h : k.Passes (.opening callback)) (hk : k.callback?.isSome) (ticket : Nat) (m : Fields) :
    ∃ g, .answering ticket g m ∈ Task.owed ticket m (callback.map .host) ∧ k.Passes g := by
  cases h
  obtain ⟨callback, rfl⟩ := Option.isSome_iff_exists.mp hk
  exact ⟨_, List.mem_singleton_self _, .on callback⟩

/-- Whoever waited for an answer was told, or is about to be. -/
def Position.Tells (id : SessionId) (p : Position) (ticket : Nat) (m : Fields) (k : Handler) : Prop :=
  k.IsTold id p.events ticket m ∨ ∃ g, .answering ticket g m ∈ p.tasks ∧ k.Passes g

lemma Position.tells_of_owed {ticket : Nat} {m : Fields} {handler : Option Handler} {K : List Task}
    (ht : p.tasks = Task.owed ticket m handler ++ K) {k : Handler} (hk : k ∈ handler) :
    p.Tells id ticket m k :=
  .inr ⟨k, ht ▸ List.mem_append_left _ (Task.mem_owed.mpr ⟨k, hk, rfl⟩), .itself k⟩

/-- A session that waits to be open will understand the answer that it is about to be given. -/
def Position.IsSteady (p : Position) : Prop :=
  p.session.status = .initializing → ∀ ticket callback m,
    .answering ticket (.opening callback) m ∈ p.tasks → (m.getD "result" .null).holds →
      ∃ fields, m.getD "result" .null = .object fields

lemma Position.Sound.isSteady (hp : p.Sound c id) (hw : IsWellAnswered id p.events) : p.IsSteady :=
  fun _ ticket callback m ht holds =>
    have hdue := hp.answering ticket _ m ht
    hw ticket callback m hdue.opening hdue.resolved holds

/-- Who is about to be told is told, or someone else is about to be in his place. -/
lemma Step.tells (h : Step c id p q) {ticket : Nat} {m : Fields} {k : Handler}
    (hk : k.callback?.isSome) (hp : p.Tells id ticket m k) (steady : p.IsSteady) :
    q.Tells id ticket m k := by
  obtain htold | ⟨g, ht, hpass⟩ := hp
  · exact .inl (htold.mono h.suffix)
  have hg := hpass.isFeature_eq hk
  cases h
  case answered s es K ticket' callback title m' =>
    rcases List.mem_cons.mp ht with he | ht
    · obtain ⟨rfl, rfl, rfl⟩ := Task.answering.inj he
      exact .inl (.answered List.mem_cons_self)
    · exact .inr ⟨g, ht, hpass⟩
  case unheard => exact .inl (.unheard List.mem_cons_self)
  case late s es K ticket' callback m' error status =>
    rcases List.mem_cons.mp ht with he | ht
    · obtain ⟨rfl, rfl, rfl⟩ := Task.answering.inj he
      cases hpass
      exact .inl (.late rfl List.mem_cons_self)
    · exact .inr ⟨g, ht, hpass⟩
  case stuck s es K ticket' callback f m' error status holds result =>
    obtain ⟨fields, hf⟩ := steady status ticket' callback m' List.mem_cons_self holds
    rw [hf] at result
    cases result
  case turnedDown s es K ticket' callback m' error =>
    rcases List.mem_cons.mp ht with he | ht
    · obtain ⟨rfl, rfl, rfl⟩ := Task.answering.inj he
      obtain ⟨g, ht, hpass⟩ := hpass.owed hk ticket m
      exact .inr ⟨g, List.mem_append_left _ ht, hpass⟩
    · exact .inr ⟨g, List.mem_append_right _ (List.mem_cons_of_mem _ ht), hpass⟩
  case welcomed s es K ticket' callback capabilities serverInfo m' error status result =>
    rcases List.mem_cons.mp ht with he | ht
    · obtain ⟨rfl, rfl, rfl⟩ := Task.answering.inj he
      obtain ⟨g, ht, hpass⟩ := hpass.owed hk ticket m
      exact .inr ⟨g, List.mem_append_left _ ht, hpass⟩
    · exact .inr ⟨g, List.mem_append_right _ (List.mem_cons_of_mem _ ht), hpass⟩
  case resolved => exact .inr ⟨g, List.mem_append_right _ ht, hpass⟩
  case served s es K ticket' handler m' isFeature =>
    rcases List.mem_cons.mp ht with he | ht
    · obtain ⟨rfl, rfl, rfl⟩ := Task.answering.inj he
      rw [isFeature] at hg
      cases hg
    · exact .inr ⟨g, ht, hpass⟩
  all_goals exact .inr ⟨g, by simpa using ht, hpass⟩

end LanguageClient
