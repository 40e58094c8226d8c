import LanguageClient.Proofs.Progress

/-!
The callback of a handshake. It has its turn when the session is open, before the listeners are told so. If
it comes to its end they are told next, whatever it made of the session; if it fails they are never told.
-/

namespace LanguageClient

open Act World

variable {c : Conduct} {id : SessionId} {p q : Position}

namespace Opening

open Handshake (isOpening)

/-- The listeners are told of an open session once, when it is opened. -/
lemma Step.mem_opening_or (h : Step c id p q) {callback : Option Callback} (ht : .opening callback ∈ q.tasks) :
    .opening callback ∈ p.tasks ∨ p.session.status = .initializing := by
  cases h
  case welcomed status result => exact .inr status
  all_goals exact .inl (by first | exact ht | exact List.mem_cons_of_mem _ ht | simpa [Task.mem_owed] using ht)

/-- The listeners are told what is due, and that the session is open if it was just opened. -/
lemma Step.declares_or (h : Step c id p q) (hc : ∀ name args, ¬ c.allows (.fireEvent name args)) :
    Adds (!·.declares) p.events q.events ∨ ∃ callback, .opening callback ∈ p.tasks := by
  cases h
  case fired allowed => exact (hc _ _ allowed).elim
  case declared => exact .inr ⟨_, List.mem_cons_self⟩
  case introduced => exact .inl ((Adds.single rfl).cons rfl)
  case deferred item _ _ _ _ _ _ _ | queued item _ _ _ _ _ _ =>
    exact .inl ((Adds.single rfl).acceptance (fun _ _ => rfl) item)
  case notified writes | replied writes => exact .inl (writes.adds rfl rfl rfl)
  case requested writes => exact .inl (.trans (.single rfl) (writes.adds rfl rfl rfl))
  case saidGoodbye told left => exact .inl (((told.adds rfl rfl rfl).trans (left.adds rfl rfl rfl)).cons rfl)
  case unheardGoodbye told => exact .inl ((told.adds rfl rfl rfl).cons rfl)
  case buried s es K last timeout status settled =>
    refine .inl ?_
    dsimp only
    unfold Session.burial
    split
    · exact (Adds.single rfl).cons rfl
    · exact .single rfl
  all_goals exact .inl (by first | exact .refl _ | exact .single rfl)

/-- A session that was opened, and whose listeners are not about to be told so. -/
structure IsPast (p : Position) : Prop where
  opened : Status.initialized.rank ≤ p.session.status.rank
  through : ∀ callback, .opening callback ∉ p.tasks

lemma Step.isPast (h : Step c id p q) (hp : IsPast p) : IsPast q where
  opened := Nat.le_trans hp.opened h.rank_le
  through callback ht := by
    rcases Step.mem_opening_or h ht with ht | hs
    · exact hp.through callback ht
    · have hopened := hp.opened
      rw [hs] at hopened
      exact absurd hopened (by decide)

lemma Steps.declarations_eq (h : Steps c id p q) (hc : ∀ name args, ¬ c.allows (.fireEvent name args))
    (hp : IsPast p) : IsPast q ∧ declarations q.events = declarations p.events := by
  induction h with
  | refl => exact ⟨hp, rfl⟩
  | tail _ h ih =>
    obtain ⟨hpast, hsame⟩ := ih
    have hadds := (Step.declares_or h hc).resolve_right fun ⟨callback, ht⟩ => hpast.through callback ht
    exact ⟨Step.isPast h hpast, (hadds.countP_eq fun e he => by simpa using he).trans hsame⟩

/-- A session that waits for its server to open it told its listeners of nothing yet. -/
lemma keeps_answering {config : Fields} {name : Json} {K : List Task} {w : World}
    (hp : Steps c id ⟨.blank config name, [], []⟩ (w.position id K))
    (hc : ∀ name args, ¬ c.allows (.fireEvent name args)) (hs : (w.session id).status = .initializing)
    (ticket : Nat) (handler : Handler) (m : Fields) :
    Progress.Keeps (w.position id [.answering ticket handler m]) := by
  obtain ⟨hlaunched, hclosed, hparted, hdeclared⟩ := Progress.Steps.keeps hp hc (Progress.keeps_blank _ _)
  have hstatus : (w.position id K).session.status = .initializing := hs
  rw [hstatus] at hparted hdeclared
  obtain ⟨hparts, -⟩ := Nat.add_eq_zero_iff.mp hparted
  obtain ⟨hdeclares, -⟩ := Nat.add_eq_zero_iff.mp (Nat.le_zero.mp hdeclared)
  refine ⟨hlaunched, hclosed, ?_, ?_⟩
  · rw [show (w.position id [.answering ticket handler m]).session.status = .initializing from hs]
    exact hparts
  · exact Nat.le_trans (Nat.le_of_eq hdeclares) (Nat.zero_le _)

end Opening

namespace Session

variable {call : Caller} {callback : Option Callback} {ticket : Nat} {m : Fields} {w : World}

/-- A good answer with an object leads to what the callback does, and after that to the listeners. -/
lemma exists_run_openingAnswered (hw : id < w.sessions.length) (hs : (w.session id).status = .initializing)
    (he : (m.getD "error" .null).holds = false) {fields : Fields} (hm : m.getD "result" .null = .object fields) :
    ∃ capabilities serverInfo v, Becomes id ((w.session id).welcome capabilities serverInfo)
      (.noted id (.announced (w.session id).deferred) :: w.story id) w v ∧
        (openingAnswered call callback id ticket (.object m)).run w = (do
          callBack call callback id ticket (.object m)
          let _ ← fireEvent call id "initialized" [] : Act Unit).run v := by
  have haccepted : Ends (openingAccepted call callback id ticket (.object m)) w fun result x =>
      ∃ capabilities serverInfo v, Becomes id ((w.session id).welcome capabilities serverInfo)
        (.noted id (.announced (w.session id).deferred) :: w.story id) w v ∧ (result, x) = (do
          callBack call callback id ticket (.object m)
          let _ ← fireEvent call id "initialized" [] : Act Unit).run v := by
    refine ends_openingAccepted hw (fun v hne => (hne hs).elim) (fun f v _ _ hf => ?_) fun _ _ v _ _ hv => ?_
    · rw [hm] at hf
      cases hf
    · exact ⟨_, _, v, hv, rfl⟩
  obtain ⟨capabilities, serverInfo, v, hv, hrun⟩ := haccepted
  refine ⟨capabilities, serverInfo, v, hv, hrun ▸ ?_⟩
  have herror : (Json.object m).field "error" = .ok (m.getD "error" .null) := rfl
  rw [openingAnswered, herror]
  change (if (m.getD "error" .null).holds then _ else _ : Act Unit).run w = _
  rw [he]
  rfl

end Session

/-- What comes of a handshake whose callback was through, or failed, in a world `u`: if it came to its end
the listeners are told next, and once, and if it failed they are never told. -/
structure World.Declares (c : Conduct) (id : SessionId) (told : Except Fault Unit) (u : World)
    (result : Except Fault Unit) (x : World) : Prop where
  before : declarations (u.story id) = 0
  failed : ∀ f, told = .error f → result = .error f ∧ x = u
  fired : told.isOk → .noted id (.fired (.text "initialized")) :: u.story id <:+ x.story id
  once : declarations (x.story id) = told.isOk.toNat
  later : ∀ z, x.Goes c .host z → declarations (z.story id) = declarations (x.story id)
  told_iff : (declarations (x.story id) = 1 ↔ (u.session id).status = .initialized) ↔
    (told.isOk ↔ (u.session id).status = .initialized)

lemma World.Declares.of_count {c : Conduct} {id : SessionId} {told result : Except Fault Unit} {u x : World}
    (before : declarations (u.story id) = 0) (failed : ∀ f, told = .error f → result = .error f ∧ x = u)
    (fired : told.isOk → .noted id (.fired (.text "initialized")) :: u.story id <:+ x.story id)
    (once : declarations (x.story id) = told.isOk.toNat)
    (later : ∀ z, x.Goes c .host z → declarations (z.story id) = declarations (x.story id)) :
    Declares c id told u result x := by
  refine ⟨before, failed, fired, once, later, ?_⟩
  have hiff : declarations (x.story id) = 1 ↔ told.isOk := by
    rw [once]
    cases told.isOk <;> decide
  rw [hiff]

open Opening in
/-- A session that waits for its server to open it, wherever it is in its course, is answered with an object.
Whatever the callback does with it: that the session is open is told if the callback comes to its end. So the
listeners are told once if it is still open then, and not told if it is not, if the callback fails where it
closed the session and nowhere else. -/
theorem declares_of_steps {c : Conduct} (hc : ∀ name args, ¬ c.allows (.fireEvent name args)) {w : World}
    {id : SessionId} (hw : w.Ready c id) {config : Fields} {name : Json} {K : List Task}
    (hp : Steps c id ⟨.blank config name, [], []⟩ (w.position id K))
    (hs : (w.session id).status = .initializing) {callback : Option Callback}
    (ho : callbackObeys c.callback callback) (ticket : Nat) {m fields : Fields}
    (he : (m.getD "error" .null).holds = false) (hm : m.getD "result" .null = .object fields) (depth : Nat) :
    ∃ capabilities serverInfo v, Becomes id ((w.session id).welcome capabilities serverInfo)
      (.noted id (.announced (w.session id).deferred) :: w.story id) w v ∧
        Ends (Session.callBack (callWithin depth) callback id ticket (.object m)) v fun told u =>
          Ends (Session.openingAnswered (callWithin depth) callback id ticket (.object m)) w
            (Declares c id told u) := by
  have hcall : Abides c (callWithin depth) := abides_callWithin depth
  obtain ⟨capabilities, serverInfo, v, hv, hrun⟩ := @Session.exists_run_openingAnswered id (callWithin depth)
    callback ticket m w hw.lt hs he fields hm
  refine ⟨capabilities, serverInfo, v, hv, ?_⟩
  have hwelcome : Moves c .callback id [.answering ticket (.opening callback) m]
      (Task.owed ticket m (callback.map .host) ++ [.opening callback]) w v :=
    .of_becomes hv fun K _ => by
      rw [List.append_assoc]
      exact .single (.welcomed he hs fun _ => ⟨fields, hm⟩)
  obtain ⟨told, u, htold⟩ : ∃ told u,
      (Session.callBack (callWithin depth) callback id ticket (.object m)).run v = (told, u) := ⟨_, _, rfl⟩
  have hcalled := Session.ends_callBack hcall ho ticket m (hwelcome.ready hw)
  rw [Ends, htold] at hcalled
  have hopen : Moves c .callback id [.answering ticket (.opening callback) m] [.opening callback] w u :=
    hwelcome.trans (hcalled.1.under (Task.areIdle_singleton rfl))
  have huready := hopen.ready hw
  have hukeeps : Progress.Keeps (u.position id [.opening callback]) :=
    Progress.Steps.keeps (hopen.steps [] Task.areIdle_nil) hc (keeps_answering hp hc hs ticket _ m)
  have hbefore : declarations (u.story id) = 0 :=
    Nat.le_zero.mp (Nat.le_of_succ_le_succ (Nat.le_trans hukeeps.declared (Bool.toNat_le _)))
  have hrank : Status.initialized.rank ≤ (u.session id).status.rank := by
    have hgrows := (hcalled.1.steps [] Task.areIdle_nil).rank_le
    rwa [show (v.position id _).session.status = .initialized from congrArg Session.status hv.session] at hgrows
  have hlater : ∀ x : World, Steps c id (u.position id [.opening callback]) (x.position id []) →
      ∀ z, x.Goes c .host z → declarations (z.story id) = declarations (x.story id) := fun x hx z hz =>
    (Steps.declarations_eq (hz.steps id [] rfl) hc ⟨Nat.le_trans hrank hx.rank_le, by simp [position]⟩).2
  rw [Ends, htold, Ends, hrun, run_bind, htold]
  cases told with
  | error f =>
    have hx : Steps c id (u.position id [.opening callback]) (u.position id []) :=
      .single (.undeclared (hcalled.2.resolve_left fun h => by
        obtain ⟨_, h⟩ := h
        cases h))
    exact .of_count hbefore (fun _ hf => ⟨hf ▸ rfl, rfl⟩) (fun h => by cases h) hbefore (hlater u hx)
  | ok _ =>
    -- Once the event is noted the listeners are all that is left.
    have hfired := becomes_record (w := u) (e := .noted id (.fired (.text "initialized"))) fun _ => rfl
    obtain ⟨y, hy⟩ : ∃ y, y = u.record (.noted id (.fired (.text "initialized"))) := ⟨_, rfl⟩
    rw [← hy] at hfired
    have hdeclared : Moves c .callback id [.opening callback] [] u y :=
      .of_becomes hfired fun K _ => .single .declared
    have hk : Json.key "initialized" = .ok (.text "initialized") := rfl
    have hagree : ∀ z, Becomes id (u.session id) (.noted id (.fired (.text "initialized")) :: u.story id) u z →
        Moves c .callback id [] [] y z := fun z hz => .of_becomes (hfired.agree hz) fun K _ => by
      rw [position, hfired.session, hfired.story]
    have hk : Json.key "initialized" = .ok (.text "initialized") := rfl
    obtain ⟨x, n, hrest, hmoves⟩ : ∃ x n,
        (Session.fireEvent (callWithin depth) id "initialized" []).run u = (.ok n, x) ∧
          Moves c .callback id [] [] y x := by
      have hfire := Session.ends_fireEvent hcall [] hk Task.areIdle_nil (hdeclared.ready huready) hagree
      obtain ⟨⟨n, hn⟩, hmoves, -⟩ := hfire
      exact ⟨_, n, Prod.ext hn rfl, hmoves⟩
    have hx : Steps c id (u.position id [.opening callback]) (x.position id []) :=
      ((hdeclared.trans hmoves).steps [] Task.areIdle_nil)
    have hsuffix : .noted id (.fired (.text "initialized")) :: u.story id <:+ x.story id :=
      hfired.story ▸ (hmoves.steps [] Task.areIdle_nil).suffix
    have honce : declarations (x.story id) = 1 := by
      have hkeeps := (Progress.Steps.keeps hx hc hukeeps).declared
      refine Nat.le_antisymm (Nat.le_trans (Nat.le_add_right _ _) (Nat.le_trans hkeeps (Bool.toNat_le _))) ?_
      exact List.countP_pos_iff.mpr ⟨_, hsuffix.subset List.mem_cons_self, rfl⟩
    have hlast : (do let _ ← Session.fireEvent (callWithin depth) id "initialized" [] : Act Unit).run u = (.ok (), x) := by
      rw [run_bind, hrest]
      rfl
    dsimp only
    rw [hlast]
    exact .of_count hbefore (fun _ h => by cases h) (fun _ => hsuffix) honce (hlater x hx)

/-- The callback asks for something, and the listener, which is told next, shuts the session down. -/
theorem declares_of_steps_request :
    let asks : Callback := .mk "opened" [.session .null (.pushRequest "hover" .null none .null)] none
    let leaves : Callback := .mk "left" [.session .null (.shutdown .null)] none
    let m : Fields := [("id", .int 1), ("result", .object [])]
    let actions : List Action :=
      [.session .null (.onEvent "initialized" (some leaves)),
        .session .null (.handshake .null "editor" "1" (some asks)), .session .null .tick]
    (World.serving "server").IsNew ∧ actions.all (Conduct.listening.admits .host) ∧
      ∃ o ∈ outcomes (.serving "server") actions, (o.world.session 0).status = .initializing ∧
        ∃ v, Ends (Session.callBack (callWithin nestingLimit) (some asks) 0 0 (.object m)) v fun told u =>
          told.isOk ∧
            Ends (Session.openingAnswered (callWithin nestingLimit) (some asks) 0 0 (.object m)) o.world
              fun result x => Declares .listening 0 told u result x ∧ declarations (x.story 0) = 1 ∧
                (x.session 0).status = .terminated := by
  intro asks leaves m actions
  have hc : ∀ name args, ¬ Conduct.listening.allows (.fireEvent name args) := by
    rintro name args (h | h) <;> cases h
  have hw : (World.serving "server").IsNew := World.isNew_serving "server"
  have ha : actions.all (Conduct.listening.admits .host) := by decide
  have hrun : ∃ o ∈ outcomes (.serving "server") actions, (o.world.session 0).status = .initializing ∧
      let x := ((Session.openingAnswered (callWithin nestingLimit) (some asks) 0 0 (.object m)).run o.world).2
      declarations (x.story 0) = 1 ∧ (x.session 0).status = .terminated := by
    decide +kernel
  obtain ⟨o, ho, hs, honce, hover⟩ := hrun
  have hreached : o.world.Reached .listening 0 := World.reached_of_mem_outcomes hw ha ho Nat.zero_lt_one
  obtain ⟨config, name, K, hp⟩ := hreached.steps
  have hobeys : callbackObeys Conduct.listening.callback (some asks) := by decide
  have herror : (m.getD "error" .null).holds = false := rfl
  obtain ⟨capabilities, serverInfo, v, hv, hdeclares⟩ :=
    declares_of_steps hc hreached.ready hp hs hobeys 0 herror rfl nestingLimit
  refine ⟨hw, ha, o, ho, hs, v, hdeclares.mono fun told u hu => ?_⟩
  have hok : told.isOk := by
    have htold := hu.once.symm.trans honce
    cases told with
    | ok _ => rfl
    | error f => cases htold
  exact ⟨hok, hu, honce, hover⟩

/-- A session stays open and its listeners are not told so, since the callback fails; another one is over
and they are told that it is open, since the callback ended it. -/
theorem not_told_iff_of_mem_outcomes :
    let actions (callback : Callback) : List Action :=
      [.session .null (.handshake .null "editor" "1" (some callback)), .session .null .tick,
        .link .null (.write [Message.response (.int 1) (.object [])]), .session .null .tick]
    let ends : Action := .session .null (.teardown "gone" .null)
    (∃ o ∈ outcomes (.serving "server") (actions (.mk "opened" [] (some "no"))),
      (dealings 0 o.world.events).countP (·.answers 0) = 1 ∧ (o.world.session 0).status = .initialized ∧
        declarations (o.world.story 0) = 0) ∧
    ∃ o ∈ outcomes (.serving "server") (actions (.mk "opened" [ends] none)),
      (dealings 0 o.world.events).countP (·.answers 0) = 1 ∧ (o.world.session 0).status = .terminated ∧
        declarations (o.world.story 0) = 1 := by
  decide +kernel

end LanguageClient
