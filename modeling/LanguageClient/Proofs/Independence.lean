import LanguageClient.Proofs.Apart.Launching
import LanguageClient.Proofs.Registry.Shutdown

/-!
Independence. Of what one server writes the others hear nothing, and nothing is asked of the host otherwise
on their behalf, as long as what it offers is an object. One that offers anything else is in the way of those
that are asked after it.
-/

namespace LanguageClient

open Act World

/-! Runs that differ in what one server does -/

/-- Whether a host does this for all servers alike: time goes by, servers write, all that runs is ticked, and
features are used on well-typed documents. -/
inductive Action.IsShared : Action → Prop where
  | advance (seconds : Json) : IsShared (.advance seconds)
  | link {server : Json} (named : server.isNull = false) (action : LinkAction) : IsShared (.link server action)
  | process : IsShared (.registry .process)
  | runOnce : IsShared (.scheduler .runOnce)
  | openDocument {doc : Json} (typed : Document.IsTyped doc) : IsShared (.feature (.openDocument doc))
  | closeDocument {doc : Json} (typed : Document.IsTyped doc) : IsShared (.feature (.closeDocument doc))
  | requestCompletion {doc : Json} (typed : Document.IsTyped doc) (line col : Int) :
    IsShared (.feature (.requestCompletion doc (.int line) (.int col)))
  | goTo {doc : Json} (typed : Document.IsTyped doc) (line col : Int) (implementation : Json) :
    IsShared (.feature (.goTo doc (.int line) (.int col) implementation))

/-- Two runs that are the same but for what the other end of one server's link does. -/
inductive Departs (s : Json) : List Action → List Action → Prop where
  | nil : Departs s [] []
  | left {server : Json} {a : LinkAction} {as bs : List Action} (named : server.isNull = false)
    (key : server.key? = s.key?) (rest : Departs s as bs) : Departs s (.link server a :: as) bs
  | right {server : Json} {a : LinkAction} {as bs : List Action} (named : server.isNull = false)
    (key : server.key? = s.key?) (rest : Departs s as bs) : Departs s as (.link server a :: bs)
  | both {a : Action} {as bs : List Action} (shared : a.IsShared) (rest : Departs s as bs) :
    Departs s (a :: as) (a :: bs)

namespace World

/-- The world in which a run ends. -/
def upon (w : World) (actions : List Action) : World := ((outcomes w actions).getLast?.map Outcome.world).getD w

/-- What is heard of the sessions of a server, one after the other. -/
def heard (w : World) (server : Json) : List (List Voice) :=
  ((List.range w.sessions.length).filter fun id => (w.session id).name.key? = server.key?).map
    fun id => voices id w.events

end World

variable {k : Option Json.Key} {ps : List (SessionId × SessionId)} {v w x : World} {id : SessionId}

/-! Pairs of sessions -/

namespace World

lemma Lists.filter_eq {ids : List SessionId} (h : w.Lists k ids) {P : SessionId → Bool}
    (hP : ∀ id, P id → w.isOther k id) : (List.range w.sessions.length).filter P = ids.filter P := by
  have hboth : (fun id => P id && w.isOther k id) = P := funext fun id => by
    cases hid : P id with
    | true => rw [hP id hid, Bool.and_true]
    | false => rfl
  rw [← h.others, List.filter_filter, hboth]

/-- What is so of sessions of other servers alone is so of twins. -/
lemma Matched.exists_filter_eq (h : Matched k ps w v) {P P' : SessionId → Bool} (hP : ∀ id, P id → w.isOther k id)
    (hP' : ∀ id, P' id → v.isOther k id) (hsame : ∀ p ∈ ps, P p.1 = P' p.2) : ∃ qs, qs ⊆ ps ∧
      (List.range w.sessions.length).filter P = qs.map Prod.fst ∧
      (List.range v.sessions.length).filter P' = qs.map Prod.snd := by
  refine ⟨ps.filter fun p => P p.1, List.filter_subset_self _, ?_, ?_⟩
  · rw [h.left.filter_eq hP, List.filter_map]
    rfl
  · rw [h.right.filter_eq hP', List.filter_map]
    exact congrArg _ (List.filter_congr fun p hp => (hsame p hp).symm)

/-- Of other servers the same is heard. -/
lemma Matched.heard_eq (h : Matched k ps w v) {t : Json} (ht : t.key? ≠ k) : w.heard t = v.heard t := by
  have hother : ∀ u : World, ∀ id, decide ((u.session id).name.key? = t.key?) → u.isOther k id := fun u id hid => by
    rw [isOther, of_decide_eq_true hid]
    exact decide_eq_true ht
  obtain ⟨qs, hqs, hleft, hright⟩ := h.exists_filter_eq (hother w) (hother v) fun p hp => by
    rw [(h.twin p hp).session]
  rw [heard, heard, hleft, hright, List.map_map, List.map_map]
  exact List.map_congr_left fun p hp => (h.twin p (hqs hp)).voices

end World

/-! Links -/

section

variable {server : Json}

/-- A link is the one of a session of the server that is named. -/
lemma key_of_holdsLink (hnull : server.isNull = false) (h : holdsLink w server id) :
    (w.session id).name.key? = server.key? := by
  rw [holdsLink, hnull, Bool.false_or, Bool.and_eq_true, decide_eq_true_eq] at h
  exact h.2

lemma run_linked (server : Json) (w : World) : (linked server).run w =
    (match ((List.range w.sessions.length).filter (holdsLink w server)).reverse.head? with
      | some id => .ok id
      | none => .error .noLink, w) := by
  have hrun : (linked server).run w = (match (List.range w.sessions.length).reverse.find? (holdsLink w server) with
      | some id => pure id
      | none => throw .noLink : Act SessionId).run w := rfl
  rw [hrun, ← List.head?_filter, List.filter_reverse]
  split <;> rfl

lemma after_answerNothing (a : Act Unit) (w : World) : (answerNothing a).after w = a.after w := by
  rw [answerNothing, after, after, run_bind]
  rcases a.run w with ⟨_ | _, x⟩ <;> rfl

lemma after_link (server : Json) (a : LinkAction) (w : World) : (act (.link server a)).after w =
    match ((List.range w.sessions.length).filter (holdsLink w server)).reverse.head? with
      | some id => (performLink id a).after w
      | none => w := by
  have hrun : (act (.link server a)).run w =
      (linked server >>= fun id => answerNothing (performLink id a)).run w := rfl
  rw [after, hrun, run_bind, run_linked]
  split
  next id w' heq =>
    split at heq
    next id' hhead =>
      obtain ⟨hid, rfl⟩ := Prod.mk.inj heq
      obtain rfl := Except.ok.inj hid
      exact after_answerNothing _ w
    next => cases heq
  next f w' heq =>
    split at heq
    next => cases heq
    next hhead => exact (Prod.mk.inj heq).2.symm

namespace World.Matched

variable {a : LinkAction}

/-- The one server writes. -/
lemma link_left (h : Matched k ps w v) (named : server.isNull = false) (key : server.key? = k) :
    Matched k ps ((act (.link server a)).after w) v := by
  rw [after_link]
  cases hhead : ((List.range w.sessions.length).filter (holdsLink w server)).reverse.head? with
  | none => exact h
  | some id =>
    have hmem := List.mem_filter.mp (List.mem_reverse.mp (List.mem_of_head? hhead))
    have hlt := List.mem_range.mp hmem.1
    have halone := (h.left.key_eq_iff hlt).mp ((key_of_holdsLink named hmem.2).trans key)
    exact h.aside (h.left.spares_after (local_performLink a) hlt) hlt halone

/-- Another server writes, and writes the same in the other world. -/
lemma link_both (h : Matched k ps w v) (named : server.isNull = false) (key : server.key? ≠ k) :
    Matched k ps ((act (.link server a)).after w) ((act (.link server a)).after v) := by
  have hother : ∀ u : World, ∀ id, holdsLink u server id → u.isOther k id := fun u id hid => by
    rw [isOther, key_of_holdsLink named hid]
    exact decide_eq_true key
  obtain ⟨qs, hqs, hleft, hright⟩ := h.exists_filter_eq (hother w) (hother v) fun p hp => by
    rw [holdsLink, holdsLink, (h.twin p hp).session]
  rw [after_link, after_link, hleft, hright, ← List.map_reverse, ← List.map_reverse, List.head?_map, List.head?_map]
  cases hhead : qs.reverse.head? with
  | none => exact h
  | some p =>
    have hp := hqs (List.mem_reverse.mp (List.mem_of_head? hhead))
    exact (h.both hp (local_performLink a)).2.1

end World.Matched

end

/-! Actions -/

lemma quiet_runOnce (call : Caller) (w : World) :
    Quiet ((Registry.process call).after w) ((Schedule.runOnce call).after w) := by
  suffices h : ∀ r, (Registry.process call).run w = (r, (Registry.process call).after w) →
      Ends (Schedule.runOnce call) w fun _ v => Quiet ((Registry.process call).after w) v from h _ rfl
  intro r hr
  refine Ends.attempt_bind ?_
  rw [Ends, hr]
  cases r with
  | ok _ => exact .refl _
  | error f => exact quiet_log ..

namespace World.Matched

/-- Time goes by. -/
lemma advance (h : Matched k ps w v) (x : Float) :
    Matched k ps { w with clock := w.clock + x } { v with clock := v.clock + x } := by
  have hcommon : World.common { w with clock := w.clock + x } = World.common { v with clock := v.clock + x } :=
    (congrArg (fun c : World => { c with clock := c.clock + x }) h.common :)
  exact {
    left := { h.left with }
    right := { h.right with }
    twin := fun p hp => { h.twin p hp with common := hcommon }
    running := h.running
    common := hcommon
    configured := h.configured
    launchable := h.launchable }

/-- What a host does for all servers alike keeps worlds matched. -/
lemma shared (h : Matched k ps w v) {a : Action} (ha : a.IsShared) (hw : w.isPlain k) (hv : v.isPlain k) :
    ∃ qs, Matched k qs ((act a).after w) ((act a).after v) := by
  have hcalls : CallsLocally (callWithin nestingLimit) := callsLocally_callWithin nestingLimit
  have hfeature : ∀ f : FeatureAction, (∃ qs, Matched k qs ((performFeature f).after w) ((performFeature f).after v)) →
      ∃ qs, Matched k qs ((act (.feature f)).after w) ((act (.feature f)).after v) := fun f hf => by
    change ∃ qs, Matched k qs ((answerNothing (performFeature f)).after w) ((answerNothing (performFeature f)).after v)
    rwa [after_answerNothing, after_answerNothing]
  cases ha with
  | advance seconds =>
    change ∃ qs, Matched k qs ((check seconds.toFloat >>= fun x =>
        answerNothing (modify fun w => { w with clock := w.clock + x })).after w) ((check seconds.toFloat >>= fun x =>
        answerNothing (modify fun w => { w with clock := w.clock + x })).after v)
    cases seconds.toFloat with
    | error f => exact ⟨ps, h⟩
    | ok x => exact ⟨ps, h.advance x⟩
  | link named action =>
    rename_i server
    by_cases key : server.key? = k
    · exact ⟨ps, ((h.link_left named key).symm.link_left named key).of_symm⟩
    · exact ⟨ps, h.link_both named key⟩
  | process =>
    change ∃ qs, Matched k qs ((answerNothing (Registry.process _)).after w) ((answerNothing (Registry.process _)).after v)
    rw [after_answerNothing, after_answerNothing]
    exact ⟨ps, h.process hcalls⟩
  | runOnce =>
    change ∃ qs, Matched k qs ((answerNothing (Schedule.runOnce _)).after w) ((answerNothing (Schedule.runOnce _)).after v)
    rw [after_answerNothing, after_answerNothing]
    exact ⟨ps, (((h.process hcalls).quiet (quiet_runOnce _ w)).symm.quiet (quiet_runOnce _ v)).of_symm⟩
  | openDocument typed => exact hfeature _ (Features.parallel_openDocument typed h).2
  | closeDocument typed => exact hfeature _ (Features.parallel_closeDocument typed h).2
  | requestCompletion typed line col =>
    exact hfeature _ (Features.parallel_requestCompletion typed line col h hw hv).2
  | goTo typed line col implementation =>
    exact hfeature _ (Features.parallel_goTo typed line col implementation.holds h hw hv).2

end World.Matched

/-! Runs -/

lemma quiet_stop (timeout : Json) (w : World) : Quiet w ((Schedule.stop timeout).after w) := by
  change Ends (Schedule.stop timeout) w fun _ x => Quiet w x
  have hrest : ∀ x, Quiet w x → Ends (do
      if (← get).scheduler.started then
        let _ ← Act.check timeout.limit
        modify fun w => { w with scheduler := { w.scheduler with started := false } }) x fun _ y => Quiet w y := by
    intro x hx
    refine ends_get_bind ?_
    split
    next => exact ends_check_bind (fun _ _ => hx.trans ⟨rfl, rfl, rfl, fun _ => rfl⟩) fun _ _ => hx
    next => exact hx
  refine Ends.bind ?_
  change Next _ _ (.ok w.scheduler.running) w
  refine next_ok ?_
  split
  next =>
    have hset : Quiet w ((Schedule.setRunning false).after w) := ⟨rfl, rfl, rfl, fun _ => rfl⟩
    have hsaid := quiet_log ((Schedule.setRunning false).after w) .scheduler (.int Level.debug)
      "Scheduler stopped 🔴" none
    exact hrest _ (hset.trans hsaid)
  next => exact hrest w (.refl w)

lemma quiet_actLast (a : Action) (w : World) : Quiet ((act a).after w) ((actLast a).after w) := by
  change Ends (Schedule.stop defaultTimeout >>= fun _ => Act.check ((act a).run w).1) ((act a).after w)
    fun _ x => Quiet ((act a).after w) x
  have hstop : Ends (Schedule.stop defaultTimeout) ((act a).after w) fun _ x => Quiet ((act a).after w) x :=
    quiet_stop defaultTimeout _
  refine Ends.bind (hstop.mono fun r x hx => ?_)
  cases r <;> exact hx

namespace World

lemma exists_outcomes_cons (w : World) (a : Action) (as : List Action) : ∃ o,
    outcomes w (a :: as) = o :: outcomes o.world as ∧ Quiet ((act a).after w) o.world := by
  cases as with
  | nil => exact ⟨_, rfl, quiet_actLast a w⟩
  | cons b rest => exact ⟨_, rfl, .refl _⟩

lemma upon_eq_of_outcomes {a : Action} {as : List Action} {o : Outcome}
    (h : outcomes w (a :: as) = o :: outcomes o.world as) : w.upon (a :: as) = o.world.upon as := by
  rw [upon, upon, h, List.getLast?_cons]
  cases (outcomes o.world as).getLast? <;> rfl

lemma isPlain_of_quiet (h : Quiet w x) (hx : x.isPlain k) : w.isPlain k := by
  rwa [isPlain, ← h.sessions]

/-- Runs that differ in what one server does end in worlds that match. -/
lemma exists_matched_upon {s : Json} {as bs : List Action} (h : Departs s as bs) {ps : List (SessionId × SessionId)}
    {w v : World} (hm : Matched s.key? ps w v) (hw : w.isPlain s.key?) (hv : v.isPlain s.key?)
    (has : ∀ o ∈ outcomes w as, o.world.isPlain s.key?) (hbs : ∀ o ∈ outcomes v bs, o.world.isPlain s.key?) :
    ∃ qs, Matched s.key? qs (w.upon as) (v.upon bs) := by
  induction h generalizing ps w v with
  | nil => exact ⟨ps, hm⟩
  | @left server a as bs named key rest ih =>
    obtain ⟨o, ho, hquiet⟩ := exists_outcomes_cons w (.link server a) as
    rw [ho] at has
    rw [upon_eq_of_outcomes ho]
    exact ih ((hm.link_left named key).quiet hquiet) (has o List.mem_cons_self) hv
      (fun o' ho' => has o' (List.mem_cons_of_mem _ ho')) hbs
  | @right server a as bs named key rest ih =>
    obtain ⟨o, ho, hquiet⟩ := exists_outcomes_cons v (.link server a) bs
    rw [ho] at hbs
    rw [upon_eq_of_outcomes ho]
    exact ih ((hm.symm.link_left named key).quiet hquiet).of_symm hw (hbs o List.mem_cons_self) has
      fun o' ho' => hbs o' (List.mem_cons_of_mem _ ho')
  | @both a as bs shared rest ih =>
    obtain ⟨o, ho, hquiet⟩ := exists_outcomes_cons w a as
    obtain ⟨o', ho', hquiet'⟩ := exists_outcomes_cons v a bs
    rw [ho] at has
    rw [ho'] at hbs
    rw [upon_eq_of_outcomes ho, upon_eq_of_outcomes ho']
    obtain ⟨qs, hqs⟩ := hm.shared shared hw hv
    exact ih ((hqs.quiet hquiet).symm.quiet hquiet').of_symm (has o List.mem_cons_self) (hbs o' List.mem_cons_self)
      (fun x hx => has x (List.mem_cons_of_mem _ hx)) fun x hx => hbs x (List.mem_cons_of_mem _ hx)

lemma IsVacant.matched (h : w.IsVacant) (hs : ∀ entry ∈ w.servers, Registry.IsConfigured entry) (k : Option Json.Key) :
    Matched k [] w w := by
  have hlists : w.Lists k [] := by
    refine ⟨by rw [h.sessions]; rfl, fun id => ?_, fun id => ?_, fun id _ => by rw [h.events]; rfl⟩
    · exact h.session_eq id ▸ Session.isOwn_default
    · exact h.session_eq id ▸ Session.reads_default
  exact ⟨hlists, hlists, (fun _ hp => by cases hp), h.running ▸ .nil, rfl, hs,
    fun hr => (hr.elim id id h.running).elim⟩

end World

/-- Servers and what one of them writes: the others hear the same, and the same is asked of the host on their
behalf. -/
theorem heard_eq_of_departs {w : World} (hw : w.IsVacant) (hs : ∀ entry ∈ w.servers, Registry.IsConfigured entry)
    {s : Json} {as bs : List Action} (h : Departs s as bs) (ha : ∀ o ∈ outcomes w as, o.world.isPlain s.key?)
    (hb : ∀ o ∈ outcomes w bs, o.world.isPlain s.key?) {t : Json} (ht : t.key? ≠ s.key?) :
    (w.upon as).heard t = (w.upon bs).heard t := by
  have hplain : w.isPlain s.key? := by
    rw [isPlain, hw.sessions]
    rfl
  obtain ⟨ps, hps⟩ := exists_matched_upon h (hw.matched hs _) hplain hplain ha hb
  exact hps.heard_eq ht

/-! Runs with two servers -/

namespace Registry

/-- A server for some files. -/
def pythonServer (name : Text) : Json × Fields :=
  (.text name, [("name", .text name), ("command", "run"), ("file_patterns", .list ["\\.py$"])])

lemma isConfigured_pythonServer {name : Text} (h : (Json.text name).holds) : IsConfigured (pythonServer name) where
  checked := by
    have hname : Fields.getD (pythonServer name).2 "name" .null = .text name := rfl
    have hcommand : Fields.getD (pythonServer name).2 "command" .null = "run" := rfl
    have hpatterns : Fields.getD (pythonServer name).2 "file_patterns" .null = .list ["\\.py$"] := rfl
    have hnone : (mandatoryFields.find? fun key => !((pythonServer name).2.getD key .null).holds) = none := by
      rw [List.find?_eq_none]
      intro key hkey
      rw [mandatoryFields, List.mem_cons, List.mem_cons, List.mem_singleton] at hkey
      rcases hkey with rfl | rfl | rfl
      · rw [hname, h]
        decide
      · rw [hcommand]
        decide
      · rw [hpatterns]
        decide
    unfold checkConfig
    rw [show (Json.object (pythonServer name).2).fields = .ok (pythonServer name).2 from rfl]
    simp only [bind, Except.bind, hnone]
    rfl
  name := rfl
  patterns := by
    have hparse : (Pattern.parse "\\.py$").toOption.isSome := by decide +kernel
    refine ⟨["\\.py$"], rfl, fun item hitem => ?_⟩
    obtain rfl := List.mem_singleton.mp hitem
    cases hp : Pattern.parse "\\.py$" with
    | error f => rw [hp] at hparse; cases hparse
    | ok p => exact ⟨_, p, rfl, hp⟩

end Registry

/-- Two servers for the same files, the first of which may do what it likes. -/
def World.withTwo : World := { servers := [Registry.pythonServer "one", Registry.pythonServer "two"] }

lemma World.isVacant_withTwo : World.withTwo.IsVacant := by
  refine ⟨rfl, rfl, fun entry he => ?_, rfl⟩
  rcases List.mem_pair.mp he with rfl | rfl <;> rfl

lemma World.isConfigured_withTwo (entry : Json × Fields) (he : entry ∈ World.withTwo.servers) :
    Registry.IsConfigured entry := by
  rcases List.mem_pair.mp he with rfl | rfl <;> exact Registry.isConfigured_pythonServer rfl

/-- One server writes what cannot be read and ends, and is started anew; or it is opened and goes on. The other
one is told of the document and asked for completion. -/
theorem heard_eq_of_departs_restart :
    let doc : Json := .object [("filename", "/a.py"), ("text", "x"), ("version", .int 1)]
    let offers (capabilities : Fields) : Json := Message.response (.int 1) (.object [("capabilities", .object capabilities)])
    let two : Action := .link "two" (.write [offers [("completionProvider", .object [])]])
    let later : List Action := [.feature (.openDocument doc), .feature (.requestCompletion doc (.int 1) (.int 1)),
      .registry .process]
    let ends : List Action := [.feature (.openDocument doc), .registry .process,
      .link "one" (.writeBytes (.ok [120, 13, 10, 13, 10])), .link "one" (.setAlive (.bool false)), two,
      .registry .process] ++ later
    let goesOn : List Action := [.feature (.openDocument doc), .registry .process,
      .link "one" (.write [offers []]), two, .registry .process] ++ later
    World.withTwo.IsVacant ∧ (∀ entry ∈ World.withTwo.servers, Registry.IsConfigured entry) ∧
      Departs "one" ends goesOn ∧ (∀ o ∈ outcomes .withTwo ends, o.world.isPlain (Json.key? "one")) ∧
      (∀ o ∈ outcomes .withTwo goesOn, o.world.isPlain (Json.key? "one")) ∧ Json.key? "two" ≠ Json.key? "one" ∧
      (World.withTwo.upon ends).heard "two" = (World.withTwo.upon goesOn).heard "two" ∧
      ((World.withTwo.upon ends).heard "two").map List.length = [5] := by
  intro doc offers two later ends goesOn
  have hdoc : Document.IsTyped doc := ⟨⟨_, rfl⟩, ⟨_, rfl⟩, ⟨_, rfl⟩⟩
  have hlater : Departs "one" later later :=
    .both (.openDocument hdoc) (.both (.requestCompletion hdoc 1 1) (.both .process .nil))
  have hdeparts : Departs "one" ends goesOn :=
    .both (.openDocument hdoc) (.both .process (.left rfl rfl (.left rfl rfl (.right rfl rfl
      (.both (.link rfl _) (.both .process hlater))))))
  have hends : ∀ o ∈ outcomes .withTwo ends, o.world.isPlain (Json.key? "one") := by decide +kernel
  have hgoesOn : ∀ o ∈ outcomes .withTwo goesOn, o.world.isPlain (Json.key? "one") := by decide +kernel
  have hkey : Json.key? "two" ≠ Json.key? "one" := by decide
  exact ⟨World.isVacant_withTwo, World.isConfigured_withTwo, hdeparts, hends, hgoesOn, hkey,
    heard_eq_of_departs World.isVacant_withTwo World.isConfigured_withTwo hdeparts hends hgoesOn hkey,
    by decide +kernel⟩

/-- One server says that it offers a number; the other one is not asked for completion after that. -/
theorem heard_ne_of_departs :
    let doc : Json := .object [("filename", "/a.py"), ("text", "x"), ("version", .int 1)]
    let offers (capabilities : Json) : LinkAction :=
      .write [Message.response (.int 1) (.object [("capabilities", capabilities)])]
    let run (capabilities : Json) : List Action :=
      [.feature (.openDocument doc), .registry .process, .link "one" (offers capabilities),
        .link "two" (offers (.object [("completionProvider", .object [])])), .registry .process,
        .feature (.requestCompletion doc (.int 1) (.int 1)), .registry .process]
    World.withTwo.IsVacant ∧ (∀ entry ∈ World.withTwo.servers, Registry.IsConfigured entry) ∧
      Departs "one" (run (.int 5)) (run (.object [])) ∧ Json.key? "two" ≠ Json.key? "one" ∧
      (World.withTwo.upon (run (.int 5))).heard "two" ≠ (World.withTwo.upon (run (.object []))).heard "two" := by
  intro doc offers run
  have hdoc : Document.IsTyped doc := ⟨⟨_, rfl⟩, ⟨_, rfl⟩, ⟨_, rfl⟩⟩
  have hless : ((World.withTwo.upon (run (.int 5))).heard "two").map List.length ≠
      ((World.withTwo.upon (run (.object []))).heard "two").map List.length := by
    decide +kernel
  refine ⟨World.isVacant_withTwo, World.isConfigured_withTwo, ?_, by decide, mt (congrArg _) hless⟩
  exact .both (.openDocument hdoc) (.both .process (.left rfl rfl (.right rfl rfl (.both (.link rfl _)
    (.both .process (.both (.requestCompletion hdoc 1 1) (.both .process .nil)))))))

end LanguageClient
