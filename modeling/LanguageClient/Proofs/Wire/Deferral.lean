import LanguageClient.Proofs.Handshake
import LanguageClient.Proofs.Wire.Queues

/-!
Deferral. What is pushed before a session is open waits until it is; then the server is told that it is
open, is told what was deferred and is asked what was deferred, and then comes what was pushed later.
-/

namespace LanguageClient

namespace Deferral

open Queues
open Utterance (only)

variable {c : Conduct} {id : SessionId} {p q : Position} {s s' : Session} {es es' : List Event}
  {K K' : List Task}

/-- What is asked after the session is open was preceded by the notice of it, and by what was deferred. -/
def Asks (id : SessionId) (items : List Deferred) (es : List Event) : Prop :=
  ∀ server message earlier, .sent id server message :: earlier <:+ es →
    ∀ u ∈ Utterance.ofMessage? message, u.isRequest → u.method ≠ "initialize" →
      ∃ r later, enqueued id earlier = .inr r :: .inl Session.opened :: (items ++ later)

lemma Asks.adds {items : List Deferred} (h : Asks id items es) (he : Adds (isSilent id) es es') :
    Asks id items es' := by
  intro server message earlier hs u hu
  refine h server message earlier (he.suffix_of_cons hs ?_) u hu
  rw [isSilent, Event.utterance?, if_pos rfl, show Utterance.ofMessage? message = some u from hu]
  rfl

/-- What is queued in the course of a handshake, and what is deferred meanwhile. -/
structure Announces (id : SessionId) (p : Position) : Prop where
  fresh : p.session.status = .uninitialized → enqueued id p.events = []
  asked : p.session.status = .initializing →
    ∃ r : OutgoingRequest, r.method = "initialize" ∧ enqueued id p.events = [.inr r]
  waits : p.session.status = .uninitialized ∨ p.session.status = .initializing →
    p.session.deferred = deferredItems p.events
  opened : p.session.status = .initialized → ∃ r : OutgoingRequest, ∃ later, r.method = "initialize" ∧
    enqueued id p.events = .inr r :: .inl Session.opened :: (deferredItems p.events ++ later)
  asks : Asks id (deferredItems p.events) p.events

lemma Announces.blank (config : Fields) (name : Json) : Announces id ⟨.blank config name, [], []⟩ where
  fresh _ := rfl
  asked := nofun
  waits _ := rfl
  opened := nofun
  asks _ _ _ h := (List.cons_ne_nil _ _ (List.suffix_nil.mp h)).elim

/-- What was asked in the course of a handshake is to open the session. -/
lemma Announces.method_eq (h : Announces id p) (hstep : IsInStep id p)
    (hs : p.session.status = .uninitialized ∨ p.session.status = .initializing) {u : Utterance}
    (hu : u ∈ only true (uttered id p.events) ++ p.session.waiting true) : u.method = "initialize" := by
  rw [hstep.kept true] at hu
  rcases hs with hs | hs
  · rw [h.fresh hs] at hu
    cases hu
  · obtain ⟨r, hr, hqueued⟩ := h.asked hs
    rw [hqueued] at hu
    obtain rfl := List.mem_singleton.mp hu
    exact hr

lemma mem_uttered {server message : Json} {earlier : List Event} {u : Utterance}
    (h : .sent id server message :: earlier <:+ es) (hu : u ∈ Utterance.ofMessage? message) :
    u ∈ uttered id es := by
  refine List.mem_reverse.mpr (List.mem_filterMap.mpr ⟨_, h.subset List.mem_cons_self, ?_⟩)
  rw [Event.utterance?, if_pos rfl]
  exact hu

/-- What is of no concern to a handshake, and asks for nothing. -/
lemma Announces.aside (h : Announces id ⟨s, es, K⟩) (hst : s'.status = s.status)
    (hd : s'.deferred = s.deferred) (he : Adds (isAside id) es es') (hi : deferredItems es' = deferredItems es) :
    Announces id ⟨s', es', K'⟩ := by
  have henqueued := enqueued_eq_of_adds he
  refine ⟨fun hs => ?_, fun hs => ?_, fun hs => ?_, fun hs => ?_, ?_⟩
  · exact henqueued.trans (h.fresh (hst ▸ hs))
  · exact henqueued ▸ h.asked (hst ▸ hs)
  · exact hd.trans ((h.waits (hst ▸ hs)).trans hi.symm)
  · exact henqueued ▸ hi ▸ h.opened (hst ▸ hs)
  · exact hi ▸ h.asks.adds (he.mono fun _ => isSilent_of_isAside)

/-- What is written concerns no handshake, unless something is asked. -/
lemma Announces.say (h : Announces id ⟨s, es, K⟩) (hst : s'.status = s.status)
    (hd : s'.deferred = s.deferred) {message : Json} {result : Except Fault Unit}
    (writes : Writes id s message es result es')
    (hask : ∀ u ∈ Utterance.ofMessage? message, u.isRequest → u.method ≠ "initialize" →
      s.status = .initialized) : Announces id ⟨s', es', K'⟩ := by
  cases writes with
  | refused | unlinked => exact h.aside hst hd (.single rfl) rfl
  | unencodable => exact h.aside hst hd (.refl es) rfl
  | sent linked =>
    have henqueued : enqueued id (.sent id s.name message :: es) = enqueued id es := enqueued_sent _ _
    refine ⟨fun hs => ?_, fun hs => ?_, fun hs => ?_, fun hs => ?_, fun server message' earlier hs u hu hr hm => ?_⟩
    · exact henqueued.trans (h.fresh (hst ▸ hs))
    · exact henqueued ▸ h.asked (hst ▸ hs)
    · exact hd.trans (h.waits (hst ▸ hs))
    · exact henqueued ▸ h.opened (hst ▸ hs)
    · rcases List.suffix_cons_iff.mp hs with he | hs
      · obtain ⟨hsent, rfl⟩ := List.cons.inj he
        obtain ⟨-, -, rfl⟩ := Event.sent.inj hsent
        obtain ⟨r, later, -, hopened⟩ := h.opened (hask u hu hr hm)
        exact ⟨r, later, hopened⟩
      · exact h.asks server message' earlier hs u hu hr hm

lemma deferredItems_deferred (item : Deferred) :
    deferredItems (.noted id (.deferred item) :: es) = deferredItems es ++ [item] :=
  List.reverse_cons

/-- What is pushed before the session is open is deferred. -/
lemma Announces.defer (h : Announces id ⟨s, es, K⟩) (hstep : IsInStep id ⟨s, es, K⟩) (item : Deferred)
    (hs : s.status = .uninitialized ∨ s.status = .initializing) :
    Announces id ⟨{ s with deferred := s.deferred ++ [item] }, .noted id (.deferred item) :: es, K⟩ := by
  have henqueued : enqueued id (.noted id (.deferred item) :: es) = enqueued id es :=
    (enqueued_cons _).trans (List.append_nil _)
  refine ⟨fun hst => ?_, fun hst => ?_, fun hst => ?_, fun hst => ?_,
    fun server message earlier hsent u hu hr hm => ?_⟩
  · exact henqueued.trans (h.fresh hst)
  · exact henqueued ▸ h.asked hst
  · exact (congrArg (· ++ [item]) (h.waits hst)).trans (deferredItems_deferred item).symm
  · rcases hs with hs | hs <;> cases hs.symm.trans hst
  · -- Nothing but the opening of the session was asked so far.
    have hbefore : .sent id server message :: earlier <:+ es :=
      (Adds.single rfl : Adds (isSilent id) es _).suffix_of_cons hsent (by
        rw [isSilent, Event.utterance?, if_pos rfl, show Utterance.ofMessage? message = some u from hu]
        rfl)
    have hmem : u ∈ only true (uttered id es) :=
      List.mem_filter.mpr ⟨mem_uttered hbefore hu, decide_eq_true hr⟩
    exact (hm (h.method_eq hstep hs (List.mem_append_left _ hmem))).elim

lemma Announces.queue (h : Announces id ⟨s, es, K⟩) (item : Deferred) (hs : s.status = .initialized) :
    Announces id ⟨s, .noted id (.queued item) :: es, K⟩ := by
  have hnot : ¬ (s.status = .uninitialized ∨ s.status = .initializing) := by
    rintro (h | h) <;> cases hs.symm.trans h
  refine ⟨fun h => (hnot (.inl h)).elim, fun h => (hnot (.inr h)).elim, fun h => (hnot h).elim,
    fun _ => ?_, h.asks.adds (.single rfl)⟩
  obtain ⟨r, later, hr, hopened⟩ := h.opened hs
  refine ⟨r, later ++ [item], hr, ?_⟩
  change enqueued id _ = .inr r :: .inl Session.opened :: (deferredItems es ++ (later ++ [item]))
  rw [enqueued_queued, hopened]
  simp

lemma Announces.introduce (h : Announces id ⟨s, es, K⟩) {params : Json} {callback : Option Callback}
    (hs : s.status = .uninitialized) : Announces id ⟨s.introduce params callback,
      .noted id (.queued (.inr (s.openingRequest params callback))) :: es, K⟩ where
  fresh := nofun
  asked _ := by
    refine ⟨s.openingRequest params callback, rfl, ?_⟩
    rw [enqueued_queued, h.fresh hs]
    rfl
  waits _ := h.waits (.inl hs)
  opened := nofun
  asks := h.asks.adds (.single rfl)

/-- What was deferred comes with the notice that the session is open. -/
lemma Announces.welcome (h : Announces id ⟨s, es, K⟩) (capabilities serverInfo : Json)
    (hs : s.status = .initializing) : Announces id
      ⟨s.welcome capabilities serverInfo, .noted id (.announced s.deferred) :: es, K'⟩ where
  fresh := nofun
  asked := nofun
  waits h := by rcases h with h | h <;> cases h
  opened _ := by
    obtain ⟨r, hr, hqueued⟩ := h.asked hs
    refine ⟨r, [], hr, ?_⟩
    rw [enqueued_announced, hqueued, h.waits (.inr hs), List.append_nil]
    rfl
  asks := h.asks.adds (.single rfl)

lemma Step.announces (h : Step c id p q) (hc : c.TakesTurns) (hs : p.Sound c id)
    (answered : IsWellAnswered id q.events) (live : q.session.status.isLeaving = false)
    (hstep : IsInStep id p) (hp : Announces id p) : Announces id q := by
  cases h
  -- Opening
  case introduced s es K rootUri rootPath name version callback status linked allowed obeys path =>
    exact (hp.introduce status).aside rfl rfl (.single rfl) rfl
  case deferred s es K a item documents allowed obeys asked tracks status lifecycle =>
    refine (hp.defer hstep item status).aside ?_ ?_ ?_ (Handshake.areAside_acceptance item _).deferred
    · cases item <;> rfl
    · cases item <;> rfl
    · exact (Adds.refl _).acceptance (fun _ _ => rfl) item
  case queued s es K a item documents allowed obeys asked tracks status =>
    have hstatus : s.status = .initialized := status.resolve_right fun hl =>
      Call.Kind.ofMethod_ne_other hl.2 (hc.ofMethod_eq allowed asked)
    refine (hp.queue item hstatus).aside ?_ ?_ ?_ (Handshake.areAside_acceptance item _).deferred
    · cases item <;> rfl
    · cases item <;> rfl
    · exact (Adds.refl _).acceptance (fun _ _ => rfl) item
  -- Sending
  case notified s es K n rest result es' queue free writes =>
    refine hp.say rfl rfl writes fun u hu hr => ?_
    obtain rfl := Option.some.inj hu
    cases hr
  case requested s es K r rest p now result es' queue free first entry writes =>
    have hbefore : Announces id ⟨s, .dealt id (.registered r.ticket s.nextNumber) :: es, K⟩ :=
      hp.aside rfl rfl (.single rfl) rfl
    refine hbefore.say rfl rfl writes fun u hu _ hm => ?_
    obtain rfl := Option.some.inj hu
    cases hst : s.status with
    | initialized => rfl
    | shuttingDown | terminated =>
      change s.status.isLeaving = false at live
      rw [hst] at live
      cases live
    | uninitialized | initializing =>
      have hmem : Utterance.ofRequest r ∈ s.waiting true := by
        rw [Session.waiting, queue]
        exact List.mem_cons_self
      refine (hm (hp.method_eq hstep ?_ (List.mem_append_right _ hmem))).elim
      simp [hst]
  case replied kind isReply writes =>
    refine hp.say rfl rfl writes fun u hu => ?_
    rw [Utterance.ofMessage?_reply isReply] at hu
    cases hu
  -- Answering
  case stuck holds result =>
    exact (hs.not_isWellAnswered List.mem_cons_self holds result answered).elim
  case welcomed status result => exact hp.welcome _ _ status
  -- Ending
  case left | parted | saidGoodbye | unheardGoodbye | ended => cases live
  case overtaken status => cases (Status.isLeaving_of_or (.inr status)).symm.trans live
  case abandoned status encodes => cases (Status.isLeaving_of_or (.inl status)).symm.trans live
  case buried status settled => cases (Status.isLeaving_of_or (.inr status)).symm.trans live
  case documented status fewer => cases status.symm.trans live
  -- Everything else
  case took s es t K m reader next running =>
    obtain ⟨responses, errors, he⟩ := Session.exists_enqueue_eq { s with reader } m
    rw [he]
    exact hp.aside rfl rfl (.single rfl) rfl
  all_goals
    exact hp.aside rfl rfl (by first | exact .refl _ | exact .single rfl) rfl

lemma Steps.announces (h : Steps c id p q) (hc : c.TakesTurns) (sends : c.Sends p.session.config)
    (hs : p.Sound c id) (answered : IsWellAnswered id q.events)
    (few : q.session.correlator.lastId < numberLimit) (live : q.session.status.isLeaving = false)
    (hn : ∀ refused, .noted id (.refused refused) ∉ q.events) (hstep : IsInStep id p)
    (hp : Announces id p) : Announces id q := by
  induction h with
  | refl => exact hp
  | tail hr h ih =>
    have answered' := answered.of_suffix h.suffix
    have few' := Nat.lt_of_le_of_lt h.lastId_le few
    have live' := Steps.live (.single h) live
    have hn' := fun refused hm => hn refused (h.suffix.subset hm)
    have hkept := Queues.Steps.isInStep hr hc sends hs few' live' hn' hstep
    exact Step.announces h hc (Steps.sound_position hr hs) answered live hkept
      (ih answered' few' live' hn')

/-- Once a session is open nothing is deferred any more. -/
lemma Step.deferredItems_eq (h : Step c id p q) (hs : Status.initialized.rank ≤ p.session.status.rank) :
    deferredItems q.events = deferredItems p.events := by
  cases h
  case deferred status lifecycle =>
    rcases status with status | status <;> rw [status] at hs <;> simp [Status.rank] at hs
  case queued item _ _ _ _ _ _ => exact (Handshake.areAside_acceptance item _).deferred
  case notified writes | replied writes => exact (Handshake.areAside_of_writes writes).deferred
  case requested writes => exact (Handshake.areAside_of_writes writes).deferred
  case saidGoodbye told left =>
    exact (Handshake.areAside_of_writes left).deferred.trans (Handshake.areAside_of_writes told).deferred
  case unheardGoodbye told => exact (Handshake.areAside_of_writes told).deferred
  case buried s es K last timeout status settled =>
    change deferredItems (s.burial id timeout ++ es) = _
    unfold Session.burial
    split <;> rfl
  all_goals rfl

lemma Steps.deferredItems_eq (h : Steps c id p q)
    (hs : Status.initialized.rank ≤ p.session.status.rank) :
    deferredItems q.events = deferredItems p.events := by
  induction h with
  | refl => rfl
  | tail hr h ih => exact (Step.deferredItems_eq h (Nat.le_trans hs (Steps.rank_le hr))).trans ih

end Deferral

open Utterance (only) in
/-- What a server is told after it was asked to open a session: that the session is open, what was
deferred, and what was pushed later, all of it in this order; and what it is asked: to open the session,
what was deferred, and what was pushed later. Some of it may still wait. Before it is asked anything that
was deferred, it was told all that was. -/
structure Session.DeliversDeferred (id : SessionId) (s : Session) (es : List Event) : Prop where
  kept : ∃ r : OutgoingRequest, ∃ later, r.method = "initialize" ∧
    ∀ b, only b (uttered id es) ++ s.waiting b = only b
      ((.inr r :: .inl Session.opened :: (deferredItems es ++ later)).map Utterance.ofDeferred)
  toldFirst : ∀ server message earlier, .sent id server message :: earlier <:+ es →
    ∀ u ∈ Utterance.ofMessage? message, u.isRequest → u.method ≠ "initialize" →
      only false ((.inl Session.opened :: deferredItems es).map Utterance.ofDeferred) <+:
        only false (uttered id earlier)

namespace Deferral

open Queues
open Utterance (only)

variable {c : Conduct} {id : SessionId} {p : Position}

lemma Announces.delivers (h : Announces id p) (hstep : IsInStep id p)
    (hs : p.session.status = .initialized) : p.session.DeliversDeferred id p.events where
  kept := by
    obtain ⟨r, later, hr, hopened⟩ := h.opened hs
    exact ⟨r, later, hr, fun b => hopened ▸ hstep.kept b⟩
  toldFirst server message earlier hsent u hu hr hm := by
    obtain ⟨r, later, hopened⟩ := h.asks server message earlier hsent u hu hr hm
    rw [hstep.pauses server message earlier hsent u hu hr, hopened]
    refine ⟨only false (later.map .ofDeferred), ?_⟩
    rw [← Utterance.only_append, ← List.map_append, List.cons_append]
    rfl

end Deferral

open Deferral Queues in
open Utterance (only) in
/-- However a session was opened: what was deferred is sent after the notice that the session is open,
first what is told, in its order, and then what is asked, in its order; and the next tick sends all of
it. It is taken for granted that the host leaves the life of a session to the client, sends requests in
the course of ticks and asks for nothing that cannot be sent, that the request to open the session is
answered with nothing that holds but an object, and that no message is refused. -/
theorem deliversDeferred_of_mem_outcomes {c : Conduct} {w : World} (hw : w.IsNew)
    {actions : List Action} (ha : actions.all (c.admits .host)) {o : Outcome}
    (ho : o ∈ outcomes w actions) {id : SessionId} (hid : id < o.world.sessions.length)
    (turns : c.TakesTurns) (sends : c.Sends (w.session id).config) :
    (IsWellAnswered id (o.world.story id) →
      (o.world.session id).correlator.lastId < numberLimit → ∀ s es, o.world.Saw id s es →
        s.status = .initialized → (∀ refused, .noted id (.refused refused) ∉ es) →
          s.DeliversDeferred id es) ∧
    ((o.world.session id).status = .initialized → (o.world.session id).fault = none →
      Act.Ends (Session.tick (callWithin nestingLimit) id) o.world fun _ v =>
        IsWellAnswered id (v.story id) → Session.Legible id v →
          (∀ refused, .noted id (.refused refused) ∉ v.story id) →
            ∃ r : OutgoingRequest, r.method = "initialize" ∧ ∀ b, only b ((.inr r ::
              .inl Session.opened :: deferredItems (o.world.story id)).map Utterance.ofDeferred) <+:
                only b (uttered id (v.story id))) := by
  have hsteps := steps_of_mem_outcomes hw ha ho id
  have hinstep : ∀ {p : Position},
      Steps c id ⟨.blank (w.session id).config (w.session id).name, [], []⟩ p →
      IsWellAnswered id p.events → p.session.correlator.lastId < numberLimit →
      p.session.status.isLeaving = false → (∀ refused, .noted id (.refused refused) ∉ p.events) →
      IsInStep id p ∧ Announces id p := fun h answered few live accepted =>
    ⟨Queues.Steps.isInStep h turns sends (.blank _ _) few live accepted (.blank _ _),
      Deferral.Steps.announces h turns sends (.blank _ _) answered few live accepted (.blank _ _)
        (.blank _ _)⟩
  refine ⟨fun answered few s es saw hs accepted => ?_, fun hs hf => ?_⟩
  · obtain ⟨K, hto, hfrom⟩ := exists_position_of_saw hsteps rfl saw
    obtain ⟨hstep, hannounces⟩ := hinstep hto (answered.of_suffix hfrom.suffix)
      (Nat.lt_of_le_of_lt hfrom.lastId_le few) (by rw [hs]; rfl) accepted
    exact hannounces.delivers hstep hs
  · have hready : o.world.Ready c id := ⟨(goes_of_mem_outcomes hw.lawful ha ho).lawful hw.lawful, hid⟩
    refine (Queues.ends_tick hsteps (.blank _ _) (.blank _ _) hready turns sends hs hf).mono ?_
    intro result v hsent answered legible accepted
    obtain ⟨-, u, hu, hto, hsuffix, hlegible, hstep⟩ := hsent legible accepted
    have hlive : (u.session id).status = .initialized := hu.status.trans hs
    have hannounces := (hinstep (hsteps.trans hto) (answered.of_suffix hsuffix) hlegible.few
      (by rw [World.position, hlive]; rfl) fun refused hm => accepted refused (hsuffix.subset hm)).2
    obtain ⟨r, later, hr, hopened⟩ := hannounces.opened hlive
    refine ⟨r, hr, fun b => ?_⟩
    have hkept := hstep.kept b
    have hempty : (u.position id [.ticking]).session.waiting b = [] := Queues.Exchanges.waiting_eq hu b
    rw [hempty, List.append_nil, hopened, Steps.deferredItems_eq hto (hs ▸ Nat.le_refl _)] at hkept
    refine List.IsPrefix.trans ?_ ((uttered_prefix_of_suffix hsuffix).filter _)
    change _ <+: only b (uttered id (u.position id [.ticking]).events)
    rw [hkept]
    refine ⟨only b (later.map .ofDeferred), ?_⟩
    rw [← Utterance.only_append, ← List.map_append]
    rfl

/-! A request and a notification that are pushed before their session is open -/

open Utterance (only) in
theorem deliversDeferred_of_mem_outcomes_request :
    let actions : List Action :=
      [.session .null (.pushRequest "hover" .null none .null),
        .session .null (.pushNotification "saved" .null),
        .session .null (.handshake .null "editor" "1" none), .session .null .tick,
        .link .null (.write [Message.response (.int 1) (.object [])]), .session .null .tick,
        .session .null .tick]
    (World.serving "server").IsNew ∧ actions.all (Conduct.pushing.admits .host) ∧
      ∃ o ∈ outcomes (.serving "server") actions,
        (o.world.session 0).DeliversDeferred 0 (o.world.story 0) ∧
          Act.Ends (Session.tick (callWithin nestingLimit) 0) o.world fun _ v =>
            (uttered 0 (v.story 0)).map (·.method.key?) =
              ["initialize", "initialized", "saved", "hover"].map (some ∘ Json.Key.text) ∧
            ∃ r : OutgoingRequest, r.method = "initialize" ∧ ∀ b, only b ((.inr r ::
              .inl Session.opened :: deferredItems (o.world.story 0)).map Utterance.ofDeferred) <+:
                only b (uttered 0 (v.story 0)) := by
  intro actions
  have hw : (World.serving "server").IsNew := World.isNew_serving "server"
  have ha : actions.all (Conduct.pushing.admits .host) := by decide +kernel
  have hrun : ∃ o ∈ outcomes (.serving "server") actions, 0 < o.world.sessions.length ∧
      (o.world.session 0).status = .initialized ∧ (o.world.session 0).fault.isNone ∧
      (o.world.story 0).all Event.isSmooth ∧ (o.world.story 0).all (!·.isRefusal) ∧
      (o.world.session 0).correlator.lastId < numberLimit ∧
      let v := ((Session.tick (callWithin nestingLimit) 0).run o.world).2
      (uttered 0 (v.story 0)).map (·.method.key?) =
        ["initialize", "initialized", "saved", "hover"].map (some ∘ Json.Key.text) ∧
      (v.story 0).all Event.isSmooth ∧ (v.story 0).all (!·.isRefusal) ∧
      (v.story 0).all (!·.isUnreadable) ∧ (v.session 0).correlator.lastId < numberLimit := by
    decide +kernel
  obtain ⟨o, ho, hid, hs, hf, hsmooth, hrefusing, hfew, hmethods, hsmooth', hrefusing', hlegible,
    hfew'⟩ := hrun
  have hdelivers := deliversDeferred_of_mem_outcomes hw ha ho hid Conduct.takesTurns_pushing
    (Conduct.sends_pushing rfl rfl)
  have hsmooth : IsSmooth 0 (o.world.story 0) := isSmooth_of_all hsmooth
  refine ⟨hw, ha, o, ho, ?_, hmethods, ?_⟩
  · exact hdelivers.1 hsmooth.answered hfew _ _ .now hs (not_refused_of_all hrefusing)
  · have hsmooth' : IsSmooth 0 _ := isSmooth_of_all hsmooth'
    exact hdelivers.2 hs (Option.isNone_iff_eq_none.mp hf) hsmooth'.answered
      (legible_of_all hlegible hfew') (not_refused_of_all hrefusing')

/-- A request is pushed before a notification, and written after it. -/
theorem not_sublist_of_mem_outcomes_request :
    let actions : List Action :=
      [.session .null (.pushRequest "hover" .null none .null),
        .session .null (.pushNotification "saved" .null),
        .session .null (.handshake .null "editor" "1" none), .session .null .tick,
        .link .null (.write [Message.response (.int 1) (.object [])]), .session .null .tick,
        .session .null .tick]
    (World.serving "server").IsNew ∧ actions.all (Conduct.pushing.admits .host) ∧
      ∃ o ∈ outcomes (.serving "server") actions, (o.world.session 0).status = .initialized ∧
        IsWellAnswered 0 (o.world.story 0) ∧
        (∀ refused, .noted 0 (.refused refused) ∉ o.world.story 0) ∧
        (∀ b, (o.world.session 0).waiting b = []) ∧
        ¬ ((deferredItems (o.world.story 0)).map Utterance.ofDeferred).Sublist
          (uttered 0 (o.world.story 0)) := by
  intro actions
  refine ⟨World.isNew_serving "server", by decide +kernel, ?_⟩
  have hrun : ∃ o ∈ outcomes (.serving "server") actions, (o.world.session 0).status = .initialized ∧
      (o.world.story 0).all Event.isSmooth ∧ (o.world.story 0).all (!·.isRefusal) ∧
      (∀ b, ((o.world.session 0).waiting b).isEmpty) ∧
      ¬ (((deferredItems (o.world.story 0)).map Utterance.ofDeferred).map (·.method.key?)).Sublist
        ((uttered 0 (o.world.story 0)).map (·.method.key?)) := by
    decide +kernel
  obtain ⟨o, ho, hs, hsmooth, hrefusing, hempty, hnot⟩ := hrun
  have hsmooth : IsSmooth 0 (o.world.story 0) := isSmooth_of_all hsmooth
  exact ⟨o, ho, hs, hsmooth.answered, not_refused_of_all hrefusing,
    fun b => List.isEmpty_iff.mp (hempty b), fun h => hnot (h.map _)⟩

end LanguageClient
