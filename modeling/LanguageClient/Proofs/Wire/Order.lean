import LanguageClient.Proofs.Steps.Answering
import LanguageClient.Proofs.Steps.Runs
import LanguageClient.Proofs.Wire.Shape

/-!
Order on the wire. The request that opens a session is the first call that its server gets; once it is
answered comes the notice that the session is open, then all else; and the last are the request to shut
down and the notice to exit.
-/

namespace LanguageClient

open Call (Kind)

namespace Wire

variable {c : Conduct} {id : SessionId} {p q : Position}

open Position in
lemma Step.keeps (h : Step c id p q) (hk : c.KeepsOrder p.session.config) (hs : p.Sound c id)
    (answered : IsWellAnswered id q.events) (refusing : StaysRefusing id q.events)
    (few : q.session.correlator.lastId < numberLimit) (hp : Keeps id p) : Keeps id q := by
  have hother : ∀ {a : SessionAction} {item : Deferred}, c.allows a → a.Asks p.session item →
      Kind.ofMethod (Deferred.method item) = .other := fun ha hi => by
    obtain ⟨item', hi', hmethod, -⟩ := hi.exists_item
    exact hmethod ▸ hk.items _ ha _ _ hi'
  have hnoted : ∀ {s : Session} {es : List Event} {K : List Task} (n : Note), Keeps id ⟨s, es, K⟩ →
      Keeps id ⟨s, .noted id n :: es, K⟩ := fun n h =>
    h.aside (List.Subset.refl _) (.of_eq rfl rfl rfl rfl rfl) (.refl _ _) (.single rfl)
  have hdocuments : ∀ {s : Session} {es : List Event} {K : List Task} (documents),
      Keeps id ⟨s, es, K⟩ → Keeps id ⟨{ s with openDocuments := documents }, es, K⟩ := fun _ h =>
    h.aside (List.Subset.refl _) (.of_eq rfl rfl rfl rfl rfl) (.refl _ _) (.refl _)
  cases h
  -- Opening
  case introduced rootUri rootPath name version callback status linked allowed obeys path =>
    exact (hnoted _ hp).introduce status linked (hk.opening _ _ _ _ allowed _ rfl _ path) _
  case deferred allowed obeys asked tracks status lifecycle =>
    exact hdocuments _ (hp.defer (hother allowed asked))
  case queued allowed obeys asked tracks status =>
    have hstatus := status.resolve_right fun hl =>
      Kind.ofMethod_ne_other hl.2 (hother allowed asked)
    exact hdocuments _ ((hnoted _ hp).queue hstatus (hother allowed asked))
  case launched linked status =>
    refine hp.aside (List.Subset.refl _) ⟨rfl, fun _ => rfl, fun ht => ?_, rfl, rfl, fun h => h⟩
      (.refl _ _) (.single rfl)
    cases status.symm.trans ht
  -- Sending
  case notified queue free writes => exact hp.notify hk.phases queue free writes refusing
  case requested queue free first entry writes =>
    exact hp.request hk.phases hk.requests few queue free first writes refusing
  case dropped queue free entry => exact hp.drop queue entry
  case replied kind isReply writes =>
    exact (hp.reply isReply writes refusing).aside (List.Subset.refl _) (.of_eq rfl rfl rfl rfl rfl)
      (.pop nofun) (.refl _)
  -- Receiving
  case fed data drains free linked running =>
    refine hp.aside (List.Subset.refl _) (.of_eq rfl rfl rfl rfl rfl)
      (.push nofun nofun fun _ he => ?_) (.single rfl)
    cases he <;> cases drains
  case took s es t K m reader next running =>
    obtain ⟨responses, errors, he⟩ := Session.exists_enqueue_eq { s with reader } m
    rw [he]
    exact hp.aside (List.Subset.refl _) (.of_eq rfl rfl rfl rfl rfl) (.refl _ _) (.single rfl)
  -- Dispatching
  case dispatched drains free queue | dispatchedError drains free queue =>
    exact hp.aside (List.Subset.refl _) (.of_eq rfl rfl rfl rfl rfl)
      (.due _ _ (not_endsAbove_of_drains drains)) (.single rfl)
  case hailed l params =>
    refine hp.aside (List.Subset.refl _) (.of_eq rfl rfl rfl rfl rfl) ?_ (.refl _)
    exact ⟨fun h => by simpa using h, fun _ t handler m h => ⟨t, handler, m, by simpa using h⟩,
      fun _ he => .telling he⟩
  -- Answering
  case lapsing =>
    refine hp.aside (List.Subset.refl _) (.of_eq rfl rfl rfl rfl rfl) ?_ (.refl _)
    exact ⟨fun h => by simpa using h, fun _ t handler m h => ⟨t, handler, m, by simpa using h⟩,
      fun _ he => .expiring he⟩
  case resolved m found source reason => exact hp.resolve found m _
  case turnedDown s es K ticket callback m error =>
    refine hp.aside (List.Subset.refl _) (.of_eq rfl rfl rfl rfl rfl) ?_
      (.refl _)
    refine ⟨fun hl => ?_, fun _ _ _ _ _ => ⟨_, _, _, List.mem_cons_self⟩, fun _ he => ?_⟩
    · simpa [Task.mem_owed] using hl
    · cases he with
      | answering he => exact EndsAbove.owed (.refused he) _ _ _
  case stuck holds result =>
    exact (hs.not_isWellAnswered List.mem_cons_self holds result answered).elim
  case welcomed capabilities serverInfo m error status result =>
    have hdue := hs.answering _ _ _ List.mem_cons_self
    have hread := hdue.source.resolve_right (by simp [error])
    exact hp.welcome capabilities serverInfo status ⟨_, _, m, hdue.opening, hread, hdue.resolved⟩ _ _
  -- Ending
  case left status => exact hp.leave status
  case overtaken status => exact hp.overtake status
  case parted => exact hp.finished (List.nil_subset _) rfl (.inr .ending) (.single rfl)
  case ended => exact hp.finished (List.Subset.refl _) rfl (.inr .ending) (.single rfl)
  case saidGoodbye status told left =>
    exact hp.sayGoodbye status told left (refusing.of_suffix (List.suffix_cons _ _)) rfl rfl .ending
  case unheardGoodbye told =>
    exact hp.finished (List.nil_subset _) rfl (.inr .ending) (told.quietly.cons rfl)
  case abandoned status encodes => exact hp.abandon status
  case buried s es K last timeout status settled =>
    refine hp.finished (List.nil_subset _) status (.inl fun l hl => ?_) (.burial s timeout)
    obtain ⟨l', -, rfl⟩ := Option.map_eq_some_iff.mp hl
    rfl
  -- Ticking
  case ticked status linked =>
    exact hp.aside (List.Subset.refl _) (.of_eq rfl rfl rfl rfl rfl)
      (.push nofun nofun fun ht => (status ht).elim) (.refl _)
  case entered isPhase free =>
    refine hp.aside (List.Subset.refl _) (.of_eq rfl rfl rfl rfl rfl)
      (.push nofun nofun fun _ he => ?_) (.refl _)
    rcases free with ⟨rfl, -⟩ | hc
    · cases he with
      | performing h => cases h
    · rw [hk.phases _ isPhase] at hc
      cases hc
  case began idle =>
    refine hp.aside (List.Subset.refl _) (.of_eq rfl rfl rfl rfl rfl) ?_ (.refl _)
    exact ⟨fun h => by simpa using h, fun _ t handler m h => ⟨t, handler, m, by simpa using h⟩,
      fun _ he => .performing he⟩
  case relinked l' linked closed =>
    refine hp.aside (List.Subset.refl _) ⟨rfl, fun _ => rfl, fun _ hc k hm => ?_, rfl, rfl, fun h => h⟩
      (.refl _ _) (.refl _)
    obtain rfl := Option.some.inj hm
    exact closed.trans (hc _ linked)
  case answered | unheard | late | declared | told | untold | did =>
    exact hp.aside (List.Subset.refl _) (.of_eq rfl rfl rfl rfl rfl)
      (.pop nofun) (.single rfl)
  case doomed | spared | undeclared | exited | rested | unread | readAll | served | heeded | passed | lapsed =>
    exact hp.aside (List.Subset.refl _) (.of_eq rfl rfl rfl rfl rfl)
      (.pop nofun) (by first | exact .refl _ | exact .single rfl)
  case fired | fellShort | asked =>
    exact hp.aside (List.Subset.refl _) (.of_eq rfl rfl rfl rfl rfl)
      (.refl _ _) (.single rfl)
  all_goals
    exact hp.aside (List.Subset.refl _) (.of_eq rfl rfl rfl rfl rfl)
      (.refl _ _) (.refl _)

lemma Steps.keeps (h : Steps c id p q) (hk : c.KeepsOrder p.session.config) (hs : p.Sound c id)
    (answered : IsWellAnswered id q.events) (refusing : StaysRefusing id q.events)
    (few : q.session.correlator.lastId < numberLimit) (hp : Keeps id p) : Keeps id q := by
  induction h with
  | refl => exact hp
  | tail hr h ih =>
    have hkeeps := ih (answered.of_suffix h.suffix) (refusing.of_suffix h.suffix)
      (Nat.lt_of_le_of_lt h.lastId_le few)
    have hk' : c.KeepsOrder _ := (Steps.config_eq hr).symm ▸ hk
    exact Step.keeps h hk' (Steps.sound_position hr hs) answered refusing few hkeeps

end Wire

open Wire in
/-- Whatever happens between a host and its servers: what a server gets is in order. It is taken for
granted that the host leaves the life of a session to the client and sends requests in the course of
ticks, that its requests to open a session can be written, that they are answered with nothing that
holds but objects, and that a link that refused a message refuses all. -/
theorem isOrdered_of_mem_outcomes {c : Conduct} {w : World} (hw : w.IsNew) {actions : List Action}
    (ha : actions.all (c.admits .host)) {o : Outcome} (ho : o ∈ outcomes w actions) (id : SessionId)
    (keeps : c.KeepsOrder (w.session id).config)
    (answered : IsWellAnswered id (o.world.story id))
    (refusing : StaysRefusing id (o.world.story id))
    (few : (o.world.session id).correlator.lastId < numberLimit) :
    IsOrdered id (o.world.story id) := by
  have hsteps := steps_of_mem_outcomes hw ha ho id
  have hkeeps := Wire.Steps.keeps hsteps keeps (.blank _ _) answered refusing few (.blank _ _)
  exact hkeeps.ordered

/-! A session that is opened and shut down, and one whose requests are sent too early -/

/-- What leaves the life of a session to the client, and the phases of a tick to the tick. -/
def SessionAction.isOrderly : SessionAction → Bool
  | handshake rootUri name version _ => rootUri.isNull && name.isPlain && version.isPlain
  | pushNotification method _ | pushRequest method _ _ _ => Kind.ofMethod method = .other
  | a => !a.isOwn && !a.isPhase

def Conduct.orderly : Conduct where
  host a := a.isOrderly
  callback a := a.isOrderly
  hostIsOutside a h := by cases a <;> first | rfl | cases h
  callbackIsOutside a h := by cases a <;> first | rfl | cases h

lemma Call.Kind.ofMethod_textDocument (t : Text) :
    Kind.ofMethod ("textDocument/" ++ t : Text) = .other := by
  have hne : ∀ u : Text, u.head? ≠ ("t" : Text).head? → ("textDocument/" ++ t : Text) ≠ u :=
    fun u hu h => hu (h ▸ rfl)
  simp only [Kind.ofMethod]
  rw [if_neg (hne _ (by decide)), if_neg (hne _ (by decide)), if_neg (hne _ (by decide)),
    if_neg (hne _ (by decide))]

lemma Conduct.keepsOrder_orderly (name : Json) : orderly.KeepsOrder [("name", name)] where
  phases a ha := by cases a <;> first | rfl | cases ha
  requests h := by rcases h with h | h <;> cases h
  items a ha s item hi := by
    have ha : a.isOrderly := or_self_iff.mp ha
    cases a <;> simp only [SessionAction.item?, Option.some.injEq, reduceCtorEq] at hi
    all_goals subst hi
    case pushNotification | pushRequest => exact of_decide_eq_true ha
    case goTo => exact Kind.ofMethod_textDocument _
    all_goals rfl
  opening rootUri name' version callback ha s hs rootPath hpath := by
    have ha : SessionAction.isOrderly (.handshake rootUri name' version callback) := or_self_iff.mp ha
    simp only [SessionAction.isOrderly, Bool.and_eq_true] at ha
    have hoptions : (s.setting "initializationOptions").isPlain := by
      rw [Session.setting, hs]
      rfl
    exact isSendable_openingRequest callback ha.1.1 ha.1.2 ha.2 hpath hoptions

theorem isOrdered_of_mem_outcomes_shutdown :
    let actions : List Action :=
      [.session .null (.handshake .null "editor" "1" none), .session .null .tick,
        .session .null (.pushRequest "hover" .null none .null),
        .link .null (.write [Message.response (.int 1) (.object [])]), .session .null .tick,
        .session .null .tick, .session .null (.shutdown .null)]
    (World.serving "server").IsNew ∧ actions.all (Conduct.orderly.admits .host) ∧
      ∃ o ∈ outcomes (.serving "server") actions,
        calls 0 (o.world.story 0) = [.exit, .shutdown, .other, .opened, .opening] ∧
        IsOrdered 0 (o.world.story 0) := by
  intro actions
  have hw : (World.serving "server").IsNew := World.isNew_serving "server"
  have ha : actions.all (Conduct.orderly.admits .host) := by decide +kernel
  have hrun : ∃ o ∈ outcomes (.serving "server") actions,
      calls 0 (o.world.story 0) = [.exit, .shutdown, .other, .opened, .opening] ∧
        (o.world.story 0).all Event.isSmooth ∧ (o.world.story 0).all (!·.isRefusal) ∧
        (o.world.session 0).correlator.lastId < numberLimit := by
    decide +kernel
  obtain ⟨o, ho, hcalls, hsmooth, hrefusing, hfew⟩ := hrun
  have hsmooth : IsSmooth 0 (o.world.story 0) := isSmooth_of_all hsmooth
  exact ⟨hw, ha, o, ho, hcalls, isOrdered_of_mem_outcomes hw ha ho 0 (Conduct.keepsOrder_orderly _)
    hsmooth.answered (staysRefusing_of_all hrefusing) hfew⟩

/-- The host sends the requests of a session before anything else was sent to it. -/
theorem not_isOrdered_of_mem_outcomes_requests :
    let actions : List Action :=
      [.session .null (.handshake .null "editor" "1" none), .session .null .tick,
        .session .null (.pushRequest "hover" .null none .null),
        .link .null (.write [Message.response (.int 1) (.object [])]), .session .null .tick,
        .session .null .sendRequests]
    (World.serving "server").IsNew ∧ actions.all (Conduct.any.admits .host) ∧
      ∃ o ∈ outcomes (.serving "server") actions, IsWellAnswered 0 (o.world.story 0) ∧
        StaysRefusing 0 (o.world.story 0) ∧ ¬ IsOrdered 0 (o.world.story 0) := by
  intro actions
  refine ⟨World.isNew_serving "server", by decide, ?_⟩
  have hrun : ∃ o ∈ outcomes (.serving "server") actions,
      calls 0 (o.world.story 0) = [.other, .opening] ∧
        (o.world.story 0).all Event.isSmooth ∧ (o.world.story 0).all (!·.isRefusal) := by
    decide +kernel
  obtain ⟨o, ho, hcalls, hsmooth, hrefusing⟩ := hrun
  refine ⟨o, ho, (isSmooth_of_all hsmooth).answered, staysRefusing_of_all hrefusing, fun hordered => ?_⟩
  obtain ⟨earlier, hearlier, hmay⟩ := hordered.mayFollow hcalls
  have hopened : .opened ∈ calls 0 earlier := hmay.2.1
  rw [hearlier] at hopened
  revert hopened
  decide

end LanguageClient
