import LanguageClient.Proofs.Frame.Next
import LanguageClient.Proofs.Steps.Runs

/-!
Whatever a server sends, as long as it can be read and answered, a tick comes to its end, and then no
message is left in the reader or waits to be dispatched.
-/

namespace LanguageClient

variable {c : Conduct} {id : SessionId} {p q : Position}

/-- Bytes are read only from a link, and all of them, unless something cannot be read. -/
structure Position.Reads (id : SessionId) (p : Position) : Prop where
  linked : .reading ∈ p.tasks → p.session.link.isSome
  idle : p.session.link = none → p.session.responses = [] ∧ p.session.errors = []
  drained : .reading ∈ p.tasks ∨ (∃ f, .noted id (.unreadable f) ∈ p.events) ∨
    p.session.reader.next.1 = .more
  unspoiled : p.session.fault = none

namespace Position.Reads

lemma blank (config : Fields) (name : Json) : Position.Reads id ⟨.blank config name, [], []⟩ where
  linked h := (List.not_mem_nil h).elim
  idle _ := ⟨rfl, rfl⟩
  drained := .inr (.inr rfl)
  unspoiled := rfl

/-- What concerns neither the link nor what was read. -/
lemma aside {s s' : Session} {es es' : List Event} {K K' : List Task}
    (h : Position.Reads id ⟨s, es, K⟩) (hl : s.link.isSome → s'.link.isSome)
    (hi : s'.link = none → s'.responses = s.responses ∧ s'.errors = s.errors)
    (hr : s'.reader = s.reader) (hf : s'.fault = s.fault) (he : es <:+ es')
    (hK : .reading ∈ K' ↔ .reading ∈ K) : Position.Reads id ⟨s', es', K'⟩ where
  linked hm := hl (h.linked (hK.mp hm))
  idle hn := by
    have hnone : s.link = none := by
      cases hs : s.link with
      | none => rfl
      | some l =>
        have hsome := hl (by rw [hs]; rfl)
        rw [show s'.link = none from hn] at hsome
        cases hsome
    obtain ⟨hresponses, herrors⟩ := hi hn
    exact ⟨hresponses.trans (h.idle hnone).1, herrors.trans (h.idle hnone).2⟩
  drained := by
    rcases h.drained with hm | ⟨f, hn⟩ | hm
    · exact .inl (hK.mpr hm)
    · exact .inr (.inl ⟨f, he.subset hn⟩)
    · exact .inr (.inr (hr ▸ hm))
  unspoiled := hf.trans h.unspoiled

/-- The queues may be cleared at any time. -/
lemma cleared {s s' : Session} {es es' : List Event} {K K' : List Task}
    (h : Position.Reads id ⟨s, es, K⟩) (hl : s'.link.isSome = s.link.isSome)
    (hi : s'.responses = [] ∧ s'.errors = []) (hr : s'.reader = s.reader)
    (hf : s'.fault = s.fault) (he : es <:+ es') (hK : .reading ∈ K' ↔ .reading ∈ K) :
    Position.Reads id ⟨s', es', K'⟩ where
  linked hm := hl ▸ h.linked (hK.mp hm)
  idle _ := hi
  drained := by
    rcases h.drained with hm | ⟨f, hn⟩ | hm
    · exact .inl (hK.mpr hm)
    · exact .inr (.inl ⟨f, he.subset hn⟩)
    · exact .inr (.inr (hr ▸ hm))
  unspoiled := hf.trans h.unspoiled

end Position.Reads

open Position in
lemma Step.reads_position (h : Step c id p q) (hb : ∀ message, ¬ c.allows (.breakTick message))
    (hp : p.Reads id) : q.Reads id := by
  have hs := h.suffix
  cases h
  case spoiled message allowed => exact (hb message allowed).elim
  case fed s es t K data drains free linked running =>
    exact ⟨fun _ => linked, hp.idle, .inl List.mem_cons_self, hp.unspoiled⟩
  case skipped s es K f reader next =>
    exact ⟨hp.linked, hp.idle, .inl List.mem_cons_self, hp.unspoiled⟩
  case took s es t K m reader next running =>
    have hlinked : s.link.isSome := hp.linked List.mem_cons_self
    obtain ⟨responses, errors, he⟩ := Session.exists_enqueue_eq { s with reader } m
    rw [he]
    refine ⟨fun _ => hlinked, fun hn => ?_, .inl List.mem_cons_self, hp.unspoiled⟩
    rw [show s.link = none from hn] at hlinked
    cases hlinked
  case unread s es K f reader next =>
    exact ⟨fun hm => hp.linked (List.mem_cons_of_mem _ hm), hp.idle,
      .inr (.inl ⟨f, List.mem_cons_self⟩), hp.unspoiled⟩
  case readAll s es K reader next =>
    have hmore : reader.next.1 = .more := by rw [Frame.Reader.next_of_more next]
    exact ⟨fun hm => hp.linked (List.mem_cons_of_mem _ hm), hp.idle, .inr (.inr hmore), hp.unspoiled⟩
  case dispatched s es t K m rest drains free queue =>
    refine hp.aside (fun h => h) (fun hn => ?_) rfl rfl hs (by simp)
    have hempty := (hp.idle hn).1
    rw [show s.responses = m :: rest from queue] at hempty
    cases hempty
  case dispatchedError s es t K m rest drains free queue =>
    refine hp.aside (fun h => h) (fun hn => ?_) rfl rfl hs (by simp)
    have hempty := (hp.idle hn).2
    rw [show s.errors = m :: rest from queue] at hempty
    cases hempty
  case deferred item _ _ _ _ _ _ _ | queued item _ _ _ _ _ _ =>
    cases item <;> exact hp.aside (fun h => h) (fun _ => ⟨rfl, rfl⟩) rfl rfl hs .rfl
  case relinked linked closed => exact hp.aside (fun _ => rfl) (by simp) rfl rfl hs .rfl
  case launched => exact hp.aside (fun _ => rfl) (by simp) rfl rfl hs .rfl
  case resolved | turnedDown | welcomed =>
    exact hp.aside (fun h => h) (fun _ => ⟨rfl, rfl⟩) rfl rfl hs (by simp [Task.mem_owed])
  case overtaken | parted | saidGoodbye | unheardGoodbye | abandoned =>
    exact hp.cleared rfl ⟨rfl, rfl⟩ rfl rfl hs (by simp)
  case buried => exact hp.cleared Option.isSome_map ⟨rfl, rfl⟩ rfl rfl hs (by simp)
  all_goals
    first
    | exact hp.aside (fun h => h) (fun _ => ⟨rfl, rfl⟩) rfl rfl hs .rfl
    | exact hp.aside (fun h => h) (fun _ => ⟨rfl, rfl⟩) rfl rfl hs (by simp)

open Position in
lemma Steps.reads_position (h : Steps c id p q) (hb : ∀ message, ¬ c.allows (.breakTick message))
    (hp : p.Reads id) : q.Reads id := by
  induction h with
  | refl => exact hp
  | tail _ h ih => exact h.reads_position hb ih

/-- However a session got where it is: a tick comes to its end, and unless the session is over then,
all that the server had written was taken, and no message is left in its reader or in its queues. It is
taken for granted that the host asks for nothing that cannot be sent, that it leaves the phases of a tick
to the tick when it is called back, and that what the server sent can be read and answered. -/
theorem ends_tick_of_mem_outcomes (phases : c.LeavesPhases)
    (unspoiled : ∀ message, ¬ c.allows (.breakTick message)) {w : World} (hw : w.IsNew)
    (sends : ∀ id, c.Sends (w.session id).config) {actions : List Action}
    (ha : actions.all (c.admits .host)) {o : Outcome} (ho : o ∈ outcomes w actions)
    (hid : id < o.world.sessions.length) :
    Act.Ends (Session.tick (callWithin nestingLimit) id) o.world fun result v =>
      Calm id (v.session id) (v.story id) →
        result = .ok () ∧ ((v.session id).status ≠ .terminated →
          (∀ data ∈ (o.world.session id).incoming?, .noted id (.received data) ∈ v.story id) ∧
            (v.session id).responses = [] ∧ (v.session id).errors = [] ∧
              (v.session id).reader.next.1 = .more) := by
  have hgoes := goes_of_mem_outcomes hw.lawful ha ho
  have hready : o.world.Ready c id := ⟨hgoes.lawful hw.lawful, hid⟩
  have hsteps := steps_of_mem_outcomes hw ha ho id
  have hreads := hsteps.reads_position unspoiled (.blank _ _)
  have hsends : c.Sends (o.world.session id).config := hsteps.config_eq ▸ sends id
  have hidle : Act.Ends (Session.tick (callWithin nestingLimit) id) o.world fun _ v =>
      (o.world.session id).link = none → v = o.world := by
    by_cases hl : (o.world.session id).link = none
    · exact (Session.ends_tick_idle (.inr hl)).mono fun _ _ hv _ => hv
    · exact Act.Ends.mono (Q := fun _ _ => True) trivial fun _ _ _ h => (hl h).elim
  refine ((Session.ends_tick (abides_callWithin nestingLimit) (Level.room_host c _) hready).and hidle).mono ?_
  rintro result v ⟨⟨hv, -, hend⟩, hidle⟩ calm
  obtain ⟨hok, hdrained⟩ := hend hreads.unspoiled hsends calm
  refine ⟨hok, fun hs => ?_⟩
  have hlater := Steps.reads_position (hv.steps [] rfl) unspoiled hreads
  have hnot : (o.world.session id).status ≠ .terminated := fun h => hs (hv.terminated h)
  have hmore : (v.session id).reader.next.1 = .more := by
    rcases hlater.drained with h | ⟨f, hf⟩ | h
    · exact (List.not_mem_nil h).elim
    · exact (calm.readable f hf).elim
    · exact h
  have hall : Session.Drained c id (o.world.session id) v := by
    cases hl : (o.world.session id).link with
    | some link => exact hdrained hnot (by rw [hl]; rfl)
    | none =>
      have hnothing : (o.world.session id).incoming? = none := by rw [Session.incoming?, hl]; rfl
      rw [hidle hl]
      exact ⟨by rw [hnothing]; exact nofun, fun _ => hreads.idle hl⟩
  obtain ⟨hresponses, herrors⟩ := hall.dispatched phases
  exact ⟨hall.received, hresponses, herrors, hmore⟩

/-! A tick that comes to its end, and one that does not -/

/-- The host starts a server and ticks. -/
def Conduct.watching : Conduct where
  host a := a matches .start | .tick
  callback _ := false
  hostIsOutside a h := by cases a <;> first | rfl | cases h
  callbackIsOutside _ h := by cases h

lemma Conduct.sends_watching (config : Fields) : watching.Sends config where
  items a ha s _ item hi := by
    have ha : watching.host a := ha.resolve_right nofun
    cases a <;> first | (cases hi; done) | cases ha
  opening _ _ _ _ ha := by
    rcases ha with ha | ha <;> cases ha

/-- Whether a message can be looked up and answered. -/
def Fields.isTame (m : Fields) : Bool :=
  match m.get? "method" with
  | some method =>
    let id := m.getD "id" .null
    let text : Text := "Unhandled method " ++ method.display
    method.key.isOk && (Frame.encode (Message.response id .null)).isOk &&
      (Frame.encode (Message.errorResponse id (.int Message.Code.methodNotFound) text .null)).isOk
  | none => true

lemma exists_of_isOk {α : Type} {r : Checked α} (h : r.isOk) : ∃ x, r = .ok x := by
  cases r with
  | ok x => exact ⟨x, rfl⟩
  | error f => cases h

lemma Fields.isTame_of {m : Fields} (h : m.isTame) : m.IsTame := by
  rw [isTame] at h
  cases hm : m.get? "method" with
  | none =>
    refine ⟨fun method hmethod => (by cases hm.symm.trans hmethod), fun hk => ?_⟩
    rw [Message.kindOf, hm] at hk
    simp only [Option.isSome_none, Bool.false_eq_true, if_false] at hk
    split at hk <;> cases hk
  | some method =>
    rw [hm] at h
    simp only [Bool.and_eq_true] at h
    refine ⟨fun method' hmethod => ?_, fun _ reply hreply => ?_⟩
    · obtain rfl := Option.some.inj (hm.symm.trans hmethod)
      exact exists_of_isOk h.1.1
    · cases hreply with
      | done => exact exists_of_isOk h.1.2
      | unhandled asked =>
        obtain rfl := Option.some.inj (hm.symm.trans asked)
        exact exists_of_isOk h.2

def Event.isCalm : Event → Bool
  | .noted _ (.unreadable _) => false
  | .dealt _ (.read m) => Fields.isTame m
  | _ => true

lemma calm_of_all {s : Session} {es : List Event} (h : es.all Event.isCalm)
    (hn : s.correlator.lastId < numberLimit) : Calm id s es where
  readable f hf := by cases List.all_eq_true.mp h _ hf
  tame m hm := Fields.isTame_of (List.all_eq_true.mp h _ hm)
  few := hn

theorem ends_tick_of_mem_outcomes_request :
    let actions : List Action := [.session .null .start,
      .link .null (.write [Message.request (.int 7) "workspace/configuration" .null])]
    (World.serving "server").IsNew ∧ actions.all (Conduct.watching.admits .host) ∧
      ∃ o ∈ outcomes (.serving "server") actions,
        Act.Ends (Session.tick (callWithin nestingLimit) 0) o.world fun result v =>
          result = .ok () ∧ (v.story 0).any (fun e => e matches .dealt _ (.read _)) ∧
            (v.session 0).responses = [] ∧ (v.session 0).errors = [] := by
  intro actions
  have hw : (World.serving "server").IsNew := World.isNew_serving "server"
  have ha : actions.all (Conduct.watching.admits .host) := by decide
  have hrun : ∃ o ∈ outcomes (.serving "server") actions, 0 < o.world.sessions.length ∧
      let v := ((Session.tick (callWithin nestingLimit) 0).run o.world).2
      (v.story 0).all Event.isCalm ∧ (v.session 0).correlator.lastId < numberLimit ∧
        (v.session 0).status ≠ .terminated ∧
        (v.story 0).any (fun e => e matches .dealt _ (.read _)) := by
    decide +kernel
  obtain ⟨o, ho, hid, hcalm, hfew, hs, hread⟩ := hrun
  have hends := ends_tick_of_mem_outcomes (c := .watching) (fun _ _ => rfl)
    (fun _ h => by rcases h with h | h <;> cases h) hw (fun _ => Conduct.sends_watching _) ha ho hid
  obtain ⟨hok, hdone⟩ := hends (calm_of_all hcalm hfew)
  obtain ⟨-, hresponses, herrors, -⟩ := hdone hs
  exact ⟨hw, ha, o, ho, hok, hread, hresponses, herrors⟩

/-- The server sends a message whose method is a list, and another one: the tick fails, and the other
one is left. -/
theorem tick_fails_of_mem_outcomes_list :
    let actions : List Action := [.session .null .start,
      .link .null (.write [Message.notification (.list []) .null, Message.notification "done" .null]),
      .session .null .tick]
    (World.serving "server").IsNew ∧ actions.all (Conduct.watching.admits .host) ∧
      ∃ o ∈ outcomes (.serving "server") actions, o.result.isOk = false ∧
        (o.world.session 0).status ≠ .terminated ∧ (o.world.session 0).responses ≠ [] := by
  refine ⟨World.isNew_serving "server", by decide, ?_⟩
  decide +kernel

end LanguageClient
