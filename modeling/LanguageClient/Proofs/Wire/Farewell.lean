import LanguageClient.Proofs.Wire.Order
import LanguageClient.Proofs.Wire.Replies

/-!
Farewells. A server that is told to shut down was told before that its session is open, unless the session
was shut down while that notice still waited to be sent.
-/

namespace LanguageClient

open Call (Kind)

/-- Whether a host leaves the life of a session to the client, and so do its callbacks. -/
def Conduct.LeavesLifecycle (c : Conduct) : Prop :=
  ∀ a, c.allows a → ∀ (s : Session) item, a.item? s = some item →
    Kind.ofMethod (Deferred.method item) = .other

/-- Whether a session is open and its server is still to be told so. -/
def Session.OwesOpened (s : Session) : Prop := s.status = .initialized ∧ opened ∈ s.notifications

/-- What is told to shut down was told before that its session is open. -/
def IsGreeted (id : SessionId) (es : List Event) : Prop :=
  EachCall id (fun earlier k => k = .shutdown → .opened ∈ calls id earlier) es

/-- Whatever waits to be sent. -/
def Session.items (s : Session) : List Deferred :=
  s.notifications.map .inl ++ s.requests.map .inr ++ s.deferred

lemma Session.mem_items {s : Session} {item : Deferred} : item ∈ s.items ↔
    (∃ n ∈ s.notifications, .inl n = item) ∨ (∃ r ∈ s.requests, .inr r = item) ∨ item ∈ s.deferred := by
  simp [items]

namespace Farewell

variable {c : Conduct} {id : SessionId} {p q : Position}

/-! What waits -/

lemma mem_items_of_subset {s s' : Session} {item : Deferred} (hi : item ∈ s'.items)
    (hn : s'.notifications ⊆ s.notifications) (hr : s'.requests ⊆ s.requests)
    (hd : s'.deferred = s.deferred) : item ∈ s.items := by
  rw [Session.mem_items] at hi ⊢
  exact hi.imp (fun ⟨n, h, he⟩ => ⟨n, hn h, he⟩) (.imp (fun ⟨r, h, he⟩ => ⟨r, hr h, he⟩) (hd ▸ ·))

lemma mem_items_queue {s : Session} {item new : Deferred} (h : item ∈ ((s.queue new).count new).items) :
    item ∈ s.items ∨ item = new := by
  rw [Session.mem_items] at h ⊢
  cases new with
  | inl n =>
    rcases h with ⟨k, hk, rfl⟩ | h | h
    · rcases List.mem_append.mp hk with hk | hk
      · exact .inl (.inl ⟨k, hk, rfl⟩)
      · exact .inr (congrArg _ (List.mem_singleton.mp hk))
    · exact .inl (.inr (.inl h))
    · exact .inl (.inr (.inr h))
  | inr r =>
    rcases h with h | ⟨k, hk, rfl⟩ | h
    · exact .inl (.inl h)
    · rcases List.mem_append.mp hk with hk | hk
      · exact .inl (.inr (.inl ⟨k, hk, rfl⟩))
      · exact .inr (congrArg _ (List.mem_singleton.mp hk))
    · exact .inl (.inr (.inr h))

lemma mem_items_defer {s : Session} {item new : Deferred}
    (h : item ∈ ({ s with deferred := s.deferred ++ [new] }.count new).items) :
    item ∈ s.items ∨ item = new := by
  rw [Session.mem_items] at h ⊢
  have hd : item ∈ s.deferred ++ [new] → item ∈ s.deferred ∨ item = new := fun h => by simpa using h
  cases new <;>
  · rcases h with h | h | h
    · exact .inl (.inl h)
    · exact .inl (.inr (.inl h))
    · exact (hd h).imp_left fun h => .inr (.inr h)

lemma mem_items_welcome {s : Session} {capabilities serverInfo : Json} {item : Deferred}
    (h : item ∈ (s.welcome capabilities serverInfo).items) :
    item ∈ s.items ∨ item = .inl Session.opened := by
  rw [Session.mem_items] at h ⊢
  rcases h with ⟨k, hk, rfl⟩ | ⟨k, hk, rfl⟩ | h
  · rcases List.mem_append.mp hk with hk | hk
    · rcases List.mem_append.mp hk with hk | hk
      · exact .inl (.inl ⟨k, hk, rfl⟩)
      · exact .inr (congrArg _ (List.mem_singleton.mp hk))
    · obtain ⟨i, hi, he⟩ := List.mem_filterMap.mp hk
      rw [Sum.getLeft?_eq_some_iff.mp he] at hi
      exact .inl (.inr (.inr hi))
  · rcases List.mem_append.mp hk with hk | hk
    · exact .inl (.inr (.inl ⟨k, hk, rfl⟩))
    · obtain ⟨i, hi, he⟩ := List.mem_filterMap.mp hk
      rw [Sum.getRight?_eq_some_iff.mp he] at hi
      exact .inl (.inr (.inr hi))
  · exact (List.not_mem_nil h).elim

/-- What waits waited before, or was asked for. -/
lemma Step.mem_items (h : Step c id p q) {item : Deferred} (hi : item ∈ q.session.items) :
    item ∈ p.session.items ∨ (∃ a, c.allows a ∧ a.Asks p.session item) ∨
      item = .inl Session.opened ∨
        ∃ params callback, item = .inr (p.session.openingRequest params callback) := by
  cases h
  case introduced s es K rootUri rootPath name version callback _ _ _ _ _ =>
    let params := s.openingParams rootUri rootPath name version
    have hi : item ∈ s.items ∨ item = .inr (s.openingRequest params callback) := by
      refine mem_items_queue (s := s) ?_
      exact hi
    exact hi.imp_right fun he => .inr (.inr ⟨params, callback, he⟩)
  case deferred s es K a new documents allowed obeys asked tracks status lifecycle =>
    have hi : item ∈ s.items ∨ item = new := mem_items_defer hi
    exact hi.imp_right fun he => .inl ⟨a, allowed, by rw [he]; exact asked⟩
  case queued s es K a new documents allowed obeys asked tracks status =>
    have hi : item ∈ s.items ∨ item = new := mem_items_queue hi
    exact hi.imp_right fun he => .inl ⟨a, allowed, by rw [he]; exact asked⟩
  case notified s es K n rest result es' queue free writes =>
    have hn : rest ⊆ s.notifications := queue ▸ List.subset_cons_self n rest
    exact .inl (mem_items_of_subset hi hn (List.Subset.refl _) rfl)
  case requested s es K r rest p now result es' queue free first entry writes =>
    have hr : rest ⊆ s.requests := queue ▸ List.subset_cons_self r rest
    exact .inl (mem_items_of_subset hi (List.Subset.refl _) hr rfl)
  case dropped s es K r rest now f queue free entry =>
    have hr : rest ⊆ s.requests := queue ▸ List.subset_cons_self r rest
    exact .inl (mem_items_of_subset hi (List.Subset.refl _) hr rfl)
  case took s es t K m reader next running =>
    obtain ⟨responses, errors, he⟩ := Session.exists_enqueue_eq { s with reader } m
    rw [he] at hi
    exact .inl hi
  case welcomed => exact (mem_items_welcome hi).imp_right fun he => .inr (.inl he)
  case overtaken | parted | saidGoodbye | unheardGoodbye | abandoned | buried =>
    exact (List.not_mem_nil hi).elim
  all_goals exact .inl hi

/-- A session that is asked to open itself, or is open, has a link. -/
def IsLinked (s : Session) : Prop :=
  s.status = .initializing ∨ s.status = .initialized → s.link.isSome

lemma Step.isLinked (h : Step c id p q) (hp : IsLinked p.session) : IsLinked q.session := by
  intro hq
  cases h
  case introduced linked _ _ _ => exact linked
  case relinked | launched => rfl
  case stuck status _ _ | welcomed status _ => exact hp (.inl status)
  case deferred item _ _ _ _ _ _ _ | queued item _ _ _ _ _ _ => cases item <;> exact hp hq
  case took s es t K m reader next running =>
    obtain ⟨responses, errors, he⟩ := Session.exists_enqueue_eq { s with reader } m
    rw [he] at hq ⊢
    exact hp hq
  case buried s _ _ _ _ _ _ => exact (Option.isSome_map).trans (hp hq)
  case left | parted | saidGoodbye | unheardGoodbye | ended => rcases hq with hq | hq <;> cases hq
  all_goals exact hp hq

/-! Farewells -/

/-- A session was shut down, or is about to be, while its server was still to be told that it is open. -/
def IsHasty (id : SessionId) (p : Position) : Prop :=
  ∃ timeout before, Session.OwesOpened before ∧
    ((∃ earlier, .performing (.shutdown timeout) before earlier ∈ p.tasks) ∨
      ∃ s, .noted id (.did (.shutdown timeout) before s) ∈ p.events)

lemma Step.performing_or (h : Step c id p q) {a : SessionAction} {before : Session}
    {earlier : List Event} (ht : .performing a before earlier ∈ p.tasks) :
    .performing a before earlier ∈ q.tasks ∨ ∃ s, .noted id (.did a before s) ∈ q.events := by
  cases h
  case did =>
    rcases List.mem_cons.mp ht with he | ht
    · obtain ⟨rfl, rfl, -⟩ := Task.performing.inj he
      exact .inr ⟨_, List.mem_cons_self⟩
    · exact .inl ht
  case began => exact .inl (List.mem_cons_of_mem _ ht)
  all_goals exact .inl (by simpa [Task.mem_owed] using ht)

lemma IsHasty.step (hp : IsHasty id p) (h : Step c id p q) : IsHasty id q := by
  obtain ⟨timeout, before, howes, ⟨earlier, ht⟩ | ⟨s, hm⟩⟩ := hp
  · refine ⟨timeout, before, howes, ?_⟩
    exact (Step.performing_or h ht).imp_left fun ht => ⟨earlier, ht⟩
  · exact ⟨timeout, before, howes, .inr ⟨s, h.suffix.subset hm⟩⟩

/-- What is so at every position. -/
structure Greets (id : SessionId) (p : Position) : Prop where
  items : ∀ item ∈ p.session.items, Kind.ofMethod (Deferred.method item) ≠ .shutdown
  linked : IsLinked p.session
  told : p.session.status = .initialized →
    .opened ∈ calls id p.events ∨ Session.opened ∈ p.session.notifications
  leaving : .leaving true ∈ p.tasks → .opened ∈ calls id p.events ∨ IsHasty id p
  greeted : EachCall id (fun earlier k =>
    k = .shutdown → .opened ∈ calls id earlier ∨ IsHasty id p) p.events

lemma Greets.blank (config : Fields) (name : Json) : Greets id ⟨.blank config name, [], []⟩ where
  items _ h := (List.not_mem_nil h).elim
  linked h := by rcases h with h | h <;> cases h
  told h := by cases h
  leaving h := (List.not_mem_nil h).elim
  greeted := .nil

lemma Step.told (h : Step c id p q) (hp : Greets id p)
    (hs : p.Sound c id) (answered : IsWellAnswered id q.events) (accepts : Accepts id q.events)
    (attests : q.Attests id) (hq : q.session.status = .initialized) :
    .opened ∈ calls id q.events ∨ Session.opened ∈ q.session.notifications := by
  have hkeep : p.session.status = .initialized →
      p.session.notifications ⊆ q.session.notifications →
        .opened ∈ calls id q.events ∨ Session.opened ∈ q.session.notifications :=
    fun hs hn => (hp.told hs).imp (fun hm => Wire.calls_subset h.suffix hm) (hn ·)
  cases h
  case notified s es K n rest result es' queue free writes =>
    rcases hp.told hq with hm | hm
    · exact .inl (Wire.calls_subset writes.suffix hm)
    · rw [show s.notifications = n :: rest from queue] at hm
      rcases List.mem_cons.mp hm with rfl | hm
      · cases writes with
        | sent => exact .inl ((calls_sent _ _ _).symm ▸ List.mem_cons_self)
        | refused =>
          obtain ⟨server, timeout, hclosed⟩ := accepts _ _ (List.suffix_refl _)
          have hover := attests.closed server timeout (List.mem_cons_of_mem _ hclosed)
          cases hq.symm.trans hover
        | unlinked linked =>
          have hlinked := hp.linked (.inr hq)
          rw [show s.link = none from linked] at hlinked
          cases hlinked
        | unencodable linked encodes => exact (encodes Session.opened_isSendable).elim
      · exact .inr hm
  case stuck holds result => exact (hs.not_isWellAnswered List.mem_cons_self holds result answered).elim
  case welcomed => exact .inr (List.mem_append_left _ (List.mem_append_right _ List.mem_cons_self))
  case deferred item _ _ _ _ _ _ _ => cases item <;> exact hkeep hq (List.Subset.refl _)
  case queued item _ _ _ _ _ _ =>
    cases item with
    | inl n => exact hkeep hq (List.subset_append_left _ _)
    | inr r => exact hkeep hq (List.Subset.refl _)
  case took s es t K m reader next running =>
    obtain ⟨responses, errors, he⟩ := Session.exists_enqueue_eq { s with reader } m
    rw [he] at hq hkeep ⊢
    exact hkeep hq (List.Subset.refl _)
  case introduced | left | parted | saidGoodbye | unheardGoodbye | ended => cases hq
  case overtaken status | abandoned status _ | buried status _ => cases hq.symm.trans status
  all_goals exact hkeep hq (List.Subset.refl _)

lemma Step.leaving (h : Step c id p q) (hp : Greets id p) (ht : .leaving true ∈ q.tasks) :
    .opened ∈ calls id q.events ∨ IsHasty id q := by
  have hkeep : .leaving true ∈ p.tasks → .opened ∈ calls id q.events ∨ IsHasty id q := fun ht =>
    (hp.leaving ht).imp (fun hm => Wire.calls_subset h.suffix hm) (·.step h)
  cases h
  case left s es K timeout earlier status =>
    rcases List.mem_cons.mp ht with he | ht
    · have hs : s.status = .initialized := of_decide_eq_true (Task.leaving.inj he).symm
      refine (hp.told hs).imp_right fun howes => ?_
      exact ⟨timeout, s, ⟨hs, howes⟩, .inl ⟨earlier, List.mem_cons_of_mem _ List.mem_cons_self⟩⟩
    · exact hkeep ht
  case overtaken | parted | saidGoodbye | unheardGoodbye | abandoned =>
    exact hkeep (List.mem_cons_of_mem _ (by simpa using ht))
  all_goals exact hkeep (by simpa [Task.mem_owed] using ht)

lemma Step.greeted (h : Step c id p q) (hp : Greets id p) : EachCall id (fun earlier k =>
    k = .shutdown → .opened ∈ calls id earlier ∨ IsHasty id q) q.events := by
  have hkept : EachCall id (fun earlier k =>
      k = .shutdown → .opened ∈ calls id earlier ∨ IsHasty id q) p.events :=
    hp.greeted.mono fun earlier k hk hs => (hk hs).imp_right (·.step h)
  have hasty : IsHasty id p → IsHasty id q := (·.step h)
  cases h
  case notified s es K n rest result es' queue free writes =>
    refine hkept.writes writes fun _ hk => (hp.items (.inl n) ?_ hk).elim
    exact Session.mem_items.mpr (.inl ⟨n, queue ▸ List.mem_cons_self, rfl⟩)
  case requested s es K r rest p now result es' queue free first entry writes =>
    refine (hkept.quietly (.single rfl)).writes writes fun _ hk => (hp.items (.inr r) ?_ hk).elim
    exact Session.mem_items.mpr (.inr (.inl ⟨r, queue ▸ List.mem_cons_self, rfl⟩))
  case replied isReply writes =>
    refine hkept.writes writes fun _ hk => ?_
    rw [isReply.callKind] at hk
    cases hk
  case saidGoodbye s es K es₁ es₂ result status told left =>
    have htold := hkept.writes told fun _ _ => (hp.leaving List.mem_cons_self).imp_right hasty
    exact (htold.writes left fun _ hk => by cases hk).quietly (.single rfl)
  case unheardGoodbye told => exact hkept.quietly (told.quietly.cons rfl)
  case deferred item _ _ _ _ _ _ _ | queued item _ _ _ _ _ _ =>
    exact hkept.quietly ((Quietly.single rfl).acceptance item)
  case introduced => exact hkept.quietly ((Quietly.single rfl).cons rfl)
  case buried s es K last timeout status settled => exact hkept.quietly (.burial s timeout)
  all_goals exact hkept.quietly (by first | exact .refl _ | exact .single rfl)

lemma Greets.step (hp : Greets id p) (h : Step c id p q) (hc : c.LeavesLifecycle) (hs : p.Sound c id)
    (attests : q.Attests id) (answered : IsWellAnswered id q.events)
    (accepts : Accepts id q.events) : Greets id q where
  items item hi := by
    rcases Step.mem_items h hi with hi | ⟨a, ha, hasks⟩ | rfl | ⟨params, callback, rfl⟩
    · exact hp.items item hi
    · obtain ⟨item', hi', hmethod, -⟩ := hasks.exists_item
      rw [← hmethod, hc a ha _ item' hi']
      nofun
    all_goals
      change Kind.ofMethod (.text _) ≠ .shutdown
      decide
  linked := Step.isLinked h hp.linked
  told := Step.told h hp hs answered accepts attests
  leaving := Step.leaving h hp
  greeted := Step.greeted h hp

lemma Greets.steps (hp : Greets id p) (h : Steps c id p q) (hc : c.LeavesLifecycle)
    (hs : p.Sound c id) (attests : p.Attests id) (answered : IsWellAnswered id q.events)
    (accepts : Accepts id q.events) : Greets id q := by
  induction h with
  | refl => exact hp
  | tail hr h ih =>
    have hgreets := ih (answered.of_suffix h.suffix) (accepts.of_suffix h.suffix)
    have hattests := Step.attests h (Steps.attests hr attests)
    exact hgreets.step h hc (Steps.sound_position hr hs) hattests answered accepts

end Farewell

open Farewell in
/-- Whatever happens between a host and its servers: a server that is told to shut down was told before
that its session is open. It is taken for granted that the host leaves the life of a session to the
client and shuts none down while its server is still to be told so, that requests to open a session are
answered with nothing that holds but objects, and that a link takes every message until it is closed. -/
theorem isGreeted_of_mem_outcomes {c : Conduct} (hc : c.LeavesLifecycle) {w : World} (hw : w.IsNew)
    {actions : List Action} (ha : actions.all (c.admits .host)) {o : Outcome}
    (ho : o ∈ outcomes w actions) (id : SessionId) (answered : IsWellAnswered id (o.world.story id))
    (accepts : Accepts id (o.world.story id))
    (patient : ∀ timeout before s es, o.world.Did id (.shutdown timeout) before s es →
      ¬ before.OwesOpened) : IsGreeted id (o.world.story id) := by
  have hsteps := steps_of_mem_outcomes hw ha ho id
  have hgreets := (Greets.blank _ _).steps hsteps hc (.blank _ _) (.blank _ _) answered accepts
  refine hgreets.greeted.mono fun earlier k hk hs => (hk hs).resolve_right ?_
  rintro ⟨timeout, before, howes, ⟨_, ht⟩ | ⟨s, hm⟩⟩
  · exact List.not_mem_nil ht
  · obtain ⟨new, es, he⟩ := List.append_of_mem hm
    exact patient timeout before s es ⟨new, he.symm⟩ howes

/-! A session that is shut down in time, and one that is shut down too early -/

/-- An event that shuts no session down while anything waits to be told to its server. -/
def Event.isPatient : Event → Bool
  | .noted _ (.did (.shutdown _) before _) => before.notifications.isEmpty
  | _ => true

theorem isGreeted_of_mem_outcomes_callback :
    let leave := some (Callback.mk "leave" [.session .null (.shutdown .null)] none)
    let actions : List Action :=
      [.session .null (.handshake .null "editor" "1" none), .session .null .tick,
        .session .null (.pushRequest "hover" .null leave .null),
        .link .null (.write [Message.response (.int 1) (.object [])]), .session .null .tick,
        .link .null (.write [Message.response (.int 2) (.object [])]), .session .null .tick,
        .session .null .tick]
    Conduct.orderly.LeavesLifecycle ∧ (World.serving "server").IsNew ∧
      actions.all (Conduct.orderly.admits .host) ∧
      ∃ o ∈ outcomes (.serving "server") actions,
        calls 0 (o.world.story 0) = [.exit, .shutdown, .other, .opened, .opening] ∧
        IsGreeted 0 (o.world.story 0) := by
  intro leave actions
  have hc : Conduct.orderly.LeavesLifecycle := (Conduct.keepsOrder_orderly "server").items
  have hw : (World.serving "server").IsNew := World.isNew_serving "server"
  have ha : actions.all (Conduct.orderly.admits .host) := by decide +kernel
  have hrun : ∃ o ∈ outcomes (.serving "server") actions,
      calls 0 (o.world.story 0) = [.exit, .shutdown, .other, .opened, .opening] ∧
        (o.world.story 0).all Event.isSmooth ∧ accepts 0 (o.world.story 0) ∧
        (o.world.story 0).all Event.isPatient := by
    decide +kernel
  obtain ⟨o, ho, hcalls, hsmooth, haccepts, hpatient⟩ := hrun
  refine ⟨hc, hw, ha, o, ho, hcalls, isGreeted_of_mem_outcomes hc hw ha ho 0
    (isSmooth_of_all hsmooth).answered (accepts_of haccepts) fun timeout before s es hdid howes => ?_⟩
  have hempty := List.all_eq_true.mp hpatient _ (hdid.subset List.mem_cons_self)
  exact List.ne_nil_of_mem howes.2 (List.isEmpty_iff.mp hempty)

/-- The host shuts a session down as soon as it is open, and the notice of that is never sent. -/
theorem not_isGreeted_of_mem_outcomes_shutdown :
    let actions : List Action :=
      [.session .null (.handshake .null "editor" "1" none), .session .null .tick,
        .link .null (.write [Message.response (.int 1) (.object [])]), .session .null .tick,
        .session .null (.shutdown .null)]
    Conduct.orderly.LeavesLifecycle ∧ (World.serving "server").IsNew ∧
      actions.all (Conduct.orderly.admits .host) ∧
      ∃ o ∈ outcomes (.serving "server") actions, IsWellAnswered 0 (o.world.story 0) ∧
        Accepts 0 (o.world.story 0) ∧ ¬ IsGreeted 0 (o.world.story 0) := by
  intro actions
  have hc : Conduct.orderly.LeavesLifecycle := (Conduct.keepsOrder_orderly "server").items
  refine ⟨hc, World.isNew_serving "server", by decide +kernel, ?_⟩
  have hrun : ∃ o ∈ outcomes (.serving "server") actions,
      calls 0 (o.world.story 0) = [.exit, .shutdown, .opening] ∧
        (o.world.story 0).all Event.isSmooth ∧ accepts 0 (o.world.story 0) := by
    decide +kernel
  obtain ⟨o, ho, hcalls, hsmooth, haccepts⟩ := hrun
  refine ⟨o, ho, (isSmooth_of_all hsmooth).answered, accepts_of haccepts, fun hgreeted => ?_⟩
  obtain ⟨earlier, hearlier, htold⟩ := EachCall.of_calls [.exit] hgreeted hcalls
  have hopened := htold rfl
  rw [hearlier] at hopened
  revert hopened
  decide

end LanguageClient
