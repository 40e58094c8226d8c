import LanguageClient.Proofs.Message.Tame
import LanguageClient.Proofs.Steps.Runs
import LanguageClient.Proofs.Wire.Turns

/-!
Replies. A request of a server is answered once, with its own id, after its listeners were told and before
the next message has its turn; and nothing else is answered.
-/

namespace LanguageClient

variable {c : Conduct} {id : SessionId} {p q : Position}

/-! What the events attest -/

def Event.isUnattested : Event → Bool
  | .dealt _ (.read _) | .noted _ .ended | .closed _ _ _ => false
  | _ => true

/-- Messages come from a link and hold nothing that is too long to be written, the end is noted, and a link
is closed only then. -/
structure Position.Attests (id : SessionId) (p : Position) : Prop where
  reading : .reading ∈ p.tasks → p.session.link.isSome
  read : ∀ m, .dealt id (.read m) ∈ p.events → p.session.link.isSome ∧ (Json.object m).isWritable
  ended : .noted id .ended ∈ p.events ↔ p.session.status = .terminated
  closed : ∀ server timeout, .closed id server timeout ∈ p.events → p.session.status = .terminated

namespace Position.Attests

lemma blank (config : Fields) (name : Json) : Position.Attests id ⟨.blank config name, [], []⟩ where
  reading h := (List.not_mem_nil h).elim
  read _ h := (List.not_mem_nil h).elim
  ended := ⟨fun h => (List.not_mem_nil h).elim, nofun⟩
  closed _ _ h := (List.not_mem_nil h).elim

section

variable {s s' : Session} {es es' : List Event} {K K' : List Task}

lemma aside (h : Position.Attests id ⟨s, es, K⟩) (hl : s.link.isSome → s'.link.isSome)
    (hs : s'.status = .terminated ↔ s.status = .terminated) (he : Adds Event.isUnattested es es')
    (hK : .reading ∈ K' → .reading ∈ K) : Position.Attests id ⟨s', es', K'⟩ where
  reading hr := hl (h.reading (hK hr))
  read m hm := (h.read m (he.mem_of hm rfl)).imp_left hl
  ended := ⟨fun hm => hs.mpr (h.ended.mp (he.mem_of hm rfl)),
    fun ht => he.suffix.subset (h.ended.mpr (hs.mp ht))⟩
  closed server timeout hm := hs.mpr (h.closed server timeout (he.mem_of hm rfl))

lemma ends (h : Position.Attests id ⟨s, es, K⟩) (hl : s.link.isSome → s'.link.isSome)
    (hs : s'.status = .terminated) (he : Adds Event.isUnattested es es')
    (hK : .reading ∈ K' → .reading ∈ K) : Position.Attests id ⟨s', .noted id .ended :: es', K'⟩ where
  reading hr := hl (h.reading (hK hr))
  read m hm := by
    have hm : .dealt id (.read m) ∈ es' := by simpa using hm
    exact (h.read m (he.mem_of hm rfl)).imp_left hl
  ended := ⟨fun _ => hs, fun _ => List.mem_cons_self⟩
  closed _ _ _ := hs

end

end Position.Attests

open Position in
lemma Step.attests (h : Step c id p q) (hp : p.Attests id) : q.Attests id := by
  cases h
  case took s es t K m reader next running =>
    have hlinked : s.link.isSome := hp.reading List.mem_cons_self
    obtain ⟨responses, errors, he⟩ := Session.exists_enqueue_eq { s with reader } m
    rw [he]
    refine ⟨fun _ => hlinked, fun k hk => ⟨hlinked, ?_⟩, ?_, fun server timeout hm => ?_⟩
    · rcases List.mem_cons.mp hk with hk | hk
      · obtain rfl := Dealing.read.inj (Event.dealt.inj hk).2
        exact Frame.Reader.isWritable_of_next next
      · exact (hp.read k hk).2
    · exact ⟨fun hm => hp.ended.mp (by simpa using hm), fun ht => List.mem_cons_of_mem _ (hp.ended.mpr ht)⟩
    · exact hp.closed server timeout (by simpa using hm)
  case fed s es t K data drains free linked running =>
    have he : Adds Event.isUnattested es (.noted id (.received data) :: es) := .single rfl
    have h := hp.aside (fun h => h) .rfl he fun h => h
    exact ⟨fun _ => linked, h.read, h.ended, h.closed⟩
  case introduced s _ _ _ _ _ _ _ status _ _ _ _ =>
    refine hp.aside (fun h => h) ?_ ((Adds.single rfl).cons rfl) fun h => h
    simp [Session.introduce, status]
  case deferred item _ _ _ _ _ _ _ | queued item _ _ _ _ _ _ =>
    cases item with
    | inl n => exact hp.aside (fun h => h) .rfl (.single rfl) fun h => h
    | inr r => exact hp.aside (fun h => h) .rfl ((Adds.single rfl).cons rfl) fun h => h
  case notified writes | replied writes =>
    exact hp.aside (fun h => h) .rfl (writes.adds rfl rfl rfl) (by simp)
  case requested writes =>
    exact hp.aside (fun h => h) .rfl (Adds.trans (.single rfl) (writes.adds rfl rfl rfl)) fun h => h
  case launched => exact hp.aside (fun _ => rfl) .rfl (.single rfl) fun h => h
  case relinked => exact hp.aside (fun _ => rfl) .rfl (.refl _) fun h => h
  case stuck status _ _ => exact hp.aside (fun h => h) (by simp [status]) (.refl _) (by simp)
  case welcomed status _ =>
    exact hp.aside (fun h => h) (by simp [status, Session.welcome, Session.queue, Session.flush])
      (.single rfl) (by simp [Task.mem_owed])
  case left status =>
    refine hp.aside (fun h => h) ⟨(by cases ·), fun ht => ?_⟩ (.refl _) (by simp)
    rw [ht] at status
    cases status
  case parted | ended => exact hp.ends (fun h => h) rfl (.refl _) (by simp)
  case saidGoodbye told left =>
    exact hp.ends (fun h => h) rfl ((told.adds rfl rfl rfl).trans (left.adds rfl rfl rfl)) (by simp)
  case unheardGoodbye told => exact hp.ends (fun h => h) rfl (told.adds rfl rfl rfl) (by simp)
  case buried s es K last timeout status settled =>
    have hended := List.mem_append_right (s.burial id timeout) (hp.ended.mpr status)
    refine ⟨fun hr => ?_, fun m hm => ?_, ⟨fun _ => status, fun _ => hended⟩, fun _ _ _ => status⟩
    · exact (Option.isSome_map).trans (hp.reading (List.mem_cons_of_mem _ hr))
    · have hm := (List.mem_append.mp hm).resolve_left (s.dealt_not_mem_burial timeout _)
      exact (hp.read m hm).imp_left (Option.isSome_map).trans
  all_goals
    exact hp.aside (fun h => h) .rfl (by first | exact .refl _ | exact .single rfl)
      (by simp [Task.mem_owed])

open Position in
lemma Steps.attests (h : Steps c id p q) (hp : p.Attests id) : q.Attests id := by
  induction h with
  | refl => exact hp
  | tail _ h ih => exact h.attests ih

/-! Replies -/

/-- A link refuses a message only once it is closed. -/
def Accepts (id : SessionId) (es : List Event) : Prop :=
  ∀ message earlier, .noted id (.refused message) :: earlier <:+ es →
    ∃ server timeout, .closed id server timeout ∈ earlier

/-- A reply is written, or the session was over before. -/
inductive Event.Replies (id : SessionId) (reply : Json) (earlier : List Event) : Event → Prop where
  | sent {server : Json} (live : .noted id .ended ∉ earlier) : Replies id reply earlier (.sent id server reply)
  | refused (ended : .noted id .ended ∈ earlier) : Replies id reply earlier (.noted id (.refused reply))

/-- What those are told who listen to the method of a message. -/
def Session.receipts (s : Session) (m : Fields) : List (Json × Json) :=
  (s.audience m).filterMap (·.receipt? (m.getD "params" .null))

/-- All who listened to the method of a message when it had its turn were told, one after the other, unless
there was no room for a call. -/
def Heard (id : SessionId) (found : Session) (m : Fields) (es : List Event) : Prop :=
  .noted id .tooDeep ∈ es ∨ (found.receipts m).reverse.Sublist (es.filterMap (Event.receipt? id))

/-- Messages have their turns one after the other, and those and only those that ask for it are answered
meanwhile. -/
inductive Answered (id : SessionId) : List Event → Prop where
  | quiet {es : List Event} (beside : ∀ e ∈ es, e.isBeside id) : Answered id es
  | request {m : Fields} {found : Session} {es telling : List Event} {e : Event} (after : List Event)
    (before : Answered id es) (kind : Message.kindOf m = .request)
    (meanwhile : ∀ e ∈ telling, e.isBeside id) (heard : Heard id found m telling)
    (reply : e.Replies id (found.replyTo m) (telling ++ .noted id (.dispatched m found) :: es))
    (beside : ∀ e ∈ after, e.isBeside id) :
    Answered id (after ++ e :: (telling ++ .noted id (.dispatched m found) :: es))
  | other {m : Fields} {found : Session} {es after : List Event} (before : Answered id es)
    (kind : Message.kindOf m ≠ .request) (beside : ∀ e ∈ after, e.isBeside id) :
    Answered id (after ++ .noted id (.dispatched m found) :: es)

lemma Answered.adds {es es' : List Event} (h : Answered id es) (ha : Adds (Event.isBeside id) es es') :
    Answered id es' := by
  obtain ⟨new, rfl, hnew⟩ := ha
  cases h with
  | quiet beside => exact .quiet (List.forall_mem_append.mpr ⟨hnew, beside⟩)
  | request after before kind meanwhile heard reply beside =>
    rw [← List.append_assoc]
    exact .request _ before kind meanwhile heard reply (List.forall_mem_append.mpr ⟨hnew, beside⟩)
  | other before kind beside =>
    rw [← List.append_assoc]
    exact .other before kind (List.forall_mem_append.mpr ⟨hnew, beside⟩)

/-- What a message still has to go through, when some of its listeners are yet to be told. -/
def Task.turnOf (m : Fields) (found : Session) (rest : List Listener) : List Task :=
  rest.map (.telling · (m.getD "params" .null)) ++ [.turning m found]

lemma Task.turnOf_append (m : Fields) (found : Session) (rest : List Listener) (K : List Task) :
    ∃ t L, Task.turnOf m found rest ++ K = t :: L ∧ t.isDue := by
  cases rest with
  | nil => exact ⟨_, _, rfl, rfl⟩
  | cons l rest => exact ⟨_, _, rfl, rfl⟩

/-- What a message may find under way when its turn comes. -/
def Task.isGround : Task → Bool
  | ticking | phase | performing _ _ _ => true
  | _ => false

lemma Task.isGround_of_outer {t : Task} {K : List Task} (ht : t.drains) (hK : AreOuter K) :
    ∀ k ∈ t :: K, k.isGround := by
  refine List.forall_mem_cons.mpr ⟨?_, fun k hk => ?_⟩
  · cases t <;> first | rfl | cases ht
  · rcases hK with rfl | ⟨a, before, earlier, rfl⟩
    · cases hk
    · rw [List.mem_singleton.mp hk]
      rfl

/-- The turn of a message that was read, and of which some listeners were told. -/
structure InTurn (id : SessionId) (p : Position) (A : List Task) (m : Fields) (found : Session)
    (rest : List Listener) (K : List Task) (telling es : List Event) : Prop where
  tasks : p.tasks = A ++ (Task.turnOf m found rest ++ K)
  above : ∀ k found, .turning k found ∉ A
  ground : ∀ t ∈ K, t.isGround
  events : p.events = telling ++ .noted id (.dispatched m found) :: es
  answered : Answered id es
  meanwhile : ∀ e ∈ telling, e.isBeside id
  told : .noted id .tooDeep ∈ telling ∨ ∃ done, found.audience m = done ++ rest ∧
    (done.filterMap (·.receipt? (m.getD "params" .null))).reverse.Sublist
      (telling.filterMap (Event.receipt? id))
  read : .dealt id (.read m) ∈ p.events

/-- No message has its turn, or one has. -/
inductive Position.Answers (id : SessionId) (p : Position) : Prop where
  | resting (answered : Answered id p.events) (idle : ∀ m found, .turning m found ∉ p.tasks)
  | turning {A m found rest K telling es} (turn : InTurn id p A m found rest K telling es)

/-- Tasks that belong to no turn are on top of those that do. -/
lemma exists_append_of_pops {P K A L : List Task} {t : Task} (h : P ++ K = A ++ t :: L)
    (hP : ∀ k ∈ P, k.isDue = false) (ht : t.isDue) : ∃ A', A = P ++ A' ∧ K = A' ++ t :: L := by
  rcases List.append_eq_append_iff.mp h with ⟨A', hA, hK⟩ | ⟨C, hP', hL⟩
  · exact ⟨A', hA, hK⟩
  · cases C with
    | nil => exact ⟨[], by simpa using hP'.symm, by simpa using hL.symm⟩
    | cons k C =>
      obtain ⟨rfl, -⟩ := List.cons.inj hL
      have hmem : t ∈ P := hP' ▸ List.mem_append_right A List.mem_cons_self
      cases ht.symm.trans (hP t hmem)

section

variable {A K : List Task} {m : Fields} {found : Session} {rest : List Listener}
  {telling es : List Event}

/-- The turn goes on while other things happen. -/
lemma InTurn.goes (A' : List Task) (h : InTurn id p A m found rest K telling es)
    (ha : Adds (Event.isBeside id) p.events q.events)
    (ht : q.tasks = A' ++ (Task.turnOf m found rest ++ K)) (hA : ∀ k found, .turning k found ∉ A') :
    q.Answers id := by
  obtain ⟨new, he, hnew⟩ := ha
  have hturn : InTurn id q A' m found rest K (new ++ telling) es := by
    refine ⟨ht, hA, h.ground, ?_, h.answered, ?_, ?_, ?_⟩
    · rw [he, h.events, List.append_assoc]
    · exact List.forall_mem_append.mpr ⟨hnew, h.meanwhile⟩
    · refine h.told.imp (List.mem_append_right _) ?_
      rintro ⟨done, hd, hsub⟩
      refine ⟨done, hd, hsub.trans ?_⟩
      rw [List.filterMap_append]
      exact List.sublist_append_right _ _
    · rw [he]
      exact List.mem_append_right _ h.read
  exact .turning hturn

/-- The next listener is told. -/
lemma InTurn.tells {l : Listener} {new : List Event} (h : InTurn id p [] m found (l :: rest) K telling es)
    (ht : q.tasks = Task.turnOf m found rest ++ K) (he : q.events = new ++ p.events)
    (hnew : ∀ e ∈ new, Event.isBeside id e)
    (told : .noted id .tooDeep ∈ new ∨
      new.filterMap (Event.receipt? id) = (l.receipt? (m.getD "params" .null)).toList) :
    InTurn id q [] m found rest K (new ++ telling) es where
  tasks := ht
  above := h.above
  ground := h.ground
  events := by rw [he, h.events, List.append_assoc]
  answered := h.answered
  meanwhile := List.forall_mem_append.mpr ⟨hnew, h.meanwhile⟩
  told := by
    rcases told with hdeep | htold
    · exact .inl (List.mem_append_left _ hdeep)
    · refine h.told.imp (List.mem_append_right _) ?_
      rintro ⟨done, hd, hsub⟩
      refine ⟨done ++ [l], by rw [hd, List.append_assoc]; rfl, ?_⟩
      rw [List.filterMap_append, List.reverse_append, List.filterMap_append, htold]
      refine List.Sublist.append ?_ hsub
      cases hl : l.receipt? (m.getD "params" .null) with
      | none => simp [hl]
      | some r => simp [hl]
  read := he ▸ List.mem_append_right _ h.read

lemma InTurn.mem_tasks (h : InTurn id p A m found rest K telling es) : .turning m found ∈ p.tasks := by
  rw [h.tasks]
  simp [Task.turnOf]

/-- A message is on top once all its listeners were told. -/
lemma InTurn.of_turning {k : Fields} {s : Session} {L : List Task}
    (h : InTurn id p A m found rest K telling es) (hp : p.tasks = .turning k s :: L) :
    k = m ∧ s = found ∧ rest = [] ∧ L = K := by
  have htasks := hp.symm.trans h.tasks
  cases A with
  | cons t A => exact (h.above k s ((List.cons.inj htasks).1 ▸ List.mem_cons_self)).elim
  | nil =>
    cases rest with
    | nil =>
      obtain ⟨he, rfl⟩ := List.cons.inj htasks
      obtain ⟨rfl, rfl⟩ := Task.turning.inj he
      exact ⟨rfl, rfl, rfl, rfl⟩
    | cons l rest => cases (List.cons.inj htasks).1

/-- All listeners were told. -/
lemma InTurn.heard (h : InTurn id p A m found [] K telling es) : Heard id found m telling := by
  refine h.told.imp_right ?_
  rintro ⟨done, hd, hsub⟩
  rw [List.append_nil] at hd
  rwa [Session.receipts, hd]

end

/-- A reply is written unless the session is over. -/
lemma Position.Attests.replies {reply : Json} {result : Except Fault Unit} {es' : List Event}
    (h : p.Attests id) (writes : Writes id p.session reply p.events result es') (encodes : reply.Encodes)
    (linked : p.session.link.isSome) (shut : p.session.status = .terminated → p.session.IsClosed)
    (accepts : Accepts id es') : ∃ e, es' = e :: p.events ∧ e.Replies id reply p.events := by
  cases writes with
  | sent hlink haccepts =>
    refine ⟨_, rfl, .sent fun hended => ?_⟩
    have hclosed := shut (h.ended.mp hended) _ hlink
    simp [Link.accepts, Link.isAlive, hclosed] at haccepts
  | refused hlink refuses _ closed =>
    obtain ⟨server, timeout, hm⟩ := accepts _ _ (List.suffix_refl _)
    exact ⟨_, rfl, .refused (h.ended.mpr (h.closed server timeout hm))⟩
  | unlinked hlink closed =>
    rw [hlink] at linked
    cases linked
  | unencodable hlink hnot closed => exact (hnot encodes).elim

lemma Step.answers (h : Step c id p q) (hp : p.Answers id) (hc : c.LeavesDispatch)
    (hs : p.session.Sound c id p.events) (ha : p.Attests id) (hshut : p.IsShut)
    (proper : ∀ m, .dealt id (.read m) ∈ p.events → m.IsProper) (accepts : Accepts id q.events) :
    q.Answers id := by
  have htame : ∀ m, .dealt id (.read m) ∈ p.events → m.IsTame := fun m hm =>
    (proper m hm).isTame (ha.read m hm).2
  cases h.takes hc hs with
  | goes P Q before after pops pushes beside =>
    cases hp with
    | resting answered idle =>
      refine .resting (answered.adds beside) fun m found hm => ?_
      rw [after] at hm
      rcases List.mem_append.mp hm with hm | hm
      · exact pushes m found hm
      · exact idle m found (before ▸ List.mem_append_right P hm)
    | turning turn =>
      obtain ⟨t, L, hL, ht⟩ := Task.turnOf_append _ _ _ _
      have htasks := before.symm.trans turn.tasks
      rw [hL] at htasks
      obtain ⟨A', rfl, rfl⟩ := exists_append_of_pops htasks pops ht
      refine turn.goes (Q ++ A') beside ?_ fun k found hk => ?_
      · rw [after, hL, List.append_assoc]
      · rcases List.mem_append.mp hk with hk | hk
        · exact pushes k found hk
        · exact turn.above k found (List.mem_append_right P hk)
  | dispatches before after drains outer read events =>
    have hground := Task.isGround_of_outer drains outer
    have hidle : ∀ m found, .turning m found ∉ p.tasks := fun m found hm => by
      cases hground _ (before ▸ hm)
    cases hp with
    | resting answered _ =>
      have hturn : InTurn id q [] _ q.session (q.session.audience _) _ [] p.events :=
        ⟨after, fun _ _ => List.not_mem_nil, hground, events, answered,
          fun _ he => (List.not_mem_nil he).elim, .inr ⟨[], rfl, List.nil_sublist _⟩,
          events ▸ List.mem_cons_of_mem _ read⟩
      exact .turning hturn
    | turning turn => exact (hidle _ _ turn.mem_tasks).elim
  | tells new before events beside told =>
    have hadds : Adds (Event.isBeside id) p.events q.events := ⟨_, events, beside⟩
    cases hp with
    | resting answered idle =>
      exact .resting (answered.adds hadds) fun m found hm =>
        idle m found (before ▸ List.mem_cons_of_mem _ hm)
    | @turning A m found rest K telling es turn =>
      have htasks := before.symm.trans turn.tasks
      cases A with
      | cons t A =>
        obtain ⟨-, ht⟩ := List.cons.inj htasks
        exact turn.goes A hadds ht fun k found hk => turn.above k found (List.mem_cons_of_mem _ hk)
      | nil =>
        cases rest with
        | nil => cases (List.cons.inj htasks).1
        | cons l rest =>
          obtain ⟨he, ht⟩ := List.cons.inj htasks
          obtain ⟨rfl, rfl⟩ := Task.telling.inj he
          exact .turning (turn.tells ht events beside told)
  | answers before kind isReply writes =>
    cases hp with
    | resting answered idle => exact (idle _ _ (before ▸ List.mem_cons_self)).elim
    | turning turn =>
      obtain ⟨rfl, rfl, rfl, hq⟩ := turn.of_turning before
      have hnot : ∀ last, .ending last ∉ p.tasks := fun last hm => by
        rw [before, hq] at hm
        cases turn.ground _ (List.mem_of_ne_of_mem (by simp) hm)
      obtain ⟨e, he, hreply⟩ := ha.replies writes ((htame _ turn.read).reply kind _ isReply)
        (ha.read _ turn.read).1 (fun ht => (hshut ht).resolve_left fun ⟨last, hl⟩ => hnot last hl) accepts
      refine .resting ?_ fun k found hk => ?_
      · rw [he]
        rw [turn.events] at hreply ⊢
        exact .request [] turn.answered kind turn.meanwhile turn.heard hreply
          fun _ hm => (List.not_mem_nil hm).elim
      · cases turn.ground _ (hq ▸ hk)
  | passes before events kind =>
    cases hp with
    | resting answered idle => exact (idle _ _ (before ▸ List.mem_cons_self)).elim
    | turning turn =>
      obtain ⟨rfl, rfl, rfl, hq⟩ := turn.of_turning before
      refine .resting ?_ fun k found hk => ?_
      · rw [events, turn.events]
        exact .other turn.answered (kind (htame _ turn.read)) turn.meanwhile
      · cases turn.ground _ (hq ▸ hk)

lemma Accepts.of_suffix {es es' : List Event} (h : Accepts id es') (hs : es <:+ es') : Accepts id es :=
  fun message earlier he => h message earlier (he.trans hs)

lemma Steps.answers (h : Steps c id p q) (hp : p.Answers id) (hc : c.LeavesDispatch)
    (hs : p.session.Sound c id p.events) (ha : p.Attests id) (hshut : p.IsShut)
    (proper : ∀ m, .dealt id (.read m) ∈ q.events → m.IsProper) (accepts : Accepts id q.events) :
    q.Answers id := by
  induction h with
  | refl => exact hp
  | tail hr h ih =>
    exact h.answers (ih (fun m hm => proper m (h.suffix.subset hm)) (accepts.of_suffix h.suffix)) hc
      (Steps.sound hr hs) (Steps.attests hr ha) (Steps.isShut hr hshut)
      (fun m hm => proper m (h.suffix.subset hm)) accepts

/-- Every request of a server is answered once, and nothing else is: with its own id, after those who
listened to its method were told and before the next message has its turn, with null if someone listened
and with an error otherwise; but once the session is over it is not. -/
theorem answered_of_mem_outcomes {c : Conduct} (hc : c.LeavesDispatch) {w : World} (hw : w.IsNew)
    {actions : List Action} (ha : actions.all (c.admits .host)) {o : Outcome}
    (ho : o ∈ outcomes w actions) (id : SessionId)
    (proper : ∀ m, .dealt id (.read m) ∈ o.world.story id → m.IsProper)
    (accepts : Accepts id (o.world.story id)) : Answered id (o.world.story id) := by
  have hsteps := steps_of_mem_outcomes hw ha ho id
  have hblank : Answered id [] := .quiet fun _ h => (List.not_mem_nil h).elim
  have hanswers := hsteps.answers (.resting hblank fun _ _ => List.not_mem_nil) hc (.blank _ _)
    (.blank _ _) nofun proper accepts
  cases hanswers with
  | resting answered idle => exact answered
  | turning turn => cases turn.mem_tasks

def Event.isProper : Event → Bool
  | .dealt _ (.read m) => Fields.isProper m
  | _ => true

lemma isProper_of_all {es : List Event} (h : es.all Event.isProper) (m : Fields)
    (hm : .dealt id (.read m) ∈ es) : m.IsProper :=
  Fields.isProper_of (List.all_eq_true.mp h _ hm)

def accepts (id : SessionId) : List Event → Bool
  | [] => true
  | .noted _ (.refused _) :: es =>
    (es.any fun | .closed session _ _ => session = id | _ => false) && accepts id es
  | _ :: es => accepts id es

lemma accepts_of {es : List Event} (h : accepts id es) : Accepts id es := by
  intro message earlier hs
  fun_induction accepts id es with
  | case1 => cases List.suffix_nil.mp hs
  | case2 session refused es ih =>
    rw [Bool.and_eq_true, List.any_eq_true] at h
    obtain ⟨⟨e, hmem, he⟩, hrest⟩ := h
    rcases List.suffix_cons_iff.mp hs with heq | hs
    · obtain ⟨-, rfl⟩ := List.cons.inj heq
      split at he
      next server timeout => exact ⟨server, timeout, of_decide_eq_true he ▸ hmem⟩
      next => cases he
    · exact ih hrest hs
  | case3 e es hne ih =>
    rcases List.suffix_cons_iff.mp hs with heq | hs
    · obtain ⟨rfl, -⟩ := List.cons.inj heq
      exact (hne _ _ rfl).elim
    · exact ih h hs

/-- Whom a reply is for, and whether it is an error. -/
def Json.replyKind (reply : Json) : Option Key × Bool :=
  ((reply.lookup ["id"] .null).key?, !(reply.lookup ["error"] .null).isNull)

/-- A request whose listener fails is answered with null, a notification is not answered, and a request
that no one listens to is answered with an error. -/
theorem answered_of_mem_outcomes_raise :
    let actions : List Action := [.session .null .start,
      .session .null (.onMethod "ask" (some (.mk "asked" [] (some "no")))),
      .link .null (.write [Message.request (.int 7) "ask" .null, Message.notification "saved" .null,
        Message.request "x" "other" .null]),
      .session .null .tick]
    (World.serving "server").IsNew ∧ actions.all (Conduct.reserved.admits .host) ∧
      ∃ o ∈ outcomes (.serving "server") actions, Answered 0 (o.world.story 0) ∧
        ((o.world.story 0).filterMap (Event.reply? 0)).map Json.replyKind =
          [(some (.text "x"), true), (some (.number (.ofInt 7)), false)] := by
  intro actions
  have hw : (World.serving "server").IsNew := World.isNew_serving "server"
  have ha : actions.all (Conduct.reserved.admits .host) := by decide
  have hrun : ∃ o ∈ outcomes (.serving "server") actions,
      (o.world.story 0).all Event.isProper ∧ accepts 0 (o.world.story 0) ∧
      ((o.world.story 0).filterMap (Event.reply? 0)).map Json.replyKind =
        [(some (.text "x"), true), (some (.number (.ofInt 7)), false)] := by
    decide +kernel
  obtain ⟨o, ho, hproper, haccepts, hreplies⟩ := hrun
  have hanswered := answered_of_mem_outcomes Conduct.leavesDispatch_reserved hw ha ho 0
    (isProper_of_all hproper) (accepts_of haccepts)
  exact ⟨hw, ha, o, ho, hanswered, hreplies⟩

/-- A host that reads and dispatches when the session is over already: a request has its turn and is never
answered, though no one listens to it. -/
theorem unanswered_of_mem_outcomes_teardown :
    let actions : List Action := [.session .null .start,
      .link .null (.write [Message.request (.int 7) "ask" .null]),
      .session .null (.teardown "gone" .null), .session .null .readMessages,
      .session .null .dispatchResponses]
    (World.serving "server").IsNew ∧ actions.all (Conduct.reserved.admits .host) ∧
      ∃ o ∈ outcomes (.serving "server") actions, (o.world.story 0).all Event.isProper ∧
        Accepts 0 (o.world.story 0) ∧ calls 0 (o.world.story 0) = [] ∧
        (o.world.story 0).any fun
          | .noted _ (.dispatched m found) => Message.kindOf m = .request ∧ (found.audience m).isEmpty
          | _ => false := by
  intro actions
  have hrun : ∃ o ∈ outcomes (.serving "server") actions, (o.world.story 0).all Event.isProper ∧
      accepts 0 (o.world.story 0) ∧ calls 0 (o.world.story 0) = [] ∧
      (o.world.story 0).any fun
        | .noted _ (.dispatched m found) => Message.kindOf m = .request ∧ (found.audience m).isEmpty
        | _ => false := by
    decide +kernel
  obtain ⟨o, ho, hproper, haccepts, hrest⟩ := hrun
  exact ⟨World.isNew_serving "server", by decide, o, ho, hproper, accepts_of haccepts, hrest⟩

end LanguageClient
