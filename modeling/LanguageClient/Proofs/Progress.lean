import LanguageClient.Proofs.Handshake

/-!
A session only goes forward. It is launched once and closed once, and its listeners are told once that it
is open and once that it is over, whatever its callbacks do meanwhile.
-/

namespace LanguageClient

/-! Milestones -/

namespace Event

def launches : Event → Bool
  | .launched _ _ => true
  | _ => false

def closes : Event → Bool
  | .closed _ _ _ => true
  | _ => false

/-- Whether listeners were told that a session is over. -/
def parts : Event → Bool
  | .noted _ (.fired key) => key = .text "shutdown"
  | _ => false

/-- Whether a session got no further. -/
def isPassing : Event → Bool
  | .launched _ _ | .closed _ _ _ | .noted _ (.fired _) => false
  | _ => true

end Event

/-- What is not so of anything that was added is so as often as before. -/
lemma Adds.countP_eq {f g : Event → Bool} {es es' : List Event} (h : Adds f es es')
    (hg : ∀ e, f e → g e = false) : es'.countP g = es.countP g := by
  obtain ⟨new, rfl, hnew⟩ := h
  have hnone : new.countP g = 0 := List.countP_eq_zero.mpr fun e he => by simp [hg e (hnew e he)]
  rw [List.countP_append, hnone, Nat.zero_add]

namespace Progress

open Handshake (isOpening)

variable {c : Conduct} {id : SessionId} {p q : Position} {s s' : Session} {es es' : List Event}
  {K K' : List Task}

def isEnding : Task → Bool
  | .ending _ => true
  | _ => false

lemma countP_owed {f : Task → Bool} (hf : ∀ ticket handler m, f (.answering ticket handler m) = false)
    (ticket : Nat) (m : Fields) (handler : Option Handler) (K : List Task) :
    (Task.owed ticket m handler ++ K).countP f = K.countP f := by
  cases handler with
  | none => rfl
  | some handler => exact List.countP_cons_of_neg (by simp [hf])

/-! How often -/

/-- What was done once, is left to be done, or is not due yet. -/
structure Keeps (p : Position) : Prop where
  launched : p.events.countP Event.launches = p.session.link.isSome.toNat
  closed : p.events.countP Event.closes ≤ p.events.countP Event.parts
  parted : p.events.countP Event.parts + p.tasks.countP isEnding =
    (decide (p.session.status = .terminated)).toNat
  declared : p.events.countP Event.declares + p.tasks.countP isOpening ≤
    (decide (Status.initialized.rank ≤ p.session.status.rank)).toNat

lemma Keeps.aside (h : Keeps ⟨s, es, K⟩) (hs : s'.status = s.status)
    (hl : s'.link.isSome = s.link.isSome) (he : Adds Event.isPassing es es')
    (hE : K'.countP isEnding = K.countP isEnding) (hO : K'.countP isOpening = K.countP isOpening) :
    Keeps ⟨s', es', K'⟩ := by
  have hlaunches := he.countP_eq (g := Event.launches) fun e h => by
    cases e <;> first | rfl | cases h
  have hcloses := he.countP_eq (g := Event.closes) fun e h => by
    cases e <;> first | rfl | cases h
  have hparts := he.countP_eq (g := Event.parts) fun e h => by
    cases e with
    | noted session n => cases n <;> first | rfl | cases h
    | _ => rfl
  have hdeclares := he.countP_eq (g := Event.declares) fun e h => by
    cases e with
    | noted session n => cases n <;> first | rfl | cases h
    | _ => rfl
  refine ⟨?_, ?_, ?_, ?_⟩ <;> dsimp only
  · rw [hlaunches, hl]
    exact h.launched
  · rw [hcloses, hparts]
    exact h.closed
  · rw [hparts, hE, hs]
    exact h.parted
  · rw [hdeclares, hO, hs]
    exact h.declared

/-- A session that gets on owes no more than before, if it does not come to its end. -/
lemma Keeps.advance (h : Keeps ⟨s, es, K⟩) (hs : s.status.rank ≤ s'.status.rank)
    (hl : s'.link = s.link) (ht : s.status ≠ .terminated) (ht' : s'.status ≠ .terminated) :
    Keeps ⟨s', es, K⟩ := by
  refine ⟨hl ▸ h.launched, h.closed, ?_, Nat.le_trans h.declared ?_⟩
  · have hparted := h.parted
    rw [decide_eq_false ht] at hparted
    rw [decide_eq_false ht']
    exact hparted
  · refine Bool.toNat_le_toNat fun hrank => ?_
    exact decide_eq_true (Nat.le_trans (of_decide_eq_true hrank) hs)

/-- A session that comes to its end has to tell so. -/
lemma Keeps.finish (h : Keeps ⟨s, es, K⟩) (last : Nat) (hl : s'.link = s.link)
    (hs : s.status ≠ .terminated) (hs' : s'.status = .terminated) :
    Keeps ⟨s', es, .ending last :: K⟩ := by
  have hO : (Task.ending last :: K).countP isOpening = K.countP isOpening :=
    List.countP_cons_of_neg (by simp [isOpening])
  have hE : (Task.ending last :: K).countP isEnding = K.countP isEnding + 1 :=
    List.countP_cons_of_pos rfl
  have hparted := h.parted
  have hdeclared := h.declared
  dsimp only at hparted hdeclared
  rw [decide_eq_false hs] at hparted
  refine ⟨hl ▸ h.launched, h.closed, ?_, ?_⟩ <;> dsimp only
  · rw [hE, hs', ← Nat.add_assoc, hparted]
    rfl
  · rw [hO, hs']
    exact Nat.le_trans hdeclared (Bool.toNat_le _)

lemma countP_burial (s : Session) (timeout : Json) :
    (s.burial id timeout).countP Event.launches = 0 ∧ (s.burial id timeout).countP Event.closes ≤ 1 ∧
      (s.burial id timeout).countP Event.parts = 1 ∧
        (s.burial id timeout).countP Event.declares = 0 := by
  unfold Session.burial
  split
  · exact ⟨rfl, Nat.le_refl 1, rfl, rfl⟩
  · exact ⟨rfl, Nat.zero_le 1, rfl, rfl⟩

lemma Keeps.bury {last : Nat} (h : Keeps ⟨s, es, .ending last :: K⟩) (timeout : Json) :
    Keeps ⟨s.buried, s.burial id timeout ++ es, K⟩ := by
  have hE : (Task.ending last :: K).countP isEnding = K.countP isEnding + 1 :=
    List.countP_cons_of_pos rfl
  have hO : (Task.ending last :: K).countP isOpening = K.countP isOpening :=
    List.countP_cons_of_neg (by simp [isOpening])
  obtain ⟨hlaunched, hclosed, hparted, hdeclared⟩ := h
  obtain ⟨hlaunches, hcloses, hparts, hdeclares⟩ := @countP_burial id s timeout
  have hlink : s.buried.link.isSome = s.link.isSome := Option.isSome_map
  refine ⟨?_, ?_, ?_, ?_⟩ <;> dsimp only at * <;> rw [List.countP_append]
  · rw [hlaunches, Nat.zero_add, hlink]
    exact hlaunched
  · rw [List.countP_append]
    omega
  · rw [hparts, show s.buried.status = s.status from rfl, ← hparted, hE]
    omega
  · rw [hdeclares, Nat.zero_add, show s.buried.status = s.status from rfl, ← hO]
    exact hdeclared

/-! Steps -/

lemma Keeps.welcome {ticket : Nat} {callback : Option Callback} {m : Fields}
    (h : Keeps ⟨s, es, .answering ticket (.opening callback) m :: K⟩) (hs : s.status = .initializing)
    (capabilities serverInfo : Json) :
    Keeps ⟨s.welcome capabilities serverInfo, .noted id (.announced s.deferred) :: es,
      Task.owed ticket m (callback.map .host) ++ .opening callback :: K⟩ := by
  have hO : (Task.owed ticket m (callback.map .host) ++ .opening callback :: K).countP isOpening =
      K.countP isOpening + 1 :=
    (countP_owed (fun _ _ _ => rfl) ticket m _ _).trans (List.countP_cons_of_pos rfl)
  have hE : (Task.owed ticket m (callback.map .host) ++ .opening callback :: K).countP isEnding =
      K.countP isEnding :=
    (countP_owed (fun _ _ _ => rfl) ticket m _ _).trans (List.countP_cons_of_neg (by simp [isEnding]))
  obtain ⟨hlaunched, hclosed, hparted, hdeclared⟩ := h
  rw [hs] at hparted hdeclared
  exact ⟨hlaunched, hclosed, hE ▸ hparted, hO ▸ Nat.succ_le_succ hdeclared⟩

lemma Keeps.declare {callback : Option Callback} (h : Keeps ⟨s, es, .opening callback :: K⟩) :
    Keeps ⟨s, .noted id (.fired (.text "initialized")) :: es, K⟩ := by
  have hO : (Task.opening callback :: K).countP isOpening = K.countP isOpening + 1 :=
    List.countP_cons_of_pos rfl
  have hD : (Event.noted id (.fired (.text "initialized")) :: es).countP Event.declares =
      es.countP Event.declares + 1 := List.countP_cons_of_pos rfl
  obtain ⟨hlaunched, hclosed, hparted, hdeclared⟩ := h
  refine ⟨hlaunched, hclosed, hparted, ?_⟩
  dsimp only at hdeclared ⊢
  omega

lemma Keeps.undeclare {callback : Option Callback} (h : Keeps ⟨s, es, .opening callback :: K⟩) :
    Keeps ⟨s, es, K⟩ := by
  have hO : (Task.opening callback :: K).countP isOpening = K.countP isOpening + 1 :=
    List.countP_cons_of_pos rfl
  obtain ⟨hlaunched, hclosed, hparted, hdeclared⟩ := h
  refine ⟨hlaunched, hclosed, hparted, ?_⟩
  dsimp only at hdeclared ⊢
  omega

lemma Step.keeps (h : Step c id p q) (hc : ∀ name args, ¬ c.allows (.fireEvent name args))
    (hp : Keeps p) : Keeps q := by
  cases h
  case fired allowed => exact (hc _ _ allowed).elim
  case launched s es K linked status =>
    obtain ⟨hlaunched, hclosed, hparted, hdeclared⟩ := hp
    refine ⟨?_, hclosed, hparted, hdeclared⟩
    have hnone : es.countP Event.launches = 0 := hlaunched.trans (by rw [linked]; rfl)
    exact (List.countP_cons_of_pos rfl).trans (congrArg (· + 1) hnone)
  case introduced s es K rootUri rootPath name version callback status linked allowed obeys path =>
    have hadds : Adds Event.isPassing es _ :=
      (Adds.single (e := .noted id (.queued (.inr (s.openingRequest
        (s.openingParams rootUri rootPath name version) callback)))) rfl).cons
        (e := .dealt id (.accepted s.tickets (some (.opening callback)))) rfl
    exact (hp.aside rfl rfl hadds rfl rfl).advance (by simp [status, Status.rank]) rfl
      (by simp [status]) (by simp [Session.introduce])
  case deferred s es K a item documents _ _ _ _ _ _ =>
    refine hp.aside ?_ ?_ ((Adds.single rfl).acceptance (fun _ _ => rfl) item) rfl rfl <;>
      cases item <;> rfl
  case queued s es K a item documents _ _ _ _ _ =>
    refine hp.aside ?_ ?_ ((Adds.single rfl).acceptance (fun _ _ => rfl) item) rfl rfl <;>
      cases item <;> rfl
  case notified writes | replied writes => exact hp.aside rfl rfl (writes.adds rfl rfl rfl) rfl rfl
  case requested writes =>
    exact hp.aside rfl rfl (.trans (.single rfl) (writes.adds rfl rfl rfl)) rfl rfl
  case relinked linked closed => exact hp.aside rfl (by rw [linked]; rfl) (.refl _) rfl rfl
  case took s es t K m reader next running =>
    obtain ⟨responses, errors, he⟩ := Session.exists_enqueue_eq { s with reader } m
    rw [he]
    exact hp.aside rfl rfl (.single rfl) rfl rfl
  case resolved =>
    exact hp.aside rfl rfl (.single rfl) (countP_owed (fun _ _ _ => rfl) _ _ _ _)
      (countP_owed (fun _ _ _ => rfl) _ _ _ _)
  case turnedDown =>
    exact hp.aside rfl rfl (.refl _) (countP_owed (fun _ _ _ => rfl) _ _ _ _)
      (countP_owed (fun _ _ _ => rfl) _ _ _ _)
  case stuck s es K ticket callback f m error status holds result =>
    have hrest : Keeps ⟨s, es, K⟩ := hp.aside rfl rfl (.refl _) rfl rfl
    exact hrest.advance (by simp [status, Status.rank]) rfl (by simp [status]) (by simp)
  case welcomed error status result => exact hp.welcome status _ _
  case declared => exact hp.declare
  case undeclared => exact hp.undeclare
  case left s es K t earlier status =>
    have hrest : Keeps ⟨s, es,
        .leaving (s.status = .initialized) :: .performing (.shutdown t) s earlier :: K⟩ :=
      hp.aside rfl rfl (.refl _) rfl rfl
    refine hrest.advance ?_ rfl (fun h => by rw [h] at status; cases status) (by simp)
    cases hs : s.status <;> simp_all [Status.isLeaving, Status.rank]
  case parted s es K wasOpen silent status =>
    have hrest : Keeps ⟨s, .noted id .ended :: es, K⟩ := hp.aside rfl rfl (.single rfl) rfl rfl
    exact hrest.finish _ rfl (by simp [status]) rfl
  case saidGoodbye s es K es₁ es₂ result status told left =>
    have hrest : Keeps ⟨s, .noted id .ended :: es₂, K⟩ := hp.aside rfl rfl
      (((told.adds rfl rfl rfl).trans (left.adds rfl rfl rfl)).cons rfl) rfl rfl
    exact hrest.finish _ rfl (by simp [status]) rfl
  case unheardGoodbye s es K f es₁ status closed told =>
    have hrest : Keeps ⟨s, .noted id .ended :: es₁, K⟩ :=
      hp.aside rfl rfl ((told.adds rfl rfl rfl).cons rfl) rfl rfl
    exact hrest.finish _ rfl (by simp [status]) rfl
  case ended s es K status =>
    have hrest : Keeps ⟨s, .noted id .ended :: es, K⟩ := hp.aside rfl rfl (.single rfl) rfl rfl
    exact hrest.finish _ rfl status rfl
  case buried timeout status settled => exact hp.bury timeout
  case dispatched | dispatchedError =>
    exact hp.aside rfl rfl (.single rfl) (Session.countP_due (fun _ _ => rfl) (fun _ _ => rfl) _ _ _)
      (Session.countP_due (fun _ _ => rfl) (fun _ _ => rfl) _ _ _)
  case fellShort | asked | fed | unread | told | untold | answered | unheard | late | did =>
    exact hp.aside rfl rfl (.single rfl) rfl rfl
  all_goals exact hp.aside rfl rfl (.refl _) rfl rfl

lemma Steps.keeps (h : Steps c id p q) (hc : ∀ name args, ¬ c.allows (.fireEvent name args))
    (hp : Keeps p) : Keeps q := by
  induction h with
  | refl => exact hp
  | tail _ h ih => exact Step.keeps h hc ih

/-! Operations -/

/-- A session that an operation found before its end was not being ended. -/
def Under : Task → Task → Prop
  | .performing _ before _, .ending _ => before.status = .terminated
  | _, _ => True

/-- What operations found is behind. -/
structure Recalls (p : Position) : Prop where
  rank_le : ∀ a before earlier, .performing a before earlier ∈ p.tasks →
    before.status.rank ≤ p.session.status.rank
  under : p.tasks.Pairwise Under

lemma under_of_ne {t u : Task} (h : ∀ a before earlier, t ≠ .performing a before earlier) :
    Under t u := by
  cases t with
  | performing a before earlier => exact (h _ _ _ rfl).elim
  | _ => trivial

lemma pairwise_owed {ticket : Nat} {m : Fields} {handler : Option Handler}
    (h : K.Pairwise Under) : (Task.owed ticket m handler ++ K).Pairwise Under := by
  cases handler with
  | none => exact h
  | some handler => exact List.pairwise_cons.mpr ⟨fun _ _ => trivial, h⟩

lemma pairwise_due {s : Session} {m : Fields} (h : K.Pairwise Under) : (s.due m ++ K).Pairwise Under := by
  have hunder : ∀ t ∈ s.due m, ∀ u, Under t u := fun t ht u => under_of_ne fun a before earlier he => by
    simp [he] at ht
  refine List.pairwise_append.mpr ⟨?_, h, fun t ht u _ => hunder t ht u⟩
  exact List.pairwise_of_forall_mem_list fun t ht u _ => hunder t ht u

lemma Step.performing_mem (h : Step c id p q) {a : SessionAction} {before : Session}
    {earlier : List Event} (ht : .performing a before earlier ∈ q.tasks) :
    .performing a before earlier ∈ p.tasks ∨ before = p.session := by
  cases h
  case began =>
    rcases List.mem_cons.mp ht with he | ht
    · obtain ⟨-, rfl, -⟩ := Task.performing.inj he
      exact .inr rfl
    · exact .inl ht
  case did => exact .inl (List.mem_cons_of_mem _ ht)
  all_goals exact .inl (by simpa [Task.mem_owed] using ht)

lemma Step.under (h : Step c id p q) (hk : Keeps p) (hp : p.tasks.Pairwise Under) :
    q.tasks.Pairwise Under := by
  have hpush : ∀ {t : Task} {K : List Task}, K.Pairwise Under →
      (∀ a before earlier, t ≠ .performing a before earlier) → (t :: K).Pairwise Under :=
    fun hK ht => List.pairwise_cons.mpr ⟨fun _ _ => under_of_ne ht, hK⟩
  cases h
  case began s es K a idle =>
    refine List.pairwise_cons.mpr ⟨fun u hu => ?_, hp⟩
    cases u with
    | ending last =>
      have hpos : 0 < K.countP isEnding := List.countP_pos_iff.mpr ⟨_, hu, rfl⟩
      have hparted := hk.parted
      change s.status = .terminated
      by_contra hne
      rw [decide_eq_false hne] at hparted
      exact absurd hparted (by simp [Nat.ne_of_gt hpos])
    | _ => trivial
  case resolved => exact pairwise_owed hp
  case turnedDown | welcomed => exact pairwise_owed (hpush (List.pairwise_cons.mp hp).2 (by simp))
  case dispatched | dispatchedError => exact pairwise_due hp
  case left | ended | ticked | fed | entered | hailed | lapsing => exact hpush hp (by simp)
  case parted | saidGoodbye | unheardGoodbye => exact hpush (List.pairwise_cons.mp hp).2 (by simp)
  all_goals first | exact hp | exact (List.pairwise_cons.mp hp).2

lemma Step.recalls (h : Step c id p q) (hk : Keeps p) (hp : Recalls p) : Recalls q where
  rank_le a before earlier ht := by
    rcases Step.performing_mem h ht with ht | rfl
    · exact Nat.le_trans (hp.rank_le a before earlier ht) h.rank_le
    · exact h.rank_le
  under := Step.under h hk hp.under

lemma keeps_blank (config : Fields) (name : Json) : Keeps ⟨.blank config name, [], []⟩ :=
  ⟨rfl, Nat.le_refl 0, rfl, Nat.zero_le _⟩

lemma recalls_blank (config : Fields) (name : Json) : Recalls ⟨.blank config name, [], []⟩ :=
  ⟨fun _ _ _ h => (List.not_mem_nil h).elim, .nil⟩

lemma Steps.recalls (h : Steps c id p q) (hc : ∀ name args, ¬ c.allows (.fireEvent name args))
    (hk : Keeps p) (hp : Recalls p) : Recalls q := by
  induction h with
  | refl => exact hp
  | tail hr h ih => exact Step.recalls h (Steps.keeps hr hc hk) ih

/-- An operation that brought a session to its end is through with it. -/
lemma Recalls.parts_eq_one {a : SessionAction} {before : Session} {earlier : List Event}
    (h : Recalls ⟨s, es, .performing a before earlier :: K⟩)
    (hk : Keeps ⟨s, es, .performing a before earlier :: K⟩) (hb : before.status ≠ .terminated)
    (hs : s.status = .terminated) : es.countP Event.parts = 1 := by
  have hnone : K.countP isEnding = 0 := by
    refine List.countP_eq_zero.mpr fun u hu hending => ?_
    cases u with
    | ending last => exact hb ((List.pairwise_cons.mp h.under).1 _ hu)
    | _ => cases hending
  have hK : (Task.performing a before earlier :: K).countP isEnding = K.countP isEnding :=
    List.countP_cons_of_neg (by simp [isEnding])
  have hparted := hk.parted
  rw [hs, hK, hnone] at hparted
  exact hparted

end Progress

/-- A session went forward only, and passed each milestone once. -/
structure World.GoesForward (w : World) (id : SessionId) : Prop where
  forward : ∀ s es s' es', w.Saw id s es → w.Saw id s' es' → es <:+ es' →
    s.status.rank ≤ s'.status.rank
  within : ∀ a before s es, w.Did id a before s es → before.status.rank ≤ s.status.rank
  launched : (w.story id).countP Event.launches ≤ 1
  closed : (w.story id).countP Event.closes ≤ 1
  declared : declarations (w.story id) ≤ 1
  parted : (w.story id).countP Event.parts ≤ 1
  finished : (w.session id).status = .terminated → (w.story id).countP Event.parts = 1
  ended : ∀ a before s es, w.Did id a before s es → before.status ≠ .terminated →
    s.status = .terminated → es.countP Event.parts = 1

open Progress in
/-- Whatever is done with a session, if it is left to it to tell its listeners. -/
theorem goesForward_of_mem_outcomes {c : Conduct} (hc : ∀ name args, ¬ c.allows (.fireEvent name args))
    {w : World} (hw : w.IsNew) {actions : List Action} (ha : actions.all (c.admits .host))
    {o : Outcome} (ho : o ∈ outcomes w actions) (id : SessionId) : o.world.GoesForward id := by
  have hsteps := steps_of_mem_outcomes hw ha ho id
  have hkeeps := Steps.keeps hsteps hc (keeps_blank _ _)
  have hdid : ∀ {a before s es}, o.world.Did id a before s es → ∃ K earlier,
      Keeps ⟨s, es, .performing a before earlier :: K⟩ ∧
        Recalls ⟨s, es, .performing a before earlier :: K⟩ := fun did => by
    obtain ⟨-, K, earlier, -, hto, -⟩ := (hsteps.passes did).resolve_left (by simp)
    exact ⟨K, earlier, Steps.keeps hto hc (keeps_blank _ _),
      Steps.recalls hto hc (keeps_blank _ _) (recalls_blank _ _)⟩
  have hparted : (o.world.story id).countP Event.parts ≤ 1 := by
    have hle := Nat.le_trans (Nat.le_of_eq hkeeps.parted) (Bool.toNat_le _)
    exact Nat.le_trans (Nat.le_add_right _ _) hle
  exact {
    forward := by
      intro s es s' es' saw saw' hsuffix
      obtain ⟨K, -, hfrom⟩ := exists_position_of_saw hsteps rfl saw
      obtain ⟨K', hto, -⟩ := exists_position_of_suffix hfrom hsuffix saw'
      exact hto.rank_le
    within := by
      intro a before s es did
      obtain ⟨K, earlier, -, hrecalls⟩ := hdid did
      exact hrecalls.rank_le a before earlier List.mem_cons_self
    launched := Nat.le_trans (Nat.le_of_eq hkeeps.launched) (Bool.toNat_le _)
    closed := Nat.le_trans hkeeps.closed hparted
    declared := Nat.le_trans hkeeps.declared (Bool.toNat_le _)
    parted := hparted
    finished := fun hs => by
      have h := hkeeps.parted
      rw [show (o.world.position id []).session.status = .terminated from hs] at h
      exact h
    ended := by
      intro a before s es did hb hs
      obtain ⟨K, earlier, hkeeps, hrecalls⟩ := hdid did
      exact hrecalls.parts_eq_one hkeeps hb hs }

/-- Whatever a client offers, but its events. -/
def Conduct.listening : Conduct where
  host a := !a.isOwn && !(a matches .fireEvent _ _)
  callback a := !a.isOwn && !(a matches .fireEvent _ _)
  hostIsOutside _ h := by
    rw [Bool.and_eq_true] at h
    simpa using h.1
  callbackIsOutside _ h := by
    rw [Bool.and_eq_true] at h
    simpa using h.1

/-- A listener shuts the session down as soon as it is open, and another one starts it over. -/
theorem goesForward_of_mem_outcomes_shutdown :
    let hear := fun label (actions : List Action) => some (Callback.mk label actions (some "no"))
    let actions : List Action :=
      [.session .null (.onEvent "initialized" (hear "opened" [.session .null (.shutdown .null)])),
        .session .null (.onEvent "shutdown" (hear "over" [.session .null .start,
          .session .null (.handshake .null "editor" "1" none), .session .null (.teardown "no" .null)])),
        .session .null (.handshake .null "editor" "1" none), .session .null .tick,
        .link .null (.write [Message.response (.int 1) (.object [])]), .session .null .tick]
    (∀ name args, ¬ Conduct.listening.allows (.fireEvent name args)) ∧
      (World.serving "server").IsNew ∧ actions.all (Conduct.listening.admits .host) ∧
      ∃ o ∈ outcomes (.serving "server") actions, (o.world.session 0).status = .terminated ∧
        (o.world.story 0).countP Event.launches = 1 ∧ (o.world.story 0).countP Event.closes = 1 ∧
        (o.world.story 0).countP Event.parts = 1 ∧ o.world.GoesForward 0 := by
  intro hear actions
  have hc : ∀ name args, ¬ Conduct.listening.allows (.fireEvent name args) := by
    rintro name args (h | h) <;> cases h
  have hw : (World.serving "server").IsNew := World.isNew_serving "server"
  have ha : actions.all (Conduct.listening.admits .host) := by decide
  have hrun : ∃ o ∈ outcomes (.serving "server") actions, (o.world.session 0).status = .terminated ∧
      (o.world.story 0).countP Event.launches = 1 ∧ (o.world.story 0).countP Event.closes = 1 := by
    decide +kernel
  obtain ⟨o, ho, hs, hlaunched, hclosed⟩ := hrun
  have hforward := goesForward_of_mem_outcomes hc hw ha ho 0
  exact ⟨hc, hw, ha, o, ho, hs, hlaunched, hclosed, hforward.finished hs, hforward⟩

end LanguageClient
