import LanguageClient.Proofs.Session.Course
import LanguageClient.Proofs.Steps.Draining

/-!
Steps of the sessions of a world. An action on one session takes it from what it is in the middle of
to something else; other sessions take steps of their own when callbacks turn to them.
-/

namespace LanguageClient

/-- On what a session may be in the middle of when something is done with it: the host begins anew, a
callback has its turn while the session is idle. -/
def Level.Base : Level → List Task → Prop
  | .host, K => K = []
  | .callback, K => Task.AreIdle K

lemma Level.base_nil (ℓ : Level) : ℓ.Base [] := by
  cases ℓ with
  | host => rfl
  | callback => exact Task.areIdle_nil

lemma Level.Base.areIdle {ℓ : Level} {K : List Task} (h : ℓ.Base K) : Task.AreIdle K := by
  cases ℓ with
  | host => exact h ▸ Task.areIdle_nil
  | callback => exact h

/-- What is under way leaves room for a phase of a tick. -/
structure Level.Room (c : Conduct) (ℓ : Level) (a : SessionAction) (L : List Task) : Prop where
  idle : Task.AreIdle L
  free : ∀ K, ℓ.Base K → c.Nests a (L ++ K)

/-- A host that is not called by a session has room for all. -/
lemma Level.room_host (c : Conduct) (a : SessionAction) : Level.host.Room c a [] where
  idle := Task.areIdle_nil
  free _ hK := .inl (.inl hK)

/-- Where there is room for a tick there is room for each of its phases. -/
lemma Level.Room.of_tick {c : Conduct} {ℓ : Level} {L : List Task} (h : ℓ.Room c .tick L)
    (a : SessionAction) : ℓ.Room c a L where
  idle := h.idle
  free K hK := by
    rcases h.free K hK with houter | hcallback | hcallback
    · exact .inl houter
    · exact .inr (.inl hcallback)
    · exact .inr (.inl hcallback)

namespace World

/-- The events that a session took part in, the last first. -/
def story (w : World) (id : SessionId) : List Event := w.events.filter (·.concerns id)

def position (w : World) (id : SessionId) (tasks : List Task) : Position :=
  ⟨w.session id, w.story id, tasks⟩

/-- One session is so now, and all others are as they were. -/
structure Becomes (id : SessionId) (s : Session) (es : List Event) (v w : World) : Prop where
  length : w.sessions.length = v.sessions.length
  running : w.running = v.running
  session : w.session id = s
  story : w.story id = es
  others : ∀ other, other ≠ id → w.session other = v.session other ∧ w.story other = v.story other

/-- No session took part in what happened. -/
structure Alike (v w : World) : Prop where
  sessions : w.sessions = v.sessions
  running : w.running = v.running
  stories : ∀ id, w.story id = v.story id

structure Moves (c : Conduct) (ℓ : Level) (id : SessionId) (L L' : List Task) (v w : World) :
    Prop where
  length : w.sessions.length = v.sessions.length
  running : w.running = v.running
  steps : ∀ K, ℓ.Base K → Steps c id (v.position id (L ++ K)) (w.position id (L' ++ K))
  others : ∀ other, other ≠ id → ∀ K, Task.AreIdle K →
    Steps c other (v.position other K) (w.position other K)

structure Lawful (c : Conduct) (w : World) : Prop where
  sessions : ∀ id, (w.session id).Sound c id (w.story id)
  running : ∀ entry ∈ w.running, entry.2 < w.sessions.length

structure Ready (c : Conduct) (id : SessionId) (w : World) : Prop where
  lawful : w.Lawful c
  lt : id < w.sessions.length

variable {c : Conduct} {ℓ : Level} {id : SessionId} {L M N : List Task} {u v w : World}
  {s : Session} {es : List Event}

lemma Ready.sound (h : w.Ready c id) : (w.session id).Sound c id (w.story id) :=
  h.lawful.sessions id

lemma dealings_story (w : World) (id : SessionId) : dealings id (w.story id) = dealings id w.events := by
  rw [dealings, story, List.filterMap_filter, dealings]
  refine List.filterMap_congr fun e _ => ?_
  cases e with
  | dealt session d | answered session ticket label title response =>
    by_cases h : session = id <;> simp [Event.concerns, Event.dealing?, h]
  | _ => simp [Event.dealing?]

/-! Changes of one session -/

lemma Becomes.lt (h : Becomes id s es v w) (hv : id < v.sessions.length) : id < w.sessions.length :=
  h.length ▸ hv

lemma Becomes.trans {s' : Session} {es' : List Event} (h : Becomes id s es u v)
    (g : Becomes id s' es' v w) : Becomes id s' es' u w where
  length := g.length.trans h.length
  running := g.running.trans h.running
  session := g.session
  story := g.story
  others other ho := ⟨(g.others other ho).1.trans (h.others other ho).1,
    (g.others other ho).2.trans (h.others other ho).2⟩

/-- What becomes of a session alone tells two worlds apart. -/
lemma Becomes.agree (h : Becomes id s es u v) (g : Becomes id s es u w) : Becomes id s es v w where
  length := g.length.trans h.length.symm
  running := g.running.trans h.running.symm
  session := g.session
  story := g.story
  others other ho := ⟨(g.others other ho).1.trans (h.others other ho).1.symm,
    (g.others other ho).2.trans (h.others other ho).2.symm⟩

lemma Alike.becomes (h : Alike v w) : Becomes id (v.session id) (v.story id) v w where
  length := congrArg List.length h.sessions
  running := h.running
  session := by rw [World.session, h.sessions]; rfl
  story := h.stories id
  others other _ := ⟨by rw [World.session, h.sessions]; rfl, h.stories other⟩

lemma Becomes.alike {x : World} (h : Becomes id s es v w) (g : Alike w x) : Becomes id s es v x := by
  obtain ⟨rfl, rfl⟩ := And.intro h.session h.story
  exact h.trans g.becomes

lemma becomes_setSession (h : id < w.sessions.length) (s : Session) :
    Becomes id s (w.story id) w (w.setSession id s) where
  length := List.length_set ..
  running := rfl
  session := session_setSession s h
  story := rfl
  others _ ho := ⟨session_setSession_of_ne s ho, rfl⟩

lemma becomes_record {e : Event} (he : ∀ other, e.concerns other = decide (id = other)) :
    Becomes id (w.session id) (e :: w.story id) w (w.record e) where
  length := rfl
  running := rfl
  session := rfl
  story := by
    have hc : e.concerns id := by simp [he]
    exact List.filter_cons_of_pos hc
  others other ho := by
    have hc : ¬ e.concerns other := by simp [he, Ne.symm ho]
    exact ⟨rfl, List.filter_cons_of_neg hc⟩

lemma Becomes.record (h : Becomes id s es v w) {e : Event}
    (he : ∀ other, e.concerns other = decide (id = other)) :
    Becomes id s (e :: es) v (w.record e) := by
  obtain ⟨rfl, rfl⟩ := And.intro h.session h.story
  exact h.trans (becomes_record he)

lemma becomes_deal (h : id < w.sessions.length) (s : Session) (d : Dealing) :
    Becomes id s (.dealt id d :: w.story id) w ((w.setSession id s).record (.dealt id d)) :=
  (becomes_setSession h s).record fun _ => rfl

lemma alike_record {e : Event} (he : ∀ id, e.concerns id = false) : Alike w (w.record e) where
  sessions := rfl
  running := rfl
  stories id := List.filter_cons_of_neg (by simp [he])

lemma Alike.refl (w : World) : Alike w w := ⟨rfl, rfl, fun _ => rfl⟩

lemma Alike.trans (h : Alike u v) (g : Alike v w) : Alike u w :=
  ⟨g.sessions.trans h.sessions, g.running.trans h.running,
    fun id => (g.stories id).trans (h.stories id)⟩

lemma alike_printed (lines : List Text) (w : World) :
    Alike w (lines.foldl (fun w line => w.record (.printed line)) w) := by
  induction lines generalizing w with
  | nil => exact .refl w
  | cons line lines ih => exact (alike_record fun _ => rfl).trans (ih (w.record (.printed line)))

lemma alike_log (w : World) (source : Source) (level : Json) (text : Text)
    (cause : Option Fault) : Alike w (w.log source level text cause) := by
  unfold log
  cases w.journal with
  | recorder =>
    dsimp only
    split
    next => exact .refl w
    next => exact alike_record fun _ => rfl
  | loggers setup =>
    have h : Alike w { w with journal := .loggers (setup.emit source level text).2 } :=
      ⟨rfl, rfl, fun _ => rfl⟩
    exact h.trans (alike_printed _ _)

/-! Moves -/

lemma Moves.of_becomes (h : Becomes id s es v w)
    (hs : ∀ K, ℓ.Base K → Steps c id (v.position id (L ++ K)) ⟨s, es, M ++ K⟩) :
    Moves c ℓ id L M v w where
  length := h.length
  running := h.running
  steps K hK := by
    rw [show w.position id (M ++ K) = ⟨s, es, M ++ K⟩ by rw [position, h.session, h.story]]
    exact hs K hK
  others other ho K _ := by
    obtain ⟨hse, hst⟩ := h.others other ho
    rw [position, position, hse, hst]

lemma Moves.of_alike (h : Alike v w) : Moves c ℓ id L L v w :=
  .of_becomes h.becomes fun _ _ => .refl

lemma Moves.trans (h : Moves c ℓ id L M u v) (g : Moves c ℓ id M N v w) : Moves c ℓ id L N u w where
  length := g.length.trans h.length
  running := g.running.trans h.running
  steps K hK := (h.steps K hK).trans (g.steps K hK)
  others other ho K hK := (h.others other ho K hK).trans (g.others other ho K hK)

instance : Act.Course (Moves c ℓ id L L) where
  refl w := .of_alike (.refl w)
  trans := Moves.trans

/-- What a callback does with a session, it may do whatever the session is in the middle of. -/
lemma Moves.lift (h : Moves c .callback id [] [] v w) (hL : Task.AreIdle L) :
    Moves c ℓ id L L v w where
  length := h.length
  running := h.running
  steps K hK := h.steps (L ++ K) (hL.append hK.areIdle)
  others := h.others

lemma Moves.below (h : Moves c .callback id L M v w) : Moves c ℓ id L M v w where
  length := h.length
  running := h.running
  steps K hK := h.steps K hK.areIdle
  others := h.others

lemma Moves.under {K : List Task} (h : Moves c .callback id L M v w) (hK : Task.AreIdle K) :
    Moves c ℓ id (L ++ K) (M ++ K) v w where
  length := h.length
  running := h.running
  steps K' hK' := by
    rw [List.append_assoc, List.append_assoc]
    exact h.steps (K ++ K') (hK.append hK'.areIdle)
  others := h.others

lemma Moves.lawful (h : Moves c ℓ id L M v w) (hv : v.Lawful c) : w.Lawful c where
  sessions other := by
    by_cases ho : other = id
    · subst ho
      exact (h.steps [] ℓ.base_nil).sound (hv.sessions other)
    · exact (h.others other ho [] Task.areIdle_nil).sound (hv.sessions other)
  running := by
    rw [h.running, h.length]
    exact hv.running

lemma Moves.ready (h : Moves c ℓ id L M v w) (hv : v.Ready c id) : w.Ready c id :=
  ⟨h.lawful hv.lawful, h.length ▸ hv.lt⟩

lemma Moves.calm (h : Moves c ℓ id L M v w) (hw : Calm id (w.session id) (w.story id)) :
    Calm id (v.session id) (v.story id) :=
  (h.steps [] ℓ.base_nil).calm hw

lemma Moves.config_eq (h : Moves c ℓ id L M v w) : (w.session id).config = (v.session id).config :=
  (h.steps [] ℓ.base_nil).config_eq

lemma Moves.terminated (h : Moves c ℓ id L M v w) (hv : (v.session id).status = .terminated) :
    (w.session id).status = .terminated :=
  (h.steps [] ℓ.base_nil).terminated hv

lemma Moves.isLeaving (h : Moves c ℓ id L M v w) (hv : (v.session id).status = .shuttingDown) :
    (w.session id).status = .shuttingDown ∨ (w.session id).status = .terminated :=
  (h.steps [] ℓ.base_nil).isLeaving hv

lemma Moves.name_eq (h : Moves c ℓ id L M v w) : (w.session id).name = (v.session id).name :=
  (h.steps [] ℓ.base_nil).name_eq

lemma Moves.waitsLess (h : Moves c .callback id L [] v w) (hL : ∀ t ∈ L, t ≠ .phase ∧ t ≠ .reading)
    (hc : c.LeavesPhases) (hs : c.Sends (v.session id).config)
    (calm : Calm id (w.session id) (w.story id)) : (w.session id).WaitsLess (v.session id) := by
  refine (h.steps [.calling] (Task.areIdle_singleton rfl)).waitsLess ⟨?_, ?_, fun K hK => ?_⟩ ?_ hc hs calm
  · exact List.mem_append_right L List.mem_cons_self
  · simpa [position] using fun ht => (hL _ ht).1 rfl
  · have hmem : Task.reading ∈ L ++ [.calling] := hK.subset List.mem_cons_self
    have hread : Task.reading ∈ L := by simpa using hmem
    exact ((hL _ hread).2 rfl).elim
  · simp [position]

instance : Act.Stable (Moves c ℓ id L M) (Ready c id) := ⟨Moves.ready⟩

end World

/-! Actions -/

namespace Act

variable {c : Conduct} {ℓ : Level} {id : SessionId} {L : List Task} {α β : Type} {P : World → Prop}
  {a : Act α}

/-- An action that may be done whatever the session is in the middle of, and leaves it there. -/
abbrev Stays (c : Conduct) (id : SessionId) (L : List Task) (a : Act α) : Prop :=
  Within (World.Moves c .callback id L L) (World.Ready c id) a

lemma Stays.lift (h : Stays c id [] a) (hL : Task.AreIdle L) :
    Within (World.Moves c ℓ id L L) (World.Ready c id) a :=
  ⟨fun w hw => (h.after w hw).lift hL⟩

lemma stays_getSession_bind {f : Session → Act β}
    (hf : ∀ w : World, w.Ready c id → Stays c id L (f (w.session id))) :
    Stays c id L (getSession id >>= f) :=
  within_getSession_bind fun w hw => (hf w hw).mono fun _ hv => hv ▸ hw

lemma stays_updateSession {f : Session → Session}
    (h : ∀ w : World, w.Ready c id → ∀ K,
      Step c id (w.position id (L ++ K)) ⟨f (w.session id), w.story id, L ++ K⟩) :
    Stays c id L (updateSession id f) :=
  ⟨fun w hw => .of_becomes (World.becomes_setSession hw.lt _) fun K _ => .single (h w hw K)⟩

lemma within_alike (h : ∀ w, World.Alike w (a.after w)) : Within (World.Moves c ℓ id L L) P a :=
  ⟨fun w _ => .of_alike (h w)⟩

/-- An action that is done in any case, and in which no session takes part. -/
structure IsRemark (a : Act Unit) : Prop where
  run : ∀ w, ∃ v, a.run w = (.ok (), v) ∧ World.Alike w v

lemma isRemark_pure : IsRemark (pure ()) := ⟨fun w => ⟨w, rfl, .refl w⟩⟩

lemma isRemark_logAt (source : Source) (level : Json) (text : Text) :
    IsRemark (logAt source level text) :=
  ⟨fun w => ⟨_, rfl, World.alike_log w source level text none⟩⟩

lemma isRemark_log (source : Source) (level : Int) (text : Text) :
    IsRemark (log source level text) :=
  isRemark_logAt source (.int level) text

lemma isRemark_logFault (source : Source) (text : Text) (cause : Fault) :
    IsRemark (logFault source text cause) :=
  ⟨fun w => ⟨_, rfl, World.alike_log w source (.int Level.error) text (some cause)⟩⟩

lemma IsRemark.within {a : Act Unit} (h : IsRemark a) : Within (World.Moves c ℓ id L L) P a :=
  within_alike fun w => by
    obtain ⟨v, hr, hv⟩ := h.run w
    rw [after, hr]
    exact hv

lemma IsRemark.andThen {a b : Act Unit} (ha : IsRemark a) (hb : IsRemark b) :
    IsRemark (a >>= fun _ => b) := by
  refine ⟨fun w => ?_⟩
  obtain ⟨u, hru, hu⟩ := ha.run w
  obtain ⟨v, hrv, hv⟩ := hb.run u
  exact ⟨v, by rw [run_bind, hru]; exact hrv, hu.trans hv⟩

lemma IsRemark.bind {a : Act Unit} (ha : IsRemark a) {f : Unit → Act β} {w : World}
    {Q : Except Fault β → World → Prop} (hf : ∀ v, World.Alike w v → Ends (f ()) v Q) :
    Ends (a >>= f) w Q := by
  obtain ⟨v, hr, hv⟩ := ha.run w
  refine Ends.bind ?_
  rw [Ends, hr]
  exact hf v hv

section

variable {w : World} {Q : Except Fault β → World → Prop} {f : Unit → Act β}

lemma ends_update {g : Session → Session} (hw : id < w.sessions.length)
    (h : ∀ v, World.Becomes id (g (w.session id)) (w.story id) w v → Ends (f ()) v Q) :
    Ends (updateSession id g >>= f) w Q :=
  ends_update_bind (h _ (World.becomes_setSession hw _))

lemma ends_updateSession {Q : Except Fault Unit → World → Prop} {g : Session → Session}
    (hw : id < w.sessions.length)
    (h : ∀ v, World.Becomes id (g (w.session id)) (w.story id) w v → Q (.ok ()) v) :
    Ends (updateSession id g) w Q :=
  h _ (World.becomes_setSession hw _)

lemma ends_deal {d : Dealing} {g : Session → Session} (hw : id < w.sessions.length)
    (h : ∀ v, World.Becomes id (g (w.session id)) (.dealt id d :: w.story id) w v →
      Ends (f ()) v Q) : Ends (deal id d g >>= f) w Q :=
  ends_deal_bind (h _ (World.becomes_deal hw _ d))

lemma ends_note {n : Note}
    (h : ∀ v, World.Becomes id (w.session id) (.noted id n :: w.story id) w v → Ends (f ()) v Q) :
    Ends (note id n >>= f) w Q :=
  ends_record_bind (h _ (World.becomes_record fun _ => rfl))

end

end Act

end LanguageClient
