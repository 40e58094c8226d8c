import LanguageClient.Proofs.Steps.Runs

/-!
Tending. Whatever is done, and whatever callbacks do meanwhile, no link is lost sight of: a session with
an open link is among the running ones or is on its way out, and one that was on its way out is through.
-/

namespace LanguageClient

open Act World

/-- Whether a session has a link that is not closed. -/
def Session.isLinked (s : Session) : Bool := s.link.any fun l => !l.closed

/-- Whether a session has a link that is closed. -/
def Session.isShut (s : Session) : Bool := s.link.any (·.closed)

/-- Whether a link is opened or closed. -/
def Event.movesLink : Event → Bool
  | .launched _ _ | .closed _ _ _ => true
  | _ => false

/-- The links that are open after some events, each with the name its server was launched under. -/
def openLinks : List Event → List (SessionId × Json)
  | [] => []
  | .launched id server :: earlier => (id, server) :: openLinks earlier
  | .closed id _ _ :: earlier => (openLinks earlier).filter (·.1 ≠ id)
  | _ :: earlier => openLinks earlier

/-- What becomes of a session in any case. -/
structure Session.Endures (s t : Session) : Prop where
  name : t.name = s.name
  linked : s.link.isSome → t.link.isSome
  shut : s.isShut → t.isShut
  leaving : s.status.isLeaving → t.status.isLeaving
  begun : s.status ≠ .uninitialized → t.status ≠ .uninitialized
  lastId : s.correlator.lastId ≤ t.correlator.lastId

/-- What becomes of a session whose link is not opened or closed, and that does not turn to its end. -/
structure Session.Lingers (s t : Session) : Prop where
  name : t.name = s.name
  link : t.link.map Link.closed = s.link.map Link.closed
  leaving : t.status.isLeaving = s.status.isLeaving
  ended : t.status = .terminated → s.status = .terminated
  begun : s.status ≠ .uninitialized → t.status ≠ .uninitialized
  lastId : s.correlator.lastId ≤ t.correlator.lastId

/-- A session that runs under a name. -/
structure Session.RunsAs (name : Json) (s : Session) : Prop where
  name : name.key? = s.name.key?
  linked : s.link.isSome
  begun : s.status ≠ .uninitialized

namespace World

/-- No session ran out of numbers for its requests. -/
def HasNumbers (w : World) : Prop := ∀ id, (w.session id).correlator.lastId < numberLimit

/-- A session with an open link that is neither running nor on its way out, though no session ran out of
numbers. -/
structure Forgets (w : World) (id : SessionId) : Prop where
  few : w.HasNumbers
  linked : (w.session id).isLinked
  live : (w.session id).status.isLeaving = false
  absent : ∀ entry ∈ w.running, entry.2 ≠ id

/-- A session on its way out whose link is still open, though it did not run out of numbers. -/
structure Strands (w : World) (id : SessionId) : Prop where
  linked : (w.session id).isLinked
  leaving : (w.session id).status.isLeaving
  few : (w.session id).correlator.lastId < numberLimit

/-- Servers are filed under their names, and so are the running sessions, each under one of its own. -/
structure IsTidy (w : World) : Prop where
  servers : ∀ entry ∈ w.servers, entry.1.key? = (entry.2.getD "name" .null).key?
  sessions : ∀ entry ∈ w.running, entry.2 < w.sessions.length ∧ (w.session entry.2).RunsAs entry.1
  names : (w.running.map (·.1.key?)).Nodup

/-- No more came of something than a few words. -/
structure SaysMore (v w : World) : Prop where
  sessions : w.sessions = v.sessions
  running : w.running = v.running
  servers : w.servers = v.servers
  events : Adds (!·.movesLink) v.events w.events

/-- Each link that is open after what happened is that of a session of its name. -/
def Accounts (w : World) : Prop :=
  ∀ link ∈ openLinks w.events, (w.session link.1).isLinked ∧ link.2 = (w.session link.1).name

/-- A link that was opened from one world to another is that of a new session. -/
structure Opens (v w : World) (id : SessionId) (name : Json) : Prop where
  new : v.sessions.length ≤ id
  lt : id < w.sessions.length
  linked : (w.session id).link.isSome
  name : name = (w.session id).name

/-- Every session endures. None is forgotten or stranded that was not so before, and what is running was
running before or is a new session whose server was launched. -/
structure Tends (v w : World) : Prop where
  length : v.sessions.length ≤ w.sessions.length
  endures : ∀ id < v.sessions.length, (v.session id).Endures (w.session id)
  forgets : ∀ id, w.Forgets id → v.Forgets id
  strands : ∀ id, w.Strands id → v.Strands id ∧
    ((w.session id).status = .terminated → (v.session id).status = .terminated)
  running : ∀ entry ∈ w.running, entry ∈ v.running ∨
    v.sessions.length ≤ entry.2 ∧ ∃ name, .launched entry.2 name ∈ w.events
  tidy : v.IsTidy → w.IsTidy
  accounts : v.Accounts → w.Accounts
  adds : ∃ new, w.events = new ++ v.events ∧ ∀ id name, .launched id name ∈ new → v.Opens w id name
  shut : ∀ id, (w.session id).isShut → (v.session id).isShut ∨
    ∃ name timeout, .closed id name timeout ∈ w.events

end World

/-! Events -/

section

variable {es es' : List Event}

lemma openLinks_of_adds (h : Adds (!·.movesLink) es es') : openLinks es' = openLinks es := by
  obtain ⟨new, rfl, hnew⟩ := h
  induction new with
  | nil => rfl
  | cons e new ih =>
    rw [List.forall_mem_cons] at hnew
    rw [List.cons_append, ← ih hnew.2]
    cases e <;> first | rfl | cases hnew.1

lemma exists_append_of_adds (h : Adds (!·.movesLink) es es') :
    ∃ new, es' = new ++ es ∧ ∀ id name, .launched id name ∉ new := by
  obtain ⟨new, rfl, hnew⟩ := h
  exact ⟨new, rfl, fun id name hl => by cases hnew _ hl⟩

end

/-! Sessions -/

namespace Session

variable {s t u : Session}

lemma isLinked_eq (h : t.link.map Link.closed = s.link.map Link.closed) : t.isLinked = s.isLinked := by
  have hany : ∀ u : Session, u.isLinked = (u.link.map Link.closed).any (!·) := fun u => by
    rw [Option.any_map]
    rfl
  rw [hany, hany, h]

lemma isShut_eq (h : t.link.map Link.closed = s.link.map Link.closed) : t.isShut = s.isShut := by
  have hany : ∀ u : Session, u.isShut = (u.link.map Link.closed).any id := fun u => by
    rw [Option.any_map]
    rfl
  rw [hany, hany, h]

lemma isLinked_or_isShut (h : s.link.isSome) : s.isLinked ∨ s.isShut := by
  obtain ⟨l, hl⟩ := Option.isSome_iff_exists.mp h
  rw [isLinked, isShut, hl]
  cases hc : l.closed <;> simp [hc]

lemma isLinked_eq_false (h : s.isShut) : s.isLinked = false := by
  rw [isShut] at h
  obtain ⟨l, hl, hc⟩ := (Option.any_eq_true _ _).mp h
  rw [isLinked, hl, Option.any_some, hc]
  rfl

lemma Endures.refl (s : Session) : s.Endures s :=
  ⟨rfl, fun h => h, fun h => h, fun h => h, fun h => h, Nat.le_refl _⟩

lemma Endures.trans (h : s.Endures t) (g : t.Endures u) : s.Endures u where
  name := g.name.trans h.name
  linked hs := g.linked (h.linked hs)
  shut hs := g.shut (h.shut hs)
  leaving hs := g.leaving (h.leaving hs)
  begun hs := g.begun (h.begun hs)
  lastId := Nat.le_trans h.lastId g.lastId

lemma Endures.runsAs {name : Json} (h : s.Endures t) (hs : s.RunsAs name) : t.RunsAs name where
  name := h.name ▸ hs.name
  linked := h.linked hs.linked
  begun := h.begun hs.begun

lemma Lingers.of_eq (h : (t.name, t.link, t.status, t.correlator.lastId) =
    (s.name, s.link, s.status, s.correlator.lastId)) : s.Lingers t := by
  rw [Prod.mk.injEq, Prod.mk.injEq, Prod.mk.injEq] at h
  obtain ⟨hname, hlink, hstatus, hlast⟩ := h
  exact ⟨hname, by rw [hlink], by rw [hstatus], fun ht => hstatus ▸ ht, fun hs => hstatus ▸ hs,
    Nat.le_of_eq hlast.symm⟩

lemma Lingers.refl (s : Session) : s.Lingers s := .of_eq rfl

lemma Lingers.endures (h : s.Lingers t) : s.Endures t where
  name := h.name
  linked hs := by
    have hmap := congrArg Option.isSome h.link
    rw [Option.isSome_map, Option.isSome_map] at hmap
    exact hmap ▸ hs
  shut hs := isShut_eq h.link ▸ hs
  leaving hs := h.leaving ▸ hs
  begun := h.begun
  lastId := h.lastId

end Session

/-! Worlds -/

namespace World

variable {u v w : World} {id : SessionId}

lemma HasNumbers.of_le (h : w.HasNumbers)
    (hle : ∀ id, (v.session id).correlator.lastId ≤ (w.session id).correlator.lastId) : v.HasNumbers :=
  fun id => Nat.lt_of_le_of_lt (hle id) (h id)

lemma Tends.refl (w : World) : w.Tends w where
  length := Nat.le_refl _
  endures _ _ := .refl _
  forgets _ h := h
  strands _ h := ⟨h, fun ht => ht⟩
  running _ h := .inl h
  tidy h := h
  accounts h := h
  adds := ⟨[], rfl, by simp⟩
  shut _ h := .inl h

lemma Tends.events (h : v.Tends w) : v.events <:+ w.events := by
  obtain ⟨new, hnew, -⟩ := h.adds
  exact hnew ▸ List.suffix_append _ _

lemma Tends.launched {name : Json} (h : v.Tends w) (hl : .launched id name ∈ w.events) :
    .launched id name ∈ v.events ∨ v.Opens w id name := by
  obtain ⟨new, hnew, hopens⟩ := h.adds
  rw [hnew] at hl
  exact (List.mem_append.mp hl).symm.imp_right (hopens id name)

lemma Opens.before {name : Json} (h : v.Opens w id name) (hle : u.sessions.length ≤ v.sessions.length) :
    u.Opens w id name :=
  ⟨Nat.le_trans hle h.new, h.lt, h.linked, h.name⟩

lemma Opens.endures {name : Json} (h : u.Opens v id name) (hle : v.sessions.length ≤ w.sessions.length)
    (hs : (v.session id).Endures (w.session id)) : u.Opens w id name :=
  ⟨h.new, Nat.lt_of_lt_of_le h.lt hle, hs.linked h.linked, h.name.trans hs.name.symm⟩

lemma Tends.trans (h : u.Tends v) (g : v.Tends w) : u.Tends w where
  length := Nat.le_trans h.length g.length
  endures id hid := (h.endures id hid).trans (g.endures id (Nat.lt_of_lt_of_le hid h.length))
  forgets id hid := h.forgets id (g.forgets id hid)
  strands id hid := by
    obtain ⟨hv, hw⟩ := g.strands id hid
    exact ⟨(h.strands id hv).1, fun ht => (h.strands id hv).2 (hw ht)⟩
  running entry he := by
    rcases g.running entry he with he | ⟨hlt, hlaunched⟩
    · refine (h.running entry he).imp_right fun ⟨hlt, name, hname⟩ => ⟨hlt, name, ?_⟩
      exact g.events.subset hname
    · exact .inr ⟨Nat.le_trans h.length hlt, hlaunched⟩
  tidy hu := g.tidy (h.tidy hu)
  accounts hu := g.accounts (h.accounts hu)
  adds := by
    obtain ⟨new, hnew, hopens⟩ := h.adds
    obtain ⟨new', hnew', hopens'⟩ := g.adds
    refine ⟨new' ++ new, by rw [hnew', hnew, List.append_assoc], fun id name hl => ?_⟩
    rcases List.mem_append.mp hl with hl | hl
    · exact (hopens' id name hl).before h.length
    · have hv := hopens id name hl
      exact hv.endures g.length (g.endures id hv.lt)
  shut id hs := by
    rcases g.shut id hs with hs | hc
    · exact (h.shut id hs).imp_right fun ⟨name, timeout, hc⟩ => ⟨name, timeout, g.events.subset hc⟩
    · exact .inr hc

instance : Act.Course Tends := ⟨.refl, .trans⟩

instance : Act.Stable Tends IsTidy := ⟨fun h => h.tidy⟩

lemma IsTidy.of_eq (h : v.IsTidy) (hl : w.sessions.length = v.sessions.length)
    (he : ∀ id < v.sessions.length, (v.session id).Endures (w.session id))
    (hr : w.running.Sublist v.running) (hs : w.servers = v.servers) : w.IsTidy where
  servers := hs ▸ h.servers
  sessions entry hentry := by
    obtain ⟨hlt, hruns⟩ := h.sessions entry (hr.subset hentry)
    exact ⟨hl ▸ hlt, (he _ hlt).runsAs hruns⟩
  names := (hr.map _).nodup h.names

lemma Accounts.of_adds (h : v.Accounts) (he : Adds (!·.movesLink) v.events w.events)
    (hlink : ∀ id, (w.session id).link.map Link.closed = (v.session id).link.map Link.closed)
    (hname : ∀ id, (w.session id).name = (v.session id).name) : w.Accounts := by
  intro link hl
  rw [openLinks_of_adds he] at hl
  rw [Session.isLinked_eq (hlink _), hname]
  exact h link hl

lemma Tends.of_lingers (hs : ∀ id, (v.session id).Lingers (w.session id))
    (hl : w.sessions.length = v.sessions.length) (hr : w.running = v.running)
    (hservers : w.servers = v.servers) (he : Adds (!·.movesLink) v.events w.events) : v.Tends w where
  length := Nat.le_of_eq hl.symm
  endures id _ := (hs id).endures
  forgets id h := by
    refine ⟨h.few.of_le fun id => (hs id).lastId, Session.isLinked_eq (hs id).link ▸ h.linked,
      (hs id).leaving ▸ h.live, ?_⟩
    exact hr ▸ h.absent
  strands id h := by
    refine ⟨⟨Session.isLinked_eq (hs id).link ▸ h.linked, (hs id).leaving ▸ h.leaving, ?_⟩,
      (hs id).ended⟩
    exact Nat.lt_of_le_of_lt (hs id).lastId h.few
  running entry h := .inl (hr ▸ h)
  tidy h := h.of_eq hl (fun id _ => (hs id).endures) (hr ▸ List.Sublist.refl _) hservers
  accounts h := h.of_adds he (fun id => (hs id).link) fun id => (hs id).name
  adds := by
    obtain ⟨new, hnew, hnone⟩ := exists_append_of_adds he
    exact ⟨new, hnew, fun id name hl => (hnone id name hl).elim⟩
  shut id h := .inl (Session.isShut_eq (hs id).link ▸ h)

lemma SaysMore.tends (h : v.SaysMore w) : v.Tends w := by
  refine .of_lingers (fun id => ?_) (congrArg _ h.sessions) h.running h.servers h.events
  rw [session, session, h.sessions]
  exact .refl _

/-- A change of a session that is not there changes nothing. -/
lemma session_setSession_or (w : World) (id other : SessionId) (s : Session) :
    (w.setSession id s).session other = w.session other ∨
      other = id ∧ (w.setSession id s).session other = s := by
  by_cases ho : other = id
  · subst ho
    by_cases hlt : other < w.sessions.length
    · exact .inr ⟨rfl, session_setSession s hlt⟩
    · refine .inl ?_
      rw [setSession, List.set_eq_of_length_le (Nat.le_of_not_lt hlt)]
  · exact .inl (session_setSession_of_ne s ho)

lemma tends_setSession {s : Session} (h : (w.session id).Lingers s) : w.Tends (w.setSession id s) := by
  refine .of_lingers (fun other => ?_) (List.length_set ..) rfl rfl (.refl _)
  rcases session_setSession_or w id other s with hs | ⟨rfl, hs⟩
  · rw [hs]
    exact .refl _
  · rw [hs]
    exact h

lemma SaysMore.refl (w : World) : w.SaysMore w := ⟨rfl, rfl, rfl, .refl _⟩

lemma SaysMore.trans (h : u.SaysMore v) (g : v.SaysMore w) : u.SaysMore w :=
  ⟨g.sessions.trans h.sessions, g.running.trans h.running, g.servers.trans h.servers,
    h.events.trans g.events⟩

lemma saysMore_record {e : Event} (h : e.movesLink = false) : w.SaysMore (w.record e) :=
  ⟨rfl, rfl, rfl, .single (by rw [h]; rfl)⟩

lemma saysMore_log (w : World) (source : Source) (level : Json) (text : Text) (cause : Option Fault) :
    w.SaysMore (w.log source level text cause) := by
  unfold log
  cases w.journal with
  | recorder =>
    dsimp only
    split
    next => exact .refl w
    next => exact saysMore_record rfl
  | loggers setup =>
    have hprinted : ∀ (lines : List Text) (w : World),
        w.SaysMore (lines.foldl (fun w line => w.record (.printed line)) w) := fun lines => by
      induction lines with
      | nil => exact .refl
      | cons line lines ih => exact fun w => (saysMore_record rfl).trans (ih _)
    refine SaysMore.trans ?_ (hprinted _ _)
    exact ⟨rfl, rfl, rfl, .refl _⟩

/-- A session is being taken care of: it may be altered if in the end it is neither forgotten nor
stranded. -/
lemma Tends.of_care (hs : (v.session id).Endures (u.session id))
    (hlink : (u.session id).link = (v.session id).link)
    (hothers : ∀ other, other ≠ id → u.session other = v.session other)
    (hl : u.sessions.length = v.sessions.length) (hr : u.running = v.running)
    (hservers : u.servers = v.servers) (he : Adds (!·.movesLink) v.events u.events) (h : u.Tends w)
    (hforgets : ¬ w.Forgets id) (hstrands : ¬ w.Strands id) : v.Tends w := by
  have hends : ∀ other, (v.session other).Endures (u.session other) ∧
      (u.session other).link = (v.session other).link := fun other => by
    by_cases ho : other = id
    · exact ho ▸ ⟨hs, hlink⟩
    · rw [hothers other ho]
      exact ⟨.refl _, rfl⟩
  obtain ⟨before, hbefore, hnone⟩ := exists_append_of_adds he
  exact {
    length := hl ▸ h.length
    endures := fun other hlt => (hends other).1.trans (h.endures other (hl ▸ hlt))
    forgets := fun other hother => by
      have ho : other ≠ id := fun ho => hforgets (ho ▸ hother)
      obtain ⟨hfew, hlinked, hlive, habsent⟩ := h.forgets other hother
      rw [hothers other ho] at hlinked hlive
      exact ⟨hfew.of_le fun id => (hends id).1.lastId, hlinked, hlive, hr ▸ habsent⟩
    strands := fun other hother => by
      have ho : other ≠ id := fun ho => hstrands (ho ▸ hother)
      have hstrands := h.strands other hother
      obtain ⟨⟨hlinked, hleaving, hfew⟩, hended⟩ := hstrands
      rw [hothers other ho] at hlinked hleaving hfew hended
      exact ⟨⟨hlinked, hleaving, hfew⟩, hended⟩
    running := fun entry hentry => by
      rw [← hr, ← hl]
      exact h.running entry hentry
    tidy := fun htidy =>
      h.tidy (htidy.of_eq hl (fun id _ => (hends id).1) (hr ▸ List.Sublist.refl _) hservers)
    accounts := fun hv => h.accounts <|
      hv.of_adds he (fun id => by rw [(hends id).2]) fun id => (hends id).1.name
    adds := by
      obtain ⟨new, hnew, hopens⟩ := h.adds
      refine ⟨new ++ before, by rw [hnew, hbefore, List.append_assoc], fun other name hother => ?_⟩
      rcases List.mem_append.mp hother with hother | hother
      · exact (hopens other name hother).before (Nat.le_of_eq hl.symm)
      · exact (hnone other name hother).elim
    shut := fun other hother => by
      refine (h.shut other hother).imp_left fun hother => ?_
      rwa [← Session.isShut_eq (congrArg (Option.map Link.closed) (hends other).2)] }

end World

/-! Actions -/

namespace Act

variable {α β : Type} {id : SessionId}

/-- An action that tends the links of a tidy world. -/
abbrev Tended (a : Act α) : Prop := Within Tends IsTidy a

lemma tended_get_bind {f : World → Act β} (hf : ∀ w : World, w.IsTidy → Tended (f w)) :
    Tended (get >>= f) :=
  within_get_bind fun w hw => (hf w hw).mono fun _ hv => hv ▸ hw

lemma tended_getSession_bind {f : Session → Act β} (hf : ∀ s, Tended (f s)) :
    Tended (getSession id >>= f) :=
  within_getSession_bind fun w hw => (hf (w.session id)).mono fun _ hv => hv ▸ hw

lemma tended_ask {f : Session → Answer} : Tended (do return f (← getSession id)) :=
  tended_getSession_bind fun _ => within_pure _

lemma Tended.answers {a : Act α} {f : α → Answer} (h : Tended a) : Tended (do return f (← a)) :=
  h.bind fun _ => within_pure _

lemma tended_record {e : Event} (h : e.movesLink = false) : Tended (record e) :=
  ⟨fun _ _ => (saysMore_record h).tends⟩

lemma tended_note (n : Note) : Tended (note id n) := tended_record rfl

lemma tended_askHost {e : Event} (h : e.movesLink = false) : Tended (askHost id e) :=
  (tended_note _).bind fun _ => tended_record h

lemma tended_logAt (source : Source) (level : Json) (text : Text) : Tended (logAt source level text) :=
  ⟨fun w _ => (saysMore_log w source level text none).tends⟩

lemma tended_log (source : Source) (level : Int) (text : Text) : Tended (log source level text) :=
  tended_logAt source (.int level) text

lemma tended_logFault (source : Source) (text : Text) (cause : Fault) :
    Tended (logFault source text cause) :=
  ⟨fun w _ => (saysMore_log w source (.int Level.error) text (some cause)).tends⟩

lemma tended_logs (source : Source) (level : Int) (lines : List Text) :
    Tended (lines.forM fun line => log source level line) := by
  induction lines with
  | nil => exact within_pure ()
  | cons line lines ih => exact (tended_log source level line).bind fun _ => ih

lemma tended_updateSession {f : Session → Session} (h : ∀ s : Session, s.Lingers (f s)) :
    Tended (updateSession id f) :=
  ⟨fun w _ => tends_setSession (h (w.session id))⟩

lemma tended_deal {f : Session → Session} (d : Dealing) (h : ∀ s : Session, s.Lingers (f s)) :
    Tended (deal id d f) :=
  ⟨fun w _ => (tends_setSession (h (w.session id))).trans (saysMore_record rfl).tends⟩

/-- A change of what is no concern of the links. -/
lemma tended_modify {f : World → World} (hs : ∀ w, (f w).sessions = w.sessions)
    (hr : ∀ w, (f w).running = w.running) (hservers : ∀ w, (f w).servers = w.servers)
    (he : ∀ w, (f w).events = w.events) : Tended (modify f) :=
  within_modify fun w _ => SaysMore.tends ⟨hs w, hr w, hservers w, he w ▸ .refl _⟩

end Act

/-! Sending -/

namespace Session

open Act

variable {id : SessionId}

lemma tended_accept (item : Deferred) {f : Session → Session} (h : ∀ s : Session, s.Lingers (f s)) :
    Tended (accept id item f) := by
  unfold accept
  cases item with
  | inl n => exact tended_updateSession h
  | inr r => exact tended_deal _ fun s => ⟨(h s).name, (h s).link, (h s).leaving, (h s).ended, (h s).begun, (h s).lastId⟩

lemma lingers_queue (s : Session) (item : Deferred) : s.Lingers (s.queue item) := by
  cases item <;> exact .of_eq rfl

lemma tended_put (item : Deferred) (method : Json) : Tended (put id item method) := by
  refine tended_getSession_bind fun s => ?_
  have hqueue : Tended (do
      note id (.queued item)
      accept id item fun s => s.queue item
      return true) :=
    (tended_note _).bind fun _ => (tended_accept item (lingers_queue · item)).bind fun _ => within_pure _
  dsimp only
  split
  next => exact (tended_log _ _ _).bind fun _ => within_pure _
  next =>
    split
    next =>
      refine within_check_bind fun lifecycle _ => ?_
      split
      next =>
        refine (tended_log _ _ _).bind fun _ => (tended_note _).bind fun _ => ?_
        exact (tended_accept item fun s => .of_eq (by rfl)).bind fun _ => within_pure _
      next => exact hqueue
    next => exact hqueue

lemma tended_pushNotification (method params : Json) : Tended (pushNotification id method params) :=
  tended_put _ _

lemma tended_pushRequest (method params : Json) (handler : Option Handler) (timeout : Json) :
    Tended (pushRequest id method params handler timeout) :=
  tended_getSession_bind fun _ => tended_put _ _

lemma tended_openDocument (params : Json) : Tended (openDocument id params) := by
  refine within_check_bind fun uri _ => within_check_bind fun key _ => tended_getSession_bind fun s => ?_
  split
  next =>
    refine (tended_pushNotification _ _).bind fun accepted => ?_
    split
    next => exact tended_updateSession fun s => .of_eq (by rfl)
    next => exact within_pure ()
  next => exact within_pure ()

lemma tended_closeDocument (params : Json) : Tended (closeDocument id params) := by
  refine within_check_bind fun key _ => tended_getSession_bind fun s => ?_
  split
  next =>
    exact (tended_pushNotification _ _).bind fun _ => tended_updateSession fun s => .of_eq (by rfl)
  next => exact within_pure ()

lemma tended_changeDocument (params : Json) : Tended (changeDocument id params) := by
  refine within_check_bind fun key _ => tended_getSession_bind fun s => ?_
  split
  next => exact (tended_pushNotification _ _).bind fun _ => within_pure ()
  next => exact within_pure ()

lemma tended_complete (params : Json) (handler : Option Handler) : Tended (complete id params handler) :=
  (tended_pushRequest _ _ _ _).bind fun _ => within_pure ()

lemma tended_goTo (method params : Json) (handler : Option Handler) :
    Tended (goTo id method params handler) :=
  (tended_pushRequest _ _ _ _).bind fun _ => within_pure ()

lemma tended_logTraffic (s : Session) (direction : Text) (message : Json) :
    Tended (logTraffic s direction message) := by
  refine tended_get_bind fun w _ => ?_
  split
  next => exact tended_log _ _ _
  next => exact within_pure ()

lemma tended_write (message : Json) : Tended (write id message) := by
  refine tended_getSession_bind fun s => ?_
  split
  next => exact (tended_note _).bind fun _ => within_throw _
  next =>
    refine within_check_bind fun m _ => (tended_logTraffic _ _ _).bind fun _ => within_check_bind fun _ _ => ?_
    split
    next => exact tended_record rfl
    next => exact (tended_note _).bind fun _ => within_throw _

lemma tended_writeOrLog (message : Json) (complaint : Text) : Tended (writeOrLog id message complaint) := by
  refine (tended_write message).attempt.bind fun result => ?_
  cases result with
  | ok _ => exact within_pure _
  | error f =>
    dsimp only
    split
    next => exact tended_getSession_bind fun s => (tended_log _ _ _).bind fun _ => within_pure _
    next => exact within_throw _

lemma tended_sendNotificationsUpTo (fuel sent : Nat) : Tended (sendNotificationsUpTo id fuel sent) := by
  induction fuel generalizing sent with
  | zero => exact within_pure _
  | succ fuel ih =>
    refine tended_getSession_bind fun s => ?_
    split
    next => exact within_pure _
    next =>
      refine (tended_updateSession fun s => .of_eq (by rfl)).bind fun _ => ?_
      exact (tended_writeOrLog _ _).bind fun written => ih _

lemma lingers_advance (s : Session) : s.Lingers { s with correlator := s.correlator.advance } :=
  ⟨rfl, rfl, rfl, fun h => h, fun h => h, Nat.le_succ _⟩

lemma tended_sendRequest (r : OutgoingRequest) : Tended (sendRequest id r) := by
  refine (tended_updateSession lingers_advance).bind fun _ => tended_get_bind fun w _ => ?_
  refine within_check_bind fun p _ => (tended_deal _ fun s => ?_).bind fun _ => tended_writeOrLog _ _
  exact .of_eq rfl

lemma tended_sendRequestsUpTo (fuel sent : Nat) : Tended (sendRequestsUpTo id fuel sent) := by
  induction fuel generalizing sent with
  | zero => exact within_pure _
  | succ fuel ih =>
    refine tended_getSession_bind fun s => ?_
    split
    next => exact within_pure _
    next =>
      refine (tended_updateSession fun s => .of_eq (by rfl)).bind fun _ => ?_
      exact (tended_sendRequest _).bind fun written => ih _

lemma tended_sendNotifications : Tended (sendNotifications id) :=
  tended_getSession_bind fun _ => tended_sendNotificationsUpTo _ _

lemma tended_sendRequests : Tended (sendRequests id) :=
  tended_getSession_bind fun _ => tended_sendRequestsUpTo _ _

end Session

end LanguageClient
