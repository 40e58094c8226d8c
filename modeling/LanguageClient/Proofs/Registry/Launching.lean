import LanguageClient.Proofs.Registry.Closing
import LanguageClient.Proofs.Uri.RoundTrip

/-!
Launching. A session that is started has its link and runs, or it has none; no link is left over by a
start that fails halfway.
-/

namespace LanguageClient

open Act World

namespace World

/-- The server of a session was launched, and the session is so now. -/
structure Launches (id : SessionId) (s : Session) (v w : World) : Prop where
  sessions : w.sessions = v.sessions.set id s
  running : w.running = v.running
  servers : w.servers = v.servers
  events : ∃ es, Adds (!·.movesLink) v.events es ∧
    Adds (!·.movesLink) (.launched id (v.session id).name :: es) w.events

/-- A server was started under a name, or not. -/
inductive Starts (name : Json) (v w : World) : Prop
  | failed (sessions : w.sessions = v.sessions ∨ ∃ s : Session, s.link = none ∧ w.sessions = v.sessions ++ [s])
    (running : w.running = v.running) (servers : w.servers = v.servers)
    (events : Adds (!·.movesLink) v.events w.events)
  | started (s : Session) (es : List Event) (named : name.key? = s.name.key?) (linked : s.link = some {})
    (status : s.status = .initializing) (sessions : w.sessions = v.sessions ++ [s])
    (running : w.running = v.running ++ [(name, v.sessions.length)]) (servers : w.servers = v.servers)
    (before : Adds (!·.movesLink) v.events es)
    (after : Adds (!·.movesLink) (.launched v.sessions.length s.name :: es) w.events)

section

variable {u v w : World} {id : SessionId} {s : Session}

lemma Launches.session_eq (h : Launches id s v w) (hid : id < v.sessions.length) : w.session id = s := by
  rw [session, h.sessions]
  exact session_setSession s hid

lemma Launches.remark (h : Launches id s u v) (g : v.SaysMore w) : Launches id s u w where
  sessions := g.sessions.trans h.sessions
  running := g.running.trans h.running
  servers := g.servers.trans h.servers
  events := h.events.imp fun _ ⟨hbefore, hafter⟩ => ⟨hbefore, hafter.trans g.events⟩

lemma Launches.update (h : Launches id s v w) (t : Session) : Launches id t v (w.setSession id t) where
  sessions := by rw [setSession, h.sessions, List.set_set]
  running := h.running
  servers := h.servers
  events := h.events

lemma launches_record (w : World) (id : SessionId) (s : Session) :
    Launches id s w ((w.record (.launched id (w.session id).name)).setSession id s) where
  sessions := rfl
  running := rfl
  servers := rfl
  events := ⟨w.events, .refl _, .refl _⟩

end

end World

/-! Sessions -/

namespace Session

variable {id : SessionId}

lemma saysMore_ends_logs (lines : List Text) (w : World) :
    Ends (lines.forM fun line => log .client Level.debug line) w fun result v =>
      result = .ok () ∧ w.SaysMore v := by
  induction lines generalizing w with
  | nil => exact ends_pure ⟨rfl, .refl w⟩
  | cons line rest ih =>
    refine Ends.bind ((saysMore_ends_log _ _ line w).mono ?_)
    rintro result v ⟨rfl, hv⟩
    exact next_ok ((ih v).mono fun _ _ h => ⟨h.1, hv.trans h.2⟩)

lemma launches_launch (w : World) : Ends (launch id) w fun result v =>
    (∃ f, result = .error f ∧ w.SaysMore v) ∨
      result = .ok () ∧ w.Launches id { w.session id with link := some {} } v := by
  refine ends_get_bind ?_
  dsimp only
  split
  next =>
    refine Ends.bind ((saysMore_ends_logs _ w).mono ?_)
    rintro result v ⟨rfl, hv⟩
    refine next_ok ?_
    split <;> exact ends_throw (.inl ⟨_, rfl, hv⟩)
  next =>
    split
    next => exact ends_throw (.inl ⟨_, rfl, .refl w⟩)
    next => exact .inr ⟨rfl, launches_record w id _⟩

lemma launches_queue {s : Session} {v w : World} (h : Launches id s v w) (hid : id < v.sessions.length)
    (r : OutgoingRequest) : Ends (do
      note id (.queued (.inr r))
      accept id (.inr r) fun s => s.queue (.inr r)) w fun result x =>
        result = .ok () ∧ Launches id { s.queue (.inr r) with tickets := s.tickets + 1 } v x := by
  have hnoted : Launches id s v (w.record (.noted id (.queued (.inr r)))) :=
    h.remark (saysMore_record rfl)
  refine ends_record_bind ⟨rfl, ?_⟩
  rw [← hnoted.session_eq hid]
  exact (hnoted.update _).remark (saysMore_record rfl)

/-- A session that was not started has its link and waits to be opened, or its server could not be
launched. -/
lemma launches_handshake {w : World} (hid : id < w.sessions.length) (hlink : (w.session id).link = none)
    (hstatus : (w.session id).status = .uninitialized) {root : Json} {path : Option Text}
    (hroot : rootPathOf root = .ok path) (name version : Json) :
    Ends (handshake id root name version none) w fun result v =>
      (∃ f, result = .error f ∧ w.SaysMore v) ∨ result = .ok () ∧ ∃ s : Session,
        s.name = (w.session id).name ∧ s.link = some {} ∧ s.status = .initializing ∧
          w.Launches id s v := by
  have hstart : Ends (start id) w fun result v => (∃ f, result = .error f ∧ w.SaysMore v) ∨
      result = .ok () ∧ w.Launches id { w.session id with link := some {} } v := by
    refine ends_getSession_bind ?_
    rw [if_neg (by simp [hlink]), if_neg (by simp [hstatus])]
    exact launches_launch w
  refine ends_getSession_bind ?_
  rw [if_neg (by simp [hstatus]), hroot]
  refine Ends.bind (hstart.mono ?_)
  rintro result u (⟨f, rfl, hu⟩ | ⟨rfl, hu⟩)
  · exact .inl ⟨f, rfl, hu⟩
  refine next_ok (ends_check_bind (fun p _ => ends_update_bind ?_) fun f h => by cases h)
  rw [hu.session_eq hid]
  have hx := hu.update { w.session id with link := some {}, status := .initializing }
  refine Ends.bind ((saysMore_ends_log _ _ _ _).mono ?_)
  rintro result y ⟨rfl, hxy⟩
  refine next_ok (ends_getSession_bind ((launches_queue (hx.remark hxy) hid _).mono ?_))
  rintro result v ⟨rfl, hv⟩
  refine .inr ⟨rfl, _, ?_, ?_, ?_, hv⟩ <;> rfl

end Session

/-! The registry -/

namespace World

variable {v w : World} {id : SessionId} {name : Json}

lemma session_append_of_lt {s : Session} (h : w.sessions = v.sessions ++ [s])
    (hid : id < v.sessions.length) : w.session id = v.session id := by
  rw [session, session, h, List.getD_eq_getElem?_getD, List.getD_eq_getElem?_getD,
    List.getElem?_append_left hid]

lemma session_append_length {s : Session} (h : w.sessions = v.sessions ++ [s]) :
    w.session v.sessions.length = s := by
  simp [session, h, List.getD_eq_getElem?_getD]

lemma session_eq_default (h : w.sessions.length ≤ id) : w.session id = default := by
  rw [session, List.getD_eq_getElem?_getD, List.getElem?_eq_none h]
  rfl

lemma isLinked_eq_false_of_le (h : w.sessions.length ≤ id) : (w.session id).isLinked = false := by
  rw [session_eq_default h]
  rfl

lemma lt_of_isLinked (h : (w.session id).isLinked) : id < w.sessions.length := by
  by_contra hlt
  rw [isLinked_eq_false_of_le (Nat.le_of_not_lt hlt)] at h
  cases h

lemma isShut_eq_false_of_le (h : w.sessions.length ≤ id) : (w.session id).isShut = false := by
  rw [session_eq_default h]
  rfl

/-- A session is the last one, was there before, or is not there at all. -/
lemma session_append_cases {s : Session} (h : w.sessions = v.sessions ++ [s]) (id : SessionId) :
    id < v.sessions.length ∧ w.session id = v.session id ∨
      id = v.sessions.length ∧ w.session id = s ∨ w.sessions.length ≤ id := by
  have hlength : w.sessions.length = v.sessions.length + 1 := by rw [h, List.length_append]; rfl
  rcases Nat.lt_trichotomy id v.sessions.length with hlt | rfl | hgt
  · exact .inl ⟨hlt, session_append_of_lt h hlt⟩
  · exact .inr (.inl ⟨rfl, session_append_length h⟩)
  · exact .inr (.inr (hlength ▸ hgt))

lemma lastId_le_of_append {s : Session} (h : w.sessions = v.sessions ++ [s]) (id : SessionId) :
    (v.session id).correlator.lastId ≤ (w.session id).correlator.lastId := by
  by_cases hid : id < v.sessions.length
  · rw [session_append_of_lt h hid]
  · rw [session_eq_default (Nat.le_of_not_lt hid)]
    exact Nat.zero_le _

/-- A new session that has no link makes no difference to links. -/
lemma Tends.of_append {s : Session} (hs : w.sessions = v.sessions ++ [s]) (hlink : s.link = none)
    (hr : w.running = v.running) (hservers : w.servers = v.servers)
    (he : Adds (!·.movesLink) v.events w.events) : v.Tends w := by
  have hlength : v.sessions.length ≤ w.sessions.length := by
    rw [hs, List.length_append]
    exact Nat.le_add_right _ _
  have hunlinked : s.isLinked = false ∧ s.isShut = false := by
    rw [Session.isLinked, Session.isShut, hlink]
    exact ⟨rfl, rfl⟩
  have hold : ∀ id, (w.session id).isLinked ∨ (w.session id).isShut → w.session id = v.session id := by
    intro id h
    rcases session_append_cases hs id with ⟨-, hsame⟩ | ⟨-, hnew⟩ | hle
    · exact hsame
    · rw [hnew, hunlinked.1, hunlinked.2] at h
      simp at h
    · rw [isLinked_eq_false_of_le hle, isShut_eq_false_of_le hle] at h
      simp at h
  exact {
    length := hlength
    endures := fun id hid => by
      rw [session_append_of_lt hs hid]
      exact .refl _
    forgets := fun id h => by
      have hsame := hold id (.inl h.linked)
      exact ⟨h.few.of_le (lastId_le_of_append hs), hsame ▸ h.linked, hsame ▸ h.live, hr ▸ h.absent⟩
    strands := fun id h => by
      have hsame := hold id (.inl h.linked)
      exact ⟨⟨hsame ▸ h.linked, hsame ▸ h.leaving, hsame ▸ h.few⟩, fun ht => hsame ▸ ht⟩
    running := fun entry h => .inl (hr ▸ h)
    tidy := fun h => {
      servers := hservers ▸ h.servers
      sessions := fun entry hentry => by
        obtain ⟨hlt, hruns⟩ := h.sessions entry (hr ▸ hentry)
        exact ⟨Nat.lt_of_lt_of_le hlt hlength, session_append_of_lt hs hlt ▸ hruns⟩
      names := hr ▸ h.names }
    accounts := fun h link hl => by
      rw [openLinks_of_adds he] at hl
      obtain ⟨hlinked, hname⟩ := h link hl
      have hlt : link.1 < v.sessions.length := lt_of_isLinked hlinked
      rw [session_append_of_lt hs hlt]
      exact ⟨hlinked, hname⟩
    adds := by
      obtain ⟨new, hnew, hnone⟩ := exists_append_of_adds he
      exact ⟨new, hnew, fun id name hl => (hnone id name hl).elim⟩
    shut := fun id h => .inl (hold id (.inr h) ▸ h) }

/-- A session that was started runs, and has a link. -/
lemma Starts.tends (h : v.Starts name w) (hv : v.IsTidy) (hnew : Registry.isRunning v name = false) :
    v.Tends w := by
  cases h with
  | failed sessions running servers events =>
    rcases sessions with hs | ⟨s, hlink, hs⟩
    · exact SaysMore.tends ⟨hs, running, servers, events⟩
    · exact .of_append hs hlink running servers events
  | started s es named linked status sessions running servers before after =>
    have hlength : w.sessions.length = v.sessions.length + 1 := by
      rw [sessions, List.length_append]
      rfl
    have hle : v.sessions.length ≤ w.sessions.length := by
      rw [hlength]
      exact Nat.le_succ _
    have hlinked : s.isLinked := by
      rw [Session.isLinked, linked]
      rfl
    have hlive : s.status.isLeaving = false := by rw [status]; rfl
    have hmem : (name, v.sessions.length) ∈ w.running := by
      rw [running]
      exact List.mem_append_right _ List.mem_cons_self
    have hlaunched : .launched v.sessions.length s.name ∈ w.events := after.suffix.subset List.mem_cons_self
    have hnames : ∀ entry ∈ v.running, entry.1.key? ≠ name.key? := fun entry he => by
      have hany := List.any_eq_false.mp hnew entry he
      simpa using hany
    have hruns : s.RunsAs name := ⟨named, by rw [linked]; rfl, by rw [status]; decide⟩
    exact {
      length := hle
      endures := fun id hid => by
        rw [session_append_of_lt sessions hid]
        exact .refl _
      forgets := fun id h => by
        rcases session_append_cases sessions id with ⟨hid, hsame⟩ | ⟨rfl, -⟩ | hlt
        · refine ⟨h.few.of_le (lastId_le_of_append sessions), hsame ▸ h.linked, hsame ▸ h.live,
            fun entry he => h.absent entry ?_⟩
          rw [running]
          exact List.mem_append_left _ he
        · exact (h.absent _ hmem rfl).elim
        · exact absurd h.linked (by rw [isLinked_eq_false_of_le hlt]; exact Bool.false_ne_true)
      strands := fun id h => by
        rcases session_append_cases sessions id with ⟨hid, hsame⟩ | ⟨-, hnew⟩ | hlt
        · exact ⟨⟨hsame ▸ h.linked, hsame ▸ h.leaving, hsame ▸ h.few⟩, fun ht => hsame ▸ ht⟩
        · exact absurd h.leaving (by rw [hnew, hlive]; exact Bool.false_ne_true)
        · exact absurd h.linked (by rw [isLinked_eq_false_of_le hlt]; exact Bool.false_ne_true)
      running := fun entry h => by
        rw [running] at h
        refine (List.mem_append.mp h).imp_right fun h => ?_
        obtain rfl := List.mem_singleton.mp h
        exact ⟨Nat.le_refl _, s.name, hlaunched⟩
      tidy := fun _ => {
        servers := servers ▸ hv.servers
        sessions := fun entry h => by
          rw [running] at h
          rcases List.mem_append.mp h with h | h
          · obtain ⟨hlt, hruns⟩ := hv.sessions entry h
            exact ⟨Nat.lt_of_lt_of_le hlt hle, session_append_of_lt sessions hlt ▸ hruns⟩
          · obtain rfl := List.mem_singleton.mp h
            exact ⟨hlength ▸ Nat.lt_succ_self _, (session_append_length sessions).symm ▸ hruns⟩
        names := by
          rw [running, List.map_append]
          refine List.nodup_append.mpr ⟨hv.names, List.pairwise_singleton _ _, ?_⟩
          rintro _ hold _ hone rfl
          obtain ⟨entry, he, hkey⟩ := List.mem_map.mp hold
          obtain hname := List.mem_singleton.mp hone
          exact hnames entry he (hkey.trans hname) }
      accounts := fun h link hl => by
        rw [openLinks_of_adds after, openLinks, openLinks_of_adds before] at hl
        rcases List.mem_cons.mp hl with rfl | hl
        · rw [session_append_length sessions]
          exact ⟨hlinked, rfl⟩
        · obtain ⟨hold, hname⟩ := h link hl
          rw [session_append_of_lt sessions (lt_of_isLinked hold)]
          exact ⟨hold, hname⟩
      adds := by
        obtain ⟨new, hnew, hnone⟩ := exists_append_of_adds before
        obtain ⟨new', hnew', hnone'⟩ := exists_append_of_adds after
        refine ⟨new' ++ .launched v.sessions.length s.name :: new, by rw [hnew', hnew]; simp,
          fun id server h => ?_⟩
        rcases List.mem_append.mp h with h | h
        · exact (hnone' id server h).elim
        · obtain ⟨rfl, rfl⟩ := Event.launched.inj ((List.mem_cons.mp h).resolve_right (hnone id server))
          refine ⟨Nat.le_refl _, hlength ▸ Nat.lt_succ_self _, ?_, ?_⟩
          · rw [session_append_length sessions, linked]
            rfl
          · rw [session_append_length sessions]
      shut := fun id h => by
        rcases session_append_cases sessions id with ⟨hid, hsame⟩ | ⟨-, hnew⟩ | hlt
        · exact .inl (hsame ▸ h)
        · rw [hnew, Session.isShut, linked] at h
          cases h
        · rw [isShut_eq_false_of_le hlt] at h
          cases h }

end World

namespace Registry

variable {call : Caller} {name : Json}

lemma name_of_ofConfig {config : Fields} {s : Session} (h : Session.ofConfig (.object config) = .ok s) :
    s.name = config.getD "name" .null := by
  unfold Session.ofConfig at h
  rw [Json.mandatory] at h
  rw [Fields.getD]
  cases hg : Fields.get? config "name" with
  | none => rw [hg] at h; cases h
  | some n =>
    rw [hg] at h
    obtain rfl := Except.ok.inj h
    rfl

lemma exists_rootPathOf {project root : Json} (h : rootUri project = .ok root) :
    ∃ path, Session.rootPathOf root = .ok path := by
  unfold rootUri at h
  split at h
  next =>
    obtain rfl := Except.ok.inj h
    exact ⟨none, rfl⟩
  next =>
    split at h
    next p _ =>
      cases hp : Uri.ofPath p with
      | error f => rw [hp] at h; cases h
      | ok uri =>
        rw [hp] at h
        obtain rfl := Except.ok.inj h
        obtain ⟨path, hpath⟩ := Uri.exists_toPath_of_ofPath hp
        unfold Session.rootPathOf
        split
        next => exact ⟨none, rfl⟩
        next =>
          simp only [hpath]
          exact ⟨some path, rfl⟩
    next => cases h

/-- A session is started, or its server is not launched at all. -/
lemma starts_launch {config : Fields} (hname : name.key? = (config.getD "name" .null).key?)
    (project : Json) (w : World) :
    Ends (launch name config project) w fun _ v => w.Starts name v := by
  refine Ends.bind ((Session.saysMore_ends_log _ _ _ w).mono ?_)
  rintro result u ⟨rfl, hu⟩
  refine next_ok (ends_check_bind (fun s hs => ?_) fun f _ => ?_)
  · obtain ⟨t, ht⟩ : ∃ t, t = { s with listeners := featureListeners } := ⟨_, rfl⟩
    have hfresh : t.link = none ∧ t.status = .uninitialized ∧ t.name = config.getD "name" .null := by
      rw [ht, ← name_of_ofConfig hs, blank_of_ofConfig hs]
      exact ⟨rfl, rfl, rfl⟩
    rw [← ht]
    refine Ends.bind ?_
    change Next _ _ (.ok u.sessions.length) { u with sessions := u.sessions ++ [t] }
    refine next_ok (ends_record_bind ?_)
    obtain ⟨x, hx⟩ : ∃ x : World, x = { u with sessions := u.sessions ++ [t] }.record (.starting s.title) :=
      ⟨_, rfl⟩
    have hsessions : x.sessions = w.sessions ++ [t] := by
      rw [hx, ← hu.sessions]
      rfl
    have hrunning : x.running = w.running := hx ▸ hu.running
    have hservers : x.servers = w.servers := hx ▸ hu.servers
    have hevents : Adds (!·.movesLink) w.events x.events := hu.events.trans (hx ▸ .single rfl)
    have hfailed : ∀ y, x.SaysMore y → w.Starts name y := fun y hy =>
      .failed (.inr ⟨t, hfresh.1, hy.sessions.trans hsessions⟩) (hy.running.trans hrunning)
        (hy.servers.trans hservers) (hevents.trans hy.events)
    rw [← hx, hu.sessions]
    refine ends_check_bind (fun root hroot => ?_) fun f _ => hfailed x (.refl x)
    obtain ⟨path, hpath⟩ := exists_rootPathOf hroot
    have hid : w.sessions.length < x.sessions.length := by
      rw [hsessions, List.length_append]
      exact Nat.lt_succ_self _
    have hsession : x.session w.sessions.length = t := session_append_length hsessions
    refine Ends.attempt_bind ((Session.launches_handshake hid (hsession ▸ hfresh.1)
      (hsession ▸ hfresh.2.1) hpath _ _).mono ?_)
    rintro result y (⟨f, rfl, hy⟩ | ⟨rfl, s', hname', hlink, hstatus, hy⟩)
    · split
      next h => cases h
      next text h =>
        refine Ends.bind ((Session.saysMore_ends_log _ _ _ y).mono ?_)
        rintro result z ⟨rfl, hz⟩
        exact next_ok (ends_pure (hfailed z (hy.trans hz)))
      next => exact ends_throw (hfailed y hy)
    · obtain ⟨es, hbefore, hafter⟩ := hy.events
      rw [hsession] at hname' hafter
      refine .started s' es (hname.trans (by rw [hname', hfresh.2.2])) hlink hstatus ?_ ?_
        (hy.servers.trans hservers) (hevents.trans hbefore) (hname' ▸ hafter)
      · change y.sessions = _
        rw [hy.sessions, hsessions, List.set_append_right _ _ (Nat.le_refl _), Nat.sub_self]
        rfl
      · change y.running ++ _ = _
        rw [hy.running, hrunning]
  · exact .failed (.inl hu.sessions) hu.running hu.servers hu.events

lemma tended_startEach (fileName project : Json) (servers : List (Json × Fields)) :
    Within Tends (fun w => w.IsTidy ∧
      ∀ entry ∈ servers, entry.1.key? = (entry.2.getD "name" .null).key?)
      (startEach fileName project servers) := by
  induction servers with
  | nil => exact within_pure _
  | cons entry rest ih =>
    refine within_check_bind fun patterns _ => within_check_bind fun isFor _ => ?_
    refine within_get_bind fun w ⟨hw, hkeyed⟩ => ?_
    rw [List.forall_mem_cons] at hkeyed
    split
    next => exact ih.mono fun _ hv => hv ▸ ⟨hw, hkeyed.2⟩
    next hnew =>
      rw [Bool.or_eq_true, not_or, Bool.not_eq_true, Bool.not_eq_true] at hnew
      have hrest : ∀ started, Within Tends (fun w => w.IsTidy ∧
          ∀ entry ∈ rest, entry.1.key? = (entry.2.getD "name" .null).key?)
          (match started with
            | some id => do return id :: (← startEach fileName project rest)
            | none => startEach fileName project rest) := fun started => by
        cases started with
        | some id => exact ih.bind_any fun _ => within_pure _
        | none => exact ih
      have htends : w.Tends _ := Starts.tends (starts_launch hkeyed.1 project w) hw hnew.2
      refine Within.bind_of (fun v hv => ?_) hrest
      rw [show v = w from hv]
      exact ⟨htends, htends.tidy hw, hkeyed.2⟩

lemma tended_start (fileName project : Json) : Tended (start fileName project) :=
  within_get_bind fun w hw => (tended_startEach fileName project w.servers).mono fun _ hv =>
    ⟨hv ▸ hw, hw.servers⟩

end Registry

end LanguageClient
