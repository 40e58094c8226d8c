import LanguageClient.Proofs.Apart.Features
import LanguageClient.Proofs.Registry.Launching

/-!
Launching, in two worlds at once. What comes of it is up to the configuration of a server and to what all
have in common. So a server that runs in the other world can be launched in this one.
-/

namespace LanguageClient

open Act World

variable {k : Option Json.Key} {ps : List (SessionId × SessionId)} {ids : List SessionId} {v w : World}
  {id id' : SessionId} {t : Session}

/-! New sessions -/

namespace World

def add (w : World) (t : Session) : World := { w with sessions := w.sessions ++ [t] }

lemma length_add (w : World) (t : Session) : (w.add t).sessions.length = w.sessions.length + 1 := by
  simp [add]

lemma lt_length_add (w : World) (t : Session) : w.sessions.length < (w.add t).sessions.length :=
  length_add w t ▸ Nat.lt_succ_self _

lemma session_add_of_lt (t : Session) (h : id < w.sessions.length) : (w.add t).session id = w.session id :=
  session_append_of_lt rfl h

lemma session_add_length (w : World) (t : Session) : (w.add t).session w.sessions.length = t :=
  session_append_length rfl

lemma Lists.add (h : w.Lists k ids) (hown : t.IsOwn) (hreads : t.Reads) : (w.add t).Lists k
    (if t.name.key? = k then ids else ids ++ [w.sessions.length]) where
  others := by
    have hold : (List.range w.sessions.length).filter ((w.add t).isOther k) = ids := by
      rw [← h.others]
      refine List.filter_congr fun id hid => ?_
      rw [isOther, isOther, session_add_of_lt t (List.mem_range.mp hid)]
    have hnew : (w.add t).isOther k w.sessions.length = decide (t.name.key? ≠ k) := by
      rw [isOther, session_add_length]
    rw [length_add, List.range_succ, List.filter_append, hold, List.filter_singleton, hnew]
    split_ifs <;> simp_all
  own id := by
    rcases session_append_cases (w := w.add t) rfl id with ⟨-, hs⟩ | ⟨-, hs⟩ | hlt
    · rw [hs]
      exact h.own id
    · rwa [hs]
    · rw [session_eq_default hlt]
      exact Session.isOwn_default
  reads id := by
    rcases session_append_cases (w := w.add t) rfl id with ⟨-, hs⟩ | ⟨-, hs⟩ | hlt
    · rw [hs]
      exact h.reads id
    · rwa [hs]
    · rw [session_eq_default hlt]
      exact Session.reads_default
  new id hid := by
    rw [length_add] at hid
    exact h.new id (Nat.le_of_succ_le hid)

lemma Twin.add (h : Twin id id' w v) (t : Session) : Twin id id' (w.add t) v where
  lt := Nat.lt_trans h.lt (lt_length_add w t)
  lt' := h.lt'
  session := (session_add_of_lt t h.lt).trans h.session
  own := session_add_of_lt t h.lt ▸ h.own
  voices := h.voices
  common := h.common

namespace Matched

lemma length_not_mem (h : Matched k ps w v) : w.sessions.length ∉ ps.map Prod.fst := fun hmem => by
  obtain ⟨p, hp, he⟩ := List.mem_map.mp hmem
  exact Nat.ne_of_lt (h.twin p hp).lt he

lemma twin_add (h : Matched k ps w v) (hown : t.IsOwn) :
    Twin w.sessions.length v.sessions.length (w.add t) (v.add t) where
  lt := lt_length_add w t
  lt' := lt_length_add v t
  session := by rw [session_add_length, session_add_length]
  own := by rwa [session_add_length]
  voices := (h.left.new _ (Nat.le_refl _)).trans (h.right.new _ (Nat.le_refl _)).symm
  common := h.common

/-- The one server has a session more. -/
lemma add_left (h : Matched k ps w v) (hk : t.name.key? = k) (hown : t.IsOwn) (hreads : t.Reads) :
    Matched k ps (w.add t) v where
  left := by
    have hleft := h.left.add hown hreads
    rwa [if_pos hk] at hleft
  right := h.right
  twin p hp := (h.twin p hp).add t
  running := h.running.grow (Nat.le_of_lt (lt_length_add w t)) (Nat.le_refl _) (List.Subset.refl _) fun _ => .inl
  common := h.common
  configured := h.configured
  launchable := h.launchable

/-- Another server has a session more in both worlds. -/
lemma add_both (h : Matched k ps w v) (hk : t.name.key? ≠ k) (hown : t.IsOwn) (hreads : t.Reads) :
    Matched k (ps ++ [(w.sessions.length, v.sessions.length)]) (w.add t) (v.add t) where
  left := by
    have hleft := h.left.add hown hreads
    rw [if_neg hk] at hleft
    rwa [List.map_append]
  right := by
    have hright := h.right.add hown hreads
    rw [if_neg hk] at hright
    rwa [List.map_append]
  twin p hp := by
    rcases List.mem_append.mp hp with hp | hp
    · exact (((h.twin p hp).add t).symm.add t).symm
    · exact List.mem_singleton.mp hp ▸ h.twin_add hown
  running := by
    refine h.running.grow (Nat.le_of_lt (lt_length_add w t)) (Nat.le_of_lt (lt_length_add v t))
      (List.subset_append_left _ _) fun p hp => (List.mem_append.mp hp).imp_right fun hp => ?_
    obtain rfl := List.mem_singleton.mp hp
    exact ⟨Nat.le_refl _, Nat.le_refl _⟩
  common := h.common
  configured := h.configured
  launchable := h.launchable

end Matched

end World

/-! What comes of a launch -/

/-- Whether the server of a name cannot be launched. -/
def World.fails (w : World) (name : Json) : Bool := w.failing.any fun other => other.same name

namespace Session

/-- A session that was just set up is opened if its server can be launched; the server alone is in the way of
that. -/
lemma ends_handshake (root name version : Json) (hlink : (w.session id).link = none)
    (hstatus : (w.session id).status = .uninitialized) :
    Ends (handshake id root name version none) w fun r _ =>
      (r = .ok () → w.launcher = .memory) ∧ (w.launcher = .memory → (∃ path, rootPathOf root = .ok path) →
        if w.fails (w.session id).name then ∃ text, r = .error (.failure (.spawn text)) else r = .ok ()) := by
  have hlaunch : Ends (launch id) w fun r _ => (r = .ok () → w.launcher = .memory) ∧
      (w.launcher = .memory →
        if w.fails (w.session id).name then ∃ text, r = .error (.failure (.spawn text)) else r = .ok ()) := by
    refine ends_get_bind ?_
    dsimp only
    cases w.launcher with
    | memory =>
      change Ends (do
        if w.fails (w.session id).name then _
        _) w _
      by_cases hfails : w.fails (w.session id).name
      · simp only [hfails, if_true]
        exact ends_throw (Q := fun r _ => _ ∧ _) ⟨fun _ => trivial, fun _ => ⟨_, rfl⟩⟩
      · simp only [hfails]
        exact ⟨fun _ => trivial, fun _ => rfl⟩
    | programs =>
      refine Ends.bind ((saysMore_ends_logs _ w).mono ?_)
      rintro r v ⟨rfl, -⟩
      refine next_ok ?_
      split <;> exact ⟨(fun h => by cases h), fun h => by cases h⟩
  have hstart : Ends (start id) w fun r _ => (r = .ok () → w.launcher = .memory) ∧
      (w.launcher = .memory →
        if w.fails (w.session id).name then ∃ text, r = .error (.failure (.spawn text)) else r = .ok ()) := by
    refine ends_getSession_bind ?_
    rw [if_neg (by simp [hlink]), if_neg (by simp [hstatus])]
    exact hlaunch
  refine ends_getSession_bind ?_
  rw [if_neg (by simp [hstatus])]
  refine Ends.bind (hstart.mono fun r v hv => ?_)
  cases r with
  | error f => exact ⟨(fun h => by cases h), fun hm _ => hv.2 hm⟩
  | ok _ =>
    refine next_ok ?_
    cases hroot : rootPathOf root with
    | error f => exact ⟨(fun h => by cases h), fun _ hpath => by obtain ⟨path, hpath⟩ := hpath; cases hpath⟩
    | ok path => exact ⟨fun _ => hv.1 rfl, fun hm _ => hv.2 hm⟩

end Session

namespace Registry

variable {name : Json} {config : Fields}

/-- A new session is announced and opened. -/
def embark (title : Text) (project : Json) (id : SessionId) : Act (Except Fault Unit) := do
  record (.starting title)
  let root ← Act.check (rootUri project)
  (Session.handshake id root clientName clientVersion none).attempt

/-- A session that was opened runs. -/
def board (name : Json) (id : SessionId) : Except Fault Unit → Act (Option SessionId)
  | .ok _ => do
    modify fun w => { w with running := w.running ++ [(name, id)] }
    return some id
  | .error (.failure (.spawn text)) => do
    log .client Level.error ("[" ++ name.display ++ "] " ++ text)
    return none
  | .error f => throw f

lemma launch_eq (name : Json) (config : Fields) (project : Json) : launch name config project = (do
    log .client Level.info ("Starting " ++ name.display)
    let s ← Act.check (Session.ofConfig (.object config))
    let id ← addSession { s with listeners := featureListeners }
    let result ← embark s.title project id
    board name id result) := by
  simp only [launch, embark, bind_assoc]
  rfl

lemma local_embark (title : Text) (project : Json) : Local fun id => embark title project id := by
  refine (local_record (e := fun _ => .starting title) fun _ _ _ => rfl).bind fun _ => ?_
  exact local_check_bind fun root _ => (Session.local_handshake root _ _).attempt

/-- Whether a new session is opened is up to what all have in common; the server alone is in the way of it. -/
lemma ends_embark {title : Text} {project : Json} (hlink : (w.session id).link = none)
    (hstatus : (w.session id).status = .uninitialized) : Ends (embark title project id) w fun r _ =>
      (r = .ok (.ok ()) → w.launcher = .memory ∧ ∃ root, rootUri project = .ok root) ∧
      (w.launcher = .memory → (∃ root, rootUri project = .ok root) →
        if w.fails (w.session id).name then ∃ text, r = .ok (.error (.failure (.spawn text)))
        else r = .ok (.ok ())) := by
  refine ends_record_bind (ends_check_bind (fun root hroot => ?_) fun f hf => ?_)
  · have hopened := Session.ends_handshake (w := w.record (.starting title)) root clientName clientVersion
      hlink hstatus
    refine Ends.attempt (hopened.mono fun r v hv => ?_)
    refine ⟨fun hr => ⟨hv.1 (Except.ok.inj hr), root, hroot⟩, fun hm _ => ?_⟩
    have hresult := hv.2 hm (exists_rootPathOf hroot)
    change if w.fails (w.session id).name then _ else _ at hresult
    split_ifs at hresult ⊢ with hfails
    · exact hresult.imp fun text hr => congrArg _ hr
    · exact congrArg _ hresult
  · exact ⟨(fun h => by cases h), fun _ ⟨root, hroot⟩ => by cases hf.symm.trans hroot⟩

/-- A session as it is set up, before anything is done with it. -/
structure IsFresh (name : Json) (s : Session) : Prop where
  name : s.name.key? = name.key?
  own : s.IsOwn
  reads : s.Reads
  link : s.link = none
  status : s.status = .uninitialized

lemma get?_of_checkConfig (h : checkConfig (.object config) = .ok config) (key : Text)
    (hkey : key ∈ mandatoryFields) : Fields.get? config key = some (config.getD key .null) := by
  unfold checkConfig at h
  rw [show (Json.object config).fields = .ok config from rfl] at h
  dsimp only [bind, Except.bind] at h
  split at h
  next => cases h
  next hnone =>
    have hholds : (config.getD key .null).holds := by simpa using List.find?_eq_none.mp hnone key hkey
    rw [Fields.getD] at hholds ⊢
    cases hget : Fields.get? config key with
    | some value => rfl
    | none =>
      rw [hget] at hholds
      cases hholds

lemma ofConfig_of_checkConfig (h : checkConfig (.object config) = .ok config) :
    Session.ofConfig (.object config) = .ok (.blank config (config.getD "name" .null)) := by
  simp only [Session.ofConfig, Json.mandatory, get?_of_checkConfig h "name" (by simp [mandatoryFields])]
  rfl

/-- A session as it is set up for a configuration. -/
def enrolled (config : Fields) : Session :=
  { Session.blank config (config.getD "name" .null) with listeners := featureListeners }

/-- The listeners that a session has from its start call no host. -/
lemma isOwn_enrolled (config : Fields) : (enrolled config).IsOwn := by
  have hlisteners : ∀ l ∈ featureListeners.all, l.isOwn := by simp [featureListeners, Listeners.all, Listener.isOwn]
  exact ⟨(fun _ h => by cases h), (fun _ h => by cases h), (fun _ h => by cases h), hlisteners⟩

/-- A launch comes down to what becomes of a new session. -/
lemma run_launch (h : checkConfig (.object config) = .ok config) (name project : Json) (w : World) :
    ∃ x, Quiet w x ∧ (launch name config project).run w =
      (embark (enrolled config).title project x.sessions.length >>= board name x.sessions.length).run
        (x.add (enrolled config)) := by
  have hx := quiet_log w .client (.int Level.info) ("Starting " ++ name.display) none
  rw [launch_eq, ofConfig_of_checkConfig h]
  exact ⟨_, hx, rfl⟩

lemma IsConfigured.isFresh (h : IsConfigured (name, config)) : IsFresh name (enrolled config) := by
  have hpatterns := get?_of_checkConfig h.checked "file_patterns" (by simp [mandatoryFields])
  refine ⟨h.name.symm, isOwn_enrolled config, fun file => ?_, rfl, rfl⟩
  have hsame : (enrolled config).filePatterns = config.getD "file_patterns" .null := by
    change Fields.getD config "file_patterns" (.list []) = _
    rw [Fields.getD, hpatterns]
    rfl
  rw [hsame]
  exact h.patterns.exists_admits file

/-! Launching in two worlds -/

variable {project : Json} {L L' : List (Json × SessionId)}

/-- A new session is opened in both worlds. -/
lemma exists_matched_embark (h : Matched k ps w v) (ht : IsFresh name t) (title : Text) (project : Json) :
    ((embark title project w.sessions.length).run (w.add t)).1 =
        ((embark title project v.sessions.length).run (v.add t)).1 ∧
      ∃ qs, Matched k qs ((embark title project w.sessions.length).after (w.add t))
        ((embark title project v.sessions.length).after (v.add t)) ∧
        Aligned k qs (w.add t).sessions.length (v.add t).sessions.length [(name, w.sessions.length)]
          [(name, v.sessions.length)] := by
  have hlocal := local_embark title project
  have htwin := h.twin_add ht.own
  by_cases hk : name.key? = k
  · have hadded : Matched k ps (w.add t) (v.add t) :=
      ((h.add_left (ht.name.trans hk) ht.own ht.reads).symm.add_left (ht.name.trans hk) ht.own ht.reads).of_symm
    have hright : v.sessions.length ∉ ps.map Prod.snd := map_fst_map_swap ps ▸ h.symm.length_not_mem
    refine ⟨(hlocal htwin).1, ps, ?_, .left hk htwin.lt h.length_not_mem (.right hk htwin.lt' hright .nil)⟩
    have haside := hadded.aside (hlocal htwin).2.2 htwin.lt h.length_not_mem
    exact (haside.symm.aside (hlocal htwin.symm).2.2 htwin.lt' h.symm.length_not_mem).of_symm
  · have hadded := h.add_both (ht.name ▸ hk) ht.own ht.reads
    have hmem : (w.sessions.length, v.sessions.length) ∈ ps ++ [(w.sessions.length, v.sessions.length)] :=
      List.mem_append_right _ List.mem_cons_self
    obtain ⟨hresult, hmatched, -⟩ := hadded.both hmem hlocal
    exact ⟨hresult, _, hmatched, .both hk hmem .nil⟩

lemma parallel_board (h : Matched k ps w v) {id' : SessionId}
    (hnew : Aligned k ps w.sessions.length v.sessions.length [(name, id)] [(name, id')])
    {r : Except Fault Unit} (hlaunch : r = .ok () → w.common.Launchable) :
    Parallel k (board name id r) (board name id' r) w v := by
  have hthrow : ∀ f : Fault, Parallel k (throw f : Act (Option SessionId)) (throw f : Act (Option SessionId)) w v :=
    fun f => ⟨⟨(fun ⟨_, he⟩ => by cases he), fun ⟨_, he⟩ => by cases he⟩, ps, h⟩
  cases r with
  | ok _ =>
    exact ⟨⟨fun _ => ⟨_, rfl⟩, fun _ => ⟨_, rfl⟩⟩, ps, h.rerun (h.running.append hnew) fun _ => hlaunch rfl⟩
  | error f =>
    cases f with
    | failure g =>
      cases g with
      | spawn text =>
        refine ⟨⟨fun _ => ⟨_, rfl⟩, fun _ => ⟨_, rfl⟩⟩, ps, ?_⟩
        exact ((h.quiet (quiet_log ..)).symm.quiet (quiet_log ..)).of_symm
      | _ => exact hthrow _
    | _ => exact hthrow _

/-- A server is launched in both worlds, or in neither. -/
lemma parallel_launch (h : Matched k ps w v) (hc : IsConfigured (name, config)) :
    Parallel k (launch name config w.project) (launch name config w.project) w v := by
  have ht : IsFresh name (enrolled config) := hc.isFresh
  obtain ⟨x, hwx, hx⟩ := run_launch hc.checked name w.project w
  obtain ⟨y, hvy, hy⟩ := run_launch hc.checked name w.project v
  generalize enrolled config = t at ht hx hy
  generalize t.title = title at hx hy
  rw [Parallel, after, after, hx, hy]
  change Parallel k (embark title w.project x.sessions.length >>= board name x.sessions.length)
    (embark title w.project y.sessions.length >>= board name y.sessions.length) (x.add t) (y.add t)
  have hxy : Matched k ps x y := ((h.quiet hwx).symm.quiet hvy).of_symm
  obtain ⟨hresult, qs, hmatched, hnew⟩ := exists_matched_embark hxy ht title w.project
  have hleft := (hxy.left.add (k := k) ht.own ht.reads).spares_after (local_embark title w.project)
    (lt_length_add x t)
  have hright := (hxy.right.add (k := k) ht.own ht.reads).spares_after (local_embark title w.project)
    (lt_length_add y t)
  refine Parallel.bind ⟨by rw [hresult], qs, hmatched⟩ fun r r' hr hr' => ?_
  obtain rfl : r = r' := Except.ok.inj (hr.symm.trans (hresult.trans hr'))
  rw [← hleft.length, ← hright.length] at hnew
  refine parallel_board hmatched hnew fun hok => ?_
  have hembark := @ends_embark (x.add t) x.sessions.length title w.project
    (by rw [session_add_length, ht.link]) (by rw [session_add_length, ht.status])
  have hcommon : ((embark title w.project x.sessions.length).after (x.add t)).common = w.common :=
    hleft.common.trans hwx.common
  have hlaunch := hembark.1 (hok ▸ hr)
  rw [hcommon]
  exact ⟨(congrArg World.launcher hwx.common).symm.trans hlaunch.1, hlaunch.2⟩

/-- A server that can be launched is launched on its own without a fault. -/
lemma ends_launch_left (h : Matched k ps w v) (hc : IsConfigured (name, config)) (hk : name.key? = k)
    (hl : w.common.Launchable) : Ends (launch name config w.project) w fun r x =>
      (∃ o, r = .ok o) ∧ Matched k ps x v := by
  have ht : IsFresh name (enrolled config) := hc.isFresh
  obtain ⟨x, hwx, hx⟩ := run_launch hc.checked name w.project w
  generalize enrolled config = t at ht hx
  generalize t.title = title at hx
  rw [Ends, hx]
  change Ends (embark title w.project x.sessions.length >>= board name x.sessions.length) (x.add t) fun r x =>
    (∃ o, r = .ok o) ∧ Matched k ps x v
  have hadded : Matched k ps (x.add t) v :=
    (h.quiet hwx).add_left (ht.name.trans hk) ht.own ht.reads
  have hlt : x.sessions.length < (x.add t).sessions.length := lt_length_add x t
  have halone := (h.quiet hwx).length_not_mem
  have hspares := hadded.left.spares_after (local_embark title w.project) hlt
  have hmatched := hadded.aside hspares hlt halone
  have hembark := @ends_embark (x.add t) x.sessions.length title w.project
    (by rw [session_add_length, ht.link]) (by rw [session_add_length, ht.status])
  refine Ends.bind ?_
  have hresult := hembark.2 ((congrArg World.launcher hwx.common).trans hl.1) hl.2
  split_ifs at hresult with hfails
  · obtain ⟨text, hr⟩ := hresult
    rw [Ends, hr]
    exact ⟨⟨_, rfl⟩, hmatched.quiet (quiet_log ..)⟩
  · rw [Ends, hresult]
    have hrunning := hmatched.running.append (.left hk (hspares.lt hlt) halone .nil)
    rw [List.append_nil] at hrunning
    exact ⟨⟨_, rfl⟩, hmatched.rerun hrunning fun _ => (hspares.common.trans hwx.common) ▸ hl⟩

lemma common_launch {ids : List SessionId} (h : w.Lists k ids) (hc : IsConfigured (name, config)) (project : Json) :
    ((launch name config project).after w).common = w.common := by
  have ht : IsFresh name (enrolled config) := hc.isFresh
  obtain ⟨x, hwx, hx⟩ := run_launch hc.checked name project w
  generalize enrolled config = t at ht hx
  generalize t.title = title at hx
  have hspares := ((h.quiet hwx).add (k := k) ht.own ht.reads).spares_after (local_embark title project)
    (lt_length_add x t)
  have hembarked := hspares.common.trans hwx.common
  rw [after, hx]
  change Ends (embark title project x.sessions.length >>= board name x.sessions.length) (x.add t)
    fun _ y => y.common = w.common
  refine Ends.bind ?_
  rw [Ends]
  cases ((embark title project x.sessions.length).run (x.add t)).1 with
  | error f => exact hembarked
  | ok r =>
    cases r with
    | ok _ => exact hembarked
    | error f =>
      cases f with
      | failure g =>
        cases g with
        | spawn text => exact (quiet_log ..).common.trans hembarked
        | _ => exact hembarked
      | _ => exact hembarked

/-! Starting what is for a file -/

variable {file : Text} {rest : List (Json × Fields)}

/-- The other servers have their turn, whatever came of one. -/
def startOthers (file : Text) (project : Json) (rest : List (Json × Fields)) :
    Option SessionId → Act (List SessionId)
  | some id => do return id :: (← startEach (.text file) project rest)
  | none => startEach (.text file) project rest

lemma startEach_cons (hc : checkConfig (.object config) = .ok config) (name : Json) (file : Text) (project : Json)
    (rest : List (Json × Fields)) : startEach (.text file) project ((name, config) :: rest) = (do
      let isFor ← Act.check (FileFilter.admits (config.getD "file_patterns" .null) (.text file))
      if !isFor || isRunning (← get) name then startEach (.text file) project rest
      else launch name config project >>= startOthers file project rest) := by
  have hpatterns : (Json.object config).mandatory "file_patterns" = .ok (config.getD "file_patterns" .null) := by
    simp only [Json.mandatory, get?_of_checkConfig hc "file_patterns" (by simp [mandatoryFields])]
  rw [startEach, hpatterns]
  rfl

lemma exists_run_startEach (hc : IsConfigured (name, config)) (file : Text) (project : Json)
    (rest : List (Json × Fields)) : ∃ b, ∀ w, (startEach (.text file) project ((name, config) :: rest)).run w =
      (if !b || isRunning w name then startEach (.text file) project rest
        else launch name config project >>= startOthers file project rest).run w := by
  obtain ⟨b, hb⟩ := hc.patterns.exists_admits file
  refine ⟨b, fun w => ?_⟩
  rw [startEach_cons hc.checked, hb]
  rfl

lemma parallel_startOthers (o o' : Option SessionId) (h : Parallel k (startEach (.text file) project rest)
    (startEach (.text file) project rest) w v) :
    Parallel k (startOthers file project rest o) (startOthers file project rest o') w v := by
  have hsame : ∀ (o : Option SessionId) (u : World), ((∃ x, ((startOthers file project rest o).run u).1 = .ok x) ↔
      ∃ x, ((startEach (.text file) project rest).run u).1 = .ok x) ∧
      (startOthers file project rest o).after u = (startEach (.text file) project rest).after u := by
    intro o u
    cases o with
    | none => exact ⟨Iff.rfl, rfl⟩
    | some id =>
      unfold startOthers
      rw [after, after, run_bind]
      rcases (startEach (.text file) project rest).run u with ⟨f | ids, x⟩
      · exact ⟨Iff.rfl, rfl⟩
      · exact ⟨⟨fun _ => ⟨_, rfl⟩, fun _ => ⟨_, rfl⟩⟩, rfl⟩
  rw [Parallel, (hsame o w).1, (hsame o' v).1, (hsame o w).2, (hsame o' v).2]
  exact h

lemma ne_nil_of_isRunning (h : isRunning w name) : w.running ≠ [] := fun hnil => by
  rw [isRunning, hnil] at h
  cases h

/-- A server that is launched here alone does not get in the way of the others. -/
lemma parallel_launch_left (h : Matched k ps w v) (hc : IsConfigured (name, config)) (hk : name.key? = k)
    (hl : w.common.Launchable) (hrest : ∀ {x : World}, Matched k ps x v → x.common = w.common →
      Parallel k (startEach (.text file) w.project rest) (startEach (.text file) w.project rest) x v) :
    Parallel k (launch name config w.project >>= startOthers file w.project rest)
      (startEach (.text file) w.project rest) w v := by
  obtain ⟨⟨o, ho⟩, hmatched⟩ := ends_launch_left h hc hk hl
  refine Parallel.bind_left ho ?_
  exact parallel_startOthers o none (hrest hmatched (common_launch h.left hc w.project))

lemma parallel_startEach {servers : List (Json × Fields)} (hs : ∀ entry ∈ servers, IsConfigured entry)
    (h : Matched k ps w v) : Parallel k (startEach (.text file) w.project servers)
      (startEach (.text file) w.project servers) w v := by
  induction servers generalizing w v ps with
  | nil => exact ⟨⟨fun _ => ⟨_, rfl⟩, fun _ => ⟨_, rfl⟩⟩, ps, h⟩
  | cons entry rest ih =>
    obtain ⟨name, config⟩ := entry
    have hc : IsConfigured (name, config) := hs _ List.mem_cons_self
    have hproject : v.project = w.project := (congrArg World.project h.common).symm
    have hrest : ∀ {x y : World} {qs}, Matched k qs x y → x.common = w.common →
        Parallel k (startEach (.text file) w.project rest) (startEach (.text file) w.project rest) x y := by
      intro x y qs hxy hx
      have hsame : x.project = w.project := (congrArg World.project hx :)
      have hnext := ih (fun e he => hs e (List.mem_cons_of_mem _ he)) hxy
      rwa [hsame] at hnext
    obtain ⟨b, hrun⟩ := exists_run_startEach hc file w.project rest
    rw [Parallel, after, after, hrun, hrun]
    change Parallel k _ _ w v
    have hboth : Parallel k (launch name config w.project >>= startOthers file w.project rest)
        (launch name config w.project >>= startOthers file w.project rest) w v := by
      have hlaunch := parallel_launch h hc
      obtain ⟨qs, hmatched⟩ := hlaunch.2
      exact hlaunch.bind fun o o' _ _ => parallel_startOthers o o' (hrest hmatched (common_launch h.left hc _))
    cases b with
    | false => exact hrest h rfl
    | true =>
      by_cases hk : name.key? = k
      · cases hw : isRunning w name <;> cases hv : isRunning v name
        · exact hboth
        · exact parallel_launch_left h hc hk (h.launchable (.inr (ne_nil_of_isRunning hv))) hrest
        · rw [← hproject]
          refine Parallel.symm (parallel_launch_left h.symm hc hk (h.symm.launchable (.inr (ne_nil_of_isRunning hw)))
            fun hyw _ => ?_)
          rw [hproject]
          exact (hrest hyw.symm rfl).symm
        · exact hrest h rfl
      · have hrunning : isRunning w name = isRunning v name := h.running.any_eq hk
        rw [hrunning]
        cases isRunning v name with
        | false => exact hboth
        | true => exact hrest h rfl

end Registry

namespace Features

variable {doc : Json}

/-- The servers for a document are launched, and it is opened with them. -/
lemma parallel_openDocument (hdoc : Document.IsTyped doc) (h : Matched k ps w v) :
    Parallel k (openDocument doc) (openDocument doc) w v := by
  obtain ⟨name, hname⟩ := hdoc.name
  have hproject : v.project = w.project := (congrArg World.project h.common :).symm
  have hservers : v.servers = w.servers := (congrArg World.servers h.common :).symm
  have hstarted : Parallel k (Registry.start (.text name) w.project) (Registry.start (.text name) v.project) w v := by
    refine Parallel.bind_left (x := w) rfl (Parallel.symm (Parallel.bind_left (x := v) rfl (Parallel.symm ?_)))
    rw [hproject, hservers]
    exact Registry.parallel_startEach h.configured h
  rw [openDocument, hname]
  refine Parallel.bind_left (x := .text name) rfl (Parallel.symm (Parallel.bind_left (x := .text name) rfl ?_))
  refine Parallel.bind_left (x := v) rfl (Parallel.symm (Parallel.bind_left (x := w) rfl ?_))
  obtain ⟨qs, hmatched⟩ := hstarted.2
  exact hstarted.bind fun _ _ _ _ => parallel_sessionsFor_bind hdoc hmatched fun hL =>
    parallel_openIn hdoc hmatched hL

end Features

end LanguageClient
