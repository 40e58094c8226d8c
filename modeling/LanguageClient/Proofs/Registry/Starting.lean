import LanguageClient.Proofs.Apart.Launching
import LanguageClient.Proofs.Registry.Performing
import LanguageClient.Proofs.Uri.RoundTrip
import Mathlib.Data.List.Nodup

/-!
Starting the servers for a file. Each server is started or not for reasons of its own; only a filter that
cannot be read ends the start of all that come after it.
-/

namespace LanguageClient

open Act World

/-! Filters -/

namespace FileFilter

/-- Whether a pattern occurs in the name of a file. -/
def hasMatch (patterns fileName : Json) : Bool :=
  match patterns.elements with
  | .ok items => items.any fun item => (occurs fileName item matches .ok true)
  | .error _ => false

variable {patterns fileName : Json} {b : Bool}

lemma eq_any_of_occursAny {items : List Json} (h : occursAny fileName items = .ok b) :
    b = items.any fun item => (occurs fileName item matches .ok true) := by
  induction items with
  | nil => exact (Except.ok.inj h).symm
  | cons item rest ih =>
    rw [occursAny] at h
    cases hitem : occurs fileName item with
    | error f => rw [hitem] at h; cases h
    | ok found =>
      rw [hitem] at h
      cases found with
      | true => simpa [hitem] using (Except.ok.inj h).symm
      | false => simpa [hitem] using ih h

/-- A filter that can be read tells whether it has a match. -/
lemma eq_hasMatch_of_admits (h : admits patterns fileName = .ok b) : b = hasMatch patterns fileName := by
  rw [admits] at h
  rw [hasMatch]
  cases hitems : patterns.elements with
  | error f => rw [hitems] at h; cases h
  | ok items =>
    rw [hitems] at h
    exact eq_any_of_occursAny h

end FileFilter

/-! Projects -/

namespace Uri

/-- A name that a file system can give: a surrogate in it stands for a byte. -/
def IsEncodable (p : Text) : Prop := ∀ c ∈ p, c.isSurrogate → c.within 0xDC80 0xDCFF

lemma exists_fileNameBytes {p : Text} (h : IsEncodable p) : ∃ bs, fileNameBytes p = .ok bs := by
  induction p with
  | nil => exact ⟨[], rfl⟩
  | cons c rest ih =>
    obtain ⟨hc, hrest⟩ := List.forall_mem_cons.mp h
    obtain ⟨bs, hbs⟩ := ih hrest
    rw [fileNameBytes, hbs]
    by_cases hlow : c.within 0xDC80 0xDCFF
    · exact ⟨_, by rw [if_pos hlow]; rfl⟩
    · have hscalar : ¬ c.isSurrogate := mt hc hlow
      exact ⟨_, by rw [if_neg hlow, if_neg hscalar]; rfl⟩

end Uri

namespace Registry

/-- There is no project, or it has an absolute path. -/
def IsProject (project : Json) : Prop :=
  project.holds = false ∨ ∃ p, project = .text p ∧ Path.isAbsolute p ∧ Uri.IsEncodable p

lemma IsProject.exists_rootUri {project : Json} (h : IsProject project) :
    ∃ root, rootUri project = .ok root := by
  unfold rootUri
  rcases h with h | ⟨p, rfl, habs, hp⟩
  · exact ⟨.null, by rw [h]; rfl⟩
  · by_cases hholds : (Json.text p).holds
    · have hnormal : Uri.IsEncodable (Path.normalise p) := by
        intro c hc
        obtain rfl | hc := Path.mem_normalise habs hc
        · decide
        · exact hp c hc
      obtain ⟨bs, hbs⟩ := Uri.exists_fileNameBytes hnormal
      refine ⟨.text ("file://" ++ Uri.escape bs), ?_⟩
      simp only [hholds, Uri.ofPath, habs, hbs]
      rfl
    · exact ⟨.null, by rw [Bool.not_eq_true] at hholds; rw [hholds]; rfl⟩

/-! Tables of servers -/

/-- Servers that can be configured, each once and under its own name. -/
structure IsTable (servers : List (Json × Fields)) : Prop where
  checked : ∀ entry ∈ servers, checkConfig (.object entry.2) = .ok entry.2
  keyed : ∀ entry ∈ servers, entry.1.key? = (entry.2.getD "name" .null).key?
  distinct : (servers.map (·.1.key?)).Nodup

variable {servers : List (Json × Fields)} {name : Json} {config : Fields}

lemma isTable_nil : IsTable [] where
  checked _ h := (List.not_mem_nil h).elim
  keyed _ h := (List.not_mem_nil h).elim
  distinct := List.nodup_nil

lemma mem_putServer {entry : Json × Fields} (h : entry ∈ putServer name config servers) :
    entry.2 = config ∨ entry ∈ servers := by
  induction servers with
  | nil => exact .inl (congrArg Prod.snd (List.mem_singleton.mp h))
  | cons other rest ih =>
    rw [putServer] at h
    split at h
    · rcases List.mem_cons.mp h with rfl | h
      · exact .inl rfl
      · exact .inr (List.mem_cons_of_mem _ h)
    · rcases List.mem_cons.mp h with rfl | h
      · exact .inr List.mem_cons_self
      · exact (ih h).imp_right (List.mem_cons_of_mem _)

lemma keys_putServer (name : Json) (config : Fields) (servers : List (Json × Fields)) :
    (putServer name config servers).map (·.1.key?) =
      if name.key? ∈ servers.map (·.1.key?) then servers.map (·.1.key?)
      else servers.map (·.1.key?) ++ [name.key?] := by
  induction servers with
  | nil => rfl
  | cons other rest ih =>
    rw [putServer]
    by_cases hkey : other.1.key? = name.key?
    · simp [hkey]
    · simp only [hkey, if_false, List.map_cons, ih, List.mem_cons, Ne.symm hkey, false_or]
      split_ifs <;> rfl

lemma IsTable.put (h : IsTable servers) {config : Fields} (hc : checkConfig (.object config) = .ok config) :
    IsTable (putServer (config.getD "name" .null) config servers) where
  checked entry hentry := by
    rcases mem_putServer hentry with he | hmem
    · rw [he, hc]
    · exact h.checked entry hmem
  keyed := putServer_keyed rfl h.keyed
  distinct := by
    rw [keys_putServer]
    split_ifs with hmem
    · exact h.distinct
    · exact List.nodup_append.mpr ⟨h.distinct, List.pairwise_singleton _ _, fun a ha b hb hab =>
        hmem (List.mem_singleton.mp hb ▸ hab ▸ ha)⟩

lemma IsTable.tail {entry : Json × Fields} (h : IsTable (entry :: servers)) : IsTable servers where
  checked e he := h.checked e (List.mem_cons_of_mem _ he)
  keyed e he := h.keyed e (List.mem_cons_of_mem _ he)
  distinct := (List.nodup_cons.mp h.distinct).2

lemma IsTable.key_ne {entry other : Json × Fields} (h : IsTable (entry :: servers)) (ho : other ∈ servers) :
    entry.1.key? ≠ other.1.key? := fun hkey =>
  (List.nodup_cons.mp h.distinct).1 (List.mem_map.mpr ⟨other, ho, hkey.symm⟩)

lemma eq_object_of_checkConfig {config : Json} {fields : Fields} (h : checkConfig config = .ok fields) :
    config = .object fields := by
  unfold checkConfig at h
  cases config with
  | object given =>
    dsimp only [Json.fields, bind, Except.bind] at h
    split at h
    · cases h
    · exact congrArg _ (Except.ok.inj h)
  | _ => cases h

/-- Whatever configurations are added, the servers are a table. -/
lemma ends_addServer {w : World} (h : IsTable w.servers) (config : Json) :
    Ends (addServer config) w fun _ v => IsTable v.servers := by
  refine ends_check_bind (fun fields hfields => ?_) fun _ _ => h
  refine ends_check_bind (fun key _ => ?_) fun _ _ => h
  exact h.put (eq_object_of_checkConfig hfields ▸ hfields)

/-- Whether a server is to be started for a file: this is up to the server itself and to the world. -/
def wants (w : World) (fileName : Json) (entry : Json × Fields) : Bool :=
  FileFilter.hasMatch (entry.2.getD "file_patterns" .null) fileName && !isRunning w entry.1 &&
    !w.fails (entry.2.getD "name" .null)

end Registry

/-! What a start comes to -/

/-- The server of a session was launched, and its answer is due. -/
structure Session.Begins (config : Fields) (s : Session) : Prop where
  config : s.config = config
  link : s.link = some {}
  status : s.status = .initializing

/-- These servers were started one after the other, each with a session of its own. -/
structure World.Started (entries : List (Json × Fields)) (ids : List SessionId) (v w : World) : Prop where
  length : v.sessions.length ≤ w.sessions.length
  common : w.common = v.common
  kept : ∀ id < v.sessions.length, w.session id = v.session id
  count : ids.length = entries.length
  new : ∀ id ∈ ids, v.sessions.length ≤ id ∧ id < w.sessions.length
  apart : ids.Pairwise (· < ·)
  begun : ∀ p ∈ entries.zip ids, Session.Begins p.1.2 (w.session p.2)
  running : w.running = v.running ++ (entries.map Prod.fst).zip ids
  alone : ∀ id, v.sessions.length ≤ id → (w.session id).link.isSome → id ∈ ids

namespace World.Started

variable {entries others : List (Json × Fields)} {ids more : List SessionId} {u v w : World}

/-- Nothing was started. -/
lemma of_unlinked (length : v.sessions.length ≤ w.sessions.length) (common : w.common = v.common)
    (kept : ∀ id < v.sessions.length, w.session id = v.session id) (running : w.running = v.running)
    (unlinked : ∀ id, v.sessions.length ≤ id → (w.session id).link = none) : Started [] [] v w where
  length := length
  common := common
  kept := kept
  count := rfl
  new _ h := (List.not_mem_nil h).elim
  apart := .nil
  begun _ h := (List.not_mem_nil h).elim
  running := by rw [running]; exact (List.append_nil _).symm
  alone id hid hlink := by
    rw [unlinked id hid] at hlink
    cases hlink

lemma of_quiet (h : Quiet v w) : Started [] [] v w :=
  of_unlinked (Nat.le_of_eq (congrArg List.length h.sessions.symm)) h.common (fun id _ => h.session id) h.running
    fun id hid => by rw [h.session, session_eq_default hid]; rfl

lemma append (h : Started entries ids u v) (g : Started others more v w) :
    Started (entries ++ others) (ids ++ more) u w where
  length := Nat.le_trans h.length g.length
  common := g.common.trans h.common
  kept id hid := (g.kept id (Nat.lt_of_lt_of_le hid h.length)).trans (h.kept id hid)
  count := by rw [List.length_append, List.length_append, h.count, g.count]
  new id hid := by
    rcases List.mem_append.mp hid with hid | hid
    · exact ⟨(h.new id hid).1, Nat.lt_of_lt_of_le (h.new id hid).2 g.length⟩
    · exact ⟨Nat.le_trans h.length (g.new id hid).1, (g.new id hid).2⟩
  apart := List.pairwise_append.mpr ⟨h.apart, g.apart, fun id hid other ho =>
    Nat.lt_of_lt_of_le (h.new id hid).2 (g.new other ho).1⟩
  begun p hp := by
    rw [List.zip_append h.count.symm] at hp
    rcases List.mem_append.mp hp with hp | hp
    · rw [g.kept p.2 (h.new p.2 (List.of_mem_zip hp).2).2]
      exact h.begun p hp
    · exact g.begun p hp
  running := by
    rw [g.running, h.running, List.map_append, List.zip_append (by rw [List.length_map, h.count]),
      List.append_assoc]
  alone id hid hlink := by
    by_cases hold : id < v.sessions.length
    · rw [g.kept id hold] at hlink
      exact List.mem_append_left _ (h.alone id hid hlink)
    · exact List.mem_append_right _ (g.alone id (Nat.le_of_not_lt hold) hlink)

lemma fails_eq (h : Started entries ids v w) (name : Json) : w.fails name = v.fails name :=
  (congrArg (fun x : World => x.fails name) h.common :)

/-- What runs ran before, or was started. -/
lemma isRunning_eq (h : Started entries ids v w) (name : Json) : Registry.isRunning w name =
    (Registry.isRunning v name || entries.any fun entry => entry.1.key? = name.key?) := by
  have hnames : ((entries.map Prod.fst).zip ids).map Prod.fst = entries.map Prod.fst :=
    List.map_fst_zip (by rw [List.length_map, h.count])
  have hany : ((entries.map Prod.fst).zip ids).any (fun p => p.1.key? = name.key?) =
      entries.any fun entry => entry.1.key? = name.key? := by
    have hboth := congrArg (fun names : List Json => names.any fun n => n.key? = name.key?) hnames
    simpa only [List.any_map, Function.comp_def] using hboth
  rw [Registry.isRunning, h.running, List.any_append, hany]
  rfl

/-- What was started makes no difference to the servers of other names. -/
lemma wants_eq (h : Started entries ids v w) {other : Json × Fields} (file : Json)
    (ho : ∀ entry ∈ entries, entry.1.key? ≠ other.1.key?) :
    Registry.wants w file other = Registry.wants v file other := by
  have hnone : (entries.any fun entry => entry.1.key? = other.1.key?) = false :=
    List.any_eq_false.mpr fun entry he => by simpa using ho entry he
  rw [Registry.wants, Registry.wants, h.isRunning_eq, hnone, Bool.or_false, h.fails_eq]

/-- A session without a link is no start. -/
lemma of_append {t : Session} (hlink : t.link = none) (sessions : w.sessions = v.sessions ++ [t])
    (common : w.common = v.common) (running : w.running = v.running) : Started [] [] v w := by
  have hlength : w.sessions.length = v.sessions.length + 1 := by rw [sessions, List.length_append]; rfl
  refine of_unlinked (hlength ▸ Nat.le_succ _) common (fun id hid => session_append_of_lt sessions hid) running
    fun id hid => ?_
  rcases session_append_cases sessions id with ⟨hlt, -⟩ | ⟨-, hs⟩ | hle
  · exact absurd hlt (Nat.not_lt_of_le hid)
  · rw [hs, hlink]
  · rw [session_eq_default hle]
    rfl

lemma of_begins {entry : Json × Fields} {s : Session} (begins : s.Begins entry.2)
    (sessions : w.sessions = v.sessions ++ [s]) (common : w.common = v.common)
    (running : w.running = v.running ++ [(entry.1, v.sessions.length)]) :
    Started [entry] [v.sessions.length] v w := by
  have hlength : w.sessions.length = v.sessions.length + 1 := by rw [sessions, List.length_append]; rfl
  exact {
    length := hlength ▸ Nat.le_succ _
    common := common
    kept := fun id hid => session_append_of_lt sessions hid
    count := rfl
    new := fun id hid => by
      obtain rfl := List.mem_singleton.mp hid
      exact ⟨Nat.le_refl _, hlength ▸ Nat.lt_succ_self _⟩
    apart := List.pairwise_singleton _ _
    begun := fun p hp => by
      obtain rfl := List.mem_singleton.mp hp
      rwa [session_append_length sessions]
    running := running
    alone := fun id hid hlink => by
      rcases session_append_cases sessions id with ⟨hlt, -⟩ | ⟨he, -⟩ | hle
      · exact absurd hlt (Nat.not_lt_of_le hid)
      · exact List.mem_singleton.mpr he
      · rw [session_eq_default hle] at hlink
        cases hlink }

end World.Started

namespace Registry

variable {name project : Json} {config : Fields} {w : World} {id : SessionId}

/-- A session that is opened has its server, or nothing has become of it. -/
lemma launches_embark (hid : id < w.sessions.length) (hlink : (w.session id).link = none)
    (hstatus : (w.session id).status = .uninitialized) (hroot : ∃ root, rootUri project = .ok root)
    (title : Text) : Ends (embark title project id) w fun r v => v.running = w.running ∧
      ((∃ f, r = .ok (.error f) ∧ v.sessions = w.sessions) ∨
        r = .ok (.ok ()) ∧ ∃ s : Session, s.link = some {} ∧ s.status = .initializing ∧
          v.sessions = w.sessions.set id s) := by
  refine ends_record_bind (ends_check_bind (fun root hr => ?_) fun f hf => ?_)
  · obtain ⟨path, hpath⟩ := exists_rootPathOf hr
    have hlaunches := Session.launches_handshake (w := w.record (.starting title)) hid hlink hstatus hpath
      clientName clientVersion
    refine Ends.attempt (hlaunches.mono ?_)
    rintro r v (⟨f, rfl, hv⟩ | ⟨rfl, s, -, hs, hstarted, hv⟩)
    · exact ⟨hv.running, .inl ⟨f, rfl, hv.sessions⟩⟩
    · exact ⟨hv.running, .inr ⟨rfl, s, hs, hstarted, hv.sessions⟩⟩
  · obtain ⟨root, hroot⟩ := hroot
    cases hf.symm.trans hroot

/-- A new session runs, unless its server cannot be launched. -/
lemma started_board {t : Session} (hlink : t.link = none) (hstatus : t.status = .uninitialized) (hown : t.IsOwn)
    (hlauncher : w.launcher = .memory) (hroot : ∃ root, rootUri project = .ok root) (title : Text) (name : Json) :
    Ends (embark title project w.sessions.length >>= board name w.sessions.length) (w.add t) fun r u =>
      ∃ o : Option SessionId, r = .ok o ∧
        w.Started (if w.fails t.name then [] else [(name, t.config)]) o.toList u := by
  have hlt := lt_length_add w t
  have hsession := session_add_length w t
  have hlink' := hlink
  rw [← hsession] at hlink' hstatus hown
  have hspares : Ends (embark title project w.sessions.length) (w.add t) fun _ v =>
      Spares w.sessions.length (w.add t) v :=
    (local_embark title project ⟨hlt, hlt, rfl, hown, rfl, rfl⟩).2.2
  have hembark := @ends_embark (w.add t) w.sessions.length title project hlink' hstatus
  refine Ends.bind ((hspares.and (hembark.and (launches_embark hlt hlink' hstatus hroot title))).mono ?_)
  rintro r v ⟨hv, ⟨-, hresult⟩, hrunning, hsessions⟩
  have hresult := hresult hlauncher hroot
  rw [hsession] at hresult
  change if w.fails t.name then _ else _ at hresult
  split_ifs at hresult ⊢ with hfails
  · obtain ⟨text, rfl⟩ := hresult
    obtain ⟨f, -, hsessions⟩ := hsessions.resolve_right fun h => by cases h.1
    refine next_ok ⟨none, rfl, ?_⟩
    exact (World.Started.of_append hlink hsessions hv.common hrunning).append (.of_quiet (quiet_log ..))
  · obtain rfl := hresult
    obtain ⟨-, s, hs, hstarted, hsessions⟩ := hsessions.resolve_left fun ⟨f, h, _⟩ => by cases h
    have hadded : v.sessions = w.sessions ++ [s] := by
      rw [hsessions, add, List.set_append_right _ _ (Nat.le_refl _), Nat.sub_self]
      rfl
    have hconfig : s.config = t.config := by
      rw [← hsession, ← session_append_length hadded]
      exact hv.stays.2.1
    refine next_ok ⟨some w.sessions.length, rfl, ?_⟩
    exact .of_begins ⟨hconfig, hs, hstarted⟩ hadded hv.common (congrArg (· ++ _) hrunning)

/-- A server is started, unless it cannot be launched. -/
lemma started_launch (hc : checkConfig (.object config) = .ok config) (hlauncher : w.launcher = .memory)
    (hroot : ∃ root, rootUri project = .ok root) (name : Json) :
    Ends (launch name config project) w fun r u => ∃ o : Option SessionId, r = .ok o ∧
      w.Started (if w.fails (config.getD "name" .null) then [] else [(name, config)]) o.toList u := by
  obtain ⟨x, hquiet, hrun⟩ := run_launch hc name project w
  have hfails : x.fails (config.getD "name" .null) = w.fails (config.getD "name" .null) :=
    (congrArg (fun v : World => v.fails (config.getD "name" .null)) hquiet.common :)
  rw [Ends, hrun, ← hfails]
  obtain ⟨o, ho, hstarted⟩ := started_board (w := x) (t := enrolled config) rfl rfl (isOwn_enrolled config)
    ((congrArg World.launcher hquiet.common :).trans hlauncher) hroot (enrolled config).title name
  exact ⟨o, ho, (World.Started.of_quiet hquiet).append hstarted⟩

/-! One server after the other -/

/-- Whether the filter of a server can be read, as far as it takes to tell whether it is for a file. -/
def Tells (file : Text) (config : Fields) : Prop :=
  ∃ b, FileFilter.admits (config.getD "file_patterns" .null) (.text file) = .ok b

/-- Patterns that are all valid are read for every file. -/
lemma tells_of_areValid (h : FileFilter.AreValid (config.getD "file_patterns" .null)) (file : Text) :
    Tells file config :=
  h.exists_admits file

variable {file : Text} {before rest : List (Json × Fields)} {Q : Except Fault (List SessionId) → World → Prop}

lemma ends_startOthers (o : Option SessionId) (h : Ends (startEach (.text file) project rest) w fun r v =>
    Q (r.map (o.toList ++ ·)) v) : Ends (startOthers file project rest o) w Q := by
  cases o with
  | none =>
    refine h.mono fun r v hq => ?_
    cases r <;> exact hq
  | some id =>
    refine Ends.bind (h.mono fun r v hq => ?_)
    cases r <;> exact hq

/-- A server is started if it is wanted, and then come the others. -/
lemma ends_startEach_cons (hc : checkConfig (.object config) = .ok config) (hlauncher : w.launcher = .memory)
    (hroot : ∃ root, rootUri project = .ok root) (htells : Tells file config)
    (h : ∀ ids u, w.Started ([(name, config)].filter (wants w (.text file))) ids u →
      Ends (startEach (.text file) project rest) u fun r v => Q (r.map (ids ++ ·)) v) :
    Ends (startEach (.text file) project ((name, config) :: rest)) w Q := by
  obtain ⟨b, hb⟩ := htells
  have hwants : wants w (.text file) (name, config) =
      (b && !isRunning w name && !w.fails (config.getD "name" .null)) := by
    rw [wants, ← FileFilter.eq_hasMatch_of_admits hb]
  rw [startEach_cons hc, hb]
  refine ends_check_bind (fun isFor hisFor => ends_get_bind ?_) fun _ hf => by cases hf
  obtain rfl := Except.ok.inj hisFor
  split
  next hskip =>
    have hunwanted : wants w (.text file) (name, config) = false := by
      rw [hwants]
      simp only [Bool.or_eq_true, Bool.not_eq_true'] at hskip
      rcases hskip with hskip | hskip <;> simp [hskip]
    refine ends_startOthers none (h [] w ?_)
    rw [List.filter_cons_of_neg (by simp [hunwanted])]
    exact .of_quiet (.refl w)
  next htry =>
    have hwanted : wants w (.text file) (name, config) = !w.fails (config.getD "name" .null) := by
      rw [hwants]
      simp only [Bool.or_eq_true, Bool.not_eq_true', not_or, Bool.not_eq_false, Bool.not_eq_true] at htry
      simp [htry.1, htry.2]
    refine Ends.bind ((started_launch hc hlauncher hroot name).mono ?_)
    rintro r u ⟨o, rfl, hstarted⟩
    refine next_ok (ends_startOthers o (h o.toList u ?_))
    rw [List.filter_singleton, hwanted]
    cases hfails : w.fails (config.getD "name" .null) with
    | true => simpa [hfails] using hstarted
    | false => simpa [hfails] using hstarted

/-- The servers that come first have their turn, each for itself. -/
lemma ends_startEach_append (hs : IsTable (before ++ rest)) (hlauncher : w.launcher = .memory)
    (hroot : ∃ root, rootUri project = .ok root) (htells : ∀ entry ∈ before, Tells file entry.2)
    (h : ∀ ids u, w.Started (before.filter (wants w (.text file))) ids u →
      Ends (startEach (.text file) project rest) u fun r v => Q (r.map (ids ++ ·)) v) :
    Ends (startEach (.text file) project (before ++ rest)) w Q := by
  -- What is started on the way does not run under the names that come later, which are all different.
  induction before generalizing w Q with
  | nil => exact ends_startOthers none (h [] w (.of_quiet (.refl w)))
  | cons entry before ih =>
    rw [List.forall_mem_cons] at htells
    refine ends_startEach_cons (hs.checked _ List.mem_cons_self) hlauncher hroot htells.1 fun ids u hu => ?_
    refine ih hs.tail ((congrArg World.launcher hu.common :).trans hlauncher) htells.2 fun more v hv => ?_
    have hsame : before.filter (wants u (.text file)) = before.filter (wants w (.text file)) :=
      List.filter_congr fun other ho => hu.wants_eq _ fun e he => by
        obtain ⟨he, -⟩ := List.mem_filter.mp he
        rw [List.mem_singleton.mp he]
        exact hs.key_ne (List.mem_append_left _ ho)
    rw [hsame] at hv
    have hboth := h (ids ++ more) v (by
      rw [← List.singleton_append, List.filter_append]
      exact hu.append hv)
    refine hboth.mono fun r x hq => ?_
    cases r with
    | error f => exact hq
    | ok last => simpa [Except.map] using hq

/-- After a start the servers run that ran before, and those that were wanted. -/
lemma isRunning_iff {u v : World} {servers : List (Json × Fields)} {ids : List SessionId} (hs : IsTable servers)
    (h : u.Started (servers.filter (wants u (.text file))) ids v) {entry : Json × Fields} (hentry : entry ∈ servers) :
    isRunning v entry.1 ↔ isRunning u entry.1 ∨ wants u (.text file) entry := by
  rw [h.isRunning_eq, Bool.or_eq_true, List.any_eq_true]
  refine or_congr_right ⟨fun ⟨other, hother, hkey⟩ => ?_, fun hwants => ?_⟩
  · obtain ⟨hother, hwants⟩ := List.mem_filter.mp hother
    obtain rfl := List.inj_on_of_nodup_map hs.distinct hother hentry (of_decide_eq_true hkey)
    exact hwants
  · exact ⟨entry, List.mem_filter.mpr ⟨hentry, hwants⟩, decide_eq_true rfl⟩

/-- If all filters can be read, the servers that are wanted are started in their order, and none of them
depends on the others. The first filter that cannot be read ends the start: what comes after it is left
out, whether it is wanted or not. -/
theorem start_of_isTable (w : World) (file : Text) (project : Json) (hlauncher : w.launcher = .memory)
    (hs : IsTable w.servers) (hproject : IsProject project) :
    ((∀ entry ∈ w.servers, Tells file entry.2) → Ends (start (.text file) project) w fun r v =>
      (∃ ids, r = .ok ids ∧ w.Started (w.servers.filter (wants w (.text file))) ids v) ∧
      ∀ servers, IsTable servers → (∀ entry ∈ servers, Tells file entry.2) →
        Ends (start (.text file) project) { w with servers } fun _ u =>
          ∀ entry ∈ w.servers, entry ∈ servers → (isRunning u entry.1 ↔ isRunning v entry.1)) ∧
    ∀ before entry after f, w.servers = before ++ entry :: after → (∀ other ∈ before, Tells file other.2) →
      FileFilter.admits (entry.2.getD "file_patterns" .null) (.text file) = .error f →
      Ends (start (.text file) project) w fun r v =>
        r = .error f ∧ ∃ ids, w.Started (before.filter (wants w (.text file))) ids v := by
  have hroot := hproject.exists_rootUri
  have hall : ∀ servers, IsTable servers → (∀ entry ∈ servers, Tells file entry.2) →
      Ends (start (.text file) project) { w with servers } fun r v => ∃ ids, r = .ok ids ∧
        World.Started (servers.filter (wants w (.text file))) ids { w with servers } v := by
    intro servers hservers htells
    rw [← List.append_nil servers] at hservers
    refine ends_get_bind ?_
    change Ends (startEach (.text file) project servers) _ _
    rw [← List.append_nil servers]
    refine ends_startEach_append hservers hlauncher hroot htells fun ids u hu => ?_
    rw [List.append_nil] at hu ⊢
    exact ⟨ids, congrArg Except.ok (List.append_nil ids), hu⟩
  refine ⟨fun htells => ?_, fun before entry after f hservers htells hf => ?_⟩
  · refine (hall w.servers hs htells).mono fun r v ⟨ids, hr, hv⟩ => ⟨⟨ids, hr, hv⟩, ?_⟩
    intro servers hservers htells'
    refine (hall servers hservers htells').mono fun r' u ⟨more, _, hu⟩ entry hentry hother => ?_
    rw [isRunning_iff hs hv hentry]
    exact isRunning_iff (u := { w with servers }) hservers hu hother
  · refine ends_get_bind ?_
    rw [hservers] at hs ⊢
    refine ends_startEach_append hs hlauncher hroot htells fun ids u hu => ?_
    rw [startEach_cons (hs.checked entry (List.mem_append_right _ List.mem_cons_self)), hf]
    exact ⟨rfl, ids, hu⟩

/-- Of three servers one is for another file, and one cannot be launched. -/
theorem start_of_isTable_launched :
    let config (name pattern : Json) : Fields :=
      [("name", name), ("command", .list [name]), ("file_patterns", .list [pattern])]
    let w : World := {
      servers := [("one", config "one" "\\.md$"), ("two", config "two" "\\.py$"), ("three", config "three" "x")]
      failing := ["three"] }
    IsTable w.servers ∧ IsProject "/project" ∧ Ends (start (.text "/x.py") "/project") w fun r v =>
      ∃ id, r = .ok [id] ∧ w.Started [("two", config "two" "\\.py$")] [id] v := by
  intro config w
  have hchecked : ∀ name pattern : Text, name ≠ [] → checkConfig (.object (config name pattern)) =
      .ok (config name pattern) := fun name pattern hname => by
    cases name with
    | nil => exact (hname rfl).elim
    | cons c rest => rfl
  have hs : IsTable w.servers := ((isTable_nil.put (hchecked "one" "\\.md$" (by decide))).put
    (hchecked "two" "\\.py$" (by decide))).put (hchecked "three" "x" (by decide))
  have hproject : IsProject "/project" := by
    refine .inr ⟨"/project", rfl, by decide, ?_⟩
    unfold Uri.IsEncodable
    decide
  have hone : wants w (.text "/x.py") ("one", config "one" "\\.md$") = false := by decide +kernel
  have htwo : wants w (.text "/x.py") ("two", config "two" "\\.py$") = true := by decide +kernel
  have hthree : wants w (.text "/x.py") ("three", config "three" "x") = false := by decide +kernel
  have htells : ∀ (name : Json) (pattern : Text), (Pattern.parse pattern).isOk →
      Tells "/x.py" (config name pattern) := fun name pattern h => by
    cases hp : Pattern.parse pattern with
    | error f => rw [hp] at h; cases h
    | ok p =>
      exact tells_of_areValid ⟨[.text pattern], rfl, fun item hitem => ⟨pattern, p, List.mem_singleton.mp hitem, hp⟩⟩ _
  have hall : ∀ entry ∈ w.servers, Tells "/x.py" entry.2 := by
    simp only [w, List.forall_mem_cons]
    exact ⟨htells _ _ (by decide +kernel), htells _ _ (by decide +kernel), htells _ _ (by decide +kernel), by simp⟩
  have hends := (start_of_isTable w "/x.py" "/project" rfl hs hproject).1 hall
  refine ⟨hs, hproject, hends.mono ?_⟩
  rintro r v ⟨⟨ids, hr, hv⟩, -⟩
  have hwanted : w.servers.filter (wants w (.text "/x.py")) = [(.text "two", config "two" "\\.py$")] := by
    simp [w, hone, htwo, hthree]
  rw [hwanted] at hv
  obtain ⟨id, rfl⟩ := List.length_eq_one_iff.mp hv.count
  exact ⟨id, hr, hv⟩

/-- A server is not started for a file that it is for, since another server has half a set in its
filter. -/
theorem not_started_of_mem_outcomes_bracket :
    let config (name pattern : Json) : Fields :=
      [("name", name), ("command", .list [name]), ("file_patterns", .list [pattern])]
    let actions : List Action := [.registry (.addServer (.object (config "one" "["))),
      .registry (.addServer (.object (config "two" "\\.py$"))), .registry (.start "/x.py" .null)]
    ∃ o ∈ outcomes {} actions, (o.result matches .error .badPattern) ∧ o.world.servers.length = 2 ∧
      wants o.world "/x.py" ("two", config "two" "\\.py$") ∧ isRunning o.world "two" = false := by
  decide +kernel

end Registry

end LanguageClient
