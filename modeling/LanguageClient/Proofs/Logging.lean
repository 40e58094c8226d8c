import LanguageClient.Performance
import LanguageClient.Proofs.Act
import Mathlib.Data.List.Infix
import Mathlib.Data.List.Nodup
import Mathlib.Data.List.Perm.Subperm
import Mathlib.Tactic.Lemma

/-!
Loggers that are set up and torn down any number of times. A tear-down detaches the console wherever it is.
It detaches and closes the log file opened last; a file that was not given up when the next one was opened
stays attached for good, and the traffic is written to both.
-/

namespace LanguageClient.Logging

def hasLevels (settings : Json) : Bool :=
  (Settings.get settings "logger.plugin.level" "INFO" >>= Level.read).isOk &&
    (Settings.get settings "logger.client.level" "INFO" >>= Level.read).isOk

def namesFile (settings : Json) : Bool :=
  match Settings.get settings "log_file" .null with
  | .ok file => file.holds
  | .error _ => false

inductive Use where
  | setUp (settings : Json)
  | emit (source : Source) (level : Json) (text : Text)
  | tearDown

/-- A set-up that comes as far as to open a log file. -/
def Use.opens : Use → Bool
  | .setUp settings => hasLevels settings && namesFile settings
  | _ => false

def use (s : Logging) : Use → Logging
  | .setUp settings => ((setUp settings).run s).2
  | .emit source level text => (s.emit source level text).2
  | .tearDown => s.tearDown

def useAll (s : Logging) (uses : List Use) : Logging := uses.foldl use s

/-- A tear-down comes before the next log file is opened. -/
def GivesUp (uses : List Use) : Prop :=
  ∃ quiet rest, uses = quiet ++ .tearDown :: rest ∧ ∀ u ∈ quiet, u.opens = false

/-- Between any two openings of a log file there is a tear-down. -/
def IsPaired (uses : List Use) : Prop :=
  ∀ before u between v rest, uses = before ++ u :: (between ++ v :: rest) → u.opens → v.opens →
    .tearDown ∈ between

def loggers (s : Logging) : List Logger := [s.plugin, s.client, s.traffic]

/-- Nothing is left of any set-up. -/
structure IsUndone (s : Logging) : Prop where
  detached : ∀ l ∈ s.loggers, l.sinks = []
  closed : ∀ file < s.opened, file ∈ s.closed

def fileLine (text : Text) : Text := "[parley.Client.json] DEBUG " ++ text ++ "\n"

variable {s s' : Logging} {l : Logger} {x y : Sink} {u : Use} {uses rest : List Use} {file : Nat}

/-! Sinks -/

lemma mem_attach : x ∈ (l.attach y).sinks ↔ x ∈ l.sinks ∨ x = y := by
  rw [Logger.attach]
  split
  next h =>
    have hy : y ∈ l.sinks := List.contains_iff_mem.mp h
    exact ⟨.inl, fun hx => hx.elim id fun hx => hx ▸ hy⟩
  next => rw [List.mem_append, List.mem_singleton]

lemma mem_detach : x ∈ (l.detach y).sinks ↔ x ∈ l.sinks ∧ x ≠ y := by
  rw [Logger.detach, List.mem_filter, decide_eq_true_eq]

lemma nodup_attach (h : l.sinks.Nodup) : (l.attach y).sinks.Nodup := by
  rw [Logger.attach]
  split
  next => exact h
  next hy =>
    have hy : y ∉ l.sinks := fun hy' => hy (List.contains_iff_mem.mpr hy')
    exact List.nodup_append.mpr ⟨h, List.nodup_singleton y, fun a ha b hb hab =>
      hy (List.mem_singleton.mp hb ▸ hab ▸ ha)⟩

/-! One use -/

/-- The plugin and the clients have no sink but the console. -/
def OnlyConsole (s : Logging) : Prop := ∀ x, x ∈ s.plugin.sinks ∨ x ∈ s.client.sinks → x = .console

/-- What is done about the console and the levels has nothing to do with log files. -/
structure Aside (s s' : Logging) : Prop where
  traffic : s'.traffic = s.traffic
  current : s'.current = s.current
  opened : s'.opened = s.opened
  closed : s'.closed = s.closed
  consoles : s.OnlyConsole → s'.OnlyConsole

def withPlugin (s : Logging) (level : Json) : Logging :=
  { s with plugin := { s.plugin.attach .console with level := level } }

def withClient (s : Logging) (level : Json) : Logging :=
  { s with client := { s.client.attach .console with level := level } }

lemma Aside.refl (s : Logging) : Aside s s := ⟨rfl, rfl, rfl, rfl, id⟩

lemma Aside.trans {t : Logging} (h : Aside s s') (g : Aside s' t) : Aside s t :=
  ⟨g.traffic.trans h.traffic, g.current.trans h.current, g.opened.trans h.opened, g.closed.trans h.closed,
    fun hs => g.consoles (h.consoles hs)⟩

lemma aside_withPlugin (s : Logging) (level : Json) : Aside s (s.withPlugin level) := by
  refine ⟨rfl, rfl, rfl, rfl, fun h => ?_⟩
  rintro x (hx | hx)
  · exact (mem_attach.mp hx).elim (fun hx => h x (.inl hx)) id
  · exact h x (.inr hx)

lemma aside_withClient (s : Logging) (level : Json) : Aside s (s.withClient level) := by
  refine ⟨rfl, rfl, rfl, rfl, fun h => ?_⟩
  rintro x (hx | hx)
  · exact h x (.inl hx)
  · exact (mem_attach.mp hx).elim (fun hx => h x (.inr hx)) id

lemma exists_setUp (settings : Json) (s : Logging) : ∃ s', Aside s s' ∧
    s.use (.setUp settings) = if (Use.setUp settings).opens then s'.openFile else s' := by
  rw [use, Use.opens, hasLevels, namesFile, setUp]
  generalize (Settings.get settings "logger.plugin.level" "INFO" >>= Level.read) = plugin
  generalize (Settings.get settings "logger.client.level" "INFO" >>= Level.read) = client
  generalize Settings.get settings "log_file" .null = file
  -- Each reading of the settings may be the last thing done; the log file is opened after all of them.
  cases plugin with
  | error f => exact ⟨s.withPlugin (s.plugin.attach .console).level, aside_withPlugin s _, rfl⟩
  | ok level =>
    have hplugin := aside_withPlugin s level
    cases client with
    | error f => exact ⟨_, hplugin.trans (aside_withClient _ (s.client.attach .console).level), rfl⟩
    | ok level' =>
      refine ⟨_, hplugin.trans (aside_withClient _ level'), ?_⟩
      cases file with
      | error f => rfl
      | ok file =>
        change Prod.snd (ExceptT.run (if file.holds then (modify openFile : Setup Unit) else pure ()) _) =
          if file.holds then _ else _
        cases file.holds <;> rfl

def deliver (line : Text) (p : List Text × Logging) : Sink → List Text × Logging
  | .console => (p.1 ++ [consoleLine line], p.2)
  | .file _ => (p.1, p.2.write line)

lemma aside_write (s : Logging) (line : Text) : Aside s (s.write line) := by
  rw [write]
  split
  next => exact .refl s
  next => exact ⟨rfl, rfl, rfl, rfl, id⟩

lemma aside_deliver (line : Text) (sinks : List Sink) (p : List Text × Logging) :
    Aside p.2 (sinks.foldl (deliver line) p).2 := by
  induction sinks generalizing p with
  | nil => exact .refl _
  | cons sink sinks ih =>
    cases sink with
    | console => exact ih (deliver line p .console)
    | file n => exact (aside_write p.2 line).trans (ih (deliver line p (.file n)))

lemma emit_eq (s : Logging) (source : Source) (level : Json) (text : Text) :
    s.emit source level text =
      if (Level.ofNumber? level).getD 0 ≤ 0 ||
        (Level.ofNumber? level).getD 0 < (Level.ofNumber? (s.loggerOf source).2.1).getD 0 then ([], s)
      else (s.loggerOf source).1.sinks.foldl
        (deliver ("[" ++ (s.loggerOf source).2.2 ++ "] " ++ Level.title level ++ " " ++ text)) ([], s) := by
  refine if_congr Iff.rfl rfl (congrArg (fun f => List.foldl f ([], s) _) ?_)
  funext p sink
  cases sink <;> rfl

lemma aside_emit (s : Logging) (source : Source) (level : Json) (text : Text) :
    Aside s (s.emit source level text).2 := by
  rw [emit_eq]
  split
  next => exact .refl s
  next => exact aside_deliver _ _ ([], s)

inductive Goes (s : Logging) : Use → Logging → Prop
  | aside {u : Use} {s' : Logging} (quiet : u.opens = false) (kept : u ≠ .tearDown) (same : Aside s s') : Goes s u s'
  | opens {u : Use} {s' : Logging} (opens : u.opens) (same : Aside s s') : Goes s u s'.openFile
  | tearDown : Goes s .tearDown s.tearDown

lemma goes_use (s : Logging) (u : Use) : Goes s u (s.use u) := by
  cases u with
  | setUp settings =>
    obtain ⟨s', same, hs⟩ := exists_setUp settings s
    rw [hs]
    split
    next hopens => exact .opens hopens same
    next hquiet => exact .aside (eq_false_of_ne_true hquiet) (by rintro ⟨⟩) same
  | emit source level text => exact .aside rfl (by rintro ⟨⟩) (aside_emit s source level text)
  | tearDown => exact .tearDown

lemma Goes.exists_openFile (h : Goes s u s') (hu : u.opens) : ∃ t, Aside s t ∧ s' = t.openFile := by
  cases h with
  | aside quiet => cases hu.symm.trans quiet
  | opens _ same => exact ⟨_, same, rfl⟩
  | tearDown => cases hu

/-! Histories -/

lemma useAll_append (s : Logging) (uses more : List Use) :
    s.useAll (uses ++ more) = (s.useAll uses).useAll more :=
  List.foldl_append

lemma useAll_cons (s : Logging) (u : Use) (uses : List Use) : s.useAll (u :: uses) = (s.use u).useAll uses := rfl

lemma not_givesUp_nil : ¬ GivesUp [] := by
  rintro ⟨quiet, rest, h, -⟩
  cases quiet <;> cases h

lemma givesUp_cons : GivesUp (u :: uses) ↔ u = .tearDown ∨ u.opens = false ∧ GivesUp uses := by
  constructor
  · rintro ⟨_ | ⟨v, quiet⟩, rest, h, hquiet⟩
    · exact .inl (List.cons.inj h).1
    · obtain ⟨rfl, rfl⟩ := List.cons.inj h
      rw [List.forall_mem_cons] at hquiet
      exact .inr ⟨hquiet.1, quiet, rest, rfl, hquiet.2⟩
  · rintro (rfl | ⟨hu, quiet, rest, rfl, hquiet⟩)
    · exact ⟨[], uses, rfl, by simp⟩
    · exact ⟨u :: quiet, rest, rfl, List.forall_mem_cons.mpr ⟨hu, hquiet⟩⟩

lemma givesUp_append_tearDown (h : GivesUp (uses ++ [.tearDown])) :
    GivesUp uses ∨ ∀ u ∈ uses, u.opens = false := by
  induction uses with
  | nil => exact .inr (by simp)
  | cons u uses ih =>
    rw [List.cons_append, givesUp_cons] at h
    rcases h with rfl | ⟨hu, h⟩
    · exact .inl (givesUp_cons.mpr (.inl rfl))
    · rcases ih h with h | h
      · exact .inl (givesUp_cons.mpr (.inr ⟨hu, h⟩))
      · exact .inr (List.forall_mem_cons.mpr ⟨hu, h⟩)

/-- If no tear-down comes before another opening, the file is not given up. -/
lemma not_givesUp {between : List Use} (hbetween : .tearDown ∉ between) (hu : u.opens) :
    ¬ GivesUp (between ++ u :: rest) := by
  induction between with
  | nil =>
    rw [List.nil_append, givesUp_cons, hu]
    rintro (rfl | ⟨h, -⟩)
    · cases hu
    · cases h
  | cons v between ih =>
    rw [List.mem_cons, not_or] at hbetween
    rw [List.cons_append, givesUp_cons]
    rintro (rfl | ⟨-, h⟩)
    · exact hbetween.1 rfl
    · exact ih hbetween.2 h

lemma exists_of_not_givesUp (h : ¬ GivesUp (uses ++ [.tearDown])) :
    ∃ between v rest, uses = between ++ v :: rest ∧ v.opens ∧ .tearDown ∉ between := by
  induction uses with
  | nil => exact (h (givesUp_cons.mpr (.inl rfl))).elim
  | cons u uses ih =>
    rw [List.cons_append, givesUp_cons, not_or] at h
    cases hu : u.opens with
    | true => exact ⟨[], u, uses, rfl, hu, List.not_mem_nil⟩
    | false =>
      obtain ⟨between, v, rest, rfl, hv, hbetween⟩ := ih fun hg => h.2 ⟨hu, hg⟩
      refine ⟨u :: between, v, rest, rfl, hv, ?_⟩
      rw [List.mem_cons, not_or]
      exact ⟨Ne.symm h.1, hbetween⟩

/-- Openings are paired with tear-downs if the last tear-down finds no other file than the last one. -/
lemma isPaired_iff : IsPaired uses ↔ ∀ before u rest, uses = before ++ u :: rest → u.opens →
    GivesUp (rest ++ [.tearDown]) := by
  constructor
  · intro h before u rest hs hu
    by_contra hg
    obtain ⟨between, v, after, rfl, hv, hbetween⟩ := exists_of_not_givesUp hg
    exact hbetween (h before u between v after hs hu hv)
  · intro h before u between v rest hs hu hv
    by_contra hbetween
    have hg := h before u _ hs hu
    rw [List.append_assoc, List.cons_append] at hg
    exact not_givesUp hbetween hv hg

lemma IsPaired.of_isPrefix {earlier : List Use} (h : IsPaired uses) (he : earlier <+: uses) : IsPaired earlier := by
  obtain ⟨later, rfl⟩ := he
  intro before u between v rest hs
  exact h before u between v (rest ++ later) (by simp [hs])

lemma exists_opening (h : file < uses.countP Use.opens) :
    ∃ before u rest, uses = before ++ u :: rest ∧ u.opens ∧ before.countP Use.opens = file := by
  induction uses generalizing file with
  | nil => cases h
  | cons u uses ih =>
    cases hu : u.opens with
    | true =>
      cases file with
      | zero => exact ⟨[], u, uses, rfl, hu, rfl⟩
      | succ file =>
        rw [List.countP_cons_of_pos hu] at h
        obtain ⟨before, v, rest, rfl, hv, hcount⟩ := ih (Nat.lt_of_succ_lt_succ h)
        exact ⟨u :: before, v, rest, rfl, hv, by rw [List.countP_cons_of_pos hu, hcount]⟩
    | false =>
      have hu' : ¬ u.opens = true := by simp [hu]
      rw [List.countP_cons_of_neg hu'] at h
      obtain ⟨before, v, rest, rfl, hv, hcount⟩ := ih h
      exact ⟨u :: before, v, rest, rfl, hv, by rw [List.countP_cons_of_neg hu', hcount]⟩

/-! Log files -/

/-- How a log file stands: whether it is held to be given up, and whether it is attached. -/
structure Stands (s : Logging) (file : Nat) (held attached : Prop) : Prop where
  known : file < s.opened
  current : s.current = some file ↔ held
  sinks : .file file ∈ s.traffic.sinks ↔ attached
  closed : file ∈ s.closed ↔ ¬ attached

variable {held attached : Prop}

lemma Stands.aside (h : Stands s file held attached) (same : Aside s s') : Stands s' file held attached where
  known := same.opened ▸ h.known
  current := same.current ▸ h.current
  sinks := same.traffic ▸ h.sinks
  closed := same.closed ▸ h.closed

lemma Stands.congr {attached' : Prop} (h : Stands s file held attached) (ha : attached ↔ attached') :
    Stands s file held attached' :=
  ⟨h.known, h.current, h.sinks.trans ha, h.closed.trans (not_congr ha)⟩

/-- Another file takes the place of the one that was held. -/
lemma Stands.openFile (h : Stands s file held attached) : Stands s.openFile file False attached where
  known := Nat.lt_succ_of_lt h.known
  current := iff_false_intro fun hc => h.known.ne' (Option.some.inj hc)
  sinks := by
    refine (mem_attach.trans (or_iff_left fun hf => ?_)).trans h.sinks
    exact h.known.ne (Sink.file.inj hf)
  closed := h.closed

lemma Stands.tearDown (h : Stands s file True True) : Stands s.tearDown file False False := by
  have hcurrent := h.current.mpr trivial
  rw [Logging.tearDown, hcurrent]
  exact ⟨h.known, by simp, by simp [mem_detach], by simp⟩

lemma Stands.tearDown_left (h : Stands s file False attached) : Stands s.tearDown file False attached := by
  rw [Logging.tearDown]
  split
  next => exact ⟨h.known, h.current, h.sinks, h.closed⟩
  next other hother =>
    have hne : file ≠ other := fun he => h.current.mp (he ▸ hother)
    refine ⟨h.known, by simp, ?_, ?_⟩
    · exact (mem_detach.trans (and_iff_left fun he => hne (Sink.file.inj he))).trans h.sinks
    · exact (List.mem_cons.trans (or_iff_right hne)).trans h.closed

lemma Stands.goes_left (h : Stands s file False attached) (hu : Goes s u s') : Stands s' file False attached := by
  cases hu with
  | aside _ _ same => exact h.aside same
  | opens _ same => exact (h.aside same).openFile
  | tearDown => exact h.tearDown_left

lemma Stands.useAll_left (h : Stands s file False attached) (uses : List Use) :
    Stands (s.useAll uses) file False attached := by
  induction uses generalizing s with
  | nil => exact h
  | cons u uses ih => exact ih (h.goes_left (goes_use s u))

/-- A file that is held is held until it is given up, or else left for good when the next one is opened. -/
lemma Stands.useAll (h : Stands s file True True) (uses : List Use) :
    ∃ held, Stands (s.useAll uses) file held (¬ GivesUp uses) := by
  -- The first opening or tear-down takes the file out of the slot; from then on nothing reaches it.
  induction uses generalizing s with
  | nil => exact ⟨True, h.congr (iff_of_true trivial not_givesUp_nil)⟩
  | cons u uses ih =>
    have hgoes := goes_use s u
    rw [givesUp_cons, useAll_cons]
    generalize s.use u = t at hgoes
    cases hgoes with
    | aside quiet kept same =>
      obtain ⟨held, hstands⟩ := ih (h.aside same)
      exact ⟨held, hstands.congr (not_congr (by simp [quiet, kept]))⟩
    | opens opens same =>
      have hleft : ¬ (u = .tearDown ∨ u.opens = false ∧ GivesUp uses) := by
        rintro (rfl | ⟨quiet, -⟩)
        · cases opens
        · cases opens.symm.trans quiet
      exact ⟨False, ((h.aside same).openFile.useAll_left uses).congr (iff_of_true trivial hleft)⟩
    | tearDown => exact ⟨False, (h.tearDown.useAll_left uses).congr (by simp)⟩

/-! Loggers that are in order -/

/-- Only the console and log files that were opened are attached, each once and the console not to the
traffic, of which everything is shown as soon as there is a file. -/
structure Sound (s : Logging) : Prop where
  files : ∀ x ∈ s.traffic.sinks, ∃ file < s.opened, x = .file file
  distinct : s.traffic.sinks.Nodup
  current : ∀ file, s.current = some file → file < s.opened
  closed : ∀ file ∈ s.closed, file < s.opened
  level : s.traffic.sinks ≠ [] → s.traffic.level = .int Level.debug
  consoles : s.OnlyConsole

lemma sound_blank : Sound {} where
  files _ h := (List.not_mem_nil h).elim
  distinct := List.nodup_nil
  current _ h := by cases h
  closed _ h := (List.not_mem_nil h).elim
  level h := (h rfl).elim
  consoles _ h := (h.elim List.not_mem_nil List.not_mem_nil).elim

lemma Sound.aside (h : Sound s) (same : Aside s s') : Sound s' where
  files := same.traffic ▸ same.opened ▸ h.files
  distinct := same.traffic ▸ h.distinct
  current := same.current ▸ same.opened ▸ h.current
  closed := same.closed ▸ same.opened ▸ h.closed
  level := same.traffic ▸ h.level
  consoles := same.consoles h.consoles

lemma Sound.openFile (h : Sound s) : Sound s.openFile where
  files x hx := by
    rcases mem_attach.mp hx with hx | rfl
    · obtain ⟨file, hlt, rfl⟩ := h.files x hx
      exact ⟨file, Nat.lt_succ_of_lt hlt, rfl⟩
    · exact ⟨s.opened, Nat.lt_succ_self _, rfl⟩
  distinct := nodup_attach h.distinct
  current file hf := Option.some.inj hf ▸ Nat.lt_succ_self _
  closed file hf := Nat.lt_succ_of_lt (h.closed file hf)
  level _ := rfl
  consoles := h.consoles

lemma Sound.console_notMem (h : Sound s) : .console ∉ s.traffic.sinks := by
  intro hc
  obtain ⟨file, -, hfile⟩ := h.files _ hc
  cases hfile

lemma OnlyConsole.sinks_tearDown (h : s.OnlyConsole) :
    s.tearDown.plugin.sinks = [] ∧ s.tearDown.client.sinks = [] := by
  have hdetached : (s.plugin.detach .console).sinks = [] ∧ (s.client.detach .console).sinks = [] := by
    constructor <;> refine List.eq_nil_iff_forall_not_mem.mpr fun x hx => (mem_detach.mp hx).2 ?_
    · exact h x (.inl (mem_detach.mp hx).1)
    · exact h x (.inr (mem_detach.mp hx).1)
  rw [tearDown]
  split <;> exact hdetached

lemma Sound.tearDown (h : Sound s) : Sound s.tearDown := by
  have hconsoles : s.tearDown.OnlyConsole := by
    obtain ⟨hplugin, hclient⟩ := h.consoles.sinks_tearDown
    intro x hx
    rw [hplugin, hclient] at hx
    exact (hx.elim List.not_mem_nil List.not_mem_nil).elim
  rw [Logging.tearDown] at hconsoles ⊢
  split at hconsoles
  next hnone => exact ⟨h.files, h.distinct, h.current, h.closed, h.level, hconsoles⟩
  next file hfile =>
    refine ⟨fun x hx => h.files x (mem_detach.mp hx).1, h.distinct.filter _, ?_, ?_, ?_, hconsoles⟩
    · rintro _ ⟨⟩
    · exact List.forall_mem_cons.mpr ⟨h.current file hfile, h.closed⟩
    · exact fun hne => h.level fun hnil => hne (by simp [Logger.detach, hnil])

lemma Sound.useAll (h : Sound s) (uses : List Use) : Sound (s.useAll uses) := by
  induction uses generalizing s with
  | nil => exact h
  | cons u uses ih =>
    refine ih ?_
    have hgoes := goes_use s u
    generalize s.use u = t at hgoes ⊢
    cases hgoes with
    | aside _ _ same => exact h.aside same
    | opens _ same => exact (h.aside same).openFile
    | tearDown => exact h.tearDown

lemma opened_openFile (s : Logging) : s.openFile.opened = s.opened + 1 := rfl

lemma opened_useAll (s : Logging) (uses : List Use) :
    (s.useAll uses).opened = s.opened + uses.countP Use.opens := by
  induction uses generalizing s with
  | nil => rfl
  | cons u uses ih =>
    have hgoes := goes_use s u
    rw [useAll_cons, ih]
    generalize s.use u = t at hgoes ⊢
    cases hgoes with
    | aside quiet _ same => rw [same.opened, List.countP_cons_of_neg (by simp [quiet])]
    | opens opens same =>
      rw [List.countP_cons_of_pos opens, opened_openFile, same.opened]
      omega
    | tearDown =>
      rw [List.countP_cons_of_neg (by simp [Use.opens]), Logging.tearDown]
      split <;> rfl

lemma Sound.stands_openFile (h : Sound s) : Stands s.openFile s.opened True True where
  known := Nat.lt_succ_self _
  current := iff_true_intro rfl
  sinks := iff_true_intro (mem_attach.mpr (.inr rfl))
  closed := iff_of_false (fun hc => (h.closed _ hc).false) (by simp)

def after (uses : List Use) : Logging := useAll {} uses

lemma sound_after (uses : List Use) : Sound (after uses) := sound_blank.useAll uses

lemma opened_after (uses : List Use) : (after uses).opened = uses.countP Use.opens :=
  (opened_useAll {} uses).trans (Nat.zero_add _)

/-- What becomes of a log file is told by what comes after it. -/
lemma stands_after (before rest : List Use) (hu : u.opens) :
    ∃ held, Stands (after (before ++ u :: rest)) (before.countP Use.opens) held (¬ GivesUp rest) := by
  obtain ⟨s, same, hs⟩ := (goes_use (after before) u).exists_openFile hu
  have hafter : after (before ++ u :: rest) = s.openFile.useAll rest := by
    rw [after, useAll_append, useAll_cons, ← after, hs]
  rw [hafter, ← opened_after, ← same.opened]
  exact ((sound_after before).aside same).stands_openFile.useAll rest

lemma after_tearDown (uses : List Use) : after (uses ++ [.tearDown]) = (after uses).tearDown :=
  useAll_append {} uses [.tearDown]

lemma current_tearDown (s : Logging) : s.tearDown.current = none := by
  rw [tearDown]
  split
  next h => exact h
  next => rfl

lemma stands_tearDown (before rest : List Use) (hu : u.opens) :
    Stands (after (before ++ u :: rest ++ [.tearDown])) (before.countP Use.opens) False
      (¬ GivesUp (rest ++ [.tearDown])) := by
  obtain ⟨held, hstands⟩ := stands_after before (rest ++ [.tearDown]) hu
  rw [← List.cons_append, ← List.append_assoc] at hstands
  refine ⟨hstands.known, ?_, hstands.sinks, hstands.closed⟩
  rw [after_tearDown, current_tearDown]
  simp

lemma opened_after_tearDown (uses : List Use) : (after (uses ++ [.tearDown])).opened = uses.countP Use.opens := by
  rw [opened_after, List.countP_append]
  rfl

lemma isUndone_after_iff : (after (uses ++ [.tearDown])).IsUndone ↔ IsPaired uses := by
  rw [isPaired_iff]
  constructor
  · rintro h before u rest rfl hu
    have hstands := stands_tearDown before rest hu
    exact not_not.mp (hstands.closed.mp (h.closed _ hstands.known))
  · intro h
    have hgiven : ∀ file < (after (uses ++ [.tearDown])).opened,
        Stands (after (uses ++ [.tearDown])) file False False := by
      intro file hfile
      rw [opened_after_tearDown] at hfile
      obtain ⟨before, u, rest, rfl, hu, rfl⟩ := exists_opening hfile
      exact (stands_tearDown before rest hu).congr (iff_false_intro (not_not.mpr (h before u rest rfl hu)))
    have hsound := sound_after (uses ++ [.tearDown])
    have htraffic : (after (uses ++ [.tearDown])).traffic.sinks = [] := by
      refine List.eq_nil_iff_forall_not_mem.mpr fun x hx => ?_
      obtain ⟨file, hfile, rfl⟩ := hsound.files x hx
      exact (hgiven file hfile).sinks.mp hx
    obtain ⟨hplugin, hclient⟩ := (sound_after uses).consoles.sinks_tearDown
    rw [← after_tearDown] at hplugin hclient
    refine ⟨?_, fun file hfile => (hgiven file hfile).closed.mpr not_false⟩
    simp only [loggers, List.forall_mem_cons]
    exact ⟨hplugin, hclient, htraffic, by simp⟩

/-- With paired openings no file but the last one is attached. -/
lemma eq_of_mem_sinks (h : IsPaired uses) (hx : x ∈ (after uses).traffic.sinks) :
    x = .file ((after uses).opened - 1) := by
  obtain ⟨file, hfile, rfl⟩ := (sound_after uses).files x hx
  rw [opened_after] at hfile
  obtain ⟨before, u, rest, rfl, hu, rfl⟩ := exists_opening hfile
  obtain ⟨held, hstands⟩ := stands_after before rest hu
  have hleft : ¬ GivesUp rest := hstands.sinks.mp hx
  -- The file would be given up by one more tear-down, so that no other one has been opened since.
  have hquiet := (givesUp_append_tearDown (isPaired_iff.mp h before u rest rfl hu)).resolve_left hleft
  have hcount : rest.countP Use.opens = 0 := List.countP_eq_zero.mpr fun v hv => by simp [hquiet v hv]
  rw [opened_after, List.countP_append, List.countP_cons_of_pos hu, hcount]
  rfl

/-- Two openings without a tear-down in between leave both files attached. -/
lemma one_lt_length_sinks {before between : List Use} {v : Use} (hu : u.opens) (hv : v.opens)
    (hbetween : .tearDown ∉ between) :
    1 < (after (before ++ u :: (between ++ [v]))).traffic.sinks.length := by
  obtain ⟨_, hfirst⟩ := stands_after before (between ++ [v]) hu
  obtain ⟨_, hsecond⟩ := stands_after (before ++ u :: between) [] hv
  rw [List.append_assoc, List.cons_append] at hsecond
  have hne : before.countP Use.opens ≠ (before ++ u :: between).countP Use.opens := by
    rw [List.countP_append, List.countP_cons_of_pos hu]
    omega
  have hnodup : [Sink.file (before.countP Use.opens), .file ((before ++ u :: between).countP Use.opens)].Nodup := by
    simpa using hne
  refine (hnodup.subperm ?_).length_le
  simp only [List.cons_subset, List.nil_subset, and_true]
  exact ⟨hfirst.sinks.mpr (not_givesUp hbetween hv), hsecond.sinks.mpr not_givesUp_nil⟩

lemma length_sinks_le_one_iff :
    (∀ earlier, earlier <+: uses → (after earlier).traffic.sinks.length ≤ 1) ↔ IsPaired uses := by
  constructor
  · rintro h before u between v rest rfl hu hv
    by_contra hbetween
    have hprefix : before ++ u :: (between ++ [v]) <+: before ++ u :: (between ++ v :: rest) := ⟨rest, by simp⟩
    exact (one_lt_length_sinks hu hv hbetween).not_ge (h _ hprefix)
  · intro h earlier he
    have hsub : (after earlier).traffic.sinks ⊆ [.file ((after earlier).opened - 1)] := fun x hx =>
      List.mem_singleton.mpr (eq_of_mem_sinks (h.of_isPrefix he) hx)
    exact ((sound_after earlier).distinct.subperm hsub).length_le

/-! Records of the traffic -/

lemma file_deliver (line : Text) (sinks : List Sink) (hsinks : ∀ x ∈ sinks, ∃ n, x = .file n)
    (p : List Text × Logging) : (sinks.foldl (deliver line) p).2.file =
      p.2.file ++ if line.any CodePoint.isSurrogate then [] else
        (List.replicate sinks.length (line ++ "\n")).flatten := by
  induction sinks generalizing p with
  | nil => simp
  | cons sink sinks ih =>
    rw [List.forall_mem_cons] at hsinks
    obtain ⟨n, rfl⟩ := hsinks.1
    rw [List.foldl_cons, ih hsinks.2, deliver, write]
    split
    next => rfl
    next => simp [List.replicate_succ]

lemma Sound.trafficLevel_eq (h : Sound s) (hne : s.traffic.sinks ≠ []) : s.trafficLevel = .int Level.debug := by
  have hlevel := h.level hne
  have hnumber : s.traffic.number = 10 := by
    rw [Logger.number, hlevel]
    rfl
  rw [trafficLevel, inherit, if_neg (by rw [hnumber]; decide), hlevel]

lemma Sound.emit_eq (h : Sound s) (hne : s.traffic.sinks ≠ []) (text : Text) :
    s.emit .traffic (.int Level.debug) text =
      s.traffic.sinks.foldl (deliver ("[parley.Client.json] DEBUG " ++ text)) ([], s) := by
  rw [Logging.emit_eq, loggerOf, h.trafficLevel_eq hne]
  rfl

/-- A message is written to each log file that is attached, if it can be encoded. -/
lemma Sound.file_emit (h : Sound s) (text : Text) : (s.emit .traffic (.int Level.debug) text).2.file =
    s.file ++ if text.any CodePoint.isSurrogate then [] else
      (List.replicate s.traffic.sinks.length (fileLine text)).flatten := by
  by_cases hnil : s.traffic.sinks = []
  · simp [Logging.emit_eq, loggerOf, hnil]
  · have hfiles : ∀ x ∈ s.traffic.sinks, ∃ n, x = .file n := fun x hx =>
      (h.files x hx).elim fun n hn => ⟨n, hn.2⟩
    have hclear : ("[parley.Client.json] DEBUG " : Text).any CodePoint.isSurrogate = false := by decide
    rw [h.emit_eq hnil, file_deliver _ _ hfiles, List.any_append, hclear, Bool.false_or]
    rfl

/-- A tear-down detaches the console from all loggers. A log file has been detached and closed by then if a
tear-down came before the next one was opened, and otherwise it is still attached and open. So set-ups are undone,
and no two files are attached at any time, if and only if there is a tear-down between any two openings. A message
is recorded once for each file that is attached. -/
theorem isUndone_iff_isPaired (uses : List Use) :
    let s := after (uses ++ [.tearDown])
    (s.plugin.sinks = [] ∧ s.client.sinks = [] ∧ .console ∉ s.traffic.sinks) ∧
    (∀ before u rest, uses = before ++ u :: rest → u.opens →
      Stands s (before.countP Use.opens) False (¬ GivesUp (rest ++ [.tearDown]))) ∧
    (s.IsUndone ↔ IsPaired uses) ∧
    ((∀ earlier, earlier <+: uses → (after earlier).traffic.sinks.length ≤ 1) ↔ IsPaired uses) ∧
    ∀ text, (after (uses ++ [.emit .traffic (.int Level.debug) text])).file =
      (after uses).file ++ if text.any CodePoint.isSurrogate then [] else
        (List.replicate (after uses).traffic.sinks.length (fileLine text)).flatten := by
  have hsound := sound_after uses
  obtain ⟨hplugin, hclient⟩ := hsound.consoles.sinks_tearDown
  rw [← after_tearDown] at hplugin hclient
  refine ⟨⟨hplugin, hclient, (sound_after _).console_notMem⟩, ?_, isUndone_after_iff, length_sinks_le_one_iff,
    fun text => ?_⟩
  · rintro before u rest rfl hu
    exact stands_tearDown before rest hu
  · rw [after, useAll_append]
    exact hsound.file_emit text

/-- The file of the first of two set-ups is left open, and is not if there is a tear-down in between. -/
theorem isUndone_iff_isPaired_twice :
    let settings : Json := .object [("log_file", "yes"), ("logger.client.level", "DEBUG")]
    (Use.setUp settings).opens ∧
      Stands (after [.setUp settings, .setUp settings, .tearDown]) 0 False True ∧
      ¬ IsPaired [.setUp settings, .setUp settings] ∧ IsPaired [.setUp settings, .tearDown, .setUp settings] := by
  intro settings
  have hopens : (Use.setUp settings).opens := rfl
  obtain ⟨-, hstands, htwice, -⟩ := isUndone_iff_isPaired [.setUp settings, .setUp settings]
  obtain ⟨-, -, hpaired, -⟩ := isUndone_iff_isPaired [.setUp settings, .tearDown, .setUp settings]
  have hleft : ¬ GivesUp [.setUp settings, .tearDown] := not_givesUp List.not_mem_nil hopens
  have hfirst := (hstands [] _ _ rfl hopens).congr (iff_true_intro hleft)
  refine ⟨hopens, hfirst, fun h => ?_, hpaired.mp ⟨?_, ?_⟩⟩
  · exact hfirst.closed.mp ((htwice.mpr h).closed 0 hfirst.known) trivial
  · simp only [loggers, List.forall_mem_cons]
    exact ⟨rfl, rfl, rfl, List.forall_mem_nil _⟩
  · intro file hfile
    change file < 2 at hfile
    change file ∈ [1, 0]
    simp
    omega

/-- Loggers that are set up twice and torn down once keep the first log file, which stays open. -/
theorem left_open_of_mem_outcomes_twice :
    let w := (Act.after (Application.create (.object [("log_file", "yes")])) {})
    let actions : List Action := [.app .setUpLogging, .app .setUpLogging, .app .tearDownLogging]
    ∃ o ∈ outcomes w actions, (o.result matches .ok .nothing) ∧
      (o.world.journal matches .loggers { traffic := { sinks := [.file 0], .. }, opened := 2, closed := [1], .. }) := by
  decide +kernel

end LanguageClient.Logging
