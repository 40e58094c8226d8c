import LanguageClient.Proofs.Active
import LanguageClient.Proofs.Apart.Callbacks
import Mathlib.Data.List.Nodup

/-!
Two worlds that differ in the sessions of one server. The sessions of the other servers are paired: each of
them has its twin in the other world, which came at the same place among them.
-/

namespace LanguageClient

open Act

namespace Session

/-- The file patterns of a session can be read, and matched with any text. -/
def Reads (s : Session) : Prop :=
  ∀ name : Text, ∃ b, FileFilter.admits s.filePatterns (.text name) = .ok b

/-- Whether a session is for a file, and not over. -/
def isFor (s : Session) (name : Text) : Bool :=
  (FileFilter.admits s.filePatterns (.text name)).toOption = some true && s.status ≠ .terminated

lemma reads_default : (default : Session).Reads := fun _ => ⟨false, rfl⟩

lemma Persists.reads {s t : Session} (h : s.Persists t) (hs : s.Reads) : t.Reads := by
  rw [Reads, filePatterns, h.2.1]
  exact hs

end Session

namespace World

variable {k : Option Json.Key} {id : SessionId} {ids : List SessionId} {v w x : World}

/-- Whether a session belongs to another server than the one of a key. -/
def isOther (w : World) (k : Option Json.Key) (id : SessionId) : Bool := (w.session id).name.key? ≠ k

/-- The sessions that belong to other servers are the listed ones. -/
structure Lists (k : Option Json.Key) (ids : List SessionId) (w : World) : Prop where
  others : (List.range w.sessions.length).filter (w.isOther k) = ids
  own : ∀ id, (w.session id).IsOwn
  reads : ∀ id, (w.session id).Reads
  new : ∀ id, w.sessions.length ≤ id → voices id w.events = []

lemma Lists.nodup (h : w.Lists k ids) : ids.Nodup :=
  h.others ▸ List.nodup_range.filter _

lemma Lists.key_eq_iff (h : w.Lists k ids) (hid : id < w.sessions.length) :
    (w.session id).name.key? = k ↔ id ∉ ids := by
  rw [← h.others, List.mem_filter]
  simp [hid, isOther]

lemma Lists.quiet (h : w.Lists k ids) (hx : Quiet w x) : x.Lists k ids where
  others := by
    have hsame : x.isOther k = w.isOther k := funext fun id => by rw [isOther, isOther, hx.session]
    rw [hx.sessions, hsame, h.others]
  own id := hx.session id ▸ h.own id
  reads id := hx.session id ▸ h.reads id
  new id hid := (hx.voices id).trans (h.new id (hx.sessions ▸ hid))

lemma Spares.persists_all (h : Spares id w x) (other : SessionId) : (w.session other).Persists (x.session other) := by
  by_cases ho : other = id
  · exact ho ▸ h.stays
  · exact h.session other ho ▸ .refl _

lemma Lists.spares (h : w.Lists k ids) (hx : Spares id w x) (hid : id < w.sessions.length) :
    x.Lists k ids where
  others := by
    have hsame : x.isOther k = w.isOther k := funext fun other => by
      rw [isOther, isOther, (hx.persists_all other).1]
    rw [hx.length, hsame, h.others]
  own other := (hx.persists_all other).2.2 (h.own other)
  reads other := (hx.persists_all other).reads (h.reads other)
  new other ho := by
    rw [hx.length] at ho
    rw [hx.voices other (Nat.ne_of_gt (Nat.lt_of_lt_of_le hid ho)), h.new other ho]

end World

open World

/-! Lists of what runs -/

/-- Two lists of running sessions, which are the same but for the sessions of one server. -/
inductive Aligned (k : Option Json.Key) (ps : List (SessionId × SessionId)) (m n : Nat) :
    List (Json × SessionId) → List (Json × SessionId) → Prop where
  | nil : Aligned k ps m n [] []
  | left {name id L L'} (key : name.key? = k) (lt : id < m) (alone : id ∉ ps.map Prod.fst)
    (rest : Aligned k ps m n L L') : Aligned k ps m n ((name, id) :: L) L'
  | right {name id L L'} (key : name.key? = k) (lt : id < n) (alone : id ∉ ps.map Prod.snd)
    (rest : Aligned k ps m n L L') : Aligned k ps m n L ((name, id) :: L')
  | both {name p L L'} (key : name.key? ≠ k) (mem : p ∈ ps) (rest : Aligned k ps m n L L') :
    Aligned k ps m n ((name, p.1) :: L) ((name, p.2) :: L')

lemma map_fst_map_swap (ps : List (SessionId × SessionId)) :
    (ps.map Prod.swap).map Prod.fst = ps.map Prod.snd := by
  simp

lemma map_snd_map_swap (ps : List (SessionId × SessionId)) :
    (ps.map Prod.swap).map Prod.snd = ps.map Prod.fst := by
  simp

namespace Aligned

variable {k : Option Json.Key} {ps qs : List (SessionId × SessionId)} {m n m' n' : Nat}
  {L L' M M' : List (Json × SessionId)}

lemma symm (h : Aligned k ps m n L L') : Aligned k (ps.map Prod.swap) n m L' L := by
  induction h with
  | nil => exact .nil
  | left key lt alone _ ih => exact .right key lt (map_snd_map_swap ps ▸ alone) ih
  | right key lt alone _ ih => exact .left key lt (map_fst_map_swap ps ▸ alone) ih
  | both key mem _ ih => exact .both (p := Prod.swap _) key (List.mem_map_of_mem mem) ih

/-- More sessions do no harm. -/
lemma grow (h : Aligned k ps m n L L') (hm : m ≤ m') (hn : n ≤ n') (hps : ps ⊆ qs)
    (hqs : ∀ p ∈ qs, p ∈ ps ∨ m ≤ p.1 ∧ n ≤ p.2) : Aligned k qs m' n' L L' := by
  induction h with
  | nil => exact .nil
  | left key lt alone _ ih =>
    refine .left key (Nat.lt_of_lt_of_le lt hm) (fun hid => ?_) ih
    obtain ⟨p, hp, rfl⟩ := List.mem_map.mp hid
    rcases hqs p hp with hp | hp
    · exact alone (List.mem_map_of_mem hp)
    · exact Nat.not_lt.mpr hp.1 lt
  | right key lt alone _ ih =>
    refine .right key (Nat.lt_of_lt_of_le lt hn) (fun hid => ?_) ih
    obtain ⟨p, hp, rfl⟩ := List.mem_map.mp hid
    rcases hqs p hp with hp | hp
    · exact alone (List.mem_map_of_mem hp)
    · exact Nat.not_lt.mpr hp.2 lt
  | both key mem _ ih => exact .both key (hps mem) ih

lemma append (h : Aligned k ps m n L L') (g : Aligned k ps m n M M') :
    Aligned k ps m n (L ++ M) (L' ++ M') := by
  induction h with
  | nil => exact g
  | left key lt alone _ ih => exact .left key lt alone ih
  | right key lt alone _ ih => exact .right key lt alone ih
  | both key mem _ ih => exact .both key mem ih

/-- What is left out of one list is left out of the other one, but for the sessions of the one server. -/
lemma filter (h : Aligned k ps m n L L') {P Q : Json × SessionId → Bool}
    (hP : ∀ name p, name.key? ≠ k → p ∈ ps → P (name, p.1) = Q (name, p.2)) :
    Aligned k ps m n (L.filter P) (L'.filter Q) := by
  induction h with
  | nil => exact .nil
  | left key lt alone _ ih =>
    rw [List.filter_cons]
    split
    next => exact .left key lt alone ih
    next => exact ih
  | right key lt alone _ ih =>
    rw [List.filter_cons]
    split
    next => exact .right key lt alone ih
    next => exact ih
  | @both name p _ _ key mem _ ih =>
    rw [List.filter_cons, List.filter_cons, hP name p key mem]
    split
    next => exact .both key mem ih
    next => exact ih

/-- Another server runs here if it runs there. -/
lemma any_eq (h : Aligned k ps m n L L') {key : Option Json.Key} (hkey : key ≠ k) :
    (L.any fun e => e.1.key? = key) = L'.any fun e => e.1.key? = key := by
  induction h with
  | nil => rfl
  | left hname _ _ _ ih => rw [List.any_cons, ih, hname, decide_eq_false (Ne.symm hkey), Bool.false_or]
  | right hname _ _ _ ih => rw [List.any_cons, ← ih, hname, decide_eq_false (Ne.symm hkey), Bool.false_or]
  | both _ _ _ ih => rw [List.any_cons, List.any_cons, ih]

end Aligned

/-! Worlds that match -/

/-- Patterns that can all be read. -/
def FileFilter.AreValid (patterns : Json) : Prop :=
  ∃ items, patterns.elements = .ok items ∧ ∀ item ∈ items, ∃ text p, item = .text text ∧ Pattern.parse text = .ok p

lemma FileFilter.AreValid.exists_admits {patterns : Json} (h : AreValid patterns) (name : Text) :
    ∃ b, admits patterns (.text name) = .ok b := by
  obtain ⟨items, hitems, hall⟩ := h
  suffices hoccurs : ∃ b, occursAny (.text name) items = .ok b by
    rw [admits, hitems]
    exact hoccurs
  clear hitems
  induction items with
  | nil => exact ⟨false, rfl⟩
  | cons item rest ih =>
    obtain ⟨text, p, rfl, hp⟩ := hall item List.mem_cons_self
    obtain ⟨b, hb⟩ := ih fun other ho => hall other (List.mem_cons_of_mem _ ho)
    rw [occursAny, occurs, hp, hb]
    cases hfound : p.occursIn name with
    | true => exact ⟨true, by simp [hfound, bind, Except.bind, pure, Except.pure]⟩
    | false => exact ⟨b, by simp [hfound, bind, Except.bind, pure, Except.pure]⟩

namespace Registry

/-- A server that can be configured so, under its name, and whose file patterns can be read. -/
structure IsConfigured (entry : Json × Fields) : Prop where
  checked : checkConfig (.object entry.2) = .ok entry.2
  name : entry.1.key? = (entry.2.getD "name" .null).key?
  patterns : FileFilter.AreValid (entry.2.getD "file_patterns" .null)

end Registry

namespace World

/-- Servers can be launched, for all that is not up to their configurations. -/
def Launchable (w : World) : Prop := w.launcher = .memory ∧ ∃ root, Registry.rootUri w.project = .ok root

/-- Two worlds that differ in the sessions of one server alone. -/
structure Matched (k : Option Json.Key) (ps : List (SessionId × SessionId)) (w v : World) : Prop where
  left : w.Lists k (ps.map Prod.fst)
  right : v.Lists k (ps.map Prod.snd)
  twin : ∀ p ∈ ps, Twin p.1 p.2 w v
  running : Aligned k ps w.sessions.length v.sessions.length w.running v.running
  common : w.common = v.common
  configured : ∀ entry ∈ w.common.servers, Registry.IsConfigured entry
  launchable : w.running ≠ [] ∨ v.running ≠ [] → w.common.Launchable

variable {k : Option Json.Key} {ps : List (SessionId × SessionId)} {w v x : World} {id : SessionId}

namespace Matched

lemma symm (h : Matched k ps w v) : Matched k (ps.map Prod.swap) v w where
  left := map_fst_map_swap ps ▸ h.right
  right := map_snd_map_swap ps ▸ h.left
  twin p hp := by
    obtain ⟨q, hq, rfl⟩ := List.mem_map.mp hp
    exact (h.twin q hq).symm
  running := h.running.symm
  common := h.common.symm
  configured := h.common ▸ h.configured
  launchable hr := h.common ▸ h.launchable hr.symm

lemma of_symm (h : Matched k (ps.map Prod.swap) v w) : Matched k ps w v := by
  have hps : (ps.map Prod.swap).map Prod.swap = ps := by simp
  exact hps ▸ h.symm

lemma quiet (h : Matched k ps w v) (hx : Quiet w x) : Matched k ps x v where
  left := h.left.quiet hx
  right := h.right
  twin p hp := (h.twin p hp).of_quiet hx (.refl v)
  running := by
    rw [hx.running, hx.sessions]
    exact h.running
  common := hx.common.trans h.common
  configured := hx.common ▸ h.configured
  launchable := by
    rw [hx.running, hx.common]
    exact h.launchable

/-- A session of the one server has its say. -/
lemma aside (h : Matched k ps w v) (hx : Spares id w x) (hid : id < w.sessions.length)
    (alone : id ∉ ps.map Prod.fst) : Matched k ps x v where
  left := h.left.spares hx hid
  right := h.right
  twin p hp := (h.twin p hp).of_spares hx fun he => alone (he ▸ List.mem_map_of_mem hp)
  running := by
    rw [hx.running, hx.length]
    exact h.running
  common := hx.common.trans h.common
  configured := hx.common ▸ h.configured
  launchable := by
    rw [hx.running, hx.common]
    exact h.launchable

/-- A session of another server has its say, and so does its twin. -/
lemma both {α : Type} {a : SessionId → Act α} (h : Matched k ps w v) {p : SessionId × SessionId} (hp : p ∈ ps)
    (ha : Local a) : ((a p.1).run w).1 = ((a p.2).run v).1 ∧
      Matched k ps ((a p.1).after w) ((a p.2).after v) ∧ Spares p.1 w ((a p.1).after w) ∧
      Spares p.2 v ((a p.2).after v) := by
  have htwin := h.twin p hp
  obtain ⟨hresult, htwin', hleft⟩ := ha htwin
  obtain ⟨-, -, hright⟩ := ha htwin.symm
  refine ⟨hresult, ?_, hleft, hright⟩
  exact {
    left := h.left.spares hleft htwin.lt
    right := h.right.spares hright htwin.lt'
    twin := fun q hq => by
      by_cases hqp : q = p
      · exact hqp ▸ htwin'
      · have hne : q.1 ≠ p.1 := fun he => hqp (List.inj_on_of_nodup_map h.left.nodup hq hp he)
        have hne' : q.2 ≠ p.2 := fun he => hqp (List.inj_on_of_nodup_map h.right.nodup hq hp he)
        exact (((h.twin q hq).of_spares hleft hne).symm.of_spares hright hne').symm
    running := by
      rw [hleft.running, hright.running, hleft.length, hright.length]
      exact h.running
    common := htwin'.common
    configured := hleft.common ▸ h.configured
    launchable := by
      rw [hleft.running, hright.running, hleft.common]
      exact h.launchable }

/-- Other lists of what runs. -/
lemma rerun (h : Matched k ps w v) {L L' : List (Json × SessionId)}
    (hL : Aligned k ps w.sessions.length v.sessions.length L L')
    (hlaunch : L ≠ [] ∨ L' ≠ [] → w.common.Launchable) :
    Matched k ps { w with running := L } { v with running := L' } where
  left := { h.left with }
  right := { h.right with }
  twin p hp := { h.twin p hp with }
  running := hL
  common := h.common
  configured := h.configured
  launchable := hlaunch

end Matched

end World

/-! Two runs at once -/

namespace Act

variable {α β α' β' : Type} {k : Option Json.Key} {w v : World}

/-- Two actions from two worlds that both come to an end or both fail, and to worlds that match. -/
def Parallel (k : Option Json.Key) (a : Act α) (a' : Act α') (w v : World) : Prop :=
  ((∃ x, (a.run w).1 = .ok x) ↔ ∃ x, (a'.run v).1 = .ok x) ∧ ∃ ps, Matched k ps (a.after w) (a'.after v)

variable {a : Act α} {a' : Act α'} {f : α → Act β} {f' : α' → Act β'}

lemma Parallel.symm (h : Parallel k a a' w v) : Parallel k a' a v w :=
  ⟨h.1.symm, h.2.imp' _ fun _ hm => hm.symm⟩

lemma run_bind_ok {x : α} (h : (a.run w).1 = .ok x) (f : α → Act β) :
    (a >>= f).run w = (f x).run (a.after w) := by
  rw [run_bind, after]
  rcases ha : a.run w with ⟨r, w'⟩
  rw [ha] at h
  obtain rfl : r = .ok x := h
  rfl

lemma run_bind_error {e : Fault} (h : (a.run w).1 = .error e) (f : α → Act β) :
    (a >>= f).run w = (.error e, a.after w) := by
  rw [run_bind, after]
  rcases ha : a.run w with ⟨r, w'⟩
  rw [ha] at h
  obtain rfl : r = .error e := h
  rfl

/-- One of two actions takes a step. -/
lemma Parallel.bind_left {x : α} (hx : (a.run w).1 = .ok x) (h : Parallel k (f x) a' (a.after w) v) :
    Parallel k (a >>= f) a' w v := by
  rw [Parallel, after, run_bind_ok hx f]
  exact h

lemma Parallel.bind (h : Parallel k a a' w v)
    (hf : ∀ x x', (a.run w).1 = .ok x → (a'.run v).1 = .ok x' →
      Parallel k (f x) (f' x') (a.after w) (a'.after v)) : Parallel k (a >>= f) (a' >>= f') w v := by
  rcases hx : (a.run w).1 with e | x
  · rcases hx' : (a'.run v).1 with e' | x'
    · rw [Parallel, after, after, run_bind_error hx, run_bind_error hx']
      exact ⟨iff_of_false (by simp) (by simp), h.2⟩
    · obtain ⟨x, hok⟩ := h.1.mpr ⟨x', hx'⟩
      cases hx.symm.trans hok
  · obtain ⟨x', hx'⟩ := h.1.mp ⟨x, hx⟩
    rw [Parallel, after, after, run_bind_ok hx, run_bind_ok hx']
    exact hf x x' hx hx'

end Act

end LanguageClient
