import LanguageClient.Proofs.Registry.Shutdown
import LanguageClient.Proofs.Registry.Treading

/-!
One session for each name. Servers are started only under names that none runs under, and what runs is
removed only when its link is closed: so at any time at most one link of a name is open.
-/

namespace LanguageClient

open Act World

/-- At no time so far were two links open that were opened under one name. -/
def IsSingle (es : List Event) : Prop :=
  ∀ earlier, earlier <:+ es → ∀ name : Json,
    (openLinks earlier).countP (fun link => link.2.key? = name.key?) ≤ 1

/-- The link that an event opens, and the name it is opened under. -/
def Event.launch? : Event → Option (SessionId × Json)
  | .launched id server => some (id, server)
  | _ => none

section

variable {es new : List Event}

lemma openLinks_append_sublist (h : ∀ id name, .launched id name ∉ new) :
    (openLinks (new ++ es)).Sublist (openLinks es) := by
  induction new with
  | nil => exact List.Sublist.refl _
  | cons e new ih =>
    have hnew := ih fun id name hl => h id name (List.mem_cons_of_mem _ hl)
    cases e with
    | launched id name => exact (h id name List.mem_cons_self).elim
    | closed id name timeout => exact List.filter_sublist.trans hnew
    | _ => exact hnew

lemma IsSingle.append (hes : IsSingle es) (h : ∀ id name, .launched id name ∉ new) : IsSingle (new ++ es) := by
  intro earlier hearlier name
  rcases List.suffix_or_suffix_of_suffix hearlier (List.suffix_append new es) with hle | ⟨mid, rfl⟩
  · exact hes earlier hle name
  · obtain ⟨later, hlater⟩ := hearlier
    rw [← List.append_assoc] at hlater
    have hmid : ∀ id name, .launched id name ∉ mid := fun id name hl =>
      h id name (List.append_cancel_right hlater ▸ List.mem_append_right later hl)
    exact Nat.le_trans ((openLinks_append_sublist hmid).countP_le) (hes es (List.suffix_refl es) name)

lemma IsSingle.adds {es' : List Event} (hes : IsSingle es) (h : Adds (!·.movesLink) es es') : IsSingle es' := by
  obtain ⟨new, rfl, hnone⟩ := exists_append_of_adds h
  exact hes.append hnone

/-- A link may be opened under a name if no link is open under it. -/
lemma IsSingle.launched (hes : IsSingle es) (id : SessionId) {server : Json}
    (hnone : ∀ link ∈ openLinks es, link.2.key? ≠ server.key?) : IsSingle (.launched id server :: es) := by
  intro earlier hearlier name
  rcases List.suffix_cons_iff.mp hearlier with rfl | hearlier
  · rw [openLinks, List.countP_cons]
    by_cases hname : server.key? = name.key?
    · have hzero : (openLinks es).countP (fun link => link.2.key? = name.key?) = 0 :=
        List.countP_eq_zero.mpr fun link hl => by simpa [← hname] using hnone link hl
      rw [hzero, Nat.zero_add]
      split <;> decide
    · rw [if_neg (by simpa using hname)]
      exact hes es (List.suffix_refl es) name
  · exact hes earlier hearlier name

end

namespace World

/-- Whether a world came about from one in which nothing had happened. -/
def Arises (w : World) : Prop := ∃ v : World, v.IsVacant ∧ v.Tends w

/-- Links are tended, and if at most one of each name was open at any time, this is still so, as long as no
session runs out of numbers. -/
structure Keeps (v w : World) : Prop where
  tends : v.Tends w
  single : v.Arises → w.HasNumbers → IsSingle v.events → IsSingle w.events

variable {u v w : World} {name : Json}

lemma Tends.hasNumbers (h : v.Tends w) (few : w.HasNumbers) : v.HasNumbers := by
  refine few.of_le fun id => ?_
  by_cases hid : id < v.sessions.length
  · exact (h.endures id hid).lastId
  · rw [session_eq_default (Nat.le_of_not_lt hid)]
    exact Nat.zero_le _

lemma Arises.tends (hv : v.Arises) (h : v.Tends w) : w.Arises :=
  hv.imp fun _ ⟨hu, huv⟩ => ⟨hu, huv.trans h⟩

lemma Arises.isTidy (hv : v.Arises) : v.IsTidy := by
  obtain ⟨u, hu, huv⟩ := hv
  exact huv.tidy hu.isTidy

lemma IsVacant.accounts (h : w.IsVacant) : w.Accounts := fun link hl => by
  rw [h.events] at hl
  cases hl

lemma Keeps.trans (h : u.Keeps v) (g : v.Keeps w) : u.Keeps w where
  tends := h.tends.trans g.tends
  single hu few hs := g.single (hu.tends h.tends) few (h.single hu (g.tends.hasNumbers few) hs)

instance : Act.Course Keeps := ⟨fun w => ⟨.refl w, fun _ _ h => h⟩, .trans⟩

/-- What launches nothing keeps the names apart. -/
lemma Tends.keeps (h : v.Tends w) (hlength : w.sessions.length = v.sessions.length) : v.Keeps w where
  tends := h
  single _ _ hs := by
    obtain ⟨new, hnew, hopens⟩ := h.adds
    rw [hnew]
    refine hs.append fun id name hl => ?_
    have hnewly := hopens id name hl
    exact absurd (hlength ▸ hnewly.lt) (Nat.not_lt.mpr hnewly.new)

/-- An open link under a name is that of a session that runs under it. -/
lemma Arises.isRunning_of_mem_openLinks (hv : v.Arises) (few : v.HasNumbers) {link : SessionId × Json}
    (hl : link ∈ openLinks v.events) (hname : link.2.key? = name.key?) : Registry.isRunning v name := by
  obtain ⟨u, hu, huv⟩ := hv
  obtain ⟨hlinked, hserver⟩ := huv.accounts hu.accounts link hl
  obtain ⟨entry, he, hid⟩ := huv.running_of_isLinked hu few hlinked
  have hruns := ((huv.tidy hu.isTidy).sessions entry he).2
  rw [hid] at hruns
  refine List.any_eq_true.mpr ⟨entry, he, ?_⟩
  rw [decide_eq_true_eq, hruns.name, ← hserver, hname]

lemma Starts.keeps (h : v.Starts name w) (hv : v.IsTidy) (hnew : Registry.isRunning v name = false) :
    v.Keeps w where
  tends := h.tends hv hnew
  single harises few hs := by
    have hfew := (h.tends hv hnew).hasNumbers few
    cases h with
    | failed sessions running servers events => exact hs.adds events
    | started s es named linked status sessions running servers before after =>
      refine ((hs.adds before).launched _ fun link hl hname => ?_).adds after
      rw [openLinks_of_adds before] at hl
      have hrunning := harises.isRunning_of_mem_openLinks hfew hl (hname.trans named.symm)
      rw [hnew] at hrunning
      cases hrunning

/-- From one world to another servers were started: they run, under names of their own that none ran
under before, and no others were launched. -/
structure Grows (started : List (Json × SessionId)) (v w : World) : Prop where
  running : w.running = v.running ++ started
  unlike : ∀ entry ∈ started, Registry.isRunning v entry.1 = false
  names : (w.running.map (·.1.key?)).Nodup
  launches : ∃ new, w.events = new ++ v.events ∧
    (new.filterMap Event.launch?).reverse.map (fun link => (link.2.key?, link.1)) =
      started.map fun entry => (entry.1.key?, entry.2)

lemma Grows.refl (h : w.IsTidy) : w.Grows [] w :=
  ⟨(List.append_nil _).symm, by simp, h.names, [], rfl, rfl⟩

lemma Grows.trans {started later : List (Json × SessionId)} (h : u.Grows started v) (g : v.Grows later w) :
    u.Grows (started ++ later) w where
  running := by rw [g.running, h.running, List.append_assoc]
  unlike := List.forall_mem_append.mpr ⟨h.unlike, fun entry he => by
    have hall := g.unlike entry he
    rw [Registry.isRunning, h.running, List.any_append, Bool.or_eq_false_iff] at hall
    exact hall.1⟩
  names := g.names
  launches := by
    obtain ⟨new, hnew, hlaunches⟩ := h.launches
    obtain ⟨new', hnew', hlaunches'⟩ := g.launches
    refine ⟨new' ++ new, by rw [hnew', hnew, List.append_assoc], ?_⟩
    rw [List.filterMap_append, List.reverse_append, List.map_append, hlaunches, hlaunches', List.map_append]

lemma filterMap_launch?_of_adds {es es' : List Event} (h : Adds (!·.movesLink) es es') :
    ∃ new, es' = new ++ es ∧ new.filterMap Event.launch? = [] := by
  obtain ⟨new, rfl, hnone⟩ := h
  refine ⟨new, rfl, List.filterMap_eq_nil_iff.mpr fun e he => ?_⟩
  have hmoves := hnone e he
  cases e <;> first | rfl | cases hmoves

lemma Starts.grows (h : v.Starts name w) (hv : v.IsTidy) (hnew : Registry.isRunning v name = false) :
    ∃ started, v.Grows started w := by
  have hnames := ((h.tends hv hnew).tidy hv).names
  cases h with
  | failed sessions running servers events =>
    obtain ⟨new, hevents, hnone⟩ := filterMap_launch?_of_adds events
    exact ⟨[], by rw [running, List.append_nil], by simp, hnames, new, hevents, by rw [hnone]; rfl⟩
  | started s es named linked status sessions running servers before after =>
    obtain ⟨new, hbefore, hnone⟩ := filterMap_launch?_of_adds before
    obtain ⟨new', hafter, hnone'⟩ := filterMap_launch?_of_adds after
    refine ⟨_, running, by simpa using hnew, hnames,
      new' ++ .launched v.sessions.length s.name :: new, by rw [hafter, hbefore]; simp, ?_⟩
    rw [List.filterMap_append, hnone', List.filterMap_cons, Event.launch?]
    simp [hnone, named]

end World

/-! The registry -/

namespace Registry

lemma ends_startEach (fileName project : Json) {servers : List (Json × Fields)}
    (hkeyed : ∀ entry ∈ servers, entry.1.key? = (entry.2.getD "name" .null).key?) {w : World}
    (hw : w.IsTidy) :
    Ends (startEach fileName project servers) w fun _ v => w.Keeps v ∧ ∃ started, w.Grows started v := by
  induction servers generalizing w with
  | nil => exact ends_pure ⟨Course.refl w, [], .refl hw⟩
  | cons entry rest ih =>
    have hsame : w.Keeps w ∧ ∃ started, w.Grows started w := ⟨Course.refl w, [], .refl hw⟩
    obtain ⟨hentry, hrest⟩ := List.forall_mem_cons.mp hkeyed
    refine ends_check_bind (fun patterns _ => ?_) fun f _ => hsame
    refine ends_check_bind (fun isFor _ => ends_get_bind ?_) fun f _ => hsame
    split
    next => exact ih hrest hw
    next hnew =>
      rw [Bool.or_eq_true, not_or, Bool.not_eq_true, Bool.not_eq_true] at hnew
      refine Ends.bind ((starts_launch hentry project w).mono fun result u hu => ?_)
      have hkeeps := hu.keeps hw hnew.2
      obtain ⟨started, hgrows⟩ := hu.grows hw hnew.2
      have hlater := (ih hrest (hkeeps.tends.tidy hw)).mono fun _ v hv => by
        obtain ⟨hkeeps', later, hgrows'⟩ := hv
        exact (⟨hkeeps.trans hkeeps', _, hgrows.trans hgrows'⟩ :
          w.Keeps v ∧ ∃ started, w.Grows started v)
      cases result with
      | error f => exact ⟨hkeeps, started, hgrows⟩
      | ok found =>
        cases found with
        | none => exact hlater
        | some id =>
          refine next_ok (Ends.bind (hlater.mono fun result v hv => ?_))
          cases result with
          | error f => exact hv
          | ok ids => exact next_ok (ends_pure hv)

lemma ends_start (fileName project : Json) {w : World} (hw : w.IsTidy) :
    Ends (start fileName project) w fun _ v => w.Keeps v ∧ ∃ started, w.Grows started v :=
  ends_get_bind (ends_startEach fileName project hw.servers hw)

end Registry

/-! Runs -/

instance Conduct.welcomes_any : any.Welcomes where
  opens _ := .inl rfl
  documents a ha := .inl (by cases a <;> first | rfl | cases ha)
  settings _ := rfl

/-- A world as a host finds it between two actions. -/
structure World.IsSettled (c : Conduct) (w : World) : Prop where
  tidy : w.IsTidy
  orderly : w.Orderly c

section

variable {c : Conduct} {w : World}

lemma World.IsVacant.isSettled (h : w.IsVacant) : w.IsSettled c where
  tidy := h.isTidy
  orderly := {
    lawful := {
      sessions := fun id => by
        rw [h.session_eq, story, h.events]
        exact .blank [] .null
      running := by simp [h.running] }
    informed := fun id hs => by
      rw [h.session_eq] at hs
      cases hs }

/-- What tends all links and adds no sessions launches nothing. -/
lemma keeps_of_carries {α : Type} {a : Act α} (ht : Tended a) (hc : Within (Carries c) (Orderly c) a) :
    Within Keeps (IsSettled c) a :=
  ⟨fun w hw => (ht.after w hw.tidy).keeps (hc.after w hw.orderly).length⟩

variable [c.Welcomes]

lemma Features.keeps_openDocument (doc : Json) : Within Keeps (IsSettled c) (openDocument doc) := by
  refine within_check_bind fun fileName _ => within_get_bind fun w hw => ?_
  refine Within.bind_of (Q := IsSettled c) (fun v hv => ?_) fun _ =>
    keeps_of_carries ((tended_sessionsFor doc).bind fun ids => tended_openIn doc ids)
      (carries_sessionsFor_bind (carries_openIn doc))
  rw [show v = w from hv]
  have hkeeps : w.Keeps _ := (Registry.ends_start fileName w.project hw.tidy).1
  exact ⟨hkeeps, hkeeps.tends.tidy hw.tidy,
    ((Registry.treads_start fileName w.project).after w hw.orderly).orderly hw.orderly⟩

lemma keeps_act {a : Action} (h : c.permits a) : Within Keeps (IsSettled c) (act a) := by
  cases hs : a.starts with
  | false => exact keeps_of_carries (tended_act a) (carries_act h hs)
  | true =>
    cases a with
    | registry action =>
      cases action with
      | start fileName project =>
        have hstart : Within Keeps (IsSettled c) (Registry.start fileName project) :=
          within_of_ends fun w hw => (Registry.ends_start fileName project hw.tidy).mono fun _ _ h => h.1
        exact hstart.bind_any fun _ => within_get_bind fun _ _ => within_pure _
      | _ => cases hs
    | feature action =>
      cases action with
      | openDocument doc => exact (Features.keeps_openDocument doc).bind_any fun _ => within_pure _
      | _ => cases hs
    | _ => cases hs

lemma isSettled_act {a : Action} (h : c.permits a) (hw : w.IsSettled c) :
    w.Keeps ((act a).after w) ∧ ((act a).after w).IsSettled c := by
  have hkeeps := (keeps_act h).after w hw
  exact ⟨hkeeps, hkeeps.tends.tidy hw.tidy, ((treads_act h).after w hw.orderly).orderly hw.orderly⟩

lemma isSettled_actLast {a : Action} (h : c.permits a) (hw : w.IsSettled c) :
    w.Keeps ((actLast a).after w) ∧ ((actLast a).after w).IsSettled c := by
  have hkeeps : Within Keeps (IsSettled c) (actLast a) :=
    Within.bind_of (fun v hv => isSettled_act h hv) fun result =>
      (keeps_of_carries (Schedule.tended_stop defaultTimeout) (Schedule.carries_stop defaultTimeout)).bind_any
        fun _ => within_check result
  have hlast := hkeeps.after w hw
  exact ⟨hlast, hlast.tends.tidy hw.tidy, ((treads_actLast h).after w hw.orderly).orderly hw.orderly⟩

lemma keeps_of_mem_outcomes (hw : w.IsSettled c) {actions : List Action} (ha : actions.all c.permits)
    {o : Outcome} (ho : o ∈ outcomes w actions) : w.Keeps o.world ∧ o.world.IsSettled c := by
  induction actions generalizing w with
  | nil => cases ho
  | cons a rest ih =>
    rw [List.all_cons, Bool.and_eq_true] at ha
    cases rest with
    | nil =>
      obtain rfl := List.mem_singleton.mp ho
      exact isSettled_actLast ha.1 hw
    | cons b rest =>
      obtain ⟨hkeeps, hsettled⟩ := isSettled_act ha.1 hw
      rcases List.mem_cons.mp ho with rfl | ho
      · exact ⟨hkeeps, hsettled⟩
      · exact (ih hsettled ha.2 ho).imp_left hkeeps.trans

end

/-- In a world that a host comes to, at most one link of each name was open at any time, and what runs
does so under its own name and has begun. A round ticks each session that runs exactly once, whatever
ticks raise, and removes those that are over after their tick. Servers are started under names that none
runs under. -/
structure World.IsSingular (w : World) : Prop where
  single : w.HasNumbers → IsSingle w.events
  running : ∀ entry ∈ w.running, (w.session entry.2).RunsAs entry.1
  names : (w.running.map (·.1.key?)).Nodup
  turns : w.processFault = none →
    Ends (Registry.process (callWithin nestingLimit)) w fun result v =>
      result = .ok () ∧ Registry.Turns (callWithin nestingLimit) w.running v.running w v
  starts : ∀ fileName project, Ends (Registry.start fileName project) w fun _ v =>
    ∃ started, w.Grows started v

/-- Whatever a host does with its registry, the features and its sessions, and whatever callbacks do that
do not turn to the registry: there is one live session for each name. -/
theorem isSingular_of_mem_outcomes {w : World} (hw : w.IsVacant) {actions : List Action}
    (ha : actions.all Conduct.any.permits) {o : Outcome} (ho : o ∈ outcomes w actions) :
    o.world.IsSingular := by
  obtain ⟨hkeeps, hsettled⟩ := keeps_of_mem_outcomes hw.isSettled ha ho
  have hempty : IsSingle w.events := fun earlier hearlier name => by
    rw [hw.events, List.suffix_nil] at hearlier
    rw [hearlier]
    exact Nat.zero_le 1
  exact {
    single := fun few => hkeeps.single ⟨w, hw, .refl w⟩ few hempty
    running := fun entry he => (hsettled.tidy.sessions entry he).2
    names := hsettled.tidy.names
    turns := fun hfault => by
      refine ends_get_bind ?_
      rw [hfault]
      refine (Registry.turns_tickEach o.world.running o.world).mono ?_
      rintro result v ⟨hresult, stay, hturns⟩
      have hrunning : v.running = [] ++ stay := hturns.running_eq (abides_callWithin nestingLimit)
        hsettled.orderly hsettled.orderly.lawful.running rfl hsettled.tidy.names
      rw [List.nil_append] at hrunning
      exact ⟨hresult, hrunning ▸ hturns⟩
    starts := fun fileName project =>
      (Registry.ends_start fileName project hsettled.tidy).mono fun _ _ h => h.2 }

/-- A server goes away, is removed though a listener raises and ticks the other one meanwhile, and is
started again. -/
theorem isSingular_of_mem_outcomes_again :
    let config (name : Json) : Json :=
      .object [("name", name), ("command", "run"), ("file_patterns", .list ["\\.py$"])]
    let doc : Json := .object [("filename", "/a.py"), ("text", "x"), ("version", .int 1)]
    let listener := some (Callback.mk "gone" [.session "two" .tick] (some "no"))
    let actions : List Action :=
      [.registry (.addServer (config "one")), .registry (.addServer (config "two")),
        .feature (.openDocument doc), .registry .process,
        .session "one" (.onEvent "shutdown" listener), .link "one" (.setAlive (.bool false)),
        .registry .process, .registry (.addServer (config "one")), .feature (.openDocument doc),
        .registry .process]
    ({} : World).IsVacant ∧ actions.all Conduct.any.permits ∧
      ∃ o ∈ outcomes {} actions, o.world.IsSingular ∧ IsSingle o.world.events ∧
        o.world.events.countP Event.isLaunch = 3 ∧
        (openLinks o.world.events).map (fun link => (link.1, link.2.key?)) =
          [(2, Json.key? "one"), (1, Json.key? "two")] := by
  intro config doc listener actions
  have ha : actions.all Conduct.any.permits := by decide +kernel
  have hrun : ∃ o ∈ outcomes {} actions, (o.world.sessions.all fun s => s.correlator.lastId < numberLimit) ∧
      o.world.events.countP Event.isLaunch = 3 ∧
      (openLinks o.world.events).map (fun link => (link.1, link.2.key?)) =
        [(2, Json.key? "one"), (1, Json.key? "two")] := by
    decide +kernel
  obtain ⟨o, ho, hfew, hlaunched, hopen⟩ := hrun
  have hsingular := isSingular_of_mem_outcomes World.isVacant_default ha ho
  exact ⟨World.isVacant_default, ha, o, ho, hsingular, hsingular.single (hasNumbers_of_all hfew), hlaunched, hopen⟩

end LanguageClient
