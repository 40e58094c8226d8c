import LanguageClient.Proofs.Registry.Performing

/-!
The end of the registry. When it has been shut down, every link that was opened before is closed, whatever
callbacks did meanwhile. Only what they launched meanwhile can still run.
-/

namespace LanguageClient

open Act World

namespace World

/-- Nothing has happened yet. Servers may be configured, each under its own name. -/
structure IsVacant (w : World) : Prop where
  sessions : w.sessions = []
  running : w.running = []
  servers : ∀ entry ∈ w.servers, entry.1.key? = (entry.2.getD "name" .null).key?
  events : w.events = []

/-- Of two worlds the second one is as the registry has been shut down. -/
structure ShutsDown (v w : World) : Prop where
  closed : ∀ id name, .launched id name ∈ v.events →
    (w.session id).isShut ∧ ∃ server timeout, .closed id server timeout ∈ w.events
  running : ∀ entry ∈ w.running, (∃ name, .launched entry.2 name ∈ w.events) ∧
    ∀ name, .launched entry.2 name ∉ v.events

section

variable {u v w : World} {id : SessionId} {name : Json}

lemma IsVacant.session_eq (h : w.IsVacant) (id : SessionId) : w.session id = default :=
  session_eq_default (by rw [h.sessions]; exact Nat.zero_le _)

lemma IsVacant.isTidy (h : w.IsVacant) : w.IsTidy where
  servers := h.servers
  sessions := by simp [h.running]
  names := by simp [h.running]

lemma IsVacant.isLinked_eq (h : w.IsVacant) (id : SessionId) : (w.session id).isLinked = false := by
  rw [h.session_eq]
  rfl

/-- From the start on, no session is forgotten. -/
lemma Tends.not_forgets (h : w.Tends v) (hw : w.IsVacant) : ¬ v.Forgets id := fun hv => by
  have hlinked := (h.forgets id hv).linked
  rw [hw.isLinked_eq] at hlinked
  cases hlinked

/-- What was launched is there, and has a link. -/
lemma Tends.linked_of_launched (h : w.Tends v) (hw : w.IsVacant) (hl : .launched id name ∈ v.events) :
    id < v.sessions.length ∧ (v.session id).link.isSome := by
  have hnew := (h.launched hl).resolve_left (by simp [hw.events])
  exact ⟨hnew.lt, hnew.linked⟩

/-- An open link belongs to a session that runs. -/
lemma Tends.running_of_isLinked (h : w.Tends v) (hw : w.IsVacant) (few : v.HasNumbers)
    (hv : (v.session id).isLinked) : ∃ entry ∈ v.running, entry.2 = id := by
  have hlive : (v.session id).status.isLeaving = false := by
    rw [← Bool.not_eq_true]
    exact fun hleaving => h.not_strands (hw.isLinked_eq id) ⟨hv, hleaving, few id⟩
  by_contra hnone
  exact h.not_forgets hw ⟨few, hv, hlive, fun entry he ho => hnone ⟨entry, he, ho⟩⟩

end

lemma hasNumbers_of_all {w : World} (h : w.sessions.all fun s => s.correlator.lastId < numberLimit) :
    w.HasNumbers := fun id => by
  rw [session, List.getD_eq_getElem?_getD]
  cases hget : w.sessions[id]? with
  | none => exact (by decide +kernel : 0 < numberLimit)
  | some s => simpa using List.all_eq_true.mp h s (List.mem_of_getElem? hget)

end World

/-- Whatever a host did, and whatever its callbacks did and do: the registry is shut down to the end, as
long as no session runs out of numbers, and all that was launched before is closed. What runs then was
launched meanwhile, by a callback; if none launches anything, nothing runs and all links are closed. -/
theorem shutsDown_of_mem_outcomes {w : World} (hw : w.IsVacant) {actions : List Action} {o : Outcome}
    (ho : o ∈ outcomes w actions) (timeout : Json) :
    Ends (act (.registry (.shutdown timeout))) o.world fun result v => v.HasNumbers →
      (∃ x, result = .ok x) ∧ o.world.ShutsDown v ∧
        ((∀ id name, .launched id name ∈ v.events → .launched id name ∈ o.world.events) →
          v.running = [] ∧ ∀ id name, .launched id name ∈ v.events → (v.session id).isShut) := by
  have hreached : w.Tends o.world := tends_of_mem_outcomes hw.isTidy ho
  refine Ends.bind ((Registry.tends_shutdown (minds_callWithin nestingLimit) timeout
    (hreached.tidy hw.isTidy)).mono ?_)
  rintro result v ⟨hv, hok, hnew⟩
  suffices hall : v.HasNumbers → result = .ok () ∧ o.world.ShutsDown v by
    cases result with
    | error f => exact fun few => by cases (hall few).1
    | ok _ =>
      refine next_ok (ends_pure fun few => ⟨⟨_, rfl⟩, (hall few).2, fun hnone => ⟨?_, ?_⟩⟩)
      · refine List.eq_nil_iff_forall_not_mem.mpr fun entry he => ?_
        obtain ⟨⟨name, hl⟩, hnot⟩ := (hall few).2.running entry he
        exact hnot name (hnone _ name hl)
      · exact fun id name hl => ((hall few).2.closed id name (hnone id name hl)).1
  refine fun few => ⟨hok few, fun id name hl => ?_, fun entry he => ⟨(hnew entry he).2, ?_⟩⟩
  · obtain ⟨hlt, hsome⟩ := hreached.linked_of_launched hw hl
    have hshut : (v.session id).isShut := by
      refine (Session.isLinked_or_isShut ((hv.endures id hlt).linked hsome)).resolve_left fun hlinked => ?_
      obtain ⟨entry, he, rfl⟩ := (hreached.trans hv).running_of_isLinked hw few hlinked
      exact absurd hlt (Nat.not_lt.mpr (hnew entry he).1)
    refine ⟨hshut, ((hreached.trans hv).shut id hshut).resolve_left fun h => ?_⟩
    rw [hw.session_eq] at h
    cases h
  · intro name hl
    exact absurd (hreached.linked_of_launched hw hl).1 (Nat.not_lt.mpr (hnew entry he).1)

/-! A registry that is shut down, and one that a listener restarts meanwhile -/

lemma World.isVacant_default : ({} : World).IsVacant := ⟨rfl, rfl, by simp, rfl⟩

def Event.isLaunch : Event → Bool
  | .launched _ _ => true
  | _ => false

lemma launched_of_countP_le {es es' : List Event} (h : es <:+ es')
    (hc : es'.countP Event.isLaunch ≤ es.countP Event.isLaunch) {id : SessionId} {name : Json}
    (hl : .launched id name ∈ es') : .launched id name ∈ es := by
  obtain ⟨new, rfl⟩ := h
  rw [List.countP_append] at hc
  have hnone : new.countP Event.isLaunch = 0 := by omega
  refine (List.mem_append.mp hl).resolve_left fun hnew => ?_
  exact List.countP_eq_zero.mp hnone _ hnew rfl

/-- One session is asked something and another one loses its server; the answer and the listener act on
the registry while it is shut down. -/
theorem shutsDown_of_mem_outcomes_twice :
    let config (name : Json) : Json :=
      .object [("name", name), ("command", "run"), ("file_patterns", .list ["\\.py$"])]
    let doc : Json := .object [("filename", "/a.py"), ("text", "x"), ("version", .int 1)]
    let again := some (Callback.mk "again" [.registry .process, .feature (.closeDocument doc)] (some "no"))
    let actions : List Action :=
      [.registry (.addServer (config "one")), .registry (.addServer (config "two")),
        .feature (.openDocument doc), .registry .process,
        .link "one" (.write [Message.response (.int 1) (.object [])]), .registry .process,
        .session "one" (.pushRequest "hover" .null again .null),
        .session "two" (.onEvent "shutdown" again), .session "one" .tick,
        .link "two" (.setAlive (.bool false))]
    ({} : World).IsVacant ∧ ∃ o ∈ outcomes {} actions, o.world.running.length = 2 ∧
      Ends (act (.registry (.shutdown .null))) o.world fun _ v => o.world.ShutsDown v ∧
        v.running = [] ∧ v.events.countP Event.isLaunch = 2 ∧
        ∀ id name, .launched id name ∈ v.events → (v.session id).isShut := by
  intro config doc again actions
  have hrun : ∃ o ∈ outcomes {} actions, o.world.running.length = 2 ∧
      let v := ((act (.registry (.shutdown .null))).run o.world).2
      (v.sessions.all fun s => s.correlator.lastId < numberLimit) ∧
        v.events.countP Event.isLaunch = 2 ∧ o.world.events.countP Event.isLaunch = 2 := by
    decide +kernel
  obtain ⟨o, ho, htwo, hfew, hlaunched, hbefore⟩ := hrun
  have hw := World.isVacant_default
  have hends := shutsDown_of_mem_outcomes hw ho .null (hasNumbers_of_all hfew)
  have htends := (tended_act (.registry (.shutdown .null))).after o.world
    ((tends_of_mem_outcomes hw.isTidy ho).tidy hw.isTidy)
  obtain ⟨hnone, hall⟩ := hends.2.2 fun id name hl =>
    launched_of_countP_le htends.events (hlaunched.trans hbefore.symm).le hl
  exact ⟨hw, o, ho, htwo, hends.2.1, hnone, hlaunched, hall⟩

/-- Whether something was launched and is not closed in a world. -/
def Event.isLaunchOpenIn (w : World) : Event → Bool
  | .launched id _ => !(w.session id).isShut
  | _ => false

/-- A listener that opens a document when its session is shut down starts the server again, and nobody
shuts that one down. -/
theorem not_running_nil_of_mem_outcomes_restart :
    let config : Json :=
      .object [("name", "server"), ("command", "run"), ("file_patterns", .list ["\\.py$"])]
    let doc : Json := .object [("filename", "/a.py"), ("text", "x"), ("version", .int 1)]
    let restart := some (Callback.mk "restart" [.feature (.openDocument doc)] none)
    let actions : List Action :=
      [.registry (.addServer config), .feature (.openDocument doc), .registry .process,
        .link .null (.write [Message.response (.int 1) (.object [])]), .registry .process,
        .session .null (.onEvent "shutdown" restart)]
    ({} : World).IsVacant ∧ ∃ o ∈ outcomes {} actions,
      Ends (act (.registry (.shutdown .null))) o.world fun result v =>
        (∃ x, result = .ok x) ∧ v.HasNumbers ∧ v.running ≠ [] ∧
          ∃ id name, .launched id name ∈ v.events ∧ (v.session id).isShut = false := by
  intro config doc restart actions
  have hrun : ∃ o ∈ outcomes {} actions,
      let r := (act (.registry (.shutdown .null))).run o.world
      r.1.toOption.isSome ∧ (r.2.sessions.all fun s => s.correlator.lastId < numberLimit) ∧
        r.2.running.length = 1 ∧ r.2.events.any (·.isLaunchOpenIn r.2) := by
    decide +kernel
  obtain ⟨o, ho, hok, hfew, hone, hopen⟩ := hrun
  refine ⟨World.isVacant_default, o, ho, ?_, hasNumbers_of_all hfew, fun hnil => ?_, ?_⟩
  · cases hr : ((act (.registry (.shutdown .null))).run o.world).1 with
    | ok x => exact ⟨x, rfl⟩
    | error f => rw [hr] at hok; cases hok
  · rw [hnil] at hone
    cases hone
  · obtain ⟨e, he, hlaunch⟩ := List.any_eq_true.mp hopen
    cases e with
    | launched id name => exact ⟨id, name, he, by simpa [Event.isLaunchOpenIn] using hlaunch⟩
    | _ => cases hlaunch

end LanguageClient
