import LanguageClient.Proofs.Apart.Worlds

/-!
What is done with all that runs, in two worlds at once: ticks, and what features do with the sessions for a
document.
-/

namespace LanguageClient

open Act World

variable {k : Option Json.Key} {ps : List (SessionId × SessionId)} {m n : Nat} {v w : World} {id : SessionId}

lemma World.Lists.twin {ids : List SessionId} (h : w.Lists k ids) (hid : id < w.sessions.length) : Twin id id w w :=
  ⟨hid, hid, rfl, h.own id, rfl, rfl⟩

/-- What is done with a session spares the others. -/
lemma World.Lists.spares_after {α : Type} {ids : List SessionId} {a : SessionId → Act α} (h : w.Lists k ids)
    (ha : Local a) (hid : id < w.sessions.length) : Spares id w ((a id).after w) :=
  (ha (h.twin hid)).2.2

namespace Registry

variable {call : Caller}

/-! Ticks -/

lemma quiet_remove (name : Json) (id : SessionId) (h : Quiet w v) : Quiet (remove name id w) (remove name id v) :=
  ⟨h.sessions, congrArg (List.filter _) h.running, h.common, h.voices⟩

/-- What a tick of a session leaves: the session does not run any more if it is over. -/
def tended (call : Caller) (name : Json) (id : SessionId) (w : World) : World :=
  let u := (Session.tick call id).after w
  if (u.session id).status = .terminated then remove name id u else u

lemma ends_tickEach_cons {name : Json} {rest : List (Json × SessionId)} {Q : Except Fault Unit → World → Prop}
    (h : ∀ x, Quiet (tended call name id w) x → Ends (tickEach call rest) x Q) :
    Ends (tickEach call ((name, id) :: rest)) w Q := by
  have hnext : ∀ v, Quiet ((Session.tick call id).after w) v → Ends (do
      if (← getSession id).status = .terminated then
        modify (remove name id)
        log .client Level.debug ("[" ++ name.display ++ "] Removed from running servers")
      tickEach call rest) v Q := by
    intro v hv
    refine ends_getSession_bind ?_
    rw [hv.session]
    split
    next hover =>
      refine h _ (.trans ?_ (quiet_log ..))
      rw [tended, if_pos hover]
      exact quiet_remove name id hv
    next hlive =>
      refine h v ?_
      rwa [tended, if_neg hlive]
  refine Ends.attempt_bind ?_
  change Ends _ ((Session.tick call id).after w) Q
  cases ((Session.tick call id).run w).1 with
  | ok _ => exact hnext _ (.refl _)
  | error f => exact hnext _ (quiet_log ..)

end Registry

namespace World.Matched

variable {call : Caller} {name : Json} {L L' : List (Json × SessionId)}

lemma launchable_of_filter (h : Matched k ps w v) {P Q : Json × SessionId → Bool}
    (hL : w.running.filter P ≠ [] ∨ v.running.filter Q ≠ []) : w.common.Launchable := by
  refine h.launchable (hL.imp (mt fun hnil => ?_) (mt fun hnil => ?_)) <;> rw [hnil, List.filter_nil]

/-- A session of the one server does not run any more. -/
lemma remove_left (h : Matched k ps w v) (key : name.key? = k) (id : SessionId) :
    Matched k ps (Registry.remove name id w) v := by
  have hfilter := h.running.filter (P := fun e => !(e.1.key? = name.key? && e.2 = id)) (Q := fun _ => true)
    fun other p hother _ => by simp [key, hother]
  have hv : v.running.filter (fun _ => true) = v.running := List.filter_true _
  have hmatched := h.rerun hfilter h.launchable_of_filter
  rwa [hv] at hmatched

/-- Twins do not run any more. -/
lemma remove_both (h : Matched k ps w v) (name : Json) {p : SessionId × SessionId} (hp : p ∈ ps) :
    Matched k ps (Registry.remove name p.1 w) (Registry.remove name p.2 v) := by
  refine h.rerun (h.running.filter fun other q _ hq => ?_) h.launchable_of_filter
  have hiff : q.1 = p.1 ↔ q.2 = p.2 :=
    ⟨fun he => List.inj_on_of_nodup_map h.left.nodup hq hp he ▸ rfl,
      fun he => List.inj_on_of_nodup_map h.right.nodup hq hp he ▸ rfl⟩
  simp [hiff]

lemma tend_left (h : Matched k ps w v) (hc : CallsLocally call) (key : name.key? = k)
    (hid : id < w.sessions.length) (alone : id ∉ ps.map Prod.fst) :
    Matched k ps (Registry.tended call name id w) v ∧
      (Registry.tended call name id w).sessions.length = w.sessions.length := by
  have hspares := h.left.spares_after (Session.local_tick hc) hid
  have hticked := h.aside hspares hid alone
  unfold Registry.tended
  dsimp only
  split
  next => exact ⟨hticked.remove_left key id, hspares.length⟩
  next => exact ⟨hticked, hspares.length⟩

lemma tend_both (h : Matched k ps w v) (hc : CallsLocally call) (name : Json) {p : SessionId × SessionId}
    (hp : p ∈ ps) : Matched k ps (Registry.tended call name p.1 w) (Registry.tended call name p.2 v) ∧
      (Registry.tended call name p.1 w).sessions.length = w.sessions.length ∧
      (Registry.tended call name p.2 v).sessions.length = v.sessions.length := by
  obtain ⟨-, hticked, hleft, hright⟩ := h.both hp (Session.local_tick hc)
  have hsession := (hticked.twin p hp).session
  unfold Registry.tended
  dsimp only
  rw [hsession]
  split
  next => exact ⟨hticked.remove_both name hp, hleft.length, hright.length⟩
  next => exact ⟨hticked, hleft.length, hright.length⟩

/-- All that runs in either of two worlds has its tick. -/
lemma tickEach (hc : CallsLocally call) (hL : Aligned k ps m n L L') (h : Matched k ps w v)
    (hw : w.sessions.length = m) (hv : v.sessions.length = n) :
    Matched k ps ((Registry.tickEach call L).after w) ((Registry.tickEach call L').after v) := by
  change Ends (Registry.tickEach call L) w fun _ w' =>
    Ends (Registry.tickEach call L') v fun _ v' => Matched k ps w' v'
  induction hL generalizing w v with
  | nil => exact h
  | left key lt alone rest ih =>
    obtain ⟨htended, hlength⟩ := h.tend_left hc key (hw ▸ lt) alone
    refine Registry.ends_tickEach_cons fun x hx => ih (htended.quiet hx) ?_ hv
    rw [hx.sessions, hlength, hw]
  | @right name id L L' key lt alone rest ih =>
    obtain ⟨htended, hlength⟩ := h.symm.tend_left hc key (hv ▸ lt) (map_fst_map_swap ps ▸ alone)
    change Ends (Registry.tickEach call ((name, id) :: L')) v fun _ v' =>
      Ends (Registry.tickEach call L) w fun _ w' => Matched k ps w' v'
    refine Registry.ends_tickEach_cons fun x hx => ih (htended.quiet hx).of_symm hw ?_
    rw [hx.sessions, hlength, hv]
  | @both name p L L' key mem rest ih =>
    obtain ⟨htended, hleft, hright⟩ := h.tend_both hc name mem
    refine Registry.ends_tickEach_cons fun x hx => ?_
    change Ends (Registry.tickEach call ((name, p.2) :: L')) v fun _ v' =>
      Ends (Registry.tickEach call L) x fun _ w' => Matched k ps w' v'
    refine Registry.ends_tickEach_cons fun y hy => ih ((htended.quiet hx).symm.quiet hy).of_symm ?_ ?_
    · rw [hx.sessions, hleft, hw]
    · rw [hy.sessions, hright, hv]

lemma process (h : Matched k ps w v) (hc : CallsLocally call) :
    Matched k ps ((Registry.process call).after w) ((Registry.process call).after v) := by
  have hfault : v.processFault = w.processFault := (congrArg World.processFault h.common).symm
  cases hw : w.processFault with
  | some message =>
    have hrun : ∀ u, u.processFault = some message → (Registry.process call).after u = u := by
      intro u hu
      change Ends (Registry.process call) u fun _ x => x = u
      refine ends_get_bind ?_
      rw [hu]
      exact ends_throw rfl
    rwa [hrun w hw, hrun v (hfault.trans hw)]
  | none =>
    have hrun : ∀ u, u.processFault = none →
        (Registry.process call).after u = (Registry.tickEach call u.running).after u := by
      intro u hu
      change Ends (Registry.process call) u fun _ x => x = (Registry.tickEach call u.running).after u
      refine ends_get_bind ?_
      rw [hu]
      exact rfl
    rw [hrun w hw, hrun v (hfault.trans hw)]
    exact h.tickEach hc h.running rfl rfl

end World.Matched

/-! What is done with some of the sessions that run -/

namespace Act

/-- Two lists of sessions are gone through, if nothing goes wrong with the sessions of the one server as long
as `P` holds of them. -/
lemma parallel_each {f : List SessionId → Act Unit} {a : SessionId → Act Unit} (hnil : f [] = pure ())
    (hcons : ∀ id rest, f (id :: rest) = a id >>= fun _ => f rest) (ha : Local a) {P : Session → Prop}
    (hP : ∀ id w, id < w.sessions.length → P (w.session id) →
      (∃ x, ((a id).run w).1 = .ok x) ∧ P (((a id).after w).session id))
    {L L' : List (Json × SessionId)} (hL : Aligned k ps m n L L') (h : Matched k ps w v)
    (hw : w.sessions.length = m) (hv : v.sessions.length = n)
    (hleft : ∀ id, id ∉ ps.map Prod.fst → P (w.session id))
    (hright : ∀ id, id ∉ ps.map Prod.snd → P (v.session id)) :
    Parallel k (f (L.map (·.2))) (f (L'.map (·.2))) w v := by
  have hkeeps : ∀ {id : SessionId} {qs : List SessionId} {u : World}, (∀ other, other ∉ qs → P (u.session other)) →
      Spares id u ((a id).after u) → (id ∉ qs → P (((a id).after u).session id)) →
      ∀ other, other ∉ qs → P (((a id).after u).session other) := by
    intro id qs u hu hspares hid other ho
    by_cases he : other = id
    · exact he ▸ hid (he ▸ ho)
    · exact hspares.session other he ▸ hu other ho
  induction hL generalizing w v with
  | nil =>
    rw [List.map_nil, hnil]
    exact ⟨⟨fun _ => ⟨_, rfl⟩, fun _ => ⟨_, rfl⟩⟩, ps, h⟩
  | @left name id L L' key lt alone rest ih =>
    subst hw hv
    obtain ⟨⟨x, hx⟩, hid⟩ := hP id w lt (hleft id alone)
    have hspares := h.left.spares_after ha lt
    rw [List.map_cons, hcons]
    exact .bind_left hx (ih (h.aside hspares lt alone) hspares.length rfl
      (hkeeps hleft hspares fun _ => hid) hright)
  | @right name id L L' key lt alone rest ih =>
    subst hw hv
    obtain ⟨⟨x, hx⟩, hid⟩ := hP id v lt (hright id alone)
    have hspares := h.right.spares_after ha lt
    have haside := (h.symm.aside hspares lt (map_fst_map_swap ps ▸ alone)).of_symm
    rw [List.map_cons (l := L'), hcons]
    exact (Parallel.bind_left hx (ih haside rfl hspares.length hleft
      (hkeeps hright hspares fun _ => hid)).symm).symm
  | @both name p L L' key mem rest ih =>
    subst hw hv
    obtain ⟨hresult, hmatched, hl, hr⟩ := h.both mem ha
    rw [List.map_cons, List.map_cons, hcons, hcons]
    refine Parallel.bind ⟨by rw [hresult], ps, hmatched⟩ fun _ _ _ _ => ?_
    exact ih hmatched hl.length hr.length
      (hkeeps hleft hl fun ho => (ho (List.mem_map_of_mem mem)).elim)
      (hkeeps hright hr fun ho => (ho (List.mem_map_of_mem mem)).elim)

end Act

end LanguageClient
