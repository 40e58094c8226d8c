import LanguageClient.Proofs.Pending.Answers

/-!
Requests that are overdue. Expiry takes them out of the table one after the other, each with its own
answer, and it makes no difference whether it comes once or twice.
-/

namespace LanguageClient

lemma Exact.atMost_trans {a b c : Exact} (h : a.atMost b) (g : b.atMost c) : a.atMost c := by
  rcases a with _ | (_ | _) | x <;> rcases b with _ | (_ | _) | y <;> rcases c with _ | (_ | _) | z <;>
    simp only [atMost, decide_eq_true_eq, reduceCtorEq] at h g ⊢
  exact h.trans g

/-- A value shows a time: the number it stands for, and the floating point number nearest to it. -/
structure Json.Shows (v : Json) (t : Exact) (x : Float) : Prop where
  number : v.number? = some t
  float : v.toFloat = .ok x

lemma Json.shows_float (x : Float) : (Json.float x).Shows (.ofFloat x) x := ⟨rfl, rfl⟩

lemma Json.Shows.isNull_eq {v : Json} {t : Exact} {x : Float} (h : v.Shows t x) : v.isNull = false := by
  cases v with
  | null => cases h.number
  | _ => rfl

lemma filter_filter_of_imp {κ : Type} {f g : κ → Bool} (h : ∀ x, f x → g x) (l : List κ) :
    (l.filter g).filter f = l.filter f := by
  rw [List.filter_filter]
  refine List.filter_congr fun x _ => ?_
  by_cases hf : f x
  · simp [hf, h x hf]
  · simp [hf]

namespace Pending

/-- What a request is answered when it is given up. -/
def timeout (x : Float) (p : Pending Handler) : Json :=
  Message.errorResponse p.id (.int Message.Code.requestTimeout)
    (Session.timeoutText p (x - p.timestamp)) .null

/-- Whoever is called with the answer to a request leaves the table of a session alone. -/
def Spares (call : Caller) (id : SessionId) (p : Pending Handler) : Prop :=
  ∀ handler ∈ p.handler, ∀ ticket response w,
    (((call (.answer handler id ticket response)).after w).session id).correlator =
      (w.session id).correlator

variable {p : Pending Handler} {s t : Exact}

lemma isDue_mono (h : s.atMost t) (hp : p.isDue s) : p.isDue t := by
  rw [isDue, Option.any_eq_true] at hp ⊢
  obtain ⟨deadline, hd, hle⟩ := hp
  exact ⟨deadline, hd, Exact.atMost_trans hle h⟩

/-- What is due at one of two times is due at the later one. -/
lemma filter_isDue_perm (h : s.atMost t) (ps : List (Pending Handler)) :
    (ps.filter (·.isDue s) ++ ps.filter fun p => p.isDue t && !p.isDue s).Perm (ps.filter (·.isDue t)) := by
  have hfirst : (ps.filter (·.isDue t)).filter (·.isDue s) = ps.filter (·.isDue s) :=
    filter_filter_of_imp (fun _ => isDue_mono h) ps
  have hsecond : (ps.filter (·.isDue t)).filter (! ·.isDue s) =
      ps.filter fun p => p.isDue t && !p.isDue s := by
    rw [List.filter_filter]
    exact List.filter_congr fun p _ => Bool.and_comm _ _
  rw [← hfirst, ← hsecond]
  exact List.filter_append_perm _ _

lemma filter_not_isDue (h : s.atMost t) (ps : List (Pending Handler)) :
    (ps.filter (! ·.isDue s)).filter (! ·.isDue t) = ps.filter (! ·.isDue t) := by
  refine filter_filter_of_imp (fun p hp => ?_) ps
  rw [Bool.not_eq_true', ← Bool.not_eq_true] at hp ⊢
  exact mt (isDue_mono h) hp

lemma field_timeout (x : Float) (p : Pending Handler) : (p.timeout x).field "id" = .ok p.id := rfl

lemma failure?_timeout (x : Float) (p : Pending Handler) : Message.failure? (p.timeout x) =
    .ok (some (.timedOut (Session.timeoutText p (x - p.timestamp)))) := rfl

end Pending

/-- A request was given up: this is in the log, and whoever made it was told. -/
def World.giveUp (call : Caller) (id : SessionId) (x : Float) (w : World) (p : Pending Handler) :
    World :=
  let v := w.log .client (.int Level.warning)
    ((w.session id).tag ++ "Request " ++ p.id.display ++ " (" ++ p.method.display ++ ") timed out") none
  (v.withdraw id p (p.timeout x)).inform call id p (p.timeout x)

/-- These requests were given up one after the other at a time, and counted. -/
structure World.GaveUp (call : Caller) (id : SessionId) (x : Float) (ps : List (Pending Handler))
    (w : World) (result : Except Fault Nat) (u : World) : Prop where
  counted : result = .ok ps.length
  world : u = ps.foldl (World.giveUp call id x) w

namespace Correlator

variable {c : Correlator Handler} {ps : List (Pending Handler)}

/-- The table without some of its requests. -/
def without (c : Correlator Handler) (ps : List (Pending Handler)) : Correlator Handler :=
  { c with pending := c.pending.filter fun q => q.key ∉ ps.map (·.key) }

lemma without_nil (c : Correlator Handler) : c.without [] = c := by simp [without]

lemma without_cons (c : Correlator Handler) (p : Pending Handler) :
    c.without (p :: ps) = (c.erase p.key).without ps := by
  simp [without, erase, List.filter_filter, Bool.and_comm]

lemma IsProper.filter (hc : c.IsProper) (f : Pending Handler → Bool) :
    IsProper { c with pending := c.pending.filter f } where
  answers p hp := hc.answers p (List.mem_of_mem_filter hp)
  distinct := hc.distinct.sublist (List.filter_sublist.map _)

/-- Requests that have come out of the table are those that were picked. -/
lemma IsProper.without_filter (hc : c.IsProper) (f : Pending Handler → Bool) :
    c.without (c.pending.filter f) = { c with pending := c.pending.filter (! f ·) } := by
  rw [without]
  congr 1
  refine List.filter_congr fun q hq => ?_
  by_cases hf : f q
  · have hmem : q.key ∈ (c.pending.filter f).map (·.key) :=
      List.mem_map_of_mem (List.mem_filter.mpr ⟨hq, hf⟩)
    simp [hf, hmem]
  · have hmem : q.key ∉ (c.pending.filter f).map (·.key) := by
      intro hk
      obtain ⟨p, hp, hkey⟩ := List.mem_map.mp hk
      obtain ⟨hp, hfp⟩ := List.mem_filter.mp hp
      exact hf (hc.eq_of_key_eq hp hq hkey ▸ hfp)
    simp [hf, hmem]

end Correlator

namespace World

variable {call : Caller} {id : SessionId} {w : World} {p : Pending Handler} {x : Float}

lemma correlator_inform (hp : p.Spares call id) (response : Json) :
    ((w.inform call id p response).session id).correlator = (w.session id).correlator := by
  rw [inform]
  cases hh : p.handler with
  | none => rfl
  | some handler =>
    have hspares := hp handler hh p.ticket response w
    rw [Act.after] at hspares
    dsimp only
    generalize (call (.answer handler id p.ticket response)).run w = r at hspares ⊢
    rcases r with ⟨f | _, v⟩
    · dsimp only
      rw [(alike_log v _ _ _ _).becomes.session]
      exact hspares
    · exact hspares

/-- A request that is given up is gone, and no other. -/
lemma correlator_giveUp (hp : p ∈ (w.session id).correlator.pending) (hspares : p.Spares call id) :
    ((w.giveUp call id x p).session id).correlator = (w.session id).correlator.erase p.key := by
  rw [giveUp]
  generalize hv : w.log .client _ _ none = v
  have hsession : v.session id = w.session id := by
    rw [← hv]
    exact (alike_log w _ _ _ _).becomes.session
  rw [correlator_inform hspares, session_withdraw (hsession ▸ hp), hsession]

end World

namespace Session

open Act World

variable {call : Caller} {id : SessionId} {w : World} {p : Pending Handler} {ps : List (Pending Handler)}
  {now : Json} {t : Exact} {x : Float}

lemma ends_expireEach_cons (hx : now.toFloat = .ok x) (hc : (w.session id).correlator.IsProper)
    (hp : p ∈ (w.session id).correlator.pending) {Q : Except Fault Unit → World → Prop}
    (h : Ends (expireEach call id now ps) (w.giveUp call id x p) Q) :
    Ends (expireEach call id now (p :: ps)) w Q := by
  refine ends_getSession_bind (Ends.bind (next_ok (ends_check_bind ?_ ?_)))
  · intro y hy
    obtain rfl := Except.ok.inj (hy.symm.trans hx)
    have hanswered : ((w.log .client (.int Level.warning) ((w.session id).tag ++ "Request " ++
        p.id.display ++ " (" ++ p.method.display ++ ") timed out") none).session id).correlator.answered?
          p.id = some p := by
      rw [(alike_log w _ _ _ _).becomes.session]
      exact hc.answered?_eq hp (hc.answers p hp)
    refine Ends.bind ((ends_resolve_answered hanswered).mono ?_)
    rintro result u ⟨rfl, rfl⟩
    exact next_ok h
  · intro f hf
    cases hf.symm.trans hx

lemma ends_expireEach_pending (hx : now.toFloat = .ok x) (hc : (w.session id).correlator.IsProper)
    (hps : ps.Sublist (w.session id).correlator.pending) (hspares : ∀ p ∈ ps, p.Spares call id) :
    Ends (expireEach call id now ps) w fun result u =>
      result = .ok () ∧ u = ps.foldl (World.giveUp call id x) w ∧
        (u.session id).correlator = (w.session id).correlator.without ps := by
  -- What is left of the snapshot is left of the table too, since each turn takes out its own request alone.
  induction ps generalizing w with
  | nil => exact ends_pure ⟨rfl, rfl, (Correlator.without_nil _).symm⟩
  | cons p ps ih =>
    rw [List.forall_mem_cons] at hspares
    have hp : p ∈ (w.session id).correlator.pending := hps.subset List.mem_cons_self
    have hgone := correlator_giveUp (x := x) hp hspares.1
    refine ends_expireEach_cons hx hc hp ?_
    have hrest : ps.Sublist ((w.session id).correlator.erase p.key).pending := by
      have hdistinct : ((p :: ps).map (·.key)).Nodup := hc.distinct.sublist (hps.map _)
      rw [List.map_cons, List.nodup_cons] at hdistinct
      have hkeep : ps.filter (fun q => q.key ≠ p.key) = ps := by
        refine List.filter_eq_self.mpr fun q hq => decide_eq_true fun hk => ?_
        exact hdistinct.1 (hk ▸ List.mem_map_of_mem hq)
      rw [← hkeep]
      exact ((List.sublist_cons_self p ps).trans hps).filter _
    rw [← hgone] at hrest
    refine (ih (hgone ▸ hc.filter _) hrest hspares.2).mono ?_
    rintro result u ⟨hresult, hu, hleft⟩
    refine ⟨hresult, hu, ?_⟩
    rw [hleft, hgone, Correlator.without_cons]

/-- What is due is given up in its order, and the rest stays in its own. -/
lemma ends_expire_due (hnow : (if now.isNull then .float w.clock else now).Shows t x)
    (hc : (w.session id).correlator.IsProper)
    (hspares : ∀ p ∈ (w.session id).correlator.pending, p.Spares call id) :
    let due := (w.session id).correlator.pending.filter (·.isDue t)
    Ends (expire call id now) w fun result u => w.GaveUp call id x due result u ∧
      (u.session id).correlator = { (w.session id).correlator with
        pending := (w.session id).correlator.pending.filter (! ·.isDue t) } := by
  intro due
  refine ends_get_bind (ends_check_bind ?_ ?_)
  · intro overdue hoverdue
    rw [Correlator.overdue_eq hnow.number] at hoverdue
    obtain rfl := Except.ok.inj hoverdue
    refine Ends.bind ((ends_expireEach_pending hnow.float hc List.filter_sublist fun p hp =>
      hspares p (List.mem_of_mem_filter hp)).mono ?_)
    rintro result u ⟨rfl, hu, hleft⟩
    exact next_ok (ends_pure ⟨⟨rfl, hu⟩, hleft.trans (hc.without_filter _)⟩)
  · intro f hf
    rw [Correlator.overdue_eq hnow.number] at hf
    cases hf

/-- Expiry gives up the requests that are due and no others, each with an answer of its own. If it comes
twice, both together give up what the later one would have given up. -/
theorem expire_of_isProper (call : Caller) (hc : (w.session id).correlator.IsProper)
    (hspares : ∀ p ∈ (w.session id).correlator.pending, p.Spares call id) :
    let c := (w.session id).correlator
    (∀ now t x, (if now.isNull then .float w.clock else now).Shows t x →
      let due := c.pending.filter (·.isDue t)
      (∀ p ∈ due, (p.timeout x).field "id" = .ok p.id ∧ Message.failure? (p.timeout x) =
        .ok (some (.timedOut (timeoutText p (x - p.timestamp))))) ∧
      Ends (expire call id now) w fun result u => w.GaveUp call id x due result u ∧
        (u.session id).correlator = { c with pending := c.pending.filter (! ·.isDue t) }) ∧
    ∀ early s x late t y, Json.Shows early s x → Json.Shows late t y → s.atMost t →
      let first := c.pending.filter (·.isDue s)
      let second := c.pending.filter fun p => p.isDue t && !p.isDue s
      let all := c.pending.filter (·.isDue t)
      (first ++ second).Perm all ∧
      Ends (expire call id early) w fun result v => w.GaveUp call id x first result v ∧
        Ends (expire call id late) v fun result u => v.GaveUp call id y second result u ∧
          Ends (expire call id late) w fun result u' => w.GaveUp call id y all result u' ∧
            (u.session id).correlator = (u'.session id).correlator := by
  intro c
  refine ⟨fun now t x hnow => ⟨fun p _ => ⟨p.field_timeout x, p.failure?_timeout x⟩,
    ends_expire_due hnow hc hspares⟩, fun early s x late t y hearly hlate hle => ?_⟩
  intro first second all
  have hshows : ∀ {now t x} (v : World), Json.Shows now t x →
      (if now.isNull then .float v.clock else now).Shows t x := fun v h => by rwa [h.isNull_eq]
  refine ⟨Pending.filter_isDue_perm hle c.pending, (ends_expire_due (hshows w hearly) hc hspares).mono ?_⟩
  rintro result v ⟨hfirst, hv⟩
  have hpending : (v.session id).correlator.pending = c.pending.filter (! ·.isDue s) := by rw [hv]
  have hproper : (v.session id).correlator.IsProper := hv ▸ hc.filter _
  have hsecond : (v.session id).correlator.pending.filter (·.isDue t) = second := by
    rw [hpending, List.filter_filter]
  refine ⟨hfirst, (ends_expire_due (hshows v hlate) hproper fun p hp => ?_).mono ?_⟩
  · exact hspares p (List.mem_of_mem_filter (hpending ▸ hp))
  rintro result u ⟨hgave, hu⟩
  refine ⟨hsecond ▸ hgave, (ends_expire_due (hshows w hlate) hc hspares).mono ?_⟩
  rintro result u' ⟨hall, hu'⟩
  refine ⟨hall, ?_⟩
  rw [hu, hu', hpending, Pending.filter_not_isDue hle, hv]

/-- The deadline of the first of three requests comes when expiry does, and whoever made it fails. The
second has no deadline. -/
theorem expire_of_isProper_tie :
    let late (n : Nat) (deadline : Option Float) : Pending Handler := ⟨.number (.ofInt n), .int n, .int n,
      "hover", some (.host (.mk "late" [] (some "no"))), n, 100.0, deadline⟩
    let w : World := { sessions := [{ (default : Session) with
      correlator := ⟨3, [late 1 (some 150.0), late 2 none, late 3 (some 160.0)]⟩ }] }
    (w.session 0).correlator.IsProper ∧
      (∀ p ∈ (w.session 0).correlator.pending, p.Spares (callWithin nestingLimit) 0) ∧
      Ends (expire (callWithin nestingLimit) 0 (.float 150.0)) w fun result v => result = .ok 1 ∧
        (v.session 0).correlator.pending = [late 2 none, late 3 (some 160.0)] ∧
        Ends (expire (callWithin nestingLimit) 0 (.float 160.0)) v fun result u => result = .ok 1 ∧
          (u.session 0).correlator.pending = [late 2 none] := by
  intro late w
  have hpending : ∀ p ∈ (w.session 0).correlator.pending, ∃ n deadline, p = late n deadline := by
    intro p hp
    simp only [w, World.session, List.getD_cons_zero, List.mem_cons, List.not_mem_nil, or_false] at hp
    rcases hp with rfl | rfl | rfl <;> exact ⟨_, _, rfl⟩
  have hc : (w.session 0).correlator.IsProper := by
    refine ⟨fun p hp => ?_, by decide⟩
    obtain ⟨n, deadline, rfl⟩ := hpending p hp
    rfl
  have hspares : ∀ p ∈ (w.session 0).correlator.pending, p.Spares (callWithin nestingLimit) 0 := by
    intro p hp handler hh ticket response v
    obtain ⟨n, deadline, rfl⟩ := hpending p hp
    obtain rfl := Option.some.inj hh
    rfl
  have hnone : ∀ n t, (late n none).isDue t = false := fun n t => rfl
  have htie : ∀ n, (late n (some 150.0)).isDue (.ofFloat 150.0) = true := fun n => by
    change (Exact.ofFloat 150.0).atMost (.ofFloat 150.0) = true
    decide +kernel
  have hsoon : ∀ n, (late n (some 160.0)).isDue (.ofFloat 150.0) = false := fun n => by
    change (Exact.ofFloat 160.0).atMost (.ofFloat 150.0) = false
    decide +kernel
  have hlater : ∀ n, (late n (some 160.0)).isDue (.ofFloat 160.0) = true := fun n => by
    change (Exact.ofFloat 160.0).atMost (.ofFloat 160.0) = true
    decide +kernel
  have hle : (Exact.ofFloat 150.0).atMost (.ofFloat 160.0) := by decide +kernel
  have hstill : ∀ n, (late n (some 150.0)).isDue (.ofFloat 160.0) = true := fun n =>
    Pending.isDue_mono hle (htie n)
  obtain ⟨honce, htwice⟩ := expire_of_isProper (callWithin nestingLimit) hc hspares
  refine ⟨hc, hspares, ?_⟩
  have hfirst := (honce (.float 150.0) _ _ (Json.shows_float _)).2
  have hboth := (htwice _ _ _ _ _ _ (Json.shows_float 150.0) (Json.shows_float 160.0) hle).2
  have hall := (honce (.float 160.0) _ _ (Json.shows_float _)).2
  refine (hfirst.and hboth).mono ?_
  rintro result v ⟨⟨hgave, hv⟩, -, hsecond⟩
  refine ⟨?_, ?_, hsecond.mono ?_⟩
  · rw [hgave.counted]
    simp [w, World.session, hnone, htie, hsoon]
  · rw [hv]
    simp [w, World.session, hnone, htie, hsoon]
  · rintro result u ⟨hgave, hlate⟩
    refine ⟨?_, ?_⟩
    · rw [hgave.counted]
      simp [w, World.session, hnone, htie, hsoon, hlater, hstill]
    · rw [(hlate.and hall).1.2, (hlate.and hall).2.2]
      simp [w, World.session, hnone, hlater, hstill]

end Session

end LanguageClient
