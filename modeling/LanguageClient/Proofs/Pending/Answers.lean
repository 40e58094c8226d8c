import LanguageClient.Proofs.Session.Calls
import LanguageClient.Proofs.Steps.Runs
import Mathlib.Data.List.GetD
import Mathlib.Data.List.Nodup

/-!
Answers to requests that are pending. An id reaches the one request that bears it, and true reaches
the request with the number one.
-/

namespace LanguageClient

namespace Correlator

/-- Requests are found by their ids, each by its own. -/
structure IsProper (c : Correlator Handler) : Prop where
  answers : ∀ p ∈ c.pending, answerKey? p.id = some p.key
  distinct : (c.pending.map (·.key)).Nodup

/-- The ids of the requests are numbers that the correlator gave. -/
structure IsIssued (c : Correlator Handler) : Prop where
  numbered : ∀ p ∈ c.pending, ∃ n : Nat, 0 < n ∧ n ≤ c.lastId ∧ p.Numbered n
  distinct : (c.pending.map (·.key)).Nodup

variable {c : Correlator Handler} {p : Pending Handler} {v : Json} {n : Nat}

lemma isIssued_blank : IsIssued {} where
  numbered _ hp := (List.not_mem_nil hp).elim
  distinct := List.nodup_nil

lemma IsIssued.advance (hc : c.IsIssued) : c.advance.IsIssued where
  numbered p hp := by
    obtain ⟨n, hpos, hle, hn⟩ := hc.numbered p hp
    exact ⟨n, hpos, Nat.le_succ_of_le hle, hn⟩
  distinct := hc.distinct

/-- A request takes the number that was given last. -/
lemma IsIssued.register (hc : c.IsIssued) (hpos : 0 < c.lastId) (hp : p.Numbered c.lastId)
    (hnew : ∀ q ∈ c.pending, ¬ q.Numbered c.lastId) : (c.register p).IsIssued := by
  have hkeys : ∀ q ∈ c.pending, q.key ≠ p.key := by
    intro q hq hk
    obtain ⟨n, -, -, hn⟩ := hc.numbered q hq
    exact hnew q hq (hn.number_eq hp hk ▸ hn)
  have hpending : (c.register p).pending = c.pending ++ [p] := Account.insert_of_forall_ne hkeys
  constructor
  · intro q hq
    rw [hpending, List.mem_append, List.mem_singleton] at hq
    rcases hq with hq | rfl
    · exact hc.numbered q hq
    · exact ⟨c.lastId, hpos, Nat.le_refl _, hp⟩
  · rw [hpending, List.map_append, List.map_singleton, List.nodup_append]
    refine ⟨hc.distinct, List.nodup_singleton _, fun k hk l hl => ?_⟩
    obtain ⟨q, hq, rfl⟩ := List.mem_map.mp hk
    exact List.mem_singleton.mp hl ▸ hkeys q hq

lemma IsIssued.isProper (hc : c.IsIssued) : c.IsProper where
  answers p hp := by
    obtain ⟨n, -, -, hn⟩ := hc.numbered p hp
    rw [hn.id, hn.key, answerKey?_ofNat]
  distinct := hc.distinct

lemma IsProper.eq_of_key_eq (hc : c.IsProper) {q : Pending Handler} (hp : p ∈ c.pending)
    (hq : q ∈ c.pending) (h : p.key = q.key) : p = q :=
  List.inj_on_of_nodup_map hc.distinct hp hq h

lemma answered?_eq_none (h : ∀ p ∈ c.pending, answerKey? v ≠ some p.key) : c.answered? v = none := by
  cases hf : c.answered? v with
  | none => rfl
  | some p =>
    obtain ⟨hp, hk⟩ := mem_of_answered? hf
    exact (h p hp hk).elim

lemma IsProper.answered?_eq (hc : c.IsProper) (hp : p ∈ c.pending) (hv : answerKey? v = some p.key) :
    c.answered? v = some p :=
  answered?_of_unique hp hv fun _ hq => hc.eq_of_key_eq hq hp

/-- What is taken out leaves the others as they stand. -/
lemma IsProper.pending_erase (hc : c.IsProper) (hp : p ∈ c.pending) :
    ∃ before after, c.pending = before ++ p :: after ∧ (c.erase p.key).pending = before ++ after := by
  obtain ⟨before, after, hsplit⟩ := List.append_of_mem hp
  have hdistinct := hc.distinct
  rw [hsplit, List.map_append, List.map_cons, List.nodup_middle, List.nodup_cons, ← List.map_append]
    at hdistinct
  have hothers : ∀ q ∈ before ++ after, q.key ≠ p.key := fun q hq hk =>
    hdistinct.1 (hk ▸ List.mem_map_of_mem hq)
  rw [List.forall_mem_append] at hothers
  refine ⟨before, after, hsplit, ?_⟩
  rw [erase, hsplit, List.filter_append, List.filter_cons_of_neg (by simp),
    List.filter_eq_self.mpr (by simpa using hothers.1),
    List.filter_eq_self.mpr (by simpa using hothers.2)]

end Correlator

/-- An id that is taken for the id of a request: true counts as one. -/
def Json.Means (v id : Json) : Prop := v = id ∨ v = .bool true ∧ id = .int 1

lemma Correlator.answerKey?_eq_number_iff {v : Json} {n : Nat} (hn : 0 < n) :
    answerKey? v = some (.number (.ofInt n)) ↔ v.Means (Json.ofNat n) := by
  have hnat : ∀ m : Int, (m : Rat) = n ↔ m = n := fun m => by exact_mod_cast Iff.rfl
  cases v with
  | bool b =>
    cases b with
    | true => simp [answerKey?, Json.key?, Json.number?, Exact.ofInt, Json.Means, Json.ofNat, eq_comm]
    | false =>
      have hzero : (0 : Rat) ≠ n := by exact_mod_cast hn.ne
      simpa [answerKey?, Json.key?, Json.number?, Exact.ofInt, Json.Means, Json.ofNat] using hzero
  | int m => simp [answerKey?, Json.key?, Json.number?, Exact.ofInt, Json.Means, Json.ofNat, hnat]
  | _ => simp [answerKey?, Json.key?, Json.Means, Json.ofNat]

/-- A request left the table with its answer. -/
def World.withdraw (id : SessionId) (p : Pending Handler) (response : Json) (w : World) : World :=
  let s := w.session id
  (w.setSession id { s with correlator := s.correlator.erase p.key }).record
    (.dealt id (.resolved p.ticket response))

/-- Whoever made a request was called with its answer. What went wrong with that is in the log. -/
def World.inform (call : Caller) (id : SessionId) (p : Pending Handler) (response : Json)
    (w : World) : World :=
  match p.handler with
  | none => w
  | some handler =>
    match (call (.answer handler id p.ticket response)).run w with
    | (.ok _, v) => v
    | (.error fault, v) =>
      v.log .client (.int Level.error)
        ((w.session id).tag ++ "Request callback error (" ++ p.method.display ++ ")") (some fault)

namespace World

variable {id : SessionId} {w : World} {p : Pending Handler} {response : Json}

lemma lt_of_mem_pending (hp : p ∈ (w.session id).correlator.pending) : id < w.sessions.length := by
  by_contra h
  rw [session, List.getD_eq_default _ _ (Nat.le_of_not_lt h)] at hp
  exact List.not_mem_nil hp

lemma session_withdraw (hp : p ∈ (w.session id).correlator.pending) :
    (w.withdraw id p response).session id =
      { w.session id with correlator := (w.session id).correlator.erase p.key } :=
  session_setSession _ (lt_of_mem_pending hp)

end World

namespace Session

open Act World

variable {call : Caller} {id : SessionId} {w : World} {p : Pending Handler} {v response : Json}

lemma ends_resolve_answered (h : (w.session id).correlator.answered? v = some p) :
    Ends (resolve call id v response) w fun result u =>
      result = .ok true ∧ u = (w.withdraw id p response).inform call id p response := by
  have htag : ((w.withdraw id p response).session id).tag = (w.session id).tag := by
    rw [session_withdraw (Correlator.mem_of_answered? h).1]
    rfl
  refine ends_getSession_bind ?_
  rw [h]
  refine ends_deal_bind ?_
  change Ends _ (w.withdraw id p response) _
  rw [inform, htag]
  cases p.handler with
  | none => exact ends_pure ⟨rfl, rfl⟩
  | some handler =>
    refine Ends.attempt_bind ?_
    dsimp only [Ends]
    rcases (call (.answer handler id p.ticket response)).run (w.withdraw id p response) with
      ⟨_ | _, u⟩ <;> exact ⟨rfl, rfl⟩

lemma ends_resolve_unmatched (h : (w.session id).correlator.answered? v = none) :
    Ends (resolve call id v response) w fun result u =>
      result = .ok false ∧ u = w.log .client (.int Level.warning)
        ((w.session id).tag ++ "Unmatched response; " ++ (Failure.unmatched v).message) none := by
  refine ends_getSession_bind ?_
  rw [h]
  exact ⟨rfl, rfl⟩

/-- An answer goes to the request that its id means and to no other. If it means none, nobody is called
and all requests stay. -/
theorem resolve_of_isIssued (call : Caller) (hc : (w.session id).correlator.IsIssued) (v response : Json) :
    let c := (w.session id).correlator
    (∀ p ∈ c.pending, v.Means p.id →
      (∃ before after, c.pending = before ++ p :: after ∧
        ((w.withdraw id p response).session id).correlator = { c with pending := before ++ after }) ∧
      Ends (resolve call id v response) w fun result u =>
        result = .ok true ∧ u = (w.withdraw id p response).inform call id p response) ∧
    ((∀ p ∈ c.pending, ¬ v.Means p.id) →
      Ends (resolve call id v response) w fun result u =>
        result = .ok false ∧ u.sessions = w.sessions ∧
          u = w.log .client (.int Level.warning)
            ((w.session id).tag ++ "Unmatched response; " ++ (Failure.unmatched v).message) none) := by
  intro c
  -- Numbers are given from one on, so that false is the key of no request.
  have hkeys : ∀ p ∈ c.pending, Correlator.answerKey? v = some p.key ↔ v.Means p.id := by
    intro p hp
    obtain ⟨n, hpos, -, hn⟩ := hc.numbered p hp
    rw [hn.key, hn.id]
    exact Correlator.answerKey?_eq_number_iff hpos
  refine ⟨fun p hp hv => ⟨?_, ?_⟩, fun hv => ?_⟩
  · obtain ⟨before, after, hsplit, herased⟩ := hc.isProper.pending_erase hp
    refine ⟨before, after, hsplit, ?_⟩
    rw [session_withdraw hp, ← herased]
    rfl
  · exact ends_resolve_answered (hc.isProper.answered?_eq hp ((hkeys p hp).mpr hv))
  · have hnone : c.answered? v = none :=
      Correlator.answered?_eq_none fun p hp => mt (hkeys p hp).mp (hv p hp)
    refine (ends_resolve_unmatched hnone).mono ?_
    rintro result u ⟨rfl, rfl⟩
    exact ⟨rfl, (alike_log w _ _ _ _).sessions, rfl⟩

/-- Of two requests the first is answered by true, and none by one as a floating point number. -/
theorem resolve_of_isIssued_true :
    let first : Pending Handler := ⟨.number (.ofInt 1), .int 1, .int 1, "hover", none, 0, 100.0, none⟩
    let second : Pending Handler := ⟨.number (.ofInt 2), .int 2, .int 2, "hover", none, 1, 100.0, none⟩
    let c := ((({} : Correlator Handler).advance.register first).advance.register second)
    let w : World := { sessions := [{ (default : Session) with correlator := c }] }
    c.IsIssued ∧
      (Ends (resolve (callWithin nestingLimit) 0 (.bool true) .null) w fun result u =>
        result = .ok true ∧ (u.session 0).correlator.pending = [second]) ∧
      Ends (resolve (callWithin nestingLimit) 0 (.float 1.0) .null) w fun result u =>
        result = .ok false ∧ u.sessions = w.sessions := by
  intro first second c w
  have hfirst : first.Numbered 1 := ⟨rfl, rfl, rfl⟩
  have hsecond : second.Numbered 2 := ⟨rfl, rfl, rfl⟩
  have hc : c.IsIssued := by
    refine (Correlator.isIssued_blank.advance.register Nat.zero_lt_one hfirst ?_).advance.register
      Nat.two_pos hsecond fun q hq hn => ?_
    · exact fun _ hq => (List.not_mem_nil hq).elim
    · obtain rfl := List.mem_singleton.mp hq
      cases hfirst.number_eq hn rfl
  have hw : (w.session 0).correlator.IsIssued := hc
  refine ⟨hc, ?_, ?_⟩
  · obtain ⟨-, hends⟩ := (resolve_of_isIssued (callWithin nestingLimit) hw (.bool true) .null).1 first
      List.mem_cons_self (.inr ⟨rfl, rfl⟩)
    refine hends.mono ?_
    rintro result u ⟨hresult, rfl⟩
    exact ⟨hresult, rfl⟩
  · refine ((resolve_of_isIssued (callWithin nestingLimit) hw (.float 1.0) .null).2 ?_).mono
      fun result u h => ⟨h.1, h.2.1⟩
    rintro p hp (he | ⟨he, -⟩)
    · obtain ⟨n, -, -, hn⟩ := hc.numbered p hp
      cases he.trans hn.id
    · cases he

/-- A request with the number one is over when the answer to true arrives. -/
theorem resolved_of_mem_outcomes_true :
    let actions : List Action := [.session .null .nextId,
      .session .null (.register (.int 1) "hover" none .null),
      .session .null (.resolve (.bool true) (Message.response (.bool true) .null))]
    (World.serving "server").IsNew ∧ ∃ o ∈ outcomes (.serving "server") actions,
      (o.result matches .ok (.flag true)) ∧ o.events.any (fun e => e matches .dealt 0 (.resolved 0 _)) ∧
        (o.world.session 0).correlator.pending.isEmpty := by
  refine ⟨World.isNew_serving "server", ?_⟩
  decide +kernel

end Session

end LanguageClient
