import LanguageClient.Proofs.Registry.Launching

/-!
Handshakes that fail. The server is launched before the root is read: if the root cannot be read, the
server is there all the same, and nobody has spoken to it.
-/

namespace LanguageClient

open Act World

lemma World.Launches.not_saysMore {id : SessionId} {s : Session} {v w : World} (h : Launches id s v w) :
    ¬ v.SaysMore w := by
  rintro ⟨-, -, -, hwords⟩
  obtain ⟨es, ⟨earlier, rfl, -⟩, later, hlater, -⟩ := h.events
  obtain ⟨new, hnew, hunlaunched⟩ := exists_append_of_adds hwords
  have happend : (later ++ .launched id (v.session id).name :: earlier) ++ v.events = new ++ v.events := by
    rw [← hnew, hlater, List.append_assoc, List.cons_append]
  exact hunlaunched id (v.session id).name (List.append_cancel_right happend ▸ by simp)

namespace Session

variable {id : SessionId} {w : World}

/-- A server is there after a start: it was there before, or it was launched. -/
lemma ends_start_cases (hs : (w.session id).status = .uninitialized) : Ends (start id) w fun result v =>
    ((w.session id).link.isSome ∧ result = .ok () ∧ v = w) ∨
      (w.session id).link = none ∧ result = ((launch id).run w).1 ∧
        ((∃ f, result = .error f ∧ w.SaysMore v) ∨
          result = .ok () ∧ w.Launches id { w.session id with link := some {} } v) := by
  refine ends_getSession_bind ?_
  cases hlink : (w.session id).link with
  | some link =>
    rw [if_pos (Option.isSome_some)]
    exact ends_pure (.inl ⟨rfl, rfl, rfl⟩)
  | none =>
    rw [if_neg (by simp), if_neg (by simp [hs])]
    exact .inr ⟨rfl, rfl, launches_launch w⟩

/-- A handshake that fails leaves all as it was, unless it launched the server; then the root could not
be read, and the server is all that is new. -/
theorem handshake_fails (w : World) (id : SessionId) (root name version : Json)
    (callback : Option Callback) : Ends (handshake id root name version callback) w fun result v =>
      ∀ f, result = .error f → (w.session id).status = .uninitialized ∧
        (w.SaysMore v ↔ (w.session id).link.isSome ∨ ∃ g, ((launch id).run w).1 = .error g) ∧
        (¬ w.SaysMore v → rootPathOf root = .error f ∧
          w.Launches id { w.session id with link := some {} } v) := by
  refine ends_getSession_bind ?_
  by_cases hs : (w.session id).status = .uninitialized
  · rw [if_neg (by simp [hs])]
    refine Ends.bind ((ends_start_cases hs).mono ?_)
    rintro result u (⟨hlink, rfl, rfl⟩ | ⟨hlink, hlaunch, ⟨g, rfl, hu⟩ | ⟨rfl, hu⟩⟩)
    · refine next_ok (ends_check_bind (fun path _ => fun f hf => by cases hf) fun f hf e he => ?_)
      exact ⟨hs, iff_of_true (.refl u) (.inl hlink), fun hno => (hno (.refl u)).elim⟩
    · exact fun e _ => ⟨hs, iff_of_true hu (.inr ⟨g, hlaunch.symm⟩), fun hno => (hno hu).elim⟩
    · refine next_ok (ends_check_bind (fun path _ => fun f hf => by cases hf) fun e he f hf => ?_)
      obtain rfl := Except.error.inj hf
      refine ⟨hs, iff_of_false hu.not_saysMore ?_, fun _ => ⟨he, hu⟩⟩
      simp [hlink, ← hlaunch]
  · rw [if_pos hs]
    exact (isRemark_log _ _ _).bind fun u hu => ends_pure nofun

/-- The root has half an address for its host. -/
theorem handshake_fails_bracket : Ends (handshake 0 "http://[" "editor" "1" none) (.serving "server")
    fun result v => result = .error (.invalidValue "Invalid IPv6 URL") ∧ ¬ (World.serving "server").SaysMore v ∧
      (World.serving "server").Launches 0 { (World.serving "server").session 0 with link := some {} } v := by
  have hfails := handshake_fails (.serving "server") 0 "http://[" "editor" "1" none
  have hresult : ((handshake 0 "http://[" "editor" "1" none).run (.serving "server")).1 =
      .error (.invalidValue "Invalid IPv6 URL") := rfl
  obtain ⟨-, hsays, hlaunches⟩ := hfails _ hresult
  have hno : ¬ ((World.serving "server").SaysMore _) := mt hsays.mp (by
    rintro (hlink | ⟨g, hg⟩)
    · cases hlink
    · cases hg)
  exact ⟨hresult, hno, (hlaunches hno).2⟩

/-- The server of a host that asks for a root that cannot be read runs, and is not spoken to. -/
theorem launched_of_mem_outcomes_bracket :
    let actions : List Action := [.session .null (.handshake "http://[" "editor" "1" none)]
    (World.serving "server").IsNew ∧ ∃ o ∈ outcomes (.serving "server") actions, o.result.isOk = false ∧
      o.events.any (fun e => e matches .launched 0 _) ∧ (o.world.session 0).link.isSome ∧
        (o.world.session 0).status = .uninitialized := by
  refine ⟨World.isNew_serving "server", ?_⟩
  decide +kernel

end Session

end LanguageClient
