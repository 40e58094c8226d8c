import LanguageClient.Features
import LanguageClient.Proofs.Act

/-!
The running sessions that a file is for.
-/

namespace LanguageClient

open Act

namespace Registry

variable {w : World} {name : Json} {running entries : List (Json × SessionId)}

/-- Whether a session is for a file, and not over. -/
structure IsFor (w : World) (name : Json) (id : SessionId) : Prop where
  admits : FileFilter.admits (w.session id).filePatterns name = .ok true
  live : (w.session id).status ≠ .terminated

/-- The first session is for the file, or it is left out. -/
lemma activeAmong_cons {entry : Json × SessionId} (h : activeAmong w name (entry :: running) = .ok entries) :
    ∃ others, activeAmong w name running = .ok others ∧
      (entries = others ∨ entries = entry :: others ∧ IsFor w name entry.2) := by
  rw [activeAmong] at h
  cases hf : FileFilter.admits (w.session entry.2).filePatterns name with
  | error f => rw [hf] at h; cases h
  | ok isFor =>
    cases hr : activeAmong w name running with
    | error f => rw [hf, hr] at h; cases h
    | ok others =>
      rw [hf, hr] at h
      refine ⟨others, rfl, ?_⟩
      obtain rfl := Except.ok.inj h
      split
      next hboth =>
        rw [Bool.and_eq_true, decide_eq_true_eq] at hboth
        exact .inr ⟨rfl, hboth.1 ▸ hf, hboth.2⟩
      next => exact .inl rfl

lemma sublist_of_activeAmong (h : activeAmong w name running = .ok entries) : entries.Sublist running := by
  induction running generalizing entries with
  | nil =>
    obtain rfl := Except.ok.inj h
    exact List.Sublist.refl _
  | cons entry rest ih =>
    obtain ⟨others, hothers, rfl | ⟨rfl, -⟩⟩ := activeAmong_cons h
    · exact (ih hothers).cons _
    · exact (ih hothers).cons_cons _

lemma isFor_of_activeAmong (h : activeAmong w name running = .ok entries) {entry : Json × SessionId}
    (he : entry ∈ entries) : IsFor w name entry.2 := by
  induction running generalizing entries with
  | nil =>
    obtain rfl := Except.ok.inj h
    cases he
  | cons _ rest ih =>
    obtain ⟨others, hothers, rfl | ⟨rfl, hfor⟩⟩ := activeAmong_cons h
    · exact ih hothers he
    · rcases List.mem_cons.mp he with rfl | he
      · exact hfor
      · exact ih hothers he

end Registry

namespace Features

/-- The sessions for a document are those that its file is for, and to find them changes nothing. -/
lemma ends_sessionsFor (doc : Json) (w : World) : Ends (sessionsFor doc) w fun r v => v = w ∧
    (∀ ids, r = .ok ids → ∃ name entries, Document.fileName doc = .ok name ∧
      Registry.activeAmong w name w.running = .ok entries ∧ ids = entries.map (·.2)) ∧
    ∀ name entries, Document.fileName doc = .ok name →
      Registry.activeAmong w name w.running = .ok entries → r = .ok (entries.map (·.2)) := by
  refine ends_check_bind (fun name hname => Ends.bind ?_) fun f hf => ?_
  · change Next _ _ (Registry.activeAmong w name w.running) w
    cases hactive : Registry.activeAmong w name w.running with
    | error f =>
      refine ⟨rfl, nofun, fun name' entries hname' hentries => ?_⟩
      obtain rfl := Except.ok.inj (hname.symm.trans hname')
      cases hactive.symm.trans hentries
    | ok entries =>
      refine next_ok (ends_pure ⟨rfl, fun ids hids => ?_, fun name' entries' hname' hentries => ?_⟩)
      · obtain rfl := Except.ok.inj hids
        exact ⟨name, entries, hname, hactive, rfl⟩
      · obtain rfl := Except.ok.inj (hname.symm.trans hname')
        obtain rfl := Except.ok.inj (hactive.symm.trans hentries)
        rfl
  · exact ⟨rfl, nofun, fun name entries hname _ => by cases hf.symm.trans hname⟩

end Features

end LanguageClient
