import LanguageClient.Message.Failure
import LanguageClient.Session.Lifecycle
import Mathlib.Tactic.Lemma

/-!
How an error is read: by the queue that a response goes to, by whoever looks for the failure in it, and by
the session that waits to be open. They read it alike if it is missing, null or an object with a field.
-/

namespace LanguageClient

/-- The value of an error that can be told for what it is: none at all, or an object that says
something. -/
def Json.IsClear (error : Json) : Prop :=
  error = .null ∨ ∃ fields : Fields, error = .object fields ∧ fields ≠ []

namespace Message

variable {m : Fields}

lemma kindOf_eq_error_iff (hm : m.get? "method" = none) :
    kindOf m = .error ↔ m.getD "error" .null ≠ .null := by
  rw [kindOf, hm]
  cases m.getD "error" .null <;> simp [Json.isNull]

lemma failure?_object (m : Fields) :
    failure? (.object m) =
      if (m.getD "error" .null).holds then
        (m.getD "error" .null).fields.map fun fields => some (failureOfError fields)
      else .ok none := by
  have h : failure? (.object m) = (fun error : Json => do
      if !error.holds then return none
      return some (failureOfError (← error.fields))) (m.getD "error" .null) := rfl
  rw [h]
  generalize m.getD "error" .null = error
  dsimp only
  cases error.holds <;> cases error.fields <;> rfl

lemma failure?_of_not_holds (h : (m.getD "error" .null).holds = false) :
    failure? (.object m) = .ok none := by
  rw [failure?_object, h]
  rfl

lemma holds_of_fields {error : Json} {fields : Fields} (he : error = .object fields)
    (hne : fields ≠ []) : error.holds := by
  rw [he]
  simpa [Json.holds] using hne

/-- A failure is found in an object that has a field, and in nothing else. -/
lemma exists_failure?_iff : (∃ f, failure? (.object m) = .ok (some f)) ↔
    ∃ fields : Fields, m.getD "error" .null = .object fields ∧ fields ≠ [] := by
  constructor
  · rintro ⟨f, hf⟩
    rw [failure?_object] at hf
    split at hf
    next hh =>
      cases he : m.getD "error" .null with
      | object fields =>
        rw [he] at hh
        exact ⟨fields, rfl, by simpa [Json.holds] using hh⟩
      | _ => rw [he] at hf; cases hf
    next => cases hf
  · rintro ⟨fields, he, hne⟩
    rw [failure?_object, if_pos (holds_of_fields he hne), he]
    exact ⟨_, rfl⟩

/-- A message without a method counts as an error just if a failure is found in it, if its error is
clear, and only then. No failure is ever found in a message that counts as a response. -/
theorem readings_agree_iff_isClear (hm : m.get? "method" = none) :
    ((kindOf m = .error ↔ ∃ f, failure? (.object m) = .ok (some f)) ↔
      (m.getD "error" .null).IsClear) ∧
    (kindOf m ≠ .error → failure? (.object m) = .ok none) := by
  rw [kindOf_eq_error_iff hm, exists_failure?_iff, Json.IsClear]
  refine ⟨⟨fun h => ?_, ?_⟩, fun h => failure?_of_not_holds ?_⟩
  · exact (Classical.em (m.getD "error" .null = Json.null)).imp_right h.mp
  · rintro (he | hfields)
    · simp [he]
    · obtain ⟨fields, he, hne⟩ := hfields
      simp [he, hne]
  · rw [Classical.not_not.mp fun hne => h ((kindOf_eq_error_iff hm).mpr hne)]
    rfl

theorem readings_agree_iff_isClear_code :
    let m : Fields := [("jsonrpc", "2.0"), ("id", .int 1), ("error", .object [("code", .int 5)])]
    m.get? "method" = none ∧ kindOf m = .error ∧ ∃ f, failure? (.object m) = .ok (some f) := by
  intro m
  have hm : m.get? "method" = none := by decide
  have hkind : kindOf m = .error := by decide
  have hclear : (m.getD "error" .null).IsClear := .inr ⟨_, rfl, by simp⟩
  exact ⟨hm, hkind, ((readings_agree_iff_isClear hm).1.mpr hclear).mp hkind⟩

/-- An error without a field: the message counts as an error, and no failure is found in it. -/
theorem readings_differ_empty :
    let m : Fields := [("jsonrpc", "2.0"), ("id", .int 1), ("error", .object [])]
    m.get? "method" = none ∧ kindOf m = .error ∧ failure? (.object m) = .ok none :=
  ⟨rfl, rfl, rfl⟩

end Message

namespace Session

open Message

/-- A response with a clear error waits among the errors just if it carries a failure. -/
theorem enqueue_eq_of_isClear {m : Fields} (s : Session) (hm : m.get? "method" = none)
    (hc : (m.getD "error" .null).IsClear) :
    s.enqueue m =
      match failure? (.object m) with
      | .ok (some _) => { s with errors := s.errors ++ [m] }
      | _ => { s with responses := s.responses ++ [m] } := by
  rw [enqueue]
  rcases hc with he | ⟨fields, he, hne⟩
  · have hk : ¬ kindOf m = .error := fun h => (kindOf_eq_error_iff hm).mp h he
    rw [failure?_of_not_holds (by rw [he]; rfl)]
    split
    next h => exact (hk h).elim
    next => rfl
  · have hk : kindOf m = .error := (kindOf_eq_error_iff hm).mpr (by simp [he])
    obtain ⟨f, hf⟩ := exists_failure?_iff.mpr ⟨fields, he, hne⟩
    rw [hk, hf]

/-- A session takes a response with a clear error for a refusal just if it carries a failure. -/
theorem openingAnswered_eq_of_isClear {m : Fields} (call : Caller) (callback : Option Callback)
    (id : SessionId) (ticket : Nat) (hc : (m.getD "error" .null).IsClear) :
    openingAnswered call callback id ticket (.object m) =
      match failure? (.object m) with
      | .ok (some _) => openingRefused call callback id ticket (m.getD "error" .null) (.object m)
      | _ => openingAccepted call callback id ticket (.object m) := by
  change (if (m.getD "error" .null).holds then
    openingRefused call callback id ticket (m.getD "error" .null) (.object m)
    else openingAccepted call callback id ticket (.object m)) = _
  rcases hc with he | ⟨fields, he, hne⟩
  · have hh : (m.getD "error" .null).holds = false := by rw [he]; rfl
    rw [failure?_of_not_holds hh, hh]
    rfl
  · obtain ⟨f, hf⟩ := exists_failure?_iff.mpr ⟨fields, he, hne⟩
    rw [hf, if_pos (holds_of_fields he hne)]

end Session

end LanguageClient
