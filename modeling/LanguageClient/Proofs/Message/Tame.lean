import LanguageClient.Proofs.Json.Lookup
import LanguageClient.Proofs.Json.Reading
import LanguageClient.Proofs.Steps.Basic

/-!
Messages that no one stumbles over: those with a text for a method, if they have one, and without lone
surrogates.
-/

namespace LanguageClient

variable {m : Fields}

namespace Fields

/-- The method is a text, if there is one, and no text holds a lone surrogate. -/
structure IsProper (m : Fields) : Prop where
  method : ∀ method, m.get? "method" = some method → ∃ t, method = .text t
  clean : (Json.object m).isClean

def isProper (m : Fields) : Bool :=
  (match m.get? "method" with
    | some (.text _) | none => true
    | _ => false) && (Json.object m).isClean

lemma isProper_of (h : m.isProper) : m.IsProper := by
  rw [isProper, Bool.and_eq_true] at h
  refine ⟨fun method hm => ?_, h.2⟩
  have h := h.1
  rw [hm] at h
  cases method with
  | text t => exact ⟨t, rfl⟩
  | _ => cases h

end Fields

namespace Json

lemma isClean_of_mem {p : Text × Json} (h : fieldsAreClean m) (hp : p ∈ m) : p.2.isClean := by
  induction m with
  | nil => cases hp
  | cons q m ih =>
    obtain ⟨-, hq, hm⟩ := fieldsAreClean_cons h
    rcases List.mem_cons.mp hp with rfl | hp
    · exact hq
    · exact ih hm hp

lemma isClean_getD (h : (object m).isClean) (key : Text) : (m.getD key .null).isClean := by
  rw [Fields.getD]
  cases hv : m.get? key with
  | none => rfl
  | some v => exact isClean_of_mem h (Fields.mem_of_get? hv)

lemma isWritable_getD (h : (object m).isWritable) (key : Text) : (m.getD key .null).isWritable := by
  rw [Fields.getD]
  cases hv : m.get? key with
  | none => rfl
  | some v => exact fieldsAreWritable_iff.mp h _ (Fields.mem_of_get? hv)

lemma encodes_of_isClean {v : Json} (h : v.isClean) (hw : v.isWritable) : v.Encodes :=
  ⟨_, Frame.encode_of_isClean h hw⟩

end Json

/-- A proper message that was read is tame: whatever its id is, it can be written back. -/
lemma Fields.IsProper.isTame (h : m.IsProper) (hw : (Json.object m).isWritable) : m.IsTame where
  method method hm := by
    obtain ⟨t, rfl⟩ := h.method method hm
    exact ⟨.text t, rfl⟩
  reply _ reply hr := by
    have hid : (m.getD "id" .null).isClean := Json.isClean_getD h.clean "id"
    have hidw : (m.getD "id" .null).isWritable := Json.isWritable_getD hw "id"
    have hnames : Json.isEncodable "jsonrpc" ∧ Json.isEncodable "2.0" ∧ Json.isEncodable "id" ∧
        Json.isEncodable "result" ∧ Json.isEncodable "error" ∧ Json.isEncodable "code" ∧
        Json.isEncodable "message" ∧ Json.isEncodable "data" ∧ Json.isEncodable "Unhandled method " := by
      decide +kernel
    cases hr with
    | done =>
      refine Json.encodes_of_isClean ?_ ?_
      · simp only [Message.response, Json.isClean, Json.fieldsAreClean, hnames, hid, Bool.and_self]
      · simp only [Message.response, Json.isWritable, Json.fieldsAreWritable, hidw, Bool.and_self]
    | unhandled asked =>
      obtain ⟨t, rfl⟩ := h.method _ asked
      have ht : Json.isEncodable t := Json.isClean_of_mem h.clean (Fields.mem_of_get? asked)
      have hcode : decide (Message.Code.methodNotFound.natAbs < Nat.pow 10 Number.longestInteger) = true := by
        decide +kernel
      refine Json.encodes_of_isClean ?_ ?_
      · simp only [Message.errorResponse, Message.errorObject, Json.isClean, Json.fieldsAreClean, hnames, hid,
          Json.isEncodable_append, Json.display, ht, Bool.and_self]
      · simp only [Message.errorResponse, Message.errorObject, Json.isWritable, Json.fieldsAreWritable, hidw,
          hcode, Bool.and_self]

end LanguageClient
