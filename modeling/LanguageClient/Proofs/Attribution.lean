import LanguageClient.Proofs.Correlation
import LanguageClient.Proofs.Message.Failure
import LanguageClient.Proofs.Steps.Runs

/-!
Attribution. A client answers its own requests with the codes that say that it ended the session or that
the time is up. Whoever waits takes every error with these codes for that, those of the server too.
-/

namespace LanguageClient

open Message

namespace Json

variable {v : Json}

lemma same_int_iff {n : Int} : v.same (.int n) ↔ v.number? = some (.ofInt n) := by
  have hn : (Json.int n).number? = some (.ofInt n) := rfl
  rw [Json.same, hn]
  cases v with
  | bool b => cases b <;> simp [number?, Exact.same, Exact.ofInt]
  | int m => simp [number?, Exact.same, Exact.ofInt]
  | float x => cases hx : Exact.ofFloat x <;> simp [number?, hx, Exact.same, Exact.ofInt]
  | _ => simp [number?, alike]

lemma eq_of_same_int {m n : Int} (h : v.same (.int m)) (g : v.same (.int n)) : m = n := by
  rw [same_int_iff] at h g
  simpa [Exact.ofInt] using h.symm.trans g

end Json

/-- A message whose error has this code. -/
def Fields.Bears (m : Fields) (code : Int) : Prop :=
  ∃ error : Fields, m.getD "error" .null = .object error ∧ (error.getD "code" .null).same (.int code)

namespace Message

variable {m : Fields} {f : Failure} {code : Int}

lemma kind_failureOfError_eq_closed_iff (error : Fields) : (failureOfError error).kind = .closed ↔
    (error.getD "code" .null).same (.int Code.transportClosed) := by
  unfold failureOfError
  dsimp only
  split_ifs <;> simp_all [Failure.kind]

lemma kind_failureOfError_eq_timedOut_iff (error : Fields) : (failureOfError error).kind = .timedOut ↔
    (error.getD "code" .null).same (.int Code.requestTimeout) := by
  unfold failureOfError
  dsimp only
  split_ifs with hclosed
  · have hne : ¬ (error.getD "code" .null).same (.int Code.requestTimeout) := fun h => by
      cases Json.eq_of_same_int hclosed h
    simp [Failure.kind, hne]
  all_goals simp_all [Failure.kind]

lemma exists_error_of_failure? (h : failure? (.object m) = .ok (some f)) :
    ∃ error : Fields, m.getD "error" .null = .object error ∧ f = failureOfError error := by
  obtain ⟨error, he, hne⟩ := exists_failure?_iff.mp ⟨f, h⟩
  rw [failure?_object, if_pos (holds_of_fields he hne), he] at h
  exact ⟨error, he, (Option.some.inj (Except.ok.inj h)).symm⟩

lemma kind_eq_closed_iff (h : failure? (.object m) = .ok (some f)) :
    f.kind = .closed ↔ m.Bears Code.transportClosed := by
  obtain ⟨error, he, rfl⟩ := exists_error_of_failure? h
  rw [kind_failureOfError_eq_closed_iff, Fields.Bears]
  simp [he]

lemma kind_eq_timedOut_iff (h : failure? (.object m) = .ok (some f)) :
    f.kind = .timedOut ↔ m.Bears Code.requestTimeout := by
  obtain ⟨error, he, rfl⟩ := exists_error_of_failure? h
  rw [kind_failureOfError_eq_timedOut_iff, Fields.Bears]
  simp [he]

/-- An error of the client's own bears the code that it was given. -/
lemma bears_errorResponse_iff {id text data : Json} {k : Int} :
    Fields.Bears [("jsonrpc", "2.0"), ("id", id), ("error", errorObject (.int k) text data)] code ↔
      k = code := by
  have hcode : (Json.int k).same (.int code) ↔ k = code := by
    rw [Json.same_int_iff]
    simp [Json.number?, Exact.ofInt]
  rw [← hcode]
  constructor
  · rintro ⟨error, he, hsame⟩
    obtain rfl : error = _ := (Json.object.inj he).symm
    exact hsame
  · exact fun h => ⟨_, rfl, h⟩

end Message

/-! Answers -/

/-- An error with this code that came from the server. -/
def IsSent (id : SessionId) (es : List Event) (code : Int) (response : Json) : Prop :=
  ∃ m : Fields, response = .object m ∧ .dealt id (.read m) ∈ es ∧ m.Bears code

/-- An error with this code that the client gave for the request itself. -/
def IsGiven (id : SessionId) (t : Nat) (es : List Event) (code : Int) (response : Json) : Prop :=
  ∃ n text, .dealt id (.registered t n) ∈ es ∧ IsOwn id n es code text ∧
    response = errorResponse (Json.ofNat n) (.int code) (.text text) .null

variable {id : SessionId} {t n : Nat} {es earlier : List Event} {m : Fields} {code : Int}

lemma Cause.bears_iff (h : Cause id n es (.object m)) (hreg : .dealt id (.registered t n) ∈ es) :
    m.Bears code ↔ IsGiven id t es code (.object m) ∨ IsSent id es code (.object m) := by
  constructor
  · intro hbears
    cases h with
    | read read same => exact .inr ⟨m, rfl, read, hbears⟩
    | own own =>
      obtain rfl := bears_errorResponse_iff.mp hbears
      exact .inl ⟨n, _, hreg, own, rfl⟩
  · rintro (⟨k, text, -, -, hr⟩ | ⟨m', hr, -, hbears⟩)
    · rw [Json.object.inj hr]
      exact bears_errorResponse_iff.mpr rfl
    · exact Json.object.inj hr ▸ hbears

lemma ensues_of_mem_outcomes {w : World} (hw : w.IsNew) {actions : List Action}
    (ha : actionsArePublic actions) {o : Outcome} (ho : o ∈ outcomes w actions) :
    Ensues [] o.world.events :=
  hw.events ▸ (leads_of_mem_outcomes hw.sound ha ho).ensues

/-- Who is called back is called with what the request was resolved with, for a cause. -/
lemma exists_cause_of_answered {label response : Json} {title : Text} (h : Ensues [] es)
    (hs : .answered id t label title response :: earlier <:+ es) :
    ∃ n, .dealt id (.registered t n) ∈ earlier ∧ Cause id n earlier response := by
  obtain ⟨later, before, hsplit⟩ := List.append_of_mem (h.hasCause hs)
  have hbefore : .dealt id (.resolved t response) :: before <:+ earlier := ⟨later, hsplit.symm⟩
  obtain ⟨n, hreg, hcause⟩ := h.hasCause (hbefore.trans ((List.suffix_cons _ _).trans hs))
  have hsubset := ((List.suffix_cons _ _).trans hbefore).subset
  exact ⟨n, hsubset hreg, hcause.mono hsubset⟩

/-- Who is told that the session ended or that the time is up is told so by the client, which had the
occasion for it, or by the server. The server can say both of them. -/
theorem blames_of_mem_outcomes {w : World} (hw : w.IsNew) {actions : List Action}
    (ha : actionsArePublic actions) {o : Outcome} (ho : o ∈ outcomes w actions) {label response : Json}
    {title : Text} (hs : .answered id t label title response :: earlier <:+ o.world.events)
    {f : Failure} (hf : failure? response = .ok (some f)) :
    (f.kind = .closed ↔ IsGiven id t earlier Code.transportClosed response ∨
      IsSent id earlier Code.transportClosed response) ∧
    (f.kind = .timedOut ↔ IsGiven id t earlier Code.requestTimeout response ∨
      IsSent id earlier Code.requestTimeout response) := by
  obtain ⟨n, hreg, hcause⟩ := exists_cause_of_answered (ensues_of_mem_outcomes hw ha ho) hs
  obtain ⟨m, rfl⟩ := hcause.exists_fields
  rw [kind_eq_closed_iff hf, kind_eq_timedOut_iff hf]
  exact ⟨hcause.bears_iff hreg, hcause.bears_iff hreg⟩

/-- Whether an event is an answer with a failure of this kind and text. -/
def Event.fails (kind : Failure.Kind) (text : Text) : Event → Bool
  | .answered _ _ _ _ response =>
    match failure? response with
    | .ok (some f) => f.kind = kind && f.message = text
    | _ => false
  | _ => false

lemma Event.eq_answered_of_fails {e : Event} {kind : Failure.Kind} {text : Text} (h : e.fails kind text) :
    ∃ id t label title response f, e = .answered id t label title response ∧
      failure? response = .ok (some f) ∧ f.kind = kind ∧ f.message = text := by
  cases e with
  | answered id t label title response =>
    rw [fails] at h
    split at h
    next f hf =>
      rw [Bool.and_eq_true, decide_eq_true_eq, decide_eq_true_eq] at h
      exact ⟨id, t, label, title, response, f, rfl, hf, h⟩
    next => cases h
  | _ => cases h

theorem blames_of_mem_outcomes_teardown :
    let actions : List Action :=
      [.session .null (.handshake .null "editor" "1" (some (.mk "opened" [] none))), .session .null .tick,
        .session .null (.teardown "gone" .null)]
    (World.serving "server").IsNew ∧ actionsArePublic actions ∧ ∃ o ∈ outcomes (.serving "server") actions,
      ∃ id t label title response earlier f,
        .answered id t label title response :: earlier <:+ o.world.events ∧
        failure? response = .ok (some f) ∧ f.kind = .closed ∧
        IsGiven id t earlier Code.transportClosed response := by
  intro actions
  have hw : (World.serving "server").IsNew := World.isNew_serving "server"
  have ha : actionsArePublic actions := by decide
  have hd : ∃ o ∈ outcomes (.serving "server") actions, ∃ es ∈ o.world.events.tails,
      es.head?.any (Event.fails .closed "server: gone") ∧ es.all fun e => !e matches .dealt _ (.read _) := by
    decide +kernel
  obtain ⟨o, ho, es, hes, hfails, hunread⟩ := hd
  rcases es with _ | ⟨e, earlier⟩
  · cases hfails
  obtain ⟨id, t, label, title, response, f, rfl, hf, hkind, -⟩ := Event.eq_answered_of_fails hfails
  have hs := (List.mem_tails _ _).mp hes
  refine ⟨hw, ha, o, ho, id, t, label, title, response, earlier, f, hs, hf, hkind, ?_⟩
  refine ((blames_of_mem_outcomes hw ha ho hs hf).1.mp hkind).resolve_right ?_
  rintro ⟨m, -, hread, -⟩
  cases List.all_eq_true.mp hunread _ (List.mem_cons_of_mem _ hread)

lemma IsGiven.message_of_requestTimeout {response : Json} {f : Failure}
    (h : IsGiven id t es Code.requestTimeout response) (hf : failure? response = .ok (some f)) :
    ∃ p elapsed, f.message = Session.timeoutText p elapsed := by
  obtain ⟨n, text, -, own, rfl⟩ := h
  cases own with
  | @overdue p now time registered time_eq overdue =>
    obtain rfl := Option.some.inj (Except.ok.inj hf)
    exact ⟨p, time - p.timestamp, rfl⟩

/-- The server refuses to open the session with a code of the client's own. -/
theorem blames_server_of_mem_outcomes :
    let actions (code : Int) : List Action :=
      [.session .null (.handshake .null "editor" "1" (some (.mk "opened" [] none))), .session .null .tick,
        .link .null (.write [errorResponse (.int 1) (.int code) "no" .null]), .session .null .tick]
    ∀ blame ∈ [(Code.transportClosed, Failure.Kind.closed), (Code.requestTimeout, .timedOut)],
      ∃ o ∈ outcomes (.serving "server") (actions blame.1), ∃ id t label title response earlier f,
        .answered id t label title response :: earlier <:+ o.world.events ∧
        failure? response = .ok (some f) ∧ f.kind = blame.2 ∧ ¬ IsGiven id t earlier blame.1 response := by
  intro actions blame hblame
  have hd : ∀ blame ∈ [(Code.transportClosed, Failure.Kind.closed), (Code.requestTimeout, .timedOut)],
      ∃ o ∈ outcomes (.serving "server") (actions blame.1), ∃ es ∈ o.world.events.tails,
        es.head?.any (Event.fails blame.2 "no") ∧ es.all fun e => !e.isEnd := by
    decide +kernel
  obtain ⟨o, ho, es, hes, hfails, hlive⟩ := hd blame hblame
  rcases es with _ | ⟨e, earlier⟩
  · cases hfails
  obtain ⟨id, t, label, title, response, f, rfl, hf, hkind, htext⟩ := Event.eq_answered_of_fails hfails
  refine ⟨o, ho, id, t, label, title, response, earlier, f, (List.mem_tails _ _).mp hes, hf, hkind,
    fun hgiven => ?_⟩
  rcases List.mem_pair.mp hblame with rfl | rfl
  · obtain ⟨n, text, -, own, -⟩ := hgiven
    cases own with
    | ended text ended => cases List.all_eq_true.mp hlive _ (List.mem_cons_of_mem _ ended)
  · obtain ⟨p, elapsed, hmessage⟩ := hgiven.message_of_requestTimeout hf
    cases htext.symm.trans hmessage

end LanguageClient
