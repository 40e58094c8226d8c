import LanguageClient.Proofs.Session.Course
import LanguageClient.Session.Calls

/-!
Answers that are due. Whoever is called back finds a sound world and leaves one.
-/

namespace LanguageClient

/-- The answer to a request is due: it left the table with this response. -/
structure World.Owes (id : SessionId) (t : Nat) (handler : Handler) (response : Json) (w : World) :
    Prop where
  known : w.Known id
  accepted : ∃ g, .accepted t (some g) ∈ dealings id w.events ∧ g.callback? = handler.callback?
  resolved : .resolved t response ∈ dealings id w.events
  once : ∀ label r, .answered t label r ∉ dealings id w.events

/-- A response that may be given to the request which the id answers. -/
def World.Fits (id : SessionId) (answered response : Json) (w : World) : Prop :=
  (∃ m : Fields, response = .object m ∧ answered = m.getD "id" .null ∧
    .read m ∈ dealings id w.events) ∨
  ∃ n code message, IsOwn id n w.events code message ∧ answered = Json.ofNat n ∧
    response = Message.errorResponse answered (.int code) message .null

/-- Callers keep the accounts of all sessions, given that the answers which they pass on are due. -/
structure LawfulCaller (call : Caller) : Prop where
  answer : ∀ handler id t response, handler.isPublic →
    Act.Within World.Leads (World.Owes id t handler response) (call (.answer handler id t response))
  event : ∀ listener id args, listener.isPublic → Act.Keeps id (call (.event listener id args))
  message : ∀ listener id params, listener.isPublic →
    Act.Keeps id (call (.message listener id params))

lemma World.Owes.step {id : SessionId} {t : Nat} {handler : Handler} {response : Json}
    {v w : World} (h : v.Owes id t handler response) (hl : v.Leads w)
    (hd : dealings id w.events = dealings id v.events) : w.Owes id t handler response where
  known := Act.Stable.step hl h.known
  accepted := hd ▸ h.accepted
  resolved := hd ▸ h.resolved
  once := hd ▸ h.once

/-! Keys -/

namespace Correlator

lemma same_of_number? {v : Json} {n : Nat} (h : v.number? = some (.ofInt n)) :
    v.same (Json.ofNat n) := by
  have hn : (Json.ofNat n).number? = some (.ofInt n) := rfl
  rw [Json.same, h, hn]
  simp [Exact.same, Exact.ofInt]

lemma same_of_answerKey? {v : Json} {n : Nat}
    (h : answerKey? v = some (.number (.ofInt n))) : v.same (Json.ofNat n) := by
  cases v with
  | bool b => exact same_of_number? (by simpa [answerKey?, Json.key?] using h)
  | int m => exact same_of_number? (by simpa [answerKey?, Json.key?] using h)
  | _ => simp [answerKey?, Json.key?] at h

lemma answerKey?_ofNat (n : Nat) : answerKey? (Json.ofNat n) = some (.number (.ofInt n)) := rfl

lemma mem_of_answered? {κ : Type} {c : Correlator κ} {v : Json} {p : Pending κ}
    (h : c.answered? v = some p) : p ∈ c.pending ∧ answerKey? v = some p.key := by
  obtain ⟨key, hk, hf⟩ := Option.bind_eq_some_iff.mp h
  have hp : p.key = key := by simpa using List.find?_some hf
  exact ⟨List.mem_of_find?_eq_some hf, hp ▸ hk⟩

lemma answered?_of_unique {κ : Type} {c : Correlator κ} {v : Json} {p : Pending κ} (hp : p ∈ c.pending)
    (hv : answerKey? v = some p.key) (h : ∀ q ∈ c.pending, q.key = p.key → q = p) :
    c.answered? v = some p := by
  rw [answered?, hv, Option.bind_some, find?]
  cases hf : c.pending.find? fun q => q.key = p.key with
  | none => exact (List.find?_eq_none.mp hf p hp (by simp)).elim
  | some q => rw [h q (List.mem_of_find?_eq_some hf) (by simpa using List.find?_some hf)]

/-! What is overdue -/

lemma filterAuxM_eq {κ : Type} {f : κ → Checked Bool} {g : κ → Bool} (h : ∀ x, f x = .ok (g x))
    (l acc : List κ) : l.filterAuxM f acc = .ok ((l.filter g).reverse ++ acc) := by
  induction l generalizing acc with
  | nil => rfl
  | cons x l ih =>
    rw [List.filterAuxM, h x]
    by_cases hx : g x
    · rw [List.filter_cons_of_pos hx, hx, List.reverse_cons, List.append_assoc]
      exact ih (x :: acc)
    · rw [List.filter_cons_of_neg hx, Bool.eq_false_iff.mpr hx]
      exact ih acc

end Correlator

/-- Whether the deadline of a request has come at a time. -/
def Pending.isDue (t : Exact) (p : Pending Handler) : Bool :=
  p.deadline.any fun deadline => (Exact.ofFloat deadline).atMost t

lemma Correlator.isOverdue_eq {now : Json} {t : Exact} (h : now.number? = some t) (p : Pending Handler) :
    isOverdue now p = .ok (p.isDue t) := by
  rw [isOverdue, Pending.isDue, h]
  cases p.deadline <;> rfl

lemma Correlator.overdue_eq {now : Json} {t : Exact} (h : now.number? = some t) (c : Correlator Handler) :
    c.overdue now = .ok (c.pending.filter (·.isDue t)) := by
  rw [overdue, List.filterM, filterAuxM_eq (isOverdue_eq h), List.append_nil]
  exact congrArg Except.ok (List.reverse_reverse _)

lemma mem_dealings_read_iff {id : SessionId} {es : List Event} {m : Fields} :
    .read m ∈ dealings id es ↔ .dealt id (.read m) ∈ es :=
  mem_dealings_iff fun _ _ _ h => by cases h

lemma mem_dealings_registered_iff {id : SessionId} {es : List Event} {t n : Nat} :
    .registered t n ∈ dealings id es ↔ .dealt id (.registered t n) ∈ es :=
  mem_dealings_iff fun _ _ _ h => by cases h

lemma IsOwn.code_mem {id : SessionId} {n : Nat} {es : List Event} {code : Int} {text : Text}
    (h : IsOwn id n es code text) : code ∈ ownCodes := by
  cases h <;> decide

open Correlator in
lemma World.Fits.cause {id : SessionId} {answered response : Json} {w : World}
    (h : w.Fits id answered response) {p : Pending Handler}
    (hk : answerKey? answered = some p.key) {n : Nat} (hp : p.Numbered n) :
    Cause id n w.events response := by
  rw [hp.key] at hk
  rcases h with ⟨m, rfl, rfl, hm⟩ | ⟨k, code, text, hown, rfl, rfl⟩
  · exact .read (mem_dealings_read_iff.mp hm) (same_of_answerKey? hk)
  · rw [answerKey?_ofNat, Option.some.injEq, Json.Key.number.injEq, Exact.ofInt, Exact.ofInt,
      Exact.finite.injEq] at hk
    obtain rfl : k = n := by exact_mod_cast hk
    exact .own hown

lemma Cause.answers {id : SessionId} {n : Nat} {es : List Event} {response : Json}
    (h : Cause id n es response) : Answers (dealings id es) n response := by
  cases h with
  | read read same => exact .inl ⟨_, rfl, mem_dealings_read_iff.mpr read, same⟩
  | own own => exact .inr ⟨_, own.code_mem, _, rfl⟩

namespace Session

open Act

variable {call : Caller} {id : SessionId}

/-- Giving an answer takes its request from the table, and the answer is due from then on. -/
lemma leads_resolved {w : World} (hw : w.Known id) {answered response : Json}
    (hf : w.Fits id answered response) {p : Pending Handler}
    (hp : (w.session id).correlator.answered? answered = some p) :
    let w' := (deal id (.resolved p.ticket response) fun s =>
      { s with correlator := s.correlator.erase p.key }).after w
    w.Leads w' ∧ ∀ handler ∈ p.handler, handler.isPublic ∧ w'.Owes id p.ticket handler response := by
  intro w'
  obtain ⟨hmem, hk⟩ := Correlator.mem_of_answered? hp
  have hs := hw.sound.accounts id
  obtain ⟨hacc, hres, n, hn, hreg⟩ := hs.pending p hmem
  have hl : w.Leads w' := World.leads_deal hw.lt
    (.resolved p response hmem fun n hn => (hf.cause hk hn).answers)
    ⟨n, mem_dealings_registered_iff.mp hreg, hf.cause hk hn⟩
  refine ⟨hl, fun handler hh => ?_⟩
  have hd : dealings id w'.events = .resolved p.ticket response :: dealings id w.events :=
    List.filterMap_cons_some (if_pos rfl)
  refine ⟨(hs.accepted _ _ hacc).2 handler hh, Stable.step hl hw, ⟨handler, ?_, rfl⟩, ?_, ?_⟩
  · rw [hd]
    exact List.mem_cons_of_mem _ (Option.mem_def.mp hh ▸ hacc)
  · rw [hd]
    exact List.mem_cons_self
  · intro label r hr
    rw [hd] at hr
    exact hres r (hs.answered _ label r (List.mem_of_ne_of_mem (by simp) hr))

lemma within_resolve (hc : LawfulCaller call) (answered response : Json) :
    Within World.Leads (fun w => w.Known id ∧ w.Fits id answered response)
      (resolve call id answered response) := by
  refine within_getSession_bind fun w hw => ?_
  dsimp only
  cases hp : (w.session id).correlator.answered? answered with
  | none =>
    refine Within.mono (Q := World.Known id) ?_ (fun v hv => hv ▸ hw.1)
    exact (within_log ..).bind fun _ => within_pure false
  | some p =>
    obtain ⟨hl, ho⟩ := leads_resolved hw.1 hw.2 hp
    refine Within.bind_at hl fun _ => ?_
    cases hh : p.handler with
    | none => exact within_pure true
    | some handler =>
      obtain ⟨hpub, howes⟩ := ho handler hh
      refine Within.mono (Q := World.Owes id p.ticket handler response) ?_ (fun v hv => hv ▸ howes)
      refine Within.bind_mono (Q := World.Known id) (hc.answer _ _ _ _ hpub).attempt
        (fun v hv => hv.known) fun result => ?_
      cases result with
      | ok _ => exact within_pure true
      | error f => exact (within_logFault _ _ _).bind fun _ => within_pure true

section

variable {P : World → Prop} [Stable World.Leads P] {code : Int} {message : Text}

lemma within_failEach (hc : LawfulCaller call) (hown : ∀ w n, P w → IsOwn id n w.events code message)
    {slots : List Json} (hs : ∀ slot ∈ slots, ∃ n : Nat, slot = Json.ofNat n) :
    Within World.Leads (fun w => w.Known id ∧ P w) (failEach call id (.int code) message slots) := by
  induction slots with
  | nil => exact within_pure ()
  | cons slot rest ih =>
    rw [List.forall_mem_cons] at hs
    obtain ⟨⟨n, hn⟩, hrest⟩ := hs
    have hf : ∀ w, w.Known id ∧ P w → w.Known id ∧ w.Fits id slot _ := fun w hw =>
      ⟨hw.1, .inr ⟨n, code, message, hown w n hw.2, hn, rfl⟩⟩
    exact ((within_resolve hc slot _).mono hf).bind fun _ => ih hrest

/-- What is pending may fail with an error for which there is an occasion. -/
lemma within_failAll (hc : LawfulCaller call) (hown : ∀ w n, P w → IsOwn id n w.events code message) :
    Within World.Leads (fun w => w.Known id ∧ P w) (failAll call id (.int code) message) := by
  refine within_getSession_bind fun w ⟨hw, hp⟩ => Within.mono (Q := fun v => v.Known id ∧ P v) ?_
    fun v hv => hv ▸ ⟨hw, hp⟩
  have hs : ∀ slot ∈ (w.session id).correlator.pending.map (·.slot), ∃ n : Nat,
      slot = Json.ofNat n := by
    intro slot hslot
    obtain ⟨p, hp, rfl⟩ := List.mem_map.mp hslot
    obtain ⟨-, -, n, hn, -⟩ := (hw.sound.accounts id).pending p hp
    exact ⟨n, hn.slot⟩
  have hrest : Within World.Leads (fun v => v.Known id ∧ P v) (do
      failEach call id (.int code) message ((w.session id).correlator.pending.map (·.slot))
      return ((w.session id).correlator.pending.map (·.slot)).length) :=
    (within_failEach hc hown hs).bind fun _ => within_pure _
  dsimp only
  split
  next => exact (within_log _ _ _).bind fun _ => hrest
  next => exact hrest

end

/-- Requests that bear the numbers under which they were registered. -/
def AreNumbered (id : SessionId) (ps : List (Pending Handler)) (w : World) : Prop :=
  ∀ p ∈ ps, ∃ n : Nat, p.id = Json.ofNat n ∧ .dealt id (.registered p.ticket n) ∈ w.events

instance (ps : List (Pending Handler)) : Stable World.Leads (AreNumbered id ps) where
  step h hw p hp := by
    obtain ⟨n, hn, hreg⟩ := hw p hp
    exact ⟨n, hn, h.ensues.suffix.subset hreg⟩

lemma within_expireEach (hc : LawfulCaller call) {now : Json} {overdue : List (Pending Handler)}
    (ho : ∀ p ∈ overdue, Correlator.isOverdue now p = .ok true) :
    Within World.Leads (fun w => w.Known id ∧ AreNumbered id overdue w)
      (expireEach call id now overdue) := by
  induction overdue with
  | nil => exact within_pure ()
  | cons p rest ih =>
    rw [List.forall_mem_cons] at ho
    refine within_getSession_bind fun w hw => Within.mono
      (Q := fun v => v.Known id ∧ AreNumbered id (p :: rest) v) ?_ fun v hv => hv ▸ hw
    refine (within_log _ _ _).bind fun _ => within_check_bind fun time htime => ?_
    have hf : ∀ v, v.Known id ∧ AreNumbered id (p :: rest) v → v.Known id ∧ v.Fits id p.id _ :=
      fun v hv => by
        obtain ⟨n, hn, hreg⟩ := hv.2 p List.mem_cons_self
        exact ⟨hv.1, .inr ⟨n, _, _, .overdue hreg htime ho.1, hn, rfl⟩⟩
    have hrest : ∀ v, v.Known id ∧ AreNumbered id (p :: rest) v → v.Known id ∧ AreNumbered id rest v :=
      fun v hv => ⟨hv.1, fun q hq => hv.2 q (List.mem_cons_of_mem p hq)⟩
    exact ((within_resolve hc p.id _).mono hf).bind fun _ => (ih ho.2).mono hrest

lemma mem_of_filterAuxM {κ : Type} {f : κ → Checked Bool} {l acc r : List κ}
    (h : l.filterAuxM f acc = .ok r) : ∀ x ∈ r, (x ∈ l ∧ f x = .ok true) ∨ x ∈ acc := by
  induction l generalizing acc with
  | nil =>
    obtain rfl : acc = r := Except.ok.inj h
    exact fun x hx => .inr hx
  | cons y l ih =>
    rw [List.filterAuxM] at h
    cases hy : f y with
    | error e => rw [hy] at h; cases h
    | ok keep =>
      rw [hy] at h
      intro x hx
      rcases ih h x hx with hl | hr
      · exact .inl ⟨List.mem_cons_of_mem y hl.1, hl.2⟩
      · cases keep with
        | false => exact .inr hr
        | true =>
          rcases List.mem_cons.mp hr with rfl | hr
          · exact .inl ⟨List.mem_cons_self, hy⟩
          · exact .inr hr

lemma mem_of_overdue {c : Correlator Handler} {now : Json} {overdue : List (Pending Handler)}
    (h : c.overdue now = .ok overdue) :
    ∀ p ∈ overdue, p ∈ c.pending ∧ Correlator.isOverdue now p = .ok true := by
  rw [Correlator.overdue, List.filterM] at h
  cases hf : c.pending.filterAuxM (Correlator.isOverdue now) [] with
  | error e => rw [hf] at h; cases h
  | ok r =>
    rw [hf] at h
    obtain rfl := Except.ok.inj h
    intro p hp
    exact (mem_of_filterAuxM hf p (List.mem_reverse.mp hp)).resolve_right List.not_mem_nil

lemma keeps_expire (hc : LawfulCaller call) (now : Json) : Keeps id (expire call id now) := by
  refine within_get_bind fun w hw => within_check_bind fun overdue ho => ?_
  have hids : AreNumbered id overdue w := by
    intro p hp
    obtain ⟨-, -, n, hn, hreg⟩ := (hw.sound.accounts id).pending p (mem_of_overdue ho p hp).1
    exact ⟨n, hn.id, mem_dealings_registered_iff.mp hreg⟩
  have hoverdue := fun p hp => (mem_of_overdue ho p hp).2
  exact ((within_expireEach hc hoverdue).mono fun v hv => hv ▸ ⟨hw, hids⟩).bind_any fun _ =>
    within_pure _

/-! Listeners -/

lemma keeps_callEach {makeCall : Listener → Call} {onFault : Fault → Act Unit}
    {listeners : List Listener} (hl : ∀ l ∈ listeners, l.isPublic)
    (hc : ∀ l, l.isPublic → Keeps id (call (makeCall l))) (hf : ∀ f, Keeps id (onFault f)) :
    Keeps id (callEach call makeCall onFault listeners) := by
  induction listeners with
  | nil => exact within_pure ()
  | cons l rest ih =>
    rw [List.forall_mem_cons] at hl
    refine (hc l hl.1).attempt.bind fun result => ?_
    cases result with
    | ok _ => exact ih hl.2
    | error f => exact (hf f).bind fun _ => ih hl.2

lemma mem_of_named {κ : Type} {name : Json.Key} {table : List (Json.Key × κ)} {l : κ}
    (h : l ∈ Listeners.named name table) : l ∈ table.map (·.2) := by
  obtain ⟨⟨n, l'⟩, hm, he⟩ := List.mem_filterMap.mp h
  dsimp only at he
  split at he
  · obtain rfl := Option.some.inj he
    exact List.mem_map_of_mem hm
  · cases he

lemma keeps_fireEvent (hc : LawfulCaller call) (name : Json) (args : List Json) :
    Keeps id (fireEvent call id name args) := by
  refine within_check_bind fun key _ => (within_note _).bind fun _ => ?_
  refine keeps_getSession_bind fun w hw => ?_
  have hl : ∀ l ∈ (w.session id).listeners.ofEvent key, l.isPublic := fun l hl =>
    (hw.sound.accounts id).listeners l (List.mem_append_left _ (mem_of_named hl))
  exact (keeps_callEach hl (fun l hp => hc.event l id args hp) fun f => within_logFault _ _ f).bind
    fun _ => within_pure _

lemma keeps_fireMethod (hc : LawfulCaller call) (name params : Json) :
    Keeps id (fireMethod call id name params) := by
  refine within_check_bind fun key _ => keeps_getSession_bind fun w hw => ?_
  have hl : ∀ l ∈ (w.session id).listeners.ofMethod key, l.isPublic := fun l hl =>
    (hw.sound.accounts id).listeners l (List.mem_append_right _ (mem_of_named hl))
  exact (keeps_callEach hl (fun l hp => hc.message l id params hp) fun f =>
    within_logFault _ _ f).bind fun _ => within_pure _

end Session

end LanguageClient
