import LanguageClient.Proofs.Active
import LanguageClient.Proofs.Steps.Runs

/-!
Strides. Where a registry and features act on sessions too, a session takes the steps of a conduct, and
besides it is created, shut down, and offered requests that its server is known to answer.
-/

namespace LanguageClient

open Act World

/-- Whether a server is known to answer a method: if there is a provider for it, it is enabled. -/
def Capability.Grants (capabilities : Option Json) (method : Json) : Prop :=
  ∀ provider, Capability.providerOf? method = some provider → ∃ known value,
    capabilities = some known ∧ known.field provider = .ok value ∧ Capability.enabled value

/-- A conduct that leaves room for a registry and for features: sessions are opened, documents are kept in
step, and settings are told. -/
class Conduct.Welcomes (c : Conduct) : Prop where
  opens : ∀ root, c.allows (.handshake root Registry.clientName Registry.clientVersion none)
  documents : ∀ a : SessionAction, a.isDocument → c.allows a
  settings : ∀ params, c.callback (.pushNotification "workspace/didChangeConfiguration" params)

/-- What becomes of a session where features act on it too. -/
inductive Stride (c : Conduct) (id : SessionId) : Position → Position → Prop where
  | step {p q} (step : Step c id p q) : Stride c id p q
  | born {config name es K} (ls : Listeners Listener) (obey : ∀ l ∈ ls.all, l.obeys c.callback config) :
    Stride c id ⟨default, es, K⟩ ⟨{ Session.blank config name with listeners := ls }, es, K⟩
  | offered {s es K r handler} (status : s.status = .initialized)
    (granted : Capability.Grants s.capabilities r.method) (feature : r.handler = some handler)
    (isFeature : handler.isFeature) :
    Stride c id ⟨s, es, K⟩ ⟨(s.queue (.inr r)).count (.inr r),
      .dealt id (.accepted r.ticket r.handler) :: .noted id (.queued (.inr r)) :: es, K⟩
  /-- An operation of the registry is through, which is not noted. -/
  | withdrew {s es K a before earlier} :
    Stride c id ⟨s, es, .performing a before earlier :: K⟩ ⟨s, es, K⟩

abbrev Strides (c : Conduct) (id : SessionId) : Position → Position → Prop :=
  Relation.ReflTransGen (Stride c id)

/-- Capabilities are known only of a server that opened the session. -/
def Session.Informed (s : Session) : Prop :=
  s.capabilities.isSome → s.status = .initialized ∨ s.status.isLeaving

variable {c : Conduct} {id : SessionId} {p q : Position}

lemma Steps.strides (h : Steps c id p q) : Strides c id p q :=
  Relation.ReflTransGen.mono (fun _ _ => Stride.step) _ _ h

/-- Whoever may tell anything may tell what has no bytes. -/
lemma Conduct.not_sends [c.Welcomes] (config : Fields) : ¬ c.Sends config := fun hsends => by
  obtain ⟨long, hlong⟩ : ∃ v : Json, v.isWritable = false := by
    refine ⟨.int numberLimit, ?_⟩
    rw [Json.isWritable, decide_eq_false_iff_not, Int.natAbs_natCast, numberLimit]
    exact Nat.lt_irrefl _
  have hsent := hsends.items _ (.inr (Welcomes.settings long)) (.blank config .null) rfl _ rfl
  have hwritable := hsent.isWritable
  rw [Message.notification, Json.isWritable] at hwritable
  simp [Json.fieldsAreWritable, hlong] at hwritable

lemma Step.informed (h : Step c id p q) (hp : p.session.Informed) : q.session.Informed := by
  cases h
  case introduced status _ _ _ _ => exact fun hs => by simpa [status, Status.isLeaving] using hp hs
  case deferred item _ _ _ _ _ _ _ | queued item _ _ _ _ _ _ => cases item <;> exact hp
  case took s es t K m reader next running =>
    obtain ⟨responses, errors, he⟩ := Session.exists_enqueue_eq { s with reader } m
    rw [he]
    exact hp
  case stuck | welcomed => exact fun _ => .inl rfl
  case left | parted | saidGoodbye | unheardGoodbye | ended => exact fun _ => .inr rfl
  all_goals exact hp

lemma Stride.informed (h : Stride c id p q) (hp : p.session.Informed) : q.session.Informed := by
  cases h with
  | step step => exact step.informed hp
  | born => nofun
  | offered | withdrew => exact hp

lemma Strides.informed (h : Strides c id p q) (hp : p.session.Informed) : q.session.Informed := by
  induction h with
  | refl => exact hp
  | tail _ h ih => exact h.informed ih

lemma Stride.sound [c.Welcomes] (h : Stride c id p q) (hp : p.session.Sound c id p.events) :
    q.session.Sound c id q.events := by
  cases h with
  | step step => exact step.sound hp
  | @born config name es K ls obey =>
    have hblank : (Session.blank config name).Sound c id es := (Session.Sound.blank _ _).mono List.nil_suffix
    exact { hblank with listeners := obey }
  | @offered s es K r handler status granted feature isFeature =>
    have hitem : Session.Offers c id s
        (.dealt id (.accepted r.ticket r.handler) :: .noted id (.queued (.inr r)) :: es) (.inr r) := by
      refine ⟨fun k hk h hh => ?_, fun hs => (c.not_sends _ hs).elim, fun k hk => ?_⟩
      · obtain rfl := Sum.inr.inj hk
        obtain rfl := Option.some.inj (feature.symm.trans hh)
        exact Handler.obeys_of_isFeature isFeature
      · obtain rfl := Sum.inr.inj hk
        exact List.mem_cons_self
    exact (hp.mono ((List.suffix_cons _ _).trans (List.suffix_cons _ _))).queue hitem
  | withdrew => exact hp

lemma Strides.sound [c.Welcomes] (h : Strides c id p q) (hp : p.session.Sound c id p.events) :
    q.session.Sound c id q.events := by
  induction h with
  | refl => exact hp
  | tail _ h ih => exact h.sound ih

/-! Worlds -/

namespace World

/-- What is so in all worlds of a run. -/
structure Orderly (c : Conduct) (w : World) : Prop where
  lawful : w.Lawful c
  informed : ∀ id, (w.session id).Informed

structure Hosts (c : Conduct) (id : SessionId) (w : World) : Prop where
  orderly : w.Orderly c
  lt : id < w.sessions.length

structure HostsAll (c : Conduct) (ids : List SessionId) (w : World) : Prop where
  orderly : w.Orderly c
  lt : ∀ id ∈ ids, id < w.sessions.length

/-- Every session strides on, and no other one runs than before. -/
structure Carries (c : Conduct) (v w : World) : Prop where
  length : w.sessions.length = v.sessions.length
  running : w.running.Sublist v.running
  strides : ∀ id, Strides c id (v.position id []) (w.position id [])

/-- Every session strides on, and there may be more of them than before. -/
structure Treads (c : Conduct) (v w : World) : Prop where
  length : v.sessions.length ≤ w.sessions.length
  running : ∀ entry ∈ w.running, entry ∈ v.running ∨ entry.2 < w.sessions.length
  strides : ∀ id, Strides c id (v.position id []) (w.position id [])

variable {ℓ : Level} {u v w : World}

lemma Goes.carries (h : Goes c ℓ v w) : v.Carries c w where
  length := h.length
  running := by rw [h.running]
  strides id := (h.steps id [] ℓ.base_nil).strides

lemma Moves.carries (h : Moves c ℓ id [] [] v w) : v.Carries c w := h.goes.carries

lemma Alike.carries (h : Alike v w) : v.Carries c w := (h.goes (ℓ := .host)).carries

instance : Act.Course (Carries c) where
  refl w := (Alike.refl w).carries
  trans h g := ⟨g.length.trans h.length, g.running.trans h.running, fun id => (h.strides id).trans (g.strides id)⟩

lemma Carries.treads (h : v.Carries c w) : v.Treads c w where
  length := Nat.le_of_eq h.length.symm
  running _ he := .inl (h.running.subset he)
  strides := h.strides

instance : Act.Course (Treads c) where
  refl w := (Alike.refl w).carries.treads
  trans h g := {
    length := Nat.le_trans h.length g.length
    running := fun entry he => by
      rcases g.running entry he with he | hlt
      · exact (h.running entry he).imp_right fun hlt => Nat.lt_of_lt_of_le hlt g.length
      · exact .inr hlt
    strides := fun id => (h.strides id).trans (g.strides id) }

lemma Treads.orderly [c.Welcomes] (h : v.Treads c w) (hv : v.Orderly c) : w.Orderly c where
  lawful := {
    sessions := fun id => (h.strides id).sound (hv.lawful.sessions id)
    running := fun entry he => by
      rcases h.running entry he with he | hlt
      · exact Nat.lt_of_lt_of_le (hv.lawful.running entry he) h.length
      · exact hlt }
  informed id := (h.strides id).informed (hv.informed id)

instance [c.Welcomes] : Act.Stable (Treads c) (Orderly c) := ⟨Treads.orderly⟩

instance [c.Welcomes] : Act.Stable (Carries c) (Orderly c) := ⟨fun h => h.treads.orderly⟩

instance [c.Welcomes] : Act.Stable (Carries c) (Hosts c id) :=
  ⟨fun h hv => ⟨h.treads.orderly hv.orderly, h.length ▸ hv.lt⟩⟩

lemma Hosts.ready (h : w.Hosts c id) : w.Ready c id := ⟨h.orderly.lawful, h.lt⟩

end World

/-! Actions -/

namespace Act

variable {ℓ : Level} {α β : Type} {P : World → Prop}

lemma Within.carries {a : Act α} (h : Within (Moves c ℓ id [] []) (Ready c id) a) :
    Within (Carries c) (Hosts c id) a :=
  ⟨fun w hw => (h.after w hw.ready).carries⟩

lemma IsRemark.carries {a : Act Unit} (h : IsRemark a) : Within (Carries c) P a :=
  ⟨fun w _ => by
    obtain ⟨v, hr, hv⟩ := h.run w
    rw [after, hr]
    exact hv.carries⟩

lemma carries_getSession_bind {f : Session → Act β} (hf : ∀ w, P w → Within (Carries c) P (f (w.session id))) :
    Within (Carries c) P (getSession id >>= f) :=
  within_getSession_bind fun w hw => (hf w hw).mono fun _ hv => hv ▸ hw

end Act

/-! Sessions -/

namespace Session

variable {call : Caller}

lemma carries_tick (hc : Abides c call) : Within (Carries c) (Hosts c id) (tick call id) :=
  within_of_ends fun _ hw =>
    (ends_tick hc (Level.room_host c .tick) hw.ready).mono fun _ _ h => h.1.carries

/-- A session that the registry shuts down does as if its host had asked for it. -/
lemma carries_shutdown (hc : Abides c call) (timeout : Json) :
    Within (Carries c) (Hosts c id) (shutdown call id timeout) := by
  refine within_of_ends fun w hw => (ends_shutdown hc timeout (w.story id) hw.ready).mono fun _ v hv => ?_
  refine ⟨hv.1.length, by rw [hv.1.running], fun other => ?_⟩
  by_cases ho : other = id
  · subst ho
    have hbegan : Stride c other (w.position other [])
        (w.position other [.performing (.shutdown timeout) (w.session other) (w.story other)]) :=
      .step (.began _ Task.areIdle_nil)
    exact (Relation.ReflTransGen.head hbegan (hv.1.steps [] Task.areIdle_nil).strides).tail .withdrew
  · exact (hv.1.others other ho [] Task.areIdle_nil).strides

/-- A request of a feature that the server is known to answer is taken, unless the session is on its
way out. -/
lemma carries_pushRequest {method params timeout : Json} {handler : Handler} (hf : handler.isFeature) :
    Within (Carries c) (fun w => w.Hosts c id ∧ (w.session id).capabilities.isSome ∧
        Capability.Grants (w.session id).capabilities method)
      (pushRequest id method params (some handler) timeout) := by
  refine within_of_ends fun w ⟨hw, hknown, hgranted⟩ => ends_getSession_bind (ends_getSession_bind ?_)
  split
  next => exact (isRemark_log _ _ _).bind fun v hv => hv.carries
  next hlive =>
    have hopen : (w.session id).status = .initialized := (hw.orderly.informed id hknown).resolve_right hlive
    rw [if_neg (by simp [hopen])]
    refine (ends_queue _ hw.lt).mono ?_
    rintro result v ⟨-, hv⟩
    refine ⟨hv.length, by rw [hv.running], fun other => ?_⟩
    by_cases ho : other = id
    · subst ho
      rw [position, position, hv.session, hv.story]
      exact .single (.offered hopen hgranted rfl hf)
    · obtain ⟨hsession, hstory⟩ := hv.others other ho
      rw [position, position, hsession, hstory]

end Session

/-! Features -/

namespace Capability

variable {known : Json} {provider : Text}

lemma grants_of_supports {method : Json} (hp : providerOf? method = some provider)
    (h : supports (some known) method = .ok (.bool true)) : Grants (some known) method := by
  intro other ho
  obtain rfl := Option.some.inj (hp.symm.trans ho)
  simp only [supports, hp] at h
  cases hf : known.field provider with
  | error f => rw [hf] at h; cases h
  | ok value =>
    rw [hf] at h
    exact ⟨known, value, rfl, hf, Json.bool.inj (Except.ok.inj h)⟩

end Capability

namespace Features

/-- The methods for a symbol need the providers that are known for them. -/
lemma providerOf?_of_mem {entry : Text × Text} (h : entry ∈ definitionMethods ++ implementationMethods) :
    Capability.providerOf? (.text ("textDocument/" ++ entry.1)) = some entry.2 := by
  have hall : ∀ entry ∈ definitionMethods ++ implementationMethods,
      Capability.providerOf? (.text ("textDocument/" ++ entry.1)) = some entry.2 := by decide
  exact hall entry h

/-- The method that is chosen is enabled, and those before it are not. -/
lemma exists_append_of_firstEnabled {known : Json} {methods : List (Text × Text)} {method : Text}
    (h : firstEnabled known methods = .ok (some method)) : ∃ before provider rest value,
      methods = before ++ (method, provider) :: rest ∧ known.field provider = .ok value ∧
        Capability.enabled value ∧
        ∀ entry ∈ before, ∃ other, known.field entry.2 = .ok other ∧ Capability.enabled other = false := by
  induction methods with
  | nil => cases h
  | cons entry rest ih =>
    rw [firstEnabled] at h
    cases hf : known.field entry.2 with
    | error f => rw [hf] at h; cases h
    | ok value =>
      rw [hf] at h
      cases he : Capability.enabled value with
      | true =>
        change (if Capability.enabled value then _ else _) = _ at h
        rw [if_pos he] at h
        obtain rfl := Option.some.inj (Except.ok.inj h)
        exact ⟨[], entry.2, rest, value, rfl, hf, he, by simp⟩
      | false =>
        change (if Capability.enabled value then _ else _) = _ at h
        rw [if_neg (by simp [he])] at h
        obtain ⟨before, provider, rest', other, rfl, hfield, henabled, hbefore⟩ := ih h
        refine ⟨entry :: before, provider, rest', other, rfl, hfield, henabled, ?_⟩
        exact List.forall_mem_cons.mpr ⟨⟨value, hf, he⟩, hbefore⟩

lemma grants_of_firstEnabled {known : Json} {methods : List (Text × Text)} {method : Text}
    (hm : methods ⊆ definitionMethods ++ implementationMethods)
    (h : firstEnabled known methods = .ok (some method)) :
    Capability.Grants (some known) (.text ("textDocument/" ++ method)) := by
  obtain ⟨before, provider, rest, value, rfl, hfield, henabled, -⟩ := exists_append_of_firstEnabled h
  intro other ho
  have hprovider := providerOf?_of_mem (hm (List.mem_append_right before List.mem_cons_self))
  obtain rfl := Option.some.inj (hprovider.symm.trans ho)
  exact ⟨known, value, rfl, hfield, henabled⟩

lemma carries_goToWith (doc line col : Json) (implementation : Bool) :
    Within (Carries c) (Hosts c id) (goToWith doc line col implementation id) := by
  refine within_getSession_bind fun w hw => ?_
  split
  next => exact within_pure _
  next known hk =>
    refine within_check_bind fun chosen hchosen => ?_
    split
    next => exact (isRemark_say _).carries
    next method =>
      refine within_check_bind fun position _ => ?_
      refine ((Session.carries_pushRequest (show (Handler.goTo method).isFeature from rfl)).mono fun v hv => ?_).bind_any
        fun _ => within_pure _
      rw [show v = w from hv, hk]
      refine ⟨hw, rfl, grants_of_firstEnabled ?_ hchosen⟩
      split
      · exact List.subset_append_right _ _
      · exact List.subset_append_left _ _

/-- To find the sessions for a document changes nothing. -/
lemma carries_sessionsFor_bind {doc : Json} {f : List SessionId → Act Unit}
    (hf : ∀ ids, Within (Carries c) (HostsAll c ids) (f ids)) :
    Within (Carries c) (Orderly c) (sessionsFor doc >>= f) := by
  refine within_of_ends fun w hw => Ends.bind ((ends_sessionsFor doc w).mono ?_)
  rintro result v ⟨rfl, hids, -⟩
  cases result with
  | error f => exact Course.refl v
  | ok ids =>
    refine next_ok (ends_of_within (hf ids) ⟨hw, fun id hid => ?_⟩)
    obtain ⟨name, entries, -, hactive, rfl⟩ := hids ids rfl
    obtain ⟨entry, he, rfl⟩ := List.mem_map.mp hid
    exact hw.lawful.running entry ((Registry.sublist_of_activeAmong hactive).subset he)

section

variable [c.Welcomes]

lemma carries_completeWith (doc line col : Json) :
    Within (Carries c) (Hosts c id) (completeWith doc line col id) := by
  refine within_check_bind fun params _ => ?_
  refine (Session.moves_changeDocument (Conduct.Welcomes.documents _ rfl)).carries.bind fun _ => ?_
  refine within_getSession_bind fun w hw => within_check_bind fun supported hs => ?_
  split
  next => exact within_pure _
  next =>
    refine within_check_bind fun position _ => ?_
    refine ((Session.carries_pushRequest (show Handler.completion.isFeature from rfl)).mono fun v hv => ?_).bind_any
      fun _ => within_pure _
    rw [show v = w from hv]
    cases hk : (w.session id).capabilities with
    | none => rw [hk] at hs; cases hs
    | some known =>
      rw [hk] at hs
      have hprovider : Capability.providerOf? "textDocument/completion" = some "completionProvider" := by decide
      exact ⟨hw, rfl, Capability.grants_of_supports hprovider hs⟩
  next => exact (isRemark_sayQuietly _).carries

/-- What is done with one session after the other. -/
lemma carries_each {f : List SessionId → Act Unit} {a : SessionId → Act Unit} (hnil : f [] = pure ())
    (hcons : ∀ id rest, f (id :: rest) = (do a id; f rest))
    (ha : ∀ id, Within (Carries c) (Hosts c id) (a id)) (ids : List SessionId) :
    Within (Carries c) (HostsAll c ids) (f ids) := by
  induction ids with
  | nil =>
    rw [hnil]
    exact within_pure _
  | cons id rest ih =>
    rw [hcons]
    refine Within.bind_of (fun w hw => ?_) fun _ => ih
    obtain ⟨hid, hrest⟩ := List.forall_mem_cons.mp hw.lt
    have hcarries := (ha id).after w ⟨hw.orderly, hid⟩
    exact ⟨hcarries, hcarries.treads.orderly hw.orderly, fun other ho => hcarries.length ▸ hrest other ho⟩

lemma carries_openIn (doc : Json) (ids : List SessionId) :
    Within (Carries c) (HostsAll c ids) (openIn doc ids) :=
  carries_each (a := fun id => do
    let item ← Act.check (Document.item doc)
    Session.openDocument id (.object [("textDocument", item)])) rfl (fun _ _ => (bind_assoc ..).symm)
    (fun _ => within_check_bind fun _ _ =>
      (Session.moves_openDocument (Conduct.Welcomes.documents _ rfl)).carries) ids

lemma carries_closeIn (doc : Json) (ids : List SessionId) :
    Within (Carries c) (HostsAll c ids) (closeIn doc ids) :=
  carries_each (a := fun id => do
    let identifier ← Act.check (Document.identifier doc)
    Session.closeDocument id (.object [("textDocument", identifier)])) rfl (fun _ _ => (bind_assoc ..).symm)
    (fun _ => within_check_bind fun _ _ =>
      (Session.moves_closeDocument (Conduct.Welcomes.documents _ rfl)).carries) ids

lemma carries_completeIn (doc line col : Json) (ids : List SessionId) :
    Within (Carries c) (HostsAll c ids) (completeIn doc line col ids) :=
  carries_each rfl (fun _ _ => rfl) (fun _ => carries_completeWith doc line col) ids

lemma carries_goToIn (doc line col : Json) (implementation : Bool) (ids : List SessionId) :
    Within (Carries c) (HostsAll c ids) (goToIn doc line col implementation ids) :=
  carries_each rfl (fun _ _ => rfl) (fun _ => carries_goToWith doc line col implementation) ids

lemma carries_requestCompletion (doc line col : Json) :
    Within (Carries c) (Orderly c) (requestCompletion doc line col) :=
  carries_sessionsFor_bind (carries_completeIn doc line col)

lemma carries_goTo (doc line col : Json) (implementation : Bool) :
    Within (Carries c) (Orderly c) (goTo doc line col implementation) :=
  carries_sessionsFor_bind (carries_goToIn doc line col implementation)

lemma carries_textInput (doc selection : Json) : Within (Carries c) (Orderly c) (textInput doc selection) := by
  refine within_check_bind fun caret _ => ?_
  split
  next => exact carries_requestCompletion _ _ _
  next => exact within_pure _

lemma carries_goToSelected (implementation : Bool) (doc selection : Json) :
    Within (Carries c) (Orderly c) (goToSelected implementation doc selection) := by
  refine within_check_bind fun caret _ => ?_
  split
  next => exact carries_goTo _ _ _ _
  next => exact within_pure _

end

end Features

end LanguageClient
