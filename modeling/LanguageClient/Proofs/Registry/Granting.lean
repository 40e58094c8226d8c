import LanguageClient.Proofs.Registry.Single
import LanguageClient.Proofs.Steps.Passage
import LanguageClient.Proofs.Wire.Farewell
import Mathlib.Data.List.Nodup

/-!
Asking for what is granted. A session is asked by the features for what its server is known to offer, and
for nothing of the kind by anyone else; so nothing else of the kind is written.
-/

namespace LanguageClient

open Act World Capability

/-- Whether a server may leave a method out. -/
def Capability.isOptional (method : Json) : Bool := (providerOf? method).isSome

lemma Capability.grants_of_not_isOptional {capabilities : Option Json} {method : Json}
    (h : isOptional method = false) : Grants capabilities method := fun provider hp => by
  rw [isOptional, hp] at h
  cases h

/-- While nothing is known of a server it grants nothing that it may leave out. -/
lemma Capability.Grants.not_isOptional {method : Json} (h : Grants none method) : isOptional method = false := by
  rw [isOptional, Option.isSome_eq_false_iff, Option.isNone_iff_eq_none]
  cases hp : providerOf? method with
  | none => rfl
  | some provider =>
    obtain ⟨known, value, hknown, -⟩ := h provider hp
    cases hknown

/-- The method of a request. -/
def Json.asked? : Json → Option Json
  | .object m => if Message.kindOf m = .request then Fields.get? m "method" else none
  | _ => none

namespace SessionAction

/-- Whether an operation asks for what a server may leave out. -/
def asksOptional : SessionAction → Bool
  | pushRequest method _ _ _ => isOptional method
  | complete _ _ => true
  | goTo method _ _ => isOptional ("textDocument/" ++ method.display : Text)
  | _ => false

lemma asksOptional_eq {a : SessionAction} {s : Session} {r : OutgoingRequest}
    (h : a.item? s = some (.inr r)) : a.asksOptional = isOptional r.method := by
  cases a <;> simp only [item?, Option.some.injEq, Sum.inr.injEq, reduceCtorEq] at h
  all_goals
    subst h
    rfl

lemma Asks.asksOptional_eq {a : SessionAction} {s : Session} {r : OutgoingRequest} (h : a.Asks s (.inr r)) :
    a.asksOptional = isOptional r.method := by
  cases h with
  | host asked => exact SessionAction.asksOptional_eq asked
  | @feature r handler isFeature asked =>
    have hr := SessionAction.asksOptional_eq asked
    exact hr

end SessionAction

/-- Whoever asks for what a server may leave out is a feature. -/
def Conduct.Spares (c : Conduct) : Prop := ∀ a, c.allows a → a.asksOptional = false

/-- Whatever a client offers, but for requests that servers may leave out. -/
def Conduct.sparingOptional : Conduct where
  host a := !a.isOwn && !a.asksOptional
  callback a := !a.isOwn && !a.asksOptional
  hostIsOutside _ h := by simp_all
  callbackIsOutside _ h := by simp_all

lemma Conduct.spares_sparingOptional : sparingOptional.Spares := fun a h => by
  have ha : (!a.isOwn && !a.asksOptional) = true := h.elim id id
  rw [Bool.and_eq_true, Bool.not_eq_true', Bool.not_eq_true'] at ha
  exact ha.2

instance : Conduct.sparingOptional.Welcomes where
  opens _ := .inl rfl
  documents a ha := .inl (by cases a <;> first | rfl | cases ha)
  settings _ := rfl

/-! What is asked for -/

/-- The method that an event asks for, or has waiting. -/
def Event.asked? : Event → Option Json
  | .sent _ _ message => message.asked?
  | .noted _ (.queued (.inr r)) | .noted _ (.deferred (.inr r)) => some r.method
  | _ => none

def Event.isPlain (e : Event) : Bool := e.asked?.all fun method => !isOptional method

/-- A session has nothing to send, and sent nothing, that its server does not grant; and nothing that may be
left out was queued before it was known to be granted. -/
structure Session.Entitled (id : SessionId) (s : Session) (es : List Event) : Prop where
  items : ∀ r, .inr r ∈ s.items → Grants s.capabilities r.method
  sent : ∀ server message, .sent id server message ∈ es → ∀ method ∈ message.asked?,
    Grants s.capabilities method
  deferred : ∀ r, .noted id (.deferred (.inr r)) ∈ es → isOptional r.method = false
  announced : s.capabilities.isSome → ∃ items, .noted id (.announced items) ∈ es
  queued : ∀ r before, .noted id (.queued (.inr r)) :: before <:+ es → isOptional r.method →
    ∃ items, .noted id (.announced items) ∈ before

variable {c : Conduct} {id : SessionId} {p q : Position} {s t : Session} {es es' : List Event}

lemma Session.Entitled.blank (config : Fields) (name : Json) : (blank config name).Entitled id [] where
  items r hr := by simp [Session.mem_items, Session.blank] at hr
  sent _ _ h := by cases h
  deferred _ h := by cases h
  announced h := by cases h
  queued _ _ h := by simp at h

namespace Session.Entitled

/-- What is as before, but for items and events that ask for nothing that may be left out. -/
lemma adds (h : s.Entitled id es)
    (hitems : ∀ r, .inr r ∈ t.items → .inr r ∈ s.items ∨ isOptional r.method = false)
    (hcap : t.capabilities = s.capabilities) (hes : Adds Event.isPlain es es') : t.Entitled id es' where
  items r hr := by
    rw [hcap]
    exact (hitems r hr).elim (h.items r) grants_of_not_isOptional
  sent server message hm method hmethod := by
    rw [hcap]
    cases ho : isOptional method with
    | false => exact grants_of_not_isOptional ho
    | true =>
      refine h.sent server message (hes.mem_of hm ?_) method hmethod
      rw [Event.isPlain, Event.asked?, Option.mem_def.mp hmethod]
      simp [ho]
  deferred r hr := by
    cases ho : isOptional r.method with
    | false => rfl
    | true => rw [← ho, h.deferred r (hes.mem_of hr (by simp [Event.isPlain, Event.asked?, ho]))]
  announced hs := by
    obtain ⟨items, hi⟩ := h.announced (hcap ▸ hs)
    exact ⟨items, hes.suffix.subset hi⟩
  queued r before hb ho := h.queued r before (hes.suffix_of_cons hb (by simp [Event.isPlain, Event.asked?, ho])) ho

lemma writes {message : Json} {result : Except Fault Unit} (h : s.Entitled id es)
    (hm : ∀ method ∈ message.asked?, Grants s.capabilities method)
    (writes : Writes id t message es result es') : s.Entitled id es' := by
  cases writes with
  | sent linked accepts encodes =>
    refine { h with
      sent := fun server other ho => ?_
      deferred := fun r hr => h.deferred r (by simpa using hr)
      announced := fun hs => (h.announced hs).imp fun _ hi => List.mem_cons_of_mem _ hi
      queued := fun r before hb => h.queued r before ((List.suffix_cons_iff.mp hb).resolve_left nofun) }
    rcases List.mem_cons.mp ho with he | ho
    · obtain ⟨-, -, rfl⟩ := Event.sent.inj he
      exact hm
    · exact h.sent server other ho
  | refused | unlinked =>
    exact h.adds (fun _ => .inl) rfl (.single rfl)
  | unencodable => exact h

/-- Nothing was asked for that a server grants from now on. -/
lemma announce (h : s.Entitled id es) (hnone : s.capabilities = none)
    (hitems : ∀ r, .inr r ∈ t.items → .inr r ∈ s.items ∨ isOptional r.method = false)
    (hannounced : ∃ items, .noted id (.announced items) ∈ es) : t.Entitled id es where
  items r hr := by
    refine grants_of_not_isOptional ((hitems r hr).elim (fun hr => ?_) fun ho => ho)
    exact Grants.not_isOptional (hnone ▸ h.items r hr)
  sent server message hm method hmethod :=
    grants_of_not_isOptional (Grants.not_isOptional (hnone ▸ h.sent server message hm method hmethod))
  deferred := h.deferred
  announced _ := hannounced
  queued := h.queued

end Session.Entitled

namespace Granting

lemma asked?_reply {m : Fields} {reply : Json} (h : Message.IsReply m reply) : reply.asked? = none := by
  cases h <;> rfl

lemma not_isOptional_initialize : isOptional "initialize" = false := by decide

lemma grants_shutdown {capabilities : Option Json} :
    ∀ method ∈ s.shutdownRequest.asked?, Grants capabilities method := fun method hm => by
  obtain rfl := Option.some.inj (Option.mem_def.mp hm)
  exact grants_of_not_isOptional (by decide)

/-- What came to wait in a step is not what a server may leave out. -/
lemma mem_items_or (h : Step c id p q) (hc : c.Spares) (r : OutgoingRequest) (hr : .inr r ∈ q.session.items) :
    .inr r ∈ p.session.items ∨ isOptional r.method = false := by
  rcases Farewell.Step.mem_items h hr with hr | ⟨a, ha, hasks⟩ | he | ⟨params, callback, he⟩
  · exact .inl hr
  · exact .inr (hasks.asksOptional_eq ▸ hc a ha)
  · cases he
  · obtain rfl := Sum.inr.inj he
    exact .inr not_isOptional_initialize

lemma isPlain_of_asks {a : SessionAction} {item : Deferred} {note : Deferred → Note}
    (hn : note = .queued ∨ note = .deferred) (ha : a.asksOptional = false) (h : a.Asks s item) :
    (Event.noted id (note item)).isPlain := by
  cases item with
  | inl n => rcases hn with rfl | rfl <;> rfl
  | inr r => rcases hn with rfl | rfl <;> simp [Event.isPlain, Event.asked?, ← h.asksOptional_eq, ha]

lemma Step.entitled (h : Step c id p q) (hc : c.Spares) (hi : p.session.Informed)
    (hp : p.session.Entitled id p.events) : q.session.Entitled id q.events := by
  have hitems := mem_items_or h hc
  cases h
  case requested s es K r rest p now result es' queue free first entry writes =>
    have hr : .inr r ∈ s.items := Session.mem_items.mpr (.inr (.inl ⟨r, queue ▸ List.mem_cons_self, rfl⟩))
    have hwritten : s.Entitled id es' := by
      refine (hp.adds (fun _ => .inl) rfl (.single rfl)).writes (fun method hm => ?_) writes
      obtain rfl := Option.some.inj (Option.mem_def.mp hm)
      exact hp.items r hr
    exact hwritten.adds hitems rfl (.refl _)
  case notified writes => exact (hp.writes (fun _ hm => by cases hm) writes).adds hitems rfl (.refl _)
  case replied isReply writes =>
    exact (hp.writes (fun _ hm => by rw [asked?_reply isReply] at hm; cases hm) writes).adds hitems rfl (.refl _)
  case saidGoodbye s es K es₁ es₂ result status told left =>
    have htold : s.Entitled id es₁ := hp.writes grants_shutdown told
    exact (htold.writes (fun _ hm => by cases hm) left).adds hitems rfl (.single rfl)
  case unheardGoodbye s es K f es₁ status closed told =>
    have htold : s.Entitled id es₁ := hp.writes grants_shutdown told
    exact htold.adds hitems rfl (.single rfl)
  case welcomed s es K ticket callback capabilities serverInfo m error status result =>
    have hnone : s.capabilities = none := by
      rw [← Option.not_isSome_iff_eq_none]
      intro hs
      simpa [status, Status.isLeaving] using hi hs
    exact (hp.adds (fun _ => .inl) rfl (.single rfl)).announce hnone hitems ⟨_, List.mem_cons_self⟩
  case deferred a item documents allowed obeys asked tracks status lifecycle =>
    refine hp.adds hitems (by cases item <;> rfl) (Adds.acceptance (.single ?_) (fun _ _ => rfl) item)
    exact isPlain_of_asks (.inr rfl) (hc a allowed) asked
  case queued a item documents allowed obeys asked tracks status =>
    refine hp.adds hitems (by cases item <;> rfl) (Adds.acceptance (.single ?_) (fun _ _ => rfl) item)
    exact isPlain_of_asks (.inl rfl) (hc a allowed) asked
  case introduced =>
    refine hp.adds hitems rfl ((Adds.single ?_).cons rfl)
    simp [Event.isPlain, Event.asked?, Session.openingRequest, not_isOptional_initialize]
  case took s es t K m reader next running =>
    refine hp.adds hitems ?_ (.single rfl)
    obtain ⟨responses, errors, he⟩ := Session.exists_enqueue_eq { s with reader } m
    rw [he]
  case buried s es K last timeout status settled =>
    refine hp.adds hitems rfl ?_
    dsimp only
    unfold Session.burial
    split
    · exact (Adds.single rfl).cons rfl
    · exact .single rfl
  all_goals exact hp.adds hitems rfl (by first | exact .refl _ | exact .single rfl)

lemma Stride.entitled (h : Stride c id p q) (hc : c.Spares) (hi : p.session.Informed)
    (hp : p.session.Entitled id p.events) : q.session.Entitled id q.events := by
  cases h with
  | step step => exact Granting.Step.entitled step hc hi hp
  | @born config name es K ls obey =>
    refine hp.adds (fun r hr => ?_) rfl (.refl _)
    simp [Session.mem_items, Session.blank] at hr
  | @offered s es K r handler status granted feature isFeature =>
    have hannounced : isOptional r.method → ∃ items, .noted id (.announced items) ∈ es := fun ho => by
      refine hp.announced ?_
      obtain ⟨provider, hprovider⟩ := Option.isSome_iff_exists.mp ho
      obtain ⟨known, value, hknown, -⟩ := granted provider hprovider
      exact hknown ▸ rfl
    refine {
      items := fun k hk => ?_
      sent := fun server message hm => hp.sent server message (by simpa using hm)
      deferred := fun k hk => hp.deferred k (by simpa using hk)
      announced := fun hs => (hp.announced hs).imp fun _ hi => ?_
      queued := fun k before hb ho => ?_ }
    · rcases Farewell.mem_items_queue hk with hk | he
      · exact hp.items k hk
      · exact Sum.inr.inj he ▸ granted
    · exact List.mem_cons_of_mem _ (List.mem_cons_of_mem _ hi)
    · rcases List.suffix_cons_iff.mp ((List.suffix_cons_iff.mp hb).resolve_left nofun) with he | hb
      · cases he
        exact hannounced ho
      · exact hp.queued k before hb ho
  | withdrew => exact hp

lemma Strides.entitled (h : Strides c id p q) (hc : c.Spares) (hi : p.session.Informed)
    (hp : p.session.Entitled id p.events) : q.session.Entitled id q.events := by
  induction h with
  | refl => exact hp
  | tail hs h ih => exact Stride.entitled h hc (Strides.informed hs hi) ih

end Granting

/-! What the features ask for -/

/-- At most one request came to wait, behind all that waited before. -/
structure Session.Gains (P : OutgoingRequest → Prop) (s t : Session) : Prop where
  requests : ∃ new : Option OutgoingRequest, t.requests = s.requests ++ new.toList ∧ ∀ r ∈ new, P r
  deferred : t.deferred.filterMap Sum.getRight? = s.deferred.filterMap Sum.getRight?
  status : t.status = s.status
  capabilities : t.capabilities = s.capabilities

/-- Some sessions were each asked for one thing at most, and the others were left alone. -/
structure World.Asks (ids : List SessionId) (P : SessionId → OutgoingRequest → Prop) (v w : World) : Prop where
  length : w.sessions.length = v.sessions.length
  asked : ∀ id ∈ ids, (v.session id).Gains (P id) (w.session id)
  others : ∀ id, id ∉ ids → w.session id = v.session id

namespace Session.Gains

variable {P Q : OutgoingRequest → Prop} {u : Session}

lemma refl (s : Session) : s.Gains P s := ⟨⟨none, (List.append_nil _).symm, nofun⟩, rfl, rfl, rfl⟩

lemma mono (h : s.Gains P t) (hpq : ∀ r, P r → Q r) : s.Gains Q t :=
  { h with requests := h.requests.imp fun _ hn => ⟨hn.1, fun r hr => hpq r (hn.2 r hr)⟩ }

/-- What gained nothing may gain something after that. -/
lemma trans (h : s.Gains (fun _ => False) t) (g : t.Gains P u) : s.Gains P u where
  requests := by
    obtain ⟨none | r, hnew, hnone⟩ := h.requests
    · rw [Option.toList_none, List.append_nil] at hnew
      exact hnew ▸ g.requests
    · exact (hnone r rfl).elim
  deferred := g.deferred.trans h.deferred
  status := g.status.trans h.status
  capabilities := g.capabilities.trans h.capabilities

lemma queue (r : OutgoingRequest) (hr : P r) : s.Gains P ((s.queue (.inr r)).count (.inr r)) :=
  ⟨⟨some r, rfl, fun _ hk => Option.some.inj hk ▸ hr⟩, rfl, rfl, rfl⟩

end Session.Gains

namespace World.Asks

variable {ids : List SessionId} {P Q : SessionId → OutgoingRequest → Prop} {u v w : World}

lemma mono (h : Asks ids P v w) (hpq : ∀ id ∈ ids, ∀ r, P id r → Q id r) : Asks ids Q v w :=
  { h with asked := fun id hid => (h.asked id hid).mono (hpq id hid) }

lemma of_session_eq (hlength : w.sessions.length = v.sessions.length)
    (hsame : ∀ id, w.session id = v.session id) : Asks ids P v w :=
  ⟨hlength, fun id _ => hsame id ▸ .refl _, fun id _ => hsame id⟩

lemma refl (w : World) : Asks ids P w w := of_session_eq rfl fun _ => rfl

lemma of_alike (h : Alike v w) : Asks ids P v w :=
  of_session_eq (congrArg List.length h.sessions) fun id => by rw [session, session, h.sessions]

lemma of_becomes (h : Becomes id s es v w) (hs : (v.session id).Gains (P id) s) : Asks [id] P v w where
  length := h.length
  asked other ho := by
    obtain rfl := List.mem_singleton.mp ho
    rw [h.session]
    exact hs
  others other ho := (h.others other (fun he => ho (he ▸ List.mem_cons_self))).1

lemma trans (h : Asks ids (fun _ _ => False) u v) (g : Asks ids P v w) : Asks ids P u w where
  length := g.length.trans h.length
  asked id hid := (h.asked id hid).trans (g.asked id hid)
  others id hid := (g.others id hid).trans (h.others id hid)

lemma cons {rest : List SessionId} (h : Asks [id] P u v) (g : Asks rest P v w) (hid : id ∉ rest) :
    Asks (id :: rest) P u w where
  length := g.length.trans h.length
  asked other ho := by
    rcases List.mem_cons.mp ho with rfl | ho
    · rw [g.others other hid]
      exact h.asked other List.mem_cons_self
    · rw [← h.others other (fun he => hid (List.mem_singleton.mp he ▸ ho))]
      exact g.asked other ho
  others other ho := by
    rw [List.mem_cons, not_or] at ho
    exact (g.others other ho.2).trans (h.others other (by simpa using ho.1))

end World.Asks

lemma Act.IsRemark.ends {a : Act Unit} (h : IsRemark a) {w : World} {Q : Except Fault Unit → World → Prop}
    (hq : ∀ v, Alike w v → Q (.ok ()) v) : Ends a w Q := by
  obtain ⟨v, hr, hv⟩ := h.run w
  rw [Ends, hr]
  exact hq v hv

namespace Session

/-- A session of whose server something is known is open, or takes nothing more. -/
lemma asks_pushRequest {method params timeout : Json} {handler : Option Handler} {w : World}
    (hid : id < w.sessions.length) (hi : (w.session id).Informed) (hknown : (w.session id).capabilities.isSome) :
    Ends (pushRequest id method params handler timeout) w fun _ v =>
      Asks [id] (fun _ r => (w.session id).status = .initialized ∧ r.method = method) w v := by
  refine ends_getSession_bind ((ends_put_given (.inr _) hid).mono fun result v hv => ?_)
  cases hv with
  | dropped leaving alike => exact .of_alike alike
  | failed => exact .refl w
  | deferred status =>
    rcases hi hknown with ho | ho <;> rcases status with hs | hs <;> simp [hs, Status.isLeaving] at ho
  | queued status becomes =>
    refine .of_becomes becomes (.queue _ ⟨?_, rfl⟩)
    rcases status with hs | ⟨hlive, -⟩
    · exact hs
    · exact (hi hknown).resolve_right (by simp [hlive])

lemma asks_changeDocument (params : Json) {w : World} (hid : id < w.sessions.length) :
    Ends (changeDocument id params) w fun _ v => Asks [id] (fun _ _ => False) w v := by
  refine ends_check_bind (fun key _ => ends_getSession_bind ?_) fun f _ => .refl w
  split
  next =>
    have hput := @ends_put_given id (.inl ⟨"textDocument/didChange", params⟩) w hid
    refine Ends.bind (hput.mono fun result v hv => ?_)
    have hasks : Asks [id] (fun _ _ => False) w v := by
      cases hv with
      | dropped leaving alike => exact .of_alike alike
      | failed => exact .refl w
      | deferred status lifecycle becomes =>
        refine .of_becomes becomes ⟨⟨none, (List.append_nil _).symm, nofun⟩, ?_, rfl, rfl⟩
        simp [count]
      | queued status becomes =>
        exact .of_becomes becomes ⟨⟨none, (List.append_nil _).symm, nofun⟩, rfl, rfl, rfl⟩
    cases result with
    | ok _ => exact next_ok (ends_pure hasks)
    | error f => exact hasks
  next => exact ends_pure (.refl w)

end Session

namespace Features

/-- The first of some methods that a server enables. -/
def IsFirstEnabled (known : Json) (methods : List (Text × Text)) (method : Text) : Prop :=
  ∃ before provider rest value, methods = before ++ (method, provider) :: rest ∧
    known.field provider = .ok value ∧ enabled value ∧
      ∀ entry ∈ before, ∃ other, known.field entry.2 = .ok other ∧ enabled other = false

/-- A request for completion in an open session, whose server enables it. -/
structure Completes (s : Session) (r : OutgoingRequest) : Prop where
  status : s.status = .initialized
  method : r.method = "textDocument/completion"
  granted : Grants s.capabilities r.method

/-- A request for the place of a symbol in an open session, with the first method that its server enables. -/
structure GoesTo (implementation : Bool) (s : Session) (r : OutgoingRequest) : Prop where
  status : s.status = .initialized
  method : ∃ known method, s.capabilities = some known ∧ r.method = ("textDocument/" ++ method : Text) ∧
    IsFirstEnabled known (if implementation then implementationMethods else definitionMethods) method

/-- Each session is asked as it was at first. -/
lemma asks_each {f : List SessionId → Act Unit} {a : SessionId → Act Unit} (hnil : f [] = pure ())
    (hcons : ∀ id rest, f (id :: rest) = (do a id; f rest)) {P : SessionId → OutgoingRequest → Prop}
    {w : World} {ids : List SessionId} (hids : ids.Nodup)
    (ha : ∀ id ∈ ids, ∀ v, v.sessions.length = w.sessions.length → v.session id = w.session id →
      Ends (a id) v fun _ x => Asks [id] P v x) :
    ∀ v, v.sessions.length = w.sessions.length → (∀ id ∈ ids, v.session id = w.session id) →
      Ends (f ids) v fun _ x => Asks ids P v x := by
  induction ids with
  | nil =>
    intro v _ _
    rw [hnil]
    exact ends_pure (.refl v)
  | cons id rest ih =>
    intro v hlength hsame
    obtain ⟨hid, hrest⟩ := List.nodup_cons.mp hids
    rw [hcons]
    refine Ends.bind ((ha id List.mem_cons_self v hlength (hsame id List.mem_cons_self)).mono fun result x hx => ?_)
    cases result with
    | error f => exact hx.cons (.refl x) hid
    | ok _ =>
      refine (ih hrest (fun other ho => ha other (List.mem_cons_of_mem _ ho)) x (hx.length.trans hlength)
        fun other ho => ?_).mono fun _ y hy => hx.cons hy hid
      rw [hx.others other fun he => hid (List.mem_singleton.mp he ▸ ho), hsame other (List.mem_cons_of_mem _ ho)]

lemma asks_completeWith (doc line col : Json) {w : World} (hid : id < w.sessions.length)
    (hi : (w.session id).Informed) :
    Ends (completeWith doc line col id) w fun _ v => Asks [id] (fun id r => Completes (w.session id) r) w v := by
  refine ends_check_bind (fun params _ => ?_) fun f _ => .refl w
  refine Ends.bind ((Session.asks_changeDocument params hid).mono fun result u hu => ?_)
  have hnothing : ∀ v, Alike u v → Asks [id] (fun id r => Completes (w.session id) r) w v := fun v hv =>
    hu.trans (.of_alike hv)
  cases result with
  | error f => exact hnothing u (.refl u)
  | ok _ =>
    have hgains := hu.asked id List.mem_cons_self
    refine next_ok (ends_getSession_bind ?_)
    refine ends_check_bind (fun supported hs => ?_) fun f _ => hnothing u (.refl u)
    split
    next => exact ends_pure (hnothing u (.refl u))
    next =>
      refine ends_check_bind (fun position _ => ?_) fun f _ => hnothing u (.refl u)
      cases hk : (u.session id).capabilities with
      | none => rw [hk] at hs; cases hs
      | some known =>
        rw [hk] at hs
        have hprovider : providerOf? "textDocument/completion" = some "completionProvider" := by decide
        have hgranted := grants_of_supports hprovider hs
        have hinformed : (u.session id).Informed := by
          rw [Session.Informed, hgains.status, hgains.capabilities]
          exact hi
        refine Ends.bind ((Session.asks_pushRequest (hu.length ▸ hid) hinformed (hk ▸ rfl)).mono fun result v hv => ?_)
        have hasks : Asks [id] (fun id r => Completes (w.session id) r) w v := by
          refine hu.trans (hv.mono fun other ho r hr => ?_)
          obtain rfl := List.mem_singleton.mp ho
          refine ⟨hgains.status ▸ hr.1, hr.2, ?_⟩
          rw [← hgains.capabilities, hk, hr.2]
          exact hgranted
        cases result with
        | ok _ => exact next_ok (ends_pure hasks)
        | error f => exact hasks
    next => exact (isRemark_sayQuietly _).ends hnothing

lemma asks_goToWith (doc line col : Json) (implementation : Bool) {w : World} (hid : id < w.sessions.length)
    (hi : (w.session id).Informed) :
    Ends (goToWith doc line col implementation id) w fun _ v =>
      Asks [id] (fun id r => GoesTo implementation (w.session id) r) w v := by
  refine ends_getSession_bind ?_
  split
  next => exact ends_pure (.refl w)
  next known hk =>
    refine ends_check_bind (fun chosen hchosen => ?_) fun f _ => .refl w
    split
    next => exact (isRemark_say _).ends fun _ => .of_alike
    next method =>
      refine ends_check_bind (fun position _ => ?_) fun f _ => .refl w
      refine Ends.bind ((Session.asks_pushRequest hid hi (hk ▸ rfl)).mono fun result v hv => ?_)
      have hasks : Asks [id] (fun id r => GoesTo implementation (w.session id) r) w v := by
        refine hv.mono fun other ho r hr => ?_
        obtain rfl := List.mem_singleton.mp ho
        exact ⟨hr.1, known, method, hk, hr.2, exists_append_of_firstEnabled hchosen⟩
      cases result with
      | ok _ => exact next_ok (ends_pure hasks)
      | error f => exact hasks

/-- Sessions that run under different names are different. -/
lemma nodup_running {w : World} (hw : w.IsTidy) : (w.running.map (·.2)).Nodup := by
  refine List.Nodup.of_map (fun id => (w.session id).name.key?) ?_
  have hnames := hw.names
  rw [List.map_map]
  rwa [List.map_congr_left fun entry he => show entry.1.key? = (w.session entry.2).name.key? from
    (hw.sessions entry he).2.name] at hnames

/-- What is done with the sessions for a document asks those for one thing at most. -/
lemma asks_sessionsFor_bind {c : Conduct} (doc : Json) {f : List SessionId → Act Unit} {a : SessionId → Act Unit}
    (hnil : f [] = pure ()) (hcons : ∀ id rest, f (id :: rest) = (do a id; f rest))
    {P : Session → OutgoingRequest → Prop} {w : World} (hw : w.IsSettled c)
    (ha : ∀ id v, id < v.sessions.length → (v.session id).Informed →
      Ends (a id) v fun _ x => Asks [id] (fun id r => P (v.session id) r) v x) :
    Ends (sessionsFor doc >>= f) w fun _ v => ∃ ids,
      (∀ id ∈ ids, ∃ name, Document.fileName doc = .ok name ∧ Registry.IsFor w name id) ∧
        Asks ids (fun id r => P (w.session id) r) w v := by
  refine Ends.bind ((ends_sessionsFor doc w).mono ?_)
  rintro result v ⟨rfl, hids, -⟩
  cases result with
  | error f => exact ⟨[], by simp, .refl v⟩
  | ok ids =>
    obtain ⟨name, entries, hname, hactive, rfl⟩ := hids ids rfl
    have hsub := (Registry.sublist_of_activeAmong hactive).map Prod.snd
    refine next_ok ((asks_each hnil hcons ((nodup_running hw.tidy).sublist hsub) (fun id hid u hlength hsame => ?_)
      v rfl fun _ _ => rfl).mono fun _ x hx => ⟨_, fun id hid => ?_, hx⟩)
    · obtain ⟨entry, he, rfl⟩ := List.mem_map.mp hid
      have hlt := hw.orderly.lawful.running entry ((Registry.sublist_of_activeAmong hactive).subset he)
      refine (ha entry.2 u (hlength ▸ hlt) (hsame ▸ hw.orderly.informed _)).mono fun _ x hx => ?_
      refine hx.mono fun other ho r hr => ?_
      obtain rfl := List.mem_singleton.mp ho
      exact hsame ▸ hr
    · obtain ⟨entry, he, rfl⟩ := List.mem_map.mp hid
      exact ⟨name, hname, Registry.isFor_of_activeAmong hactive he⟩

end Features

/-! Runs -/

section

variable [c.Welcomes] {w : World}

lemma treads_of_mem_outcomes (hw : w.Orderly c) {actions : List Action} (ha : actions.all c.permits)
    {o : Outcome} (ho : o ∈ outcomes w actions) : w.Treads c o.world := by
  induction actions generalizing w with
  | nil => cases ho
  | cons a rest ih =>
    rw [List.all_cons, Bool.and_eq_true] at ha
    cases rest with
    | nil =>
      obtain rfl := List.mem_singleton.mp ho
      exact (treads_actLast ha.1).after w hw
    | cons b rest =>
      have htreads := (treads_act ha.1).after w hw
      rcases List.mem_cons.mp ho with rfl | ho
      · exact htreads
      · exact Course.trans htreads (ih (htreads.orderly hw) ha.2 ho)

lemma entitled_of_mem_outcomes (hc : c.Spares) (hw : w.IsVacant) {actions : List Action}
    (ha : actions.all c.permits) {o : Outcome} (ho : o ∈ outcomes w actions) (id : SessionId) :
    (o.world.session id).Entitled id (o.world.story id) := by
  have hsettled : w.IsSettled c := hw.isSettled
  have hstrides := (treads_of_mem_outcomes hsettled.orderly ha ho).strides id
  refine Granting.Strides.entitled hstrides hc (hsettled.orderly.informed id) ?_
  rw [position, hw.session_eq, story, hw.events]
  exact .blank [] .null

end

/-- In a world that a host comes to: what a server may leave out was written only if the server grants it,
and was queued only once the session was open. A feature asks the sessions for a document alone, and each of
them for one thing at most, if it is open: for a symbol by the first method that its server enables. -/
structure World.IsGated (w : World) : Prop where
  written : ∀ id server message, .sent id server message ∈ w.events → ∀ method ∈ message.asked?,
    Grants (w.session id).capabilities method
  queued : ∀ id r before, .noted id (.queued (.inr r)) :: before <:+ w.events → isOptional r.method →
    ∃ items, .noted id (.announced items) ∈ before
  deferred : ∀ id r, .noted id (.deferred (.inr r)) ∈ w.events → isOptional r.method = false
  completes : ∀ doc line col, Ends (Features.requestCompletion doc line col) w fun _ v => ∃ ids,
    (∀ id ∈ ids, ∃ name, Document.fileName doc = .ok name ∧ Registry.IsFor w name id) ∧
      Asks ids (fun id r => Features.Completes (w.session id) r) w v
  goes : ∀ doc line col implementation, Ends (Features.goTo doc line col implementation) w fun _ v => ∃ ids,
    (∀ id ∈ ids, ∃ name, Document.fileName doc = .ok name ∧ Registry.IsFor w name id) ∧
      Asks ids (fun id r => Features.GoesTo implementation (w.session id) r) w v

/-- Whatever a host does with its registry, the features and its sessions, as long as it leaves it to the
features to ask for what servers may leave out: servers are asked for what they grant alone. -/
theorem isGated_of_mem_outcomes {w : World} (hw : w.IsVacant) {actions : List Action}
    (ha : actions.all Conduct.sparingOptional.permits) {o : Outcome} (ho : o ∈ outcomes w actions) :
    o.world.IsGated := by
  have hentitled := entitled_of_mem_outcomes Conduct.spares_sparingOptional hw ha ho
  have hsettled := (keeps_of_mem_outcomes hw.isSettled ha ho).2
  exact {
    written := fun id server message hm => (hentitled id).sent server message (List.mem_filter.mpr ⟨hm, by simp [Event.concerns]⟩)
    queued := fun id r before hb ho => by
      have hstory : (Event.noted id (.queued (.inr r)) :: before).filter (·.concerns id) <:+ o.world.story id :=
        hb.filter _
      rw [List.filter_cons_of_pos (by simp [Event.concerns])] at hstory
      obtain ⟨items, hi⟩ := (hentitled id).queued r _ hstory ho
      exact ⟨items, (List.mem_filter.mp hi).1⟩
    deferred := fun id r hr => (hentitled id).deferred r (List.mem_filter.mpr ⟨hr, by simp [Event.concerns]⟩)
    completes := fun doc line col => Features.asks_sessionsFor_bind doc rfl (fun _ _ => rfl) hsettled
      fun _ _ => Features.asks_completeWith doc line col
    goes := fun doc line col implementation => Features.asks_sessionsFor_bind doc rfl (fun _ _ => rfl) hsettled
      fun _ _ => Features.asks_goToWith doc line col implementation }

/-- The session a request was written for, and its method. -/
def Event.requested? : Event → Option (SessionId × Text)
  | .sent id _ message => message.asked?.map fun method => (id, method.display)
  | _ => none

/-- Of two open sessions for a file one is asked for completion and for a declaration, which it has in place
of definitions, and the other one for nothing. -/
theorem isGated_of_mem_outcomes_declaration :
    let config (name : Json) : Json :=
      .object [("name", name), ("command", "run"), ("file_patterns", .list ["\\.py$"])]
    let doc : Json := .object [("filename", "/a.py"), ("text", "x"), ("version", .int 1)]
    let opened (capabilities : Fields) : Json :=
      Message.response (.int 1) (.object [("capabilities", .object capabilities)])
    let actions : List Action :=
      [.registry (.addServer (config "one")), .registry (.addServer (config "two")),
        .feature (.openDocument doc), .registry .process,
        .link "one" (.write [opened [("completionProvider", .object []), ("definitionProvider", .bool false),
          ("declarationProvider", .bool true), ("typeDefinitionProvider", .bool true)]]),
        .link "two" (.write [opened [("completionProvider", .null)]]),
        .registry .process, .feature (.requestCompletion doc (.int 1) (.int 2)),
        .feature (.goTo doc (.int 1) (.int 2) (.bool false)), .registry .process]
    ({} : World).IsVacant ∧ actions.all Conduct.sparingOptional.permits ∧
      ∃ o ∈ outcomes {} actions, o.world.IsGated ∧
        (o.world.sessions.map (·.status)) = [.initialized, .initialized] ∧
        o.world.events.reverse.filterMap Event.requested? = [(0, ("initialize" : Text)),
          (1, ("initialize" : Text)), (0, ("textDocument/completion" : Text)),
          (0, ("textDocument/declaration" : Text))] := by
  intro config doc opened actions
  have ha : actions.all Conduct.sparingOptional.permits := by decide +kernel
  have hrun : ∃ o ∈ outcomes {} actions, (o.world.sessions.map (·.status)) = [.initialized, .initialized] ∧
      o.world.events.reverse.filterMap Event.requested? = [(0, ("initialize" : Text)),
        (1, ("initialize" : Text)), (0, ("textDocument/completion" : Text)),
        (0, ("textDocument/declaration" : Text))] := by
    decide +kernel
  obtain ⟨o, ho, hopen, hsent⟩ := hrun
  exact ⟨World.isVacant_default, ha, o, ho, isGated_of_mem_outcomes World.isVacant_default ha ho, hopen, hsent⟩

end LanguageClient
