import LanguageClient.Proofs.Steps.Sound

/-!
Calls on the wire: what a message is to the order of messages, and which call may follow which.
-/

namespace LanguageClient

/-- What a message is to the order of messages. -/
inductive Call.Kind where
  | reply
  | opening
  | opened
  | other
  | shutdown
  | exit
deriving DecidableEq

namespace Call.Kind

def ofMethod : Json → Kind
  | .text t =>
    if t = "initialize" then opening
    else if t = "initialized" then opened
    else if t = "shutdown" then shutdown
    else if t = "exit" then exit
    else other
  | _ => other

/-- What is sent whatever the status belongs to the life of a session. -/
lemma ofMethod_ne_other {method : Json} (h : Session.isLifecycle method = .ok true) :
    ofMethod method ≠ other := by
  cases method with
  | text t =>
    have hmem : t ∈ Session.lifecycleMethods := List.contains_iff_mem.mp (Except.ok.inj h)
    simp only [Session.lifecycleMethods, List.mem_cons, List.not_mem_nil, or_false] at hmem
    rcases hmem with rfl | rfl | rfl <;> decide
  | null | list | object => cases h
  | bool | int | float => cases h

end Call.Kind

def Json.callKind : Json → Call.Kind
  | .object fields =>
    match Fields.get? fields "method" with
    | some method => .ofMethod method
    | none => .reply
  | _ => .reply

lemma callKind_request (n method params : Json) :
    (Message.request n method params).callKind = .ofMethod method := rfl

lemma callKind_notification (method params : Json) :
    (Message.notification method params).callKind = .ofMethod method := rfl

lemma Message.IsReply.callKind {m : Fields} {reply : Json} (h : IsReply m reply) :
    reply.callKind = .reply := by
  cases h <;> rfl

def Event.callKind? (id : SessionId) : Event → Option Call.Kind
  | .sent session _ message => if session = id then some message.callKind else none
  | _ => none

/-- What was written to the server of a session, the last message first. -/
def calls (id : SessionId) (es : List Event) : List Call.Kind := es.filterMap (Event.callKind? id)

/-- The request that opens a session was answered, and not with an error of the client's own. -/
def IsWelcomed (id : SessionId) (es : List Event) : Prop :=
  ∃ ticket callback, ∃ m : Fields, .dealt id (.accepted ticket (some (.opening callback))) ∈ es ∧
    .dealt id (.read m) ∈ es ∧ .dealt id (.resolved ticket (.object m)) ∈ es

/-- What has to be so before a message is written. -/
def MayFollow (id : SessionId) (earlier : List Event) : Call.Kind → Prop
  | .reply => .shutdown ∉ calls id earlier
  | .opening => ∀ k ∈ calls id earlier, k = .reply
  | .opened => .opening ∈ calls id earlier ∧ .opened ∉ calls id earlier ∧
      .shutdown ∉ calls id earlier ∧ IsWelcomed id earlier
  | .other => .opening ∈ calls id earlier ∧ .opened ∈ calls id earlier ∧
      .shutdown ∉ calls id earlier
  | .shutdown => .opening ∈ calls id earlier ∧ .shutdown ∉ calls id earlier
  | .exit => (calls id earlier).head? = some .shutdown

/-- Every message was written when `P` let it. -/
def EachCall (id : SessionId) (P : List Event → Call.Kind → Prop) (es : List Event) : Prop :=
  ∀ server message earlier, .sent id server message :: earlier <:+ es → P earlier message.callKind

/-- Every message was written when it might be. -/
def IsOrdered (id : SessionId) (es : List Event) : Prop :=
  ∀ server message earlier, .sent id server message :: earlier <:+ es →
    MayFollow id earlier message.callKind

/-- A link that refused a message takes no other. -/
def StaysRefusing (id : SessionId) (es : List Event) : Prop :=
  ∀ server message earlier, .sent id server message :: earlier <:+ es →
    ∀ refused, .noted id (.refused refused) ∉ earlier

lemma StaysRefusing.of_suffix {id : SessionId} {es es' : List Event} (h : StaysRefusing id es')
    (hs : es <:+ es') : StaysRefusing id es :=
  fun server message earlier he => h server message earlier (he.trans hs)

def Event.isRefusal : Event → Bool
  | .noted _ (.refused _) => true
  | _ => false

lemma not_refused_of_all {id : SessionId} {es : List Event} (h : es.all (!·.isRefusal))
    (refused : Json) : .noted id (.refused refused) ∉ es := fun hm => by
  cases List.all_eq_true.mp h _ hm

lemma staysRefusing_of_all {id : SessionId} {es : List Event} (h : es.all (!·.isRefusal)) :
    StaysRefusing id es := fun _ _ _ hs refused hm =>
  not_refused_of_all h refused (hs.subset (List.mem_cons_of_mem _ hm))

/-! Events in which nothing is written -/

def Event.isQuiet : Event → Bool
  | .sent _ _ _ => false
  | _ => true

/-- Nothing was written since. -/
def Quietly (es es' : List Event) : Prop :=
  ∃ new : List Event, es' = new ++ es ∧ ∀ e ∈ new, e.isQuiet

section

variable {id : SessionId} {es es' es'' : List Event}

lemma IsWelcomed.mono (h : IsWelcomed id es) (hs : es <:+ es') : IsWelcomed id es' := by
  obtain ⟨ticket, callback, m, ha, hm, hr⟩ := h
  exact ⟨ticket, callback, m, hs.subset ha, hs.subset hm, hs.subset hr⟩

lemma Quietly.refl (es : List Event) : Quietly es es := ⟨[], rfl, by simp⟩

lemma Quietly.cons {e : Event} (h : Quietly es es') (he : e.isQuiet) : Quietly es (e :: es') := by
  obtain ⟨new, rfl, hnew⟩ := h
  exact ⟨e :: new, rfl, List.forall_mem_cons.mpr ⟨he, hnew⟩⟩

lemma Quietly.single {e : Event} (he : e.isQuiet) : Quietly es (e :: es) := (Quietly.refl es).cons he

lemma Quietly.acceptance (h : Quietly es es') (item : Deferred) :
    Quietly es (Deferred.acceptance id item ++ es') := by
  cases item with
  | inl n => exact h
  | inr r => exact h.cons rfl

lemma Quietly.burial (s : Session) (timeout : Json) : Quietly es (s.burial id timeout ++ es) := by
  unfold Session.burial
  split
  · exact (Quietly.single rfl).cons rfl
  · exact .single rfl

lemma Quietly.suffix (h : Quietly es es') : es <:+ es' := by
  obtain ⟨new, rfl, -⟩ := h
  exact List.suffix_append _ _

lemma Quietly.calls_eq (h : Quietly es es') : calls id es' = calls id es := by
  obtain ⟨new, rfl, hnew⟩ := h
  induction new with
  | nil => rfl
  | cons e new ih =>
    rw [List.forall_mem_cons] at hnew
    have hnone : e.callKind? id = none := by
      cases e with
      | sent => cases hnew.1
      | _ => rfl
    rw [List.cons_append, calls, List.filterMap_cons_none hnone]
    exact ih hnew.2

section

variable {P : List Event → Call.Kind → Prop}

lemma EachCall.nil : EachCall id P [] :=
  fun _ _ _ h => (List.cons_ne_nil _ _ (List.suffix_nil.mp h)).elim

lemma EachCall.mono {R : List Event → Call.Kind → Prop} (h : EachCall id P es)
    (hR : ∀ earlier k, P earlier k → R earlier k) : EachCall id R es :=
  fun server message earlier hs => hR _ _ (h server message earlier hs)

lemma EachCall.quietly (h : EachCall id P es) (hq : Quietly es es') : EachCall id P es' := by
  obtain ⟨new, rfl, hnew⟩ := hq
  induction new with
  | nil => exact h
  | cons e new ih =>
    rw [List.forall_mem_cons] at hnew
    intro server message earlier hs
    rcases List.suffix_cons_iff.mp hs with he | hs
    · obtain ⟨rfl, -⟩ := List.cons.inj he
      cases hnew.1
    · exact ih hnew.2 server message earlier hs

lemma EachCall.sent {server message : Json} (h : EachCall id P es) (hm : P es message.callKind) :
    EachCall id P (.sent id server message :: es) := by
  intro server' message' earlier hs
  rcases List.suffix_cons_iff.mp hs with he | hs
  · obtain ⟨hsent, rfl⟩ := List.cons.inj he
    obtain ⟨-, -, rfl⟩ := Event.sent.inj hsent
    exact hm
  · exact h server' message' earlier hs

end

lemma IsOrdered.quietly (h : IsOrdered id es) (hq : Quietly es es') : IsOrdered id es' :=
  EachCall.quietly h hq

lemma calls_sent (server message : Json) (es : List Event) :
    calls id (.sent id server message :: es) = message.callKind :: calls id es :=
  List.filterMap_cons_some (if_pos rfl)

lemma IsOrdered.sent {server message : Json} (h : IsOrdered id es)
    (hm : MayFollow id es message.callKind) : IsOrdered id (.sent id server message :: es) :=
  EachCall.sent h hm

/-- Each call stands where it may, after the calls before it. -/
lemma EachCall.of_calls {P : List Event → Call.Kind → Prop} {k : Call.Kind} {ks : List Call.Kind}
    (later : List Call.Kind) (h : EachCall id P es) (hk : calls id es = later ++ k :: ks) :
    ∃ earlier, calls id earlier = ks ∧ P earlier k := by
  induction es generalizing later with
  | nil => cases later <;> cases hk
  | cons e es ih =>
    have htail : EachCall id P es := fun server message earlier hs =>
      h server message earlier (hs.trans (List.suffix_cons e es))
    cases hkind : e.callKind? id with
    | none =>
      rw [calls, List.filterMap_cons_none hkind] at hk
      exact ih _ htail hk
    | some k' =>
      rw [calls, List.filterMap_cons_some hkind] at hk
      cases later with
      | cons k'' later =>
        obtain ⟨-, hks⟩ := List.cons.inj hk
        exact ih _ htail hks
      | nil =>
        obtain ⟨rfl, hks⟩ := List.cons.inj hk
        cases e with
        | sent session server message =>
          simp only [Event.callKind?, Option.ite_none_right_eq_some, Option.some.injEq] at hkind
          obtain ⟨rfl, rfl⟩ := hkind
          exact ⟨es, hks, h server message es (List.suffix_refl _)⟩
        | _ => cases hkind

lemma IsOrdered.mayFollow {k : Call.Kind} {ks : List Call.Kind} (h : IsOrdered id es)
    (hk : calls id es = k :: ks) : ∃ earlier, calls id earlier = ks ∧ MayFollow id earlier k :=
  EachCall.of_calls [] h hk

/-- What could not be written was not. -/
lemma Writes.quietly {s : Session} {message : Json} {f : Fault}
    (h : Writes id s message es (.error f) es') : Quietly es es' := by
  cases h with
  | refused | unlinked => exact .single rfl
  | unencodable => exact .refl es

lemma EachCall.writes {P : List Event → Call.Kind → Prop} {s : Session} {message : Json}
    {result : Except Fault Unit} (h : EachCall id P es) (hw : Writes id s message es result es')
    (hm : result = .ok () → P es message.callKind) : EachCall id P es' := by
  cases result with
  | error f => exact h.quietly hw.quietly
  | ok _ =>
    cases hw with
    | sent linked accepts encodes => exact h.sent (hm rfl)

lemma IsOrdered.writes {s : Session} {message : Json} {result : Except Fault Unit}
    (h : IsOrdered id es) (hw : Writes id s message es result es')
    (hm : result = .ok () → MayFollow id es message.callKind) : IsOrdered id es' :=
  EachCall.writes h hw hm

end

end LanguageClient
