import LanguageClient.Proofs.Steps.Answering
import LanguageClient.Proofs.Steps.Passage
import LanguageClient.Proofs.Steps.Runs
import LanguageClient.Proofs.Wire.Calls
import Mathlib.Computability.Language

/-!
Documents. What a server is told of a document is balanced: it is opened, changes while it is open, and
is closed. Whether a session takes a document to be open is what its server will have been told once all
is sent that waits.
-/

namespace LanguageClient

open scoped Computability

/-- What a server is told of a document. -/
inductive DocumentCall where
  | opened
  | changed
  | closed
deriving DecidableEq

namespace DocumentCall

/-- A document is opened and closed in turn, and changes in between. -/
def language : Language DocumentCall := ({[opened]} * {[changed]}∗ * {[closed]})∗

def ofMethod? : Json → Option DocumentCall
  | .text t =>
    if t = "textDocument/didOpen" then some opened
    else if t = "textDocument/didChange" then some changed
    else if t = "textDocument/didClose" then some closed
    else none
  | _ => none

/-- What a notification tells of the document with a URI. -/
def ofNotification? (u : Json.Key) (n : OutgoingNotification) : Option DocumentCall :=
  match Session.uriOf n.params >>= Json.key with
  | .ok key => if key = u then ofMethod? n.method else none
  | .error _ => none

/-- Only a notification tells of a document. -/
def ofMessage? (u : Json.Key) : Json → Option DocumentCall
  | .object fields =>
    if (Fields.get? fields "id").isSome then none
    else ofNotification? u ⟨Fields.getD fields "method" .null, Fields.getD fields "params" .null⟩
  | _ => none

/-! Runs of the calls for one document -/

/-- Whether a document that is open or not may be spoken of so, and whether it is open then. -/
def next? : Bool → DocumentCall → Option Bool
  | false, opened => some true
  | true, changed => some true
  | true, closed => some false
  | _, _ => none

/-- Whether a document that was not open is open after these calls, if they are in order. -/
def run? (calls : List DocumentCall) : Option Bool := calls.foldlM next? false

variable {calls more : List DocumentCall} {b : Bool}

lemma run?_append : run? (calls ++ more) = (run? calls).bind (more.foldlM next?) :=
  List.foldlM_append

lemma run?_append_singleton (call : DocumentCall) :
    run? (calls ++ [call]) = (run? calls).bind (next? · call) := by
  rw [run?_append]
  exact congrArg _ (funext fun b => List.foldlM_cons.trans (bind_pure _))

lemma isSome_run?_of_append (h : (run? (calls ++ more)).isSome) : (run? calls).isSome := by
  rw [run?_append] at h
  exact Option.isSome_of_isSome_bind h

/-- The words after which a document is open, or is not. -/
def after : Bool → Language DocumentCall
  | false => language
  | true => language * ({[opened]} * {[changed]}∗)

lemma append_singleton_mem_after {b' : Bool} {call : DocumentCall} (h : calls ∈ after b)
    (hn : next? b call = some b') : calls ++ [call] ∈ after b' := by
  cases b <;> cases call
  case false.opened =>
    obtain rfl := Option.some.inj hn
    have hopened : [opened] ++ [] ∈ ({[opened]} : Language DocumentCall) * {[changed]}∗ :=
      Language.append_mem_mul rfl (Language.nil_mem_kstar _)
    exact Language.append_mem_mul h hopened
  case true.changed =>
    obtain rfl := Option.some.inj hn
    have hmem : calls ++ [changed] ∈ language * ({[opened]} * {[changed]}∗) * {[changed]} :=
      Language.append_mem_mul h rfl
    rw [mul_assoc, mul_assoc] at hmem
    have hle : ({[changed]}∗ : Language DocumentCall) * {[changed]} ≤ {[changed]}∗ := kstar_mul_le_kstar
    exact mul_le_mul_right (mul_le_mul_right hle _) _ hmem
  case true.closed =>
    obtain rfl := Option.some.inj hn
    have hmem : calls ++ [closed] ∈ language * ({[opened]} * {[changed]}∗) * {[closed]} :=
      Language.append_mem_mul h rfl
    rw [mul_assoc] at hmem
    have hle : language * ({[opened]} * {[changed]}∗ * {[closed]}) ≤ language := kstar_mul_le_kstar
    exact hle hmem
  all_goals cases hn

lemma mem_after_of_run? (h : run? calls = some b) : calls ∈ after b := by
  induction calls using List.reverseRecOn generalizing b with
  | nil =>
    obtain rfl := Option.some.inj h
    exact Language.nil_mem_kstar _
  | append_singleton calls call ih =>
    rw [run?_append_singleton] at h
    obtain ⟨b', hb, hn⟩ := Option.bind_eq_some_iff.mp h
    exact append_singleton_mem_after (ih hb) hn

/-- What is in order is balanced as far as it goes. -/
lemma exists_word_of_run? (h : (run? calls).isSome) : ∃ word ∈ language, calls <+: word := by
  obtain ⟨b, hb⟩ := Option.isSome_iff_exists.mp h
  have hmem := mem_after_of_run? hb
  cases b with
  | false => exact ⟨calls, hmem, List.prefix_refl _⟩
  | true =>
    have hclosed : calls ++ [closed] ∈ after false := append_singleton_mem_after hmem rfl
    exact ⟨calls ++ [closed], hclosed, List.prefix_append _ _⟩

/-- A document is open if it was opened last. -/
lemma getLast?_of_run? (h : run? calls = some b) :
    (calls.filter (· ≠ changed)).getLast? = some opened ↔ b = true := by
  induction calls using List.reverseRecOn generalizing b with
  | nil =>
    obtain rfl := Option.some.inj h
    simp
  | append_singleton calls call ih =>
    rw [run?_append_singleton] at h
    obtain ⟨b', hb, hn⟩ := Option.bind_eq_some_iff.mp h
    cases b' <;> cases call <;> cases hn
    · simp
    · simpa using ih hb
    · simp

end DocumentCall

/-! What was written and what waits -/

def Event.documentCall? (id : SessionId) (u : Json.Key) : Event → Option DocumentCall
  | .sent session _ message => if session = id then DocumentCall.ofMessage? u message else none
  | _ => none

/-- What the server of a session was told of a document, in its order. -/
def documentCalls (id : SessionId) (u : Json.Key) (es : List Event) : List DocumentCall :=
  (es.filterMap (Event.documentCall? id u)).reverse

namespace Session

/-- What the server will be told of a document: what is queued, and then what is deferred. -/
def documentCalls (s : Session) (u : Json.Key) : List DocumentCall :=
  (s.notifications ++ s.deferred.filterMap Sum.getLeft?).filterMap (DocumentCall.ofNotification? u)

end Session

/-- A host that tells of documents only by opening, changing and closing them, with what can be
written. -/
structure Conduct.KeepsDocuments (c : Conduct) : Prop where
  only : ∀ method params, c.allows (.pushNotification method params) →
    DocumentCall.ofMethod? method = none
  sendable : ∀ a, c.allows a → a.isDocument → ∀ s item, a.item? s = some item →
    Deferred.IsSendable item

namespace Documents

open DocumentCall

variable {c : Conduct} {id : SessionId} {u : Json.Key} {p q : Position} {s s' : Session}
  {es es' : List Event} {K K' : List Task}

/-! Calls on the wire -/

lemma documentCalls_quietly (h : Quietly es es') : documentCalls id u es' = documentCalls id u es := by
  obtain ⟨new, rfl, hnew⟩ := h
  have hnone : new.filterMap (Event.documentCall? id u) = [] :=
    List.filterMap_eq_nil_iff.mpr fun e he => by
      have hq := hnew e he
      cases e <;> first | rfl | cases hq
  rw [documentCalls, List.filterMap_append, hnone]
  rfl

lemma documentCalls_sent (server message : Json) :
    documentCalls id u (.sent id server message :: es) =
      documentCalls id u es ++ (ofMessage? u message).toList := by
  have he : Event.documentCall? id u (.sent id server message) = ofMessage? u message := if_pos rfl
  cases hm : ofMessage? u message with
  | none =>
    rw [documentCalls, List.filterMap_cons_none (he.trans hm)]
    exact (List.append_nil _).symm
  | some call =>
    rw [documentCalls, List.filterMap_cons_some (he.trans hm)]
    exact List.reverse_cons

/-- What tells of no document leaves the calls as they are. -/
lemma documentCalls_writes {message : Json} {result : Except Fault Unit}
    (h : Writes id s message es result es') (hm : ofMessage? u message = none) :
    documentCalls id u es' = documentCalls id u es := by
  cases result with
  | error f => exact documentCalls_quietly h.quietly
  | ok _ =>
    cases h with
    | sent =>
      rw [documentCalls_sent, hm]
      exact List.append_nil _

lemma ofMessage?_notification (n : OutgoingNotification) :
    ofMessage? u (Message.notification n.method n.params) = ofNotification? u n := rfl

lemma ofMessage?_request (number method params : Json) :
    ofMessage? u (Message.request number method params) = none := rfl

lemma ofMessage?_reply {m : Fields} {reply : Json} (h : Message.IsReply m reply) :
    ofMessage? u reply = none := by
  cases h <;> rfl

lemma ofNotification?_eq_none {n : OutgoingNotification} (h : ofMethod? n.method = none) :
    ofNotification? u n = none := by
  unfold ofNotification?
  split
  · split
    · exact h
    · rfl
  · rfl

/-! What is pushed -/

/-- What an item tells of a document. -/
def itemCalls (u : Json.Key) (item : Deferred) : List DocumentCall :=
  (item.getLeft?.bind (ofNotification? u)).toList

lemma itemCalls_of_uri {method params : Json} {key : Json.Key}
    (h : Session.uriOf params >>= Json.key = .ok key) :
    itemCalls u (.inl ⟨method, params⟩) = if key = u then (ofMethod? method).toList else [] := by
  rw [itemCalls, Sum.getLeft?_inl, Option.bind_some, ofNotification?, h]
  dsimp only
  split <;> rfl

lemma isOpen_append (key : Json.Key) (uri : Json) :
    ({ s with openDocuments := s.openDocuments ++ [(key, uri)] } : Session).isOpen u =
      (s.isOpen u || decide (key = u)) := by
  simp [Session.isOpen]

lemma isOpen_filter (key : Json.Key) :
    ({ s with openDocuments := s.openDocuments.filter fun (k, _) => k ≠ key } : Session).isOpen u =
      (s.isOpen u && decide (key ≠ u)) := by
  rw [Bool.eq_iff_iff]
  simp only [Session.isOpen, List.any_filter, List.any_eq_true, Bool.and_eq_true, decide_eq_true_eq]
  constructor
  · rintro ⟨⟨k, uri⟩, hm, hne, rfl⟩
    exact ⟨⟨⟨k, uri⟩, hm, rfl⟩, Ne.symm hne⟩
  · rintro ⟨⟨⟨k, uri⟩, hm, rfl⟩, hne⟩
    exact ⟨⟨k, uri⟩, hm, Ne.symm hne, rfl⟩

/-- What the host does not do to a document tells of none. -/
lemma itemCalls_of_aside (hc : c.KeepsDocuments) {a : SessionAction} (ha : c.allows a)
    {item : Deferred} (asked : a.Asks s item) (aside : a.isDocument = false) : itemCalls u item = [] := by
  cases asked with
  | feature => rfl
  | host asked =>
    cases item with
    | inr r => rfl
    | inl n =>
      cases a <;> simp only [SessionAction.item?, Option.some.injEq, Sum.inl.injEq, reduceCtorEq] at asked
      case pushNotification method params =>
        subst asked
        have hnone : ofNotification? u ⟨method, params⟩ = none :=
          ofNotification?_eq_none (hc.only method params ha)
        rw [itemCalls, Sum.getLeft?_inl, Option.bind_some, hnone]
        rfl
      all_goals cases aside

lemma item?_of_isDocument {a : SessionAction} (ha : a.isDocument) {item : Deferred}
    (asked : a.Asks s item) : a.item? s = some item := by
  cases asked with
  | host asked => exact asked
  | feature isFeature asked =>
    cases a <;> simp [SessionAction.item?] at asked <;> cases ha

/-- A document that is pushed of is spoken of in order. -/
lemma itemCalls_of_tracks (hc : c.KeepsDocuments) {a : SessionAction} (ha : c.allows a)
    {item : Deferred} {documents : List (Json.Key × Json)} (asked : a.Asks s item)
    (tracks : a.Tracks s documents) : (itemCalls u item).foldlM next? (s.isOpen u) =
      some (({ s with openDocuments := documents } : Session).isOpen u) := by
  cases tracks with
  | @opened params uri key names isKey closed =>
    obtain rfl := Option.some.inj (item?_of_isDocument rfl asked)
    have hkey : Session.uriOf params >>= Json.key = .ok key := by rw [names]; exact isKey
    rw [itemCalls_of_uri hkey, isOpen_append]
    by_cases hu : key = u
    · subst hu
      rw [closed, if_pos rfl, decide_eq_true rfl]
      rfl
    · simp [hu]
  | @closed params key names opened =>
    obtain rfl := Option.some.inj (item?_of_isDocument rfl asked)
    rw [itemCalls_of_uri names, isOpen_filter]
    by_cases hu : key = u
    · subst hu
      rw [opened, if_pos rfl, decide_eq_false (by simp)]
      rfl
    · simp [hu]
  | @changed params key names opened =>
    obtain rfl := Option.some.inj (item?_of_isDocument rfl asked)
    rw [itemCalls_of_uri names]
    change _ = some (s.isOpen u)
    by_cases hu : key = u
    · subst hu
      rw [opened, if_pos rfl]
      rfl
    · simp [hu]
  | aside aside =>
    rw [itemCalls_of_aside hc ha asked aside]
    rfl

/-! The invariant -/

/-- What a session takes a document to be is what its server will have been told in the end, as long as
nothing was lost. -/
structure Follows (id : SessionId) (u : Json.Key) (p : Position) : Prop where
  written : (run? (documentCalls id u p.events)).isSome
  ordered : (∀ refused, .noted id (.refused refused) ∉ p.events) →
    (run? (documentCalls id u p.events ++ p.session.documentCalls u)).isSome
  tracks : (∀ refused, .noted id (.refused refused) ∉ p.events) → p.session.status.isLeaving = false →
    run? (documentCalls id u p.events ++ p.session.documentCalls u) = some (p.session.isOpen u)
  linked : p.session.status = .initializing ∨ p.session.status = .initialized → p.session.link.isSome
  queued : (∃ n ∈ p.session.notifications, (ofNotification? u n).isSome) → p.session.link.isSome
  sendable : ∀ n ∈ p.session.notifications, (ofNotification? u n).isSome → n.IsSendable
  sendableDeferred : ∀ n, .inl n ∈ p.session.deferred → (ofNotification? u n).isSome → n.IsSendable
  flushed : p.session.status = .initialized → p.session.deferred = []

lemma Follows.blank (config : Fields) (name : Json) : Follows id u ⟨.blank config name, [], []⟩ where
  written := rfl
  ordered _ := rfl
  tracks _ _ := rfl
  linked h := by rcases h with h | h <;> cases h
  queued h := by
    obtain ⟨n, hn, -⟩ := h
    cases hn
  sendable _ h := (List.not_mem_nil h).elim
  sendableDeferred _ h := (List.not_mem_nil h).elim
  flushed := nofun

/-- What matters of a session is as it was. -/
structure IsSame (s s' : Session) : Prop where
  status : s'.status = s.status
  link : s.link.isSome → s'.link.isSome
  notifications : s'.notifications = s.notifications
  deferred : s'.deferred = s.deferred
  documents : s'.openDocuments = s.openDocuments

lemma IsSame.refl (s : Session) : IsSame s s := ⟨rfl, fun h => h, rfl, rfl, rfl⟩

lemma Follows.aside (h : Follows id u ⟨s, es, K⟩) (hs : IsSame s s') (he : es <:+ es')
    (hw : documentCalls id u es' = documentCalls id u es) : Follows id u ⟨s', es', K'⟩ := by
  have hcalls : s'.documentCalls u = s.documentCalls u := by
    rw [Session.documentCalls, hs.notifications, hs.deferred, Session.documentCalls]
  have hopen : s'.isOpen u = s.isOpen u := by rw [Session.isOpen, hs.documents, Session.isOpen]
  have hrefused : (∀ refused, .noted id (.refused refused) ∉ es') →
      ∀ refused, .noted id (.refused refused) ∉ es := fun hn refused hr => hn refused (he.subset hr)
  refine ⟨?_, fun hn => ?_, fun hn hl => ?_, fun hst => ?_, fun hq => ?_, fun n hn => ?_, fun n hn => ?_,
    fun hst => ?_⟩
  · exact hw ▸ h.written
  · exact hw ▸ hcalls ▸ h.ordered (hrefused hn)
  · exact hw ▸ hcalls ▸ hopen ▸ h.tracks (hrefused hn) (hs.status ▸ hl)
  · exact hs.link (h.linked (hs.status ▸ hst))
  · exact hs.link (h.queued (hs.notifications ▸ hq))
  · exact h.sendable n (hs.notifications ▸ hn)
  · exact h.sendableDeferred n (hs.deferred ▸ hn)
  · exact hs.deferred ▸ h.flushed (hs.status ▸ hst)

/-- A session on its way out keeps what it had, or drops it all. -/
lemma Follows.leave (h : Follows id u ⟨s, es, K⟩) (hs : s'.status.isLeaving)
    (hl : s.link.isSome → s'.link.isSome)
    (hq : s'.notifications = s.notifications ∧ s'.deferred = s.deferred ∨
      s'.notifications = [] ∧ s'.deferred = []) (he : es <:+ es')
    (hw : documentCalls id u es' = documentCalls id u es) : Follows id u ⟨s', es', K'⟩ where
  written := hw ▸ h.written
  ordered hn := by
    have hordered := h.ordered fun refused hr => hn refused (he.subset hr)
    rcases hq with ⟨hn, hd⟩ | ⟨hn, hd⟩
    · change (run? (_ ++ s'.documentCalls u)).isSome
      rw [hw, Session.documentCalls, hn, hd]
      exact hordered
    · change (run? (_ ++ s'.documentCalls u)).isSome
      rw [hw, Session.documentCalls, hn, hd]
      exact (List.append_nil (documentCalls id u es)).symm ▸ h.written
  tracks _ hst := by
    rw [hs] at hst
    cases hst
  linked hst := by
    change s'.status = _ ∨ s'.status = _ at hst
    rcases hst with hst | hst <;> rw [hst] at hs <;> cases hs
  queued hn := by
    rcases hq with ⟨hsame, -⟩ | ⟨hnil, -⟩
    · exact hl (h.queued (hsame ▸ hn))
    · obtain ⟨n, hn, -⟩ := hn
      exact (List.not_mem_nil (hnil ▸ hn)).elim
  sendable n hn := by
    rcases hq with ⟨hsame, -⟩ | ⟨hnil, -⟩
    · exact h.sendable n (hsame ▸ hn)
    · exact (List.not_mem_nil (hnil ▸ hn)).elim
  sendableDeferred n hn := by
    rcases hq with ⟨-, hsame⟩ | ⟨-, hnil⟩
    · exact h.sendableDeferred n (hsame ▸ hn)
    · exact (List.not_mem_nil (hnil ▸ hn)).elim
  flushed hst := by
    change s'.status = _ at hst
    rw [hst] at hs
    cases hs

lemma isSendable_of_itemCalls (hc : c.KeepsDocuments) {a : SessionAction} (ha : c.allows a)
    {n : OutgoingNotification} (asked : a.Asks s (.inl n)) (hn : (ofNotification? u n).isSome) :
    n.IsSendable := by
  have hdocument : a.isDocument := by
    by_contra haside
    have hnone : itemCalls u (.inl n) = [] := itemCalls_of_aside hc ha asked (by simpa using haside)
    rw [itemCalls, Sum.getLeft?_inl, Option.bind_some, Option.toList_eq_nil_iff] at hnone
    rw [hnone] at hn
    cases hn
  exact hc.sendable a ha hdocument s _ (item?_of_isDocument hdocument asked)

/-- What is pushed is told last, and a session knows of it at once. -/
structure Pushes (u : Json.Key) (s s' : Session) (item : Deferred)
    (documents : List (Json.Key × Json)) : Prop where
  status : s'.status = s.status
  link : s'.link = s.link
  documents : s'.openDocuments = documents
  calls : s'.documentCalls u = s.documentCalls u ++ itemCalls u item
  notifications : ∀ n ∈ s'.notifications, n ∈ s.notifications ∨
    item = .inl n ∧ ((ofNotification? u n).isSome → s.status = .initialized)
  deferred : ∀ n, .inl n ∈ s'.deferred → .inl n ∈ s.deferred ∨ item = .inl n
  flushed : s.status = .initialized → s'.deferred = s.deferred

lemma Follows.push (h : Follows id u ⟨s, es, K⟩) (hc : c.KeepsDocuments) {a : SessionAction}
    (ha : c.allows a) {item : Deferred} {documents : List (Json.Key × Json)}
    (asked : a.Asks s item) (tracks : a.Tracks s documents) (live : s.status.isLeaving = false)
    (hs : Pushes u s s' item documents) (hq : Quietly es es') : Follows id u ⟨s', es', K⟩ := by
  have hrun : (∀ refused, .noted id (.refused refused) ∉ es') →
      run? (documentCalls id u es' ++ s'.documentCalls u) = some (s'.isOpen u) := by
    intro hn
    rw [documentCalls_quietly hq, hs.calls, ← List.append_assoc, run?_append,
      h.tracks (fun refused hr => hn refused (hq.suffix.subset hr)) live, Option.bind_some,
      itemCalls_of_tracks hc ha asked tracks, ← hs.documents]
    rfl
  refine ⟨?_, fun hn => ?_, fun hn _ => hrun hn, fun hst => ?_, fun hq => ?_, fun n hn hcall => ?_,
    fun n hn hcall => ?_, fun hst => ?_⟩
  · exact (documentCalls_quietly hq).symm ▸ h.written
  · exact Option.isSome_of_eq_some (hrun hn)
  · exact hs.link ▸ h.linked (hs.status ▸ hst)
  · obtain ⟨n, hn, hcall⟩ := hq
    rcases hs.notifications n hn with hn | ⟨-, hinit⟩
    · exact hs.link ▸ h.queued ⟨n, hn, hcall⟩
    · exact hs.link ▸ h.linked (.inr (hinit hcall))
  · rcases hs.notifications n hn with hn | ⟨rfl, -⟩
    · exact h.sendable n hn hcall
    · exact isSendable_of_itemCalls hc ha asked hcall
  · rcases hs.deferred n hn with hn | rfl
    · exact h.sendableDeferred n hn hcall
    · exact isSendable_of_itemCalls hc ha asked hcall
  · have hst : s.status = .initialized := hs.status ▸ hst
    exact (hs.flushed hst).trans (h.flushed hst)

lemma documentCalls_eq (s : Session) : s.documentCalls u =
    s.notifications.filterMap (ofNotification? u) ++ s.deferred.flatMap (itemCalls u) := by
  rw [Session.documentCalls, List.filterMap_append, List.filterMap_filterMap]
  refine congrArg _ ?_
  induction s.deferred with
  | nil => rfl
  | cons item rest ih =>
    rw [List.flatMap_cons, ← ih]
    cases item with
    | inl n => cases hn : ofNotification? u n <;> simp [itemCalls, hn]
    | inr r => rfl

lemma pushes_defer (item : Deferred) (documents : List (Json.Key × Json))
    (hs : s.status ≠ .initialized) : Pushes u s
      { { s with deferred := s.deferred ++ [item] }.count item with openDocuments := documents }
      item documents := by
  have hdeferred : ∀ n, .inl n ∈ s.deferred ++ [item] → .inl n ∈ s.deferred ∨ item = .inl n := by
    intro n hn
    exact (List.mem_append.mp hn).imp_right fun h => (List.mem_singleton.mp h).symm
  refine ⟨?_, ?_, rfl, ?_, fun n hn => .inl ?_, fun n hn => hdeferred n ?_, fun h => (hs h).elim⟩
  · cases item <;> rfl
  · cases item <;> rfl
  · rw [documentCalls_eq, documentCalls_eq, List.append_assoc]
    cases item <;> exact congrArg _ (by simp [Session.count])
  · cases item <;> exact hn
  · cases item <;> exact hn

lemma itemCalls_inl (n : OutgoingNotification) :
    itemCalls u (.inl n) = [n].filterMap (ofNotification? u) := by
  cases hn : ofNotification? u n <;> simp [itemCalls, hn]

lemma pushes_queue (item : Deferred) (documents : List (Json.Key × Json))
    (hd : s.status = .initialized ∧ s.deferred = [] ∨ itemCalls u item = []) : Pushes u s
      { (s.queue item).count item with openDocuments := documents } item documents := by
  cases item with
  | inr r =>
    refine ⟨rfl, rfl, rfl, ?_, fun n hn => .inl hn, fun n hn => .inl hn, fun _ => rfl⟩
    exact (List.append_nil _).symm
  | inl k =>
    refine ⟨rfl, rfl, rfl, ?_, fun n hn => ?_, fun n hn => .inl hn, fun _ => rfl⟩
    · rw [documentCalls_eq, documentCalls_eq]
      change (s.notifications ++ [k]).filterMap _ ++ s.deferred.flatMap _ = _
      rw [List.filterMap_append, ← itemCalls_inl]
      rcases hd with ⟨-, hd⟩ | hd
      · simp [hd]
      · simp [hd]
    · refine (List.mem_append.mp hn).imp_right fun hn => ?_
      obtain rfl := List.mem_singleton.mp hn
      refine ⟨rfl, fun hcall => (hd.resolve_right fun hnone => ?_).1⟩
      rw [itemCalls_inl, List.filterMap_eq_nil_iff] at hnone
      rw [hnone n List.mem_cons_self] at hcall
      cases hcall

/-- What a method of the life of a session tells of documents: nothing. -/
lemma itemCalls_of_isLifecycle {item : Deferred}
    (h : Session.isLifecycle (Deferred.method item) = .ok true) : itemCalls u item = [] := by
  cases item with
  | inr r => rfl
  | inl n =>
    have hnone : ofNotification? u n = none := by
      refine ofNotification?_eq_none ?_
      change Session.isLifecycle n.method = _ at h
      cases hm : n.method with
      | text t =>
        rw [hm] at h
        have hmem : t ∈ Session.lifecycleMethods := List.contains_iff_mem.mp (Except.ok.inj h)
        simp only [Session.lifecycleMethods, List.mem_cons, List.not_mem_nil, or_false] at hmem
        rcases hmem with rfl | rfl | rfl <;> decide
      | _ => rfl
    rw [itemCalls, Sum.getLeft?_inl, Option.bind_some, hnone]
    rfl

/-- What waits is written, unless it is refused. -/
lemma Follows.notify {n : OutgoingNotification} {rest : List OutgoingNotification}
    {result : Except Fault Unit} (h : Follows id u ⟨s, es, K⟩) (queue : s.notifications = n :: rest)
    (writes : Writes id s (Message.notification n.method n.params) es result es')
    (refusing : StaysRefusing id es') : Follows id u ⟨{ s with notifications := rest }, es', K⟩ := by
  have hmem : ∀ {k}, k ∈ rest → k ∈ s.notifications := fun hk => queue ▸ List.mem_cons_of_mem n hk
  have hcalls : s.documentCalls u =
      (ofNotification? u n).toList ++ ({ s with notifications := rest } : Session).documentCalls u := by
    rw [Session.documentCalls, queue, List.cons_append]
    cases hn : ofNotification? u n with
    | none => rw [List.filterMap_cons_none hn]; rfl
    | some call => rw [List.filterMap_cons_some hn]; rfl
  -- What is written was to be written next; it is lost only if the link refuses it.
  have hwritten : (∀ refused, .noted id (.refused refused) ∉ es') →
      documentCalls id u es' = documentCalls id u es ++ (ofNotification? u n).toList := by
    intro hn
    cases writes with
    | sent => exact documentCalls_sent _ _
    | refused => exact (hn _ List.mem_cons_self).elim
    | unlinked linked =>
      cases hcall : ofNotification? u n with
      | none => exact (documentCalls_quietly (.single rfl)).trans (List.append_nil _).symm
      | some call =>
        have hlinked := h.queued ⟨n, queue ▸ List.mem_cons_self, Option.isSome_of_eq_some hcall⟩
        rw [show s.link = none from linked] at hlinked
        cases hlinked
    | unencodable linked encodes =>
      cases hcall : ofNotification? u n with
      | none => exact (List.append_nil _).symm
      | some call =>
        have hs := h.sendable n (queue ▸ List.mem_cons_self) (Option.isSome_of_eq_some hcall)
        exact (encodes hs).elim
  have hsame : (∀ refused, .noted id (.refused refused) ∉ es') →
      documentCalls id u es' ++ ({ s with notifications := rest } : Session).documentCalls u =
        documentCalls id u es ++ s.documentCalls u := fun hn => by
    rw [hwritten hn, hcalls, List.append_assoc]
  have hbefore : (∀ refused, .noted id (.refused refused) ∉ es') →
      ∀ refused, .noted id (.refused refused) ∉ es := fun hn refused hr =>
    hn refused (writes.suffix.subset hr)
  refine ⟨?_, fun hn => ?_, fun hn hl => ?_, h.linked, fun hq => ?_, fun k hk => h.sendable k (hmem hk),
    h.sendableDeferred, h.flushed⟩
  · cases result with
    | error f => exact (documentCalls_quietly writes.quietly).symm ▸ h.written
    | ok _ =>
      cases writes with
      | sent linked accepts encodes =>
        have hn : ∀ refused, .noted id (.refused refused) ∉ es := fun refused hr =>
          refusing _ _ _ (List.suffix_refl _) refused hr
        have hordered := h.ordered hn
        change (run? (_ ++ s.documentCalls u)).isSome at hordered
        rw [hcalls, ← List.append_assoc] at hordered
        exact (documentCalls_sent _ _).symm ▸ isSome_run?_of_append hordered
  · exact (hsame hn).symm ▸ h.ordered (hbefore hn)
  · exact (hsame hn).symm ▸ h.tracks (hbefore hn) hl
  · obtain ⟨k, hk, hcall⟩ := hq
    exact h.queued ⟨k, hmem hk, hcall⟩

lemma Follows.welcome (h : Follows id u ⟨s, es, K⟩) (capabilities serverInfo : Json)
    (hs : s.status = .initializing) (hq : Quietly es es') :
    Follows id u ⟨s.welcome capabilities serverInfo, es', K'⟩ := by
  have hcalls : (s.welcome capabilities serverInfo).documentCalls u = s.documentCalls u := by
    have hopened : [Session.opened].filterMap (ofNotification? u) = [] := rfl
    change (s.notifications ++ [Session.opened] ++ s.deferred.filterMap Sum.getLeft? ++ []).filterMap _ = _
    rw [List.append_nil, List.filterMap_append, List.filterMap_append, hopened, List.append_nil,
      ← List.filterMap_append]
    rfl
  have hlinked : s.link.isSome := h.linked (.inl hs)
  have hmem : ∀ n ∈ (s.welcome capabilities serverInfo).notifications,
      (ofNotification? u n).isSome → n ∈ s.notifications ∨ .inl n ∈ s.deferred := by
    intro n hn hcall
    change n ∈ s.notifications ++ [Session.opened] ++ s.deferred.filterMap Sum.getLeft? at hn
    rw [List.mem_append, List.mem_append, List.mem_singleton] at hn
    rcases hn with (hn | rfl) | hn
    · exact .inl hn
    · cases hcall
    · obtain ⟨item, hi, hleft⟩ := List.mem_filterMap.mp hn
      rw [Sum.getLeft?_eq_some_iff.mp hleft] at hi
      exact .inr hi
  refine ⟨?_, fun hn => ?_, fun hn _ => ?_, fun _ => hlinked, fun _ => hlinked, fun n hn hcall => ?_,
    fun n hn => (List.not_mem_nil hn).elim, fun _ => rfl⟩
  · exact (documentCalls_quietly hq).symm ▸ h.written
  · change (run? (documentCalls id u es' ++ _)).isSome
    rw [documentCalls_quietly hq, hcalls]
    exact h.ordered fun refused hr => hn refused (hq.suffix.subset hr)
  · change run? (documentCalls id u es' ++ _) = _
    rw [documentCalls_quietly hq, hcalls]
    refine h.tracks (fun refused hr => hn refused (hq.suffix.subset hr)) ?_
    exact hs ▸ rfl
  · rcases hmem n hn hcall with hn | hn
    · exact h.sendable n hn hcall
    · exact h.sendableDeferred n hn hcall

lemma Follows.introduce (h : Follows id u ⟨s, es, K⟩) {params : Json} {callback : Option Callback}
    (hs : s.status = .uninitialized) (hl : s.link.isSome) (hq : Quietly es es') :
    Follows id u ⟨s.introduce params callback, es', K⟩ := by
  have hsame : Follows id u ⟨s, es', K⟩ := h.aside (.refl s) hq.suffix (documentCalls_quietly hq)
  exact ⟨hsame.written, hsame.ordered, fun hn _ => hsame.tracks hn (hs ▸ rfl), fun _ => hl, fun _ => hl,
    hsame.sendable, hsame.sendableDeferred, nofun⟩

lemma Step.follows (h : Step c id p q) (hc : c.KeepsDocuments) (hs : p.Sound c id)
    (answered : IsWellAnswered id q.events) (refusing : StaysRefusing id q.events)
    (hp : Follows id u p) : Follows id u q := by
  cases h
  -- Opening
  case introduced status linked allowed obeys path =>
    exact hp.introduce status linked ((Quietly.single rfl).cons rfl)
  case deferred s es K a item documents allowed obeys asked tracks status lifecycle =>
    have hlive : s.status.isLeaving = false := by rcases status with h | h <;> rw [h] <;> rfl
    refine hp.push hc allowed asked tracks hlive (pushes_defer item documents ?_)
      ((Quietly.single rfl).acceptance item)
    rcases status with h | h <;> rw [h] <;> nofun
  case queued s es K a item documents allowed obeys asked tracks status =>
    have hlive : s.status.isLeaving = false := by
      rcases status with h | h
      · rw [h]; rfl
      · exact h.1
    refine hp.push hc allowed asked tracks hlive (pushes_queue item documents ?_)
      ((Quietly.single rfl).acceptance item)
    exact status.imp (fun h => ⟨h, hp.flushed h⟩) fun h => itemCalls_of_isLifecycle h.2
  -- Sending
  case notified queue free writes => exact hp.notify queue writes refusing
  case requested s es K r rest p now result es' queue free first entry writes =>
    refine hp.aside ⟨rfl, fun h => h, rfl, rfl, rfl⟩
      ((List.suffix_cons _ _).trans writes.suffix) ?_
    exact (documentCalls_writes writes rfl).trans (documentCalls_quietly (.single rfl))
  case replied kind isReply writes =>
    exact hp.aside (.refl _) writes.suffix (documentCalls_writes writes (ofMessage?_reply isReply))
  -- Answering
  case stuck holds result =>
    exact (hs.not_isWellAnswered List.mem_cons_self holds result answered).elim
  case welcomed status result => exact hp.welcome _ _ status (.single rfl)
  -- Ending
  case left => exact hp.leave rfl (fun h => h) (.inl ⟨rfl, rfl⟩) (List.suffix_refl _) rfl
  case overtaken status =>
    exact hp.leave (Status.isLeaving_of_or (.inr status)) (fun h => h) (.inr ⟨rfl, rfl⟩) (List.suffix_refl _) rfl
  case parted => exact hp.leave rfl (fun h => h) (.inr ⟨rfl, rfl⟩) (List.suffix_cons _ _) rfl
  case saidGoodbye status told left =>
    refine hp.leave rfl (fun h => h) (.inr ⟨rfl, rfl⟩)
      ((told.suffix.trans left.suffix).trans (List.suffix_cons _ _)) ?_
    have hexit : ofMessage? u exitNotification = none :=
      (ofMessage?_notification ⟨"exit", .null⟩).trans (ofNotification?_eq_none rfl)
    exact (documentCalls_writes left hexit).trans
      (documentCalls_writes told (ofMessage?_request _ _ _))
  case unheardGoodbye status closed told =>
    exact hp.leave rfl (fun h => h) (.inr ⟨rfl, rfl⟩) (told.suffix.trans (List.suffix_cons _ _))
      (documentCalls_quietly (told.quietly.cons rfl))
  case abandoned status encodes =>
    have hleaving : ∀ {s : Session}, s.status = .shuttingDown → s.status.isLeaving :=
      fun h => by rw [h]; rfl
    exact hp.leave (hleaving status) (fun h => h) (.inr ⟨rfl, rfl⟩) (List.suffix_refl _) rfl
  case ended => exact hp.leave rfl (fun h => h) (.inl ⟨rfl, rfl⟩) (List.suffix_cons _ _) rfl
  case buried s es K last timeout status settled =>
    refine hp.leave (Status.isLeaving_of_or (.inr status)) (fun h => ?_) (.inr ⟨rfl, rfl⟩) (List.suffix_append _ _)
      (documentCalls_quietly (.burial s timeout))
    simpa [Session.buried] using h
  case documented status fewer =>
    exact hp.leave status (fun h => h) (.inl ⟨rfl, rfl⟩) (List.suffix_refl _) rfl
  -- Everything else
  case launched => exact hp.aside ⟨rfl, fun _ => rfl, rfl, rfl, rfl⟩ (List.suffix_cons _ _) rfl
  case relinked => exact hp.aside ⟨rfl, fun _ => rfl, rfl, rfl, rfl⟩ (List.suffix_refl _) rfl
  case took s es t K m reader next running =>
    obtain ⟨responses, errors, he⟩ := Session.exists_enqueue_eq { s with reader } m
    rw [he]
    exact hp.aside ⟨rfl, fun h => h, rfl, rfl, rfl⟩ (List.suffix_cons _ _) rfl
  all_goals
    exact hp.aside ⟨rfl, fun h => h, rfl, rfl, rfl⟩
      (by first | exact List.suffix_refl _ | exact List.suffix_cons _ _) rfl

lemma Steps.follows (h : Steps c id p q) (hc : c.KeepsDocuments) (hs : p.Sound c id)
    (answered : IsWellAnswered id q.events) (refusing : StaysRefusing id q.events)
    (hp : Follows id u p) : Follows id u q := by
  induction h with
  | refl => exact hp
  | tail hr h ih =>
    have hbefore := ih (answered.of_suffix h.suffix) (refusing.of_suffix h.suffix)
    exact Step.follows h hc (Steps.sound_position hr hs) answered refusing hbefore

/-- What is known of a session at a position, in plain words. -/
lemma Follows.isOpen_iff (h : Follows id u p) (hl : p.session.status.isLeaving = false)
    (hn : ∀ refused, .noted id (.refused refused) ∉ p.events) :
    p.session.isOpen u ↔
      ((documentCalls id u p.events ++ p.session.documentCalls u).filter (· ≠ .changed)).getLast? =
        some .opened :=
  (getLast?_of_run? (h.tracks hn hl)).symm

end Documents

open Documents in
/-- Whatever happens between a host and its servers: what a server is told of a document is balanced as
far as it goes, and whether a session that is not on its way out takes the document to be open is what
its server will have been told last, once all that waits is written. It is taken for granted that the
host tells of documents only by opening, changing and closing them, with what can be written, that the
request to open the session is answered with nothing that holds but an object, and that a link that
refused a message refuses all; and, for what still waits, that none was refused. -/
theorem documents_of_mem_outcomes {c : Conduct} {w : World} (hw : w.IsNew) {actions : List Action}
    (ha : actions.all (c.admits .host)) {o : Outcome} (ho : o ∈ outcomes w actions) (id : SessionId)
    (keeps : c.KeepsDocuments) (answered : IsWellAnswered id (o.world.story id))
    (refusing : StaysRefusing id (o.world.story id)) (u : Json.Key) :
    (∃ word ∈ DocumentCall.language, documentCalls id u (o.world.story id) <+: word) ∧
    ∀ s es, o.world.Saw id s es → s.status.isLeaving = false →
      (∀ refused, .noted id (.refused refused) ∉ es) →
      (s.isOpen u ↔
        ((documentCalls id u es ++ s.documentCalls u).filter (· ≠ .changed)).getLast? =
          some .opened) := by
  have hsteps := steps_of_mem_outcomes hw ha ho id
  refine ⟨?_, fun s es saw live accepted => ?_⟩
  · have hfollows := Steps.follows (u := u) hsteps keeps (.blank _ _) answered refusing (.blank _ _)
    exact DocumentCall.exists_word_of_run? hfollows.written
  · obtain ⟨K, hto, hfrom⟩ := exists_position_of_saw hsteps rfl saw
    have hsuffix := hfrom.suffix
    have hfollows := Steps.follows (u := u) hto keeps (.blank _ _) (answered.of_suffix hsuffix)
      (refusing.of_suffix hsuffix) (.blank _ _)
    exact hfollows.isOpen_iff live accepted

/-! A document that is opened and changed before its session is open, and closed in a callback -/

/-- What tells of documents in their course alone, with what can be written. -/
def SessionAction.keepsDocuments : SessionAction → Bool
  | openDocument params | closeDocument params | changeDocument params => params.isPlain
  | pushNotification method _ => DocumentCall.ofMethod? method = none
  | a => !a.isOwn

def Conduct.documenting : Conduct where
  host a := a.keepsDocuments
  callback a := a.keepsDocuments
  hostIsOutside a h := by cases a <;> first | rfl | cases h
  callbackIsOutside a h := by cases a <;> first | rfl | cases h

lemma Conduct.keepsDocuments_documenting : documenting.KeepsDocuments where
  only method params ha := of_decide_eq_true (or_self_iff.mp ha)
  sendable a ha hd s item hi := by
    have ha : a.keepsDocuments := or_self_iff.mp ha
    cases a <;> cases hd
    all_goals
      obtain rfl := Option.some.inj hi
      refine OutgoingNotification.isSendable_of_isPlain ?_ ha
      change Json.isPlain (.text _) = true
      decide +kernel

theorem documents_of_mem_outcomes_closed :
    let document : Json := .object [("textDocument", .object [("uri", "file:///a.c")])]
    let u : Json.Key := .text "file:///a.c"
    let actions : List Action :=
      [.session .null (.openDocument document), .session .null (.changeDocument document),
        .session .null (.handshake .null "editor" "1"
          (some (.mk "opened" [.session .null (.closeDocument document)] none))),
        .session .null .tick, .link .null (.write [Message.response (.int 1) (.object [])]),
        .session .null .tick, .session .null .tick]
    (World.serving "server").IsNew ∧ actions.all (Conduct.documenting.admits .host) ∧
      (∃ o ∈ outcomes (.serving "server") actions,
        (o.world.session 0).isOpen u ∧ documentCalls 0 u (o.world.story 0) = [] ∧
        (((o.world.session 0).documentCalls u).filter (· ≠ .changed)).getLast? = some .opened) ∧
      ∃ o ∈ outcomes (.serving "server") actions,
        documentCalls 0 u (o.world.story 0) = [.opened, .changed, .closed] ∧
        ∃ word ∈ DocumentCall.language, [.opened, .changed, .closed] <+: word := by
  intro document u actions
  have hw : (World.serving "server").IsNew := World.isNew_serving "server"
  have ha : actions.all (Conduct.documenting.admits .host) := by decide +kernel
  have hopened : ∃ o ∈ outcomes (.serving "server") actions,
      (o.world.session 0).isOpen u ∧ documentCalls 0 u (o.world.story 0) = [] ∧
        (o.world.session 0).status.isLeaving = false ∧ (o.world.story 0).all Event.isSmooth ∧
        (o.world.story 0).all (!·.isRefusal) := by
    decide +kernel
  have hclosed : ∃ o ∈ outcomes (.serving "server") actions,
      documentCalls 0 u (o.world.story 0) = [.opened, .changed, .closed] ∧
        (o.world.story 0).all Event.isSmooth ∧ (o.world.story 0).all (!·.isRefusal) := by
    decide +kernel
  have hkeeps := Conduct.keepsDocuments_documenting
  refine ⟨hw, ha, ?_, ?_⟩
  · obtain ⟨o, ho, hopen, hcalls, hlive, hsmooth, hrefusing⟩ := hopened
    have hsmooth : IsSmooth 0 (o.world.story 0) := isSmooth_of_all hsmooth
    have hiff := (documents_of_mem_outcomes hw ha ho 0 hkeeps hsmooth.answered
      (staysRefusing_of_all hrefusing) u).2 _ _ .now hlive (not_refused_of_all hrefusing)
    rw [hcalls, List.nil_append] at hiff
    exact ⟨o, ho, hopen, hcalls, hiff.mp hopen⟩
  · obtain ⟨o, ho, hcalls, hsmooth, hrefusing⟩ := hclosed
    have hsmooth : IsSmooth 0 (o.world.story 0) := isSmooth_of_all hsmooth
    have hword := (documents_of_mem_outcomes hw ha ho 0 hkeeps hsmooth.answered
      (staysRefusing_of_all hrefusing) u).1
    exact ⟨o, ho, hcalls, hcalls ▸ hword⟩

end LanguageClient
