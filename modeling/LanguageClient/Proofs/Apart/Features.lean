import LanguageClient.Proofs.Apart.Running
import LanguageClient.Proofs.Steps.Sending

/-!
What features do with the sessions for a document, in two worlds at once. Where documents are well-typed
nothing goes wrong with a session of which the server said what it offers in an object.
-/

namespace LanguageClient

open Act World

variable {k : Option Json.Key} {ps : List (SessionId × SessionId)} {v w : World} {id : SessionId}

/-! Well-typed documents -/

namespace Document

/-- A document with a name that can be told to a server. -/
structure IsTyped (doc : Json) : Prop where
  object : ∃ fields, doc = .object fields
  name : ∃ name : Text, fileName doc = .ok (.text name)
  uri : ∃ text : Text, uri doc = .ok text

variable {doc : Json}

lemma IsTyped.exists_fieldD (h : IsTyped doc) (key : Text) (default : Json) :
    ∃ value, doc.fieldD key default = .ok value := by
  obtain ⟨fields, rfl⟩ := h.object
  exact ⟨_, rfl⟩

lemma IsTyped.exists_item (h : IsTyped doc) :
    ∃ params text, item doc = .ok params ∧ Session.uriOf (.object [("textDocument", params)]) = .ok (.text text) := by
  obtain ⟨text, htext⟩ := h.uri
  obtain ⟨version, hversion⟩ : ∃ value, Document.version doc = .ok value := h.exists_fieldD _ _
  obtain ⟨content, hcontent⟩ : ∃ value, Document.content doc = .ok value := h.exists_fieldD _ _
  obtain ⟨language, hlanguage⟩ : ∃ value, language doc = .ok value := by
    obtain ⟨said, hsaid⟩ := h.exists_fieldD "languageId" .null
    obtain ⟨name, hname⟩ := h.name
    unfold language
    rw [Json.field, hsaid, hname]
    by_cases hholds : said.holds
    · exact ⟨said, by simp [hholds, bind, Except.bind, pure, Except.pure]⟩
    · exact ⟨Path.extension name, by simp [hholds, bind, Except.bind, pure, Except.pure, asPath]⟩
  unfold item
  rw [htext, hlanguage, hversion, hcontent]
  exact ⟨_, text, rfl, rfl⟩

lemma IsTyped.exists_identifier (h : IsTyped doc) :
    ∃ params text, identifier doc = .ok params ∧
      Session.uriOf (.object [("textDocument", params)]) = .ok (.text text) := by
  obtain ⟨text, htext⟩ := h.uri
  unfold identifier
  rw [htext]
  exact ⟨_, text, rfl, rfl⟩

lemma IsTyped.exists_changeParams (h : IsTyped doc) :
    ∃ params text, changeParams doc = .ok params ∧ Session.uriOf params = .ok (.text text) := by
  obtain ⟨text, htext⟩ := h.uri
  obtain ⟨version, hversion⟩ : ∃ value, Document.version doc = .ok value := h.exists_fieldD _ _
  obtain ⟨content, hcontent⟩ : ∃ value, Document.content doc = .ok value := h.exists_fieldD _ _
  unfold changeParams
  rw [htext, hversion, hcontent]
  exact ⟨_, text, rfl, rfl⟩

lemma IsTyped.exists_positionParams (h : IsTyped doc) (line col : Int) :
    ∃ params, positionParams doc (.int line) (.int col) = .ok params := by
  obtain ⟨params, -, hparams, -⟩ := h.exists_identifier
  unfold positionParams
  rw [hparams]
  exact ⟨_, rfl⟩

end Document

/-! Nothing goes wrong -/

namespace Act

variable {α β : Type} {a : Act α} {f : α → Act β}

/-- An action that comes to an end, and makes nothing of what the server of a session offers. -/
def Passes (id : SessionId) (a : Act α) (w : World) : Prop :=
  Ends a w fun r v => (∃ x, r = .ok x) ∧ v.sessions.length = w.sessions.length ∧
    (v.session id).capabilities = (w.session id).capabilities

lemma passes_pure (x : α) : Passes id (pure x) w := ⟨⟨x, rfl⟩, rfl, rfl⟩

lemma Passes.bind (h : Passes id a w) (hf : ∀ x v, v.sessions.length = w.sessions.length →
    (v.session id).capabilities = (w.session id).capabilities → Passes id (f x) v) : Passes id (a >>= f) w := by
  refine Ends.bind (h.mono ?_)
  rintro _ v ⟨⟨x, rfl⟩, hlength, hsame⟩
  refine next_ok ((hf x v hlength hsame).mono ?_)
  rintro r x ⟨hr, hlength', hsame'⟩
  exact ⟨hr, hlength'.trans hlength, hsame'.trans hsame⟩

lemma passes_check_bind {r : Checked α} {x : α} (hr : r = .ok x) (hf : Passes id (f x) w) :
    Passes id (check r >>= f) w := by
  subst hr
  exact hf

lemma passes_getSession_bind {f : Session → Act β} (hf : Passes id (f (w.session id)) w) :
    Passes id (getSession id >>= f) w := hf

lemma passes_updateSession {g : Session → Session} (hid : id < w.sessions.length)
    (hg : (g (w.session id)).capabilities = (w.session id).capabilities) : Passes id (updateSession id g) w := by
  refine ⟨⟨(), rfl⟩, List.length_set .., ?_⟩
  change ((w.setSession id _).session id).capabilities = _
  rw [session_setSession _ hid, hg]

end Act

namespace Session

/-- Whether what is known of the offers of a server is an object. -/
def isPlain (s : Session) : Bool := s.capabilities.all fun known => known.fields.toOption.isSome

lemma isPlain_congr {s t : Session} (h : t.capabilities = s.capabilities) (hs : s.isPlain) : t.isPlain := by
  rwa [isPlain, h]

lemma exists_field_of_isPlain {s : Session} (h : s.isPlain) {known : Json} (hk : s.capabilities = some known)
    (key : Text) : ∃ value, known.field key = .ok value := by
  rw [isPlain, hk, Option.all_some] at h
  unfold Json.field Json.fieldD Json.field?
  cases hf : known.fields with
  | error f => rw [hf] at h; cases h
  | ok fields => exact ⟨_, rfl⟩

lemma passes_log (source : Source) (level : Int) (text : Text) : Passes id (log source level text) w := by
  have hquiet := quiet_log w source (.int level) text none
  refine ⟨⟨(), rfl⟩, congrArg List.length hquiet.sessions, ?_⟩
  exact congrArg Session.capabilities (hquiet.session id)

lemma passes_put (item : Deferred) {b : Bool} (hitem : isLifecycle (Deferred.method item) = .ok b)
    (hid : id < w.sessions.length) : Passes id (put id item (Deferred.method item)) w := by
  refine (ends_put_given item hid).mono fun r v hv => ?_
  cases hv with
  | dropped _ alike =>
    exact ⟨⟨_, rfl⟩, congrArg List.length alike.sessions, by rw [World.session, World.session, alike.sessions]⟩
  | failed hf => cases hitem.symm.trans hf
  | deferred _ _ becomes =>
    refine ⟨⟨_, rfl⟩, becomes.length, ?_⟩
    rw [becomes.session]
    cases item <;> rfl
  | queued _ becomes =>
    refine ⟨⟨_, rfl⟩, becomes.length, ?_⟩
    rw [becomes.session]
    cases item <;> rfl

lemma passes_pushNotification (method : Text) (params : Json) (hid : id < w.sessions.length) :
    Passes id (pushNotification id method params) w :=
  passes_put (.inl ⟨method, params⟩) rfl hid

lemma passes_pushRequest (method : Text) (params timeout : Json) (handler : Option Handler)
    (hid : id < w.sessions.length) : Passes id (pushRequest id method params handler timeout) w :=
  passes_getSession_bind (passes_put (.inr _) rfl hid)

variable {params : Json} {uri : Text}

lemma passes_openDocument (hparams : uriOf params = .ok (.text uri)) (hid : id < w.sessions.length) :
    Passes id (openDocument id params) w := by
  refine passes_check_bind hparams (passes_check_bind (x := .text uri) rfl (passes_getSession_bind ?_))
  split
  next =>
    refine (passes_pushNotification _ params hid).bind fun accepted u hlength _ => ?_
    split
    next => exact passes_updateSession (hlength ▸ hid) rfl
    next => exact passes_pure ()
  next => exact passes_pure ()

lemma passes_closeDocument (hparams : uriOf params = .ok (.text uri)) (hid : id < w.sessions.length) :
    Passes id (closeDocument id params) w := by
  refine passes_check_bind (x := .text uri) (by rw [hparams]; rfl) (passes_getSession_bind ?_)
  split
  next =>
    refine (passes_pushNotification _ params hid).bind fun _ u hlength _ => ?_
    exact passes_updateSession (hlength ▸ hid) rfl
  next => exact passes_pure ()

lemma passes_changeDocument (hparams : uriOf params = .ok (.text uri)) (hid : id < w.sessions.length) :
    Passes id (changeDocument id params) w := by
  refine passes_check_bind (x := .text uri) (by rw [hparams]; rfl) (passes_getSession_bind ?_)
  split
  next => exact (passes_pushNotification _ params hid).bind fun _ _ _ _ => passes_pure ()
  next => exact passes_pure ()

end Session

namespace Features

variable {doc : Json}

lemma exists_supports {s : Session} (h : s.isPlain) :
    ∃ answer, Capability.supports s.capabilities "textDocument/completion" = .ok answer := by
  cases hk : s.capabilities with
  | none => exact ⟨_, rfl⟩
  | some known =>
    have hprovider : Capability.providerOf? "textDocument/completion" =
        some ("completionProvider" : Text) := by
      decide
    obtain ⟨value, hvalue⟩ := Session.exists_field_of_isPlain h hk "completionProvider"
    simp only [Capability.supports, hprovider, hvalue]
    exact ⟨_, rfl⟩

lemma exists_firstEnabled {s : Session} (h : s.isPlain) {known : Json} (hk : s.capabilities = some known)
    (methods : List (Text × Text)) : ∃ method, firstEnabled known methods = .ok method := by
  induction methods with
  | nil => exact ⟨none, rfl⟩
  | cons entry rest ih =>
    obtain ⟨value, hvalue⟩ := Session.exists_field_of_isPlain h hk entry.2
    obtain ⟨found, hfound⟩ := ih
    unfold firstEnabled
    rw [hvalue]
    by_cases henabled : Capability.enabled value
    · exact ⟨some entry.1, by simp [henabled, bind, Except.bind, pure, Except.pure]⟩
    · exact ⟨found, by simp [henabled, hfound, bind, Except.bind]⟩

lemma passes_completeWith (hdoc : Document.IsTyped doc) (line col : Int) (hid : id < w.sessions.length)
    (h : (w.session id).isPlain) : Passes id (completeWith doc (.int line) (.int col) id) w := by
  obtain ⟨params, uri, hparams, huri⟩ := hdoc.exists_changeParams
  refine passes_check_bind hparams ((Session.passes_changeDocument huri hid).bind fun _ u hlength hsame => ?_)
  obtain ⟨answer, hanswer⟩ := exists_supports (Session.isPlain_congr hsame h)
  refine passes_getSession_bind (passes_check_bind hanswer ?_)
  split
  next => exact passes_pure ()
  next =>
    obtain ⟨position, hposition⟩ := hdoc.exists_positionParams line col
    refine passes_check_bind hposition ?_
    exact (Session.passes_pushRequest _ position .null _ (hlength ▸ hid)).bind fun _ _ _ _ => passes_pure ()
  next => exact passes_getSession_bind (Session.passes_log _ _ _)

lemma passes_goToWith (hdoc : Document.IsTyped doc) (line col : Int) (implementation : Bool)
    (hid : id < w.sessions.length) (h : (w.session id).isPlain) :
    Passes id (goToWith doc (.int line) (.int col) implementation id) w := by
  refine passes_getSession_bind ?_
  split
  next => exact passes_pure ()
  next known hk =>
    obtain ⟨method, hmethod⟩ := exists_firstEnabled h hk
      (if implementation then implementationMethods else definitionMethods)
    refine passes_check_bind hmethod ?_
    cases method with
    | none => exact passes_getSession_bind (Session.passes_log _ _ _)
    | some method =>
      obtain ⟨position, hposition⟩ := hdoc.exists_positionParams line col
      refine passes_check_bind hposition ?_
      exact (Session.passes_pushRequest _ position .null _ hid).bind fun _ _ _ _ => passes_pure ()

end Features

/-! Two worlds at once -/

namespace World

/-- Whether of each session of a server the offers are known as an object, if they are known. -/
def isPlain (k : Option Json.Key) (w : World) : Bool :=
  w.sessions.all fun s => s.name.key? ≠ k || s.isPlain

lemma Lists.isPlain {ids : List SessionId} (h : w.Lists k ids) (hw : w.isPlain k) (hid : id ∉ ids) :
    (w.session id).isPlain := by
  by_cases hlt : id < w.sessions.length
  · have hmem : w.session id ∈ w.sessions := by
      rw [session, List.getD_eq_getElem?_getD, List.getElem?_eq_getElem hlt]
      exact List.getElem_mem hlt
    have hplain := List.all_eq_true.mp hw _ hmem
    simpa [(h.key_eq_iff hlt).mpr hid] using hplain
  · rw [session, List.getD_eq_getElem?_getD, List.getElem?_eq_none (Nat.le_of_not_lt hlt)]
    rfl

end World

namespace Registry

lemma activeAmong_eq (hw : ∀ id, (w.session id).Reads) (name : Text) (running : List (Json × SessionId)) :
    activeAmong w (.text name) running = .ok (running.filter fun e => (w.session e.2).isFor name) := by
  induction running with
  | nil => rfl
  | cons entry rest ih =>
    obtain ⟨b, hb⟩ := hw entry.2 name
    unfold activeAmong
    dsimp only
    rw [hb, ih, List.filter_cons, Session.isFor, hb]
    cases b <;> rfl

end Registry

namespace Features

variable {doc : Json}

lemma run_sessionsFor (hw : ∀ id, (w.session id).Reads) {name : Text}
    (hname : Document.fileName doc = .ok (.text name)) : (sessionsFor doc).run w =
      (.ok ((w.running.filter fun e => (w.session e.2).isFor name).map (·.2)), w) := by
  obtain ⟨hresult, -, hfor⟩ := ends_sessionsFor doc w
  exact Prod.ext (hfor _ _ hname (Registry.activeAmong_eq hw name w.running)) hresult

/-- What is done with the sessions for a document. -/
lemma parallel_sessionsFor_bind {f : List SessionId → Act Unit} (hdoc : Document.IsTyped doc) (h : Matched k ps w v)
    (hf : ∀ {L L'}, Aligned k ps w.sessions.length v.sessions.length L L' →
      Parallel k (f (L.map (·.2))) (f (L'.map (·.2))) w v) :
    Parallel k (sessionsFor doc >>= f) (sessionsFor doc >>= f) w v := by
  obtain ⟨name, hname⟩ := hdoc.name
  have hw := run_sessionsFor h.left.reads hname
  have hv := run_sessionsFor h.right.reads hname
  have haligned := h.running.filter (P := fun e => (w.session e.2).isFor name)
    (Q := fun e => (v.session e.2).isFor name) fun _ p _ hp => by rw [(h.twin p hp).session]
  refine Parallel.bind_left (congrArg Prod.fst hw) (Parallel.symm (Parallel.bind_left (congrArg Prod.fst hv) ?_))
  rw [after, after, hw, hv]
  exact (hf haligned).symm

lemma parallel_openIn (hdoc : Document.IsTyped doc) (h : Matched k ps w v) {L L' : List (Json × SessionId)}
    (hL : Aligned k ps w.sessions.length v.sessions.length L L') :
    Parallel k (openIn doc (L.map (·.2))) (openIn doc (L'.map (·.2))) w v := by
  obtain ⟨item, uri, hitem, huri⟩ := hdoc.exists_item
  refine parallel_each (f := openIn doc) (a := fun id => Session.openDocument id (.object [("textDocument", item)]))
    (P := fun _ => True) rfl (fun id rest => ?_) (Session.local_openDocument _) (fun id u hid _ => ?_) hL h rfl rfl
    (fun _ _ => trivial) fun _ _ => trivial
  · rw [openIn, hitem]
    rfl
  · exact ⟨(Session.passes_openDocument huri hid).1, trivial⟩

lemma parallel_closeDocument (hdoc : Document.IsTyped doc) (h : Matched k ps w v) :
    Parallel k (closeDocument doc) (closeDocument doc) w v := by
  obtain ⟨identifier, uri, hidentifier, huri⟩ := hdoc.exists_identifier
  refine parallel_sessionsFor_bind hdoc h fun hL => parallel_each (f := closeIn doc)
    (a := fun id => Session.closeDocument id (.object [("textDocument", identifier)]))
    (P := fun _ => True) rfl (fun id rest => ?_) (Session.local_closeDocument _) (fun id u hid _ => ?_) hL h rfl rfl
    (fun _ _ => trivial) fun _ _ => trivial
  · rw [closeIn, hidentifier]
    rfl
  · exact ⟨(Session.passes_closeDocument huri hid).1, trivial⟩

/-- Sessions of the one server that are asked for something do not get in the way of the others. -/
lemma parallel_asking {f : List SessionId → Act Unit} {a : SessionId → Act Unit} (hnil : f [] = pure ())
    (hcons : ∀ id rest, f (id :: rest) = a id >>= fun _ => f rest) (ha : Local a)
    (hpasses : ∀ id u, id < u.sessions.length → (u.session id).isPlain → Passes id (a id) u)
    (hdoc : Document.IsTyped doc) (h : Matched k ps w v) (hw : w.isPlain k) (hv : v.isPlain k) :
    Parallel k (sessionsFor doc >>= f) (sessionsFor doc >>= f) w v := by
  refine parallel_sessionsFor_bind hdoc h fun hL => parallel_each (P := fun s => s.isPlain) hnil hcons ha
    (fun id u hid hu => ?_) hL h rfl rfl (fun _ => h.left.isPlain hw) fun _ => h.right.isPlain hv
  obtain ⟨hok, -, hsame⟩ := hpasses id u hid hu
  exact ⟨hok, Session.isPlain_congr hsame hu⟩

lemma parallel_requestCompletion (hdoc : Document.IsTyped doc) (line col : Int) (h : Matched k ps w v)
    (hw : w.isPlain k) (hv : v.isPlain k) : Parallel k (requestCompletion doc (.int line) (.int col))
      (requestCompletion doc (.int line) (.int col)) w v :=
  parallel_asking (f := completeIn doc (.int line) (.int col)) rfl (fun _ _ => rfl) (local_completeWith doc _ _)
    (fun _ _ => passes_completeWith hdoc line col) hdoc h hw hv

lemma parallel_goTo (hdoc : Document.IsTyped doc) (line col : Int) (implementation : Bool) (h : Matched k ps w v)
    (hw : w.isPlain k) (hv : v.isPlain k) : Parallel k (goTo doc (.int line) (.int col) implementation)
      (goTo doc (.int line) (.int col) implementation) w v :=
  parallel_asking (f := goToIn doc (.int line) (.int col) implementation) rfl (fun _ _ => rfl)
    (local_goToWith doc _ _ implementation) (fun _ _ => passes_goToWith hdoc line col implementation) hdoc h hw hv

end Features

end LanguageClient
