import LanguageClient.Proofs.Registry.Launching

/-!
Performing. Whatever a host does, and whatever its callbacks do within that, the links of a tidy world
are tended.
-/

namespace LanguageClient

open Act World

variable {call : Caller} {id : SessionId}

/-! Opening a session -/

namespace Session

lemma tended_callBack (hc : Minds call) (callback : Option Callback) (ticket : Nat) (response : Json) :
    Tended (callBack call callback id ticket response) := by
  cases callback with
  | some callback => exact hc _
  | none => exact within_pure ()

lemma tended_openingRefused (hc : Minds call) (callback : Option Callback) (ticket : Nat)
    (error response : Json) : Tended (openingRefused call callback id ticket error response) := by
  refine (tended_callBack hc _ _ _).bind fun _ => tended_getSession_bind fun s => ?_
  split
  next => exact within_pure ()
  next =>
    refine within_check_bind fun code _ => within_check_bind fun text _ => ?_
    exact (tended_log _ _ _).bind fun _ => tended_updateSession fun s => .of_eq (by rfl)

lemma tended_learn (result : Json) : Tended (learn id result) := by
  unfold learn
  split
  next =>
    refine within_check_bind fun capabilities _ => (tended_updateSession fun s => .of_eq (by rfl)).bind fun _ => ?_
    exact within_check_bind fun info _ => tended_updateSession fun s => .of_eq (by rfl)
  next => exact tended_updateSession fun s => .of_eq (by rfl)

lemma tended_announce : Tended (announce id) := by
  refine tended_getSession_bind fun s => (tended_note _).bind fun _ => ?_
  exact tended_updateSession fun s => .of_eq (by rfl)

lemma tended_openingAccepted (hc : Minds call) (callback : Option Callback) (ticket : Nat)
    (response : Json) : Tended (openingAccepted call callback id ticket response) := by
  have hrest : ∀ s : Session, Tended (do
      learn id (← Act.check (response.field "result"))
      log .client Level.info (s.tag ++ "Initialized 🚀")
      announce id
      callBack call callback id ticket response
      let _ ← fireEvent call id "initialized" []) := fun s => by
    refine within_check_bind fun result _ => (tended_learn _).bind fun _ => ?_
    refine (tended_log _ _ _).bind fun _ => tended_announce.bind fun _ => ?_
    exact (tended_callBack hc _ _ _).bind fun _ => (tended_fireEvent hc _ _).bind fun _ => within_pure ()
  refine within_getSession_bind fun w hw => ?_
  split
  next => exact (tended_note _).mono fun _ hv => hv ▸ hw
  next hs =>
    rw [not_not] at hs
    have hopened : (w.session id).Lingers { w.session id with status := .initialized } :=
      ⟨rfl, rfl, by rw [hs]; rfl, nofun, nofun, Nat.le_refl _⟩
    refine Within.bind_of (fun v hv => ?_) fun _ => hrest (w.session id)
    rw [show v = w from hv]
    have htends := tends_setSession hopened
    exact ⟨htends, htends.tidy hw⟩

lemma tended_openingAnswered (hc : Minds call) (callback : Option Callback) (ticket : Nat)
    (response : Json) : Tended (openingAnswered call callback id ticket response) := by
  refine within_check_bind fun error _ => ?_
  split
  next => exact tended_openingRefused hc _ _ _ _
  next => exact tended_openingAccepted hc _ _ _

end Session

/-! Sessions -/

/-- A tidy world in which that session has its link. -/
structure World.Serves (id : SessionId) (w : World) : Prop where
  houses : w.Houses id
  linked : (w.session id).link.isSome
  begun : (w.session id).status ≠ .uninitialized

lemma World.IsTidy.serves {w : World} (h : w.IsTidy) {entry : Json × SessionId} (he : entry ∈ w.running) :
    w.Serves entry.2 := by
  obtain ⟨hlt, hruns⟩ := h.sessions entry he
  exact ⟨⟨h, hlt⟩, hruns.linked, hruns.begun⟩

lemma World.Tends.serves {v w : World} (h : v.Tends w) (hv : v.Serves id) : w.Serves id :=
  have hends := h.endures id hv.houses.lt
  ⟨Stable.step h hv.houses, hends.linked hv.linked, hends.begun hv.begun⟩

namespace Act

variable {α β : Type}

lemma Tended.serving {a : Act α} (h : Tended a) : Within Tends (Serves id) a :=
  h.mono fun _ hw => hw.houses.tidy

end Act

lemma tended_onEvent (name : Json) (callback : Option Callback) : Tended (onEvent id name callback) :=
  within_check_bind fun _ _ => tended_updateSession fun _ => .of_eq (by rfl)

lemma tended_onMethod (name : Json) (callback : Option Callback) : Tended (onMethod id name callback) :=
  within_check_bind fun _ _ => tended_updateSession fun _ => .of_eq (by rfl)

lemma tended_logMessage (message level : Json) : Tended (logMessage id message level) := by
  unfold logMessage
  split
  next => exact tended_getSession_bind fun s => tended_logAt _ _ _
  next => exact within_throw _

lemma tended_register (requestId method : Json) (callback : Option Callback) (timeout : Json) :
    Tended (register id requestId method callback timeout) := by
  refine tended_get_bind fun w _ => within_check_bind fun p _ => ?_
  exact (tended_updateSession fun s => .of_eq (by rfl)).bind fun _ => within_pure _

lemma tended_nextId : Tended (nextId id) :=
  (tended_updateSession Session.lingers_advance).bind fun _ => tended_getSession_bind fun _ => within_pure _

/-- A session that has its link is not started again. -/
lemma serving_start : Within Tends (Serves id) (Session.start id) := by
  refine within_getSession_bind fun w hw => ?_
  rw [if_pos hw.linked]
  exact within_pure ()

lemma serving_handshake (rootUri name version : Json) (callback : Option Callback) :
    Within Tends (Serves id) (Session.handshake id rootUri name version callback) := by
  refine within_getSession_bind fun w hw => ?_
  rw [if_pos hw.begun]
  exact ((tended_log _ _ _).mono fun v (hv : v = w) => hv ▸ hw.houses.tidy).bind_any fun _ => within_pure ()

lemma serving_performSession (hc : Minds call) (a : SessionAction) :
    Within Tends (Serves id) (performSession call id a) := by
  have hanswer : ∀ {α : Type} {a : Act α} {f : α → Answer}, Within Tends (Serves id) a →
      Within Tends (Serves id) (do return f (← a)) := fun h => h.bind_any fun _ => within_pure _
  cases a
  case start => exact hanswer serving_start
  case handshake => exact hanswer (serving_handshake _ _ _ _)
  case shutdown timeout =>
    refine hanswer (within_of_ends fun w hw => ?_)
    exact (Session.tends_shutdown hc timeout hw.houses).mono fun _ _ h => h.1
  case teardown reason timeout =>
    refine hanswer (within_of_ends fun w hw => ?_)
    exact (Session.tends_teardown hc reason timeout hw.houses).mono fun _ _ h => h.2.1
  case tick => exact hanswer ((Session.tended_tick hc).mono fun _ hw => hw.houses)
  case readMessages => exact hanswer Session.tended_readMessages.serving
  case sendNotifications => exact hanswer Session.tended_sendNotifications.serving
  case sendRequests => exact hanswer Session.tended_sendRequests.serving
  case dispatchResponses => exact hanswer (Session.tended_dispatchResponses hc).serving
  case dispatchErrors => exact hanswer (Session.tended_dispatchErrors hc).serving
  case dispatchTimeouts => exact hanswer (Session.tended_expire hc _).serving
  case pushNotification => exact hanswer (Session.tended_pushNotification _ _).serving
  case pushRequest => exact hanswer (Session.tended_pushRequest _ _ _ _).serving
  case openDocument => exact hanswer (Session.tended_openDocument _).serving
  case closeDocument => exact hanswer (Session.tended_closeDocument _).serving
  case changeDocument => exact hanswer (Session.tended_changeDocument _).serving
  case isDocumentOpen => exact Tended.serving (within_check_bind fun key _ => tended_ask)
  case complete => exact hanswer (Session.tended_complete _ _).serving
  case goTo => exact hanswer (Session.tended_goTo _ _ _).serving
  case supports =>
    exact (tended_getSession_bind fun s => within_check_bind fun _ _ => within_pure _).serving
  case itemKind =>
    rw [performSession]
    split
    next => exact within_pure _
    next => exact within_check_bind fun _ _ => within_pure _
  case phase => exact (tended_getSession_bind fun s => within_pure _).serving
  case onEvent => exact hanswer (tended_onEvent _ _).serving
  case onMethod => exact hanswer (tended_onMethod _ _).serving
  case log => exact hanswer (tended_logMessage _ _).serving
  case nextId => exact hanswer tended_nextId.serving
  case register => exact (tended_register _ _ _ _).serving
  case resolve => exact hanswer (Session.tended_resolve hc _ _).serving
  case failAll => exact hanswer (Session.tended_failAll hc _ _).serving
  case expire => exact hanswer (Session.tended_expire hc _).serving
  case contains => exact Tended.serving (within_check_bind fun key _ => tended_ask)
  case hasMethod => exact Tended.serving (within_check_bind fun key _ => tended_ask)
  case fireEvent => exact hanswer (Session.tended_fireEvent hc _ _).serving
  case fireMethod => exact hanswer (Session.tended_fireMethod hc _ _).serving
  case breakTick => exact hanswer (tended_updateSession fun s => .of_eq (by rfl)).serving
  all_goals exact tended_ask.serving

lemma serving_performNoted (hc : Minds call) (a : SessionAction) :
    Within Tends (Serves id) (performNoted call id a) := by
  refine within_getSession_bind fun w hw => Within.bind_of (Q := IsTidy) (fun v hv => ?_) fun result => ?_
  · have htends := (serving_performSession hc a).attempt.after v (hv ▸ hw)
    exact ⟨htends, htends.tidy (hv ▸ hw.houses.tidy)⟩
  · refine tended_getSession_bind fun s => (tended_note _).bind fun _ => ?_
    exact within_check result

/-! The registry -/

namespace Registry

lemma putServer_keyed {name : Json} {config : Fields} (h : name.key? = (config.getD "name" .null).key?)
    {servers : List (Json × Fields)}
    (hs : ∀ entry ∈ servers, entry.1.key? = (entry.2.getD "name" .null).key?) :
    ∀ entry ∈ putServer name config servers, entry.1.key? = (entry.2.getD "name" .null).key? := by
  induction servers with
  | nil =>
    intro entry he
    obtain rfl := List.mem_singleton.mp he
    exact h
  | cons entry rest ih =>
    rw [List.forall_mem_cons] at hs
    rw [putServer]
    split
    next hkey => exact List.forall_mem_cons.mpr ⟨hkey.trans h, hs.2⟩
    next => exact List.forall_mem_cons.mpr ⟨hs.1, ih hs.2⟩

lemma tended_addServer (config : Json) : Tended (addServer config) := by
  refine within_check_bind fun fields _ => within_check_bind fun key _ => within_modify fun w _ => ?_
  exact {
    Tends.refl w with
    forgets := fun _ h => ⟨h.few, h.linked, h.live, h.absent⟩
    strands := fun _ h => ⟨⟨h.linked, h.leaving, h.few⟩, fun ht => ht⟩
    adds := ⟨[], rfl, by simp⟩
    tidy := fun h => { h with servers := putServer_keyed rfl h.servers } }

lemma tended_active (fileName : Json) : Tended (active fileName) :=
  tended_get_bind fun _ _ => within_check _

/-- A session that has ended is forgotten by nobody when it is removed. -/
lemma tends_remove {w : World} (name : Json) (hs : (w.session id).status.isLeaving) :
    w.Tends (remove name id w) := by
  have hsub : (remove name id w).running.Sublist w.running := List.filter_sublist
  exact {
    Tends.refl w with
    forgets := fun other h => by
      have ho : other ≠ id := fun ho => by
        have hlive := h.live
        rw [ho, show (remove name id w).session id = w.session id from rfl, hs] at hlive
        cases hlive
      refine ⟨h.few, h.linked, h.live, fun entry he hentry => h.absent entry ?_ hentry⟩
      refine List.mem_filter.mpr ⟨he, ?_⟩
      simp [hentry, ho]
    strands := fun _ h => ⟨⟨h.linked, h.leaving, h.few⟩, fun ht => ht⟩
    running := fun entry h => .inl (hsub.subset h)
    adds := ⟨[], rfl, by simp⟩
    tidy := fun h => h.of_eq rfl (fun _ _ => .refl _) hsub rfl }

lemma tended_tickEach (hc : Minds call) (entries : List (Json × SessionId)) :
    Within Tends (fun w => w.IsTidy ∧ ∀ entry ∈ entries, entry.2 < w.sessions.length)
      (tickEach call entries) := by
  induction entries with
  | nil => exact within_pure ()
  | cons entry rest ih =>
    obtain ⟨name, id⟩ := entry
    have hstable : ∀ {v w : World}, v.Tends w →
        (v.IsTidy ∧ ∀ entry ∈ rest, entry.2 < v.sessions.length) →
        w.IsTidy ∧ ∀ entry ∈ rest, entry.2 < w.sessions.length := fun h hv =>
      ⟨h.tidy hv.1, fun entry he => Nat.lt_of_lt_of_le (hv.2 entry he) h.length⟩
    have : Stable Tends fun w : World => w.IsTidy ∧ ∀ entry ∈ rest, entry.2 < w.sessions.length :=
      ⟨hstable⟩
    refine Within.bind_mono (Q := fun w => w.IsTidy ∧ ∀ entry ∈ rest, entry.2 < w.sessions.length)
      (((Session.tended_tick hc).attempt).mono fun w hw => ⟨hw.1, hw.2 _ List.mem_cons_self⟩)
      (fun w hw => ⟨hw.1, (List.forall_mem_cons.mp hw.2).2⟩) fun result => ?_
    have hnext : Within Tends (fun w : World => w.IsTidy ∧ ∀ entry ∈ rest, entry.2 < w.sessions.length) (do
        if (← getSession id).status = .terminated then
          modify (remove name id)
          log .client Level.debug ("[" ++ name.display ++ "] Removed from running servers")
        tickEach call rest) := by
      refine within_getSession_bind fun w hw => ?_
      split
      next hs =>
        refine Within.bind_of (fun v hv => ?_) fun _ =>
          ((tended_log _ _ _).mono fun _ h => h.1).bind_mono (fun _ h => h) fun _ => ih
        rw [show v = w from hv]
        have hleaving : (w.session id).status.isLeaving := by rw [hs]; rfl
        have htends : w.Tends _ := tends_remove name hleaving
        exact ⟨htends, hstable htends hw⟩
      next => exact ih.mono fun _ hv => hv ▸ hw
    cases result with
    | ok _ => exact (within_pure ()).bind fun _ => hnext
    | error f => exact ((tended_logFault _ _ f).mono fun _ h => h.1).bind_mono (fun _ h => h) fun _ => hnext

lemma tended_process (hc : Minds call) : Tended (process call) := by
  refine within_get_bind fun w hw => ?_
  split
  next => exact within_throw _
  next =>
    refine (tended_tickEach hc w.running).mono fun v hv => ?_
    rw [show v = w from hv]
    exact ⟨hw, fun entry he => (hw.sessions entry he).1⟩

/-- Each session in turn is shut down, and is on its way out or gone in the end. -/
lemma tends_shutdownEach (hc : Minds call) (timeout : Json) (entries : List (Json × SessionId)) {w : World}
    (hw : w.IsTidy) (hlt : ∀ entry ∈ entries, entry.2 < w.sessions.length) :
    Ends (shutdownEach call timeout entries) w fun result v => w.Tends v ∧
      ((∀ id, (v.session id).correlator.lastId < numberLimit) → result = .ok () ∧
        ∀ entry ∈ entries, (v.session entry.2).status.isLeaving) := by
  induction entries generalizing w with
  | nil => exact ends_pure ⟨.refl w, fun _ => ⟨rfl, by simp⟩⟩
  | cons entry rest ih =>
    obtain ⟨hid, hrest⟩ := List.forall_mem_cons.mp hlt
    refine Ends.bind ((Session.tends_shutdown hc timeout ⟨hw, hid⟩).mono ?_)
    rintro result u ⟨hwu, hleaving, hok⟩
    cases result with
    | error f =>
      refine ⟨hwu, fun few => ?_⟩
      cases hok (few entry.2)
    | ok _ =>
      refine next_ok ((ih (hwu.tidy hw) fun e he => Nat.lt_of_lt_of_le (hrest e he) hwu.length).mono ?_)
      rintro result v ⟨huv, hall⟩
      refine ⟨hwu.trans huv, fun few => ⟨(hall few).1, List.forall_mem_cons.mpr ⟨?_, (hall few).2⟩⟩⟩
      exact (huv.endures _ (Nat.lt_of_lt_of_le hid hwu.length)).leaving hleaving

/-- When the registry is shut down, every session that was running is on its way out or gone, and what
runs was launched meanwhile. -/
lemma tends_shutdown (hc : Minds call) (timeout : Json) {w : World} (hw : w.IsTidy) :
    Ends (shutdown call timeout) w fun result v => w.Tends v ∧ (v.HasNumbers → result = .ok ()) ∧
      ∀ entry ∈ v.running, w.sessions.length ≤ entry.2 ∧ ∃ name, .launched entry.2 name ∈ v.events := by
  obtain ⟨u, hu⟩ : ∃ u : World, u = { w with running := [] } := ⟨_, rfl⟩
  have hsession : ∀ id, u.session id = w.session id := fun id => hu ▸ rfl
  have hlength : u.sessions.length = w.sessions.length := hu ▸ rfl
  have hevents : u.events = w.events := hu ▸ rfl
  have htidy : u.IsTidy := hw.of_eq hlength (fun id _ => hsession id ▸ .refl _)
    (hu ▸ List.nil_sublist _) (hu ▸ rfl)
  have hlt : ∀ entry ∈ w.running, entry.2 < u.sessions.length := fun entry he =>
    hlength ▸ (hw.sessions entry he).1
  refine ends_get_bind (Ends.bind ?_)
  change Next _ _ (.ok ()) { w with running := [] }
  rw [← hu]
  refine next_ok ((tends_shutdownEach hc timeout w.running htidy hlt).mono fun result v hv => ?_)
  obtain ⟨huv, hall⟩ := hv
  have hnew : ∀ entry ∈ v.running,
      w.sessions.length ≤ entry.2 ∧ ∃ name, .launched entry.2 name ∈ v.events := fun entry he => by
    rw [← hlength]
    exact (huv.running entry he).resolve_left fun h => by simp [hu] at h
  refine ⟨?_, fun few => (hall few).1, hnew⟩
  exact {
    huv with
    length := hlength ▸ huv.length
    endures := fun id hid => hsession id ▸ huv.endures id (hlength ▸ hid)
    forgets := fun id h => by
      obtain ⟨few, hlinked, hlive, -⟩ := huv.forgets id h
      rw [hsession] at hlinked hlive
      refine ⟨fun id => hsession id ▸ few id, hlinked, hlive, fun entry he ho => ?_⟩
      have hleaving := (hall h.few).2 entry he
      rw [ho, h.live] at hleaving
      cases hleaving
    strands := fun id h => by
      obtain ⟨⟨hlinked, hleaving, few⟩, hended⟩ := huv.strands id h
      rw [hsession] at hlinked hleaving few hended
      exact ⟨⟨hlinked, hleaving, few⟩, hended⟩
    running := fun entry h => .inr (hnew entry h)
    tidy := fun _ => huv.tidy htidy
    accounts := fun h => huv.accounts fun link hl => by
      rw [hevents] at hl
      rw [hsession]
      exact h link hl
    adds := by
      obtain ⟨new, hadds, hopens⟩ := huv.adds
      exact ⟨new, hevents ▸ hadds, fun id name hl => (hopens id name hl).before (Nat.le_of_eq hlength.symm)⟩
    shut := fun id h => hsession id ▸ huv.shut id h }

end Registry

/-! Features -/

namespace Features

lemma tended_say (text : Text) : Tended (say id text) :=
  tended_getSession_bind fun _ => tended_log _ _ _

lemma tended_sayQuietly (text : Text) : Tended (sayQuietly id text) :=
  tended_getSession_bind fun _ => tended_log _ _ _

lemma tended_onLogMessage (params : Json) : Tended (onLogMessage id params) := by
  unfold onLogMessage
  dsimp only
  split
  next => exact tended_say _
  next => exact within_pure ()

lemma tended_onReady : Tended (onReady id) := by
  refine (tended_say _).bind fun _ => tended_getSession_bind fun s => ?_
  have htriggers : Tended (do
      if s.triggers.holds then
        if s.isVerbose then
          let shown ← Act.check (joined s.triggers)
          log .client Level.info (s.tag ++ "Adding triggers for '" ++ s.language.display ++ "' - " ++ shown)
        askHost id (.triggered s.language s.filePatterns s.triggers)) := by
    have hlast : Tended (askHost id (.triggered s.language s.filePatterns s.triggers)) :=
      tended_askHost rfl
    split
    next =>
      split
      next => exact within_check_bind fun shown _ => (tended_log _ _ _).bind fun _ => hlast
      next => exact hlast
    next => exact within_pure ()
  dsimp only
  split
  next => exact (Session.tended_pushNotification _ _).bind fun _ => htriggers
  next => exact htriggers

lemma tended_offer (items : Json) : Tended (offer id items) := by
  unfold offer
  split
  next => exact tended_getSession_bind fun s => within_check_bind fun _ _ => tended_askHost rfl
  next => exact within_pure ()

lemma tended_onCompletion (response : Json) : Tended (onCompletion id response) := by
  refine within_check_bind fun failure _ => ?_
  split
  next => exact tended_sayQuietly _
  next =>
    refine within_check_bind fun result _ => ?_
    split
    next =>
      split
      next => exact tended_sayQuietly _
      next => exact tended_offer _
    next => exact tended_offer _

lemma tended_onGoTo (method : Text) (response : Json) : Tended (onGoTo method id response) := by
  refine within_check_bind fun failure _ => ?_
  split
  next => exact tended_say _
  next =>
    refine within_check_bind fun result _ => ?_
    dsimp only
    split
    next => exact tended_say _
    next =>
      refine within_check_bind fun range _ => within_check_bind fun path _ => ?_
      exact within_check_bind fun line _ => within_check_bind fun col _ => tended_askHost rfl

lemma tended_sessionsFor (doc : Json) : Tended (sessionsFor doc) :=
  within_check_bind fun _ _ => (Registry.tended_active _).bind fun _ => within_pure _

lemma tended_openIn (doc : Json) (ids : List SessionId) : Tended (openIn doc ids) := by
  induction ids with
  | nil => exact within_pure ()
  | cons id rest ih =>
    exact within_check_bind fun item _ => (Session.tended_openDocument _).bind fun _ => ih

lemma tended_openDocument (doc : Json) : Tended (openDocument doc) := by
  refine within_check_bind fun fileName _ => tended_get_bind fun w _ => ?_
  refine (Registry.tended_start _ _).bind fun _ => (tended_sessionsFor doc).bind fun ids => ?_
  exact tended_openIn doc ids

lemma tended_closeIn (doc : Json) (ids : List SessionId) : Tended (closeIn doc ids) := by
  induction ids with
  | nil => exact within_pure ()
  | cons id rest ih =>
    exact within_check_bind fun item _ => (Session.tended_closeDocument _).bind fun _ => ih

lemma tended_closeDocument (doc : Json) : Tended (closeDocument doc) :=
  (tended_sessionsFor doc).bind fun ids => tended_closeIn doc ids

lemma tended_completeWith (doc line col : Json) : Tended (completeWith doc line col id) := by
  refine within_check_bind fun params _ => (Session.tended_changeDocument _).bind fun _ => ?_
  refine tended_getSession_bind fun s => within_check_bind fun supported _ => ?_
  split
  next => exact within_pure ()
  next => exact within_check_bind fun position _ => Session.tended_complete _ _
  next => exact tended_sayQuietly _

lemma tended_completeIn (doc line col : Json) (ids : List SessionId) :
    Tended (completeIn doc line col ids) := by
  induction ids with
  | nil => exact within_pure ()
  | cons id rest ih => exact (tended_completeWith doc line col).bind fun _ => ih

lemma tended_requestCompletion (doc line col : Json) : Tended (requestCompletion doc line col) :=
  (tended_sessionsFor doc).bind fun ids => tended_completeIn doc line col ids

lemma tended_goToWith (doc line col : Json) (implementation : Bool) :
    Tended (goToWith doc line col implementation id) := by
  refine tended_getSession_bind fun s => ?_
  split
  next => exact within_pure ()
  next =>
    refine within_check_bind fun method _ => ?_
    split
    next => exact tended_say _
    next => exact within_check_bind fun position _ => Session.tended_goTo _ _ _

lemma tended_goToIn (doc line col : Json) (implementation : Bool) (ids : List SessionId) :
    Tended (goToIn doc line col implementation ids) := by
  induction ids with
  | nil => exact within_pure ()
  | cons id rest ih => exact (tended_goToWith doc line col implementation).bind fun _ => ih

lemma tended_goTo (doc line col : Json) (implementation : Bool) :
    Tended (goTo doc line col implementation) :=
  (tended_sessionsFor doc).bind fun ids => tended_goToIn doc line col implementation ids

lemma tended_textInput (doc selection : Json) : Tended (textInput doc selection) := by
  refine within_check_bind fun caret _ => ?_
  split
  next => exact tended_requestCompletion _ _ _
  next => exact within_pure ()

lemma tended_goToSelected (implementation : Bool) (doc selection : Json) :
    Tended (goToSelected implementation doc selection) := by
  refine within_check_bind fun caret _ => ?_
  split
  next => exact tended_goTo _ _ _ _
  next => exact within_pure ()

end Features

lemma tended_performFeature (a : FeatureAction) : Tended (performFeature a) := by
  cases a with
  | openDocument doc => exact Features.tended_openDocument doc
  | closeDocument doc => exact Features.tended_closeDocument doc
  | requestCompletion doc line col => exact Features.tended_requestCompletion doc line col
  | goTo doc line col implementation => exact Features.tended_goTo doc line col _
  | textInput doc selection | complete doc selection => exact Features.tended_textInput doc selection
  | goToDefinition doc selection | goToImplementation doc selection =>
    exact Features.tended_goToSelected _ doc selection

lemma tended_performRegistry (hc : Minds call) (a : RegistryAction) : Tended (performRegistry call a) := by
  cases a with
  | addServer config => exact (Registry.tended_addServer config).answers
  | servers => exact tended_get_bind fun w _ => within_pure _
  | active fileName => exact (Registry.tended_active fileName).bind fun _ => within_pure _
  | start fileName project =>
    exact (Registry.tended_start _ _).bind fun ids => tended_get_bind fun w _ => within_pure _
  | process => exact (Registry.tended_process hc).answers
  | shutdown timeout =>
    refine Tended.answers (within_of_ends fun w hw => ?_)
    exact (Registry.tends_shutdown hc timeout hw).mono fun _ _ h => h.1
  | breakProcess message =>
    exact Tended.answers (tended_modify (fun _ => rfl) (fun _ => rfl) (fun _ => rfl) fun _ => rfl)

/-! The scheduler and the application -/

namespace Schedule

lemma tended_setRunning (b : Bool) : Tended (setRunning b) :=
  tended_modify (fun _ => rfl) (fun _ => rfl) (fun _ => rfl) fun _ => rfl

lemma tended_isRunning : Tended isRunning := tended_get_bind fun _ _ => within_pure _

lemma tended_runOnce (hc : Minds call) : Tended (runOnce call) := by
  refine Within.bind (Registry.tended_process hc).attempt fun result => ?_
  cases result with
  | ok _ => exact within_pure ()
  | error f => exact tended_logFault _ _ _

lemma tended_start (hc : Minds call) : Tended (start call) := by
  refine tended_isRunning.bind fun b => ?_
  split
  next =>
    exact (tended_setRunning _).bind fun _ => (tended_log _ _ _).bind fun _ => tended_runOnce hc
  next => exact within_pure ()

lemma tended_stop (timeout : Json) : Tended (stop timeout) := by
  have hlast : Tended (do
      if (← get).scheduler.started then
        let _ ← Act.check timeout.limit
        modify fun w => { w with scheduler := { w.scheduler with started := false } }) := by
    refine tended_get_bind fun w _ => ?_
    split
    next =>
      exact within_check_bind fun _ _ =>
        tended_modify (fun _ => rfl) (fun _ => rfl) (fun _ => rfl) fun _ => rfl
    next => exact within_pure ()
  refine tended_isRunning.bind fun b => ?_
  split
  next => exact (tended_setRunning _).bind fun _ => (tended_log _ _ _).bind fun _ => hlast
  next => exact hlast

end Schedule

lemma tended_performScheduler (hc : Minds call) (a : SchedulerAction) :
    Tended (performScheduler call a) := by
  cases a with
  | interval => exact (tended_get_bind fun w _ => within_pure _ : Tended Schedule.interval).bind fun _ =>
      within_pure _
  | runOnce => exact (Schedule.tended_runOnce hc).answers
  | isRunning => exact Schedule.tended_isRunning.answers
  | start => exact (Schedule.tended_start hc).bind fun _ => Schedule.tended_isRunning.answers
  | stop => exact (Schedule.tended_stop _).bind fun _ => Schedule.tended_isRunning.answers

namespace Application

lemma tended_logging : Tended logging := by
  refine tended_get_bind fun w _ => ?_
  split <;> exact within_pure _

lemma tended_setLogging (setup : Logging) : Tended (setLogging setup) :=
  tended_modify (fun _ => rfl) (fun _ => rfl) (fun _ => rfl) fun _ => rfl

lemma tended_setUpLogging : Tended setUpLogging := by
  refine tended_get_bind fun w _ => tended_logging.bind fun setup => ?_
  exact (tended_setLogging _).bind fun _ => within_check _

lemma tended_tearDownLogging : Tended tearDownLogging :=
  tended_logging.bind fun _ => tended_setLogging _

lemma tended_start (hc : Minds call) : Tended (start call) :=
  tended_setUpLogging.bind fun _ => (tended_log _ _ _).bind fun _ => Schedule.tended_start hc

lemma tended_shutdown (hc : Minds call) (timeout : Json) : Tended (shutdown call timeout) := by
  have hregistry : Tended (Registry.shutdown call timeout) := within_of_ends fun w hw =>
    (Registry.tends_shutdown hc timeout hw).mono fun _ _ h => h.1
  refine (tended_log _ _ _).bind fun _ => (Schedule.tended_stop _).bind fun _ => ?_
  exact hregistry.bind fun _ => tended_tearDownLogging

end Application

lemma tended_performApp (hc : Minds call) (a : AppAction) : Tended (performApp call a) := by
  cases a with
  | start => exact (Application.tended_start hc).bind fun _ => Schedule.tended_isRunning.answers
  | shutdown timeout => exact (Application.tended_shutdown hc timeout).answers
  | setUpLogging => exact Application.tended_setUpLogging.answers
  | tearDownLogging => exact Application.tended_tearDownLogging.answers

/-! Links -/

lemma tended_updateLink {f : Link → Link} (hf : ∀ l, (f l).closed = l.closed) :
    Tended (updateLink id f) := by
  refine tended_updateSession fun s => ⟨rfl, ?_, rfl, fun h => h, fun h => h, Nat.le_refl _⟩
  rw [Option.map_map]
  exact congrArg (Option.map · s.link) (funext hf)

lemma tended_writeMessages (messages : List Json) : Tended (writeMessages id messages) := by
  induction messages with
  | nil => exact within_pure ()
  | cons m rest ih =>
    refine within_check_bind fun bytes _ => ?_
    exact (tended_updateLink (f := fun l => l.supply bytes) fun _ => rfl).bind fun _ => ih

lemma tended_performLink (a : LinkAction) : Tended (performLink id a) := by
  cases a with
  | write messages => exact tended_writeMessages messages
  | writeBytes data => exact within_check_bind fun _ _ => tended_updateLink fun _ => rfl
  | complain | setAlive | setBroken | setCode => exact tended_updateLink fun _ => rfl

/-! Actions and callbacks -/

lemma tended_perform (hc : Minds call) (a : Action) : Tended (perform call a) := by
  have hset : ∀ {f : World → World}, (∀ w, (f w).sessions = w.sessions) →
      (∀ w, (f w).running = w.running) → (∀ w, (f w).servers = w.servers) →
      (∀ w, (f w).events = w.events) → Tended (answerNothing (modify f)) := fun hs hr hservers he =>
    (tended_modify hs hr hservers he).answers
  cases a with
  | advance seconds =>
    exact within_check_bind fun x _ => hset (fun _ => rfl) (fun _ => rfl) (fun _ => rfl) fun _ => rfl
  | failLaunches | setFocus | setProject =>
    exact hset (fun _ => rfl) (fun _ => rfl) (fun _ => rfl) fun _ => rfl
  | link server action =>
    exact within_linked_bind (Q := fun _ w => w.IsTidy) (fun _ _ hw _ => hw) fun id =>
      (tended_performLink action).answers
  | session server action =>
    exact within_runningNamed_bind (fun w hw entry he => hw.serves he) fun id =>
      serving_performNoted hc action
  | registry action => exact tended_performRegistry hc action
  | feature action => exact (tended_performFeature action).answers
  | scheduler action => exact tended_performScheduler hc action
  | app action => exact tended_performApp hc action

lemma tended_performInner (hc : Minds call) (actions : List Action) :
    Tended (performInner call actions) := by
  induction actions with
  | nil => exact within_pure ()
  | cons a rest ih =>
    exact Within.bind (tended_perform hc a).attempt fun result => (tended_record rfl).bind fun _ => ih

lemma tended_performCallback (hc : Minds call) {mark : Json → Event}
    (hm : ∀ label, (mark label).movesLink = false) (callback : Callback) :
    Tended (performCallback call mark callback) := by
  obtain ⟨label, actions, fails⟩ := callback
  refine (tended_record (hm label)).bind fun _ => (tended_performInner hc actions).bind fun _ => ?_
  cases fails with
  | some message => exact within_throw _
  | none => exact within_pure ()

lemma tended_performListener (hc : Minds call) {mark : Json → Event}
    (hm : ∀ label, (mark label).movesLink = false) (params : Json) (l : Listener) :
    Tended (performListener call id mark params l) := by
  cases l with
  | host callback =>
    cases callback with
    | some callback => exact tended_performCallback hc hm callback
    | none => exact within_throw _
  | logMessage => exact Features.tended_onLogMessage params
  | ready => exact Features.tended_onReady

lemma minds_performCall (hc : Minds call) : Minds (performCall call) := fun c => by
  cases c with
  | answer handler id ticket response =>
    refine tended_getSession_bind fun s => ?_
    cases handler with
    | host callback => exact tended_performCallback hc (fun _ => rfl) callback
    | opening callback => exact Session.tended_openingAnswered hc callback ticket response
    | completion => exact Features.tended_onCompletion response
    | goTo method => exact Features.tended_onGoTo method response
  | event l id args => exact tended_getSession_bind fun s => tended_performListener hc (fun _ => rfl) _ l
  | message l id params =>
    exact tended_getSession_bind fun s => tended_performListener hc (fun _ => rfl) _ l

lemma minds_callWithin (depth : Nat) : Minds (callWithin depth) := by
  induction depth with
  | zero => exact fun c => (tended_note _).bind fun _ => within_throw _
  | succ depth ih => exact minds_performCall ih

lemma tended_act (a : Action) : Tended (act a) := tended_perform (minds_callWithin nestingLimit) a

lemma tended_actLast (a : Action) : Tended (actLast a) :=
  Within.bind (tended_act a).attempt fun result =>
    (Schedule.tended_stop _).bind fun _ => within_check result

/-- Whatever a host does, one thing after the other. -/
lemma tends_of_mem_outcomes {w : World} (hw : w.IsTidy) {actions : List Action} {o : Outcome}
    (ho : o ∈ outcomes w actions) : w.Tends o.world := by
  induction actions generalizing w with
  | nil => cases ho
  | cons a rest ih =>
    cases rest with
    | nil =>
      obtain rfl := List.mem_singleton.mp ho
      exact (tended_actLast a).after w hw
    | cons b rest =>
      have htends : w.Tends ((act a).after w) := (tended_act a).after w hw
      rcases List.mem_cons.mp ho with rfl | ho
      · exact htends
      · exact htends.trans (ih (htends.tidy hw) ho)

end LanguageClient
