import LanguageClient.Proofs.Act
import LanguageClient.Proofs.Session.Account
import LanguageClient.Proofs.Session.Causes

/-!
Worlds in which the accounts of all sessions have only moved as they may, and for a cause.
-/

namespace LanguageClient

def Event.dealing? (id : SessionId) : Event → Option Dealing
  | .dealt session d => if session = id then some d else none
  | .answered session ticket label _ response =>
    if session = id then some (.answered ticket label response) else none
  | _ => none

def Event.IsRemark (e : Event) : Prop := ∀ id, e.dealing? id = none

/-- What became of the requests of a session, the last first. -/
def dealings (id : SessionId) (events : List Event) : List Dealing :=
  events.filterMap (Event.dealing? id)

lemma mem_dealings_iff {id : SessionId} {es : List Event} {d : Dealing}
    (h : ∀ t label response, d ≠ .answered t label response) :
    d ∈ dealings id es ↔ .dealt id d ∈ es := by
  rw [dealings, List.mem_filterMap]
  constructor
  · rintro ⟨e, he, hd⟩
    cases e with
    | dealt session d' =>
      simp only [Event.dealing?, Option.ite_none_right_eq_some, Option.some.injEq] at hd
      obtain ⟨rfl, rfl⟩ := hd
      exact he
    | answered session ticket label title response =>
      simp only [Event.dealing?, Option.ite_none_right_eq_some, Option.some.injEq] at hd
      exact (h _ _ _ hd.2.symm).elim
    | _ => cases hd
  · intro hd
    exact ⟨_, hd, if_pos rfl⟩

lemma Event.IsRemark.hasCause {e : Event} (h : e.IsRemark) (es : List Event) : e.HasCause es := by
  cases e with
  | dealt id d => simpa [dealing?] using h id
  | answered id t label title response => simpa [dealing?] using h id
  | _ => trivial

namespace World

def account (w : World) (id : SessionId) : Account := (w.session id).account (dealings id w.events)

structure Leads (v w : World) : Prop where
  length : w.sessions.length = v.sessions.length
  running : w.running = v.running
  moves : ∀ id, Relation.ReflTransGen Account.Move (v.account id) (w.account id)
  ensues : Ensues v.events w.events

structure Sound (w : World) : Prop where
  accounts : ∀ id, (w.account id).Sound
  running : ∀ entry ∈ w.running, entry.2 < w.sessions.length

structure Known (id : SessionId) (w : World) : Prop where
  sound : w.Sound
  lt : id < w.sessions.length

instance : Act.Course Leads where
  refl _ := ⟨rfl, rfl, fun _ => .refl, .refl⟩
  trans h g := ⟨g.length.trans h.length, g.running.trans h.running,
    fun id => (h.moves id).trans (g.moves id), h.ensues.trans g.ensues⟩

instance : Act.Stable Leads Sound where
  step h hs := ⟨fun id => (hs.accounts id).moves (h.moves id), by
    rw [h.running, h.length]
    exact hs.running⟩

instance (id : SessionId) : Act.Stable Leads (Known id) where
  step h hk := ⟨Act.Stable.step h hk.sound, h.length ▸ hk.lt⟩

instance (id : SessionId) (d : Dealing) : Act.Stable Leads fun w => d ∈ dealings id w.events where
  step h hd := Account.dealings_subset (h.moves id) hd

instance (e : Event) : Act.Stable Leads fun w => e ∈ w.events where
  step h he := h.ensues.suffix.subset he

variable {v w : World} {id : SessionId}

lemma Leads.of_eq (h : ∀ id, w.account id = v.account id)
    (hl : w.sessions.length = v.sessions.length) (hr : w.running = v.running)
    (he : Ensues v.events w.events) : v.Leads w :=
  ⟨hl, hr, fun id => h id ▸ .refl, he⟩

lemma leads_of_fields (hs : w.sessions = v.sessions) (he : w.events = v.events)
    (hr : w.running = v.running) : v.Leads w := by
  refine .of_eq (fun id => ?_) (congrArg List.length hs) hr (he ▸ .refl)
  rw [account, account, session, session, hs, he]

lemma Leads.of_move (id : SessionId) (hm : Account.Move (v.account id) (w.account id))
    (ho : ∀ other, other ≠ id → w.account other = v.account other)
    (hl : w.sessions.length = v.sessions.length) (hr : w.running = v.running)
    (he : Ensues v.events w.events) : v.Leads w := by
  refine ⟨hl, hr, fun other => ?_, he⟩
  by_cases h : other = id
  · subst h
    exact .single hm
  · rw [ho other h]

/-! Remarks -/

lemma dealings_cons_of_none {e : Event} (h : e.dealing? id = none) (events : List Event) :
    dealings id (e :: events) = dealings id events :=
  List.filterMap_cons_none h

lemma leads_record {e : Event} (h : e.IsRemark) (w : World) : w.Leads (w.record e) := by
  refine .of_eq (fun id => ?_) rfl rfl (.single (h.hasCause _))
  rw [account, record, dealings_cons_of_none (h id)]
  rfl

lemma account_printed (lines : List Text) (w : World) (id : SessionId) :
    let w' := lines.foldl (fun w line => w.record (.printed line)) w
    w'.account id = w.account id ∧ w'.sessions = w.sessions ∧ w'.running = w.running ∧
      dealings id w'.events = dealings id w.events ∧ Ensues w.events w'.events := by
  induction lines generalizing w with
  | nil => exact ⟨rfl, rfl, rfl, rfl, .refl⟩
  | cons line lines ih =>
    obtain ⟨ha, hs, hr, hd, hf⟩ := ih (w.record (.printed line))
    have hc : (Event.printed line).HasCause w.events := trivial
    exact ⟨ha, hs, hr, hd, .trans (.single hc) hf⟩

lemma log_eq (w : World) (source : Source) (level : Json) (text : Text) (cause : Option Fault)
    (id : SessionId) :
    let w' := w.log source level text cause
    w'.account id = w.account id ∧ w'.sessions = w.sessions ∧ w'.running = w.running ∧
      dealings id w'.events = dealings id w.events ∧ Ensues w.events w'.events := by
  unfold log
  cases w.journal with
  | recorder =>
    dsimp only
    split
    next => exact ⟨rfl, rfl, rfl, rfl, .refl⟩
    next =>
      have hc : ∀ n, (Event.logged source n text cause).HasCause w.events := fun _ => trivial
      exact ⟨rfl, rfl, rfl, rfl, .single (hc _)⟩
  | loggers setup => exact account_printed _ _ id

lemma leads_log (w : World) (source : Source) (level : Json) (text : Text)
    (cause : Option Fault) : w.Leads (w.log source level text cause) := by
  have h := fun id => log_eq w source level text cause id
  exact .of_eq (fun id => (h id).1) (congrArg List.length (h 0).2.1) (h 0).2.2.1 (h 0).2.2.2.2

/-! Changes of a session -/

lemma session_setSession (s : Session) (h : id < w.sessions.length) :
    (w.setSession id s).session id = s := by
  simp [session, setSession, List.getD_eq_getElem?_getD, h]

lemma session_setSession_of_ne (s : Session) {other : SessionId} (h : other ≠ id) :
    (w.setSession id s).session other = w.session other := by
  simp [session, setSession, List.getD_eq_getElem?_getD, List.getElem?_set_ne (Ne.symm h)]

lemma leads_setSession {s : Session} (h : id < w.sessions.length)
    (hm : Account.Move (w.account id) (s.account (dealings id w.events))) :
    w.Leads (w.setSession id s) := by
  refine .of_move id ?_ (fun other ho => ?_) (List.length_set ..) rfl .refl
  · rw [account, account, session_setSession s h]
    exact hm
  · rw [account, session_setSession_of_ne s ho]
    rfl

/-! Dealings -/

lemma dealings_cons_self {e : Event} {d : Dealing} (he : e.dealing? id = some d)
    (events : List Event) : dealings id (e :: events) = d :: dealings id events :=
  List.filterMap_cons_some he

lemma leads_deal {s : Session} {d : Dealing} (h : id < w.sessions.length)
    (hm : Account.Move (w.account id) (s.account (d :: dealings id w.events)))
    (hc : (Event.dealt id d).HasCause w.events) :
    w.Leads ((w.setSession id s).record (.dealt id d)) := by
  refine .of_move id ?_ (fun other ho => ?_) (List.length_set ..) rfl (.single hc)
  · have hs : ((w.setSession id s).record (.dealt id d)).session id = s := session_setSession s h
    have hd : (Event.dealt id d).dealing? id = some d := if_pos rfl
    rw [account, account, hs, record, dealings_cons_self hd]
    exact hm
  · have hs : ((w.setSession id s).record (.dealt id d)).session other = w.session other :=
      session_setSession_of_ne s ho
    have hd : (Event.dealt id d).dealing? other = none := if_neg (Ne.symm ho)
    rw [account, hs, record, dealings_cons_of_none hd]
    rfl

lemma leads_answered {t : Nat} {label response : Json} {title : Text}
    (hm : Account.Move (w.account id)
      { w.account id with dealings := .answered t label response :: (w.account id).dealings })
    (hr : .resolved t response ∈ dealings id w.events) :
    w.Leads (w.record (.answered id t label title response)) := by
  have hc : .dealt id (.resolved t response) ∈ w.events := (mem_dealings_iff fun _ _ _ h => by cases h).mp hr
  refine .of_move id ?_ (fun other ho => ?_) rfl rfl (.single hc)
  · have hd : (Event.answered id t label title response).dealing? id =
        some (.answered t label response) := if_pos rfl
    rw [account, account, record, dealings_cons_self hd]
    exact hm
  · have hd : (Event.answered id t label title response).dealing? other = none :=
      if_neg (Ne.symm ho)
    rw [account, record, dealings_cons_of_none hd]
    rfl

end World

/-! Actions -/

namespace Act

variable {α : Type} {P : World → Prop} {id : SessionId}

/-- The accounts of all sessions move as they may, if the world is sound and has this session. -/
abbrev Keeps (id : SessionId) (a : Act α) : Prop := Within World.Leads (World.Known id) a

lemma keeps_getSession_bind {β : Type} {f : Session → Act β}
    (hf : ∀ w : World, w.Known id → Keeps id (f (w.session id))) :
    Keeps id (getSession id >>= f) :=
  within_getSession_bind fun w hw => (hf w hw).mono fun _ hv => hv ▸ hw

lemma keeps_get_bind {β : Type} {f : World → Act β}
    (hf : ∀ w : World, w.Known id → Keeps id (f w)) : Keeps id (get >>= f) :=
  within_get_bind fun w hw => (hf w hw).mono fun _ hv => hv ▸ hw

lemma within_record {e : Event} (h : e.IsRemark) : Within World.Leads P (record e) :=
  ⟨fun w _ => World.leads_record h w⟩

lemma within_note (n : Note) : Within World.Leads P (note id n) := within_record fun _ => rfl

lemma within_log (source : Source) (level : Int) (text : Text) :
    Within World.Leads P (log source level text) :=
  ⟨fun w _ => World.leads_log w source (.int level) text none⟩

lemma within_logFault (source : Source) (text : Text) (cause : Fault) :
    Within World.Leads P (logFault source text cause) :=
  ⟨fun w _ => World.leads_log w source (.int Level.error) text (some cause)⟩

lemma keeps_updateSession {f : Session → Session}
    (h : ∀ w : World, w.Known id → Account.Move (w.account id)
      ((f (w.session id)).account (dealings id w.events))) :
    Keeps id (updateSession id f) :=
  ⟨fun w hw => World.leads_setSession hw.lt (h w hw)⟩

lemma account_updateSession {w : World} (f : Session → Session) (h : id < w.sessions.length) :
    ((updateSession id f).after w).account id =
      (f (w.session id)).account (dealings id w.events) := by
  have hs : ((updateSession id f).after w).session id = f (w.session id) :=
    World.session_setSession _ h
  rw [World.account, hs]
  rfl

lemma keeps_updateSession_of_eq {f : Session → Session}
    (h : ∀ s ds, (f s).account ds = s.account ds) : Keeps id (updateSession id f) :=
  keeps_updateSession fun w _ => .of_eq (h (w.session id) _)

lemma keeps_updateSession_bind {β : Type} {f : Session → Session} {g : Unit → Act β}
    (hf : ∀ s ds, (f s).account ds = s.account ds) (hg : ∀ x, Keeps id (g x)) :
    Keeps id (updateSession id f >>= g) :=
  (keeps_updateSession_of_eq hf).bind hg

end Act

end LanguageClient
