import LanguageClient.Proofs.Pending.Expiry
import Mathlib.Algebra.BigOperators.Group.List.Basic
import Mathlib.Data.List.Perm.Basic

/-!
Counting what was answered. Whoever is called with an answer may answer further requests, one by one or all
at once, and is counted for them; so may whoever is called then. What all these calls count exceeds what was
answered by the warnings that nobody asked for.
-/

namespace LanguageClient

/-- What answers requests: one, all of them, or those that are overdue. -/
def SessionAction.isSettling : SessionAction → Bool
  | resolve _ _ | failAll _ _ | expire _ => true
  | _ => false

namespace Event

/-- How many requests a call that a callback made says it answered. -/
def count : Event → Nat
  | inner (.ok (.count n)) => n
  | inner (.ok (.flag true)) => 1
  | _ => 0

/-- Whether a callback was told that no request waited for the answer it gave. -/
def isDenied : Event → Bool
  | inner (.ok (.flag false)) => true
  | _ => false

/-- Whether it is in the log that no request waited for an answer. -/
def isUnmatched (tag : Text) : Event → Bool
  | logged .client level text _ => level = Level.warning && (tag ++ "Unmatched response; ").isPrefixOf text
  | _ => false

/-- The request that was answered. -/
def resolved? (id : SessionId) : Event → Option Nat
  | dealt session (.resolved ticket _) => if session = id then some ticket else none
  | _ => none

end Event

/-- These requests were answered, each once. What was counted for them by the call itself, which is `n`, and by
the calls within it falls short of the warnings just as far as answers were refused. -/
structure Tally (id : SessionId) (tag : Text) (n : Int) (gone : List (Pending Handler)) (es : List Event) :
    Prop where
  resolved : (es.filterMap (Event.resolved? id)).Perm (gone.map (·.ticket))
  balance : n + (es.map Event.count).sum + es.countP Event.isDenied =
    gone.length + es.countP (Event.isUnmatched tag)

namespace World

/-- A call that counts for `n` was made. Requests left the table, and none came. -/
structure Settles (id : SessionId) (n : Int) (v w : World) : Prop where
  running : w.running = v.running
  journal : w.journal = v.journal
  name : (w.session id).name = (v.session id).name
  lastId : (w.session id).correlator.lastId = (v.session id).correlator.lastId
  pending : (w.session id).correlator.pending.Sublist (v.session id).correlator.pending
  tally : ∃ gone es, w.events = es ++ v.events ∧
    (gone ++ (w.session id).correlator.pending).Perm (v.session id).correlator.pending ∧
    Tally id (v.session id).tag n gone es

/-- Nobody is there but one session, and whoever is called with an answer does nothing but answer requests. -/
structure Settling (id : SessionId) (w : World) : Prop where
  issued : (w.session id).correlator.IsIssued
  calm : ∀ p ∈ (w.session id).correlator.pending, ∀ handler ∈ p.handler,
    ∃ callback : Callback, handler = .host callback ∧ callback.obeys SessionAction.isSettling
  running : ∀ entry ∈ w.running, entry.2 = id
  journal : w.journal = .recorder

end World

section

variable {id : SessionId} {tag : Text} {m n : Int} {gone gone' : List (Pending Handler)} {es es' : List Event}

lemma tally_nil : Tally id tag 0 [] [] := ⟨.nil, rfl⟩

lemma Tally.append (h : Tally id tag m gone es) (g : Tally id tag n gone' es') :
    Tally id tag (m + n) (gone ++ gone') (es' ++ es) where
  resolved := by
    rw [List.filterMap_append, List.map_append]
    exact List.perm_append_comm.trans (h.resolved.append g.resolved)
  balance := by
    have hm := h.balance
    have hn := g.balance
    simp only [List.map_append, List.sum_append, List.countP_append, List.length_append, Nat.cast_add]
    omega

lemma isPrefixOf_append_left (t u v : Text) : (t ++ u).isPrefixOf (t ++ v) = u.isPrefixOf v := by
  rw [Bool.eq_iff_iff, List.isPrefixOf_iff_prefix, List.isPrefixOf_iff_prefix, List.prefix_append_right_inj]

lemma isUnmatched_append (level : Int) (text : Text) (cause : Option Fault) :
    (Event.logged .client level (tag ++ text) cause).isUnmatched tag =
      (level = Level.warning && (Text.ofString "Unmatched response; ").isPrefixOf text) := by
  rw [Event.isUnmatched, isPrefixOf_append_left]

lemma tally_logged {source : Source} {level : Int} {text : Text} {cause : Option Fault}
    (h : (Event.logged source level text cause).isUnmatched tag = false) :
    Tally id tag 0 [] [.logged source level text cause] where
  resolved := .nil
  balance := by simp [Event.count, Event.isDenied, h]

lemma tally_unmatched (text : Text) (cause : Option Fault) :
    Tally id tag 1 [] [.logged .client Level.warning (tag ++ "Unmatched response; " ++ text) cause] where
  resolved := .nil
  balance := by
    have h : (Event.logged .client Level.warning (tag ++ "Unmatched response; " ++ text) cause).isUnmatched tag :=
      List.isPrefixOf_iff_prefix.mpr (List.prefix_append _ _)
    generalize tag ++ (Text.ofString "Unmatched response; ") ++ text = t at h ⊢
    simp [Event.count, Event.isDenied, h]

lemma tally_resolved (p : Pending Handler) (response : Json) :
    Tally id tag 1 [p] [.dealt id (.resolved p.ticket response)] where
  resolved := by simp [Event.resolved?]
  balance := rfl

/-- What a call that a callback made stands for: what it counts, and one if it was refused. -/
def worth (r : Except Fault Answer) : Int :=
  (Event.inner r).count + if (Event.inner r).isDenied then 1 else 0

lemma worth_count (k : Nat) : worth (.ok (.count k)) = k := Int.add_zero _

lemma tally_inner (r : Except Fault Answer) : Tally id tag (-worth r) [] [.inner r] where
  resolved := .nil
  balance := by
    have hrefused : ([Event.inner r].countP Event.isDenied : Int) = if (Event.inner r).isDenied then 1 else 0 := by
      rw [List.countP_singleton]
      split <;> rfl
    have hcount : ([Event.inner r].map Event.count).sum = (Event.inner r).count := by simp
    have hwarned : [Event.inner r].countP (Event.isUnmatched tag) = 0 := rfl
    rw [hrefused, hcount, hwarned, worth]
    simp

end

namespace World

variable {id : SessionId} {m n : Int} {u v w : World} {p : Pending Handler}

lemma Settles.refl (w : World) : w.Settles id 0 w :=
  ⟨rfl, rfl, rfl, rfl, .refl _, [], [], rfl, .refl _, tally_nil⟩

lemma Settles.tag (h : v.Settles id n w) : (w.session id).tag = (v.session id).tag := by
  rw [Session.tag, h.name, Session.tag]

lemma Settles.trans (h : u.Settles id m v) (g : v.Settles id n w) : u.Settles id (m + n) w := by
  obtain ⟨gone, es, hes, hgone, htally⟩ := h.tally
  obtain ⟨gone', es', hes', hgone', htally'⟩ := g.tally
  rw [h.tag] at htally'
  refine ⟨g.running.trans h.running, g.journal.trans h.journal, g.name.trans h.name, g.lastId.trans h.lastId,
    g.pending.trans h.pending, gone ++ gone', es' ++ es, ?_, ?_, htally.append htally'⟩
  · rw [hes', hes, List.append_assoc]
  · rw [List.append_assoc]
    exact (hgone'.append_left gone).trans hgone

lemma Settling.step (hv : v.Settling id) (h : v.Settles id n w) : w.Settling id where
  issued :=
    { numbered := fun p hp => h.lastId ▸ hv.issued.numbered p (h.pending.subset hp)
      distinct := hv.issued.distinct.sublist (h.pending.map _) }
  calm p hp := hv.calm p (h.pending.subset hp)
  running := h.running ▸ hv.running
  journal := h.journal.trans hv.journal

/-- Something happened that leaves the table alone. -/
lemma settles_record {e : Event} (h : Tally id (w.session id).tag n [] [e]) : w.Settles id n (w.record e) :=
  ⟨rfl, rfl, rfl, rfl, .refl _, [], [e], rfl, .refl _, h⟩

lemma settles_of_session {w' : World} (hs : (w'.session id).name = (w.session id).name ∧
    (w'.session id).correlator = (w.session id).correlator) (hr : w'.running = w.running)
    (hj : w'.journal = w.journal) (he : w'.events = w.events) : w.Settles id 0 w' := by
  refine ⟨hr, hj, hs.1, by rw [hs.2], by rw [hs.2], [], [], he, ?_, tally_nil⟩
  rw [hs.2]
  exact .refl _

lemma log_recorder (hj : w.journal = .recorder) (source : Source) {level : Int}
    (hl : level = Level.warning ∨ level = Level.error) (text : Text) (cause : Option Fault) :
    w.log source (.int level) text cause = w.record (.logged source level text cause) := by
  unfold log
  rw [hj]
  obtain rfl | rfl := hl <;> rfl

lemma settles_withdraw (hw : w.Settling id) (hp : p ∈ (w.session id).correlator.pending) (response : Json) :
    w.Settles id 1 (w.withdraw id p response) := by
  obtain ⟨before, after, hsplit, herased⟩ := hw.issued.isProper.pending_erase hp
  have hsession : (w.withdraw id p response).session id = _ := session_withdraw hp
  have hpending : ((w.withdraw id p response).session id).correlator.pending = before ++ after := by
    rw [hsession, ← herased]
  refine ⟨rfl, rfl, by rw [hsession], by rw [hsession]; rfl, ?_, [p], _, rfl, ?_, tally_resolved p response⟩
  · rw [hpending, hsplit]
    exact (List.sublist_cons_self p after).append_left before
  · rw [hpending, hsplit]
    have hmiddle : (p :: (before ++ after)).Perm (before ++ p :: after) := List.perm_middle.symm
    exact hmiddle

end World

/-- What came of a call that was to answer the requests `due`. With these, and with those that other calls
within it answered, `gone` left the table, each answered once. All that the calls count, this one and those
within it, exceeds what was answered by the warnings that no request waited, but for the answers that a callback
gave by itself and that were refused. -/
structure World.Accounted (id : SessionId) (w : World) (due gone : List (Pending Handler)) (es : List Event) (u : World) :
    Prop where
  events : u.events = es ++ w.events
  left : (gone ++ (u.session id).correlator.pending).Perm (w.session id).correlator.pending
  once : (gone.map (·.key)).Nodup
  answered : due ⊆ gone
  resolved : (es.filterMap (Event.resolved? id)).Perm (gone.map (·.ticket))
  counted : due.length + (es.map Event.count).sum + es.countP Event.isDenied =
    gone.length + es.countP (Event.isUnmatched (w.session id).tag)

lemma World.Settles.exists_accounted {id : SessionId} {due : List (Pending Handler)} {w u : World}
    (hw : w.Settling id) (h : w.Settles id due.length u) (hdue : due ⊆ (w.session id).correlator.pending)
    (hleft : ∀ p ∈ (u.session id).correlator.pending, p ∉ due) : ∃ gone es, w.Accounted id due gone es u := by
  obtain ⟨gone, es, hes, hgone, htally⟩ := h.tally
  have hkeys := (hgone.map (·.key)).nodup_iff.mpr hw.issued.distinct
  rw [List.map_append, List.nodup_append] at hkeys
  refine ⟨gone, es, hes, hgone, hkeys.1, fun p hp => ?_, htally.resolved, by exact_mod_cast htally.balance⟩
  exact (List.mem_append.mp (hgone.mem_iff.mpr (hdue hp))).resolve_right fun hpending => hleft p hpending hp

/-- Whoever is called with an answer does nothing but answer requests. -/
def SettlingCaller (call : Caller) (id : SessionId) : Prop :=
  ∀ (callback : Callback) (ticket : Nat) (response : Json) (w : World), w.Settling id →
    callback.obeys SessionAction.isSettling →
      Act.Ends (call (.answer (.host callback) id ticket response)) w fun _ v => w.Settles id 0 v

namespace Session

open Act World

variable {call : Caller} {id : SessionId} {w : World} {p : Pending Handler} {slots : List Json}

lemma settles_inform (hc : SettlingCaller call id) (hw : w.Settling id) (response : Json)
    (hp : ∀ handler ∈ p.handler, ∃ callback : Callback, handler = .host callback ∧
      callback.obeys SessionAction.isSettling) :
    w.Settles id 0 (w.inform call id p response) := by
  rw [inform]
  cases hh : p.handler with
  | none => exact .refl w
  | some handler =>
    obtain ⟨callback, rfl, hcallback⟩ := hp handler hh
    have hcall := hc callback p.ticket response w hw hcallback
    rw [Ends] at hcall
    dsimp only
    generalize (call (.answer (.host callback) id p.ticket response)).run w = r at hcall ⊢
    rcases r with ⟨fault | _, v⟩
    · dsimp only
      rw [log_recorder (hw.step hcall).journal _ (.inr rfl)]
      exact hcall.trans (settles_record (tally_logged rfl))
    · exact hcall

/-- One answer counts for one, whether a request waited for it or not. -/
lemma ends_resolve_settles (hc : SettlingCaller call id) (hw : w.Settling id) (v response : Json) :
    Ends (resolve call id v response) w fun r u => (∃ b, r = .ok b) ∧ w.Settles id 1 u ∧
      ∀ p ∈ (u.session id).correlator.pending, Correlator.answerKey? v ≠ some p.key := by
  cases h : (w.session id).correlator.answered? v with
  | none =>
    refine (ends_resolve_unmatched h).mono ?_
    rintro r u ⟨rfl, rfl⟩
    rw [log_recorder hw.journal _ (.inl rfl)]
    refine ⟨⟨_, rfl⟩, settles_record (tally_unmatched _ _), fun p hp hk => ?_⟩
    rw [hw.issued.isProper.answered?_eq hp hk] at h
    cases h
  | some p =>
    obtain ⟨hp, hk⟩ := Correlator.mem_of_answered? h
    refine (ends_resolve_answered h).mono ?_
    rintro r u ⟨rfl, rfl⟩
    have hwithdraw := settles_withdraw hw hp response
    have hinform := settles_inform hc (hw.step hwithdraw) response (hw.calm p hp)
    refine ⟨⟨_, rfl⟩, hwithdraw.trans hinform, fun q hq hkey => ?_⟩
    have hleft := hinform.pending.subset hq
    rw [session_withdraw hp, Correlator.erase, List.mem_filter] at hleft
    rw [hk, Option.some.injEq] at hkey
    simp [hkey] at hleft

lemma ends_failEach_settles (hc : SettlingCaller call id) (hw : w.Settling id) (code message : Json) :
    Ends (failEach call id code message slots) w fun r u => r = .ok () ∧ w.Settles id slots.length u ∧
      ∀ slot ∈ slots, ∀ p ∈ (u.session id).correlator.pending, Correlator.answerKey? slot ≠ some p.key := by
  induction slots generalizing w with
  | nil => exact ends_pure ⟨rfl, .refl w, fun _ h => absurd h List.not_mem_nil⟩
  | cons slot slots ih =>
    refine Ends.bind ((ends_resolve_settles hc hw slot _).mono ?_)
    rintro r u ⟨⟨b, rfl⟩, hone, hslot⟩
    refine next_ok ((ih (hw.step hone)).mono ?_)
    rintro r v ⟨rfl, hrest, hslots⟩
    refine ⟨rfl, ?_, List.forall_mem_cons.mpr ⟨fun p hp => hslot p (hrest.pending.subset hp), hslots⟩⟩
    have hall := hone.trans hrest
    rwa [Int.add_comm] at hall

lemma ends_failAll_settles (hc : SettlingCaller call id) (hw : w.Settling id) (code message : Json) :
    Ends (failAll call id code message) w fun r u =>
      r = .ok (w.session id).correlator.pending.length ∧ (u.session id).correlator.pending = [] ∧
        w.Settles id (w.session id).correlator.pending.length u := by
  obtain ⟨slots, hslots⟩ : ∃ slots, slots = (w.session id).correlator.pending.map (·.slot) := ⟨_, rfl⟩
  have hlength : slots.length = (w.session id).correlator.pending.length := by rw [hslots, List.length_map]
  have heach : ∀ v, w.Settles id 0 v → Ends (do
      failEach call id code message slots
      return slots.length) v fun r u => r = .ok (w.session id).correlator.pending.length ∧
        (u.session id).correlator.pending = [] ∧ w.Settles id (w.session id).correlator.pending.length u := by
    intro v hv
    refine Ends.bind ((ends_failEach_settles hc (hw.step hv) code message).mono ?_)
    rintro r u ⟨rfl, hall, hnone⟩
    have hsettles := hv.trans hall
    rw [Int.zero_add, hlength] at hsettles
    refine next_ok (ends_pure ⟨congrArg Except.ok hlength, List.eq_nil_iff_forall_not_mem.mpr fun p hp => ?_, hsettles⟩)
    -- What is pending now was pending then, so that its slot had its turn.
    have hthen := hsettles.pending.subset hp
    obtain ⟨n, -, -, hn⟩ := hw.issued.numbered p hthen
    refine hnone p.slot (hslots ▸ List.mem_map_of_mem hthen) p hp ?_
    rw [hn.slot, hn.key, Correlator.answerKey?_ofNat]
  refine ends_getSession_bind ?_
  rw [← hslots]
  dsimp only
  split
  · refine heach _ ?_
    dsimp only
    rw [log_recorder hw.journal _ (.inl rfl)]
    exact settles_record (tally_logged (by simp only [List.append_assoc, isUnmatched_append]; rfl))
  · exact heach w (.refl w)

lemma settles_timedOut (hw : w.Settling id) (p : Pending Handler) :
    w.Settles id 0 (w.log .client (.int Level.warning)
      ((w.session id).tag ++ "Request " ++ p.id.display ++ " (" ++ p.method.display ++ ") timed out") none) := by
  rw [log_recorder hw.journal _ (.inl rfl)]
  exact settles_record (tally_logged (by simp only [List.append_assoc, isUnmatched_append]; rfl))

lemma ends_expireEach_settles {now : Json} {x : Float} (hc : SettlingCaller call id) (hw : w.Settling id)
    (hx : now.toFloat = .ok x) (ps : List (Pending Handler)) :
    Ends (expireEach call id now ps) w fun r u => r = .ok () ∧ w.Settles id ps.length u ∧
      ∀ p ∈ ps, ∀ q ∈ (u.session id).correlator.pending, Correlator.answerKey? p.id ≠ some q.key := by
  induction ps generalizing w with
  | nil => exact ends_pure ⟨rfl, .refl w, fun _ h => absurd h List.not_mem_nil⟩
  | cons p ps ih =>
    have hlog := settles_timedOut hw p
    refine ends_getSession_bind (ends_log_bind (ends_ok_bind hx (Ends.bind ?_)))
    refine (ends_resolve_settles hc (hw.step hlog) p.id _).mono ?_
    rintro r u ⟨⟨b, rfl⟩, hone, hp⟩
    refine next_ok ((ih ((hw.step hlog).step hone)).mono ?_)
    rintro r v ⟨rfl, hrest, hps⟩
    refine ⟨rfl, ?_, List.forall_mem_cons.mpr ⟨fun q hq => hp q (hrest.pending.subset hq), hps⟩⟩
    have hall := (hlog.trans hone).trans hrest
    rwa [Int.zero_add, Int.add_comm] at hall

/-- A time that is no number, or too large a one, is found out at the first request, before it is answered. -/
lemma ends_expireEach_fails {now : Json} {e : Fault} (hw : w.Settling id) (he : now.toFloat = .error e)
    (ps : List (Pending Handler)) :
    Ends (expireEach call id now ps) w fun r u => w.Settles id 0 u ∧ (ps = [] ∨ ∃ e, r = .error e) := by
  cases ps with
  | nil => exact ends_pure ⟨.refl w, .inl rfl⟩
  | cons p ps =>
    refine ends_getSession_bind (ends_log_bind (ends_check_bind (fun x hx => ?_) fun e _ => ?_))
    · cases he.symm.trans hx
    · exact ⟨settles_timedOut hw p, .inr ⟨e, rfl⟩⟩

/-- The time that is meant if none is given. -/
def timeOr (w : World) (now : Json) : Json := if now.isNull then .float w.clock else now

lemma ends_expire_settles {now : Json} {t : Exact} {x : Float} (hc : SettlingCaller call id)
    (hw : w.Settling id) (hnow : (timeOr w now).Shows t x) :
    let due := (w.session id).correlator.pending.filter (·.isDue t)
    Ends (expire call id now) w fun r u => r = .ok due.length ∧ w.Settles id due.length u ∧
      ∀ p ∈ (u.session id).correlator.pending, p ∉ due := by
  intro due
  refine ends_get_bind (ends_ok_bind (Correlator.overdue_eq hnow.number _) ?_)
  refine Ends.bind ((ends_expireEach_settles hc hw hnow.float due).mono ?_)
  rintro r u ⟨rfl, hsettles, hnone⟩
  refine next_ok (ends_pure ⟨rfl, hsettles, fun p hp hdue => ?_⟩)
  exact hnone p hdue p hp (hw.issued.isProper.answers p (List.mem_of_mem_filter hdue))

/-! Whatever a callback does -/

lemma ends_expire_worth (hc : SettlingCaller call id) (hw : w.Settling id) (now : Json) :
    Ends (answerCount (expire call id now)) w fun r u => w.Settles id (worth r) u := by
  refine Ends.bind (ends_get_bind (ends_check_bind (fun ps hps => ?_) fun e _ => .refl w))
  cases hx : (timeOr w now).toFloat with
  | ok x =>
    refine Ends.bind ((ends_expireEach_settles hc hw hx ps).mono ?_)
    rintro r u ⟨rfl, hsettles, -⟩
    change w.Settles id (worth (.ok (.count ps.length))) u
    rwa [worth_count]
  | error e =>
    refine Ends.bind ((ends_expireEach_fails hw hx ps).mono ?_)
    rintro r u ⟨hsettles, hr⟩
    cases r with
    | error e => exact hsettles
    | ok =>
      obtain rfl | ⟨e, he⟩ := hr
      · exact hsettles
      · cases he

lemma ends_performSession_settles (hc : SettlingCaller call id) (hw : w.Settling id) {a : SessionAction}
    (ha : a.isSettling) : Ends (performSession call id a) w fun r u => w.Settles id (worth r) u := by
  cases a
  case resolve v response =>
    refine Ends.bind ((ends_resolve_settles hc hw v response).mono ?_)
    rintro r u ⟨⟨b, rfl⟩, hsettles, -⟩
    cases b <;> exact hsettles
  case failAll code message =>
    refine Ends.bind ((ends_failAll_settles hc hw code message).mono ?_)
    rintro r u ⟨rfl, -, hsettles⟩
    change w.Settles id (worth (.ok (.count (w.session id).correlator.pending.length))) u
    rwa [worth_count]
  case expire now => exact ends_expire_worth hc hw now
  all_goals cases ha

end Session

open Act World

variable {call : Caller} {id : SessionId} {w : World}

lemma settles_note (note : Note) : w.Settles id 0 (w.record (.noted id note)) :=
  settles_record ⟨.nil, rfl⟩

lemma ends_performNoted_settles (hc : SettlingCaller call id) (hw : w.Settling id) {a : SessionAction}
    (ha : a.isSettling) : Ends (performNoted call id a) w fun r u => w.Settles id (worth r) u := by
  refine ends_getSession_bind (Ends.attempt_bind ((Session.ends_performSession_settles hc hw ha).mono ?_))
  intro r u hsettles
  have hnoted := hsettles.trans (settles_note (.did a (w.session id) (u.session id)))
  rw [Int.add_zero] at hnoted
  exact hnoted

lemma settles_update {i : SessionId} {f : Session → Session}
    (hf : ∀ s, (f s).name = s.name ∧ (f s).correlator = s.correlator) :
    w.Settles id 0 (w.setSession i (f (w.session i))) := by
  refine settles_of_session ?_ rfl rfl rfl
  by_cases hi : id = i
  · subst hi
    by_cases hlt : id < w.sessions.length
    · rw [session_setSession _ hlt]
      exact hf _
    · rw [session, setSession, List.set_eq_of_length_le (Nat.le_of_not_lt hlt)]
      exact ⟨rfl, rfl⟩
  · rw [session_setSession_of_ne _ hi]
    exact ⟨rfl, rfl⟩

instance : Course (World.Settles id 0) where
  refl := .refl
  trans h g := h.trans g

instance : Stable (World.Settles id 0) fun _ => True where
  step _ _ := trivial

lemma within_updateLink {i : SessionId} (f : Link → Link) :
    Within (World.Settles id 0) (fun _ => True) (updateLink i f) :=
  within_modify fun _ _ => settles_update (f := fun s => { s with link := s.link.map f }) fun _ => ⟨rfl, rfl⟩

/-- Whatever is done to a world but to a session counts for nothing. -/
lemma ends_answerNothing {a : Act Unit} (h : Within (World.Settles id 0) (fun _ => True) a) :
    Ends (answerNothing a) w fun r u => w.Settles id (worth r) u := by
  refine Ends.bind ((ends_of_within h trivial).mono fun r u hu => ?_)
  cases r <;> exact hu

lemma ends_perform_settles (hc : SettlingCaller call id) (hw : w.Settling id) {a : Action}
    (ha : a.obeys SessionAction.isSettling) : Ends (perform call a) w fun r u => w.Settles id (worth r) u := by
  have hset : ∀ {f : World → World}, (∀ v, (f v).session id = v.session id) → (∀ v, (f v).running = v.running) →
      (∀ v, (f v).journal = v.journal) → (∀ v, (f v).events = v.events) →
      Ends (answerNothing (modify f)) w fun r u => w.Settles id (worth r) u := fun hs hr hj he =>
    ends_answerNothing (within_modify fun v _ =>
      settles_of_session (by rw [hs v]; exact ⟨rfl, rfl⟩) (hr v) (hj v) (he v))
  cases a
  case advance seconds =>
    refine ends_check_bind (fun x _ => ?_) fun e _ => .refl w
    exact hset (fun _ => rfl) (fun _ => rfl) (fun _ => rfl) fun _ => rfl
  case failLaunches | setFocus | setProject =>
    exact hset (fun _ => rfl) (fun _ => rfl) (fun _ => rfl) fun _ => rfl
  case link server action =>
    exact ends_linked_bind (fun i => ends_answerNothing (within_performLink within_updateLink action)) (.refl w)
  case session server action =>
    rw [Action.obeys, Bool.and_eq_true] at ha
    refine ends_runningNamed_bind (fun entry he => ?_) (.refl w)
    rw [hw.running entry he]
    exact ends_performNoted_settles hc hw ha.1
  all_goals cases ha

/-- What a call counts is in the record of its result, so that all in all a callback counts for nothing. -/
lemma ends_performInner_settles (hc : SettlingCaller call id) (hw : w.Settling id) {actions : List Action}
    (ha : actionsObey SessionAction.isSettling actions) :
    Ends (performInner call actions) w fun _ u => w.Settles id 0 u := by
  induction actions generalizing w with
  | nil => exact Settles.refl w
  | cons a rest ih =>
    rw [actionsObey, Bool.and_eq_true] at ha
    refine Ends.attempt_bind ((ends_perform_settles hc hw ha.1).mono fun r u hu => ends_record_bind ?_)
    have hinner : w.Settles id 0 (u.record (.inner r)) := by
      have h := hu.trans (settles_record (tally_inner r))
      rwa [Int.add_right_neg] at h
    exact (ih (hw.step hinner) ha.2).mono fun r v hv => hinner.trans hv

lemma ends_performCallback_settles (hc : SettlingCaller call id) (hw : w.Settling id) {callback : Callback}
    (hcallback : callback.obeys SessionAction.isSettling) {mark : Json → Event}
    (hmark : ∀ label tag, Tally id tag 0 [] [mark label]) :
    Ends (performCallback call mark callback) w fun _ u => w.Settles id 0 u := by
  obtain ⟨label, actions, fails⟩ := callback
  have hrecord : w.Settles id 0 (w.record (mark label)) := settles_record (hmark label _)
  refine ends_record_bind (Ends.bind ((ends_performInner_settles hc (hw.step hrecord) hcallback).mono ?_))
  intro r u hu
  cases r with
  | error e => exact hrecord.trans hu
  | ok => cases fails <;> exact hrecord.trans hu

/-- However deep callbacks may be nested; where they may not, nothing happens. -/
lemma settlingCaller_callWithin (id : SessionId) (depth : Nat) : SettlingCaller (callWithin depth) id := by
  induction depth with
  | zero => exact fun callback ticket response w _ _ => settles_note .tooDeep
  | succ depth ih =>
    intro callback ticket response w hw hcallback
    exact ends_getSession_bind (ends_performCallback_settles ih hw hcallback fun label tag => ⟨.nil, rfl⟩)

/-- If everything pending is to fail, or everything that is overdue, then it is answered, each request once, and
counted, however deep callbacks answer requests of their own accord and fail. But all who answer count, so that a
request which a callback answers is counted twice if the call around it meant to answer it: together the calls
count what was answered exactly if there is no warning that a request was gone but where a callback was told so. -/
theorem exists_accounted_of_settling (depth : Nat) (hw : w.Settling id) :
    let c := (w.session id).correlator
    (∀ code message, Ends (Session.failAll (callWithin depth) id code message) w fun r u =>
      r = .ok c.pending.length ∧ ∃ gone es, w.Accounted id c.pending gone es u) ∧
    ∀ now t x, (Session.timeOr w now).Shows t x →
      Ends (Session.expire (callWithin depth) id now) w fun r u =>
        r = .ok (c.pending.filter (·.isDue t)).length ∧
          ∃ gone es, w.Accounted id (c.pending.filter (·.isDue t)) gone es u := by
  have hc := settlingCaller_callWithin id depth
  refine ⟨fun code message => ?_, fun now t x hnow => ?_⟩
  · refine (Session.ends_failAll_settles hc hw code message).mono ?_
    rintro r u ⟨rfl, hnone, hsettles⟩
    exact ⟨rfl, hsettles.exists_accounted hw (List.Subset.refl _) fun p hp => by simp [hnone] at hp⟩
  · refine (Session.ends_expire_settles hc hw hnow).mono ?_
    rintro r u ⟨rfl, hsettles, hnone⟩
    exact ⟨rfl, hsettles.exists_accounted hw (List.filter_subset_self _) hnone⟩

/-- Two requests are to fail, and the callback of the first one fails the second. -/
theorem exists_accounted_of_settling_nested :
    let call : Action := .session .null (.failAll (.int (-1)) "inner")
    let first : Pending Handler :=
      ⟨.number (.ofInt 1), .int 1, .int 1, "hover", some (.host (.mk "first" [call] none)), 0, 100.0, none⟩
    let second : Pending Handler :=
      ⟨.number (.ofInt 2), .int 2, .int 2, "hover", some (.host (.mk "second" [] (some "late"))), 1, 100.0, none⟩
    let c := ((({} : Correlator Handler).advance.register first).advance.register second)
    let w : World := { sessions := [{ (default : Session) with correlator := c }], running := [("server", 0)] }
    w.Settling 0 ∧ Ends (Session.failAll (callWithin nestingLimit) 0 (.int (-1)) "outer") w fun r u =>
      r = .ok 2 ∧ ∃ gone es, w.Accounted 0 [first, second] gone es u := by
  intro call first second c w
  have hfirst : first.Numbered 1 := ⟨rfl, rfl, rfl⟩
  have hsecond : second.Numbered 2 := ⟨rfl, rfl, rfl⟩
  have hissued : c.IsIssued := by
    refine (Correlator.isIssued_blank.advance.register Nat.zero_lt_one hfirst ?_).advance.register
      Nat.two_pos hsecond fun q hq hn => ?_
    · exact fun _ hq => (List.not_mem_nil hq).elim
    · obtain rfl := List.mem_singleton.mp hq
      cases hfirst.number_eq hn rfl
  have hw : w.Settling 0 :=
    { issued := hissued
      calm := by
        intro p hp handler hh
        have hp : p ∈ [first, second] := hp
        simp only [List.mem_cons, List.not_mem_nil, or_false] at hp
        obtain rfl | rfl := hp <;> exact ⟨_, (Option.mem_some.mp hh).symm, rfl⟩
      running := fun entry he => List.mem_singleton.mp he ▸ rfl
      journal := rfl }
  exact ⟨hw, (exists_accounted_of_settling nestingLimit hw).1 (.int (-1)) "outer"⟩

/-- Two requests are answered, by two calls that count three: the inner one answers the second request, and then
the outer one finds nothing there. -/
theorem miscounted_of_mem_outcomes :
    let inner : Callback := .mk "first" [.session .null (.failAll (.int (-1)) "inner")] none
    let actions : List Action := [.session .null .nextId,
      .session .null (.register (.int 1) "hover" (some inner) .null), .session .null .nextId,
      .session .null (.register (.int 2) "hover" none .null), .session .null (.failAll (.int (-1)) "outer")]
    ∃ o ∈ outcomes (.serving "server") actions, (o.result matches .ok (.count 2)) ∧
      (o.events.map Event.count).sum = 1 ∧ (o.events.filterMap (Event.resolved? 0)).length = 2 ∧
      o.events.countP Event.isDenied = 0 ∧ o.events.countP (Event.isUnmatched "[server] ") = 1 := by
  decide +kernel

end LanguageClient
