import LanguageClient.Proofs.Frame.Pieces
import LanguageClient.Proofs.Steps.Receiving

/-!
Where a reader comes to rest. Every message and every fault uses up bytes, so that draining ends; what is
left then is bounded, and stays as it is until more bytes come.
-/

namespace LanguageClient

open LanguageClient.Frame

namespace Frame

lemma length_tail_le (bs : Bytes) : (tail bs).length ≤ 14 := by
  rw [tail_eq, List.length_drop]
  omega

namespace Reader

/-- The readers that come of feeding a fresh one and asking it, in any order. -/
inductive Reached : Reader → Prop where
  | fresh (limit? : Option Nat) : Reached (fresh limit?)
  | fed {r : Reader} (data : Bytes) (reached : Reached r) : Reached (r.feed data)
  | asked {r : Reader} (reached : Reached r) : Reached r.next.2

/-- What a reader may wait for. -/
inductive Want where
  | mark
  | header
  | body (n : Nat)

/-- A reader waits for something, and holds no more than is needed for that. -/
def Wants (r : Reader) : Want → Prop
  | .mark => r.lost ∧ r.buffered ≤ 14
  | .header => r.lost = false ∧ r.length? = none ∧ r.buffered ≤ 4096 ∧ ¬ separator <:+: r.buffer
  | .body n => r.lost = false ∧ r.length? = some n ∧ 1 ≤ n ∧ r.buffered < n

lemma Wants.unique {r : Reader} {a b : Want} (ha : r.Wants a) (hb : r.Wants b) : a = b := by
  cases a <;> cases b <;> simp_all [Wants]

/-! Readers that were reached -/

/-- A reader that looks for a length field knows of no body, and none waits for a body of no bytes. -/
structure IsTidy (r : Reader) : Prop where
  sound : r.Sound
  looks : r.lost → r.length? = none

variable {r : Reader}

lemma looks_takeBody (hl : r.lost = false) (n : Nat) : (r.takeBody n).2.lost = false := by
  unfold takeBody
  split <;> exact hl

lemma looks_takeNext (hl : r.lost = false) : r.takeNext.2.lost → r.takeNext.2.length? = none := by
  unfold takeNext
  cases hn : r.length? with
  | some n => simp [looks_takeBody hl n]
  | none =>
    unfold takeFrame
    cases cutAround separator r.buffer with
    | none =>
      dsimp only
      split <;> exact fun _ => hn
    | some cut =>
      dsimp only
      split
      next n _ => simp [looks_takeBody (show Reader.lost { r with buffer := cut.2 } = false from hl) n]
      next => exact fun _ => hn

lemma IsTidy.next (h : r.IsTidy) : r.next.2.IsTidy where
  sound := sound_next h.sound
  looks := by
    cases hl : r.lost with
    | false =>
      rw [next_of_not_lost hl]
      exact looks_takeNext hl
    | true =>
      cases hm : fromMark? r.buffer with
      | none =>
        rw [next_of_lost hl hm]
        exact h.looks
      | some bs =>
        rw [next_of_found hl hm]
        exact looks_takeNext rfl

lemma Reached.isTidy (h : Reached r) : r.IsTidy := by
  induction h with
  | fresh limit? => exact ⟨sound_fresh limit?, fun _ => rfl⟩
  | fed data _ ih => exact ⟨ih.sound, ih.looks⟩
  | asked _ ih => exact ih.next

/-! Rest -/

lemma wants_takeBody (hl : r.lost = false) {n : Nat} (hm : (r.takeBody n).1 = .more) :
    (r.takeBody n).2.Wants (.body n) := by
  rcases Nat.lt_or_ge r.buffer.length n with hb | hb
  · rw [takeBody_of_lt hb]
    exact ⟨hl, rfl, Nat.one_le_of_lt hb, hb⟩
  · rw [takeBody_of_le hb] at hm
    exact (decodeBody_ne_more _ _ hm).elim

lemma wants_takeFrame (hl : r.lost = false) (hn : r.length? = none) (hm : r.takeFrame.1 = .more) :
    ∃ want, r.takeFrame.2.Wants want := by
  unfold takeFrame at hm ⊢
  cases hc : cutAround separator r.buffer with
  | none =>
    simp only [hc] at hm ⊢
    split
    next hlarge =>
      rw [if_pos hlarge] at hm
      cases hm
    next hsmall => exact ⟨.header, hl, hn, Nat.le_of_not_lt hsmall, (cutAround_eq_none_iff _ _).mp hc⟩
  | some cut =>
    obtain ⟨header, rest⟩ := cut
    cases hp : parseHeader header with
    | ok n =>
      simp only [hc, hp] at hm ⊢
      exact ⟨.body n, wants_takeBody (r := { r with buffer := rest }) hl hm⟩
    | error problem =>
      simp only [hc, hp] at hm
      cases hm

lemma wants_takeNext (hl : r.lost = false) (hm : r.takeNext.1 = .more) :
    ∃ want, r.takeNext.2.Wants want := by
  unfold takeNext at hm ⊢
  cases hn : r.length? with
  | some n =>
    simp only [hn] at hm ⊢
    exact ⟨.body n, wants_takeBody hl hm⟩
  | none =>
    simp only [hn] at hm ⊢
    exact wants_takeFrame hl hn hm

lemma wants_next (hm : r.next.1 = .more) : ∃ want, r.next.2.Wants want := by
  cases hl : r.lost with
  | false =>
    rw [next_of_not_lost hl] at hm ⊢
    exact wants_takeNext hl hm
  | true =>
    cases hf : fromMark? r.buffer with
    | none =>
      rw [next_of_lost hl hf]
      exact ⟨.mark, hl, length_tail_le r.buffer⟩
    | some bs =>
      rw [next_of_found hl hf] at hm ⊢
      exact wants_takeNext rfl hm

/-- There are no more readings than bytes. -/
lemma length_drain_le (hs : r.Sound) : r.drain.1.length ≤ r.buffered := by
  induction r, hs using reading_induction with
  | more r r' hs hr =>
    rw [drain_of_more hr]
    exact Nat.zero_le _
  | reading r x r' hs hs' hr hx ih =>
    have hl := buffered_next hs (by simpa [hr] using hx)
    rw [hr] at hl
    rw [drain_of_reading hs hr hx, List.length_cons]
    exact Nat.lt_of_le_of_lt ih hl

end Reader

end Frame

open Act World Frame.Reader

/-! Sessions -/

section

variable {α β : Type} {w : World}

/-- Actions that begin alike and go on alike come to the same. -/
lemma Act.run_bind_congr {a : Act α} {f g : α → Act β}
    (h : ∀ x v, a.run w = (.ok x, v) → (f x).run v = (g x).run v) : (a >>= f).run w = (a >>= g).run w := by
  rw [run_bind, run_bind]
  rcases ha : a.run w with ⟨x | x, v⟩
  · rfl
  · exact h x v ha

lemma Act.IsRemark.run_bind_congr {a : Act Unit} (ha : IsRemark a) {f g : Unit → Act β}
    (h : ∀ v, Alike w v → (f ()).run v = (g ()).run v) : (a >>= f).run w = (a >>= g).run w := by
  obtain ⟨v, hv, halike⟩ := ha.run w
  rw [run_bind, run_bind, hv]
  exact h v halike

end

namespace Session

/-- The messages that wait are taken by no more calls than there are bytes, and one that finds nothing: to
be ready for more of them makes no difference. -/
lemma takeMessages_congr {id : SessionId} (fuel fuel' taken : Nat) {w : World}
    (hid : id < w.sessions.length) (hs : (w.session id).reader.Sound)
    (hfuel : (w.session id).reader.buffered < fuel) (hfuel' : (w.session id).reader.buffered < fuel') :
    (takeMessages id fuel taken).run w = (takeMessages id fuel' taken).run w := by
  induction fuel generalizing fuel' taken w with
  | zero => exact absurd hfuel (Nat.not_lt_zero _)
  | succ fuel ih =>
    obtain ⟨fuel', rfl⟩ := Nat.exists_eq_add_one_of_ne_zero (Nat.ne_zero_of_lt hfuel')
    refine run_bind_congr fun s v hv => ?_
    obtain ⟨hok, rfl⟩ := Prod.mk.inj hv
    obtain rfl := Except.ok.inj hok
    rcases hn : (w.session id).reader.next with ⟨reading, reader⟩
    have hsound := sound_next hs
    have hless : (w.session id).reader.next.1 ≠ .more → _ := buffered_next hs
    rw [hn] at hsound hless
    dsimp only at hsound hless ⊢
    refine run_bind_congr fun x u hu => ?_
    obtain ⟨-, rfl⟩ := Prod.mk.inj hu
    have hset : (w.setSession id { w.session id with reader }).session id = { w.session id with reader } :=
      session_setSession _ hid
    -- What is done before the next call leaves the reader as this one left it.
    have hnext : reading ≠ .more → ∀ {taken : Nat} {v : World}, v.sessions.length = w.sessions.length →
        (v.session id).reader = reader →
          (takeMessages id fuel taken).run v = (takeMessages id fuel' taken).run v := by
      rintro hne taken v hlength rfl
      have hfewer := hless hne
      exact ih fuel' taken (hlength ▸ hid) hsound (by omega) (by omega)
    cases reading with
    | more => rfl
    | fault f =>
      cases f with
      | failure f =>
        refine (isRemark_log _ _ _).run_bind_congr fun v hv => hnext (fun h => by cases h) ?_ ?_
        · rw [hv.sessions]
          exact List.length_set ..
        · rw [World.session, hv.sessions]
          exact congrArg Session.reader hset
      | _ => rfl
    | message m =>
      refine (isRemark_logTraffic _ _ _).run_bind_congr fun v hv => run_bind_congr fun x y hy => ?_
      obtain ⟨-, rfl⟩ := Prod.mk.inj hy
      have hlength : v.sessions.length = w.sessions.length := by
        rw [hv.sessions]
        exact List.length_set ..
      refine hnext (fun h => by cases h) ((List.length_set ..).trans hlength) ?_
      have htook : (((v.setSession id ((v.session id).enqueue m)).record (.dealt id (.read m))).session id) =
          (v.session id).enqueue m := session_setSession _ (hlength ▸ hid)
      obtain ⟨responses, errors, he⟩ := (v.session id).exists_enqueue_eq m
      have hsame : v.session id = { w.session id with reader } := by
        rw [← hset, World.session, World.session, hv.sessions]
      exact (congrArg Session.reader (htook.trans he)).trans (congrArg Session.reader hsame)

end Session

/-- However a reader was fed and asked before: every message and every fault uses up bytes, so that draining
ends after at most as many of them as there are bytes, and so does a session that reads. Once bytes are
missing, to ask again changes nothing, and the reader waits for exactly one thing. -/
theorem Frame.Reader.rests_of_reached {r : Reader} (h : Reached r) :
    (r.next.1 ≠ .more → r.next.2.buffered < r.buffered) ∧
      (r.next.1 = .more → r.next.2.next = (.more, r.next.2) ∧ ∃! want, r.next.2.Wants want) ∧
      (r.drain.1.length ≤ r.buffered ∧ r.drain.2.next = (.more, r.drain.2)) ∧
      ∀ (w : World) (id : SessionId), id < w.sessions.length → (w.session id).reader = r →
        ∀ fuel taken, r.buffered < fuel → (Session.takeMessages id fuel taken).run w =
          (Session.takeMessages id (r.buffered + 1) taken).run w := by
  have hs := h.isTidy.sound
  refine ⟨buffered_next hs, fun hm => ⟨next_of_more (Prod.ext hm rfl), ?_⟩,
    ⟨length_drain_le hs, (next_drain hs).2⟩, ?_⟩
  · obtain ⟨want, hwant⟩ := wants_next hm
    exact ⟨want, hwant, fun other ho => ho.unique hwant⟩
  · rintro w id hid rfl fuel taken hfuel
    exact Session.takeMessages_congr fuel _ taken hid hs hfuel (Nat.lt_succ_self _)

/-- After a bad header a reader keeps what may be the start of a length field, and waits for the rest. -/
theorem Frame.Reader.rests_of_reached_bad_header :
    let bytes := Utf8.encodeLossless "Content-Length: x\r\n\r\n; nothing that is kept; content-"
    let r := ((fresh none).feed bytes).next.2
    Reached r ∧ r.buffered = 32 ∧ r.next.1 = .more ∧ r.next.2.next = (.more, r.next.2) ∧
      r.next.2.Wants .mark ∧ ∃! want, r.next.2.Wants want := by
  intro bytes r
  have hr : Reached r := (Reached.fed bytes (.fresh none)).asked
  have hm : r.next.1 = .more := rfl
  obtain ⟨-, hrests, -⟩ := rests_of_reached hr
  refine ⟨hr, by decide, hm, (hrests hm).1, ?_, (hrests hm).2⟩
  exact ⟨by decide, by decide⟩

end LanguageClient
