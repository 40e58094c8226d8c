import LanguageClient.Proofs.Frame.Next

/-!
Bytes that arrive in pieces are read as if they had arrived at once, as long as no header is given
up for its size.
-/

namespace LanguageClient.Frame.Reader

/-! Progress -/

/-- A body of no bytes is never waited for. -/
def Sound (r : Reader) : Prop := r.length? ≠ some 0

lemma sound_takeBody (r : Reader) (n : Nat) : (r.takeBody n).2.Sound := by
  rcases Nat.lt_or_ge r.buffer.length n with hl | hl
  · rw [takeBody_of_lt hl, Sound, ne_eq, Option.some.injEq]
    omega
  · rw [takeBody_of_le hl]
    simp [Sound]

lemma sound_takeFrame {r : Reader} (hr : r.length? = none) : r.takeFrame.2.Sound := by
  unfold takeFrame
  split
  next => split <;> simp [Sound, hr]
  next header rest hc =>
    split
    next n hn => exact sound_takeBody _ n
    next problem hp => simp [Sound, hr]

lemma sound_takeNext (r : Reader) : r.takeNext.2.Sound := by
  unfold takeNext
  split
  next n hn => exact sound_takeBody r n
  next hn => exact sound_takeFrame hn

lemma sound_next {r : Reader} (hs : r.Sound) : r.next.2.Sound := by
  cases hl : r.lost with
  | false => simpa only [next_of_not_lost hl] using sound_takeNext r
  | true =>
    cases hm : fromMark? r.buffer with
    | none =>
      rw [next_of_lost hl hm]
      exact hs
    | some bs => simpa only [next_of_found hl hm] using sound_takeNext _

lemma buffered_takeBody {r : Reader} {n : Nat} (hx : (r.takeBody n).1 ≠ .more) :
    (r.takeBody n).2.buffered + n = r.buffered := by
  rcases Nat.lt_or_ge r.buffer.length n with hb | hb
  · simp [takeBody_of_lt hb] at hx
  · rw [takeBody_of_le hb]
    simp only [buffered, List.length_drop]
    omega

lemma buffered_takeFrame {r : Reader} (hx : r.takeFrame.1 ≠ .more) :
    r.takeFrame.2.buffered < r.buffered := by
  unfold takeFrame at hx ⊢
  cases hc : cutAround separator r.buffer with
  | none =>
    simp only [hc] at hx ⊢
    split
    next hl => simp only [buffered, List.length_nil]; omega
    next hl => simp [hl] at hx
  | some cut =>
    obtain ⟨header, rest⟩ := cut
    have hr : rest.length < r.buffer.length := by
      rw [eq_of_cutAround hc]
      simp only [List.length_append, separator, lineEnd, List.length_cons, List.length_nil]
      omega
    cases hp : parseHeader header with
    | ok n =>
      simp only [hc, hp] at hx ⊢
      have hb := buffered_takeBody hx
      simp only [buffered] at hb ⊢
      omega
    | error problem =>
      simp only [hp]
      exact hr

lemma buffered_takeNext {r : Reader} (hs : r.Sound) (hx : r.takeNext.1 ≠ .more) :
    r.takeNext.2.buffered < r.buffered := by
  unfold takeNext at hx ⊢
  cases hn : r.length? with
  | some n =>
    have hn0 : n ≠ 0 := fun h0 => hs (by rw [hn, h0])
    simp only [hn] at hx ⊢
    have hb := buffered_takeBody hx
    omega
  | none =>
    simp only [hn] at hx ⊢
    exact buffered_takeFrame hx

lemma buffered_next {r : Reader} (hs : r.Sound) (hx : r.next.1 ≠ .more) :
    r.next.2.buffered < r.buffered := by
  cases hl : r.lost with
  | false =>
    rw [next_of_not_lost hl] at hx ⊢
    exact buffered_takeNext hs hx
  | true =>
    cases hm : fromMark? r.buffer with
    | none => simp [next_of_lost hl hm] at hx
    | some bs =>
      rw [next_of_found hl hm] at hx ⊢
      have hb := buffered_takeNext (r := { r with buffer := bs, lost := false }) hs hx
      exact Nat.lt_of_lt_of_le hb (marked_of_fromMark? hm).2.length_le

@[elab_as_elim]
lemma reading_induction {motive : (r : Reader) → r.Sound → Prop}
    (more : ∀ r r' hs, r.next = (.more, r') → motive r hs)
    (reading : ∀ r x r' hs hs', r.next = (x, r') → x ≠ .more → motive r' hs' → motive r hs)
    (r : Reader) (hs : r.Sound) : motive r hs := by
  induction hb : r.buffered using Nat.strong_induction_on generalizing r with
  | _ n ih =>
    rcases hr : r.next with ⟨x, r'⟩
    by_cases hx : x = .more
    · subst hx
      exact more r r' hs hr
    · have hs' := sound_next hs
      have hl := buffered_next hs (by simpa [hr] using hx)
      simp only [hr] at hs' hl
      exact reading r x r' hs hs' hr hx (ih r'.buffered (by omega) r' hs' rfl)

/-! Draining -/

lemma drainUpTo_of_more {r r' : Reader} (h : r.next = (.more, r')) (fuel : Nat) :
    drainUpTo (fuel + 1) r = ([], r') := by
  simp [drainUpTo, h]

lemma drainUpTo_of_reading {r r' : Reader} {x : Reading} (h : r.next = (x, r')) (hx : x ≠ .more)
    (fuel : Nat) :
    drainUpTo (fuel + 1) r = (x :: (drainUpTo fuel r').1, (drainUpTo fuel r').2) := by
  cases x <;> simp_all [drainUpTo]

lemma drainUpTo_congr {r : Reader} (hs : r.Sound) :
    ∀ m n, r.buffered < m → r.buffered < n → drainUpTo m r = drainUpTo n r := by
  induction r, hs using reading_induction with
  | more r r' hs hr =>
    rintro (_ | m) (_ | n) hm hn
    · rfl
    · omega
    · omega
    · rw [drainUpTo_of_more hr, drainUpTo_of_more hr]
  | reading r x r' hs hs' hr hx ih =>
    rintro (_ | m) (_ | n) hm hn
    · rfl
    · omega
    · omega
    · have hl := buffered_next hs (by simpa [hr] using hx)
      simp only [hr] at hl
      rw [drainUpTo_of_reading hr hx, drainUpTo_of_reading hr hx,
        ih m n (by omega) (by omega)]

lemma drain_of_more {r r' : Reader} (h : r.next = (.more, r')) : r.drain = ([], r') :=
  drainUpTo_of_more h _

lemma drain_of_reading {r r' : Reader} {x : Reading} (hs : r.Sound) (h : r.next = (x, r'))
    (hx : x ≠ .more) : r.drain = (x :: r'.drain.1, r'.drain.2) := by
  have hs' := sound_next hs
  have hl := buffered_next hs (by simpa [h] using hx)
  rw [h] at hs' hl
  have hd : drainUpTo r.buffered r' = r'.drain := drainUpTo_congr hs' _ _ hl (Nat.lt_succ_self _)
  rw [drain, drainUpTo_of_reading h hx, hd]

lemma drain_congr {r s : Reader} (hr : r.Sound) (hs : s.Sound) (h : r.next = s.next) :
    r.drain = s.drain := by
  rcases hx : r.next with ⟨x, r'⟩
  have hsx : s.next = (x, r') := h.symm.trans hx
  by_cases hm : x = .more
  · subst hm
    rw [drain_of_more hx, drain_of_more hsx]
  · rw [drain_of_reading hr hx hm, drain_of_reading hs hsx hm]

lemma next_drain {r : Reader} (hs : r.Sound) :
    r.drain.2.Sound ∧ r.drain.2.next = (.more, r.drain.2) := by
  induction r, hs using reading_induction with
  | more r r' hs hr =>
    rw [drain_of_more hr]
    exact ⟨by simpa [hr] using sound_next hs, next_of_more hr⟩
  | reading r x r' hs hs' hr hx ih => rwa [drain_of_reading hs hr hx]

lemma drain_feed {r : Reader} (hs : r.Sound) (ho : ∀ x ∈ r.drain.1, ¬ x.isOversized)
    (more : Bytes) :
    (r.feed more).drain =
      (r.drain.1 ++ (r.drain.2.feed more).drain.1, (r.drain.2.feed more).drain.2) := by
  induction r, hs using reading_induction with
  | more r r' hs hr =>
    have hs' : r'.Sound := by simpa [hr] using sound_next hs
    have hd : (r.feed more).drain = (r'.feed more).drain :=
      drain_congr hs hs' (next_feed_of_more hr more)
    rw [drain_of_more hr, hd, List.nil_append]
  | reading r x r' hs hs' hr hx ih =>
    rw [drain_of_reading hs hr hx] at ho ⊢
    simp only [List.mem_cons, forall_eq_or_imp] at ho
    have hf : (r.feed more).Sound := hs
    rw [drain_of_reading hf (next_feed hr hx ho.1 more) hx, ih ho.2]
    rfl

/-! Pieces -/

lemma receive_eq_drain {r : Reader} (hs : r.Sound) (hr : r.next = (.more, r))
    (pieces : List Bytes)
    (ho : ∀ x ∈ (r.receive pieces).1.flatten, ¬ x.isOversized) :
    ((r.receive pieces).1.flatten, (r.receive pieces).2) = (r.feed pieces.flatten).drain := by
  induction pieces generalizing r with
  | nil => rw [List.flatten_nil, feed_nil, drain_of_more hr]; rfl
  | cons piece rest ih =>
    have hs' : (r.feed piece).Sound := hs
    obtain ⟨hd, hn⟩ := next_drain hs'
    simp only [receive, List.flatten_cons, List.mem_append] at ho ⊢
    rw [← feed_feed, drain_feed hs' fun x hx => ho x (.inl hx),
      ← ih hd hn fun x hx => ho x (.inr hx)]

def fresh (limit? : Option Nat) : Reader := { limit? := limit? }

lemma sound_fresh (limit? : Option Nat) : (fresh limit?).Sound := by
  simp [Sound, fresh]

lemma next_fresh (limit? : Option Nat) : (fresh limit?).next = (.more, fresh limit?) := by
  simp [fresh, next, find, takeFrame, cutAround, separator, lineEnd, headerLimit]

/-- How bytes are cut into pieces does not matter to what is read in the end, nor to the state that
the reader ends in, as long as no header is given up for its size. -/
theorem receive_eq_of_flatten_eq (limit? : Option Nat) (pieces pieces' : List Bytes)
    (h : pieces.flatten = pieces'.flatten)
    (ho : ∀ x ∈ ((fresh limit?).receive pieces).1.flatten, ¬ x.isOversized)
    (ho' : ∀ x ∈ ((fresh limit?).receive pieces').1.flatten, ¬ x.isOversized) :
    ((fresh limit?).receive pieces).1.flatten = ((fresh limit?).receive pieces').1.flatten ∧
      ((fresh limit?).receive pieces).2 = ((fresh limit?).receive pieces').2 := by
  have hp := receive_eq_drain (sound_fresh limit?) (next_fresh limit?) pieces ho
  have hp' := receive_eq_drain (sound_fresh limit?) (next_fresh limit?) pieces' ho'
  rw [h, ← hp', Prod.mk.injEq] at hp
  exact hp

/-- After a bad header the next length field is found although a piece ends inside it. -/
theorem receive_cut_length_field :
    let start := Utf8.encodeLossless "Content-Length: x\r\n\r\n; content-l"
    let rest := Utf8.encodeLossless "ENGTH: 2\r\n\r\n\x7b\x7d"
    (∀ x ∈ ((fresh none).receive [start, rest]).1.flatten, ¬ x.isOversized) ∧
      ((fresh none).receive [start, rest]).1.flatten =
        ((fresh none).receive [start ++ rest]).1.flatten := by
  intro start rest
  have ho : ∀ x ∈ ((fresh none).receive [start, rest]).1.flatten, ¬ x.isOversized := by decide
  have ho' : ∀ x ∈ ((fresh none).receive [start ++ rest]).1.flatten, ¬ x.isOversized := by decide
  exact ⟨ho, (receive_eq_of_flatten_eq none [start, rest] [start ++ rest] rfl ho ho').1⟩

end LanguageClient.Frame.Reader
