import LanguageClient.Proofs.Frame.Search

/-!
One reading. It does not see the bytes behind its frame, and what a reader keeps while bytes are
missing reads like what it was given.
-/

namespace LanguageClient.Frame

/-- Whether a header was given up for its size. -/
def Reading.isOversized : Reading → Bool
  | .fault (.failure (.malformed reason _)) => reason = "Header too large"
  | _ => false

lemma isOversized_oversized (raw : Bytes) : (Reading.oversized raw).isOversized :=
  decide_eq_true (Eq.refl ("Header too large" : Text))

lemma decodeBody_ne_more (limit? : Option Nat) (body : Bytes) :
    decodeBody limit? body ≠ .more := by
  unfold decodeBody
  repeat' split
  all_goals simp [Reading.malformed]

namespace Reader

@[simp] lemma feed_nil (r : Reader) : r.feed [] = r := by
  simp [feed]

@[simp] lemma feed_feed (r : Reader) (a b : Bytes) : (r.feed a).feed b = r.feed (a ++ b) := by
  simp [feed]

/-! Parts of a reading -/

lemma takeBody_of_lt {r : Reader} {n : Nat} (h : r.buffer.length < n) :
    r.takeBody n = (.more, { r with length? := some n }) := by
  simp [takeBody, h]

lemma takeBody_of_le {r : Reader} {n : Nat} (h : n ≤ r.buffer.length) :
    r.takeBody n = (decodeBody r.limit? (r.buffer.take n),
      { r with buffer := r.buffer.drop n, length? := none }) := by
  simp [takeBody, Nat.not_lt.mpr h]

lemma takeBody_feed {r r' : Reader} {n : Nat} {x : Reading} (h : r.takeBody n = (x, r'))
    (hx : x ≠ .more) (more : Bytes) : (r.feed more).takeBody n = (x, r'.feed more) := by
  rcases Nat.lt_or_ge r.buffer.length n with hl | hl
  · rw [takeBody_of_lt hl, Prod.mk.injEq] at h
    exact (hx h.1.symm).elim
  · rw [takeBody_of_le hl, Prod.mk.injEq] at h
    obtain ⟨rfl, rfl⟩ := h
    rw [takeBody_of_le (by simp [feed]; omega)]
    simp [feed, List.take_append_of_le_length hl, List.drop_append_of_le_length hl]

lemma takeFrame_feed {r r' : Reader} {x : Reading} (h : r.takeFrame = (x, r')) (hx : x ≠ .more)
    (ho : ¬ x.isOversized) (more : Bytes) : (r.feed more).takeFrame = (x, r'.feed more) := by
  unfold takeFrame at h ⊢
  cases hc : cutAround separator r.buffer with
  | none =>
    simp only [hc] at h
    split at h
    next =>
      obtain ⟨rfl, -⟩ := Prod.mk.inj h
      exact (ho (isOversized_oversized _)).elim
    next => exact (hx (Prod.mk.inj h).1.symm).elim
  | some cut =>
    obtain ⟨header, rest⟩ := cut
    have hf : cutAround separator (r.feed more).buffer = some (header, rest ++ more) :=
      cutAround_append more hc
    simp only [hc] at h
    simp only [hf]
    split at h
    next n hn => exact takeBody_feed (r := { r with buffer := rest }) h hx more
    next problem hp =>
      obtain ⟨rfl, rfl⟩ := Prod.mk.inj h
      rfl

def takeNext (r : Reader) : Reading × Reader :=
  match r.length? with
  | some n => r.takeBody n
  | none => r.takeFrame

lemma next_of_not_lost {r : Reader} (h : r.lost = false) : r.next = r.takeNext := by
  have hf : r.find = r := by simp [find, h]
  simp only [next, hf, h, takeNext]
  rfl

lemma next_of_found {r : Reader} {bs : Bytes} (hl : r.lost = true)
    (h : fromMark? r.buffer = some bs) :
    r.next = Reader.takeNext { r with buffer := bs, lost := false } := by
  have hf : r.find = { r with buffer := bs, lost := false } := by simp [find, hl, h]
  simp only [next, hf, takeNext]
  rfl

lemma next_of_lost {r : Reader} (hl : r.lost = true) (h : fromMark? r.buffer = none) :
    r.next = (.more, { r with buffer := tail r.buffer }) := by
  simp [next, find, hl, h]

lemma takeNext_feed {r r' : Reader} {x : Reading} (h : r.takeNext = (x, r')) (hx : x ≠ .more)
    (ho : ¬ x.isOversized) (more : Bytes) : (r.feed more).takeNext = (x, r'.feed more) := by
  unfold takeNext at h ⊢
  cases hn : r.length? with
  | some n =>
    simp only [hn] at h
    simpa only [feed, hn] using takeBody_feed h hx more
  | none =>
    simp only [hn] at h
    simpa only [feed, hn] using takeFrame_feed h hx ho more

lemma next_feed {r r' : Reader} {x : Reading} (h : r.next = (x, r')) (hx : x ≠ .more)
    (ho : ¬ x.isOversized) (more : Bytes) : (r.feed more).next = (x, r'.feed more) := by
  cases hl : r.lost with
  | false =>
    rw [next_of_not_lost hl] at h
    rw [next_of_not_lost (by simpa [feed] using hl)]
    exact takeNext_feed h hx ho more
  | true =>
    cases hm : fromMark? r.buffer with
    | none =>
      rw [next_of_lost hl hm] at h
      exact (hx (Prod.mk.inj h).1.symm).elim
    | some bs =>
      rw [next_of_found hl hm] at h
      have hm' : fromMark? (r.feed more).buffer = some (bs ++ more) := fromMark?_append more hm
      rw [next_of_found (by simpa [feed] using hl) hm']
      exact takeNext_feed h hx ho more

lemma takeNext_feed_of_more {r r' : Reader} (hl : r.lost = false) (h : r.takeNext = (.more, r'))
    (more : Bytes) : (r.feed more).takeNext = (r'.feed more).next := by
  unfold takeNext at h
  cases hn : r.length? with
  | some n =>
    simp only [hn] at h
    rcases Nat.lt_or_ge r.buffer.length n with hb | hb
    · rw [takeBody_of_lt hb, Prod.mk.injEq] at h
      obtain ⟨-, rfl⟩ := h
      rw [next_of_not_lost (by simpa [feed] using hl)]
      simp [takeNext, feed, hn]
    · rw [takeBody_of_le hb, Prod.mk.injEq] at h
      exact (decodeBody_ne_more _ _ h.1).elim
  | none =>
    simp only [hn, takeFrame] at h
    cases hc : cutAround separator r.buffer with
    | none =>
      simp only [hc] at h
      split at h
      next => simp [Reading.oversized, Reading.malformed] at h
      next =>
        obtain ⟨-, rfl⟩ := Prod.mk.inj h
        rw [next_of_not_lost (by simpa [feed] using hl)]
    | some cut =>
      obtain ⟨header, rest⟩ := cut
      have hf : cutAround separator (r.feed more).buffer = some (header, rest ++ more) :=
        cutAround_append more hc
      simp only [hc] at h
      split at h
      next n hp =>
        rcases Nat.lt_or_ge rest.length n with hb | hb
        · rw [takeBody_of_lt hb, Prod.mk.injEq] at h
          obtain ⟨-, rfl⟩ := h
          rw [next_of_not_lost (by simpa [feed] using hl)]
          have hn' : (r.feed more).length? = none := hn
          simp only [takeNext, takeFrame, hn', hf, hp]
          rfl
        · rw [takeBody_of_le hb, Prod.mk.injEq] at h
          exact (decodeBody_ne_more _ _ h.1).elim
      next => simp [Reading.malformed] at h

/-- While bytes are missing nothing is thrown away that a later reading needs. -/
lemma next_feed_of_more {r r' : Reader} (h : r.next = (.more, r')) (more : Bytes) :
    (r.feed more).next = (r'.feed more).next := by
  cases hl : r.lost with
  | false =>
    rw [next_of_not_lost hl] at h
    rw [next_of_not_lost (by simpa [feed] using hl)]
    exact takeNext_feed_of_more hl h more
  | true =>
    have hl' : (r.feed more).lost = true := hl
    cases hm : fromMark? r.buffer with
    | none =>
      rw [next_of_lost hl hm, Prod.mk.injEq] at h
      obtain ⟨-, rfl⟩ := h
      have ht : fromMark? (tail r.buffer ++ more) = fromMark? (r.feed more).buffer :=
        fromMark?_tail_append hm more
      cases hf : fromMark? (r.feed more).buffer with
      | none =>
        rw [next_of_lost hl' hf, next_of_lost (by simpa [feed] using hl) (ht.trans hf)]
        simp [feed, tail_append r.buffer more]
      | some found =>
        rw [next_of_found hl' hf, next_of_found (by simpa [feed] using hl) (ht.trans hf)]
        rfl
    | some bs =>
      rw [next_of_found hl hm] at h
      have hm' : fromMark? (r.feed more).buffer = some (bs ++ more) := fromMark?_append more hm
      rw [next_of_found hl' hm']
      exact takeNext_feed_of_more rfl h more

lemma next_of_more {r r' : Reader} (h : r.next = (.more, r')) : r'.next = (.more, r') := by
  have hr := next_feed_of_more h []
  rw [feed_nil, feed_nil] at hr
  exact hr.symm.trans h

end Reader

end LanguageClient.Frame
