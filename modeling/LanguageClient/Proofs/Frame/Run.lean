import LanguageClient.Proofs.Frame.Pieces

/-!
Bytes that are made up of parts, each of which is read as soon as its last byte has come.
-/

namespace LanguageClient.Frame.Reader

/-- A part is read as `x` when it has come in full, and not before. -/
structure Yields (r : Reader) (part : Bytes) (x : Reading) (r' : Reader) : Prop where
  next : (r.feed part).next = (x, r')
  given : x ≠ .more
  sized : ¬ x.isOversized
  early : ∀ p more, more ≠ [] → p ++ more = part → (r.feed p).next.1 = .more

inductive Run : Reader → List (Bytes × Reading) → Reader → Prop where
  | nil (r : Reader) : Run r [] r
  | cons {r r₁ r' : Reader} {part : Bytes} {x : Reading} {parts : List (Bytes × Reading)}
    (first : Yields r part x r₁) (later : Run r₁ parts r') : Run r ((part, x) :: parts) r'

/-- Nothing is read while these bytes come. -/
def Quiet (r : Reader) (bs : Bytes) : Prop := ∀ p, p <+: bs → (r.feed p).next.1 = .more

def bytes (parts : List (Bytes × Reading)) : Bytes := (parts.map (·.1)).flatten

@[simp] lemma bytes_nil : bytes [] = [] := rfl

@[simp] lemma bytes_cons (part : Bytes × Reading) (parts : List (Bytes × Reading)) :
    bytes (part :: parts) = part.1 ++ bytes parts := rfl

lemma drain_of_next_more {r : Reader} (h : r.next.1 = .more) : r.drain.1 = [] := by
  have hm : r.next = (.more, r.next.2) := Prod.ext h rfl
  rw [drain_of_more hm]

lemma Yields.drain {r r' : Reader} {part : Bytes} {x : Reading} (h : Yields r part x r')
    (hs : r.Sound) (more : Bytes) :
    (r.feed (part ++ more)).drain = (x :: (r'.feed more).drain.1, (r'.feed more).drain.2) := by
  have hn := next_feed h.next h.given h.sized more
  rw [feed_feed] at hn
  have hf : (r.feed (part ++ more)).Sound := hs
  exact drain_of_reading hf hn h.given

lemma Yields.sound {r r' : Reader} {part : Bytes} {x : Reading} (h : Yields r part x r')
    (hs : r.Sound) : r'.Sound := by
  have hf : (r.feed part).Sound := hs
  simpa only [h.next] using sound_next hf

lemma Run.drain {r r' : Reader} {parts : List (Bytes × Reading)} (h : Run r parts r')
    (hs : r.Sound) (rest : Bytes) :
    (r.feed (bytes parts ++ rest)).drain =
      (parts.map (·.2) ++ (r'.feed rest).drain.1, (r'.feed rest).drain.2) := by
  induction h with
  | nil r => rfl
  | cons first later ih =>
    rw [bytes_cons, List.append_assoc, first.drain hs, ih (first.sound hs)]
    rfl

/-- From an initial part of the bytes those readings come whose bytes are all there. -/
lemma Run.drain_of_prefix {r r' : Reader} {parts : List (Bytes × Reading)} (h : Run r parts r')
    (hs : r.Sound) {rest : Bytes} (hq : r'.Quiet rest) {p : Bytes} (hp : p <+: bytes parts ++ rest) :
    ∃ k ≤ parts.length, (r.feed p).drain.1 = (parts.take k).map (·.2) ∧
      ∀ j < parts.length, j < k ↔ (bytes (parts.take (j + 1))).length ≤ p.length := by
  induction h generalizing p with
  | nil r => exact ⟨0, le_rfl, drain_of_next_more (hq p hp), fun j hj => absurd hj (Nat.not_lt_zero j)⟩
  | @cons r r₁ r' part x parts first later ih =>
    rw [bytes_cons, List.append_assoc] at hp
    rcases Nat.lt_or_ge p.length part.length with hl | hl
    · obtain ⟨more, hm⟩ := List.prefix_of_prefix_length_le hp (List.prefix_append _ _) hl.le
      have hne : more ≠ [] := by
        rintro rfl
        rw [List.append_nil] at hm
        exact hl.ne (congrArg List.length hm)
      refine ⟨0, Nat.zero_le _, drain_of_next_more (first.early p more hne hm), fun j hj => ?_⟩
      simp only [List.take_succ_cons, bytes_cons, List.length_append]
      omega
    · obtain ⟨p, rfl⟩ := List.prefix_of_prefix_length_le (List.prefix_append _ _) hp hl
      obtain ⟨k, hk, hd, ht⟩ := ih (first.sound hs) hq (List.prefix_append_right_inj part |>.mp hp)
      refine ⟨k + 1, Nat.succ_le_succ hk, ?_, fun j hj => ?_⟩
      · rw [first.drain hs, hd, List.take_succ_cons, List.map_cons]
      · simp only [List.take_succ_cons, bytes_cons, List.length_append, Nat.add_le_add_iff_left]
        cases j with
        | zero => simp
        | succ j => rw [Nat.succ_lt_succ_iff, ht j (Nat.lt_of_succ_lt_succ hj)]

/-! Pieces -/

lemma not_oversized_receive {r : Reader} (hs : r.Sound) (pieces : List Bytes)
    (h : ∀ p, p <+: pieces.flatten → ∀ x ∈ (r.feed p).drain.1, ¬ x.isOversized) :
    ∀ x ∈ (r.receive pieces).1.flatten, ¬ x.isOversized := by
  induction pieces generalizing r with
  | nil => simp [receive]
  | cons piece rest ih =>
    have hs' : (r.feed piece).Sound := hs
    have ho := h piece (List.prefix_append _ _)
    intro x hx
    rw [receive, List.flatten_cons, List.mem_append] at hx
    rcases hx with hx | hx
    · exact ho x hx
    · refine ih (next_drain hs').1 (fun p hp y hy => ?_) x hx
      have hpp : piece ++ p <+: (piece :: rest).flatten := List.prefix_append_right_inj piece |>.mpr hp
      refine h (piece ++ p) hpp y ?_
      rw [← feed_feed, drain_feed hs' ho]
      exact List.mem_append_right _ hy

lemma take_receive (r : Reader) (pieces : List Bytes) (i : Nat) :
    (r.receive pieces).1.take i = (r.receive (pieces.take i)).1 := by
  induction pieces generalizing r i with
  | nil => simp [receive]
  | cons piece rest ih =>
    cases i with
    | zero => rfl
    | succ i => simp only [receive, List.take_succ_cons, ih]

/-- However the bytes are cut, every part is read, in order, after the piece that its last byte
came with. -/
lemma Run.receive {r r' : Reader} {parts : List (Bytes × Reading)} (h : Run r parts r')
    (hs : r.Sound) (hr : r.next = (.more, r)) {rest : Bytes} (hq : r'.Quiet rest)
    {pieces : List Bytes} (hp : pieces.flatten = bytes parts ++ rest) :
    (r.receive pieces).1.flatten = parts.map (·.2) ∧
      (r.receive pieces).2 = (r'.feed rest).drain.2 ∧
      ∀ i j, j < parts.length → (j < ((r.receive pieces).1.take i).flatten.length ↔
        (bytes (parts.take (j + 1))).length ≤ (pieces.take i).flatten.length) := by
  have hsized : ∀ part ∈ parts, ¬ part.2.isOversized := by
    clear hs hr hq hp
    induction h with
    | nil => simp
    | cons first later ih => exact List.forall_mem_cons.mpr ⟨first.sized, ih⟩
  have hprefix : ∀ p, p <+: pieces.flatten → ∀ x ∈ (r.feed p).drain.1, ¬ x.isOversized := by
    intro p hpp x hx
    obtain ⟨k, -, hd, -⟩ := h.drain_of_prefix hs hq (hp ▸ hpp)
    rw [hd] at hx
    obtain ⟨part, hpart, rfl⟩ := List.mem_map.mp hx
    exact hsized part (List.mem_of_mem_take hpart)
  have htake : ∀ i, (pieces.take i).flatten <+: pieces.flatten := by
    intro i
    conv_rhs => rw [← List.take_append_drop i pieces]
    rw [List.flatten_append]
    exact List.prefix_append _ _
  have hd := receive_eq_drain hs hr pieces (not_oversized_receive hs pieces hprefix)
  rw [hp, h.drain hs, drain_of_next_more (hq rest (List.prefix_refl rest)), List.append_nil,
    Prod.mk.injEq] at hd
  refine ⟨hd.1, hd.2, fun i j hj => ?_⟩
  have hi := congrArg Prod.fst (receive_eq_drain hs hr (pieces.take i)
    (not_oversized_receive hs _ fun p hpp => hprefix p (hpp.trans (htake i))))
  dsimp only at hi
  obtain ⟨k, hk, hdk, ht⟩ := h.drain_of_prefix hs hq (hp ▸ htake i)
  rw [take_receive, hi, hdk, List.length_map, List.length_take,
    Nat.min_eq_left hk]
  exact ht j hj

end LanguageClient.Frame.Reader
