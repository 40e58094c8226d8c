import LanguageClient.World
import Mathlib.Tactic.Lemma

/-!
What an action leads to. If a relation between worlds is reflexive and transitive, the parts of an
action stay within it one by one.
-/

namespace LanguageClient.Act

variable {α β : Type}

def after (a : Act α) (w : World) : World := (a.run w).2

class Course (R : World → World → Prop) : Prop where
  refl : ∀ w, R w w
  trans : ∀ {u v w}, R u v → R v w → R u w

class Stable (R : World → World → Prop) (P : World → Prop) : Prop where
  step : ∀ {v w}, R v w → P v → P w

instance {R : World → World → Prop} {P Q : World → Prop} [Stable R P] [Stable R Q] :
    Stable R fun w => P w ∧ Q w where
  step h hp := ⟨Stable.step h hp.1, Stable.step h hp.2⟩

/-- An action that starts where `P` holds leads from world to world as `R` allows. -/
structure Within (R : World → World → Prop) (P : World → Prop) (a : Act α) : Prop where
  after : ∀ w, P w → R w (a.after w)

lemma run_bind (a : Act α) (f : α → Act β) (w : World) :
    (a >>= f).run w =
      match a.run w with
      | (.ok x, w') => (f x).run w'
      | (.error e, w') => (.error e, w') := by
  rw [ExceptT.run_bind]
  change StateT.bind a.run _ w = _
  rw [StateT.bind]
  rcases a.run w with ⟨x | e, w'⟩ <;> rfl

section

variable {R : World → World → Prop} {P Q : World → Prop} {a : Act α} {f : α → Act β}

lemma Within.mono (h : Within R Q a) (hp : ∀ w, P w → Q w) : Within R P a :=
  ⟨fun w hw => h.after w (hp w hw)⟩

lemma within_pure [Course R] (x : α) : Within R P (pure x : Act α) :=
  ⟨fun w _ => Course.refl w⟩

lemma within_throw [Course R] (e : Fault) : Within R P (throw e : Act α) :=
  ⟨fun w _ => Course.refl w⟩

lemma within_check [Course R] (r : Checked α) : Within R P (check r) :=
  ⟨fun w _ => Course.refl w⟩

lemma within_modify {g : World → World} (h : ∀ w, P w → R w (g w)) :
    Within R P (modify g : Act Unit) :=
  ⟨h⟩

lemma Within.attempt (h : Within R P a) : Within R P a.attempt :=
  ⟨h.after⟩

/-- What comes next starts from a world of which `Q` holds. -/
lemma Within.bind_of [Course R] (ha : ∀ w, P w → R w (a.after w) ∧ Q (a.after w))
    (hf : ∀ x, Within R Q (f x)) : Within R P (a >>= f) := by
  refine ⟨fun w hw => ?_⟩
  obtain ⟨hr, hq⟩ := ha w hw
  rw [Act.after, run_bind]
  rw [Act.after] at hr hq
  rcases ha : a.run w with ⟨x | x, w'⟩ <;> rw [ha] at hr hq
  · exact hr
  · exact Course.trans hr ((hf x).after w' hq)

lemma Within.bind_at [Course R] {w : World} (ha : R w (a.after w))
    (hf : ∀ x, Within R (fun v => v = a.after w) (f x)) :
    Within R (fun v => v = w) (a >>= f) := by
  refine Within.bind_of (fun v hv => ?_) hf
  subst hv
  exact ⟨ha, rfl⟩

lemma Within.bind_mono [Course R] [Stable R Q] (ha : Within R P a) (hp : ∀ w, P w → Q w)
    (hf : ∀ x, Within R Q (f x)) : Within R P (a >>= f) :=
  Within.bind_of (fun w hw => ⟨ha.after w hw, Stable.step (ha.after w hw) (hp w hw)⟩) hf

lemma Within.bind [Course R] [Stable R P] (ha : Within R P a) (hf : ∀ x, Within R P (f x)) :
    Within R P (a >>= f) :=
  ha.bind_mono (fun _ h => h) hf

lemma Within.bind_any [Course R] (ha : Within R P a) (hf : ∀ x, Within R (fun _ => True) (f x)) :
    Within R P (a >>= f) :=
  Within.bind_of (fun w hw => ⟨ha.after w hw, trivial⟩) hf

lemma within_check_bind [Course R] {r : Checked α} (hf : ∀ x, r = .ok x → Within R P (f x)) :
    Within R P (check r >>= f) := by
  refine ⟨fun w hw => ?_⟩
  cases r with
  | ok x => exact (hf x rfl).after w hw
  | error e => exact Course.refl w

lemma within_get_bind {f : World → Act β}
    (hf : ∀ w, P w → Within R (fun v => v = w) (f w)) : Within R P (get >>= f) :=
  ⟨fun w hw => (hf w hw).after w rfl⟩

lemma within_getSession_bind {id : SessionId} {f : Session → Act β}
    (hf : ∀ w, P w → Within R (fun v => v = w) (f (w.session id))) :
    Within R P (getSession id >>= f) :=
  ⟨fun w hw => (hf w hw).after w rfl⟩

end

/-! What an action comes to -/

/-- An action that starts from a world comes to a result and a world of which `Q` holds. -/
def Ends (a : Act α) (w : World) (Q : Except Fault α → World → Prop) : Prop :=
  Q (a.run w).1 (a.run w).2

section

variable {a : Act α} {f : α → Act β} {w : World} {Q : Except Fault β → World → Prop}

lemma Ends.mono {Q Q' : Except Fault α → World → Prop} (h : Ends a w Q)
    (hq : ∀ r v, Q r v → Q' r v) : Ends a w Q' :=
  hq _ _ h

lemma Ends.and {Q Q' : Except Fault α → World → Prop} (h : Ends a w Q) (g : Ends a w Q') :
    Ends a w fun r v => Q r v ∧ Q' r v :=
  ⟨h, g⟩

lemma ends_of_within {R : World → World → Prop} {P : World → Prop} (h : Within R P a) (hw : P w) :
    Ends a w fun _ v => R w v :=
  h.after w hw

lemma within_of_ends {R : World → World → Prop} {P : World → Prop}
    (h : ∀ w, P w → Ends a w fun _ v => R w v) : Within R P a :=
  ⟨h⟩

lemma ends_pure {x : β} (h : Q (.ok x) w) : Ends (pure x) w Q := h

lemma ends_throw {e : Fault} (h : Q (.error e) w) : Ends (throw e) w Q := h

/-- What comes next starts where the first action ended, if it did not fail. -/
def Next (f : α → Act β) (Q : Except Fault β → World → Prop) : Except Fault α → World → Prop
  | .ok x, v => Ends (f x) v Q
  | .error e, v => Q (.error e) v

lemma next_ok {x : α} {v : World} (h : Ends (f x) v Q) : Next f Q (.ok x) v := h

lemma Ends.bind (h : Ends a w (Next f Q)) : Ends (a >>= f) w Q := by
  rw [Ends] at h ⊢
  rw [run_bind]
  rcases ha : a.run w with ⟨x | x, v⟩ <;> rw [ha] at h <;> exact h

lemma Ends.attempt_bind {f : Except Fault α → Act β} (h : Ends a w fun r v => Ends (f r) v Q) :
    Ends (a.attempt >>= f) w Q :=
  .bind h

lemma Ends.attempt {Q : Except Fault (Except Fault α) → World → Prop} (h : Ends a w fun r v => Q (.ok r) v) :
    Ends a.attempt w Q := h

lemma ends_get_bind {f : World → Act β} (h : Ends (f w) w Q) : Ends (get >>= f) w Q := h

lemma ends_getSession_bind {id : SessionId} {f : Session → Act β}
    (h : Ends (f (w.session id)) w Q) : Ends (getSession id >>= f) w Q := h

lemma ends_check_bind {r : Checked α} (hok : ∀ x, r = .ok x → Ends (f x) w Q)
    (herror : ∀ e, r = .error e → Q (.error e) w) : Ends (check r >>= f) w Q := by
  cases r with
  | ok x => exact hok x rfl
  | error e => exact herror e rfl

lemma ends_ok_bind {r : Checked α} {x : α} (hr : r = .ok x) (h : Ends (f x) w Q) : Ends (check r >>= f) w Q :=
  hr ▸ h

lemma ends_error_bind {r : Checked α} {e : Fault} (hr : r = .error e) (h : Q (.error e) w) :
    Ends (check r >>= f) w Q :=
  hr ▸ h

lemma ends_record_bind {e : Event} {f : Unit → Act β} (h : Ends (f ()) (w.record e) Q) :
    Ends (record e >>= f) w Q := h

lemma ends_log_bind {source : Source} {level : Int} {text : Text} {f : Unit → Act β}
    (h : Ends (f ()) (w.log source (.int level) text none) Q) : Ends (log source level text >>= f) w Q := h

lemma ends_update_bind {id : SessionId} {g : Session → Session} {f : Unit → Act β}
    (h : Ends (f ()) (w.setSession id (g (w.session id))) Q) :
    Ends (updateSession id g >>= f) w Q := h

lemma ends_deal_bind {id : SessionId} {d : Dealing} {g : Session → Session} {f : Unit → Act β}
    (h : Ends (f ()) ((w.setSession id (g (w.session id))).record (.dealt id d)) Q) :
    Ends (deal id d g >>= f) w Q := h

end

end LanguageClient.Act
