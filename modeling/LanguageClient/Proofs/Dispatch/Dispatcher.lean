import LanguageClient.Proofs.Steps.Conduct
import Mathlib.Data.List.Forall2
import Mathlib.Data.List.ReduceOption

/-!
What dispatching is meant to do: listeners in the order of their registration, and whoever is told. Nothing
here is taken from a table that changes meanwhile, and nothing fails.
-/

namespace LanguageClient

/-- What dispatching consists of: listeners are added, and they are called. -/
def SessionAction.isDispatching : SessionAction → Bool
  | onEvent _ _ | onMethod _ _ | fireEvent _ _ | fireMethod _ _ => true
  | _ => false

/-! Listeners that do not fail -/

mutual

/-- A callback that does the same and does not fail, nor do the listeners that it adds. -/
def Callback.calm : Callback → Callback
  | .mk label actions _ => .mk label (actionsCalm actions) none

def actionsCalm : List Action → List Action
  | [] => []
  | a :: rest => a.calm :: actionsCalm rest

def Action.calm : Action → Action
  | .session server action => .session server action.calm
  | a => a

def SessionAction.calm : SessionAction → SessionAction
  | .onEvent name callback => .onEvent name (callbackCalm callback)
  | .onMethod name callback => .onMethod name (callbackCalm callback)
  | a => a

def callbackCalm : Option Callback → Option Callback
  | none => none
  | some callback => some callback.calm

end

lemma SessionAction.isDispatching_calm (a : SessionAction) : a.calm.isDispatching = a.isDispatching := by
  cases a <;> rfl

mutual

lemma Callback.obeys_calm : (c : Callback) → c.obeys SessionAction.isDispatching →
    c.calm.obeys SessionAction.isDispatching
  | .mk _ actions _, h => actionsObey_calm actions h

lemma actionsObey_calm : (actions : List Action) → actionsObey SessionAction.isDispatching actions →
    actionsObey SessionAction.isDispatching (actionsCalm actions)
  | [], _ => rfl
  | a :: rest, h => by
    rw [actionsObey, Bool.and_eq_true] at h
    rw [actionsCalm, actionsObey, Action.obeys_calm a h.1, actionsObey_calm rest h.2]
    rfl

lemma Action.obeys_calm : (a : Action) → a.obeys SessionAction.isDispatching →
    a.calm.obeys SessionAction.isDispatching
  | .session _ action, h => by
    rw [Action.obeys, Bool.and_eq_true] at h
    rw [Action.calm, Action.obeys, SessionAction.isDispatching_calm, h.1]
    exact SessionAction.callbacksObey_calm action h.1 h.2
  | .advance _, _ | .failLaunches _, _ | .setFocus _, _ | .setProject _, _ | .link _ _, _ => rfl

lemma SessionAction.callbacksObey_calm : (a : SessionAction) → a.isDispatching →
    a.callbacksObey SessionAction.isDispatching → a.calm.callbacksObey SessionAction.isDispatching
  | .onEvent _ callback, _, h | .onMethod _ callback, _, h => callbackObeys_calm callback h
  | .fireEvent _ _, _, _ | .fireMethod _ _, _, _ => rfl

lemma callbackObeys_calm : (callback : Option Callback) → callbackObeys SessionAction.isDispatching callback →
    callbackObeys SessionAction.isDispatching (callbackCalm callback)
  | none, _ => rfl
  | some callback, h => Callback.obeys_calm callback h

end

/-- Events and methods have names of their own. -/
inductive Realm where
  | event
  | method
deriving DecidableEq

/-- What listeners are registered for. -/
structure Topic where
  realm : Realm
  name : Json.Key
deriving DecidableEq

/-- What listeners are told. -/
inductive Occasion where
  | event (name : Json.Key) (args : List Json)
  | method (name : Json.Key) (params : Json)

def Occasion.topic : Occasion → Topic
  | event name _ => ⟨.event, name⟩
  | method name _ => ⟨.method, name⟩

/-- What an operation fires, if anything. -/
def SessionAction.fires? : SessionAction → Option Topic
  | fireEvent name _ => name.key?.map (⟨.event, ·⟩)
  | fireMethod name _ => name.key?.map (⟨.method, ·⟩)
  | _ => none

/-- Dispatching that fires other topics. -/
def SessionAction.spares (topic : Topic) (a : SessionAction) : Bool :=
  a.isDispatching && decide (a.fires? ≠ some topic)

structure Registration where
  topic : Topic
  listener : Option Callback

/-- A listener was told, which is known by its label. -/
structure Invocation where
  occasion : Occasion
  label : Json

structure Dispatcher where
  history : List Registration := []
  told : List Invocation := []

namespace Dispatcher

/-- What becomes of a dispatcher when a listener is told. -/
abbrev Teller := Occasion → Option Callback → Dispatcher → Dispatcher

def register (r : Registration) (d : Dispatcher) : Dispatcher := { d with history := d.history ++ [r] }

def hear (i : Invocation) (d : Dispatcher) : Dispatcher := { d with told := d.told ++ [i] }

/-- The listeners that were registered for a topic, in order. -/
def audience (d : Dispatcher) (topic : Topic) : List (Option Callback) :=
  d.history.filterMap fun r => if r.topic = topic then some r.listener else none

/-- What listeners were told of a topic. -/
def toldOf (d : Dispatcher) (topic : Topic) : List Invocation := d.told.filter (·.occasion.topic = topic)

/-- Whoever is a listener at the beginning is told. -/
def fire (tell : Teller) (o : Occasion) (d : Dispatcher) : Dispatcher :=
  (d.audience o.topic).foldl (fun d l => tell o l d) d

/-- An operation on a dispatcher. A name that is the key of nothing does nothing. -/
def perform (tell : Teller) (a : SessionAction) (d : Dispatcher) : Dispatcher :=
  match a with
  | .onEvent name listener => (name.key?.map fun k => d.register ⟨⟨.event, k⟩, listener⟩).getD d
  | .onMethod name listener => (name.key?.map fun k => d.register ⟨⟨.method, k⟩, listener⟩).getD d
  | .fireEvent name args => (name.key?.map fun k => d.fire tell (.event k args)).getD d
  | .fireMethod name params => (name.key?.map fun k => d.fire tell (.method k params)).getD d
  | _ => d

/-- An action of a listener, if there is such a server. -/
def act (tell : Teller) (hears : Json → Bool) (a : Action) (d : Dispatcher) : Dispatcher :=
  match a with
  | .session server action => if hears server then d.perform tell action else d
  | _ => d

/-- A listener hears of the occasion, and does then what it does. -/
def tell (teller : Teller) (hears : Json → Bool) : Teller
  | _, none, d => d
  | o, some (.mk label actions _), d =>
    actions.foldl (fun d a => d.act teller hears a) (d.hear ⟨o, label⟩)

/-- Listeners may be told within each other so many times. -/
def tellWithin (hears : Json → Bool) : Nat → Teller
  | 0 => fun _ _ d => d
  | depth + 1 => tell (tellWithin hears depth) hears

/-- The same listeners, of which none fails. -/
def calm (d : Dispatcher) : Dispatcher :=
  { d with history := d.history.map fun r => { r with listener := callbackCalm r.listener } }

variable {d d' d'' : Dispatcher} {o : Occasion} {l : Option Callback} {teller : Teller} {hears : Json → Bool}

/-! Nothing comes of a failure -/

/-- Whoever is told does the same if nobody fails. -/
def IsCalm (teller : Teller) : Prop := ∀ o l d, (teller o l d).calm = teller o (callbackCalm l) d.calm

lemma audience_calm (d : Dispatcher) (topic : Topic) :
    d.calm.audience topic = (d.audience topic).map callbackCalm := by
  rw [audience, audience, calm, List.filterMap_map, List.map_filterMap]
  refine List.filterMap_congr fun r _ => ?_
  dsimp only [Function.comp]
  split <;> rfl

lemma calm_foldl (ht : IsCalm teller) (ls : List (Option Callback)) (d : Dispatcher) :
    (ls.foldl (fun d l => teller o l d) d).calm = (ls.map callbackCalm).foldl (fun d l => teller o l d) d.calm := by
  induction ls generalizing d with
  | nil => rfl
  | cons l ls ih => rw [List.foldl_cons, ih, ht, List.map_cons, List.foldl_cons]

lemma calm_fire (ht : IsCalm teller) (o : Occasion) (d : Dispatcher) :
    (d.fire teller o).calm = d.calm.fire teller o := by
  rw [fire, calm_foldl ht, fire, audience_calm]

lemma calm_register (r : Registration) (d : Dispatcher) :
    (d.register r).calm = d.calm.register { r with listener := callbackCalm r.listener } := by
  simp [calm, register]

lemma calm_perform (ht : IsCalm teller) (a : SessionAction) (d : Dispatcher) :
    (d.perform teller a).calm = d.calm.perform teller a.calm := by
  cases a
  case onEvent name listener => cases h : name.key? <;> simp [perform, SessionAction.calm, h, calm_register]
  case onMethod name listener => cases h : name.key? <;> simp [perform, SessionAction.calm, h, calm_register]
  case fireEvent name args => cases h : name.key? <;> simp [perform, SessionAction.calm, h, calm_fire ht]
  case fireMethod name params => cases h : name.key? <;> simp [perform, SessionAction.calm, h, calm_fire ht]
  all_goals rfl

lemma calm_act (ht : IsCalm teller) (a : Action) (d : Dispatcher) :
    (d.act teller hears a).calm = d.calm.act teller hears a.calm := by
  cases a
  case session server action =>
    rw [act, Action.calm, act]
    split
    · exact calm_perform ht action d
    · rfl
  all_goals rfl

lemma calm_actions (ht : IsCalm teller) (actions : List Action) (d : Dispatcher) :
    (actions.foldl (fun d a => d.act teller hears a) d).calm =
      (actionsCalm actions).foldl (fun d a => d.act teller hears a) d.calm := by
  induction actions generalizing d with
  | nil => rfl
  | cons a rest ih => rw [List.foldl_cons, ih, calm_act ht, actionsCalm, List.foldl_cons]

lemma isCalm_tellWithin (hears : Json → Bool) (depth : Nat) : IsCalm (tellWithin hears depth) := by
  induction depth with
  | zero => exact fun _ _ _ => rfl
  | succ depth ih =>
    intro o l d
    cases l with
    | none => rfl
    | some callback =>
      obtain ⟨label, actions, fails⟩ := callback
      exact calm_actions ih actions _

/-! Who is told -/

/-- Listeners were added, and listeners were told: each was registered for the topic of what it was told. -/
structure Follows (d d' : Dispatcher) : Prop where
  history : d.history <+: d'.history
  told : ∃ more, d'.told = d.told ++ more ∧ ∀ i ∈ more, ∃ r ∈ d'.history,
    r.topic = i.occasion.topic ∧ r.listener.map Callback.label = some i.label

lemma Follows.refl (d : Dispatcher) : d.Follows d := ⟨List.prefix_rfl, [], (List.append_nil _).symm, nofun⟩

lemma Follows.trans (h : d.Follows d') (g : d'.Follows d'') : d.Follows d'' := by
  obtain ⟨more, hmore, hfrom⟩ := h.told
  obtain ⟨more', hmore', hfrom'⟩ := g.told
  refine ⟨h.history.trans g.history, more ++ more', by rw [hmore', hmore, List.append_assoc], fun i hi => ?_⟩
  obtain hi | hi := List.mem_append.mp hi
  · obtain ⟨r, hr, hri⟩ := hfrom i hi
    exact ⟨r, g.history.subset hr, hri⟩
  · exact hfrom' i hi

/-- Whoever is told something was registered for it. -/
def IsFair (teller : Teller) : Prop :=
  ∀ (o : Occasion) (l : Option Callback) (d : Dispatcher),
    (∃ r ∈ d.history, r.topic = o.topic ∧ r.listener = l) → d.Follows (teller o l d)

lemma follows_foldl (ht : IsFair teller) (ls : List (Option Callback))
    (hls : ∀ l ∈ ls, ∃ r ∈ d.history, r.topic = o.topic ∧ r.listener = l) :
    d.Follows (ls.foldl (fun d l => teller o l d) d) := by
  induction ls generalizing d with
  | nil => exact .refl d
  | cons l ls ih =>
    obtain ⟨hl, hls⟩ := List.forall_mem_cons.mp hls
    have hfirst := ht o l d hl
    refine hfirst.trans (ih fun l hl => ?_)
    -- Whoever has yet to be told stays registered, as the history only grows.
    obtain ⟨r, hr, hrl⟩ := hls l hl
    exact ⟨r, hfirst.history.subset hr, hrl⟩

lemma registered_of_mem_audience {topic : Topic} (h : l ∈ d.audience topic) :
    ∃ r ∈ d.history, r.topic = topic ∧ r.listener = l := by
  obtain ⟨r, hr, hl⟩ := List.mem_filterMap.mp h
  split at hl
  next htopic => exact ⟨r, hr, htopic, Option.some.inj hl⟩
  next => cases hl

lemma follows_fire (ht : IsFair teller) (o : Occasion) (d : Dispatcher) : d.Follows (d.fire teller o) :=
  follows_foldl ht _ fun _ hl => registered_of_mem_audience hl

lemma follows_register (r : Registration) (d : Dispatcher) : d.Follows (d.register r) :=
  ⟨List.prefix_append _ _, [], (List.append_nil _).symm, nofun⟩

lemma follows_act (ht : IsFair teller) (a : Action) (d : Dispatcher) : d.Follows (d.act teller hears a) := by
  cases a
  case session server action =>
    rw [act]
    split
    · cases action
      case onEvent name _ | onMethod name _ =>
        cases h : name.key? <;> simp only [perform, h]
        exacts [.refl d, follows_register _ d]
      case fireEvent name _ | fireMethod name _ =>
        cases h : name.key? <;> simp only [perform, h]
        exacts [.refl d, follows_fire ht _ d]
      all_goals exact .refl d
    · exact .refl d
  all_goals exact .refl d

lemma follows_actions (ht : IsFair teller) (hears : Json → Bool) (actions : List Action) (d : Dispatcher) :
    d.Follows (actions.foldl (fun d a => d.act teller hears a) d) := by
  induction actions generalizing d with
  | nil => exact .refl d
  | cons a rest ih => exact (follows_act ht a d).trans (ih _)

lemma isFair_tellWithin (hears : Json → Bool) (depth : Nat) : IsFair (tellWithin hears depth) := by
  induction depth with
  | zero => exact fun _ _ d _ => .refl d
  | succ depth ih =>
    intro o l d hl
    cases l with
    | none => exact .refl d
    | some callback =>
      obtain ⟨label, actions, fails⟩ := callback
      obtain ⟨r, hr, htopic, hlistener⟩ := hl
      have hheard : d.Follows (d.hear ⟨o, label⟩) := by
        refine ⟨List.prefix_rfl, _, rfl, fun i hi => ⟨r, hr, ?_⟩⟩
        obtain rfl := List.mem_singleton.mp hi
        exact ⟨htopic, hlistener ▸ rfl⟩
      exact hheard.trans (follows_actions ih hears actions _)

/-- Each of the listeners is told once, in order, and after each of them come those whom it calls upon. -/
lemma exists_parts (depth : Nat) (ls : List (Option Callback)) (d : Dispatcher) :
    ∃ parts : List (List Invocation),
      (ls.foldl (fun d l => tellWithin hears (depth + 1) o l d) d).told = d.told ++ parts.flatten ∧
        List.Forall₂ (fun l part => part.head? = l.map fun c => ⟨o, c.label⟩) ls parts := by
  induction ls generalizing d with
  | nil => exact ⟨[], (List.append_nil _).symm, .nil⟩
  | cons l ls ih =>
    obtain ⟨part, hpart, hhead⟩ : ∃ part, (tellWithin hears (depth + 1) o l d).told = d.told ++ part ∧
        part.head? = l.map fun c => ⟨o, c.label⟩ := by
      cases l with
      | none => exact ⟨[], (List.append_nil _).symm, rfl⟩
      | some callback =>
        obtain ⟨label, actions, fails⟩ := callback
        have hfollows := follows_actions (isFair_tellWithin hears depth) hears actions (d.hear ⟨o, label⟩)
        obtain ⟨more, hmore, -⟩ := hfollows.told
        exact ⟨⟨o, label⟩ :: more, by rw [tellWithin, tell, hmore, hear, List.append_assoc]; rfl, rfl⟩
    obtain ⟨parts, hparts, hall⟩ := ih (tellWithin hears (depth + 1) o l d)
    refine ⟨part :: parts, ?_, .cons hhead hall⟩
    rw [List.foldl_cons, hparts, hpart, List.flatten_cons, List.append_assoc]

/-! Listeners that fire other topics -/

variable {topic : Topic}

/-- Listeners, of which none fires a topic. -/
def Spares (topic : Topic) (d : Dispatcher) : Prop :=
  ∀ r ∈ d.history, callbackObeys (SessionAction.spares topic) r.listener

lemma Spares.register (h : d.Spares topic) {r : Registration}
    (hr : callbackObeys (SessionAction.spares topic) r.listener) : (d.register r).Spares topic :=
  List.forall_mem_append.mpr ⟨h, List.forall_mem_singleton.mpr hr⟩

lemma Spares.audience (h : d.Spares topic) {other : Topic} :
    ∀ l ∈ d.audience other, callbackObeys (SessionAction.spares topic) l := by
  intro l hl
  obtain ⟨r, hr, -, rfl⟩ := registered_of_mem_audience hl
  exact h r hr

lemma toldOf_hear (label : Json) (d : Dispatcher) :
    (d.hear ⟨o, label⟩).toldOf topic = d.toldOf topic ++ if o.topic = topic then [⟨o, label⟩] else [] := by
  rw [toldOf, hear, List.filter_append, toldOf]
  by_cases h : o.topic = topic <;> simp [h]

/-- Of a topic is told what each of the listeners is told of it. -/
lemma toldOf_foldl {f : Option Callback → List Invocation}
    (ht : ∀ (l : Option Callback) (d : Dispatcher), d.Spares topic →
      callbackObeys (SessionAction.spares topic) l →
        (teller o l d).Spares topic ∧ (teller o l d).toldOf topic = d.toldOf topic ++ f l)
    (ls : List (Option Callback)) (hd : d.Spares topic)
    (hls : ∀ l ∈ ls, callbackObeys (SessionAction.spares topic) l) :
    (ls.foldl (fun d l => teller o l d) d).Spares topic ∧
      (ls.foldl (fun d l => teller o l d) d).toldOf topic = d.toldOf topic ++ ls.flatMap f := by
  induction ls generalizing d with
  | nil => exact ⟨hd, (List.append_nil _).symm⟩
  | cons l ls ih =>
    obtain ⟨hl, hls⟩ := List.forall_mem_cons.mp hls
    obtain ⟨hfirst, htold⟩ := ht l d hd hl
    obtain ⟨hrest, htolds⟩ := ih hfirst hls
    refine ⟨hrest, htolds.trans ?_⟩
    rw [htold, List.flatMap_cons, List.append_assoc]

/-- Of a topic nobody is told, and nobody who would fire it is added. -/
structure Avoids (topic : Topic) (d d' : Dispatcher) : Prop where
  spares : d'.Spares topic
  told : d'.toldOf topic = d.toldOf topic

lemma Spares.avoids (h : d.Spares topic) : d.Avoids topic d := ⟨h, rfl⟩

lemma Avoids.trans (h : d.Avoids topic d') (g : d'.Avoids topic d'') : d.Avoids topic d'' :=
  ⟨g.spares, g.told.trans h.told⟩

/-- A teller that does not bring a topic up, unless this is what it tells of. -/
def Reserves (topic : Topic) (teller : Teller) : Prop :=
  ∀ (o : Occasion) (l : Option Callback) (d : Dispatcher), o.topic ≠ topic → d.Spares topic →
    callbackObeys (SessionAction.spares topic) l → d.Avoids topic (teller o l d)

lemma Reserves.fire (ht : Reserves topic teller) (ho : o.topic ≠ topic) (h : d.Spares topic) :
    d.Avoids topic (d.fire teller o) := by
  have heach : ∀ (l : Option Callback) (d : Dispatcher), d.Spares topic →
      callbackObeys (SessionAction.spares topic) l →
      (teller o l d).Spares topic ∧ (teller o l d).toldOf topic = d.toldOf topic ++ [] := by
    intro l d hd hl
    have havoids := ht o l d ho hd hl
    exact ⟨havoids.spares, havoids.told.trans (List.append_nil _).symm⟩
  obtain ⟨hspares, htold⟩ := toldOf_foldl heach (d.audience o.topic) h h.audience
  rw [List.flatMap_eq_nil_iff.mpr fun _ _ => rfl, List.append_nil] at htold
  exact ⟨hspares, htold⟩

lemma Reserves.act (ht : Reserves topic teller) (h : d.Spares topic) {a : Action}
    (ha : a.obeys (SessionAction.spares topic)) : d.Avoids topic (d.act teller hears a) := by
  cases a
  case session server action =>
    rw [Action.obeys, Bool.and_eq_true, SessionAction.spares, Bool.and_eq_true, decide_eq_true_iff] at ha
    obtain ⟨⟨hdo, hfires⟩, hobeys⟩ := ha
    rw [Dispatcher.act]
    split
    · cases action
      case onEvent name _ | onMethod name _ =>
        cases hk : name.key? <;> simp only [perform, hk]
        exacts [h.avoids, ⟨h.register hobeys, rfl⟩]
      case fireEvent name _ | fireMethod name _ =>
        cases hk : name.key? <;> simp only [perform, hk]
        · exact h.avoids
        · -- To fire the topic itself is what the action is kept from.
          refine ht.fire (fun ho => hfires ?_) h
          simp only [SessionAction.fires?, hk, Option.map_some]
          exact congrArg some ho
      all_goals cases hdo
    · exact h.avoids
  all_goals exact h.avoids

lemma Reserves.actions (ht : Reserves topic teller) (hears : Json → Bool) (h : d.Spares topic)
    {actions : List Action} (ha : actionsObey (SessionAction.spares topic) actions) :
    d.Avoids topic (actions.foldl (fun d a => d.act teller hears a) d) := by
  induction actions generalizing d with
  | nil => exact h.avoids
  | cons a rest ih =>
    rw [actionsObey, Bool.and_eq_true] at ha
    have hfirst : d.Avoids topic (d.act teller hears a) := ht.act h ha.1
    exact hfirst.trans (ih hfirst.spares ha.2)

/-- A listener that is told hears of it itself, and of the topic nobody else does. -/
lemma Reserves.tell (ht : Reserves topic teller) (hears : Json → Bool) (o : Occasion) (h : d.Spares topic)
    (hl : callbackObeys (SessionAction.spares topic) l) :
    (tell teller hears o l d).Spares topic ∧ (tell teller hears o l d).toldOf topic =
      d.toldOf topic ++ if o.topic = topic then l.toList.map fun c => ⟨o, c.label⟩ else [] := by
  cases l with
  | none => exact ⟨h, by simp [Dispatcher.tell]⟩
  | some callback =>
    obtain ⟨label, actions, fails⟩ := callback
    have hheard : (d.hear ⟨o, label⟩).Spares topic := h
    have havoids := ht.actions hears hheard hl
    exact ⟨havoids.spares, havoids.told.trans (toldOf_hear label d)⟩

lemma reserves_tellWithin (hears : Json → Bool) (depth : Nat) : Reserves topic (tellWithin hears depth) := by
  induction depth with
  | zero => exact fun _ _ d _ h _ => h.avoids
  | succ depth ih =>
    intro o l d ho h hl
    obtain ⟨hspares, htold⟩ := ih.tell hears o h hl
    rw [if_neg ho, List.append_nil] at htold
    exact ⟨hspares, htold⟩

/-- If listeners fire other topics only, those are told of the occasion who were registered for it, and all of
them, in order. -/
lemma toldOf_fire (hears : Json → Bool) (depth : Nat) (o : Occasion) (h : d.Spares o.topic) :
    (d.fire (tellWithin hears (depth + 1)) o).toldOf o.topic =
      d.toldOf o.topic ++ (d.audience o.topic).reduceOption.map fun c => ⟨o, c.label⟩ := by
  have hfold := toldOf_foldl (o := o)
    (fun l d hd hl => (reserves_tellWithin hears depth).tell hears o hd hl) (d.audience o.topic) h h.audience
  refine hfold.2.trans (congrArg (d.toldOf o.topic ++ ·) ?_)
  simp only [if_pos]
  induction d.audience o.topic with
  | nil => rfl
  | cons l ls ih => cases l <;> simp [ih]

/-- Those are told of an occasion who are listeners at the beginning. -/
structure Tells (o : Occasion) (d d' : Dispatcher) : Prop where
  /-- Each is told once for each time that it was registered, in order. What comes after it, before the next one, is
  what it brings about. -/
  inTurn : ∃ parts : List (List Invocation), d'.told = d.told ++ parts.flatten ∧
    List.Forall₂ (fun l part => part.head? = l.map fun c => ⟨o, c.label⟩) (d.audience o.topic) parts
  follows : d.Follows d'
  /-- If listeners fire other topics only, then nobody else is told of this one. -/
  alone : d.Spares o.topic →
    d'.toldOf o.topic = d.toldOf o.topic ++ (d.audience o.topic).reduceOption.map fun c => ⟨o, c.label⟩

lemma tells_fire (hears : Json → Bool) (depth : Nat) (o : Occasion) (d : Dispatcher) :
    Tells o d (d.fire (tellWithin hears (depth + 1)) o) where
  inTurn := exists_parts depth _ d
  follows := follows_fire (isFair_tellWithin hears (depth + 1)) o d
  alone := toldOf_fire hears depth o

end Dispatcher

end LanguageClient
