import Aelkey.Lib.Run
import Mathlib.Data.List.Forall2
import Mathlib.Logic.Function.Basic

set_option relaxedAutoImplicit false
set_option autoImplicit false

/-!
# Instances that share a state

Several instances of one module have states of their own and one state that they share. A call
acts on the shared state and on that of its instance, and returns something to be observed. An
instance is independent of the others if it observes the same in a run of all of them as when its
own calls are run alone.

The comparison runs both sides at once: next to the instances as they are, every instance is kept
with a shared state of its own. The instances are independent iff every single call observes the
same on both sides.

## Main definitions

* `Instances.World` — the shared state and the states of the instances.
* `Instances.observe`, `Instances.alone` — what an instance observes among the others, and alone.
* `Instances.Independent` — the two agree for every instance.
* `Instances.Pair`, `Instances.Pair.step` — both sides at once.

## Main results

* `Instances.independent_iff` — independence is agreement at every call.
-/

namespace Instances

variable {ι S σ α ω : Type*}

/-- The shared state and the state of every instance. -/
structure World (ι S σ : Type*) where
  shared : S
  own : ι → σ

/-- The calls of instance `i` among those of all instances. -/
def callsOf [DecidableEq ι] (i : ι) (calls : List (ι × α)) : List α :=
  (calls.filter (·.1 = i)).map (·.2)

variable (call : α → S × σ → ω × S × σ)

/-- What an instance observes when its calls are run alone. -/
def alone : S × σ → List α → List ω
  | _, [] => []
  | s, a :: as => (call a s).1 :: alone (call a s).2 as

variable [DecidableEq ι]

/-- One call of an instance. -/
def World.step (w : World ι S σ) (e : ι × α) : World ι S σ where
  shared := (call e.2 (w.shared, w.own e.1)).2.1
  own := Function.update w.own e.1 (call e.2 (w.shared, w.own e.1)).2.2

/-- What instance `i` observes in a run of all instances. -/
def observe (i : ι) : World ι S σ → List (ι × α) → List ω
  | _, [] => []
  | w, e :: es =>
    if e.1 = i then (call e.2 (w.shared, w.own e.1)).1 :: observe i (w.step call e) es
    else observe i (w.step call e) es

variable (same : ω → ω → Prop)

/-- Every instance observes the same among the others as alone. -/
def Independent (w : World ι S σ) (calls : List (ι × α)) : Prop :=
  ∀ i, List.Forall₂ same (observe call i w calls) (alone call (w.shared, w.own i) (callsOf i calls))

/-! ## Both sides at once -/

/-- The instances as they are, and each of them with a shared state of its own. -/
structure Pair (ι S σ : Type*) where
  world : World ι S σ
  solo : ι → S × σ

/-- One call on both sides. -/
def Pair.step (p : Pair ι S σ) (e : ι × α) : Pair ι S σ where
  world := p.world.step call e
  solo := Function.update p.solo e.1 (call e.2 (p.solo e.1)).2

/-- Both sides at the start. -/
def Pair.start (w : World ι S σ) : Pair ι S σ := ⟨w, fun i => (w.shared, w.own i)⟩

/-- A call observes the same on both sides. -/
def Pair.Agrees (p : Pair ι S σ) (e : ι × α) : Prop :=
  same (call e.2 (p.world.shared, p.world.own e.1)).1 (call e.2 (p.solo e.1)).1

/-- The two sides observe the same in a run iff every call does.

**Proof sketch.** Induction on the calls. A call is observed by its own instance only, and changes
the other side for this instance only. -/
lemma forall₂_iff_eachStep (p : Pair ι S σ) (calls : List (ι × α)) :
    (∀ i, List.Forall₂ same (observe call i p.world calls)
        (alone call (p.solo i) (callsOf i calls))) ↔
      Run.EachStep (Pair.step call) (Pair.Agrees call same) p calls := by
  induction calls generalizing p with
  | nil => simp [observe, callsOf, alone]
  | cons e es ih =>
    rw [Run.eachStep_cons, ← ih]
    have hself : List.Forall₂ same (observe call e.1 p.world (e :: es))
        (alone call (p.solo e.1) (callsOf e.1 (e :: es))) ↔
        Pair.Agrees call same p e ∧ List.Forall₂ same (observe call e.1 (p.step call e).world es)
          (alone call ((p.step call e).solo e.1) (callsOf e.1 es)) := by
      simp [observe, callsOf, alone, Pair.Agrees, Pair.step]
    have hother : ∀ i, i ≠ e.1 → (List.Forall₂ same (observe call i p.world (e :: es))
        (alone call (p.solo i) (callsOf i (e :: es))) ↔
        List.Forall₂ same (observe call i (p.step call e).world es)
          (alone call ((p.step call e).solo i) (callsOf i es))) := by
      intro i hi
      simp [observe, callsOf, Pair.step, Ne.symm hi, Function.update_of_ne hi]
    constructor
    · intro h
      refine ⟨(hself.mp (h e.1)).1, fun i => ?_⟩
      by_cases hi : i = e.1
      · subst hi
        exact (hself.mp (h e.1)).2
      · exact (hother i hi).mp (h i)
    · intro ⟨he, h⟩ i
      by_cases hi : i = e.1
      · subst hi
        exact hself.mpr ⟨he, h e.1⟩
      · exact (hother i hi).mpr (h i)

/-- **Independence is agreement at every call.** -/
theorem independent_iff (w : World ι S σ) (calls : List (ι × α)) :
    Independent call same w calls ↔
      Run.EachStep (Pair.step call) (Pair.Agrees call same) (.start w) calls :=
  forall₂_iff_eachStep call same (.start w) calls

end Instances
