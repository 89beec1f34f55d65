import Mathlib.Data.List.Basic

set_option relaxedAutoImplicit false
set_option autoImplicit false

/-!
# Runs of a deterministic step function

A system is a step function `step : σ → α → σ`; whatever the environment decides is part of the
action `α`. A run is a list of actions. Two kinds of statement about a run occur again and again:
a predicate holds in every state of the run, and a relation holds at every step of it. This file
has both, the induction that connects them, and the two equivalences which say that a predicate
survives a run exactly as long as every step meets a condition.

## Main definitions

* `Run.Always` — a predicate holds in every state of a run.
* `Run.EachStep` — a relation between the state and the next action holds at every step.

## Main results

* `Run.always_of_step` — a predicate kept by every good step holds along every good run.
* `Run.always_iff_eachStep_of`, `Run.always_iff_eachStep_of_step`, `Run.always_iff_eachStep` — a
  predicate holds in every state iff every step meets the exact condition for keeping it.
* `Run.eachStep_congr` — two step relations that agree in all reached states agree on runs.
-/

namespace Run

variable {σ α : Type*} (step : σ → α → σ)

/-- `P` holds in every state of the run of `as` from `s`, the state `s` itself included. -/
def Always (P : σ → Prop) (s : σ) (as : List α) : Prop :=
  ∀ t ∈ as.scanl step s, P t

/-- `C` holds between the state and the action at every step of the run of `as` from `s`. -/
def EachStep (C : σ → α → Prop) : σ → List α → Prop
  | _, [] => True
  | s, a :: as => C s a ∧ EachStep C (step s a) as

instance (P : σ → Prop) [DecidablePred P] (s : σ) (as : List α) :
    Decidable (Always step P s as) :=
  List.decidableBAll _ _

instance decidableEachStep (C : σ → α → Prop) [∀ s a, Decidable (C s a)] :
    ∀ (s : σ) (as : List α), Decidable (EachStep step C s as)
  | _, [] => .isTrue trivial
  | s, a :: as => @instDecidableAnd _ _ _ (decidableEachStep C (step s a) as)

variable {step}

/-- The run of no action has one state. -/
@[simp] lemma always_nil {P : σ → Prop} {s : σ} : Always step P s [] ↔ P s := by
  simp [Always]

/-- The states of a nonempty run are the first one and those of the rest. -/
@[simp] lemma always_cons {P : σ → Prop} {s : σ} {a : α} {as : List α} :
    Always step P s (a :: as) ↔ P s ∧ Always step P (step s a) as := by
  simp [Always, List.scanl_cons]

/-- The run of no action meets every step relation. -/
@[simp] lemma eachStep_nil {C : σ → α → Prop} {s : σ} : EachStep step C s [] := trivial

/-- The steps of a nonempty run are the first one and those of the rest. -/
@[simp] lemma eachStep_cons {C : σ → α → Prop} {s : σ} {a : α} {as : List α} :
    EachStep step C s (a :: as) ↔ C s a ∧ EachStep step C (step s a) as := Iff.rfl

/-- A weaker predicate holds along a run, too. -/
lemma Always.mono {P Q : σ → Prop} (h : ∀ s, P s → Q s) {s : σ} {as : List α}
    (hP : Always step P s as) : Always step Q s as :=
  fun t ht => h t (hP t ht)

/-- A condition on the actions alone holds at every step if all actions meet it. -/
lemma eachStep_of_forall {C : α → Prop} {as : List α} (h : ∀ a ∈ as, C a) (s : σ) :
    EachStep step (fun _ a => C a) s as := by
  induction as generalizing s with
  | nil => trivial
  | cons a as ih =>
    obtain ⟨ha, has⟩ := List.forall_mem_cons.mp h
    exact ⟨ha, ih has _⟩

/-- A condition on the actions alone holds at every step iff all actions meet it. -/
lemma eachStep_iff_forall {C : α → Prop} {s : σ} {as : List α} :
    EachStep step (fun _ a => C a) s as ↔ ∀ a ∈ as, C a := by
  refine ⟨fun h => ?_, fun h => eachStep_of_forall h s⟩
  induction as generalizing s with
  | nil => simp
  | cons a as ih => exact List.forall_mem_cons.mpr ⟨h.1, ih h.2⟩

/-- The first state of a run satisfies what all its states satisfy. -/
lemma Always.head {P : σ → Prop} {s : σ} {as : List α} (h : Always step P s as) : P s := by
  cases as with
  | nil => exact always_nil.mp h
  | cons a as => exact (always_cons.mp h).1

/-- The last state of a run satisfies what all its states satisfy. -/
lemma Always.last {P : σ → Prop} {s : σ} {as : List α} (h : Always step P s as) :
    P (as.foldl step s) := by
  induction as generalizing s with
  | nil => simpa using h
  | cons a as ih => exact ih (always_cons.mp h).2

/-- A run of a system that keeps more next to the state `π s` of another one goes through the states
of the other's run. -/
lemma always_map {τ : Type*} {step' : τ → α → τ} {π : τ → σ}
    (hπ : ∀ s a, π (step' s a) = step (π s) a) {P : σ → Prop} {s : τ} {as : List α} :
    Always step' (fun s => P (π s)) s as ↔ Always step P (π s) as := by
  induction as generalizing s with
  | nil => simp
  | cons a as ih => rw [always_cons, always_cons, ih, hπ]

/-- **The invariant rule.** A predicate that every good step keeps holds along every run of good
steps. -/
theorem always_of_step {I : σ → Prop} {C : σ → α → Prop}
    (hstep : ∀ s a, I s → C s a → I (step s a)) {s : σ} {as : List α} (hs : I s)
    (hC : EachStep step C s as) : Always step I s as := by
  induction as generalizing s with
  | nil => exact always_nil.mpr hs
  | cons a as ih =>
    obtain ⟨ha, has⟩ := eachStep_cons.mp hC
    exact always_cons.mpr ⟨hs, ih (hstep s a hs ha) has⟩

/-- The invariant rule for a predicate that every step keeps. -/
theorem always_of_inv {I : σ → Prop} (hstep : ∀ s a, I s → I (step s a)) {s : σ} (hs : I s)
    (as : List α) : Always step I s as := by
  induction as generalizing s with
  | nil => exact always_nil.mpr hs
  | cons a as ih => exact always_cons.mpr ⟨hs, ih (hstep s a hs)⟩

/-- The steps of a run in two parts. -/
lemma eachStep_append {C : σ → α → Prop} {s : σ} {as bs : List α} :
    EachStep step C s (as ++ bs) ↔ EachStep step C s as ∧ EachStep step C (as.foldl step s) bs := by
  induction as generalizing s with
  | nil => simp
  | cons a as ih => rw [List.cons_append, eachStep_cons, eachStep_cons, ih, and_assoc]; rfl

/-- Two relations hold at every step iff each does. -/
lemma eachStep_and {C D : σ → α → Prop} {s : σ} {as : List α} :
    EachStep step (fun s a => C s a ∧ D s a) s as ↔
      EachStep step C s as ∧ EachStep step D s as := by
  induction as generalizing s with
  | nil => simp
  | cons a as ih => rw [eachStep_cons, eachStep_cons, eachStep_cons, ih, and_and_and_comm]

/-- A relation that every good step from a state of an invariant meets holds at every step of a
good run. -/
lemma eachStep_of_step {I : σ → Prop} {C Q : σ → α → Prop}
    (hstep : ∀ s a, I s → C s a → I (step s a)) (hQ : ∀ s a, I s → C s a → Q s a) {s : σ}
    {as : List α} (hs : I s) (hC : EachStep step C s as) : EachStep step Q s as := by
  induction as generalizing s with
  | nil => trivial
  | cons a as ih =>
    obtain ⟨ha, has⟩ := eachStep_cons.mp hC
    exact ⟨hQ s a hs ha, ih (hstep s a hs ha) has⟩

/-- A relation that every step from a state of an invariant meets holds at every step. -/
lemma eachStep_of_inv {I : σ → Prop} {C : σ → α → Prop} (hstep : ∀ s a, I s → I (step s a))
    (hC : ∀ s a, I s → C s a) {s : σ} (hs : I s) (as : List α) : EachStep step C s as :=
  eachStep_of_step (fun s a h _ => hstep s a h) (fun s a h _ => hC s a h) hs
    (eachStep_of_forall (C := fun _ => True) (fun _ _ => trivial) s)

/-- A predicate that is inherited backwards holds in every state of a run if it holds in the
last. -/
lemma always_of_last {L : σ → Prop} (hL : ∀ s a, L (step s a) → L s) {s : σ} {as : List α}
    (h : L (as.foldl step s)) : Always step L s as := by
  induction as generalizing s with
  | nil => exact always_nil.mpr h
  | cons a as ih =>
    have hrest := ih h
    exact always_cons.mpr ⟨hL s a hrest.head, hrest⟩

/-- Every state after the first one of a run satisfies what all its states satisfy. -/
lemma Always.eachStep {P : σ → Prop} {s : σ} {as : List α} (h : Always step P s as) :
    EachStep step (fun s a => P (step s a)) s as := by
  induction as generalizing s with
  | nil => trivial
  | cons a as ih =>
    have hrest := (always_cons.mp h).2
    exact ⟨hrest.head, ih hrest⟩

/-- **The exact condition for keeping a predicate, along runs that meet a side condition.** If from
every state of the invariant `I` in which `P` holds a step that meets `H` keeps `P` exactly when it
meets `C`, then along a run whose steps all meet `H` the predicate `P` holds in all states iff all
steps meet `C`.

**Proof sketch.** Induction on the run. `P` holds in the state after the first step iff the step
meets `C`; then the invariant holds there, too, and the induction hypothesis applies. -/
theorem always_iff_eachStep_of {I P : σ → Prop} {H C : σ → α → Prop}
    (hI : ∀ s a, I s → P s → H s a → C s a → I (step s a))
    (hP : ∀ s a, I s → P s → H s a → (P (step s a) ↔ C s a)) {s : σ} {as : List α}
    (hs : I s) (hp : P s) (hH : EachStep step H s as) :
    Always step P s as ↔ EachStep step C s as := by
  induction as generalizing s with
  | nil => simpa using hp
  | cons a as ih =>
    rw [always_cons, eachStep_cons]
    obtain ⟨ha, hrest⟩ := eachStep_cons.mp hH
    constructor
    · rintro ⟨-, h⟩
      have hp' : P (step s a) := h.head
      have hC := (hP s a hs hp ha).mp hp'
      exact ⟨hC, (ih (hI s a hs hp ha hC) hp' hrest).mp h⟩
    · intro ⟨hC, h⟩
      have hp' := (hP s a hs hp ha).mpr hC
      exact ⟨hp, (ih (hI s a hs hp ha hC) hp' hrest).mpr h⟩

/-- **The exact condition for keeping a predicate**, along all runs. -/
theorem always_iff_eachStep_of_step {I P : σ → Prop} {C : σ → α → Prop}
    (hI : ∀ s a, I s → P s → C s a → I (step s a))
    (hP : ∀ s a, I s → P s → (P (step s a) ↔ C s a)) {s : σ} (hs : I s) (hp : P s)
    (as : List α) : Always step P s as ↔ EachStep step C s as :=
  always_iff_eachStep_of (H := fun _ _ => True) (fun s a h h' _ hc => hI s a h h' hc)
    (fun s a h h' _ => hP s a h h') hs hp (eachStep_of_forall (fun _ _ => trivial) _)

/-- **The exact condition for keeping a predicate**, along runs that stay inside `L`. -/
theorem always_iff_eachStep {I P L : σ → Prop} {C : σ → α → Prop}
    (hI : ∀ s a, I s → P s → L (step s a) → C s a → I (step s a))
    (hP : ∀ s a, I s → P s → L (step s a) → (P (step s a) ↔ C s a)) {s : σ} {as : List α}
    (hs : I s) (hp : P s) (hL : Always step L s as) :
    Always step P s as ↔ EachStep step C s as :=
  always_iff_eachStep_of hI hP hs hp hL.eachStep

/-- **Step relations that agree on an invariant agree on runs**, even when only the steps that
meet the relation keep the invariant.

**Proof sketch.** Induction on the run: the first step meets both relations or neither, and if it
meets them the invariant carries over to the rest. -/
theorem eachStep_congr {I : σ → Prop} {Q C : σ → α → Prop}
    (hI : ∀ s a, I s → Q s a → I (step s a)) (h : ∀ s a, I s → (Q s a ↔ C s a)) {s : σ}
    (hs : I s) (as : List α) : EachStep step Q s as ↔ EachStep step C s as := by
  induction as generalizing s with
  | nil => simp
  | cons a as ih =>
    rw [eachStep_cons, eachStep_cons]
    constructor
    · intro ⟨hq, hr⟩
      exact ⟨(h s a hs).mp hq, (ih (hI s a hs hq)).mp hr⟩
    · intro ⟨hc, hr⟩
      have hq := (h s a hs).mpr hc
      exact ⟨hq, (ih (hI s a hs hq)).mpr hr⟩

end Run
