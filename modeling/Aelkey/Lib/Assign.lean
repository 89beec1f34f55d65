import Mathlib.Logic.Function.DependsOn
import Mathlib.Data.Set.Function

set_option relaxedAutoImplicit false
set_option autoImplicit false

/-!
# Programs of assignments

A program is a sequence of assignments to names. The values to assign are computed from what the
names read as, which is a view of what they hold: a name without a value may read as something else.
A program ends early if the computation of its values raises an error; what has been assigned by
then stays. Two runs of a program that start from stores with the same view on the names that are
read before they are assigned cannot be told apart.

## Main definitions

* `Assign.Assignment` — an assignment to some names at once.
* `Assign.run` — a program.
* `Assign.Closed` — a program reads only some names, and those that it has assigned.

## Main results

* `Assign.run_eqOn` — the runs of a closed program from two stores.
* `Assign.run_of_notMem` — what a program does not assign.
-/

namespace Assign

variable {ι α β ε : Type*}

/-- An assignment: its names, and its values by what the names read as. -/
structure Assignment (ι α β ε : Type*) where
  targets : List ι
  values : (ι → β) → Except ε (List α)

/-- The program reads only names of `S`, and names that it has assigned before. -/
def Closed : Set ι → List (Assignment ι α β ε) → Prop
  | _, [] => True
  | S, c :: cs => DependsOn c.values S ∧ Closed (S ∪ {i | i ∈ c.targets}) cs

/-- The names that a program assigns. -/
def assigned (cs : List (Assignment ι α β ε)) : Set ι := {i | ∃ c ∈ cs, i ∈ c.targets}

/-- Every program is closed under all names. -/
lemma closed_univ (cs : List (Assignment ι α β ε)) : Closed Set.univ cs := by
  induction cs with
  | nil => trivial
  | cons c cs ih =>
    refine ⟨dependsOn_univ _, ?_⟩
    rw [Set.univ_union]
    exact ih

/-- The names that a program assigns are those of its first assignment and those of the rest. -/
lemma union_assigned_cons (S : Set ι) (c : Assignment ι α β ε) (cs : List (Assignment ι α β ε)) :
    S ∪ assigned (c :: cs) = S ∪ {i | i ∈ c.targets} ∪ assigned cs := by
  ext i
  simp only [assigned, Set.mem_union, Set.mem_ofPred_eq, List.mem_cons, or_and_right, exists_or,
    exists_eq_left, or_assoc]

variable [DecidableEq ι] [Inhabited α]

/-- Assign values to names, the last name first. A value that is missing is the default. -/
def assign (s : ι → α) : List ι → List α → ι → α
  | [], _ => s
  | i :: is, vs => Function.update (assign s is vs.tail) i (vs.headD default)

variable (view : α → β)

/-- The store after a program, and the error with which it ends, if any. -/
def run : List (Assignment ι α β ε) → (ι → α) → (ι → α) × Except ε Unit
  | [], s => (s, .ok ())
  | c :: cs, s =>
    match c.values fun i => view (s i) with
    | .error err => (s, .error err)
    | .ok vs => run cs (assign s c.targets vs)

/-- The stores cannot be told apart by their views of the names of `S`. -/
def SameOn (S : Set ι) (s t : ι → α) : Prop := Set.EqOn (fun i => view (s i)) (fun i => view (t i)) S

variable {view}

/-- What is assigned is the same in both stores. -/
lemma SameOn.assign {S : Set ι} {s t : ι → α} (h : SameOn view S s t) (is : List ι) (vs : List α) :
    SameOn view (S ∪ {i | i ∈ is}) (assign s is vs) (assign t is vs) := by
  induction is generalizing vs with
  | nil =>
    intro i hi
    obtain hi | hi := hi
    · exact h hi
    · cases hi
  | cons j is ih =>
    intro i hi
    simp only [Assign.assign]
    by_cases hij : i = j
    · subst hij
      rw [Function.update_self, Function.update_self]
    · rw [Function.update_of_ne hij, Function.update_of_ne hij]
      apply ih vs.tail
      obtain hi | hi := hi
      · exact .inl hi
      · exact .inr ((List.mem_cons.mp hi).resolve_left hij)

/-- **The runs of a closed program** from two stores that agree on what it may read end in the same
way. If there is no error, then the stores still agree on this afterwards, and on all names that the
program assigns. -/
theorem run_eqOn {S : Set ι} {cs : List (Assignment ι α β ε)} (hcs : Closed S cs) {s t : ι → α}
    (h : SameOn view S s t) :
    (run view cs s).2 = (run view cs t).2 ∧
      ((run view cs s).2 = .ok () →
        SameOn view (S ∪ assigned cs) (run view cs s).1 (run view cs t).1) := by
  induction cs generalizing S s t with
  | nil =>
    refine ⟨rfl, fun _ => ?_⟩
    intro i hi
    obtain hi | ⟨c, hc, -⟩ := hi
    · exact h hi
    · cases hc
  | cons c cs ih =>
    obtain ⟨hread, hcs⟩ := hcs
    have hvalues : (c.values fun i => view (s i)) = c.values fun i => view (t i) := hread h
    simp only [run, hvalues]
    cases c.values fun i => view (t i) with
    | error err => exact ⟨rfl, nofun⟩
    | ok vs =>
      rw [union_assigned_cons]
      exact ih hcs (h.assign c.targets vs)

/-- A name that is not assigned keeps its value. -/
lemma assign_of_notMem {s : ι → α} {is : List ι} {i : ι} (hi : i ∉ is) (vs : List α) :
    assign s is vs i = s i := by
  induction is generalizing vs with
  | nil => rfl
  | cons j is ih =>
    obtain ⟨hij, his⟩ := not_or.mp fun h => hi (List.mem_cons.mpr h)
    rw [assign, Function.update_of_ne hij, ih his]

/-- **What a program does not assign** it leaves alone, whether it ends with an error or not. -/
theorem run_of_notMem {cs : List (Assignment ι α β ε)} {i : ι} (hi : i ∉ assigned cs) (s : ι → α) :
    (run view cs s).1 i = s i := by
  induction cs generalizing s with
  | nil => rfl
  | cons c cs ih =>
    have hc : i ∉ c.targets := fun h => hi ⟨c, List.mem_cons_self, h⟩
    have hcs : i ∉ assigned cs := fun ⟨c', hc', h⟩ => hi ⟨c', List.mem_cons_of_mem c hc', h⟩
    rw [run]
    cases c.values fun i => view (s i) with
    | error err => rfl
    | ok vs => exact (ih hcs _).trans (assign_of_notMem hc vs)

end Assign
