import Mathlib.Data.List.Basic

set_option relaxedAutoImplicit false
set_option autoImplicit false

/-!
# Alternating logs

A log of entries in which two values alternate: the entries of a switch that reports every change.
Such a log grows by one entry at a time, and which entry may follow depends on the last one only.

## Main definitions

* `Log.Alternates` — the entries are `a`, `b`, `a`, `b`, … .
* `Log.IsOn` — the last entry is `a`.

## Main results

* `Log.alternates_concat` — which entry may follow.
-/

namespace Log

variable {α : Type*}

/-- The log alternates between `a` and `b`, and begins with `a` unless it is empty. -/
def Alternates (a b : α) : List α → Prop
  | [] => True
  | x :: log => x = a ∧ Alternates b a log

/-- The last entry of the log is `a`. -/
def IsOn (a : α) (log : List α) : Prop := log.getLast? = some a

/-- The empty log is not on. -/
lemma not_isOn_nil (a : α) : ¬ IsOn a [] := by
  intro h
  cases h

/-- The last entry decides. -/
@[simp] lemma isOn_concat (a x : α) (log : List α) : IsOn a (log ++ [x]) ↔ x = a := by
  simp [IsOn]

/-- The entries of an alternating log are the two values. -/
lemma Alternates.mem {a b x : α} {log : List α} (h : Alternates a b log) (hx : x ∈ log) :
    x = a ∨ x = b := by
  induction log generalizing a b with
  | nil => cases hx
  | cons y log ih =>
    rcases List.mem_cons.mp hx with rfl | hx
    · exact .inl h.1
    · exact (ih h.2 hx).symm

/-- The last entry of an alternating log is one of the two values. -/
lemma Alternates.isOn_iff {a b y : α} {log : List α} (hab : a ≠ b) (h : Alternates a b (y :: log)) :
    IsOn a (y :: log) ↔ ¬ IsOn b (y :: log) := by
  obtain ⟨z, hz⟩ := Option.ne_none_iff_exists'.mp
    (mt List.getLast?_eq_none_iff.mp (List.cons_ne_nil y log))
  unfold IsOn
  rw [hz, Option.some_inj, Option.some_inj]
  rcases h.mem (List.mem_of_getLast? hz) with rfl | rfl
  · exact iff_of_true rfl hab
  · exact iff_of_false hab.symm (not_not_intro rfl)

/-- **Which entry may follow**: the second value after the first, and the first otherwise.

**Proof sketch.** Induction on the log, for both orders of the values at once; a tail that is not
empty ends in the first value iff it does not end in the second. -/
lemma alternates_concat {a b : α} (hab : a ≠ b) (x : α) (log : List α) :
    Alternates a b (log ++ [x]) ↔
      Alternates a b log ∧ (IsOn a log ∧ x = b ∨ ¬ IsOn a log ∧ x = a) := by
  induction log generalizing a b with
  | nil => simp [Alternates, IsOn]
  | cons y log ih =>
    rw [List.cons_append, Alternates, Alternates, ih hab.symm, and_assoc]
    refine and_congr_right fun hy => and_congr_right fun halt => ?_
    cases log with
    | nil => simp [IsOn, hy]
    | cons z log =>
      have hlast : IsOn a (y :: z :: log) ↔ IsOn a (z :: log) := by simp [IsOn]
      rw [hlast, halt.isOn_iff hab.symm, not_not, or_comm]

end Log
