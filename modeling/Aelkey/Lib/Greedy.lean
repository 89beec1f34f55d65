import Mathlib.Data.List.Basic
import Mathlib.Data.List.Infix

set_option relaxedAutoImplicit false
set_option autoImplicit false

/-!
# Greedy matching of a pattern

A pattern is matched greedily against a sequence of inputs: an input that is the next symbol of the
pattern is consumed, every other input is skipped.

## Main definitions

* `Greedy.advance` — one input.
* `Greedy.matched` — the length of the matched prefix after a sequence of inputs.

## Main results

* `Greedy.take_sublist_iff` — the matched prefix is the longest prefix of the pattern that is a
  subsequence of the inputs.
* `Greedy.matched_le` — a prefix takes at least as many inputs as it is long.
-/

namespace Greedy

variable {β : Type*} [DecidableEq β]

/-- One input `b`, after `n` symbols of the pattern have been matched. -/
def advance (b : β) (pat : List β) (n : ℕ) : ℕ :=
  if pat[n]? = some b then n + 1 else n

/-- The length of the prefix of `pat` matched by a sequence of inputs. -/
def matched (pat inputs : List β) : ℕ :=
  inputs.foldl (fun n b => advance b pat n) 0

/-- No input, no match. -/
@[simp] lemma matched_nil (pat : List β) : matched pat [] = 0 := rfl

/-- One more input. -/
lemma matched_concat (pat inputs : List β) (b : β) :
    matched pat (inputs ++ [b]) = advance b pat (matched pat inputs) := by
  simp [matched, List.foldl_append]

/-- The first input matches the first symbol or nothing. -/
lemma matched_singleton (pat : List β) (b : β) :
    matched pat [b] = if pat[0]? = some b then 1 else 0 := rfl

/-- An input that is the next symbol is consumed. -/
lemma advance_of_eq {b : β} {pat : List β} {n : ℕ} (h : pat[n]? = some b) :
    advance b pat n = n + 1 := if_pos h

/-- An input that is not the next symbol is skipped. -/
lemma advance_of_ne {b : β} {pat : List β} {n : ℕ} (h : pat[n]? ≠ some b) :
    advance b pat n = n := if_neg h

/-- The matched prefix is not longer than the pattern. -/
lemma matched_le_length (pat inputs : List β) : matched pat inputs ≤ pat.length := by
  induction inputs using List.reverseRecOn with
  | nil => simp
  | append_singleton inputs b ih =>
    rw [matched_concat, advance]
    split_ifs with h
    · obtain ⟨hlt, -⟩ := List.getElem?_eq_some_iff.mp h
      exact hlt
    · exact ih

/-- The matched prefix is a subsequence of the inputs. -/
lemma take_matched_sublist (pat inputs : List β) :
    List.Sublist (pat.take (matched pat inputs)) inputs := by
  induction inputs using List.reverseRecOn with
  | nil => simp
  | append_singleton inputs b ih =>
    rw [matched_concat, advance]
    split_ifs with h
    · rw [List.take_add_one, h]
      exact ih.append (List.Sublist.refl _)
    · exact ih.trans (List.sublist_append_left _ _)

/-- **Greedy matching is optimal**: the matched prefix is the longest prefix of the pattern that is
a subsequence of the inputs.

**Proof sketch.** Induction on the inputs from the right. A prefix that does not end in the last
input is a subsequence of the inputs before it, so it is covered already; one that does is one
symbol longer than such a prefix, and the last input is then the next symbol. -/
theorem take_sublist_iff (pat inputs : List β) {n : ℕ} (hn : n ≤ pat.length) :
    List.Sublist (pat.take n) inputs ↔ n ≤ matched pat inputs := by
  constructor
  · induction inputs using List.reverseRecOn generalizing n with
    | nil =>
      intro h
      have hnil := List.sublist_nil.mp h
      have hlen : (pat.take n).length = n := by rw [List.length_take]; omega
      rw [hnil, List.length_nil] at hlen
      omega
    | append_singleton inputs b ih =>
      intro h
      rw [matched_concat, advance]
      cases n with
      | zero => exact Nat.zero_le _
      | succ n =>
        have hlt : n < pat.length := hn
        have hlast : pat.take (n + 1) = pat.take n ++ [pat[n]] := by
          rw [List.take_add_one, List.getElem?_eq_getElem hlt, Option.toList_some]
        obtain ⟨l₁, l₂, heq, h₁, h₂⟩ := List.sublist_append_iff.mp h
        have hcase : l₂ = [] ∨ l₂ = [b] := List.sublist_singleton.mp h₂
        rcases hcase with rfl | rfl
        · -- the last input is not used
          rw [List.append_nil] at heq
          have := ih hn (heq ▸ h₁)
          split_ifs <;> omega
        · -- the last input is the last symbol of the prefix
          rw [hlast] at heq
          obtain ⟨hinit, hb⟩ := List.append_inj' heq rfl
          have hle := ih hlt.le (hinit ▸ h₁)
          rcases hle.lt_or_eq with hlt' | heq'
          · split_ifs <;> omega
          · have hget : pat[matched pat inputs]? = some b := by
              rw [← heq', List.getElem?_eq_getElem hlt]
              exact congrArg some (List.singleton_inj.mp hb)
            rw [if_pos hget]
            omega
  · intro h
    refine List.Sublist.trans ?_ (take_matched_sublist pat inputs)
    exact (List.take_prefix_take_left h).sublist

/-- A matched prefix takes at least as many inputs as it is long. -/
lemma matched_le (pat inputs : List β) : matched pat inputs ≤ inputs.length := by
  have h := (take_matched_sublist pat inputs).length_le
  rwa [List.length_take, min_eq_left (matched_le_length pat inputs)] at h

end Greedy
