import Aelkey.Keyboard.Report
import Aelkey.Lib.Instances

set_option relaxedAutoImplicit false
set_option autoImplicit false

/-!
# Several keyboards

Every instance made by `keyboard.new` has its own remapper, but `parse_report` takes no instance:
the sets it compares a report with are two module variables. The report of one keyboard is
therefore compared with the last report of any keyboard.

## Main definitions

* `Aelkey.Keyboard.InstanceCall`, `Aelkey.Keyboard.InstanceCall.run` — the calls on an instance.
* `Aelkey.Keyboard.SameEvents` — the same events are returned and buffered.
* `Aelkey.Keyboard.SameRecord` — two module states are as good as equal for a report.
* `Aelkey.Keyboard.OwnRecord` — a report meets the module state of its own instance.

## Main results

* `Aelkey.Keyboard.independent_iff_ownRecord` — the instances do not interfere exactly as long as
  every report meets the module state its own instance alone would have left.
* `Aelkey.Keyboard.not_independent_twoKeyboards` — the report of one keyboard releases the keys of
  the other.
-/

namespace Aelkey.Keyboard

open Evdev

/-- A call on an instance. -/
inductive InstanceCall
  | report (r : Reading)
  | feed (events : Option (List KeyEvent))
  | setFn (down : Bool)

/-- What a call returns and leaves in the buffer. -/
structure Observed where
  returned : Option (List KeyEvent)
  buffer : List KeyEvent

/-- A call acts on the module state and on the instance. -/
def InstanceCall.run : InstanceCall → Parser × Remapper → Observed × Parser × Remapper
  | .report r, (parser, kb) =>
    let result := parseReport r.orders parser r.bytes
    (⟨result.1, kb.buffer⟩, result.2, kb)
  | .feed events, (parser, kb) =>
    (⟨none, (feedEvents kb events).buffer⟩, parser, feedEvents kb events)
  | .setFn down, (parser, kb) =>
    (⟨none, (setFnDown kb down).buffer⟩, parser, setFnDown kb down)

/-- The same events are returned, in any order of the `pairs` loops, and the buffers are equal. -/
def SameEvents (o o' : Observed) : Prop :=
  Option.Rel List.Perm o.returned o'.returned ∧ o.buffer = o'.buffer

/-- The two sets of `p` and those of `q` are as good as equal for a code: it is in equally many of
them, and in the same of them if the report names it in one of its two parts only. -/
def SameRecord (p q : Parser) (bytes : List UInt8) (c : String) : Prop :=
  (c ∈ p.prevMods ∧ c ∈ p.prevKeys ↔ c ∈ q.prevMods ∧ c ∈ q.prevKeys) ∧
    (c ∈ p.prevMods ∨ c ∈ p.prevKeys ↔ c ∈ q.prevMods ∨ c ∈ q.prevKeys) ∧
      (¬ (NamesMod bytes c ↔ NamesKey bytes c) → (c ∈ p.prevMods ↔ c ∈ q.prevMods))

/-- How often a code is released and pressed by a list of differences, by the membership in each of
them. -/
lemma counts_eq_iff (M K M₁ K₁ M' K' : Prop) [Decidable M] [Decidable K] [Decidable M₁]
    [Decidable K₁] [Decidable M'] [Decidable K'] :
    ((if M ∧ ¬ M' then 1 else 0) + (if K ∧ ¬ K' then 1 else 0) =
          (if M₁ ∧ ¬ M' then 1 else 0) + (if K₁ ∧ ¬ K' then 1 else 0) ∧
        (if M' ∧ ¬ M then 1 else 0) + (if K' ∧ ¬ K then 1 else 0) =
          (if M' ∧ ¬ M₁ then 1 else 0) + (if K' ∧ ¬ K₁ then 1 else 0)) ↔
      (M ∧ K ↔ M₁ ∧ K₁) ∧ (M ∨ K ↔ M₁ ∨ K₁) ∧ (¬ (M' ↔ K') → (M ↔ M₁)) := by
  by_cases hM : M <;> by_cases hK : K <;> by_cases hM₁ : M₁ <;> by_cases hK₁ : K₁ <;>
    by_cases hM' : M' <;> by_cases hK' : K' <;> simp [hM, hK, hM₁, hK₁, hM', hK']

/-- The number of times a loop visits a code. -/
lemma count_missing (it : Table.Traversal String Bool) (codes others : Codes) (c : String) :
    (missing it codes others).count c = if c ∈ codes ∧ c ∉ others then 1 else 0 := by
  rw [(nodup_missing it codes others).count]
  simp only [mem_missing]

/-- **Two module states and one report.** The events are the same iff the two states are as good as
equal for every code. -/
lemma sameReturned_iff (it : ReportOrders) (p q : Parser) {bytes : List UInt8}
    (h : ¬ bytes.length < 8) :
    Option.Rel List.Perm (parseReport it p bytes).1 (parseReport it q bytes).1 ↔
      ∀ c, SameRecord p q bytes c := by
  simp only [parseReport, if_neg h, Option.rel_some_some]
  rw [perm_iff_counts (onlyKeys_diffs _ _ _ _) (onlyKeys_diffs _ _ _ _)]
  refine forall_congr' fun c => ?_
  simp only [releases, presses, List.count_append, count_map_key, zero_ne_one, one_ne_zero,
    ↓reduceIte, Nat.add_zero, Nat.zero_add, count_missing]
  simp only [SameRecord, ← mem_decodeMods, ← mem_decodeKeys]
  exact counts_eq_iff _ _ _ _ _ _

/-! ## Runs -/

section Runs

variable {ι : Type*} [DecidableEq ι]

/-- A report that is accepted meets a module state that is as good as the one its own instance
alone would have left. -/
def OwnRecord (p : Instances.Pair ι Parser Remapper) (e : ι × InstanceCall) : Prop :=
  ∀ r, e.2 = .report r → 8 ≤ r.bytes.length →
    ∀ c, SameRecord p.world.shared (p.solo e.1).1 r.bytes c

/-- The remappers are the same on both sides. -/
def SameRemappers (p : Instances.Pair ι Parser Remapper) : Prop :=
  ∀ i, p.world.own i = (p.solo i).2

/-- What a call does to the remapper does not depend on the module state. -/
lemma run_remapper (a : InstanceCall) (p q : Parser) (kb : Remapper) :
    (a.run (p, kb)).2.2 = (a.run (q, kb)).2.2 := by
  cases a <;> rfl

/-- Every call keeps the remappers the same. -/
lemma SameRemappers.step {p : Instances.Pair ι Parser Remapper} (hp : SameRemappers p)
    (e : ι × InstanceCall) : SameRemappers (p.step InstanceCall.run e) := by
  intro i
  simp only [Instances.Pair.step, Instances.World.step]
  by_cases hi : i = e.1
  · subst hi
    rw [Function.update_self, Function.update_self, hp e.1]
    exact run_remapper _ _ _ _
  · rw [Function.update_of_ne hi, Function.update_of_ne hi, hp i]

omit [DecidableEq ι] in
/-- **One call.** It returns and buffers the same events on both sides iff it meets its own
record. -/
lemma agrees_iff_ownRecord {p : Instances.Pair ι Parser Remapper} (hp : SameRemappers p)
    (e : ι × InstanceCall) :
    p.Agrees InstanceCall.run SameEvents e ↔ OwnRecord p e := by
  obtain ⟨i, a⟩ := e
  have hown : p.world.own i = (p.solo i).2 := hp i
  cases a with
  | feed events =>
    refine iff_of_true ?_ fun r hr => nomatch hr
    exact ⟨.none, by simp only [InstanceCall.run, hown]⟩
  | setFn down =>
    refine iff_of_true ?_ fun r hr => nomatch hr
    exact ⟨.none, by simp only [InstanceCall.run, hown]⟩
  | report r =>
    have hagrees : p.Agrees InstanceCall.run SameEvents (i, .report r) ↔
        Option.Rel List.Perm (parseReport r.orders p.world.shared r.bytes).1
          (parseReport r.orders (p.solo i).1 r.bytes).1 :=
      and_iff_left (congrArg Remapper.buffer hown)
    have howns : OwnRecord p (i, .report r) ↔
        (8 ≤ r.bytes.length → ∀ c, SameRecord p.world.shared (p.solo i).1 r.bytes c) := by
      constructor
      · exact fun h => h r rfl
      · rintro h r' hr'
        cases hr'
        exact h
    rw [hagrees, howns]
    by_cases hshort : r.bytes.length < 8
    · refine iff_of_true ?_ fun h => absurd hshort (Nat.not_lt.mpr h)
      simp only [parseReport, if_pos hshort]
      exact .none
    · rw [sameReturned_iff _ _ _ hshort, forall_prop_of_true (Nat.not_lt.mp hshort)]

/-- **Keyboards do not interfere exactly as long as every report meets its own record.** In a run
of `parse_report`, `feed_events` and `set_fn_down` calls on any instances, every instance returns
and buffers the same events as when its own calls are run alone, iff whenever a report is accepted,
every code is in as many of the two module sets as after the reports of this instance alone, and in
the same of them if the report names it in one of its parts only.

**Proof sketch.** Both runs are followed side by side. The remappers stay the same, so only the
returned events of a report can differ, and they do not iff the two module states are as good as
equal for the report. -/
theorem independent_iff_ownRecord (kbs : ι → Remapper) (calls : List (ι × InstanceCall)) :
    Instances.Independent InstanceCall.run SameEvents ⟨{}, kbs⟩ calls ↔
      Run.EachStep (Instances.Pair.step InstanceCall.run) OwnRecord (.start ⟨{}, kbs⟩) calls := by
  rw [Instances.independent_iff]
  exact Run.eachStep_congr (I := SameRemappers) (fun p e hp _ => hp.step e)
    (fun p e hp => agrees_iff_ownRecord hp e) (fun _ => rfl) calls

end Runs

/-- **One keyboard releases the keys of another.** The first keyboard reports the key A, and the
second reports nothing: its call returns the release of A. -/
theorem not_independent_twoKeyboards :
    ¬ Instances.Independent InstanceCall.run SameEvents ⟨{}, fun _ : Bool => {}⟩
      [(false, .report { bytes := [0, 0, 4, 0, 0, 0, 0, 0] }),
        (true, .report { bytes := [0, 0, 0, 0, 0, 0, 0, 0] })] := by
  intro h
  rw [Instances.independent_iff] at h
  obtain ⟨hperm, -⟩ := h.2.1
  have hrecord := (sameReturned_iff _ _ _ (by decide)).mp hperm "KEY_A"
  exact absurd hrecord.2.1 (by decide +kernel)

end Aelkey.Keyboard
