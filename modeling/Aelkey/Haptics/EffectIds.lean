import Aelkey.Haptics.Playback

set_option relaxedAutoImplicit false
set_option autoImplicit false

/-!
# The ids of created effects

`create_persistent_effect` takes the id of a new effect from a counter of type `int` and stores it
in a field of type `__s16`, which is also the key of the effect. After 32768 effects the ids are
negative, and after 65536 they start again.

## Main definitions

* `Aelkey.Haptics.Fresh` — `create` stores its effect under an id that is new and not negative.
* `Aelkey.Haptics.Call.isCreate` — the calls that use up a number.

## Main results

* `Aelkey.Haptics.fresh_iff_countP_le` — every `create` of a run does so iff there are at most
  32768.
* `Aelkey.Haptics.not_fresh_replicate` — the effect after that many.
-/

namespace Aelkey.Haptics

/-- The call is one of `haptics.create`. -/
def Call.isCreate : Call → Bool
  | .create _ => true
  | _ => false

/-- **Created effect ids are fresh and usable**: the id that `create_persistent_effect` returns is
not negative, no effect of the scripts has it before, and the effect has it afterwards. -/
def Fresh (d : Dispatcher) : Call → Prop
  | .create tbl =>
    let eff := luaToFfEffect tbl
    let (d', id) := createPersistentEffect d hapticsSourceCustom eff
    0 ≤ id ∧ effectOf d (hapticsSourceCustom, id) = none ∧
      effectOf d' (hapticsSourceCustom, id) = some { eff with id := id }
  | _ => True

/-! ## The numbers in use -/

/-- **The invariant.** The counter has not passed the limit of `__s16`, and the effects of the
scripts have ids that it has given out. -/
structure Numbered (d : Dispatcher) : Prop where
  bound : d.internalIdCounter ≤ 2 ^ 15
  used : ∀ v eff, effectOf d (hapticsSourceCustom, v) = some eff →
    0 ≤ v ∧ v < d.internalIdCounter

/-- A call other than `create` lets effects of the scripts disappear at most. -/
lemma effectOf_of_callStep {d : Dispatcher} {c : Call} (hc : c.Legal)
    (hcreate : ∀ t, c ≠ .create t) {v : ℤ} {eff : FfEffect}
    (h : effectOf (callStep d c) (hapticsSourceCustom, v) = some eff) :
    effectOf d (hapticsSourceCustom, v) = some eff := by
  by_cases he : ∃ t, c = .erase t
  · obtain ⟨t, rfl⟩ := he
    rw [callStep, effectOf_hapticsErase] at h
    split_ifs at h
    exact h
  · rwa [effectOf_callStep_of_ne hc hcreate (fun t ht => he ⟨t, ht⟩)] at h

/-- The id that a new effect gets. -/
lemma createPersistentEffect_id (d : Dispatcher) (tbl : LuaTable) :
    (createPersistentEffect d hapticsSourceCustom (luaToFfEffect tbl)).2 =
      toInt16 d.internalIdCounter := by
  obtain ⟨eff', src, n, ⟨-, rfl, rfl⟩ | ⟨hid, -⟩, -, he⟩ :=
    createPersistentEffect_spec d hapticsSourceCustom (luaToFfEffect tbl)
  · rw [he]
  · exact absurd (luaToFfEffect_id tbl) hid

/-- The counter at the limit of `__s16` gives a negative id. -/
lemma toInt16_limit : toInt16 (2 ^ 15 : ℕ) < 0 := by decide

/-- By the invariant, an effect gets an id that is new and not negative iff the counter has not
reached the limit. -/
lemma Numbered.fresh_create_iff {d : Dispatcher} (h : Numbered d) (tbl : LuaTable) :
    Fresh d (.create tbl) ↔ d.internalIdCounter < 2 ^ 15 := by
  obtain ⟨-, -, heff⟩ := hapticsCreate_spec d tbl
  have hid := createPersistentEffect_id d tbl
  have heff' := heff (toInt16 d.internalIdCounter)
  rw [if_pos rfl] at heff'
  simp only [Fresh, hid]
  constructor
  · rintro ⟨hpos, -, -⟩
    refine lt_of_le_of_ne h.bound fun hlimit => ?_
    rw [hlimit] at hpos
    exact absurd hpos (Int.not_le.mpr toInt16_limit)
  · intro hlt
    refine ⟨?_, ?_, heff'⟩
    · rw [toInt16_of_lt hlt]
      exact Int.natCast_nonneg _
    · rw [Option.eq_none_iff_forall_not_mem]
      intro eff hmem
      have hused := (h.used _ eff hmem).2
      rw [toInt16_of_lt hlt] at hused
      exact Int.lt_irrefl _ hused

/-- A `create` below the limit keeps the invariant. -/
lemma Numbered.create {d : Dispatcher} (h : Numbered d) (tbl : LuaTable)
    (hlt : d.internalIdCounter < 2 ^ 15) : Numbered (callStep d (.create tbl)) := by
  obtain ⟨hcount, -, heff⟩ := hapticsCreate_spec d tbl
  refine ⟨?_, fun v eff hv => ?_⟩
  · rw [callStep, hcount]
    exact hlt
  · rw [callStep, hcount]
    rw [callStep, heff, toInt16_of_lt hlt] at hv
    split_ifs at hv with hid
    · omega
    · have := h.used v eff hv
      omega

/-- Every other call keeps the invariant. -/
lemma Numbered.callStep {d : Dispatcher} (h : Numbered d) {c : Call} (hc : c.Legal)
    (hcreate : ∀ t, c ≠ .create t) : Numbered (callStep d c) := by
  have hcount := counter_callStep hc hcreate (d := d)
  exact ⟨hcount ▸ h.bound,
    fun v eff hv => hcount ▸ h.used v eff (effectOf_of_callStep hc hcreate hv)⟩

/-! ## Runs -/

/-- **Ids along a run.** Every `create` gives its effect an id that is new and not negative iff the
run does not use up more numbers than `__s16` has.

**Proof sketch.** Induction on the run. A `create` at the limit fails; below the limit it succeeds,
uses up one number and keeps the invariant. -/
lemma eachStep_fresh_iff {d : Dispatcher} (h : Numbered d) {cs : List Call}
    (hcs : ∀ c ∈ cs, c.Legal) :
    Run.EachStep callStep Fresh d cs ↔
      d.internalIdCounter + cs.countP Call.isCreate ≤ 2 ^ 15 := by
  induction cs generalizing d with
  | nil => simpa using h.bound
  | cons c cs ih =>
    obtain ⟨hc, hrest⟩ := List.forall_mem_cons.mp hcs
    rw [Run.eachStep_cons]
    by_cases hcreate : ∃ tbl, c = .create tbl
    · obtain ⟨tbl, rfl⟩ := hcreate
      have hcount : (callStep d (.create tbl)).internalIdCounter =
          d.internalIdCounter + 1 := (hapticsCreate_spec d tbl).1
      rw [h.fresh_create_iff, List.countP_cons_of_pos rfl]
      constructor
      · intro ⟨hlt, hfresh⟩
        have := (ih (h.create tbl hlt) hrest).mp hfresh
        omega
      · intro hle
        have hlt : d.internalIdCounter < 2 ^ 15 := by omega
        exact ⟨hlt, (ih (h.create tbl hlt) hrest).mpr (by omega)⟩
    · have hne : ∀ t, c ≠ .create t := fun t ht => hcreate ⟨t, ht⟩
      have hfresh : Fresh d c := by
        cases c with
        | create t => exact absurd rfl (hne t)
        | erase | play | stop | device => trivial
      have hother : ¬ c.isCreate = true := by
        cases c with
        | create t => exact absurd rfl (hne t)
        | erase | play | stop | device => exact Bool.false_ne_true
      rw [List.countP_cons_of_neg hother, ih (h.callStep hc hne) hrest, counter_callStep hc hne]
      simp [hfresh]

/-- Nothing is stored at the start. -/
lemma numbered_empty : Numbered {} := ⟨by decide, by simp [effectOf]⟩

/-- **Created effect ids are fresh and usable for the first 32768 effects.** In every run of calls
of scripts and operations of the devices, every `haptics.create` returns an id that is not negative
and that no effect of the scripts has, and stores its effect under it, if and only if there are at
most 32768 calls of `haptics.create` in the run, with whatever calls of `haptics.erase` between
them. -/
theorem fresh_iff_countP_le (cs : List Call) (hcs : ∀ c ∈ cs, c.Legal) :
    Run.EachStep callStep Fresh {} cs ↔ cs.countP Call.isCreate ≤ 2 ^ 15 := by
  rw [eachStep_fresh_iff numbered_empty hcs, Nat.zero_add]

/-- An effect is created after another one has been erased. -/
theorem fresh_iff_countP_le_erased :
    Run.EachStep callStep Fresh {}
      [.create ∅, .erase (hapticsCreate {} ∅).2, .create (∅ : LuaTable)] :=
  (fresh_iff_countP_le _ (by simp [Call.Legal])).mpr (by decide)

/-- **One effect too many.** The id of the effect after 32768 effects is negative. -/
theorem not_fresh_replicate :
    (∀ c ∈ List.replicate (2 ^ 15 + 1) (Call.create ∅), c.Legal) ∧
      ¬ Run.EachStep callStep Fresh {} (List.replicate (2 ^ 15 + 1) (.create ∅)) := by
  have hlegal : ∀ c ∈ List.replicate (2 ^ 15 + 1) (Call.create ∅), c.Legal := by
    intro c hc
    rw [List.eq_of_mem_replicate hc]
    trivial
  refine ⟨hlegal, fun h => ?_⟩
  have hle := (eachStep_fresh_iff numbered_empty hlegal).mp h
  have hcreate : (Call.create ∅).isCreate = true := rfl
  rw [List.countP_replicate, if_pos hcreate, Nat.zero_add] at hle
  exact absurd hle (Nat.not_succ_le_self _)

end Aelkey.Haptics
