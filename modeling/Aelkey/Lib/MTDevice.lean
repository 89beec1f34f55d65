import Aelkey.Lib.MTSlots
import Mathlib.Data.List.Perm.Basic
import Mathlib.Logic.Function.Basic

set_option relaxedAutoImplicit false
set_option autoImplicit false

/-!
# Receivers with a number of slots

A receiver of the multitouch slot protocol may have some slots only. It does not select any other,
so that what follows changes the slot that was selected before. As long as a stream selects slots
that the receiver has, this makes no difference.

## Main definitions

* `MTSlots.replayWithin` — the state of a receiver that has some slots only.
* `MTSlots.Maps` — two receivers have the same state, up to an embedding of their values.

## Main results

* `MTSlots.replayWithin_eq` — a stream that selects slots of the receiver.
* `MTSlots.replayWithin_has` — no other slot is ever open.
* `MTSlots.replay_filter` — events outside the protocol can be left out.
* `MTSlots.Maps.replay` — receivers of the same stream, with values in different types.
-/

namespace MTSlots

open Evdev

variable {ν μ : Type*} [DecidableEq ν] [Neg ν] [One ν] [DecidableEq μ] [Neg μ] [One μ]

/-! ## Some slots only -/

/-- One event, for a receiver that does not select a slot it does not have. -/
def feedWithin (has : ν → Bool) (k : State ν) (e : InputEvent ν) : State ν :=
  if e.type = "EV_ABS" ∧ e.code = "ABS_MT_SLOT" ∧ has e.value = false then k else feed k e

/-- A stream of events. -/
def replayWithin (has : ν → Bool) (k : State ν) (l : List (InputEvent ν)) : State ν :=
  l.foldl (feedWithin has) k

/-- Replaying one stream after another. -/
lemma replayWithin_append (has : ν → Bool) (k : State ν) (l₁ l₂ : List (InputEvent ν)) :
    replayWithin has k (l₁ ++ l₂) = replayWithin has (replayWithin has k l₁) l₂ :=
  List.foldl_append

/-- **A stream that selects slots of the receiver** has the effect that it has on any receiver. -/
lemma replayWithin_eq {has : ν → Bool} {l : List (InputEvent ν)}
    (h : ∀ e ∈ l, e.type = "EV_ABS" → e.code = "ABS_MT_SLOT" → has e.value = true)
    (k : State ν) : replayWithin has k l = replay k l := by
  induction l generalizing k with
  | nil => rfl
  | cons e l ih =>
    have hone : feedWithin has k e = feed k e := by
      refine if_neg fun ⟨ht, hc, hv⟩ => ?_
      rw [h e List.mem_cons_self ht hc] at hv
      cases hv
    have hrest := ih (fun e' he' => h e' (List.mem_cons_of_mem _ he')) (feed k e)
    rw [replayWithin, List.foldl_cons, hone]
    exact hrest

/-- **Only slots of the receiver are open.** -/
lemma replayWithin_has {has : ν → Bool} {k : State ν} (hcurrent : has k.current = true)
    (hids : ∀ q ∈ k.ids, has q = true) (l : List (InputEvent ν)) :
    ∀ q ∈ (replayWithin has k l).ids, has q = true := by
  induction l generalizing k with
  | nil => exact hids
  | cons e l ih =>
    have hone : has (feedWithin has k e).current = true ∧
        ∀ q ∈ (feedWithin has k e).ids, has q = true := by
      unfold feedWithin feed
      split_ifs with hnot hslot htid hend
      · exact ⟨hcurrent, hids⟩
      · refine ⟨?_, hids⟩
        have hv : ¬ has e.value = false := fun hv => hnot ⟨hslot.1, hslot.2, hv⟩
        exact Bool.not_eq_false _ ▸ hv
      · exact ⟨hcurrent, fun q hq => hids q ((AList.mem_erase.mp hq).2)⟩
      · refine ⟨hcurrent, fun q hq => ?_⟩
        rcases (AList.mem_insert _).mp hq with rfl | hq
        · exact hcurrent
        · exact hids q hq
      · exact ⟨hcurrent, hids⟩
    exact ih hone.1 hone.2

/-- Events outside the protocol can be left out. -/
lemma replay_filter {p : InputEvent ν → Bool} {l : List (InputEvent ν)}
    (h : ∀ e ∈ l, IsMT e → p e = true) (k : State ν) : replay k (l.filter p) = replay k l := by
  induction l generalizing k with
  | nil => rfl
  | cons e l ih =>
    have hrest := fun k' => ih (fun e' he' => h e' (List.mem_cons_of_mem _ he')) k'
    rw [List.filter_cons]
    split_ifs with hp
    · exact hrest (feed k e)
    · have hone : replay k [e] = k := replay_neutral k [e] fun e' he' hmt => by
        rw [List.mem_singleton.mp he'] at hmt
        exact hp (h e List.mem_cons_self hmt)
      rw [hrest k, ← List.singleton_append, replay_append, hone]

/-! ## Values in another type -/

/-- Two receivers have the same state, up to `f`. -/
structure Maps (f : ν → μ) (k : State ν) (k' : State μ) : Prop where
  current : k'.current = f k.current
  ids : ∀ s, k'.ids.lookup (f s) = (k.ids.lookup s).map f
  only : ∀ q ∈ k'.ids, q ∈ Set.range f

omit [Neg ν] [One ν] [Neg μ] [One μ] in
/-- Without open slots. -/
lemma maps_start (f : ν → μ) (s : ν) : Maps f ⟨s, ∅⟩ ⟨f s, ∅⟩ :=
  ⟨rfl, fun _ => rfl, fun _ hq => absurd hq (AList.notMem_empty _)⟩

section Maps

variable {f : ν → μ} {k : State ν} {k' : State μ} (hf : Function.Injective f)
include hf

omit [Neg ν] [One ν] [Neg μ] [One μ] in
/-- Both have the same number of open slots. -/
lemma Maps.length_ids (h : Maps f k k') : k'.ids.entries.length = k.ids.entries.length := by
  have hmem : ∀ q, q ∈ k'.ids.keys ↔ q ∈ k.ids.keys.map f := by
    intro q
    rw [List.mem_map]
    constructor
    · intro hq
      obtain ⟨s, rfl⟩ := h.only q hq
      obtain ⟨v, hv⟩ := Table.mem_iff_lookup.mp hq
      obtain ⟨t, ht, -⟩ := Option.map_eq_some_iff.mp ((h.ids s).symm.trans hv)
      exact ⟨s, Table.mem_of_lookup ht, rfl⟩
    · rintro ⟨s, hs, rfl⟩
      obtain ⟨t, ht⟩ := Table.mem_iff_lookup.mp hs
      exact Table.mem_of_lookup ((h.ids s).trans (by rw [ht, Option.map_some]))
  have hperm : k'.ids.keys.Perm (k.ids.keys.map f) :=
    (List.perm_ext_iff_of_nodup k'.ids.keys_nodup (k.ids.keys_nodup.map hf)).mpr hmem
  simpa [AList.keys, List.keys] using hperm.length_eq

variable (hneg : f (-1) = -1)
include hneg

/-- One event, with a value that is read as another one if it does not belong to the protocol. -/
lemma Maps.feed (h : Maps f k k') {e : InputEvent ν} {e' : InputEvent μ} (htype : e'.type = e.type)
    (hcode : e'.code = e.code) (hvalue : IsMT e' → e'.value = f e.value) :
    Maps f (feed k e) (feed k' e') := by
  unfold MTSlots.feed
  rw [htype, hcode]
  by_cases hslot : e.type = "EV_ABS" ∧ e.code = "ABS_MT_SLOT"
  · have hv : e'.value = f e.value := hvalue ⟨htype.trans hslot.1, .inl (hcode.trans hslot.2)⟩
    rw [if_pos hslot, if_pos hslot]
    exact ⟨hv, h.ids, h.only⟩
  rw [if_neg hslot, if_neg hslot]
  by_cases htid : e.type = "EV_ABS" ∧ e.code = "ABS_MT_TRACKING_ID"
  · have hv : e'.value = f e.value := hvalue ⟨htype.trans htid.1, .inr (hcode.trans htid.2)⟩
    have hend : f e.value = -1 ↔ e.value = -1 := by rw [← hneg, hf.eq_iff]
    simp only [if_pos htid, hv, hend, h.current]
    split_ifs
    · refine ⟨rfl, fun s => ?_, fun q hq => h.only q (AList.mem_erase.mp hq).2⟩
      simp only [Table.lookup_erase, hf.eq_iff, h.ids]
      split_ifs <;> rfl
    · refine ⟨rfl, fun s => ?_, fun q hq => ?_⟩
      · simp only [Table.lookup_insert, hf.eq_iff, h.ids]
        split_ifs <;> rfl
      · rcases (AList.mem_insert _).mp hq with rfl | hq
        · exact ⟨_, rfl⟩
        · exact h.only q hq
  · rw [if_neg htid, if_neg htid]
    exact h

/-- **The same stream with values in different types.** -/
lemma Maps.replay (g : μ → ν) (h : Maps f k k') {l : List (InputEvent μ)}
    (hvalue : ∀ e ∈ l, IsMT e → f (g e.value) = e.value) :
    Maps f (replay k (l.map fun e => ⟨e.type, e.code, g e.value⟩)) (replay k' l) := by
  induction l generalizing k k' with
  | nil => exact h
  | cons e l ih =>
    exact ih (h.feed hf hneg rfl rfl fun hmt => (hvalue e List.mem_cons_self hmt).symm)
      fun e' he' => hvalue e' (List.mem_cons_of_mem _ he')

end Maps

end MTSlots
