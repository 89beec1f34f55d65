import Aelkey.Lib.Evdev

set_option relaxedAutoImplicit false
set_option autoImplicit false

/-!
# Remapping a stream of key events

A stream is remapped by replacing every key by the keys that a map gives for it: they are pressed in
their order when the key is pressed, and released in the reverse order when it is released. A key of
the result is down exactly when a key that gives it is down, as long as no two keys of the stream
give it.

## Main definitions

* `Evdev.remap` — the remapped stream.

## Main results

* `Evdev.isDown_remap` — the keys that are down in a remapped stream.
* `Evdev.not_isDown_remap_release` — a release lets go of a key that another key gives.
-/

namespace Evdev

variable {ν : Type*} [One ν] [Zero ν] [DecidableEq ν] (M : String → List String)

/-- The events for one event of a key. -/
def remapEvent (e : InputEvent ν) : List (InputEvent ν) :=
  if e.value = 1 then (M e.code).map (key · 1) else (M e.code).reverse.map (key · 0)

/-- The remapped stream. -/
def remap (l : List (InputEvent ν)) : List (InputEvent ν) := l.flatMap (remapEvent M)

/-- Remapping one stream after another. -/
lemma remap_append (l l' : List (InputEvent ν)) : remap M (l ++ l') = remap M l ++ remap M l' :=
  List.flatMap_append

/-- A press. -/
lemma remap_press (k : String) : remap M [key k (1 : ν)] = (M k).map (key · 1) := by
  simp [remap, remapEvent, key]

/-- A remapped stream has key events only. -/
lemma remap_keys (l : List (InputEvent ν)) : ∀ e ∈ remap M l, e.type = "EV_KEY" := by
  intro e he
  obtain ⟨e', -, he⟩ := List.mem_flatMap.mp he
  unfold remapEvent at he
  split_ifs at he
  · obtain ⟨c, -, rfl⟩ := List.mem_map.mp he
    rfl
  · obtain ⟨c, -, rfl⟩ := List.mem_map.mp he
    rfl

variable [NeZero (1 : ν)]

/-- A release. -/
lemma remap_release (k : String) : remap M [key k (0 : ν)] = (M k).reverse.map (key · 0) := by
  simp [remap, remapEvent, key]

/-- A release lets go of all keys that its key gives. -/
lemma not_isDown_remap_release (l : List (InputEvent ν)) {k c : String} (h : c ∈ M k) :
    ¬ IsDown c (remap M (l ++ [key k 0])) := by
  rw [remap_append, remap_release, isDown_append_releases, List.mem_reverse]
  exact fun hc => hc.1 h

omit [Zero ν] [DecidableEq ν] [NeZero (1 : ν)] in
/-- A key that is down has been pressed. -/
lemma IsDown.exists_mem {c : String} {l : List (InputEvent ν)} (h : IsDown c l) :
    ∃ e ∈ l, e.code = c := by
  obtain ⟨e, he, -⟩ := Option.map_eq_some_iff.mp h
  have hmem := List.mem_filter.mp (List.mem_of_getLast? he)
  exact ⟨e, hmem.1, (of_decide_eq_true hmem.2).2⟩

/-- **The keys that are down in a remapped stream.** If no two keys of a stream give `c`, it is down
iff a key that gives it is down.

**Proof sketch.** Induction on the stream from its end. A press puts down what its key gives; a
release takes `c` away only from its own key, as no other key gives it. -/
lemma isDown_remap {l : List (InputEvent ν)} (hl : OnlyKeys l) {c : String}
    (h : ∀ e ∈ l, ∀ e' ∈ l, c ∈ M e.code → c ∈ M e'.code → e.code = e'.code) :
    IsDown c (remap M l) ↔ ∃ k, IsDown k l ∧ c ∈ M k := by
  induction l using List.reverseRecOn with
  | nil => simp [remap, IsDown]
  | append_singleton l e ih =>
    have hmem : ∀ e' ∈ l, e' ∈ l ++ [e] := fun e' he' => List.mem_append_left _ he'
    have ih := ih (fun e' he' => hl e' (hmem e' he'))
      fun e' he' e'' he'' => h e' (hmem e' he') e'' (hmem e'' he'')
    obtain ⟨k, rfl | rfl⟩ := hl e (by simp)
    · rw [remap_append, remap_press, isDown_append_presses, ih]
      simp only [isDown_append_key]
      constructor
      · rintro (hc | ⟨k', hk', hc⟩)
        · exact ⟨k, by simp, hc⟩
        · exact ⟨k', by simp [hk'], hc⟩
      · rintro ⟨k', hk', hc⟩
        split_ifs at hk' with he
        · exact .inl (he ▸ hc)
        · exact .inr ⟨k', hk', hc⟩
    · rw [remap_append, remap_release, isDown_append_releases, List.mem_reverse, ih]
      simp only [isDown_append_key]
      constructor
      · rintro ⟨hnot, k', hk', hc⟩
        have hne : k ≠ k' := fun he => hnot (he ▸ hc)
        exact ⟨k', by rwa [if_neg hne], hc⟩
      · rintro ⟨k', hk', hc⟩
        split_ifs at hk' with he
        · exact absurd hk'.symm one_ne_zero
        · obtain ⟨e, hmem', rfl⟩ := hk'.exists_mem
          exact ⟨fun hc' => he (h (key k 0) (by simp) e (hmem e hmem') hc' hc), e.code, hk', hc⟩

end Evdev
