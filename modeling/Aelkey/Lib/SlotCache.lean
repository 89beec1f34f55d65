import Aelkey.Lib.Table

set_option relaxedAutoImplicit false
set_option autoImplicit false

/-!
# A cache of entries that reside on a device

A host keeps entries on a device that names them itself: storing one yields an id that was not in
use, and an id can be removed. The host remembers in a slot table under which id it has stored the
entry of a key. The cache is exact if the slots are injective, the ids in them are precisely those
in use, and a slot whose key has a content holds an entry that is the same as this content. It is
sound if this holds except that there may be ids in use without a slot.

## Main definitions

* `SlotCache.Exact`, `SlotCache.Sound` — the cache is exact, or sound.
* `SlotCache.dropKey`, `SlotCache.evict` — give up the slot of a key, or all slots.

## Main results

* `SlotCache.Sound.store`, `SlotCache.Sound.dropKey` — the operations keep the cache sound, also if
  an entry is stored for a key that has a slot.
* `SlotCache.Exact.store`, `SlotCache.Exact.dropKey`, `SlotCache.Exact.evict` — the operations keep
  the cache exact.
-/

namespace SlotCache

variable {κ ι ε : Type*} [DecidableEq κ] [DecidableEq ι]

/-- An exact cache: `slots` are the ids under which the keys are stored, `device` is what resides
on the device, and `content` says what the keys should hold. -/
structure Exact (same : ε → ε → Prop) (content : κ → Option ε) (slots : Table κ ι)
    (device : Table ι ε) : Prop where
  inj : ∀ k k' r, slots.lookup k = some r → slots.lookup k' = some r → k = k'
  resident : ∀ r, r ∈ device ↔ ∃ k, slots.lookup k = some r
  fresh : ∀ k r c, slots.lookup k = some r → content k = some c →
    ∃ e, device.lookup r = some e ∧ same e c

/-- A sound cache: every slot holds its own entry, which is the same as the content of its key. What
else resides on the device does not matter. -/
structure Sound (same : ε → ε → Prop) (content : κ → Option ε) (slots : Table κ ι)
    (device : Table ι ε) : Prop where
  inj : ∀ k k' r, slots.lookup k = some r → slots.lookup k' = some r → k = k'
  resident : ∀ k r, slots.lookup k = some r → r ∈ device
  fresh : ∀ k r c, slots.lookup k = some r → content k = some c →
    ∃ e, device.lookup r = some e ∧ same e c

/-- The device after the entry of a key has been removed. -/
def dropKey (slots : Table κ ι) (device : Table ι ε) (k : κ) : Table ι ε :=
  match slots.lookup k with
  | some r => device.erase r
  | none => device

/-- The device after the entries of all slots have been removed. -/
def evict (slots : Table κ ι) (device : Table ι ε) : Table ι ε :=
  slots.entries.foldl (fun device e => device.erase e.2) device

variable {same : ε → ε → Prop} {content content' : κ → Option ε} {slots : Table κ ι}
  {device : Table ι ε}

/-- An empty cache is exact. -/
lemma exact_empty : Exact same content (∅ : Table κ ι) (∅ : Table ι ε) :=
  ⟨by simp, by simp, by simp⟩

/-- A cache without slots is sound. -/
lemma sound_empty : Sound same content (∅ : Table κ ι) device :=
  ⟨by simp, by simp, by simp⟩

/-- An exact cache is sound. -/
lemma Exact.sound (h : Exact same content slots device) : Sound same content slots device :=
  ⟨h.inj, fun k r hk => (h.resident r).mpr ⟨k, hk⟩, h.fresh⟩

/-- A sound cache is exact if every id in use has a slot. -/
lemma Sound.exact (h : Sound same content slots device)
    (hr : ∀ r ∈ device, ∃ k, slots.lookup k = some r) : Exact same content slots device :=
  ⟨h.inj, fun r => ⟨hr r, fun ⟨k, hk⟩ => h.resident k r hk⟩, h.fresh⟩

/-- Contents may disappear. -/
lemma Sound.mono (h : Sound same content slots device)
    (hc : ∀ k, content' k = content k ∨ content' k = none) :
    Sound same content' slots device := by
  refine ⟨h.inj, h.resident, fun k r c hk hck => ?_⟩
  rcases hc k with he | he
  · exact h.fresh k r c hk (he ▸ hck)
  · rw [he] at hck
    exact absurd hck (by simp)

/-- Contents of an exact cache may disappear. -/
lemma Exact.mono (h : Exact same content slots device)
    (hc : ∀ k, content' k = content k ∨ content' k = none) :
    Exact same content' slots device :=
  (h.sound.mono hc).exact fun r hr => (h.resident r).mp hr

omit [DecidableEq ι] in
/-- The slots that are left after the slot of a key has been given up. -/
private lemma lookup_erase_slot (k k' : κ) (r : ι) :
    (slots.erase k).lookup k' = some r ↔ k' ≠ k ∧ slots.lookup k' = some r := by
  rw [Table.lookup_erase]
  by_cases hk : k' = k
  · simp [hk]
  · simp [hk]

/-- The entries that are left after the slot of a key has been given up. -/
lemma lookup_dropKey (slots : Table κ ι) (device : Table ι ε) (k : κ) (r : ι) :
    (dropKey slots device k).lookup r =
      if slots.lookup k = some r then none else device.lookup r := by
  unfold dropKey
  split
  · next r' hr' =>
    rw [Table.lookup_erase, hr']
    simp [eq_comm]
  · next hn => simp [hn]

/-- **Giving up a slot** keeps the cache sound, and the content of its key may change.

**Proof sketch.** The slots are injective, so the removed id belongs to no other key. -/
lemma Sound.dropKey (h : Sound same content slots device) {k : κ}
    (hc : ∀ k', k' ≠ k → content' k' = content k' ∨ content' k' = none) :
    Sound same content' (slots.erase k) (dropKey slots device k) := by
  have hkept : ∀ k' r, k' ≠ k → slots.lookup k' = some r → slots.lookup k ≠ some r :=
    fun k' r hne hk' hr => hne (h.inj k' k r hk' hr)
  refine ⟨fun k₁ k₂ r h₁ h₂ => ?_, fun k' r hk' => ?_, fun k' r c hk' hck => ?_⟩
  · exact h.inj k₁ k₂ r ((lookup_erase_slot k k₁ r).mp h₁).2 ((lookup_erase_slot k k₂ r).mp h₂).2
  · obtain ⟨hne, hk'⟩ := (lookup_erase_slot k k' r).mp hk'
    rw [← AList.lookup_isSome, lookup_dropKey, if_neg (hkept k' r hne hk'), AList.lookup_isSome]
    exact h.resident k' r hk'
  · obtain ⟨hne, hk'⟩ := (lookup_erase_slot k k' r).mp hk'
    have hck' : content k' = some c := by
      rcases hc k' hne with he | he
      · exact he ▸ hck
      · rw [he] at hck
        exact absurd hck (by simp)
    obtain ⟨e, he, hs⟩ := h.fresh k' r c hk' hck'
    refine ⟨e, ?_, hs⟩
    rw [lookup_dropKey, if_neg (hkept k' r hne hk'), he]

/-- **Giving up a slot** keeps the cache exact, and the content of its key may change. -/
lemma Exact.dropKey (h : Exact same content slots device) {k : κ}
    (hc : ∀ k', k' ≠ k → content' k' = content k' ∨ content' k' = none) :
    Exact same content' (slots.erase k) (dropKey slots device k) := by
  refine (h.sound.dropKey hc).exact fun r hr => ?_
  rw [← AList.lookup_isSome, lookup_dropKey] at hr
  split_ifs at hr with hk
  · exact absurd hr (by simp)
  · obtain ⟨k', hk'⟩ := (h.resident r).mp (AList.lookup_isSome.mp hr)
    exact ⟨k', (lookup_erase_slot k k' r).mpr ⟨fun he => hk (he ▸ hk'), hk'⟩⟩

/-- **Storing an entry** under an id not in use keeps the cache sound. -/
lemma Sound.store (h : Sound same content slots device) {k : κ} {r : ι} {e : ε} (hr : r ∉ device)
    (he : ∀ c, content k = some c → same e c) :
    Sound same content (slots.insert k r) (device.insert r e) := by
  have hunused : ∀ k' r', slots.lookup k' = some r' → r' ≠ r := fun k' r' hk' he =>
    hr (he ▸ h.resident k' r' hk')
  have hlookup : ∀ k' r', (slots.insert k r).lookup k' = some r' →
      k' = k ∧ r' = r ∨ slots.lookup k' = some r' := by
    intro k' r' hk'
    rw [Table.lookup_insert] at hk'
    split_ifs at hk' with hkk
    · exact .inl ⟨hkk, (Option.some.inj hk').symm⟩
    · exact .inr hk'
  refine ⟨fun k₁ k₂ r' h₁ h₂ => ?_, fun k' r' hk' => ?_, fun k' r' c hk' hck => ?_⟩
  · rcases hlookup k₁ r' h₁ with ⟨hk₁, hr₁⟩ | h₁' <;>
      rcases hlookup k₂ r' h₂ with ⟨hk₂, hr₂⟩ | h₂'
    · rw [hk₁, hk₂]
    · exact absurd hr₁ (hunused k₂ r' h₂')
    · exact absurd hr₂ (hunused k₁ r' h₁')
    · exact h.inj k₁ k₂ r' h₁' h₂'
  · rw [AList.mem_insert]
    exact (hlookup k' r' hk').imp (fun h => h.2) fun hk'' => h.resident k' r' hk''
  · rcases hlookup k' r' hk' with ⟨rfl, rfl⟩ | hk''
    · exact ⟨e, by simp, he c hck⟩
    · obtain ⟨e', he', hs⟩ := h.fresh k' r' c hk'' hck
      exact ⟨e', by rw [Table.lookup_insert, if_neg (hunused k' r' hk''), he'], hs⟩

/-- **Storing an entry** for a key without a slot, under an id not in use, keeps the cache
exact. -/
lemma Exact.store (h : Exact same content slots device) {k : κ} {r : ι} {e : ε} (hk : k ∉ slots)
    (hr : r ∉ device) (he : ∀ c, content k = some c → same e c) :
    Exact same content (slots.insert k r) (device.insert r e) := by
  refine (h.sound.store hr he).exact fun r' hr' => ?_
  rcases (AList.mem_insert _).mp hr' with rfl | hr'
  · exact ⟨k, by simp⟩
  · obtain ⟨k', hk'⟩ := (h.resident r').mp hr'
    have hne : k' ≠ k := fun he => hk (he ▸ Table.mem_of_lookup hk')
    exact ⟨k', by rw [Table.lookup_insert, if_neg hne, hk']⟩

omit [DecidableEq κ] in
/-- Removing a list of ids. -/
private lemma mem_foldl_erase (l : List (Σ _ : κ, ι)) (device : Table ι ε) (r : ι) :
    r ∈ l.foldl (fun device e => device.erase e.2) device ↔ r ∈ device ∧ ∀ e ∈ l, e.2 ≠ r := by
  induction l generalizing device with
  | nil => simp
  | cons e l ih =>
    rw [List.foldl_cons, ih, AList.mem_erase, List.forall_mem_cons]
    tauto

/-- **Giving up all slots** leaves an empty device. -/
lemma Exact.evict (h : Exact same content slots device) :
    Exact same content (∅ : Table κ ι) (evict slots device) := by
  refine ⟨by simp, fun r => ?_, by simp⟩
  simp only [SlotCache.evict, mem_foldl_erase, AList.lookup_empty, reduceCtorEq, exists_false,
    iff_false, not_and, not_forall, not_not]
  intro hr
  obtain ⟨k, hk⟩ := (h.resident r).mp hr
  exact ⟨⟨k, r⟩, AList.mem_lookup_iff.mp hk, rfl⟩

end SlotCache
