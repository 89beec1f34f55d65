import Mathlib.Data.List.AList
import Mathlib.Algebra.BigOperators.Group.List.Basic
import Mathlib.Algebra.GroupWithZero.Nat

set_option relaxedAutoImplicit false
set_option autoImplicit false

/-!
# Finite tables

A finite map as Mathlib's association list without repeated keys, `AList`, at a constant family of
value types. The lemmas here put its lookups into the `if` form that case analyses use, and add
the two operations a program's loops over a map need: rewriting every value, and summing a weight
over all entries.

## Main definitions

* `Table` — finite maps from `κ` to `ν`.
* `Table.Holds`, `Table.All` — some entry has a value with a given property; every entry has it.
* `Table.mapValues` — rewrite every value of a table.
* `Table.weight` — the sum of a natural-number weight over the entries.
* `Table.Traversal` — an order in which a loop visits the entries of a table.
* `Table.eraseValue` — a loop that removes all entries with a given value.

## Main results

* `Table.lookup_insert`, `Table.lookup_erase`, `Table.lookup_mapValues` — the lookups.
* `Table.holds_insert`, `Table.holds_erase` — adding and removing an entry.
* `Table.weight_insert`, `Table.weight_erase` — the weight after adding and removing an entry.
* `Table.length_insert`, `Table.length_erase` — the same for the number of entries.
* `Table.lookup_eraseValue` — what is left does not depend on the order of the loop.
-/

/-- Finite maps from `κ` to `ν`. -/
abbrev Table (κ ν : Type*) := AList (fun _ : κ => ν)

namespace Table

variable {κ ν μ : Type*}

section Lookup

variable [DecidableEq κ]

/-- A lookup after an insertion. -/
lemma lookup_insert (t : Table κ ν) (k k' : κ) (v : ν) :
    (t.insert k v).lookup k' = if k' = k then some v else t.lookup k' := by
  by_cases h : k' = k
  · subst h; simp
  · rw [if_neg h, AList.lookup_insert_ne h]

/-- A lookup after a removal. -/
lemma lookup_erase (t : Table κ ν) (k k' : κ) :
    (t.erase k).lookup k' = if k' = k then none else t.lookup k' := by
  by_cases h : k' = k
  · subst h; simp
  · rw [if_neg h, AList.lookup_erase_ne h]

/-- A key is in the table iff its lookup finds a value. -/
lemma mem_iff_lookup {t : Table κ ν} {k : κ} : k ∈ t ↔ ∃ v, t.lookup k = some v := by
  rw [← AList.lookup_isSome, Option.isSome_iff_exists]

/-- A key whose lookup finds a value is in the table. -/
lemma mem_of_lookup {t : Table κ ν} {k : κ} {v : ν} (h : t.lookup k = some v) : k ∈ t :=
  mem_iff_lookup.mpr ⟨v, h⟩

/-- A table without two keys for one value has as many entries as it has values. -/
lemma length_entries_of_values {t : Table κ ν} {l : List ν} (hl : l.Nodup)
    (hinj : ∀ k k' v, t.lookup k = some v → t.lookup k' = some v → k = k')
    (hmem : ∀ v, v ∈ l ↔ ∃ k, t.lookup k = some v) : t.entries.length = l.length := by
  have hnodup : (t.entries.map (·.2)).Nodup := by
    refine List.Nodup.map_on ?_ t.nodupKeys.nodup
    rintro ⟨k, v⟩ h ⟨k', v'⟩ h' (rfl : v = v')
    rw [hinj k k' v (AList.mem_lookup_iff.mpr h) (AList.mem_lookup_iff.mpr h')]
  have hperm : (t.entries.map (·.2)).Perm l := by
    refine (List.perm_ext_iff_of_nodup hnodup hl).mpr fun v => ?_
    rw [hmem, List.mem_map]
    constructor
    · rintro ⟨⟨k, v⟩, h, rfl⟩
      exact ⟨k, AList.mem_lookup_iff.mpr h⟩
    · intro ⟨k, h⟩
      exact ⟨⟨k, v⟩, AList.mem_lookup_iff.mp h, rfl⟩
  rw [← hperm.length_eq, List.length_map]

/-- Removing a key that is not there changes nothing. -/
lemma erase_of_lookup_none {t : Table κ ν} {k : κ} (h : t.lookup k = none) : t.erase k = t := by
  have hk : k ∉ t.entries.keys := by
    rw [← AList.keys, ← AList.mem_keys]
    exact AList.lookup_eq_none.mp h
  exact AList.ext (List.kerase_of_notMem_keys hk)

end Lookup

section Holds

variable [DecidableEq κ]

/-- Some entry of the table has a value with the property `Q`. -/
def Holds (t : Table κ ν) (Q : ν → Prop) : Prop := ∃ k v, t.lookup k = some v ∧ Q v

instance (t : Table κ ν) (Q : ν → Prop) [DecidablePred Q] : Decidable (Holds t Q) :=
  decidable_of_iff (∃ e ∈ t.entries, Q e.2) <| by
    constructor
    · intro ⟨⟨k, v⟩, he, hQ⟩
      exact ⟨k, v, AList.mem_lookup_iff.mpr he, hQ⟩
    · intro ⟨k, v, hl, hQ⟩
      exact ⟨⟨k, v⟩, AList.mem_lookup_iff.mp hl, hQ⟩

/-- Every entry of the table has the property `Q`. -/
def All (t : Table κ ν) (Q : κ → ν → Prop) : Prop := ∀ k, ∀ v ∈ t.lookup k, Q k v

instance (t : Table κ ν) (Q : κ → ν → Prop) [∀ k v, Decidable (Q k v)] : Decidable (All t Q) :=
  decidable_of_iff (∀ e ∈ t.entries, Q e.1 e.2)
    ⟨fun h k v hl => h ⟨k, v⟩ (AList.mem_lookup_iff.mp hl),
      fun h e he => h e.1 e.2 (AList.mem_lookup_iff.mpr he)⟩

/-- The empty table has no entry. -/
@[simp] lemma not_holds_empty {Q : ν → Prop} : ¬ Holds (∅ : Table κ ν) Q := by
  rintro ⟨k, v, h, -⟩
  simp at h

/-- An entry at a new key adds its value. -/
lemma holds_insert {t : Table κ ν} {k : κ} (hk : k ∉ t) (v : ν) (Q : ν → Prop) :
    Holds (t.insert k v) Q ↔ Q v ∨ Holds t Q := by
  constructor
  · intro ⟨k', v', hl, hQ⟩
    rw [lookup_insert] at hl
    split_ifs at hl with hkk
    · obtain rfl : v = v' := by simpa using hl
      exact .inl hQ
    · exact .inr ⟨k', v', hl, hQ⟩
  · rintro (hQ | ⟨k', v', hl, hQ⟩)
    · exact ⟨k, v, by rw [lookup_insert, if_pos rfl], hQ⟩
    · have hne : k' ≠ k := by
        rintro rfl
        exact hk (mem_of_lookup hl)
      exact ⟨k', v', by rw [lookup_insert, if_neg hne, hl], hQ⟩

/-- Removing an entry takes its value away. -/
lemma holds_erase {t : Table κ ν} {k : κ} {v : ν} (h : t.lookup k = some v) (Q : ν → Prop) :
    Holds t Q ↔ Q v ∨ Holds (t.erase k) Q := by
  constructor
  · intro ⟨k', v', hl, hQ⟩
    by_cases hkk : k' = k
    · subst hkk
      obtain rfl : v = v' := by simpa [h] using hl
      exact .inl hQ
    · exact .inr ⟨k', v', by rw [lookup_erase, if_neg hkk, hl], hQ⟩
  · rintro (hQ | ⟨k', v', hl, hQ⟩)
    · exact ⟨k, v, h, hQ⟩
    · rw [lookup_erase] at hl
      split_ifs at hl
      exact ⟨k', v', hl, hQ⟩

end Holds

/-- Rewrite every value of a table. -/
def mapValues (f : κ → ν → μ) (t : Table κ ν) : Table κ μ where
  entries := t.entries.map fun e => ⟨e.1, f e.1 e.2⟩
  nodupKeys := by
    have h : (t.entries.map fun e : (Σ _ : κ, ν) => (⟨e.1, f e.1 e.2⟩ : Σ _ : κ, μ)).keys =
        t.entries.keys := by simp [List.keys, Function.comp_def]
    simpa only [List.NodupKeys, h] using t.nodupKeys

/-- A lookup after rewriting every value. -/
lemma lookup_mapValues [DecidableEq κ] (f : κ → ν → μ) (t : Table κ ν) (k : κ) :
    (mapValues f t).lookup k = (t.lookup k).map (f k) := by
  obtain ⟨l, hl⟩ := t
  simp only [AList.lookup, mapValues]
  clear hl
  induction l with
  | nil => rfl
  | cons e l ih =>
    obtain ⟨k', v⟩ := e
    by_cases h : k' = k
    · subst h; simp
    · simpa [List.dlookup_cons_ne, Ne.symm h] using ih

section Weight

variable (w : ν → ℕ)

/-- The sum of the weight `w` over all entries of a table. -/
def weight (t : Table κ ν) : ℕ := (t.entries.map fun e => w e.2).sum

/-- The empty table weighs nothing. -/
@[simp] lemma weight_empty : weight w (∅ : Table κ ν) = 0 := rfl

variable [DecidableEq κ]

/-- An entry at a new key adds its weight. -/
lemma weight_insert {t : Table κ ν} {k : κ} (h : k ∉ t) (v : ν) :
    weight w (t.insert k v) = w v + weight w t := by
  simp only [weight, AList.entries_insert_of_notMem h, List.map_cons, List.sum_cons]

/-- Removing an entry takes its weight away.

**Proof sketch.** Induction on the entries: the removed entry is the head, or it is removed from
the tail. -/
lemma weight_erase {t : Table κ ν} {k : κ} {v : ν} (h : t.lookup k = some v) :
    w v + weight w (t.erase k) = weight w t := by
  obtain ⟨l, hl⟩ := t
  change List.dlookup k l = some v at h
  show w v + ((l.kerase k).map fun e => w e.2).sum = (l.map fun e => w e.2).sum
  clear hl
  induction l with
  | nil => simp at h
  | cons e l ih =>
    obtain ⟨k', v'⟩ := e
    by_cases hk : k' = k
    · subst hk
      obtain rfl : v' = v := by simpa using h
      simp
    · have hl : List.dlookup k l = some v := by rwa [List.dlookup_cons_ne _ _ (Ne.symm hk)] at h
      rw [List.kerase_cons_ne (fun h => hk h.symm)]
      simp only [List.map_cons, List.sum_cons]
      have := ih hl
      omega

omit [DecidableEq κ] in
/-- Every entry weighs one: the weight is the number of entries. -/
lemma weight_one (t : Table κ ν) : weight (fun _ => 1) t = t.entries.length := by
  simp [weight]

/-- An entry at a new key makes the table longer by one. -/
lemma length_insert {t : Table κ ν} {k : κ} (h : k ∉ t) (v : ν) :
    (t.insert k v).entries.length = t.entries.length + 1 := by
  rw [← weight_one, ← weight_one, weight_insert _ h, Nat.add_comm]

/-- Removing an entry makes the table shorter by one. -/
lemma length_erase {t : Table κ ν} {k : κ} {v : ν} (h : t.lookup k = some v) :
    (t.erase k).entries.length + 1 = t.entries.length := by
  rw [← weight_one, ← weight_one, ← weight_erase (fun _ => 1) h, Nat.add_comm]

/-- Removing several keys of the table makes it shorter by their number. -/
lemma length_foldl_erase {ks : List κ} (hn : ks.Nodup) {t : Table κ ν} (h : ∀ k ∈ ks, k ∈ t) :
    (ks.foldl (fun t k => t.erase k) t).entries.length + ks.length = t.entries.length := by
  induction ks generalizing t with
  | nil => rfl
  | cons k ks ih =>
    obtain ⟨hk, hks⟩ := List.forall_mem_cons.mp h
    obtain ⟨hnot, hn⟩ := List.nodup_cons.mp hn
    obtain ⟨v, hv⟩ := mem_iff_lookup.mp hk
    have hrest : ∀ k' ∈ ks, k' ∈ t.erase k := fun k' hk' =>
      AList.mem_erase.mpr ⟨fun he => hnot (he ▸ hk'), hks k' hk'⟩
    have hlen := ih hn hrest
    have hone := length_erase hv
    rw [List.foldl_cons, List.length_cons]
    omega

/-- A lookup after removing several keys. -/
lemma lookup_foldl_erase_keys (ks : List κ) (t : Table κ ν) (k : κ) :
    (ks.foldl (fun t k => t.erase k) t).lookup k = if k ∈ ks then none else t.lookup k := by
  induction ks generalizing t with
  | nil => simp
  | cons k' ks ih =>
    rw [List.foldl_cons, ih, lookup_erase]
    by_cases hk : k = k'
    · simp [hk]
    · simp [hk]

/-- What is left after removing several keys was there before. -/
lemma lookup_of_foldl_erase {ks : List κ} {t : Table κ ν} {k : κ} {v : ν}
    (h : (ks.foldl (fun t k => t.erase k) t).lookup k = some v) : t.lookup k = some v := by
  rw [lookup_foldl_erase_keys] at h
  split_ifs at h
  exact h

end Weight

section Traversal

/-- An order in which a program visits the entries of a table. It may be different for every
table, but visits every entry once. -/
structure Traversal (κ ν : Type*) where
  order : Table κ ν → List (Σ _ : κ, ν)
  perm : ∀ t, (order t).Perm t.entries

instance : Inhabited (Traversal κ ν) := ⟨⟨fun t => t.entries, fun _ => .refl _⟩⟩

/-- A traversal visits the entries of the table. -/
lemma Traversal.mem_order [DecidableEq κ] (it : Traversal κ ν) {t : Table κ ν} {k : κ} {v : ν} :
    ⟨k, v⟩ ∈ it.order t ↔ t.lookup k = some v := by
  rw [(it.perm t).mem_iff]
  exact AList.mem_lookup_iff.symm

variable [DecidableEq κ] [DecidableEq ν]

/-- Remove the entries with value `v`, visiting the table in the order of the traversal. -/
def eraseValue (it : Traversal κ ν) (t : Table κ ν) (v : ν) : Table κ ν :=
  (it.order t).foldl (fun t' e => if e.2 = v then t'.erase e.1 else t') t

/-- Removing the keys that a list of entries pairs with `v`. -/
private lemma lookup_foldl_erase (l : List (Σ _ : κ, ν)) (t : Table κ ν) (v : ν) (k : κ) :
    (l.foldl (fun t' e => if e.2 = v then t'.erase e.1 else t') t).lookup k =
      if ⟨k, v⟩ ∈ l then none else t.lookup k := by
  induction l generalizing t with
  | nil => simp
  | cons e l ih =>
    obtain ⟨k', v'⟩ := e
    rw [List.foldl_cons, ih]
    by_cases hv : v' = v
    · subst hv
      by_cases hk : k = k'
      · subst hk; simp
      · simp [hk]
    · simp [hv, Ne.symm hv]

/-- After the removal of a value the other entries are left. -/
lemma lookup_eraseValue (it : Traversal κ ν) (t : Table κ ν) (v : ν) (k : κ) :
    (eraseValue it t v).lookup k = if t.lookup k = some v then none else t.lookup k := by
  rw [eraseValue, lookup_foldl_erase]
  simp only [it.mem_order]

end Traversal

end Table
