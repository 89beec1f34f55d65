import Aelkey.Lib.Table

set_option relaxedAutoImplicit false
set_option autoImplicit false

/-!
# The edge detector

`aelkey_edge.lua` keeps the last state of every id in one module-wide table and reports a change.
The callbacks of `detect` are left out: the touchpad and the mouse call it without.

## Main definitions

* `Aelkey.Edge` — the tables `last_state` and `active`.
* `Aelkey.Edge.detect` — report and record a state.
* `Aelkey.Edge.reset` — forget one id, or all.
* `Aelkey.Edge.down` — the recorded state of an id is pressed.

## Main results

* `Aelkey.Edge.detect_fst`, `Aelkey.Edge.down_detect` — an edge is reported iff the state changes,
  and only the record of the id changes.
-/

namespace Aelkey

/-- The state of the module. -/
structure Edge where
  lastState : Table String Bool := ∅
  active : Table String Bool := ∅

namespace Edge

/-- `detect(id, pressed)`: `some true` for a rising edge, `some false` for a falling one. An id
that is first seen released gives no edge. -/
def detect (e : Edge) (id : String) (current : Bool) : Option Bool × Edge :=
  match e.lastState.lookup id with
  | none =>
    if current then
      (some true,
        { lastState := e.lastState.insert id current, active := e.active.insert id true })
    else (none, { e with lastState := e.lastState.insert id current })
  | some prev =>
    if prev = current then (none, e)
    else if current then
      (some true,
        { lastState := e.lastState.insert id current, active := e.active.insert id true })
    else
      (some false,
        { lastState := e.lastState.insert id current, active := e.active.erase id })

/-- `reset([id])`: forget an id, or all of them. The Boolean says whether something was known. -/
def reset (e : Edge) : Option String → Bool × Edge
  | none => (!e.lastState.entries.isEmpty, {})
  | some id =>
    match e.lastState.lookup id with
    | some _ => (true, { lastState := e.lastState.erase id, active := e.active.erase id })
    | none => (false, e)

/-- The last state of an id was pressed; an id that is not known counts as released. -/
def down (e : Edge) (id : String) : Bool := e.lastState.lookup id = some true

/-- There is an edge iff the state differs from the recorded one. -/
lemma detect_fst (e : Edge) (id : String) (current : Bool) :
    (e.detect id current).1 = if e.down id = current then none else some current := by
  rcases h : e.lastState.lookup id with _ | prev
  · cases current <;> simp [detect, down, h]
  · cases prev <;> cases current <;> simp [detect, down, h]

/-- The record after a call. -/
lemma down_detect (e : Edge) (id id' : String) (current : Bool) :
    (e.detect id current).2.down id' = if id' = id then current else e.down id' := by
  have hinsert : ∀ t : Table String Bool,
      down ⟨e.lastState.insert id current, t⟩ id' = if id' = id then current else e.down id' := by
    intro t
    simp only [down, Table.lookup_insert]
    split_ifs <;> simp
  rcases h : e.lastState.lookup id with _ | prev
  · cases current <;> simp only [detect, h, Bool.false_eq_true, ↓reduceIte] <;> exact hinsert _
  · by_cases hp : prev = current
    · simp only [detect, h, hp, ↓reduceIte]
      split_ifs with hid
      · rw [hid, down, h, hp]
        cases current <;> rfl
      · rfl
    · cases current <;> simp only [detect, h, hp, Bool.false_eq_true, ↓reduceIte] <;>
        exact hinsert _

/-- Forgetting an id leaves the records of other ids. -/
lemma down_reset (e : Edge) {id id' : String} (h : id' ≠ id) :
    (e.reset (some id)).2.down id' = e.down id' := by
  rcases hl : e.lastState.lookup id with _ | known
  · simp only [reset, hl]
  · simp only [reset, hl, down, Table.lookup_erase, if_neg h]

end Edge

end Aelkey
