import Aelkey.Lib.Evdev
import Aelkey.Lib.Table

set_option relaxedAutoImplicit false
set_option autoImplicit false

/-!
# The keyboard remapper

`aelkey_keyboard.lua`: a press is mapped under the current Fn state, the mapping is stored in
`active_keys`, and the release undoes the stored mapping. A mapping to the single code `KEY_FN` is
a placeholder that switches the Fn state and emits nothing.

## Main definitions

* `Aelkey.Keyboard.Remapper` — the table made by `keyboard.new`.
* `Aelkey.Keyboard.resolveMapping` — the mapping of a press.
* `Aelkey.Keyboard.feedEvent`, `Aelkey.Keyboard.feedEvents` — one event, a list of events.

## Design

Log calls are left out: they go through `pcall` and change no state. A table value is a string or
a proper list of strings; strings and tables are true in Lua, so the `or` chains take the first
entry that is present, even an empty list.
-/

namespace Aelkey.Keyboard

open Evdev

/-- A value of a remap table. -/
inductive Mapping
  | code (c : String)
  | codes (cs : List String)
deriving DecidableEq

/-- The key events the remapper reads and writes. -/
abbrev KeyEvent := InputEvent ℤ

/-- `FN_CODE`. -/
def fnCode : String := "KEY_FN"

/-- `IDENTITY_MAP`: the keys that keep their code while Fn is down. -/
def identityMap : List String :=
  ["KEY_LEFTSHIFT", "KEY_RIGHTSHIFT", "KEY_LEFTCTRL", "KEY_RIGHTCTRL", "KEY_LEFTALT",
    "KEY_RIGHTALT", "KEY_LEFTMETA", "KEY_RIGHTMETA", "KEY_CAPSLOCK", "KEY_NUMLOCK",
    "KEY_SCROLLLOCK", "KEY_COMPOSE", "KEY_ISO_LEVEL3_SHIFT", "KEY_ISO_LEVEL5_SHIFT", "KEY_FN"]

/-- An instance made by `keyboard.new`: the three maps and the state. -/
structure Remapper where
  normalMap : Table String Mapping := ∅
  modifierMap : Table String Mapping := ∅
  fnMap : Table String Mapping := ∅
  fnDown : Bool := false
  activeKeys : Table String (List String) := ∅
  buffer : List KeyEvent := []

/-- `mapped[1] == FN_CODE and #mapped == 1`. -/
def isFnPlaceholder (mapped : List String) : Bool := mapped == [fnCode]

/-- The `or` chains of `resolve_mapping`. -/
def lookupMapping (self : Remapper) (code : String) : Option Mapping :=
  if self.fnDown then
    (self.modifierMap.lookup code)
      <|> (if code ∈ identityMap then some (.codes [code]) else none)
      <|> (self.fnMap.lookup code)
  else
    (self.modifierMap.lookup code) <|> (self.normalMap.lookup code) <|> some (.code code)

/-- `resolve_mapping`: the mapped codes, or nothing for a suppressed key, and whether the mapping
is the Fn placeholder. -/
def resolveMapping (self : Remapper) (code : String) : Option (List String) × Bool :=
  match lookupMapping self code with
  | none => (none, false)
  | some (.codes []) => (none, false)
  | some (.codes cs) => (some cs, isFnPlaceholder cs)
  | some (.code c) => (some [c], isFnPlaceholder [c])

/-- `append_event`. -/
def appendEvent (self : Remapper) (e : KeyEvent) : Remapper :=
  { self with buffer := self.buffer ++ [e] }

/-- The loops of `feed_events` that append one event per code. -/
def appendAll (self : Remapper) (codes : List String) (value : ℤ) : Remapper :=
  codes.foldl (fun self c => appendEvent self (key c value)) self

/-- The press branch of `feed_events`. -/
def press (self : Remapper) (code : String) : Remapper :=
  match resolveMapping self code with
  | (some mapped, isPlaceholder) =>
    if isPlaceholder then
      { self with fnDown := true, activeKeys := self.activeKeys.insert code [fnCode] }
    else appendAll { self with activeKeys := self.activeKeys.insert code mapped } mapped 1
  | (none, _) => self

/-- The release branch of `feed_events`. -/
def release (self : Remapper) (code : String) : Remapper :=
  let self' := { self with activeKeys := self.activeKeys.erase code }
  match self.activeKeys.lookup code with
  | some mapped =>
    if isFnPlaceholder mapped then { self' with fnDown := false }
    else appendAll self' mapped.reverse 0
  | none => self'

/-- The body of the loop of `feed_events`. -/
def feedEvent (self : Remapper) (e : KeyEvent) : Remapper :=
  if e.type = "EV_KEY" ∧ (e.value = 0 ∨ e.value = 1) then
    if e.value = 1 then press self e.code else release self e.code
  else self

/-- `feed_events`; a nil list is ignored. -/
def feedEvents (self : Remapper) : Option (List KeyEvent) → Remapper
  | some events => events.foldl feedEvent self
  | none => self

/-- `feed_key`; a nil event is ignored. -/
def feedKey (self : Remapper) : Option KeyEvent → Remapper
  | some event => feedEvents self (some [event])
  | none => self

/-- `begin_frame` clears the buffer. -/
def beginFrame (self : Remapper) : Remapper := { self with buffer := [] }

/-- `end_frame` does nothing. -/
def endFrame (self : Remapper) : Remapper := self

/-- `emit_events`: the events sent to the device, and the buffer cleared. -/
def emitEvents (self : Remapper) : List KeyEvent × Remapper :=
  (self.buffer, { self with buffer := [] })

/-- `set_fn_down`. -/
def setFnDown (self : Remapper) (down : Bool) : Remapper := { self with fnDown := down }

/-! ## What one event does -/

/-- Appending one event per code changes the buffer only. -/
lemma appendAll_eq (self : Remapper) (codes : List String) (value : ℤ) :
    appendAll self codes value =
      { self with buffer := self.buffer ++ codes.map (key · value) } := by
  induction codes generalizing self with
  | nil => simp [appendAll]
  | cons c codes ih =>
    rw [appendAll, List.foldl_cons]
    exact (ih (appendEvent self (key c value))).trans (by simp [appendEvent])

/-- The flag of a resolved mapping says whether it is the placeholder. -/
lemma resolveMapping_flag {self : Remapper} {code : String} {mapped : List String} {b : Bool}
    (h : resolveMapping self code = (some mapped, b)) : b = isFnPlaceholder mapped := by
  unfold resolveMapping at h
  split at h
  · simp at h
  · simp at h
  · simp only [Prod.mk.injEq, Option.some.injEq] at h
    rw [← h.1, ← h.2]
  · simp only [Prod.mk.injEq, Option.some.injEq] at h
    rw [← h.1, ← h.2]

/-- What a press does: nothing, switch Fn on and store the placeholder, or store a mapping that is
not the placeholder and press its codes. -/
lemma press_cases (self : Remapper) (code : String) :
    press self code = self ∨
      press self code =
        { self with fnDown := true, activeKeys := self.activeKeys.insert code [fnCode] } ∨
      ∃ mapped, isFnPlaceholder mapped = false ∧
        press self code =
          { self with
            activeKeys := self.activeKeys.insert code mapped
            buffer := self.buffer ++ mapped.map (key · 1) } := by
  unfold press
  split
  · next mapped b h =>
    by_cases hb : b = true
    · rw [if_pos hb]
      exact .inr (.inl rfl)
    · rw [if_neg hb, appendAll_eq]
      exact .inr (.inr ⟨mapped, by rw [← resolveMapping_flag h]; simpa using hb, rfl⟩)
  · exact .inl rfl

/-- What a release does: nothing if the code is not active; otherwise the code becomes inactive,
and the stored mapping switches Fn off or has its codes released. -/
lemma release_cases (self : Remapper) (code : String) :
    self.activeKeys.lookup code = none ∧ release self code = self ∨
      ∃ mapped, self.activeKeys.lookup code = some mapped ∧
        (isFnPlaceholder mapped = true ∧
            release self code =
              { self with fnDown := false, activeKeys := self.activeKeys.erase code } ∨
          isFnPlaceholder mapped = false ∧
            release self code =
              { self with
                activeKeys := self.activeKeys.erase code
                buffer := self.buffer ++ mapped.reverse.map (key · 0) }) := by
  rcases h : self.activeKeys.lookup code with _ | mapped
  · refine .inl ⟨rfl, ?_⟩
    simp [release, h, Table.erase_of_lookup_none h]
  · refine .inr ⟨mapped, rfl, ?_⟩
    by_cases hp : isFnPlaceholder mapped = true
    · exact .inl ⟨hp, by simp [release, h, hp]⟩
    · refine .inr ⟨by simpa using hp, ?_⟩
      simp only [release, h, if_neg hp, appendAll_eq]

end Aelkey.Keyboard
