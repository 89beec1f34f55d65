import Aelkey.Haptics.Playback

set_option relaxedAutoImplicit false
set_option autoImplicit false

/-!
# Effects as Lua tables, and back

The callback of a source gets the effect that a game has uploaded as a Lua table. The function that
writes the table (`haptics_effect_to_lua`) and the one that reads a table (`lua_to_ff_effect`) list
their fields separately: the reader knows a direction, a trigger and an envelope, the writer does
not, and neither knows the samples of a periodic effect.

## Main definitions

* `Aelkey.Haptics.hapticsEffectToLua` — `haptics_effect_to_lua`.
* `Aelkey.Haptics.RoundTrips` — the effect that comes back is the one that was handed out.
* `Aelkey.Haptics.FfEffect.forgotten` — what comes back.
* `Aelkey.Haptics.FfEffect.Plain` — nothing is set that is not written.

## Main results

* `Aelkey.Haptics.luaToFfEffect_hapticsEffectToLua` — what comes back, for every effect.
* `Aelkey.Haptics.roundTrips_iff_plain` — an effect comes back unchanged iff it is plain.
* `Aelkey.Haptics.not_roundTrips_left` — a rumble from the left.
-/

namespace Aelkey.Haptics

/-- `haptics_effect_to_lua`. -/
def hapticsEffectToLua (eff : FfEffect) : LuaTable :=
  let t := ((∅ : LuaTable).insert "id" (.integer eff.id)).insert "length" (.integer eff.length)
  let t := t.insert "delay" (.integer eff.delay)
  match eff.body with
  | .rumble strongMagnitude weakMagnitude =>
    let t := t.insert "type" (.str "rumble")
    let t := t.insert "strong" (.integer strongMagnitude)
    t.insert "weak" (.integer weakMagnitude)
  | .periodic waveform period magnitude offset phase _ _ _ =>
    let t := t.insert "type" (.str "periodic")
    let t := t.insert "waveform" (.integer waveform)
    let t := t.insert "magnitude" (.integer magnitude)
    let t := t.insert "offset" (.integer offset)
    let t := t.insert "phase" (.integer phase)
    t.insert "period" (.integer period)
  | .constant level _ =>
    let t := t.insert "type" (.str "constant")
    t.insert "level" (.integer level)
  | .other _ _ => t

/-! ## The values of the C types -/

/-- A value of type `__u16`. -/
def IsUInt16 (n : ℤ) : Prop := 0 ≤ n ∧ n < 2 ^ 16

/-- A value of type `__s16`. -/
def IsInt16 (n : ℤ) : Prop := -2 ^ 15 ≤ n ∧ n < 2 ^ 15

instance : DecidablePred IsUInt16 := fun _ => instDecidableAnd

instance : DecidablePred IsInt16 := fun _ => instDecidableAnd

/-- The fields of the union have their types. -/
def FfBody.Typed : FfBody → Prop
  | .rumble strongMagnitude weakMagnitude => IsUInt16 strongMagnitude ∧ IsUInt16 weakMagnitude
  | .periodic waveform period magnitude offset phase _ _ _ =>
    IsUInt16 waveform ∧ IsUInt16 period ∧ IsInt16 magnitude ∧ IsInt16 offset ∧ IsUInt16 phase
  | .constant level _ => IsInt16 level
  | .other _ _ => True

/-- The fields that are written to the table have their types. -/
structure FfEffect.Typed (e : FfEffect) : Prop where
  length : IsUInt16 e.length
  delay : IsUInt16 e.delay
  body : e.body.Typed

/-! ## What comes back -/

/-- The part of the union that is written to the table. -/
def FfBody.forgotten : FfBody → FfBody
  | .periodic waveform period magnitude offset phase _ _ _ =>
    .periodic waveform period magnitude offset phase {} 0 0
  | .constant level _ => .constant level {}
  | body => body

/-- The part of an effect that is written to the table. -/
def FfEffect.forgotten (e : FfEffect) : FfEffect :=
  { id := -1, length := e.length, delay := e.delay, body := e.body.forgotten }

/-- **An effect round-trips**: what `lua_to_ff_effect` makes of the table for a rebuilt effect is
this effect, up to its id. -/
def RoundTrips (e : FfEffect) : Prop :=
  (luaToFfEffect (hapticsEffectToLua (rebuildEffect e))).Same (rebuildEffect e)

/-- The union has no envelope and no samples. -/
def FfBody.Plain : FfBody → Prop
  | .periodic _ _ _ _ _ envelope customLen customData =>
    envelope = {} ∧ customLen = 0 ∧ customData = 0
  | .constant _ envelope => envelope = {}
  | _ => True

/-- The effect has no direction, no trigger, no envelope and no samples. -/
def FfEffect.Plain (e : FfEffect) : Prop :=
  e.direction = 0 ∧ e.triggerButton = 0 ∧ e.triggerInterval = 0 ∧ e.body.Plain

/-- An `__u16` is read as it was written. -/
lemma toUInt16_toInt32 {n : ℤ} (h : IsUInt16 n) : toUInt16 (toInt32 n) = n := by
  obtain ⟨hpos, hlt⟩ := h
  rw [toInt32, Int.bmod_eq_of_le (by omega) (by omega), toUInt16, Int.emod_eq_of_lt hpos hlt]

/-- An `__s16` is read as it was written. -/
lemma toInt16_toInt32 {n : ℤ} (h : IsInt16 n) : toInt16 (toInt32 n) = n := by
  obtain ⟨hle, hlt⟩ := h
  rw [toInt32, Int.bmod_eq_of_le (by omega) (by omega), toInt16,
    Int.bmod_eq_of_le (by omega) (by omega)]

/-- The default of the fields that are missing. -/
lemma toUInt16_zero : toUInt16 0 = 0 := by decide

/-- A field of an empty table is missing. -/
lemma getInt_empty (key : String) (default : ℤ) : getInt ∅ key default = default := rfl

/-- Reading a number after one has been written. -/
lemma getInt_insert (t : LuaTable) (key key' : String) (n default : ℤ) :
    getInt (t.insert key (.integer n)) key' default =
      if key' = key then toInt32 n else getInt t key' default := by
  simp only [getInt, Table.lookup_insert]
  split_ifs <;> rfl

/-- Reading a number after a string has been written. -/
lemma getInt_insert_str (t : LuaTable) (key key' s : String) (default : ℤ) :
    getInt (t.insert key (.str s)) key' default =
      if key' = key then default else getInt t key' default := by
  simp only [getInt, Table.lookup_insert]
  split_ifs <;> rfl

/-- Reading a string after a number has been written. -/
lemma getStr_insert (t : LuaTable) (key key' : String) (n : ℤ) (default : String) :
    getStr (t.insert key (.integer n)) key' default =
      if key' = key then default else getStr t key' default := by
  simp only [getStr, Table.lookup_insert]
  split_ifs <;> rfl

/-- Reading a string after one has been written. -/
lemma getStr_insert_str (t : LuaTable) (key key' s default : String) :
    getStr (t.insert key (.str s)) key' default =
      if key' = key then s else getStr t key' default := by
  simp only [getStr, Table.lookup_insert]
  split_ifs <;> rfl

/-- **What comes back of an effect**: what is written to the table, and the defaults for the rest.

**Proof sketch.** Every field that is read is either written, with its own value, or missing. -/
lemma luaToFfEffect_hapticsEffectToLua {e : FfEffect} (he : e.Typed)
    (hknown : ∀ type raw, e.body ≠ .other type raw) :
    luaToFfEffect (hapticsEffectToLua e) = e.forgotten := by
  obtain ⟨hlength, hdelay, hbody⟩ := he
  have hl := toUInt16_toInt32 hlength
  have hd := toUInt16_toInt32 hdelay
  rcases hb : e.body with ⟨s, w⟩ | ⟨w, p, m, o, ph, env, len, data⟩ | ⟨level, env⟩ | ⟨type, raw⟩
  · rw [hb] at hbody
    simp only [hapticsEffectToLua, luaToFfEffect, FfEffect.forgotten, FfBody.forgotten, hb,
      getInt_insert, getInt_insert_str, getInt_empty, getStr_insert, getStr_insert_str,
      String.reduceEq, ↓reduceIte, toUInt16_zero, hl, hd, toUInt16_toInt32 hbody.1,
      toUInt16_toInt32 hbody.2]
  · rw [hb] at hbody
    obtain ⟨hw, hp, hm, ho, hph⟩ := hbody
    simp only [hapticsEffectToLua, luaToFfEffect, FfEffect.forgotten, FfBody.forgotten, hb,
      getInt_insert, getInt_insert_str, getInt_empty, getStr_insert, getStr_insert_str,
      String.reduceEq, ↓reduceIte, toUInt16_zero, hl, hd, luaToEnvelope, toUInt16_toInt32 hw,
      toUInt16_toInt32 hp, toInt16_toInt32 hm, toInt16_toInt32 ho, toUInt16_toInt32 hph]
  · rw [hb] at hbody
    simp only [hapticsEffectToLua, luaToFfEffect, FfEffect.forgotten, FfBody.forgotten, hb,
      getInt_insert, getInt_insert_str, getInt_empty, getStr_insert, getStr_insert_str,
      String.reduceEq, ↓reduceIte, toUInt16_zero, hl, hd, luaToEnvelope, toInt16_toInt32 hbody]
  · exact absurd hb (hknown type raw)

/-! ## Rebuilt effects -/

/-- The type of a rebuilt effect is known. -/
lemma rebuildEffect_known (e : FfEffect) (type : ℤ) (raw : List ℤ) :
    (rebuildEffect e).body ≠ .other type raw := by
  unfold rebuildEffect
  rcases e.body with _ | _ | _ | _ <;> simp

/-- The fields of a rebuilt effect have their types. -/
lemma typed_rebuildEffect {e : FfEffect} (he : e.Typed) : (rebuildEffect e).Typed := by
  obtain ⟨hlength, hdelay, hbody⟩ := he
  obtain ⟨id, direction, triggerButton, triggerInterval, length, delay, body⟩ := e
  cases body with
  | rumble | periodic | constant => exact ⟨hlength, hdelay, hbody⟩
  | other type raw =>
    refine ⟨?_, hdelay, by decide, by decide⟩
    show IsUInt16 (if length = 0 then 250 else length)
    split_ifs
    · decide
    · exact hlength

/-- Rebuilding an effect keeps it plain, or not plain. -/
lemma plain_rebuildEffect {e : FfEffect} : (rebuildEffect e).Plain ↔ e.Plain := by
  unfold rebuildEffect FfEffect.Plain
  rcases e.body with _ | _ | _ | _ <;> simp [FfBody.Plain]

/-- What comes back is the effect itself iff the effect is plain. -/
lemma same_forgotten_iff (e : FfEffect) : e.forgotten.Same e ↔ e.Plain := by
  obtain ⟨id, direction, triggerButton, triggerInterval, length, delay, body⟩ := e
  cases body <;>
    simp [FfEffect.forgotten, FfEffect.Same, FfEffect.Plain, FfBody.forgotten, FfBody.Plain, eq_comm]

/-! ## Creating and playing the effect that comes back -/

/-- The effect that `create` stores when it gets a table of the callback. -/
lemma effectOf_hapticsCreate_effectToLua (d : Dispatcher) {e : FfEffect} (he : e.Typed) :
    effectOf (hapticsCreate d (hapticsEffectToLua (rebuildEffect e))).1
        (hapticsSourceCustom, toInt16 d.internalIdCounter) =
      some { (rebuildEffect e).forgotten with id := toInt16 d.internalIdCounter } := by
  obtain ⟨-, -, heff⟩ := hapticsCreate_spec d (hapticsEffectToLua (rebuildEffect e))
  rw [heff, if_pos rfl,
    luaToFfEffect_hapticsEffectToLua (typed_rebuildEffect he) (rebuildEffect_known e)]

/-- A table of the callback has no source, so that it is played as a one-shot. -/
lemma hapticsPlay_effectToLua (d : Dispatcher) (sinkId : String) {e : FfEffect} (he : e.Typed)
    (hknown : ∀ type raw, e.body ≠ .other type raw) (first second : Answer) :
    hapticsPlay d sinkId (hapticsEffectToLua e) first second =
      (playEffect d sinkId "" (toInt32 e.id) 0 (some e.forgotten) first second).1 := by
  have hback := luaToFfEffect_hapticsEffectToLua he hknown
  have hsource : getStr (hapticsEffectToLua e) "source" "" = "" := by
    unfold hapticsEffectToLua
    split <;> rfl
  have hid : getInt (hapticsEffectToLua e) "id" (-1) = toInt32 e.id := by
    unfold hapticsEffectToLua
    split <;> rfl
  have hvalue : getInt (hapticsEffectToLua e) "value" 0 = 0 := by
    unfold hapticsEffectToLua
    split <;> rfl
  simp only [hapticsPlay, hsource, hid, hvalue, hback, true_or, ↓reduceIte]

/-! ## The exact condition -/

/-- **An effect round-trips iff it is plain.** For every effect that a game can upload, what
`lua_to_ff_effect` makes of the table that `haptics_effect_to_lua` has written for the rebuilt
effect is the rebuilt effect up to its id, if and only if the direction and the trigger of the
effect are zero, and so are the envelope of a periodic or constant effect and the samples of a
periodic one. -/
theorem roundTrips_iff_plain (e : FfEffect) (he : e.Typed) : RoundTrips e ↔ e.Plain := by
  rw [RoundTrips, luaToFfEffect_hapticsEffectToLua (typed_rebuildEffect he) (rebuildEffect_known e),
    same_forgotten_iff, plain_rebuildEffect]

/-- A sine. -/
def sine : FfEffect :=
  { id := 3, length := 500, body := .periodic 0x5a 100 (-0x2000) 0 0x4000 {} 0 0 }

/-- A sine without an envelope comes back. -/
theorem roundTrips_iff_plain_sine : RoundTrips sine :=
  (roundTrips_iff_plain sine ⟨by decide, by decide, by decide, by decide, by decide, by decide,
    by decide⟩).mpr ⟨rfl, rfl, rfl, rfl, rfl, rfl⟩

/-- A rumble from the left. -/
def rumbleLeft : FfEffect :=
  { id := 3, direction := 0x4000, length := 500, body := .rumble 0xc000 0 }

/-- **A direction is lost.** -/
theorem not_roundTrips_left : rumbleLeft.Typed ∧ ¬ RoundTrips rumbleLeft :=
  ⟨⟨by decide, by decide, by decide, by decide⟩, by
    rw [RoundTrips]
    decide⟩

end Aelkey.Haptics
