import Aelkey.Haptics.Cache

set_option relaxedAutoImplicit false
set_option autoImplicit false

/-!
# Playing an effect that a script has created

The functions of `aelkey.haptics` (`source/aelkey_haptics.cc`) take a Lua table. `create` converts
it into an effect (`lua_to_ff_effect`), stores the effect under a new id, and injects the source and
the id into the table; `play` and `stop` read these fields back.

## Main definitions

* `Aelkey.Haptics.luaToFfEffect` — `lua_to_ff_effect`.
* `Aelkey.Haptics.hapticsCreate`, `Aelkey.Haptics.hapticsPlay` and the other two — the API.
* `Aelkey.Haptics.Starts` — a created effect starts on the device, and stops.

## Main results

* `Aelkey.Haptics.starts_iff_valued` — a created effect starts when it is played iff its table has a
  positive `value`.
* `Aelkey.Haptics.not_starts_rumble` — a table with a type only.

## Design

A Lua table is the value it has when it is passed; what `create` and `erase` write into the table is
in the table they return. Calls of scripts alternate with what the devices do: sinks and sources are
registered, and games upload and erase effects of their own sources.
-/

namespace Aelkey.Haptics

open SlotCache

/-! ## Lua tables -/

/-- A Lua value: a number that is accepted as an integer, a string, or anything else. -/
inductive LuaValue
  | integer (n : ℤ)
  | str (s : String)
  | other
deriving DecidableEq

/-- The string fields of a Lua table. -/
abbrev LuaTable := Table String LuaValue

/-- `get_or` with a default of type `int`. -/
def getInt (t : LuaTable) (key : String) (default : ℤ) : ℤ :=
  match t.lookup key with
  | some (.integer n) => toInt32 n
  | _ => default

/-- `get_or` with a default of type `std::string`. -/
def getStr (t : LuaTable) (key : String) (default : String) : String :=
  match t.lookup key with
  | some (.str s) => s
  | _ => default

/-- Conversion to `__u16`. -/
def toUInt16 (n : ℤ) : ℤ := n % 2 ^ 16

/-- The envelope of a periodic or constant effect. -/
def luaToEnvelope (t : LuaTable) : FfEnvelope where
  attackLength := toUInt16 (getInt t "attack_length" 0)
  attackLevel := toUInt16 (getInt t "attack_level" 0)
  fadeLength := toUInt16 (getInt t "fade_length" 0)
  fadeLevel := toUInt16 (getInt t "fade_level" 0)

/-- `lua_to_ff_effect`. -/
def luaToFfEffect (t : LuaTable) : FfEffect :=
  let eff : FfEffect :=
    { id := -1
      direction := toUInt16 (getInt t "direction" 0)
      length := toUInt16 (getInt t "length" 250)
      delay := toUInt16 (getInt t "delay" 0)
      triggerButton := toUInt16 (getInt t "trigger_button" 0)
      triggerInterval := toUInt16 (getInt t "trigger_interval" 0)
      body := .rumble 0x4000 0x4000 }
  let type := getStr t "type" "rumble"
  if type = "rumble" then
    { eff with
      body := .rumble (toUInt16 (getInt t "strong" 0x4000)) (toUInt16 (getInt t "weak" 0x4000)) }
  else if type = "periodic" then
    { eff with
      body := .periodic (toUInt16 (getInt t "waveform" 0)) (toUInt16 (getInt t "period" 0))
        (toInt16 (getInt t "magnitude" 0)) (toInt16 (getInt t "offset" 0))
        (toUInt16 (getInt t "phase" 0)) (luaToEnvelope t) 0 0 }
  else if type = "constant" then
    { eff with body := .constant (toInt16 (getInt t "level" 0)) (luaToEnvelope t) }
  else if eff.delay = 0 then { eff with delay := 250 }
  else eff

/-! ## The functions of `aelkey.haptics` -/

/-- `HAPTICS_SOURCE_CUSTOM`. -/
def hapticsSourceCustom : String := "_aelkey_haptics_custom_"

/-- `get_source(source)` finds a source, and it has an effect with this id. -/
def hasEffect (d : Dispatcher) (source : String) (id : ℤ) : Bool :=
  match d.sources.lookup source with
  | some src => id ∈ src.effects
  | none => false

/-- `haptics_create`, with the table it returns. -/
def hapticsCreate (d : Dispatcher) (tbl : LuaTable) : Dispatcher × LuaTable :=
  let (d, virtId) := createPersistentEffect d hapticsSourceCustom (luaToFfEffect tbl)
  (d, (tbl.insert "source" (.str hapticsSourceCustom)).insert "id" (.integer virtId))

/-- `haptics_erase`, with the table as it is afterwards. -/
def hapticsErase (d : Dispatcher) (tbl : LuaTable) : Dispatcher × LuaTable :=
  let source := getStr tbl "source" ""
  let id := getInt tbl "id" (-1)
  let d := if source ≠ "" ∧ 0 ≤ id then (erasePersistentEffect d source id).1 else d
  (d, (tbl.erase "source").insert "id" (.integer (-1)))

/-- `haptics_play`, for the kernel's answers to its uploads. -/
def hapticsPlay (d : Dispatcher) (sinkId : String) (ev : LuaTable) (first second : Answer) :
    Dispatcher :=
  let source := getStr ev "source" ""
  let id := getInt ev "id" (-1)
  let magnitude := getInt ev "value" 0
  let maybeEff :=
    if source = "" ∨ id < 0 ∨ hasEffect d source id = false then some (luaToFfEffect ev) else none
  (playEffect d sinkId source id magnitude maybeEff first second).1

/-- `haptics_stop`. -/
def hapticsStop (d : Dispatcher) (sinkId : String) (ev : LuaTable) : Dispatcher :=
  (stopEffect d sinkId (getStr ev "source" "") (getInt ev "id" (-1))).1

/-! ## Runs -/

/-- A call of a script, or an operation of the devices. -/
inductive Call
  | create (tbl : LuaTable)
  | erase (tbl : LuaTable)
  | play (sinkId : String) (ev : LuaTable) (first second : Answer)
  | stop (sinkId : String) (ev : LuaTable)
  | device (op : Op)

/-- One call. -/
def callStep (d : Dispatcher) : Call → Dispatcher
  | .create tbl => (hapticsCreate d tbl).1
  | .erase tbl => (hapticsErase d tbl).1
  | .play sinkId ev first second => hapticsPlay d sinkId ev first second
  | .stop sinkId ev => hapticsStop d sinkId ev
  | .device op => step d op

/-- The devices register sinks and sources, and games upload and erase effects; all this is not
about the source of the effects that scripts create. -/
def Call.Legal : Call → Prop
  | .device (.registerSource id _ _) => id ≠ hapticsSourceCustom
  | .device (.registerSink _ _) => True
  | .device (.upload sourceId _ _) => sourceId ≠ hapticsSourceCustom
  | .device (.eraseRequest sourceId _ _) => sourceId ≠ hapticsSourceCustom
  | .device _ => False
  | _ => True

/-- The call erases the effect that a table returned by `create` names. -/
def Call.Erases (tbl : LuaTable) : Call → Prop
  | .erase tbl' => getStr tbl' "source" "" = getStr tbl "source" "" ∧
      getInt tbl' "id" (-1) = getInt tbl "id" (-1)
  | _ => False

/-- The device of a sink accepts an upload, at first or after all slots have been given up. -/
def Accepts (sink : Sink) (first second : Answer) : Prop :=
  (∃ id, 0 ≤ id ∧ id ∉ sink.device ∧ first = .stored id) ∨
    first = .failed .enospc ∧ ∃ id, 0 ≤ id ∧ id ∉ sink.evicted.device ∧ second = .stored id

/-- The sink is registered, and its device accepts the upload of the effect that a table names,
unless the effect is there already. -/
def Registered (d : Dispatcher) (sinkId : String) (tbl : LuaTable) (first second : Answer) : Prop :=
  ∃ sink, d.sinks.lookup sinkId = some sink ∧
    ((getStr tbl "source" "", getInt tbl "id" (-1)) ∉ sink.slots → Accepts sink first second)

/-- **A created effect can be played.** Playing the table writes an event with a positive value for
a real id under which an effect like `eff` resides on the device, and stopping it then writes the
value 0 for the same real id. -/
def Starts (d : Dispatcher) (sinkId : String) (tbl : LuaTable) (eff : FfEffect)
    (first second : Answer) : Prop :=
  ∃ (sink : Sink) (realId value : ℤ) (e : FfEffect),
    (hapticsPlay d sinkId tbl first second).sinks.lookup sinkId = some sink ∧
    sink.device.lookup realId = some e ∧ e.Same eff ∧ 0 < value ∧
    (hapticsPlay d sinkId tbl first second).written = d.written ++ [⟨sink.fd, realId, value⟩] ∧
    (hapticsStop (hapticsPlay d sinkId tbl first second) sinkId tbl).written =
      d.written ++ [⟨sink.fd, realId, value⟩, ⟨sink.fd, realId, 0⟩]

/-! ## The slots can be trusted -/

/-- The effects of the scripts. -/
def customOf (d : Dispatcher) (key : Key) : Option FfEffect :=
  if key.1 = hapticsSourceCustom then effectOf d key else none

/-- **The invariant.** Sources are stored under their ids, and the sinks have valid descriptors and
slots in which the effects of the scripts can be trusted, whatever else resides on their devices. -/
structure Ready (d : Dispatcher) : Prop where
  ids : ∀ id src, d.sources.lookup id = some src → src.id = id
  sinks : ∀ id sink, d.sinks.lookup id = some sink →
    0 ≤ sink.fd ∧ Sound FfEffect.Same (customOf d) sink.slots sink.device

/-- The effects of the scripts after an operation that changes no effect, or lets it disappear. -/
lemma customOf_of_effectOf {d d' : Dispatcher} {key : Key}
    (h : effectOf d' key = effectOf d key ∨ effectOf d' key = none) :
    customOf d' key = customOf d key ∨ customOf d' key = none := by
  simp only [customOf]
  split_ifs
  · exact h
  · exact .inl rfl

/-- What a sink is after an upload for a key. -/
def Sink.stored (key : Key) (u : Sink × ℤ) : Sink :=
  if u.2 < 0 then u.1 else { u.1 with slots := u.1.slots.insert key u.2 }

/-- **An upload keeps the slots sound**, if it is an upload of the effect of the key. -/
lemma sound_stored {sink : Sink} {content : Key → Option FfEffect} {key : Key} {eff : FfEffect}
    (first second : Answer) (h : Sound FfEffect.Same content sink.slots sink.device)
    (hc : ∀ c, content key = some c → eff = c) :
    (Sink.stored key (uploadEffect sink eff first second)).fd = sink.fd ∧
      Sound FfEffect.Same content (Sink.stored key (uploadEffect sink eff first second)).slots
        (Sink.stored key (uploadEffect sink eff first second)).device := by
  obtain ⟨base, hbase, hup⟩ := uploadEffect_cases sink eff first second
  have hsound : base.fd = sink.fd ∧ Sound FfEffect.Same content base.slots base.device := by
    rcases hbase with rfl | rfl
    · exact ⟨rfl, h⟩
    · exact ⟨rfl, sound_empty⟩
  obtain ⟨hfd, hsound⟩ := hsound
  rcases hup with he | ⟨id, hpos, hid, he⟩
  · have hneg : (-1 : ℤ) < 0 := by decide
    rw [he, Sink.stored, if_pos hneg]
    exact ⟨hfd, hsound⟩
  · rw [he, Sink.stored, if_neg (Int.not_lt.mpr hpos)]
    refine ⟨hfd, hsound.store hid fun c hcc => ?_⟩
    obtain rfl := hc c hcc
    rfl

/-- **What playing an effect does to the sinks.** It keeps them, or it uploads an effect to one of
them: that of the key, or one that is played once. -/
lemma playEffect_sinks (d : Dispatcher) (sinkId sourceId : String) (virtId magnitude : ℤ)
    (maybeEff : Option FfEffect) (first second : Answer) :
    (∀ id, (playEffect d sinkId sourceId virtId magnitude maybeEff first second).1.sinks.lookup id =
        d.sinks.lookup id) ∨
      ∃ sink key eff, d.sinks.lookup sinkId = some sink ∧
        (key.1 = hapticsSourceOneshot ∨ effectOf d key = some eff) ∧
        (playEffect d sinkId sourceId virtId magnitude maybeEff first second).1.sinks =
          d.sinks.insert sinkId (Sink.stored key (uploadEffect sink eff first second)) := by
  unfold playEffect
  rcases hsink : d.sinks.lookup sinkId with _ | sink
  · exact .inl fun _ => rfl
  dsimp only
  split_ifs with hfd
  · exact .inl fun _ => rfl
  cases maybeEff with
  | none =>
    dsimp only
    rcases hslot : sink.slots.lookup (sourceId, virtId) with _ | realId
    · rcases hsrc : d.sources.lookup sourceId with _ | src
      · exact .inl fun _ => rfl
      dsimp only
      rcases heff : src.effects.lookup virtId with _ | eff
      · exact .inl fun _ => rfl
      refine .inr ⟨sink, (sourceId, virtId), eff, rfl, .inr ?_, ?_⟩
      · simp only [effectOf, hsrc, Option.bind_some, heff]
      · dsimp only
        split_ifs with hneg
        · rw [Sink.stored, if_pos hneg]
        · rw [Sink.stored, if_neg hneg]
          rfl
    · refine .inl fun id => ?_
      simp only [playSlot, Table.lookup_insert]
      split_ifs with he
      · rw [he, hsink]
      · rfl
  | some eff =>
    refine .inr ⟨sink, (hapticsSourceOneshot, toInt32 d.oneshotCounter), eff, rfl, .inl rfl, ?_⟩
    dsimp only
    split_ifs with hneg
    · rw [Sink.stored, if_pos hneg]
    · rw [Sink.stored, if_neg hneg]
      rfl

/-- Playing an effect keeps the invariant: what is stored under the key of an effect is a copy of
it. -/
lemma Ready.play {d : Dispatcher} (h : Ready d) (sinkId sourceId : String) (virtId magnitude : ℤ)
    (maybeEff : Option FfEffect) (first second : Answer) :
    Ready (playEffect d sinkId sourceId virtId magnitude maybeEff first second).1 := by
  have hcustom : customOf (playEffect d sinkId sourceId virtId magnitude maybeEff first second).1 =
      customOf d := by
    funext key
    simp only [customOf, effectOf, playEffect_sources]
  constructor
  case ids =>
    rw [playEffect_sources]
    exact h.ids
  case sinks =>
    intro id sink hs
    rw [hcustom]
    obtain hkept | ⟨sink₀, key, eff, hsink, hkey, he⟩ :=
      playEffect_sinks d sinkId sourceId virtId magnitude maybeEff first second
    · exact h.sinks id sink ((hkept id).symm.trans hs)
    · rw [he, Table.lookup_insert] at hs
      split_ifs at hs
      · obtain ⟨hfd, hsound⟩ := h.sinks sinkId sink₀ hsink
        have hc : ∀ c, customOf d key = some c → eff = c := by
          intro c hc
          rw [customOf] at hc
          split_ifs at hc with hk
          obtain hkey | hkey := hkey
          · exact absurd (hk.symm.trans hkey) (by decide)
          · exact Option.some.inj (hkey.symm.trans hc)
        obtain ⟨hfd', hsound'⟩ := sound_stored first second hsound hc
        rw [← Option.some.inj hs]
        exact ⟨hfd'.symm ▸ hfd, hsound'⟩
      · exact h.sinks id sink hs

/-- What maintains the sinks keeps the invariant. -/
lemma Ready.maintains {d d' : Dispatcher} (h : Ready d) (hm : Maintains d d')
    (hids : ∀ id src, d'.sources.lookup id = some src → src.id = id) : Ready d' := by
  refine ⟨hids, fun id sink hs => ?_⟩
  cases hm with
  | kept sinks effects count =>
    rw [sinks] at hs
    obtain ⟨hfd, hsound⟩ := h.sinks id sink hs
    exact ⟨hfd, hsound.mono fun key => customOf_of_effectOf (effects key)⟩
  | plugged id' fd nonneg sinks effects count =>
    rw [sinks, Table.lookup_insert] at hs
    split_ifs at hs
    · rw [← Option.some.inj hs]
      exact ⟨nonneg, sound_empty⟩
    · obtain ⟨hfd, hsound⟩ := h.sinks id sink hs
      exact ⟨hfd, hsound.mono fun key => customOf_of_effectOf (.inl (effects key))⟩
  | dropped key sinks effects count =>
    rw [sinks] at hs
    obtain ⟨sink, hs', rfl⟩ := Option.map_eq_some_iff.mp hs
    obtain ⟨hfd, hsound⟩ := h.sinks id sink hs'
    exact ⟨hfd, hsound.dropKey fun key' hne => customOf_of_effectOf (.inl (effects key' hne))⟩

/-- Every operation keeps the invariant.

**Proof sketch.** An operation that plays no effect gives up slots where it changes effects. A play
uploads the effect of its key, or an effect under a key of the one-shot pseudo source, which is not
the source of the scripts. -/
lemma Ready.step {d : Dispatcher} (h : Ready d) (op : Op) : Ready (step d op) := by
  by_cases hplay : op.Plays
  · obtain ⟨sinkId, sourceId, virtId, magnitude, maybeEff, first, second, rfl⟩ := hplay.eq_play
    exact h.play sinkId sourceId virtId magnitude maybeEff first second
  · exact h.maintains (maintains_step h.ids hplay) (ids_step h.ids op)

/-- A call of a script is an operation, or does nothing. -/
lemma callStep_cases (d : Dispatcher) (c : Call) :
    callStep d c = d ∨ ∃ op, callStep d c = step d op := by
  cases c with
  | create tbl => exact .inr ⟨.create hapticsSourceCustom (luaToFfEffect tbl), rfl⟩
  | erase tbl =>
    simp only [callStep, hapticsErase]
    split_ifs
    · exact .inr ⟨.erase _ _, rfl⟩
    · exact .inl rfl
  | play sinkId ev first second => exact .inr ⟨.play _ _ _ _ _ _ _, rfl⟩
  | stop sinkId ev => exact .inr ⟨.stop _ _ _, rfl⟩
  | device op => exact .inr ⟨op, rfl⟩

/-- Every call keeps the invariant. -/
lemma Ready.callStep {d : Dispatcher} (h : Ready d) (c : Call) : Ready (callStep d c) := by
  obtain he | ⟨op, he⟩ := callStep_cases d c
  · rw [he]
    exact h
  · rw [he]
    exact h.step op

/-! ## A created effect stays -/

/-- A number that fits into `__s16`. -/
lemma toInt16_of_lt {n : ℕ} (h : n < 2 ^ 15) : toInt16 n = n := by
  unfold toInt16
  exact Int.bmod_eq_of_le (by omega) (by omega)

/-- Every effect that is made of a table asks for a new id. -/
lemma luaToFfEffect_id (t : LuaTable) : (luaToFfEffect t).id = -1 := by
  unfold luaToFfEffect
  dsimp only
  split_ifs <;> rfl

/-- **What `create` does**: it uses up one number, the table names the effect with this number, and
the effect is that of the table. Other effects stay. -/
lemma hapticsCreate_spec (d : Dispatcher) (tbl : LuaTable) :
    (hapticsCreate d tbl).1.internalIdCounter = d.internalIdCounter + 1 ∧
      (hapticsCreate d tbl).2 = (tbl.insert "source" (.str hapticsSourceCustom)).insert "id"
        (.integer (toInt16 d.internalIdCounter)) ∧
      ∀ v, effectOf (hapticsCreate d tbl).1 (hapticsSourceCustom, v) =
        if v = toInt16 d.internalIdCounter then
          some { luaToFfEffect tbl with id := toInt16 d.internalIdCounter }
        else effectOf d (hapticsSourceCustom, v) := by
  obtain ⟨heffects, -, -, -, -⟩ := ensureSource_spec d hapticsSourceCustom
  obtain ⟨eff', src, n, ⟨-, rfl, rfl⟩ | ⟨hid, -⟩, hsrc, he⟩ :=
    createPersistentEffect_spec d hapticsSourceCustom (luaToFfEffect tbl)
  · refine ⟨by rw [hapticsCreate, he]; rfl, by rw [hapticsCreate, he], fun v => ?_⟩
    have hv : effectOf d (hapticsSourceCustom, v) = src.effects.lookup v := by
      rw [← heffects, effectOf, hsrc, Option.bind_some]
    rw [hapticsCreate, he]
    dsimp only
    rw [effectOf_setEffects, if_pos rfl, Table.lookup_insert, hv]
  · exact absurd (luaToFfEffect_id tbl) hid

/-- The effects of another source are not touched when those of a source are replaced. -/
lemma effectOf_setEffects_ne {d : Dispatcher} {src : SourceCtx} {effects : Table ℤ FfEffect}
    {sourceId : String} (h : sourceId ≠ hapticsSourceCustom) (v : ℤ) :
    effectOf (setEffects d src effects sourceId) (hapticsSourceCustom, v) =
      effectOf d (hapticsSourceCustom, v) := by
  rw [effectOf_setEffects, if_neg fun he => h he.symm]

/-- What `erase` does to the effects of the scripts: the one that the table names goes. -/
lemma effectOf_hapticsErase (d : Dispatcher) (tbl : LuaTable) (v : ℤ) :
    effectOf (hapticsErase d tbl).1 (hapticsSourceCustom, v) =
      if getStr tbl "source" "" = hapticsSourceCustom ∧ getInt tbl "id" (-1) = v ∧ 0 ≤ v then none
      else effectOf d (hapticsSourceCustom, v) := by
  simp only [hapticsErase, erasePersistentEffect]
  split_ifs with hvalid hnames hnames
  · obtain ⟨hs, rfl, -⟩ := hnames
    rw [hs]
    split
    · dsimp only
      rw [effectOf_setEffects, if_pos rfl, Table.lookup_erase, if_pos rfl]
    · next hsrc => simp only [effectOf, hsrc, Option.bind_none]
  · split
    · next src hsrc =>
      dsimp only
      rw [effectOf_setEffects]
      split_ifs with hs
      · have hne : v ≠ getInt tbl "id" (-1) := fun hv =>
          hnames ⟨Eq.symm hs, hv.symm, hv ▸ hvalid.2⟩
        simp only [effectOf]
        rw [Table.lookup_erase, if_neg hne, show hapticsSourceCustom = _ from hs, hsrc,
          Option.bind_some]
      · rfl
    · rfl
  · obtain ⟨hs, rfl, hpos⟩ := hnames
    refine absurd ⟨?_, hpos⟩ hvalid
    rw [hs]
    decide
  · rfl

/-- A call that neither creates nor erases keeps the effects of the scripts. -/
lemma effectOf_callStep_of_ne {d : Dispatcher} {c : Call} (hc : c.Legal)
    (hcreate : ∀ t, c ≠ .create t) (herase : ∀ t, c ≠ .erase t) (v : ℤ) :
    effectOf (callStep d c) (hapticsSourceCustom, v) = effectOf d (hapticsSourceCustom, v) := by
  cases c with
  | create t => exact absurd rfl (hcreate t)
  | erase t => exact absurd rfl (herase t)
  | play sinkId ev first second =>
    simp only [callStep, hapticsPlay, effectOf, playEffect_sources]
  | stop sinkId ev =>
    simp only [callStep, hapticsStop, stopEffect]
    repeat' split
    all_goals rfl
  | device op =>
    cases op with
    | registerSource id uinputFd callback =>
      simp only [callStep, step, effectOf, registerSource, Table.lookup_insert]
      rw [if_neg fun he => hc he.symm]
    | registerSink id evdevFd =>
      simp only [callStep, step, registerSink]
      split_ifs <;> rfl
    | upload sourceId begin endOk =>
      simp only [callStep, step, handleUpload]
      split
      · split
        · rfl
        · split_ifs
          · exact effectOf_setEffects_ne hc v
          · rfl
      · rfl
    | eraseRequest sourceId begin endOk =>
      simp only [callStep, step, handleErase]
      split
      · split
        · rfl
        · exact effectOf_setEffects_ne hc v
      · rfl
    | create | erase | play | stop => exact hc.elim

/-- Every other call keeps an effect of the scripts that it does not erase. -/
lemma effectOf_callStep {d : Dispatcher} {c : Call} (hc : c.Legal) (hcreate : ∀ t, c ≠ .create t)
    {tbl : LuaTable} {v : ℤ} (hsource : getStr tbl "source" "" = hapticsSourceCustom)
    (hid : getInt tbl "id" (-1) = v) (herase : ¬ c.Erases tbl) :
    effectOf (callStep d c) (hapticsSourceCustom, v) = effectOf d (hapticsSourceCustom, v) := by
  by_cases he : ∃ tbl', c = .erase tbl'
  · obtain ⟨tbl', rfl⟩ := he
    rw [callStep, effectOf_hapticsErase, if_neg]
    rintro ⟨hs, hv, -⟩
    exact herase ⟨hs.trans hsource.symm, hv.trans hid.symm⟩
  · exact effectOf_callStep_of_ne hc hcreate (fun t ht => he ⟨t, ht⟩) v

/-- Only `create` uses up numbers. -/
lemma counter_callStep {d : Dispatcher} {c : Call} (hc : c.Legal) (hcreate : ∀ t, c ≠ .create t) :
    (callStep d c).internalIdCounter = d.internalIdCounter := by
  cases c with
  | create t => exact absurd rfl (hcreate t)
  | erase | play | stop =>
    simp only [callStep, hapticsErase, hapticsPlay, hapticsStop, erasePersistentEffect, playEffect,
      playSlot, stopEffect]
    repeat' split
    all_goals rfl
  | device op =>
    cases op with
    | registerSource | registerSink | upload | eraseRequest =>
      simp only [callStep, step, registerSource, registerSink, handleUpload, handleErase]
      repeat' split
      all_goals rfl
    | create | erase | play | stop => exact hc.elim

/-- Numbers are used up one by one. -/
lemma counter_le_callStep {d : Dispatcher} {c : Call} (hc : c.Legal) :
    d.internalIdCounter ≤ (callStep d c).internalIdCounter := by
  by_cases hcreate : ∃ t, c = .create t
  · obtain ⟨t, rfl⟩ := hcreate
    exact (hapticsCreate_spec d t).1 ▸ Nat.le_succ _
  · exact (counter_callStep hc fun t ht => hcreate ⟨t, ht⟩).ge

/-- The table that `create` returned names an effect of the scripts with this number, which has been
used up. -/
structure Held (tbl : LuaTable) (n : ℕ) (eff : FfEffect) (d : Dispatcher) : Prop where
  source : getStr tbl "source" "" = hapticsSourceCustom
  id : getInt tbl "id" (-1) = n
  used : n < d.internalIdCounter
  effect : effectOf d (hapticsSourceCustom, n) = some eff

/-- The effect that `create` makes. -/
lemma held_create (d : Dispatcher) (tbl : LuaTable) (h : d.internalIdCounter < 2 ^ 15) :
    Held (hapticsCreate d tbl).2 d.internalIdCounter
      { luaToFfEffect tbl with id := d.internalIdCounter } (hapticsCreate d tbl).1 := by
  obtain ⟨hcount, htbl, heff⟩ := hapticsCreate_spec d tbl
  rw [toInt16_of_lt h] at htbl heff
  have hid : toInt32 d.internalIdCounter = d.internalIdCounter := toInt32_of_lt (by omega)
  refine ⟨?_, ?_, hcount ▸ Nat.lt_succ_self _, (heff _).trans (if_pos rfl)⟩
  · rw [htbl, getStr, Table.lookup_insert, if_neg (by decide), Table.lookup_insert, if_pos rfl]
  · rw [htbl, getInt, Table.lookup_insert, if_pos rfl]
    exact hid

/-- **A created effect stays** as long as no call erases it and the numbers fit into `__s16`. -/
lemma Held.callStep {tbl : LuaTable} {n : ℕ} {eff : FfEffect} {d : Dispatcher}
    (h : Held tbl n eff d) {c : Call} (hc : c.Legal) (herase : ¬ c.Erases tbl)
    (hcount : (callStep d c).internalIdCounter ≤ 2 ^ 15) : Held tbl n eff (callStep d c) := by
  refine ⟨h.source, h.id, h.used.trans_le (counter_le_callStep hc), ?_⟩
  by_cases hcreate : ∃ t, c = .create t
  · obtain ⟨t, rfl⟩ := hcreate
    obtain ⟨hnext, -, heff⟩ := hapticsCreate_spec d t
    have hlt : d.internalIdCounter < 2 ^ 15 := by
      rw [Haptics.callStep, hnext] at hcount
      omega
    have hne : (n : ℤ) ≠ toInt16 d.internalIdCounter := by
      rw [toInt16_of_lt hlt]
      have := h.used
      omega
    rw [Haptics.callStep, heff, if_neg hne]
    exact h.effect
  · rw [effectOf_callStep hc (fun t ht => hcreate ⟨t, ht⟩) h.source h.id herase]
    exact h.effect

/-! ## Playing -/

/-- A device that accepts an upload stores the effect. -/
lemma uploadEffect_of_accepts {sink : Sink} {first second : Answer} (h : Accepts sink first second)
    (eff : FfEffect) : ¬ (uploadEffect sink eff first second).2 < 0 := by
  rcases h with ⟨id, hpos, hid, rfl⟩ | ⟨rfl, id, hpos, hid, rfl⟩
  · simp only [uploadEffect, csff, hpos, hid, not_false_eq_true, and_self, ↓reduceIte]
    exact Int.not_lt.mpr hpos
  · have hid' : id ∉ evict sink.slots sink.device := hid
    simp only [uploadEffect, csff, hpos, hid', not_false_eq_true, and_self, ↓reduceIte]
    exact Int.not_lt.mpr hpos

/-- **Playing an effect of the scripts.** The event is written for a real id that is in the slot of
the effect, and under which a copy of the effect resides. -/
lemma playEffect_persistent {d : Dispatcher} (h : Ready d) {sinkId : String} {sink : Sink}
    (hsink : d.sinks.lookup sinkId = some sink) {v : ℤ} {eff : FfEffect}
    (heff : effectOf d (hapticsSourceCustom, v) = some eff) {first second : Answer}
    (hacc : (hapticsSourceCustom, v) ∉ sink.slots → Accepts sink first second) (magnitude : ℤ) :
    ∃ (sink' : Sink) (realId : ℤ) (e : FfEffect),
      (playEffect d sinkId hapticsSourceCustom v magnitude none first second).1.sinks.lookup
          sinkId = some sink' ∧
        0 ≤ sink'.fd ∧ sink'.slots.lookup (hapticsSourceCustom, v) = some realId ∧
        sink'.device.lookup realId = some e ∧ e.Same eff ∧
        (playEffect d sinkId hapticsSourceCustom v magnitude none first second).1.written =
          d.written ++ [⟨sink'.fd, realId, magnitude⟩] := by
  obtain ⟨hfd, hsound⟩ := h.sinks sinkId sink hsink
  have hcontent : customOf d (hapticsSourceCustom, v) = some eff := by
    rw [customOf, if_pos rfl, heff]
  unfold playEffect
  simp only [hsink, if_neg (Int.not_lt.mpr hfd)]
  rcases hslot : sink.slots.lookup (hapticsSourceCustom, v) with _ | realId
  · -- the effect is uploaded
    obtain ⟨src, hsrc, hl⟩ := Option.bind_eq_some_iff.mp heff
    have hup := uploadEffect_of_accepts (hacc (AList.lookup_eq_none.mp hslot)) eff
    have hsame : ∀ c, customOf d (hapticsSourceCustom, v) = some c → eff = c := fun c hc =>
      Option.some.inj (hcontent.symm.trans hc)
    have hstored := sound_stored first second hsound hsame
    rw [Sink.stored, if_neg hup] at hstored
    obtain ⟨hfd', hsound'⟩ := hstored
    obtain ⟨e, he, hs⟩ := hsound'.fresh _ _ _ (AList.lookup_insert _) hcontent
    simp only [hsrc, hl, if_neg hup]
    exact ⟨_, _, e, AList.lookup_insert _, hfd'.symm ▸ hfd, AList.lookup_insert _, he, hs, rfl⟩
  · -- it is in a slot
    obtain ⟨e, he, hs⟩ := hsound.fresh _ _ _ hslot hcontent
    exact ⟨sink, realId, e, AList.lookup_insert _, hfd, hslot, he, hs, rfl⟩

/-- The table that `create` returned plays the effect of its number, with the `value` it has. -/
lemma hapticsPlay_held {d : Dispatcher} {tbl : LuaTable} {n : ℕ} {eff : FfEffect}
    (h : Held tbl n eff d) (sinkId : String) (first second : Answer) :
    hapticsPlay d sinkId tbl first second =
      (playEffect d sinkId hapticsSourceCustom n (getInt tbl "value" 0) none first second).1 := by
  have hsome : hasEffect d hapticsSourceCustom n = true := by
    obtain ⟨src, hsrc, hl⟩ := Option.bind_eq_some_iff.mp h.effect
    simp only [hasEffect, hsrc]
    exact decide_eq_true (Table.mem_of_lookup hl)
  have hpersistent : ¬ (hapticsSourceCustom = "" ∨ (n : ℤ) < 0 ∨
      hasEffect d hapticsSourceCustom n = false) := by
    rw [hsome]
    simp [hapticsSourceCustom]
  simp only [hapticsPlay, h.source, h.id, if_neg hpersistent]

/-- Stopping an effect that is in a slot. -/
lemma stopEffect_slot {d : Dispatcher} {sinkId sourceId : String} {v realId : ℤ} {sink : Sink}
    (hsink : d.sinks.lookup sinkId = some sink) (hfd : 0 ≤ sink.fd)
    (hslot : sink.slots.lookup (sourceId, v) = some realId) :
    (stopEffect d sinkId sourceId v).1.written = d.written ++ [⟨sink.fd, realId, 0⟩] := by
  simp only [stopEffect, hsink, if_neg (Int.not_lt.mpr hfd), hslot]

/-- A created effect starts iff the table has a positive value. -/
lemma starts_iff {d : Dispatcher} {tbl : LuaTable} {n : ℕ} {eff : FfEffect} (hr : Ready d)
    (h : Held tbl n eff d) {sinkId : String} {first second : Answer}
    (hreg : Registered d sinkId tbl first second) :
    Starts d sinkId tbl eff first second ↔ 0 < getInt tbl "value" 0 := by
  obtain ⟨sink, hsink, hacc⟩ := hreg
  rw [h.source, h.id] at hacc
  obtain ⟨sink', realId, e, hsink', hfd, hslot, he, hs, hwritten⟩ :=
    playEffect_persistent hr hsink h.effect hacc (getInt tbl "value" 0)
  have hplay := hapticsPlay_held h sinkId first second
  have hstop : (hapticsStop (hapticsPlay d sinkId tbl first second) sinkId tbl).written =
      d.written ++ [⟨sink'.fd, realId, getInt tbl "value" 0⟩, ⟨sink'.fd, realId, 0⟩] := by
    rw [hapticsStop, h.source, h.id, hplay, stopEffect_slot hsink' hfd hslot, hwritten,
      List.append_assoc]
    rfl
  rw [← hplay] at hsink' hwritten
  constructor
  · rintro ⟨sink₁, realId₁, value, e₁, -, -, -, hpos, hw, -⟩
    have heq := List.append_cancel_left (hwritten.symm.trans hw)
    have hvalue : getInt tbl "value" 0 = value := by
      injection heq with heq
      injection heq
    rw [hvalue]
    exact hpos
  · intro hpos
    exact ⟨sink', realId, _, e, hsink', he, hs, hpos, hwritten, hstop⟩

/-! ## Runs -/

/-- The invariant holds at the start. -/
lemma ready_empty : Ready {} := ⟨by simp, by simp⟩

/-- An effect that a script creates does not touch the other fields of its table. -/
lemma getInt_hapticsCreate (d : Dispatcher) (tbl : LuaTable) {key : String} (hid : key ≠ "id")
    (hsource : key ≠ "source") (default : ℤ) :
    getInt (hapticsCreate d tbl).2 key default = getInt tbl key default := by
  rw [(hapticsCreate_spec d tbl).2.1, getInt, Table.lookup_insert, if_neg hid, Table.lookup_insert,
    if_neg hsource, getInt]

/-- While the numbers fit into `__s16`, a table that `create` returned names its effect after every
run in which no call erases the effect. -/
lemma held_run {tbl : LuaTable} {n : ℕ} {eff : FfEffect} {d : Dispatcher} (h : Held tbl n eff d)
    {cs : List Call} (hcs : ∀ c ∈ cs, c.Legal ∧ ¬ c.Erases tbl)
    (hcount : (cs.foldl callStep d).internalIdCounter ≤ 2 ^ 15) :
    Held tbl n eff (cs.foldl callStep d) := by
  have hinv : Run.Always callStep
      (fun d => d.internalIdCounter ≤ 2 ^ 15 → Held tbl n eff d) d cs := by
    refine Run.always_of_step (C := fun _ c => c.Legal ∧ ¬ c.Erases tbl) (fun d c hd hc hle => ?_)
      (fun _ => h) (Run.eachStep_of_forall hcs _)
    exact (hd ((counter_le_callStep hc.1).trans hle)).callStep hc.1 hc.2 hle
  exact hinv.last hcount

/-- The dispatcher after a run in which a script creates an effect, and the table that `create`
returned. -/
def createdRun (before : List Call) (tbl : LuaTable) (between : List Call) :
    Dispatcher × LuaTable :=
  let (d, tbl) := hapticsCreate (before.foldl callStep {}) tbl
  (between.foldl callStep d, tbl)

/-- **A created effect can be played iff its table has a positive `value`.** For every effect table,
every run of calls of scripts and operations of the devices in which the effect is created and then
not erased, before the numbers of the effects exceed `__s16`, and every registered sink whose device
accepts the upload: playing the table that `create` returned starts the effect, and stopping it then
stops the same one, if and only if the table has a `value` that is positive as an `int`.

**Proof sketch.** The slots of the scripts' effects can be trusted in every state, and the effect
stays in its source. So the table is played as a persistent effect, from its slot or by an upload,
with the `value` of the table. Without one the value is 0, which stops the effect. -/
theorem starts_iff_valued (before between : List Call) (tbl : LuaTable) (sinkId : String)
    (first second : Answer)
    (hbetween : ∀ c ∈ between, c.Legal ∧ ¬ c.Erases (createdRun before tbl between).2)
    (hcount : (createdRun before tbl between).1.internalIdCounter ≤ 2 ^ 15)
    (hreg : Registered (createdRun before tbl between).1 sinkId (createdRun before tbl between).2
      first second) :
    Starts (createdRun before tbl between).1 sinkId (createdRun before tbl between).2
        (luaToFfEffect tbl) first second ↔
      0 < getInt tbl "value" 0 := by
  have hready : ∀ (d : Dispatcher) (cs : List Call), Ready d → Ready (cs.foldl callStep d) :=
    fun d cs hd => (Run.always_of_inv (fun _ c h => h.callStep c) hd cs).last
  have hstart : Ready (before.foldl callStep {}) := hready {} before ready_empty
  have hend : Ready (createdRun before tbl between).1 :=
    hready _ between (hstart.callStep (.create tbl))
  have hlt : (before.foldl callStep {}).internalIdCounter < 2 ^ 15 := by
    have hmono : Run.Always callStep
        (fun d => (before.foldl callStep {}).internalIdCounter + 1 ≤ d.internalIdCounter)
        (hapticsCreate (before.foldl callStep {}) tbl).1 between :=
      Run.always_of_step (C := fun _ c => c.Legal)
        (fun d c hd hc => hd.trans (counter_le_callStep hc)) (hapticsCreate_spec _ tbl).1.ge
        (Run.eachStep_of_forall (fun c hc => (hbetween c hc).1) _)
    exact (hmono.last.trans hcount)
  have hheld := held_run (held_create (before.foldl callStep {}) tbl hlt) hbetween hcount
  have hiff := starts_iff hend hheld hreg
  have hvalue : getInt (createdRun before tbl between).2 "value" 0 = getInt tbl "value" 0 :=
    getInt_hapticsCreate _ tbl (by decide) (by decide) 0
  rw [← hvalue]
  exact hiff

/-- A table with the type of the effect only, as the reference has it. -/
def rumbleTable : LuaTable := (∅ : LuaTable).insert "type" (.str "rumble")

/-- **A created rumble does not start.** The event that `play` writes has the value 0. -/
theorem not_starts_rumble :
    (hapticsPlay (createdRun [.device (.registerSink "pad" 7)] rumbleTable []).1 "pad"
        (createdRun [.device (.registerSink "pad" 7)] rumbleTable []).2 (.stored 0)
        (.stored 0)).written = [⟨7, 0, 0⟩] ∧
      Registered (createdRun [.device (.registerSink "pad" 7)] rumbleTable []).1 "pad"
        (createdRun [.device (.registerSink "pad" 7)] rumbleTable []).2 (.stored 0) (.stored 0) ∧
      ¬ Starts (createdRun [.device (.registerSink "pad" 7)] rumbleTable []).1 "pad"
        (createdRun [.device (.registerSink "pad" 7)] rumbleTable []).2 (luaToFfEffect rumbleTable)
        (.stored 0) (.stored 0) := by
  have hwritten : (hapticsPlay (createdRun [.device (.registerSink "pad" 7)] rumbleTable []).1 "pad"
      (createdRun [.device (.registerSink "pad" 7)] rumbleTable []).2 (.stored 0)
      (.stored 0)).written = [⟨7, 0, 0⟩] := by decide
  refine ⟨hwritten, ⟨{ id := "pad", fd := 7 }, by rfl, fun _ => .inl ⟨0, by simp⟩⟩, ?_⟩
  rintro ⟨sink, realId, value, e, -, -, -, hpos, hw, -⟩
  have hnone : (createdRun [.device (.registerSink "pad" 7)] rumbleTable []).1.written = [] := by
    decide
  rw [hwritten, hnone] at hw
  injection hw with hw
  injection hw with hfd hcode hvalue
  omega

/-- A table with a value starts, and stops. -/
theorem starts_iff_valued_strong :
    Starts (createdRun [.device (.registerSink "pad" 7)] (rumbleTable.insert "value" (.integer 1))
        []).1 "pad" (createdRun [.device (.registerSink "pad" 7)]
        (rumbleTable.insert "value" (.integer 1)) []).2
        (luaToFfEffect (rumbleTable.insert "value" (.integer 1))) (.stored 0) (.stored 0) :=
  (starts_iff_valued _ _ _ _ _ _ (by simp) (by decide)
    ⟨{ id := "pad", fd := 7 }, by rfl, fun _ => .inl ⟨0, by simp⟩⟩).mpr (by decide)

end Aelkey.Haptics
