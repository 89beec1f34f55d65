import Aelkey.Haptics.Virtual

set_option relaxedAutoImplicit false
set_option autoImplicit false

/-!
# Force feedback reaches the real device

A callback that forwards what it gets makes the real device do what the game wants. A play of an
uploaded effect is an event for a real id under which a copy of this effect resides; until the
effect is changed or the device needs its room, a stop is an event for the same real id. A play of
an effect of a type that `rebuild_effect` does not know starts a rumble, and so does one of an id to
which nothing has been uploaded, like the gain of the device.

## Main definitions

* `Aelkey.Haptics.Trusted` — the slots of the sinks can be trusted.
* `Aelkey.Haptics.Heard` — what a forwarded play does.
* `Aelkey.Haptics.Act.Disturbs` — what may give up the slot of an effect.

## Main results

* `Aelkey.Haptics.heard_of_forward` — a forwarded play.
* `Aelkey.Haptics.stopped_of_forward` — a forwarded stop.

## Design

Whether the callback forwards is up to the script. The other callbacks of a run are arbitrary.
-/

namespace Aelkey.Haptics

open SlotCache

/-! ## The slots can be trusted -/

/-- The effects of all sources but the one-shot pseudo source, whose keys are made up. -/
def lastingOf (d : Dispatcher) (key : Key) : Option FfEffect :=
  if key.1 = hapticsSourceOneshot then none else effectOf d key

/-- **The invariant.** Sources are stored under their ids, and the sinks have valid descriptors and
slots in which the effects of the sources can be trusted. -/
structure Trusted (d : Dispatcher) : Prop where
  ids : ∀ id src, d.sources.lookup id = some src → src.id = id
  sinks : ∀ id sink, d.sinks.lookup id = some sink →
    0 ≤ sink.fd ∧ Sound FfEffect.Same (lastingOf d) sink.slots sink.device

/-- The effects after an operation that changes no effect, or lets it disappear. -/
lemma lastingOf_of_effectOf {d d' : Dispatcher} {key : Key}
    (h : effectOf d' key = effectOf d key ∨ effectOf d' key = none) :
    lastingOf d' key = lastingOf d key ∨ lastingOf d' key = none := by
  simp only [lastingOf]
  split_ifs
  · exact .inl rfl
  · exact h

/-- Playing an effect keeps the invariant. -/
lemma Trusted.play {d : Dispatcher} (h : Trusted d) (sinkId sourceId : String)
    (virtId magnitude : ℤ) (maybeEff : Option FfEffect) (first second : Answer) :
    Trusted (playEffect d sinkId sourceId virtId magnitude maybeEff first second).1 := by
  have hlasting : lastingOf (playEffect d sinkId sourceId virtId magnitude maybeEff first second).1 =
      lastingOf d := by
    funext key
    simp only [lastingOf, effectOf, playEffect_sources]
  constructor
  case ids =>
    rw [playEffect_sources]
    exact h.ids
  case sinks =>
    intro id sink hs
    rw [hlasting]
    obtain hkept | ⟨sink₀, key, eff, hsink, hkey, he⟩ :=
      playEffect_sinks d sinkId sourceId virtId magnitude maybeEff first second
    · exact h.sinks id sink ((hkept id).symm.trans hs)
    rw [he, Table.lookup_insert] at hs
    split_ifs at hs
    · obtain ⟨hfd, hsound⟩ := h.sinks sinkId sink₀ hsink
      have hc : ∀ c, lastingOf d key = some c → eff = c := by
        intro c hc
        rw [lastingOf] at hc
        split_ifs at hc with hone
        obtain hkey | hkey := hkey
        · exact absurd hkey hone
        · exact Option.some.inj (hkey.symm.trans hc)
      obtain ⟨hfd', hsound'⟩ := sound_stored first second hsound hc
      rw [← Option.some.inj hs]
      exact ⟨hfd'.symm ▸ hfd, hsound'⟩
    · exact h.sinks id sink hs

/-- What maintains the sinks keeps the invariant. -/
lemma Trusted.maintains {d d' : Dispatcher} (h : Trusted d) (hm : Maintains d d')
    (hids : ∀ id src, d'.sources.lookup id = some src → src.id = id) : Trusted d' := by
  refine ⟨hids, fun id sink hs => ?_⟩
  cases hm with
  | kept sinks effects count =>
    rw [sinks] at hs
    obtain ⟨hfd, hsound⟩ := h.sinks id sink hs
    exact ⟨hfd, hsound.mono fun key => lastingOf_of_effectOf (effects key)⟩
  | plugged id' fd nonneg sinks effects count =>
    rw [sinks, Table.lookup_insert] at hs
    split_ifs at hs
    · rw [← Option.some.inj hs]
      exact ⟨nonneg, sound_empty⟩
    · obtain ⟨hfd, hsound⟩ := h.sinks id sink hs
      exact ⟨hfd, hsound.mono fun key => lastingOf_of_effectOf (.inl (effects key))⟩
  | dropped key sinks effects count =>
    rw [sinks] at hs
    obtain ⟨sink, hs', rfl⟩ := Option.map_eq_some_iff.mp hs
    obtain ⟨hfd, hsound⟩ := h.sinks id sink hs'
    exact ⟨hfd, hsound.dropKey fun key' hne => lastingOf_of_effectOf (.inl (effects key' hne))⟩

/-- Every operation keeps the invariant. -/
lemma Trusted.step {d : Dispatcher} (h : Trusted d) (op : Op) : Trusted (step d op) := by
  by_cases hplay : op.Plays
  · obtain ⟨sinkId, sourceId, virtId, magnitude, maybeEff, first, second, rfl⟩ := hplay.eq_play
    exact h.play sinkId sourceId virtId magnitude maybeEff first second
  · exact h.maintains (maintains_step h.ids hplay) (ids_step h.ids op)

/-! ## Actions are operations -/

/-- The operations that an event of a descriptor, or a callback, consists of. -/
lemma handleEvent_cases (isFunction : String → Bool) (d : Dispatcher) (fd : ℤ) (epollin : Bool)
    (read : Option FfEvent) (req : Request) :
    (handleEvent isFunction d fd epollin read req).1 = d ∨
      ∃ op, (handleEvent isFunction d fd epollin read req).1 = step d op ∧
        (∃ id, sourceAt d fd = some id ∧
          (op = .upload id req.upload req.endOk ∨ op = .eraseRequest id req.erase req.endOk)) := by
  unfold handleEvent
  split_ifs
  · exact .inl rfl
  cases hat : sourceAt d fd with
  | none => exact .inl rfl
  | some id =>
    cases hsrc : d.sources.lookup id with
    | none =>
      simp only [hsrc]
      exact .inl trivial
    | some src =>
      cases read with
      | none =>
        simp only [hsrc]
        exact .inl trivial
      | some ev =>
        simp only [hsrc]
        split_ifs
        · refine .inr ⟨.upload id req.upload req.endOk, ?_, id, rfl, .inl rfl⟩
          simp only [step, hsrc]
        · refine .inr ⟨.eraseRequest id req.erase req.endOk, ?_, id, rfl, .inr rfl⟩
          simp only [step, hsrc]
        all_goals exact .inl rfl

/-- Whatever every operation keeps, every action keeps. -/
lemma actStep_inv {isFunction : String → Bool} {I : Dispatcher → Prop}
    (hI : ∀ d op, I d → I (step d op)) {d : Dispatcher} (h : I d) (a : Act) :
    I (actStep isFunction d a) := by
  have hcall : ∀ d c, I d → I (callStep d c) := by
    intro d c h
    obtain he | ⟨op, he⟩ := callStep_cases d c
    · rw [he]
      exact h
    · rw [he]
      exact hI d op h
  cases a with
  | register id fd callback => exact hI d (.registerSource id fd callback) h
  | sink id fd => exact hI d (.registerSink id fd) h
  | event fd epollin read req reaction =>
    have hevent : I (handleEvent isFunction d fd epollin read req).1 := by
      obtain he | ⟨op, he, -⟩ := handleEvent_cases isFunction d fd epollin read req
      · rw [he]
        exact h
      · rw [he]
        exact hI d op h
    simp only [actStep]
    split
    · exact (Run.always_of_inv hcall hevent _).last
    · exact hevent
  | call c => exact hcall d c h

/-- The slots can be trusted after every run. -/
lemma trusted_run (isFunction : String → Bool) (acts : List Act) :
    Trusted (dispatcherAfter isFunction acts) :=
  (Run.always_of_inv (fun _ a h => actStep_inv (fun _ op h => h.step op) h a)
    (show Trusted {} from ⟨by simp, by simp⟩) acts).last

/-! ## A forwarded play -/

/-- **What is heard.** One event is written to the descriptor `fd`, for a real id under which an
effect like `eff` resides on the device of the sink. -/
def Heard (d d' : Dispatcher) (sinkId : String) (fd realId magnitude : ℤ) (eff : FfEffect) : Prop :=
  ∃ (sink : Sink) (e : FfEffect), d'.sinks.lookup sinkId = some sink ∧ sink.fd = fd ∧
    sink.device.lookup realId = some e ∧ e.Same eff ∧
    d'.written = d.written ++ [⟨fd, realId, magnitude⟩]

/-- The effect has a slot on the sink. -/
def SlotHeld (d : Dispatcher) (sinkId : String) (key : Key) (fd realId : ℤ) : Prop :=
  ∃ sink : Sink, d.sinks.lookup sinkId = some sink ∧ sink.fd = fd ∧
    sink.slots.lookup key = some realId

/-- The effect of a play to which nothing has been uploaded: the table of the play event has no
type that `lua_to_ff_effect` knows. -/
def defaultRumble : FfEffect :=
  { id := -1, length := 250, delay := 250, body := .rumble 0x4000 0x4000 }

/-- What a play of a game should be heard as: the effect that has been uploaded, as `rebuild_effect`
makes it anew, which for a type other than rumble, periodic and constant is a rumble of the default
strength. -/
def Virtual.sound (w : Virtual) (key : Key) : FfEffect :=
  match w.uploaded key with
  | some eff => rebuildEffect eff
  | none => defaultRumble

section Plays

variable {d : Dispatcher} {sinkId : String} {sink : Sink} {first second : Answer}

/-- **Playing an effect of a source**, from its slot or by an upload. -/
lemma Trusted.playPersistent (h : Trusted d) (hsink : d.sinks.lookup sinkId = some sink)
    {sourceId : String} {v : ℤ} (hone : sourceId ≠ hapticsSourceOneshot) {eff : FfEffect}
    (heff : effectOf d (sourceId, v) = some eff)
    (hacc : (sourceId, v) ∉ sink.slots → Accepts sink first second) (magnitude : ℤ) :
    ∃ realId,
      Heard d (playEffect d sinkId sourceId v magnitude none first second).1 sinkId sink.fd realId
          magnitude eff ∧
        SlotHeld (playEffect d sinkId sourceId v magnitude none first second).1 sinkId (sourceId, v)
          sink.fd realId := by
  obtain ⟨hfd, hsound⟩ := h.sinks sinkId sink hsink
  have hcontent : lastingOf d (sourceId, v) = some eff := by
    rw [lastingOf, if_neg hone, heff]
  unfold playEffect
  simp only [hsink, if_neg (Int.not_lt.mpr hfd)]
  rcases hslot : sink.slots.lookup (sourceId, v) with _ | realId
  · -- the effect is uploaded
    obtain ⟨src, hsrc, hl⟩ := Option.bind_eq_some_iff.mp heff
    have hup := uploadEffect_of_accepts (hacc (AList.lookup_eq_none.mp hslot)) eff
    have hsame : ∀ c, lastingOf d (sourceId, v) = some c → eff = c := fun c hc =>
      Option.some.inj (hcontent.symm.trans hc)
    have hstored := sound_stored first second hsound hsame
    rw [Sink.stored, if_neg hup] at hstored
    obtain ⟨hfd', hsound'⟩ := hstored
    obtain ⟨e, he, hs⟩ := hsound'.fresh _ _ _ (AList.lookup_insert _) hcontent
    simp only [hsrc, hl, if_neg hup]
    have hwritten : (uploadEffect sink eff first second).1.fd = sink.fd := hfd'
    refine ⟨_, ⟨_, e, AList.lookup_insert _, hfd', he, hs, ?_⟩, _, AList.lookup_insert _, hfd',
      AList.lookup_insert _⟩
    rw [← hwritten]
    rfl
  · -- it is in a slot
    obtain ⟨e, he, hs⟩ := hsound.fresh _ _ _ hslot hcontent
    exact ⟨realId, ⟨sink, e, AList.lookup_insert _, rfl, he, hs, rfl⟩, sink, AList.lookup_insert _,
      rfl, hslot⟩

/-- **Playing an effect once.** It is uploaded. -/
lemma Trusted.playOneshot (h : Trusted d) (hsink : d.sinks.lookup sinkId = some sink)
    (hacc : Accepts sink first second) (sourceId : String) (v magnitude : ℤ) (eff : FfEffect) :
    ∃ realId, Heard d (playEffect d sinkId sourceId v magnitude (some eff) first second).1 sinkId
      sink.fd realId magnitude eff := by
  obtain ⟨hfd, -⟩ := h.sinks sinkId sink hsink
  have hup := uploadEffect_of_accepts hacc eff
  unfold playEffect
  simp only [hsink, if_neg (Int.not_lt.mpr hfd), if_neg hup]
  obtain ⟨base, hbase, he | ⟨id, hpos, hid, he⟩⟩ := uploadEffect_cases sink eff first second
  · rw [he] at hup
    exact absurd (by decide : (-1 : ℤ) < 0) hup
  have hfd' : base.fd = sink.fd := by
    rcases hbase with rfl | rfl <;> rfl
  rw [he]
  refine ⟨id, ⟨_, _, AList.lookup_insert _, hfd', AList.lookup_insert _, rfl, ?_⟩⟩
  rw [← hfd']
  rfl

end Plays

/-! ### The table of a play -/

section Table

variable (source : String) (v magnitude : ℤ) (effect : Option LuaTable)

/-- The fields that all events have. -/
lemma lookup_ffTable (type key : String) :
    (ffTable source type v).lookup key =
      if key = "id" then some (.integer v)
      else if key = "type" then some (.str type)
      else if key = "source" then some (.str source)
      else none := by
  simp only [ffTable, Table.lookup_insert, AList.lookup_empty]

/-- The fields of the table of a play. -/
lemma lookup_playTable (key : String) :
    (playTable source v magnitude effect).lookup key =
      if key = "effect" ∧ effect.isSome = true then some .other
      else if key = "value" then some (.integer magnitude)
      else (ffTable source "play" v).lookup key := by
  unfold playTable
  cases effect with
  | none => simp only [Option.isSome_none, Bool.false_eq_true, ↓reduceIte, and_false,
      Table.lookup_insert]
  | some t => simp only [Option.isSome_some, ↓reduceIte, and_true, Table.lookup_insert]

/-- What `haptics.play` reads of the table of a play, and the callback before it. -/
lemma playTable_fields :
    getStr (playTable source v magnitude effect) "source" "" = source ∧
      getStr (playTable source v magnitude effect) "type" "" = "play" ∧
      getInt (playTable source v magnitude effect) "id" (-1) = toInt32 v ∧
      getInt (playTable source v magnitude effect) "value" 0 = toInt32 magnitude := by
  simp [getStr, getInt, lookup_playTable, lookup_ffTable]

/-- Played as an effect of its own, the table of a play is a rumble. -/
lemma luaToFfEffect_playTable :
    luaToFfEffect (playTable source v magnitude effect) = defaultRumble := by
  simp [luaToFfEffect, getStr, getInt, lookup_playTable, lookup_ffTable, toUInt16, defaultRumble]

/-- What `haptics.stop` reads of the table of a stop, and the callback before it. -/
lemma ffTable_fields (type : String) :
    getStr (ffTable source type v) "source" "" = source ∧
      getStr (ffTable source type v) "type" "" = type ∧
      getInt (ffTable source type v) "id" (-1) = toInt32 v := by
  simp [getStr, getInt, lookup_ffTable]

end Table

/-! ### The event of a play or a stop -/

/-- The descriptor belongs to the virtual device `id`, whose callback is a function. -/
structure HasCallback (isFunction : String → Bool) (w : Virtual) (fd : ℤ) (id : String) :
    Prop where
  nonneg : 0 ≤ fd
  owner : w.owner fd = some id
  named : w.callback id ≠ ""
  function : isFunction (w.callback id) = true

/-- A game plays an effect, with a positive value, or stops it; the callback forwards this. -/
def forwarded (fd : ℤ) (v : ℕ) (value : ℤ) (sinkId : String) (first second : Answer) : Act :=
  .event fd true (some ⟨evFf, v, value⟩) {} (forward sinkId first second)

/-- An event of type `EV_FF` changes nothing by itself. -/
lemma handleEvent_ff (isFunction : String → Bool) (d : Dispatcher) (fd : ℤ) (v : ℕ) (value : ℤ)
    (req : Request) : (handleEvent isFunction d fd true (some ⟨evFf, v, value⟩) req).1 = d := by
  have htype : ¬ evFf = evUinput := by decide
  unfold handleEvent
  cases hat : sourceAt d fd with
  | none => rfl
  | some id =>
    cases hsrc : d.sources.lookup id with
    | none =>
      simp only [hsrc]
      rfl
    | some src =>
      simp only [hsrc, Bool.true_eq_false, ↓reduceIte, if_neg htype]
      split_ifs <;> rfl

section Events

variable {isFunction : String → Bool} {d : Dispatcher} {w : Virtual} {fd : ℤ} {id : String}

/-- The callback is called for every play and stop. -/
lemma HasCallback.event (h : HasCallback isFunction w fd id) (v : ℕ) (value : ℤ) (req : Request) :
    (w.event isFunction fd true (some ⟨evFf, v, value⟩) req).2 =
      if 0 < value then
        some ⟨w.callback id, playTable id v value
            ((w.uploaded (id, v)).map fun eff => hapticsEffectToLua (rebuildEffect eff)),
          (w.uploaded (id, v)).map fun eff => hapticsEffectToLua (rebuildEffect eff)⟩
      else some ⟨w.callback id, ffTable id "stop" v, none⟩ := by
  have htype : ¬ evFf = evUinput := by decide
  have hcallable : ¬ (w.callback id = "" ∨ isFunction (w.callback id) = false) := by
    rw [h.function]
    simp [h.named]
  simp only [Virtual.event, h.owner, Bool.true_eq_false, ↓reduceIte, if_neg htype,
    Virtual.invocation, if_neg hcallable]

/-- A forwarded play is a call of `haptics.play`, and a forwarded stop one of `haptics.stop`. -/
lemma Follows.actStep_forwarded (h : Follows (d, w)) (hdev : HasCallback isFunction w fd id) (v : ℕ)
    (value : ℤ) (sinkId : String) (first second : Answer) :
    actStep isFunction d (forwarded fd v value sinkId first second) =
      if 0 < value then
        hapticsPlay d sinkId (playTable id v value
          ((w.uploaded (id, v)).map fun eff => hapticsEffectToLua (rebuildEffect eff))) first second
      else hapticsStop d sinkId (ffTable id "stop" v) := by
  have hcall := (h.tracks.event isFunction hdev.nonneg
    (fun he => h.owned fd _ he (.inr (.inl rfl))) true (some ⟨evFf, v, value⟩) {}).2
  rw [hdev.event] at hcall
  simp only [forwarded, actStep, hcall, handleEvent_ff]
  split_ifs
  · have htype := (playTable_fields id v value
      ((w.uploaded (id, v)).map fun eff => hapticsEffectToLua (rebuildEffect eff))).2.1
    simp only [forward, if_pos htype]
    rfl
  · have htype : ¬ getStr (ffTable id "stop" v) "type" "" = "play" := by
      rw [(ffTable_fields id v "stop").2.1]
      decide
    simp only [forward, if_neg htype]
    rfl

end Events

/-! ## Forwarded plays are heard -/

/-- A number of type `__s32` is itself. -/
lemma toInt32_of_range {n : ℤ} (hlo : -2 ^ 31 ≤ n) (hhi : n < 2 ^ 31) : toInt32 n = n := by
  unfold toInt32
  exact Int.bmod_eq_of_le (by omega) (by omega)

/-- Whether there is an effect. -/
lemma hasEffect_eq (d : Dispatcher) (source : String) (v : ℤ) :
    hasEffect d source v = (effectOf d (source, v)).isSome := by
  rw [hasEffect, effectOf, Bool.eq_iff_iff]
  cases d.sources.lookup source with
  | none => simp
  | some src => simp [AList.lookup_isSome]

/-- **A forwarded play**, of a dispatcher that follows the virtual devices: the effect of the game is
heard, and it has a slot if it has been uploaded.

**Proof sketch.** The callback gets the device and the id, and the source of the device has the
effects of the game. So an uploaded effect is played as a persistent one, from its slot, which can
be trusted, or by an upload. The table of any other play is an effect of its own. -/
lemma Follows.heard {isFunction : String → Bool} {d : Dispatcher} {w : Virtual}
    (hfollows : Follows (d, w)) (htrusted : Trusted d) {fd : ℤ} {id : String}
    (hdev : HasCallback isFunction w fd id) {v : ℕ} (hv : v < 2 ^ 16) {value : ℤ}
    (hpos : 0 < value) (hvalue : value < 2 ^ 31) {sinkId : String} {sink : Sink}
    (hsink : d.sinks.lookup sinkId = some sink) {first second : Answer}
    (hacc : w.uploaded (id, v) = none ∨ (id, (v : ℤ)) ∉ sink.slots → Accepts sink first second) :
    ∃ realId,
      Heard d (actStep isFunction d (forwarded fd v value sinkId first second)) sinkId sink.fd
          realId value (w.sound (id, v)) ∧
        (w.uploaded (id, v) ≠ none →
          SlotHeld (actStep isFunction d (forwarded fd v value sinkId first second)) sinkId
            (id, v) sink.fd realId) := by
  obtain ⟨hplain, hcustom, hone⟩ : id ≠ "" ∧ id ≠ hapticsSourceCustom ∧
      id ≠ hapticsSourceOneshot := by
    simpa only [IsReserved, not_or] using hfollows.owned fd id hdev.owner
  have heffect : effectOf d (id, (v : ℤ)) = (w.uploaded (id, v)).map rebuildEffect :=
    hfollows.tracks.effects (id, v) hcustom
  obtain ⟨hsource, -, hid, hmagnitude⟩ := playTable_fields id v value
    ((w.uploaded (id, v)).map fun eff => hapticsEffectToLua (rebuildEffect eff))
  rw [toInt32_of_lt (by omega)] at hid
  rw [toInt32_of_range (by omega) hvalue] at hmagnitude
  have hneg : ¬ ((v : ℤ) < 0) := by omega
  rw [hfollows.actStep_forwarded hdev, if_pos hpos]
  simp only [hapticsPlay, hsource, hid, hmagnitude, hplain, hneg, false_or, hasEffect_eq, heffect]
  cases hup : w.uploaded (id, v) with
  | some eff =>
    rw [hup] at heffect
    have hacc' : (id, (v : ℤ)) ∉ sink.slots → Accepts sink first second := fun h => hacc (.inr h)
    obtain ⟨realId, hheard, hheld⟩ := htrusted.playPersistent hsink hone heffect hacc' value
    refine ⟨realId, ?_, fun _ => hheld⟩
    simp only [Virtual.sound, hup]
    exact hheard
  | none =>
    obtain ⟨realId, hheard⟩ := htrusted.playOneshot hsink (hacc (.inl hup)) id v value
      defaultRumble
    refine ⟨realId, ?_, fun hne => absurd rfl hne⟩
    simp only [Virtual.sound, hup, luaToFfEffect_playTable]
    exact hheard

/-- The dispatcher after two runs. -/
lemma dispatcherAfter_append (isFunction : String → Bool) (as bs : List Act) :
    dispatcherAfter isFunction (as ++ bs) =
      bs.foldl (actStep isFunction) (dispatcherAfter isFunction as) :=
  List.foldl_append

/-- The virtual devices after two runs. -/
lemma virtualAfter_append (isFunction : String → Bool) (as bs : List Act) :
    virtualAfter isFunction (as ++ bs) =
      bs.foldl (virtualStep isFunction) (virtualAfter isFunction as) :=
  List.foldl_append

/-- **Force feedback is heard.** After every run of legal actions, let a game play the effect `v` on
a virtual device whose callback forwards plays to a sink, where an upload that is needed is
accepted. Then one event is written to the sink, with the value of the game, for a real id under
which a copy resides of what `rebuild_effect` makes of the effect that the game has uploaded last:
of the same effect, if it is a rumble, a periodic or a constant one, and of a rumble otherwise, as
where nothing has been uploaded. -/
theorem heard_of_forward (isFunction : String → Bool) (acts : List Act)
    (hacts : LegalRun isFunction acts) (fd : ℤ) (id : String)
    (hdev : HasCallback isFunction (virtualAfter isFunction acts) fd id) (v : ℕ) (hv : v < 2 ^ 16)
    (value : ℤ) (hpos : 0 < value) (hvalue : value < 2 ^ 31) (sinkId : String) (sink : Sink)
    (hsink : (dispatcherAfter isFunction acts).sinks.lookup sinkId = some sink)
    (first second : Answer)
    (hacc : (virtualAfter isFunction acts).uploaded (id, v) = none ∨ (id, (v : ℤ)) ∉ sink.slots →
      Accepts sink first second) :
    ∃ realId, Heard (dispatcherAfter isFunction acts)
      (dispatcherAfter isFunction (acts ++ [forwarded fd v value sinkId first second])) sinkId
      sink.fd realId value ((virtualAfter isFunction acts).sound (id, v)) := by
  obtain ⟨realId, hheard, -⟩ := (follows_run hacts).heard (trusted_run isFunction acts) hdev hv hpos
    hvalue hsink hacc
  rw [dispatcherAfter_append]
  exact ⟨realId, hheard⟩

/-- A game uploads a rumble to a virtual pad; there is a real one. -/
def onePad : List Act :=
  [.register "virt" 7 "f", .sink "pad" 5,
    .event 7 true (some ⟨evUinput, uiFfUpload, 1⟩)
      { upload := some { id := 3, body := .rumble 1 2 } } fun _ => []]

/-- The run is legal. -/
lemma legalRun_onePad : LegalRun (fun _ => true) onePad := by
  simp [LegalRun, onePad, Act.Legal, virtualStep, Virtual.create, IsReserved, hapticsSourceCustom,
    hapticsSourceOneshot]

/-- The virtual pad has a callback. -/
lemma hasCallback_onePad :
    HasCallback (fun _ => true) (virtualAfter (fun _ => true) onePad) 7 "virt" :=
  ⟨by decide, by decide, by decide, rfl⟩

/-- The rumble is heard. -/
theorem heard_of_forward_onePad :
    ∃ realId, Heard (dispatcherAfter (fun _ => true) onePad)
      (dispatcherAfter (fun _ => true) (onePad ++ [forwarded 7 3 1 "pad" (.stored 0) (.stored 0)]))
      "pad" 5 realId 1 ((virtualAfter (fun _ => true) onePad).sound ("virt", (3 : ℕ))) :=
  heard_of_forward _ _ legalRun_onePad 7 "virt" hasCallback_onePad 3 (by decide) 1 (by decide)
    (by decide) "pad" { id := "pad", fd := 5 } rfl (.stored 0) (.stored 0)
    fun _ => .inl ⟨0, by simp⟩

/-! ## Forwarded stops -/

/-- The call may give up the slot of an effect on a sink. -/
def Call.Disturbs (key : Key) (sinkId : String) : Call → Prop
  | .erase tbl => getStr tbl "source" "" = key.1 ∧ getInt tbl "id" (-1) = key.2
  | .play sinkId' _ first _ => sinkId' = sinkId ∧ first = .failed .enospc
  | _ => False

/-- The action may give up the slot of an effect on a sink: the virtual device or the sink is
registered anew, the effect is uploaded again or erased, or the sink has no room for another. -/
def Act.Disturbs (w : Virtual) (key : Key) (sinkId : String) : Act → Prop
  | .register id _ _ => id = key.1
  | .sink id fd => id = sinkId ∧ 0 ≤ fd
  | .event fd _ _ req reaction =>
    w.owner fd = some key.1 ∧
        ((∃ eff, req.upload = some eff ∧ eff.id = key.2) ∨ req.erase = some key.2) ∨
      ∃ inv, ∃ c ∈ reaction inv, c.Disturbs key sinkId
  | .call c => c.Disturbs key sinkId

section Slots

variable {d d' : Dispatcher} {sinkId : String} {key : Key} {fd realId : ℤ}

/-- The slot is there as long as the sinks are. -/
lemma SlotHeld.of_sinks (h : SlotHeld d sinkId key fd realId) (hs : d'.sinks = d.sinks) :
    SlotHeld d' sinkId key fd realId := by
  unfold SlotHeld
  rw [hs]
  exact h

/-- Changing another effect keeps the slot. -/
lemma SlotHeld.propagateErase (h : SlotHeld d sinkId key fd realId) {sourceId : String} {v : ℤ}
    (hne : (sourceId, v) ≠ key) :
    SlotHeld (propagateErase d sourceId v) sinkId key fd realId := by
  obtain ⟨sink, hsink, hfd, hslot⟩ := h
  refine ⟨sink.dropKey (sourceId, v), ?_, hfd, ?_⟩
  · rw [lookup_sinks_propagateErase, hsink]
    rfl
  · rw [Sink.dropKey, Table.lookup_erase, if_neg hne.symm]
    exact hslot

/-- An upload to the sink that is not short of room keeps the slots. -/
lemma uploadEffect_slots (sink : Sink) (eff : FfEffect) {first : Answer} (second : Answer)
    (hfirst : first ≠ .failed .enospc) :
    (uploadEffect sink eff first second).1.slots = sink.slots ∧
      (uploadEffect sink eff first second).1.fd = sink.fd := by
  rcases hc : csff sink.device { eff with id := -1 } first with ⟨device, errno | id⟩
  · cases errno with
    | other => simp only [uploadEffect, hc, and_self]
    | enospc =>
      cases first with
      | stored id =>
        simp only [csff] at hc
        split_ifs at hc <;> simp at hc
      | failed errno =>
        simp only [csff, Prod.mk.injEq, Except.error.injEq] at hc
        exact absurd (by rw [hc.2]) hfirst
  · simp only [uploadEffect, hc, and_self]

/-- Playing effects keeps the slot, unless the sink runs out of room.

**Proof sketch.** A play of the same effect finds the slot; any other one enters a slot under another
key. -/
lemma SlotHeld.play (h : SlotHeld d sinkId key fd realId) (hone : key.1 ≠ hapticsSourceOneshot)
    (sinkId' sourceId : String) (v magnitude : ℤ) (maybeEff : Option FfEffect)
    (first second : Answer) (hdist : ¬ (sinkId' = sinkId ∧ first = .failed .enospc)) :
    SlotHeld (playEffect d sinkId' sourceId v magnitude maybeEff first second).1 sinkId key fd
      realId := by
  obtain ⟨sink, hsink, hfd, hslot⟩ := h
  by_cases hid : sinkId' = sinkId
  · subst hid
    have hfirst : first ≠ .failed .enospc := fun he => hdist ⟨rfl, he⟩
    unfold playEffect
    simp only [hsink]
    split_ifs with hneg
    · exact ⟨sink, hsink, hfd, hslot⟩
    cases maybeEff with
    | none =>
      dsimp only
      split
      · exact ⟨sink, AList.lookup_insert _, hfd, hslot⟩
      · next hnone =>
        split
        · exact ⟨sink, hsink, hfd, hslot⟩
        · split
          · exact ⟨sink, hsink, hfd, hslot⟩
          · next eff _ =>
            obtain ⟨hslots, hfd'⟩ := uploadEffect_slots sink eff second hfirst
            split_ifs
            · exact ⟨_, AList.lookup_insert _, hfd'.trans hfd, hslots ▸ hslot⟩
            · refine ⟨_, AList.lookup_insert _, hfd'.trans hfd, ?_⟩
              have hne : key ≠ (sourceId, v) := by
                rintro rfl
                cases hnone.symm.trans hslot
              rw [Table.lookup_insert, if_neg hne, hslots]
              exact hslot
    | some eff =>
      obtain ⟨hslots, hfd'⟩ := uploadEffect_slots sink eff second hfirst
      dsimp only
      split_ifs
      · exact ⟨_, AList.lookup_insert _, hfd'.trans hfd, hslots ▸ hslot⟩
      · refine ⟨_, AList.lookup_insert _, hfd'.trans hfd, ?_⟩
        have hne : key ≠ (hapticsSourceOneshot, toInt32 d.oneshotCounter) := by
          rintro rfl
          exact hone rfl
        rw [Table.lookup_insert, if_neg hne, hslots]
        exact hslot
  · refine ⟨sink, ?_, hfd, hslot⟩
    obtain hkept | ⟨sink', key', eff, -, -, he⟩ :=
      playEffect_sinks d sinkId' sourceId v magnitude maybeEff first second
    · exact (hkept sinkId).trans hsink
    · rw [he, Table.lookup_insert, if_neg fun he => hid he.symm]
      exact hsink

/-- Calls of scripts keep the slot, unless they disturb it. -/
lemma SlotHeld.call (h : SlotHeld d sinkId key fd realId) (hkey : ¬ IsReserved key.1) {c : Call}
    (hc : c.IsScript) (hdist : ¬ c.Disturbs key sinkId) :
    SlotHeld (callStep d c) sinkId key fd realId := by
  obtain ⟨-, hcustom, hone⟩ : key.1 ≠ "" ∧ key.1 ≠ hapticsSourceCustom ∧
      key.1 ≠ hapticsSourceOneshot := by
    simpa only [IsReserved, not_or] using hkey
  cases c with
  | create tbl =>
    obtain ⟨-, hsinks, -, -, -⟩ := ensureSource_spec d hapticsSourceCustom
    obtain ⟨eff, src, n, -, -, he⟩ :=
      createPersistentEffect_spec d hapticsSourceCustom (luaToFfEffect tbl)
    have hensured : SlotHeld { ensureSource d hapticsSourceCustom with internalIdCounter := n }
        sinkId key fd realId := h.of_sinks hsinks
    have hne : (hapticsSourceCustom, eff.id) ≠ key := fun he => hcustom (congrArg Prod.fst he).symm
    rw [callStep, hapticsCreate, he]
    exact (hensured.propagateErase hne).of_sinks rfl
  | erase tbl =>
    simp only [callStep, hapticsErase, erasePersistentEffect]
    split_ifs
    · split
      · have hne : (getStr tbl "source" "", getInt tbl "id" (-1)) ≠ key := by
          rintro rfl
          exact hdist ⟨rfl, rfl⟩
        exact (h.propagateErase hne).of_sinks rfl
      · exact h
    · exact h
  | play sinkId' ev first second => exact h.play hone _ _ _ _ _ _ _ hdist
  | stop sinkId' ev =>
    refine h.of_sinks ?_
    simp only [callStep, hapticsStop, stopEffect]
    repeat' split
    all_goals rfl
  | device op => exact hc.elim

/-- Requests of games keep the slot, unless they are about its effect. -/
lemma SlotHeld.request (h : SlotHeld d sinkId key fd realId)
    (hids : ∀ id src, d.sources.lookup id = some src → src.id = id) (id : String) (req : Request)
    (hdist : ¬ (id = key.1 ∧
      ((∃ eff, req.upload = some eff ∧ eff.id = key.2) ∨ req.erase = some key.2))) :
    SlotHeld (step d (.upload id req.upload req.endOk)) sinkId key fd realId ∧
      SlotHeld (step d (.eraseRequest id req.erase req.endOk)) sinkId key fd realId := by
  simp only [step]
  cases hsrc : d.sources.lookup id with
  | none => exact ⟨h, h⟩
  | some src =>
    have hid := hids id src hsrc
    simp only [handleUpload, handleErase, hid]
    constructor
    · split
      · exact h
      · next eff heff =>
        split_ifs
        · have hne : (id, eff.id) ≠ key := by
            rintro rfl
            exact hdist ⟨rfl, .inl ⟨eff, heff, rfl⟩⟩
          exact SlotHeld.propagateErase (h.of_sinks rfl) hne
        · exact h
    · split
      · exact h
      · next v hv =>
        have hne : (id, v) ≠ key := by
          rintro rfl
          exact hdist ⟨rfl, .inr hv⟩
        exact SlotHeld.propagateErase (h.of_sinks rfl) hne

end Slots

/-- **An effect that is playing can be stopped**: the dispatcher follows the virtual devices, the
effect has its slot, and its device has its descriptor and its callback. -/
structure Stoppable (sinkId : String) (key : Key) (fd realId devFd : ℤ) (callback : String)
    (p : Dispatcher × Virtual) : Prop where
  follows : Follows p
  trusted : Trusted p.1
  held : SlotHeld p.1 sinkId key fd realId
  owner : p.2.owner devFd = some key.1
  callback : p.2.callback key.1 = callback

/-- Actions that do not disturb the effect keep it so. -/
lemma Stoppable.step {isFunction : String → Bool} {sinkId : String} {key : Key}
    {fd realId devFd : ℤ} {callback : String} {p : Dispatcher × Virtual}
    (h : Stoppable sinkId key fd realId devFd callback p) {a : Act}
    (ha : a.Legal p.2 ∧ ¬ a.Disturbs p.2 key sinkId) :
    Stoppable sinkId key fd realId devFd callback (bothStep isFunction p a) := by
  obtain ⟨hlegal, hdist⟩ := ha
  have hkey : ¬ IsReserved key.1 := h.follows.owned devFd key.1 h.owner
  have htrusted : Trusted (bothStep isFunction p a).1 :=
    actStep_inv (fun _ op hd => hd.step op) h.trusted a
  have hframe : (virtualStep isFunction p.2 a).owner devFd = some key.1 ∧
      (virtualStep isFunction p.2 a).callback key.1 = callback := by
    by_cases hreg : ∃ id fd callback, a = .register id fd callback
    · obtain ⟨id, fd', callback', rfl⟩ := hreg
      obtain ⟨-, -, hfree⟩ := hlegal
      have hne : key.1 ≠ id := fun he => hdist he.symm
      have hfd : devFd ≠ fd' := by
        rintro rfl
        exact hne (hfree _ h.owner)
      have howner : ¬ p.2.owner devFd = some id := by
        rw [h.owner]
        exact fun he => hne (Option.some.inj he)
      simp only [virtualStep, Virtual.create, if_neg hne, if_neg hfd, if_neg howner]
      exact ⟨h.owner, h.callback⟩
    · have hsame := frame_step isFunction p.2 fun id fd callback he => hreg ⟨id, fd, callback, he⟩
      rw [hsame.1, hsame.2]
      exact ⟨h.owner, h.callback⟩
  refine ⟨h.follows.step hlegal, htrusted, ?_, hframe.1, hframe.2⟩
  cases a with
  | register id fd' callback' => exact h.held.of_sinks rfl
  | sink id fd' =>
    obtain ⟨sink, hsink, hfd, hslot⟩ := h.held
    refine ⟨sink, ?_, hfd, hslot⟩
    simp only [bothStep, actStep, registerSink]
    split_ifs with hneg
    · exact hsink
    · have hne : sinkId ≠ id := fun he => hdist ⟨he.symm, Int.not_lt.mp hneg⟩
      rw [Table.lookup_insert, if_neg hne]
      exact hsink
  | event fd' epollin read req reaction =>
    obtain ⟨hpos, hscript⟩ := hlegal
    obtain ⟨hrequest, hreaction⟩ := not_or.mp hdist
    have hevent : SlotHeld (handleEvent isFunction p.1 fd' epollin read req).1 sinkId key fd
        realId := by
      obtain he | ⟨op, he, id, hat, hop⟩ := handleEvent_cases isFunction p.1 fd' epollin read req
      · rw [he]
        exact h.held
      · rw [h.follows.tracks.sourceAt_eq hpos] at hat
        obtain ⟨hupload, herase⟩ := h.held.request h.trusted.ids id req
          fun hd => hrequest ⟨hd.1 ▸ hat, hd.2⟩
        rw [he]
        rcases hop with rfl | rfl
        · exact hupload
        · exact herase
    simp only [bothStep, actStep]
    split
    · next inv _ =>
      have hcalls : Run.EachStep callStep
          (fun _ c => c.IsScript ∧ ¬ c.Disturbs key sinkId)
          (handleEvent isFunction p.1 fd' epollin read req).1 (reaction inv) :=
        Run.eachStep_of_forall (fun c hc => ⟨hscript inv c hc, fun hd =>
          hreaction ⟨inv, c, hc, hd⟩⟩) _
      exact (Run.always_of_step (I := fun d => SlotHeld d sinkId key fd realId)
        (fun _ c hd hc => hd.call hkey hc.1 hc.2) hevent hcalls).last
    · exact hevent
  | call c => exact h.held.call hkey hlegal hdist

/-- **Force feedback can be stopped.** Let a game play an effect that it has uploaded, as above, and
later stop it, after any legal run that does not disturb the effect: the effect is not uploaded
again or erased, neither device is registered anew, and the sink does not run out of room. If the
callback forwards both to the sink, the stop writes one event, with the value 0, for the real id
that is playing the effect.

**Proof sketch.** After the play the effect has a slot with the real id. What does not disturb it
keeps the slot, the descriptor and the callback, so the stop finds all three. -/
theorem stopped_of_forward (isFunction : String → Bool) (acts between : List Act)
    (fd : ℤ) (id : String) (v : ℕ) (eff : FfEffect) (value : ℤ) (sinkId : String) (sink : Sink)
    (first second : Answer)
    (hrun : LegalRun isFunction (acts ++ [forwarded fd v value sinkId first second] ++ between))
    (hdev : HasCallback isFunction (virtualAfter isFunction acts) fd id)
    (hup : (virtualAfter isFunction acts).uploaded (id, v) = some eff) (hv : v < 2 ^ 16)
    (hpos : 0 < value) (hvalue : value < 2 ^ 31)
    (hsink : (dispatcherAfter isFunction acts).sinks.lookup sinkId = some sink)
    (hacc : (id, (v : ℤ)) ∉ sink.slots → Accepts sink first second)
    (hbetween : Run.EachStep (virtualStep isFunction) (fun w a => ¬ a.Disturbs w (id, v) sinkId)
      (virtualAfter isFunction (acts ++ [forwarded fd v value sinkId first second])) between)
    (stop : ℤ) (hstop : stop ≤ 0) (first' second' : Answer) :
    ∃ realId,
      Heard (dispatcherAfter isFunction acts)
          (dispatcherAfter isFunction (acts ++ [forwarded fd v value sinkId first second])) sinkId
          sink.fd realId value (rebuildEffect eff) ∧
        (dispatcherAfter isFunction (acts ++ [forwarded fd v value sinkId first second] ++ between ++
            [forwarded fd v stop sinkId first' second'])).written =
          (dispatcherAfter isFunction
              (acts ++ [forwarded fd v value sinkId first second] ++ between)).written ++
            [⟨sink.fd, realId, 0⟩] := by
  obtain ⟨hplay, hrest⟩ := Run.eachStep_append.mp hrun
  obtain ⟨hacts, -⟩ := Run.eachStep_append.mp hplay
  obtain ⟨realId, hheard, hheld⟩ := (follows_run hacts).heard (trusted_run isFunction acts) hdev hv
    hpos hvalue hsink fun h => hacc (h.resolve_left (by rw [hup]; simp))
  rw [Virtual.sound, hup] at hheard
  have hframe := frame_step isFunction (virtualAfter isFunction acts)
    (a := forwarded fd v value sinkId first second) fun _ _ _ he => by cases he
  have hplayed : Stoppable sinkId (id, v) sink.fd realId fd
      ((virtualAfter isFunction acts).callback id)
      (dispatcherAfter isFunction (acts ++ [forwarded fd v value sinkId first second]),
        virtualAfter isFunction (acts ++ [forwarded fd v value sinkId first second])) := by
    refine ⟨follows_run hplay, trusted_run _ _, ?_, ?_, ?_⟩
    · rw [dispatcherAfter_append]
      exact hheld (by rw [hup]; simp)
    · rw [virtualAfter_append]
      exact (congrFun hframe.1 fd).trans hdev.owner
    · rw [virtualAfter_append]
      exact congrFun hframe.2 id
  have hlast := (Run.always_of_step (fun _ _ h ha => h.step ha) hplayed
    (eachStep_bothStep.mpr (Run.eachStep_and.mpr ⟨hrest, hbetween⟩))).last
  rw [foldl_bothStep, ← dispatcherAfter_append, ← virtualAfter_append] at hlast
  obtain ⟨hfollows, htrusted, ⟨sink', hsink', hfd', hslot⟩, howner, hcallback⟩ := hlast
  have hdev' : HasCallback isFunction (virtualAfter isFunction
      (acts ++ [forwarded fd v value sinkId first second] ++ between)) fd id :=
    ⟨hdev.nonneg, howner, hcallback ▸ hdev.named, hcallback ▸ hdev.function⟩
  refine ⟨realId, ?_, ?_⟩
  · rw [dispatcherAfter_append]
    exact hheard
  · obtain ⟨hsource, -, hid⟩ := ffTable_fields id v "stop"
    rw [toInt32_of_lt (by omega)] at hid
    rw [dispatcherAfter_append _ (acts ++ _ ++ between), List.foldl_cons, List.foldl_nil,
      hfollows.actStep_forwarded hdev', if_neg (Int.not_lt.mpr hstop), hapticsStop, hsource, hid,
      stopEffect_slot hsink' (htrusted.sinks sinkId sink' hsink').1 hslot, hfd']

/-- The rumble is stopped, after the game has set the gain. -/
theorem stopped_of_forward_onePad :
    ∃ realId,
      Heard (dispatcherAfter (fun _ => true) onePad)
          (dispatcherAfter (fun _ => true)
            (onePad ++ [forwarded 7 3 1 "pad" (.stored 0) (.stored 0)])) "pad" 5 realId 1
          (rebuildEffect { id := 3, body := .rumble 1 2 }) ∧
        (dispatcherAfter (fun _ => true) (onePad ++ [forwarded 7 3 1 "pad" (.stored 0) (.stored 0)] ++
            [forwarded 7 0x60 9 "pad" (.stored 1) (.stored 1)] ++
            [forwarded 7 3 0 "pad" (.stored 0) (.stored 0)])).written =
          (dispatcherAfter (fun _ => true)
              (onePad ++ [forwarded 7 3 1 "pad" (.stored 0) (.stored 0)] ++
                [forwarded 7 0x60 9 "pad" (.stored 1) (.stored 1)])).written ++
            [⟨5, realId, 0⟩] := by
  have hscript : ∀ v value sinkId first second (w : Virtual),
      (forwarded 7 v value sinkId first second).Legal w := by
    intro v value sinkId first second w
    refine ⟨by decide, fun inv c hc => ?_⟩
    rw [forward] at hc
    split_ifs at hc <;> rw [List.mem_singleton.mp hc] <;> trivial
  refine stopped_of_forward _ onePad [forwarded 7 0x60 9 "pad" (.stored 1) (.stored 1)] 7 "virt" 3 _ 1
    "pad" { id := "pad", fd := 5 } (.stored 0) (.stored 0) ?_ hasCallback_onePad rfl (by decide)
    (by decide) (by decide) rfl (fun _ => .inl ⟨0, by simp⟩) ?_ 0 (by decide) _ _
  · exact Run.eachStep_append.mpr ⟨Run.eachStep_append.mpr
      ⟨legalRun_onePad, hscript _ _ _ _ _ _, trivial⟩, hscript _ _ _ _ _ _, trivial⟩
  · refine ⟨?_, trivial⟩
    rintro (⟨-, ⟨eff, he, -⟩ | he⟩ | ⟨inv, c, hc, hd⟩)
    · cases he
    · cases he
    · rw [forward] at hc
      split_ifs at hc <;> rw [List.mem_singleton.mp hc] at hd
      · obtain ⟨-, hfirst⟩ := hd
        cases hfirst
      · exact hd

end Aelkey.Haptics
