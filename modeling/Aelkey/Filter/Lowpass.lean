import Aelkey.Lib.Table
import Aelkey.Lib.Ema
import Aelkey.Lib.Run

set_option relaxedAutoImplicit false
set_option autoImplicit false

/-!
# Low-pass and high-pass filters

The first part of `aelkey_filter.lua`: two low-pass filters with a state for each id, and high-pass
filters that subtract what a low-pass filter lets through. `lowpass_ema2` is called a smoother with
two poles, and keeps its last two outputs. The older one of them never enters an output, so that the
filter is the one of `lowpass_ema`.

## Main definitions

* `Aelkey.Filter.Filters` — the tables of the module.
* `Aelkey.Filter.lowpassEma`, `Aelkey.Filter.lowpassEma2` — the low-pass filters.
* `Aelkey.Filter.highpassConfigure`, `Aelkey.Filter.highpass` — the high-pass filters.
* `Aelkey.Filter.Call`, `Aelkey.Filter.call` — a call of the module.
* `Aelkey.Filter.inputs`, `Aelkey.Filter.outputs` — what goes through the filter of an id.
* `Aelkey.Filter.TwoPole` — the outputs are those of two stages in a row.

## Main results

* `Aelkey.Filter.outputs_eq_stage` — either low-pass filter is one stage.
* `Aelkey.Filter.twoPole_iff` — when one stage is as good as two.

## Design

Numbers are rational, and ids are strings, as `highpass_configure` asks. An argument that is not of
the type that a function asserts is `none`. A low-pass function that is not one of the module is
called with an id of its own; what it answers is part of the call of `highpass`, and if it calls the
module itself then these calls stand before the call of `highpass`.
-/

namespace Aelkey.Filter

open Ema

/-! ## The module -/

/-- The low-pass filters of the module. -/
inductive Pass
  | ema
  | ema2
deriving DecidableEq

/-- A low-pass function: one of the module, or one of the script. -/
inductive LpFn
  | lowpass (pass : Pass)
  | script
deriving DecidableEq

/-- An entry of `hp_config`. -/
structure HpConfig where
  lpFn : LpFn
  lpParam : Option ℚ
  lpId : String

/-- The tables of the module. -/
structure Filters where
  stateEma : Table String ℚ := ∅
  stateEma2 : Table String (ℚ × ℚ) := ∅
  hpConfig : Table String HpConfig := ∅

/-- The way in which a call ends: with an error, with `nil`, with a number, or with a state of
`lowpass_ema2`. -/
inductive Outcome
  | raised (err : String)
  | nil
  | value (v : ℚ)
  | pair (s : ℚ × ℚ)
deriving DecidableEq

/-- The way in which a function that computes a number ends. -/
def Outcome.ofResult : Except String ℚ → Outcome
  | .ok v => .value v
  | .error err => .raised err

/-- `reset`. -/
def reset (m : Filters) (id : String) : Filters :=
  { m with stateEma := m.stateEma.erase id, stateEma2 := m.stateEma2.erase id }

/-- `reset_all`. -/
def resetAll (m : Filters) : Filters := { m with stateEma := ∅, stateEma2 := ∅ }

/-- `get`. -/
def get (m : Filters) (id : String) : Outcome :=
  match m.stateEma.lookup id, m.stateEma2.lookup id with
  | some prev, _ => .value prev
  | none, some s => .pair s
  | none, none => .nil

/-- `lowpass_ema`. -/
def lowpassEma (m : Filters) (id : String) (new : ℚ) (alpha : Option ℚ) :
    Filters × Except String ℚ :=
  match alpha with
  | none => (m, .error "lowpass_ema: alpha must be a number")
  | some alpha =>
    match m.stateEma.lookup id with
    | none => ({ m with stateEma := m.stateEma.insert id new }, .ok new)
    | some prev =>
      let out := prev + alpha * (new - prev)
      ({ m with stateEma := m.stateEma.insert id out }, .ok out)

/-- `lowpass_ema2`. -/
def lowpassEma2 (m : Filters) (id : String) (new : ℚ) (alpha : Option ℚ) :
    Filters × Except String ℚ :=
  match alpha with
  | none => (m, .error "lowpass_ema2: alpha must be a number")
  | some alpha =>
    match m.stateEma2.lookup id with
    | none => ({ m with stateEma2 := m.stateEma2.insert id (new, new) }, .ok new)
    | some (prev1, _) =>
      let out := prev1 + alpha * (new - prev1)
      ({ m with stateEma2 := m.stateEma2.insert id (out, prev1) }, .ok out)

/-- The low-pass functions of the module. -/
def lowpass : Pass → Filters → String → ℚ → Option ℚ → Filters × Except String ℚ
  | .ema => lowpassEma
  | .ema2 => lowpassEma2

/-- `lp_id`, the id under which a high-pass filter keeps the state of its low-pass filter. -/
def hpLpId (id : String) : String := "_aelkey_hp_" ++ id

/-- The argument of `highpass_configure`. -/
structure HpArgs where
  id : Option String
  lpFn : Option LpFn
  lpParam : Option ℚ

/-- `highpass_configure`. -/
def highpassConfigure (m : Filters) (cfg : HpArgs) : Filters × Outcome :=
  match cfg.id, cfg.lpFn with
  | none, _ => (m, .raised "highpass_configure: id must be a string")
  | some _, none => (m, .raised "highpass_configure: lp_fn must be a function")
  | some id, some lpFn =>
    let m := reset m (hpLpId id)
    let entry : HpConfig := { lpFn := lpFn, lpParam := cfg.lpParam, lpId := hpLpId id }
    ({ m with hpConfig := m.hpConfig.insert id entry }, .nil)

/-- `highpass`. A low-pass function of the script gives the `answer`. -/
def highpass (m : Filters) (id : String) (new : ℚ) (answer : Except String ℚ) :
    Filters × Outcome :=
  match m.hpConfig.lookup id with
  | none => (m, .value new)
  | some cfg =>
    let (m, low) := match cfg.lpFn with
      | .lowpass pass => lowpass pass m cfg.lpId new cfg.lpParam
      | .script => (m, answer)
    (m, .ofResult (low.map (new - ·)))

/-- A call of the module. -/
inductive Call
  | reset (id : String)
  | resetAll
  | get (id : String)
  | lowpass (pass : Pass) (id : String) (new : ℚ) (alpha : Option ℚ)
  | highpassConfigure (cfg : HpArgs)
  | highpass (id : String) (new : ℚ) (answer : Except String ℚ)

/-- One call. -/
def call (m : Filters) : Call → Filters × Outcome
  | .reset id => (reset m id, .nil)
  | .resetAll => (resetAll m, .nil)
  | .get id => (m, get m id)
  | .lowpass pass id new alpha =>
    let (m, out) := lowpass pass m id new alpha
    (m, .ofResult out)
  | .highpassConfigure cfg => highpassConfigure m cfg
  | .highpass id new answer => highpass m id new answer

/-- The tables after a number of calls. -/
def run (m : Filters) (calls : List Call) : Filters := calls.foldl (fun m c => (call m c).1) m

/-! ## The last output of an id -/

/-- The last output of a low-pass filter. -/
def Filters.lastOutput (m : Filters) : Pass → String → Option ℚ
  | .ema, id => m.stateEma.lookup id
  | .ema2, id => (m.stateEma2.lookup id).map (·.1)

/-- A reset forgets the last output, and no other. -/
lemma lastOutput_reset (m : Filters) (pass : Pass) (id i : String) :
    (reset m i).lastOutput pass id = if id = i then none else m.lastOutput pass id := by
  cases pass with
  | ema => exact Table.lookup_erase m.stateEma i id
  | ema2 =>
    show ((m.stateEma2.erase i).lookup id).map (·.1) = _
    rw [Table.lookup_erase]
    split_ifs <;> rfl

/-- **One output of a low-pass filter.** Both smooth their own last output. -/
lemma lowpass_spec (pass : Pass) (m : Filters) (id : String) (new alpha : ℚ) :
    (lowpass pass m id new (some alpha)).2 = .ok (smooth alpha (m.lastOutput pass id) new) ∧
      (lowpass pass m id new (some alpha)).1.lastOutput pass id =
        some (smooth alpha (m.lastOutput pass id) new) := by
  cases pass with
  | ema =>
    simp only [lowpass, lowpassEma, Filters.lastOutput]
    cases m.stateEma.lookup id with
    | none => exact ⟨rfl, AList.lookup_insert _⟩
    | some prev => exact ⟨rfl, AList.lookup_insert _⟩
  | ema2 =>
    simp only [lowpass, lowpassEma2, Filters.lastOutput]
    cases m.stateEma2.lookup id with
    | none =>
      refine ⟨rfl, ?_⟩
      dsimp only
      rw [AList.lookup_insert]
      rfl
    | some s =>
      refine ⟨rfl, ?_⟩
      dsimp only
      rw [AList.lookup_insert]
      rfl

/-- A low-pass filter leaves the last outputs of the other ids alone. -/
lemma lastOutput_lowpass_of_ne {id i : String} (hne : id ≠ i) (pass pass' : Pass) (m : Filters)
    (new : ℚ) (alpha : Option ℚ) :
    (lowpass pass' m i new alpha).1.lastOutput pass id = m.lastOutput pass id := by
  cases alpha with
  | none => cases pass' <;> rfl
  | some alpha =>
    cases pass' with
    | ema =>
      simp only [lowpass, lowpassEma]
      cases m.stateEma.lookup i <;> cases pass <;>
        simp only [Filters.lastOutput, AList.lookup_insert_ne hne]
    | ema2 =>
      simp only [lowpass, lowpassEma2]
      cases m.stateEma2.lookup i <;> cases pass <;>
        simp only [Filters.lastOutput, AList.lookup_insert_ne hne]

/-! ## The configurations -/

/-- A high-pass filter keeps the state of its low-pass filter under an id of its own. -/
def Filters.Inv (m : Filters) : Prop :=
  ∀ id cfg, m.hpConfig.lookup id = some cfg → cfg.lpId = hpLpId id

/-- A low-pass filter does not change the configurations. -/
lemma hpConfig_lowpass (pass : Pass) (m : Filters) (id : String) (new : ℚ) (alpha : Option ℚ) :
    (lowpass pass m id new alpha).1.hpConfig = m.hpConfig := by
  cases alpha with
  | none => cases pass <;> rfl
  | some alpha =>
    cases pass with
    | ema =>
      simp only [lowpass, lowpassEma]
      cases m.stateEma.lookup id <;> rfl
    | ema2 =>
      simp only [lowpass, lowpassEma2]
      cases m.stateEma2.lookup id <;> rfl

/-- A high-pass filter does not change the configurations. -/
lemma hpConfig_highpass (m : Filters) (id : String) (new : ℚ) (answer : Except String ℚ) :
    (highpass m id new answer).1.hpConfig = m.hpConfig := by
  unfold highpass
  cases m.hpConfig.lookup id with
  | none => rfl
  | some cfg =>
    obtain ⟨lpFn, lpParam, lpId⟩ := cfg
    cases lpFn with
    | lowpass pass => exact hpConfig_lowpass pass m lpId new lpParam
    | script => rfl

/-- The module starts without configurations. -/
lemma inv_start : ({} : Filters).Inv := by
  intro id cfg h
  cases h

/-- The invariant is about the configurations. -/
lemma Filters.Inv.of_hpConfig {m m' : Filters} (hm : m.Inv) (h : m'.hpConfig = m.hpConfig) :
    m'.Inv := by
  intro id cfg hcfg
  rw [h] at hcfg
  exact hm id cfg hcfg

/-- A new configuration has the id of its own. -/
lemma Filters.Inv.highpassConfigure {m : Filters} (hm : m.Inv) (cfg : HpArgs) :
    (highpassConfigure m cfg).1.Inv := by
  obtain ⟨id?, lpFn?, lpParam⟩ := cfg
  cases id? with
  | none => exact hm
  | some id =>
    cases lpFn? with
    | none => exact hm
    | some lpFn =>
      intro i entry h
      simp only [Filter.highpassConfigure, Table.lookup_insert] at h
      split_ifs at h with hi
      · obtain rfl := Option.some.inj h
        exact congrArg hpLpId hi.symm
      · exact hm i entry h

/-- A call keeps the invariant. -/
lemma Filters.Inv.call {m : Filters} (hm : m.Inv) (c : Call) : (call m c).1.Inv := by
  cases c with
  | reset id => exact hm
  | resetAll => exact hm
  | get id => exact hm
  | lowpass pass id new alpha => exact hm.of_hpConfig (hpConfig_lowpass pass m id new alpha)
  | highpassConfigure cfg => exact hm.highpassConfigure cfg
  | highpass id new answer => exact hm.of_hpConfig (hpConfig_highpass m id new answer)

/-! ## The calls on an id -/

/-- The call may use or change the state of a low-pass filter of `id`. A high-pass filter does so
under the id of its own low-pass filter. -/
def Call.On (id : String) : Call → Prop
  | .reset i => i = id
  | .resetAll => True
  | .get _ => False
  | .lowpass _ i _ _ => i = id
  | .highpassConfigure cfg => cfg.id.map hpLpId = some id
  | .highpass i _ _ => hpLpId i = id

/-- A call that is not on an id leaves its last outputs alone. -/
lemma lastOutput_call_of_not_on {m : Filters} (hm : m.Inv) {id : String} {c : Call}
    (hc : ¬ c.On id) (pass : Pass) : (call m c).1.lastOutput pass id = m.lastOutput pass id := by
  cases c with
  | reset i => exact (lastOutput_reset m pass id i).trans (if_neg (Ne.symm hc))
  | resetAll => exact absurd trivial hc
  | get i => rfl
  | lowpass pass' i new alpha => exact lastOutput_lowpass_of_ne (Ne.symm hc) pass pass' m new alpha
  | highpassConfigure cfg =>
    obtain ⟨i?, lpFn?, lpParam⟩ := cfg
    cases i? with
    | none => rfl
    | some i =>
      cases lpFn? with
      | none => rfl
      | some lpFn =>
        have hne : id ≠ hpLpId i := fun h => hc (congrArg some h.symm)
        exact (lastOutput_reset m pass id (hpLpId i)).trans (if_neg hne)
  | highpass i new answer =>
    show (highpass m i new answer).1.lastOutput pass id = _
    unfold highpass
    cases hcfg : m.hpConfig.lookup i with
    | none => rfl
    | some cfg =>
      have hlp : cfg.lpId = hpLpId i := hm i cfg hcfg
      obtain ⟨lpFn, lpParam, lpId⟩ := cfg
      cases lpFn with
      | lowpass pass' =>
        have hne : id ≠ lpId := fun h => hc (hlp.symm.trans h.symm)
        exact lastOutput_lowpass_of_ne hne pass pass' m new lpParam
      | script => rfl

/-- The calls that are considered: those that feed a low-pass filter of an id with a fixed `alpha`,
and those on other ids. -/
def Call.Fits (pass : Pass) (id : String) (alpha : ℚ) (c : Call) : Prop :=
  (∃ new, c = .lowpass pass id new (some alpha)) ∨ ¬ c.On id

/-- The input of a call that feeds the low-pass filter of an id. -/
def Call.input? (pass : Pass) (id : String) : Call → Option ℚ
  | .lowpass p i new _ => if p = pass ∧ i = id then some new else none
  | _ => none

/-- The inputs of the low-pass filter of an id. -/
def inputs (pass : Pass) (id : String) (calls : List Call) : List ℚ :=
  calls.filterMap (·.input? pass id)

/-- What the calls return that feed the low-pass filter of an id. -/
def outputs (pass : Pass) (id : String) : Filters → List Call → List Outcome
  | _, [] => []
  | m, c :: cs =>
    let (m, out) := call m c
    if (c.input? pass id).isSome then out :: outputs pass id m cs else outputs pass id m cs

/-- A call that is not on an id does not feed it. -/
lemma Call.input?_of_not_on {id : String} {c : Call} (hc : ¬ c.On id) (pass : Pass) :
    c.input? pass id = none := by
  cases c with
  | lowpass p i new alpha => exact if_neg fun h => hc h.2
  | reset | resetAll | get | highpassConfigure | highpass => rfl

/-- **Either low-pass filter is one stage**, whatever is called for other ids in between. -/
lemma outputs_eq_stageFrom {pass : Pass} {id : String} {alpha : ℚ} {calls : List Call}
    (hcalls : ∀ c ∈ calls, c.Fits pass id alpha) {m : Filters} (hm : m.Inv) :
    outputs pass id m calls =
      (stageFrom alpha (m.lastOutput pass id) (inputs pass id calls)).map .value := by
  induction calls generalizing m with
  | nil => rfl
  | cons c cs ih =>
    obtain ⟨hc, hcs⟩ := List.forall_mem_cons.mp hcalls
    have ih := ih hcs (hm.call c)
    obtain ⟨new, rfl⟩ | hc := hc
    · obtain ⟨hout, hlast⟩ := lowpass_spec pass m id new alpha
      have hinput : (Call.lowpass pass id new (some alpha)).input? pass id = some new :=
        if_pos ⟨rfl, rfl⟩
      have hcall : (call m (.lowpass pass id new (some alpha))).2 =
          .value (smooth alpha (m.lastOutput pass id) new) := congrArg Outcome.ofResult hout
      rw [outputs, inputs, List.filterMap_cons_some hinput, stageFrom, List.map_cons, ← hlast]
      simp only [hinput, Option.isSome_some, if_true]
      rw [hcall]
      exact congrArg _ ih
    · have hinput : c.input? pass id = none := Call.input?_of_not_on hc pass
      rw [lastOutput_call_of_not_on hm hc] at ih
      rw [outputs, inputs, List.filterMap_cons_none hinput]
      simp only [hinput, Option.isSome_none, Bool.false_eq_true, if_false]
      exact ih

/-! ## One pole and two -/

/-- The tables after any calls on a fresh module and a reset of the id. -/
def afterReset (before : List Call) (id : String) : Filters := run {} (before ++ [.reset id])

/-- All calls keep the invariant. -/
lemma Filters.Inv.run {m : Filters} (hm : m.Inv) (calls : List Call) : (run m calls).Inv :=
  (Run.always_of_inv (fun _ c h => h.call c) hm calls).last

/-- After a reset there is no last output. -/
lemma lastOutput_afterReset (before : List Call) (id : String) (pass : Pass) :
    (afterReset before id).lastOutput pass id = none := by
  rw [afterReset, run, List.foldl_append]
  exact (lastOutput_reset _ pass id id).trans (if_pos rfl)

/-- **The outputs of an id after a reset** are those of one stage, for either filter. -/
theorem outputs_eq_stage {pass : Pass} {id : String} {alpha : ℚ} {calls : List Call}
    (hcalls : ∀ c ∈ calls, c.Fits pass id alpha) (before : List Call) :
    outputs pass id (afterReset before id) calls =
      (stage alpha (inputs pass id calls)).map .value := by
  have hinv : (afterReset before id).Inv := inv_start.run _
  rw [outputs_eq_stageFrom hcalls hinv, lastOutput_afterReset]
  rfl

/-- **A filter with two poles.** The outputs of `lowpass_ema2` for an id are those of two stages in
a row. For a real smoothing, the output for the first input that differs from those before it is not
that of one stage. -/
def TwoPole (alpha : ℚ) (id : String) (before calls : List Call) : Prop :=
  let ins := inputs .ema2 id calls
  let outs := outputs .ema2 id (afterReset before id) calls
  outs = (cascade alpha ins).map .value ∧
    (0 < alpha → alpha < 1 →
      ∀ k, FirstChange ins k → outs[k]? ≠ ((stage alpha ins).map Outcome.value)[k]?)

/-- **When one stage is as good as two**: `lowpass_ema2` is a filter with two poles only if `alpha`
is `0` or `1`, or its inputs do not change. -/
theorem twoPole_iff {alpha : ℚ} {id : String} {calls : List Call}
    (hcalls : ∀ c ∈ calls, c.Fits .ema2 id alpha) (before : List Call) :
    TwoPole alpha id before calls ↔
      alpha = 0 ∨ alpha = 1 ∨ Constant (inputs .ema2 id calls) := by
  have hvalue : Function.Injective Outcome.value := fun _ _ h => Outcome.value.inj h
  have hcascade : (stage alpha (inputs .ema2 id calls)).map Outcome.value =
      (cascade alpha (inputs .ema2 id calls)).map .value ↔
        alpha = 0 ∨ alpha = 1 ∨ Constant (inputs .ema2 id calls) := by
    rw [(List.map_injective_iff.mpr hvalue).eq_iff, eq_comm]
    exact cascade_eq_stage_iff
  rw [TwoPole, outputs_eq_stage hcalls before, hcascade, and_iff_left_iff_imp]
  intro hflat hpos hlt k hchange
  obtain rfl | rfl | hconst := hflat
  · exact absurd rfl hpos.ne
  · exact absurd rfl hlt.ne
  · exact absurd hchange (hconst.not_firstChange k)

/-- A step from `0` to `1`, half smoothed. -/
def halfStep : List Call :=
  [ .lowpass .ema2 "a" 0 (some (1 / 2)),
    .highpass "b" 3 (.ok 0),
    .lowpass .ema2 "a" 1 (some (1 / 2)) ]

/-- The calls of the example are for one filter with one `alpha`. -/
lemma halfStep_fits : ∀ c ∈ halfStep, c.Fits .ema2 "a" (1 / 2) := by
  intro c hc
  simp only [halfStep, List.mem_cons, List.not_mem_nil, or_false] at hc
  obtain rfl | rfl | rfl := hc
  · exact .inl ⟨0, rfl⟩
  · have hne : hpLpId "b" ≠ "a" := by decide
    exact .inr hne
  · exact .inl ⟨1, rfl⟩

/-- The inputs `0` and `1` of a filter with `alpha = 1 / 2`. -/
theorem twoPole_iff_halfStep : TwoPole (1 / 2) "a" [] halfStep ↔
    (1 / 2 : ℚ) = 0 ∨ (1 / 2 : ℚ) = 1 ∨ Constant (inputs .ema2 "a" halfStep) :=
  twoPole_iff halfStep_fits []

/-- After inputs `0` and `1`, two stages would give `1 / 4`, and `lowpass_ema2` gives `1 / 2`. -/
theorem not_twoPole_halfStep :
    (∀ c ∈ halfStep, c.Fits .ema2 "a" (1 / 2)) ∧ ¬ TwoPole (1 / 2) "a" [] halfStep := by
  refine ⟨halfStep_fits, ?_⟩
  intro h
  have hout : outputs .ema2 "a" (afterReset [] "a") halfStep = [.value 0, .value (1 / 2)] := by
    decide +kernel
  have hcascade : (cascade (1 / 2) (inputs .ema2 "a" halfStep)).map Outcome.value =
      [.value 0, .value (1 / 4)] := by
    decide +kernel
  have heq := h.1
  rw [hout, hcascade] at heq
  exact absurd heq (by decide +kernel)

end Aelkey.Filter
