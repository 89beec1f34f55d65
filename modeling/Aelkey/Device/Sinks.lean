import Aelkey.Device.Tables

set_option relaxedAutoImplicit false
set_option autoImplicit false

/-!
# Force feedback sinks of detached devices

`DispatcherEvdev::open_device` registers a device with force feedback as a sink of the haptics
dispatcher; `close_device` removes the device from every other table, but not from `sinks_`. So a
sink outlives its device, and `play` and `stop` write to a descriptor that is closed or belongs to
another device by now. Along a run this never happens if and only if no sink's device is ever
detached.

## Main definitions

* `Aelkey.Device.SinksLive` — every sink belongs to an attached evdev device.
* `Aelkey.Device.KeepsSinks` — an action detaches no device that has a sink.

## Main results

* `Aelkey.Device.sinksLive_iff_keepsSinks` — the exact condition along a run.
* `Aelkey.Device.SinksLive.open` — then sinks write to their own open device.
* `Aelkey.Device.not_sinksLive_reopened` — a sink that writes to a keyboard.
-/

namespace Aelkey.Device

/-- Every sink has the id of an attached evdev device, and its descriptor. -/
def SinksLive (s : State) : Prop :=
  ∀ id sink, s.haptics.sinks.lookup id = some sink →
    ∃ decl, AttachedAs s id .evdev decl ∧ decl.fd = sink.fd

/-- The action detaches no attached device that has a sink. -/
def KeepsSinks (s : State) (a : Action) : Prop :=
  ∀ id freed, detached s a = some (id, freed) → id ∈ s.inputMap → id ∉ s.haptics.sinks

section Steps

variable {script : Script} {s s' : State}

/-- The sinks matter by their descriptors only. -/
lemma sinksLive_iff : SinksLive s ↔ ∀ id fd, (s.haptics.sinks.lookup id).map (·.fd) = some fd →
    ∃ decl, AttachedAs s id .evdev decl ∧ decl.fd = fd := by
  constructor
  · intro h id fd he
    obtain ⟨sink, hs, rfl⟩ := Option.map_eq_some_iff.mp he
    exact h id sink hs
  · intro h id sink hs
    exact h id sink.fd (by rw [hs]; rfl)

/-- Attaching devices keeps the sinks of attached devices.

**Proof sketch.** A new sink is registered for the device that is attached, and the id of an old one
is not the new id, which was not attached. -/
lemma Opens.sinksLive (ho : Opens script s s') (h : SinksLive s) : SinksLive s' := by
  induction ho with
  | refl => exact h
  | untouched hu _ ih =>
    apply ih
    simpa only [SinksLive, AttachedAs, hu.sinks, hu.inputMap] using h
  | @attaches s s' s'' decl ha _ ih =>
    apply ih
    obtain ⟨hasFF, hsinks⟩ := ha.sinks
    rw [sinksLive_iff] at h ⊢
    intro id fd he
    rw [hsinks] at he
    split_ifs at he with hcond
    · obtain ⟨ht, -, rfl⟩ := hcond
      exact ⟨decl, (ha.attachedAs _ _ _).mpr (.inl ⟨rfl, rfl, ht⟩), Option.some.inj he⟩
    · obtain ⟨d, hd, hfd⟩ := h id fd he
      exact ⟨d, (ha.attachedAs _ _ _).mpr (.inr hd), hfd⟩

/-- Detaching a device keeps the sinks of attached devices iff it has none. -/
lemma Detaches.sinksLive_iff {decl : InputDecl} {freed : String} {noted : Bool}
    (hd : Detaches script s s' decl freed noted) (h : SinksLive s) :
    SinksLive s' ↔ decl.id ∉ s.haptics.sinks := by
  constructor
  · intro h' hin
    obtain ⟨sink, hsink⟩ := Table.mem_iff_lookup.mp hin
    obtain ⟨d, ha, -⟩ := h' decl.id sink (by rw [hd.sinks]; exact hsink)
    exact ((hd.attachedAs _ _ _).mp ha).1 rfl
  · intro hnot id sink hsink
    rw [hd.sinks] at hsink
    obtain ⟨d, ha, hfd⟩ := h id sink hsink
    refine ⟨d, (hd.attachedAs _ _ _).mpr ⟨?_, ha⟩, hfd⟩
    rintro rfl
    exact hnot (Table.mem_of_lookup hsink)

/-- One action keeps the sinks of attached devices iff it detaches none that has a sink. -/
lemma sinksLive_step_iff (hc : Consistent script s) (h : SinksLive s) (a : Action) :
    SinksLive (step script s a) ↔ KeepsSinks s a := by
  rcases step_cases hc a with ⟨hopen, ho⟩ | ⟨-, hu, hnone⟩ | ⟨-, decl, freed, hdet, hd⟩
  · refine iff_of_true (ho.sinksLive h) fun id freed hdet => ?_
    cases a with
    | openAll => cases hdet
    | openOne => cases hdet
    | udevAdd => cases hdet
    | _ => cases hopen
  · have ho : Opens script s (step script s a) := hu.opens
    exact iff_of_true (ho.sinksLive h) fun id freed hdet hin => absurd hin (hnone _ hdet)
  · rw [hd.sinksLive_iff h]
    constructor
    · intro hnot id freed' he _
      cases hdet.symm.trans he
      exact hnot
    · intro hk
      exact hk decl.id freed hdet (Table.mem_of_lookup hd.entry)

/-- A sink of an attached device writes to a descriptor that is open and that the evdev dispatcher
has for this device. -/
theorem SinksLive.open (hc : Consistent script s) (h : SinksLive s) {id : String}
    {sink : Haptics.Sink} (hs : s.haptics.sinks.lookup id = some sink) :
    sink.fd ∈ s.kernel.files ∧ s.evdev.devices.lookup sink.fd = some id := by
  obtain ⟨decl, ha, hfd⟩ := h id sink hs
  rw [← hfd]
  exact ⟨(hc.opened id decl ha.1 (by rw [ha.2]; rfl)).2, (hc.evdev _ _).mpr ⟨decl, ha, rfl⟩⟩

end Steps

/-- **Every sink belongs to an attached device in all states of a run iff no step of the run
detaches a device that has a sink.** -/
theorem sinksLive_iff_keepsSinks (script : Script) (as : List Action) :
    Run.Always (step script) SinksLive {} as ↔ Run.EachStep (step script) KeepsSinks {} as :=
  Run.always_iff_eachStep_of_step (I := Consistent script)
    (fun s a hc _ _ => consistent_step s a hc) (fun _ a hc h => sinksLive_step_iff hc h a)
    consistent_init (fun _ _ hs => by cases hs) as

/-! ## A sink on a keyboard -/

/-- A script with a gamepad and a keyboard. -/
def padScript : Script :=
  ⟨[{ id := "pad", type := .evdev }, { id := "kbd", type := .evdev }], [], fun _ => false⟩

/-- The gamepad is `event0` and has force feedback; the keyboard is not found yet. -/
def padFirst : Answers := fun i _ =>
  if i = 0 then { attempt0 with hasFF := true } else { attempt0 with found := "" }

/-- The gamepad is opened and closed, and then the keyboard is opened; the kernel uses the
descriptor again. -/
def reopened : List Action :=
  [.openAll (fun _ => true) padFirst, .close "pad",
    .openOne (fun _ => true) (fun _ _ => attempt0) "kbd"]

/-- After `reopened` the sink of the gamepad has the descriptor of the keyboard. -/
theorem not_sinksLive_reopened :
    ¬ Run.Always (step padScript) SinksLive {} reopened ∧
      ((reopened.foldl (step padScript) {}).haptics.sinks.lookup "pad").map (·.fd) = some 3 ∧
      (reopened.foldl (step padScript) {}).evdev.devices.lookup 3 = some "kbd" := by
  refine ⟨fun h => ?_, by decide, by decide⟩
  have hsink : ((reopened.foldl (step padScript) {}).haptics.sinks.lookup "pad").map (·.fd) =
      some 3 := by decide
  obtain ⟨decl, ha, -⟩ := sinksLive_iff.mp h.last "pad" 3 hsink
  have hnone : (reopened.foldl (step padScript) {}).inputMap.lookup "pad" = none := by decide
  cases hnone.symm.trans ha.1

end Aelkey.Device
