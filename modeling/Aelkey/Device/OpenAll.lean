import Aelkey.Device.Hotplug
import Aelkey.Device.Tables

set_option relaxedAutoImplicit false
set_option autoImplicit false

/-!
# Opening all devices after some have been opened

`device_open` without an argument (`source/aelkey_device.cc`) parses the declarations, creates the
outputs and attaches the inputs, unless something is open already: then it returns at once. A script
that has opened one of its devices before `start()` is left with this device only.

## Main definitions

* `Aelkey.Device.Present` — the device of a declaration is found and can be attached.
* `Aelkey.Device.Opened` — all that can be opened is open.
* `Aelkey.Device.NothingOpen` — the test before which `device_open` does not return at once.

## Main results

* `Aelkey.Device.opensAll_iff_ready` — in every run, opening all devices opens all iff nothing is
  open before, or everything is.
* `Aelkey.Device.not_opensAll_wheel` — one of two present devices is opened before.

## Design

Which device is present and whether its attach succeeds is decided by the answers of the world, for
each position in the list of parsed declarations; that an attach succeeds means that it does so
whatever else is open. `loop_start` opens all devices in the same way.
-/

namespace Aelkey.Device

/-! ## What is to be opened -/

/-- The device of a declaration is present, and its attach succeeds: in every state the declaration
matches, and the backend attaches the match. -/
def Present (decl : InputDecl) (a : Attempt) : Prop :=
  ∀ s, ∃ s' devnode, matchDecl s decl a = (s', some devnode) ∧
    (backendAttach s' devnode decl a).2.2 = true

/-- **Everything is open**: every declared output that can be created exists, and every declared
input whose device is present and can be attached is in `input_map`. -/
structure Opened (script : Script) (creatable : OutputDecl → Bool) (ans : Answers) (s : State) :
    Prop where
  outputs : ∀ out ∈ script.outputs, out.id ≠ "" → creatable out = true → out.id ∈ s.uinputDevices
  inputs : ∀ i decl, (parsed script)[i]? = some decl → Present decl (ans i decl) →
    decl.id ∈ s.inputMap

/-- No device is attached, and no output exists. -/
def NothingOpen (s : State) : Prop := s.inputMap.entries = [] ∧ s.uinputDevices.entries = []

/-- Opening all devices opens everything. -/
def OpensAll (script : Script) (s : State) : Action → Prop
  | .openAll creatable ans => Opened script creatable ans (step script s (.openAll creatable ans))
  | _ => True

/-- Before all devices are opened, nothing is open, or everything is. -/
def Ready (script : Script) (s : State) : Action → Prop
  | .openAll creatable ans => NothingOpen s ∨ Opened script creatable ans s
  | _ => True

/-! ## Devices that are present -/

/-- Opening a node succeeds, whatever is open. -/
def Attempt.Opens (a : Attempt) : Prop := ∀ k : Kernel, 0 ≤ a.openFd k ∧ a.openFd k ∉ k.files

/-- An `open(2)` succeeds iff the kernel picks an unused descriptor. -/
lemma openFile_nonneg_iff (k : Kernel) (devnode : String) (fd : ℤ) :
    ¬ (k.openFile devnode fd).2 < 0 ↔ 0 ≤ fd ∧ fd ∉ k.files := by
  constructor
  · intro h
    obtain ⟨-, hpos, hnew, -⟩ := Epoll.Kernel.openFile_of_nonneg h
    exact ⟨hpos, hnew⟩
  · intro ⟨hpos, hnew⟩
    have hnot : ¬ (fd < 0 ∨ fd ∈ k.files) := not_or.mpr ⟨Int.not_lt.mpr hpos, hnew⟩
    simp only [Epoll.Kernel.openFile, if_neg hnot]
    exact Int.not_lt.mpr hpos

/-- When opening an evdev device succeeds. -/
lemma evdevOpen_ok (s : State) (devnode : String) (decl : InputDecl) (a : Attempt) :
    (evdevOpen s devnode decl a).2.2 = true ↔
      (0 ≤ a.openFd s.kernel ∧ a.openFd s.kernel ∉ s.kernel.files) ∧ a.initOk = true := by
  rw [← openFile_nonneg_iff _ devnode]
  unfold evdevOpen
  dsimp only
  by_cases hneg : (s.kernel.openFile devnode (a.openFd s.kernel)).2 < 0
  · simp [hneg]
  rw [if_neg hneg]
  cases hinit : a.initOk with
  | false => simp
  | true => simp [hneg]

/-- When attaching a hidraw device succeeds. -/
lemma hidrawAttach_ok (s : State) (devnode : String) (decl : InputDecl) (a : Attempt) :
    (hidrawAttach s devnode decl a).2.2 = true ↔
      0 ≤ a.openFd s.kernel ∧ a.openFd s.kernel ∉ s.kernel.files := by
  rw [← openFile_nonneg_iff _ devnode]
  unfold hidrawAttach hidrawOpen
  dsimp only
  by_cases hneg : (s.kernel.openFile devnode (a.openFd s.kernel)).2 < 0
  · simp [hneg]
  · simp [hneg]

/-- When attaching a libusb device succeeds. -/
lemma libusbAttach_ok (s : State) (decl : InputDecl) (a : Attempt) :
    (libusbAttach s decl a).2.2 = true ↔ a.handle.isSome = true ∧ a.claimOk = true := by
  unfold libusbAttach
  split
  · next hnone => simp [hnone]
  · next handle hsome =>
    split_ifs with hclaim
    · simpa [hsome] using hclaim
    · simpa [hsome] using hclaim

/-- When attaching a gatt device succeeds. -/
lemma gattAttach_ok (s : State) (devnode : String) (decl : InputDecl) (a : Attempt) :
    (gattAttach s devnode decl a).2.2 = true ↔
      (gattInit s a).gatt.conn = true ∧ devnode ≠ "" := by
  unfold gattAttach
  dsimp only
  split_ifs with hfail
  · simpa [or_iff_not_imp_left] using hfail
  · simpa [not_or] using hfail

/-- **When a device is present**, for each type: a search finds it, and its node can be opened and
is accepted by libevdev; its node can be opened; its interface can be claimed; the bus can be
reached and has it. -/
lemma present_iff (decl : InputDecl) (a : Attempt) :
    Present decl a ↔ match decl.type with
      | .evdev => a.found ≠ "" ∧ a.Opens ∧ a.initOk = true
      | .hidraw => a.found ≠ "" ∧ a.Opens
      | .libusb => a.handle.isSome ∧ a.claimOk = true
      | .gatt => a.found ≠ "" ∧ a.busUp = true
      | .other => False := by
  have hstate : Nonempty State := ⟨{}⟩
  unfold Present
  cases ht : decl.type with
  | evdev =>
    simp only [matchDecl, backendAttach, ht, evdevOpen_ok, Prod.mk.injEq]
    by_cases hfound : a.found = ""
    · simp [hfound]
    · simp only [hfound, ↓reduceIte, Option.some.injEq]
      constructor
      · intro h
        have hk : ∀ k : Kernel, (0 ≤ a.openFd k ∧ a.openFd k ∉ k.files) ∧ a.initOk = true := by
          intro k
          obtain ⟨s', devnode, ⟨rfl, rfl⟩, hok⟩ := h { kernel := k }
          exact hok
        exact ⟨hfound, fun k => (hk k).1, (hk Epoll.Kernel.empty).2⟩
      · rintro ⟨-, hopens, hinit⟩ s
        exact ⟨s, a.found, ⟨rfl, rfl⟩, hopens s.kernel, hinit⟩
  | hidraw =>
    simp only [matchDecl, backendAttach, ht, hidrawAttach_ok, Prod.mk.injEq]
    by_cases hfound : a.found = ""
    · simp [hfound]
    · simp only [hfound, ↓reduceIte, Option.some.injEq]
      constructor
      · intro h
        refine ⟨hfound, fun k => ?_⟩
        obtain ⟨s', devnode, ⟨rfl, rfl⟩, hok⟩ := h { kernel := k }
        exact hok
      · rintro ⟨-, hopens⟩ s
        exact ⟨s, a.found, ⟨rfl, rfl⟩, hopens s.kernel⟩
  | libusb =>
    simp only [matchDecl, backendAttach, ht, libusbAttach_ok]
    constructor
    · intro h
      obtain ⟨s', devnode, -, hok⟩ := h {}
      exact hok
    · intro hok s
      exact ⟨s, decl.id, rfl, hok⟩
  | gatt =>
    simp only [matchDecl, backendAttach, ht, gattAttach_ok, Prod.mk.injEq]
    constructor
    · intro h
      obtain ⟨s', devnode, ⟨rfl, hfound⟩, hconn, hne⟩ := h {}
      split_ifs at hfound with hup hempty
      exact ⟨hempty, by simpa [gattInit] using hconn⟩
    · rintro ⟨hfound, hup⟩ s
      refine ⟨gattInit s a, a.found, ⟨rfl, ?_⟩, ?_, hfound⟩
      · simp [gattInit, hup, hfound]
      · simp [gattInit, hup]
  | other => simp [matchDecl, ht]

/-! ## The loop opens what is present -/

section Loop

variable {script : Script}

/-- What is attached stays attached while devices are opened. -/
lemma Opens.mem_inputMap {s s' : State} (ho : Opens script s s') {id : String}
    (h : id ∈ s.inputMap) : id ∈ s'.inputMap := by
  induction ho with
  | refl => exact h
  | untouched hu _ ih =>
    rw [← hu.inputMap] at h
    exact ih h
  | attaches ha _ ih =>
    apply ih
    rw [ha.inputMap, AList.mem_insert]
    exact .inr h

/-- A declaration whose attach succeeds is attached, or its id was before. -/
lemma mem_attachAndNotify_self {s : State} {decl : InputDecl} {devnode : String} {a : Attempt}
    (hdecl : Declared script decl) (hok : (backendAttach s devnode decl a).2.2 = true) :
    decl.id ∈ (attachAndNotify script s devnode decl a).1.inputMap := by
  unfold attachAndNotify attach
  by_cases hin : decl.id ∈ s.inputMap
  · rw [if_pos hin]
    exact hin
  rw [if_neg hin]
  have hcases := backendAttach_cases devnode a hin hdecl
  rcases hr : backendAttach s devnode decl a with ⟨s₁, decl₁, ok⟩
  rw [hr] at hcases hok
  obtain ⟨hspec, ⟨rfl, -⟩ | ⟨rfl, -⟩⟩ := hcases
  · cases hok
  · have hid : decl₁.spec.id = decl.spec.id := congrArg InputDecl.id hspec
    change decl₁.id = decl.id at hid
    simp only [AList.mem_insert, hid, true_or]

/-- **The loop of `attach_inputs_from_decls` attaches every device that is present.**

**Proof sketch.** Induction on the declarations: the first one is attached if its device is present,
and what is attached stays attached. -/
lemma mem_visitDecls_present (ans : Answers) (decls : List InputDecl) :
    ∀ (s : State) (i : ℕ), (∀ decl ∈ decls, Declared script decl) →
      ∀ j decl, decls[j]? = some decl → Present decl (ans (i + j) decl) →
        decl.id ∈ (visitDecls script ans (fun _ => true) (fun _ _ matched => .attach matched) false
          s i decls).1.inputMap := by
  induction decls with
  | nil => simp
  | cons decl₀ decls ih =>
    intro s i hdecls j decl hj hpresent
    obtain ⟨hdecl, hrest⟩ := List.forall_mem_cons.mp hdecls
    rw [visitDecls]
    simp only [Bool.not_true, Bool.false_eq_true, ↓reduceIte]
    cases j with
    | zero =>
      obtain rfl : decl₀ = decl := by simpa using hj
      obtain ⟨s', devnode, hm, hok⟩ := hpresent s
      rw [Nat.add_zero] at hm hok
      simp only [hm]
      exact (visitDecls_opens _ _ _ _ _ _ _ hrest).1.mem_inputMap
        (mem_attachAndNotify_self hdecl hok)
    | succ j =>
      rw [List.getElem?_cons_succ] at hj
      have hindex : i + (j + 1) = i + 1 + j := by omega
      rw [hindex] at hpresent
      rcases hm : matchDecl s decl₀ (ans i decl₀) with ⟨s₁, _ | devnode⟩
      · exact ih s₁ (i + 1) hrest j decl hj hpresent
      · exact ih _ (i + 1) hrest j decl hj hpresent

/-- No backend touches the outputs. -/
lemma backendAttach_uinputDevices (s : State) (devnode : String) (decl : InputDecl) (a : Attempt) :
    (backendAttach s devnode decl a).1.uinputDevices = s.uinputDevices := by
  unfold backendAttach
  split
  · simp only [evdevOpen]
    split_ifs <;> rfl
  · simp only [hidrawAttach, hidrawOpen]
    split_ifs <;> rfl
  · simp only [libusbAttach]
    split
    · rfl
    · split_ifs <;> rfl
  · simp only [gattAttach]
    split_ifs <;> rfl
  · rfl

/-- Attaching a declaration does not touch the outputs. -/
lemma attachAndNotify_uinputDevices (s : State) (devnode : String) (decl : InputDecl)
    (a : Attempt) :
    (attachAndNotify script s devnode decl a).1.uinputDevices = s.uinputDevices := by
  have hback := backendAttach_uinputDevices s devnode decl a
  unfold attachAndNotify attach
  split_ifs
  · rfl
  · rcases hr : backendAttach s devnode decl a with ⟨s₁, decl₁, ok⟩
    rw [hr] at hback
    cases ok <;> exact hback

/-- The loops over the declarations do not touch the outputs. -/
lemma visitDecls_uinputDevices (ans : Answers) (decls : List InputDecl) :
    ∀ (s : State) (i : ℕ),
      (visitDecls script ans (fun _ => true) (fun _ _ matched => .attach matched) false s i
        decls).1.uinputDevices = s.uinputDevices := by
  induction decls with
  | nil => exact fun _ _ => rfl
  | cons decl decls ih =>
    intro s i
    have hmatch : (matchDecl s decl (ans i decl)).1.uinputDevices = s.uinputDevices := by
      unfold matchDecl
      split <;> rfl
    rw [visitDecls]
    simp only [Bool.not_true, Bool.false_eq_true, ↓reduceIte]
    rcases hm : matchDecl s decl (ans i decl) with ⟨s₁, _ | devnode⟩ <;> rw [hm] at hmatch
    · exact (ih s₁ (i + 1)).trans hmatch
    · exact (ih _ (i + 1)).trans ((attachAndNotify_uinputDevices s₁ devnode decl _).trans hmatch)

end Loop

/-- The outputs after the loop of `create_outputs_from_decls`: those that were there, and those that
can be created. -/
lemma mem_createOutputs (creatable : OutputDecl → Bool) (outs : List OutputDecl) :
    ∀ devices : Table String Unit,
      (∀ id ∈ devices, id ∈ outs.foldl (fun devices out =>
        if out.id = "" ∨ out.id ∈ devices then devices
        else if creatable out then devices.insert out.id () else devices) devices) ∧
      ∀ out ∈ outs, out.id ≠ "" → creatable out = true → out.id ∈ outs.foldl (fun devices out =>
        if out.id = "" ∨ out.id ∈ devices then devices
        else if creatable out then devices.insert out.id () else devices) devices := by
  induction outs with
  | nil => simp
  | cons out outs ih =>
    intro devices
    rw [List.foldl_cons]
    obtain ⟨hkept, hmade⟩ := ih (if out.id = "" ∨ out.id ∈ devices then devices
      else if creatable out then devices.insert out.id () else devices)
    constructor
    · intro id hid
      apply hkept id
      split_ifs
      · exact hid
      · exact (AList.mem_insert _).mpr (.inr hid)
      · exact hid
    · intro out' hout' hne hc
      rcases List.mem_cons.mp hout' with rfl | hin
      · apply hkept _
        split_ifs with hskip
        · exact hskip.resolve_left hne
        · exact (AList.mem_insert _).mpr (.inl rfl)
      · exact hmade out' hin hne hc

/-! ## The exact condition -/

/-- **From a state in which nothing is open, `device_open` opens everything.** -/
lemma opened_of_nothingOpen {script : Script} {s : State} (h : NothingOpen s)
    (creatable : OutputDecl → Bool) (ans : Answers) :
    Opened script creatable ans (openAll script creatable ans s).1 := by
  have hguard : ¬ (s.inputMap.entries ≠ [] ∨ s.uinputDevices.entries ≠ []) := by
    rintro (hi | ho)
    · exact hi h.1
    · exact ho h.2
  simp only [openAll, if_neg hguard, attachInputsFromDecls, visitInputs]
  constructor
  · intro out hout hne hc
    have hmem : out ∈ script.outputs.filter fun out => out.id ≠ "" :=
      List.mem_filter.mpr ⟨hout, by simpa using hne⟩
    dsimp only
    rw [visitDecls_uinputDevices]
    exact (mem_createOutputs creatable _ _).2 out hmem hne hc
  · intro i decl hi hpresent
    have hindex : ans (0 + i) decl = ans i decl := by rw [Nat.zero_add]
    exact mem_visitDecls_present ans _ _ 0 (parseDecls_declared s) i decl hi (hindex ▸ hpresent)

/-- Opening all devices opens everything iff nothing is open before, or everything is: in any other
state it returns at once. -/
lemma opened_openAll_iff {script : Script} {s : State} {creatable : OutputDecl → Bool}
    {ans : Answers} :
    Opened script creatable ans (openAll script creatable ans s).1 ↔
      NothingOpen s ∨ Opened script creatable ans s := by
  by_cases h : NothingOpen s
  · exact ⟨fun _ => .inl h, fun _ => opened_of_nothingOpen h creatable ans⟩
  · have hguard : s.inputMap.entries ≠ [] ∨ s.uinputDevices.entries ≠ [] := by
      by_contra hn
      obtain ⟨hi, ho⟩ := not_or.mp hn
      exact h ⟨not_not.mp hi, not_not.mp ho⟩
    rw [openAll, if_pos hguard]
    exact ⟨.inr, fun ho => ho.resolve_left h⟩

/-- **`open_device()` opens everything, as long as it does not find something open.** For every
script, whatever devices are present and whichever calls and events come before: opening all devices
leaves every declared output that can be created and every declared input that is present open, each
time it is done, if and only if each time nothing is open before, or everything is.

**Proof sketch.** If nothing is open, all declarations are parsed, and the two loops open what they
can. Otherwise the call returns at once and changes nothing. -/
theorem opensAll_iff_ready (script : Script) (as : List Action) :
    Run.EachStep (step script) (OpensAll script) {} as ↔
      Run.EachStep (step script) (Ready script) {} as := by
  refine Run.eachStep_congr (I := fun _ => True) (fun _ _ _ _ => trivial) (fun s a _ => ?_)
    trivial as
  cases a with
  | openAll creatable ans => exact opened_openAll_iff
  | openOne | close | udevAdd | udevRemove | evdevHangup => exact Iff.rfl

/-- A script with two usb devices. -/
def wheelScript : Script :=
  ⟨[{ id := "pad", type := .libusb }, { id := "wheel", type := .libusb }], [], fun _ => false⟩

/-- Both devices are plugged in. -/
def plugged : Answers := fun i _ => { attempt0 with handle := some i }

/-- The script opens the pad, and then all devices. -/
def padBefore : List Action :=
  [.openOne (fun _ => true) plugged "pad", .openAll (fun _ => true) plugged]

/-- **The wheel is not opened.** It is present, and it is opened if the pad is not opened before. -/
theorem not_opensAll_wheel :
    "wheel" ∈ ([Action.openAll (fun _ => true) plugged].foldl (step wheelScript) {}).inputMap ∧
      "wheel" ∉ (padBefore.foldl (step wheelScript) {}).inputMap ∧
      ¬ Run.EachStep (step wheelScript) (OpensAll wheelScript) {} padBefore := by
  refine ⟨by decide, by decide, fun h => ?_⟩
  have hlast : Opened wheelScript (fun _ => true) plugged
      (padBefore.foldl (step wheelScript) {}) := h.2.1
  have hpresent : Present { id := "wheel", type := .libusb } (plugged 1
      { id := "wheel", type := .libusb }) := (present_iff _ _).mpr ⟨rfl, rfl⟩
  have hmem := hlast.inputs 1 { id := "wheel", type := .libusb } (by decide) hpresent
  exact absurd hmem (by decide)

end Aelkey.Device
