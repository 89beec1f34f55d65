import Aelkey.Device.Manager

set_option relaxedAutoImplicit false
set_option autoImplicit false

/-!
# What the device layer does to its tables

Every action is a sequence of three kinds of change: nothing is attached or detached, one device is
attached, one device is detached. This file says what each of them does to every table, and that the
loops over the declarations are sequences of the first two. All invariants are derived from these
statements; no invariant unfolds a function of the layer.

## Main definitions

* `Aelkey.Device.Untouched`, `Aelkey.Device.Attaches`, `Aelkey.Device.Detaches` — the changes.
* `Aelkey.Device.Opens` — a sequence of the first two.

## Main results

* `Aelkey.Device.backendAttach_cases` — what the `attach` of a backend does.
* `Aelkey.Device.visitDecls_opens` — what a loop over declarations does.
-/

namespace Aelkey.Device

/-- The types whose devices are opened by a device node. -/
def DeviceType.isNode : DeviceType → Bool
  | .evdev | .hidraw => true
  | _ => false

/-- A declaration of the script, with whatever node and descriptor it has by now. -/
def Declared (script : Script) (decl : InputDecl) : Prop :=
  decl.id ≠ "" ∧ ∃ decl₀ ∈ script.inputs, decl.spec = decl₀.spec

/-! ## The three kinds of change -/

/-- Nothing is attached or detached. -/
structure Untouched (s s' : State) : Prop where
  files : ∀ fd, s'.kernel.files.lookup fd = s.kernel.files.lookup fd
  evdev : s'.evdev.devices = s.evdev.devices
  idev : s'.evdev.idevMap = s.evdev.idevMap
  hidraw : s'.hidraw.devices = s.hidraw.devices
  libusb : s'.libusb.devices = s.libusb.devices
  gatt : s'.gatt.gattPaths = s.gatt.gattPaths
  conn : s.gatt.conn = true → s'.gatt.conn = true
  sinks : s'.haptics.sinks = s.haptics.sinks
  inputMap : s'.inputMap = s.inputMap
  frames : s'.frames = s.frames
  notes : s'.notes = s.notes

/-- The device of the map entry `decl` is attached: a node is opened under an unused descriptor,
and the table of its type gets an entry. -/
structure Attaches (script : Script) (s s' : State) (decl : InputDecl) : Prop where
  fresh : decl.id ∉ s.inputMap
  declared : Declared script decl
  known : decl.type ≠ .other
  unused : decl.type.isNode = true → 0 ≤ decl.fd ∧ s.kernel.files.lookup decl.fd = none
  files : ∃ devnode, ∀ fd, s'.kernel.files.lookup fd =
    if decl.type.isNode = true ∧ fd = decl.fd then some devnode else s.kernel.files.lookup fd
  evdev : ∀ fd, s'.evdev.devices.lookup fd =
    if decl.type = .evdev ∧ fd = decl.fd then some decl.id else s.evdev.devices.lookup fd
  idev : ∀ fd, fd ∈ s'.evdev.idevMap ↔ decl.type = .evdev ∧ fd = decl.fd ∨ fd ∈ s.evdev.idevMap
  hidraw : ∃ stored : InputDecl, stored.id = decl.id ∧ ∀ fd, s'.hidraw.devices.lookup fd =
    if decl.type = .hidraw ∧ fd = decl.fd then some stored else s.hidraw.devices.lookup fd
  libusb : ∀ id, id ∈ s'.libusb.devices ↔
    decl.type = .libusb ∧ id = decl.id ∨ id ∈ s.libusb.devices
  gatt : ∀ id, id ∈ s'.gatt.gattPaths ↔ decl.type = .gatt ∧ id = decl.id ∨ id ∈ s.gatt.gattPaths
  conn : s.gatt.conn = true ∨ decl.type = .gatt → s'.gatt.conn = true
  sinks : ∃ hasFF : Bool, ∀ id, (s'.haptics.sinks.lookup id).map (·.fd) =
    if decl.type = .evdev ∧ hasFF = true ∧ id = decl.id then some decl.fd
    else (s.haptics.sinks.lookup id).map (·.fd)
  inputMap : s'.inputMap = s.inputMap.insert decl.id decl
  frames : ∀ id, s'.frames.lookup id =
    if decl.type = .evdev ∧ id = decl.id then some [] else s.frames.lookup id
  notes : s'.notes = notify script s.notes decl "add"

/-- The device of the map entry `decl` is detached: the tables lose its entries, and the node of an
evdev device is closed. The frame buffer is removed under the name `freed`, and a notification is
made if `noted` is set. -/
structure Detaches (script : Script) (s s' : State) (decl : InputDecl) (freed : String)
    (noted : Bool) : Prop where
  entry : s.inputMap.lookup decl.id = some decl
  files : ∀ fd, s'.kernel.files.lookup fd =
    if decl.type = .evdev ∧ fd = decl.fd then none else s.kernel.files.lookup fd
  evdev : ∀ fd, s'.evdev.devices.lookup fd =
    if decl.type = .evdev ∧ fd = decl.fd then none else s.evdev.devices.lookup fd
  idev : ∀ fd, fd ∈ s'.evdev.idevMap ↔
    ¬ (decl.type = .evdev ∧ fd = decl.fd) ∧ fd ∈ s.evdev.idevMap
  hidraw : ∀ fd, s'.hidraw.devices.lookup fd =
    if decl.type = .hidraw ∧ fd = decl.fd then none else s.hidraw.devices.lookup fd
  libusb : ∀ id, id ∈ s'.libusb.devices ↔
    ¬ (decl.type = .libusb ∧ id = decl.id) ∧ id ∈ s.libusb.devices
  gatt : ∀ id, id ∈ s'.gatt.gattPaths ↔
    ¬ (decl.type = .gatt ∧ id = decl.id) ∧ id ∈ s.gatt.gattPaths
  conn : s.gatt.conn = true → s'.gatt.conn = true
  sinks : s'.haptics.sinks = s.haptics.sinks
  inputMap : s'.inputMap = s.inputMap.erase decl.id
  frames : ∀ id, id ∈ s'.frames ↔ id ≠ freed ∧ id ∈ s.frames
  inputDecls : s'.inputDecls = s.inputDecls
  notes : s'.notes = if noted then notify script s.notes decl "remove" else s.notes

/-- A sequence of changes that attach devices or do nothing. -/
inductive Opens (script : Script) : State → State → Prop
  | refl (s : State) : Opens script s s
  | untouched {s s' s'' : State} (h : Untouched s s') (rest : Opens script s' s'') :
      Opens script s s''
  | attaches {s s' s'' : State} {decl : InputDecl} (h : Attaches script s s' decl)
      (rest : Opens script s' s'') : Opens script s s''

/-- Doing nothing. -/
lemma Untouched.refl (s : State) : Untouched s s :=
  ⟨fun _ => rfl, rfl, rfl, rfl, rfl, rfl, id, rfl, rfl, rfl, rfl⟩

/-- Doing nothing twice. -/
lemma Untouched.trans {s s' s'' : State} (h : Untouched s s') (h' : Untouched s' s'') :
    Untouched s s'' :=
  ⟨fun fd => (h'.files fd).trans (h.files fd), h'.evdev.trans h.evdev, h'.idev.trans h.idev,
    h'.hidraw.trans h.hidraw, h'.libusb.trans h.libusb, h'.gatt.trans h.gatt,
    fun hc => h'.conn (h.conn hc), h'.sinks.trans h.sinks, h'.inputMap.trans h.inputMap,
    h'.frames.trans h.frames, h'.notes.trans h.notes⟩

/-- One change after another. -/
lemma Opens.trans {script : Script} {s s' s'' : State} (h : Opens script s s')
    (h' : Opens script s' s'') : Opens script s s'' := by
  induction h with
  | refl => exact h'
  | untouched hu _ ih => exact .untouched hu (ih h')
  | attaches ha _ ih => exact .attaches ha (ih h')

/-- Changes in the declarations and the watchlist are not noticed. -/
lemma Untouched.opens {script : Script} {s s' : State} (h : Untouched s s') : Opens script s s' :=
  .untouched h (.refl s')

/-! ## The dispatchers and backends -/

/-- The open files after `register_fd`. -/
lemma registerFd_files (k : Kernel) (d : DispatcherBase) (fd : ℤ) (events : ℕ) (refused : Bool) :
    (registerFd k d fd events refused).1.files = k.files := by
  rcases registerFd_cases k d fd events refused with ⟨-, hf, -, -⟩ | ⟨-, hk, -⟩
  · exact hf
  · rw [hk]

/-- The fields of a declaration that its parser sets are kept. -/
lemma Declared.of_spec {script : Script} {decl decl' : InputDecl} (h : Declared script decl)
    (hspec : decl'.spec = decl.spec) : Declared script decl' := by
  obtain ⟨hne, decl₀, hmem, hs⟩ := h
  have hid : decl'.spec.id = decl.spec.id := by rw [hspec]
  exact ⟨fun he => hne (hid.symm.trans he), decl₀, hmem, hspec.trans hs⟩

/-- The end of an attach: the map entry and the notification. -/
def enter (script : Script) (s : State) (decl : InputDecl) : State :=
  { s with
    inputMap := s.inputMap.insert decl.id decl
    notes := notify script s.notes decl "add" }

/-- What the `attach` of a backend does: it fails and leaves everything as it is, or the device is
attached once it has been entered into the map. -/
def BackendAttaches (script : Script) (s : State) (decl : InputDecl)
    (r : State × InputDecl × Bool) : Prop :=
  r.2.1.spec = decl.spec ∧
    (r.2.2 = false ∧ Untouched s r.1 ∨
      r.2.2 = true ∧ r.1.inputMap = s.inputMap ∧ r.1.notes = s.notes ∧
        Attaches script s (enter script r.1 r.2.1) r.2.1)

section Backends

variable {script : Script} {s : State} {decl : InputDecl}

/-- Opening an evdev device.

**Proof sketch.** The three outcomes are those of the source: the node cannot be opened, libevdev
does not accept it and it is closed again, or the device is entered in all tables. -/
lemma evdevOpen_cases (devnode : String) (a : Attempt) (ht : decl.type = .evdev)
    (hfresh : decl.id ∉ s.inputMap) (hdecl : Declared script decl) :
    BackendAttaches script s decl (evdevOpen s devnode decl a) := by
  unfold evdevOpen
  dsimp only
  by_cases hneg : (s.kernel.openFile devnode (a.openFd s.kernel)).2 < 0
  · -- the node cannot be opened
    rw [if_pos hneg, Epoll.Kernel.openFile_of_neg hneg]
    exact ⟨rfl, .inl ⟨rfl, Untouched.refl s⟩⟩
  obtain ⟨hfd, hpos, hunused, hfiles⟩ := Epoll.Kernel.openFile_of_nonneg hneg
  rw [hfd] at hneg ⊢
  have hnone : s.kernel.files.lookup (a.openFd s.kernel) = none := AList.lookup_eq_none.mpr hunused
  rw [if_neg hneg]
  by_cases hinit : (!a.initOk) = true
  · -- libevdev does not accept it
    rw [if_pos hinit]
    refine ⟨rfl, .inl ⟨rfl, { Untouched.refl s with files := fun x => ?_ }⟩⟩
    rw [Epoll.Kernel.close_files, Table.lookup_erase, hfiles, Table.lookup_insert]
    split_ifs with hx
    · rw [hx, hnone]
    · rfl
  · -- the device is open
    rw [if_neg hinit]
    refine ⟨rfl, .inr ⟨rfl, rfl, rfl, ?_⟩⟩
    refine ⟨hfresh, hdecl.of_spec rfl, by simp [ht], fun _ => ⟨hpos, hnone⟩,
      ⟨devnode, fun x => ?_⟩, fun x => ?_, fun x => ?_, ⟨decl, rfl, fun x => ?_⟩, fun x => ?_,
      fun x => ?_, ?_, ⟨a.hasFF, fun x => ?_⟩, rfl, fun x => ?_, rfl⟩
    · simp only [enter, registerFd_files, hfiles, ht, DeviceType.isNode, true_and,
        Table.lookup_insert]
    · simp only [enter, ht, true_and, Table.lookup_insert]
    · simp only [enter, ht, true_and, AList.mem_insert]
    · simp [enter, ht]
    · simp [enter, ht]
    · simp [enter, ht]
    · simp [enter, ht]
    · cases hff : a.hasFF with
      | false => simp [enter]
      | true =>
        simp only [enter, ↓reduceIte, Haptics.registerSink, if_neg hneg, Table.lookup_insert, ht,
          true_and]
        split_ifs <;> rfl
    · simp only [enter, ht, true_and, Table.lookup_insert]

/-- Opening a hidraw device. -/
lemma hidrawAttach_cases (devnode : String) (a : Attempt) (ht : decl.type = .hidraw)
    (hfresh : decl.id ∉ s.inputMap) (hdecl : Declared script decl) :
    BackendAttaches script s decl (hidrawAttach s devnode decl a) := by
  unfold hidrawAttach hidrawOpen
  dsimp only
  by_cases hneg : (s.kernel.openFile devnode (a.openFd s.kernel)).2 < 0
  · simp only [hneg, ↓reduceIte, Epoll.Kernel.openFile_of_neg hneg]
    exact ⟨rfl, .inl ⟨rfl, Untouched.refl s⟩⟩
  · obtain ⟨hfd, hpos, hunused, hfiles⟩ := Epoll.Kernel.openFile_of_nonneg hneg
    rw [hfd] at hneg ⊢
    simp only [hneg, ↓reduceIte]
    refine ⟨rfl, .inr ⟨rfl, rfl, rfl, ?_⟩⟩
    have hnone : s.kernel.files.lookup (a.openFd s.kernel) = none :=
      AList.lookup_eq_none.mpr hunused
    refine ⟨hfresh, hdecl.of_spec rfl, by simp [ht], fun _ => ⟨hpos, hnone⟩,
      ⟨devnode, fun x => ?_⟩, fun x => ?_, fun x => ?_, ⟨decl, rfl, fun x => ?_⟩, fun x => ?_,
      fun x => ?_, ?_, ⟨false, fun x => ?_⟩, rfl, fun x => ?_, rfl⟩
    · simp only [enter, registerFd_files, hfiles, ht, DeviceType.isNode, true_and,
        Table.lookup_insert]
    · simp [enter, ht]
    · simp [enter, ht]
    · simp only [enter, ht, true_and, Table.lookup_insert]
    · simp [enter, ht]
    · simp [enter, ht]
    · simp [enter, ht]
    · simp [enter]
    · simp [enter, ht]

/-- Attaching a libusb device. -/
lemma libusbAttach_cases (a : Attempt) (ht : decl.type = .libusb)
    (hfresh : decl.id ∉ s.inputMap) (hdecl : Declared script decl) :
    BackendAttaches script s decl (libusbAttach s decl a) := by
  unfold libusbAttach
  split
  · exact ⟨rfl, .inl ⟨rfl, Untouched.refl s⟩⟩
  · split_ifs
    · exact ⟨rfl, .inl ⟨rfl, Untouched.refl s⟩⟩
    · refine ⟨rfl, .inr ⟨rfl, rfl, rfl, ?_⟩⟩
      refine ⟨hfresh, hdecl, by simp [ht], by simp [ht, DeviceType.isNode], ⟨"", fun x => ?_⟩,
        fun x => ?_, fun x => ?_, ⟨decl, rfl, fun x => ?_⟩, fun x => ?_, fun x => ?_, ?_,
        ⟨false, fun x => ?_⟩, rfl, fun x => ?_, rfl⟩
      · simp [enter, ht, DeviceType.isNode]
      · simp [enter, ht]
      · simp [enter, ht]
      · simp [enter, ht]
      · simp [enter, ht]
      · simp [enter, ht]
      · simp [enter, ht]
      · simp [enter]
      · simp [enter, ht]

/-- Attaching a gatt device. -/
lemma gattAttach_cases (devnode : String) (a : Attempt) (ht : decl.type = .gatt)
    (hfresh : decl.id ∉ s.inputMap) (hdecl : Declared script decl) :
    BackendAttaches script s decl (gattAttach s devnode decl a) := by
  unfold gattAttach
  dsimp only
  split_ifs with hfail
  · exact ⟨rfl, .inl ⟨rfl, { Untouched.refl s with conn := fun h => by simp [gattInit, h] }⟩⟩
  · have hconn : (gattInit s a).gatt.conn = true := by
      by_contra hc
      exact hfail (.inl (by simpa using hc))
    refine ⟨rfl, .inr ⟨rfl, rfl, rfl, ?_⟩⟩
    refine ⟨hfresh, hdecl.of_spec rfl, by simp [ht], by simp [ht, DeviceType.isNode],
      ⟨"", fun x => ?_⟩, fun x => ?_, fun x => ?_, ⟨decl, rfl, fun x => ?_⟩, fun x => ?_,
      fun x => ?_, ?_, ⟨false, fun x => ?_⟩, rfl, fun x => ?_, rfl⟩
    · simp [enter, gattInit, ht, DeviceType.isNode]
    · simp [enter, gattInit, ht]
    · simp [enter, gattInit, ht]
    · simp [enter, gattInit, ht]
    · simp [enter, gattInit, ht]
    · simp [enter, gattInit, ht]
    · exact fun _ => hconn
    · simp [enter, gattInit]
    · simp [enter, gattInit, ht]

/-- The `attach` of every backend. -/
lemma backendAttach_cases (devnode : String) (a : Attempt) (hfresh : decl.id ∉ s.inputMap)
    (hdecl : Declared script decl) :
    BackendAttaches script s decl (backendAttach s devnode decl a) := by
  unfold backendAttach
  split
  · next ht => exact evdevOpen_cases devnode a ht hfresh hdecl
  · next ht => exact hidrawAttach_cases devnode a ht hfresh hdecl
  · next ht => exact libusbAttach_cases a ht hfresh hdecl
  · next ht => exact gattAttach_cases devnode a ht hfresh hdecl
  · exact ⟨rfl, .inl ⟨rfl, Untouched.refl s⟩⟩

end Backends

/-! ## Attaching -/

section Attaching

variable {script : Script}

/-- Attaching a declaration: the loops get it back with its parsed fields, and nothing or one device
is attached. -/
lemma attachAndNotify_cases {s : State} {decl : InputDecl} (devnode : String) (a : Attempt)
    (hdecl : Declared script decl) :
    (attachAndNotify script s devnode decl a).2.1.spec = decl.spec ∧
      Opens script s (attachAndNotify script s devnode decl a).1 := by
  unfold attachAndNotify attach
  by_cases hin : decl.id ∈ s.inputMap
  · rw [if_pos hin]
    exact ⟨rfl, .refl s⟩
  · rw [if_neg hin]
    have hcases := backendAttach_cases devnode a hin hdecl
    rcases hr : backendAttach s devnode decl a with ⟨s₁, decl₁, ok⟩
    rw [hr] at hcases
    obtain ⟨hspec, ⟨rfl, hu⟩ | ⟨rfl, -, -, ha⟩⟩ := hcases
    · exact ⟨hspec, hu.opens⟩
    · exact ⟨hspec, .attaches ha (.refl _)⟩

/-- Matching attaches nothing. -/
lemma matchDecl_untouched (s : State) (decl : InputDecl) (a : Attempt) :
    Untouched s (matchDecl s decl a).1 := by
  unfold matchDecl
  split
  · exact Untouched.refl s
  · exact Untouched.refl s
  · exact Untouched.refl s
  · exact { Untouched.refl s with conn := fun h => by simp [gattInit, h] }
  · exact Untouched.refl s

/-- Matching leaves the declarations alone. -/
lemma matchDecl_inputDecls (s : State) (decl : InputDecl) (a : Attempt) :
    (matchDecl s decl a).1.inputDecls = s.inputDecls := by
  unfold matchDecl
  split <;> rfl

/-- **A loop over declarations** attaches devices, and the declarations keep their parsed fields.

**Proof sketch.** Induction on the declarations: one of them is skipped, ends the loop, or is
attached, and matching it changes nothing. -/
lemma visitDecls_opens (ans : Answers) (wanted : InputDecl → Bool)
    (visit : State → InputDecl → String → Visit) (single : Bool) (decls : List InputDecl) :
    ∀ (s : State) (i : ℕ), (∀ decl ∈ decls, Declared script decl) →
      Opens script s (visitDecls script ans wanted visit single s i decls).1 ∧
        (visitDecls script ans wanted visit single s i decls).2.1.map InputDecl.spec =
          decls.map InputDecl.spec := by
  induction decls with
  | nil => exact fun s i _ => ⟨.refl s, rfl⟩
  | cons decl decls ih =>
    intro s i hdecls
    obtain ⟨hdecl, hrest⟩ := List.forall_mem_cons.mp hdecls
    have hskip : ∀ s : State,
        Opens script s (visitDecls script ans wanted visit single s (i + 1) decls).1 ∧
        (decl :: (visitDecls script ans wanted visit single s (i + 1) decls).2.1).map
          InputDecl.spec = (decl :: decls).map InputDecl.spec := by
      intro s
      obtain ⟨ho, hs⟩ := ih s (i + 1) hrest
      exact ⟨ho, by rw [List.map_cons, List.map_cons, hs]⟩
    rw [visitDecls]
    by_cases hw : (!wanted decl) = true
    · rw [if_pos hw]
      exact hskip s
    rw [if_neg hw]
    have hmatch := matchDecl_untouched s decl (ans i decl)
    rcases hm : matchDecl s decl (ans i decl) with ⟨s₁, _ | matched⟩ <;> rw [hm] at hmatch
    · exact ⟨hmatch.opens.trans (hskip s₁).1, (hskip s₁).2⟩
    dsimp only
    rcases hv : visit s₁ decl matched with _ | devnode | _
    · exact ⟨hmatch.opens.trans (hskip s₁).1, (hskip s₁).2⟩
    · obtain ⟨hspec, ho⟩ := attachAndNotify_cases (s := s₁) devnode (ans i decl) hdecl
      by_cases hs : single = true
      · subst hs
        exact ⟨hmatch.opens.trans ho, by simp [hspec]⟩
      · rw [Bool.not_eq_true] at hs
        subst hs
        obtain ⟨ho', hs'⟩ :=
          ih (attachAndNotify script s₁ devnode decl (ans i decl)).1 (i + 1) hrest
        exact ⟨(hmatch.opens.trans ho).trans ho', by simp [hspec, hs']⟩
    · exact ⟨hmatch.opens, rfl⟩

/-- The declarations after a list with the same parsed fields. -/
lemma declared_of_map_spec {decls decls' : List InputDecl}
    (hs : decls'.map InputDecl.spec = decls.map InputDecl.spec)
    (h : ∀ decl ∈ decls, Declared script decl) : ∀ decl ∈ decls', Declared script decl := by
  intro decl hmem
  have hspec : decl.spec ∈ decls.map InputDecl.spec := hs ▸ List.mem_map_of_mem hmem
  obtain ⟨decl₀, hmem₀, he⟩ := List.mem_map.mp hspec
  exact (h decl₀ hmem₀).of_spec he.symm

end Attaching

end Aelkey.Device
