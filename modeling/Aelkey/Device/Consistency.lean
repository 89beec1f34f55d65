import Aelkey.Device.Changes
import Aelkey.Lib.Run
import Mathlib.Data.Int.Order.Basic

set_option relaxedAutoImplicit false
set_option autoImplicit false

/-!
# The tables belong together

The invariant of the device layer: what the dispatchers and backends have in their tables are the
attached devices. With it a detach finds what it looks for, so that it always succeeds on an
attached device; without it the source's early returns would have to be considered everywhere.

## Main definitions

* `Aelkey.Device.Core` — the invariant of the tables.
* `Aelkey.Device.Consistent` — with the declarations.
* `Aelkey.Device.detached` — which id an action detaches, if it is attached.

## Main results

* `Aelkey.Device.detach_cases` — detaching an attached device succeeds.
* `Aelkey.Device.step_cases` — every action attaches, detaches one device, or does nothing.
* `Aelkey.Device.consistent_step`, `Aelkey.Device.always_consistent` — every action keeps the
  invariant, which holds in all states of every run.

## Design

The frame buffers are not part of the invariant: a hang-up can leave one behind.
-/

namespace Aelkey.Device

/-- `id` is attached with the map entry `decl`, of the given type. -/
def AttachedAs (s : State) (id : String) (type : DeviceType) (decl : InputDecl) : Prop :=
  s.inputMap.lookup id = some decl ∧ decl.type = type

/-- The tables of the dispatchers and backends hold exactly the attached devices. -/
structure Core (script : Script) (s : State) : Prop where
  ids : ∀ id decl, s.inputMap.lookup id = some decl → decl.id = id
  declared : ∀ id decl, s.inputMap.lookup id = some decl → Declared script decl
  known : ∀ id decl, s.inputMap.lookup id = some decl → decl.type ≠ .other
  opened : ∀ id decl, s.inputMap.lookup id = some decl → decl.type.isNode = true →
    0 ≤ decl.fd ∧ decl.fd ∈ s.kernel.files
  distinct : ∀ id decl id' decl', s.inputMap.lookup id = some decl →
    s.inputMap.lookup id' = some decl' → decl.type.isNode = true → decl'.type.isNode = true →
    decl.fd = decl'.fd → id = id'
  evdev : ∀ fd id, s.evdev.devices.lookup fd = some id ↔
    ∃ decl, AttachedAs s id .evdev decl ∧ decl.fd = fd
  idev : ∀ fd, fd ∈ s.evdev.idevMap ↔ fd ∈ s.evdev.devices
  hidraw : ∀ fd id, (∃ stored, s.hidraw.devices.lookup fd = some stored ∧ stored.id = id) ↔
    ∃ decl, AttachedAs s id .hidraw decl ∧ decl.fd = fd
  libusb : ∀ id, id ∈ s.libusb.devices ↔ ∃ decl, AttachedAs s id .libusb decl
  gatt : ∀ id, id ∈ s.gatt.gattPaths ↔ ∃ decl, AttachedAs s id .gatt decl
  conn : ∀ id decl, AttachedAs s id .gatt decl → s.gatt.conn = true

/-- The invariant of the device layer. -/
structure Consistent (script : Script) (s : State) : Prop extends Core script s where
  inputDecls : ∀ decl ∈ s.inputDecls, Declared script decl

/-! ## The changes keep the invariant -/

section Changes

variable {script : Script} {s s' : State}

/-- Nothing is attached at first. -/
lemma core_init : Core script {} := by
  refine ⟨?_, ?_, ?_, ?_, ?_, ?_, ?_, ?_, ?_, ?_, ?_⟩ <;> simp [AttachedAs]

/-- Doing nothing keeps the invariant. -/
lemma Untouched.core (h : Untouched s s') (hc : Core script s) : Core script s' := by
  have hfiles : ∀ fd, fd ∈ s'.kernel.files ↔ fd ∈ s.kernel.files := fun fd => by
    rw [Table.mem_iff_lookup, Table.mem_iff_lookup, h.files]
  constructor
  case ids => simpa only [h.inputMap] using hc.ids
  case declared => simpa only [h.inputMap] using hc.declared
  case known => simpa only [h.inputMap] using hc.known
  case opened => simpa only [h.inputMap, hfiles] using hc.opened
  case distinct => simpa only [h.inputMap] using hc.distinct
  case evdev => simpa only [AttachedAs, h.inputMap, h.evdev] using hc.evdev
  case idev => simpa only [h.idev, h.evdev] using hc.idev
  case hidraw => simpa only [AttachedAs, h.inputMap, h.hidraw] using hc.hidraw
  case libusb => simpa only [AttachedAs, h.inputMap, h.libusb] using hc.libusb
  case gatt => simpa only [AttachedAs, h.inputMap, h.gatt] using hc.gatt
  case conn =>
    intro id decl ha
    exact h.conn (hc.conn id decl (by simpa only [AttachedAs, h.inputMap] using ha))

variable {decl : InputDecl}

/-! ### Attaching -/

/-- The map after an attach. -/
lemma Attaches.lookup (ha : Attaches script s s' decl) (id : String) :
    s'.inputMap.lookup id = if id = decl.id then some decl else s.inputMap.lookup id := by
  rw [ha.inputMap, Table.lookup_insert]

/-- An id is attached after an attach iff it is the new one or was attached before. -/
lemma Attaches.attachedAs (ha : Attaches script s s' decl) (id : String) (type : DeviceType)
    (d : InputDecl) :
    AttachedAs s' id type d ↔
      id = decl.id ∧ d = decl ∧ decl.type = type ∨ AttachedAs s id type d := by
  have hnone : s.inputMap.lookup decl.id = none := AList.lookup_eq_none.mpr ha.fresh
  unfold AttachedAs
  rw [ha.lookup]
  by_cases hid : id = decl.id
  · subst hid
    rw [if_pos rfl, hnone]
    constructor
    · intro ⟨he, ht⟩
      cases he
      exact .inl ⟨rfl, rfl, ht⟩
    · rintro (⟨-, rfl, ht⟩ | ⟨he, -⟩)
      · exact ⟨rfl, ht⟩
      · cases he
  · rw [if_neg hid]
    simp [hid]

/-- No attached device has the descriptor that an attach opens. -/
lemma Attaches.fd_ne (ha : Attaches script s s' decl) (hc : Core script s)
    (hn : decl.type.isNode = true) {id : String} {d : InputDecl}
    (h : s.inputMap.lookup id = some d) (hd : d.type.isNode = true) : d.fd ≠ decl.fd := by
  intro he
  have hopen := (hc.opened id d h hd).2
  rw [he, Table.mem_iff_lookup] at hopen
  obtain ⟨node, hnode⟩ := hopen
  rw [(ha.unused hn).2] at hnode
  cases hnode

/-- A table by descriptor, seen as a relation, after an attach. -/
lemma Attaches.nodeTable (ha : Attaches script s s' decl) (hc : Core script s) {type : DeviceType}
    (htype : type.isNode = true) {R R' : ℤ → String → Prop}
    (hR : ∀ fd id, R fd id ↔ ∃ d, AttachedAs s id type d ∧ d.fd = fd)
    (hR' : ∀ fd id, R' fd id ↔ if decl.type = type ∧ fd = decl.fd then id = decl.id else R fd id)
    (fd : ℤ) (id : String) : R' fd id ↔ ∃ d, AttachedAs s' id type d ∧ d.fd = fd := by
  rw [hR']
  split_ifs with hcond
  · obtain ⟨ht, rfl⟩ := hcond
    constructor
    · rintro rfl
      exact ⟨decl, (ha.attachedAs _ _ _).mpr (.inl ⟨rfl, rfl, ht⟩), rfl⟩
    · intro ⟨d, hd, hfd⟩
      rcases (ha.attachedAs _ _ _).mp hd with ⟨hid, -, -⟩ | ⟨hd, hdt⟩
      · exact hid
      · exact absurd hfd (ha.fd_ne hc (ht ▸ htype) hd (hdt ▸ htype))
  · rw [hR]
    refine exists_congr fun d => and_congr_left fun hfd => ?_
    rw [ha.attachedAs]
    constructor
    · exact .inr
    · rintro (⟨-, rfl, ht⟩ | hd)
      · exact absurd ⟨ht, hfd.symm⟩ hcond
      · exact hd

/-- A table by device id after an attach. -/
lemma Attaches.idTable (ha : Attaches script s s' decl) {type : DeviceType}
    {K K' : String → Prop} (hK : ∀ id, K id ↔ ∃ d, AttachedAs s id type d)
    (hK' : ∀ id, K' id ↔ decl.type = type ∧ id = decl.id ∨ K id) (id : String) :
    K' id ↔ ∃ d, AttachedAs s' id type d := by
  rw [hK', hK]
  simp only [ha.attachedAs, exists_or]
  apply or_congr_left
  constructor
  · intro ⟨ht, hid⟩
    exact ⟨decl, hid, rfl, ht⟩
  · rintro ⟨d, hid, -, ht⟩
    exact ⟨ht, hid⟩

/-- Attaching a device keeps the invariant.

**Proof sketch.** The new entry has an unused descriptor, so that it is different from all others,
and every table gets its entry if and only if it is the table of the type. -/
lemma Attaches.core (ha : Attaches script s s' decl) (hc : Core script s) : Core script s' := by
  obtain ⟨devnode, hfiles⟩ := ha.files
  obtain ⟨stored, hstored, hhidraw⟩ := ha.hidraw
  have hentry : ∀ id d, s'.inputMap.lookup id = some d →
      id = decl.id ∧ d = decl ∨ s.inputMap.lookup id = some d := by
    intro id d h
    rcases (ha.attachedAs id d.type d).mp ⟨h, rfl⟩ with ⟨hid, hd, -⟩ | ⟨h, -⟩
    · exact .inl ⟨hid, hd⟩
    · exact .inr h
  constructor
  case ids =>
    intro id d h
    rcases hentry id d h with ⟨rfl, rfl⟩ | h
    exacts [rfl, hc.ids id d h]
  case declared =>
    intro id d h
    rcases hentry id d h with ⟨rfl, rfl⟩ | h
    exacts [ha.declared, hc.declared id d h]
  case known =>
    intro id d h
    rcases hentry id d h with ⟨rfl, rfl⟩ | h
    exacts [ha.known, hc.known id d h]
  case opened =>
    intro id d h hn
    rw [Table.mem_iff_lookup, hfiles]
    rcases hentry id d h with ⟨rfl, rfl⟩ | h
    · exact ⟨(ha.unused hn).1, devnode, by rw [if_pos ⟨hn, rfl⟩]⟩
    · obtain ⟨hpos, hopen⟩ := hc.opened id d h hn
      obtain ⟨node, hnode⟩ := Table.mem_iff_lookup.mp hopen
      rw [if_neg fun hcond => ha.fd_ne hc hcond.1 h hn hcond.2]
      exact ⟨hpos, node, hnode⟩
  case distinct =>
    intro id d id' d' h h' hn hn' hfd
    rcases hentry id d h with ⟨rfl, rfl⟩ | h <;> rcases hentry id' d' h' with ⟨rfl, rfl⟩ | h'
    · rfl
    · exact absurd hfd.symm (ha.fd_ne hc hn h' hn')
    · exact absurd hfd (ha.fd_ne hc hn' h hn)
    · exact hc.distinct id d id' d' h h' hn hn' hfd
  case evdev =>
    refine ha.nodeTable hc rfl hc.evdev fun fd id => ?_
    rw [ha.evdev]
    split_ifs
    · exact ⟨fun h => (Option.some.inj h).symm, fun h => congrArg some h.symm⟩
    · exact Iff.rfl
  case idev =>
    intro fd
    rw [ha.idev, hc.idev, Table.mem_iff_lookup, Table.mem_iff_lookup, ha.evdev]
    split_ifs with hcond <;> simp [hcond]
  case hidraw =>
    refine ha.nodeTable hc rfl hc.hidraw fun fd id => ?_
    rw [hhidraw]
    split_ifs
    · constructor
      · rintro ⟨stored', he, rfl⟩
        cases he
        exact hstored
      · rintro rfl
        exact ⟨stored, rfl, hstored⟩
    · exact Iff.rfl
  case libusb => exact ha.idTable hc.libusb ha.libusb
  case gatt => exact ha.idTable hc.gatt ha.gatt
  case conn =>
    intro id d h
    rcases (ha.attachedAs id .gatt d).mp h with ⟨-, -, ht⟩ | h
    · exact ha.conn (.inr ht)
    · exact ha.conn (.inl (hc.conn id d h))

/-- A sequence of attaches keeps the invariant. -/
lemma Opens.core (ho : Opens script s s') (hc : Core script s) : Core script s' := by
  induction ho with
  | refl => exact hc
  | untouched h _ ih => exact ih (h.core hc)
  | attaches h _ ih => exact ih (h.core hc)

/-! ### Detaching -/

variable {freed : String} {noted : Bool}

/-- The map after a detach. -/
lemma Detaches.lookup (hd : Detaches script s s' decl freed noted) (id : String) :
    s'.inputMap.lookup id = if id = decl.id then none else s.inputMap.lookup id := by
  rw [hd.inputMap, Table.lookup_erase]

/-- An id is attached after a detach iff it was before and is not the detached one. -/
lemma Detaches.attachedAs (hd : Detaches script s s' decl freed noted) (id : String)
    (type : DeviceType) (d : InputDecl) :
    AttachedAs s' id type d ↔ id ≠ decl.id ∧ AttachedAs s id type d := by
  unfold AttachedAs
  rw [hd.lookup]
  by_cases hid : id = decl.id
  · simp [hid]
  · simp [hid]

/-- A table by descriptor, seen as a relation, after a detach. -/
lemma Detaches.nodeTable (hd : Detaches script s s' decl freed noted) (hc : Core script s)
    {type : DeviceType} (htype : type.isNode = true) {R R' : ℤ → String → Prop}
    (hR : ∀ fd id, R fd id ↔ ∃ d, AttachedAs s id type d ∧ d.fd = fd)
    (hR' : ∀ fd id, R' fd id ↔ ¬ (decl.type = type ∧ fd = decl.fd) ∧ R fd id)
    (fd : ℤ) (id : String) : R' fd id ↔ ∃ d, AttachedAs s' id type d ∧ d.fd = fd := by
  rw [hR', hR]
  constructor
  · rintro ⟨hcond, d, ha, rfl⟩
    refine ⟨d, (hd.attachedAs _ _ _).mpr ⟨?_, ha⟩, rfl⟩
    rintro rfl
    have he : d = decl := Option.some.inj (ha.1.symm.trans hd.entry)
    exact hcond ⟨he ▸ ha.2, by rw [he]⟩
  · rintro ⟨d, ha, rfl⟩
    obtain ⟨hne, ha⟩ := (hd.attachedAs _ _ _).mp ha
    refine ⟨?_, d, ha, rfl⟩
    intro ⟨ht, hfd⟩
    exact hne (hc.distinct id d decl.id decl ha.1 hd.entry (ha.2 ▸ htype) (ht ▸ htype) hfd)

/-- A table by device id after a detach. -/
lemma Detaches.idTable (hd : Detaches script s s' decl freed noted) {type : DeviceType}
    {K K' : String → Prop} (hK : ∀ id, K id ↔ ∃ d, AttachedAs s id type d)
    (hK' : ∀ id, K' id ↔ ¬ (decl.type = type ∧ id = decl.id) ∧ K id) (id : String) :
    K' id ↔ ∃ d, AttachedAs s' id type d := by
  rw [hK', hK]
  constructor
  · intro ⟨hcond, d, ha⟩
    refine ⟨d, (hd.attachedAs _ _ _).mpr ⟨?_, ha⟩⟩
    rintro rfl
    have he : d = decl := Option.some.inj (ha.1.symm.trans hd.entry)
    exact hcond ⟨he ▸ ha.2, rfl⟩
  · intro ⟨d, ha⟩
    obtain ⟨hne, ha⟩ := (hd.attachedAs _ _ _).mp ha
    exact ⟨fun hcond => hne hcond.2, d, ha⟩

/-- Detaching a device keeps the invariant.

**Proof sketch.** Every table loses the entry of the device if it is the table of the type; the
descriptor that is closed belongs to no other device. -/
lemma Detaches.core (hd : Detaches script s s' decl freed noted) (hc : Core script s) :
    Core script s' := by
  have hentry : ∀ id d, s'.inputMap.lookup id = some d →
      id ≠ decl.id ∧ s.inputMap.lookup id = some d := by
    intro id d h
    obtain ⟨hne, h, -⟩ := (hd.attachedAs id d.type d).mp ⟨h, rfl⟩
    exact ⟨hne, h⟩
  constructor
  case ids => exact fun id d h => hc.ids id d (hentry id d h).2
  case declared => exact fun id d h => hc.declared id d (hentry id d h).2
  case known => exact fun id d h => hc.known id d (hentry id d h).2
  case opened =>
    intro id d h hn
    obtain ⟨hne, h⟩ := hentry id d h
    obtain ⟨hpos, hopen⟩ := hc.opened id d h hn
    refine ⟨hpos, ?_⟩
    rw [Table.mem_iff_lookup] at hopen ⊢
    rw [hd.files, if_neg]
    · exact hopen
    · intro ⟨ht, hfd⟩
      exact hne (hc.distinct id d decl.id decl h hd.entry hn (by rw [ht]; rfl) hfd)
  case distinct =>
    exact fun id d id' d' h h' =>
      hc.distinct id d id' d' (hentry id d h).2 (hentry id' d' h').2
  case evdev =>
    refine hd.nodeTable hc rfl hc.evdev fun fd id => ?_
    rw [hd.evdev]
    split_ifs with hcond <;> simp [hcond]
  case idev =>
    intro fd
    rw [hd.idev, hc.idev, Table.mem_iff_lookup, Table.mem_iff_lookup, hd.evdev]
    split_ifs with hcond <;> simp [hcond]
  case hidraw =>
    refine hd.nodeTable hc rfl hc.hidraw fun fd id => ?_
    rw [hd.hidraw]
    split_ifs with hcond <;> simp [hcond]
  case libusb => exact hd.idTable hc.libusb hd.libusb
  case gatt => exact hd.idTable hc.gatt hd.gatt
  case conn =>
    intro id d h
    exact hd.conn (hc.conn id d ((hd.attachedAs id .gatt d).mp h).2)

end Changes

/-! ## Detaching an attached device -/

section Detaching

variable {script : Script} {s : State}

/-- `remove_device` finds the descriptor of an attached hidraw device. -/
lemma hidrawFind_eq (hc : Core script s) {id : String} {decl : InputDecl}
    (h : AttachedAs s id .hidraw decl) : hidrawFind s.hidraw.devices id = some decl.fd := by
  have hmem : ∀ fd, fd ∈ (s.hidraw.devices.entries.filter fun e => e.2.id = id).map (·.1) ↔
      fd = decl.fd := by
    intro fd
    have hiff : (∃ stored, s.hidraw.devices.lookup fd = some stored ∧ stored.id = id) ↔
        fd = decl.fd := by
      rw [hc.hidraw]
      constructor
      · rintro ⟨d, hd, rfl⟩
        rw [Option.some.inj (hd.1.symm.trans h.1)]
      · rintro rfl
        exact ⟨decl, h, rfl⟩
    rw [← hiff, List.mem_map]
    constructor
    · rintro ⟨⟨fd', stored⟩, he, rfl⟩
      obtain ⟨he, hid⟩ := List.mem_filter.mp he
      exact ⟨stored, AList.mem_lookup_iff.mpr he, by simpa using hid⟩
    · intro ⟨stored, he, hid⟩
      refine ⟨⟨fd, stored⟩, List.mem_filter.mpr ⟨AList.mem_lookup_iff.mp he, ?_⟩, rfl⟩
      simpa using hid
  rw [hidrawFind, List.min?_eq_some_iff]
  exact ⟨(hmem _).mpr rfl, fun fd hfd => ((hmem fd).mp hfd).ge⟩

/-- The end of a detach: the map entry and the frame buffer. -/
def leave (s : State) (id freed : String) : State :=
  { s with inputMap := s.inputMap.erase id, frames := s.frames.erase freed }

/-- What the `detach` of a backend does for an attached device: it succeeds, and the device is
detached once it has been removed from the map. -/
def BackendDetaches (script : Script) (s : State) (decl : InputDecl) (freed : String)
    (r : State × InputDecl × Bool) : Prop :=
  r.2.2 = true ∧ r.2.1.id = decl.id ∧ r.2.1.onState = decl.onState ∧
    Detaches script s (leave r.1 decl.id freed) decl freed false

variable {decl : InputDecl}

/-- Closing an evdev device. -/
lemma evdevClose_cases (hc : Core script s) (freed : String)
    (h : AttachedAs s decl.id .evdev decl) :
    BackendDetaches script s decl freed ((evdevClose s decl).1, (evdevClose s decl).2, true) := by
  obtain ⟨hl, ht⟩ := h
  have hpos := (hc.opened _ _ hl (by rw [ht]; rfl)).1
  rw [evdevClose, if_pos hpos]
  refine ⟨rfl, rfl, rfl, hl, fun fd => ?_, fun fd => ?_, fun fd => ?_, fun fd => ?_, fun id => ?_,
    fun id => ?_, id, rfl, rfl, fun id => ?_, rfl, rfl⟩
  · simp only [leave, unregisterFd, Epoll.Kernel.close_files, Epoll.Kernel.ctlDel_files,
      Table.lookup_erase, ht, true_and]
  · simp only [leave, Table.lookup_erase, ht, true_and]
  · simp [leave, AList.mem_erase, ht]
  · simp [leave, ht]
  · simp [leave, ht]
  · simp [leave, ht]
  · simp [leave, AList.mem_erase]

/-- Removing a hidraw device. Its descriptor stays open. -/
lemma hidrawRemove_cases (hc : Core script s) (freed : String)
    (h : AttachedAs s decl.id .hidraw decl) :
    BackendDetaches script s decl freed (hidrawRemove s decl.id, decl, true) := by
  have ht := h.2
  refine ⟨rfl, rfl, rfl, ?_⟩
  rw [hidrawRemove, hidrawFind_eq hc h]
  refine ⟨h.1, fun fd => ?_, fun fd => ?_, fun fd => ?_, fun fd => ?_, fun id => ?_,
    fun id => ?_, id, rfl, rfl, fun id => ?_, rfl, rfl⟩
  · simp [leave, unregisterFd, ht]
  · simp [leave, ht]
  · simp [leave, ht]
  · simp only [leave, Table.lookup_erase, ht, true_and]
  · simp [leave, ht]
  · simp [leave, ht]
  · simp [leave, AList.mem_erase]

/-- Releasing a libusb device: its handle is there. -/
lemma libusbDetach_cases (hc : Core script s) (freed : String)
    (h : AttachedAs s decl.id .libusb decl) :
    BackendDetaches script s decl freed
      ((libusbDetach s decl.id).1, decl, (libusbDetach s decl.id).2) := by
  obtain ⟨handle, hhandle⟩ := Table.mem_iff_lookup.mp ((hc.libusb decl.id).mpr ⟨decl, h⟩)
  obtain ⟨hl, ht⟩ := h
  rw [libusbDetach, hhandle]
  refine ⟨rfl, rfl, rfl, hl, fun fd => ?_, fun fd => ?_, fun fd => ?_, fun fd => ?_, fun id => ?_,
    fun id => ?_, id, rfl, rfl, fun id => ?_, rfl, rfl⟩
  · simp [leave, ht]
  · simp [leave, ht]
  · simp [leave, ht]
  · simp [leave, ht]
  · simp [leave, AList.mem_erase, ht]
  · simp [leave, ht]
  · simp [leave, AList.mem_erase]

/-- Detaching a gatt device: there is a connection. -/
lemma gattDetach_cases (hc : Core script s) (freed : String) (h : AttachedAs s decl.id .gatt decl) :
    BackendDetaches script s decl freed
      ((gattDetach s decl.id).1, decl, (gattDetach s decl.id).2) := by
  have hconn := hc.conn decl.id decl h
  obtain ⟨hl, ht⟩ := h
  rw [gattDetach, if_neg (by simp [hconn])]
  refine ⟨rfl, rfl, rfl, hl, fun fd => ?_, fun fd => ?_, fun fd => ?_, fun fd => ?_, fun id => ?_,
    fun id => ?_, id, rfl, rfl, fun id => ?_, rfl, rfl⟩
  · simp [leave, ht]
  · simp [leave, ht]
  · simp [leave, ht]
  · simp [leave, ht]
  · simp [leave, ht]
  · simp [leave, AList.mem_erase, ht]
  · simp [leave, AList.mem_erase]

/-- The `detach` of the backend of an attached device. -/
lemma backendDetach_cases (hc : Core script s) (freed : String)
    (h : s.inputMap.lookup decl.id = some decl) :
    BackendDetaches script s decl freed (backendDetach s decl.id decl) := by
  unfold backendDetach
  split
  · next ht => exact evdevClose_cases hc freed ⟨h, ht⟩
  · next ht => exact hidrawRemove_cases hc freed ⟨h, ht⟩
  · next ht => exact libusbDetach_cases hc freed ⟨h, ht⟩
  · next ht => exact gattDetach_cases hc freed ⟨h, ht⟩
  · next ht => exact absurd ht (hc.known _ _ h)

/-- **Detaching an attached device** succeeds. -/
theorem detach_cases (hc : Core script s) {id : String} (h : s.inputMap.lookup id = some decl)
    (freed : String) :
    ∃ s' removed, detach s id freed = (s', some removed) ∧ removed.id = decl.id ∧
      removed.onState = decl.onState ∧ Detaches script s s' decl freed false := by
  obtain rfl := hc.ids id decl h
  have hb := backendDetach_cases hc freed h
  rw [detach, h]
  dsimp only
  rcases hr : backendDetach s decl.id decl with ⟨s₁, removed, ok⟩
  rw [hr] at hb
  obtain ⟨rfl, hid, hon, hd⟩ := hb
  exact ⟨leave s₁ decl.id freed, removed, rfl, hid, hon, hd⟩

/-- Detaching with a notification. -/
lemma detachAndNotify_cases (hc : Core script s) {id : String}
    (h : s.inputMap.lookup id = some decl) (freed : String) :
    Detaches script s (detachAndNotify script s id freed) decl freed true := by
  obtain ⟨s', removed, he, hid, hon, hd⟩ := detach_cases hc h freed
  have hne : removed.id ≠ "" := hid ▸ (hc.declared id decl h).1
  have hnotes : notify script s'.notes removed "remove" = notify script s.notes decl "remove" := by
    rw [notify, notify, hon, hid, hd.notes, if_neg Bool.false_ne_true]
  rw [detachAndNotify, he]
  dsimp only
  rw [if_neg hne]
  exact { hd with notes := hnotes }

/-- Detaching an id that is not attached does nothing. -/
lemma detach_none {id : String} (h : s.inputMap.lookup id = none) (freed : String) :
    detach s id freed = (s, none) := by
  rw [detach, h]

end Detaching

/-! ## The actions -/

/-- The id an action detaches if it is attached, and the string under which it removes the frame
buffer. -/
def detached (s : State) : Action → Option (String × String)
  | .close devId => some (devId, devId)
  | .udevRemove dev =>
    if dev.subsystem = none then none
    else (remembered dev s.inputDecls).map fun decl => (decl.id, decl.id)
  | .evdevHangup fd freed => (s.evdev.devices.lookup fd).map fun id => (id, freed)
  | .openAll _ _ | .openOne _ _ _ | .udevAdd _ _ _ => none

/-- The actions that may detach a device. -/
def Action.closes : Action → Bool
  | .close _ | .udevRemove _ | .evdevHangup _ _ => true
  | .openAll _ _ | .openOne _ _ _ | .udevAdd _ _ _ => false

/-- The actions that report a device they detach: all but `close_device`. -/
def Action.reports : Action → Bool
  | .close _ => false
  | _ => true

section Actions

variable {script : Script} {s : State}

/-- The watchlist part of an add event attaches nothing. -/
lemma watchAddDecls_untouched (script : Script) (dev : UdevDevice) (ans : Answers)
    (decls : List InputDecl) :
    ∀ (s : State) (i : ℕ), Untouched s (watchAddDecls script dev ans s i decls).1 ∧
      (watchAddDecls script dev ans s i decls).1.inputDecls = s.inputDecls := by
  induction decls with
  | nil => exact fun s _ => ⟨Untouched.refl s, rfl⟩
  | cons decl decls ih =>
    intro s i
    have hone : Untouched s (watchAddDecl script dev (ans i decl) s decl).1 ∧
        (watchAddDecl script dev (ans i decl) s decl).1.inputDecls = s.inputDecls := by
      have hmatch := matchDecl_untouched s decl (ans i decl)
      have hdecls := matchDecl_inputDecls s decl (ans i decl)
      unfold watchAddDecl
      rcases hm : matchDecl s decl (ans i decl) with ⟨s₁, _ | matched⟩ <;> rw [hm] at hmatch hdecls
      · exact ⟨hmatch, hdecls⟩
      · dsimp only
        split_ifs
        · exact ⟨hmatch.trans { Untouched.refl _ with }, hdecls⟩
        · exact ⟨hmatch, hdecls⟩
    obtain ⟨hu, hi⟩ := ih (watchAddDecl script dev (ans i decl) s decl).1 (i + 1)
    exact ⟨hone.1.trans hu, hi.trans hone.2⟩

/-- The watchlist part of an add event, for all entries. -/
lemma watchAdd_untouched (script : Script) (dev : UdevDevice) (ans : String → Answers)
    (entries : List (String × List InputDecl)) :
    ∀ s : State, Untouched s (watchAdd script dev ans s entries).1 ∧
      (watchAdd script dev ans s entries).1.inputDecls = s.inputDecls := by
  induction entries with
  | nil => exact fun s => ⟨Untouched.refl s, rfl⟩
  | cons entry entries ih =>
    intro s
    obtain ⟨hu, hi⟩ := watchAddDecls_untouched script dev (ans entry.1) entry.2 s 0
    obtain ⟨hu', hi'⟩ := ih (watchAddDecls script dev (ans entry.1) s 0 entry.2).1
    exact ⟨hu.trans hu', hi'.trans hi⟩

/-- The state after the watchlist part of an add event. -/
def watched (script : Script) (dev : UdevDevice) (ans : String → Answers) (s : State) : State :=
  let r := watchAdd script dev ans s s.watch.watchMap
  { r.1 with watch := { r.1.watch with watchMap := r.2 } }

/-- The watchlist part attaches nothing and leaves the declarations alone. -/
lemma watched_untouched (script : Script) (dev : UdevDevice) (ans : String → Answers) (s : State) :
    Untouched s (watched script dev ans s) ∧
      (watched script dev ans s).inputDecls = s.inputDecls := by
  obtain ⟨hu, hi⟩ := watchAdd_untouched script dev ans s.watch.watchMap s
  exact ⟨hu.trans { Untouched.refl _ with }, hi⟩

/-- The loops over `input_decls` attach devices, and the declarations stay those of the script. -/
lemma visitInputs_opens (ans : Answers) (wanted : InputDecl → Bool)
    (visit : State → InputDecl → String → Visit) (single : Bool)
    (hdecls : ∀ decl ∈ s.inputDecls, Declared script decl) :
    Opens script s (visitInputs script ans wanted visit single s).1 ∧
      ∀ decl ∈ (visitInputs script ans wanted visit single s).1.inputDecls,
        Declared script decl := by
  obtain ⟨ho, hspec⟩ := visitDecls_opens ans wanted visit single s.inputDecls s 0 hdecls
  refine ⟨ho.trans (Untouched.opens ?_), declared_of_map_spec hspec hdecls⟩
  exact { Untouched.refl _ with }

/-- The parsed declarations are those of the script. -/
lemma parseDecls_declared (s : State) :
    ∀ decl ∈ (parseDecls script s).inputDecls, Declared script decl := by
  intro decl hmem
  obtain ⟨decl₀, h₀, rfl⟩ := List.mem_map.mp hmem
  obtain ⟨hin, hne⟩ := List.mem_filter.mp h₀
  exact ⟨by simpa [InputDecl.spec] using hne, decl₀, hin, rfl⟩

/-- An opening action attaches devices, and the declarations stay those of the script. -/
lemma step_opens (hc : Consistent script s) {a : Action} (ha : a.closes = false) :
    Opens script s (step script s a) ∧
      ∀ decl ∈ (step script s a).inputDecls, Declared script decl := by
  have hparse : ∀ creatable, Untouched s (createOutputsFromDecls creatable (parseDecls script s)) :=
    fun _ => { Untouched.refl _ with }
  cases a with
  | close => cases ha
  | udevRemove => cases ha
  | evdevHangup => cases ha
  | openAll creatable ans =>
    simp only [step, openAll]
    split_ifs
    · exact ⟨.refl s, hc.inputDecls⟩
    · obtain ⟨ho, hd⟩ := visitInputs_opens
        (s := createOutputsFromDecls creatable (parseDecls script s)) ans (fun _ => true)
        (fun _ _ matched => .attach matched) false (parseDecls_declared s)
      exact ⟨(hparse creatable).opens.trans ho, hd⟩
  | openOne creatable ans devId =>
    simp only [step, openOne]
    split_ifs
    · obtain ⟨ho, hd⟩ := visitInputs_opens
        (s := createOutputsFromDecls creatable (parseDecls script s)) ans
        (fun decl => decl.id = devId) (fun _ _ matched => .attach matched) true
        (parseDecls_declared s)
      exact ⟨(hparse creatable).opens.trans ho, hd⟩
    · exact visitInputs_opens ans _ _ true hc.inputDecls
  | udevAdd dev watchAns ans =>
    simp only [step, handleUdevAdd]
    split_ifs
    · exact ⟨.refl s, hc.inputDecls⟩
    · obtain ⟨hu, hi⟩ := watched_untouched script dev watchAns s
      obtain ⟨ho, hd⟩ := visitInputs_opens (s := watched script dev watchAns s) ans
        (fun _ => true)
        (fun s decl matched =>
          if eventNode dev decl.type = some matched then
            if decl.id ∈ s.inputMap then .stop else .attach matched
          else .skip) true (by rw [hi]; exact hc.inputDecls)
      exact ⟨hu.opens.trans ho, hd⟩

/-- A closing action detaches the device it is for, or does nothing. -/
lemma step_closes (hc : Consistent script s) {a : Action} (ha : a.closes = true) :
    (Untouched s (step script s a) ∧ (step script s a).inputDecls = s.inputDecls ∧
        ∀ target, detached s a = some target → target.1 ∉ s.inputMap) ∨
      ∃ decl freed, detached s a = some (decl.id, freed) ∧
        Detaches script s (step script s a) decl freed a.reports := by
  cases a with
  | openAll => cases ha
  | openOne => cases ha
  | udevAdd => cases ha
  | close devId =>
    simp only [step, closeDevice, detached]
    rcases hl : s.inputMap.lookup devId with _ | decl
    · left
      rw [detach_none hl]
      exact ⟨Untouched.refl s, rfl, fun _ he => by cases he; exact AList.lookup_eq_none.mp hl⟩
    · right
      obtain ⟨s', removed, he, -, -, hd⟩ := detach_cases hc.toCore hl devId
      rw [he]
      exact ⟨decl, devId, by rw [hc.ids _ _ hl], hd⟩
  | udevRemove dev =>
    simp only [step, handleUdevRemove, detached]
    split_ifs with hsub
    · exact .inl ⟨Untouched.refl s, rfl, fun _ he => by cases he⟩
    -- the watchlist is another field
    have hu : Untouched s { s with watch := watchRemove script dev s.watch } :=
      { Untouched.refl _ with }
    rcases hr : remembered dev s.inputDecls with _ | decl₀
    · exact .inl ⟨hu, rfl, fun _ he => by cases he⟩
    rcases hl : s.inputMap.lookup decl₀.id with _ | decl
    · left
      dsimp only
      rw [detachAndNotify, detach_none (by exact hl)]
      exact ⟨hu, rfl, fun _ he => by cases he; exact AList.lookup_eq_none.mp hl⟩
    · right
      have hd := detachAndNotify_cases (hu.core hc.toCore) (by exact hl) decl₀.id
      exact ⟨decl, decl₀.id, by rw [Option.map_some, hc.ids _ _ hl], { hd with }⟩
  | evdevHangup fd freed =>
    simp only [step, handleEvdevHangup, detached]
    rcases he : s.evdev.devices.lookup fd with _ | id
    · exact .inl ⟨Untouched.refl s, rfl, fun _ he => by cases he⟩
    obtain ⟨decl, ⟨hl, -⟩, -⟩ := (hc.evdev fd id).mp he
    right
    have hid := hc.ids id decl hl
    dsimp only
    rw [hl]
    have hd := detachAndNotify_cases hc.toCore (hid.symm ▸ hl) freed
    exact ⟨decl, freed, by rw [hid]; rfl, hd⟩

/-- **What an action does**: it attaches devices, it leaves the tables alone, or it detaches one
attached device. -/
theorem step_cases (hc : Consistent script s) (a : Action) :
    (a.closes = false ∧ Opens script s (step script s a)) ∨
      (a.closes = true ∧ Untouched s (step script s a) ∧
        ∀ target, detached s a = some target → target.1 ∉ s.inputMap) ∨
      (a.closes = true ∧ ∃ decl freed, detached s a = some (decl.id, freed) ∧
        Detaches script s (step script s a) decl freed a.reports) := by
  cases ha : a.closes with
  | false => exact .inl ⟨rfl, (step_opens hc ha).1⟩
  | true =>
    rcases step_closes hc ha with ⟨hu, -, hn⟩ | hd
    · exact .inr (.inl ⟨rfl, hu, hn⟩)
    · exact .inr (.inr ⟨rfl, hd⟩)

/-- Nothing is attached and declared at first. -/
lemma consistent_init : Consistent script {} :=
  ⟨core_init, fun _ h => absurd h List.not_mem_nil⟩

/-- **Every action keeps the invariant.** -/
theorem consistent_step (s : State) (a : Action) (hc : Consistent script s) :
    Consistent script (step script s a) := by
  cases ha : a.closes with
  | false =>
    obtain ⟨ho, hd⟩ := step_opens hc ha
    exact ⟨ho.core hc.toCore, hd⟩
  | true =>
    rcases step_closes hc ha with ⟨hu, hi, -⟩ | ⟨decl, freed, -, hd⟩
    · exact ⟨hu.core hc.toCore, by rw [hi]; exact hc.inputDecls⟩
    · exact ⟨hd.core hc.toCore, by rw [hd.inputDecls]; exact hc.inputDecls⟩

/-- **The tables belong together in all states of every run.** -/
theorem always_consistent (as : List Action) :
    Run.Always (step script) (Consistent script) {} as :=
  Run.always_of_inv consistent_step consistent_init as

end Actions

end Aelkey.Device
