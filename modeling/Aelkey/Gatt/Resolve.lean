import Aelkey.Gatt.Naming

set_option relaxedAutoImplicit false
set_option autoImplicit false

/-!
# The search for object paths is sound and complete

For managed objects that follow the naming of BlueZ, each of the three scans finds exactly the
objects it should: the devices that match a declaration, the services below them with the wanted
handle, and the characteristics below those. All candidates are carried along, so a characteristic
is found whichever of the devices and services it belongs to.

## Main definitions

* `Aelkey.Gatt.MatchingDevice`, `Aelkey.Gatt.ChildOf` — what should be found.
* `Aelkey.Gatt.Candidate` — a service below a matching device with the wanted handle.
* `Aelkey.Gatt.Resolves` — what `resolve_gatt_paths` should return.

## Main results

* `Aelkey.Gatt.resolves_of_blueZ` — it does, for all managed objects that follow the naming.
-/

namespace Aelkey.Gatt

open Device

variable {w : World} {tree : List ManagedObject} {decl : InputDecl}

/-! ## What should be found -/

/-- A device that matches the declaration by its address, its name or its alias. -/
def MatchingDevice (w : World) (tree : List ManagedObject) (decl : InputDecl) (d : String) : Prop :=
  ∃ o ∈ tree, o.path = d ∧ ∃ props, .device props ∈ o.interfaces ∧
    (decl.uniq ≠ "" ∧ matchString w decl.uniq props.address = true ∨
      decl.name ≠ "" ∧ (matchString w decl.name props.name = true ∨
        matchString w decl.name props.aliasName = true))

/-- An object with the interface, named by the key and a handle below the parent. -/
def ChildOf (iface : Interface) (key : String) (tree : List ManagedObject) (parent : String)
    (handle : ℤ) (p : String) : Prop :=
  (∃ o ∈ tree, o.path = p ∧ iface ∈ o.interfaces) ∧
    ∃ s, Hex4 s ∧ p.toList = parent.toList ++ key.toList ++ s ∧ (Hex.value s : ℤ) = handle

/-- A service of a device. -/
abbrev ServiceOf := ChildOf .service "/service"

/-- A characteristic of a service. -/
abbrev CharacteristicOf := ChildOf .characteristic "/char"

/-- A service of a matching device with the wanted handle, or any if none is wanted. -/
def Candidate (w : World) (tree : List ManagedObject) (decl : InputDecl) (s : String) : Prop :=
  ∃ d h, MatchingDevice w tree decl d ∧ ServiceOf tree d h s ∧
    (decl.service = 0 ∨ h = decl.service)

/-- A characteristic of a service with the wanted handle, or any if none is wanted. -/
def Wanted (tree : List ManagedObject) (decl : InputDecl) (s c : String) : Prop :=
  ∃ h, CharacteristicOf tree s h c ∧ (decl.characteristic = 0 ∨ h = decl.characteristic)

/-- **What `resolve_gatt_paths` should return.** With both handles given: a characteristic with the
handle in a service with the handle of a matching device, whenever there is one. With the handle of
a service alone: such a service. And a result list receives, whenever some candidate service exists,
every wanted characteristic below the candidates exactly once. -/
structure Resolves (w : World) (tree : List ManagedObject) (decl : InputDecl) : Prop where
  char_found : decl.service ≠ 0 → decl.characteristic ≠ 0 →
    ((resolveGattPaths w (some tree) decl false).1 ≠ "" ↔ ∃ d s c, MatchingDevice w tree decl d ∧
      ServiceOf tree d decl.service s ∧ CharacteristicOf tree s decl.characteristic c)
  char_sound : decl.service ≠ 0 → decl.characteristic ≠ 0 →
    (resolveGattPaths w (some tree) decl false).1 ≠ "" → ∃ d s, MatchingDevice w tree decl d ∧
      ServiceOf tree d decl.service s ∧
      CharacteristicOf tree s decl.characteristic (resolveGattPaths w (some tree) decl false).1
  service_found : decl.service ≠ 0 → decl.characteristic = 0 →
    ((resolveGattPaths w (some tree) decl false).1 ≠ "" ↔
      ∃ d s, MatchingDevice w tree decl d ∧ ServiceOf tree d decl.service s)
  service_sound : decl.service ≠ 0 → decl.characteristic = 0 →
    (resolveGattPaths w (some tree) decl false).1 ≠ "" → ∃ d, MatchingDevice w tree decl d ∧
      ServiceOf tree d decl.service (resolveGattPaths w (some tree) decl false).1
  collected : (∃ s, Candidate w tree decl s) →
    ∃ found, (resolveGattPaths w (some tree) decl true).2 = some found ∧ found.Nodup ∧
      ∀ c, c ∈ found ↔ ∃ s, Candidate w tree decl s ∧ Wanted tree decl s c

/-! ## One scan -/

/-- The first scan finds the matching devices. -/
lemma mem_getMatchingDevices (hb : BlueZ tree) {d : String} :
    d ∈ getMatchingDevices w decl tree ↔ MatchingDevice w tree decl d := by
  simp only [getMatchingDevices, List.mem_filterMap, MatchingDevice]
  refine exists_congr fun o => and_congr_right fun ho => ?_
  obtain ⟨i, hi⟩ := hb.single o ho
  have hprops : o.deviceProps = i.props := by
    rw [ManagedObject.deviceProps, hi]
    cases i <;> rfl
  rw [hprops, hi]
  cases i with
  | device props =>
    simp only [Interface.props, Option.ite_none_right_eq_some, Option.some.injEq,
      List.mem_singleton, Interface.device.injEq, exists_eq_left]
    simp [deviceMatches, and_comm]
  | _ => simp [Interface.props]

/-- A loop that adds for each element at most its image under `g` adds a part of the images. -/
lemma flatMap_sublist_map {α β : Type*} {f : α → List β} {g : α → β} {l : List α}
    (h : ∀ a ∈ l, (f a).Sublist [g a]) : (l.flatMap f).Sublist (l.map g) := by
  induction l with
  | nil => exact List.Sublist.refl _
  | cons a l ih =>
    obtain ⟨ha, hl⟩ := List.forall_mem_cons.mp h
    rw [List.flatMap_cons, List.map_cons, ← List.singleton_append]
    exact ha.append (ih hl)

/-- The first scan finds every device once. -/
lemma nodup_getMatchingDevices (hb : BlueZ tree) : (getMatchingDevices w decl tree).Nodup := by
  refine hb.nodup.sublist ?_
  rw [getMatchingDevices, List.filterMap_eq_flatMap_toList]
  refine flatMap_sublist_map fun o _ => ?_
  split
  · split_ifs
    · exact List.Sublist.refl _
    · exact List.nil_sublist _
  · exact List.nil_sublist _

/-- Every object with the interface is named by a parent, the key and a handle, the handle is read
from its path, and of the given parents only its own is a prefix of its path. -/
def Names (iface : Interface) (key dir : String) (tree : List ManagedObject)
    (parents : List String) : Prop :=
  ∀ o ∈ tree, iface ∈ o.interfaces → ∃ q s, Hex4 s ∧
    o.path.toList = q ++ dir.toList ++ s ∧ handleAt key o.path = some (Hex.value s : ℤ) ∧
    ∀ p ∈ parents, p.toList <+: o.path.toList → p.toList = q

section Scan

variable {iface : Interface} {key dir : String} {wanted : ℤ} {parents : List String}

/-- **A scan finds exactly the children** of its parents with the wanted handle.

**Proof sketch.** An object that is found has a parent as a prefix of its path; that is its own
parent, and the handle is its own. A child of a parent has it as a prefix, so it is named by it. -/
lemma mem_getMatchingChildren (hn : Names iface key dir tree parents) {c : String} :
    c ∈ getMatchingChildren iface key wanted parents tree ↔
      ∃ p ∈ parents, ∃ h, ChildOf iface dir tree p h c ∧ (wanted = 0 ∨ h = wanted) := by
  simp only [getMatchingChildren, List.mem_flatMap, List.mem_filterMap]
  refine exists_congr fun p => and_congr_right fun hp => ?_
  constructor
  · intro ⟨o, ho, i, hi, hc⟩
    split_ifs at hc with hcond
    obtain ⟨rfl, hprefix⟩ := hcond
    obtain ⟨q, s, hs, hpath, hhandle, hown⟩ := hn o ho hi
    rw [hhandle] at hc
    simp only [Option.ite_none_right_eq_some, Option.some.injEq] at hc
    obtain ⟨hwanted, rfl⟩ := hc
    have hq := hown p hp (findSub_eq_zero_iff.mp hprefix)
    exact ⟨Hex.value s, ⟨⟨o, ho, rfl, hi⟩, s, hs, by rw [hq, hpath], rfl⟩, hwanted⟩
  · rintro ⟨h, ⟨⟨o, ho, rfl, hi⟩, s, hs, hpath, rfl⟩, hwanted⟩
    obtain ⟨q, s', hs', hpath', hhandle, hown⟩ := hn o ho hi
    have hprefix : p.toList <+: o.path.toList := by
      rw [hpath, List.append_assoc]
      exact List.prefix_append _ _
    have hq := hown p hp hprefix
    have hss : s = s' := by
      rw [hpath', ← hq] at hpath
      exact (List.append_cancel_left hpath).symm
    refine ⟨o, ho, iface, hi, ?_⟩
    rw [if_pos ⟨rfl, findSub_eq_zero_iff.mpr hprefix⟩, hhandle, ← hss]
    exact if_pos hwanted

/-- A child has one parent. -/
lemma ChildOf.parent_unique {p p' c : String} {h h' : ℤ} (hc : ChildOf iface dir tree p h c)
    (hc' : ChildOf iface dir tree p' h' c) : p = p' := by
  obtain ⟨-, s, hs, hpath, -⟩ := hc
  obtain ⟨-, s', hs', hpath', -⟩ := hc'
  have hlen : s.length = s'.length := hs.1.trans hs'.1.symm
  rw [hpath] at hpath'
  have happend := (List.append_inj' hpath' hlen).1
  exact String.toList_injective (List.append_inj' happend rfl).1

/-- A scan finds every child once: an object has one interface and one parent. -/
lemma nodup_getMatchingChildren (hb : BlueZ tree) (hn : Names iface key dir tree parents)
    (hp : parents.Nodup) : (getMatchingChildren iface key wanted parents tree).Nodup := by
  have hone : ∀ p ∈ parents, ∀ c ∈ getMatchingChildren iface key wanted [p] tree,
      ∃ h, ChildOf iface dir tree p h c := by
    intro p hmem c hc
    have hn' : Names iface key dir tree [p] := fun o ho hi => by
      obtain ⟨q, s, hs, hpath, hhandle, hown⟩ := hn o ho hi
      refine ⟨q, s, hs, hpath, hhandle, fun p' hp' => ?_⟩
      rw [List.mem_singleton.mp hp']
      exact hown p hmem
    obtain ⟨p', hp', h, hchild, -⟩ := (mem_getMatchingChildren hn').mp hc
    rw [List.mem_singleton.mp hp'] at hchild
    exact ⟨h, hchild⟩
  have hflat : getMatchingChildren iface key wanted parents tree =
      parents.flatMap fun p => getMatchingChildren iface key wanted [p] tree := by
    simp [getMatchingChildren]
  rw [hflat, List.nodup_flatMap]
  refine ⟨fun p _ => ?_, hp.imp_of_mem fun {p p'} hmem hmem' hne c hc hc' => hne ?_⟩
  · rw [getMatchingChildren, List.flatMap_singleton]
    refine hb.nodup.sublist (flatMap_sublist_map fun o ho => ?_)
    obtain ⟨i, hi⟩ := hb.single o ho
    rw [hi, List.filterMap_cons, List.filterMap_nil]
    split
    · exact List.nil_sublist _
    · next b hsome =>
      split_ifs at hsome
      split at hsome
      · rw [Option.ite_none_right_eq_some] at hsome
        rw [← Option.some.inj hsome.2]
      · cases hsome
  · obtain ⟨h, hchild⟩ := hone p hmem c hc
    obtain ⟨h', hchild'⟩ := hone p' hmem' c hc'
    exact hchild.parent_unique hchild'

end Scan

/-! ## The scans for services and characteristics -/

/-- Services are named by their devices. -/
lemma names_service (hb : BlueZ tree) {devices : List String}
    (hd : ∀ d ∈ devices, DevicePath d.toList) :
    Names .service "service" "/service" tree devices := by
  intro o ho hi
  obtain ⟨d, s, hdev, hs, hpath⟩ := hb.service o ho hi
  refine ⟨d, s, hs, hpath, handleAt_service hdev hs hpath, fun p hp hprefix => ?_⟩
  rw [hpath, List.append_assoc] at hprefix
  exact devicePath_of_prefix (hd p hp) hdev hprefix

/-- Characteristics are named by their services. -/
lemma names_characteristic (hb : BlueZ tree) {services : List String}
    (hs : ∀ p ∈ services, ∃ d s, DevicePath d ∧ Hex4 s ∧
      p.toList = d ++ "/service".toList ++ s) :
    Names .characteristic "char" "/char" tree services := by
  intro o ho hi
  obtain ⟨d, s, c, hdev, hhex, hc, hpath⟩ := hb.characteristic o ho hi
  refine ⟨d ++ "/service".toList ++ s, c, hc, hpath, handleAt_char hdev hhex hc hpath,
    fun p hp hprefix => ?_⟩
  obtain ⟨d', s', hdev', hhex', hpath'⟩ := hs p hp
  rw [hpath, hpath', List.append_assoc (d ++ "/service".toList ++ s)] at hprefix
  rw [hpath']
  exact servicePath_of_prefix hdev' hdev hhex' hhex hprefix

/-- A matching device has the path of a device. -/
lemma MatchingDevice.devicePath (hb : BlueZ tree) {d : String} (h : MatchingDevice w tree decl d) :
    DevicePath d.toList := by
  obtain ⟨o, ho, rfl, props, hi, -⟩ := h
  exact hb.device o ho props hi

/-- The path of a service. -/
lemma ServiceOf.path (hb : BlueZ tree) {d p : String} {h : ℤ} (hs : ServiceOf tree d h p) :
    ∃ d s, DevicePath d ∧ Hex4 s ∧ p.toList = d ++ "/service".toList ++ s := by
  obtain ⟨⟨o, ho, rfl, hi⟩, -⟩ := hs
  exact hb.service o ho hi

/-- The services that the search carries along. -/
abbrev foundServices (w : World) (tree : List ManagedObject) (decl : InputDecl) : List String :=
  getMatchingServices decl (getMatchingDevices w decl tree) tree

/-- The characteristics that the search finds. -/
abbrev foundCharacteristics (w : World) (tree : List ManagedObject) (decl : InputDecl) :
    List String :=
  getMatchingCharacteristics decl (foundServices w tree decl) tree

section Search

variable (hb : BlueZ tree)

include hb

/-- Services are named by the matching devices. -/
lemma names_devices :
    Names .service "service" "/service" tree (getMatchingDevices w decl tree) :=
  names_service hb fun _ hd => ((mem_getMatchingDevices hb).mp hd).devicePath hb

/-- The second scan finds the candidates. -/
lemma mem_getMatchingServices {s : String} :
    s ∈ foundServices w tree decl ↔ Candidate w tree decl s := by
  rw [foundServices, getMatchingServices, mem_getMatchingChildren (names_devices hb)]
  simp only [mem_getMatchingDevices hb, Candidate]
  constructor
  · intro ⟨d, hd, h, hs, hwanted⟩
    exact ⟨d, h, hd, hs, hwanted⟩
  · intro ⟨d, h, hd, hs, hwanted⟩
    exact ⟨d, hd, h, hs, hwanted⟩

/-- Characteristics are named by the candidates. -/
lemma names_services :
    Names .characteristic "char" "/char" tree (foundServices w tree decl) := by
  refine names_characteristic hb fun p hp => ?_
  obtain ⟨d, h, -, hs, -⟩ := (mem_getMatchingServices hb).mp hp
  exact hs.path hb

/-- The third scan finds the wanted characteristics of the candidates. -/
lemma mem_getMatchingCharacteristics {c : String} :
    c ∈ foundCharacteristics w tree decl ↔
      ∃ s, Candidate w tree decl s ∧ Wanted tree decl s c := by
  rw [foundCharacteristics, getMatchingCharacteristics, mem_getMatchingChildren (names_services hb)]
  simp only [mem_getMatchingServices hb, Wanted]

/-- The third scan finds every characteristic once. -/
lemma nodup_getMatchingCharacteristics :
    (foundCharacteristics w tree decl).Nodup :=
  nodup_getMatchingChildren hb (names_services hb)
    (nodup_getMatchingChildren hb (names_devices hb) (nodup_getMatchingDevices hb))

end Search

/-! ## The whole search -/

/-- Without a device there is no service. -/
lemma foundServices_eq_nil (h : getMatchingDevices w decl tree = []) :
    foundServices w tree decl = [] := by
  rw [foundServices, h]
  rfl

/-- Without a service there is no characteristic. -/
lemma foundCharacteristics_eq_nil (h : foundServices w tree decl = []) :
    foundCharacteristics w tree decl = [] := by
  rw [foundCharacteristics, h]
  rfl

/-- Without a result list and without a handle, the first device is returned. -/
lemma resolveGattPaths_device (hs : decl.service = 0) :
    (resolveGattPaths w (some tree) decl false).1 =
      (getMatchingDevices w decl tree).headD "" := by
  rw [resolveGattPaths]
  rcases getMatchingDevices w decl tree with _ | ⟨d, ds⟩
  · rfl
  · dsimp only
    rw [if_pos ⟨hs, rfl⟩]
    rfl

/-- With the handle of a service alone, the first service found is returned. -/
lemma resolveGattPaths_service (hs : decl.service ≠ 0) (hc : decl.characteristic = 0) :
    (resolveGattPaths w (some tree) decl false).1 = (foundServices w tree decl).headD "" := by
  rcases hd : getMatchingDevices w decl tree with _ | ⟨d, ds⟩
  · rw [foundServices_eq_nil hd, resolveGattPaths, hd]
    rfl
  · rcases hf : foundServices w tree decl with _ | ⟨s, ss⟩
    · rw [foundServices, hd] at hf
      simp only [resolveGattPaths, hd, hf, hs, false_and, ↓reduceIte, List.headD_nil]
    · rw [foundServices, hd] at hf
      simp [resolveGattPaths, hd, hf, hs, hc]

/-- With both handles, the first characteristic found is returned. -/
lemma resolveGattPaths_characteristic (hs : decl.service ≠ 0) (hc : decl.characteristic ≠ 0) :
    (resolveGattPaths w (some tree) decl false).1 =
      (foundCharacteristics w tree decl).headD "" := by
  rcases hd : getMatchingDevices w decl tree with _ | ⟨d, ds⟩
  · rw [foundCharacteristics_eq_nil (foundServices_eq_nil hd), resolveGattPaths, hd]
    rfl
  · rcases hf : foundServices w tree decl with _ | ⟨s, ss⟩
    · rw [foundCharacteristics_eq_nil hf]
      rw [foundServices, hd] at hf
      simp only [resolveGattPaths, hd, hf, hs, false_and, ↓reduceIte, List.headD_nil]
    · rw [foundCharacteristics, hf]
      rw [foundServices, hd] at hf
      simp [resolveGattPaths, hd, hf, hs, hc]

/-- With a result list, it receives the characteristics found, if there is a service. -/
lemma resolveGattPaths_collect (h : foundServices w tree decl ≠ []) :
    (resolveGattPaths w (some tree) decl true).2 = some (foundCharacteristics w tree decl) := by
  rcases hd : getMatchingDevices w decl tree with _ | ⟨d, ds⟩
  · exact absurd (foundServices_eq_nil hd) h
  · rcases hf : foundServices w tree decl with _ | ⟨s, ss⟩
    · exact absurd hf h
    · rw [foundCharacteristics, hf]
      rw [foundServices, hd] at hf
      simp only [resolveGattPaths, hd, hf, Bool.not_true, Bool.false_eq_true, and_false,
        ↓reduceIte]
      split_ifs
      · rfl
      · rfl
      · rfl

/-- The first entry of a list of paths without an empty one. -/
lemma headD_ne_empty {l : List String} (h : ∀ p ∈ l, p ≠ "") :
    (l.headD "" ≠ "" ↔ ∃ p, p ∈ l) ∧ (l.headD "" ≠ "" → l.headD "" ∈ l) := by
  cases l with
  | nil => simp
  | cons p l =>
    have hp := h p (List.mem_cons_self ..)
    refine ⟨iff_of_true hp ⟨p, List.mem_cons_self ..⟩, fun _ => List.mem_cons_self ..⟩

/-- A child has a path. -/
lemma ChildOf.ne_empty {iface : Interface} {dir p c : String} {h : ℤ}
    (hc : ChildOf iface dir tree p h c) : c ≠ "" := by
  obtain ⟨-, s, hs, hpath, -⟩ := hc
  rintro rfl
  have hlen := congrArg List.length hpath
  have hfour := hs.1
  simp only [List.length_append, String.toList_empty, List.length_nil] at hlen
  omega

/-- **The search is sound and complete.** For all managed objects that follow the naming of BlueZ
and every declaration, `resolve_gatt_paths` returns what it should.

**Proof sketch.** The result is the first entry of the list of the last scan, or that list itself,
and the lists are those of the candidates and of their wanted characteristics. -/
theorem resolves_of_blueZ (w : World) (hb : BlueZ tree) (decl : InputDecl) :
    Resolves w tree decl := by
  have hservice : decl.service ≠ 0 → ∀ s, Candidate w tree decl s ↔
      ∃ d, MatchingDevice w tree decl d ∧ ServiceOf tree d decl.service s := by
    intro hs s
    constructor
    · rintro ⟨d, h, hd, hsd, hzero | rfl⟩
      · exact absurd hzero hs
      · exact ⟨d, hd, hsd⟩
    · intro ⟨d, hd, hsd⟩
      exact ⟨d, _, hd, hsd, .inr rfl⟩
  have hwanted : decl.characteristic ≠ 0 → ∀ s c, Wanted tree decl s c ↔
      CharacteristicOf tree s decl.characteristic c := by
    intro hc s c
    constructor
    · rintro ⟨h, hsc, hzero | rfl⟩
      · exact absurd hzero hc
      · exact hsc
    · exact fun hsc => ⟨_, hsc, .inr rfl⟩
  have hnonempty : ∀ p ∈ foundServices w tree decl, p ≠ "" := fun p hp => by
    obtain ⟨d, h, -, hs, -⟩ := (mem_getMatchingServices hb).mp hp
    exact hs.ne_empty
  have hnonempty' : ∀ p ∈ foundCharacteristics w tree decl, p ≠ "" := fun p hp => by
    obtain ⟨s, -, h, hc, -⟩ := (mem_getMatchingCharacteristics hb).mp hp
    exact hc.ne_empty
  obtain ⟨hfirst, hmem⟩ := headD_ne_empty hnonempty
  obtain ⟨hfirst', hmem'⟩ := headD_ne_empty hnonempty'
  refine ⟨fun hs hc => ?_, fun hs hc hne => ?_, fun hs hc => ?_, fun hs hc hne => ?_, ?_⟩
  · rw [resolveGattPaths_characteristic hs hc, hfirst']
    simp only [mem_getMatchingCharacteristics hb, hservice hs, hwanted hc]
    constructor
    · intro ⟨c, s, ⟨d, hd, hsd⟩, hsc⟩
      exact ⟨d, s, c, hd, hsd, hsc⟩
    · intro ⟨d, s, c, hd, hsd, hsc⟩
      exact ⟨c, s, ⟨d, hd, hsd⟩, hsc⟩
  · rw [resolveGattPaths_characteristic hs hc] at hne ⊢
    obtain ⟨s, hcand, hsc⟩ := (mem_getMatchingCharacteristics hb).mp (hmem' hne)
    obtain ⟨d, hd, hsd⟩ := (hservice hs s).mp hcand
    exact ⟨d, s, hd, hsd, (hwanted hc s _).mp hsc⟩
  · rw [resolveGattPaths_service hs hc, hfirst]
    simp only [mem_getMatchingServices hb, hservice hs]
    exact exists_comm
  · rw [resolveGattPaths_service hs hc] at hne ⊢
    exact (hservice hs _).mp ((mem_getMatchingServices hb).mp (hmem hne))
  · intro ⟨s, hs⟩
    have hne : foundServices w tree decl ≠ [] :=
      List.ne_nil_of_mem ((mem_getMatchingServices hb).mpr hs)
    exact ⟨_, resolveGattPaths_collect hne, nodup_getMatchingCharacteristics hb,
      fun c => mem_getMatchingCharacteristics hb⟩

/-- The search for a characteristic of an example device, by the name of the device. -/
theorem resolves_of_blueZ_pad :
    Resolves plainWorld (exampleTree "000a" "0011")
        { id := "pad", type := .gatt, name := "Pad", service := 10, characteristic := 17 } ∧
      resolveGattPaths plainWorld (some (exampleTree "000a" "0011"))
          { id := "pad", type := .gatt, name := "Pad", service := 10, characteristic := 17 } false =
        ("/org/bluez/hci0/dev_00_00_00_00_00_01/service000a/char0011", none) :=
  ⟨resolves_of_blueZ plainWorld (blueZ_exampleTree (by decide) (by decide)) _, by decide⟩

end Aelkey.Gatt
