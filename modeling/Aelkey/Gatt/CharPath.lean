import Aelkey.Gatt.Resolve

set_option relaxedAutoImplicit false
set_option autoImplicit false

/-!
# Constructed paths and resolved paths

`resolve_char_path` builds the path of a characteristic from the path that `attach` has stored and
two handles in upper case, while BlueZ names its objects in lower case. The stored path is that of
the device if the declaration was matched at device or characteristic level, but that of the service
at service level; and without handles the stored path itself is returned, which never is that of a
characteristic.

## Main definitions

* `Aelkey.Gatt.charPath` — the path BlueZ gives a characteristic.
* `Aelkey.Gatt.CharacteristicAt` — a characteristic of the matched device.
* `Aelkey.Gatt.PathsAgree` — the constructed paths are the resolved ones.

## Main results

* `Aelkey.Gatt.pathsAgree_iff` — they agree iff the declaration is not matched at characteristic
  level, and there is no characteristic with positive handles, or the match is at device level and
  no handle has a letter.
* `Aelkey.Gatt.not_pathsAgree_letters` — a handle with a letter.
-/

namespace Aelkey.Gatt

open Device

variable {w : World} {tree : List ManagedObject} {decl : InputDecl}

/-! ## The statement -/

/-- The path that BlueZ gives the characteristic with handle `m` of the service with handle `n`:
`<device>/service%04x/char%04x`. -/
def charPath (d : List Char) (n m : ℕ) : List Char :=
  d ++ "/service".toList ++ Hex.format4 Hex.lowerDigit n ++ "/char".toList ++
    Hex.format4 Hex.lowerDigit m

/-- `p` is a characteristic, with handles `n` and `m`, of the device on which `devnode` lies. -/
def CharacteristicAt (tree : List ManagedObject) (devnode : String) (n m : ℕ) (p : String) : Prop :=
  (∃ o ∈ tree, o.path = p ∧ .characteristic ∈ o.interfaces) ∧ n < 65536 ∧ m < 65536 ∧
    ∃ d, DevicePath d ∧ d <+: devnode.toList ∧ p.toList = charPath d n m

/-- The declaration names a characteristic, by both handles: it is matched at characteristic
level. -/
def NamesCharacteristic (decl : InputDecl) : Prop := decl.service ≠ 0 ∧ decl.characteristic ≠ 0

/-- **Constructed paths agree with resolved ones**: for every characteristic of the matched device
with positive handles, the path built from the handles is its path; and if the declaration names a
characteristic, the path without handles is the path it was matched with. -/
structure PathsAgree (tree : List ManagedObject) (decl : InputDecl) (devnode : String)
    (s : State) : Prop where
  overrides : ∀ n m p, 0 < n → 0 < m → CharacteristicAt tree devnode n m p →
    resolveCharPath s decl.id n m = p
  primary : NamesCharacteristic decl → resolveCharPath s decl.id (-1) (-1) = devnode

/-! ## What `attach` stores -/

/-- Attaching a gatt device stores its path. -/
lemma getGattPath_attach {s : State} {devnode : String} {a : Attempt} (ht : decl.type = .gatt)
    (ha : (attach s devnode decl a).2.2 = true) :
    getGattPath (attach s devnode decl a).1 decl.id = gattPath devnode ∧ devnode ≠ "" := by
  rw [attach_gatt s devnode a ht] at ha ⊢
  split_ifs at ha ⊢ with hin hfail
  refine ⟨?_, fun he => hfail (.inr he)⟩
  rw [getGattPath, Table.lookup_insert, if_pos rfl]
  rfl

/-- A path without `/char` is stored as it is. -/
lemma gattPath_of_skips {devnode : String} (h : Skips "/char".toList devnode.toList) :
    gattPath devnode = devnode := by
  have hend := h []
  have hnil : findSub "/char".toList [] = none := by decide
  rw [List.append_nil, hnil, Option.map_none] at hend
  rw [gattPath, hend]
  rfl

/-- No `/char` begins in the path of a device. -/
lemma skips_char_device {d : List Char} (hd : DevicePath d) : Skips "/char".toList d :=
  hd.skips rfl (by decide) (by decide)

/-- No `/char` begins in the path of a service. -/
lemma skips_char_service {d s : List Char} (hd : DevicePath d) (hs : Hex4 s) :
    Skips "/char".toList (d ++ "/service".toList ++ s) := by
  have hslash : '/' ∉ s := fun hmem => absurd (hs.2 _ hmem) (by decide)
  have hhandle : Skips "/char".toList s := skips_of_not_mem hslash
  exact ((skips_char_device hd).append (skips_of_clash (by decide))).append hhandle

/-- Of a characteristic the path of its device is stored. -/
lemma gattPath_characteristic {devnode : String} {d s c : List Char} (hd : DevicePath d)
    (hs : Hex4 s) (h : devnode.toList = d ++ "/service".toList ++ s ++ "/char".toList ++ c) :
    gattPath devnode = String.ofList d := by
  have hchar : findSub "/char".toList devnode.toList =
      some (d ++ "/service".toList ++ s).length := by
    rw [h, List.append_assoc (d ++ "/service".toList ++ s)]
    exact findSub_of_skips (skips_char_service hd hs) c
  have hservice : findSub "/service".toList devnode.toList = some d.length := by
    have hskips : Skips "/service".toList d := hd.skips rfl (by decide) (by decide)
    have hfind := findSub_of_skips hskips (s ++ "/char".toList ++ c)
    rw [h, ← hfind]
    simp
  have htake : devnode.toList.take d.length = d := by
    rw [h, List.append_assoc, List.append_assoc, List.append_assoc, List.take_left]
  rw [gattPath, hchar, hservice, if_pos Option.isSome_some]
  dsimp only
  rw [htake]

/-! ## What a declaration is matched with -/

/-- At device level a declaration is matched with a device. -/
lemma resolved_device (hb : BlueZ tree) (hs : decl.service = 0)
    (hne : (resolveGattPaths w (some tree) decl false).1 ≠ "") :
    DevicePath (resolveGattPaths w (some tree) decl false).1.toList := by
  rw [resolveGattPaths_device hs] at hne ⊢
  rcases hl : getMatchingDevices w decl tree with _ | ⟨d, ds⟩
  · rw [hl] at hne
    exact absurd rfl hne
  · have hd : d ∈ getMatchingDevices w decl tree := hl ▸ List.mem_cons_self ..
    exact ((mem_getMatchingDevices hb).mp hd).devicePath hb

/-- With the handle of a service alone, it is matched with a service. -/
lemma resolved_service (hb : BlueZ tree) (hs : decl.service ≠ 0) (hc : decl.characteristic = 0)
    (hne : (resolveGattPaths w (some tree) decl false).1 ≠ "") :
    ∃ d s, DevicePath d ∧ Hex4 s ∧
      (resolveGattPaths w (some tree) decl false).1.toList = d ++ "/service".toList ++ s := by
  obtain ⟨d, -, hsd⟩ := (resolves_of_blueZ w hb decl).service_sound hs hc hne
  exact hsd.path hb

/-- With both handles, it is matched with a characteristic. -/
lemma resolved_characteristic (hb : BlueZ tree) (hs : decl.service ≠ 0)
    (hc : decl.characteristic ≠ 0) (hne : (resolveGattPaths w (some tree) decl false).1 ≠ "") :
    ∃ d s c, DevicePath d ∧ Hex4 s ∧ Hex4 c ∧
      (resolveGattPaths w (some tree) decl false).1.toList =
        d ++ "/service".toList ++ s ++ "/char".toList ++ c := by
  obtain ⟨d, s, -, -, ⟨o, ho, hpath, hi⟩, -⟩ := (resolves_of_blueZ w hb decl).char_sound hs hc hne
  rw [← hpath]
  exact hb.characteristic o ho hi

/-! ## What the handles build -/

/-- The path built from a stored path and two positive handles. -/
lemma resolveCharPath_overrides {s : State} {id gp : String} (hgp : getGattPath s id = gp)
    (hne : gp ≠ "") {n m : ℕ} (hn : 0 < n) (hm : 0 < m) :
    (resolveCharPath s id n m).toList =
      gp.toList ++ "/service".toList ++ Hex.format4 Hex.upperDigit n ++ "/char".toList ++
        Hex.format4 Hex.upperDigit m := by
  rw [resolveCharPath, hgp, if_neg hne, if_neg (by omega), if_neg (by omega),
    String.toList_ofList, Int.toNat_natCast, Int.toNat_natCast]

/-- A number of 16 bits has four characters. -/
lemma length_format4 (digit : ℕ → Char) {n : ℕ} (hn : n < 65536) :
    (Hex.format4 digit n).length = 4 := by
  rw [Hex.format4_of_lt _ hn]
  rfl

/-- **From the path of the device** the path of a characteristic is built iff neither handle has a
letter. -/
lemma built_eq_charPath_iff (d : List Char) {n m : ℕ} (hn : n < 65536) (hm : m < 65536) :
    d ++ "/service".toList ++ Hex.format4 Hex.upperDigit n ++ "/char".toList ++
        Hex.format4 Hex.upperDigit m = charPath d n m ↔
      (∀ x ∈ Hex.lastDigits n, x ≤ 9) ∧ ∀ x ∈ Hex.lastDigits m, x ≤ 9 := by
  rw [← Hex.format4_upper_eq_iff hn, ← Hex.format4_upper_eq_iff hm, charPath]
  constructor
  · intro h
    obtain ⟨h₁, hm'⟩ := List.append_inj' h
      ((length_format4 _ hm).trans (length_format4 _ hm).symm)
    obtain ⟨h₂, -⟩ := List.append_inj' h₁ rfl
    exact ⟨(List.append_inj' h₂
      ((length_format4 _ hn).trans (length_format4 _ hn).symm)).2, hm'⟩
  · intro ⟨hn', hm'⟩
    rw [hn', hm']

/-- **From the path of a service** no path of a characteristic is built: it is too long. -/
lemma built_ne_charPath {d d' s : List Char} (hs : Hex4 s) {n m : ℕ} (hn : n < 65536)
    (hm : m < 65536) (hlen : d.length = d'.length) :
    d ++ "/service".toList ++ s ++ "/service".toList ++ Hex.format4 Hex.upperDigit n ++
      "/char".toList ++ Hex.format4 Hex.upperDigit m ≠ charPath d' n m := by
  intro h
  have hlength := congrArg List.length h
  have hfour := hs.1
  simp only [charPath, List.length_append, length_format4 _ hn, length_format4 _ hm] at hlength
  omega

/-- **At device level** the path of a characteristic is built iff neither handle has a letter. -/
lemma overrides_device_iff {s : State} {id devnode : String} (hd : DevicePath devnode.toList)
    (hgp : getGattPath s id = devnode) (hne : devnode ≠ "") {n m : ℕ} {p : String} (hn : 0 < n)
    (hm : 0 < m) (hat : CharacteristicAt tree devnode n m p) :
    resolveCharPath s id n m = p ↔
      (∀ x ∈ Hex.lastDigits n, x ≤ 9) ∧ ∀ x ∈ Hex.lastDigits m, x ≤ 9 := by
  obtain ⟨-, hn', hm', d, hdp, hprefix, hp⟩ := hat
  have hpre : d <+: devnode.toList ++ [] := by rwa [List.append_nil]
  have heq : d = devnode.toList := devicePath_of_prefix hdp hd hpre
  rw [← String.toList_inj, resolveCharPath_overrides hgp hne hn hm, hp, heq]
  exact built_eq_charPath_iff _ hn' hm'

/-- **At service level** the path that is built is too long. -/
lemma overrides_service_ne {s : State} {id devnode : String} {d h4 : List Char} (hd : DevicePath d)
    (hh4 : Hex4 h4) (hpath : devnode.toList = d ++ "/service".toList ++ h4)
    (hgp : getGattPath s id = devnode) (hne : devnode ≠ "") {n m : ℕ} {p : String} (hn : 0 < n)
    (hm : 0 < m) (hat : CharacteristicAt tree devnode n m p) : resolveCharPath s id n m ≠ p := by
  obtain ⟨-, hn', hm', d', hdp, hprefix, hp⟩ := hat
  intro he
  rw [hpath, List.append_assoc] at hprefix
  have heq : d' = d := devicePath_of_prefix hdp hd hprefix
  rw [← String.toList_inj, resolveCharPath_overrides hgp hne hn hm, hp, hpath, heq] at he
  exact built_ne_charPath hh4 hn' hm' rfl he

/-- **At characteristic level** the path without handles is that of the device, which is shorter. -/
lemma primary_characteristic_ne {s : State} {id devnode : String} {d h4 c4 : List Char}
    (hh4 : Hex4 h4)
    (hpath : devnode.toList = d ++ "/service".toList ++ h4 ++ "/char".toList ++ c4)
    (hgp : getGattPath s id = String.ofList d) (hne : devnode ≠ "") :
    resolveCharPath s id (-1) (-1) ≠ devnode := by
  intro hprimary
  have hlen : d.length < devnode.toList.length := by
    rw [hpath]
    simp only [List.length_append]
    have hfour := hh4.1
    omega
  rw [resolveCharPath, hgp, if_pos (by omega : (-1 : ℤ) ≤ 0 ∧ (-1 : ℤ) ≤ 0)] at hprimary
  split_ifs at hprimary
  · exact hne hprimary.symm
  · rw [← hprimary, String.toList_ofList] at hlen
    exact lt_irrefl _ hlen

/-! ## The exact condition -/

/-- The declaration names no characteristic, and every characteristic of the matched device with
positive handles is reached at device level by handles without a letter. -/
def Constructible (tree : List ManagedObject) (decl : InputDecl) (devnode : String) : Prop :=
  ¬ NamesCharacteristic decl ∧ ∀ n m p, 0 < n → 0 < m → CharacteristicAt tree devnode n m p →
    decl.service = 0 ∧ (∀ x ∈ Hex.lastDigits n, x ≤ 9) ∧ ∀ x ∈ Hex.lastDigits m, x ≤ 9

/-- **Constructed paths agree with resolved ones** exactly if the declaration names no
characteristic, and either it is matched at device level and no handle of a characteristic of the
device has a letter, or the device has no characteristic with positive handles. This holds for all
managed objects that follow the naming of BlueZ and every gatt declaration that attaches.

**Proof sketch.** At device level the stored path is that of the device, and the built path differs
from that of the characteristic in the case of the letters. At service level it is too long. At
characteristic level the path without handles is that of the device. -/
theorem pathsAgree_iff {s : State} {a : Attempt} {devnode : String} (hb : BlueZ tree)
    (ht : decl.type = .gatt) (hmatch : (resolveGattPaths w (some tree) decl false).1 = devnode)
    (hattach : (attach s devnode decl a).2.2 = true) :
    PathsAgree tree decl devnode (attach s devnode decl a).1 ↔
      Constructible tree decl devnode := by
  obtain ⟨hstored, hne⟩ := getGattPath_attach ht hattach
  generalize (attach s devnode decl a).1 = s' at hstored ⊢
  subst hmatch
  set devnode := (resolveGattPaths w (some tree) decl false).1 with hdevnode
  by_cases hs : decl.service = 0
  · have hd : DevicePath devnode.toList := resolved_device hb hs hne
    rw [gattPath_of_skips (skips_char_device hd)] at hstored
    have hnot : ¬ NamesCharacteristic decl := fun h => h.1 hs
    constructor
    · intro h
      refine ⟨hnot, fun n m p hn hm hat => ⟨hs, ?_⟩⟩
      exact (overrides_device_iff hd hstored hne hn hm hat).mp (h.overrides n m p hn hm hat)
    · intro h
      refine ⟨fun n m p hn hm hat => ?_, fun hnames => absurd hnames hnot⟩
      exact (overrides_device_iff hd hstored hne hn hm hat).mpr (h.2 n m p hn hm hat).2
  · by_cases hc : decl.characteristic = 0
    · obtain ⟨d, h4, hd, hh4, hpath⟩ := resolved_service hb hs hc hne
      have hskips : Skips "/char".toList devnode.toList := by
        rw [hpath]
        exact skips_char_service hd hh4
      rw [gattPath_of_skips hskips] at hstored
      constructor
      · intro h
        refine ⟨fun hnames => hnames.2 hc, fun n m p hn hm hat => ?_⟩
        exact absurd (h.overrides n m p hn hm hat)
          (overrides_service_ne hd hh4 hpath hstored hne hn hm hat)
      · intro h
        exact ⟨fun n m p hn hm hat => absurd (h.2 n m p hn hm hat).1 hs,
          fun hnames => absurd hc hnames.2⟩
    · obtain ⟨d, h4, c4, hd, hh4, hc4, hpath⟩ := resolved_characteristic hb hs hc hne
      rw [gattPath_characteristic hd hh4 hpath] at hstored
      refine iff_of_false (fun h => ?_) (fun h => h.1 ⟨hs, hc⟩)
      exact primary_characteristic_ne hh4 hpath hstored hne (h.primary ⟨hs, hc⟩)

/-- The statement for a device whose handles have no letter. -/
theorem pathsAgree_iff_pad :
    PathsAgree (exampleTree "0010" "0011") examplePad exampleDevice
        (attach {} exampleDevice examplePad busAttempt).1 ↔
      Constructible (exampleTree "0010" "0011") examplePad exampleDevice :=
  pathsAgree_iff (w := plainWorld) (blueZ_exampleTree (by decide) (by decide)) rfl (by decide)
    (by decide)

/-- A device is attached at device level. For its characteristic with handles `0x000a` and `0x000b`
a path in upper case is built. -/
theorem not_pathsAgree_letters :
    (resolveGattPaths plainWorld (some (exampleTree "000a" "000b")) examplePad false).1 =
        exampleDevice ∧
      (attach {} exampleDevice examplePad busAttempt).2.2 = true ∧
      resolveCharPath (attach {} exampleDevice examplePad busAttempt).1 "pad" 10 11 =
        exampleDevice ++ "/service000A/char000B" ∧
      ¬ PathsAgree (exampleTree "000a" "000b") examplePad exampleDevice
        (attach {} exampleDevice examplePad busAttempt).1 := by
  refine ⟨by decide, by decide, by decide, fun h => ?_⟩
  have hpath := h.overrides 10 11 (exampleDevice ++ "/service000a/char000b") (by decide) (by decide)
    ⟨by decide, by decide, by decide, exampleDevice.toList, devicePath_exampleDevice, by decide,
      by decide⟩
  revert hpath
  decide

end Aelkey.Gatt
