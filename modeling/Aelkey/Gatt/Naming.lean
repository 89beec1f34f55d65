import Aelkey.Gatt.Bus
import Mathlib.Data.Bool.AllAny
import Mathlib.Data.List.Infix

set_option relaxedAutoImplicit false
set_option autoImplicit false

/-!
# The names of BlueZ objects

BlueZ names a device by its adapter and its address, a service below its device and a
characteristic below its service, both by a handle of four hexadecimal digits. The searches of the
backend only test prefixes and look for `service` and `char` in a path; for such names a prefix is
an ancestor, and the first occurrence of the key is the right one.

## Main definitions

* `Aelkey.Gatt.DevicePath`, `Aelkey.Gatt.Hex4` — the parts of a name.
* `Aelkey.Gatt.BlueZ` — a list of managed objects that follows the naming.

## Main results

* `Aelkey.Gatt.devicePath_of_prefix`, `Aelkey.Gatt.servicePath_of_prefix` — a prefix is an ancestor.
* `Aelkey.Gatt.handleAt_service`, `Aelkey.Gatt.handleAt_char` — the handle in a path.
-/

namespace Aelkey.Gatt

open Device

/-! ## Names -/

/-- The path of a device: `/org/bluez/hciN/dev_XX_XX_XX_XX_XX_XX`. -/
def DevicePath (p : List Char) : Prop :=
  ∃ n mac : List Char, (∀ c ∈ n, c.isDigit) ∧ mac.length = 17 ∧
    (∀ c ∈ mac, c = '_' ∨ Hex.IsDigit c) ∧
    p = "/org/bluez/hci".toList ++ n ++ "/dev_".toList ++ mac

/-- Four hexadecimal digits. -/
def Hex4 (s : List Char) : Prop := s.length = 4 ∧ ∀ c ∈ s, Hex.IsDigit c

instance : DecidablePred Hex4 := fun s =>
  @instDecidableAnd _ _ _ (List.decidableBAll Hex.IsDigit s)

/-- The managed objects follow the naming, and each is listed once with its one interface. -/
structure BlueZ (tree : List ManagedObject) : Prop where
  nodup : (tree.map ManagedObject.path).Nodup
  single : ∀ o ∈ tree, ∃ i, o.interfaces = [i]
  device : ∀ o ∈ tree, ∀ props, .device props ∈ o.interfaces → DevicePath o.path.toList
  service : ∀ o ∈ tree, .service ∈ o.interfaces →
    ∃ d s, DevicePath d ∧ Hex4 s ∧ o.path.toList = d ++ "/service".toList ++ s
  characteristic : ∀ o ∈ tree, .characteristic ∈ o.interfaces →
    ∃ d s c, DevicePath d ∧ Hex4 s ∧ Hex4 c ∧
      o.path.toList = d ++ "/service".toList ++ s ++ "/char".toList ++ c

/-! ## The first occurrence of a key -/

/-- No occurrence of the key begins in `pre`, whatever follows. -/
def Skips (key pre : List Char) : Prop :=
  ∀ rest, findSub key (pre ++ rest) = (findSub key rest).map (pre.length + ·)

/-- The key occurs at the beginning iff it is a prefix. -/
lemma findSub_eq_zero_iff {key l : List Char} : findSub key l = some 0 ↔ key <+: l := by
  cases l with
  | nil => simp [findSub]
  | cons c l =>
    rw [findSub]
    split_ifs with h
    · exact iff_of_true rfl h
    · refine iff_of_false ?_ h
      simp

/-- Skipping two parts after each other. -/
lemma Skips.append {key pre pre' : List Char} (h : Skips key pre) (h' : Skips key pre') :
    Skips key (pre ++ pre') := by
  intro rest
  rw [List.append_assoc, h, h', Option.map_map]
  congr 1
  funext n
  simp only [Function.comp_apply, List.length_append]
  omega

/-- One step of the search that finds nothing. -/
lemma findSub_cons_of_not_prefix {key l : List Char} {c : Char} (h : ¬ key <+: c :: l) :
    findSub key (c :: l) = (findSub key l).map (· + 1) := by
  rw [findSub, if_neg h]

/-- No occurrence begins in a part without the first character of the key. -/
lemma skips_of_not_mem {a : Char} {key pre : List Char} (h : a ∉ pre) : Skips (a :: key) pre := by
  intro rest
  induction pre with
  | nil => simp
  | cons c pre ih =>
    obtain ⟨hc, hpre⟩ := not_or.mp (mt List.mem_cons.mpr h)
    have hnot : ¬ a :: key <+: c :: (pre ++ rest) := fun hp =>
      hc (List.cons_prefix_cons.mp hp).1
    rw [List.cons_append, findSub_cons_of_not_prefix hnot, ih hpre, Option.map_map]
    congr 1
    funext n
    simp only [Function.comp_apply, List.length_cons]
    omega

/-- No occurrence begins in a part without the second character of the key, unless its last
character is the first one of the key. -/
lemma skips_of_second_not_mem {a b : Char} {key pre : List Char} (h : b ∉ pre)
    (hlast : pre.getLast? ≠ some a) : Skips (a :: b :: key) pre := by
  intro rest
  induction pre with
  | nil => simp
  | cons c pre ih =>
    obtain ⟨-, hpre⟩ := not_or.mp (mt List.mem_cons.mpr h)
    have hnot : ¬ a :: b :: key <+: c :: (pre ++ rest) := by
      intro hp
      obtain ⟨hac, htail⟩ := List.cons_prefix_cons.mp hp
      cases pre with
      | nil => exact hlast (by rw [hac]; rfl)
      | cons c' pre =>
        obtain ⟨hbc, -⟩ := List.cons_prefix_cons.mp htail
        exact hpre (by rw [hbc]; exact List.mem_cons_self ..)
    have hlast' : pre.getLast? ≠ some a := by
      cases pre with
      | nil => simp
      | cons c' pre => rwa [List.getLast?_cons_cons] at hlast
    rw [List.cons_append, findSub_cons_of_not_prefix hnot, ih hpre hlast', Option.map_map]
    congr 1
    funext n
    simp only [Function.comp_apply, List.length_cons]
    omega

/-- No occurrence begins in a part none of whose ends agrees with the key as far as both go. -/
lemma skips_of_clash {key pre : List Char}
    (h : ∀ t ∈ pre.tails, t ≠ [] → ¬ key <+: t ∧ ¬ t <+: key) : Skips key pre := by
  intro rest
  induction pre with
  | nil => simp
  | cons c pre ih =>
    obtain ⟨hkey, hpre⟩ := h _ ((List.mem_tails _ _).mpr List.suffix_rfl) (List.cons_ne_nil c pre)
    have hrest := ih fun t ht =>
      h t ((List.mem_tails _ _).mpr (((List.mem_tails _ _).mp ht).trans (List.suffix_cons c pre)))
    have hnot : ¬ key <+: c :: (pre ++ rest) := fun hp =>
      (List.prefix_or_prefix_of_prefix hp (List.prefix_append (c :: pre) rest)).elim hkey hpre
    rw [List.cons_append, findSub_cons_of_not_prefix hnot, hrest, Option.map_map]
    congr 1
    funext n
    simp only [Function.comp_apply, List.length_cons]
    omega

/-- The key itself is found behind a part that is skipped. -/
lemma findSub_of_skips {key pre : List Char} (h : Skips key pre) (rest : List Char) :
    findSub key (pre ++ (key ++ rest)) = some pre.length := by
  rw [h, findSub_eq_zero_iff.mpr (List.prefix_append _ _), Option.map_some, Nat.add_zero]

/-! ## A prefix is an ancestor -/

/-- Two texts that end at their first slash agree up to it. -/
lemma eq_of_append_slash_prefix {n n' r r' : List Char} (hn : '/' ∉ n) (hn' : '/' ∉ n')
    (h : n ++ '/' :: r <+: n' ++ '/' :: r') : n = n' ∧ r <+: r' := by
  induction n generalizing n' with
  | nil =>
    cases n' with
    | nil => exact ⟨rfl, (List.cons_prefix_cons.mp h).2⟩
    | cons c' n' =>
      obtain ⟨rfl, -⟩ := List.cons_prefix_cons.mp h
      exact absurd (List.mem_cons_self ..) hn'
  | cons c n ih =>
    cases n' with
    | nil =>
      obtain ⟨rfl, -⟩ := List.cons_prefix_cons.mp h
      exact absurd (List.mem_cons_self ..) hn
    | cons c' n' =>
      obtain ⟨rfl, hrest⟩ := List.cons_prefix_cons.mp h
      obtain ⟨rfl, hr⟩ := ih (fun hm => hn (List.mem_cons_of_mem _ hm))
        (fun hm => hn' (List.mem_cons_of_mem _ hm)) hrest
      exact ⟨rfl, hr⟩

/-- A decimal digit is no other character. -/
lemma not_mem_of_isDigit {n : List Char} (hn : ∀ c ∈ n, c.isDigit) {x : Char}
    (hx : x.isDigit = false) : x ∉ n := by
  intro hmem
  have := hn x hmem
  simp [hx] at this

/-- **A device whose path is a prefix of a path below a device is this device.**

**Proof sketch.** The two adapters end at the same slash, and the addresses have one length. -/
lemma devicePath_of_prefix {d d' rest : List Char} (hd : DevicePath d) (hd' : DevicePath d')
    (h : d <+: d' ++ rest) : d = d' := by
  obtain ⟨n, mac, hn, hlen, -, rfl⟩ := hd
  obtain ⟨n', mac', hn', hlen', -, rfl⟩ := hd'
  have hslash := not_mem_of_isDigit hn (x := '/') (by decide)
  have hslash' := not_mem_of_isDigit hn' (x := '/') (by decide)
  rw [List.append_assoc, List.append_assoc, List.append_assoc, List.append_assoc,
    List.append_assoc, List.prefix_append_right_inj] at h
  obtain ⟨rfl, hr⟩ : n = n' ∧ "dev_".toList ++ mac <+: "dev_".toList ++ (mac' ++ rest) :=
    eq_of_append_slash_prefix hslash hslash' h
  rw [List.prefix_append_right_inj] at hr
  have hmac : mac = mac' :=
    (List.prefix_of_prefix_length_le hr (List.prefix_append mac' rest)
      (by omega)).eq_of_length (by omega)
  rw [hmac]

/-- **A service whose path is a prefix of the path of a characteristic is its service.** -/
lemma servicePath_of_prefix {d d' s s' rest : List Char} (hd : DevicePath d) (hd' : DevicePath d')
    (hs : Hex4 s) (hs' : Hex4 s')
    (h : d ++ "/service".toList ++ s <+: d' ++ "/service".toList ++ s' ++ rest) :
    d ++ "/service".toList ++ s = d' ++ "/service".toList ++ s' := by
  have hdev : d <+: d' ++ ("/service".toList ++ s' ++ rest) := by
    rw [← List.append_assoc, ← List.append_assoc]
    exact ((List.prefix_append d _).trans (List.prefix_append _ s)).trans h
  obtain rfl := devicePath_of_prefix hd hd' hdev
  rw [List.append_assoc, List.append_assoc, List.append_assoc, List.prefix_append_right_inj,
    List.prefix_append_right_inj] at h
  have hlen := hs.1
  have hlen' := hs'.1
  have heq : s = s' :=
    (List.prefix_of_prefix_length_le h (List.prefix_append s' rest)
      (by omega)).eq_of_length (by omega)
  rw [heq]

/-! ## The handle in a path -/

/-- A character that is no hexadecimal digit and no underscore is not in the address. -/
lemma not_mem_address {mac : List Char} (hmac : ∀ c ∈ mac, c = '_' ∨ Hex.IsDigit c) {x : Char}
    (hx : x ≠ '_') (hhex : ¬ Hex.IsDigit x) : x ∉ mac := by
  intro hmem
  rcases hmac x hmem with h | h
  · exact hx h
  · exact hhex h

/-- The path of a device has no `s`. -/
lemma DevicePath.s_not_mem {d : List Char} (hd : DevicePath d) : 's' ∉ d := by
  obtain ⟨n, mac, hn, -, hmac, rfl⟩ := hd
  have hdigit := not_mem_of_isDigit hn (x := 's') (by decide)
  have haddr := not_mem_address hmac (x := 's') (by decide) (by decide)
  simp only [List.mem_append, not_or]
  exact ⟨⟨⟨by decide, hdigit⟩, by decide⟩, haddr⟩

/-- The key `service` is found behind the slash after the device. -/
lemma findSub_service {d : List Char} (hd : DevicePath d) (rest : List Char) :
    findSub "service".toList (d ++ "/service".toList ++ rest) = some (d.length + 1) := by
  have hkey : "service".toList = ['s', 'e', 'r', 'v', 'i', 'c', 'e'] := by decide
  have hpath : d ++ "/service".toList ++ rest = (d ++ ['/']) ++ ("service".toList ++ rest) := by
    have hslash : "/service".toList = '/' :: "service".toList := by decide
    simp [hslash]
  have hmem : 's' ∉ d ++ ['/'] := by
    rw [List.mem_append, not_or]
    exact ⟨hd.s_not_mem, by decide⟩
  have hskips : Skips "service".toList (d ++ ['/']) := hkey ▸ skips_of_not_mem hmem
  rw [hpath, findSub_of_skips hskips, List.length_append, List.length_singleton]

/-- The key `char` is found behind the slash after the service.

**Proof sketch.** No `c` is in front of the `h` of the adapter, and between it and the key there is
no other `h` and, at the end, no `c`. -/
lemma findSub_char {d s : List Char} (hd : DevicePath d) (hs : Hex4 s) (rest : List Char) :
    findSub "char".toList (d ++ "/service".toList ++ s ++ "/char".toList ++ rest) =
      some ((d ++ "/service".toList ++ s).length + 1) := by
  obtain ⟨n, mac, hn, hlen, hmac, rfl⟩ := hd
  have hkey : "char".toList = ['c', 'h', 'a', 'r'] := by decide
  set mid := "ci".toList ++ n ++ "/dev_".toList ++ mac ++ "/service".toList ++ s with hmid
  have hpre : "/org/bluez/hci".toList ++ n ++ "/dev_".toList ++ mac ++ "/service".toList ++ s =
      "/org/bluez/h".toList ++ mid := by
    have hfix : "/org/bluez/hci".toList = "/org/bluez/h".toList ++ "ci".toList := by decide
    simp only [hmid, hfix, List.append_assoc]
  have hslash : "/char".toList = '/' :: "char".toList := by decide
  have hmem : 'h' ∉ mid ++ ['/'] := by
    have hdigit := not_mem_of_isDigit hn (x := 'h') (by decide)
    have haddr := not_mem_address hmac (x := 'h') (by decide) (by decide)
    have hhandle : 'h' ∉ s := fun hmem => absurd (hs.2 _ hmem) (by decide)
    simp only [hmid, List.mem_append, not_or]
    exact ⟨⟨⟨⟨⟨⟨by decide, hdigit⟩, by decide⟩, haddr⟩, by decide⟩, hhandle⟩, by decide⟩
  have hfirst : Skips "char".toList "/org/bluez/h".toList := by
    rw [hkey]
    exact skips_of_not_mem (by decide)
  have hsecond : Skips "char".toList (mid ++ ['/']) := by
    rw [hkey]
    exact skips_of_second_not_mem hmem (by simp)
  have hpath : "/org/bluez/h".toList ++ mid ++ "/char".toList ++ rest =
      ("/org/bluez/h".toList ++ (mid ++ ['/'])) ++ ("char".toList ++ rest) := by
    simp [hslash]
  rw [hpre, hpath, findSub_of_skips (hfirst.append hsecond), ← List.append_assoc,
    List.length_append, List.length_singleton]

/-- A path of a device has no component that begins with a given key, if the key begins with a
slash and is not one of the fixed parts. -/
lemma DevicePath.skips {d key : List Char} (hd : DevicePath d) (hkey : key.head? = some '/')
    (horg : ∀ t ∈ "/org/bluez/hci".toList.tails, t ≠ [] → ¬ key <+: t ∧ ¬ t <+: key)
    (hdev : ∀ t ∈ "/dev_".toList.tails, t ≠ [] → ¬ key <+: t ∧ ¬ t <+: key) : Skips key d := by
  obtain ⟨n, mac, hn, -, hmac, rfl⟩ := hd
  obtain ⟨key, rfl⟩ : ∃ l, key = '/' :: l := by
    cases key with
    | nil => cases hkey
    | cons c l => exact ⟨l, by rw [Option.some.inj hkey]⟩
  have hdigit : Skips ('/' :: key) n :=
    skips_of_not_mem (not_mem_of_isDigit hn (x := '/') (by decide))
  have haddr : Skips ('/' :: key) mac :=
    skips_of_not_mem (not_mem_address hmac (x := '/') (by decide) (by decide))
  exact (((skips_of_clash horg).append hdigit).append (skips_of_clash hdev)).append haddr

/-- Four digits read as their value. -/
lemma toInt_strtoul {s : List Char} (hs : Hex4 s) :
    Hex.toInt (Hex.strtoul s) = (Hex.value s : ℤ) := by
  have hlt : Hex.value s < 16 ^ 4 := hs.1 ▸ Hex.value_lt s
  rw [Hex.strtoul_of_digits hs.2 hs.1.le, Hex.toInt_of_lt (by omega)]

/-- **The handle in the path of a service.** -/
lemma handleAt_service {path : String} {d s : List Char} (hd : DevicePath d) (hs : Hex4 s)
    (h : path.toList = d ++ "/service".toList ++ s) :
    handleAt "service" path = some (Hex.value s : ℤ) := by
  have hdrop : (d ++ "/service".toList ++ s).drop (d.length + 1 + "service".length) = s := by
    have hlen : d.length + 1 + "service".length = (d ++ "/service".toList).length := by
      rw [List.length_append]
      rfl
    rw [hlen, List.drop_left]
  rw [handleAt, h, findSub_service hd, Option.map_some, hdrop, toInt_strtoul hs]

/-- **The handle in the path of a characteristic.** -/
lemma handleAt_char {path : String} {d s c : List Char} (hd : DevicePath d) (hs : Hex4 s)
    (hc : Hex4 c) (h : path.toList = d ++ "/service".toList ++ s ++ "/char".toList ++ c) :
    handleAt "char" path = some (Hex.value c : ℤ) := by
  have hdrop : (d ++ "/service".toList ++ s ++ "/char".toList ++ c).drop
      ((d ++ "/service".toList ++ s).length + 1 + "char".length) = c := by
    have hlen : (d ++ "/service".toList ++ s).length + 1 + "char".length =
        (d ++ "/service".toList ++ s ++ "/char".toList).length := by
      simp only [List.length_append]
      rfl
    rw [hlen, List.drop_left]
  rw [handleAt, h, findSub_char hd hs, Option.map_some, hdrop, toInt_strtoul hc]

/-! ## An example -/

/-- The path of an example device. -/
def exampleDevice : String := "/org/bluez/hci0/dev_00_00_00_00_00_01"

/-- One device named `Pad` with one service and one characteristic, by their handles. -/
def exampleTree (s c : String) : List ManagedObject :=
  [⟨exampleDevice, [.device { name := "Pad" }]⟩,
    ⟨exampleDevice ++ "/service" ++ s, [.service]⟩,
    ⟨exampleDevice ++ "/service" ++ s ++ "/char" ++ c, [.characteristic]⟩]

/-- The example device has the path of a device. -/
lemma devicePath_exampleDevice : DevicePath exampleDevice.toList :=
  ⟨"0".toList, "00_00_00_00_00_01".toList, List.all_iff_forall_prop.mp (by decide), by decide,
    List.all_iff_forall_prop.mp (by decide), by decide⟩

/-- The example follows the naming. -/
lemma blueZ_exampleTree {s c : String} (hs : Hex4 s.toList) (hc : Hex4 c.toList) :
    BlueZ (exampleTree s c) where
  nodup := by
    have hlen : ∀ p q : String, p.toList.length ≠ q.toList.length → p ≠ q := fun p q h he =>
      h (by rw [he])
    have h4 := hs.1
    have h4' := hc.1
    simp only [exampleTree, List.map_cons, List.map_nil, List.nodup_cons, List.mem_cons,
      List.not_mem_nil, or_false, not_or, List.nodup_nil, and_true, not_false_eq_true]
    refine ⟨⟨hlen _ _ ?_, hlen _ _ ?_⟩, hlen _ _ ?_⟩
    · simp only [String.toList_append, List.length_append]
      omega
    · simp only [String.toList_append, List.length_append]
      omega
    · simp only [String.toList_append, List.length_append]
      omega
  single := by simp [exampleTree]
  device := by
    simp only [exampleTree, List.forall_mem_cons]
    refine ⟨fun _ _ => devicePath_exampleDevice, by simp, by simp, by simp⟩
  service := by
    simp only [exampleTree, List.forall_mem_cons]
    refine ⟨by simp, fun _ => ?_, by simp, by simp⟩
    exact ⟨_, _, devicePath_exampleDevice, hs, by simp only [String.toList_append]⟩
  characteristic := by
    simp only [exampleTree, List.forall_mem_cons]
    refine ⟨by simp, by simp, fun _ => ?_, by simp⟩
    exact ⟨_, _, _, devicePath_exampleDevice, hs, hc, by simp only [String.toList_append]⟩

/-- A declaration that the example device matches at device level. -/
def examplePad : InputDecl := { id := "pad", type := .gatt, name := "Pad" }

/-- The bus is up; nothing else is asked. -/
def busAttempt : Attempt := ⟨"", fun _ => -1, false, false, false, false, none, false, true⟩

end Aelkey.Gatt
