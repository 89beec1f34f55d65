import Aelkey.Keyboard.Remapper
import Aelkey.Lib.Run

set_option relaxedAutoImplicit false
set_option autoImplicit false

/-!
# Boot reports of a keyboard

`parse_report` of `aelkey_keyboard.lua` decodes an 8-byte report into the set of its modifiers and
the set of its keys, and returns the difference to the two sets of the report before. The sets are
compared separately. Eight codes can be in both of them, through the modifier byte and through a
usage among the keys; a code that stays in one set while it enters or leaves the other is pressed
while it is down, released twice, or released while it is still named.

## Main definitions

* `Aelkey.Keyboard.modBits`, `Aelkey.Keyboard.hidToKey` — the two tables of codes.
* `Aelkey.Keyboard.parseReport` — decode a report and return the difference.
* `Aelkey.Keyboard.Names` — a report names a code.
* `Aelkey.Keyboard.Faithful` — the events so far are strict, and the keys that are down are those
  that the last report names.
* `Aelkey.Keyboard.Separate` — no modifier changes sides between two reports.

## Main results

* `Aelkey.Keyboard.faithful_iff_separate` — decoding is faithful exactly as long as all consecutive
  reports are separate.
* `Aelkey.Keyboard.not_faithful_doubled` — a modifier in the modifier byte and among the keys.

## Design

A Lua table that is used as a set is a table with values `true`; the order in which `pairs` visits
it is an argument (`Aelkey.Keyboard.ReportOrders`). The logged error of a short report is left out.
-/

namespace Aelkey.Keyboard

open Evdev

/-! ## The model -/

/-- A set of codes: a table from codes to `true`. -/
abbrev Codes := Table String Bool

/-- `MOD_BITS`, by bit number. -/
def modBits : List String :=
  ["KEY_LEFTCTRL", "KEY_LEFTSHIFT", "KEY_LEFTALT", "KEY_LEFTMETA", "KEY_RIGHTCTRL",
    "KEY_RIGHTSHIFT", "KEY_RIGHTALT", "KEY_RIGHTMETA"]

/-- `HID_TO_KEY`, without the entries that are `nil`. -/
def hidToKey : List (UInt8 × String) :=
  [(0x04, "KEY_A"), (0x05, "KEY_B"), (0x06, "KEY_C"), (0x07, "KEY_D"), (0x08, "KEY_E"),
    (0x09, "KEY_F"), (0x0A, "KEY_G"), (0x0B, "KEY_H"), (0x0C, "KEY_I"), (0x0D, "KEY_J"),
    (0x0E, "KEY_K"), (0x0F, "KEY_L"), (0x10, "KEY_M"), (0x11, "KEY_N"), (0x12, "KEY_O"),
    (0x13, "KEY_P"), (0x14, "KEY_Q"), (0x15, "KEY_R"), (0x16, "KEY_S"), (0x17, "KEY_T"),
    (0x18, "KEY_U"), (0x19, "KEY_V"), (0x1A, "KEY_W"), (0x1B, "KEY_X"), (0x1C, "KEY_Y"),
    (0x1D, "KEY_Z"), (0x1E, "KEY_1"), (0x1F, "KEY_2"), (0x20, "KEY_3"), (0x21, "KEY_4"),
    (0x22, "KEY_5"), (0x23, "KEY_6"), (0x24, "KEY_7"), (0x25, "KEY_8"), (0x26, "KEY_9"),
    (0x27, "KEY_0"), (0x28, "KEY_ENTER"), (0x29, "KEY_ESC"), (0x2A, "KEY_BACKSPACE"),
    (0x2B, "KEY_TAB"), (0x2C, "KEY_SPACE"), (0x2D, "KEY_MINUS"), (0x2E, "KEY_EQUAL"),
    (0x2F, "KEY_LEFTBRACE"), (0x30, "KEY_RIGHTBRACE"), (0x31, "KEY_BACKSLASH"),
    (0x32, "KEY_BACKSLASH"), (0x33, "KEY_SEMICOLON"), (0x34, "KEY_APOSTROPHE"),
    (0x35, "KEY_GRAVE"), (0x36, "KEY_COMMA"), (0x37, "KEY_DOT"), (0x38, "KEY_SLASH"),
    (0x39, "KEY_CAPSLOCK"), (0x3A, "KEY_F1"), (0x3B, "KEY_F2"), (0x3C, "KEY_F3"), (0x3D, "KEY_F4"),
    (0x3E, "KEY_F5"), (0x3F, "KEY_F6"), (0x40, "KEY_F7"), (0x41, "KEY_F8"), (0x42, "KEY_F9"),
    (0x43, "KEY_F10"), (0x44, "KEY_F11"), (0x45, "KEY_F12"), (0x46, "KEY_SYSRQ"),
    (0x47, "KEY_SCROLLLOCK"), (0x48, "KEY_PAUSE"), (0x49, "KEY_INSERT"), (0x4A, "KEY_HOME"),
    (0x4B, "KEY_PAGEUP"), (0x4C, "KEY_DELETE"), (0x4D, "KEY_END"), (0x4E, "KEY_PAGEDOWN"),
    (0x4F, "KEY_RIGHT"), (0x50, "KEY_LEFT"), (0x51, "KEY_DOWN"), (0x52, "KEY_UP"),
    (0x53, "KEY_NUMLOCK"), (0x54, "KEY_KPSLASH"), (0x55, "KEY_KPASTERISK"), (0x56, "KEY_KPMINUS"),
    (0x57, "KEY_KPPLUS"), (0x58, "KEY_KPENTER"), (0x59, "KEY_KP1"), (0x5A, "KEY_KP2"),
    (0x5B, "KEY_KP3"), (0x5C, "KEY_KP4"), (0x5D, "KEY_KP5"), (0x5E, "KEY_KP6"), (0x5F, "KEY_KP7"),
    (0x60, "KEY_KP8"), (0x61, "KEY_KP9"), (0x62, "KEY_KP0"), (0x63, "KEY_KPDOT"),
    (0x64, "KEY_102ND"), (0x65, "KEY_COMPOSE"), (0x66, "KEY_POWER"), (0x67, "KEY_KPEQUAL"),
    (0x68, "KEY_F13"), (0x69, "KEY_F14"), (0x6A, "KEY_F15"), (0x6B, "KEY_F16"), (0x6C, "KEY_F17"),
    (0x6D, "KEY_F18"), (0x6E, "KEY_F19"), (0x6F, "KEY_F20"), (0x70, "KEY_F21"), (0x71, "KEY_F22"),
    (0x72, "KEY_F23"), (0x73, "KEY_F24"), (0x87, "KEY_RO"), (0x88, "KEY_KATAKANAHIRAGANA"),
    (0x89, "KEY_YEN"), (0x8A, "KEY_HENKAN"), (0x8B, "KEY_MUHENKAN"), (0x8C, "KEY_KPJPCOMMA"),
    (0x8D, "KEY_KPENTER"), (0x8E, "KEY_RIGHTCTRL"), (0x8F, "KEY_KPSLASH"), (0x90, "KEY_SYSRQ"),
    (0x91, "KEY_RIGHTALT"), (0x92, "KEY_LINEFEED"), (0x93, "KEY_HOME"), (0x94, "KEY_UP"),
    (0x95, "KEY_PAGEUP"), (0x96, "KEY_LEFT"), (0x97, "KEY_RIGHT"), (0x98, "KEY_END"),
    (0x99, "KEY_DOWN"), (0x9A, "KEY_PAGEDOWN"), (0x9B, "KEY_INSERT"), (0x9C, "KEY_DELETE"),
    (0xE0, "KEY_LEFTCTRL"), (0xE1, "KEY_LEFTSHIFT"), (0xE2, "KEY_LEFTALT"), (0xE3, "KEY_LEFTMETA"),
    (0xE4, "KEY_RIGHTCTRL"), (0xE5, "KEY_RIGHTSHIFT"), (0xE6, "KEY_RIGHTALT"),
    (0xE7, "KEY_RIGHTMETA")]

/-- The module variables `prev_mods` and `prev_keys`. -/
structure Parser where
  prevMods : Codes := ∅
  prevKeys : Codes := ∅

/-- The orders in which the `pairs` loops of one `parse_report` visit the sets. -/
structure ReportOrders where
  prevMods : Table.Traversal String Bool
  mods : Table.Traversal String Bool
  prevKeys : Table.Traversal String Bool
  keys : Table.Traversal String Bool

instance : Inhabited ReportOrders := ⟨⟨default, default, default, default⟩⟩

/-- The modifiers of a modifier byte. -/
def decodeMods (modByte : UInt8) : Codes :=
  (List.range 8).foldl (fun mods bit =>
    if modByte.toNat &&& (1 <<< bit) ≠ 0 then
      match modBits[bit]? with
      | some code => mods.insert code true
      | none => mods
    else mods) ∅

/-- The keys of a list of usages. -/
def decodeKeys (hids : List UInt8) : Codes :=
  hids.foldl (fun keys hid =>
    if hid ≠ 0 then
      match hidToKey.lookup hid with
      | some code => keys.insert code true
      | none => keys
    else keys) ∅

/-- The codes of one set that are not in another, in the order of a loop over the first. -/
def missing (it : Table.Traversal String Bool) (codes others : Codes) : List String :=
  ((it.order codes).map (·.1)).filter (· ∉ others)

/-- The modifier byte of a report. -/
def modByte (bytes : List UInt8) : UInt8 := bytes.headD 0

/-- The usages of a report, bytes 3 to 8. -/
def usages (bytes : List UInt8) : List UInt8 := (bytes.drop 2).take 6

/-- `parse_report`: the events, or nothing for a report that is too short. -/
def parseReport (it : ReportOrders) (self : Parser) (bytes : List UInt8) :
    Option (List KeyEvent) × Parser :=
  if bytes.length < 8 then (none, self)
  else
    let mods := decodeMods (modByte bytes)
    let keys := decodeKeys (usages bytes)
    (some ((missing it.prevMods self.prevMods mods).map (key · 0) ++
        (missing it.mods mods self.prevMods).map (key · 1) ++
        (missing it.prevKeys self.prevKeys keys).map (key · 0) ++
        (missing it.keys keys self.prevKeys).map (key · 1)),
      { prevMods := mods, prevKeys := keys })

/-! ## What a report names -/

/-- The modifier byte of a report names a code. -/
def NamesMod (bytes : List UInt8) (c : String) : Prop :=
  ∃ bit < 8, (modByte bytes).toNat &&& (1 <<< bit) ≠ 0 ∧ modBits[bit]? = some c

/-- The usages of a report name a code. -/
def NamesKey (bytes : List UInt8) (c : String) : Prop :=
  ∃ hid ∈ usages bytes, hidToKey.lookup hid = some c

/-- A report names a code. -/
def Names (bytes : List UInt8) (c : String) : Prop := NamesMod bytes c ∨ NamesKey bytes c

instance (bytes : List UInt8) (c : String) : Decidable (NamesMod bytes c) :=
  inferInstanceAs (Decidable (∃ bit < 8, _))

instance (bytes : List UInt8) (c : String) : Decidable (NamesKey bytes c) :=
  List.decidableBEx _ _

/-- A loop that inserts a code for some elements of a list. -/
lemma mem_foldl_insert {α : Type*} (f : Codes → α → Codes) (code : α → Option String)
    (hf : ∀ t a, f t a = match code a with
      | some c => t.insert c true
      | none => t) (l : List α) (t : Codes) (c : String) :
    c ∈ l.foldl f t ↔ c ∈ t ∨ ∃ a ∈ l, code a = some c := by
  induction l generalizing t with
  | nil => simp
  | cons a l ih =>
    rw [List.foldl_cons, ih, hf]
    rcases ha : code a with _ | c'
    · simp [ha]
    · simp only [AList.mem_insert, List.exists_mem_cons_iff, ha, Option.some.injEq]
      rw [or_assoc, eq_comm (a := c'), ← or_assoc, ← or_assoc, or_comm (a := c = c')]

/-- The decoded modifiers are those the modifier byte names. -/
lemma mem_decodeMods (bytes : List UInt8) (c : String) :
    c ∈ decodeMods (modByte bytes) ↔ NamesMod bytes c := by
  rw [decodeMods, mem_foldl_insert _ fun bit =>
    if (modByte bytes).toNat &&& (1 <<< bit) ≠ 0 then modBits[bit]? else none]
  · simp [NamesMod]
  · intro t bit
    split_ifs <;> rfl

/-- The decoded keys are those the usages name. -/
lemma mem_decodeKeys (bytes : List UInt8) (c : String) :
    c ∈ decodeKeys (usages bytes) ↔ NamesKey bytes c := by
  rw [decodeKeys, mem_foldl_insert _ fun hid =>
    if hid ≠ 0 then hidToKey.lookup hid else none]
  · have hzero : ∀ hid, hidToKey.lookup hid = some c → hid ≠ 0 := by
      rintro hid h rfl
      have hnil : hidToKey.lookup 0 = none := by decide +kernel
      exact absurd (hnil.symm.trans h) nofun
    simp only [AList.notMem_empty, false_or, NamesKey]
    refine exists_congr fun hid => and_congr_right fun _ => ?_
    split_ifs with h
    · rfl
    · exact iff_of_false (by simp) fun hl => h (hzero hid hl)
  · intro t hid
    split_ifs <;> rfl

/-- Only the eight modifiers are named by a modifier byte. -/
lemma NamesMod.mem_modBits {bytes : List UInt8} {c : String} (h : NamesMod bytes c) :
    c ∈ modBits := by
  obtain ⟨bit, -, -, hc⟩ := h
  exact List.mem_of_getElem? hc

/-- A loop over the codes that another set lacks visits each of them once. -/
lemma nodup_missing (it : Table.Traversal String Bool) (codes others : Codes) :
    (missing it codes others).Nodup := by
  have hkeys : ((it.order codes).map (·.1)).Nodup :=
    ((it.perm codes).map Sigma.fst).nodup_iff.mpr codes.nodupKeys
  exact hkeys.filter _

/-- The codes that another set lacks. -/
lemma mem_missing (it : Table.Traversal String Bool) (codes others : Codes) (c : String) :
    c ∈ missing it codes others ↔ c ∈ codes ∧ c ∉ others := by
  have hkeys : c ∈ (it.order codes).map (·.1) ↔ c ∈ codes :=
    ((it.perm codes).map (·.1)).mem_iff
  rw [missing, List.mem_filter, hkeys, decide_eq_true_eq]

/-! ## Runs -/

/-- A report with the iteration orders of its call. -/
structure Reading where
  bytes : List UInt8
  orders : ReportOrders := default

/-- The module state, the events returned so far, and the last report that was accepted. -/
structure Decoding where
  parser : Parser := {}
  log : List KeyEvent := []
  last : List UInt8 := []

/-- One call of `parse_report`. -/
def Decoding.step (d : Decoding) (r : Reading) : Decoding :=
  match parseReport r.orders d.parser r.bytes with
  | (some events, parser) => { parser, log := d.log ++ events, last := r.bytes }
  | (none, parser) => { d with parser }

/-- The events so far press codes that are up and release codes that are down, and the codes that
are down are those the last accepted report names. -/
structure Faithful (d : Decoding) : Prop where
  strict : Strict d.log
  down_iff : ∀ c, IsDown c d.log ↔ Names d.last c

/-- A report that is too short changes nothing. -/
def Rejects (d : Decoding) (r : Reading) : Prop := r.bytes.length < 8 → d.step r = d

/-- A modifier among the keys of the last report does not enter or leave the modifier byte, and one
in the modifier byte of the new report does not enter or leave the keys. -/
def Separate (d : Decoding) (r : Reading) : Prop :=
  8 ≤ r.bytes.length → ∀ c ∈ modBits,
    (NamesKey d.last c → (NamesMod d.last c ↔ NamesMod r.bytes c)) ∧
      (NamesMod r.bytes c → (NamesKey d.last c ↔ NamesKey r.bytes c))

instance (d : Decoding) (r : Reading) : Decidable (Separate d r) :=
  inferInstanceAs (Decidable (_ → _))

/-- The module state holds the codes of the last accepted report. -/
structure Recorded (d : Decoding) : Prop where
  mods : ∀ c, c ∈ d.parser.prevMods ↔ NamesMod d.last c
  keys : ∀ c, c ∈ d.parser.prevKeys ↔ NamesKey d.last c

/-- A short report changes nothing. -/
lemma step_of_short {d : Decoding} {r : Reading} (h : r.bytes.length < 8) : d.step r = d := by
  simp only [Decoding.step, parseReport, if_pos h]

/-- An accepted report. -/
lemma step_of_accepted {d : Decoding} {r : Reading} (h : ¬ r.bytes.length < 8) :
    d.step r =
      (let mods := decodeMods (modByte r.bytes)
       let keys := decodeKeys (usages r.bytes)
       { parser := ⟨mods, keys⟩
         log := d.log ++ (missing r.orders.prevMods d.parser.prevMods mods).map (key · 0) ++
           (missing r.orders.mods mods d.parser.prevMods).map (key · 1) ++
           (missing r.orders.prevKeys d.parser.prevKeys keys).map (key · 0) ++
           (missing r.orders.keys keys d.parser.prevKeys).map (key · 1)
         last := r.bytes }) := by
  simp only [Decoding.step, parseReport, if_neg h, List.append_assoc]

/-- The codes of the modifier byte that another report's lacks, and the other way round. -/
lemma mem_missing_mods {d : Decoding} (hd : Recorded d) (it : Table.Traversal String Bool)
    (bytes : List UInt8) (c : String) :
    (c ∈ missing it d.parser.prevMods (decodeMods (modByte bytes)) ↔
        NamesMod d.last c ∧ ¬ NamesMod bytes c) ∧
      (c ∈ missing it (decodeMods (modByte bytes)) d.parser.prevMods ↔
        NamesMod bytes c ∧ ¬ NamesMod d.last c) := by
  simp only [mem_missing, mem_decodeMods, hd.mods, and_self]

/-- The codes of the usages that another report's lack, and the other way round. -/
lemma mem_missing_keys {d : Decoding} (hd : Recorded d) (it : Table.Traversal String Bool)
    (bytes : List UInt8) (c : String) :
    (c ∈ missing it d.parser.prevKeys (decodeKeys (usages bytes)) ↔
        NamesKey d.last c ∧ ¬ NamesKey bytes c) ∧
      (c ∈ missing it (decodeKeys (usages bytes)) d.parser.prevKeys ↔
        NamesKey bytes c ∧ ¬ NamesKey d.last c) := by
  simp only [mem_missing, mem_decodeKeys, hd.keys, and_self]

/-- Every call keeps the record. -/
lemma Recorded.step {d : Decoding} (hd : Recorded d) (r : Reading) : Recorded (d.step r) := by
  by_cases h : r.bytes.length < 8
  · rwa [step_of_short h]
  · rw [step_of_accepted h]
    exact ⟨mem_decodeMods r.bytes, mem_decodeKeys r.bytes⟩

/-- The condition does not depend on the codes that are no modifiers. -/
lemma separate_iff {d : Decoding} {r : Reading} (h : ¬ r.bytes.length < 8) :
    Separate d r ↔ ∀ c,
      (NamesKey d.last c → (NamesMod d.last c ↔ NamesMod r.bytes c)) ∧
        (NamesMod r.bytes c → (NamesKey d.last c ↔ NamesKey r.bytes c)) := by
  constructor
  · intro hs c
    by_cases hc : c ∈ modBits
    · exact hs (Nat.not_lt.mp h) c hc
    · have hnot : ∀ bytes, ¬ NamesMod bytes c := fun _ hm => hc hm.mem_modBits
      exact ⟨fun _ => iff_of_false (hnot _) (hnot _), fun hm => absurd hm (hnot _)⟩
  · exact fun hs _ c _ => hs c

/-- One code, from the sets `M` and `K` to the sets `M'` and `K'`, of which `M` is changed first:
when the four changes are strict and the code ends up down iff it is in one of the new sets. -/
lemma change_twice_iff (M K M' K' : Prop) :
    (((M → ¬ M' → M ∨ K) ∧ (M' → ¬ M → ¬ (M ∨ K))) ∧
        (K → ¬ K' → M' ∧ ¬ M ∨ (M → M') ∧ (M ∨ K)) ∧
        (K' → ¬ K → ¬ (M' ∧ ¬ M ∨ (M → M') ∧ (M ∨ K)))) ∧
      (K' ∧ ¬ K ∨ (K → K') ∧ (M' ∧ ¬ M ∨ (M → M') ∧ (M ∨ K)) ↔ M' ∨ K') ↔
    (K → (M ↔ M')) ∧ (M' → (K ↔ K')) := by
  by_cases hM : M <;> by_cases hK : K <;> by_cases hM' : M' <;> by_cases hK' : K' <;>
    simp [hM, hK, hM', hK']

/-- **One report.** From a state in which decoding has been faithful it stays so iff the last
report and the new one are separate.

**Proof sketch.** The modifiers are changed first and then the keys. Both changes are strict, and
the result is what the report names, iff for every code the two memberships before and the two
after fit together; this is a statement about one code at a time. -/
lemma faithful_step_iff {d : Decoding} {r : Reading} (hd : Recorded d) (hf : Faithful d) :
    Faithful (d.step r) ↔ Separate d r := by
  by_cases h : r.bytes.length < 8
  · rw [step_of_short h]
    exact iff_of_true hf fun h' => absurd h (Nat.not_lt.mpr h')
  · have mr₁ := fun c => (mem_missing_mods hd r.orders.prevMods r.bytes c).1
    have mp₁ := fun c => (mem_missing_mods hd r.orders.mods r.bytes c).2
    have mr₂ := fun c => (mem_missing_keys hd r.orders.prevKeys r.bytes c).1
    have mp₂ := fun c => (mem_missing_keys hd r.orders.keys r.bytes c).2
    have hfaithful : ∀ d : Decoding, Faithful d ↔
        Strict d.log ∧ ∀ c, IsDown c d.log ↔ NamesMod d.last c ∨ NamesKey d.last c :=
      fun _ => ⟨fun hf => ⟨hf.strict, hf.down_iff⟩, fun hf => ⟨hf.1, hf.2⟩⟩
    obtain ⟨hstrict, hdown⟩ := (hfaithful d).mp hf
    rw [separate_iff h, step_of_accepted h, hfaithful]
    rw [strict_append_diff mr₂ mp₂ (nodup_missing _ _ _) (nodup_missing _ _ _),
      strict_append_diff mr₁ mp₁ (nodup_missing _ _ _) (nodup_missing _ _ _)]
    simp only [isDown_append_diff mr₂ mp₂, isDown_append_diff mr₁ mp₁, hdown, hstrict, true_and,
      ← forall_and]
    exact forall_congr' fun c => change_twice_iff _ _ _ _

/-- Nothing has been reported. -/
lemma faithful_start : Faithful {} := by
  refine ⟨strict_nil, fun c => ?_⟩
  simp [IsDown, Names, NamesMod, NamesKey, modByte, usages]

/-- The module state is empty at first. -/
lemma recorded_start : Recorded {} := by
  constructor <;> intro c <;> simp [NamesMod, NamesKey, modByte, usages]

/-- **Decoding is a faithful difference exactly as long as consecutive reports are separate.**
Short reports change nothing; and in every state of a run the events are strict and the codes that
are down are those of the last accepted report iff no modifier that the last report has among its
keys enters or leaves the modifier byte, and none that the new report has in its modifier byte
enters or leaves the keys. -/
theorem faithful_iff_separate (readings : List Reading) :
    (Run.EachStep Decoding.step Rejects {} readings ∧
        Run.Always Decoding.step Faithful {} readings) ↔
      Run.EachStep Decoding.step Separate {} readings := by
  have hrejects : Run.EachStep Decoding.step Rejects {} readings :=
    Run.eachStep_of_inv (I := Recorded) (fun _ r hd => hd.step r) (fun _ _ _ => step_of_short)
      recorded_start readings
  rw [and_iff_right hrejects]
  exact Run.always_iff_eachStep_of_step (I := Recorded) (fun d r hd _ _ => hd.step r)
    (fun d r hd hf => faithful_step_iff hd hf) recorded_start faithful_start readings

/-- **A modifier in both places.** The first report has left control in its modifier byte and among
its keys: it is pressed twice. -/
theorem not_faithful_doubled :
    ¬ ∀ readings : List Reading, Run.EachStep Decoding.step Rejects {} readings ∧
      Run.Always Decoding.step Faithful {} readings := by
  intro h
  have hstep : Faithful (Decoding.step {} { bytes := [1, 0, 0xE0, 0, 0, 0, 0, 0] }) :=
    (h [{ bytes := [1, 0, 0xE0, 0, 0, 0, 0, 0] }]).2.last
  exact absurd ((faithful_step_iff recorded_start faithful_start).mp hstep) (by decide +kernel)

end Aelkey.Keyboard
