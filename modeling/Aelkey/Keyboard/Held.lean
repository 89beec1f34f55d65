import Aelkey.Keyboard.Balance

set_option relaxedAutoImplicit false
set_option autoImplicit false

/-!
# The virtual keyboard and the held keys

A release sends value `0` for every code of the stored mapping and switches Fn off for a
placeholder, without a look at the keys that are still held. So the keys that are down on the
virtual keyboard are those the held keys assert as long as no release is *contested*: its codes, or
its Fn, must not be asserted by another held key.

## Main definitions

* `Aelkey.Keyboard.Watch` — a session with the keys that are held and the mapping of their press.
* `Aelkey.Keyboard.Asserts`, `Aelkey.Keyboard.HoldsFn` — a held key asserts a code, or Fn.
* `Aelkey.Keyboard.Follows` — the output and the Fn state are those the held keys assert.
* `Aelkey.Keyboard.Uncontested` — a release takes nothing from another held key.

## Main results

* `Aelkey.Keyboard.follows_iff_uncontested` — along every alternating run without `set_fn_down`,
  the output follows the held keys iff every release is uncontested.
* `Aelkey.Keyboard.not_follows_sharedCode` — two keys mapped to one code, one of them released.
-/

namespace Aelkey.Keyboard

open Evdev Session

/-- The keys that are held, each with the mapping of its press; none if the press was suppressed. -/
abbrev HeldKeys := Table String (Option (List String))

/-- A session and the keys that are held according to the events fed so far. -/
structure Watch where
  session : Session
  held : HeldKeys

namespace Watch

/-- The held keys after a step: a press adds its key with the mapping it resolves to, a release
removes its key. -/
def hold (kb : Remapper) (held : HeldKeys) : Op → HeldKeys
  | .event e =>
    if e.type = "EV_KEY" ∧ e.value = 1 then held.insert e.code (resolveMapping kb e.code).1
    else if e.type = "EV_KEY" ∧ e.value = 0 then held.erase e.code
    else held
  | _ => held

/-- One step of a watched session. -/
def step (w : Watch) (op : Op) : Watch := ⟨w.session.step op, hold w.session.kb w.held op⟩

/-- A new instance; no key is held. -/
def start (normal modifier fn : Table String Mapping) : Watch :=
  ⟨Session.start normal modifier fn, ∅⟩

end Watch

/-! ## What the held keys assert -/

/-- Some held key that is not a Fn placeholder is mapped to `c`. -/
def Asserts (held : HeldKeys) (c : String) : Prop :=
  held.Holds fun o => ∃ mapped ∈ o, isFnPlaceholder mapped = false ∧ c ∈ mapped

/-- Some held key is a Fn placeholder. -/
def HoldsFn (held : HeldKeys) : Prop :=
  held.Holds fun o => ∃ mapped ∈ o, isFnPlaceholder mapped = true

/-- The keys that are down on the virtual keyboard are those the held keys assert, and Fn is down
iff a held key is a Fn placeholder. -/
structure Follows (w : Watch) : Prop where
  down_iff : ∀ c, IsDown c w.session.log ↔ Asserts w.held c
  fn_iff : w.session.kb.fnDown = true ↔ HoldsFn w.held

/-- Each physical code alternates press and release: a code that is pressed is not held. The run
does not call `set_fn_down`. -/
def Alternates (w : Watch) : Op → Prop
  | .event e => e.type = "EV_KEY" → e.value = 1 → e.code ∉ w.held
  | .setFnDown _ => False
  | _ => True

/-- A release takes no code, or not Fn, from a key that is still held. -/
def Uncontested (w : Watch) : Op → Prop
  | .event e => e.type = "EV_KEY" → e.value = 0 → ∀ mapped ∈ (w.held.lookup e.code).join,
      if isFnPlaceholder mapped then ¬ HoldsFn (w.held.erase e.code)
      else ∀ c ∈ mapped, ¬ Asserts (w.held.erase e.code) c
  | _ => True

instance (w : Watch) : DecidablePred (Alternates w)
  | .event e => inferInstanceAs (Decidable (e.type = "EV_KEY" → e.value = 1 → _))
  | .setFnDown _ => .isFalse id
  | .beginFrame | .endFrame | .emitEvents => .isTrue trivial

instance (held : HeldKeys) (c : String) : Decidable (Asserts held c) :=
  inferInstanceAs (Decidable (held.Holds _))

instance (held : HeldKeys) : Decidable (HoldsFn held) :=
  inferInstanceAs (Decidable (held.Holds _))

instance (w : Watch) : DecidablePred (Uncontested w)
  | .event e => inferInstanceAs (Decidable (e.type = "EV_KEY" → e.value = 0 → _))
  | .beginFrame | .endFrame | .emitEvents | .setFnDown _ => .isTrue trivial

/-- A key that gets held asserts the codes of its mapping, unless it is a placeholder. -/
lemma asserts_insert {held : HeldKeys} {k : String} (hk : k ∉ held) (o : Option (List String))
    (c : String) :
    Asserts (held.insert k o) c ↔
      (∃ mapped ∈ o, isFnPlaceholder mapped = false ∧ c ∈ mapped) ∨ Asserts held c :=
  Table.holds_insert hk o _

/-- A key that gets held holds Fn iff its mapping is a placeholder. -/
lemma holdsFn_insert {held : HeldKeys} {k : String} (hk : k ∉ held) (o : Option (List String)) :
    HoldsFn (held.insert k o) ↔
      (∃ mapped ∈ o, isFnPlaceholder mapped = true) ∨ HoldsFn held :=
  Table.holds_insert hk o _

/-- What is asserted is asserted by a given held key or by one of the others. -/
lemma asserts_erase {held : HeldKeys} {k : String} {o : Option (List String)}
    (h : held.lookup k = some o) (c : String) :
    Asserts held c ↔
      (∃ mapped ∈ o, isFnPlaceholder mapped = false ∧ c ∈ mapped) ∨
        Asserts (held.erase k) c :=
  Table.holds_erase h _

/-- Fn is held by a given held key or by one of the others. -/
lemma holdsFn_erase {held : HeldKeys} {k : String} {o : Option (List String)}
    (h : held.lookup k = some o) :
    HoldsFn held ↔
      (∃ mapped ∈ o, isFnPlaceholder mapped = true) ∨ HoldsFn (held.erase k) :=
  Table.holds_erase h _

/-! ## One step -/

/-- The stored mappings are those of the held keys whose press was not suppressed. -/
def Tracks (w : Watch) : Prop :=
  ∀ k mapped, w.session.kb.activeKeys.lookup k = some mapped ↔
    w.held.lookup k = some (some mapped)

/-- A placeholder is the list of the one code `KEY_FN`. -/
lemma eq_of_isFnPlaceholder {mapped : List String} (h : isFnPlaceholder mapped = true) :
    mapped = [fnCode] := by simpa [isFnPlaceholder] using h

/-- What a press does, by the mapping it resolves to. -/
lemma press_eq (kb : Remapper) (code : String) :
    press kb code =
      match (resolveMapping kb code).1 with
      | none => kb
      | some mapped =>
        { kb with
          fnDown := isFnPlaceholder mapped || kb.fnDown
          activeKeys := kb.activeKeys.insert code mapped
          buffer := kb.buffer ++ if isFnPlaceholder mapped then [] else mapped.map (key · 1) } := by
  unfold press
  rcases hr : resolveMapping kb code with ⟨_ | mapped, b⟩
  · rfl
  · dsimp only
    rw [resolveMapping_flag hr]
    by_cases hb : isFnPlaceholder mapped = true
    · rw [if_pos hb, eq_of_isFnPlaceholder hb]
      simp [isFnPlaceholder]
    · rw [if_neg hb, appendAll_eq]
      simp [hb]

/-- **A press keeps the output with the held keys.**

**Proof sketch.** A suppressed press changes nothing and asserts nothing; a placeholder switches Fn
on; any other mapping presses the codes that the new entry asserts. -/
lemma follows_press {kb : Remapper} {log : List KeyEvent} {held : HeldKeys} {code : String}
    (hf : Follows ⟨⟨kb, log⟩, held⟩) (hk : code ∉ held) :
    Follows ⟨⟨press kb code, log ++ (press kb code).buffer.drop kb.buffer.length⟩,
      held.insert code (resolveMapping kb code).1⟩ := by
  obtain ⟨hdown, hfn⟩ := hf
  dsimp only at hdown hfn
  rw [press_eq]
  rcases (resolveMapping kb code).1 with _ | mapped
  · refine ⟨fun c => ?_, ?_⟩
    · simp [asserts_insert hk, hdown]
    · simp [holdsFn_insert hk, hfn]
  · dsimp only
    rw [List.drop_left]
    refine ⟨fun c => ?_, ?_⟩
    · rw [asserts_insert hk]
      by_cases hp : isFnPlaceholder mapped = true
      · simp [hp, hdown]
      · simp [hp, isDown_append_presses, hdown]
    · rw [holdsFn_insert hk]
      simp [hfn]

/-- A press stores the mapping of the key that gets held. -/
lemma tracks_press {kb : Remapper} {log log' : List KeyEvent} {held : HeldKeys} {code : String}
    (ht : Tracks ⟨⟨kb, log⟩, held⟩) (hk : code ∉ held) :
    Tracks ⟨⟨press kb code, log'⟩, held.insert code (resolveMapping kb code).1⟩ := by
  intro k mapped
  have hold := ht k mapped
  dsimp only at hold ⊢
  rw [press_eq, Table.lookup_insert]
  rcases (resolveMapping kb code).1 with _ | stored
  · dsimp only
    by_cases hkk : k = code
    · subst hkk
      rw [if_pos rfl, hold, AList.lookup_eq_none.mpr hk]
      simp
    · rw [if_neg hkk, hold]
  · dsimp only
    rw [Table.lookup_insert]
    by_cases hkk : k = code
    · simp [hkk]
    · rw [if_neg hkk, if_neg hkk, hold]

/-- What a release does, by the mapping stored at the press. -/
lemma release_eq (kb : Remapper) (code : String) :
    release kb code =
      match kb.activeKeys.lookup code with
      | none => kb
      | some mapped =>
        { kb with
          fnDown := !isFnPlaceholder mapped && kb.fnDown
          activeKeys := kb.activeKeys.erase code
          buffer :=
            kb.buffer ++ if isFnPlaceholder mapped then [] else mapped.reverse.map (key · 0) } := by
  rcases release_cases kb code with ⟨hl, hr⟩ | ⟨mapped, hl, ⟨hp, hr⟩ | ⟨hp, hr⟩⟩
  · rw [hr, hl]
  · rw [hr, hl]
    simp [hp]
  · rw [hr, hl]
    simp [hp]

/-- A release forgets the mapping of the key that is no longer held. -/
lemma tracks_release {kb : Remapper} {log log' : List KeyEvent} {held : HeldKeys} {code : String}
    (ht : Tracks ⟨⟨kb, log⟩, held⟩) : Tracks ⟨⟨release kb code, log'⟩, held.erase code⟩ := by
  intro k mapped
  have hold := ht k mapped
  dsimp only at hold ⊢
  rw [release_eq, Table.lookup_erase]
  rcases hl : kb.activeKeys.lookup code with _ | stored
  · dsimp only
    by_cases hkk : k = code
    · subst hkk
      simp [hl]
    · rw [if_neg hkk, hold]
  · dsimp only
    rw [Table.lookup_erase]
    by_cases hkk : k = code
    · simp [hkk]
    · rw [if_neg hkk, if_neg hkk, hold]

/-- The release of a key without a mapping, whose press was suppressed or which is not held, changes
nothing. -/
lemma follows_release_of_none {kb : Remapper} {log : List KeyEvent} {held : HeldKeys}
    {code : String} (hf : Follows ⟨⟨kb, log⟩, held⟩)
    (hnone : ∀ mapped, held.lookup code ≠ some (some mapped)) :
    Follows ⟨⟨kb, log⟩, held.erase code⟩ := by
  have hother : ∀ Q : List String → Prop, Table.Holds held (fun o => ∃ mapped ∈ o, Q mapped) ↔
      Table.Holds (held.erase code) (fun o => ∃ mapped ∈ o, Q mapped) := by
    intro Q
    rcases hh : held.lookup code with _ | o
    · rw [Table.erase_of_lookup_none hh]
    · rw [Table.holds_erase hh]
      rcases o with _ | mapped
      · simp
      · exact absurd hh (hnone mapped)
  exact ⟨fun c => (hf.down_iff c).trans (hother _), hf.fn_iff.trans (hother _)⟩

/-- The release of a placeholder switches Fn off, which is right iff no other held key is a
placeholder. -/
lemma follows_release_placeholder_iff {kb kb' : Remapper} {log : List KeyEvent} {held : HeldKeys}
    {code : String} {mapped : List String} (hf : Follows ⟨⟨kb, log⟩, held⟩)
    (hh : held.lookup code = some (some mapped)) (hp : isFnPlaceholder mapped = true)
    (hfn : kb'.fnDown = false) :
    Follows ⟨⟨kb', log⟩, held.erase code⟩ ↔ ¬ HoldsFn (held.erase code) := by
  have hasserts : ∀ c, Asserts held c ↔ Asserts (held.erase code) c := by
    intro c
    simp [asserts_erase hh, hp]
  constructor
  · intro h hholds
    exact Bool.false_ne_true (hfn.symm.trans (h.fn_iff.mpr hholds))
  · intro h
    exact ⟨fun c => (hf.down_iff c).trans (hasserts c),
      iff_of_false (fun hdown => Bool.false_ne_true (hfn.symm.trans hdown)) h⟩

/-- The release of any other mapping lets go of its codes, which is right iff none of them is
asserted by another held key. -/
lemma follows_release_mapping_iff {kb kb' : Remapper} {log : List KeyEvent} {held : HeldKeys}
    {code : String} {mapped : List String} (hf : Follows ⟨⟨kb, log⟩, held⟩)
    (hh : held.lookup code = some (some mapped)) (hp : ¬ isFnPlaceholder mapped = true)
    (hfn : kb'.fnDown = kb.fnDown) :
    Follows ⟨⟨kb', log ++ mapped.reverse.map (key · 0)⟩, held.erase code⟩ ↔
      ∀ c ∈ mapped, ¬ Asserts (held.erase code) c := by
  have hholds : HoldsFn held ↔ HoldsFn (held.erase code) := by
    simp [holdsFn_erase hh, hp]
  have hnow : ∀ c, IsDown c (log ++ mapped.reverse.map (key · 0)) ↔
      c ∉ mapped ∧ Asserts held c := by
    intro c
    rw [isDown_append_releases, List.mem_reverse]
    exact and_congr_right fun _ => hf.down_iff c
  constructor
  · intro h c hc hother
    have hc' := (h.down_iff c).mpr hother
    exact ((hnow c).mp hc').1 hc
  · intro h
    refine ⟨fun c => ?_, ?_⟩
    · rw [hnow, asserts_erase hh]
      constructor
      · rintro ⟨hc, ⟨m, hm, -, hcm⟩ | hother⟩
        · obtain rfl : mapped = m := by simpa using hm
          exact absurd hcm hc
        · exact hother
      · intro hother
        exact ⟨fun hc => h c hc hother, .inr hother⟩
    · dsimp only
      rw [hfn]
      exact hf.fn_iff.trans hholds

/-- **A release keeps the output with the held keys iff it is uncontested.** -/
lemma follows_release_iff {kb : Remapper} {log : List KeyEvent} {held : HeldKeys} {code : String}
    (hf : Follows ⟨⟨kb, log⟩, held⟩) (ht : Tracks ⟨⟨kb, log⟩, held⟩) :
    Follows ⟨⟨release kb code, log ++ (release kb code).buffer.drop kb.buffer.length⟩,
        held.erase code⟩ ↔
      ∀ mapped ∈ (held.lookup code).join,
        if isFnPlaceholder mapped then ¬ HoldsFn (held.erase code)
        else ∀ c ∈ mapped, ¬ Asserts (held.erase code) c := by
  have hlookup := ht code
  dsimp only at hlookup
  rw [release_eq]
  rcases hl : kb.activeKeys.lookup code with _ | mapped
  · have hnone : ∀ mapped, held.lookup code ≠ some (some mapped) := by
      intro mapped h
      rw [← hlookup, hl] at h
      cases h
    dsimp only
    rw [List.drop_length, List.append_nil]
    exact iff_of_true (follows_release_of_none hf hnone) fun mapped h =>
      absurd (Option.join_eq_some_iff.mp h) (hnone mapped)
  · have hh : held.lookup code = some (some mapped) := (hlookup mapped).mp hl
    simp only [hh, Option.join_some, Option.mem_def, Option.some.injEq, forall_eq']
    rw [List.drop_left]
    by_cases hp : isFnPlaceholder mapped = true
    · rw [if_pos hp, if_pos hp]
      simp only [List.append_nil]
      exact follows_release_placeholder_iff hf hh hp (by simp [hp])
    · rw [if_neg hp, if_neg hp]
      exact follows_release_mapping_iff hf hh hp (by simp [hp])

/-! ## Whole runs -/

/-- A step that feeds no press and no release changes nothing that is watched. -/
lemma step_other {w : Watch} {op : Op} (hset : ∀ down, op ≠ .setFnDown down)
    (hkey : ∀ e, op = .event e → ¬ (e.type = "EV_KEY" ∧ (e.value = 0 ∨ e.value = 1))) :
    (w.step op).session.log = w.session.log ∧ (w.step op).held = w.held ∧
      (w.step op).session.kb.fnDown = w.session.kb.fnDown ∧
      (w.step op).session.kb.activeKeys = w.session.kb.activeKeys := by
  cases op with
  | event e =>
    have h := hkey e rfl
    have hpress : ¬ (e.type = "EV_KEY" ∧ e.value = 1) := fun he => h ⟨he.1, .inr he.2⟩
    have hrelease : ¬ (e.type = "EV_KEY" ∧ e.value = 0) := fun he => h ⟨he.1, .inl he.2⟩
    simp [Watch.step, Watch.hold, Session.step, appended, Op.run, feedEvent, h, hpress, hrelease]
  | setFnDown down => exact absurd rfl (hset down)
  | _ => simp [Watch.step, Watch.hold, Session.step, appended, Op.run, beginFrame, endFrame,
      emitEvents]

/-- **A step of an alternating run keeps the output with the held keys iff it is uncontested**, and
it keeps the stored mappings. -/
lemma follows_step {w : Watch} {op : Op} (ht : Tracks w) (hf : Follows w) (ha : Alternates w op) :
    Tracks (w.step op) ∧ (Follows (w.step op) ↔ Uncontested w op) := by
  obtain ⟨⟨kb, log⟩, held⟩ := w
  by_cases hkey : ∃ e, op = .event e ∧ e.type = "EV_KEY" ∧ (e.value = 0 ∨ e.value = 1)
  · obtain ⟨e, rfl, htype, hvalue | hvalue⟩ := hkey
    · have hstep : Watch.step ⟨⟨kb, log⟩, held⟩ (.event e) =
          ⟨⟨release kb e.code, log ++ (release kb e.code).buffer.drop kb.buffer.length⟩,
            held.erase e.code⟩ := by
        simp [Watch.step, Watch.hold, Session.step, appended, Op.run, feedEvent, htype, hvalue]
      rw [hstep]
      refine ⟨tracks_release ht, (follows_release_iff hf ht).trans ?_⟩
      exact ⟨fun h _ _ => h, fun h => h htype hvalue⟩
    · have hstep : Watch.step ⟨⟨kb, log⟩, held⟩ (.event e) =
          ⟨⟨press kb e.code, log ++ (press kb e.code).buffer.drop kb.buffer.length⟩,
            held.insert e.code (resolveMapping kb e.code).1⟩ := by
        simp [Watch.step, Watch.hold, Session.step, appended, Op.run, feedEvent, htype, hvalue]
      rw [hstep]
      have hk : e.code ∉ held := ha htype hvalue
      refine ⟨tracks_press ht hk, iff_of_true (follows_press hf hk) ?_⟩
      intro _ hzero
      omega
  · have hset : ∀ down, op ≠ .setFnDown down := by
      rintro down rfl
      exact ha
    obtain ⟨hlog, hheld, hfn, hactive⟩ := step_other (w := ⟨⟨kb, log⟩, held⟩) hset
      (fun e he h => hkey ⟨e, he, h⟩)
    refine ⟨?_, iff_of_true ?_ ?_⟩
    · rw [Tracks, hactive, hheld]
      exact ht
    · refine ⟨?_, ?_⟩
      · rw [hlog, hheld]
        exact hf.down_iff
      · rw [hfn, hheld]
        exact hf.fn_iff
    · cases op with
      | event e => exact fun htype hzero => absurd ⟨e, rfl, htype, .inl hzero⟩ hkey
      | _ => trivial

/-- **The virtual keyboard follows the held keys iff no release is contested.** For all three maps
and every alternating run of calls without `set_fn_down`: after every event exactly the codes that
some held key asserts are down and Fn is down iff a placeholder is held, if and only if no release
takes a code, or Fn, from a key that is still held.

**Proof sketch.** `follows_step` at every step; a new instance has nothing down and nothing held. -/
theorem follows_iff_uncontested (normal modifier fn : Table String Mapping) (calls : List Call)
    (h : Run.EachStep Watch.step Alternates (Watch.start normal modifier fn)
      (calls.flatMap Call.ops)) :
    Run.Always Watch.step Follows (Watch.start normal modifier fn) (calls.flatMap Call.ops) ↔
      Run.EachStep Watch.step Uncontested (Watch.start normal modifier fn)
        (calls.flatMap Call.ops) := by
  refine Run.always_iff_eachStep_of (I := Tracks) ?_ ?_ ?_ ?_ h
  · exact fun _ _ ht hf ha _ => (follows_step ht hf ha).1
  · exact fun _ _ ht hf ha => (follows_step ht hf ha).2
  · intro k mapped
    simp [Watch.start, Session.start]
  · refine ⟨fun c => ?_, ?_⟩
    · simp [Watch.start, Session.start, IsDown, Asserts]
    · simp [Watch.start, Session.start, HoldsFn]

/-- Two keys with different mappings are held together and released in the order of their
presses. -/
theorem follows_iff_uncontested_twoKeys :
    Run.Always Watch.step Follows (Watch.start ∅ ∅ ∅)
      ([.feedEvents (some [key "KEY_A" 1, key "KEY_B" 1]), .feedKey (some (key "KEY_A" 0)),
        .feedKey (some (key "KEY_B" 0))].flatMap Call.ops) :=
  (follows_iff_uncontested ∅ ∅ ∅ _ (by decide)).mpr (by decide)

/-- `KEY_A` and `KEY_B` are both mapped to `KEY_X` and held; the release of `KEY_A` releases
`KEY_X`, which `KEY_B` still asserts. -/
theorem not_follows_sharedCode :
    Run.EachStep Watch.step Alternates
        (Watch.start ((∅ : Table String Mapping).insert "KEY_A" (.code "KEY_X") |>.insert "KEY_B"
          (.code "KEY_X")) ∅ ∅)
        [.event (key "KEY_A" 1), .event (key "KEY_B" 1), .event (key "KEY_A" 0)] ∧
      ¬ Run.Always Watch.step Follows
        (Watch.start ((∅ : Table String Mapping).insert "KEY_A" (.code "KEY_X") |>.insert "KEY_B"
          (.code "KEY_X")) ∅ ∅)
        [.event (key "KEY_A" 1), .event (key "KEY_B" 1), .event (key "KEY_A" 0)] := by
  refine ⟨by decide, fun h => ?_⟩
  have hlast := h.last.down_iff "KEY_X"
  have hup : ¬ IsDown "KEY_X" [key "KEY_X" (1 : ℤ), key "KEY_X" 1, key "KEY_X" 0] := by decide
  exact hup (hlast.mpr ⟨"KEY_B", some ["KEY_X"], by decide, ["KEY_X"], by decide⟩)

end Aelkey.Keyboard
