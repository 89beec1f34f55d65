import Aelkey.Device.Watchlist
import Mathlib.Data.List.Flatten

set_option relaxedAutoImplicit false
set_option autoImplicit false

/-!
# What the watchlist reports

The watchlist is there to tell a script which of the devices it waits for are present. The code
remembers the node of a device that it has reported, and an empty string for one that is absent;
udev has devices without a node, whose events carry an empty string, too. The removal of such a
device is taken for the removal of every absent device of its subsystem.

## Main definitions

* `Aelkey.Device.Presence`, `Aelkey.Device.Presence.step` — a watchlist that knows which of its
  devices are present: it reports a removal for those only.
* `Aelkey.Device.Spurious` — the removals that the code reports besides.

## Main results

* `Aelkey.Device.notes_eq_iff_not_spurious` — the code reports what it should in every state of a
  run iff no removal of a device without a node meets an absent device while the callback can be
  called.

## Design

The code writes down the name of the callback whenever an event reaches a declaration, so the model
of what it should report does the same; only the reports differ.
-/

namespace Aelkey.Device

/-! ## Which devices are present -/

/-- A device that is waited for, and the node under which it is present. -/
structure Sighting where
  decl : InputDecl
  node : Option String

/-- The declaration as the code keeps it. -/
def Sighting.shown (x : Sighting) : InputDecl := { x.decl with devnode := x.node.getD "" }

/-- A watchlist that knows which devices are present. -/
structure Presence where
  entries : List (String × List Sighting) := []
  onWatchlist : String := ""
  notes : List Note := []

/-- A device comes, if the one that matches has the node of the event. -/
def appear (script : Script) (dev : UdevDevice) (callback : String) (a : Attempt) (x : Sighting) :
    Sighting × List Note :=
  match (matchDecl {} x.shown a).2 with
  | some matched =>
    if eventNode dev x.decl.type = some matched then
      (⟨{ x.decl with onState := callback }, some matched⟩, report script callback x.decl "add")
    else (x, [])
  | none => (x, [])

/-- A device goes. This is reported if it is there. -/
def vanish (script : Script) (dev : UdevDevice) (callback : String) (x : Sighting) :
    Sighting × List Note :=
  if eventNode dev x.decl.type = some x.shown.devnode then
    (⟨{ x.decl with onState := callback }, none⟩,
      if x.node = none then [] else report script callback x.decl "remove")
  else (x, [])

/-- A pass over all devices. -/
def Presence.swept (p : Presence) (f : String → ℕ → Sighting → Sighting × List Note) : Presence :=
  { p with entries := (sweep f p.entries).1, notes := p.notes ++ (sweep f p.entries).2 }

/-- What happens, one step. A device that is watched anew is absent. -/
def Presence.step (script : Script) (p : Presence) : Act → Presence
  | .device (.udevAdd dev watchAns _) =>
    p.swept fun ref i x => appear script dev p.onWatchlist (watchAns ref i x.shown) x
  | .device (.udevRemove dev) => p.swept fun _ _ x => vanish script dev p.onWatchlist x
  | .device (.openAll _ _) | .device (.openOne _ _ _) | .device (.close _)
  | .device (.evdevHangup _ _) => p
  | .setCallback (.string name) => { p with onWatchlist := name }
  | .setCallback .nil => { p with onWatchlist := "" }
  | .setCallback .other => p
  | .watch ref decls =>
    if decls.filterMap validDecl = [] then p
    else { p with
      entries := watchMapSet ref ((decls.filterMap validDecl).map (⟨·, none⟩)) p.entries }
  | .unwatch ref => { p with entries := p.entries.filter fun entry => entry.1 ≠ ref }

/-- The watchlist of the code, but for the notifications. -/
def Presence.shown (p : Presence) (notes : List Note) : Watch where
  watchMap := p.entries.map fun entry => (entry.1, entry.2.map Sighting.shown)
  onWatchlist := p.onWatchlist
  notes := notes

/-- The step removes a device without a node while a device is absent that it could be, and the
callback can be called. -/
def Spurious (script : Script) (p : Presence) (act : Act) : Prop :=
  ∃ dev, act = .device (.udevRemove dev) ∧
    (p.onWatchlist ≠ "" ∧ script.isFunction p.onWatchlist = true) ∧
    ∃ entry ∈ p.entries, ∃ x ∈ entry.2, x.node = none ∧ eventNode dev x.decl.type = some ""

/-! ## Passes over both lists -/

section Passes

variable {α β γ : Type*}

/-- A pass over values that are images: it returns images. -/
lemma sweep_map {f : String → ℕ → α → α × List γ} {g : String → ℕ → β → β × List γ} {h : β → α}
    (hf : ∀ ref i b, (f ref i (h b)).1 = h (g ref i b).1) (entries : List (String × List β)) :
    (sweep f (entries.map fun entry => (entry.1, entry.2.map h))).1 =
      (sweep g entries).1.map fun entry => (entry.1, entry.2.map h) := by
  have hlist : ∀ (ref : String) (bs : List β) (i : ℕ),
      (sweepList (f ref) i (bs.map h)).1 = (sweepList (g ref) i bs).1.map h := by
    intro ref bs
    induction bs with
    | nil => exact fun _ => rfl
    | cons b bs ih => exact fun i => by simp [sweepList, hf, ih]
  induction entries with
  | nil => rfl
  | cons entry entries ih => simp [sweep, ih, hlist]

/-- A pass over images that reports the same. -/
lemma sweep_map_log {f : String → ℕ → α → α × List γ} {g : String → ℕ → β → β × List γ} {h : β → α}
    (hf : ∀ ref i b, (f ref i (h b)).2 = (g ref i b).2) (entries : List (String × List β)) :
    (sweep f (entries.map fun entry => (entry.1, entry.2.map h))).2 = (sweep g entries).2 := by
  have hlist : ∀ (ref : String) (bs : List β) (i : ℕ),
      (sweepList (f ref) i (bs.map h)).2 = (sweepList (g ref) i bs).2 := by
    intro ref bs
    induction bs with
    | nil => exact fun _ => rfl
    | cons b bs ih => exact fun i => by simp [sweepList, hf, ih]
  induction entries with
  | nil => rfl
  | cons entry entries ih => simp [sweep, ih, hlist]

/-- The reports of a pass that looks at the values only. -/
lemma sweep_log (f : α → α × List γ) (entries : List (String × List α)) :
    (sweep (fun _ _ => f) entries).2 =
      entries.flatMap fun entry => entry.2.flatMap fun a => (f a).2 := by
  have hlist : ∀ (as : List α) (i : ℕ),
      (sweepList (fun _ => f) i as).2 = as.flatMap fun a => (f a).2 := by
    intro as
    induction as with
    | nil => exact fun _ => rfl
    | cons a as ih => exact fun i => by simp [sweepList, ih]
  induction entries with
  | nil => rfl
  | cons entry entries ih => simp [sweep, ih, hlist]

/-- Two lists that are joined from parts, the parts of the one within those of the other, are equal
iff all parts are. -/
lemma flatMap_eq_iff {f g : α → List γ} {as : List α} (h : ∀ a ∈ as, List.Sublist (g a) (f a)) :
    as.flatMap f = as.flatMap g ↔ ∀ a ∈ as, f a = g a := by
  refine ⟨fun heq => ?_, fun heq => List.flatMap_congr heq⟩
  induction as with
  | nil => exact fun _ hmem => absurd hmem List.not_mem_nil
  | cons a as ih =>
    obtain ⟨ha, has⟩ := List.forall_mem_cons.mp h
    rw [List.flatMap_cons, List.flatMap_cons] at heq
    have hrest : List.Sublist (as.flatMap g) (as.flatMap f) := List.Sublist.flatMap_right as has
    have hlen := congrArg List.length heq
    rw [List.length_append, List.length_append] at hlen
    have hle := ha.length_le
    have hle' := hrest.length_le
    obtain ⟨hhead, htail⟩ := List.append_inj heq (by omega)
    exact List.forall_mem_cons.mpr ⟨hhead, ih has htail⟩

end Passes

/-! ## The code against the model -/

section Reports

variable {script : Script} {dev : UdevDevice}

/-- An add event reports what it should. -/
lemma addedDecl_shown (callback : String) (a : Attempt) (x : Sighting) :
    addedDecl script dev callback a x.shown =
      ((appear script dev callback a x).1.shown, (appear script dev callback a x).2) := by
  unfold addedDecl appear
  cases (matchDecl {} x.shown a).2 with
  | none => rfl
  | some matched =>
    dsimp only
    rw [show x.shown.type = x.decl.type from rfl]
    split_ifs <;> rfl

/-- After a remove event the code remembers what it should. -/
lemma removedDecl_shown (callback : String) (x : Sighting) :
    (removedDecl script dev callback x.shown).1 = (vanish script dev callback x).1.shown := by
  unfold removedDecl vanish
  rw [show x.shown.type = x.decl.type from rfl]
  split_ifs <;> rfl

/-- A remove event reports what it should, and possibly more. -/
lemma vanish_sublist (callback : String) (x : Sighting) :
    List.Sublist (vanish script dev callback x).2 (removedDecl script dev callback x.shown).2 := by
  unfold removedDecl vanish
  rw [show x.shown.type = x.decl.type from rfl]
  split_ifs
  · exact List.nil_sublist _
  · exact List.Sublist.refl _
  · exact List.Sublist.refl _

/-- It reports more for an absent device if the node of the event is empty and the callback can be
called. -/
lemma removedDecl_eq_vanish_iff (callback : String) (x : Sighting) :
    (removedDecl script dev callback x.shown).2 = (vanish script dev callback x).2 ↔
      ¬ ((callback ≠ "" ∧ script.isFunction callback = true) ∧
        x.node = none ∧ eventNode dev x.decl.type = some "") := by
  unfold removedDecl vanish
  rw [show x.shown.type = x.decl.type from rfl]
  by_cases hnode : x.node = none
  · rw [show x.shown.devnode = "" by simp [Sighting.shown, hnode]]
    by_cases hev : eventNode dev x.decl.type = some ""
    · rw [if_pos hev, if_pos hev, if_pos hnode, report]
      by_cases hcall : callback ≠ "" ∧ script.isFunction callback = true
      · simp [hnode, hev, hcall]
      · simp [hcall]
    · rw [if_neg hev, if_neg hev]
      exact iff_of_true rfl fun h => hev h.2.2
  · refine iff_of_true ?_ fun h => hnode h.2.1
    split_ifs <;> rfl

/-- Assignment to an entry of both lists. -/
lemma watchMapSet_map {α β : Type*} (h : β → α) (ref : String) (value : β)
    (entries : List (String × β)) :
    (watchMapSet ref value entries).map (fun entry => (entry.1, h entry.2)) =
      watchMapSet ref (h value) (entries.map fun entry => (entry.1, h entry.2)) := by
  induction entries with
  | nil => rfl
  | cons entry entries ih =>
    rw [watchMapSet, List.map_cons, watchMapSet]
    split_ifs
    · rfl
    · rfl
    · rw [List.map_cons, ih]

/-- Declarations that are watched anew are those of absent devices. -/
lemma map_shown_validDecl (decls : List (Option InputDecl)) :
    ((decls.filterMap validDecl).map fun decl => (⟨decl, none⟩ : Sighting)).map Sighting.shown =
      decls.filterMap validDecl := by
  rw [List.map_map]
  conv_rhs => rw [← List.map_id (decls.filterMap validDecl)]
  refine List.map_congr_left fun decl hdecl => ?_
  obtain ⟨entry, -, hvalid⟩ := List.mem_filterMap.mp hdecl
  unfold validDecl at hvalid
  split at hvalid
  · cases hvalid
  · split_ifs at hvalid
    cases hvalid
    rfl

/-- **The code remembers what it should**, whatever it has reported. -/
lemma watchStep_shown (p : Presence) (notes : List Note) (act : Act) :
    watchStep script (p.shown notes) act =
      (p.step script act).shown (watchStep script (p.shown notes) act).notes := by
  cases act with
  | setCallback cb => cases cb <;> rfl
  | watch ref decls =>
    simp only [watchStep, daemonWatch, Presence.step]
    split_ifs
    · rfl
    · simp only [Presence.shown]
      rw [watchMapSet_map, map_shown_validDecl]
  | unwatch ref =>
    simp only [watchStep, daemonUnwatch, Presence.step, Presence.shown]
    rw [List.filter_map]
    rfl
  | device a =>
    cases a with
    | openAll => rfl
    | openOne => rfl
    | close => rfl
    | evdevHangup => rfl
    | udevAdd dev watchAns ans =>
      simp only [watchStep, Watch.swept, Presence.step, Presence.swept, Presence.shown]
      rw [sweep_map fun ref i x => by rw [addedDecl_shown]]
    | udevRemove dev =>
      simp only [watchStep, Watch.swept, Presence.step, Presence.swept, Presence.shown]
      rw [sweep_map fun ref i x => removedDecl_shown p.onWatchlist x]

/-- **The code reports what it should** iff the step is not a spurious removal. -/
lemma notes_watchStep_iff (p : Presence) (act : Act) :
    (watchStep script (p.shown p.notes) act).notes = (p.step script act).notes ↔
      ¬ Spurious script p act := by
  have hno : ∀ a : Act, (∀ dev, a ≠ .device (.udevRemove dev)) → ¬ Spurious script p a := by
    rintro a ha ⟨dev, he, -⟩
    exact ha dev he
  cases act with
  | setCallback cb => exact iff_of_true (by cases cb <;> rfl) (hno _ fun _ h => by cases h)
  | watch ref decls =>
    refine iff_of_true ?_ (hno _ fun _ h => by cases h)
    simp only [watchStep, daemonWatch, Presence.step]
    split_ifs <;> rfl
  | unwatch ref => exact iff_of_true rfl (hno _ fun _ h => by cases h)
  | device a =>
    cases a with
    | openAll => exact iff_of_true rfl (hno _ fun _ h => by cases h)
    | openOne => exact iff_of_true rfl (hno _ fun _ h => by cases h)
    | close => exact iff_of_true rfl (hno _ fun _ h => by cases h)
    | evdevHangup => exact iff_of_true rfl (hno _ fun _ h => by cases h)
    | udevAdd dev watchAns ans =>
      refine iff_of_true ?_ (hno _ fun _ h => by cases h)
      simp only [watchStep, Watch.swept, Presence.step, Presence.swept, Presence.shown]
      rw [sweep_map_log fun ref i x => by rw [addedDecl_shown]]
    | udevRemove dev =>
      simp only [watchStep, Watch.swept, Presence.step, Presence.swept, Presence.shown]
      rw [List.append_cancel_left_eq, sweep_log, sweep_log, List.flatMap_map]
      have hparts : ∀ entry ∈ p.entries,
          ((entry.2.map Sighting.shown).flatMap fun x =>
              (removedDecl script dev p.onWatchlist x).2) =
            (entry.2.flatMap fun x => (vanish script dev p.onWatchlist x).2) ↔
          ∀ x ∈ entry.2, ¬ ((p.onWatchlist ≠ "" ∧ script.isFunction p.onWatchlist = true) ∧
            x.node = none ∧ eventNode dev x.decl.type = some "") := by
        intro entry _
        rw [List.flatMap_map, flatMap_eq_iff fun x _ => vanish_sublist p.onWatchlist x]
        simp only [removedDecl_eq_vanish_iff]
      rw [flatMap_eq_iff fun entry _ => ?_, forall₂_congr hparts]
      · constructor
        · rintro h ⟨dev', he, hcall, entry, hentry, x, hx, hnode, hev⟩
          cases he
          exact h entry hentry x hx ⟨hcall, hnode, hev⟩
        · rintro h entry hentry x hx ⟨hcall, hnode, hev⟩
          exact h ⟨dev, rfl, hcall, entry, hentry, x, hx, hnode, hev⟩
      · rw [List.flatMap_map]
        exact List.Sublist.flatMap_right _ fun x _ => vanish_sublist p.onWatchlist x

end Reports

/-! ## Runs -/

/-- The program with the model beside it. -/
def bothStep (script : Script) (q : State × Presence) (act : Act) : State × Presence :=
  (actStep script q.1 act, q.2.step script act)

/-- **The watchlist reports exactly which devices are present** in every state of a run of device
actions, udev events and calls of the module iff at no step a device without a node is removed
while a device of its kind is watched and absent and the callback can be called.

**Proof sketch.** The code remembers the same nodes as the model whatever has been reported. In one
step both report the same about every declaration, unless the event has an empty node and the
declaration is that of an absent device; and what the code reports contains what it should. -/
theorem notes_eq_iff_not_spurious (script : Script) (as : List Act) :
    Run.Always (bothStep script) (fun q => q.1.watch.notes = q.2.notes) ({}, {}) as ↔
      Run.EachStep (bothStep script) (fun q act => ¬ Spurious script q.2 act) ({}, {}) as := by
  have hwatch : ∀ (s : State) (act : Act), Visible s.watch.watchMap →
      (actStep script s act).watch = watchStep script s.watch act :=
    fun s act h => congrArg State.watch (actStep_eq h act)
  have hinit : Visible ({} : State).watch.watchMap ∧
      ({} : State).watch = ({} : Presence).shown ({} : State).watch.notes :=
    ⟨fun entry hentry => absurd hentry List.not_mem_nil, rfl⟩
  refine Run.always_iff_eachStep_of_step
    (I := fun q : State × Presence =>
      Visible q.1.watch.watchMap ∧ q.1.watch = q.2.shown q.1.watch.notes) (s := ({}, {}))
    ?_ ?_ hinit ?_ as
  · intro ⟨s, p⟩ act ⟨hvis, hshown⟩ _ _
    dsimp only [bothStep] at hvis hshown ⊢
    rw [hwatch s act hvis]
    refine ⟨visible_watchStep hvis act, ?_⟩
    rw [hshown]
    exact watchStep_shown p s.watch.notes act
  · intro ⟨s, p⟩ act ⟨hvis, hshown⟩ hnotes
    dsimp only [bothStep] at hvis hshown hnotes ⊢
    rw [hwatch s act hvis, hshown, hnotes]
    exact notes_watchStep_iff p act
  · rfl

end Aelkey.Device
