import Aelkey.Device.Tables

set_option relaxedAutoImplicit false
set_option autoImplicit false

/-!
# What a remove event leaves attached

`handle_udev_remove` looks for the removed node among the declarations, not among the attached
devices: it detaches the id of the first declaration that remembers the node, and then stops. A
declaration remembers the node of its last attach, even after that device is gone. The event clears
the node if and only if the attached devices on it are those the loop finds.

## Main definitions

* `Aelkey.Device.OpenedOn` — an id is attached and its device was opened on a node.
* `Aelkey.Device.Clears` — a remove event detaches what was opened on its node, and nothing else.
* `Aelkey.Device.FirstOnly` — the first declaration that remembers the node is the only one with a
  device on it.

## Main results

* `Aelkey.Device.clears_iff_firstOnly` — all remove events of a run clear their nodes iff they find
  such states.
* `Aelkey.Device.not_clears_twoOnNode` — two declarations on one node.
-/

namespace Aelkey.Device

/-- `id` is attached, and its device was opened on `node`. -/
def OpenedOn (s : State) (id node : String) : Prop :=
  ∃ decl, s.inputMap.lookup id = some decl ∧ decl.type.isNode = true ∧
    s.kernel.files.lookup decl.fd = some node

/-- The node a remove event of the subsystems `input` and `hidraw` is for. -/
def removedNode (dev : UdevDevice) : Option String :=
  match dev.subsystem with
  | some .input | some .hidraw => dev.node
  | _ => none

/-- A remove event for a node leaves nothing attached that was opened on it, and leaves everything
else attached as it was. -/
def Clears (script : Script) (s : State) (a : Action) : Prop :=
  ∀ dev node, a = .udevRemove dev → removedNode dev = some node →
    (∀ id, ¬ OpenedOn (step script s a) id node) ∧
      ∀ id decl, s.inputMap.lookup id = some decl → ¬ OpenedOn s id node →
        (step script s a).inputMap.lookup id = some decl

/-- The ids opened on the node of a remove event are the id of the first declaration that remembers
the node, if that id is attached, and no other. -/
def FirstOnly (s : State) (a : Action) : Prop :=
  ∀ dev node, a = .udevRemove dev → removedNode dev = some node →
    ∀ id, OpenedOn s id node ↔
      id ∈ s.inputMap ∧ ∃ decl, remembered dev s.inputDecls = some decl ∧ decl.id = id

section Steps

variable {script : Script} {s s' : State}

/-- What is opened on a node is attached. -/
lemma OpenedOn.mem {id node : String} (h : OpenedOn s id node) : id ∈ s.inputMap := by
  obtain ⟨decl, hl, -⟩ := h
  exact Table.mem_of_lookup hl

/-- Nothing is opened or closed by doing nothing. -/
lemma Untouched.openedOn (h : Untouched s s') (id node : String) :
    OpenedOn s' id node ↔ OpenedOn s id node := by
  simp only [OpenedOn, h.inputMap, h.files]

/-- After a detach the other devices are still open on their nodes.

**Proof sketch.** The only descriptor that is closed is that of the detached device. -/
lemma Detaches.openedOn {decl : InputDecl} {freed : String} {noted : Bool}
    (hd : Detaches script s s' decl freed noted) (hc : Core script s) (id node : String) :
    OpenedOn s' id node ↔ id ≠ decl.id ∧ OpenedOn s id node := by
  unfold OpenedOn
  simp only [hd.lookup]
  by_cases hid : id = decl.id
  · simp [hid]
  simp only [ne_eq, hid, not_false_eq_true, true_and, ↓reduceIte]
  refine exists_congr fun d => and_congr_right fun hl => and_congr_right fun hn => ?_
  rw [hd.files, if_neg]
  intro ⟨ht, hfd⟩
  exact hid (hc.distinct id d decl.id decl hl hd.entry hn (by rw [ht]; rfl) hfd)

/-- A remove event for a node comes from a subsystem. -/
lemma subsystem_of_removedNode {dev : UdevDevice} {node : String}
    (h : removedNode dev = some node) : dev.subsystem ≠ none := by
  intro hnone
  simp [removedNode, hnone] at h

/-- One remove event clears its node iff the first declaration that remembers the node is the only
one with a device on it.

**Proof sketch.** The event detaches the id of that declaration if it is attached, and nothing
otherwise. So it clears the node iff exactly this id was opened on it. -/
lemma clears_iff (hc : Consistent script s) (a : Action) : Clears script s a ↔ FirstOnly s a := by
  refine forall_congr' fun dev => forall_congr' fun node => forall_congr' fun ha =>
    forall_congr' fun hnode => ?_
  have hdet : detached s a = (remembered dev s.inputDecls).map fun decl => (decl.id, decl.id) := by
    rw [ha, detached, if_neg (subsystem_of_removedNode hnode)]
  rcases step_cases hc a with ⟨hopen, -⟩ | ⟨-, hu, hnone⟩ | ⟨-, decl, freed, hdecl, hd⟩
  · rw [ha] at hopen
    cases hopen
  · -- nothing is detached
    have hfirst : ∀ id, ¬ (id ∈ s.inputMap ∧
        ∃ decl, remembered dev s.inputDecls = some decl ∧ decl.id = id) := by
      rintro id ⟨hin, decl, hr, rfl⟩
      exact hnone (decl.id, decl.id) (by rw [hdet, hr]; rfl) hin
    simp only [hu.openedOn, hu.inputMap, hfirst, iff_false]
    exact ⟨And.left, fun h => ⟨h, fun id decl hl _ => hl⟩⟩
  · have hfirst : ∀ id, (id ∈ s.inputMap ∧
        ∃ decl, remembered dev s.inputDecls = some decl ∧ decl.id = id) ↔ id = decl.id := by
      intro id
      obtain ⟨first, hr, he⟩ := Option.map_eq_some_iff.mp (hdet.symm.trans hdecl)
      have hid : first.id = decl.id := (Prod.mk.inj he).1
      constructor
      · rintro ⟨-, first', hr', rfl⟩
        rw [← hid, Option.some.inj (hr'.symm.trans hr)]
      · rintro rfl
        exact ⟨Table.mem_of_lookup hd.entry, first, hr, hid⟩
    simp only [hd.openedOn hc.toCore, hfirst, hd.lookup]
    constructor
    · rintro ⟨hleft, hkept⟩ id
      constructor
      · intro hon
        by_contra hne
        exact hleft id ⟨hne, hon⟩
      · rintro rfl
        by_contra hoff
        have hgone := hkept decl.id decl hd.entry hoff
        rw [if_pos rfl] at hgone
        cases hgone
    · intro h
      refine ⟨fun id hon => hon.1 ((h id).mp hon.2), fun id d hl hoff => ?_⟩
      rw [if_neg fun he => hoff ((h id).mpr he)]
      exact hl

end Steps

/-- **The remove events of a run clear their nodes iff each of them comes when the first declaration
that remembers the node is the only one with a device on it.** -/
theorem clears_iff_firstOnly (script : Script) (as : List Action) :
    Run.EachStep (step script) (Clears script) {} as ↔ Run.EachStep (step script) FirstOnly {} as :=
  Run.eachStep_congr (fun s a hc _ => consistent_step s a hc) (fun _ a hc => clears_iff hc a)
    consistent_init as

/-! ## Two declarations on one node -/

/-- A script that declares one keyboard twice. -/
def twiceScript : Script :=
  ⟨[{ id := "keys", type := .evdev }, { id := "leds", type := .evdev }], [], fun _ => false⟩

/-- Both declarations find `event0`; the descriptors are 3 and 4. -/
def twoAttempts : Answers := fun i _ => { attempt0 with openFd := fun _ => (i : ℤ) + 3 }

/-- `event0` is opened for both declarations, and is removed. -/
def twoOnNode : List Action :=
  [.openAll (fun _ => true) twoAttempts,
    .udevRemove ⟨some .input, some "/dev/input/event0", none⟩]

/-- The remove event of `twoOnNode` detaches the first device; the second is left attached on the
removed node. -/
theorem not_clears_twoOnNode :
    ¬ Run.EachStep (step twiceScript) (Clears twiceScript) {} twoOnNode := by
  rintro ⟨-, hclears, -⟩
  obtain ⟨hleft, -⟩ := hclears _ "/dev/input/event0" rfl rfl
  refine hleft "leds" ⟨{ id := "leds", type := .evdev, fd := 4 }, ?_, rfl, ?_⟩
  · decide
  · decide

end Aelkey.Device
