import Aelkey.Device.Consistency
import Aelkey.Lib.Alternation

set_option relaxedAutoImplicit false
set_option autoImplicit false

/-!
# Plugging and unplugging is reported once

The state callback of a device is called at five places, by two sources of events. Every call is
guarded by the success of an attach or a detach, so the calls for one id are what a switch reports:
`add` and `remove` in turns, and the last one says whether the id is attached. `close_device` is the
one action that detaches without a call.

## Main definitions

* `Aelkey.Device.notesOf` — the notifications of one id.
* `Aelkey.Device.Reported` — they alternate, and the last one tells whether the id is attached.

## Main results

* `Aelkey.Device.reported_of_callable` — so it is in all states of a run without `close_device`.
-/

namespace Aelkey.Device

/-- The states of which the callback of `id` has been told. -/
def notesOf (id : String) (notes : List Note) : List String :=
  (notes.filter fun note => note.device = id).map (·.state)

/-- The notifications of `id` alternate `add` and `remove`, starting with `add`, and the last one is
`add` iff `id` is attached. -/
def Reported (id : String) (s : State) : Prop :=
  Log.Alternates "add" "remove" (notesOf id s.notes) ∧
    (Log.IsOn "add" (notesOf id s.notes) ↔ id ∈ s.inputMap)

/-- All inputs declared under `id` have a state callback that is a function. -/
def Callable (script : Script) (id : String) : Prop :=
  ∀ decl ∈ script.inputs, decl.id = id →
    decl.onState ≠ "" ∧ script.isFunction decl.onState = true

section Steps

variable {script : Script} {id : String} {s s' : State} {decl : InputDecl}

/-- A declaration with the fields of a callable one is callable. -/
lemma Callable.declared (h : Callable script id) (hd : Declared script decl) (hid : decl.id = id) :
    decl.onState ≠ "" ∧ script.isFunction decl.onState = true := by
  obtain ⟨-, decl₀, hmem, hspec⟩ := hd
  have hid₀ : decl₀.id = decl.id := (congrArg InputDecl.id hspec).symm
  have hon : decl₀.onState = decl.onState := (congrArg InputDecl.onState hspec).symm
  rw [← hon]
  exact h decl₀ hmem (hid₀.trans hid)

/-- A notification for a callable id is one more entry of its log. -/
lemma notesOf_notify_self (h : Callable script id) (hd : Declared script decl) (hid : decl.id = id)
    (notes : List Note) (state : String) :
    notesOf id (notify script notes decl state) = notesOf id notes ++ [state] := by
  obtain ⟨hon, hfun⟩ := h.declared hd hid
  have hcall : ¬ (decl.onState = "" ∨ (!script.isFunction decl.onState) = true) := by
    simp [hon, hfun]
  rw [notify, if_neg hcall, notesOf, List.filter_append, List.map_append]
  simp [notesOf, hid]

/-- A notification for another id. -/
lemma notesOf_notify_ne (hid : decl.id ≠ id) (notes : List Note) (state : String) :
    notesOf id (notify script notes decl state) = notesOf id notes := by
  unfold notify
  split_ifs
  · rfl
  · simp [notesOf, hid]

/-- Attaching devices reports them. -/
lemma Opens.reported (ho : Opens script s s') (hcall : Callable script id) (h : Reported id s) :
    Reported id s' := by
  induction ho with
  | refl => exact h
  | untouched hu _ ih =>
    apply ih
    unfold Reported
    rwa [hu.notes, hu.inputMap]
  | @attaches s s' s'' decl ha _ ih =>
    apply ih
    obtain ⟨halt, hon⟩ := h
    unfold Reported
    rw [ha.notes, ha.inputMap, AList.mem_insert]
    by_cases hid : decl.id = id
    · rw [notesOf_notify_self hcall ha.declared hid, Log.alternates_concat (by decide),
        Log.isOn_concat]
      have hoff : ¬ Log.IsOn "add" (notesOf id s.notes) := fun h => ha.fresh (hid ▸ hon.mp h)
      exact ⟨⟨halt, .inr ⟨hoff, rfl⟩⟩, iff_of_true rfl (.inl hid.symm)⟩
    · rw [notesOf_notify_ne hid]
      refine ⟨halt, hon.trans ⟨.inr, fun h => h.resolve_left (Ne.symm hid)⟩⟩

/-- Detaching a device with a notification reports it. -/
lemma Detaches.reported {freed : String} (hd : Detaches script s s' decl freed true)
    (hcall : Callable script id) (hdecl : Declared script decl) (h : Reported id s) :
    Reported id s' := by
  obtain ⟨halt, hon⟩ := h
  unfold Reported
  rw [hd.notes, if_pos rfl, hd.inputMap, AList.mem_erase]
  by_cases hid : decl.id = id
  · rw [notesOf_notify_self hcall hdecl hid, Log.alternates_concat (by decide), Log.isOn_concat]
    have hin : Log.IsOn "add" (notesOf id s.notes) := hon.mpr (hid ▸ Table.mem_of_lookup hd.entry)
    exact ⟨⟨halt, .inl ⟨hin, rfl⟩⟩, iff_of_false (by decide) fun h => h.1 hid.symm⟩
  · rw [notesOf_notify_ne hid]
    exact ⟨halt, hon.trans ⟨fun h => ⟨Ne.symm hid, h⟩, And.right⟩⟩

/-- Every action but `close_device` reports what it attaches and detaches. -/
lemma reported_step (hcall : Callable script id) (hc : Consistent script s) (h : Reported id s)
    {a : Action} (ha : a.reports = true) : Reported id (step script s a) := by
  rcases step_cases hc a with ⟨-, ho⟩ | ⟨-, hu, -⟩ | ⟨-, decl, freed, -, hd⟩
  · exact ho.reported hcall h
  · have ho : Opens script s (step script s a) := hu.opens
    exact ho.reported hcall h
  · rw [ha] at hd
    exact hd.reported hcall (hc.declared _ _ hd.entry) h

end Steps

/-- **Plug and unplug are reported exactly once.** In every state of every run without
`close_device`, the notifications of an id with a state callback alternate, starting with `add`, and
the last one is `add` iff the id is attached. -/
theorem reported_of_callable (script : Script) (id : String) (hcall : Callable script id)
    (as : List Action) (has : ∀ a ∈ as, a.reports = true) :
    Run.Always (step script) (Reported id) {} as := by
  have hrun : Run.Always (step script) (fun s => Consistent script s ∧ Reported id s) {} as := by
    refine Run.always_of_step (C := fun _ a => a.reports = true) ?_ ⟨consistent_init, ?_⟩
      (Run.eachStep_of_forall has _)
    · intro s a ⟨hc, h⟩ ha
      exact ⟨consistent_step s a hc, reported_step hcall hc h ha⟩
    · exact ⟨trivial, iff_of_false (Log.not_isOn_nil _) (AList.notMem_empty id)⟩
  exact hrun.mono fun s h => h.2

/-- The statement for a keyboard that is opened, hangs up and is removed. -/
theorem reported_of_callable_keyboard :
    Run.Always (step ⟨[{ id := "kbd", type := .evdev, onState := "f" }], [], fun _ => true⟩)
      (Reported "kbd") {}
      [.openAll (fun _ => true) fun _ _ =>
          ⟨"/dev/input/event0", fun _ => 3, true, false, true, false, none, true, true⟩,
        .evdevHangup 3 "kbd", .udevRemove ⟨some .input, some "/dev/input/event0", none⟩] :=
  reported_of_callable _ "kbd" (by simp [Callable]) _ (by simp [Action.reports])

end Aelkey.Device
