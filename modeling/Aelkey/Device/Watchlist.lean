import Aelkey.Device.Match
import Aelkey.Device.Consistency
import Mathlib.Data.String.Basic

set_option relaxedAutoImplicit false
set_option autoImplicit false

/-!
# The watchlist beside the devices

`aelkey.daemon` (`source/aelkey_daemon.cc`) keeps a list of devices that a script waits for. The
udev dispatcher serves it in the same functions as the declared inputs, with the same backends. Only
declarations of a type that udev can see are kept, and matching those changes nothing: so the
watchlist and the devices are two systems that run beside each other.

## Main definitions

* `Aelkey.Device.daemonSetCallback`, `Aelkey.Device.daemonWatch`, `Aelkey.Device.daemonUnwatch`,
  `Aelkey.Device.daemonWatchlist` — the functions of the module.
* `Aelkey.Device.Act`, `Aelkey.Device.actStep` — these calls among the actions on devices.
* `Aelkey.Device.sweep` — a pass over all declarations of the watchlist.

## Main results

* `Aelkey.Device.watchAdd_eq`, `Aelkey.Device.watchRemove_eq` — the two passes of the dispatcher.
* `Aelkey.Device.watchlist_apart` — in every run, what happens to the devices is what happens
  without the calls, and what happens to the watchlist is what happens without the devices.

## Design

An entry of the table that `watch` is given is a declaration as `parse_input` returns it, or no
table. `watch_map` is a `std::map`: a list in the order of its keys.
-/

namespace Aelkey.Device

/-! ## The module -/

/-- The argument of `set_callback`. -/
inductive CallbackArg
  | string (name : String)
  | nil
  | other

/-- `daemon_set_callback`. -/
def daemonSetCallback (cb : CallbackArg) (w : Watch) : Watch × Bool :=
  match cb with
  | .string name => ({ w with onWatchlist := name }, true)
  | .nil => ({ w with onWatchlist := "" }, true)
  | .other => (w, false)

/-- What `daemon_watch` keeps of an entry: a declaration of a type that udev can see. -/
def validDecl (entry : Option InputDecl) : Option InputDecl :=
  match entry with
  | none => none
  | some decl =>
    if decl.type.udevVisible then some { decl.spec with onEvent := "", onState := "" } else none

/-- Assignment to an entry of `watch_map`. -/
def watchMapSet {α : Type*} (ref : String) (value : α) : List (String × α) → List (String × α)
  | [] => [(ref, value)]
  | entry :: entries =>
    if ref < entry.1 then (ref, value) :: entry :: entries
    else if ref = entry.1 then (ref, value) :: entries
    else entry :: watchMapSet ref value entries

/-- `daemon_watch`, with the number of declarations it keeps. -/
def daemonWatch (ref : String) (decls : List (Option InputDecl)) (w : Watch) : Watch × ℕ :=
  let validDecls := decls.filterMap validDecl
  (if validDecls = [] then w else { w with watchMap := watchMapSet ref validDecls w.watchMap },
    validDecls.length)

/-- `daemon_unwatch`. -/
def daemonUnwatch (ref : String) (w : Watch) : Watch :=
  { w with watchMap := w.watchMap.filter fun entry => entry.1 ≠ ref }

/-- `daemon_watchlist`. -/
def daemonWatchlist (w : Watch) : List String := w.watchMap.map (·.1)

/-- What a script and the world do: actions on devices, and calls of `aelkey.daemon`. -/
inductive Act
  | device (a : Action)
  | setCallback (cb : CallbackArg)
  | watch (ref : String) (decls : List (Option InputDecl))
  | unwatch (ref : String)

/-- One of them. -/
def actStep (script : Script) (s : State) : Act → State
  | .device a => step script s a
  | .setCallback cb => { s with watch := (daemonSetCallback cb s.watch).1 }
  | .watch ref decls => { s with watch := (daemonWatch ref decls s.watch).1 }
  | .unwatch ref => { s with watch := daemonUnwatch ref s.watch }

/-- The ones that concern devices: all but the calls. -/
def Act.onDevices : Act → Bool
  | .device _ => true
  | .setCallback _ | .watch _ _ | .unwatch _ => false

/-- The ones that concern the watchlist: the calls and the udev events. -/
def Act.onWatchlist : Act → Bool
  | .device (.udevAdd _ _ _) | .device (.udevRemove _) => true
  | .device (.openAll _ _) | .device (.openOne _ _ _) | .device (.close _)
  | .device (.evdevHangup _ _) => false
  | .setCallback _ | .watch _ _ | .unwatch _ => true

/-! ## The watchlist as a list of values -/

section Sweep

variable {α β : Type*}

/-- A pass over lists of values under keys: `f` gets the key, the position and the value, and
returns the new value with what it reports. -/
def sweepList (f : ℕ → α → α × List β) : ℕ → List α → List α × List β
  | _, [] => ([], [])
  | i, a :: as =>
    let r := sweepList f (i + 1) as
    ((f i a).1 :: r.1, (f i a).2 ++ r.2)

/-- The pass over all keys. -/
def sweep (f : String → ℕ → α → α × List β) :
    List (String × List α) → List (String × List α) × List β
  | [] => ([], [])
  | entry :: entries =>
    let r := sweepList (f entry.1) 0 entry.2
    let r' := sweep f entries
    ((entry.1, r.1) :: r'.1, r.2 ++ r'.2)

end Sweep

/-- What a state callback named `callback` is told. -/
def report (script : Script) (callback : String) (decl : InputDecl) (state : String) : List Note :=
  if callback = "" ∨ !script.isFunction callback then [] else [⟨callback, decl.id, state⟩]

/-- The pass of `handle_udev_add` at one declaration. -/
def addedDecl (script : Script) (dev : UdevDevice) (callback : String) (a : Attempt)
    (decl : InputDecl) : InputDecl × List Note :=
  match (matchDecl {} decl a).2 with
  | some matched =>
    if eventNode dev decl.type = some matched then
      ({ decl with devnode := matched, onState := callback }, report script callback decl "add")
    else (decl, [])
  | none => (decl, [])

/-- The pass of `handle_udev_remove` at one declaration. -/
def removedDecl (script : Script) (dev : UdevDevice) (callback : String) (decl : InputDecl) :
    InputDecl × List Note :=
  if eventNode dev decl.type = some decl.devnode then
    ({ decl with devnode := "", onState := callback }, report script callback decl "remove")
  else (decl, [])

/-- A pass as a change of the watchlist. -/
def Watch.swept (w : Watch) (f : String → ℕ → InputDecl → InputDecl × List Note) : Watch :=
  { w with watchMap := (sweep f w.watchMap).1, notes := w.notes ++ (sweep f w.watchMap).2 }

/-- All declarations are of types that udev can see. -/
def Visible (entries : List (String × List InputDecl)) : Prop :=
  ∀ entry ∈ entries, ∀ decl ∈ entry.2, decl.type.udevVisible = true

section Passes

variable {script : Script} {dev : UdevDevice}

/-- A notification is one more report. -/
lemma notify_eq (notes : List Note) (decl : InputDecl) (state : String) :
    notify script notes decl state = notes ++ report script decl.onState decl state := by
  unfold notify report
  split_ifs
  · rw [List.append_nil]
  · rfl

/-- Matching a declaration of a type that udev can see. -/
lemma matchDecl_of_visible {decl : InputDecl} (h : decl.type.udevVisible = true) (s : State)
    (a : Attempt) : matchDecl s decl a = (s, (matchDecl {} decl a).2) := by
  unfold matchDecl
  cases ht : decl.type with
  | evdev => rfl
  | hidraw => rfl
  | libusb => rfl
  | gatt => cases ht ▸ h
  | other => rfl

/-- The add event at one declaration. -/
lemma watchAddDecl_eq {decl : InputDecl} (h : decl.type.udevVisible = true) (s : State)
    (a : Attempt) :
    watchAddDecl script dev a s decl =
      ({ s with watch := { s.watch with
          notes := s.watch.notes ++ (addedDecl script dev s.watch.onWatchlist a decl).2 } },
        (addedDecl script dev s.watch.onWatchlist a decl).1) := by
  unfold watchAddDecl addedDecl
  rw [matchDecl_of_visible h]
  cases (matchDecl {} decl a).2 with
  | none => simp
  | some matched =>
    dsimp only
    split_ifs
    · rw [notify_eq]
      rfl
    · simp

/-- The add event at the declarations of one entry. -/
lemma watchAddDecls_eq (ans : Answers) {decls : List InputDecl}
    (h : ∀ decl ∈ decls, decl.type.udevVisible = true) :
    ∀ (s : State) (i : ℕ), watchAddDecls script dev ans s i decls =
      ({ s with watch := { s.watch with notes := s.watch.notes ++
          (sweepList (fun i decl => addedDecl script dev s.watch.onWatchlist (ans i decl) decl)
            i decls).2 } },
        (sweepList (fun i decl => addedDecl script dev s.watch.onWatchlist (ans i decl) decl)
          i decls).1) := by
  induction decls with
  | nil => simp [watchAddDecls, sweepList]
  | cons decl decls ih =>
    intro s i
    obtain ⟨hdecl, hdecls⟩ := List.forall_mem_cons.mp h
    rw [watchAddDecls, watchAddDecl_eq hdecl, ih hdecls]
    simp [sweepList]

/-- **The pass of `handle_udev_add` over the watchlist.** -/
lemma watchAdd_eq (ans : String → Answers) {entries : List (String × List InputDecl)}
    (h : Visible entries) :
    ∀ s : State, watchAdd script dev ans s entries =
      ({ s with watch := { s.watch with notes := s.watch.notes ++
          (sweep (fun ref i decl =>
            addedDecl script dev s.watch.onWatchlist (ans ref i decl) decl) entries).2 } },
        (sweep (fun ref i decl =>
          addedDecl script dev s.watch.onWatchlist (ans ref i decl) decl) entries).1) := by
  induction entries with
  | nil => simp [watchAdd, sweep]
  | cons entry entries ih =>
    intro s
    obtain ⟨hentry, hentries⟩ := List.forall_mem_cons.mp h
    rw [watchAdd, watchAddDecls_eq _ hentry, ih hentries]
    simp [sweep]

/-- The remove event at the declarations of one entry. -/
lemma foldl_watchRemoveDecl (decls : List InputDecl) :
    ∀ (w : Watch) (i : ℕ) (done : List InputDecl), decls.foldl (fun p decl =>
        ((watchRemoveDecl script dev p.1 decl).1, p.2 ++ [(watchRemoveDecl script dev p.1 decl).2]))
        (w, done) =
      ({ w with notes := w.notes ++
          (sweepList (fun _ decl => removedDecl script dev w.onWatchlist decl) i decls).2 },
        done ++
          (sweepList (fun _ decl => removedDecl script dev w.onWatchlist decl) i decls).1) := by
  induction decls with
  | nil => simp [sweepList]
  | cons decl decls ih =>
    intro w i done
    have hone : watchRemoveDecl script dev w decl =
        ({ w with notes := w.notes ++ (removedDecl script dev w.onWatchlist decl).2 },
          (removedDecl script dev w.onWatchlist decl).1) := by
      unfold watchRemoveDecl removedDecl
      split_ifs
      · dsimp only
        rw [notify_eq]
        rfl
      · simp
    rw [List.foldl_cons, hone, ih _ (i + 1)]
    simp [sweepList]

/-- **The pass of `handle_udev_remove` over the watchlist.** -/
lemma watchRemove_eq (w : Watch) :
    watchRemove script dev w =
      w.swept fun _ _ decl => removedDecl script dev w.onWatchlist decl := by
  have hall : ∀ (entries done : List (String × List InputDecl)) (w : Watch),
      entries.foldl (fun w entry =>
        let r := entry.2.foldl (fun p decl =>
          let r := watchRemoveDecl script dev p.1 decl
          (r.1, p.2 ++ [r.2])) (w, ([] : List InputDecl))
        { r.1 with watchMap := r.1.watchMap ++ [(entry.1, r.2)] }) { w with watchMap := done } =
      { w with
        watchMap := done ++
          (sweep (fun _ _ decl => removedDecl script dev w.onWatchlist decl) entries).1
        notes := w.notes ++
          (sweep (fun _ _ decl => removedDecl script dev w.onWatchlist decl) entries).2 } := by
    intro entries
    induction entries with
    | nil => simp [sweep]
    | cons entry entries ih =>
      intro done w
      rw [List.foldl_cons]
      dsimp only
      rw [foldl_watchRemoveDecl _ _ 0]
      have := ih (done ++ [(entry.1, (sweepList (fun _ decl =>
        removedDecl script dev w.onWatchlist decl) 0 entry.2).1)])
        { w with notes := w.notes ++ (sweepList (fun _ decl =>
          removedDecl script dev w.onWatchlist decl) 0 entry.2).2 }
      simpa [sweep] using this
  exact hall w.watchMap [] w

end Passes

/-! ## The devices -/

/-- The state with another watchlist. -/
def State.withWatch (s : State) (w : Watch) : State := { s with watch := w }

section Devices

variable {script : Script} (s : State) (w : Watch)

/-- Opening a node of an evdev device leaves the watchlist alone. -/
lemma evdevOpen_withWatch (devnode : String) (decl : InputDecl) (a : Attempt) :
    evdevOpen (s.withWatch w) devnode decl a =
      ((evdevOpen s devnode decl a).1.withWatch w, (evdevOpen s devnode decl a).2) := by
  unfold evdevOpen
  rw [show (s.withWatch w).kernel = s.kernel from rfl]
  rcases s.kernel.openFile devnode (a.openFd s.kernel) with ⟨kernel, fd⟩
  dsimp only
  split_ifs <;> rfl

/-- Opening a node of a hidraw device. -/
lemma hidrawAttach_withWatch (devnode : String) (decl : InputDecl) (a : Attempt) :
    hidrawAttach (s.withWatch w) devnode decl a =
      ((hidrawAttach s devnode decl a).1.withWatch w, (hidrawAttach s devnode decl a).2) := by
  have hopen : hidrawOpen (s.withWatch w) devnode decl a =
      ((hidrawOpen s devnode decl a).1.withWatch w, (hidrawOpen s devnode decl a).2) := by
    unfold hidrawOpen
    rw [show (s.withWatch w).kernel = s.kernel from rfl]
    rcases s.kernel.openFile devnode (a.openFd s.kernel) with ⟨kernel, fd⟩
    dsimp only
    split_ifs <;> rfl
  unfold hidrawAttach
  rw [hopen]
  dsimp only
  split_ifs <;> rfl

/-- The `attach` of a backend. -/
lemma backendAttach_withWatch (devnode : String) (decl : InputDecl) (a : Attempt) :
    backendAttach (s.withWatch w) devnode decl a =
      ((backendAttach s devnode decl a).1.withWatch w, (backendAttach s devnode decl a).2) := by
  unfold backendAttach
  split
  · exact evdevOpen_withWatch s w devnode decl a
  · exact hidrawAttach_withWatch s w devnode decl a
  · unfold libusbAttach
    cases a.handle with
    | none => rfl
    | some handle =>
      dsimp only
      split_ifs <;> rfl
  · unfold gattAttach
    rw [show gattInit (s.withWatch w) a = (gattInit s a).withWatch w from rfl]
    dsimp only
    rw [show ((gattInit s a).withWatch w).gatt = (gattInit s a).gatt from rfl]
    split_ifs <;> rfl
  · rfl

/-- The `detach` of a backend. -/
lemma backendDetach_withWatch (id : String) (decl : InputDecl) :
    backendDetach (s.withWatch w) id decl =
      ((backendDetach s id decl).1.withWatch w, (backendDetach s id decl).2) := by
  unfold backendDetach
  split
  · unfold evdevClose
    split_ifs <;> rfl
  · unfold hidrawRemove
    rw [show (s.withWatch w).hidraw = s.hidraw from rfl]
    cases hidrawFind s.hidraw.devices id <;> rfl
  · unfold libusbDetach
    rw [show (s.withWatch w).libusb = s.libusb from rfl]
    cases s.libusb.devices.lookup id <;> rfl
  · unfold gattDetach
    rw [show (s.withWatch w).gatt = s.gatt from rfl]
    split_ifs <;> rfl
  · rfl

/-- `attach` with its notification. -/
lemma attachAndNotify_withWatch (devnode : String) (decl : InputDecl) (a : Attempt) :
    attachAndNotify script (s.withWatch w) devnode decl a =
      ((attachAndNotify script s devnode decl a).1.withWatch w,
        (attachAndNotify script s devnode decl a).2) := by
  have hattach : attach (s.withWatch w) devnode decl a =
      ((attach s devnode decl a).1.withWatch w, (attach s devnode decl a).2) := by
    unfold attach
    rw [backendAttach_withWatch, show (s.withWatch w).inputMap = s.inputMap from rfl]
    split_ifs
    · rfl
    · rcases backendAttach s devnode decl a with ⟨s', decl', _ | _⟩ <;> rfl
  unfold attachAndNotify
  rw [hattach]
  rcases attach s devnode decl a with ⟨s', decl', _ | _⟩ <;> rfl

/-- `detach`. -/
lemma detach_withWatch (devId freed : String) :
    detach (s.withWatch w) devId freed =
      ((detach s devId freed).1.withWatch w, (detach s devId freed).2) := by
  unfold detach
  rw [show (s.withWatch w).inputMap = s.inputMap from rfl]
  cases s.inputMap.lookup devId with
  | none => rfl
  | some decl =>
    dsimp only
    rw [backendDetach_withWatch]
    rcases backendDetach s devId decl with ⟨s', decl', _ | _⟩ <;> rfl

/-- `detach` with its notification. -/
lemma detachAndNotify_withWatch (devId freed : String) :
    detachAndNotify script (s.withWatch w) devId freed =
      (detachAndNotify script s devId freed).withWatch w := by
  unfold detachAndNotify
  rw [detach_withWatch]
  rcases detach s devId freed with ⟨s', _ | removed⟩
  · rfl
  · dsimp only
    split_ifs <;> rfl

/-- `match`. -/
lemma matchDecl_withWatch (decl : InputDecl) (a : Attempt) :
    matchDecl (s.withWatch w) decl a =
      ((matchDecl s decl a).1.withWatch w, (matchDecl s decl a).2) := by
  unfold matchDecl
  cases decl.type <;> rfl

/-- **The loops over the declared inputs** leave the watchlist alone. -/
lemma visitDecls_withWatch (ans : Answers) (wanted : InputDecl → Bool)
    {visit : State → InputDecl → String → Visit} (single : Bool)
    (hvisit : ∀ (s : State) (decl : InputDecl) (matched : String),
      visit (s.withWatch w) decl matched = visit s decl matched) (decls : List InputDecl) :
    ∀ (s : State) (i : ℕ), visitDecls script ans wanted visit single (s.withWatch w) i decls =
      ((visitDecls script ans wanted visit single s i decls).1.withWatch w,
        (visitDecls script ans wanted visit single s i decls).2) := by
  induction decls with
  | nil => exact fun _ _ => rfl
  | cons decl decls ih =>
    intro s i
    rw [visitDecls, visitDecls]
    by_cases hw : (!wanted decl) = true
    · rw [if_pos hw, if_pos hw]
      simp only [ih]
    rw [if_neg hw, if_neg hw, matchDecl_withWatch]
    rcases matchDecl s decl (ans i decl) with ⟨s₁, _ | matched⟩
    · simp only [ih]
    dsimp only
    rw [hvisit]
    cases visit s₁ decl matched with
    | skip => simp only [ih]
    | stop => rfl
    | attach devnode =>
      dsimp only
      rw [attachAndNotify_withWatch]
      by_cases hs : single = true
      · rw [if_pos hs, if_pos hs]
      · rw [if_neg hs, if_neg hs, ih]

/-- The loops over `input_decls`. -/
lemma visitInputs_withWatch (ans : Answers) (wanted : InputDecl → Bool)
    {visit : State → InputDecl → String → Visit} (single : Bool)
    (hvisit : ∀ (s : State) (decl : InputDecl) (matched : String),
      visit (s.withWatch w) decl matched = visit s decl matched) :
    visitInputs script ans wanted visit single (s.withWatch w) =
      ((visitInputs script ans wanted visit single s).1.withWatch w,
        (visitInputs script ans wanted visit single s).2) := by
  unfold visitInputs
  rw [show (s.withWatch w).inputDecls = s.inputDecls from rfl,
    visitDecls_withWatch w ans wanted single hvisit]
  rfl

/-- An action without a udev event. -/
lemma step_withWatch {a : Action} (ha : (Act.device a).onWatchlist = false) :
    step script (s.withWatch w) a = (step script s a).withWatch w := by
  cases a with
  | udevAdd => cases ha
  | udevRemove => cases ha
  | openAll creatable ans =>
    have hopen : openAll script creatable ans (s.withWatch w) =
        ((openAll script creatable ans s).1.withWatch w, (openAll script creatable ans s).2) := by
      unfold openAll
      rw [show (s.withWatch w).inputMap = s.inputMap from rfl,
        show (s.withWatch w).uinputDevices = s.uinputDevices from rfl]
      split_ifs
      · rfl
      · refine congrArg (fun r => (r.1, true)) (visitInputs_withWatch
          (createOutputsFromDecls creatable (parseDecls script s)) w ans (fun _ => true) false ?_)
        exact fun _ _ _ => rfl
    exact congrArg Prod.fst hopen
  | openOne creatable ans devId =>
    simp only [step, openOne]
    rw [show (s.withWatch w).inputDecls = s.inputDecls from rfl,
      show (s.withWatch w).outputDecls = s.outputDecls from rfl]
    split_ifs
    · exact congrArg Prod.fst (visitInputs_withWatch
        (createOutputsFromDecls creatable (parseDecls script s)) w ans _ true fun _ _ _ => rfl)
    · exact congrArg Prod.fst (visitInputs_withWatch s w ans _ true fun _ _ _ => rfl)
  | close devId =>
    simp only [step, closeDevice]
    rw [detach_withWatch]
    rcases detach s devId devId with ⟨s', _ | removed⟩ <;> rfl
  | evdevHangup fd freed =>
    simp only [step, handleEvdevHangup]
    rw [show (s.withWatch w).evdev = s.evdev from rfl,
      show (s.withWatch w).inputMap = s.inputMap from rfl]
    cases s.evdev.devices.lookup fd with
    | none => rfl
    | some id =>
      dsimp only
      cases s.inputMap.lookup id with
      | none => rfl
      | some decl => exact detachAndNotify_withWatch s w decl.id freed

end Devices

/-! ## Two systems -/

/-- What happens to the devices. -/
def deviceStep (script : Script) (s : State) : Act → State
  | .device a => step script s a
  | .setCallback _ | .watch _ _ | .unwatch _ => s

/-- What happens to the watchlist. -/
def watchStep (script : Script) (w : Watch) : Act → Watch
  | .device (.udevAdd dev watchAns _) =>
    w.swept fun ref i decl => addedDecl script dev w.onWatchlist (watchAns ref i decl) decl
  | .device (.udevRemove dev) => w.swept fun _ _ decl => removedDecl script dev w.onWatchlist decl
  | .device (.openAll _ _) | .device (.openOne _ _ _) | .device (.close _)
  | .device (.evdevHangup _ _) => w
  | .setCallback cb => (daemonSetCallback cb w).1
  | .watch ref decls => (daemonWatch ref decls w).1
  | .unwatch ref => daemonUnwatch ref w

section Apart

variable {script : Script}

/-- A pass that changes no value and reports nothing. -/
lemma swept_of_eq {w : Watch} {f : String → ℕ → InputDecl → InputDecl × List Note}
    (h : ∀ ref i decl, f ref i decl = (decl, [])) : w.swept f = w := by
  have hlist : ∀ (ref : String) (decls : List InputDecl) (i : ℕ),
      sweepList (f ref) i decls = (decls, []) := by
    intro ref decls
    induction decls with
    | nil => exact fun _ => rfl
    | cons decl decls ih => exact fun i => by rw [sweepList, ih, h]; rfl
  have hall : ∀ entries : List (String × List InputDecl), sweep f entries = (entries, []) := by
    intro entries
    induction entries with
    | nil => rfl
    | cons entry entries ih => rw [sweep, ih, hlist]; rfl
  rw [Watch.swept, hall, List.append_nil]

/-- An event without a subsystem is about no device. -/
lemma eventNode_of_none {dev : UdevDevice} (h : dev.subsystem = none) (type : DeviceType) :
    eventNode dev type = none := by
  rw [eventNode, h]

/-- **One step is a step of the devices and a step of the watchlist.**

**Proof sketch.** The calls concern the watchlist only. The functions on devices return the same
with another watchlist, and the passes over it match declarations of types that udev can see, which
leaves the rest of the state alone. -/
lemma actStep_eq {s : State} (h : Visible s.watch.watchMap) (act : Act) :
    actStep script s act =
      (deviceStep script (s.withWatch {}) act).withWatch (watchStep script s.watch act) := by
  cases act with
  | setCallback => rfl
  | watch => rfl
  | unwatch => rfl
  | device a =>
    cases a with
    | openAll creatable ans =>
      exact step_withWatch (a := .openAll creatable ans) (s.withWatch {}) s.watch rfl
    | openOne creatable ans devId =>
      exact step_withWatch (a := .openOne creatable ans devId) (s.withWatch {})
        s.watch rfl
    | close devId =>
      have hclose : step script ((s.withWatch {}).withWatch s.watch) (.close devId) =
          (step script (s.withWatch {}) (.close devId)).withWatch s.watch := step_withWatch _ _ rfl
      exact hclose
    | evdevHangup fd freed =>
      exact step_withWatch (a := .evdevHangup fd freed) (s.withWatch {}) s.watch rfl
    | udevAdd dev watchAns ans =>
      simp only [actStep, deviceStep, step, handleUdevAdd, watchStep]
      by_cases hsub : dev.subsystem = none
      · rw [if_pos hsub, if_pos hsub, swept_of_eq fun ref i decl => ?_]
        · rfl
        · unfold addedDecl
          rw [eventNode_of_none hsub]
          cases (matchDecl {} decl (watchAns ref i decl)).2 <;> rfl
      · rw [if_neg hsub, if_neg hsub, watchAdd_eq watchAns h]
        exact congrArg Prod.fst (visitInputs_withWatch (s.withWatch {}) _ ans _ true
          fun _ _ _ => rfl)
    | udevRemove dev =>
      simp only [actStep, deviceStep, step, handleUdevRemove, watchStep]
      by_cases hsub : dev.subsystem = none
      · rw [if_pos hsub, if_pos hsub, swept_of_eq fun ref i decl => ?_]
        · rfl
        · rw [removedDecl, eventNode_of_none hsub]
          rfl
      · rw [if_neg hsub, if_neg hsub, watchRemove_eq]
        rw [show (s.withWatch {}).inputDecls = s.inputDecls from rfl]
        cases remembered dev s.inputDecls with
        | none => rfl
        | some decl => exact detachAndNotify_withWatch (s.withWatch {}) _ decl.id decl.id

/-- The list that `watch` keeps has declarations of types that udev can see only. -/
lemma visible_watchMapSet {ref : String} {decls : List InputDecl}
    (hdecls : ∀ decl ∈ decls, decl.type.udevVisible = true)
    {entries : List (String × List InputDecl)} (h : Visible entries) :
    Visible (watchMapSet ref decls entries) := by
  induction entries with
  | nil => exact List.forall_mem_singleton.mpr hdecls
  | cons entry entries ih =>
    obtain ⟨hentry, hentries⟩ := List.forall_mem_cons.mp h
    rw [watchMapSet]
    split_ifs
    · exact List.forall_mem_cons.mpr ⟨hdecls, h⟩
    · exact List.forall_mem_cons.mpr ⟨hdecls, hentries⟩
    · exact List.forall_mem_cons.mpr ⟨hentry, ih hentries⟩

/-- A pass that keeps the types. -/
lemma visible_sweep {f : String → ℕ → InputDecl → InputDecl × List Note}
    (hf : ∀ ref i decl, (f ref i decl).1.type = decl.type)
    {entries : List (String × List InputDecl)} (h : Visible entries) :
    Visible (sweep f entries).1 := by
  have hlist : ∀ (ref : String) (decls : List InputDecl) (i : ℕ),
      (∀ decl ∈ decls, decl.type.udevVisible = true) →
        ∀ decl ∈ (sweepList (f ref) i decls).1, decl.type.udevVisible = true := by
    intro ref decls
    induction decls with
    | nil => exact fun _ h => h
    | cons decl decls ih =>
      intro i hdecls
      obtain ⟨hdecl, hrest⟩ := List.forall_mem_cons.mp hdecls
      exact List.forall_mem_cons.mpr ⟨by rw [hf]; exact hdecl, ih (i + 1) hrest⟩
  induction entries with
  | nil => exact h
  | cons entry entries ih =>
    obtain ⟨hentry, hentries⟩ := List.forall_mem_cons.mp h
    exact List.forall_mem_cons.mpr ⟨hlist entry.1 entry.2 0 hentry, ih hentries⟩

/-- Every step keeps to the types that udev can see. -/
lemma visible_watchStep {w : Watch} (h : Visible w.watchMap) (act : Act) :
    Visible (watchStep script w act).watchMap := by
  cases act with
  | setCallback cb => cases cb <;> exact h
  | watch ref decls =>
    simp only [watchStep, daemonWatch]
    split_ifs
    · exact h
    · refine visible_watchMapSet (fun decl hdecl => ?_) h
      obtain ⟨entry, -, hvalid⟩ := List.mem_filterMap.mp hdecl
      unfold validDecl at hvalid
      split at hvalid
      · cases hvalid
      · split_ifs at hvalid with hvis
        · cases hvalid
          exact hvis
  | unwatch ref => exact fun entry hentry => h entry (List.mem_of_mem_filter hentry)
  | device a =>
    cases a with
    | udevAdd dev watchAns ans =>
      refine visible_sweep (fun ref i decl => ?_) h
      unfold addedDecl
      cases (matchDecl {} decl (watchAns ref i decl)).2 with
      | none => rfl
      | some matched => dsimp only; split_ifs <;> rfl
    | udevRemove dev =>
      refine visible_sweep (fun ref i decl => ?_) h
      unfold removedDecl
      split_ifs <;> rfl
    | openAll => exact h
    | openOne => exact h
    | close => exact h
    | evdevHangup => exact h

/-- The devices alone have no watchlist. -/
lemma deviceStep_withWatch (s : State) (act : Act) :
    (deviceStep script (s.withWatch {}) act).withWatch {} =
      deviceStep script (s.withWatch {}) act := by
  cases act with
  | setCallback => rfl
  | watch => rfl
  | unwatch => rfl
  | device a =>
    have hnone : watchStep script {} (.device a) = {} := by cases a <;> rfl
    have hstep : actStep script (s.withWatch {}) (.device a) =
        (deviceStep script (s.withWatch {}) (.device a)).withWatch
          (watchStep script {} (.device a)) :=
      actStep_eq (fun _ hentry => absurd hentry List.not_mem_nil) (.device a)
    rw [hnone] at hstep
    exact hstep.symm

/-- **A run is a run of the devices and a run of the watchlist.** -/
lemma foldl_actStep (as : List Act) :
    ∀ s : State, Visible s.watch.watchMap → as.foldl (actStep script) s =
      (as.foldl (deviceStep script) (s.withWatch {})).withWatch
        (as.foldl (watchStep script) s.watch) := by
  induction as with
  | nil => exact fun _ _ => rfl
  | cons act as ih =>
    intro s h
    rw [List.foldl_cons, actStep_eq h, ih _ (visible_watchStep h act), List.foldl_cons,
      List.foldl_cons, ← deviceStep_withWatch s act]
    rfl

/-- **The watchlist and the devices do not interfere.** After every run of device actions, udev
events and calls of the module, the devices are as if the module had not been called, and the
watchlist with its notifications is as if no device had been opened, closed or hung up.

**Proof sketch.** Every step is a step of the devices and a step of the watchlist, so a run is a
pair of runs; the calls do nothing to the devices, and opening and closing does nothing to the
watchlist. -/
theorem watchlist_apart (script : Script) (as : List Act) :
    as.foldl (actStep script) {} =
      ((as.filter Act.onDevices).foldl (actStep script) {}).withWatch
        ((as.filter Act.onWatchlist).foldl (actStep script) {}).watch := by
  have hnone : Visible ({} : State).watch.watchMap := fun _ hentry => absurd hentry List.not_mem_nil
  have hdev : (as.filter Act.onDevices).foldl (deviceStep script) {} =
      as.foldl (deviceStep script) {} := by
    rw [List.foldl_filter]
    refine congrArg (fun f => as.foldl f _) (funext₂ fun s act => ?_)
    cases act <;> rfl
  have hwatch : (as.filter Act.onWatchlist).foldl (watchStep script) {} =
      as.foldl (watchStep script) {} := by
    rw [List.foldl_filter]
    refine congrArg (fun f => as.foldl f _) (funext₂ fun w act => ?_)
    cases act with
    | device a => cases a <;> rfl
    | setCallback => rfl
    | watch => rfl
    | unwatch => rfl
  rw [foldl_actStep as {} hnone, foldl_actStep (as.filter Act.onDevices) {} hnone,
    foldl_actStep (as.filter Act.onWatchlist) {} hnone]
  calc (as.foldl (deviceStep script) {}).withWatch (as.foldl (watchStep script) {})
      = ((as.filter Act.onDevices).foldl (deviceStep script) {}).withWatch
          ((as.filter Act.onWatchlist).foldl (watchStep script) {}) := by rw [hdev, hwatch]
    _ = _ := rfl

end Apart

end Aelkey.Device
