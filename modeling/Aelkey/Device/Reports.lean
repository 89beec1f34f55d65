import Aelkey.Device.Frames

set_option relaxedAutoImplicit false
set_option autoImplicit false

/-!
# Reports of raw HID devices

A script gets the reports of a hidraw device in two ways: the dispatcher reads one whenever the
descriptor is ready and hands it to the callback of the device, and `read_input_report` returns one.
Both read from the same open file, which has a queue of its own. The dispatcher reads before it
looks for the callback, and both read into buffers of a fixed size, so that a report can get lost.

## Main definitions

* `Aelkey.Device.handleHidrawEvent` — `handle_hidraw_event`.
* `Aelkey.Device.hidReadInputReport` — `read_input_report`.
* `Aelkey.Device.HidSession`, `Aelkey.Device.hidStep` — the devices with their queues.
* `Aelkey.Device.Since` — what there is to tell of a device since it was attached.
* `Aelkey.Device.Complete` — what a script has got of a device, and the queue, are the reports that
  have arrived at the node of the device since it was attached.

## Main results

* `Aelkey.Device.complete_iff_keepsReports` — this holds in every state of a run iff every report is
  read with a callback, or by a call, and fits the buffer.

## Design

A report that finds the queue of a file full does not arrive. A read at an empty queue fails; with
`grab` it waits instead, and then is modelled as taking place after the report has arrived. What a
callback does comes after it in the run. The size in the table of a callback is that of the data.
-/

namespace Aelkey.Device

/-! ## The model -/

/-- The bytes of a report. -/
abbrev Bytes := List UInt8

/-- The table that a callback gets. The size is that of the data. -/
structure RawEvent where
  device : String
  data : Option Bytes := none
  status : String
deriving DecidableEq

/-- What a script gets: a call of its callback, or the result of `read_input_report`, which is empty
on failure. -/
inductive Receipt
  | call (callback : String) (event : RawEvent)
  | result (id : String) (data : Bytes)
deriving DecidableEq

/-- The device layer, the queues of the open files, and what the script has got. -/
structure HidSession where
  device : State := {}
  queue : ℤ → List Bytes := fun _ => []
  log : List Receipt := []

/-- `read`, into a buffer of `count` bytes: the rest of the report is gone. -/
def HidSession.read (s : HidSession) (fd : ℤ) (count : ℕ) : HidSession × Option Bytes :=
  match s.queue fd with
  | [] => (s, none)
  | data :: rest => ({ s with queue := Function.update s.queue fd rest }, some (data.take count))

/-- The table for what `read` has returned; `error` is the text of `errno`. -/
def rawEvent (id : String) (r : Option Bytes) (error : String) : RawEvent :=
  match r with
  | none => { device := id, status := error }
  | some [] => { device := id, status := "disconnect" }
  | some data => { device := id, data := some data, status := "ok" }

/-- `handle_hidraw_event`. -/
def handleHidrawEvent (script : Script) (fd : ℤ) (decl : InputDecl) (events : ℕ) (error : String)
    (s : HidSession) : HidSession :=
  if events &&& 1 = 0 then s
  else
    let (s, r) := s.read fd 4096
    if decl.onEvent = "" ∨ !script.isFunction decl.onEvent then s
    else { s with log := s.log ++ [.call decl.onEvent (rawEvent decl.id r error)] }

/-- `DispatcherHidraw::handle_event`. -/
def hidrawHandleEvent (script : Script) (fd : ℤ) (events : ℕ) (error : String) (s : HidSession) :
    HidSession :=
  match s.device.hidraw.devices.lookup fd with
  | none => s
  | some decl => handleHidrawEvent script fd decl events error s

/-- `hid_read_input_report`. -/
def hidReadInputReport (id : String) (s : HidSession) : HidSession :=
  match s.device.inputMap.lookup id with
  | none => { s with log := s.log ++ [.result id []] }
  | some decl =>
    if decl.fd < 0 then { s with log := s.log ++ [.result id []] }
    else
      let (s, r) := s.read decl.fd 256
      { s with log := s.log ++ [.result id (r.getD [])] }

/-- A report arrives at a node: every file that is open on it gets a copy. -/
def arrive (node : String) (data : Bytes) (s : HidSession) : HidSession :=
  { s with
    queue := fun fd =>
      if s.device.kernel.files.lookup fd = some node then s.queue fd ++ [data] else s.queue fd }

/-- What happens: epoll events, calls of the script, reports, and actions of the device layer. -/
inductive HidAction
  | event (fd : ℤ) (events : ℕ) (error : String)
  | readInputReport (id : String)
  | report (node : String) (data : Bytes)
  | device (a : Action)

/-- One action. A file that is opened has an empty queue, and one that is closed loses its queue. -/
def hidStep (script : Script) (s : HidSession) : HidAction → HidSession
  | .event fd events error => hidrawHandleEvent script fd events error s
  | .readInputReport id => hidReadInputReport id s
  | .report node data => arrive node data s
  | .device a =>
    let device := step script s.device a
    { s with
      device := device
      queue := fun fd =>
        if fd ∈ s.device.kernel.files ∧ fd ∈ device.kernel.files then s.queue fd else [] }

/-! ## What a script should get -/

/-- The report of a device that a script gets. -/
def Receipt.reportOf (id : String) : Receipt → Option Bytes
  | .call _ event => if event.device = id then event.data else none
  | .result id' data => if id' = id ∧ data ≠ [] then some data else none

/-- The reports of a device that a script has got. -/
def received (id : String) (log : List Receipt) : List Bytes := log.filterMap (Receipt.reportOf id)

/-- What there is to tell of the raw devices, by id, since they were attached: the node on which a
device was opened, the reports that have arrived there, and how much the script had got before. -/
structure Since where
  node : String → Option String := fun _ => none
  arrived : String → List Bytes := fun _ => []
  start : String → ℕ := fun _ => 0

/-- The node of a device, in the step from `s` to `s'`: that on which it was opened when it was
attached. -/
def Since.nodeOf (q : Since) (s s' : State) (id : String) : Option String :=
  match s'.inputMap.lookup id with
  | none => none
  | some decl =>
    if id ∈ s.inputMap then q.node id
    else if decl.type = .hidraw then s'.kernel.files.lookup decl.fd else none

/-- The report that an action brings to a device. -/
def Since.newReport (q : Since) (id : String) : HidAction → List Bytes
  | .report node data => if q.node id = some node then [data] else []
  | _ => []

/-- One action, from `s` to `s'`. -/
def Since.step (q : Since) (s s' : HidSession) (act : HidAction) : Since where
  node := q.nodeOf s.device s'.device
  arrived := fun id => if id ∈ s'.device.inputMap then q.arrived id ++ q.newReport id act else []
  start := fun id => if id ∈ s'.device.inputMap then q.start id else s'.log.length

/-- The program with what there is to tell. -/
def reportStep (script : Script) (p : HidSession × Since) (act : HidAction) : HidSession × Since :=
  (hidStep script p.1 act, p.2.step p.1 (hidStep script p.1 act) act)

/-- **No report is lost or given to the wrong device**: for every attached raw device, what the
script has got of it and what is in the queue of its descriptor are the reports that have arrived at
its node since it was attached. -/
def Complete (p : HidSession × Since) : Prop :=
  ∀ id decl, AttachedAs p.1.device id .hidraw decl →
    received id (p.1.log.drop (p.2.start id)) ++ p.1.queue decl.fd = p.2.arrived id

/-- The report is neither empty nor longer than a buffer. -/
def FitsIn (count : ℕ) (data : Bytes) : Prop := data ≠ [] ∧ data.length ≤ count

/-- If the action reads a report, then there is someone who gets it, and it fits the buffer. -/
def KeepsReports (script : Script) (p : HidSession × Since) : HidAction → Prop
  | .event fd events _ => events &&& 1 ≠ 0 →
    ∀ decl, p.1.device.hidraw.devices.lookup fd = some decl → ∀ data ∈ (p.1.queue fd).head?,
      Listens script decl ∧ FitsIn 4096 data
  | .readInputReport id => ∀ decl, AttachedAs p.1.device id .hidraw decl →
    ∀ data ∈ (p.1.queue decl.fd).head?, FitsIn 256 data
  | _ => True

/-! ## Descriptors -/

/-- Only a device that is opened by a node has a descriptor. -/
def FdOfNode (decl : InputDecl) : Prop := decl.type.isNode = false → decl.fd < 0

/-- This holds of all declarations and of all attached devices. -/
structure FdsOfNodes (s : State) : Prop where
  inputDecls : ∀ decl ∈ s.inputDecls, FdOfNode decl
  inputMap : ∀ id decl, s.inputMap.lookup id = some decl → FdOfNode decl

section Descriptors

variable {script : Script} {s : State}

/-- A backend gives a descriptor to the devices of a node only. -/
lemma backendAttach_fdOfNode (s : State) (devnode : String) {decl : InputDecl} (a : Attempt)
    (h : FdOfNode decl) :
    FdOfNode (backendAttach s devnode decl a).2.1 ∧
      (backendAttach s devnode decl a).1.inputMap = s.inputMap := by
  unfold backendAttach
  split
  · next ht =>
    simp only [evdevOpen]
    split_ifs <;> exact ⟨fun hn => by simp [ht, DeviceType.isNode] at hn, rfl⟩
  · next ht =>
    simp only [hidrawAttach, hidrawOpen]
    split_ifs <;> exact ⟨fun hn => by simp [ht, DeviceType.isNode] at hn, rfl⟩
  · simp only [libusbAttach]
    split
    · exact ⟨h, rfl⟩
    · split_ifs <;> exact ⟨h, rfl⟩
  · simp only [gattAttach]
    split_ifs <;> exact ⟨h, rfl⟩
  · exact ⟨h, rfl⟩

/-- So does attaching a declaration. -/
lemma attachAndNotify_fdOfNode (script : Script) (devnode : String) {decl : InputDecl}
    (a : Attempt) (h : FdOfNode decl) (hs : ∀ id d, s.inputMap.lookup id = some d → FdOfNode d) :
    FdOfNode (attachAndNotify script s devnode decl a).2.1 ∧
      ∀ id d, (attachAndNotify script s devnode decl a).1.inputMap.lookup id = some d →
        FdOfNode d := by
  unfold attachAndNotify attach
  split_ifs
  · exact ⟨h, hs⟩
  · obtain ⟨hdecl, hmap⟩ := backendAttach_fdOfNode s devnode a h
    rcases hr : backendAttach s devnode decl a with ⟨s₁, decl₁, _ | _⟩ <;> rw [hr] at hdecl hmap
    · exact ⟨hdecl, fun id d hd => hs id d (hmap ▸ hd)⟩
    · refine ⟨hdecl, fun id d hd => ?_⟩
      dsimp only at hd hmap
      rw [Table.lookup_insert, hmap] at hd
      split_ifs at hd
      · exact Option.some.inj hd ▸ hdecl
      · exact hs id d hd

/-- So does a loop over declarations. -/
lemma visitDecls_fdOfNode (ans : Answers) (wanted : InputDecl → Bool)
    (visit : State → InputDecl → String → Visit) (single : Bool) (decls : List InputDecl) :
    ∀ (s : State) (i : ℕ), (∀ decl ∈ decls, FdOfNode decl) →
      (∀ id d, s.inputMap.lookup id = some d → FdOfNode d) →
      (∀ decl ∈ (visitDecls script ans wanted visit single s i decls).2.1, FdOfNode decl) ∧
        ∀ id d, (visitDecls script ans wanted visit single s i decls).1.inputMap.lookup id =
          some d → FdOfNode d := by
  induction decls with
  | nil => exact fun s i hdecls hs => ⟨hdecls, hs⟩
  | cons decl decls ih =>
    intro s i hdecls hs
    obtain ⟨hdecl, hrest⟩ := List.forall_mem_cons.mp hdecls
    have hskip : ∀ s : State, (∀ id d, s.inputMap.lookup id = some d → FdOfNode d) →
        (∀ d ∈ decl :: (visitDecls script ans wanted visit single s (i + 1) decls).2.1,
          FdOfNode d) ∧
        ∀ id d, (visitDecls script ans wanted visit single s (i + 1) decls).1.inputMap.lookup id =
          some d → FdOfNode d := by
      intro s hs
      obtain ⟨hd, hm⟩ := ih s (i + 1) hrest hs
      exact ⟨List.forall_mem_cons.mpr ⟨hdecl, hd⟩, hm⟩
    rw [visitDecls]
    by_cases hw : (!wanted decl) = true
    · rw [if_pos hw]
      exact hskip s hs
    rw [if_neg hw]
    have hmatch := (matchDecl_untouched s decl (ans i decl)).inputMap
    rcases hm : matchDecl s decl (ans i decl) with ⟨s₁, _ | matched⟩ <;> rw [hm] at hmatch
    · exact hskip s₁ (hmatch ▸ hs)
    dsimp only at hmatch ⊢
    rcases visit s₁ decl matched with _ | devnode | _
    · exact hskip s₁ (hmatch ▸ hs)
    · obtain ⟨hdecl', hs'⟩ :=
        attachAndNotify_fdOfNode script devnode (ans i decl) hdecl (hmatch ▸ hs)
      cases single with
      | true => exact ⟨List.forall_mem_cons.mpr ⟨hdecl', hrest⟩, hs'⟩
      | false =>
        obtain ⟨hd, hm⟩ := ih _ (i + 1) hrest hs'
        exact ⟨List.forall_mem_cons.mpr ⟨hdecl', hd⟩, hm⟩
    · exact ⟨hdecls, hmatch ▸ hs⟩

/-- The loops over `input_decls`. -/
lemma FdsOfNodes.visitInputs (h : FdsOfNodes s) (ans : Answers) (wanted : InputDecl → Bool)
    (visit : State → InputDecl → String → Visit) (single : Bool) :
    FdsOfNodes (visitInputs script ans wanted visit single s).1 := by
  obtain ⟨hdecls, hmap⟩ :=
    visitDecls_fdOfNode ans wanted visit single s.inputDecls s 0 h.inputDecls h.inputMap
  exact ⟨hdecls, hmap⟩

/-- A parsed declaration has no descriptor. -/
lemma FdsOfNodes.parseDecls (h : FdsOfNodes s) (creatable : OutputDecl → Bool) :
    FdsOfNodes (createOutputsFromDecls creatable (parseDecls script s)) := by
  refine ⟨fun decl hmem => ?_, h.inputMap⟩
  obtain ⟨decl₀, -, rfl⟩ := List.mem_map.mp hmem
  exact fun _ => show (-1 : ℤ) < 0 by decide

/-- Every action keeps this. -/
lemma FdsOfNodes.step (h : FdsOfNodes s) (hc : Consistent script s) (a : Action) :
    FdsOfNodes (step script s a) := by
  cases ha : a.closes with
  | true =>
    rcases step_closes hc ha with ⟨hu, hi, -⟩ | ⟨decl, freed, -, hd⟩
    · exact ⟨by rw [hi]; exact h.inputDecls, by rw [hu.inputMap]; exact h.inputMap⟩
    · refine ⟨by rw [hd.inputDecls]; exact h.inputDecls, fun id d hl => ?_⟩
      rw [hd.lookup] at hl
      split_ifs at hl
      exact h.inputMap id d hl
  | false =>
    cases a with
    | close => cases ha
    | udevRemove => cases ha
    | evdevHangup => cases ha
    | openAll creatable ans =>
      simp only [Device.step, openAll]
      split_ifs
      · exact h
      · exact (h.parseDecls creatable).visitInputs ans _ _ _
    | openOne creatable ans devId =>
      simp only [Device.step, openOne]
      split_ifs
      · exact (h.parseDecls creatable).visitInputs ans _ _ _
      · exact h.visitInputs ans _ _ _
    | udevAdd dev watchAns ans =>
      simp only [Device.step, handleUdevAdd]
      split_ifs
      · exact h
      · obtain ⟨hu, hi⟩ := watched_untouched script dev watchAns s
        have hw : FdsOfNodes (watched script dev watchAns s) :=
          ⟨by rw [hi]; exact h.inputDecls, by rw [hu.inputMap]; exact h.inputMap⟩
        exact hw.visitInputs ans _ _ _

end Descriptors

/-! ## Receipts -/

/-- What has been received in two parts of the log. -/
lemma received_append (id : String) (log log' : List Receipt) :
    received id (log ++ log') = received id log ++ received id log' :=
  List.filterMap_append

/-- What has been received from a position on, when there is more. -/
lemma received_drop_append {id : String} {log : List Receipt} {n : ℕ} (hn : n ≤ log.length)
    (log' : List Receipt) :
    received id ((log ++ log').drop n) = received id (log.drop n) ++ received id log' := by
  rw [List.drop_append_of_le_length hn, received_append]

/-- What a script can tell from the result of a read: an empty report looks like a failure. -/
def told : Option Bytes → List Bytes
  | none | some [] => []
  | some data => [data]

/-- A call tells about its own device only. -/
lemma received_call (id callback id' : String) (r : Option Bytes) (error : String) :
    received id [.call callback (rawEvent id' r error)] = if id' = id then told r else [] := by
  rcases r with _ | _ | ⟨b, data⟩ <;> by_cases h : id' = id <;>
    simp [received, Receipt.reportOf, rawEvent, told, h]

/-- So does a result. -/
lemma received_result (id id' : String) (r : Option Bytes) :
    received id [.result id' (r.getD [])] = if id' = id then told r else [] := by
  rcases r with _ | _ | ⟨b, data⟩ <;> by_cases h : id' = id <;>
    simp [received, Receipt.reportOf, told, h]

/-- A report gets through a buffer as it is iff it fits. -/
lemma told_take_eq_iff {count : ℕ} (hpos : 0 < count) (data : Bytes) :
    told (some (data.take count)) = [data] ↔ FitsIn count data := by
  obtain ⟨n, rfl⟩ : ∃ n, count = n + 1 := ⟨count - 1, by omega⟩
  cases data with
  | nil => simp [told, FitsIn]
  | cons b data => simp [told, FitsIn, List.take_eq_self_iff]

/-- Reading the first report of a queue loses nothing iff there is none or it fits the buffer. -/
lemma told_head_append_tail_iff {count : ℕ} (hpos : 0 < count) (queue : List Bytes) :
    told (queue.head?.map (·.take count)) ++ queue.tail = queue ↔
      ∀ data ∈ queue.head?, FitsIn count data := by
  cases queue with
  | nil => simp [told]
  | cons data rest =>
    have hfirst : told (some (data.take count)) ++ rest = data :: rest ↔
        told (some (data.take count)) = [data] := by
      rw [← List.singleton_append, List.append_left_inj]
    simpa [hfirst] using told_take_eq_iff hpos data

/-- `read` takes the first report out of the queue, if there is one. -/
lemma HidSession.read_eq (s : HidSession) (fd : ℤ) (count : ℕ) :
    s.read fd count =
      ({ s with queue := Function.update s.queue fd (s.queue fd).tail },
        (s.queue fd).head?.map (·.take count)) := by
  unfold HidSession.read
  split
  · next h =>
    have hsame : Function.update s.queue fd [] = s.queue := by
      rw [← h, Function.update_eq_self]
    rw [h, List.tail_nil, hsame]
    rfl
  · next data rest h =>
    rw [h]
    rfl

/-! ## The invariant -/

/-- **The invariant**: a closed file has no queue, a raw device is open on the node that is recorded
for it, and nothing is recorded for an id that is not attached. -/
structure HidInv (script : Script) (p : HidSession × Since) : Prop where
  consistent : Consistent script p.1.device
  fds : FdsOfNodes p.1.device
  closed : ∀ fd, fd ∉ p.1.device.kernel.files → p.1.queue fd = []
  node : ∀ id decl, AttachedAs p.1.device id .hidraw decl →
    p.2.node id = p.1.device.kernel.files.lookup decl.fd
  idle : ∀ id, id ∉ p.1.device.inputMap → p.2.arrived id = [] ∧ p.2.start id = p.1.log.length
  start : ∀ id, p.2.start id ≤ p.1.log.length

section Steps

variable {script : Script} {p : HidSession × Since}

/-- The program with other queues and more receipts. -/
def HidSession.after (s : HidSession) (queue : ℤ → List Bytes) (es : List Receipt) : HidSession :=
  { s with queue := queue, log := s.log ++ es }

/-- What leaves the devices alone keeps the invariant. -/
lemma HidInv.same (h : HidInv script p) (act : HidAction) {queue : ℤ → List Bytes}
    (hclosed : ∀ fd, fd ∉ p.1.device.kernel.files → queue fd = []) (es : List Receipt) :
    HidInv script (p.1.after queue es, p.2.step p.1 (p.1.after queue es) act) := by
  have hle : p.1.log.length ≤ (p.1.log ++ es).length := by
    rw [List.length_append]
    exact Nat.le_add_right _ _
  constructor
  case consistent => exact h.consistent
  case fds => exact h.fds
  case closed => exact hclosed
  case node =>
    intro id decl ha
    have hl : (p.1.after queue es).device.inputMap.lookup id = some decl := ha.1
    have hin : id ∈ p.1.device.inputMap := Table.mem_of_lookup ha.1
    simp only [Since.step, Since.nodeOf, hl]
    rw [if_pos hin]
    exact h.node id decl ha
  case idle =>
    intro id hid
    simp only [Since.step, if_neg hid, and_self]
  case start =>
    intro id
    simp only [Since.step]
    split_ifs
    · exact (h.start id).trans hle
    · exact le_rfl

/-- When nothing is attached or detached, nothing is lost iff every raw device finds in its queue
and in the new receipts what was in its queue, and what has arrived. -/
lemma HidInv.complete_same_iff (h : HidInv script p) (hc : Complete p) (act : HidAction)
    (queue : ℤ → List Bytes) (es : List Receipt) :
    Complete (p.1.after queue es, p.2.step p.1 (p.1.after queue es) act) ↔
      ∀ id decl, AttachedAs p.1.device id .hidraw decl →
        received id es ++ queue decl.fd = p.1.queue decl.fd ++ p.2.newReport id act := by
  refine forall_congr' fun id => forall_congr' fun decl => forall_congr' fun ha => ?_
  have hin : id ∈ (p.1.after queue es).device.inputMap := Table.mem_of_lookup ha.1
  simp only [Since.step, if_pos hin]
  rw [← hc id decl ha, HidSession.after, received_drop_append (h.start id), List.append_assoc,
    List.append_assoc, List.append_cancel_left_eq]

/-- What an action is said to do with the reports: it keeps the invariant, and loses nothing iff
`K` holds. -/
def LosesUnless (script : Script) (p : HidSession × Since) (act : HidAction) (K : Prop) : Prop :=
  HidInv script (reportStep script p act) ∧ (Complete p → (Complete (reportStep script p act) ↔ K))

/-- **A read** from the descriptor of a raw device loses nothing iff what is told of it, and the
rest of the queue, is the queue. -/
lemma HidInv.read (h : HidInv script p) {act : HidAction} {id : String} {decl : InputDecl}
    (ha : AttachedAs p.1.device id .hidraw decl) {es : List Receipt} {r : List Bytes}
    (hstep : hidStep script p.1 act =
      p.1.after (Function.update p.1.queue decl.fd (p.1.queue decl.fd).tail) es)
    (hes : ∀ id', received id' es = if id = id' then r else [])
    (hnew : ∀ id', p.2.newReport id' act = []) :
    LosesUnless script p act (r ++ (p.1.queue decl.fd).tail = p.1.queue decl.fd) := by
  unfold LosesUnless reportStep
  rw [hstep]
  refine ⟨h.same act (fun fd hfd => ?_) es, fun hc => ?_⟩
  · rw [Function.update_apply]
    split_ifs with he
    · rw [h.closed _ (he ▸ hfd), List.tail_nil]
    · exact h.closed fd hfd
  rw [h.complete_same_iff hc]
  constructor
  · intro hall
    have hown := hall id decl ha
    rwa [hes, if_pos rfl, Function.update_self, hnew, List.append_nil] at hown
  · intro hown id' decl' ha'
    rw [hes, hnew, List.append_nil]
    by_cases hid : id = id'
    · subst hid
      obtain rfl : decl' = decl := Option.some.inj (ha'.1.symm.trans ha.1)
      rw [if_pos rfl, Function.update_self, hown]
    · have hfd : decl'.fd ≠ decl.fd := fun he => hid (h.consistent.distinct id decl id' decl' ha.1
        ha'.1 (by rw [ha.2]; rfl) (by rw [ha'.2]; rfl) he.symm)
      rw [if_neg hid, Function.update_of_ne hfd, List.nil_append]

/-- Without a read from a raw device, and without a receipt for one, nothing is lost. -/
lemma HidInv.unread (h : HidInv script p) {act : HidAction} {queue : ℤ → List Bytes}
    {es : List Receipt} (hstep : hidStep script p.1 act = p.1.after queue es)
    (hclosed : ∀ fd, fd ∉ p.1.device.kernel.files → queue fd = [])
    (hqueue : ∀ id decl, AttachedAs p.1.device id .hidraw decl →
      queue decl.fd = p.1.queue decl.fd ++ p.2.newReport id act ∧ received id es = []) :
    LosesUnless script p act True := by
  unfold LosesUnless reportStep
  rw [hstep]
  refine ⟨h.same act hclosed es, fun hc => iff_true_intro ?_⟩
  refine (h.complete_same_iff hc act queue es).mpr fun id decl ha => ?_
  obtain ⟨hq, hr⟩ := hqueue id decl ha
  rw [hr, hq, List.nil_append]

/-- The condition may be written in another way. -/
lemma LosesUnless.congr {act : HidAction} {K K' : Prop} (h : LosesUnless script p act K)
    (hK : K ↔ K') : LosesUnless script p act K' :=
  ⟨h.1, fun hc => (h.2 hc).trans hK⟩

/-- Nothing happens to the queues and the receipts. -/
lemma HidSession.after_self (s : HidSession) : s = s.after s.queue [] := by
  rw [HidSession.after, List.append_nil]

/-- **An epoll event** loses nothing iff the report that is read, if there is one, has a callback
and fits the buffer. -/
lemma HidInv.event (h : HidInv script p) (fd : ℤ) (events : ℕ) (error : String) :
    LosesUnless script p (.event fd events error)
      (KeepsReports script p (.event fd events error)) := by
  have hunread : hidStep script p.1 (.event fd events error) = p.1 →
      LosesUnless script p (.event fd events error) True := fun hstep =>
    h.unread (hstep.trans p.1.after_self) h.closed fun _ _ _ => ⟨(List.append_nil _).symm, rfl⟩
  rcases hl : p.1.device.hidraw.devices.lookup fd with _ | decl
  · refine (hunread (by simp only [hidStep, hidrawHandleEvent, hl])).congr (iff_of_true trivial ?_)
    exact fun _ _ hl' => nomatch hl.symm.trans hl'
  by_cases hin : events &&& 1 = 0
  · refine (hunread ?_).congr (iff_of_true trivial fun hne => absurd hin hne)
    simp only [hidStep, hidrawHandleEvent, hl, handleHidrawEvent, if_pos hin]
  obtain ⟨decl₀, ha, rfl⟩ := (h.consistent.hidraw fd decl.id).mp ⟨decl, hl, rfl⟩
  have hkeeps : KeepsReports script p (.event decl₀.fd events error) ↔
      ∀ data ∈ (p.1.queue decl₀.fd).head?, Listens script decl ∧ FitsIn 4096 data :=
    ⟨fun hk => hk hin decl hl, fun hk _ decl' hl' => Option.some.inj (hl.symm.trans hl') ▸ hk⟩
  have hstep : hidStep script p.1 (.event decl₀.fd events error) =
      p.1.after (Function.update p.1.queue decl₀.fd (p.1.queue decl₀.fd).tail)
        (if decl.onEvent = "" ∨ (!script.isFunction decl.onEvent) = true then []
        else [.call decl.onEvent (rawEvent decl.id
          ((p.1.queue decl₀.fd).head?.map (·.take 4096)) error)]) := by
    simp only [hidStep, hidrawHandleEvent, hl, handleHidrawEvent, if_neg hin, HidSession.read_eq,
      HidSession.after]
    split_ifs
    · rw [List.append_nil]
    · rfl
  rw [hkeeps]
  by_cases hcb : decl.onEvent = "" ∨ (!script.isFunction decl.onEvent) = true
  · -- the report is read, and there is nobody to hand it to
    have hmute : ¬ Listens script decl := fun hm => by
      rcases hcb with hcb | hcb
      · exact hm.1 hcb
      · rw [hm.2] at hcb
        cases hcb
    rw [if_pos hcb] at hstep
    refine (h.read ha hstep (r := []) (fun id' => (ite_self _).symm) fun _ => rfl).congr ?_
    cases p.1.queue decl₀.fd <;> simp [hmute]
  · have hlistens : Listens script decl := by
      obtain ⟨hname, hfunction⟩ := not_or.mp hcb
      exact ⟨hname, by simpa using hfunction⟩
    rw [if_neg hcb] at hstep
    refine (h.read ha hstep (fun id' => received_call id' _ _ _ _) fun _ => rfl).congr ?_
    rw [told_head_append_tail_iff (by decide)]
    simp only [hlistens, true_and]

/-- **A call of `read_input_report`** loses nothing iff the report that is read, if there is one,
fits the buffer. -/
lemma HidInv.readInputReport (h : HidInv script p) (id : String) :
    LosesUnless script p (.readInputReport id) (KeepsReports script p (.readInputReport id)) := by
  have hresult : ∀ r : Option Bytes, ∀ id', received id' [.result id (r.getD [])] =
      if id = id' then told r else [] := fun r id' => received_result id' id r
  have hfailed :
      hidStep script p.1 (.readInputReport id) = p.1.after p.1.queue [.result id []] →
        LosesUnless script p (.readInputReport id) True := fun hstep =>
    h.unread hstep h.closed fun id' _ _ => ⟨(List.append_nil _).symm, (hresult none id').trans
      (ite_self _)⟩
  rcases hl : p.1.device.inputMap.lookup id with _ | decl
  · refine (hfailed ?_).congr (iff_of_true trivial fun _ ha => nomatch hl.symm.trans ha.1)
    simp only [hidStep, hidReadInputReport, hl, HidSession.after]
  by_cases hneg : decl.fd < 0
  · refine (hfailed ?_).congr (iff_of_true trivial fun decl' ha => ?_)
    · simp only [hidStep, hidReadInputReport, hl, if_pos hneg, HidSession.after]
    · obtain rfl := Option.some.inj (hl.symm.trans ha.1)
      exact absurd (h.consistent.opened id decl hl (by rw [ha.2]; rfl)).1 (not_le.mpr hneg)
  have hstep : hidStep script p.1 (.readInputReport id) =
      p.1.after (Function.update p.1.queue decl.fd (p.1.queue decl.fd).tail)
        [.result id (((p.1.queue decl.fd).head?.map (·.take 256)).getD [])] := by
    simp only [hidStep, hidReadInputReport, hl, if_neg hneg, HidSession.read_eq, HidSession.after]
  by_cases ht : decl.type = .hidraw
  · have ha : AttachedAs p.1.device id .hidraw decl := ⟨hl, ht⟩
    have hkeeps : KeepsReports script p (.readInputReport id) ↔
        ∀ data ∈ (p.1.queue decl.fd).head?, FitsIn 256 data :=
      ⟨fun hk => hk decl ha, fun hk _ ha' => Option.some.inj (hl.symm.trans ha'.1) ▸ hk⟩
    refine (h.read ha hstep (hresult _) fun _ => rfl).congr ?_
    rw [told_head_append_tail_iff (by decide), hkeeps]
  · -- the descriptor is that of an evdev device
    have hnode : decl.type.isNode = true := by
      by_contra hn
      exact hneg (h.fds.inputMap id decl hl (Bool.not_eq_true _ ▸ hn))
    have hother : ∀ id' decl', AttachedAs p.1.device id' .hidraw decl' →
        id ≠ id' ∧ decl'.fd ≠ decl.fd := by
      intro id' decl' ha'
      have hid : id ≠ id' := by
        rintro rfl
        exact ht (Option.some.inj (hl.symm.trans ha'.1) ▸ ha'.2)
      exact ⟨hid, fun he => hid (h.consistent.distinct id decl id' decl' hl ha'.1 hnode
        (by rw [ha'.2]; rfl) he.symm)⟩
    refine (h.unread hstep (fun fd hfd => ?_) fun id' decl' ha' => ⟨?_, ?_⟩).congr
      (iff_of_true trivial fun decl' ha' => ?_)
    · have hne : fd ≠ decl.fd := fun he => hfd (he ▸ (h.consistent.opened id decl hl hnode).2)
      rw [Function.update_of_ne hne]
      exact h.closed fd hfd
    · rw [Function.update_of_ne (hother id' decl' ha').2]
      exact (List.append_nil _).symm
    · rw [hresult, if_neg (hother id' decl' ha').1]
    · exact absurd (Option.some.inj (hl.symm.trans ha'.1) ▸ ha'.2) ht

/-- **A report that arrives** is in the queue of every device that is open on its node. -/
lemma HidInv.report (h : HidInv script p) (node : String) (data : Bytes) :
    LosesUnless script p (.report node data) True := by
  have hstep : hidStep script p.1 (.report node data) =
      p.1.after (arrive node data p.1).queue [] := by
    rw [HidSession.after, List.append_nil]
    rfl
  refine h.unread hstep (fun fd hfd => ?_) fun id decl ha => ⟨?_, rfl⟩
  · have hnone : p.1.device.kernel.files.lookup fd = none := AList.lookup_eq_none.mpr hfd
    simp only [arrive, hnone, reduceCtorEq, if_false]
    exact h.closed fd hfd
  · simp only [arrive, Since.newReport, h.node id decl ha]
    split_ifs
    · rfl
    · exact (List.append_nil _).symm

/-! ### Devices that come and go -/

/-- A raw device after devices have been attached: it was there before, and is open on the same
node, or it has a new descriptor. -/
lemma Opens.raw {s s' : State} (ho : Opens script s s') :
    (∀ fd ∈ s.kernel.files, s'.kernel.files.lookup fd = s.kernel.files.lookup fd) ∧
      ∀ id decl, AttachedAs s' id .hidraw decl → AttachedAs s id .hidraw decl ∨
        id ∉ s.inputMap ∧ decl.fd ∉ s.kernel.files := by
  induction ho with
  | refl => exact ⟨fun _ _ => rfl, fun _ _ ha => .inl ha⟩
  | @untouched s s₁ s₂ hu _ ih =>
    have hfiles : ∀ fd, fd ∈ s₁.kernel.files ↔ fd ∈ s.kernel.files := fun fd => by
      rw [Table.mem_iff_lookup, Table.mem_iff_lookup, hu.files]
    simp only [hfiles, hu.files, hu.inputMap, AttachedAs] at ih ⊢
    exact ih
  | @attaches s s₁ s₂ decl₁ ha _ ih =>
    obtain ⟨devnode, hfiles⟩ := ha.files
    have hmem : ∀ fd ∈ s.kernel.files, fd ∈ s₁.kernel.files ∧
        s₁.kernel.files.lookup fd = s.kernel.files.lookup fd := by
      intro fd hfd
      have hold : ¬ (decl₁.type.isNode = true ∧ fd = decl₁.fd) := by
        rintro ⟨hnode, rfl⟩
        exact AList.lookup_eq_none.mp (ha.unused hnode).2 hfd
      have hl := (hfiles fd).trans (if_neg hold)
      exact ⟨by rwa [Table.mem_iff_lookup, hl, ← Table.mem_iff_lookup], hl⟩
    refine ⟨fun fd hfd => (ih.1 fd (hmem fd hfd).1).trans (hmem fd hfd).2, fun id decl hd => ?_⟩
    rcases ih.2 id decl hd with hd₁ | ⟨hid, hfd⟩
    · rcases (ha.attachedAs id .hidraw decl).mp hd₁ with ⟨rfl, rfl, ht⟩ | hd₀
      · exact .inr ⟨ha.fresh, AList.lookup_eq_none.mp (ha.unused (by rw [ht]; rfl)).2⟩
      · exact .inl hd₀
    · refine .inr ⟨fun hin => hid ?_, fun hin => hfd (hmem _ hin).1⟩
      rw [ha.inputMap]
      exact (AList.mem_insert _).mpr (.inr hin)

/-- The same after any action. -/
lemma step_raw {s : State} (hc : Consistent script s) (a : Action) {id : String}
    {decl : InputDecl} (ha : AttachedAs (step script s a) id .hidraw decl) :
    (AttachedAs s id .hidraw decl ∧
        (step script s a).kernel.files.lookup decl.fd = s.kernel.files.lookup decl.fd) ∨
      id ∉ s.inputMap ∧ decl.fd ∉ s.kernel.files := by
  have hopen : ∀ {d}, AttachedAs s id .hidraw d → d.fd ∈ s.kernel.files := fun hd =>
    (hc.opened id _ hd.1 (by rw [hd.2]; rfl)).2
  have hopens : Opens script s (step script s a) →
      (AttachedAs s id .hidraw decl ∧
        (step script s a).kernel.files.lookup decl.fd = s.kernel.files.lookup decl.fd) ∨
      id ∉ s.inputMap ∧ decl.fd ∉ s.kernel.files := fun ho =>
    (ho.raw.2 id decl ha).imp_left fun hd => ⟨hd, ho.raw.1 _ (hopen hd)⟩
  rcases step_cases hc a with ⟨-, ho⟩ | ⟨-, hu, -⟩ | ⟨-, decl₁, freed, -, hd⟩
  · exact hopens ho
  · exact hopens hu.opens
  · obtain ⟨hne, hd₀⟩ := (hd.attachedAs id .hidraw decl).mp ha
    refine .inl ⟨hd₀, (hd.files decl.fd).trans (if_neg ?_)⟩
    rintro ⟨ht, hfd⟩
    exact hne (hc.distinct id decl decl₁.id decl₁ hd₀.1 hd.entry (by rw [hd₀.2]; rfl)
      (by rw [ht]; rfl) hfd)

/-- **An action of the device layer** loses nothing: a device that stays attached keeps its file,
and a new one starts with an empty queue. -/
lemma HidInv.device (h : HidInv script p) (a : Action) :
    LosesUnless script p (.device a) True := by
  have hc' := consistent_step p.1.device a h.consistent
  set s' := hidStep script p.1 (.device a)
  set q' := p.2.step p.1 s' (.device a)
  -- what is recorded of an id that is attached afterwards, and of one that is not
  have hin : ∀ id, id ∈ s'.device.inputMap →
      q'.arrived id = p.2.arrived id ∧ q'.start id = p.2.start id := fun id hid =>
    ⟨(if_pos hid).trans (List.append_nil _), if_pos hid⟩
  have hout : ∀ id, id ∉ s'.device.inputMap →
      q'.arrived id = [] ∧ q'.start id = s'.log.length := fun id hid =>
    ⟨if_neg hid, if_neg hid⟩
  refine ⟨⟨hc', h.fds.step h.consistent a, fun fd hfd => ?_, fun id decl ha => ?_, hout,
    fun id => ?_⟩, fun hc => iff_true_intro fun id decl ha => ?_⟩
  · exact if_neg fun hboth => hfd hboth.2
  · have hnode : q'.node id = if id ∈ p.1.device.inputMap then p.2.node id
        else if decl.type = .hidraw then s'.device.kernel.files.lookup decl.fd else none := by
      have hl : s'.device.inputMap.lookup id = some decl := ha.1
      simp only [q', Since.step, Since.nodeOf, hl]
    refine hnode.trans ?_
    rcases step_raw h.consistent a ha with ⟨hd, hfiles⟩ | ⟨hid, -⟩
    · rw [if_pos (Table.mem_of_lookup hd.1), h.node id decl hd]
      exact hfiles.symm
    · rw [if_neg hid, if_pos ha.2]
      rfl
  · by_cases hid : id ∈ s'.device.inputMap
    · exact (hin id hid).2.trans_le (h.start id)
    · exact (hout id hid).2.le
  · obtain ⟨harrived, hstart⟩ := hin id (Table.mem_of_lookup ha.1)
    have hnew := (hc'.opened id decl ha.1 (by rw [ha.2]; rfl)).2
    show received id (p.1.log.drop (q'.start id)) ++ s'.queue decl.fd = q'.arrived id
    rw [harrived, hstart]
    rcases step_raw h.consistent a ha with ⟨hd, -⟩ | ⟨hid, hfd⟩
    · have hold := (h.consistent.opened id decl hd.1 (by rw [hd.2]; rfl)).2
      have hqueue : s'.queue decl.fd = p.1.queue decl.fd := if_pos ⟨hold, hnew⟩
      rw [hqueue]
      exact hc id decl hd
    · have hqueue : s'.queue decl.fd = [] := if_neg fun hboth => hfd hboth.1
      obtain ⟨hnone, hlast⟩ := h.idle id hid
      rw [hqueue, hnone, hlast, List.drop_length]
      rfl

end Steps

/-! ## Runs -/

/-- **Every report reaches the script once, in order, and from the right device**, in every state of
every run of device actions, udev events, reports, epoll events and calls, iff every report that is
read has someone to get it and fits the buffer it is read into.

**Proof sketch.** An attached raw device keeps its file, so that its queue only changes by reports
that arrive at its node and by reads for it. A read passes on the first report of the queue; without
a callback, or with a buffer that is too short, it passes on less. -/
theorem complete_iff_keepsReports (script : Script) (acts : List HidAction) :
    Run.Always (reportStep script) Complete ({}, {}) acts ↔
      Run.EachStep (reportStep script) (KeepsReports script) ({}, {}) acts := by
  have hstep : ∀ (p : HidSession × Since) (act : HidAction), HidInv script p →
      LosesUnless script p act (KeepsReports script p act) := by
    intro p act h
    cases act with
    | event fd events error => exact h.event fd events error
    | readInputReport id => exact h.readInputReport id
    | report node data => exact h.report node data
    | device a => exact h.device a
  have hinit : HidInv script ({}, {}) :=
    ⟨consistent_init, ⟨fun _ hmem => absurd hmem List.not_mem_nil, fun _ _ hl => by simp at hl⟩,
      fun _ _ => rfl, fun _ _ ha => by simp [AttachedAs] at ha, fun _ _ => ⟨rfl, rfl⟩,
      fun _ => le_rfl⟩
  exact Run.always_iff_eachStep_of_step (fun p act h _ _ => (hstep p act h).1)
    (fun p act h hc => (hstep p act h).2 hc) hinit (fun _ _ ha => by simp [AttachedAs] at ha) acts

end Aelkey.Device
