import Aelkey.Usb.Model

set_option relaxedAutoImplicit false
set_option autoImplicit false

/-!
# The life of a transfer

The handle of a transfer keeps a raw pointer, while `dispatch_libusb` destroys the transfer when it
fails or cannot be submitted again. So `cancel` and `resubmit` may be called on a freed transfer.
And a transfer that its own callback submits again is in flight when the switch of `dispatch_libusb`
destroys it.

## Main definitions

* `Aelkey.Usb.Safe` — every transfer is freed at most once and never used afterwards.
* `Aelkey.Usb.Ends` — the completions that end a transfer, by their status.
* `Aelkey.Usb.Seen`, `Aelkey.Usb.seenStep` — a run, with the transfers that have ended so far.
* `Aelkey.Usb.Heeds` — no handle of an ended transfer is used, and none in flight ends.

## Main results

* `Aelkey.Usb.safe_iff_heeds` — a run is safe iff all its steps heed the ended transfers.
* `Aelkey.Usb.not_safe_cancelFailed` — a handle is used after its transfer failed.

## Design

Which transfers have ended is told by the statuses of their completions, by whether libusb takes
them again, and by whether the device is there, and not by what has been freed.
-/

namespace Aelkey.Usb

open Device

/-- **Safety of the transfers.** Every transfer has been freed at most once, none has been used
after it was freed, and none that libusb has in flight, and so may complete next, has been freed. -/
structure Safe (u : System) : Prop where
  once : ∀ t tr, u.transfers.lookup t = some tr → tr.frees ≤ 1
  unused : u.misused = []
  pending : ∀ t tr, u.transfers.lookup t = some tr → tr.flying = true → tr.frees = 0

/-- The device is there: libusb has a handle under the id of the declaration, and the descriptor of
the device can be read. -/
def Present (u : System) (tr : Transfer) (answer : Answer) : Prop :=
  declId u tr answer.stale ∈ u.device.libusb.devices ∧ answer.descriptorOk = true

/-- **The completions that end a transfer**, after the callback: a transient one if libusb does not
take the transfer again, since its callback has put it in flight or for another reason; and one that
was cancelled or has failed, if the device is there. A device that is gone is detached, and its
transfers do not end. -/
def Ends (u : System) (tr : Transfer) (status : Status) (answer : Answer) : Prop :=
  match status with
  | .completed | .overflow | .timedOut => tr.flying = true ∨ answer.submitOk = false
  | .noDevice => False
  | .cancelled | .error | .stall => Present u tr answer

instance (u : System) (tr : Transfer) (answer : Answer) : Decidable (Present u tr answer) :=
  instDecidableAnd

instance (u : System) (tr : Transfer) (answer : Answer) :
    ∀ status, Decidable (Ends u tr status answer)
  | .completed | .overflow | .timedOut => instDecidableOr
  | .noDevice => .isFalse id
  | .cancelled | .error | .stall => inferInstanceAs (Decidable (Present u tr answer))

/-- The transfer that a step ends. -/
def ended (u : System) : UsbAction → List ℕ
  | .finish answer =>
    match u.running with
    | none => []
    | some (t, status) =>
      match u.transfers.lookup t with
      | none => []
      | some tr => if Ends u tr status answer then [t] else []
  | .attach _ _ | .close _ | .submit _ _ _ | .cancel _ | .resubmit _ _ | .complete _ _ => []

/-- A run, with the transfers that have ended so far. -/
structure Seen where
  system : System := {}
  past : List ℕ := []

/-- One step. -/
def seenStep (s : Seen) (a : UsbAction) : Seen where
  system := usbStep s.system a
  past := s.past ++ ended s.system a

/-- The handle of a transfer is used only before the transfer has ended, and a transfer that is in
flight after its callback does not end there. -/
def Heeds (s : Seen) : UsbAction → Prop
  | .cancel t | .resubmit t _ => t ∉ s.past
  | .finish answer =>
    ∀ t status tr, s.system.running = some (t, status) → s.system.transfers.lookup t = some tr →
      tr.flying = true → ¬ Ends s.system tr status answer
  | _ => True

/-- Transfers have numbers that were given out, and the one whose callback runs is not freed. -/
structure Numbered (u : System) : Prop where
  given : ∀ t ∈ u.transfers, t < u.nextTransfer
  running : ∀ t status, u.running = some (t, status) →
    ∃ tr, u.transfers.lookup t = some tr ∧ tr.frees = 0

/-- The transfers that have ended are those that have been freed. -/
structure Marked (u : System) (past : List ℕ) : Prop where
  freed : ∀ t tr, u.transfers.lookup t = some tr → (tr.frees = 0 ↔ t ∉ past)
  known : ∀ t ∈ past, t ∈ u.transfers

/-! ## Steps that change one transfer -/

section Steps

variable {u : System}

/-- Safety is about the transfers and the record alone. -/
lemma Safe.congr {u' : System} (h : Safe u) (ht : u'.transfers = u.transfers)
    (hm : u'.misused = u.misused) : Safe u' :=
  ⟨fun t tr hl => h.once t tr (ht ▸ hl), hm.trans h.unused,
    fun t tr hl => h.pending t tr (ht ▸ hl)⟩

/-- Safety after one transfer has been changed: it is about that transfer. -/
lemma safe_setTransfer_iff (h : Safe u) (t : ℕ) (tr : Transfer) :
    Safe (u.setTransfer t tr) ↔ tr.frees ≤ 1 ∧ (tr.flying = true → tr.frees = 0) := by
  have hlookup : ∀ t', (u.setTransfer t tr).transfers.lookup t' =
      if t' = t then some tr else u.transfers.lookup t' := fun t' =>
    Table.lookup_insert u.transfers t t' tr
  constructor
  · intro h'
    have hsame : (u.setTransfer t tr).transfers.lookup t = some tr := by rw [hlookup, if_pos rfl]
    exact ⟨h'.once t tr hsame, h'.pending t tr hsame⟩
  · intro ⟨honce, hpending⟩
    refine ⟨fun t' tr' hl => ?_, h.unused, fun t' tr' hl hf => ?_⟩
    · rw [hlookup] at hl
      split_ifs at hl
      · rw [← Option.some.inj hl]
        exact honce
      · exact h.once t' tr' hl
    · rw [hlookup] at hl
      split_ifs at hl
      · rw [← Option.some.inj hl] at hf ⊢
        exact hpending hf
      · exact h.pending t' tr' hl hf

/-- The numbers are about the transfers and the running callback alone. -/
lemma Numbered.congr {u' : System} (h : Numbered u) (ht : u'.transfers = u.transfers)
    (hn : u'.nextTransfer = u.nextTransfer) (hr : u'.running = u.running ∨ u'.running = none) :
    Numbered u' := by
  refine ⟨fun t hmem => hn ▸ h.given t (ht ▸ hmem), fun t status hrun => ?_⟩
  rcases hr with hr | hr
  · rw [ht]
    exact h.running t status (hr ▸ hrun)
  · simp [hr] at hrun

/-- A transfer with a number is changed, and is not freed if its callback runs. -/
lemma Numbered.setTransfer {t : ℕ} (hgiven : ∀ t' ∈ u.transfers, t' < u.nextTransfer)
    (ht : t < u.nextTransfer) (tr : Transfer)
    (hrun : ∀ t' status, u.running = some (t', status) →
      t' = t ∧ tr.frees = 0 ∨ ∃ tr', u.transfers.lookup t' = some tr' ∧ tr'.frees = 0 ∧ t' ≠ t) :
    Numbered (u.setTransfer t tr) := by
  refine ⟨fun t' hmem => ?_, fun t' status hr => ?_⟩
  · rcases (AList.mem_insert _).mp hmem with rfl | hmem
    · exact ht
    · exact hgiven t' hmem
  · have hlookup : (u.setTransfer t tr).transfers.lookup t' =
        if t' = t then some tr else u.transfers.lookup t' := Table.lookup_insert u.transfers t t' tr
    rcases hrun t' status hr with ⟨rfl, hf⟩ | ⟨tr', hl, hf, hne⟩
    · exact ⟨tr, by rw [hlookup, if_pos rfl], hf⟩
    · exact ⟨tr', by rw [hlookup, if_neg hne, hl], hf⟩

variable {past : List ℕ}

/-- The marks are about the transfers alone. -/
lemma Marked.congr {u' : System} (h : Marked u past) (ht : u'.transfers = u.transfers) :
    Marked u' past :=
  ⟨fun t tr hl => h.freed t tr (ht ▸ hl), fun t hmem => ht ▸ h.known t hmem⟩

/-- A transfer is changed, and ends if it is freed. -/
lemma Marked.setTransfer {past' : List ℕ} (h : Marked u past) {t : ℕ} {tr : Transfer}
    (ht : tr.frees = 0 ↔ t ∉ past') (hother : ∀ t', t' ≠ t → (t' ∈ past' ↔ t' ∈ past)) :
    Marked (u.setTransfer t tr) past' := by
  refine ⟨fun t' tr' hl => ?_, fun t' hmem => ?_⟩
  · rw [System.setTransfer, Table.lookup_insert] at hl
    split_ifs at hl with he
    · rw [← Option.some.inj hl, he]
      exact ht
    · rw [h.freed t' tr' hl, hother t' he]
  · by_cases he : t' = t
    · exact (AList.mem_insert _).mpr (.inl he)
    · exact (AList.mem_insert _).mpr (.inr (h.known t' ((hother t' he).mp hmem)))

/-- A transfer that has a number of its own has not ended. -/
lemma Marked.fresh (h : Marked u past) (hn : Numbered u) : u.nextTransfer ∉ past :=
  fun hmem => lt_irrefl _ (hn.given _ (h.known _ hmem))

end Steps

/-! ## What the functions do to a transfer -/

section Functions

variable {u : System} {t : ℕ} {tr : Transfer}

/-- Submitting a transfer that is not freed: it is refused, or the transfer is in flight. -/
lemma libusbSubmitTransfer_of_live (ok : Bool) (hl : u.transfers.lookup t = some tr)
    (hf : tr.frees = 0) :
    libusbSubmitTransfer u t ok =
      if tr.flying = true ∨ ok = false then (u, false)
      else (u.setTransfer t { tr with flying := true }, true) := by
  simp only [libusbSubmitTransfer, hl, hf, lt_irrefl, ↓reduceIte, Bool.or_eq_true,
    Bool.not_eq_eq_eq_not, Bool.not_true]

/-- Submitting a freed transfer is recorded. -/
lemma libusbSubmitTransfer_of_freed (ok : Bool) (hl : u.transfers.lookup t = some tr)
    (hf : tr.frees ≠ 0) :
    (libusbSubmitTransfer u t ok).1 = { u with misused := u.misused ++ [(.submit, t)] } := by
  simp only [libusbSubmitTransfer, hl, Nat.pos_of_ne_zero hf, ↓reduceIte]

/-- Destroying a transfer. -/
lemma destroyTransfer_eq (hl : u.transfers.lookup t = some tr) :
    destroyTransfer u t = u.setTransfer t { tr with frees := tr.frees + 1 } := by
  simp only [destroyTransfer, hl]

/-- Detaching a device that is gone leaves the transfers alone. -/
lemma detachGone_frame (id stale : String) :
    (detachGone u id stale).transfers = u.transfers ∧
      (detachGone u id stale).misused = u.misused ∧
      (detachGone u id stale).running = u.running ∧
      (detachGone u id stale).nextTransfer = u.nextTransfer := by
  unfold detachGone
  split <;> exact ⟨rfl, rfl, rfl, rfl⟩

/-- Which completions end a transfer, by the cases of the switch. -/
lemma ends_iff (u : System) (tr : Transfer) (status : Status) (answer : Answer) :
    Ends u tr status answer ↔
      match branch u (declId u tr answer.stale) status answer.descriptorOk with
      | .submit => tr.flying = true ∨ answer.submitOk = false
      | .detach => False
      | .destroy => True := by
  cases status with
  | completed | overflow | timedOut | noDevice => exact Iff.rfl
  | cancelled | error | stall =>
    simp only [Ends, branch, Present]
    rcases hdev : u.device.libusb.devices.lookup (declId u tr answer.stale) with _ | _
    · simp [AList.lookup_eq_none.mp hdev]
    · cases answer.descriptorOk <;> simp [Table.mem_of_lookup hdev]

/-- **What the switch does to a transfer that is not freed:** it destroys the transfer if that ends.
Otherwise the device is detached, or the transfer is in flight again, which it was not. -/
lemma finishDispatch_cases (status : Status) (answer : Answer)
    (hl : u.transfers.lookup t = some tr) (hf : tr.frees = 0) :
    ¬ Ends u tr status answer ∧
        finishDispatch u t tr status answer =
          detachGone u (declId u tr answer.stale) answer.stale ∨
      ¬ Ends u tr status answer ∧ tr.flying = false ∧
        finishDispatch u t tr status answer = u.setTransfer t { tr with flying := true } ∨
      Ends u tr status answer ∧
        finishDispatch u t tr status answer = u.setTransfer t { tr with frees := 1 } := by
  have hdestroy : destroyTransfer u t = u.setTransfer t { tr with frees := 1 } := by
    rw [destroyTransfer_eq hl, hf]
  rw [ends_iff]
  unfold finishDispatch
  dsimp only
  rcases branch u (declId u tr answer.stale) status answer.descriptorOk with _ | _ | _
  · dsimp only
    rw [libusbSubmitTransfer_of_live _ hl hf]
    by_cases hrefused : tr.flying = true ∨ answer.submitOk = false
    · rw [if_pos hrefused]
      exact .inr (.inr ⟨hrefused, hdestroy⟩)
    · rw [if_neg hrefused]
      exact .inr (.inl ⟨hrefused, by simpa using fun h => hrefused (.inl h), rfl⟩)
  · exact .inl ⟨id, rfl⟩
  · exact .inr (.inr ⟨trivial, hdestroy⟩)

/-- The same for the step, which is the switch for the transfer whose callback has run. -/
lemma usbStep_finish_of_live {status : Status} (answer : Answer)
    (hr : u.running = some (t, status)) (hl : u.transfers.lookup t = some tr) (hf : tr.frees = 0) :
    ¬ Ends u tr status answer ∧
        usbStep u (.finish answer) =
          detachGone { u with running := none } (declId u tr answer.stale) answer.stale ∨
      ¬ Ends u tr status answer ∧ tr.flying = false ∧
        usbStep u (.finish answer) =
          System.setTransfer { u with running := none } t { tr with flying := true } ∨
      Ends u tr status answer ∧
        usbStep u (.finish answer) =
          System.setTransfer { u with running := none } t { tr with frees := 1 } := by
  rw [usbStep_finish answer hr hl]
  exact finishDispatch_cases (u := { u with running := none }) status answer hl hf

end Functions

/-! ## The step lemmas -/

section Run

variable {u : System}

/-- A completion of a transfer that is not freed takes it out of the flight and runs its callback,
if the transfer is in flight and no callback runs. -/
lemma startDispatch_cases (hs : Safe u) (t : ℕ) (status : Status) :
    startDispatch u t status = u ∨
      ∃ tr, u.transfers.lookup t = some tr ∧ tr.frees = 0 ∧ u.running = none ∧
        startDispatch u t status =
          System.setTransfer { u with running := some (t, status) } t
            { tr with flying := false } := by
  rcases hl : u.transfers.lookup t with _ | tr
  · left
    rcases hr : u.running with _ | r <;> simp only [startDispatch, hl, hr]
  rcases hr : u.running with _ | r
  · by_cases hfly : tr.flying = true
    · have hf := hs.pending t tr hl hfly
      refine .inr ⟨tr, rfl, hf, rfl, ?_⟩
      simp only [startDispatch, hl, hr, hfly, hf, Bool.not_true, Bool.false_eq_true, lt_irrefl,
        ↓reduceIte]
    · left
      simp only [startDispatch, hl, hr, hfly, Bool.not_false, ↓reduceIte]
  · left
    simp only [startDispatch, hl, hr]

/-- The end of a callback keeps the transfers safe iff the transfer does not end in flight. -/
lemma safe_finish_iff (hn : Numbered u) (hs : Safe u) (past : List ℕ) (answer : Answer) :
    Safe (usbStep u (.finish answer)) ↔ Heeds ⟨u, past⟩ (.finish answer) := by
  rcases hr : u.running with _ | ⟨t, status⟩
  · simp only [usbStep, Heeds, hr]
    exact iff_of_true hs (by simp)
  obtain ⟨tr, hl, hf⟩ := hn.running t status hr
  have hheeds : Heeds ⟨u, past⟩ (.finish answer) ↔
      (tr.flying = true → ¬ Ends u tr status answer) :=
    forall_running_iff hr hl fun status tr => tr.flying = true → ¬ Ends u tr status answer
  have hs' : Safe { u with running := none } := hs.congr rfl rfl
  rw [hheeds]
  rcases usbStep_finish_of_live answer hr hl hf with
    ⟨hends, h⟩ | ⟨hends, -, h⟩ | ⟨hends, h⟩
  · obtain ⟨ht, hm, -, -⟩ := detachGone_frame (u := { u with running := none })
      (declId u tr answer.stale) answer.stale
    rw [h]
    exact iff_of_true (hs'.congr ht hm) fun _ => hends
  · rw [h, safe_setTransfer_iff hs']
    exact iff_of_true ⟨hf.le.trans zero_le_one, fun _ => hf⟩ fun _ => hends
  · rw [h, safe_setTransfer_iff hs']
    constructor
    · rintro ⟨-, hpending⟩ hfly
      exact absurd (hpending hfly) one_ne_zero
    · intro hheeds
      exact ⟨le_rfl, fun hfly => absurd hends (hheeds hfly)⟩

/-- **The step lemma:** a step keeps the transfers safe iff it heeds those that have ended.

**Proof sketch.** A use of a freed transfer is recorded, and `destroy_transfer` of a transfer in
flight leaves a freed one in flight. Every other step changes the transfers so that they stay
safe. -/
lemma safe_step_iff (hn : Numbered u) (hs : Safe u) {past : List ℕ} (hm : Marked u past)
    (a : UsbAction) : Safe (usbStep u a) ↔ Heeds ⟨u, past⟩ a := by
  cases a with
  | attach decl a =>
    refine iff_of_true ?_ trivial
    simp only [usbStep]
    split <;> exact hs.congr rfl rfl
  | close devId =>
    refine iff_of_true ?_ trivial
    simp only [usbStep]
    split <;> exact hs.congr rfl rfl
  | submit devId allocOk submitOk =>
    refine iff_of_true ?_ trivial
    simp only [usbStep, usbSubmitTransfer]
    split
    · split_ifs
      · exact hs
      · refine (safe_setTransfer_iff ?_ _ _).mpr ⟨zero_le_one, fun _ => rfl⟩
        exact hs.congr rfl rfl
    · exact hs
  | cancel t =>
    simp only [usbStep, libusbCancelTransfer, Heeds]
    rcases hl : u.transfers.lookup t with _ | tr
    · exact iff_of_true hs fun hmem => AList.lookup_eq_none.mp hl (hm.known t hmem)
    · rw [← hm.freed t tr hl]
      by_cases hf : 0 < tr.frees
      · simp only [hf, ↓reduceIte]
        exact iff_of_false (fun h => by simpa using h.unused) hf.ne'
      · simp only [hf, ↓reduceIte]
        exact iff_of_true hs (by omega)
  | resubmit t submitOk =>
    simp only [usbStep, Heeds]
    rcases hl : u.transfers.lookup t with _ | tr
    · have hnone : (libusbSubmitTransfer u t submitOk).1 = u := by
        simp only [libusbSubmitTransfer, hl]
      rw [hnone]
      exact iff_of_true hs fun hmem => AList.lookup_eq_none.mp hl (hm.known t hmem)
    rw [← hm.freed t tr hl]
    by_cases hf : tr.frees = 0
    · rw [libusbSubmitTransfer_of_live submitOk hl hf]
      refine iff_of_true ?_ hf
      split_ifs
      · exact hs
      · exact (safe_setTransfer_iff hs _ _).mpr ⟨hf.le.trans zero_le_one, fun _ => hf⟩
    · rw [libusbSubmitTransfer_of_freed submitOk hl hf]
      exact iff_of_false (fun h => by simpa using h.unused) hf
  | complete t status =>
    refine iff_of_true ?_ trivial
    rcases startDispatch_cases hs t status with h | ⟨tr, hl, hf, -, h⟩ <;> rw [usbStep, h]
    · exact hs
    · refine (safe_setTransfer_iff ?_ _ _).mpr ⟨hf.le.trans zero_le_one, fun _ => hf⟩
      exact hs.congr rfl rfl
  | finish answer => exact safe_finish_iff hn hs past answer

/-- The end of a callback keeps the numbers and the marks. -/
lemma numbered_finish (hn : Numbered u) {past : List ℕ} (hm : Marked u past) (answer : Answer) :
    Numbered (usbStep u (.finish answer)) ∧
      Marked (usbStep u (.finish answer)) (past ++ ended u (.finish answer)) := by
  rcases hr : u.running with _ | ⟨t, status⟩
  · simpa only [usbStep, ended, hr, List.append_nil] using And.intro hn hm
  obtain ⟨tr, hl, hf⟩ := hn.running t status hr
  have hgiven : t < u.nextTransfer := hn.given _ (Table.mem_of_lookup hl)
  have hn' : Numbered { u with running := none } := hn.congr rfl rfl (.inr rfl)
  have hm' : Marked { u with running := none } past := hm.congr rfl
  have hnot : t ∉ past := (hm.freed t tr hl).mp hf
  have hended : ended u (.finish answer) = if Ends u tr status answer then [t] else [] := by
    simp only [ended, hr, hl]
  rw [hended]
  rcases usbStep_finish_of_live answer hr hl hf with
    ⟨hends, h⟩ | ⟨hends, -, h⟩ | ⟨hends, h⟩
  · obtain ⟨ht, -, hrun, hnext⟩ := detachGone_frame (u := { u with running := none })
      (declId u tr answer.stale) answer.stale
    rw [h, if_neg hends, List.append_nil]
    exact ⟨hn'.congr ht hnext (.inr hrun), hm'.congr ht⟩
  · rw [h, if_neg hends, List.append_nil]
    exact ⟨Numbered.setTransfer hn'.given hgiven _ fun t' status hr => by simp at hr,
      hm'.setTransfer (iff_of_true hf hnot) fun _ _ => Iff.rfl⟩
  · rw [h, if_pos hends]
    exact ⟨Numbered.setTransfer hn'.given hgiven _ fun t' status hr => by simp at hr,
      hm'.setTransfer (iff_of_false one_ne_zero (by simp)) fun t' hne => by simp [hne]⟩

/-- Every step that heeds the ended transfers keeps the numbers and the marks. -/
lemma numbered_step (hn : Numbered u) (hs : Safe u) {past : List ℕ} (hm : Marked u past)
    {a : UsbAction} (ha : Heeds ⟨u, past⟩ a) :
    Numbered (usbStep u a) ∧ Marked (usbStep u a) (past ++ ended u a) := by
  have hgiven : ∀ {t : ℕ} {tr : Transfer}, u.transfers.lookup t = some tr → t < u.nextTransfer :=
    fun hl => hn.given _ (Table.mem_of_lookup hl)
  cases a with
  | attach decl a =>
    rw [ended, List.append_nil]
    simp only [usbStep]
    split <;> exact ⟨hn.congr rfl rfl (.inl rfl), hm.congr rfl⟩
  | close devId =>
    rw [ended, List.append_nil]
    simp only [usbStep]
    split <;> exact ⟨hn.congr rfl rfl (.inl rfl), hm.congr rfl⟩
  | submit devId allocOk submitOk =>
    rw [ended, List.append_nil]
    simp only [usbStep, usbSubmitTransfer]
    split
    · split_ifs
      · exact ⟨hn, hm⟩
      · have hm' : Marked { u with nextTransfer := u.nextTransfer + 1 } past := hm.congr rfl
        refine ⟨Numbered.setTransfer ?_ ?_ _ fun t' status hr => ?_,
          hm'.setTransfer (iff_of_true rfl (hm.fresh hn)) fun _ _ => Iff.rfl⟩
        · exact fun t' ht' => (hn.given t' ht').trans (Nat.lt_succ_self _)
        · exact Nat.lt_succ_self _
        · obtain ⟨tr, hl, hf⟩ := hn.running t' status hr
          exact .inr ⟨tr, hl, hf, (hgiven hl).ne⟩
    · exact ⟨hn, hm⟩
  | cancel t =>
    rw [ended, List.append_nil]
    simp only [usbStep, libusbCancelTransfer]
    split
    · exact ⟨hn, hm⟩
    · split_ifs
      · exact ⟨hn.congr rfl rfl (.inl rfl), hm.congr rfl⟩
      · exact ⟨hn, hm⟩
  | resubmit t submitOk =>
    rw [ended, List.append_nil]
    simp only [usbStep]
    rcases hl : u.transfers.lookup t with _ | tr
    · simpa only [libusbSubmitTransfer, hl] using And.intro hn hm
    have hf : tr.frees = 0 := (hm.freed t tr hl).mpr ha
    rw [libusbSubmitTransfer_of_live submitOk hl hf]
    split_ifs
    · exact ⟨hn, hm⟩
    · refine ⟨Numbered.setTransfer hn.given (hgiven hl) _ fun t' status hr => ?_,
        hm.setTransfer (iff_of_true hf ha) fun _ _ => Iff.rfl⟩
      by_cases he : t' = t
      · exact .inl ⟨he, hf⟩
      · obtain ⟨tr', hl', hf'⟩ := hn.running t' status hr
        exact .inr ⟨tr', hl', hf', he⟩
  | complete t status =>
    rw [ended, List.append_nil]
    rcases startDispatch_cases hs t status with h | ⟨tr, hl, hf, -, h⟩ <;> rw [usbStep, h]
    · exact ⟨hn, hm⟩
    · have hm' : Marked { u with running := some (t, status) } past := hm.congr rfl
      refine ⟨Numbered.setTransfer ?_ ?_ _ fun t' status' hr => .inl ⟨?_, hf⟩,
        hm'.setTransfer (hm.freed t tr hl) fun _ _ => Iff.rfl⟩
      · exact hn.given
      · exact hgiven hl
      have hrunning : (t, status) = (t', status') := Option.some.inj hr
      exact (congrArg Prod.fst hrunning).symm
  | finish answer => exact numbered_finish hn hm answer

end Run

/-- **Transfers are safe exactly as long as what has ended is left alone.** For every run of
attaches, closes, submissions, calls of handles and completions with any statuses: in every state
each transfer has been freed at most once, nothing has been done with a freed one, and none that
libusb may complete next has been freed, if and only if at every step a handle is used only before
its transfer has ended, by a completion that failed or was cancelled with the device there, or that
libusb did not take again, and a transfer that its own callback has put in flight does not end.

**Proof sketch.** The step lemma along the run, next to the list of ended transfers; the transfer
whose callback runs has not been freed, because it was in flight when it completed. -/
theorem safe_iff_heeds (as : List UsbAction) :
    Run.Always usbStep Safe {} as ↔ Run.EachStep seenStep Heeds {} as := by
  have hmap : Run.Always seenStep (fun s => Safe s.system) {} as ↔ Run.Always usbStep Safe {} as :=
    Run.always_map (π := Seen.system) fun _ _ => rfl
  rw [← hmap]
  refine Run.always_iff_eachStep_of_step
    (I := fun s : Seen => Numbered s.system ∧ Marked s.system s.past)
    (fun s a hi hs ha => numbered_step hi.1 hs hi.2 ha)
    (fun s a hi hs => safe_step_iff hi.1 hs hi.2 a) ⟨⟨by simp, by simp⟩, by simp, by simp⟩
    ⟨by simp, rfl, by simp⟩ as

/-- Nothing fails. -/
def quietAnswer : Answer := ⟨true, true, ""⟩

/-- The only transfer of a device fails, and the script cancels it then. -/
def exampleCancel : List UsbAction :=
  [.attach examplePad openAttempt, .submit "pad" true true, .complete 0 .error,
    .finish quietAnswer, .cancel 0]

/-- `cancel` is called for a freed transfer. -/
theorem not_safe_cancelFailed :
    (exampleCancel.foldl usbStep {}).misused = [(.cancel, 0)] ∧
      ¬ Run.Always usbStep Safe {} exampleCancel := by
  have hlast : (exampleCancel.foldl usbStep {}).misused = [(.cancel, 0)] := by decide
  refine ⟨hlast, fun h => ?_⟩
  have hunused := h.last.unused
  rw [hlast] at hunused
  simp at hunused

end Aelkey.Usb
