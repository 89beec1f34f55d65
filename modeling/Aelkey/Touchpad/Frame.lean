import Aelkey.Touchpad.Model

set_option relaxedAutoImplicit false
set_option autoImplicit false

/-!
# What the calls of a frame do in multitouch mode

One statement for each call: which slots, contacts and slot events a `feed_contact` and an
`end_frame` leave behind. Later files use these statements and do not unfold the calls.

## Main definitions

* `Aelkey.Touchpad.Report.effect` — the slot and the touching flag of a report that counts.
* `Aelkey.Touchpad.Quiet` — nothing but events outside the slot protocol is queued.
* `Aelkey.Touchpad.Fed`, `Aelkey.Touchpad.Ended` — the effects of the two calls.

## Main results

* `Aelkey.Touchpad.feedContact_none`, `Aelkey.Touchpad.feedContact_some` — `feed_contact`.
* `Aelkey.Touchpad.endFrame_ended` — `end_frame`.
-/

namespace Aelkey.Touchpad

open Evdev MTSlots

/-- The slot and the touching flag of a report, if `feed_contact` does not ignore it: it must have
both coordinates and a slot in range. -/
def Report.effect (maxSlots : ℚ) (r : Report) : Option (ℤ × Bool) :=
  match r.x, r.y with
  | some x, some y =>
    if r.slotIndex < 0 ∨ maxSlots ≤ r.slotIndex then none
    else some (r.slotIndex, isTouching r x y)
  | _, _ => none

/-! ## Feeding -/

/-- What a `feed_contact` that counts leaves behind, for slot `s` with touching flag `b`: the slot
holds the tracking id `tid`, whose contact has been seen, and the events open the slot if the
contact is touching. -/
structure Fed (p p' : Pad) (s : ℤ) (b : Bool) (tid : ℕ) : Prop where
  tid_eq : tid = (p.slots.lookup s).getD p.nextTrackingId
  mode : p'.mode = p.mode
  maxSlots : p'.maxSlots = p.maxSlots
  ended : p'.ended = p.ended
  next : p'.nextTrackingId =
    if s ∈ p.slots then p.nextTrackingId else p.nextTrackingId % 65535 + 1
  slots : ∀ s', p'.slots.lookup s' = if s' = s then some tid else p.slots.lookup s'
  contacts : ∃ c : Contact, c.seenThisFrame = true ∧ c.ended = false ∧ c.touching = b ∧
    ∀ t, p'.contacts.lookup t = if t = tid then some c else p.contacts.lookup t
  events : ∃ evs : List Event, (∀ e ∈ evs, ¬ IsMT e) ∧
    p'.events = p.events ++ if b then openSlot (s : ℚ) (tid : ℚ) ++ evs else []

/-- The position events are outside the slot protocol. -/
lemma positionEvents_neutral (r : Report) (x y : ℚ) : ∀ e ∈ positionEvents r x y, ¬ IsMT e := by
  unfold positionEvents
  cases r.palm <;> simp [IsMT]

/-- A report without effect changes nothing. -/
lemma feedContact_none {self : Pad} {r : Report} (hm : self.mode = .multitouch)
    (h : r.effect self.maxSlots = none) : feedContact self r = self := by
  rcases hx : r.x with _ | x
  · simp only [feedContact, hx]
  · rcases hy : r.y with _ | y
    · simp only [feedContact, hx, hy]
    · simp only [Report.effect, hx, hy, ite_eq_left_iff, reduceCtorEq, imp_false, not_not] at h
      simp only [feedContact, hx, hy, hm, h, ↓reduceIte]

/-- A report with an effect, in terms of the tracking id of its slot. -/
lemma feedContact_eq {self : Pad} {r : Report} {s : ℤ} {b : Bool}
    (hm : self.mode = .multitouch) (h : r.effect self.maxSlots = some (s, b)) :
    ∃ x y, isTouching r x y = b ∧
      feedContact self r =
        (let p := slotTrackingId self s
         let self := storeContact p.2 p.1 r x y
         if b then queue self (openSlot (s : ℚ) (p.1 : ℚ) ++ positionEvents r x y) else self) := by
  rcases hx : r.x with _ | x
  · simp [Report.effect, hx] at h
  · rcases hy : r.y with _ | y
    · simp [Report.effect, hx, hy] at h
    · simp only [Report.effect, hx, hy] at h
      split_ifs at h with hs
      simp only [Option.some.injEq, Prod.mk.injEq] at h
      obtain ⟨rfl, rfl⟩ := h
      refine ⟨x, y, rfl, ?_⟩
      simp only [feedContact, hx, hy, hm, hs, ↓reduceIte]

/-- The contact entry after `storeContact`. -/
lemma storeContact_spec (self : Pad) (tid : ℕ) (r : Report) (x y : ℚ) :
    ∃ c ch, c.seenThisFrame = true ∧ c.ended = false ∧ c.touching = isTouching r x y ∧
      storeContact self tid r x y =
        { self with contacts := self.contacts.insert tid c, changed := ch } := by
  unfold storeContact
  split
  · exact ⟨_, _, rfl, rfl, rfl, rfl⟩
  · next c _ => exact ⟨{ r.toContact tid x y with id := c.id }, _, rfl, rfl, rfl, rfl⟩

/-- The tracking id of a slot: the slot holds it afterwards, and it is new if the slot held none. -/
lemma slotTrackingId_spec (self : Pad) (s : ℤ) :
    ∃ next slots, slotTrackingId self s = ((self.slots.lookup s).getD self.nextTrackingId,
        { self with nextTrackingId := next, slots := slots }) ∧
      (next = if s ∈ self.slots then self.nextTrackingId else self.nextTrackingId % 65535 + 1) ∧
      ∀ s', slots.lookup s' = if s' = s then some ((self.slots.lookup s).getD self.nextTrackingId)
        else self.slots.lookup s' := by
  rcases hl : self.slots.lookup s with _ | tid
  · have hnot : s ∉ self.slots := AList.lookup_eq_none.mp hl
    refine ⟨self.nextTrackingId % 65535 + 1, self.slots.insert s self.nextTrackingId, ?_, ?_, ?_⟩
    · simp [slotTrackingId, hl, newTrackingId]
    · rw [if_neg hnot]
    · exact fun s' => Table.lookup_insert _ _ _ _
  · refine ⟨self.nextTrackingId, self.slots, ?_, ?_, fun s' => ?_⟩
    · simp [slotTrackingId, hl]
    · rw [if_pos (Table.mem_of_lookup hl)]
    · split_ifs with hs
      · rw [hs, hl, Option.getD_some]
      · rfl

/-- A report with an effect.

**Proof sketch.** The slot keeps its tracking id or gets a new one, the contact entry of the id is
written, and if it is touching the events that open the slot are queued. -/
lemma feedContact_some {self : Pad} {r : Report} {s : ℤ} {b : Bool}
    (hm : self.mode = .multitouch) (h : r.effect self.maxSlots = some (s, b)) :
    ∃ tid, Fed self (feedContact self r) s b tid := by
  obtain ⟨x, y, hb, hfeed⟩ := feedContact_eq hm h
  obtain ⟨next, slots, hid, hnext, hslots⟩ := slotTrackingId_spec self s
  set tid := (self.slots.lookup s).getD self.nextTrackingId with htid
  obtain ⟨c, ch, hseen, hend, htouch, hstore⟩ := storeContact_spec
    { self with nextTrackingId := next, slots := slots } tid r x y
  refine ⟨tid, ?_⟩
  rw [hfeed, hid]
  dsimp only
  rw [hstore]
  have hcontacts : ∀ t, (self.contacts.insert tid c).lookup t =
      if t = tid then some c else self.contacts.lookup t := fun t => Table.lookup_insert _ _ _ _
  cases b with
  | true =>
    exact ⟨htid, rfl, rfl, rfl, hnext, hslots, ⟨c, hseen, hend, htouch.trans hb, hcontacts⟩,
      ⟨_, positionEvents_neutral r x y, rfl⟩⟩
  | false =>
    exact ⟨htid, rfl, rfl, rfl, hnext, hslots, ⟨c, hseen, hend, htouch.trans hb, hcontacts⟩,
      ⟨[], by simp, (List.append_nil _).symm⟩⟩

/-! ## The parts of `end_frame` that are outside the slot protocol -/

/-- Only events outside the slot protocol are queued, and of the tables only that of the tool keys
changes. -/
structure Quiet (p p' : Pad) : Prop where
  mode : p'.mode = p.mode
  maxSlots : p'.maxSlots = p.maxSlots
  next : p'.nextTrackingId = p.nextTrackingId
  contacts : p'.contacts = p.contacts
  slots : p'.slots = p.slots
  fingerCount : p'.fingerCount = p.fingerCount
  events : ∃ evs : List Event, (∀ e ∈ evs, ¬ IsMT e) ∧ p'.events = p.events ++ evs

/-- Doing nothing is quiet. -/
lemma Quiet.refl (self : Pad) : Quiet self self :=
  ⟨rfl, rfl, rfl, rfl, rfl, rfl, [], by simp, by simp⟩

/-- Quiet steps compose. -/
lemma Quiet.trans {a b c : Pad} (h : Quiet a b) (h' : Quiet b c) : Quiet a c := by
  obtain ⟨evs, he, hev⟩ := h.events
  obtain ⟨evs', he', hev'⟩ := h'.events
  refine ⟨h'.mode.trans h.mode, h'.maxSlots.trans h.maxSlots, h'.next.trans h.next,
    h'.contacts.trans h.contacts, h'.slots.trans h.slots, h'.fingerCount.trans h.fingerCount,
    evs ++ evs', ?_, by rw [hev', hev, List.append_assoc]⟩
  intro e hmem
  rcases List.mem_append.mp hmem with hmem | hmem
  · exact he e hmem
  · exact he' e hmem

/-- Queueing events outside the slot protocol is quiet, whatever happens to the tool keys. -/
lemma quiet_queue (self : Pad) {evs : List Event} (h : ∀ e ∈ evs, ¬ IsMT e)
    (tools : Table String Bool) : Quiet self { queue self evs with toolKeysDown := tools } :=
  ⟨rfl, rfl, rfl, rfl, rfl, rfl, evs, h, rfl⟩

/-- A key event is outside the slot protocol. -/
lemma key_neutral (code : String) (v : ℚ) : ∀ e ∈ [key code v], ¬ IsMT e := by
  simp [IsMT, key]

/-- A loop of quiet steps is quiet. -/
lemma quiet_foldl {α : Type*} (f : Pad → α → Pad) (hf : ∀ p a, Quiet p (f p a)) (l : List α)
    (self : Pad) : Quiet self (l.foldl f self) := by
  induction l generalizing self with
  | nil => exact .refl self
  | cons a l ih => exact (hf self a).trans (ih (f self a))

/-- The tool key events are quiet. -/
lemma quiet_tools (it : Orders) (self : Pad) : Quiet self (pressTools (releaseTools it self)) := by
  refine Quiet.trans (b := releaseTools it self) ?_ ?_
  · refine quiet_foldl _ (fun p e => ?_) _ self
    dsimp only
    split_ifs
    · exact .refl p
    · exact quiet_queue p (key_neutral _ _) _
  · refine quiet_foldl _ (fun p code => ?_) _ _
    dsimp only
    split_ifs
    · exact .refl p
    · exact quiet_queue p (key_neutral _ _) _

/-- The position of the primary contact is quiet. -/
lemma quiet_queuePrimary (primary : Option Contact) (self : Pad) :
    Quiet self (queuePrimary primary self) := by
  cases primary with
  | none => exact .refl self
  | some c => exact quiet_queue self (by simp [IsMT]) self.toolKeysDown

/-- A clickpad button is quiet. -/
lemma quiet_queueButton (code : String) (state : Option Bool) (p : Pad × Edge) :
    Quiet p.1 (queueButton code state p).1 := by
  unfold queueButton
  split
  · split
    · exact quiet_queue p.1 (key_neutral _ _) p.1.toolKeysDown
    · exact .refl p.1
  · exact .refl p.1

/-- The clickpad buttons are quiet. -/
lemma quiet_queueButtons (source : Option Contact) (p : Pad × Edge) :
    Quiet p.1 (queueButtons source p).1 := by
  unfold queueButtons
  split
  · exact ((quiet_queueButton _ _ _).trans (quiet_queueButton _ _ _)).trans
      (quiet_queueButton _ _ _)
  · exact .refl p.1

/-! ## Cleaning up -/

/-- The slots after a loop that drops contacts. -/
lemma lookup_slots_foldl_drop (it : Orders) (l : List (Σ _ : ℕ, Contact)) (self : Pad) (s : ℤ)
    (t : ℕ) :
    (l.foldl (fun self e => if e.2.ended then dropContact it self e.1 else self)
        self).slots.lookup s = some t ↔
      self.slots.lookup s = some t ∧ ∀ e ∈ l, e.1 = t → e.2.ended = false := by
  induction l generalizing self with
  | nil => simp
  | cons e l ih =>
    rw [List.foldl_cons, ih]
    by_cases he : e.2.ended = true
    · simp only [he, ↓reduceIte, dropContact, Table.lookup_eraseValue, List.forall_mem_cons,
        Bool.true_eq_false, imp_false]
      by_cases hs : self.slots.lookup s = some e.1
      · simp only [hs, ↓reduceIte, reduceCtorEq, false_and, Option.some.injEq, false_iff, not_and]
        rintro rfl h
        exact absurd rfl h
      · simp only [hs, ↓reduceIte]
        constructor
        · intro ⟨h, h'⟩
          exact ⟨h, fun heq => hs (heq ▸ h), h'⟩
        · rintro ⟨h, -, h'⟩
          exact ⟨h, h'⟩
    · simp [he]

/-- The contacts after a loop that drops contacts. -/
lemma lookup_contacts_foldl_drop (it : Orders) (l : List (Σ _ : ℕ, Contact)) (self : Pad) (t : ℕ)
    (c : Contact) :
    (l.foldl (fun self e => if e.2.ended then dropContact it self e.1 else self)
        self).contacts.lookup t = some c ↔
      self.contacts.lookup t = some c ∧ ∀ e ∈ l, e.1 = t → e.2.ended = false := by
  induction l generalizing self with
  | nil => simp
  | cons e l ih =>
    rw [List.foldl_cons, ih]
    by_cases he : e.2.ended = true
    · simp only [he, ↓reduceIte, dropContact, Table.lookup_erase, List.forall_mem_cons,
        Bool.true_eq_false, imp_false]
      by_cases ht : t = e.1
      · simp [ht]
      · simp [ht, Ne.symm ht]
    · simp [he]

/-- The fields that a loop that drops contacts leaves alone. -/
lemma foldl_drop_fields (it : Orders) (l : List (Σ _ : ℕ, Contact)) (self : Pad) :
    ∃ slots contacts,
      l.foldl (fun self e => if e.2.ended then dropContact it self e.1 else self) self =
        { self with slots := slots, contacts := contacts } := by
  induction l generalizing self with
  | nil => exact ⟨_, _, rfl⟩
  | cons e l ih =>
    obtain ⟨slots, contacts, h⟩ := ih (if e.2.ended then dropContact it self e.1 else self)
    rw [List.foldl_cons, h]
    split_ifs
    · exact ⟨slots, contacts, rfl⟩
    · exact ⟨slots, contacts, rfl⟩

/-! ## Ending a frame -/

/-- A contact that `end_frame` keeps: it was fed in this frame and has not ended. -/
def Contact.stays (c : Contact) : Bool := !c.ended && c.seenThisFrame

/-- What an `end_frame` leaves behind in multitouch mode. -/
structure Ended (p p' : Pad) : Prop where
  mode : p'.mode = p.mode
  maxSlots : p'.maxSlots = p.maxSlots
  next : p'.nextTrackingId = p.nextTrackingId
  slots : ∀ s t, p'.slots.lookup s = some t ↔
    p.slots.lookup s = some t ∧ ∀ c, p.contacts.lookup t = some c → c.stays
  contacts : ∀ t c, p'.contacts.lookup t = some c ↔ p.contacts.lookup t = some c ∧ c.stays
  fingerCount :
    p'.fingerCount = p.contacts.entries.countP fun e => e.2.stays && e.2.touching
  events : ∃ (closed : List ℤ) (evs : List Event), (∀ e ∈ evs, ¬ IsMT e) ∧
    p'.events = p.events ++ (closed.flatMap fun s : ℤ => closeSlot (s : ℚ)) ++ evs ∧
    ∀ s, s ∈ closed ↔ ∃ t c, p.slots.lookup s = some t ∧ p.contacts.lookup t = some c ∧
      c.seenThisFrame = false

/-- The contacts after `clearMissingContacts`. -/
lemma clearMissing_contacts (it : Orders) (self : Pad) (t : ℕ) :
    (clearMissingContacts it self).contacts.lookup t =
      (self.contacts.lookup t).map fun c => { c with ended := !c.stays } := by
  rw [clearMissingContacts, Table.lookup_mapValues]
  simp [Contact.stays]

/-- The slots that `end_frame` closes are those of the contacts that were not fed. -/
lemma mem_endedSlots (it : Orders) {self : Pad} (h : self.ended = []) (s : ℤ) :
    s ∈ endedSlots it (clearMissingContacts it self) ↔
      ∃ t c, self.slots.lookup s = some t ∧ self.contacts.lookup t = some c ∧
        c.seenThisFrame = false := by
  simp only [endedSlots, clearMissingContacts, h, List.nil_append, List.mem_flatMap, List.mem_map,
    List.mem_filter, Bool.not_eq_true', decide_eq_true_eq]
  constructor
  · rintro ⟨tid, ⟨⟨t, c⟩, ⟨hc, hseen⟩, rfl⟩, ⟨s', t'⟩, ⟨hs, ht⟩, rfl⟩
    obtain rfl : t' = t := ht
    exact ⟨t', c, it.slots.mem_order.mp hs, (it.contacts.mem_order.mp hc :), hseen⟩
  · intro ⟨t, c, hs, hc, hseen⟩
    exact ⟨t, ⟨⟨t, c⟩, ⟨it.contacts.mem_order.mpr hc, hseen⟩, rfl⟩,
      ⟨s, t⟩, ⟨it.slots.mem_order.mpr hs, rfl⟩, rfl⟩

/-- The finger count of a frame: the contacts that stay and are touching. -/
lemma countP_order_stays (it : Orders) (self : Pad) :
    (it.contacts.order (clearMissingContacts it self).contacts).countP
        (fun e => !e.2.ended && e.2.touching) =
      self.contacts.entries.countP fun e => e.2.stays && e.2.touching := by
  rw [(it.contacts.perm _).countP_eq]
  simp only [clearMissingContacts, Table.mapValues, List.countP_map]
  refine List.countP_congr fun e _ => ?_
  simp [Contact.stays]

/-- Counting the fingers in multitouch mode. -/
lemma countFingers_multitouch (it : Orders) (self : Pad) (hm : self.mode = .multitouch) :
    ∃ primary slot, countFingers it self = (primary, { self with
      primary := slot
      fingerCount :=
        (it.contacts.order self.contacts).countP fun e => !e.2.ended && e.2.touching }) := by
  unfold countFingers
  split
  · exact ⟨_, _, rfl⟩
  · next h => exact absurd (hm.symm.trans h) (by simp)

/-- Everything between the closing events and the cleanup is quiet, apart from the finger count. -/
lemma quiet_endFrame_middle (it : Orders) (self : Pad) (hm : self.mode = .multitouch)
    (edge : Edge) :
    Quiet { self with
        fingerCount :=
          (it.contacts.order self.contacts).countP fun e => !e.2.ended && e.2.touching }
      (let (primary, self) := countFingers it self
       let self := queuePrimary primary (pressTools (releaseTools it (queueTouch self)))
       (queueButtons (buttonSource it primary self) (self, edge)).1) := by
  obtain ⟨primary, slot, h⟩ := countFingers_multitouch it self hm
  rw [h]
  refine Quiet.trans ?_ (quiet_queueButtons _ (_, edge))
  refine Quiet.trans ?_ (quiet_queuePrimary _ _)
  refine Quiet.trans ?_ (quiet_tools it _)
  exact ⟨rfl, rfl, rfl, rfl, rfl, rfl, _, key_neutral _ _, rfl⟩

/-- The contacts that the cleanup keeps are those that stay. -/
lemma forall_order_iff_stays (it : Orders) {self : Pad} {marked : Table ℕ Contact}
    (hmarked : ∀ t, marked.lookup t =
      (self.contacts.lookup t).map fun c => { c with ended := !c.stays }) (t : ℕ) :
    (∀ e ∈ it.contacts.order marked, e.1 = t → e.2.ended = false) ↔
      ∀ c, self.contacts.lookup t = some c → c.stays := by
  have hlookup : ∀ c, ⟨t, c⟩ ∈ it.contacts.order marked ↔
      ∃ c', self.contacts.lookup t = some c' ∧ { c' with ended := !c'.stays } = c := by
    intro c
    rw [it.contacts.mem_order, hmarked, Option.map_eq_some_iff]
  constructor
  · intro h c hc
    simpa using h ⟨t, _⟩ ((hlookup _).mpr ⟨c, hc, rfl⟩) rfl
  · rintro h ⟨t', c⟩ he rfl
    obtain ⟨c', hc', rfl⟩ := (hlookup c).mp he
    simpa using h c' hc'

/-- A contact that stays is not changed by its mark. -/
lemma Contact.mark_of_stays {c : Contact} (hc : c.stays) : { c with ended := !c.stays } = c := by
  have he : c.ended = false := by simp_all [Contact.stays]
  simp [hc, ← he]

/-- The marked contacts of which all that are there stay. -/
lemma map_mark_iff {c? : Option Contact} {c : Contact} :
    ((c?.map fun c => { c with ended := !c.stays }) = some c ∧ ∀ c', c? = some c' → c'.stays) ↔
      c? = some c ∧ c.stays := by
  constructor
  · intro ⟨h, hstays⟩
    obtain ⟨c', hc', rfl⟩ := Option.map_eq_some_iff.mp h
    have hc := hstays c' hc'
    rw [Contact.mark_of_stays hc]
    exact ⟨hc', hc⟩
  · intro ⟨hc, hstays⟩
    refine ⟨?_, fun c' hc' => ?_⟩
    · rw [hc, Option.map_some, Contact.mark_of_stays hstays]
    · rwa [← Option.some.inj (hc.symm.trans hc')]

/-- **`end_frame` in multitouch mode.**

**Proof sketch.** `clearMissingContacts` marks the contacts that were not fed, the closing events
are queued for the slots that hold them, the rest up to the cleanup is quiet, and the cleanup
removes exactly the marked contacts with their slots. -/
theorem endFrame_ended (it : Orders) {self : Pad} (edge : Edge) (hm : self.mode = .multitouch)
    (hended : self.ended = []) : Ended self (endFrame it self edge).1 := by
  set marked := clearMissingContacts it self with hmarked
  have hm' : marked.mode = .multitouch := hm
  set last := (let (primary, self) := countFingers it (closeEnded it marked)
    let self := queuePrimary primary (pressTools (releaseTools it (queueTouch self)))
    (queueButtons (buttonSource it primary self) (self, edge)).1) with hlast
  have hquiet : Quiet _ last := quiet_endFrame_middle it (closeEnded it marked) hm' edge
  have hcontacts : ∀ t, last.contacts.lookup t =
      (self.contacts.lookup t).map fun c => { c with ended := !c.stays } := fun t =>
    (congrArg (AList.lookup t) hquiet.contacts).trans (clearMissing_contacts it self t)
  have hslots : last.slots = self.slots := hquiet.slots
  have hend : (endFrame it self edge).1 = cleanup it last := by
    simp only [endFrame, ← hmarked, hm', ↓reduceIte, hlast]
  have hdrop := forall_order_iff_stays it hcontacts
  obtain ⟨slots, contacts, hfields⟩ :=
    foldl_drop_fields it (it.contacts.order last.contacts) last
  rw [← cleanup] at hfields
  rw [hend]
  constructor
  case mode => rw [hfields]; exact hquiet.mode
  case maxSlots => rw [hfields]; exact hquiet.maxSlots
  case next => rw [hfields]; exact hquiet.next
  case slots =>
    intro s t
    rw [cleanup, lookup_slots_foldl_drop, hdrop, hslots]
  case contacts =>
    intro t c
    rw [cleanup, lookup_contacts_foldl_drop, hdrop, hcontacts]
    exact map_mark_iff
  case fingerCount =>
    rw [hfields]
    exact hquiet.fingerCount.trans (countP_order_stays it self)
  case events =>
    obtain ⟨evs, hevs, hevents⟩ := hquiet.events
    refine ⟨endedSlots it marked, evs, hevs, ?_, mem_endedSlots it hended⟩
    rw [hfields]
    exact hevents

end Aelkey.Touchpad
