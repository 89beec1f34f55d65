import Aelkey.Device.Changes
import Aelkey.Gatt.Naming
import Aelkey.Lib.Run

set_option relaxedAutoImplicit false
set_option autoImplicit false

/-!
# The balance of subscriptions

`attach` of the gatt backend subscribes the characteristic it attaches or, at device and service
level, every characteristic that the search finds. `detach` unsubscribes the stored path alone. So
the subscriptions made at the upper levels stay when their declaration is detached, unless another
one still covers them.

## Main definitions

* `Aelkey.Gatt.Link` — the device layer with the characteristics that are subscribed.
* `Aelkey.Gatt.Covers` — a declaration asks for the notifications of a characteristic.
* `Aelkey.Gatt.Balanced` — what is subscribed is covered by an attached declaration.

## Main results

* `Aelkey.Gatt.balanced_iff_detachClean` — the subscriptions are balanced along a run iff no detach
  leaves a characteristic behind.
* `Aelkey.Gatt.not_balanced_deviceLevel` — a declaration at device level is attached and detached.

## Design

A successful `StartNotify` puts a path into the list of subscribed ones, and `StopNotify` takes out
exactly that path. Whether a `StartNotify` succeeds is part of the action. Declarations of the other
types come and go in the same runs.
-/

namespace Aelkey.Gatt

open Device

/-- The device layer, and the characteristics that are subscribed. -/
structure Link where
  device : State := {}
  subscribed : List String := []

/-- Attaching a declaration, as the loops over the declarations do it, and detaching an id. -/
inductive LinkAction
  | attach (decl : InputDecl) (a : Attempt) (startOk : String → Bool)
  | detach (devId : String)

variable (w : World) (tree : List ManagedObject) (supportsNotify : String → Bool)

/-- The answers for a declaration; the path of a gatt device is found by `resolve_gatt_paths`. -/
def withPath (decl : InputDecl) (a : Attempt) : Attempt :=
  if decl.type = .gatt then { a with found := (resolveGattPaths w (some tree) decl false).1 } else a

/-- The calls of `start_notify` by the `attach` of a backend that succeed. -/
def startNotifies (decl : InputDecl) (devnode : String) (startOk : String → Bool) : List String :=
  if decl.type = .gatt then
    (notifyTargets w (some tree) supportsNotify decl devnode).filter startOk
  else []

/-- What is subscribed after the call of `stop_notify` by the `detach` of a backend. -/
def stopNotifies (decl : InputDecl) (subscribed : List String) : List String :=
  if decl.type = .gatt ∧ decl.devnode ≠ "" then subscribed.filter fun ch => ch ≠ decl.devnode
  else subscribed

/-- One step: a declaration is matched and attached, or an id is detached. -/
def linkStep (l : Link) : LinkAction → Link
  | .attach decl a startOk =>
    match matchDecl l.device decl (withPath w tree decl a) with
    | (s, none) => { l with device := s }
    | (s, some devnode) =>
      match attach s devnode decl (withPath w tree decl a) with
      | (s, _, true) =>
        { device := s
          subscribed := l.subscribed ++ startNotifies w tree supportsNotify decl devnode startOk }
      | (s, _, false) => { l with device := s }
  | .detach devId =>
    match detach l.device devId devId with
    | (s, some decl) => { device := s, subscribed := stopNotifies decl l.subscribed }
    | (s, none) => { l with device := s }

/-- An attached declaration asks for the notifications of a characteristic. -/
def Covers (ch : String) (decl : InputDecl) : Prop :=
  decl.type = .gatt ∧ ch ∈ notifyTargets w (some tree) supportsNotify decl decl.devnode

instance (ch : String) (decl : InputDecl) : Decidable (Covers w tree supportsNotify ch decl) :=
  inferInstanceAs (Decidable (_ ∧ _))

/-- **Balance.** What is subscribed is covered by an attached declaration; without an attached gatt
device nothing is subscribed. -/
structure Balanced (l : Link) : Prop where
  covered : ∀ ch ∈ l.subscribed, l.device.inputMap.Holds (Covers w tree supportsNotify ch)
  rest : ¬ l.device.inputMap.Holds (fun decl => decl.type = .gatt) → l.subscribed = []

/-- A detach leaves no characteristic behind: what is subscribed and covered by the detached
declaration is its stored path, or is covered by another attached declaration as well. -/
def DetachClean (l : Link) : LinkAction → Prop
  | .attach _ _ _ => True
  | .detach devId =>
    ∀ decl, l.device.inputMap.lookup devId = some decl →
      ∀ ch ∈ l.subscribed, Covers w tree supportsNotify ch decl → ch ≠ decl.devnode →
        Table.Holds (l.device.inputMap.erase devId) (Covers w tree supportsNotify ch)

/-! ## What attach and detach do -/

section Steps

variable {s : State} {decl : InputDecl}

/-- Declarations with the same parsed fields have the same id and type. -/
lemma spec_fields {decl' : InputDecl} (h : decl'.spec = decl.spec) :
    decl'.id = decl.id ∧ decl'.type = decl.type := by
  have hid : decl'.spec.id = decl.spec.id := by rw [h]
  have htype : decl'.spec.type = decl.spec.type := by rw [h]
  exact ⟨hid, htype⟩

/-- Matching leaves the attached devices alone, and a connection is kept. -/
lemma matchDecl_inputMap (decl : InputDecl) (a : Attempt) :
    (matchDecl s decl a).1.inputMap = s.inputMap ∧
      (s.gatt.conn = true → (matchDecl s decl a).1.gatt.conn = true) :=
  ⟨(matchDecl_untouched s decl a).inputMap, (matchDecl_untouched s decl a).conn⟩

/-- The `attach` of a backend leaves the map alone, and a gatt device is attached over a
connection. -/
lemma backendAttach_frame (s : State) (decl : InputDecl) (devnode : String) (a : Attempt) :
    (backendAttach s devnode decl a).1.inputMap = s.inputMap ∧
      (backendAttach s devnode decl a).2.1.spec = decl.spec ∧
      (s.gatt.conn = true → (backendAttach s devnode decl a).1.gatt.conn = true) := by
  unfold backendAttach
  split
  · unfold evdevOpen
    dsimp only
    split_ifs <;> exact ⟨rfl, rfl, id⟩
  · unfold hidrawAttach hidrawOpen
    dsimp only
    split_ifs <;> exact ⟨rfl, rfl, id⟩
  · unfold libusbAttach
    split
    · exact ⟨rfl, rfl, id⟩
    · split_ifs <;> exact ⟨rfl, rfl, id⟩
  · unfold gattAttach
    dsimp only
    split_ifs <;> exact ⟨rfl, rfl, fun h => by simp [gattInit, h]⟩
  · exact ⟨rfl, rfl, id⟩

/-- The `detach` of a backend leaves the map and the connection alone. -/
lemma backendDetach_frame (s : State) (decl : InputDecl) (devId : String) :
    (backendDetach s devId decl).1.inputMap = s.inputMap ∧
      (backendDetach s devId decl).1.gatt.conn = s.gatt.conn ∧
      (backendDetach s devId decl).2.1.spec = decl.spec := by
  unfold backendDetach
  split
  · unfold evdevClose
    dsimp only
    split_ifs <;> exact ⟨rfl, rfl, rfl⟩
  · unfold hidrawRemove
    dsimp only
    split <;> exact ⟨rfl, rfl, rfl⟩
  · unfold libusbDetach
    dsimp only
    split <;> exact ⟨rfl, rfl, rfl⟩
  · unfold gattDetach
    dsimp only
    split_ifs <;> exact ⟨rfl, rfl, rfl⟩
  · exact ⟨rfl, rfl, rfl⟩

end Steps

/-- Every attached gatt device has a path, and there is a connection for it. -/
def Linked (l : Link) : Prop :=
  ∀ id decl, l.device.inputMap.lookup id = some decl → decl.type = .gatt →
    l.device.gatt.conn = true ∧ decl.devnode ≠ ""

/-- **What an attach step does:** it leaves the map and the subscriptions as they are, or enters one
device and subscribes characteristics which that device covers. -/
lemma linkStep_attach (l : Link) {l' : Link} (decl : InputDecl) (a : Attempt)
    (startOk : String → Bool)
    (hl' : linkStep w tree supportsNotify l (.attach decl a startOk) = l') :
    (l.device.gatt.conn = true → l'.device.gatt.conn = true) ∧
      (l'.device.inputMap = l.device.inputMap ∧ l'.subscribed = l.subscribed ∨
        ∃ (decl' : InputDecl) (new : List String), decl'.id ∉ l.device.inputMap ∧
          l'.device.inputMap = l.device.inputMap.insert decl'.id decl' ∧
          (decl'.type = .gatt → l'.device.gatt.conn = true ∧ decl'.devnode ≠ "") ∧
          l'.subscribed = l.subscribed ++ new ∧
          ∀ ch ∈ new, Covers w tree supportsNotify ch decl') := by
  subst hl'
  obtain ⟨hmap, hconn⟩ := matchDecl_inputMap (s := l.device) decl (withPath w tree decl a)
  rw [linkStep]
  rcases hm : matchDecl l.device decl (withPath w tree decl a) with ⟨s, _ | devnode⟩ <;>
    rw [hm] at hmap hconn
  · exact ⟨hconn, .inl ⟨hmap, rfl⟩⟩
  dsimp only at hmap hconn ⊢
  by_cases ht : decl.type = .gatt
  · rw [attach_gatt s devnode _ ht]
    by_cases hin : decl.id ∈ s.inputMap
    · rw [if_pos hin]
      exact ⟨hconn, .inl ⟨hmap, rfl⟩⟩
    rw [if_neg hin]
    by_cases hfail : (gattInit s (withPath w tree decl a)).gatt.conn = false ∨ devnode = ""
    · rw [if_pos hfail]
      exact ⟨fun h => by simp [gattInit, hconn h], .inl ⟨hmap, rfl⟩⟩
    · rw [if_neg hfail]
      refine ⟨fun _ => rfl, .inr ⟨{ decl with devnode := devnode },
        startNotifies w tree supportsNotify decl devnode startOk, hmap ▸ hin, by rw [← hmap],
        fun _ => ⟨rfl, fun he => hfail (.inr he)⟩, rfl, fun ch hch => ⟨ht, ?_⟩⟩⟩
      rw [startNotifies, if_pos ht] at hch
      exact (List.mem_filter.mp hch).1
  · obtain ⟨hmap', hspec, hconn'⟩ :=
      backendAttach_frame s decl devnode (withPath w tree decl a)
    rw [attach]
    by_cases hin : decl.id ∈ s.inputMap
    · rw [if_pos hin]
      exact ⟨hconn, .inl ⟨hmap, rfl⟩⟩
    rw [if_neg hin]
    rcases hb : backendAttach s devnode decl (withPath w tree decl a) with ⟨s', decl', _ | _⟩ <;>
      rw [hb] at hmap' hspec hconn'
    · exact ⟨fun h => hconn' (hconn h), .inl ⟨hmap'.trans hmap, rfl⟩⟩
    · obtain ⟨hid, htype⟩ := spec_fields hspec
      dsimp only at hmap'
      refine ⟨fun h => hconn' (hconn h), .inr ⟨decl', [], by rw [hid, ← hmap]; exact hin,
        by rw [← hmap, ← hmap'], fun h => absurd (htype.symm.trans h) ht, ?_, by simp⟩⟩
      rw [startNotifies, if_neg ht]

/-- **What a detach step does** to an attached device: it is removed from the map, and of a gatt
device the stored path is unsubscribed; a device of another type may also stay. -/
lemma linkStep_detach {l l' : Link} {devId : String} {decl : InputDecl} (hl : Linked l)
    (hlookup : l.device.inputMap.lookup devId = some decl)
    (hl' : linkStep w tree supportsNotify l (.detach devId) = l') :
    l'.device.gatt.conn = l.device.gatt.conn ∧
      if decl.type = .gatt then
        l'.device.inputMap = l.device.inputMap.erase devId ∧
          l'.subscribed = l.subscribed.filter fun ch => ch ≠ decl.devnode
      else
        (l'.device.inputMap = l.device.inputMap.erase devId ∨
            l'.device.inputMap = l.device.inputMap) ∧
          l'.subscribed = l.subscribed := by
  subst hl'
  simp only [linkStep, detach, hlookup]
  by_cases ht : decl.type = .gatt
  · obtain ⟨hconn, hne⟩ := hl devId decl hlookup ht
    rw [if_pos ht]
    simp only [backendDetach, ht, gattDetach, hconn, Bool.not_true, Bool.false_eq_true, ↓reduceIte,
      stopNotifies, hne, ne_eq, not_false_eq_true, and_self]
  · obtain ⟨hmap, hconn, hspec⟩ := backendDetach_frame l.device decl devId
    rw [if_neg ht]
    rcases hb : backendDetach l.device devId decl with ⟨s, decl', _ | _⟩ <;>
      rw [hb] at hmap hconn hspec
    · exact ⟨hconn, .inr hmap, rfl⟩
    · obtain ⟨-, htype⟩ := spec_fields hspec
      dsimp only at hmap ⊢
      refine ⟨hconn, .inl (by rw [hmap]), ?_⟩
      rw [stopNotifies, if_neg fun h => ht (htype ▸ h.1)]

variable {w tree supportsNotify}

/-- Detaching an id that is not attached does nothing. -/
lemma linkStep_detach_none {l : Link} {devId : String}
    (h : l.device.inputMap.lookup devId = none) :
    linkStep w tree supportsNotify l (.detach devId) = l := by
  simp only [linkStep, detach, h]

/-! ## Balance along runs -/

/-- The beginning: nothing is attached and nothing subscribed. -/
lemma linked_init : Linked {} := by
  intro id decl h
  simp at h

/-- Every step keeps the connection of the attached gatt devices. -/
lemma linked_step {l : Link} {a : LinkAction} (hl : Linked l) :
    Linked (linkStep w tree supportsNotify l a) := by
  intro id decl hlookup ht
  rcases a with ⟨decl₀, a, startOk⟩ | devId
  · obtain ⟨hconn, ⟨hmap, -⟩ | ⟨decl', new, -, hmap, hgatt, -, -⟩⟩ :=
      linkStep_attach w tree supportsNotify l decl₀ a startOk rfl
    · rw [hmap] at hlookup
      exact ⟨hconn (hl id decl hlookup ht).1, (hl id decl hlookup ht).2⟩
    · rw [hmap, Table.lookup_insert] at hlookup
      split_ifs at hlookup
      · obtain rfl : decl' = decl := Option.some.inj hlookup
        exact hgatt ht
      · exact ⟨hconn (hl id decl hlookup ht).1, (hl id decl hlookup ht).2⟩
  · rcases hold : l.device.inputMap.lookup devId with _ | decl₀
    · rw [linkStep_detach_none hold] at hlookup ⊢
      exact hl id decl hlookup ht
    · obtain ⟨hconn, hmap⟩ := linkStep_detach w tree supportsNotify hl hold rfl
      rw [hconn]
      have hkept : l.device.inputMap.lookup id = some decl := by
        split_ifs at hmap
        · rw [hmap.1, Table.lookup_erase] at hlookup
          split_ifs at hlookup
          exact hlookup
        · obtain ⟨hmap | hmap, -⟩ := hmap
          · rw [hmap, Table.lookup_erase] at hlookup
            split_ifs at hlookup
            exact hlookup
          · rwa [hmap] at hlookup
      exact hl id decl hkept ht

/-- Balance is about the covered characteristics alone. -/
lemma balanced_iff {l : Link} : Balanced w tree supportsNotify l ↔
    ∀ ch ∈ l.subscribed, l.device.inputMap.Holds (Covers w tree supportsNotify ch) := by
  refine ⟨Balanced.covered, fun h => ⟨h, fun hnone => ?_⟩⟩
  refine List.eq_nil_iff_forall_not_mem.mpr fun ch hch => hnone ?_
  obtain ⟨id, decl, hlookup, ht, -⟩ := h ch hch
  exact ⟨id, decl, hlookup, ht⟩

/-- **The step lemma:** a step keeps the balance iff it is a clean one.

**Proof sketch.** What an attach subscribes is covered by the device it enters, and what was covered
still is. After the detach of a gatt device the subscriptions are the old ones except its path; of
these the ones it does not cover are covered by another device before and after. -/
lemma balanced_step_iff {l : Link} (hl : Linked l) (hb : Balanced w tree supportsNotify l)
    (a : LinkAction) :
    Balanced w tree supportsNotify (linkStep w tree supportsNotify l a) ↔
      DetachClean w tree supportsNotify l a := by
  rw [balanced_iff]
  rcases a with ⟨decl, a, startOk⟩ | devId
  · refine iff_of_true ?_ trivial
    obtain ⟨-, ⟨hmap, hsub⟩ | ⟨decl', new, hfresh, hmap, -, hsub, hnew⟩⟩ :=
      linkStep_attach w tree supportsNotify l decl a startOk rfl
    · rw [hmap, hsub]
      exact hb.covered
    · rw [hmap, hsub]
      intro ch hch
      rw [Table.holds_insert hfresh]
      rcases List.mem_append.mp hch with hold | hadded
      · exact .inr (hb.covered ch hold)
      · exact .inl (hnew ch hadded)
  · rcases hold : l.device.inputMap.lookup devId with _ | decl
    · rw [linkStep_detach_none hold]
      refine iff_of_true hb.covered fun decl hlookup => ?_
      simp [hold] at hlookup
    · have hclean : DetachClean w tree supportsNotify l (.detach devId) ↔
          ∀ ch ∈ l.subscribed, Covers w tree supportsNotify ch decl → ch ≠ decl.devnode →
            Table.Holds (l.device.inputMap.erase devId) (Covers w tree supportsNotify ch) := by
        simp only [DetachClean, hold, Option.some.injEq, forall_eq']
      rw [hclean]
      obtain ⟨-, hmap⟩ := linkStep_detach w tree supportsNotify hl hold rfl
      by_cases ht : decl.type = .gatt
      · rw [if_pos ht] at hmap
        rw [hmap.1, hmap.2]
        constructor
        · intro h ch hch _ hne
          exact h ch (List.mem_filter.mpr ⟨hch, by simpa using hne⟩)
        · intro h ch hch
          obtain ⟨hch, hne⟩ := List.mem_filter.mp hch
          rcases (Table.holds_erase hold _).mp (hb.covered ch hch) with hcov | hother
          · exact h ch hch hcov (by simpa using hne)
          · exact hother
      · rw [if_neg ht] at hmap
        obtain ⟨hmap, hsub⟩ := hmap
        refine iff_of_true (fun ch hch => ?_) fun _ _ hcov => absurd hcov.1 ht
        rw [hsub] at hch
        have hcovered := hb.covered ch hch
        rcases hmap with hmap | hmap <;> rw [hmap]
        · exact ((Table.holds_erase hold _).mp hcovered).resolve_left fun hcov => ht hcov.1
        · exact hcovered

/-- **Subscriptions are balanced exactly as long as no detach leaves a characteristic behind.** For
all managed objects and every run that attaches and detaches declarations: in every state what is
subscribed is covered by an attached declaration, and nothing is subscribed once no gatt device is
attached, if and only if at every detach each characteristic that is subscribed and covered by the
detached declaration is its stored path or is covered by another attached declaration.

**Proof sketch.** The step lemma along the run, with the connection of the attached devices as
invariant. -/
theorem balanced_iff_detachClean (as : List LinkAction) :
    Run.Always (linkStep w tree supportsNotify) (Balanced w tree supportsNotify) {} as ↔
      Run.EachStep (linkStep w tree supportsNotify) (DetachClean w tree supportsNotify) {} as :=
  Run.always_iff_eachStep_of_step (I := Linked) (fun _ _ hl _ _ => linked_step hl)
    (fun _ a hl hb => balanced_step_iff hl hb a) linked_init (balanced_iff.mpr (by simp)) as

/-- A declaration that the example device matches at device level is attached and detached. -/
def exampleVisit : List LinkAction :=
  [.attach examplePad busAttempt (fun _ => true), .detach "pad"]

/-- The characteristic of the example device is subscribed after the detach, and no device is
attached. -/
theorem not_balanced_deviceLevel :
    let step := linkStep plainWorld (exampleTree "0010" "0011") fun _ => true
    (exampleVisit.foldl step {}).device.inputMap.entries = [] ∧
      (exampleVisit.foldl step {}).subscribed = [exampleDevice ++ "/service0010/char0011"] ∧
      ¬ Run.Always step (Balanced plainWorld (exampleTree "0010" "0011") fun _ => true) {}
        exampleVisit := by
  intro step
  have hlast : (exampleVisit.foldl step {}).device.inputMap.entries = [] ∧
      (exampleVisit.foldl step {}).subscribed = [exampleDevice ++ "/service0010/char0011"] := by
    decide
  refine ⟨hlast.1, hlast.2, fun h => ?_⟩
  obtain ⟨id, decl, hlookup, -⟩ :=
    h.last.covered _ (by rw [hlast.2]; exact List.mem_singleton_self _)
  have hmem := AList.mem_lookup_iff.mp hlookup
  rw [hlast.1] at hmem
  simp at hmem

end Aelkey.Gatt
