import Aelkey.Haptics.Events

set_option relaxedAutoImplicit false
set_option autoImplicit false

/-!
# Sources follow the virtual devices

The dispatcher knows the effects of a game from the requests it answers, and the game from the
descriptor the requests arrive at. This file shows that it is never wrong about either: after every
run of requests on any number of virtual devices, and of calls that scripts make, the sources are
the virtual devices with the effects uploaded to them, and a callback is called with the device, the
id and the effect that the game has played.

## Main definitions

* `Aelkey.Haptics.Act.Legal` — what devices and scripts can do.
* `Aelkey.Haptics.Tracks` — the sources are the virtual devices.

## Main results

* `Aelkey.Haptics.Tracks.call`, `Aelkey.Haptics.Tracks.event` — calls and events.
* `Aelkey.Haptics.follows_run` — every run.
* `Aelkey.Haptics.invocation_eq` — the callbacks get what the games do.
-/

namespace Aelkey.Haptics

/-! ## What can happen -/

/-- A call that scripts can make. -/
def Call.IsScript : Call → Prop
  | .device _ => False
  | _ => True

/-- The names that no output device has: it has a name, and not one that the source reserves. -/
def IsReserved (id : String) : Prop :=
  id = "" ∨ id = hapticsSourceCustom ∨ id = hapticsSourceOneshot

instance : DecidablePred IsReserved := fun _ => instDecidableOr

/-- The kernel gives a new virtual device a descriptor that no other one has, no device has a
reserved name, and callbacks call `aelkey.haptics` only. -/
def Act.Legal (w : Virtual) : Act → Prop
  | .register id uinputFd _ =>
    ¬ IsReserved id ∧ 0 ≤ uinputFd ∧ ∀ id', w.owner uinputFd = some id' → id' = id
  | .sink _ _ => True
  | .event fd _ _ _ reaction => 0 ≤ fd ∧ ∀ inv, ∀ c ∈ reaction inv, c.IsScript
  | .call c => c.IsScript

/-! ## The sources -/

/-- A source without its effects. -/
def header (d : Dispatcher) (id : String) : Option SourceCtx :=
  (d.sources.lookup id).map fun src => { src with effects := ∅ }

/-- **The sources are the virtual devices**: they are stored under their ids, they have the
descriptors and callbacks of the devices, and the effects that games have uploaded. -/
structure Tracks (d : Dispatcher) (w : Virtual) : Prop where
  ids : ∀ id src, header d id = some src → src.id = id
  owner : ∀ fd id, 0 ≤ fd →
    (w.owner fd = some id ↔ ∃ src, header d id = some src ∧ src.fd = fd)
  callback : ∀ id, w.callback id = ((header d id).map (·.callback)).getD ""
  effects : ∀ key, key.1 ≠ hapticsSourceCustom →
    effectOf d key = (w.uploaded key).map rebuildEffect

section Sources

variable {d d' : Dispatcher} {w w' : Virtual}

/-- The effects of the virtual devices after one has been set. -/
@[simp] lemma Virtual.uploaded_set (key : Key) (eff : Option FfEffect) (key' : Key) :
    (w.set key eff).uploaded key' = if key' = key then eff else w.uploaded key' := rfl

/-- Only the headers and the effects matter. -/
lemma Tracks.congr (h : Tracks d w) (hheader : header d' = header d) (howner : w'.owner = w.owner)
    (hcallback : w'.callback = w.callback)
    (heffects : ∀ key, key.1 ≠ hapticsSourceCustom →
      effectOf d' key = (w'.uploaded key).map rebuildEffect) : Tracks d' w' := by
  constructor
  case ids =>
    rw [hheader]
    exact h.ids
  case owner =>
    rw [hheader, howner]
    exact h.owner
  case callback =>
    rw [hheader, hcallback]
    exact h.callback
  case effects => exact heffects

/-- An operation that leaves the sources as they are. -/
lemma Tracks.of_sources (h : Tracks d w) (hs : d'.sources = d.sources) : Tracks d' w := by
  have hheader : header d' = header d := by
    funext id
    rw [header, header, hs]
  refine h.congr hheader rfl rfl fun key hkey => ?_
  rw [effectOf, hs]
  exact h.effects key hkey

/-- Replacing the effects of a source keeps the headers. -/
lemma header_setEffects {src : SourceCtx} {sourceId : String}
    (hsrc : d.sources.lookup sourceId = some src) (effects : Table ℤ FfEffect) :
    header (setEffects d src effects sourceId) = header d := by
  funext id
  rw [header, header, setEffects, Table.lookup_insert]
  split_ifs with hid
  · rw [hid, hsrc]
    rfl
  · rfl

/-- **One effect of a source is changed**, and its virtual device agrees. -/
lemma Tracks.setEffect (h : Tracks d w) {src : SourceCtx} {sourceId : String} {virtId : ℤ}
    (hsrc : d.sources.lookup sourceId = some src) {effects : Table ℤ FfEffect}
    {eff : Option FfEffect}
    (hlookup : ∀ v, effects.lookup v =
      if v = virtId then eff.map rebuildEffect else src.effects.lookup v) :
    Tracks (setEffects d src effects sourceId) (w.set (sourceId, virtId) eff) := by
  refine h.congr (header_setEffects hsrc effects) rfl rfl fun key hkey => ?_
  obtain ⟨id, v⟩ := key
  rw [effectOf_setEffects, Virtual.uploaded_set]
  by_cases hid : id = sourceId
  · subst hid
    have hold : src.effects.lookup v = (w.uploaded (id, v)).map rebuildEffect := by
      rw [← h.effects (id, v) hkey, effectOf, hsrc, Option.bind_some]
    rw [if_pos rfl, hlookup, hold]
    simp only [Prod.mk.injEq, true_and]
    split_ifs <;> rfl
  · have hne : ¬ (id, v) = (sourceId, virtId) := fun he => hid (Prod.mk.inj he).1
    rw [if_neg hid, if_neg hne]
    exact h.effects (id, v) hkey

/-- A descriptor finds the source of its virtual device. -/
lemma Tracks.sourceAt_eq (h : Tracks d w) {fd : ℤ} (hfd : 0 ≤ fd) :
    sourceAt d fd = w.owner fd := by
  have hmem : ∀ id, id ∈ (d.sources.entries.filter fun e => e.2.fd = fd).map (·.1) ↔
      w.owner fd = some id := by
    intro id
    rw [h.owner fd id hfd, List.mem_map]
    constructor
    · rintro ⟨⟨id', src⟩, he, rfl⟩
      obtain ⟨he, hsrc⟩ := List.mem_filter.mp he
      refine ⟨{ src with effects := ∅ }, ?_, of_decide_eq_true hsrc⟩
      rw [header, AList.mem_lookup_iff.mpr he]
      rfl
    · rintro ⟨src, hsrc, hfd'⟩
      obtain ⟨src₀, hlookup, rfl⟩ := Option.map_eq_some_iff.mp hsrc
      have he : ⟨id, src₀⟩ ∈ d.sources.entries := AList.mem_lookup_iff.mp hlookup
      exact ⟨⟨id, src₀⟩, List.mem_filter.mpr ⟨he, decide_eq_true hfd'⟩, rfl⟩
  rw [sourceAt]
  cases howner : w.owner fd with
  | none =>
    rw [howner] at hmem
    have hnil : (d.sources.entries.filter fun e => e.2.fd = fd).map (·.1) = [] :=
      List.eq_nil_iff_forall_not_mem.mpr fun id hid => absurd ((hmem id).mp hid) (by simp)
    rw [hnil]
    rfl
  | some id =>
    rw [howner] at hmem
    refine List.min?_eq_some_iff.mpr ⟨(hmem id).mpr rfl, fun id' hid' => ?_⟩
    rw [Option.some.inj ((hmem id').mp hid')]

/-! ### Calls of scripts -/

/-- `haptics.erase` erases the effect that its table names. -/
lemma Tracks.erase (h : Tracks d w) (tbl : LuaTable) :
    Tracks (hapticsErase d tbl).1 (w.call (.erase tbl)) := by
  simp only [hapticsErase, Virtual.call, erasePersistentEffect]
  split_ifs with hnamed
  · cases hsrc : d.sources.lookup (getStr tbl "source" "") with
    | some src =>
      have herase : ∀ v, (src.effects.erase (getInt tbl "id" (-1))).lookup v =
          if v = getInt tbl "id" (-1) then (none : Option FfEffect).map rebuildEffect
          else src.effects.lookup v := fun v => Table.lookup_erase _ _ v
      exact (h.setEffect hsrc herase).of_sources rfl
    | none =>
      refine h.congr rfl rfl rfl fun key hkey => ?_
      rw [Virtual.uploaded_set, h.effects key hkey]
      split_ifs with he
      · have hnone : effectOf d key = none := by
          rw [he, effectOf, hsrc, Option.bind_none]
        rw [← h.effects key hkey, hnone]
        rfl
      · rfl
  · exact h

/-- `haptics.create` may register the source of the scripts, which has no descriptor and no
callback. -/
lemma Tracks.create (h : Tracks d w) (tbl : LuaTable) : Tracks (hapticsCreate d tbl).1 w := by
  obtain ⟨heffects, -, -, -, -⟩ := ensureSource_spec d hapticsSourceCustom
  obtain ⟨eff, src, n, -, hsrc, he⟩ :=
    createPersistentEffect_spec d hapticsSourceCustom (luaToFfEffect tbl)
  have hensured : Tracks (ensureSource d hapticsSourceCustom) w := by
    unfold ensureSource
    split
    · exact h
    · next hnone =>
      have hheader : ∀ id, header (registerSource d hapticsSourceCustom (-1) "") id =
          if id = hapticsSourceCustom then some { id := hapticsSourceCustom }
          else header d id := by
        intro id
        rw [header, registerSource, Table.lookup_insert]
        split_ifs <;> rfl
      have hold : header d hapticsSourceCustom = none := by
        rw [header, hnone]
        rfl
      constructor
      case ids =>
        intro id src hid
        rw [hheader] at hid
        split_ifs at hid with hc
        · rw [← Option.some.inj hid, hc]
        · exact h.ids id src hid
      case owner =>
        intro fd id hfd
        rw [h.owner fd id hfd, hheader]
        split_ifs with hc
        · rw [hc, hold]
          constructor
          · rintro ⟨src, hs, -⟩
            cases hs
          · rintro ⟨src, hs, rfl⟩
            rw [← Option.some.inj hs] at hfd
            exact absurd hfd (by decide)
        · rfl
      case callback =>
        intro id
        rw [h.callback id, hheader]
        split_ifs with hc
        · rw [hc, hold]
          rfl
        · rfl
      case effects =>
        intro key hkey
        rw [← h.effects key hkey]
        simp only [effectOf, registerSource, Table.lookup_insert, if_neg hkey]
  rw [hapticsCreate, he]
  refine hensured.congr (header_setEffects hsrc _) rfl rfl fun key hkey => ?_
  rw [effectOf_setEffects, if_neg hkey]
  exact hensured.effects key hkey

/-- Every call of a script does to the sources what it does to the virtual devices. -/
lemma Tracks.call (h : Tracks d w) {c : Call} (hc : c.IsScript) :
    Tracks (callStep d c) (w.call c) := by
  cases c with
  | create tbl => exact h.create tbl
  | erase tbl => exact h.erase tbl
  | play sinkId ev first second =>
    exact h.of_sources (playEffect_sources _ _ _ _ _ _ _ _)
  | stop sinkId ev =>
    refine h.of_sources ?_
    simp only [callStep, hapticsStop, stopEffect]
    repeat' split
    all_goals rfl
  | device op => exact hc.elim

/-! ### Devices and their events -/

/-- A new virtual device is a source without effects. -/
lemma Tracks.register (h : Tracks d w) {id : String} {fd : ℤ} (callback : String)
    (hfree : ∀ id', w.owner fd = some id' → id' = id) :
    Tracks (registerSource d id fd callback) (w.create id fd callback) := by
  have hheader : ∀ id', header (registerSource d id fd callback) id' =
      if id' = id then some { id := id, fd := fd, callback := callback } else header d id' := by
    intro id'
    rw [header, registerSource, Table.lookup_insert]
    split_ifs <;> rfl
  constructor
  case ids =>
    intro id' src hid
    rw [hheader] at hid
    split_ifs at hid with hc
    · rw [← Option.some.inj hid, hc]
    · exact h.ids id' src hid
  case owner =>
    intro x id' hx
    simp only [hheader, Virtual.create]
    by_cases hid : id' = id
    · subst hid
      rw [if_pos rfl]
      constructor
      · intro he
        split_ifs at he with hxfd hold
        · exact ⟨_, rfl, hxfd.symm⟩
        · exact absurd he hold
      · rintro ⟨src, hs, hxfd⟩
        rw [← Option.some.inj hs] at hxfd
        rw [if_pos hxfd.symm]
    · rw [if_neg hid, ← h.owner x id' hx]
      split_ifs with hxfd hold
      · constructor
        · intro he
          exact absurd (Option.some.inj he).symm hid
        · intro he
          exact absurd (hfree id' (hxfd ▸ he)) hid
      · rw [hold]
        constructor
        · intro he
          cases he
        · intro he
          exact absurd (Option.some.inj he).symm hid
      · rfl
  case callback =>
    intro id'
    simp only [hheader, Virtual.create, h.callback id']
    split_ifs <;> rfl
  case effects =>
    intro key hkey
    simp only [effectOf, registerSource, Table.lookup_insert, Virtual.create]
    split_ifs
    · rfl
    · exact h.effects key hkey

/-- A request of a game does to the sources what it does to the virtual devices. -/
lemma Tracks.request (h : Tracks d w) {id : String} {src : SourceCtx}
    (hsrc : d.sources.lookup id = some src) (req : Request) :
    Tracks (handleUpload d id src req.upload req.endOk).1 (w.request id uiFfUpload req) ∧
      Tracks (handleErase d id src req.erase req.endOk).1 (w.request id uiFfErase req) := by
  have hcode : ¬ uiFfErase = uiFfUpload := by decide
  simp only [handleUpload, handleErase, Virtual.request, ↓reduceIte, if_neg hcode]
  constructor
  · cases req.upload with
    | none => exact h
    | some eff =>
      dsimp only
      split_ifs
      · have hinsert : ∀ v, (src.effects.insert eff.id (rebuildEffect eff)).lookup v =
            if v = eff.id then (some eff).map rebuildEffect else src.effects.lookup v :=
          fun v => Table.lookup_insert _ _ _ _
        exact (h.setEffect hsrc hinsert).of_sources rfl
      · exact h
  · cases req.erase with
    | none => exact h
    | some virtId =>
      have herase : ∀ v, (src.effects.erase virtId).lookup v =
          if v = virtId then (none : Option FfEffect).map rebuildEffect
          else src.effects.lookup v := fun v => Table.lookup_erase _ _ v
      exact (h.setEffect hsrc herase).of_sources rfl

/-- A source that is a virtual device has its callback and its effects. -/
lemma Tracks.source (h : Tracks d w) {fd : ℤ} {id : String} (hfd : 0 ≤ fd)
    (howner : w.owner fd = some id) :
    ∃ src, d.sources.lookup id = some src ∧ src.id = id ∧ src.callback = w.callback id := by
  obtain ⟨src, hsrc, -⟩ := (h.owner fd id hfd).mp howner
  have hid := h.ids id src hsrc
  have hcallback := h.callback id
  rw [hsrc] at hcallback
  obtain ⟨src₀, hlookup, rfl⟩ := Option.map_eq_some_iff.mp hsrc
  exact ⟨src₀, hlookup, hid, hcallback.symm⟩

/-- **What an event of a descriptor does**: the sources follow the virtual devices, and the callback
is called as it should be. -/
lemma Tracks.event (h : Tracks d w) (isFunction : String → Bool) {fd : ℤ} (hfd : 0 ≤ fd)
    (hcustom : w.owner fd ≠ some hapticsSourceCustom) (epollin : Bool) (read : Option FfEvent)
    (req : Request) :
    Tracks (handleEvent isFunction d fd epollin read req).1
        (w.event isFunction fd epollin read req).1 ∧
      (handleEvent isFunction d fd epollin read req).2 =
        (w.event isFunction fd epollin read req).2 := by
  unfold handleEvent Virtual.event
  rw [h.sourceAt_eq hfd]
  cases howner : w.owner fd with
  | none =>
    dsimp only
    split_ifs <;> exact ⟨h, rfl⟩
  | some id =>
    obtain ⟨src, hsrc, hid, hcallback⟩ := h.source hfd howner
    cases read with
    | none =>
      simp only [hsrc]
      split_ifs <;> exact ⟨h, rfl⟩
    | some ev =>
      have hne : id ≠ hapticsSourceCustom := fun he => hcustom (howner.trans (by rw [he]))
      have heffect : src.effects.lookup (ev.code : ℤ) =
          (w.uploaded (id, (ev.code : ℤ))).map rebuildEffect := by
        rw [← h.effects (id, (ev.code : ℤ)) hne, effectOf, hsrc, Option.bind_some]
      obtain ⟨hupload, herase⟩ := h.request hsrc req
      simp only [hsrc]
      split_ifs with hin htype hcode hcode' hff hpos
      · exact ⟨h, rfl⟩
      · rw [hcode]
        exact ⟨hupload, rfl⟩
      · rw [hcode']
        exact ⟨herase, rfl⟩
      · rw [Virtual.request, if_neg hcode, if_neg hcode']
        exact ⟨h, rfl⟩
      · refine ⟨h, ?_⟩
        simp only [handlePlay, Virtual.invocation, hid, hcallback, heffect, if_pos hpos,
          Option.map_map]
        rfl
      · refine ⟨h, ?_⟩
        simp only [handleStop, Virtual.invocation, hid, hcallback, if_neg hpos]
      · exact ⟨h, rfl⟩

end Sources

/-! ## Runs -/

/-- The dispatcher with the virtual devices it should follow. -/
def bothStep (isFunction : String → Bool) (p : Dispatcher × Virtual) (a : Act) :
    Dispatcher × Virtual :=
  (actStep isFunction p.1 a, virtualStep isFunction p.2 a)

/-- The two parts of a run of both. -/
lemma foldl_bothStep (isFunction : String → Bool) (acts : List Act) (d : Dispatcher) (w : Virtual) :
    acts.foldl (bothStep isFunction) (d, w) =
      (acts.foldl (actStep isFunction) d, acts.foldl (virtualStep isFunction) w) := by
  induction acts generalizing d w with
  | nil => rfl
  | cons a acts ih => exact ih _ _

/-- The condition on the actions of a run of both. -/
lemma eachStep_bothStep {isFunction : String → Bool} {C : Virtual → Act → Prop} {acts : List Act}
    {d : Dispatcher} {w : Virtual} :
    Run.EachStep (bothStep isFunction) (fun p a => C p.2 a) (d, w) acts ↔
      Run.EachStep (virtualStep isFunction) C w acts := by
  induction acts generalizing d w with
  | nil => simp
  | cons a acts ih => exact and_congr_right fun _ => ih

/-- The calls of a callback keep the sources in step with the virtual devices. -/
lemma Tracks.calls {cs : List Call} (hcs : ∀ c ∈ cs, c.IsScript) {d : Dispatcher} {w : Virtual}
    (h : Tracks d w) : Tracks (cs.foldl callStep d) (cs.foldl Virtual.call w) := by
  induction cs generalizing d w with
  | nil => exact h
  | cons c cs ih =>
    obtain ⟨hc, hcs⟩ := List.forall_mem_cons.mp hcs
    exact ih hcs (h.call hc)

/-- No call changes to whom a descriptor belongs, or a callback. -/
lemma frame_calls (cs : List Call) (w : Virtual) :
    (cs.foldl Virtual.call w).owner = w.owner ∧ (cs.foldl Virtual.call w).callback = w.callback := by
  induction cs generalizing w with
  | nil => exact ⟨rfl, rfl⟩
  | cons c cs ih =>
    have hone : (w.call c).owner = w.owner ∧ (w.call c).callback = w.callback := by
      cases c with
      | erase tbl =>
        simp only [Virtual.call]
        split_ifs <;> exact ⟨rfl, rfl⟩
      | create | play | stop | device => exact ⟨rfl, rfl⟩
    rw [List.foldl_cons, (ih _).1, (ih _).2]
    exact hone

/-- No event changes to whom a descriptor belongs, or a callback. -/
lemma frame_event (isFunction : String → Bool) (w : Virtual) (fd : ℤ) (epollin : Bool)
    (read : Option FfEvent) (req : Request) :
    (w.event isFunction fd epollin read req).1.owner = w.owner ∧
      (w.event isFunction fd epollin read req).1.callback = w.callback := by
  simp only [Virtual.event, Virtual.request]
  repeat' split
  all_goals exact ⟨rfl, rfl⟩

/-- Only the creation of a device changes to whom a descriptor belongs, or a callback. -/
lemma frame_step (isFunction : String → Bool) (w : Virtual) {a : Act}
    (ha : ∀ id fd callback, a ≠ .register id fd callback) :
    (virtualStep isFunction w a).owner = w.owner ∧
      (virtualStep isFunction w a).callback = w.callback := by
  cases a with
  | register id fd callback => exact absurd rfl (ha id fd callback)
  | sink => exact ⟨rfl, rfl⟩
  | event fd epollin read req reaction =>
    have hevent := frame_event isFunction w fd epollin read req
    simp only [virtualStep]
    split
    · rw [(frame_calls _ _).1, (frame_calls _ _).2]
      exact hevent
    · exact hevent
  | call c => exact frame_calls [c] w

/-- The sources follow the virtual devices, none of which has a reserved name. -/
structure Follows (p : Dispatcher × Virtual) : Prop where
  tracks : Tracks p.1 p.2
  owned : ∀ fd id, p.2.owner fd = some id → ¬ IsReserved id

/-- Every legal action keeps the sources in step with the virtual devices. -/
lemma Follows.step {isFunction : String → Bool} {p : Dispatcher × Virtual} (h : Follows p)
    {a : Act} (ha : a.Legal p.2) : Follows (bothStep isFunction p a) := by
  obtain ⟨htracks, howned⟩ := h
  cases a with
  | register id fd callback =>
    obtain ⟨hid, -, hfree⟩ := ha
    refine ⟨htracks.register callback hfree, fun x id' hx => ?_⟩
    simp only [bothStep, virtualStep, Virtual.create] at hx
    split_ifs at hx
    · exact Option.some.inj hx ▸ hid
    · exact howned x id' hx
  | sink id fd =>
    have hsources : (registerSink p.1 id fd).sources = p.1.sources := by
      rw [registerSink]
      split_ifs <;> rfl
    exact ⟨htracks.of_sources hsources, howned⟩
  | event fd epollin read req reaction =>
    obtain ⟨hfd, hscript⟩ := ha
    obtain ⟨hevent, hcall⟩ := htracks.event isFunction hfd
      (fun he => howned fd _ he (.inr (.inl rfl))) epollin read req
    have howner := (frame_step isFunction p.2 (a := .event fd epollin read req reaction)
      (by simp)).1
    refine ⟨?_, by rw [bothStep, howner]; exact howned⟩
    simp only [bothStep, actStep, virtualStep, hcall]
    split
    · next inv _ => exact hevent.calls (hscript inv)
    · exact hevent
  | call c =>
    have howner := (frame_step isFunction p.2 (a := .call c) (by simp)).1
    exact ⟨htracks.call ha, by rw [bothStep, howner]; exact howned⟩

/-- Without virtual devices there are no sources. -/
lemma follows_empty : Follows ({}, {}) := by
  refine ⟨⟨?_, ?_, ?_, ?_⟩, ?_⟩ <;> simp [header, effectOf]

/-- The dispatcher after a run. -/
def dispatcherAfter (isFunction : String → Bool) (acts : List Act) : Dispatcher :=
  acts.foldl (actStep isFunction) {}

/-- The virtual devices after a run. -/
def virtualAfter (isFunction : String → Bool) (acts : List Act) : Virtual :=
  acts.foldl (virtualStep isFunction) {}

/-- Every action of a run is legal. -/
def LegalRun (isFunction : String → Bool) (acts : List Act) : Prop :=
  Run.EachStep (virtualStep isFunction) (fun w a => a.Legal w) {} acts

/-- After every run of legal actions the sources follow the virtual devices. -/
lemma follows_run {isFunction : String → Bool} {acts : List Act}
    (hacts : LegalRun isFunction acts) :
    Follows (dispatcherAfter isFunction acts, virtualAfter isFunction acts) := by
  rw [dispatcherAfter, virtualAfter, ← foldl_bothStep]
  exact (Run.always_of_step (C := fun p a => a.Legal p.2) (fun _ _ h ha => h.step ha)
    follows_empty (eachStep_bothStep.mpr hacts)).last

/-- **Callbacks get what games do.** After every run of legal actions, an event of a descriptor calls
the callback that the device of the descriptor was created with, or none; and it hands over the
device, the id and the value of the event, with the effect that the game uploaded last under this
id, unless it has been erased since. -/
theorem invocation_eq (isFunction : String → Bool) (acts : List Act)
    (hacts : LegalRun isFunction acts) (fd : ℤ) (hfd : 0 ≤ fd) (epollin : Bool)
    (read : Option FfEvent) (req : Request) :
    (handleEvent isFunction (dispatcherAfter isFunction acts) fd epollin read req).2 =
      ((virtualAfter isFunction acts).event isFunction fd epollin read req).2 := by
  obtain ⟨htracks, howned⟩ := follows_run hacts
  exact (htracks.event isFunction hfd (fun he => howned fd _ he (.inr (.inl rfl))) epollin read
    req).2

/-- Two games upload an effect under the same id. -/
def twoPads : List Act :=
  [.register "a" 7 "f", .register "b" 8 "g",
    .event 7 true (some ⟨evUinput, uiFfUpload, 1⟩)
      { upload := some { id := 0, body := .rumble 1 2 } } fun _ => [],
    .event 8 true (some ⟨evUinput, uiFfUpload, 1⟩)
      { upload := some { id := 0, body := .constant 3 {} } } fun _ => []]

/-- The run of the two games is legal. -/
lemma legalRun_twoPads : LegalRun (fun _ => true) twoPads := by
  simp [LegalRun, twoPads, Act.Legal, virtualStep, Virtual.create, IsReserved, hapticsSourceCustom,
    hapticsSourceOneshot]

/-- The second game plays. -/
theorem invocation_eq_twoPads :
    (handleEvent (fun _ => true) (dispatcherAfter (fun _ => true) twoPads) 8 true
        (some ⟨evFf, 0, 1⟩) {}).2 =
      ((virtualAfter (fun _ => true) twoPads).event (fun _ => true) 8 true
        (some ⟨evFf, 0, 1⟩) {}).2 :=
  invocation_eq _ _ legalRun_twoPads 8 (by decide) _ _ _

end Aelkey.Haptics
