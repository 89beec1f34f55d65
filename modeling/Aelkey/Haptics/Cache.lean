import Aelkey.Haptics.Model
import Aelkey.Lib.Run

set_option relaxedAutoImplicit false
set_option autoImplicit false

/-!
# The slots of the haptics sinks are an exact cache

In every state the slots of a sink hold exactly the ids that reside on its device, and the effect
in the slot of a key is the one its source has now. An upload finds its key without a slot, and
every change of an effect gives up the slots of its key first.

## Main definitions

* `Aelkey.Haptics.effectOf` — the effect a source has under a virtual id.
* `Aelkey.Haptics.Op`, `Aelkey.Haptics.step` — the operations.
* `Aelkey.Haptics.CacheExact` — the cache is exact, and a persistent play finds a fresh copy.
* `Aelkey.Haptics.Maintains` — what an operation that plays no effect does to the sinks.

## Main results

* `Aelkey.Haptics.uploadEffect_cases` — an upload, with its eviction and its second attempt.
* `Aelkey.Haptics.maintains_step`, `Aelkey.Haptics.sources_step` — what a step does to the sinks and
  to the sources.
* `Aelkey.Haptics.cacheExact_of_legal` — the cache is exact in every reachable state.
-/

namespace Aelkey.Haptics

open SlotCache

/-- The effect a source has under a virtual id. -/
def effectOf (d : Dispatcher) (key : Key) : Option FfEffect :=
  (d.sources.lookup key.1).bind fun src => src.effects.lookup key.2

/-! ## Operations -/

/-- The operations, with what the kernel answers. -/
inductive Op
  | registerSource (id : String) (uinputFd : ℤ) (callback : String)
  | registerSink (id : String) (evdevFd : ℤ)
  | create (sourceId : String) (eff : FfEffect)
  | erase (sourceId : String) (virtId : ℤ)
  | upload (sourceId : String) (begin : Option FfEffect) (endOk : Bool)
  | eraseRequest (sourceId : String) (begin : Option ℤ) (endOk : Bool)
  | play (sinkId sourceId : String) (virtId magnitude : ℤ) (maybeEff : Option FfEffect)
      (first second : Answer)
  | stop (sinkId sourceId : String) (virtId : ℤ)

/-- No source is named like the one-shot pseudo source. -/
def Op.Legal : Op → Prop
  | .registerSource id _ _ => id ≠ hapticsSourceOneshot
  | .create sourceId _ => sourceId ≠ hapticsSourceOneshot
  | _ => True

/-- One operation. -/
def step (d : Dispatcher) : Op → Dispatcher
  | .registerSource id uinputFd callback => registerSource d id uinputFd callback
  | .registerSink id evdevFd => registerSink d id evdevFd
  | .create sourceId eff => (createPersistentEffect d sourceId eff).1
  | .erase sourceId virtId => (erasePersistentEffect d sourceId virtId).1
  | .upload sourceId begin endOk =>
    match d.sources.lookup sourceId with
    | some hctx => (handleUpload d sourceId hctx begin endOk).1
    | none => d
  | .eraseRequest sourceId begin endOk =>
    match d.sources.lookup sourceId with
    | some hctx => (handleErase d sourceId hctx begin endOk).1
    | none => d
  | .play sinkId sourceId virtId magnitude maybeEff first second =>
    (playEffect d sinkId sourceId virtId magnitude maybeEff first second).1
  | .stop sinkId sourceId virtId => (stopEffect d sinkId sourceId virtId).1

/-- A play of `key` with the result `p`, if the source has the effect and the play succeeds: under
the real id that is played resides a copy of the effect, up to its id. -/
def PlaysCopy (d : Dispatcher) (sinkId : String) (key : Key) (p : Dispatcher × ℤ) : Prop :=
  ∀ eff, effectOf d key = some eff → 0 ≤ p.2 →
    ∃ sink e, p.1.sinks.lookup sinkId = some sink ∧ sink.device.lookup p.2 = some e ∧ e.Same eff

/-- The cache is exact for every sink, and a persistent play of an existing effect plays a copy of
it. -/
structure CacheExact (d : Dispatcher) : Prop where
  exact : ∀ id sink, d.sinks.lookup id = some sink →
    Exact FfEffect.Same (effectOf d) sink.slots sink.device
  play : ∀ sinkId sourceId virtId magnitude first second,
    PlaysCopy d sinkId (sourceId, virtId)
      (playEffect d sinkId sourceId virtId magnitude none first second)

/-- The invariant: the sources are stored under their ids, the one-shot pseudo source is not among
them, the one-shot slots have been counted, and the cache is exact. -/
structure Inv (d : Dispatcher) : Prop where
  ids : ∀ id src, d.sources.lookup id = some src → src.id = id
  oneshot : hapticsSourceOneshot ∉ d.sources
  counted : ∀ id sink, d.sinks.lookup id = some sink → ∀ v, (hapticsSourceOneshot, v) ∈ sink.slots →
    ∃ n < d.oneshotCounter, v = (n : ℤ)
  exact : ∀ id sink, d.sinks.lookup id = some sink →
    Exact FfEffect.Same (effectOf d) sink.slots sink.device

/-! ## Uploading -/

/-- `csff` stores the effect or changes nothing. -/
lemma csff_cases (device : Device) (eff : FfEffect) (answer : Answer) :
    (∃ id, 0 ≤ id ∧ id ∉ device ∧
      csff device eff answer = (device.insert id { eff with id := id }, .ok id)) ∨
    ∃ errno, csff device eff answer = (device, .error errno) := by
  cases answer with
  | stored id =>
    by_cases h : 0 ≤ id ∧ id ∉ device
    · exact .inl ⟨id, h.1, h.2, if_pos h⟩
    · exact .inr ⟨_, if_neg h⟩
  | failed errno => exact .inr ⟨errno, rfl⟩

/-- A sink whose slots have all been given up. -/
def Sink.evicted (sink : Sink) : Sink :=
  { sink with slots := ∅, device := evict sink.slots sink.device }

/-- **An upload.** It fails or stores the effect under an id not in use, on the sink as it is or
after all its slots have been given up. -/
lemma uploadEffect_cases (sink : Sink) (eff : FfEffect) (first second : Answer) :
    ∃ base, (base = sink ∨ base = sink.evicted) ∧
      (uploadEffect sink eff first second = (base, -1) ∨
        ∃ id, 0 ≤ id ∧ id ∉ base.device ∧ uploadEffect sink eff first second =
          ({ base with device := base.device.insert id { eff with id := id } }, id)) := by
  rcases csff_cases sink.device { eff with id := -1 } first with
    ⟨id, hpos, hid, hok⟩ | ⟨errno, herr⟩
  · exact ⟨sink, .inl rfl, .inr ⟨id, hpos, hid, by simp only [uploadEffect, hok]⟩⟩
  cases errno with
  | other => exact ⟨sink, .inl rfl, .inl (by simp only [uploadEffect, herr])⟩
  | enospc =>
    refine ⟨sink.evicted, .inr rfl, ?_⟩
    rcases csff_cases (evict sink.slots sink.device) { eff with id := -1 } second with
      ⟨id, hpos, hid, hok⟩ | ⟨errno, herr'⟩
    · exact .inr ⟨id, hpos, hid, by simp only [uploadEffect, herr, hok, Sink.evicted]⟩
    · exact .inl (by simp only [uploadEffect, herr, herr', Sink.evicted])

/-- **An upload keeps the cache exact.** It keeps the file descriptor and adds no slot. If it fails
the cache is exact as it is; if it succeeds the cache is exact once the real id is entered for the
key, and the effect resides under this id.

**Proof sketch.** The first attempt stores the effect, or the cache is unchanged, or all slots are
given up; then the second attempt starts from an empty cache. -/
lemma uploadEffect_spec {sink : Sink} {content : Key → Option FfEffect} {key : Key}
    (eff : FfEffect) (first second : Answer)
    (h : Exact FfEffect.Same content sink.slots sink.device) (hk : key ∉ sink.slots)
    (hc : ∀ c, content key = some c → eff = c) :
    (uploadEffect sink eff first second).1.fd = sink.fd ∧
      (∀ k, k ∈ (uploadEffect sink eff first second).1.slots → k ∈ sink.slots) ∧
      ((uploadEffect sink eff first second).2 < 0 →
        Exact FfEffect.Same content (uploadEffect sink eff first second).1.slots
          (uploadEffect sink eff first second).1.device) ∧
      (0 ≤ (uploadEffect sink eff first second).2 →
        Exact FfEffect.Same content ((uploadEffect sink eff first second).1.slots.insert key
            (uploadEffect sink eff first second).2)
          (uploadEffect sink eff first second).1.device ∧
        ∃ e, (uploadEffect sink eff first second).1.device.lookup
          (uploadEffect sink eff first second).2 = some e ∧ e.Same eff) := by
  have hsame : ∀ id c, content key = some c → ({ eff with id := id } : FfEffect).Same c := by
    intro id c hcc
    obtain rfl := hc c hcc
    rfl
  obtain ⟨base, hbase, hup⟩ := uploadEffect_cases sink eff first second
  have hexact : Exact FfEffect.Same content base.slots base.device ∧ base.fd = sink.fd ∧
      ∀ k, k ∈ base.slots → k ∈ sink.slots := by
    rcases hbase with rfl | rfl
    · exact ⟨h, rfl, fun _ hk => hk⟩
    · exact ⟨h.evict, rfl, fun k hk => absurd hk (AList.notMem_empty k)⟩
  obtain ⟨hexact, hfd, hslots⟩ := hexact
  rcases hup with he | ⟨id, hpos, hid, he⟩
  · rw [he]
    have hneg : ¬ (0 : ℤ) ≤ -1 := by decide
    exact ⟨hfd, hslots, fun _ => hexact, fun hpos => absurd hpos hneg⟩
  · rw [he]
    refine ⟨hfd, hslots, fun hneg => absurd hneg (Int.not_lt.mpr hpos), fun _ => ?_⟩
    exact ⟨hexact.store (fun hm => hk (hslots key hm)) hid (hsame id), _, AList.lookup_insert _,
      rfl⟩

/-! ## What the operations do to sinks and sources -/

/-- The effects after those of one source have been replaced. -/
lemma effectOf_setEffects (d : Dispatcher) (src : SourceCtx) (effects : Table ℤ FfEffect)
    (sourceId : String) (key : Key) :
    effectOf (setEffects d src effects sourceId) key =
      if key.1 = sourceId then effects.lookup key.2 else effectOf d key := by
  simp only [effectOf, setEffects, Table.lookup_insert]
  split_ifs <;> rfl

/-- The sinks after `propagateErase`. -/
lemma lookup_sinks_propagateErase (d : Dispatcher) (sourceId : String) (virtId : ℤ) (id : String) :
    (propagateErase d sourceId virtId).sinks.lookup id =
      (d.sinks.lookup id).map fun sink => sink.dropKey (sourceId, virtId) :=
  Table.lookup_mapValues _ _ _

/-- **What an operation does to the sinks**, unless it plays an effect. It keeps them, while effects
may disappear; or it adds a sink without slots; or it gives up the slots of a key and keeps the
effects of all other keys. -/
inductive Maintains (d d' : Dispatcher) : Prop
  | kept (sinks : d'.sinks = d.sinks)
      (effects : ∀ key, effectOf d' key = effectOf d key ∨ effectOf d' key = none)
      (count : d'.oneshotCounter = d.oneshotCounter)
  | plugged (id : String) (fd : ℤ) (nonneg : 0 ≤ fd)
      (sinks : d'.sinks = d.sinks.insert id { id := id, fd := fd })
      (effects : ∀ key, effectOf d' key = effectOf d key)
      (count : d'.oneshotCounter = d.oneshotCounter)
  | dropped (key : Key)
      (sinks : ∀ id, d'.sinks.lookup id = (d.sinks.lookup id).map fun sink => sink.dropKey key)
      (effects : ∀ key', key' ≠ key → effectOf d' key' = effectOf d key')
      (count : d'.oneshotCounter = d.oneshotCounter)

/-- Only the sinks, the effects and the counter of the state before matter. -/
lemma Maintains.congr_left {d d₀ d' : Dispatcher} (h : Maintains d₀ d')
    (heffects : effectOf d₀ = effectOf d) (hsinks : d₀.sinks = d.sinks)
    (hcount : d₀.oneshotCounter = d.oneshotCounter) : Maintains d d' := by
  cases h with
  | kept sinks effects count =>
    exact .kept (sinks.trans hsinks) (fun key => heffects ▸ effects key) (count.trans hcount)
  | plugged id fd nonneg sinks effects count =>
    exact .plugged id fd nonneg (by rw [← hsinks]; exact sinks) (fun key => heffects ▸ effects key)
      (count.trans hcount)
  | dropped key sinks effects count =>
    exact .dropped key (fun id => by rw [← hsinks]; exact sinks id)
      (fun key' hne => heffects ▸ effects key' hne) (count.trans hcount)

/-- **Changing one effect of a source and giving up its slots.** The sources change before the slots
are given up or after; the result is the same. -/
lemma maintains_setEffect {d d' : Dispatcher} {sourceId : String} {src : SourceCtx}
    (hsrc : d.sources.lookup sourceId = some src) (virtId : ℤ) {effects : Table ℤ FfEffect}
    (heffects : ∀ v, v ≠ virtId → effects.lookup v = src.effects.lookup v)
    (hsources : d'.sources = (setEffects d src effects sourceId).sources)
    (hsinks : d'.sinks = (propagateErase d sourceId virtId).sinks)
    (hcount : d'.oneshotCounter = d.oneshotCounter) : Maintains d d' := by
  refine .dropped (sourceId, virtId) (fun id => ?_) ?_ hcount
  · rw [hsinks, lookup_sinks_propagateErase]
  intro ⟨s, v⟩ hne
  have hset : effectOf d' (s, v) = effectOf (setEffects d src effects sourceId) (s, v) := by
    simp only [effectOf, hsources]
  rw [hset, effectOf_setEffects]
  split_ifs with hs
  · have hv : v ≠ virtId := fun hv => hne (by rw [← hs, ← hv])
    simp only [effectOf]
    rw [heffects v hv, show s = sourceId from hs, hsrc, Option.bind_some]
  · rfl

/-- Registering the source of a new effect changes no effects: it had none, and has none. -/
lemma ensureSource_spec (d : Dispatcher) (sourceId : String) :
    effectOf (ensureSource d sourceId) = effectOf d ∧ (ensureSource d sourceId).sinks = d.sinks ∧
      (ensureSource d sourceId).oneshotCounter = d.oneshotCounter ∧
      (ensureSource d sourceId).internalIdCounter = d.internalIdCounter ∧
      ∃ src, (ensureSource d sourceId).sources.lookup sourceId = some src := by
  unfold ensureSource
  split
  · next src hsrc => exact ⟨rfl, rfl, rfl, rfl, src, hsrc⟩
  · next hsrc =>
    refine ⟨funext fun key => ?_, rfl, rfl, rfl, _, AList.lookup_insert _⟩
    simp only [effectOf, registerSource, Table.lookup_insert]
    split_ifs with hs
    · rw [hs, hsrc]
      rfl
    · rfl

/-- `create_persistent_effect`: the virtual id, the counter, and the effect that the source has
under the id. -/
lemma createPersistentEffect_spec (d : Dispatcher) (sourceId : String) (eff : FfEffect) :
    ∃ (eff' : FfEffect) (src : SourceCtx) (n : ℕ),
      (eff.id = -1 ∧ eff' = { eff with id := toInt16 d.internalIdCounter } ∧
          n = d.internalIdCounter + 1 ∨
        eff.id ≠ -1 ∧ eff' = eff ∧ n = d.internalIdCounter) ∧
      (ensureSource d sourceId).sources.lookup sourceId = some src ∧
      createPersistentEffect d sourceId eff =
        (setEffects (propagateErase { ensureSource d sourceId with internalIdCounter := n }
          sourceId eff'.id) src (src.effects.insert eff'.id eff') sourceId, eff'.id) := by
  obtain ⟨-, -, -, hcount, src, hsrc⟩ := ensureSource_spec d sourceId
  have hsrc' : ∀ (n : ℕ) (v : ℤ), (propagateErase { ensureSource d sourceId with
      internalIdCounter := n } sourceId v).sources.lookup sourceId = some src := fun _ _ => hsrc
  by_cases hid : eff.id = -1
  · refine ⟨_, src, _, .inl ⟨hid, rfl, rfl⟩, hsrc, ?_⟩
    simp only [createPersistentEffect, if_pos hid, hcount, hsrc']
  · refine ⟨_, src, _, .inr ⟨hid, rfl, rfl⟩, hsrc, ?_⟩
    have hsame : { ensureSource d sourceId with internalIdCounter := d.internalIdCounter } =
        ensureSource d sourceId := by rw [← hcount]
    have hfound : (propagateErase (ensureSource d sourceId) sourceId eff.id).sources.lookup
        sourceId = some src := hsrc
    rw [hsame]
    simp only [createPersistentEffect, if_neg hid, hfound]

/-- The operations that play an effect. -/
def Op.Plays : Op → Prop
  | .play .. => True
  | _ => False

/-- An operation that plays an effect is a play. -/
lemma Op.Plays.eq_play {op : Op} (h : op.Plays) :
    ∃ sinkId sourceId virtId magnitude maybeEff first second,
      op = .play sinkId sourceId virtId magnitude maybeEff first second := by
  cases op with
  | play => exact ⟨_, _, _, _, _, _, _, rfl⟩
  | registerSource | registerSink | create | erase | upload | eraseRequest | stop => exact h.elim

/-- The operations that register a source of this name. -/
def Op.Registers (id : String) : Op → Prop
  | .registerSource id' _ _ => id' = id
  | .create id' _ => id' = id
  | _ => False

/-- A source after `ensureSource` was there, or has just been registered. -/
lemma lookup_ensureSource {d : Dispatcher} {sourceId id : String} {src : SourceCtx}
    (h : (ensureSource d sourceId).sources.lookup id = some src) :
    d.sources.lookup id = some src ∨ src.id = id ∧ sourceId = id := by
  unfold ensureSource at h
  split at h
  · exact .inl h
  · rw [registerSource, Table.lookup_insert] at h
    split_ifs at h with heq
    · rw [← Option.some.inj h]
      exact .inr ⟨heq.symm, heq.symm⟩
    · exact .inl h

/-- **What an operation does**, unless it plays an effect: nothing to the tables; or it adds a source
or a sink; or it changes one effect of a source, which may have been registered for this, and gives
up the slots of the effect. -/
inductive Does (d : Dispatcher) (op : Op) (d' : Dispatcher) : Prop
  | idle (sources : d'.sources = d.sources) (sinks : d'.sinks = d.sinks)
      (count : d'.oneshotCounter = d.oneshotCounter)
  | source (id : String) (src : SourceCtx) (named : src.id = id) (noEffects : src.effects = ∅)
      (registers : op.Registers id) (sources : d'.sources = d.sources.insert id src)
      (sinks : d'.sinks = d.sinks) (count : d'.oneshotCounter = d.oneshotCounter)
  | sink (id : String) (fd : ℤ) (nonneg : 0 ≤ fd) (sources : d'.sources = d.sources)
      (sinks : d'.sinks = d.sinks.insert id { id := id, fd := fd })
      (count : d'.oneshotCounter = d.oneshotCounter)
  | effect (d₀ : Dispatcher) (sourceId : String) (src : SourceCtx) (virtId : ℤ)
      (effects : Table ℤ FfEffect)
      (ensured : effectOf d₀ = effectOf d ∧ d₀.sinks = d.sinks ∧
        d₀.oneshotCounter = d.oneshotCounter)
      (registered : ∀ id s, d₀.sources.lookup id = some s →
        d.sources.lookup id = some s ∨ s.id = id ∧ op.Registers id)
      (found : d₀.sources.lookup sourceId = some src)
      (others : ∀ v, v ≠ virtId → effects.lookup v = src.effects.lookup v)
      (sources : d'.sources = (setEffects d₀ src effects sourceId).sources)
      (sinks : src.id = sourceId → d'.sinks = (propagateErase d₀ sourceId virtId).sinks)
      (count : d'.oneshotCounter = d.oneshotCounter)

/-- A change of an effect of a source that is there. -/
lemma Does.of_effect {d d' : Dispatcher} {op : Op} {sourceId : String} {src : SourceCtx}
    (found : d.sources.lookup sourceId = some src) (virtId : ℤ) {effects : Table ℤ FfEffect}
    (others : ∀ v, v ≠ virtId → effects.lookup v = src.effects.lookup v)
    (sources : d'.sources = (setEffects d src effects sourceId).sources)
    (sinks : src.id = sourceId → d'.sinks = (propagateErase d sourceId virtId).sinks)
    (count : d'.oneshotCounter = d.oneshotCounter) : Does d op d' :=
  .effect d sourceId src virtId effects ⟨rfl, rfl, rfl⟩ (fun _ _ h => .inl h) found others sources
    sinks count

/-- Every operation that plays no effect does one of these things. -/
lemma step_does {d : Dispatcher} {op : Op} (hop : ¬ op.Plays) : Does d op (step d op) := by
  have hsame : Does d op d := .idle rfl rfl rfl
  cases op with
  | registerSource id uinputFd callback => exact .source id _ rfl rfl rfl rfl rfl rfl
  | registerSink id evdevFd =>
    simp only [step, registerSink]
    split_ifs with hfd
    · exact hsame
    · exact .sink id evdevFd (Int.not_lt.mp hfd) rfl rfl rfl
  | create sourceId eff =>
    obtain ⟨heffects, hsinks, hcount, -⟩ := ensureSource_spec d sourceId
    obtain ⟨eff', src, n, -, hsrc, he⟩ := createPersistentEffect_spec d sourceId eff
    rw [step, he]
    refine .effect { ensureSource d sourceId with internalIdCounter := n } sourceId src eff'.id
      (src.effects.insert eff'.id eff') ⟨heffects, hsinks, hcount⟩ ?_ hsrc ?_ rfl (fun _ => rfl)
      hcount
    · intro id s hs
      exact lookup_ensureSource hs
    · intro v hv
      rw [Table.lookup_insert, if_neg hv]
  | erase sourceId virtId =>
    simp only [step, erasePersistentEffect]
    split
    · next src hsrc =>
      refine .of_effect hsrc virtId (fun v hv => ?_) rfl (fun _ => rfl) rfl
      rw [Table.lookup_erase, if_neg hv]
    · exact hsame
  | upload sourceId begin endOk =>
    simp only [step, handleUpload]
    split
    · next src hsrc =>
      split
      · exact hsame
      · next eff =>
        split_ifs
        · refine .of_effect hsrc eff.id (fun v hv => ?_) rfl (fun hid => ?_) rfl
          · rw [Table.lookup_insert, if_neg hv]
          · rw [hid]
            rfl
        · exact hsame
    · exact hsame
  | eraseRequest sourceId begin endOk =>
    simp only [step, handleErase]
    split
    · next src hsrc =>
      split
      · exact hsame
      · next virtId =>
        refine .of_effect hsrc virtId (fun v hv => ?_) rfl (fun hid => ?_) rfl
        · rw [Table.lookup_erase, if_neg hv]
        · rw [hid]
          rfl
    · exact hsame
  | play => exact absurd trivial hop
  | stop sinkId sourceId virtId =>
    simp only [step, stopEffect]
    split
    · exact hsame
    · split_ifs
      · exact hsame
      · split
        · exact hsame
        · exact .idle rfl rfl rfl

/-- Every operation that plays no effect maintains the sinks. -/
lemma maintains_step {d : Dispatcher}
    (hids : ∀ id src, d.sources.lookup id = some src → src.id = id) {op : Op}
    (hop : ¬ op.Plays) : Maintains d (step d op) := by
  cases step_does hop with
  | idle sources sinks count =>
    have heffects : effectOf (step d op) = effectOf d := by
      funext key
      rw [effectOf, effectOf, sources]
    exact .kept sinks (fun key => .inl (congrFun heffects key)) count
  | source id src named noEffects registers sources sinks count =>
    refine .kept sinks (fun key => ?_) count
    simp only [effectOf, sources, Table.lookup_insert]
    split_ifs
    · right
      rw [Option.bind_some, noEffects, AList.lookup_empty]
    · exact .inl rfl
  | sink id fd nonneg sources sinks count =>
    refine .plugged id fd nonneg sinks (fun key => ?_) count
    rw [effectOf, effectOf, sources]
  | effect d₀ sourceId src virtId effects ensured registered found others sources sinks count =>
    obtain ⟨heffects, hsinks, hcount⟩ := ensured
    have hid : src.id = sourceId := by
      obtain hold | ⟨hnew, -⟩ := registered sourceId src found
      · exact hids sourceId src hold
      · exact hnew
    have hset : Maintains d₀ (step d op) :=
      maintains_setEffect found virtId others sources (sinks hid) (count.trans hcount.symm)
    exact hset.congr_left heffects hsinks hcount

/-- A source after the effects of one have been replaced is one that was there. -/
lemma lookup_setEffects {d : Dispatcher} {src src' : SourceCtx} {effects : Table ℤ FfEffect}
    {sourceId id : String} (hsrc : d.sources.lookup sourceId = some src)
    (h : (setEffects d src effects sourceId).sources.lookup id = some src') :
    ∃ src₀, d.sources.lookup id = some src₀ ∧ src'.id = src₀.id := by
  rw [setEffects, Table.lookup_insert] at h
  split_ifs at h with he
  · rw [← Option.some.inj h]
    exact ⟨src, he ▸ hsrc, rfl⟩
  · exact ⟨src', h, rfl⟩

/-- Playing an effect leaves the sources as they are. -/
lemma playEffect_sources (d : Dispatcher) (sinkId sourceId : String) (virtId magnitude : ℤ)
    (maybeEff : Option FfEffect) (first second : Answer) :
    (playEffect d sinkId sourceId virtId magnitude maybeEff first second).1.sources =
      d.sources := by
  simp only [playEffect, playSlot]
  repeat' split
  all_goals rfl

/-- **What an operation does to the sources.** A source was there and keeps its id, or the operation
registers it. -/
lemma sources_step {d : Dispatcher} {op : Op} {id : String} {src' : SourceCtx}
    (h : (step d op).sources.lookup id = some src') :
    (∃ src, d.sources.lookup id = some src ∧ src'.id = src.id) ∨
      src'.id = id ∧ op.Registers id := by
  by_cases hop : op.Plays
  · obtain ⟨sinkId, sourceId, virtId, magnitude, maybeEff, first, second, rfl⟩ := hop.eq_play
    rw [step, playEffect_sources] at h
    exact .inl ⟨src', h, rfl⟩
  · cases step_does hop with
    | idle sources sinks count =>
      rw [sources] at h
      exact .inl ⟨src', h, rfl⟩
    | source id' src named noEffects registers sources sinks count =>
      rw [sources, Table.lookup_insert] at h
      split_ifs at h with he
      · rw [← Option.some.inj h]
        rw [he]
        exact .inr ⟨named, registers⟩
      · exact .inl ⟨src', h, rfl⟩
    | sink id' fd nonneg sources sinks count =>
      rw [sources] at h
      exact .inl ⟨src', h, rfl⟩
    | effect d₀ sourceId src virtId effects ensured registered found others sources sinks count =>
      rw [sources] at h
      obtain ⟨src₀, hsrc₀, hid⟩ := lookup_setEffects found h
      obtain hold | ⟨hnew, hreg⟩ := registered id src₀ hsrc₀
      · exact .inl ⟨src₀, hold, hid⟩
      · exact .inr ⟨hid.trans hnew, hreg⟩

/-- Sources are always stored under their ids. -/
lemma ids_step {d : Dispatcher} (hids : ∀ id src, d.sources.lookup id = some src → src.id = id)
    (op : Op) : ∀ id src, (step d op).sources.lookup id = some src → src.id = id := by
  intro id src' h
  obtain ⟨src, hsrc, he⟩ | ⟨he, -⟩ := sources_step h
  · exact he.trans (hids id src hsrc)
  · exact he

/-! ## The operations keep the invariant -/

/-- **An operation that maintains the sinks keeps the invariant.**

**Proof sketch.** A new sink has an empty cache. Where the slots of a key are given up, only the
effect of this key changes. -/
lemma Inv.maintains {d d' : Dispatcher} (h : Inv d) (hm : Maintains d d')
    (hids : ∀ id src, d'.sources.lookup id = some src → src.id = id)
    (honeshot : hapticsSourceOneshot ∉ d'.sources) : Inv d' := by
  cases hm with
  | kept sinks effects count =>
    refine ⟨hids, honeshot, ?_, fun id sink hs => ?_⟩
    · rw [sinks, count]
      exact h.counted
    · rw [sinks] at hs
      exact (h.exact id sink hs).mono effects
  | plugged id' fd nonneg sinks effects count =>
    refine ⟨hids, honeshot, fun id sink hs v hv => ?_, fun id sink hs => ?_⟩
    · rw [sinks, Table.lookup_insert] at hs
      rw [count]
      split_ifs at hs
      · rw [← Option.some.inj hs] at hv
        exact absurd hv (AList.notMem_empty _)
      · exact h.counted id sink hs v hv
    · rw [sinks, Table.lookup_insert] at hs
      split_ifs at hs
      · rw [← Option.some.inj hs]
        exact exact_empty
      · exact (h.exact id sink hs).mono fun key => .inl (effects key)
  | dropped key sinks effects count =>
    refine ⟨hids, honeshot, fun id sink hs v hv => ?_, fun id sink hs => ?_⟩
    · rw [sinks] at hs
      obtain ⟨sink, hs', rfl⟩ := Option.map_eq_some_iff.mp hs
      rw [count]
      exact h.counted id sink hs' v (AList.mem_erase.mp hv).2
    · rw [sinks] at hs
      obtain ⟨sink, hs', rfl⟩ := Option.map_eq_some_iff.mp hs
      exact (h.exact id sink hs').dropKey fun key' hne => .inl (effects key' hne)

/-- Storing a sink whose cache is exact keeps the invariant, also when the one-shot counter has
been advanced. -/
lemma Inv.insertSink {d d' : Dispatcher} (h : Inv d) {id : String} {sink : Sink}
    (hsources : d'.sources = d.sources) (hsinks : d'.sinks = d.sinks.insert id sink)
    (hcount : d.oneshotCounter ≤ d'.oneshotCounter)
    (hcounted : ∀ v, (hapticsSourceOneshot, v) ∈ sink.slots → ∃ n < d'.oneshotCounter, v = (n : ℤ))
    (hexact : Exact FfEffect.Same (effectOf d) sink.slots sink.device) : Inv d' := by
  have heffect : effectOf d' = effectOf d := by
    funext key
    simp only [effectOf, hsources]
  have hcase : ∀ id' sink', d'.sinks.lookup id' = some sink' →
      sink' = sink ∨ d.sinks.lookup id' = some sink' := by
    intro id' sink' hs
    rw [hsinks, Table.lookup_insert] at hs
    split_ifs at hs
    · exact .inl (Option.some.inj hs).symm
    · exact .inr hs
  refine ⟨hsources ▸ h.ids, hsources ▸ h.oneshot, fun id' sink' hs v hv => ?_,
    fun id' sink' hs => ?_⟩
  · rcases hcase id' sink' hs with rfl | hs'
    · exact hcounted v hv
    · obtain ⟨n, hn, rfl⟩ := h.counted id' sink' hs' v hv
      exact ⟨n, hn.trans_le hcount, rfl⟩
  · rw [heffect]
    rcases hcase id' sink' hs with rfl | hs'
    · exact hexact
    · exact h.exact id' sink' hs'

/-- The end of a play keeps the invariant. -/
lemma Inv.playSlot {d d₀ : Dispatcher} (h : Inv d₀) {sinkId : String} {sink : Sink}
    {realId magnitude : ℤ} (hsources : d.sources = d₀.sources) (hsinks : d.sinks = d₀.sinks)
    (hcount : d₀.oneshotCounter ≤ d.oneshotCounter)
    (hcounted : ∀ v, (hapticsSourceOneshot, v) ∈ sink.slots → ∃ n < d.oneshotCounter, v = (n : ℤ))
    (hexact : Exact FfEffect.Same (effectOf d₀) sink.slots sink.device) :
    Inv (playSlot d sinkId sink realId magnitude).1 :=
  h.insertSink hsources (by rw [← hsinks]; rfl) hcount hcounted hexact

/-- The result of a persistent play: the invariant holds, and a copy of the effect is played. -/
structure Played (d : Dispatcher) (sinkId : String) (key : Key) (p : Dispatcher × ℤ) : Prop where
  inv : Inv p.1
  copy : PlaysCopy d sinkId key p

/-- **A persistent play** keeps the invariant; if the source has the effect and the play succeeds,
the real id it plays is that of a copy of the effect.

**Proof sketch.** A slot for the key holds the effect of the source. Without one the effect is
uploaded and the slot entered. -/
lemma Inv.playPersistent {d : Dispatcher} (h : Inv d) (sinkId sourceId : String)
    (virtId magnitude : ℤ) (first second : Answer) :
    Played d sinkId (sourceId, virtId)
      (playEffect d sinkId sourceId virtId magnitude none first second) := by
  have hminus : ¬ (0 : ℤ) ≤ -1 := by decide
  unfold playEffect
  rcases hsink : d.sinks.lookup sinkId with _ | sink
  · exact ⟨h, fun _ _ hr => absurd hr hminus⟩
  have hexact := h.exact sinkId sink hsink
  dsimp only
  split_ifs with hfd
  · exact ⟨h, fun _ _ hr => absurd hr hminus⟩
  rcases hslot : sink.slots.lookup (sourceId, virtId) with _ | realId
  · have hkey : (sourceId, virtId) ∉ sink.slots := AList.lookup_eq_none.mp hslot
    rcases hsrc : d.sources.lookup sourceId with _ | src
    · exact ⟨h, fun _ _ hr => absurd hr hminus⟩
    dsimp only
    rcases heff : src.effects.lookup virtId with _ | eff
    · exact ⟨h, fun _ _ hr => absurd hr hminus⟩
    have hcontent : effectOf d (sourceId, virtId) = some eff := by
      simp only [effectOf, hsrc, Option.bind_some, heff]
    obtain ⟨-, hslots, hfail, hok⟩ := uploadEffect_spec eff first second hexact hkey
      fun c hc => Option.some.inj (hcontent.symm.trans hc)
    have hcounted : ∀ v, (hapticsSourceOneshot, v) ∈ (uploadEffect sink eff first second).1.slots →
        ∃ n < d.oneshotCounter, v = (n : ℤ) := fun v hv =>
      h.counted sinkId sink hsink v (hslots _ hv)
    dsimp only
    split_ifs with hneg
    · exact ⟨h.insertSink rfl rfl le_rfl hcounted (hfail hneg), fun _ _ hr => absurd hr hminus⟩
    · obtain ⟨hexact', e, he, hs⟩ := hok (Int.not_lt.mp hneg)
      refine ⟨h.playSlot rfl rfl le_rfl (fun v hv => ?_) hexact', fun eff' heff' _ => ?_⟩
      · rcases (AList.mem_insert _).mp hv with hv | hv
        · obtain rfl : hapticsSourceOneshot = sourceId := (Prod.mk.inj hv).1
          exact absurd (Table.mem_of_lookup hsrc) h.oneshot
        · exact hcounted v hv
      · obtain rfl := Option.some.inj (hcontent.symm.trans heff')
        exact ⟨_, e, AList.lookup_insert _, he, hs⟩
  · refine ⟨h.playSlot rfl rfl le_rfl (h.counted sinkId sink hsink) hexact, fun eff heff _ => ?_⟩
    obtain ⟨e, he, hs⟩ := hexact.fresh _ _ _ hslot heff
    exact ⟨sink, e, AList.lookup_insert _, he, hs⟩

/-- An `int` that has not wrapped is itself. -/
lemma toInt32_of_lt {n : ℕ} (h : n < 2 ^ 31) : toInt32 n = n := by
  unfold toInt32
  exact Int.bmod_eq_of_le (by omega) (by omega)

/-- **A one-shot play** keeps the invariant, as long as its counter has not wrapped.

**Proof sketch.** The counter makes the key new, and the one-shot pseudo source has no effects. -/
lemma Inv.playOneshot {d : Dispatcher} (h : Inv d) (sinkId sourceId : String)
    (virtId magnitude : ℤ) (eff : FfEffect) (first second : Answer)
    (hlt : d.oneshotCounter < 2 ^ 31) :
    Inv (playEffect d sinkId sourceId virtId magnitude (some eff) first second).1 := by
  unfold playEffect
  rcases hsink : d.sinks.lookup sinkId with _ | sink
  · exact h
  have hexact := h.exact sinkId sink hsink
  dsimp only
  split_ifs with hfd hneg
  · exact h
  all_goals
    have hcontent : effectOf d (hapticsSourceOneshot, toInt32 d.oneshotCounter) = none := by
      simp only [effectOf, AList.lookup_eq_none.mpr h.oneshot, Option.bind_none]
    have hkey : (hapticsSourceOneshot, toInt32 d.oneshotCounter) ∉ sink.slots := by
      intro hmem
      obtain ⟨n, hn, he⟩ := h.counted sinkId sink hsink _ hmem
      rw [toInt32_of_lt hlt] at he
      omega
    obtain ⟨-, hslots, hfail, hok⟩ := uploadEffect_spec eff first second hexact hkey
      fun c hc => absurd (hcontent.symm.trans hc) (by simp)
    have hcounted : ∀ v, (hapticsSourceOneshot, v) ∈ (uploadEffect sink eff first second).1.slots →
        ∃ n < d.oneshotCounter + 1, v = (n : ℤ) := fun v hv => by
      obtain ⟨n, hn, he⟩ := h.counted sinkId sink hsink v (hslots _ hv)
      exact ⟨n, by omega, he⟩
  · exact h.insertSink rfl rfl (Nat.le_succ _) hcounted (hfail hneg)
  · refine h.playSlot rfl rfl (Nat.le_succ _) (fun v hv => ?_) (hok (Int.not_lt.mp hneg)).1
    rcases (AList.mem_insert _).mp hv with hv | hv
    · refine ⟨d.oneshotCounter, Nat.lt_succ_self _, ?_⟩
      rw [(Prod.mk.inj hv).2, toInt32_of_lt hlt]
    · exact hcounted v hv

/-! ## Runs -/

/-- The one-shot counter never goes back. -/
lemma oneshotCounter_le_step (d : Dispatcher) (op : Op) :
    d.oneshotCounter ≤ (step d op).oneshotCounter := by
  by_cases hop : op.Plays
  · obtain ⟨sinkId, sourceId, virtId, magnitude, maybeEff, first, second, rfl⟩ := hop.eq_play
    simp only [step, playEffect, playSlot]
    repeat' split
    all_goals first | exact le_rfl | exact Nat.le_succ _
  · cases step_does hop with
    | idle sources sinks count => exact count.ge
    | source id src named noEffects registers sources sinks count => exact count.ge
    | sink id fd nonneg sources sinks count => exact count.ge
    | effect d₀ sourceId src virtId effects ensured registered found others sources sinks count =>
      exact count.ge

/-- **Every legal operation keeps the invariant**, as long as the one-shot counter has not
wrapped. -/
lemma Inv.step {d : Dispatcher} (h : Inv d) {op : Op} (hop : op.Legal)
    (hlt : d.oneshotCounter < 2 ^ 31) : Inv (step d op) := by
  have honeshot : hapticsSourceOneshot ∉ (Haptics.step d op).sources := fun hmem => by
    obtain ⟨src', hsrc'⟩ := Table.mem_iff_lookup.mp hmem
    obtain ⟨src, hsrc, -⟩ | ⟨-, hreg⟩ := sources_step hsrc'
    · exact h.oneshot (Table.mem_of_lookup hsrc)
    · cases op <;> first | exact hop hreg | exact hreg
  by_cases hplay : op.Plays
  · obtain ⟨sinkId, sourceId, virtId, magnitude, maybeEff, first, second, rfl⟩ := hplay.eq_play
    cases maybeEff with
    | none => exact (h.playPersistent sinkId sourceId virtId magnitude first second).inv
    | some eff => exact h.playOneshot sinkId sourceId virtId magnitude eff first second hlt
  · exact h.maintains (maintains_step h.ids hplay) (ids_step h.ids _) honeshot

/-- A dispatcher without sources and sinks satisfies the invariant. -/
lemma inv_empty : Inv {} :=
  ⟨by simp, AList.notMem_empty _, by simp, by simp⟩

/-- **The haptics cache is exact and fresh.** In every state of a run without a source named like
the one-shot pseudo source, until the one-shot counter wraps, the slots of every sink are exactly
the ids that reside on its device, they hold the effects of the sources as they are now, and a
persistent play of an existing effect plays a copy of it.

**Proof sketch.** Every operation keeps `Inv`: a change of an effect gives up its slots, an upload
enters one, and one-shot keys are new. The counter only grows, so it has not wrapped before. -/
theorem cacheExact_of_legal (ops : List Op) (hlegal : ∀ op ∈ ops, op.Legal) :
    Run.Always step (fun d => d.oneshotCounter < 2 ^ 31 → CacheExact d) {} ops := by
  have hinv : Run.Always step (fun d => d.oneshotCounter < 2 ^ 31 → Inv d) {} ops := by
    refine Run.always_of_step (C := fun _ op => op.Legal) (fun d op hd hop hlt => ?_)
      (fun _ => inv_empty) (Run.eachStep_of_forall hlegal _)
    have hlt' := lt_of_le_of_lt (oneshotCounter_le_step d op) hlt
    exact (hd hlt').step hop hlt'
  refine hinv.mono fun d hd hlt => ⟨(hd hlt).exact, ?_⟩
  intro sinkId sourceId virtId magnitude first second
  exact ((hd hlt).playPersistent sinkId sourceId virtId magnitude first second).copy

/-- A sink is plugged in, a rumble effect is created and played after an eviction. -/
theorem cacheExact_of_legal_rumble :
    Run.Always step (fun d => d.oneshotCounter < 2 ^ 31 → CacheExact d) {}
      [.registerSink "pad" 7, .create "custom" { id := -1, body := .rumble 1 2 },
        .play "pad" "custom" 0 1 none (.failed .enospc) (.stored 0)] :=
  cacheExact_of_legal _ (by simp [Op.Legal, hapticsSourceOneshot])

end Aelkey.Haptics
