import Aelkey.Lib.IntArg
import Aelkey.Lib.Run
import Aelkey.Sequence.Matcher

set_option relaxedAutoImplicit false
set_option autoImplicit false

/-!
# The session protocol of the sequence matcher

A session begins with a press that begins a pattern and ends when the instance becomes inactive. The
four ways to end it share `reset`, which calls the timeout callback itself in stream mode; the
heartbeat handler calls the callback first and takes it away before `reset` can see it. The
heartbeat is armed by a call of `aelkey.tick`, which takes an `int`: a positive interval that is
read as zero arms nothing.

## Main definitions

* `Aelkey.Sequence.Protocol.Session` — the callbacks of a session, those it has called, and the
  heartbeats since its last press.
* `Aelkey.Sequence.Protocol.Tracked` — an instance, whether its heartbeat is armed, the current
  session, the ended ones, and the callbacks called outside of a session.
* `Aelkey.Sequence.Protocol.Complete` — what an ended session has called, by the way it has ended.
* `Aelkey.Sequence.Protocol.Proper` — all sessions follow the protocol.

## Main results

* `Aelkey.Sequence.Protocol.proper_of_positive` — in every run of a configuration with a positive
  window and an interval that `aelkey.tick` reads as positive, all sessions follow the protocol.
* `Aelkey.Sequence.Protocol.not_proper_quarter` — an interval of a quarter of a millisecond.
-/

namespace Aelkey.Sequence.Protocol

variable {β γ : Type*}

/-! ## Sessions -/

/-- The callbacks that a press supplies. -/
structure Callbacks (γ : Type*) where
  matchFn : γ
  timeoutFn : γ
  startFn : γ

/-- A session: the callbacks of the press that has started it, the callbacks called since then, in
order, and the number of heartbeats since its last press. -/
structure Session (γ : Type*) where
  fns : Callbacks γ
  calls : List (Call γ)
  beats : ℕ

/-- The operations of a run. -/
inductive Op (β γ : Type*)
  | detect (button : β) (fns : Callbacks γ)
  | heartbeat
  | reset

/-- The operation during which a session has ended. -/
inductive Ending
  | detect
  | heartbeat
  | reset

/-- The operation, without its arguments. -/
def Op.ending : Op β γ → Ending
  | .detect _ _ => .detect
  | .heartbeat => .heartbeat
  | .reset => .reset

/-- A call of a callback, not of `aelkey.tick`. -/
def isCallback : Call γ → Bool
  | .matchFn _ | .timeoutFn _ | .startFn _ => true
  | .tick _ => false

/-- Whether the heartbeat is armed after a call: `core_tick` ends its timer and sets a new one for a
positive time. -/
def arms (conv : IntArg) (armed : Bool) : Call γ → Bool
  | .tick interval => decide (0 < conv.toInt interval)
  | _ => armed

/-- An instance, whether its heartbeat is armed, the current session, the sessions that have ended,
and the callbacks that were called while there was no session. -/
structure Tracked (β γ : Type*) where
  seq : Seq β γ
  armed : Bool
  current : Option (Session γ)
  ended : List (Ending × Session γ)
  stray : List (Call γ)

/-- The session after it has called `calls`. -/
def Session.extend (s : Session γ) (calls : List (Call γ)) : Session γ :=
  { s with calls := s.calls ++ calls.filter isCallback }

section Run

variable [DecidableEq β]

/-- The effect of an operation on the instance, and the calls it makes. -/
def Op.run (self : Seq β γ) : Op β γ → Seq β γ × List (Call γ)
  | .detect button fns =>
    Sequence.detect self button (some fns.matchFn) (some fns.timeoutFn) (some fns.startFn)
  | .heartbeat => handler self
  | .reset => Sequence.reset self

/-- The session an operation belongs to: the current one, or, if there is none, the one that a press
starts because it begins a pattern. -/
def Op.session (patterns : List (List β)) (current : Option (Session γ)) :
    Op β γ → Option (Session γ)
  | .detect button fns =>
    match current with
    | some s => some { s with beats := 0 }
    | none => if ∃ pat ∈ patterns, pat[0]? = some button then some ⟨fns, [], 0⟩ else none
  | .heartbeat => current.map fun s => { s with beats := s.beats + 1 }
  | .reset => current

/-- One operation: its calls belong to its session, which ends if the instance is left inactive. -/
def step (conv : IntArg) (m : Tracked β γ) (op : Op β γ) : Tracked β γ :=
  let r := op.run m.seq
  let armed := r.2.foldl (arms conv) m.armed
  match op.session m.seq.patterns m.current with
  | none => ⟨r.1, armed, none, m.ended, m.stray ++ r.2.filter isCallback⟩
  | some s =>
    if r.1.active then ⟨r.1, armed, some (s.extend r.2), m.ended, m.stray⟩
    else ⟨r.1, armed, none, m.ended ++ [(op.ending, s.extend r.2)], m.stray⟩

/-- A new instance. -/
def start (opts : Opts) (patterns : List (List β)) : Tracked β γ :=
  ⟨new opts patterns, false, none, [], []⟩

end Run

/-! ## The protocol -/

/-- The session has called the start callback, once and first, and then only the match callback; in
a session that a match ends it has not called that either. -/
def Opened (stream : Bool) (s : Session γ) : Prop :=
  ∃ k, s.calls = .startFn s.fns.startFn :: List.replicate k (.matchFn s.fns.matchFn) ∧
    (stream = false → k = 0)

/-- The session has been open and has then called the timeout callback, once and last. -/
def TimedOut (stream : Bool) (s : Session γ) : Prop :=
  ∃ k, s.calls = .startFn s.fns.startFn :: List.replicate k (.matchFn s.fns.matchFn) ++
    [.timeoutFn s.fns.timeoutFn] ∧ (stream = false → k = 0)

/-- What an ended session has called: a press ends it by a match, not in stream mode; a heartbeat
ends it with the timeout callback, when it is number `threshold + 1` since the last press; `reset`
ends it with the timeout callback in stream mode, and silently otherwise. -/
def Complete (stream : Bool) (threshold : ℤ) : Ending × Session γ → Prop
  | (.detect, s) =>
    stream = false ∧ s.calls = [.startFn s.fns.startFn, .matchFn s.fns.matchFn]
  | (.heartbeat, s) => TimedOut stream s ∧ (s.beats : ℤ) = threshold + 1
  | (.reset, s) => if stream then TimedOut stream s else s.calls = [.startFn s.fns.startFn]

/-- **The session protocol.** The heartbeat is armed exactly while a session is active; no callback
is called while there is no session; the current session is open; and every ended session is
complete. -/
structure Proper (m : Tracked β γ) : Prop where
  armed_iff : m.armed = true ↔ m.seq.active = true
  current_iff : m.current.isSome ↔ m.seq.active = true
  stray_eq : m.stray = []
  opened : ∀ s ∈ m.current, Opened m.seq.stream s
  complete : ∀ e ∈ m.ended, Complete m.seq.stream m.seq.threshold e

/-- What holds of an active instance and its session: the stored callbacks are those of the session,
the tick count is the number of heartbeats, and the session is open and not overdue. There are
patterns. -/
structure Live (seq : Seq β γ) (s : Session γ) : Prop where
  active : seq.active = true
  matchFn : seq.matchFn = some s.fns.matchFn
  timeoutFn : seq.timeoutFn = some s.fns.timeoutFn
  opened : Opened seq.stream s
  nonempty : seq.patterns ≠ []
  beats : seq.tickCount = s.beats
  inTime : (seq.tickCount : ℤ) ≤ seq.threshold

/-! ## What no operation changes -/

/-- The configuration and the number of patterns are the same. -/
structure SameConfig (a b : Seq β γ) : Prop where
  patterns : b.patterns = a.patterns
  stream : b.stream = a.stream
  threshold : b.threshold = a.threshold
  intervalMs : b.intervalMs = a.intervalMs
  length : b.progress.length = a.progress.length

/-- Configurations stay the same over two operations. -/
lemma SameConfig.trans {a b c : Seq β γ} (h : SameConfig a b) (h' : SameConfig b c) :
    SameConfig a c :=
  ⟨h'.patterns.trans h.patterns, h'.stream.trans h.stream, h'.threshold.trans h.threshold,
    h'.intervalMs.trans h.intervalMs, h'.length.trans h.length⟩

/-- `reset` keeps the configuration. -/
lemma sameConfig_reset (self : Seq β γ) : SameConfig self (reset self).1 :=
  ⟨rfl, rfl, rfl, rfl, by simp [reset, clearProgress]⟩

/-- A match keeps the configuration. -/
lemma sameConfig_matchEnd (self : Seq β γ) (f : γ) : SameConfig self (matchEnd self f).1 := by
  have hclear : SameConfig self (clearProgress self) :=
    ⟨rfl, rfl, rfl, rfl, by simp [clearProgress]⟩
  rw [matchEnd]
  dsimp only
  split_ifs
  · exact hclear
  · exact hclear.trans (sameConfig_reset _)

/-- The heartbeat keeps the configuration. -/
lemma sameConfig_handler (self : Seq β γ) : SameConfig self (handler self).1 := by
  rw [handler]
  dsimp only
  split_ifs
  · exact SameConfig.trans ⟨rfl, rfl, rfl, rfl, rfl⟩ (sameConfig_reset _)
  · exact ⟨rfl, rfl, rfl, rfl, rfl⟩

/-- The second half of `detect` leaves new progress, or that and a match. -/
lemma detectAdvance_cases [DecidableEq β] (self : Seq β γ) {f : γ} (hf : self.matchFn = some f)
    (b : β) : ∃ progress, progress.length = self.progress.length ∧
      (detectAdvance self b = ({ self with progress := progress }, []) ∨
        detectAdvance self b = matchEnd { self with progress := progress } f) := by
  refine ⟨(advanceLoop b self.patterns self.progress).progress, length_advanceLoop _ _ _, ?_⟩
  cases hc : (advanceLoop b self.patterns self.progress).completed with
  | false => exact .inl (by simp only [detectAdvance, hc, hf])
  | true => exact .inr (by simp only [detectAdvance, hc, hf])

/-! ## What one operation does to its session -/

/-- What an operation does to its session `s`, if the heartbeat is `armed` before it: the session
goes on and the heartbeat is armed, or the session is complete and the heartbeat is not armed. -/
def Outcome (conv : IntArg) (armed : Bool) (e : Ending) (s : Session γ)
    (r : Seq β γ × List (Call γ)) : Prop :=
  (Live r.1 (s.extend r.2) ∧ r.2.foldl (arms conv) armed = true) ∨
    (r.1.active = false ∧ Complete r.1.stream r.1.threshold (e, s.extend r.2) ∧
      r.2.foldl (arms conv) armed = false)

variable {conv : IntArg}

/-- Calls that come before an operation extend its session. -/
lemma Outcome.after {armed : Bool} {e : Ending} {s : Session γ} {r : Seq β γ × List (Call γ)}
    {calls : List (Call γ)} (h : Outcome conv true e (s.extend calls) r)
    (harmed : calls.foldl (arms conv) armed = true) :
    Outcome conv armed e s (r.1, calls ++ r.2) := by
  have hextend : (s.extend calls).extend r.2 = s.extend (calls ++ r.2) := by
    simp [Session.extend]
  rw [Outcome, hextend] at h
  rw [Outcome, List.foldl_append, harmed]
  exact h

/-- **A match** completes the session, or is recorded in stream mode. -/
lemma outcome_matchEnd {self : Seq β γ} {s : Session γ} (h : Live self s) :
    Outcome conv true .detect s (matchEnd self s.fns.matchFn) := by
  obtain ⟨k, hk, hzero⟩ := h.opened
  cases hs : self.stream with
  | true =>
    have he : matchEnd self s.fns.matchFn =
        (clearProgress self, [.matchFn s.fns.matchFn]) := by
      simp [matchEnd, clearProgress, hs]
    rw [he]
    refine .inl ⟨{ h with opened := ⟨k + 1, ?_, fun hf => ?_⟩ }, rfl⟩
    · simp [Session.extend, isCallback, hk, List.replicate_succ']
    · simp [clearProgress, hs] at hf
  | false =>
    have he : matchEnd self s.fns.matchFn =
        ((reset (clearProgress self)).1, [.matchFn s.fns.matchFn, .tick 0]) := by
      simp [matchEnd, clearProgress, reset, hs]
    rw [he]
    refine .inr ⟨rfl, ⟨hs, ?_⟩, by simp [arms]⟩
    simp [Session.extend, List.filter, isCallback, hk, hzero hs]

/-- **A press in a session** lets it go on, or is a match. -/
lemma outcome_detectAdvance [DecidableEq β] {self : Seq β γ} {s : Session γ} (h : Live self s)
    (b : β) : Outcome conv true .detect s (detectAdvance self b) := by
  obtain ⟨progress, -, hr | hr⟩ := detectAdvance_cases self h.matchFn b
  · rw [hr]
    refine .inl ⟨{ h with opened := ?_ }, rfl⟩
    simpa [Session.extend] using h.opened
  · rw [hr]
    exact outcome_matchEnd { h with }

/-- **`reset` in a session** completes it, with the timeout callback in stream mode. -/
lemma outcome_reset {self : Seq β γ} {s : Session γ} (h : Live self s) :
    Outcome conv true .reset s (reset self) := by
  obtain ⟨k, hk, hzero⟩ := h.opened
  cases hs : self.stream with
  | true =>
    refine .inr ⟨rfl, ?_, by simp [reset, hs, h.active, h.timeoutFn, arms]⟩
    have hstream : (reset self).1.stream = true := hs
    rw [Complete, if_pos hstream]
    refine ⟨k, ?_, fun hf => ?_⟩
    · simp [Session.extend, reset, hs, h.active, h.timeoutFn, isCallback, hk]
    · exact absurd (hs.symm.trans hf) (by decide)
  | false =>
    refine .inr ⟨rfl, ?_, by simp [reset, hs, arms]⟩
    have hstream : (reset self).1.stream ≠ true := by simp [reset, clearProgress, hs]
    rw [Complete, if_neg hstream]
    simp [Session.extend, reset, hs, isCallback, hk, hzero hs]

/-- **A heartbeat in a session** lets it go on, or is number `threshold + 1` and completes it with
the timeout callback. -/
lemma outcome_handler {self : Seq β γ} {s : Session γ} (h : Live self s) :
    Outcome conv true .heartbeat { s with beats := s.beats + 1 } (handler self) := by
  obtain ⟨k, hk, hzero⟩ := h.opened
  have hin := h.inTime
  by_cases hlate : self.threshold < (self.tickCount + 1 : ℕ)
  · have hr : handler self =
        ((reset { self with tickCount := self.tickCount + 1, timeoutFn := none }).1,
          [.timeoutFn s.fns.timeoutFn, .tick 0]) := by
      rw [handler]
      dsimp only
      rw [if_pos ⟨h.active, hlate⟩]
      simp [reset, h.timeoutFn]
    rw [hr]
    refine .inr ⟨rfl, ⟨⟨k, ?_, hzero⟩, ?_⟩, by simp [arms]⟩
    · simp [Session.extend, List.filter, isCallback, hk]
    · have hbeats := h.beats
      show ((s.beats + 1 : ℕ) : ℤ) = self.threshold + 1
      omega
  · have hr : handler self = ({ self with tickCount := self.tickCount + 1 }, []) := by
      rw [handler]
      dsimp only
      rw [if_neg fun hc => hlate hc.2]
    rw [hr]
    refine .inl ⟨{ h with opened := ⟨k, ?_, hzero⟩, beats := ?_, inTime := ?_ }, rfl⟩
    · simp [Session.extend, hk]
    · simp [Session.extend, h.beats]
    · exact not_lt.mp hlate

section Detect

variable [DecidableEq β] {self : Seq β γ}

/-- A press in a session puts its heartbeats back to zero. -/
lemma outcome_detect {s : Session γ} (h : Live self s) (ht : 0 ≤ self.threshold) (b : β)
    (fns : Callbacks γ) :
    Outcome conv true .detect { s with beats := 0 } (Op.run self (.detect b fns)) := by
  have hpos : self.patterns.length ≠ 0 := fun he => h.nonempty (List.length_eq_zero_iff.mp he)
  rw [Op.run, detect, if_neg hpos, if_neg (by simp [h.active])]
  have hlive : Live { self with tickCount := 0 } { s with beats := 0 } :=
    { h with beats := rfl, inTime := ht }
  exact outcome_detectAdvance hlive b

/-- The first loop of `detect` looks for a pattern that begins with the press. -/
lemma startLoop_startsAny (hlen : self.progress.length = self.patterns.length) (b : β) :
    (startLoop b self.patterns self.progress).startsAny = true ↔
      ∃ pat ∈ self.patterns, pat[0]? = some b := by
  by_cases h : [b] ∈ self.patterns
  · exact iff_of_true (startLoop_of_mem hlen h).1 ⟨[b], h, rfl⟩
  · rw [startLoop_of_not_mem hlen h]
    simp

/-- A press that begins no pattern does nothing outside of a session. -/
lemma detect_of_not_starts (ha : self.active = false)
    (hlen : self.progress.length = self.patterns.length) {b : β}
    (hb : ¬ ∃ pat ∈ self.patterns, pat[0]? = some b) (fns : Callbacks γ) :
    (Op.run self (.detect b fns)).1.active = false ∧ (Op.run self (.detect b fns)).2 = [] := by
  have hstarts := mt (startLoop_startsAny hlen b).mp hb
  rw [Op.run, detect]
  split_ifs with hpos hact
  · exact ⟨ha, rfl⟩
  · dsimp only
    rw [if_pos (by simpa using hstarts)]
    exact ⟨ha, rfl⟩
  · simp [ha] at hact

/-- **A press that begins a pattern** starts a session outside of one: it calls the start callback
and arms the heartbeat, and then it is a match or is fed to the patterns. -/
lemma outcome_detect_start (ha : self.active = false) (ht : 0 ≤ self.threshold)
    (hi : 0 < conv.toInt self.intervalMs) (hlen : self.progress.length = self.patterns.length)
    {b : β} (hb : ∃ pat ∈ self.patterns, pat[0]? = some b) (fns : Callbacks γ) (armed : Bool) :
    Outcome conv armed .detect ⟨fns, [], 0⟩ (Op.run self (.detect b fns)) := by
  have hstarts := (startLoop_startsAny hlen b).mpr hb
  obtain ⟨pat, hpat, -⟩ := hb
  have hpos : self.patterns.length ≠ 0 := by
    have := List.length_pos_of_mem hpat
    omega
  have hlive : Live (started self (startLoop b self.patterns self.progress).progress fns.matchFn
      (some fns.timeoutFn) (some fns.startFn)) (Session.extend ⟨fns, [], 0⟩
      [.startFn fns.startFn, .tick self.intervalMs]) :=
    ⟨rfl, rfl, rfl, ⟨0, rfl, fun _ => rfl⟩,
      List.ne_nil_of_mem hpat, rfl, ht⟩
  have harmed :
      [Call.startFn fns.startFn, .tick self.intervalMs].foldl (arms conv) armed = true := by
    simp [arms, hi]
  rw [Op.run, detect, if_neg hpos, if_pos (by simp [ha])]
  dsimp only
  rw [if_neg (by simp [hstarts])]
  cases hc : (startLoop b self.patterns self.progress).completed with
  | true => exact (outcome_matchEnd hlive).after harmed
  | false => exact (outcome_detectAdvance hlive b).after harmed

omit [DecidableEq β] in
/-- Starting a session keeps the configuration. -/
lemma sameConfig_started (self : Seq β γ) {progress : List ℕ}
    (h : progress.length = self.progress.length) (f : γ)
    (timeoutFn startFn : Option γ) :
    SameConfig self (started self progress f timeoutFn startFn) :=
  ⟨rfl, rfl, rfl, rfl, h⟩

/-- `detect` keeps the configuration, if it finds a match callback. -/
lemma sameConfig_detectAdvance (self : Seq β γ) {f : γ} (hf : self.matchFn = some f) (b : β) :
    SameConfig self (detectAdvance self b).1 := by
  obtain ⟨progress, hlen, hr | hr⟩ := detectAdvance_cases self hf b
  · rw [hr]
    exact ⟨rfl, rfl, rfl, rfl, hlen⟩
  · rw [hr]
    exact SameConfig.trans (b := { self with progress := progress }) ⟨rfl, rfl, rfl, rfl, hlen⟩
      (sameConfig_matchEnd _ f)

/-- **No operation changes the configuration.** -/
lemma sameConfig_run (h : self.active = true → self.matchFn.isSome) (op : Op β γ) :
    SameConfig self (op.run self).1 := by
  cases op with
  | heartbeat => exact sameConfig_handler self
  | reset => exact sameConfig_reset self
  | detect b fns =>
    rw [Op.run, detect]
    dsimp only
    split_ifs with hpos hact hstarts
    · exact ⟨rfl, rfl, rfl, rfl, rfl⟩
    · exact ⟨rfl, rfl, rfl, rfl, length_startLoop _ _ _⟩
    · have hbegun := sameConfig_started self (length_startLoop b self.patterns self.progress)
        fns.matchFn (some fns.timeoutFn) (some fns.startFn)
      cases (startLoop b self.patterns self.progress).completed with
      | true => exact hbegun.trans (sameConfig_matchEnd _ _)
      | false => exact hbegun.trans (sameConfig_detectAdvance _ rfl b)
    · obtain ⟨f, hf⟩ := Option.isSome_iff_exists.mp (h (by simpa using hact))
      have hadvance := sameConfig_detectAdvance { self with tickCount := 0 } hf b
      exact SameConfig.trans (b := { self with tickCount := 0 }) ⟨rfl, rfl, rfl, rfl, rfl⟩
        hadvance

end Detect

/-! ## Whole runs -/

/-- What holds between operations: the current session is live, the configuration is positive, and
every pattern has its progress. -/
structure Keeps (conv : IntArg) (m : Tracked β γ) : Prop where
  live : ∀ s ∈ m.current, Live m.seq s
  threshold : 0 ≤ m.seq.threshold
  armable : 0 < conv.toInt m.seq.intervalMs
  length : m.seq.progress.length = m.seq.patterns.length

variable [DecidableEq β]

/-- What an operation does to the tracked instance, by the outcome for its session. -/
lemma proper_of_outcome {m : Tracked β γ} {op : Op β γ} {s : Session γ} (h : Proper m)
    (hconf : SameConfig m.seq (op.run m.seq).1) (hs : op.session m.seq.patterns m.current = some s)
    (ho : Outcome conv m.armed op.ending s (op.run m.seq)) :
    Proper (step conv m op) ∧ ∀ s' ∈ (step conv m op).current, Live (step conv m op).seq s' := by
  have hcomplete : ∀ e ∈ m.ended,
      Complete (op.run m.seq).1.stream (op.run m.seq).1.threshold e := by
    rw [hconf.stream, hconf.threshold]
    exact h.complete
  rcases ho with ⟨hlive, harmed⟩ | ⟨hact, hdone, harmed⟩
  · have hstep : step conv m op = ⟨(op.run m.seq).1, (op.run m.seq).2.foldl (arms conv) m.armed,
        some (s.extend (op.run m.seq).2), m.ended, m.stray⟩ := by
      simp only [step, hs, hlive.active, ↓reduceIte]
    rw [hstep]
    refine ⟨⟨?_, ?_, h.stray_eq, ?_, hcomplete⟩, ?_⟩
    · exact iff_of_true harmed hlive.active
    · exact iff_of_true rfl hlive.active
    · rintro _ ⟨⟩
      exact hlive.opened
    · rintro _ ⟨⟩
      exact hlive
  · have hstep : step conv m op = ⟨(op.run m.seq).1, (op.run m.seq).2.foldl (arms conv) m.armed,
        none, m.ended ++ [(op.ending, s.extend (op.run m.seq).2)], m.stray⟩ := by
      simp only [step, hs, hact, Bool.false_eq_true, ↓reduceIte]
    rw [hstep]
    refine ⟨⟨?_, ?_, h.stray_eq, by simp, ?_⟩, by simp⟩
    · simp [harmed, hact]
    · simp [hact]
    · intro e he
      rcases List.mem_append.mp he with he | he
      · exact hcomplete e he
      · obtain rfl := List.mem_singleton.mp he
        exact hdone

/-- An operation outside of a session that starts none leaves it so. -/
lemma proper_of_none {m : Tracked β γ} {op : Op β γ} (h : Proper m)
    (hconf : SameConfig m.seq (op.run m.seq).1) (hs : op.session m.seq.patterns m.current = none)
    (hact : (op.run m.seq).1.active = false)
    (hcalls : ∀ c ∈ (op.run m.seq).2, c = .tick 0) (ha : m.armed = false) :
    Proper (step conv m op) ∧ ∀ s' ∈ (step conv m op).current, Live (step conv m op).seq s' := by
  have harmed : (op.run m.seq).2.foldl (arms conv) m.armed = false := by
    rw [ha]
    revert hcalls
    generalize (op.run m.seq).2 = calls
    intro hcalls
    induction calls with
    | nil => rfl
    | cons c calls ih =>
      obtain ⟨rfl, hrest⟩ := List.forall_mem_cons.mp hcalls
      simpa [arms] using ih hrest
  have hfilter : (op.run m.seq).2.filter isCallback = [] := by
    refine List.filter_eq_nil_iff.mpr fun c hc => ?_
    rw [hcalls c hc]
    exact Bool.false_ne_true
  have hstep : step conv m op = ⟨(op.run m.seq).1, false, none, m.ended, m.stray⟩ := by
    simp only [step, hs, harmed, hfilter, List.append_nil]
  rw [hstep]
  refine ⟨⟨?_, ?_, h.stray_eq, by simp, ?_⟩, by simp⟩
  · simp [hact]
  · simp [hact]
  · simp only [hconf.stream, hconf.threshold]
    exact h.complete

omit [DecidableEq β] in
/-- An active instance has a session that is live. -/
lemma Keeps.session {m : Tracked β γ} (hk : Keeps conv m) (h : Proper m)
    (hact : m.seq.active = true) : ∃ s, m.current = some s ∧ Live m.seq s := by
  obtain ⟨s, hs⟩ := Option.isSome_iff_exists.mp (h.current_iff.mpr hact)
  exact ⟨s, hs, hk.live s hs⟩

/-- No operation changes the configuration. -/
lemma Keeps.sameConfig {m : Tracked β γ} (hk : Keeps conv m) (h : Proper m) (op : Op β γ) :
    SameConfig m.seq (op.run m.seq).1 := by
  refine sameConfig_run (fun hact => ?_) op
  obtain ⟨s, -, hlive⟩ := hk.session h hact
  simp [hlive.matchFn]

/-- In a session an operation does what its outcome says. -/
lemma proper_step_of_active {m : Tracked β γ} (op : Op β γ) (h : Proper m) (hk : Keeps conv m)
    (hact : m.seq.active = true) :
    Proper (step conv m op) ∧ ∀ s' ∈ (step conv m op).current, Live (step conv m op).seq s' := by
  obtain ⟨s, hs, hlive⟩ := hk.session h hact
  have hconf := hk.sameConfig h op
  have harmed : m.armed = true := h.armed_iff.mpr hact
  cases op with
  | detect b fns =>
    refine proper_of_outcome (s := { s with beats := 0 }) h hconf ?_ ?_
    · simp only [Op.session, hs]
    · rw [harmed]
      exact outcome_detect hlive hk.threshold b fns
  | heartbeat =>
    refine proper_of_outcome (s := { s with beats := s.beats + 1 }) h hconf ?_ ?_
    · simp only [Op.session, hs, Option.map_some]
    · rw [harmed]
      exact outcome_handler hlive
  | reset =>
    apply proper_of_outcome (s := s) h hconf hs
    rw [harmed]
    exact outcome_reset hlive

/-- Outside of a session a press may start one; any other operation makes no callback and does not
arm the heartbeat. -/
lemma proper_step_of_idle {m : Tracked β γ} (op : Op β γ) (h : Proper m) (hk : Keeps conv m)
    (hact : m.seq.active = false) :
    Proper (step conv m op) ∧ ∀ s' ∈ (step conv m op).current, Live (step conv m op).seq s' := by
  have hconf := hk.sameConfig h op
  have harmed : m.armed = false := by simpa [hact] using h.armed_iff
  have hnone : m.current = none := by simpa [hact] using h.current_iff
  cases op with
  | detect b fns =>
    by_cases hb : ∃ pat ∈ m.seq.patterns, pat[0]? = some b
    · refine proper_of_outcome (s := ⟨fns, [], 0⟩) h hconf ?_ ?_
      · simp only [Op.session, hnone, if_pos hb]
      · exact outcome_detect_start hact hk.threshold hk.armable hk.length hb fns m.armed
    · obtain ⟨hstill, hcalls⟩ := detect_of_not_starts hact hk.length hb fns
      refine proper_of_none h hconf ?_ hstill ?_ harmed
      · simp only [Op.session, hnone, if_neg hb]
      · simp [hcalls]
  | heartbeat =>
    have hr : Op.run m.seq .heartbeat =
        ({ m.seq with tickCount := m.seq.tickCount + 1 }, []) := by
      rw [Op.run, handler]
      dsimp only
      rw [if_neg fun hc => absurd (hc.1.symm.trans hact) Bool.noConfusion]
    refine proper_of_none h hconf ?_ ?_ ?_ harmed
    · simp only [Op.session, hnone, Option.map_none]
    · rw [hr]
      exact hact
    · simp [hr]
  | reset =>
    refine proper_of_none h hconf hnone rfl ?_ harmed
    simp [Op.run, reset, hact]

/-- **Every operation follows the protocol**, in a session and outside of one. -/
lemma proper_step {m : Tracked β γ} (op : Op β γ) (h : Proper m) (hk : Keeps conv m) :
    Proper (step conv m op) ∧ Keeps conv (step conv m op) := by
  have hgoal : Proper (step conv m op) ∧
      ∀ s' ∈ (step conv m op).current, Live (step conv m op).seq s' := by
    cases hact : m.seq.active with
    | true => exact proper_step_of_active op h hk hact
    | false => exact proper_step_of_idle op h hk hact
  have hconf := hk.sameConfig h op
  have hseq : (step conv m op).seq = (op.run m.seq).1 := by
    rw [step]
    split
    · rfl
    · split_ifs <;> rfl
  refine ⟨hgoal.1, hgoal.2, ?_, ?_, ?_⟩
  · rw [hseq, hconf.threshold]
    exact hk.threshold
  · rw [hseq, hconf.intervalMs]
    exact hk.armable
  · rw [hseq, hconf.length, hconf.patterns]
    exact hk.length

omit [DecidableEq β] in
/-- A new instance has the configured window and interval, and their threshold. -/
lemma new_config (opts : Opts) (patterns : List (List β)) :
    (new opts patterns : Seq β γ).threshold =
      ⌊(new opts patterns : Seq β γ).windowMs / (new opts patterns : Seq β γ).intervalMs⌋ := by
  have hfold : ∀ (pats : List (List β)) (self : Seq β γ),
      (pats.foldl addPattern self).windowMs = self.windowMs ∧
        (pats.foldl addPattern self).intervalMs = self.intervalMs ∧
        (pats.foldl addPattern self).threshold = self.threshold := by
    intro pats
    induction pats with
    | nil => simp
    | cons pat pats ih =>
      intro self
      obtain ⟨hw, hi, ht⟩ := ih (addPattern self pat)
      rw [List.foldl_cons, hw, hi, ht, addPattern]
      split_ifs
      · exact ⟨rfl, rfl, rfl⟩
      · exact ⟨rfl, rfl, rfl⟩
  obtain ⟨hw, hi, ht⟩ := hfold patterns (configure {} opts)
  rw [new, hw, hi, ht]
  rfl

/-- A new instance follows the protocol. -/
lemma proper_start (opts : Opts) (patterns : List (List β))
    (hw : 0 < (new opts patterns : Seq β γ).windowMs)
    (hi : 0 < (new opts patterns : Seq β γ).intervalMs)
    (harm : 0 < conv.toInt (new opts patterns : Seq β γ).intervalMs) :
    Proper (start opts patterns : Tracked β γ) ∧
      Keeps conv (start opts patterns : Tracked β γ) := by
  obtain ⟨-, hprog, hact⟩ := new_spec (β := β) (γ := γ) opts patterns
  refine ⟨⟨by simp [start, hact], by simp [start, hact], rfl, by simp [start], by simp [start]⟩,
    by simp [start], ?_, harm, ?_⟩
  · show 0 ≤ (new opts patterns : Seq β γ).threshold
    rw [new_config]
    exact Int.floor_nonneg.mpr (div_nonneg hw.le hi.le)
  · show (new opts patterns : Seq β γ).progress.length = _
    rw [hprog, List.length_map]
    rfl

end Aelkey.Sequence.Protocol
