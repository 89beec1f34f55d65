import Aelkey.Click.Model
import Aelkey.Lib.IntArg
import Aelkey.Lib.Run
import Mathlib.Algebra.BigOperators.Group.List.Basic
import Mathlib.Algebra.GroupWithZero.Nat

set_option relaxedAutoImplicit false
set_option autoImplicit false

/-!
# Every click is counted exactly once

The clicks fed so far are split into bursts: those of the actions that have been called, in the
order of the calls, and the pending one. What makes the split exact is that a pending burst is never
older than the threshold, so that no click finds the window closed, and that it has an action for
its count, so that a flush or a timeout calls one. The heartbeat is armed by a call of
`aelkey.tick`, which takes an `int`: a positive interval that is read as zero arms nothing.

## Main definitions

* `Aelkey.Click.Watch` — the module with the clicks fed so far, the actions called so far, and
  whether the heartbeat is armed.
* `Aelkey.Click.Admissible` — the steps of a run: clicks with a downward-closed set of actions,
  heartbeats while armed, and `configure` between bursts.
* `Aelkey.Click.Armable` — the interval is positive as `aelkey.tick` reads it.
* `Aelkey.Click.Accounted` — clicks and actions agree.

## Main results

* `Aelkey.Click.accounted_of_admissible` — clicks and actions agree after every step of every run
  with such intervals.
* `Aelkey.Click.not_accounted_quarter` — an interval of a quarter of a millisecond.
-/

namespace Aelkey.Click

variable {β γ : Type*}

/-! ## What is counted -/

/-- The level of a call: the number of clicks its action stands for. -/
def Call.level : Call β γ → ℕ
  | .single _ _ => 1
  | .double _ _ => 2
  | .triple _ _ => 3
  | .tick _ => 0

/-- The clicks a call stands for: as many as its level, all of the button it is given. -/
def Call.clicks : Call β γ → List (Option β)
  | .single _ code => List.replicate 1 code
  | .double _ code => List.replicate 2 code
  | .triple _ code => List.replicate 3 code
  | .tick _ => []

/-- Whether the heartbeat is armed after a call: `core_tick` ends its timer and sets a new one for a
positive time. -/
def Call.arms (conv : IntArg) (armed : Bool) : Call β γ → Bool
  | .tick interval => decide (0 < conv.toInt interval)
  | _ => armed

/-- The module, the buttons of all clicks fed so far, all calls made so far, and whether the
heartbeat is armed. -/
structure Watch (β γ : Type*) where
  clicker : Clicker β γ
  clicks : List β
  calls : List (Call β γ)
  armed : Bool

/-- The operations of a run. -/
inductive Op (β γ : Type*)
  | detect (button : β) (single double triple : Option γ)
  | heartbeat
  | configure (opts : Opts)

/-- The effect of an operation on the module, and the calls it makes. -/
def Op.run [DecidableEq β] (m : Clicker β γ) : Op β γ → Clicker β γ × List (Call β γ)
  | .detect button single double triple => Click.detect m button single double triple
  | .heartbeat => clickHandler m
  | .configure opts => (Click.configure m opts, [])

/-- The clicks an operation feeds. -/
def Op.fed : Op β γ → List β
  | .detect button _ _ _ => [button]
  | _ => []

/-- One step of a run. -/
def step [DecidableEq β] (conv : IntArg) (w : Watch β γ) (op : Op β γ) : Watch β γ :=
  let r := op.run w.clicker
  ⟨r.1, w.clicks ++ op.fed, w.calls ++ r.2, r.2.foldl (Call.arms conv) w.armed⟩

/-- The module before the first click. -/
def start : Watch β γ := ⟨{}, [], [], false⟩

/-- A click comes with its single action, and with its double action if it has a triple one; the
heartbeat is delivered while it is armed; the window and the interval are positive and do not change
while a burst is pending. -/
def Admissible (w : Watch β γ) : Op β γ → Prop
  | .detect _ single double triple => single.isSome ∧ (triple.isSome → double.isSome)
  | .heartbeat => w.armed = true
  | .configure opts => w.clicker.pending = false ∧
      0 < (configure w.clicker opts).windowMs ∧ 0 < (configure w.clicker opts).interval

instance (w : Watch β γ) : DecidablePred (Admissible w)
  | .detect _ single double triple =>
    inferInstanceAs (Decidable (single.isSome ∧ (triple.isSome → double.isSome)))
  | .heartbeat => inferInstanceAs (Decidable (w.armed = true))
  | .configure opts => inferInstanceAs (Decidable (w.clicker.pending = false ∧
      0 < (configure w.clicker opts).windowMs ∧ 0 < (configure w.clicker opts).interval))

/-- `configure` leaves an interval that `aelkey.tick` reads as a positive time. -/
def Armable (conv : IntArg) (w : Watch β γ) : Op β γ → Prop
  | .configure opts => 0 < conv.toInt (configure w.clicker opts).interval
  | .detect _ _ _ _ | .heartbeat => True

instance (conv : IntArg) (w : Watch β γ) : DecidablePred (Armable conv w)
  | .configure opts =>
    inferInstanceAs (Decidable (0 < conv.toInt (configure w.clicker opts).interval))
  | .detect _ _ _ _ | .heartbeat => .isTrue trivial

/-- The clicks of the pending burst. -/
def pendingClicks (m : Clicker β γ) : List (Option β) :=
  if m.pending then List.replicate m.clickCount m.lastCode else []

/-- **Clicks and actions agree**: the clicks are, in order, those the calls stand for and those of
the pending burst; so the levels and the pending count add up to the number of clicks. The heartbeat
is armed exactly while a burst is pending. -/
structure Accounted (w : Watch β γ) : Prop where
  clicks_eq : w.clicks.map some = w.calls.flatMap Call.clicks ++ pendingClicks w.clicker
  count_eq : (w.calls.map Call.level).sum +
    (if w.clicker.pending then w.clicker.clickCount else 0) = w.clicks.length
  armed_iff : w.armed = true ↔ w.clicker.pending = true

/-- What holds of the module between operations: the interval arms the heartbeat, the window is
open, and a pending burst has actions for its count and for at least one more click. -/
structure Keeps (conv : IntArg) (m : Clicker β γ) : Prop where
  armable : 0 < conv.toInt m.interval
  threshold : 0 ≤ m.threshold
  inWindow : m.pending = true → (m.tickCount : ℤ) ≤ m.threshold
  single : m.pending = true → m.singleAction.isSome
  double : m.pending = true → m.doubleAction.isSome
  count : m.pending = true → m.clickCount = 1 ∨ m.clickCount = 2 ∧ m.tripleAction.isSome
  lastCode : m.pending = true → m.lastCode.isSome

/-! ## What the operations do -/

variable {conv : IntArg}

/-- The number of the clicks that calls stand for is the sum of their levels. -/
lemma length_flatMap_clicks (calls : List (Call β γ)) :
    (calls.flatMap Call.clicks).length = (calls.map Call.level).sum := by
  rw [List.length_flatMap]
  congr 1
  refine List.map_congr_left fun c _ => ?_
  cases c <;> rfl

/-- The counts agree if the clicks do. -/
lemma accounted_of_clicks {w : Watch β γ}
    (h : w.clicks.map some = w.calls.flatMap Call.clicks ++ pendingClicks w.clicker)
    (ha : w.armed = w.clicker.pending) : Accounted w := by
  refine ⟨h, ?_, by rw [ha]⟩
  have hlen := congrArg List.length h
  rw [List.length_map, List.length_append, length_flatMap_clicks] at hlen
  rw [hlen, pendingClicks]
  split_ifs
  · rw [List.length_replicate]
  · rfl

/-- What an operation has to do with the clicks `fed` to a module `m`: the calls and the new pending
burst stand for the old pending burst and the clicks, and the heartbeat follows the burst. -/
structure Settles (conv : IntArg) (m : Clicker β γ) (fed : List β)
    (r : Clicker β γ × List (Call β γ)) : Prop where
  clicks_eq : pendingClicks m ++ fed.map some = r.2.flatMap Call.clicks ++ pendingClicks r.1
  armed_eq : r.2.foldl (Call.arms conv) m.pending = r.1.pending
  keeps : Keeps conv r.1

/-- What two operations after each other settle. -/
lemma Settles.trans {m : Clicker β γ} {fed₁ fed₂ : List β} {r₁ r₂ : Clicker β γ × List (Call β γ)}
    (h₁ : Settles conv m fed₁ r₁) (h₂ : Settles conv r₁.1 fed₂ r₂) :
    Settles conv m (fed₁ ++ fed₂) (r₂.1, r₁.2 ++ r₂.2) where
  clicks_eq := by
    rw [List.map_append, ← List.append_assoc, h₁.clicks_eq, List.append_assoc, h₂.clicks_eq,
      List.flatMap_append, List.append_assoc]
  armed_eq := by rw [List.foldl_append, h₁.armed_eq, h₂.armed_eq]
  keeps := h₂.keeps

/-- Doing nothing settles nothing. -/
lemma settles_none {m : Clicker β γ} (h : Keeps conv m) : Settles conv m [] (m, []) :=
  ⟨by simp, rfl, h⟩

/-- A module without a pending burst keeps nothing but its configuration. -/
lemma keeps_of_idle {m : Clicker β γ} (hi : 0 < conv.toInt m.interval) (ht : 0 ≤ m.threshold)
    (hp : m.pending = false) : Keeps conv m := by
  have hnot : m.pending ≠ true := by simp [hp]
  exact ⟨hi, ht, fun h => absurd h hnot, fun h => absurd h hnot, fun h => absurd h hnot,
    fun h => absurd h hnot, fun h => absurd h hnot⟩

/-- A call and a `reset` settle a burst if the call stands for its clicks. -/
lemma settles_reset {m m' : Clicker β γ} {fed : List β} {c : Call β γ}
    (hi : 0 < conv.toInt m'.interval) (ht : 0 ≤ m'.threshold)
    (hc : pendingClicks m ++ fed.map some = c.clicks) :
    Settles conv m fed ((reset m').1, [c] ++ (reset m').2) where
  clicks_eq := by
    rw [hc]
    simp [reset, Call.clicks, pendingClicks]
  armed_eq := by cases c <;> simp [reset, Call.arms]
  keeps := keeps_of_idle hi ht rfl

/-- The action of a pending burst, and a `reset`, settle the burst: it has one click or two, and the
action for it is there. -/
lemma settles_pending {m m' : Clicker β γ} (h : Keeps conv m) (hp : m.pending = true)
    (hi : 0 < conv.toInt m'.interval) (ht : 0 ≤ m'.threshold) (rest : List (Call β γ)) :
    Settles conv m [] ((reset m').1,
      (if m.clickCount = 1 ∧ m.singleAction.isSome then act .single m.singleAction m.lastCode
        else if m.clickCount = 2 ∧ m.doubleAction.isSome then
          act .double m.doubleAction m.lastCode
        else rest) ++ (reset m').2) := by
  obtain ⟨f, hf⟩ := Option.isSome_iff_exists.mp (h.single hp)
  obtain ⟨g, hg⟩ := Option.isSome_iff_exists.mp (h.double hp)
  rw [hf, hg]
  rcases h.count hp with hc | ⟨hc, -⟩
  · rw [hc]
    apply settles_reset hi ht
    simp [pendingClicks, hp, hc, Call.clicks]
  · rw [hc]
    apply settles_reset hi ht
    simp [pendingClicks, hp, hc, Call.clicks]

/-- **The heartbeat** calls the action of a burst that is older than the threshold. -/
lemma settles_clickHandler {m : Clicker β γ} (h : Keeps conv m) :
    Settles conv m [] (clickHandler m) := by
  rw [clickHandler]
  by_cases hp : m.pending = true ∧ m.threshold < (m.tickCount + 1 : ℕ)
  · dsimp only
    rw [if_pos hp]
    exact settles_pending h hp.1 h.armable h.threshold _
  · dsimp only
    rw [if_neg hp]
    refine ⟨by simp [pendingClicks], rfl, { h with inWindow := fun hpend => ?_ }⟩
    have hle : ¬ m.threshold < (m.tickCount + 1 : ℕ) := fun hlt => hp ⟨hpend, hlt⟩
    exact not_lt.mp hle

variable [DecidableEq β]

/-- **A click of another button** flushes the pending burst; after it a pending burst is one of the
same button. -/
lemma settles_flush {m : Clicker β γ} (h : Keeps conv m) (b : β) :
    Settles conv m [] (flush m b) ∧
      ((flush m b).1.pending = true → (flush m b).1.lastCode = some b) := by
  rw [flush]
  by_cases hp : m.pending = true ∧ some b ≠ m.lastCode
  · rw [if_pos hp]
    exact ⟨settles_pending h hp.1 h.armable h.threshold _, fun hpend => by cases hpend⟩
  · rw [if_neg hp]
    refine ⟨settles_none h, fun hpend => ?_⟩
    by_contra hne
    exact hp ⟨hpend, fun he => hne he.symm⟩

omit [DecidableEq β] in
/-- **The first click of a burst** calls its only action, or becomes the pending burst. -/
lemma settles_firstClick {m : Clicker β γ} (h : Keeps conv m) (hp : m.pending = false) (b : β)
    {single double triple : Option γ} (hs : single.isSome) (ht : triple.isSome → double.isSome) :
    Settles conv m [b] (firstClick m b single double triple) := by
  obtain ⟨f, rfl⟩ := Option.isSome_iff_exists.mp hs
  rw [firstClick]
  by_cases hd : double.isNone ∧ triple.isNone
  · dsimp only
    rw [if_pos hd]
    apply settles_reset h.armable h.threshold
    simp [pendingClicks, hp, Call.clicks]
  · dsimp only
    rw [if_neg hd]
    have hdouble : double.isSome := by
      cases double with
      | some g => rfl
      | none =>
        cases triple with
        | some g => exact ht rfl
        | none => exact absurd ⟨rfl, rfl⟩ hd
    refine ⟨?_, ?_, ⟨h.armable, h.threshold, ?_, ?_, ?_, ?_, ?_⟩⟩
    · simp [pendingClicks, hp, Call.clicks]
    · simp [Call.arms, h.armable]
    · exact fun _ => h.threshold
    · exact fun _ => rfl
    · exact fun _ => hdouble
    · exact fun _ => .inl rfl
    · exact fun _ => rfl

omit [DecidableEq β] in
/-- **A later click of a burst** calls the highest action, or is counted.

**Proof sketch.** The window is open. The count of the burst is 1 or, with a triple action, 2; the
click makes it 2 or 3. A count of 2 is final without a triple action, and 3 always is. -/
lemma settles_nextClick {m : Clicker β γ} (h : Keeps conv m) (hp : m.pending = true) {b : β}
    (hb : m.lastCode = some b) : Settles conv m [b] (nextClick m b) := by
  obtain ⟨g, hg⟩ := Option.isSome_iff_exists.mp (h.double hp)
  rw [nextClick, if_pos (h.inWindow hp)]
  dsimp only
  rcases h.count hp with hc | ⟨hc, htriple⟩
  · rcases ht : m.tripleAction with _ | t
    · rw [hc, hg, if_pos ⟨rfl, rfl⟩]
      apply settles_reset h.armable h.threshold
      simp [pendingClicks, hp, hc, hb, Call.clicks]
    · rw [hc, if_neg (by simp), if_neg (by omega)]
      refine ⟨?_, rfl, { h with count := fun _ => .inr ⟨rfl, by simp⟩ }⟩
      simp [pendingClicks, hp, hc, hb]
  · obtain ⟨t, ht⟩ := Option.isSome_iff_exists.mp htriple
    rw [hc, ht, if_neg (by simp), if_pos rfl, hb]
    apply settles_reset h.armable h.threshold
    simp [pendingClicks, hp, hc, hb, Call.clicks]

/-- **A click** settles the burst it ends, and counts. -/
lemma settles_detect {m : Clicker β γ} (h : Keeps conv m) (b : β) {single double triple : Option γ}
    (hs : single.isSome) (ht : triple.isSome → double.isSome) :
    Settles conv m [b] (detect m b single double triple) := by
  obtain ⟨hflush, hcode⟩ := settles_flush h b
  rw [detect]
  by_cases hp : (flush m b).1.pending = true
  · rw [if_neg (by simp [hp])]
    exact hflush.trans (settles_nextClick hflush.keeps hp (hcode hp))
  · rw [if_pos (by simp [hp])]
    exact hflush.trans (settles_firstClick hflush.keeps (by simpa using hp) b hs ht)

/-! ## Whole runs -/

/-- **A step keeps clicks and actions in agreement.** -/
lemma accounted_step {w : Watch β γ} {op : Op β γ} (h : Accounted w) (hk : Keeps conv w.clicker)
    (hop : Admissible w op) (harm : Armable conv w op) :
    Accounted (step conv w op) ∧ Keeps conv (step conv w op).clicker := by
  have hsettles : Settles conv w.clicker op.fed (op.run w.clicker) := by
    cases op with
    | detect button single double triple => exact settles_detect hk button hop.1 hop.2
    | heartbeat => exact settles_clickHandler hk
    | configure opts =>
      obtain ⟨hp, hw, hi⟩ := hop
      refine ⟨?_, rfl, ?_⟩
      · exact List.append_nil _
      exact keeps_of_idle harm (Int.floor_nonneg.mpr (div_nonneg hw.le hi.le)) hp
  have harmed : w.armed = w.clicker.pending := by
    rw [Bool.eq_iff_iff]
    exact h.armed_iff
  refine ⟨accounted_of_clicks ?_ ?_, hsettles.keeps⟩
  · simp only [step]
    rw [List.map_append, h.clicks_eq, List.append_assoc, hsettles.clicks_eq, List.flatMap_append,
      List.append_assoc]
  · simp only [step]
    rw [harmed, hsettles.armed_eq]

omit [DecidableEq β] in
/-- Before the first click nothing is counted, and the interval is 15. -/
lemma accounted_start (conv : IntArg) :
    Accounted (start : Watch β γ) ∧ Keeps conv (start : Watch β γ).clicker := by
  have harmable : conv.toInt 15 = 15 := congrArg Int32.toInt (conv.read_toInt 15)
  refine ⟨accounted_of_clicks rfl rfl, keeps_of_idle ?_ (by norm_num [start]) rfl⟩
  show 0 < conv.toInt 15
  omega

/-- **Click accounting is exact.** In every admissible run with intervals that `aelkey.tick` reads
as positive, after every step: the clicks fed so far are exactly those the calls stand for, in the
order of the calls and each call with the button of its own clicks, followed by those of the pending
burst; the levels of the calls and the pending count add up to the number of clicks; and the
heartbeat is armed exactly while a burst is pending.

**Proof sketch.** `accounted_step` at every step, together with the module's own invariant. -/
theorem accounted_of_admissible (conv : IntArg) (ops : List (Op β γ))
    (h : Run.EachStep (step conv) (fun w op => Admissible w op ∧ Armable conv w op)
      (start : Watch β γ) ops) :
    Run.Always (step conv) Accounted start ops := by
  have hrun : Run.Always (step conv) (fun w => Accounted w ∧ Keeps conv w.clicker) start ops :=
    Run.always_of_step (C := fun w op => Admissible w op ∧ Armable conv w op)
      (fun _ _ hw hop => accounted_step hw.1 hw.2 hop.1 hop.2) (accounted_start conv) h
  exact hrun.mono fun _ hw => hw.1

/-- A double click that is flushed by another button, which then times out at an interval of 100. -/
theorem accounted_of_admissible_flush :
    Run.Always (step .nearest) Accounted (start : Watch ℕ ℕ)
      [.configure { window := some 200, interval := some 100 },
        .detect 1 (some 10) (some 20) (some 30), .heartbeat, .detect 1 (some 10) none none,
        .detect 2 (some 11) (some 21) none, .heartbeat, .heartbeat, .heartbeat] :=
  accounted_of_admissible _ _ (by decide +kernel)

/-- **A positive interval is not enough**: a quarter of a millisecond is read as zero, and the click
is pending without a heartbeat. -/
theorem not_accounted_quarter :
    Run.EachStep (step .nearest) Admissible (start : Watch ℕ ℕ)
        [.configure { interval := some (1 / 4) }, .detect 1 (some 10) (some 20) none] ∧
      ¬ Run.Always (step .nearest) Accounted (start : Watch ℕ ℕ)
        [.configure { interval := some (1 / 4) }, .detect 1 (some 10) (some 20) none] := by
  refine ⟨by decide +kernel, fun h => ?_⟩
  have hlast := h.last.armed_iff
  exact absurd hlast (by decide +kernel)

end Aelkey.Click
