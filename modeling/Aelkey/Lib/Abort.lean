import Mathlib.Data.List.Basic

set_option relaxedAutoImplicit false
set_option autoImplicit false

/-!
# Functions that are ended by an error of the code they call

A function that changes a state and calls user code in between stops where user code raises an
error: what it has changed before stays, and what it would have done afterwards is missing. This
file has such functions as a state together with the calls made, and the counting rule for code that
must be called at most once before something ends.

## Main definitions

* `Abort.Outcome` — the state a function leaves, its calls, and whether an error has ended it.
* `Abort.Outcome.call`, `Abort.Outcome.andThen` — calling user code, and going on.
* `Abort.OnceBefore` — at most one call, and after it the end.

## Main results

* `Abort.Outcome.call_andThen_of_returns`, `Abort.Outcome.call_andThen_of_raises` — what follows a
  call.
* `Abort.OnceBefore.called_iff` — one more call is allowed iff it brings the end.
-/

namespace Abort

/-- The state that a function leaves, the calls it has made, in order, and whether an error has
ended it. -/
structure Outcome (σ κ : Type*) where
  state : σ
  calls : List κ
  raised : Bool

namespace Outcome

variable {σ κ : Type*}

/-- A function that returns, with calls that cannot fail. -/
def ret (r : σ × List κ) : Outcome σ κ := ⟨r.1, r.2, false⟩

/-- Call user code, if there is any. -/
def call (raises : κ → Bool) (s : σ) : Option κ → Outcome σ κ
  | none => ⟨s, [], false⟩
  | some c => ⟨s, [c], raises c⟩

/-- Go on with `f`, unless an error has been raised. -/
def andThen (o : Outcome σ κ) (f : σ → Outcome σ κ) : Outcome σ κ :=
  if o.raised then o else ⟨(f o.state).state, o.calls ++ (f o.state).calls, (f o.state).raised⟩

/-- Going on after a function that cannot fail. -/
lemma ret_andThen (r : σ × List κ) (f : σ → Outcome σ κ) :
    (ret r).andThen f = ⟨(f r.1).state, r.2 ++ (f r.1).calls, (f r.1).raised⟩ := rfl

/-- Going on where no user code has been called. -/
lemma call_none_andThen (raises : κ → Bool) (s : σ) (f : σ → Outcome σ κ) :
    (call raises s none).andThen f = f s := rfl

/-- What follows a call that returns. -/
lemma call_andThen_of_returns {raises : κ → Bool} {c : κ} (h : raises c = false) (s : σ)
    (f : σ → Outcome σ κ) :
    (call raises s (some c)).andThen f = ⟨(f s).state, c :: (f s).calls, (f s).raised⟩ := by
  simp [andThen, call, h]

/-- Nothing follows a call that raises an error. -/
lemma call_andThen_of_raises {raises : κ → Bool} {c : κ} (h : raises c = true) (s : σ)
    (f : σ → Outcome σ κ) : (call raises s (some c)).andThen f = ⟨s, [c], true⟩ := by
  simp [andThen, call, h]

/-- Where no user code raises an error, a call is one more call. -/
lemma call_andThen_of_total {raises : κ → Bool} (h : ∀ c, raises c = false) (s : σ) (o : Option κ)
    (f : σ → Outcome σ κ) :
    (call raises s o).andThen f = ⟨(f s).state, o.toList ++ (f s).calls, (f s).raised⟩ := by
  cases o with
  | none => rfl
  | some c => exact call_andThen_of_returns (h c) s f

end Outcome

/-- There has been at most one call, and after it the end has come. -/
def OnceBefore (count : ℕ) (ended : Prop) : Prop := count ≤ 1 ∧ (0 < count → ended)

instance (count : ℕ) (ended : Prop) [Decidable ended] : Decidable (OnceBefore count ended) :=
  instDecidableAnd

/-- The count starts again. -/
lemma onceBefore_zero (ended : Prop) : OnceBefore 0 ended :=
  ⟨Nat.zero_le _, fun h => absurd h (Nat.lt_irrefl 0)⟩

/-- Before the end there has been no call. -/
lemma OnceBefore.eq_zero {count : ℕ} {ended : Prop} (h : OnceBefore count ended) (hend : ¬ ended) :
    count = 0 := by
  by_contra hne
  exact hend (h.2 (Nat.pos_of_ne_zero hne))

/-- Without a further call, what has ended has to stay ended. -/
lemma OnceBefore.mono {count : ℕ} {ended ended' : Prop} (h : OnceBefore count ended)
    (hend : ended → ended') : OnceBefore count ended' :=
  ⟨h.1, fun hpos => hend (h.2 hpos)⟩

/-- **One more call before the end is allowed iff it brings the end.** -/
lemma OnceBefore.called_iff {count : ℕ} {ended ended' : Prop} (h : OnceBefore count ended)
    (hend : ¬ ended) : OnceBefore (count + 1) ended' ↔ ended' := by
  rw [h.eq_zero hend]
  exact ⟨fun h' => h'.2 Nat.one_pos, fun h' => ⟨Nat.le_refl _, fun _ => h'⟩⟩

end Abort
