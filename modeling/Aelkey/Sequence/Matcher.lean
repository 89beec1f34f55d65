import Aelkey.Lib.Greedy
import Aelkey.Lib.Run
import Aelkey.Sequence.Model

set_option relaxedAutoImplicit false
set_option autoImplicit false

/-!
# The sequence matcher and its reference semantics

The reference is the greedy matching of the presses of a session. It counts every press once: the
one that starts the session, and every later one until the session ends or, in stream mode, a
pattern is completed.

In `detect` the press that starts a session is seen by both loops. The second loop then consumes it
again for every pattern that begins with the same button twice. This is the only way in which the
code parts from the reference.

## Main definitions

* `Aelkey.Sequence.Reference` — the presses of the session, and whether the last operation has
  completed a pattern.
* `Aelkey.Sequence.Tracked` — an instance, its reference, and the calls of the last operation.
* `Aelkey.Sequence.Agrees` — the instance agrees with its reference.
* `Aelkey.Sequence.NotDoubled` — the press is not consumed twice.

## Main results

* `Aelkey.Sequence.agrees_iff_notDoubled` — an instance agrees with its reference exactly as long as
  no press is consumed twice.
* `Aelkey.Sequence.not_agrees_doubled` — a pattern completed by half of its presses.
-/

namespace Aelkey.Sequence

open Greedy

variable {β γ : Type*} [DecidableEq β]

/-! ## The loops of `detect` -/

omit [DecidableEq β] in
/-- A pattern that begins with `b` and has length 1 is `[b]`. -/
lemma eq_singleton_iff {pat : List β} {b : β} : pat = [b] ↔ pat[0]? = some b ∧ pat.length = 1 := by
  constructor
  · rintro rfl
    simp
  · intro ⟨h, hlen⟩
    obtain ⟨a, rfl⟩ := List.length_eq_one_iff.mp hlen
    simpa using h

/-- The first loop keeps the length of `progress`. -/
lemma length_startLoop (b : β) (pats : List (List β)) (ns : List ℕ) :
    (startLoop b pats ns).progress.length = ns.length := by
  induction pats generalizing ns with
  | nil => rfl
  | cons pat pats ih =>
    cases ns with
    | nil => rfl
    | cons n ns =>
      simp only [startLoop]
      split_ifs
      · rfl
      · simp [Scan.cons, ih]
      · simp [Scan.cons, ih]

/-- The first loop finds a pattern that is the press alone. -/
lemma startLoop_of_mem {b : β} {pats : List (List β)} {ns : List ℕ}
    (hlen : ns.length = pats.length) (h : [b] ∈ pats) :
    (startLoop b pats ns).startsAny = true ∧ (startLoop b pats ns).completed = true := by
  induction pats generalizing ns with
  | nil => simp at h
  | cons pat pats ih =>
    obtain ⟨n, ns, rfl⟩ := List.exists_cons_of_length_eq_add_one hlen
    simp only [startLoop]
    split_ifs with hb h1
    · exact ⟨rfl, rfl⟩
    · have hne : [b] ≠ pat := fun he => h1 (by rw [← he, List.length_singleton])
      obtain ⟨-, hc⟩ := ih (by simpa using hlen) ((List.mem_cons.mp h).resolve_left hne)
      exact ⟨rfl, hc⟩
    · have hne : [b] ≠ pat := fun he => hb (by rw [← he]; rfl)
      simpa [Scan.cons] using ih (by simpa using hlen) ((List.mem_cons.mp h).resolve_left hne)

/-- The first loop, if no pattern is the press alone: the press is matched. -/
lemma startLoop_of_not_mem {b : β} {pats : List (List β)} {ns : List ℕ}
    (hlen : ns.length = pats.length) (h : [b] ∉ pats) :
    startLoop b pats ns = ⟨pats.map fun pat => matched pat [b],
      decide (∃ pat ∈ pats, pat[0]? = some b), false⟩ := by
  induction pats generalizing ns with
  | nil =>
    obtain rfl := List.length_eq_zero_iff.mp hlen
    rfl
  | cons pat pats ih =>
    obtain ⟨n, ns, rfl⟩ := List.exists_cons_of_length_eq_add_one hlen
    obtain ⟨hne, hnot⟩ := not_or.mp (mt List.mem_cons.mpr h)
    have hrest := ih (Nat.succ.inj hlen) hnot
    simp only [startLoop, hrest]
    by_cases hb : pat[0]? = some b
    · have h1 : pat.length ≠ 1 := fun h1 => hne (eq_singleton_iff.mpr ⟨hb, h1⟩).symm
      simp [hb, h1, Scan.cons, matched_singleton]
    · simp [hb, Scan.cons, matched_singleton]

/-- One round of the second loop: an idle pattern is treated like one in progress. -/
lemma advanceLoop_cons (b : β) (pat : List β) (pats : List (List β)) (idx : ℕ) (ns : List ℕ) :
    advanceLoop b (pat :: pats) (idx :: ns) =
      if pat[idx]? = some b then
        if idx + 1 = pat.length then ⟨(idx + 1) :: ns, false, true⟩
        else (advanceLoop b pats ns).cons (idx + 1) false
      else (advanceLoop b pats ns).cons idx false := by
  rw [advanceLoop]
  rcases Nat.eq_zero_or_pos idx with rfl | hpos
  · simp only [lt_irrefl, ↓reduceIte, Nat.zero_add, eq_comm (a := 1)]
  · simp only [hpos, ↓reduceIte]

/-- The second loop keeps the length of `progress`. -/
lemma length_advanceLoop (b : β) (pats : List (List β)) (ns : List ℕ) :
    (advanceLoop b pats ns).progress.length = ns.length := by
  induction pats generalizing ns with
  | nil => rfl
  | cons pat pats ih =>
    cases ns with
    | nil => rfl
    | cons n ns =>
      rw [advanceLoop_cons]
      split_ifs
      · rfl
      · simp [Scan.cons, ih]
      · simp [Scan.cons, ih]

/-- The second loop, for patterns that are not complete: it completes a pattern iff one is complete
after the press, and else it advances all of them.

**Proof sketch.** Induction on the patterns. The first one is completed by the press, or it is
advanced and the loop goes on. -/
lemma advanceLoop_spec (b : β) (pats : List (List β)) (g : List β → ℕ)
    (hg : ∀ pat ∈ pats, g pat < pat.length) :
    ((advanceLoop b pats (pats.map g)).completed = true ↔
        ∃ pat ∈ pats, advance b pat (g pat) = pat.length) ∧
      ((advanceLoop b pats (pats.map g)).completed = false →
        (advanceLoop b pats (pats.map g)).progress =
          pats.map fun pat => advance b pat (g pat)) := by
  induction pats with
  | nil => simp [advanceLoop]
  | cons pat pats ih =>
    have hlt := hg pat List.mem_cons_self
    obtain ⟨ihc, ihp⟩ := ih fun p hp => hg p (List.mem_cons_of_mem _ hp)
    rw [List.map_cons, advanceLoop_cons]
    simp only [List.exists_mem_cons_iff, List.map_cons]
    by_cases hb : pat[g pat]? = some b
    · rw [if_pos hb, advance_of_eq hb]
      by_cases hend : g pat + 1 = pat.length
      · simp [hend]
      · simp only [hend, ↓reduceIte, Scan.cons, ihc, false_or, List.cons.injEq, true_and]
        exact ihp
    · rw [if_neg hb, advance_of_ne hb]
      simp only [Scan.cons, ihc, hlt.ne, false_or, List.cons.injEq, true_and]
      exact ihp

/-! ## The reference -/

/-- The reference: whether a session is active, its presses (in stream mode those after the last
match), and the presses with which the last operation completed a pattern. -/
structure Reference (β : Type*) where
  active : Bool := false
  presses : List β := []
  completed : Option (List β) := none

/-- A press: the first press of a pattern starts a session, and in a session every press counts. -/
def Reference.press (patterns : List (List β)) (stream : Bool) (b : β) (r : Reference β) :
    Reference β :=
  if r.active = true ∨ ∃ pat ∈ patterns, pat[0]? = some b then
    if ∃ pat ∈ patterns, matched pat (r.presses ++ [b]) = pat.length then
      { active := stream, presses := [], completed := some (r.presses ++ [b]) }
    else { active := true, presses := r.presses ++ [b], completed := none }
  else { r with completed := none }

/-- An instance, its reference, and the calls of the last operation. -/
structure Tracked (β γ : Type*) where
  seq : Seq β γ
  ref : Reference β
  calls : List (Call γ)

/-- The operations: a press, with a `match_fn`; the heartbeat; and `reset`. -/
inductive Op (β γ : Type*)
  | detect (button : β) (matchFn : γ) (timeoutFn startFn : Option γ)
  | heartbeat
  | reset

/-- One operation. The session of the reference ends when the instance times out. -/
def step (m : Tracked β γ) : Op β γ → Tracked β γ
  | .detect button matchFn timeoutFn startFn =>
    let r := detect m.seq button (some matchFn) timeoutFn startFn
    ⟨r.1, m.ref.press m.seq.patterns m.seq.stream button, r.2⟩
  | .heartbeat =>
    let r := handler m.seq
    ⟨r.1, if r.1.active then { m.ref with completed := none } else {}, r.2⟩
  | .reset =>
    let r := reset m.seq
    ⟨r.1, {}, r.2⟩

/-- A new instance with its reference. -/
def start (opts : Opts) (patterns : List (List β)) : Tracked β γ := ⟨new opts patterns, {}, []⟩

/-- A call of `match_fn`. -/
def Call.isMatch : Call γ → Bool
  | .matchFn _ => true
  | _ => false

/-- The instance agrees with the reference: every pattern has the progress of its greedy match, and
`match_fn` has been called, once, iff the last operation completed a pattern; then there have been
at least as many presses as some pattern is long. -/
structure Agrees (m : Tracked β γ) : Prop where
  active : m.seq.active = m.ref.active
  progress : m.seq.progress = m.seq.patterns.map fun pat => matched pat m.ref.presses
  called : m.calls.countP Call.isMatch = if m.ref.completed.isSome then 1 else 0
  enough : ∀ presses, m.ref.completed = some presses →
    ∃ pat ∈ m.seq.patterns, pat.length ≤ presses.length

/-- A press that may start a session is not the beginning of a pattern twice, or it is a pattern by
itself. -/
def NotDoubled (m : Tracked β γ) : Op β γ → Prop
  | .detect button _ _ _ => m.seq.active = false →
      [button] ∈ m.seq.patterns ∨ ∀ pat ∈ m.seq.patterns, ¬ [button, button] <+: pat
  | _ => True

/-- What holds of an instance and its reference between operations: no pattern is empty or
complete, an active session has a `match_fn`, and there are presses in a session only. -/
structure Keeps (m : Tracked β γ) : Prop where
  nonempty : ∀ pat ∈ m.seq.patterns, pat ≠ []
  unfinished : ∀ pat ∈ m.seq.patterns, matched pat m.ref.presses < pat.length
  matchFn : m.seq.active = true → m.seq.matchFn ≠ none
  idle : m.ref.active = false → m.ref.presses = []

/-! ## What the operations do -/

/-- Clearing the progress of all patterns. -/
lemma progress_clear {self : Seq β γ} (h : self.progress.length = self.patterns.length) :
    (clearProgress self).progress = self.patterns.map fun pat => matched pat [] := by
  simp [clearProgress, h]

omit [DecidableEq β] in
/-- `reset` makes no call of `match_fn`. -/
lemma countP_isMatch_reset (self : Seq β γ) : (reset self).2.countP Call.isMatch = 0 := by
  simp only [reset]
  split_ifs
  · cases self.timeoutFn <;> rfl
  · rfl

/-- A match: `match_fn` is called once, the progress is cleared, and the session goes on in stream
mode only. -/
lemma matchEnd_spec (self : Seq β γ) {f : γ} (h : self.progress.length = self.patterns.length)
    (hactive : self.active = true) (hf : self.matchFn = some f) :
    (matchEnd self f).1.patterns = self.patterns ∧
      (matchEnd self f).1.active = self.stream ∧
      (matchEnd self f).1.progress = (self.patterns.map fun pat => matched pat []) ∧
      ((matchEnd self f).1.active = true → (matchEnd self f).1.matchFn ≠ none) ∧
      (matchEnd self f).2.countP Call.isMatch = 1 := by
  cases hs : self.stream with
  | true =>
    have he : matchEnd self f = (clearProgress self, [.matchFn f]) := by
      simp [matchEnd, clearProgress, hs]
    rw [he]
    exact ⟨rfl, hactive, progress_clear h, fun _ => by simp [clearProgress, hf], rfl⟩
  | false =>
    have he : matchEnd self f =
        ((reset (clearProgress self)).1, .matchFn f :: (reset (clearProgress self)).2) := by
      simp [matchEnd, clearProgress, hs]
    rw [he]
    refine ⟨rfl, rfl, ?_, fun hc => by simp [reset] at hc, ?_⟩
    · have hc : (clearProgress self).progress.length = (clearProgress self).patterns.length := by
        simpa [clearProgress] using h
      exact progress_clear hc
    · rw [List.countP_cons, countP_isMatch_reset]
      rfl

/-- The second half of `detect`, in a session and for patterns that are not complete. -/
lemma detectAdvance_spec (self : Seq β γ) {b : β} {g : List β → ℕ} {f : γ}
    (hp : self.progress = self.patterns.map g) (hg : ∀ pat ∈ self.patterns, g pat < pat.length)
    (hf : self.matchFn = some f) :
    ((∃ pat ∈ self.patterns, advance b pat (g pat) = pat.length) →
      ∃ progress, progress.length = self.patterns.length ∧
        detectAdvance self b = matchEnd { self with progress := progress } f) ∧
    ((¬ ∃ pat ∈ self.patterns, advance b pat (g pat) = pat.length) →
      detectAdvance self b =
        ({ self with progress := self.patterns.map fun pat => advance b pat (g pat) }, [])) := by
  obtain ⟨hc, hn⟩ := advanceLoop_spec b self.patterns g hg
  rw [← hp] at hc hn
  constructor
  · intro h
    refine ⟨(advanceLoop b self.patterns self.progress).progress, ?_, ?_⟩
    · rw [length_advanceLoop, hp, List.length_map]
    · simp only [detectAdvance, hc.mpr h, hf]
  · intro h
    have hfalse := Bool.eq_false_iff.mpr (mt hc.mp h)
    simp only [detectAdvance, hfalse, hn hfalse]

/-- The patterns of a new instance are the non-empty ones, and none has progress. -/
lemma new_spec (opts : Opts) (patterns : List (List β)) :
    (new opts patterns : Seq β γ).patterns = patterns.filter (fun pat => pat.length ≠ 0) ∧
      (new opts patterns : Seq β γ).progress =
        ((new opts patterns : Seq β γ).patterns.map fun pat => matched pat []) ∧
      (new opts patterns : Seq β γ).active = false := by
  have hfold : ∀ (pats : List (List β)) (self : Seq β γ),
      (pats.foldl addPattern self).patterns =
          self.patterns ++ pats.filter (fun pat => pat.length ≠ 0) ∧
        (self.progress = self.patterns.map (fun _ => 0) →
          (pats.foldl addPattern self).progress =
            (pats.foldl addPattern self).patterns.map fun _ => 0) ∧
        (pats.foldl addPattern self).active = self.active := by
    intro pats
    induction pats with
    | nil => simp
    | cons pat pats ih =>
      intro self
      obtain ⟨hpat, hprog, hact⟩ := ih (addPattern self pat)
      rw [List.foldl_cons]
      by_cases h : pat.length = 0
      · have he : addPattern self pat = self := if_pos h
        rw [he] at hpat hprog hact ⊢
        rw [List.filter_cons_of_neg (by simpa using h)]
        exact ⟨hpat, hprog, hact⟩
      · have he : addPattern self pat = { self with
            patterns := self.patterns ++ [pat], progress := self.progress ++ [0] } := if_neg h
        rw [he] at hpat hprog hact ⊢
        rw [List.filter_cons_of_pos (by simpa using h)]
        exact ⟨hpat.trans (List.append_cons _ _ _).symm, fun hs => hprog (by simp [hs]), hact⟩
  obtain ⟨hpat, hprog, hact⟩ := hfold patterns (configure {} opts)
  exact ⟨hpat, hprog rfl, hact⟩

/-! ## One operation -/

section Step

variable {m : Tracked β γ} {b : β} {f : γ} {timeoutFn startFn : Option γ}

/-- A tracked instance after a match, when the reference has one, too. -/
lemma agrees_matchEnd (self : Seq β γ) (calls : List (Call γ)) {presses : List β}
    (hpat : ∀ pat ∈ self.patterns, pat ≠ [])
    (h : self.progress.length = self.patterns.length) (hactive : self.active = true)
    (hf : self.matchFn = some f) (hcalls : calls.countP Call.isMatch = 0)
    (hdone : ∃ pat ∈ self.patterns, matched pat presses = pat.length) :
    Agrees ⟨(matchEnd self f).1,
        { active := self.stream, presses := [], completed := some presses },
        calls ++ (matchEnd self f).2⟩ ∧
      Keeps ⟨(matchEnd self f).1,
        { active := self.stream, presses := [], completed := some presses },
        calls ++ (matchEnd self f).2⟩ := by
  obtain ⟨hp, ha, hprog, hmatch, hcount⟩ := matchEnd_spec self h hactive hf
  refine ⟨⟨ha, by rw [hprog, hp], ?_, ?_⟩, ⟨?_, ?_, hmatch, fun _ => rfl⟩⟩
  · rw [List.countP_append, hcalls, hcount]
    rfl
  · rintro _ ⟨⟩
    obtain ⟨pat, hmem, hlen⟩ := hdone
    exact ⟨pat, hp ▸ hmem, hlen ▸ matched_le pat presses⟩
  · rwa [hp]
  · intro pat hmem
    rw [hp] at hmem
    exact List.length_pos_iff.mpr (hpat pat hmem)

/-- A press in a session.

**Proof sketch.** The second loop advances every pattern as the reference does, and it completes a
pattern iff the reference does. -/
lemma agrees_press_active (h : Agrees m) (hk : Keeps m) (ha : m.seq.active = true) (b : β) (f : γ)
    (timeoutFn startFn : Option γ) :
    Agrees (step m (.detect b f timeoutFn startFn)) ∧
      Keeps (step m (.detect b f timeoutFn startFn)) := by
  have hra : m.ref.active = true := h.active.symm.trans ha
  obtain ⟨f', hf'⟩ := Option.ne_none_iff_exists'.mp (hk.matchFn ha)
  have hdetect : ∃ tickCount, detect m.seq b (some f) timeoutFn startFn =
      detectAdvance { m.seq with tickCount := tickCount } b := by
    unfold detect
    split_ifs with hlen
    · rw [List.length_eq_zero_iff] at hlen
      refine ⟨m.seq.tickCount, ?_⟩
      have hprog : m.seq.progress = [] := by rw [h.progress, hlen, List.map_nil]
      simp only [detectAdvance, hlen, hprog, advanceLoop]
      rw [← hlen, ← hprog]
    · simp [ha] at *
    · exact ⟨0, rfl⟩
  obtain ⟨tickCount, hdetect⟩ := hdetect
  obtain ⟨hdone, hnot⟩ := detectAdvance_spec { m.seq with tickCount := tickCount }
    (b := b) h.progress hk.unfinished hf'
  simp only [step, Reference.press, hra, true_or, ↓reduceIte, hdetect, matched_concat]
  by_cases hex : ∃ pat ∈ m.seq.patterns, advance b pat (matched pat m.ref.presses) = pat.length
  · obtain ⟨progress, hlen, hadv⟩ := hdone hex
    rw [if_pos hex, hadv]
    exact agrees_matchEnd _ [] hk.nonempty hlen ha hf' rfl
      (by simpa only [matched_concat] using hex)
  · rw [if_neg hex, hnot hex]
    refine ⟨⟨ha, ?_, rfl, by simp⟩, ⟨hk.nonempty, fun pat hmem => ?_, fun _ => by simp [hf'],
      by simp⟩⟩
    · simp only [matched_concat]
    · exact lt_of_le_of_ne (matched_le_length _ _) fun he =>
        hex ⟨pat, hmem, (matched_concat _ _ _).symm.trans he⟩

/-- The session that a press starts. -/
def started (self : Seq β γ) (progress : List ℕ) (f : γ) (timeoutFn startFn : Option γ) :
    Seq β γ :=
  { self with
    progress := progress
    active := true
    matchFn := some f
    timeoutFn := timeoutFn
    startFn := startFn
    tickCount := 0 }

/-- The calls made when a session starts. -/
def startCalls (self : Seq β γ) (startFn : Option γ) : List (Call γ) :=
  (startFn.map Call.startFn).toList ++ [.tick self.intervalMs]

omit [DecidableEq β] in
/-- Starting a session makes no call of `match_fn`. -/
lemma countP_isMatch_startCalls (self : Seq β γ) (startFn : Option γ) :
    (startCalls self startFn).countP Call.isMatch = 0 := by
  cases startFn <;> rfl

/-- `[b]` is completed by one press `b`, and no other pattern is. -/
lemma matched_singleton_eq_length {pat : List β} (hpat : pat ≠ []) :
    matched pat [b] = pat.length ↔ pat = [b] := by
  have hlen := List.length_pos_iff.mpr hpat
  rw [eq_singleton_iff, matched_singleton]
  split_ifs with hb
  · exact ⟨fun he => ⟨hb, he.symm⟩, fun he => he.2.symm⟩
  · exact ⟨fun he => absurd he (by omega), fun he => absurd he.1 hb⟩

/-- The press that starts a session is a pattern by itself. -/
lemma agrees_press_single (h : Agrees m) (hk : Keeps m) (ha : m.seq.active = false)
    (hb : [b] ∈ m.seq.patterns) (f : γ) (timeoutFn startFn : Option γ) :
    Agrees (step m (.detect b f timeoutFn startFn)) ∧
      Keeps (step m (.detect b f timeoutFn startFn)) := by
  have hlen : m.seq.progress.length = m.seq.patterns.length := by rw [h.progress, List.length_map]
  obtain ⟨hstarts, hcompleted⟩ := startLoop_of_mem hlen hb
  have hdetect : detect m.seq b (some f) timeoutFn startFn =
      ((matchEnd (started m.seq (startLoop b m.seq.patterns m.seq.progress).progress f timeoutFn
          startFn) f).1, startCalls m.seq startFn ++
        (matchEnd (started m.seq (startLoop b m.seq.patterns m.seq.progress).progress f timeoutFn
          startFn) f).2) := by
    have hne : m.seq.patterns.length ≠ 0 := (List.length_pos_of_mem hb).ne'
    simp only [detect, hne, ha, hstarts, hcompleted, Bool.not_false, Bool.not_true, ↓reduceIte,
      Bool.false_eq_true]
    rfl
  have hpresses : m.ref.presses = [] := hk.idle (h.active ▸ ha)
  have hdone : ∃ pat ∈ m.seq.patterns, matched pat ([] ++ [b]) = pat.length :=
    ⟨[b], hb, (matched_singleton_eq_length (by simp)).mpr rfl⟩
  have hstart : m.ref.active = true ∨ ∃ pat ∈ m.seq.patterns, pat[0]? = some b :=
    .inr ⟨[b], hb, rfl⟩
  simp only [step, Reference.press, hpresses, if_pos hstart, if_pos hdone, hdetect]
  exact agrees_matchEnd (started m.seq _ f timeoutFn startFn) _ hk.nonempty
    ((length_startLoop _ _ _).trans hlen) rfl rfl (countP_isMatch_startCalls _ _) hdone

/-- A press that begins no pattern. -/
lemma agrees_press_none (h : Agrees m) (hk : Keeps m) (ha : m.seq.active = false)
    (hb : ¬ ∃ pat ∈ m.seq.patterns, pat[0]? = some b) (f : γ) (timeoutFn startFn : Option γ) :
    Agrees (step m (.detect b f timeoutFn startFn)) ∧
      Keeps (step m (.detect b f timeoutFn startFn)) := by
  have hlen : m.seq.progress.length = m.seq.patterns.length := by rw [h.progress, List.length_map]
  have hnot : [b] ∉ m.seq.patterns := fun hmem => hb ⟨[b], hmem, rfl⟩
  have hra : m.ref.active = false := h.active ▸ ha
  have hpresses : m.ref.presses = [] := hk.idle hra
  have hzero : (m.seq.patterns.map fun pat => matched pat [b]) = m.seq.progress := by
    rw [h.progress, hpresses]
    refine List.map_congr_left fun pat hmem => ?_
    rw [matched_singleton, if_neg fun he => hb ⟨pat, hmem, he⟩, matched_nil]
  have hdetect : detect m.seq b (some f) timeoutFn startFn = (m.seq, []) := by
    by_cases h0 : m.seq.patterns.length = 0
    · rw [detect, if_pos h0]
    · rw [detect, if_neg h0, if_pos (by rw [ha]; rfl)]
      simp only [startLoop_of_not_mem hlen hnot, hb, hzero, decide_false, Bool.not_false,
        ↓reduceIte]
  have hidle : ¬ (m.ref.active = true ∨ ∃ pat ∈ m.seq.patterns, pat[0]? = some b) := by
    simp [hra, hb]
  simp only [step, Reference.press, if_neg hidle, hdetect]
  exact ⟨⟨h.active, h.progress, rfl, by simp⟩, ⟨hk.nonempty, hk.unfinished, hk.matchFn, hk.idle⟩⟩

omit [DecidableEq β] in
/-- A pattern that begins with `b` twice. -/
lemma double_prefix_iff {pat : List β} : [b, b] <+: pat ↔ pat[0]? = some b ∧ pat[1]? = some b := by
  constructor
  · rintro ⟨l, rfl⟩
    simp
  · intro ⟨h0, h1⟩
    rcases pat with _ | ⟨x, _ | ⟨y, l⟩⟩
    · simp at h0
    · simp at h1
    · obtain rfl : x = b := by simpa using h0
      obtain rfl : y = x := by simpa using h1
      exact ⟨l, rfl⟩

/-- The second loop sees the press that has started the session again: it is consumed a second time
exactly by the patterns that begin with it twice. -/
lemma advance_matched_singleton (pat : List β) :
    advance b pat (matched pat [b]) = matched pat [b] ↔ ¬ [b, b] <+: pat := by
  rw [double_prefix_iff, matched_singleton]
  by_cases h0 : pat[0]? = some b
  · by_cases h1 : pat[1]? = some b
    · simp [advance, h0, h1]
    · simp [advance, h0, h1]
  · simp [advance, h0]

/-- The press starts a session without completing a pattern.

**Proof sketch.** The reference has counted one press. The code agrees iff the second loop changes
nothing: if it advances a pattern, the progress is wrong, or a pattern is completed that is not. -/
lemma agrees_press_start (h : Agrees m) (hk : Keeps m) (ha : m.seq.active = false)
    (hnot : [b] ∉ m.seq.patterns) (hb : ∃ pat ∈ m.seq.patterns, pat[0]? = some b) :
    (Agrees (step m (.detect b f timeoutFn startFn)) ↔
        ∀ pat ∈ m.seq.patterns, ¬ [b, b] <+: pat) ∧
      (Agrees (step m (.detect b f timeoutFn startFn)) →
        Keeps (step m (.detect b f timeoutFn startFn))) := by
  have hlen : m.seq.progress.length = m.seq.patterns.length := by rw [h.progress, List.length_map]
  have hpresses : m.ref.presses = [] := hk.idle (h.active ▸ ha)
  set self := started m.seq (m.seq.patterns.map fun pat => matched pat [b]) f timeoutFn startFn
    with hself
  have hdetect : detect m.seq b (some f) timeoutFn startFn =
      ((detectAdvance self b).1, startCalls m.seq startFn ++ (detectAdvance self b).2) := by
    have hne : m.seq.patterns.length ≠ 0 := by
      obtain ⟨pat, hmem, -⟩ := hb
      exact (List.length_pos_of_mem hmem).ne'
    simp only [detect, hne, ha, startLoop_of_not_mem hlen hnot, hb, decide_true, Bool.not_false,
      Bool.not_true, ↓reduceIte, Bool.false_eq_true]
    rfl
  have hunfinished : ∀ pat ∈ self.patterns, matched pat [b] < pat.length := fun pat hmem =>
    lt_of_le_of_ne (matched_le_length _ _) fun he =>
      hnot ((matched_singleton_eq_length (hk.nonempty pat hmem)).mp he ▸ hmem)
  have hopen : ¬ ∃ pat ∈ m.seq.patterns, matched pat ([] ++ [b]) = pat.length := by
    rintro ⟨pat, hmem, he⟩
    exact (hunfinished pat hmem).ne he
  have hstart : m.ref.active = true ∨ ∃ pat ∈ m.seq.patterns, pat[0]? = some b := .inr hb
  obtain ⟨hdone, hrest⟩ := detectAdvance_spec self (b := b) (f := f) rfl hunfinished rfl
  simp only [step, Reference.press, hpresses, if_pos hstart, if_neg hopen, hdetect]
  by_cases hex : ∃ pat ∈ self.patterns, advance b pat (matched pat [b]) = pat.length
  · -- a pattern is completed by the second count
    have hnotAgrees : ¬ Agrees ⟨(detectAdvance self b).1,
        { active := true, presses := [] ++ [b], completed := none },
        startCalls m.seq startFn ++ (detectAdvance self b).2⟩ := by
      intro hc
      obtain ⟨progress, hplen, hadv⟩ := hdone hex
      have hcount := hc.called
      obtain ⟨-, -, -, -, hone⟩ := matchEnd_spec { self with progress := progress }
        (f := f) hplen rfl rfl
      rw [hadv, List.countP_append, hone, countP_isMatch_startCalls] at hcount
      simp at hcount
    obtain ⟨pat, hmem, he⟩ := hex
    refine ⟨⟨fun hc => absurd hc hnotAgrees, fun hall => ?_⟩, fun hc => absurd hc hnotAgrees⟩
    rw [(advance_matched_singleton pat).mpr (hall pat hmem)] at he
    exact absurd he (hunfinished pat hmem).ne
  · rw [hrest hex]
    refine ⟨⟨fun hc pat hmem => ?_, fun hall => ?_⟩, fun _ => ?_⟩
    · exact (advance_matched_singleton pat).mp ((List.map_inj_left.mp hc.progress) pat hmem)
    · refine ⟨rfl, ?_, ?_, by simp⟩
      · exact List.map_congr_left fun pat hmem =>
          (advance_matched_singleton pat).mpr (hall pat hmem)
      · rw [List.append_nil, countP_isMatch_startCalls]
        rfl
    · exact ⟨hk.nonempty, hunfinished, fun _ => by simp [hself, started], by simp⟩

/-- A press outside a session. -/
lemma agrees_press_idle (h : Agrees m) (hk : Keeps m) (ha : m.seq.active = false) (b : β) (f : γ)
    (timeoutFn startFn : Option γ) :
    (Agrees (step m (.detect b f timeoutFn startFn)) ↔
        [b] ∈ m.seq.patterns ∨ ∀ pat ∈ m.seq.patterns, ¬ [b, b] <+: pat) ∧
      (Agrees (step m (.detect b f timeoutFn startFn)) →
        Keeps (step m (.detect b f timeoutFn startFn))) := by
  by_cases hmem : [b] ∈ m.seq.patterns
  · obtain ⟨hg, hk'⟩ := agrees_press_single h hk ha hmem f timeoutFn startFn
    exact ⟨⟨fun _ => .inl hmem, fun _ => hg⟩, fun _ => hk'⟩
  · by_cases hb : ∃ pat ∈ m.seq.patterns, pat[0]? = some b
    · simpa only [hmem, false_or] using agrees_press_start h hk ha hmem hb
    · obtain ⟨hg, hk'⟩ := agrees_press_none h hk ha hb f timeoutFn startFn
      refine ⟨⟨fun _ => .inr fun pat hpat hpre => hb ⟨pat, hpat, ?_⟩, fun _ => hg⟩, fun _ => hk'⟩
      exact (double_prefix_iff.mp hpre).1

/-- The end of a session: the progress is cleared, and `match_fn` is not called. -/
lemma agrees_reset (self : Seq β γ) (calls : List (Call γ)) (hpat : ∀ pat ∈ self.patterns, pat ≠ [])
    (hlen : self.progress.length = self.patterns.length)
    (hcalls : calls.countP Call.isMatch = 0) :
    Agrees ⟨(reset self).1, {}, calls ++ (reset self).2⟩ ∧
      Keeps ⟨(reset self).1, {}, calls ++ (reset self).2⟩ := by
  refine ⟨⟨rfl, progress_clear hlen, ?_, by simp⟩, ⟨hpat, fun pat hmem => ?_, ?_, fun _ => rfl⟩⟩
  · rw [List.countP_append, hcalls, countP_isMatch_reset]
    rfl
  · exact List.length_pos_iff.mpr (hpat pat hmem)
  · intro hactive
    exact absurd hactive Bool.false_ne_true

/-- The heartbeat ends the session or does nothing to it. -/
lemma agrees_heartbeat (h : Agrees m) (hk : Keeps m) :
    Agrees (step m .heartbeat) ∧ Keeps (step m .heartbeat) := by
  have hlen : m.seq.progress.length = m.seq.patterns.length := by rw [h.progress, List.length_map]
  by_cases hout : m.seq.active = true ∧ m.seq.threshold < (m.seq.tickCount + 1 : ℕ)
  · have hhandler : handler m.seq =
        ((reset { m.seq with tickCount := m.seq.tickCount + 1, timeoutFn := none }).1,
          (m.seq.timeoutFn.map Call.timeoutFn).toList ++
            (reset { m.seq with tickCount := m.seq.tickCount + 1, timeoutFn := none }).2) :=
      if_pos hout
    simp only [step, hhandler]
    exact agrees_reset { m.seq with tickCount := m.seq.tickCount + 1, timeoutFn := none } _
      hk.nonempty hlen (by cases m.seq.timeoutFn <;> rfl)
  · have hhandler : handler m.seq = ({ m.seq with tickCount := m.seq.tickCount + 1 }, []) :=
      if_neg hout
    simp only [step, hhandler]
    cases hactive : m.seq.active with
    | true =>
      rw [if_pos rfl]
      exact ⟨⟨hactive ▸ h.active, h.progress, rfl, by simp⟩,
        ⟨hk.nonempty, hk.unfinished, fun _ => hk.matchFn hactive, hk.idle⟩⟩
    | false =>
      have hpresses : m.ref.presses = [] := hk.idle (h.active ▸ hactive)
      rw [if_neg Bool.false_ne_true]
      refine ⟨⟨rfl, ?_, rfl, by simp⟩, ⟨hk.nonempty, ?_, by simp, fun _ => rfl⟩⟩
      · rw [h.progress, hpresses]
      · exact hpresses ▸ hk.unfinished

end Step

/-! ## Runs -/

/-- One operation: the instance stays in agreement with the reference iff no press is consumed
twice. -/
lemma agrees_step {m : Tracked β γ} (op : Op β γ) (h : Agrees m) (hk : Keeps m) :
    (Agrees (step m op) ↔ NotDoubled m op) ∧ (Agrees (step m op) → Keeps (step m op)) := by
  have hlen : m.seq.progress.length = m.seq.patterns.length := by rw [h.progress, List.length_map]
  cases op with
  | detect b f timeoutFn startFn =>
    cases ha : m.seq.active with
    | true =>
      obtain ⟨hg, hk'⟩ := agrees_press_active h hk ha b f timeoutFn startFn
      exact ⟨⟨fun _ => by simp [NotDoubled, ha], fun _ => hg⟩, fun _ => hk'⟩
    | false =>
      obtain ⟨hiff, hk'⟩ := agrees_press_idle h hk ha b f timeoutFn startFn
      exact ⟨hiff.trans ⟨fun hd _ => hd, fun hd => hd ha⟩, hk'⟩
  | heartbeat =>
    obtain ⟨hg, hk'⟩ := agrees_heartbeat h hk
    exact ⟨⟨fun _ => trivial, fun _ => hg⟩, fun _ => hk'⟩
  | reset =>
    obtain ⟨hg, hk'⟩ := agrees_reset m.seq [] hk.nonempty hlen rfl
    exact ⟨⟨fun _ => trivial, fun _ => hg⟩, fun _ => hk'⟩

/-- A new instance agrees with its reference. -/
lemma agrees_start (opts : Opts) (patterns : List (List β)) :
    Agrees (start opts patterns : Tracked β γ) ∧ Keeps (start opts patterns : Tracked β γ) := by
  obtain ⟨hpat, hprog, hactive⟩ := new_spec (γ := γ) opts patterns
  have hne : ∀ pat ∈ (new opts patterns : Seq β γ).patterns, pat ≠ [] := by
    intro pat hmem
    rw [hpat, List.mem_filter] at hmem
    exact List.ne_nil_of_length_pos (Nat.pos_of_ne_zero (by simpa using hmem.2))
  refine ⟨⟨hactive, hprog, rfl, by simp [start]⟩, ⟨hne, fun pat hmem => ?_, ?_, fun _ => rfl⟩⟩
  · exact List.length_pos_iff.mpr (hne pat hmem)
  · intro ha
    exact absurd (hactive.symm.trans ha) Bool.false_ne_true

/-- **The matcher follows the greedy reference exactly as long as no press is consumed twice.** In
every run of presses, heartbeats and resets, all patterns have the progress of their greedy match
after every operation, and `match_fn` is called exactly by the presses that complete a pattern, iff
every press outside a session is a pattern by itself or no pattern begins with it twice.

**Proof sketch.** One operation keeps the agreement iff it meets the condition (`agrees_step`), and
with the agreement it keeps the invariant. -/
theorem agrees_iff_notDoubled (opts : Opts) (patterns : List (List β)) (ops : List (Op β γ)) :
    Run.Always step Agrees (start opts patterns) ops ↔
      Run.EachStep step NotDoubled (start opts patterns) ops := by
  obtain ⟨h, hk⟩ := agrees_start (γ := γ) opts patterns
  refine Run.always_iff_eachStep_of_step (I := Keeps) ?_ ?_ hk h ops
  · intro m op hk h hc
    exact (agrees_step op h hk).2 ((agrees_step op h hk).1.mpr hc)
  · intro m op hk h
    exact (agrees_step op h hk).1

/-- In agreement, the progress of a pattern is its longest prefix that is a subsequence of the
presses. -/
theorem Agrees.sublist_iff {m : Tracked β γ} (h : Agrees m) {i : ℕ} {pat : List β}
    (hi : m.seq.patterns[i]? = some pat) {n : ℕ} (hn : n ≤ pat.length) :
    ∃ k, m.seq.progress[i]? = some k ∧ (List.Sublist (pat.take n) m.ref.presses ↔ n ≤ k) := by
  refine ⟨matched pat m.ref.presses, ?_, take_sublist_iff pat m.ref.presses hn⟩
  rw [h.progress, List.getElem?_map, hi, Option.map_some]

/-- **Half of the presses.** The pattern of two presses of button 1 is completed by the first. -/
theorem not_agrees_doubled :
    ¬ ∀ (opts : Opts) (patterns : List (List ℕ)) (ops : List (Op ℕ Unit)), patterns ≠ [] →
      (∀ pat ∈ patterns, pat ≠ []) → Run.Always step Agrees (start opts patterns) ops := by
  intro h
  have hlast := (h {} [[1, 1]] [.detect 1 () none none] (by simp) (by simp)).last
  exact absurd hlast.called (by decide +kernel)

end Aelkey.Sequence
