import Mathlib.Algebra.Ring.Int.Defs
import Mathlib.Data.List.Count
import Mathlib.Data.List.Infix
import Mathlib.Tactic.Ring

set_option relaxedAutoImplicit false
set_option autoImplicit false

/-!
# Input events and key counts

An input event has a type, a code and a value. A key event of value `1` is a press and one of
value `0` a release. The *net* count of a key in a stream is the number of its presses minus the
number of its releases; a stream that is to leave a key as it found it has net count zero.

## Main definitions

* `Evdev.InputEvent` — type, code and value.
* `Evdev.presses`, `Evdev.releases`, `Evdev.net` — the counts of a key in a stream.
* `Evdev.IsDown` — the last event of a key in a stream is a press.
* `Evdev.Strict` — presses are of keys that are up, and releases of keys that are down.
* `Evdev.OneAtATime` — never are two keys down at once.
* `Evdev.restrict` — the events of a set of keys.

## Main results

* `Evdev.net_append` — net counts add up over consecutive streams.
* `Evdev.net_map_keyPress`, `Evdev.net_map_keyRelease` — pressing or releasing the keys of a list
  counts the list.
* `Evdev.isDown_append_presses`, `Evdev.isDown_append_releases` — what pressing or releasing the
  keys of a list does to the keys that are down.
* `Evdev.strict_append_presses`, `Evdev.strict_append_releases` — when they may follow in a strict
  stream.
* `Evdev.isDown_append_diff`, `Evdev.strict_append_diff` — the same for a change from one set of
  keys to another.
-/

namespace Evdev

/-- An input event with values in `ν`. -/
structure InputEvent (ν : Type*) where
  type : String
  code : String
  value : ν
deriving DecidableEq

variable {ν : Type*}

/-- The key event of `code` with the given value. -/
def key (code : String) (value : ν) : InputEvent ν := ⟨"EV_KEY", code, value⟩

/-- Key events are equal iff their codes and their values are. -/
lemma key_inj {c c' : String} {v v' : ν} : key c v = key c' v' ↔ c = c' ∧ v = v' := by
  simp [key]

section Down

variable [One ν]

/-- The key `c` is down after a stream if the last of its events, if any, has value `1`. -/
def IsDown (c : String) (l : List (InputEvent ν)) : Prop :=
  (l.filter (fun e => e.type = "EV_KEY" ∧ e.code = c)).getLast?.map (·.value) = some 1

instance [DecidableEq ν] (c : String) (l : List (InputEvent ν)) : Decidable (IsDown c l) :=
  inferInstanceAs (Decidable (_ = _))

/-- After one more key event, its key is down iff it is a press, and the other keys are as
before. -/
lemma isDown_append_key (c c' : String) (l : List (InputEvent ν)) (v : ν) :
    IsDown c (l ++ [key c' v]) ↔ if c' = c then v = 1 else IsDown c l := by
  by_cases h : c' = c
  · simp [IsDown, key, h]
  · simp [IsDown, key, h]

/-- Events of other keys and of other types leave a key as it is. -/
lemma isDown_append_other {c : String} (l : List (InputEvent ν)) {l' : List (InputEvent ν)}
    (h : ∀ e ∈ l', e.type = "EV_KEY" → e.code ≠ c) : IsDown c (l ++ l') ↔ IsDown c l := by
  have hnil : l'.filter (fun e => e.type = "EV_KEY" ∧ e.code = c) = [] := by
    rw [List.filter_eq_nil_iff]
    intro e he
    simpa using h e he
  rw [IsDown, List.filter_append, hnil, List.append_nil, IsDown]

/-- The events of one kind for the keys of a list decide about these keys. -/
lemma isDown_append_keys (c : String) (l : List (InputEvent ν)) (codes : List String) (v : ν) :
    IsDown c (l ++ codes.map (key · v)) ↔ if c ∈ codes then v = 1 else IsDown c l := by
  induction codes generalizing l with
  | nil => simp
  | cons c' codes ih =>
    rw [List.map_cons, List.append_cons, ih, isDown_append_key]
    by_cases h : c' = c
    · simp [h]
    · simp [h, Ne.symm h]

/-- Pressing the keys of a list puts them down. -/
lemma isDown_append_presses (c : String) (l : List (InputEvent ν)) (codes : List String) :
    IsDown c (l ++ codes.map (key · (1 : ν))) ↔ c ∈ codes ∨ IsDown c l := by
  rw [isDown_append_keys]
  split_ifs with h <;> simp [h]

variable [Zero ν] [NeZero (1 : ν)]

/-- Releasing the keys of a list leaves the others that are down. -/
lemma isDown_append_releases (c : String) (l : List (InputEvent ν)) (codes : List String) :
    IsDown c (l ++ codes.map (key · (0 : ν))) ↔ c ∉ codes ∧ IsDown c l := by
  rw [isDown_append_keys]
  split_ifs with h <;> simp [h]

/-- A key event may follow a stream: a press if its key is up, a release if it is down. -/
def MayFollow (l : List (InputEvent ν)) (e : InputEvent ν) : Prop :=
  e.type = "EV_KEY" → (e.value = 1 → ¬ IsDown e.code l) ∧ (e.value = 0 → IsDown e.code l)

/-- Every press of a strict stream is of a key that is up, and every release of one that is
down. -/
def Strict (l : List (InputEvent ν)) : Prop :=
  ∀ pre e, pre ++ [e] <+: l → MayFollow pre e

omit [NeZero (1 : ν)] in
/-- The empty stream is strict. -/
lemma strict_nil : Strict ([] : List (InputEvent ν)) := by
  intro pre e h
  simp at h

omit [NeZero (1 : ν)] in
/-- One more event. -/
lemma strict_concat (l : List (InputEvent ν)) (e : InputEvent ν) :
    Strict (l ++ [e]) ↔ Strict l ∧ MayFollow l e := by
  constructor
  · intro h
    exact ⟨fun pre e' hp => h pre e' (hp.trans (List.prefix_append l [e])),
      h l e List.prefix_rfl⟩
  · intro ⟨h, he⟩ pre e' hp
    rcases List.prefix_concat_iff.mp hp with heq | hp
    · obtain ⟨rfl, hlast⟩ := List.append_inj' heq rfl
      rwa [List.singleton_inj.mp hlast]
    · exact h pre e' hp

/-- A press may follow if its key is up. -/
lemma mayFollow_press (c : String) (l : List (InputEvent ν)) :
    MayFollow l (key c 1) ↔ ¬ IsDown c l := by
  simp [MayFollow, key]

/-- A release may follow if its key is down. -/
lemma mayFollow_release (c : String) (l : List (InputEvent ν)) :
    MayFollow l (key c 0) ↔ IsDown c l := by
  simp [MayFollow, key]

omit [NeZero (1 : ν)] in
/-- The events of one kind for different keys form a strict stream if each of them may come
first. -/
lemma strict_append_keys (l : List (InputEvent ν)) {codes : List String} (hn : codes.Nodup)
    (v : ν) :
    Strict (l ++ codes.map (key · v)) ↔ Strict l ∧ ∀ c ∈ codes, MayFollow l (key c v) := by
  induction codes generalizing l with
  | nil => simp
  | cons c codes ih =>
    obtain ⟨hc, hn⟩ := List.nodup_cons.mp hn
    rw [List.map_cons, List.append_cons, ih _ hn, strict_concat, List.forall_mem_cons, and_assoc]
    refine and_congr_right fun _ => and_congr_right fun _ => forall₂_congr fun c' hc' => ?_
    have hne : c ≠ c' := fun he => hc (he ▸ hc')
    have hdown : IsDown c' (l ++ [key c v]) ↔ IsDown c' l := by
      rw [isDown_append_key, if_neg hne]
    have hcode : (key c' v).code = c' := rfl
    rw [MayFollow, MayFollow, hcode, hdown]

/-- The keys of a list may be pressed if they are different and up. -/
lemma strict_append_presses (l : List (InputEvent ν)) {codes : List String} (hn : codes.Nodup) :
    Strict (l ++ codes.map (key · (1 : ν))) ↔ Strict l ∧ ∀ c ∈ codes, ¬ IsDown c l := by
  simp only [strict_append_keys l hn, mayFollow_press]

/-- The keys of a list may be released if they are different and down. -/
lemma strict_append_releases (l : List (InputEvent ν)) {codes : List String} (hn : codes.Nodup) :
    Strict (l ++ codes.map (key · (0 : ν))) ↔ Strict l ∧ ∀ c ∈ codes, IsDown c l := by
  simp only [strict_append_keys l hn, mayFollow_release]

section Diff

variable {l : List (InputEvent ν)} {r p : List String} {A A' : String → Prop}
  (hr : ∀ c, c ∈ r ↔ A c ∧ ¬ A' c) (hp : ∀ c, c ∈ p ↔ A' c ∧ ¬ A c)

include hr hp

/-- **The difference of two sets of keys**: releasing the keys of `A` that are not in `A'` and
pressing those of `A'` that are not in `A`. The keys in none or both of the sets stay as they
are. -/
lemma isDown_append_diff (c : String) :
    IsDown c (l ++ r.map (key · (0 : ν)) ++ p.map (key · (1 : ν))) ↔
      A' c ∧ ¬ A c ∨ (A c → A' c) ∧ IsDown c l := by
  rw [isDown_append_presses, isDown_append_releases, hr, hp, not_and_not_right]

/-- When the difference may follow in a strict stream: the keys to be released are down and those
to be pressed are up. -/
lemma strict_append_diff (hrn : r.Nodup) (hpn : p.Nodup) :
    Strict (l ++ r.map (key · (0 : ν)) ++ p.map (key · (1 : ν))) ↔
      Strict l ∧ ∀ c, (A c → ¬ A' c → IsDown c l) ∧ (A' c → ¬ A c → ¬ IsDown c l) := by
  rw [strict_append_presses _ hpn, strict_append_releases _ hrn, and_assoc]
  refine and_congr_right fun _ => ?_
  simp only [isDown_append_releases, hr, hp]
  constructor
  · intro ⟨hdown, hup⟩ c
    exact ⟨fun h h' => hdown c ⟨h, h'⟩, fun h' h hd => hup c ⟨h', h⟩ ⟨fun hA => h hA.1, hd⟩⟩
  · intro h
    exact ⟨fun c hc => (h c).1 hc.1 hc.2, fun c hc hd => (h c).2 hc.1 hc.2 hd.2⟩

end Diff

/-- At no point of a stream are two keys down at once. -/
def OneAtATime (l : List (InputEvent ν)) : Prop :=
  ∀ pre, pre <+: l → ∀ c c', IsDown c pre → IsDown c' pre → c = c'

omit [Zero ν] [NeZero (1 : ν)] in
/-- One more event. -/
lemma oneAtATime_concat (l : List (InputEvent ν)) (e : InputEvent ν) :
    OneAtATime (l ++ [e]) ↔
      OneAtATime l ∧ ∀ c c', IsDown c (l ++ [e]) → IsDown c' (l ++ [e]) → c = c' := by
  constructor
  · exact fun h => ⟨fun pre hp => h pre (hp.trans (List.prefix_append l [e])),
      h _ List.prefix_rfl⟩
  · intro ⟨h, he⟩ pre hp
    rcases List.prefix_concat_iff.mp hp with rfl | hp
    · exact he
    · exact h pre hp

/-- Releases leave one key at a time. -/
lemma OneAtATime.append_releases {l : List (InputEvent ν)} (h : OneAtATime l)
    (codes : List String) : OneAtATime (l ++ codes.map (key · (0 : ν))) := by
  induction codes generalizing l with
  | nil => simpa using h
  | cons c₀ codes ih =>
    rw [List.map_cons, List.append_cons]
    refine ih ((oneAtATime_concat _ _).mpr ⟨h, fun c c' hc hc' => ?_⟩)
    rw [isDown_append_key] at hc hc'
    split_ifs at hc with h₁
    · exact absurd hc.symm one_ne_zero
    · split_ifs at hc' with h₂
      · exact absurd hc'.symm one_ne_zero
      · exact h l List.prefix_rfl c c' hc hc'

omit [Zero ν] [NeZero (1 : ν)] in
/-- Presses of a key when no other key is down. -/
lemma OneAtATime.append_presses {l : List (InputEvent ν)} (h : OneAtATime l) {codes : List String}
    (hone : ∀ c ∈ codes, ∀ c', c' ∈ codes ∨ IsDown c' l → c' = c) :
    OneAtATime (l ++ codes.map (key · (1 : ν))) := by
  induction codes generalizing l with
  | nil => simpa using h
  | cons c₀ codes ih =>
    have hkey : ∀ c, IsDown c (l ++ [key c₀ 1]) → c = c₀ := by
      intro c hc
      rw [isDown_append_key] at hc
      split_ifs at hc with h₁
      · exact h₁.symm
      · exact hone c₀ List.mem_cons_self c (.inr hc)
    rw [List.map_cons, List.append_cons]
    refine ih ((oneAtATime_concat _ _).mpr ⟨h, fun c c' hc hc' => ?_⟩) fun c hc c' hc' => ?_
    · rw [hkey c hc, hkey c' hc']
    · have hc₀ := hone c₀ List.mem_cons_self
      rw [hc₀ c (.inl (List.mem_cons_of_mem _ hc))]
      rcases hc' with hc' | hc'
      · exact hc₀ c' (.inl (List.mem_cons_of_mem _ hc'))
      · exact hkey c' hc'

/-- A change from one set of at most one key to another. -/
lemma OneAtATime.append_diff {l : List (InputEvent ν)} {r p : List String} {A A' : String → Prop}
    (hr : ∀ c, c ∈ r ↔ A c ∧ ¬ A' c) (hp : ∀ c, c ∈ p ↔ A' c ∧ ¬ A c)
    (h : OneAtATime l) (hdown : ∀ c, IsDown c l → A c) (hone : ∀ c c', A' c → A' c' → c = c') :
    OneAtATime (l ++ r.map (key · (0 : ν)) ++ p.map (key · (1 : ν))) := by
  refine (h.append_releases r).append_presses fun c hc c' hc' => ?_
  have hA' := ((hp c).mp hc).1
  rcases hc' with hc' | hc'
  · exact hone c' c ((hp c').mp hc').1 hA'
  · obtain ⟨hnot, hd⟩ := (isDown_append_releases c' l r).mp hc'
    by_contra hne
    exact hnot ((hr c').mpr ⟨hdown c' hd, fun h' => hne (hone c' c h' hA')⟩)

section Restrict

variable (S : String → Bool)

/-- The key events of a set of keys. -/
def restrict (l : List (InputEvent ν)) : List (InputEvent ν) :=
  l.filter fun e => e.type = "EV_KEY" ∧ S e.code = true

omit [One ν] [Zero ν] [NeZero (1 : ν)] in
/-- Restricting one stream after another. -/
lemma restrict_append (l l' : List (InputEvent ν)) :
    restrict S (l ++ l') = restrict S l ++ restrict S l' := List.filter_append ..

omit [One ν] [Zero ν] [NeZero (1 : ν)] in
/-- Other events are left out. -/
lemma restrict_eq_nil {l : List (InputEvent ν)}
    (h : ∀ e ∈ l, e.type = "EV_KEY" → S e.code = false) : restrict S l = [] := by
  rw [restrict, List.filter_eq_nil_iff]
  intro e he
  simpa using h e he

omit [One ν] [Zero ν] [NeZero (1 : ν)] in
/-- Events of the keys are kept. -/
lemma restrict_map_key {codes : List String} (h : ∀ c ∈ codes, S c = true) (v : ν) :
    restrict S (codes.map (key · v)) = codes.map (key · v) := by
  rw [restrict, List.filter_eq_self]
  intro e he
  obtain ⟨c, hc, rfl⟩ := List.mem_map.mp he
  simpa [key] using h c hc

variable {S}

omit [Zero ν] [NeZero (1 : ν)] in
/-- The restriction knows which of its keys are down. -/
lemma isDown_restrict {c : String} (hc : S c = true) (l : List (InputEvent ν)) :
    IsDown c (restrict S l) ↔ IsDown c l := by
  rw [IsDown, restrict, List.filter_filter, IsDown]
  have hfilter : (fun e : InputEvent ν => decide (e.type = "EV_KEY" ∧ e.code = c) &&
      decide (e.type = "EV_KEY" ∧ S e.code = true)) =
        fun e => decide (e.type = "EV_KEY" ∧ e.code = c) := by
    funext e
    by_cases h : e.type = "EV_KEY" ∧ e.code = c
    · simp [h.1, h.2, hc]
    · simp [h]
  rw [hfilter]

omit [NeZero (1 : ν)] in
/-- If the restriction is strict, its keys are pressed and released in turns in the stream. -/
lemma Strict.of_restrict {l : List (InputEvent ν)} (h : Strict (restrict S l))
    {pre : List (InputEvent ν)} {e : InputEvent ν} (hp : pre ++ [e] <+: l)
    (he : S e.code = true) : MayFollow pre e := by
  intro hkey
  have hpre : restrict S pre ++ [e] <+: restrict S l := by
    have := hp.filter fun e => decide (e.type = "EV_KEY" ∧ S e.code = true)
    rwa [List.filter_append, List.filter_singleton, decide_eq_true ⟨hkey, he⟩, cond_true] at this
  have := h _ _ hpre hkey
  rwa [isDown_restrict he] at this

omit [Zero ν] [NeZero (1 : ν)] in
/-- If at most one key of the restriction is down at once, the same holds in the stream. -/
lemma OneAtATime.of_restrict {l : List (InputEvent ν)} (h : OneAtATime (restrict S l))
    {pre : List (InputEvent ν)} (hp : pre <+: l) {c c' : String} (hc : S c = true)
    (hc' : S c' = true) (hd : IsDown c pre) (hd' : IsDown c' pre) : c = c' :=
  h (restrict S pre) (hp.filter _) c c' ((isDown_restrict hc pre).mpr hd)
    ((isDown_restrict hc' pre).mpr hd')

end Restrict

end Down

variable [DecidableEq ν]

/-- Counting a key event among the events of a list of codes with one value. -/
lemma count_map_key (c : String) (v w : ν) (codes : List String) :
    (codes.map (key · w)).count (key c v) = if v = w then codes.count c else 0 := by
  induction codes with
  | nil => simp
  | cons c' codes ih =>
    rw [List.map_cons, List.count_cons, ih, List.count_cons]
    by_cases hv : v = w
    · subst hv; simp [key_inj]
    · simp [hv, key_inj, Ne.symm hv]

variable [Zero ν] [One ν]

/-- The number of presses of `c` in a stream. -/
def presses (c : String) (l : List (InputEvent ν)) : ℕ := l.count (key c 1)

/-- The number of releases of `c` in a stream. -/
def releases (c : String) (l : List (InputEvent ν)) : ℕ := l.count (key c 0)

/-- A stream of presses and releases. -/
def OnlyKeys (l : List (InputEvent ν)) : Prop := ∀ e ∈ l, ∃ c, e = key c 1 ∨ e = key c 0

omit [DecidableEq ν] in
/-- Presses and releases of the keys of some lists. -/
lemma onlyKeys_diffs (r p r' p' : List String) :
    OnlyKeys (r.map (key · (0 : ν)) ++ p.map (key · (1 : ν)) ++ r'.map (key · (0 : ν)) ++
      p'.map (key · (1 : ν))) := by
  intro e he
  simp only [List.mem_append, List.mem_map] at he
  rcases he with ((⟨c, -, rfl⟩ | ⟨c, -, rfl⟩) | ⟨c, -, rfl⟩) | ⟨c, -, rfl⟩
  · exact ⟨c, .inr rfl⟩
  · exact ⟨c, .inl rfl⟩
  · exact ⟨c, .inr rfl⟩
  · exact ⟨c, .inl rfl⟩

/-- Two streams of presses and releases are the same up to their order iff they press and release
every key equally often. -/
lemma perm_iff_counts {l l' : List (InputEvent ν)} (h : OnlyKeys l) (h' : OnlyKeys l') :
    l.Perm l' ↔ ∀ c, releases c l = releases c l' ∧ presses c l = presses c l' := by
  rw [List.perm_iff_count]
  constructor
  · exact fun hc c => ⟨hc (key c 0), hc (key c 1)⟩
  · intro hc e
    by_cases he : ∃ c, e = key c 1 ∨ e = key c 0
    · obtain ⟨c, rfl | rfl⟩ := he
      · exact (hc c).2
      · exact (hc c).1
    · rw [List.count_eq_zero_of_not_mem fun hm => he (h e hm),
        List.count_eq_zero_of_not_mem fun hm => he (h' e hm)]

/-- Presses minus releases of `c` in a stream. -/
def net (c : String) (l : List (InputEvent ν)) : ℤ := (presses c l : ℤ) - releases c l

/-- Net counts add up over consecutive streams. -/
lemma net_append (c : String) (l₁ l₂ : List (InputEvent ν)) :
    net c (l₁ ++ l₂) = net c l₁ + net c l₂ := by
  simp only [net, presses, releases, List.count_append]
  push_cast
  ring

variable [NeZero (1 : ν)]

/-- Pressing the keys of a list counts the list. -/
lemma net_map_keyPress (c : String) (codes : List String) :
    net c (codes.map (key · (1 : ν))) = codes.count c := by
  simp [net, presses, releases, count_map_key]

/-- Releasing the keys of a list counts it with the opposite sign. -/
lemma net_map_keyRelease (c : String) (codes : List String) :
    net c (codes.map (key · (0 : ν))) = -(codes.count c : ℤ) := by
  simp [net, presses, releases, count_map_key]

end Evdev
