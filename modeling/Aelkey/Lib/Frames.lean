import Mathlib.Data.List.Infix

set_option relaxedAutoImplicit false
set_option autoImplicit false

/-!
# Cutting a stream into frames

Some elements of a stream end a frame. A reader that collects elements until one of these has come
cuts the stream into frames, with a rest that is not complete. There is only one way to cut a stream
like this, so that it does not matter in which portions the stream is read.

## Main definitions

* `Frames.IsFrame` — the last element ends a frame, and no other does.
* `Frames.Cuts` — a stream is cut into frames and a rest.

## Main results

* `Frames.Cuts.snoc`, `Frames.Cuts.close` — one more element.
* `Frames.Cuts.unique` — there is one way to cut a stream.
-/

namespace Frames

variable {α : Type*} (ends : α → Prop)

/-- The last element ends a frame, and no other does. -/
def IsFrame (l : List α) : Prop := ∃ init last, l = init ++ [last] ∧ ends last ∧ ∀ e ∈ init, ¬ ends e

/-- The stream `l` consists of the frames `pieces` and of the incomplete frame `rest`. -/
structure Cuts (l : List α) (pieces : List (List α)) (rest : List α) : Prop where
  eq : l = pieces.flatten ++ rest
  frames : ∀ p ∈ pieces, IsFrame ends p
  open_rest : ∀ e ∈ rest, ¬ ends e

variable {ends}

/-- The empty stream. -/
lemma Cuts.nil : Cuts ends ([] : List α) [] [] := ⟨rfl, by simp, by simp⟩

/-- One more element that does not end a frame. -/
lemma Cuts.snoc {l : List α} {pieces : List (List α)} {rest : List α} (h : Cuts ends l pieces rest)
    {e : α} (he : ¬ ends e) : Cuts ends (l ++ [e]) pieces (rest ++ [e]) := by
  refine ⟨by rw [h.eq, List.append_assoc], h.frames, fun x hx => ?_⟩
  rcases List.mem_append.mp hx with hx | hx
  · exact h.open_rest x hx
  · rwa [List.mem_singleton.mp hx]

/-- One more element that ends the frame. -/
lemma Cuts.close {l : List α} {pieces : List (List α)} {rest : List α} (h : Cuts ends l pieces rest)
    {e : α} (he : ends e) : Cuts ends (l ++ [e]) (pieces ++ [rest ++ [e]]) [] := by
  refine ⟨?_, fun p hp => ?_, by simp⟩
  · rw [h.eq, List.flatten_append, List.flatten_singleton, List.append_nil, List.append_assoc]
  · rcases List.mem_append.mp hp with hp | hp
    · exact h.frames p hp
    · rw [List.mem_singleton.mp hp]
      exact ⟨rest, e, rfl, he, h.open_rest⟩

/-- The first frame of a stream is determined by the stream. -/
lemma IsFrame.append_inj {p q l l' : List α} (hp : IsFrame ends p) (hq : IsFrame ends q)
    (h : p ++ l = q ++ l') : p = q ∧ l = l' := by
  obtain ⟨init, last, rfl, hlast, hinit⟩ := hp
  obtain ⟨init', last', rfl, hlast', hinit'⟩ := hq
  induction init generalizing init' with
  | nil =>
    cases init' with
    | nil =>
      obtain ⟨rfl, rfl⟩ := List.cons_eq_cons.mp h
      exact ⟨rfl, rfl⟩
    | cons e init' =>
      obtain ⟨rfl, -⟩ := List.cons_eq_cons.mp h
      exact absurd hlast (hinit' _ (List.mem_cons_self ..))
  | cons e init ih =>
    cases init' with
    | nil =>
      obtain ⟨rfl, -⟩ := List.cons_eq_cons.mp h
      exact absurd hlast' (hinit _ (List.mem_cons_self ..))
    | cons e' init' =>
      obtain ⟨rfl, htail⟩ := List.cons_eq_cons.mp h
      obtain ⟨heq, hrest⟩ := ih (fun x hx => hinit x (List.mem_cons_of_mem _ hx)) init' htail
        fun x hx => hinit' x (List.mem_cons_of_mem _ hx)
      exact ⟨congrArg (e :: ·) heq, hrest⟩

/-- A frame does not fit into an incomplete one. -/
lemma IsFrame.ne_append {p l rest : List α} (hp : IsFrame ends p) (hrest : ∀ e ∈ rest, ¬ ends e) :
    p ++ l ≠ rest := by
  obtain ⟨init, last, rfl, hlast, -⟩ := hp
  rintro rfl
  exact hrest last (by simp) hlast

/-- **There is only one way to cut a stream into frames and a rest.** -/
theorem Cuts.unique {l : List α} {pieces pieces' : List (List α)} {rest rest' : List α}
    (h : Cuts ends l pieces rest) (h' : Cuts ends l pieces' rest') :
    pieces = pieces' ∧ rest = rest' := by
  induction pieces generalizing l pieces' with
  | nil =>
    cases pieces' with
    | nil => exact ⟨rfl, h.eq.symm.trans h'.eq⟩
    | cons p pieces' =>
      have heq := h'.eq.symm.trans h.eq
      rw [List.flatten_cons, List.append_assoc] at heq
      exact absurd heq ((h'.frames p (List.mem_cons_self ..)).ne_append h.open_rest)
  | cons p pieces ih =>
    have hp := h.frames p (List.mem_cons_self ..)
    cases pieces' with
    | nil =>
      have heq := h.eq.symm.trans h'.eq
      rw [List.flatten_cons, List.append_assoc] at heq
      exact absurd heq (hp.ne_append h'.open_rest)
    | cons q pieces' =>
      have hq := h'.frames q (List.mem_cons_self ..)
      have heq := h.eq.symm.trans h'.eq
      rw [List.flatten_cons, List.flatten_cons, List.append_assoc, List.append_assoc] at heq
      obtain ⟨rfl, htail⟩ := hp.append_inj hq heq
      obtain ⟨rfl, rfl⟩ := ih
        ⟨rfl, fun x hx => h.frames x (List.mem_cons_of_mem _ hx), h.open_rest⟩
        ⟨htail, fun x hx => h'.frames x (List.mem_cons_of_mem _ hx), h'.open_rest⟩
      exact ⟨rfl, rfl⟩

end Frames
