import Mathlib.Algebra.Order.Ring.Int
import Mathlib.Tactic.Common

/-!
# Framing in threes

A stream of units is cut into frames of three. A frame begins with a unit that
`starts` it; between frames, other units are dropped. `framing` says what that
means for a whole stream, `Framing.push` extends it by one unit, and
`framing_concat` makes the two agree, so a reader that keeps the pending units
can be stopped and resumed anywhere.
-/

namespace DragonOS.Lib

structure Framing (β : Type) where
  frames : List (β × β × β)
  pending : List β
  deriving DecidableEq, Repr

variable {β : Type} (starts : β → Prop) [DecidablePred starts]

def framing : List β → Framing β
  | [] => ⟨[], []⟩
  | first :: rest =>
    if starts first then
      match rest with
      | second :: third :: rest =>
        ⟨(first, second, third) :: (framing rest).frames, (framing rest).pending⟩
      | short => ⟨[], first :: short⟩
    else framing rest

def Framing.push (framed : Framing β) (unit : β) : Framing β :=
  match framed.pending with
  | [] => if starts unit then ⟨framed.frames, [unit]⟩ else framed
  | [first] => ⟨framed.frames, [first, unit]⟩
  | first :: second :: _ => ⟨framed.frames ++ [(first, second, unit)], []⟩

theorem Framing.push_cons (frame : β × β × β) (framed : Framing β) (unit : β) :
    Framing.push starts ⟨frame :: framed.frames, framed.pending⟩ unit =
      ⟨frame :: (framed.push starts unit).frames, (framed.push starts unit).pending⟩ := by
  obtain ⟨frames, pending⟩ := framed
  rcases pending with _ | ⟨first, _ | ⟨second, rest⟩⟩
  · simp only [push]
    split <;> rfl
  · rfl
  · rfl

theorem framing_cons_of_not {first : β} (h : ¬ starts first) (rest : List β) :
    framing starts (first :: rest) = framing starts rest := by
  rw [framing.eq_def]
  exact if_neg h

theorem framing_concat (units : List β) (unit : β) :
    framing starts (units ++ [unit]) = (framing starts units).push starts unit := by
  fun_induction framing starts units with
  | case1 => simp only [List.nil_append, framing, Framing.push]
  | case2 first hfirst second third rest ih =>
    rw [Framing.push_cons, ← ih]
    simp [framing, hfirst]
  | case3 first hfirst short hshort =>
    -- Fewer than three units: the new one completes the frame or waits with them.
    rcases short with _ | ⟨second, _ | ⟨third, rest⟩⟩
    · simp [framing, Framing.push, hfirst]
    · simp [framing, Framing.push, hfirst]
    · exact absurd rfl (hshort second third rest)
  | case4 first rest hfirst ih =>
    rw [← ih]
    exact framing_cons_of_not starts hfirst _

/-- A stream that is cut off somewhere has the frames up to there, and waits for the rest. -/
theorem framing_of_frames {starts : β → Prop} [DecidablePred starts] (frames : List (β × β × β))
    (hstarts : ∀ frame ∈ frames, starts frame.1) {received rest : List β}
    (hstream : (frames.flatMap fun frame => [frame.1, frame.2.1, frame.2.2]) = received ++ rest) :
    ∃ left, frames = (framing starts received).frames ++ left ∧
      (left.flatMap fun frame => [frame.1, frame.2.1, frame.2.2]) =
        (framing starts received).pending ++ rest := by
  induction frames generalizing received with
  | nil =>
    obtain ⟨rfl, rfl⟩ := List.append_eq_nil_iff.mp hstream.symm
    exact ⟨[], rfl, rfl⟩
  | cons frame frames ih =>
    obtain ⟨first, second, third⟩ := frame
    have hfirst : starts first := hstarts _ List.mem_cons_self
    rw [List.flatMap_cons] at hstream
    change first :: second :: third :: _ = _ at hstream
    rcases received with _ | ⟨a, _ | ⟨b, _ | ⟨c, received⟩⟩⟩
    · exact ⟨_, rfl, hstream⟩
    · obtain ⟨rfl, -⟩ := List.cons.inj hstream
      refine ⟨(first, second, third) :: frames, ?_, ?_⟩ <;> simp only [framing, if_pos hfirst]
      · rfl
      · exact hstream
    · obtain ⟨rfl, -⟩ := List.cons.inj hstream
      refine ⟨(first, second, third) :: frames, ?_, ?_⟩ <;> simp only [framing, if_pos hfirst]
      · rfl
      · exact hstream
    · obtain ⟨rfl, hsecond⟩ := List.cons.inj hstream
      obtain ⟨rfl, hthird⟩ := List.cons.inj hsecond
      obtain ⟨rfl, hrest⟩ := List.cons.inj hthird
      obtain ⟨left, hframes, hleft⟩ :=
        ih (fun frame hframe => hstarts frame (List.mem_cons_of_mem _ hframe)) hrest
      refine ⟨left, ?_, ?_⟩ <;> simp only [framing, if_pos hfirst]
      · rw [hframes, List.cons_append]
      · exact hleft

end DragonOS.Lib
