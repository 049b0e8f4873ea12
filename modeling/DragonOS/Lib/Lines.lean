import Mathlib.Algebra.Order.Ring.Int
import Mathlib.Data.List.Basic
import Mathlib.Order.Bounds.Basic
import Mathlib.Tactic.Common

/-!
# Lines of weighted items

A text is a list whose separators end its lines, and each item moves a pen by its
weight. `placed` says where each item stands. The widest line (`widest`) is the
farthest that the pen comes (`isGreatest_widest`).
-/

namespace DragonOS.Lib

/-- An item with its line and the distance of its left edge from the line's. -/
structure Placed (α : Type) where
  line : Nat
  offset : Nat
  item : α
  deriving DecidableEq, Repr

section
variable {α : Type} [DecidableEq α] (separator : α) (weight : α → Nat)

/-- The places of the items when the pen stands at `offset` on `line`. -/
def placed : (line offset : Nat) → List α → List (Placed α)
  | _, _, [] => []
  | line, offset, item :: rest =>
    if item = separator then placed (line + 1) 0 rest
    else ⟨line, offset, item⟩ :: placed line (offset + weight item) rest

def lineWidth (line : List α) : Nat := (line.map weight).sum

/-- The width of the widest line; the pen stands at `offset` on the first. -/
def widestFrom (offset : Nat) (text : List α) : Nat :=
  ((text.splitOn separator).tail.map (lineWidth weight)).foldr max
    (offset + lineWidth weight ((text.splitOn separator).headD []))

def widest (text : List α) : Nat := ((text.splitOn separator).map (lineWidth weight)).foldr max 0

end

-- ---------------------------------------------------------------------------
-- One item after the other
-- ---------------------------------------------------------------------------

section
variable {α : Type} [DecidableEq α] {separator : α} {weight : α → Nat} {offset line : Nat}

theorem foldr_max_eq (widths : List Nat) (first : Nat) :
    widths.foldr max first = max first (widths.foldr max 0) := by
  induction widths with
  | nil => simp
  | cons width widths ih => rw [List.foldr_cons, List.foldr_cons, ih, max_left_comm]

theorem widestFrom_zero (text : List α) :
    widestFrom separator weight 0 text = widest separator weight text := by
  rw [widestFrom, widest, Nat.zero_add, foldr_max_eq]
  cases hlines : text.splitOn separator with
  | nil => simp [lineWidth]
  | cons first rest => simp

@[simp] theorem widestFrom_nil : widestFrom separator weight offset [] = offset := by
  simp [widestFrom, lineWidth]

theorem widestFrom_separator (rest : List α) :
    widestFrom separator weight offset (separator :: rest) =
      max offset (widestFrom separator weight 0 rest) := by
  rw [widestFrom_zero, widestFrom, List.splitOn_cons_eq_if_modifyHead, if_pos (by simp),
    foldr_max_eq]
  simp [widest, lineWidth]

theorem widestFrom_item {item : α} (h : item ≠ separator) (rest : List α) :
    widestFrom separator weight offset (item :: rest) =
      widestFrom separator weight (offset + weight item) rest := by
  rw [widestFrom, widestFrom, List.splitOn_cons_eq_if_modifyHead, if_neg (by simpa using h)]
  cases hlines : rest.splitOn separator with
  | nil => exact absurd hlines (List.splitOn_ne_nil _ _)
  | cons first lines => simp [lineWidth, Nat.add_assoc]

-- ---------------------------------------------------------------------------
-- The farthest point
-- ---------------------------------------------------------------------------

/-- Where the pen comes: it starts at `offset`, and leaves each item on its right. -/
def reached (separator : α) (weight : α → Nat) (line offset : Nat) (text : List α) : Set Nat :=
  insert offset {x | ∃ place ∈ placed separator weight line offset text,
    x = place.offset + weight place.item}

theorem isGreatest_widestFrom (line offset : Nat) (text : List α) :
    IsGreatest (reached separator weight line offset text)
      (widestFrom separator weight offset text) := by
  induction text generalizing line offset with
  | nil => simp [reached, placed, IsGreatest]
  | cons item rest ih =>
    by_cases hitem : item = separator
    · subst hitem
      obtain ⟨hmem, hbound⟩ := ih (line + 1) 0
      rw [widestFrom_separator, reached, placed, if_pos rfl]
      constructor
      · rcases le_total offset (widestFrom item weight 0 rest) with hle | hle
        · rw [max_eq_right hle]
          rcases hmem with hzero | hplace
          · -- Nothing on the lines that follow moves the pen.
            rw [hzero] at hle ⊢
            exact .inl (Nat.le_zero.mp hle).symm
          · exact .inr hplace
        · rw [max_eq_left hle]
          exact .inl rfl
      · rintro x (rfl | hplace)
        · exact le_max_left ..
        · exact (hbound (.inr hplace)).trans (le_max_right ..)
    · obtain ⟨hmem, hbound⟩ := ih line (offset + weight item)
      rw [widestFrom_item hitem, reached, placed, if_neg hitem]
      constructor
      · refine .inr ?_
        rcases hmem with hhere | ⟨place, hplace, hend⟩
        · exact ⟨_, List.mem_cons_self, hhere⟩
        · exact ⟨place, List.mem_cons_of_mem _ hplace, hend⟩
      · rintro x (rfl | ⟨place, hplace, rfl⟩)
        · exact (Nat.le_add_right ..).trans (hbound (.inl rfl))
        · rcases List.mem_cons.mp hplace with rfl | hplace
          · exact hbound (.inl rfl)
          · exact hbound (.inr ⟨place, hplace, rfl⟩)

theorem isGreatest_widest (text : List α) :
    IsGreatest (reached separator weight 0 0 text) (widest separator weight text) :=
  by
  rw [← widestFrom_zero]
  exact isGreatest_widestFrom 0 0 text

theorem placed_end_le {place : Placed α} {text : List α}
    (h : place ∈ placed separator weight line offset text) :
    place.offset + weight place.item ≤ widestFrom separator weight offset text :=
  (isGreatest_widestFrom line offset text).2 (.inr ⟨place, h, rfl⟩)

end

end DragonOS.Lib
