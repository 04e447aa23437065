import Mathlib.Data.Fintype.Card
import Mathlib.Tactic.Linarith

/-! Rectangular grids of cells: reading and writing one cell, writing a block of cells row by
row, and making a grid of another size from the cells of a given one. -/

structure Grid (α : Type*) where
  width : Nat
  height : Nat
  cell : Fin height → Fin width → α

namespace Grid

variable {α : Type*}

def filled (width height : Nat) (value : α) : Grid α := { width, height, cell := fun _ _ => value }

/-- The cell in a column and a row, if there is one. -/
def get? (grid : Grid α) (column row : Nat) : Option α :=
  if inside : row < grid.height ∧ column < grid.width then
    some (grid.cell ⟨row, inside.1⟩ ⟨column, inside.2⟩)
  else none

/-- Writing outside the grid changes nothing. -/
def set (grid : Grid α) (column row : Nat) (value : α) : Grid α :=
  { grid with cell := fun down across =>
      if down.val = row ∧ across.val = column then value else grid.cell down across }

def paintRow (grid : Grid α) (colour : Nat → Nat → α) (columns : List Nat) (row : Nat) : Grid α :=
  columns.foldl (fun grid column => grid.set column row (colour column row)) grid

def paint (grid : Grid α) (colour : Nat → Nat → α) (columns rows : List Nat) : Grid α :=
  rows.foldl (fun grid row => grid.paintRow colour columns row) grid

def resampled (grid : Grid α) (width height : Nat) (across : Fin width → Fin grid.width)
    (down : Fin height → Fin grid.height) : Grid α :=
  { width, height, cell := fun row column => grid.cell (down row) (across column) }

theorem get?_of_lt {grid : Grid α} {column row : Nat} (across : column < grid.width)
    (down : row < grid.height) : grid.get? column row = some (grid.cell ⟨row, down⟩ ⟨column, across⟩) :=
  dif_pos ⟨down, across⟩

theorem get?_filled {width height column row : Nat} (value : α) (across : column < width)
    (down : row < height) : (filled width height value).get? column row = some value :=
  get?_of_lt across down

theorem get?_set (grid : Grid α) (column row : Nat) (value : α) (column' row' : Nat) :
    (grid.set column row value).get? column' row' =
      if column' = column ∧ row' = row then (grid.get? column' row').map fun _ => value
      else grid.get? column' row' := by
  by_cases inside : row' < grid.height ∧ column' < grid.width
  · by_cases here : column' = column ∧ row' = row
    · simp [get?, set, here]
    · have other : ¬(row' = row ∧ column' = column) := fun same => here same.symm
      simp [get?, set, inside, here, other]
  · simp [get?, set, inside]

theorem size_paintRow (grid : Grid α) (colour : Nat → Nat → α) (columns : List Nat) (row : Nat) :
    (grid.paintRow colour columns row).width = grid.width ∧
      (grid.paintRow colour columns row).height = grid.height := by
  induction columns generalizing grid with
  | nil => exact ⟨rfl, rfl⟩
  | cons column rest ih => exact ih (grid.set column row (colour column row))

theorem size_paint (grid : Grid α) (colour : Nat → Nat → α) (columns rows : List Nat) :
    (grid.paint colour columns rows).width = grid.width ∧
      (grid.paint colour columns rows).height = grid.height := by
  induction rows generalizing grid with
  | nil => exact ⟨rfl, rfl⟩
  | cons row rest ih =>
      obtain ⟨width, height⟩ := ih (grid.paintRow colour columns row)
      obtain ⟨width', height'⟩ := grid.size_paintRow colour columns row
      exact ⟨width.trans width', height.trans height'⟩

theorem get?_paintRow (grid : Grid α) (colour : Nat → Nat → α) (columns : List Nat)
    (row column' row' : Nat) :
    (grid.paintRow colour columns row).get? column' row' =
      if column' ∈ columns ∧ row' = row then (grid.get? column' row').map fun _ => colour column' row'
      else grid.get? column' row' := by
  induction columns generalizing grid with
  | nil => simp [paintRow]
  | cons column rest ih =>
      have later := ih (grid.set column row (colour column row))
      simp only [paintRow, List.foldl_cons] at later ⊢
      rw [later, get?_set]
      by_cases sameRow : row' = row
      · by_cases here : column' = column
        · by_cases again : column' ∈ rest <;> simp [here, sameRow, Function.comp_def]
        · simp [here, sameRow]
      · simp [sameRow]

/-- A painted cell has the colour of its place, whatever it was before. -/
theorem get?_paint (grid : Grid α) (colour : Nat → Nat → α) (columns rows : List Nat)
    (column' row' : Nat) :
    (grid.paint colour columns rows).get? column' row' =
      if column' ∈ columns ∧ row' ∈ rows then (grid.get? column' row').map fun _ => colour column' row'
      else grid.get? column' row' := by
  induction rows generalizing grid with
  | nil => simp [paint]
  | cons row rest ih =>
      have later := ih (grid.paintRow colour columns row)
      simp only [paint, List.foldl_cons] at later ⊢
      rw [later, get?_paintRow]
      by_cases inColumn : column' ∈ columns
      · by_cases here : row' = row
        · by_cases again : row' ∈ rest <;> simp [inColumn, here, Function.comp_def]
        · simp [inColumn, here]
      · simp [inColumn]

theorem get?_resampled {grid : Grid α} {width height : Nat} (across : Fin width → Fin grid.width)
    (down : Fin height → Fin grid.height) (column : Fin width) (row : Fin height) :
    (grid.resampled width height across down).get? column row =
      grid.get? (across column) (down row) := by
  rw [get?_of_lt (across column).isLt (down row).isLt]
  exact get?_of_lt column.isLt row.isLt

/-- A map onto the columns of a grid needs as many columns as it has. -/
theorem le_of_onto {source target : Nat} {across : Fin target → Fin source}
    (onto : Function.Surjective across) : source ≤ target := by
  simpa using Fintype.card_le_of_surjective across onto

/-- The source cell in which the centre of a target cell lies. -/
def centre {source : Nat} (positive : 0 < source) {target : Nat} (column : Fin target) : Fin source :=
  ⟨(2 * column + 1) * source / (2 * target), by
    have bound := column.isLt
    rw [Nat.div_lt_iff_lt_mul (by omega)]
    nlinarith⟩

theorem centre_onto {source target : Nat} (positive : 0 < source) (enlarges : source ≤ target) :
    Function.Surjective (centre positive : Fin target → Fin source) := by
  intro column
  have bound := column.isLt
  -- the target cell under the centre of the source cell
  have inside : (2 * column + 1) * target / (2 * source) < target := by
    rw [Nat.div_lt_iff_lt_mul (by omega)]
    nlinarith
  refine ⟨⟨(2 * column + 1) * target / (2 * source), inside⟩, Fin.ext ?_⟩
  have below := Nat.div_mul_le_self ((2 * column + 1) * target) (2 * source)
  have above := Nat.lt_mul_div_succ ((2 * column + 1) * target) (show 0 < 2 * source by omega)
  simp only [centre]
  generalize (2 * column.val + 1) * target / (2 * source) = found at below above ⊢
  have upper : (2 * found + 1) * source < (column.val + 1) * (2 * target) := by
    rcases Nat.eq_or_lt_of_le enlarges with rfl | larger
    · have half : found ≤ column.val := by
        have doubled : found * 2 ≤ 2 * column.val + 1 := by nlinarith
        omega
      nlinarith
    · nlinarith
  exact Nat.div_eq_of_lt_le (by nlinarith) upper

end Grid
