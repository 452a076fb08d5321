import Mathlib.Algebra.GroupWithZero.Nat
import Mathlib.Data.List.FinRange
import TvcHopper.Machine.Memory

/-! Matrices in memory, one row behind the other.

A row is written and read as the cells of an array. A matrix is known when each
of its rows is, so it does not matter in which order the rows are written.
-/

set_option autoImplicit false

namespace TvcHopper.Machine

section Cells
variable {α : Type} {n : Nat}

/-- `memcpy` out of an array member. -/
def loadCells (cells : Vector α n) (index count : Nat) : Except Fault (List α) := loadRange cells.toList index count

theorem storeCells_eq_ok {cells cells' : Vector α n} {index : Nat} {values : List α} :
    storeCells cells index values = .ok cells' ↔ storeRange cells.toList index values = .ok cells'.toList := by
  by_cases within : index + values.length ≤ n
  · rw [storeCells, if_pos within, storeRange, if_pos (by rw [Vector.length_toList]; exact within), Except.ok.injEq,
      Except.ok.injEq, ← Vector.toList_inj]
    exact Iff.rfl
  · rw [storeCells, if_neg within, storeRange, if_neg (by rw [Vector.length_toList]; exact within)]
    simp

theorem storeCells_same {cells : Vector α n} {index : Nat} {values : List α} :
    storeCells cells index values = .ok cells ↔ loadCells cells index values.length = .ok values :=
  storeCells_eq_ok.trans storeRange_same

theorem storeCells_map {β : Type} (project : α → β) (cells : Vector α n) (index : Nat) (values : List α) :
    storeCells (cells.map project) index (values.map project) =
      (storeCells cells index values).map (Vector.map project) := by
  rw [storeCells, storeCells, List.length_map]
  split
  · refine congrArg Except.ok (Vector.toList_inj.mp ?_)
    change overwrite (cells.map project).toList index (values.map project) =
      ((Vector.mk (overwrite cells.toList index values).toArray _).map project).toList
    simp [Vector.toList_map, overwrite, List.map_take, List.map_drop]
  · rfl

end Cells

section Rows
variable {α : Type} {rows columns : Nat}

theorem cell_lt (r : Fin rows) (c : Fin columns) : r.val * columns + c.val < rows * columns := by
  calc r.val * columns + c.val < r.val * columns + columns := Nat.add_lt_add_left c.isLt _
    _ = (r.val + 1) * columns := (Nat.succ_mul _ _).symm
    _ ≤ rows * columns := Nat.mul_le_mul_right _ r.isLt

def row (matrix : Vector α (rows * columns)) (r : Fin rows) : Vector α columns :=
  .ofFn fun c => matrix.get ⟨r.val * columns + c.val, cell_lt r c⟩

def storeRow (matrix : Vector α (rows * columns)) (r : Fin rows) (values : Vector α columns) :
    Vector α (rows * columns) :=
  ⟨(overwrite matrix.toList (r.val * columns) values.toList).toArray, by simp⟩

theorem row_end_le (r : Fin rows) : r.val * columns + columns ≤ rows * columns := by
  rw [← Nat.succ_mul]
  exact Nat.mul_le_mul_right _ r.isLt

theorem storeCells_row (matrix : Vector α (rows * columns)) (r : Fin rows) (values : Vector α columns) :
    storeCells matrix (r.val * columns) values.toList = .ok (storeRow matrix r values) := by
  rw [storeCells, if_pos (by rw [Vector.length_toList]; exact row_end_le r)]
  rfl

theorem loadCells_row (matrix : Vector α (rows * columns)) (r : Fin rows) :
    loadCells matrix (r.val * columns) columns = .ok (row matrix r).toList := by
  have within : r.val * columns + columns ≤ matrix.toList.length := by
    rw [Vector.length_toList]
    exact row_end_le r
  rw [loadCells, loadRange, if_pos within]
  congr 1
  apply List.ext_getElem
  · rw [List.length_take, List.length_drop, Vector.length_toList, Vector.length_toList]
    rw [Vector.length_toList] at within
    omega
  · intro c inside outside
    simp only [List.getElem_take, List.getElem_drop, Vector.getElem_toList, row, Vector.getElem_ofFn]
    rfl

theorem row_getElem? (matrix : Vector α (rows * columns)) (r : Fin rows) {c : Nat} (inside : c < columns) :
    matrix.toList[r.val * columns + c]? = some (row matrix r)[c] := by
  have within : r.val * columns + c < matrix.toList.length := by
    rw [Vector.length_toList]
    exact cell_lt r ⟨c, inside⟩
  rw [List.getElem?_eq_getElem within, Vector.getElem_toList, row, Vector.getElem_ofFn]
  rfl

theorem row_storeRow_self (matrix : Vector α (rows * columns)) (r : Fin rows) (values : Vector α columns) :
    row (storeRow matrix r values) r = values := by
  apply Vector.ext
  intro c inside
  have room : c < values.toList.length := by
    rw [Vector.length_toList]
    exact inside
  have here := storeRange_here (storeCells_eq_ok.mp (storeCells_row matrix r values)) room
  rw [row_getElem? _ r inside, List.getElem?_eq_getElem room,
    Vector.getElem_toList] at here
  exact Option.some.inj here

theorem row_storeRow_ne (matrix : Vector α (rows * columns)) {r other : Fin rows} (values : Vector α columns)
    (apart : other ≠ r) : row (storeRow matrix r values) other = row matrix other := by
  apply Vector.ext
  intro c inside
  have outside : other.val * columns + c < r.val * columns ∨
      r.val * columns + values.toList.length ≤ other.val * columns + c := by
    rw [Vector.length_toList]
    rcases Nat.lt_or_gt_of_ne (Fin.val_ne_of_ne apart) with before | behind
    · have whole : (other.val + 1) * columns ≤ r.val * columns := Nat.mul_le_mul_right _ before
      rw [Nat.succ_mul] at whole
      omega
    · have whole : (r.val + 1) * columns ≤ other.val * columns := Nat.mul_le_mul_right _ behind
      rw [Nat.succ_mul] at whole
      omega
  have elsewhere := storeRange_elsewhere (storeCells_eq_ok.mp (storeCells_row matrix r values)) outside
  rw [row_getElem? _ other inside, row_getElem? _ other inside] at elsewhere
  exact Option.some.inj elsewhere

theorem rows_ext {first second : Vector α (rows * columns)} (same : ∀ r, row first r = row second r) :
    first = second := by
  rcases Nat.eq_zero_or_pos columns with none | positive
  · subst none
    apply Vector.ext
    intro i inside
    simp at inside
  · apply Vector.ext
    intro i inside
    have r : i / columns < rows := (Nat.div_lt_iff_lt_mul positive).mpr inside
    have c : i % columns < columns := Nat.mod_lt i positive
    have place : i / columns * columns + i % columns = i := Nat.div_add_mod' i columns
    have entry := row_getElem? first ⟨i / columns, r⟩ c
    rw [same, ← row_getElem? second, place] at entry
    rw [List.getElem?_eq_getElem (by simpa using inside), List.getElem?_eq_getElem (by simpa using inside)] at entry
    exact Option.some.inj entry

/-! ## All rows of a matrix -/

def storeRows (source matrix : Vector α (rows * columns)) (order : List (Fin rows)) : Vector α (rows * columns) :=
  order.foldl (fun matrix r => storeRow matrix r (row source r)) matrix

theorem row_storeRows (source matrix : Vector α (rows * columns)) (order : List (Fin rows)) (r : Fin rows) :
    row (storeRows source matrix order) r = if r ∈ order then row source r else row matrix r := by
  induction order generalizing matrix with
  | nil => rfl
  | cons first rest ih =>
    rw [storeRows, List.foldl_cons, ← storeRows, ih]
    by_cases later : r ∈ rest
    · rw [if_pos later, if_pos (List.mem_cons_of_mem _ later)]
    · rw [if_neg later]
      by_cases here : r = first
      · subst here
        rw [row_storeRow_self, if_pos List.mem_cons_self]
      · rw [row_storeRow_ne _ _ here, if_neg (by simp [here, later])]

theorem storeRows_all (source matrix : Vector α (rows * columns)) {order : List (Fin rows)} (all : ∀ r, r ∈ order) :
    storeRows source matrix order = source := by
  apply rows_ext
  intro r
  rw [row_storeRows, if_pos (all r)]

end Rows

/-! ## Rows by a counter -/

/-- The rows that a counter names from its start on, from the first again behind the last. -/
def cyclicRows (rows start count : Nat) [NeZero rows] : List (Fin rows) :=
  (List.range' start count).map (Fin.ofNat rows)

theorem cyclicRows_succ (rows start count : Nat) [NeZero rows] :
    cyclicRows rows start (count + 1) = Fin.ofNat rows start :: cyclicRows rows (start + 1) count := by
  rw [cyclicRows, List.range'_succ, List.map_cons]
  rfl

theorem mem_cyclicRows {rows : Nat} [NeZero rows] (start : Nat) (r : Fin rows) : r ∈ cyclicRows rows start rows := by
  have positive : 0 < rows := Nat.pos_of_neZero rows
  have part : start % rows < rows := Nat.mod_lt _ positive
  -- how far the row is from the start
  have ahead : (r.val + (rows - start % rows)) % rows < rows := Nat.mod_lt _ positive
  refine List.mem_map.mpr ⟨start + (r.val + (rows - start % rows)) % rows, List.mem_range'_1.mpr ?_, ?_⟩
  · omega
  · apply Fin.ext
    rw [Fin.val_ofNat, Nat.add_mod_mod, ← Nat.mod_add_mod,
      show start % rows + (r.val + (rows - start % rows)) = r.val + rows by omega, Nat.add_mod_right,
      Nat.mod_eq_of_lt r.isLt]

end TvcHopper.Machine
