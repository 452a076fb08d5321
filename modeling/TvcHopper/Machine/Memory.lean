import Mathlib.Data.List.Infix

/-! Bounds-checked memory for embedding C code.

A pointer into an array is the list of the elements that can be read through
it; an array that is a member of a structure is a `Vector`. An access the C
standard leaves undefined is a fault, and a faulting execution has no result.
-/

set_option autoImplicit false

namespace TvcHopper.Machine

inductive Fault where
  | outOfBounds
  | nullPointer
  | wildPointer
  | diverges
  deriving DecidableEq, Repr

theorem bind_eq_ok {ε α β : Type} {first : Except ε α} {next : α → Except ε β} {result : β} :
    (first >>= next) = .ok result ↔ ∃ value, first = .ok value ∧ next value = .ok result := by
  cases first <;> simp [bind, Except.bind]

theorem map_eq_ok {ε α β : Type} {project : α → β} {execution : Except ε α} {result : β} :
    execution.map project = .ok result ↔ ∃ value, execution = .ok value ∧ project value = result := by
  cases execution <;> simp [Except.map]

@[simp] theorem ok_bind {ε α β : Type} (value : α) (next : α → Except ε β) :
    (Except.ok value >>= next) = next value := rfl

@[simp] theorem pure_eq_ok {ε α : Type} (value : α) : (pure value : Except ε α) = .ok value := rfl

section Pointed
variable {α : Type}

def load (memory : List α) (index : Nat) : Except Fault α :=
  match memory[index]? with
  | some value => .ok value
  | none => .error .outOfBounds

/-- `memcpy` out of `memory`: the `count` elements from `index` on. -/
def loadRange (memory : List α) (index count : Nat) : Except Fault (List α) :=
  if index + count ≤ memory.length then .ok ((memory.drop index).take count)
  else .error .outOfBounds

/-- Elements written past the end of `memory` are lost. -/
def overwrite (memory : List α) (index : Nat) (values : List α) : List α :=
  memory.take index ++ values.take (memory.length - index) ++ memory.drop (index + values.length)

/-- `memcpy` into `memory`. -/
def storeRange (memory : List α) (index : Nat) (values : List α) : Except Fault (List α) :=
  if index + values.length ≤ memory.length then .ok (overwrite memory index values)
  else .error .outOfBounds

theorem load_eq_ok {memory : List α} {index : Nat} {value : α} :
    load memory index = .ok value ↔ memory[index]? = some value := by
  unfold load
  cases memory[index]? <;> simp

theorem load_within {memory : List α} {index : Nat} {value : α} (loaded : load memory index = .ok value) :
    index + 1 ≤ memory.length := by
  obtain ⟨within, -⟩ := List.getElem?_eq_some_iff.mp (load_eq_ok.mp loaded)
  exact within

theorem load_of_lt (memory : List α) (index : Nat) (within : index < memory.length) :
    load memory index = .ok memory[index] := load_eq_ok.mpr (List.getElem?_eq_getElem within)

@[simp] theorem load_cons_zero (first : α) (rest : List α) : load (first :: rest) 0 = .ok first := rfl

@[simp] theorem load_cons_succ (first : α) (rest : List α) (index : Nat) :
    load (first :: rest) (index + 1) = load rest index := rfl

theorem loadRange_eq_ok {memory : List α} {index count : Nat} {values : List α} :
    loadRange memory index count = .ok values ↔
      index + count ≤ memory.length ∧ (memory.drop index).take count = values := by
  by_cases within : index + count ≤ memory.length <;> simp [loadRange, within]

theorem loadRange_length {memory : List α} {index count : Nat} {values : List α}
    (loaded : loadRange memory index count = .ok values) : values.length = count := by
  obtain ⟨within, rfl⟩ := loadRange_eq_ok.mp loaded
  simp only [List.length_take, List.length_drop]
  omega

theorem loadRange_front (front rest : List α) : loadRange (front ++ rest) 0 front.length = .ok front := by
  simp [loadRange]

/-! What is read of the front is read of the whole memory. -/

theorem load_append {memory : List α} {index : Nat} {value : α} (loaded : load memory index = .ok value)
    (trailing : List α) : load (memory ++ trailing) index = .ok value := by
  rw [load_eq_ok, List.getElem?_append_left (load_within loaded)]
  exact load_eq_ok.mp loaded

theorem loadRange_append {memory values : List α} {index count : Nat}
    (loaded : loadRange memory index count = .ok values) (trailing : List α) :
    loadRange (memory ++ trailing) index count = .ok values := by
  obtain ⟨within, rfl⟩ := loadRange_eq_ok.mp loaded
  refine loadRange_eq_ok.mpr ⟨by rw [List.length_append]; omega, ?_⟩
  rw [List.drop_append_of_le_length (by omega), List.take_append_of_le_length (by rw [List.length_drop]; omega)]

/-! An index behind the front of the memory is one into the rest. -/

section Behind
variable (front rest : List α)

theorem load_behind (index : Nat) : load (front ++ rest) (front.length + index) = load rest index := by
  rw [load, load, List.getElem?_append_right (Nat.le_add_right _ _), Nat.add_sub_cancel_left]

theorem drop_behind (index : Nat) : (front ++ rest).drop (front.length + index) = rest.drop index := by
  rw [← List.drop_drop, List.drop_left]

theorem loadRange_behind (index count : Nat) :
    loadRange (front ++ rest) (front.length + index) count = loadRange rest index count := by
  have same : front.length + index + count ≤ (front ++ rest).length ↔ index + count ≤ rest.length := by
    rw [List.length_append]
    omega
  simp only [loadRange, same, drop_behind]

end Behind

theorem storeRange_eq_ok {memory memory' : List α} {index : Nat} {values : List α} :
    storeRange memory index values = .ok memory' ↔
      index + values.length ≤ memory.length ∧ memory' = overwrite memory index values := by
  by_cases within : index + values.length ≤ memory.length
  · simp [storeRange, within, eq_comm]
  · simp [storeRange, within]

theorem storeRange_elsewhere {memory memory' values : List α} {index : Nat}
    (stored : storeRange memory index values = .ok memory') {i : Nat}
    (outside : i < index ∨ index + values.length ≤ i) : memory'[i]? = memory[i]? := by
  obtain ⟨room, rfl⟩ := storeRange_eq_ok.mp stored
  have whole : values.take (memory.length - index) = values := List.take_of_length_le (by omega)
  have front : (memory.take index).length = index := List.length_take_of_le (by omega)
  rw [overwrite, whole, List.append_assoc]
  rcases outside with before | behind
  · rw [List.getElem?_append_left (by omega), List.getElem?_take_of_lt before]
  · rw [List.getElem?_append_right (by omega), List.getElem?_append_right (by omega), List.getElem?_drop, front]
    congr 1
    omega

theorem storeRange_here {memory memory' values : List α} {index : Nat}
    (stored : storeRange memory index values = .ok memory') {i : Nat} (within : i < values.length) :
    memory'[index + i]? = values[i]? := by
  obtain ⟨room, rfl⟩ := storeRange_eq_ok.mp stored
  have whole : values.take (memory.length - index) = values := List.take_of_length_le (by omega)
  have front : (memory.take index).length = index := List.length_take_of_le (by omega)
  rw [overwrite, whole, List.append_assoc, List.getElem?_append_right (by omega), front, Nat.add_sub_cancel_left,
    List.getElem?_append_left within]

theorem storeRange_found {memory memory' values : List α} {index : Nat}
    (stored : storeRange memory index values = .ok memory') {i : Nat} {value : α} (found : memory'[i]? = some value) :
    memory[i]? = some value ∨ value ∈ values := by
  by_cases outside : i < index ∨ index + values.length ≤ i
  · exact .inl (storeRange_elsewhere stored outside ▸ found)
  · obtain ⟨room, rfl⟩ := storeRange_eq_ok.mp stored
    have whole : values.take (memory.length - index) = values := List.take_of_length_le (by omega)
    have front : (memory.take index).length = index := List.length_take_of_le (by omega)
    rw [overwrite, whole, List.append_assoc, List.getElem?_append_right (by omega), front,
      List.getElem?_append_left (by omega)] at found
    exact .inr (List.mem_of_getElem? found)

theorem overwrite_front {memory values : List α} (room : values.length ≤ memory.length) :
    overwrite memory 0 values = values ++ memory.drop values.length := by
  have whole : values.take (memory.length - 0) = values := List.take_of_length_le room
  rw [overwrite, whole, List.take_zero, List.nil_append, Nat.zero_add]

theorem storeRange_front {memory values : List α} (room : values.length ≤ memory.length) :
    storeRange memory 0 values = .ok (values ++ memory.drop values.length) := by
  have within : 0 + values.length ≤ memory.length := by omega
  rw [storeRange, if_pos within, overwrite_front room]

theorem storeRange_same {memory values : List α} {index : Nat} :
    storeRange memory index values = .ok memory ↔ loadRange memory index values.length = .ok values := by
  rw [storeRange_eq_ok, loadRange_eq_ok]
  refine and_congr_right fun room => ?_
  have whole : values.take (memory.length - index) = values := List.take_of_length_le (by omega)
  have front : (memory.take index).length = index := List.length_take_of_le (by omega)
  rw [overwrite, whole]
  constructor
  · intro same
    have behind := congrArg (List.drop index) same
    rw [List.append_assoc, List.drop_left' front] at behind
    rw [behind, List.take_left]
  · intro there
    conv_lhs => rw [← List.take_append_drop index memory, ← List.take_append_drop values.length (memory.drop index)]
    rw [there, List.drop_drop, List.append_assoc]

theorem storeRange_front_same {memory values : List α} :
    storeRange memory 0 values = .ok memory ↔ values <+: memory := by
  rw [storeRange_same, loadRange_eq_ok, List.prefix_iff_eq_take, List.drop_zero, Nat.zero_add, eq_comm]
  refine and_iff_right_of_imp fun there => ?_
  have short := congrArg List.length there
  rw [List.length_take] at short
  omega

@[simp] theorem length_overwrite (memory : List α) (index : Nat) (values : List α) :
    (overwrite memory index values).length = memory.length := by
  simp only [overwrite, List.length_append, List.length_take, List.length_drop]
  omega

theorem storeRange_length {memory memory' values : List α} {index : Nat}
    (stored : storeRange memory index values = .ok memory') : memory'.length = memory.length := by
  obtain ⟨-, rfl⟩ := storeRange_eq_ok.mp stored
  exact length_overwrite memory index values

/-- Filling an array front to back: what is written so far, then what is left of the array. -/
theorem overwrite_append {done rest values : List α} {index : Nat} (here : index = done.length)
    (room : values.length ≤ rest.length) :
    overwrite (done ++ rest) index values = done ++ values ++ rest.drop values.length := by
  subst here
  have whole : values.take (rest.length) = values := List.take_of_length_le room
  simp [overwrite, whole]

theorem storeRange_extends {memory written : List α} (values : List α) (start : written <+: memory)
    (room : written.length + values.length ≤ memory.length) :
    ∃ memory', storeRange memory written.length values = .ok memory' ∧
      memory'.length = memory.length ∧ written ++ values <+: memory' := by
  obtain ⟨rest, rfl⟩ := start
  have fits : values.length ≤ rest.length := by
    rw [List.length_append] at room
    omega
  refine ⟨written ++ values ++ rest.drop values.length, ?_, ?_, List.prefix_append _ _⟩
  · rw [storeRange, if_pos room, overwrite_append rfl fits]
  · simp only [List.length_append, List.length_drop]
    omega

theorem storeRange_one {memory : List α} {index : Nat} {value : α} (within : index < memory.length) :
    storeRange memory index [value] = .ok (memory.set index value) := by
  have room : 1 ≤ memory.length - index := by omega
  have all : [value].take (memory.length - index) = [value] := List.take_of_length_le (by simpa using room)
  have fits : index + [value].length ≤ memory.length := within
  rw [storeRange, if_pos fits, overwrite, all, List.set_eq_take_append_cons_drop, if_pos within]
  simp

/-- Values written one behind the other, the first one at `index`. -/
def storeAll (memory : List α) (index : Nat) : List (List α) → Except Fault (List α)
  | [] => .ok memory
  | [values] => storeRange memory index values
  | values :: second :: rest => do
    let memory ← storeRange memory index values
    storeAll memory (index + values.length) (second :: rest)

theorem storeAll_extends {memory written : List α} (values : List (List α)) (start : written <+: memory)
    (room : written.length + values.flatten.length ≤ memory.length) :
    ∃ memory', storeAll memory written.length values = .ok memory' ∧ memory'.length = memory.length ∧
      written ++ values.flatten <+: memory' := by
  induction values generalizing memory written with
  | nil => exact ⟨memory, rfl, rfl, by simpa using start⟩
  | cons first rest ih =>
    simp only [List.flatten_cons, List.length_append] at room
    obtain ⟨memory', stored, size, start⟩ := storeRange_extends first start (by omega)
    -- the last store is no monadic step of its own
    cases rest with
    | nil => exact ⟨memory', stored, size, by simpa using start⟩
    | cons second rest =>
      obtain ⟨final, later, size', whole⟩ := ih start (by simp only [List.length_append]; omega)
      refine ⟨final, ?_, size'.trans size, ?_⟩
      · rw [List.length_append] at later
        rw [storeAll, stored, ok_bind, later]
      · rwa [List.flatten_cons, ← List.append_assoc]

theorem getElem?_snoc {written : List α} {last value : α} {index : Nat} :
    (written ++ [last])[index]? = some value ↔
      written[index]? = some value ∨ index = written.length ∧ last = value := by
  rcases Nat.lt_trichotomy index written.length with before | rfl | behind
  · rw [List.getElem?_append_left before]
    constructor
    · exact .inl
    · rintro (here | ⟨rfl, -⟩)
      · exact here
      · exact absurd before (Nat.lt_irrefl _)
  · simp
  · rw [List.getElem?_eq_none (by simp; omega), List.getElem?_eq_none (by omega)]
    simp only [reduceCtorEq, false_or, false_iff]
    omega

/-- A local array of a C function, with whatever was on the stack before. -/
def localArray (stack : Nat → α) (size : Nat) : List α := (List.range size).map stack

/-- Fill a local array of `size` elements from its start. The `spare` elements behind it can be written without harm,
but are no part of it. -/
def fillArray (size spare : Nat) (values : List α) : Except Fault (List α) :=
  if values.length ≤ size + spare then .ok (values.take size) else .error .outOfBounds

theorem fillArray_eq_ok {size spare : Nat} {values array : List α} :
    fillArray size spare values = .ok array ↔ values.length ≤ size + spare ∧ values.take size = array := by
  unfold fillArray
  by_cases fits : values.length ≤ size + spare
  · simp [fits]
  · simp [fits]

@[simp] theorem length_localArray (stack : Nat → α) (size : Nat) :
    (localArray stack size).length = size := by
  simp [localArray]

theorem localArray_found {stack : Nat → α} {size i : Nat} {value : α}
    (found : (localArray stack size)[i]? = some value) : stack i = value := by
  obtain ⟨within, here⟩ := List.getElem?_eq_some_iff.mp found
  simpa [localArray] using here

end Pointed

section Member
variable {α : Type} {n : Nat}

def loadCell (cells : Vector α n) (index : Nat) : Except Fault α :=
  if within : index < n then .ok cells[index] else .error .outOfBounds

def storeCell (cells : Vector α n) (index : Nat) (value : α) : Except Fault (Vector α n) :=
  if within : index < n then .ok (cells.set index value) else .error .outOfBounds

/-- `memcpy` into an array member. -/
def storeCells (cells : Vector α n) (index : Nat) (values : List α) : Except Fault (Vector α n) :=
  if index + values.length ≤ n then
    .ok ⟨(overwrite cells.toList index values).toArray, by simp⟩
  else .error .outOfBounds

theorem loadCell_of_lt (cells : Vector α n) {index : Nat} (within : index < n) :
    loadCell cells index = .ok cells[index] := by
  simp [loadCell, within]

theorem storeCell_of_lt (cells : Vector α n) {index : Nat} (value : α) (within : index < n) :
    storeCell cells index value = .ok (cells.set index value) := by
  simp [storeCell, within]

theorem storeCell_eq_ok {cells cells' : Vector α n} {index : Nat} {value : α} :
    storeCell cells index value = .ok cells' ↔ ∃ within : index < n, cells' = cells.set index value := by
  by_cases within : index < n
  · simp [storeCell, within, eq_comm]
  · simp [storeCell, within]

theorem loadCell_eq_ok {cells : Vector α n} {index : Nat} {value : α} :
    loadCell cells index = .ok value ↔ ∃ within : index < n, cells[index] = value := by
  by_cases within : index < n
  · simp [loadCell, within]
  · simp [loadCell, within]

theorem loadCell_storeCell {cells cells' : Vector α n} {index : Nat} {value : α}
    (stored : storeCell cells index value = .ok cells') : loadCell cells' index = .ok value := by
  obtain ⟨within, rfl⟩ := storeCell_eq_ok.mp stored
  rw [loadCell_of_lt _ within, Vector.getElem_set_self]

theorem loadCell_elsewhere {cells cells' : Vector α n} {index : Nat} {value : α}
    (stored : storeCell cells index value = .ok cells') {i : Nat} (other : i ≠ index) :
    loadCell cells' i = loadCell cells i := by
  obtain ⟨within, rfl⟩ := storeCell_eq_ok.mp stored
  by_cases inside : i < n
  · rw [loadCell_of_lt _ inside, loadCell_of_lt _ inside, Vector.getElem_set_ne _ inside other.symm]
  · simp [loadCell, inside]

theorem storeCell_elsewhere {cells cells' : Vector α n} {index : Nat} {value : α}
    (stored : storeCell cells index value = .ok cells') {i : Nat} (other : i ≠ index) :
    cells'.toList[i]? = cells.toList[i]? := by
  obtain ⟨within, rfl⟩ := storeCell_eq_ok.mp stored
  rw [Vector.toList_set, List.getElem?_set_ne other.symm]

theorem storeCell_extends {cells : Vector α n} {written : List α} (value : α)
    (start : written <+: cells.toList) (room : written.length < n) :
    ∃ cells', storeCell cells written.length value = .ok cells' ∧
      written ++ [value] <+: cells'.toList := by
  refine ⟨_, storeCell_of_lt cells value room, ?_⟩
  obtain ⟨unwritten, whole⟩ := start
  have size : (written ++ unwritten).length = n := by rw [whole, Vector.length_toList]
  cases unwritten with
  | nil => simp at size; omega
  | cons old unwritten =>
    refine ⟨unwritten, ?_⟩
    rw [Vector.toList_set, ← whole]
    simp

theorem storeCells_front (cells : Vector α n) {values : List α} (room : values.length ≤ n) :
    ∃ cells', storeCells cells 0 values = .ok cells' ∧ cells'.toList.take values.length = values := by
  have fits : 0 + values.length ≤ n := by omega
  have whole : values.take n = values := List.take_of_length_le room
  refine ⟨_, by rw [storeCells, if_pos fits], ?_⟩
  simp [overwrite, whole]

theorem storeCells_extends {cells : Vector α n} {written : List α} (values : List α)
    (start : written <+: cells.toList) (room : written.length + values.length ≤ n) :
    ∃ cells', storeCells cells written.length values = .ok cells' ∧ written ++ values <+: cells'.toList := by
  obtain ⟨memory, stored, -, extended⟩ := storeRange_extends values start (by rwa [Vector.length_toList])
  obtain ⟨-, rfl⟩ := storeRange_eq_ok.mp stored
  exact ⟨_, if_pos room, extended⟩

theorem loadCell_written {cells : Vector α n} {written : List α} (start : written <+: cells.toList)
    {index : Nat} (within : index < written.length) : loadCell cells index = .ok written[index] := by
  have size := start.length_le
  rw [Vector.length_toList] at size
  rw [loadCell_of_lt cells (by omega), start.getElem within, Vector.getElem_toList]

end Member

section LittleEndian

/-- A `uint16_t` as it lies in memory on the targets of this code, low byte first. -/
def bytes16 (value : UInt16) : List UInt8 :=
  [UInt8.ofNat value.toNat, UInt8.ofNat (value.toNat / 256)]

def bytes32 (value : UInt32) : List UInt8 :=
  [UInt8.ofNat value.toNat, UInt8.ofNat (value.toNat / 256), UInt8.ofNat (value.toNat / 65536),
    UInt8.ofNat (value.toNat / 16777216)]

def load16 (memory : List UInt8) (index : Nat) : Except Fault UInt16 := do
  let low ← load memory index
  let high ← load memory (index + 1)
  return UInt16.ofNat (low.toNat + 256 * high.toNat)

def load32 (memory : List UInt8) (index : Nat) : Except Fault UInt32 := do
  let low ← load16 memory index
  let high ← load16 memory (index + 2)
  return UInt32.ofNat (low.toNat + 65536 * high.toNat)

theorem toNat_ofNat16 {value : Nat} (small : value < 65536) : (UInt16.ofNat value).toNat = value :=
  UInt16.toNat_ofNat_of_lt' small

@[simp] theorem length_bytes16 (value : UInt16) : (bytes16 value).length = 2 := rfl

@[simp] theorem ofNat_bytes16 (value : UInt16) :
    UInt16.ofNat ((UInt8.ofNat value.toNat).toNat +
      256 * (UInt8.ofNat (value.toNat / 256)).toNat) = value := by
  apply UInt16.toNat_inj.mp
  have bound := value.toNat_lt
  simp only [UInt16.toNat_ofNat', UInt8.toNat_ofNat']
  omega

@[simp] theorem load16_bytes16 (value : UInt16) (after : List UInt8) :
    load16 (bytes16 value ++ after) 0 = .ok value := by
  simp only [load16, bytes16, List.cons_append, load_cons_zero, load_cons_succ, ok_bind, pure_eq_ok,
    ofNat_bytes16]

theorem load16_behind (front rest : List UInt8) (index : Nat) :
    load16 (front ++ rest) (front.length + index) = load16 rest index := by
  rw [load16, load16, load_behind, Nat.add_assoc, load_behind]

theorem load16_append {memory : List UInt8} {index : Nat} {value : UInt16} (loaded : load16 memory index = .ok value)
    (trailing : List UInt8) : load16 (memory ++ trailing) index = .ok value := by
  obtain ⟨low, first, rest⟩ := bind_eq_ok.mp loaded
  obtain ⟨high, second, rest⟩ := bind_eq_ok.mp rest
  rw [load16, load_append first, ok_bind, load_append second]
  exact rest

theorem load32_append {memory : List UInt8} {index : Nat} {value : UInt32} (loaded : load32 memory index = .ok value)
    (trailing : List UInt8) : load32 (memory ++ trailing) index = .ok value := by
  obtain ⟨low, first, rest⟩ := bind_eq_ok.mp loaded
  obtain ⟨high, second, rest⟩ := bind_eq_ok.mp rest
  rw [load32, load16_append first, ok_bind, load16_append second]
  exact rest

theorem load16_within {memory : List UInt8} {index : Nat} {value : UInt16}
    (loaded : load16 memory index = .ok value) : index + 2 ≤ memory.length := by
  simp only [load16, bind_eq_ok] at loaded
  obtain ⟨_, -, _, high, -⟩ := loaded
  exact load_within high

theorem load16_of_within (memory : List UInt8) (index : Nat) (within : index + 2 ≤ memory.length) :
    ∃ value, load16 memory index = .ok value := by
  have low := load_of_lt memory index (by omega)
  have high := load_of_lt memory (index + 1) (by omega)
  exact ⟨_, bind_eq_ok.mpr ⟨_, low, bind_eq_ok.mpr ⟨_, high, rfl⟩⟩⟩

theorem load32_behind (front rest : List UInt8) (index : Nat) :
    load32 (front ++ rest) (front.length + index) = load32 rest index := by
  rw [load32, load32, load16_behind, Nat.add_assoc, load16_behind]

@[simp] theorem length_bytes32 (value : UInt32) : (bytes32 value).length = 4 := rfl

@[simp] theorem load32_bytes32 (value : UInt32) (after : List UInt8) :
    load32 (bytes32 value ++ after) 0 = .ok value := by
  simp only [load32, load16, bytes32, List.cons_append, load_cons_zero, load_cons_succ, ok_bind, pure_eq_ok,
    Except.ok.injEq]
  apply UInt32.toNat_inj.mp
  have bound := value.toNat_lt
  simp only [UInt32.toNat_ofNat', UInt16.toNat_ofNat', UInt8.toNat_ofNat']
  omega

end LittleEndian

end TvcHopper.Machine
