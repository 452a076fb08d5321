import Mathlib.Data.List.Flatten
import TvcHopper.Machine.Memory

/-! Records in a row.

Records of one width stand a stride behind each other. With a stride below the
width neighbours overlap, and a new record leaves the others intact only when it
repeats the end of the last one.

When the first element of a record tells its size, any memory is a row of
records and a rest that is none: it is empty, its first element stands for no
record, or its record goes on behind the end.
-/

set_option autoImplicit false

namespace TvcHopper.Machine

variable {α : Type}

section Overwrite
variable {memory values : List α} {index count : Nat}

theorem take_overwrite (within : index + values.length ≤ memory.length) (short : count ≤ values.length) :
    (overwrite memory index values).take (index + count) = memory.take index ++ values.take count := by
  have whole : values.take (memory.length - index) = values := List.take_of_length_le (by omega)
  have front : (memory.take index).length = index := List.length_take_of_le (by omega)
  rw [overwrite, whole, List.append_assoc, List.take_append, front, Nat.add_sub_cancel_left,
    List.take_append_of_le_length short, List.take_of_length_le (by omega)]

theorem drop_overwrite (within : index + values.length ≤ memory.length) :
    ((overwrite memory index values).drop index).take values.length = values := by
  have front : (memory.take index).length = index := List.length_take_of_le (by omega)
  rw [List.take_drop, take_overwrite within (Nat.le_refl _), List.take_length,
    List.drop_append_of_le_length front.ge, List.drop_of_length_le front.le, List.nil_append]

theorem take_overwrite_iff (within : index + values.length ≤ memory.length) (short : count ≤ values.length) :
    (overwrite memory index values).take (index + count) = memory.take (index + count) ↔
      values.take count = (memory.drop index).take count := by
  rw [take_overwrite within short, List.take_add]
  exact List.append_right_inj _

end Overwrite

structure Records (stride width : Nat) (memory : List α) (records : List (List α)) : Prop where
  stored : ∀ (i : Nat) (member : i < records.length), (memory.drop (i * stride)).take width = records[i]
  widths : ∀ record ∈ records, record.length = width

theorem records_nil (stride width : Nat) (memory : List α) : Records stride width memory [] :=
  ⟨by simp, by simp⟩

section Append
variable {stride width : Nat} {memory values : List α} {records : List (List α)} {last : List α}

theorem Records.end_of_last (records' : Records stride width memory (records ++ [last])) :
    (memory.drop ((records ++ [last]).length * stride)).take (width - stride) = last.drop stride := by
  have here := records'.stored records.length (by simp)
  simp only [List.getElem_concat_length] at here
  rw [← here, List.drop_take, List.drop_drop, List.length_append, List.length_singleton, Nat.succ_mul]

theorem Records.congr {memory' : List α} {count : Nat} (before : Records stride width memory records)
    (inside : ∀ i, i < records.length → i * stride + width ≤ count) (same : memory'.take count = memory.take count) :
    Records stride width memory' records where
  stored := by
    intro i member
    have shorter := congrArg (List.take (i * stride + width)) same
    rw [List.take_take, List.take_take, Nat.min_eq_left (inside i member)] at shorter
    rw [← before.stored i member, List.take_drop, List.take_drop, shorter]
  widths := before.widths

theorem Records.append (before : Records stride width memory records) (length : values.length = width)
    (here : (memory.drop (records.length * stride)).take width = values) :
    Records stride width memory (records ++ [values]) where
  stored := by
    intro i member
    rw [List.length_append, List.length_singleton] at member
    rcases Nat.lt_succ_iff_lt_or_eq.mp member with earlier | rfl
    · rw [List.getElem_append_left earlier]
      exact before.stored i earlier
    · rw [List.getElem_concat_length rfl]
      exact here
  widths := by
    intro record member
    rcases List.mem_append.mp member with known | new
    · exact before.widths record known
    · rw [List.mem_singleton.mp new, length]

/-- A record that is stored behind the others leaves them intact exactly when it begins as the last one ends. -/
theorem Records.append_iff (before : Records stride width memory records) (narrow : stride ≤ width)
    (length : values.length = width) (within : records.length * stride + width ≤ memory.length) :
    Records stride width (overwrite memory (records.length * stride) values) (records ++ [values]) ↔
      ∀ last, records.getLast? = some last → values.take (width - stride) = last.drop stride := by
  subst length
  have read := drop_overwrite within
  constructor
  · intro after last isLast
    obtain ⟨others, rfl⟩ := List.getLast?_eq_some_iff.mp isLast
    -- read the end of the last record and the begin of the new one at one place
    have others' : Records stride values.length (overwrite memory ((others ++ [last]).length * stride) values)
        (others ++ [last]) := by
      constructor
      · intro i member
        have stored := after.stored i (by simp only [List.length_append] at member ⊢; omega)
        rwa [List.getElem_append_left member] at stored
      · exact before.widths
    have shorter := congrArg (List.take (values.length - stride)) read
    rw [List.take_take, Nat.min_eq_left (Nat.sub_le _ _)] at shorter
    rw [← others'.end_of_last, shorter]
  · intro continues
    refine Records.append ?_ rfl read
    cases isLast : records.getLast? with
    | none =>
      rw [List.getLast?_eq_none_iff.mp isLast]
      exact records_nil stride values.length _
    | some last =>
      obtain ⟨others, rfl⟩ := List.getLast?_eq_some_iff.mp isLast
      have short : values.length - stride ≤ values.length := Nat.sub_le _ _
      have same := (take_overwrite_iff within short).mpr
        ((continues last isLast).trans before.end_of_last.symm)
      refine before.congr (fun i member => ?_) same
      have above : i * stride + stride ≤ (others ++ [last]).length * stride := by
        rw [← Nat.succ_mul]
        exact Nat.mul_le_mul_right stride member
      omega

end Append

/-! ## Records that tell their size -/

section Sized
variable {size : α → Nat}

/-- A record is as long as its first element says; size zero stands for no record. -/
def Sized (size : α → Nat) (record : List α) : Prop := ∃ first more, record = first :: more ∧ record.length = size first

structure Splits (size : α → Nat) (memory : List α) (records : List (List α)) (rest : List α) : Prop where
  whole : records.flatten ++ rest = memory
  sized : ∀ record ∈ records, Sized size record
  stuck : ∀ first behind, rest = first :: behind → size first = 0 ∨ rest.length < size first

theorem Sized.pos {record : List α} (sized : Sized size record) : 0 < record.length := by
  obtain ⟨first, more, rfl, -⟩ := sized
  exact Nat.succ_pos _

theorem splits_records {records : List (List α)} (sized : ∀ record ∈ records, Sized size record) :
    Splits size records.flatten records [] :=
  ⟨List.append_nil _, sized, nofun⟩

theorem Splits.cons {memory record rest : List α} {records : List (List α)} (sized : Sized size record)
    (splits : Splits size memory records rest) : Splits size (record ++ memory) (record :: records) rest where
  whole := by rw [List.flatten_cons, List.append_assoc, splits.whole]
  sized := List.forall_mem_cons.mpr ⟨sized, splits.sized⟩
  stuck := splits.stuck

/-- Every memory splits, so it restricts nothing to take one that does. -/
theorem exists_splits (size : α → Nat) (memory : List α) : ∃ records rest, Splits size memory records rest := by
  induction length : memory.length using Nat.strongRecOn generalizing memory with
  | ind count ih =>
    cases memory with
    | nil => exact ⟨[], [], rfl, nofun, nofun⟩
    | cons first behind =>
      by_cases whole : 0 < size first ∧ size first ≤ (first :: behind).length
      · have taken : ((first :: behind).take (size first)).length = size first := List.length_take_of_le whole.2
        have front : Sized size ((first :: behind).take (size first)) := by
          obtain ⟨more, count⟩ := Nat.exists_eq_succ_of_ne_zero (Nat.pos_iff_ne_zero.mp whole.1)
          exact ⟨first, behind.take more, by rw [count, List.take_succ_cons], taken⟩
        have shorter : ((first :: behind).drop (size first)).length < count := by
          rw [List.length_drop]
          omega
        obtain ⟨records, rest, splits⟩ := ih _ shorter _ rfl
        have all := splits.cons front
        rw [List.take_append_drop] at all
        exact ⟨_, rest, all⟩
      · refine ⟨[], first :: behind, rfl, nofun, ?_⟩
        intro other others same
        obtain ⟨rfl, rfl⟩ := List.cons.inj same
        omega

end Sized

end TvcHopper.Machine
