import Mathlib.Data.List.Perm.Basic
import Mathlib.Data.Multiset.Filter
import TvcHopper.Machine.Memory

/-! Fixed tables whose unused slots hold a reserved value.

An entry is put into the first free slot and taken out of the first slot that
holds it. The multiset of the occupied entries is what such a table stands for.
-/

set_option autoImplicit false

namespace TvcHopper.Machine.Slots

variable {α : Type} [DecidableEq α] {n : Nat}

/-- Search for the first slot that holds `old` and write `new` to it. -/
def replaceFirst (old new : α) (slots : Vector α n) : Option (Vector α n) :=
  (slots.toList.findIdx? (· == old)).map fun index => slots.setIfInBounds index new

def occupied (free : α) (slots : Vector α n) : Multiset α :=
  (slots.toList : Multiset α).filter (· ≠ free)

theorem replaceFirst_eq_none {old new : α} {slots : Vector α n} :
    replaceFirst old new slots = none ↔ old ∉ slots.toList := by
  simp only [replaceFirst, Option.map_eq_none_iff, List.findIdx?_eq_none_iff]
  constructor
  · intro absent member
    simpa using absent old member
  · intro absent entry member
    simpa using fun same : entry = old => absent (same ▸ member)

omit [DecidableEq α] in
theorem setIfInBounds_of_lt (slots : Vector α n) (value : α) {index : Nat} (within : index < n) :
    slots.setIfInBounds index value = slots.set index value := by
  simp [Vector.setIfInBounds, Vector.set, Array.setIfInBounds, within]

theorem replaceFirst_eq_some {old new : α} {slots slots' : Vector α n} :
    replaceFirst old new slots = some slots' ↔
      ∃ (index : Nat) (within : index < n), slots[index] = old ∧
        (∀ (earlier : Nat) (before : earlier < index), slots[earlier] ≠ old) ∧
        slots' = slots.set index new := by
  simp only [replaceFirst, Option.map_eq_some_iff, List.findIdx?_eq_some_iff_getElem]
  constructor
  · rintro ⟨index, ⟨within, found, first⟩, rfl⟩
    have bound : index < n := by simpa using within
    refine ⟨index, bound, by simpa using found, ?_, setIfInBounds_of_lt slots new bound⟩
    intro earlier before
    simpa using first earlier before
  · rintro ⟨index, within, found, first, rfl⟩
    refine ⟨index, ⟨by simpa using within, by simpa using found, ?_⟩,
      setIfInBounds_of_lt slots new within⟩
    intro earlier before
    simpa using first earlier before

theorem replaceFirst_multiset {old new : α} {slots slots' : Vector α n}
    (replaced : replaceFirst old new slots = some slots') :
    ∃ others : Multiset α, (slots.toList : Multiset α) = old ::ₘ others ∧
      (slots'.toList : Multiset α) = new ::ₘ others := by
  obtain ⟨index, within, found, _, rfl⟩ := replaceFirst_eq_some.mp replaced
  have bound : index < slots.toList.length := by simpa using within
  refine ⟨(slots.toList.eraseIdx index : Multiset α), ?_, ?_⟩
  · rw [Multiset.cons_coe, Multiset.coe_eq_coe]
    have same : slots.toList[index] = old := by simpa using found
    simpa [same] using (List.getElem_cons_eraseIdx_perm bound).symm
  · rw [Multiset.cons_coe, Multiset.coe_eq_coe, Vector.toList_set]
    exact List.set_perm_cons_eraseIdx bound new

theorem occupied_insert {free entry : α} {slots slots' : Vector α n} (real : entry ≠ free)
    (inserted : replaceFirst free entry slots = some slots') :
    occupied free slots' = entry ::ₘ occupied free slots := by
  obtain ⟨others, before, after⟩ := replaceFirst_multiset inserted
  rw [occupied, occupied, before, after]
  simp [real]

theorem occupied_clear {free entry : α} {slots slots' : Vector α n} (real : entry ≠ free)
    (cleared : replaceFirst entry free slots = some slots') :
    occupied free slots = entry ::ₘ occupied free slots' := by
  obtain ⟨others, before, after⟩ := replaceFirst_multiset cleared
  rw [occupied, occupied, before, after]
  simp [real]

theorem clear_free {free : α} {slots slots' : Vector α n}
    (cleared : replaceFirst free free slots = some slots') : slots' = slots := by
  obtain ⟨index, within, found, _, rfl⟩ := replaceFirst_eq_some.mp cleared
  simp [← found]

theorem mem_occupied {free entry : α} {slots : Vector α n} :
    entry ∈ occupied free slots ↔ entry ∈ slots.toList ∧ entry ≠ free := by
  simp [occupied]

theorem card_occupied_le (free : α) (slots : Vector α n) : (occupied free slots).card ≤ n := by
  calc (occupied free slots).card ≤ (slots.toList : Multiset α).card :=
        Multiset.card_le_card (Multiset.filter_le _ _)
    _ = n := by simp

/-- A slot is free exactly when fewer than all of them are occupied. -/
theorem card_occupied_lt_iff (free : α) (slots : Vector α n) :
    (occupied free slots).card < n ↔ free ∈ slots.toList := by
  -- a filter keeps the size only if it keeps everything
  have all : (occupied free slots).card = n ↔ free ∉ slots.toList := by
    have size : (slots.toList : Multiset α).card = n := by simp
    constructor
    · intro full member
      have every : occupied free slots = (slots.toList : Multiset α) :=
        Multiset.eq_of_le_of_card_le (Multiset.filter_le _ _) (by rw [size, full])
      have inside : free ∈ occupied free slots := by simpa [every] using member
      exact (mem_occupied.mp inside).2 rfl
    · intro absent
      have every : occupied free slots = (slots.toList : Multiset α) :=
        Multiset.filter_eq_self.mpr fun entry member same => absent (same ▸ member)
      rw [every, size]
  have bound := card_occupied_le free slots
  constructor
  · intro fewer
    by_contra absent
    exact absurd (all.mpr absent) (Nat.ne_of_lt fewer)
  · intro member
    exact lt_of_le_of_ne bound fun full => all.mp full member

theorem nodup_occupied {free : α} {slots : Vector α n}
    (apart : ∀ (i j : Nat) (hi : i < n) (hj : j < n), slots[i] ≠ free → slots[i] = slots[j] → i = j) :
    (occupied free slots).Nodup := by
  have nodup : (slots.toList.filter fun entry => decide (entry ≠ free)).Nodup := by
    unfold List.Nodup
    rw [List.pairwise_filter, List.pairwise_iff_getElem]
    intro i j hi hj earlier real _ same
    have within : i < n ∧ j < n := by simpa using And.intro hi hj
    have equal := apart i j within.1 within.2 (by simpa using real) (by simpa using same)
    omega
  rw [occupied, Multiset.filter_coe]
  exact Multiset.coe_nodup.mpr nodup

end TvcHopper.Machine.Slots
