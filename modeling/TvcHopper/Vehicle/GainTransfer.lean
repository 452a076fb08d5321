import TvcHopper.Vehicle.Gains

/-! The gain matrix between the vehicle and the viewer (`propertyGui.m`).

The viewer sends a row with its number. The vehicle answers every request with
the next row and its number, from where its counter stands. Both sides copy the
gains as words and compute with the number alone.
-/

set_option autoImplicit false

namespace TvcHopper.Vehicle
open Machine

/-- The gains as the words they are kept as. -/
abbrev GainWords : Type := Vector UInt32 (actuationVectorSize * stateVectorSize)

/-! ## The vehicle -/

structure GainStore where
  kHover : GainWords
  kRowCount : Int32
  deriving DecidableEq

/-- The number that is in front of a row; there is no integer for an infinity. -/
def rowNumber (words : List UInt32) : Except Fault ℚ := do
  match singleValue (← load words 0) with
  | some number => .ok number
  | none => .error .wildPointer

/-- `SetValue` of the gains. -/
def setKMatrix (store : GainStore) (value : List UInt8) : Except Fault GainStore := do
  let newK := wordsOf (← loadRange value 0 40)
  let kHover ← setGains store.kHover (← rowNumber newK) (← loadRange newK 1 9)
  return { store with kHover }

/-- `GetValue` of the gains: the ten words that it writes. -/
def getKMatrix (store : GainStore) : Except Fault (GainStore × List UInt8) := do
  let val := singleOfInt (store.kRowCount % 5).toInt
  let gains ← getGains store.kHover (← rowNumber [val])
  return ({ store with kRowCount := store.kRowCount + 1 }, bytesOf (val :: gains))

/-! ## The viewer -/

def ktxPacket (buf : GainWords) (count : Fin actuationVectorSize) : List UInt8 :=
  bytesOf (singleOfNat count :: (row buf count).toList)

/-- What `Krx` does with a reply. An index that is no place of the matrix is an error. -/
def krxReply (children : GainWords) (val : List UInt8) : Except Fault GainWords := do
  let dataBuf := wordsOf val
  let row := (← rowNumber dataBuf) * 9
  if row.den = 1 ∧ 0 ≤ row.num then storeCells children row.num.toNat (← loadRange dataBuf 1 9)
  else .error .outOfBounds

/-! ## Words and numbers -/

/-- The words stand for the numbers that the control step computes with. -/
def StandFor {n : Nat} (words : Vector UInt32 n) (numbers : Vector ℚ n) : Prop :=
  words.map singleValue = numbers.map some

/-- Where the received words are numbers, the words that are stored stand for the gains that are stored. -/
theorem setKMatrix_standFor {store store' : GainStore} {control : HoverControl} {value : List UInt8}
    {received : PropertyValue} (stand : StandFor store.kHover control.kHover)
    (read : ∀ i < 10, (wordsOf (value.take 40))[i]?.bind singleValue = some (received.float i))
    (done : setKMatrix store value = .ok store') :
    ∃ control', hoverControlSetK control received.float = .ok control' ∧ StandFor store'.kHover control'.kHover := by
  obtain ⟨bytes, whole, done⟩ := bind_eq_ok.mp done
  obtain ⟨number, named, done⟩ := bind_eq_ok.mp done
  obtain ⟨gains, copied, done⟩ := bind_eq_ok.mp done
  obtain ⟨kHover, stored, rfl⟩ := map_eq_ok.mp done
  obtain ⟨-, rfl⟩ := loadRange_eq_ok.mp whole
  rw [List.drop_zero] at named copied
  have first : number = received.float 0 := by
    obtain ⟨bits, loaded, named⟩ := bind_eq_ok.mp named
    have decoded := read 0 (by decide)
    rw [load_eq_ok.mp loaded, Option.bind_some] at decoded
    rw [decoded] at named
    exact (Except.ok.inj named).symm
  have numbers : gains.map singleValue = received.gains.toList.map some := by
    obtain ⟨room, rfl⟩ := loadRange_eq_ok.mp copied
    apply List.ext_getElem
    · simp
      omega
    · intro i inside outside
      have small : i < 9 := by simpa using outside
      have found : 1 + i < (wordsOf (value.take 40)).length := by omega
      have decoded := read (1 + i) (by omega)
      rw [List.getElem?_eq_getElem found, Option.bind_some] at decoded
      simp only [List.getElem_map, List.getElem_take, List.getElem_drop, Vector.getElem_toList, PropertyValue.gains,
        Vector.getElem_ofFn]
      rw [decoded, Nat.add_comm]
  have both := setGains_map singleValue store.kHover number gains
  rw [stand, numbers, setGains_map, stored] at both
  obtain ⟨kHover', stored', same⟩ := map_eq_ok.mp both
  refine ⟨{ control with kHover := kHover' }, ?_, same.symm⟩
  rw [hoverControlSetK_eq, ← first, stored']
  rfl

/-! ## Packets -/

section Packets
variable (buf : GainWords) (r : Fin actuationVectorSize)

theorem length_ktxPacket : (ktxPacket buf r).length = 40 := by
  rw [ktxPacket, length_bytesOf, List.length_cons, Vector.length_toList]
  rfl

theorem wordsOf_ktxPacket : wordsOf (ktxPacket buf r) = singleOfNat r :: (row buf r).toList := wordsOf_bytesOf_all _

theorem rowNumber_cons (rest : List UInt32) : rowNumber (singleOfNat r :: rest) = .ok (r.val : ℚ) := by
  have inside : r.val < 5 := r.isLt
  have exact : r.val < 2 ^ 24 := by omega
  rw [rowNumber, load_cons_zero, ok_bind, singleValue_ofNat exact]

theorem loadRange_gains : loadRange (singleOfNat r :: (row buf r).toList) 1 9 = .ok (row buf r).toList := by
  have length : (row buf r).toList.length = 9 := Vector.length_toList
  rw [loadRange_eq_ok, List.length_cons, length, List.drop_succ_cons, List.drop_zero]
  exact ⟨le_refl _, List.take_of_length_le length.le⟩

theorem setKMatrix_packet (store : GainStore) :
    setKMatrix store (ktxPacket buf r) = .ok { store with kHover := storeRow store.kHover r (row buf r) } := by
  have whole : loadRange (ktxPacket buf r) 0 40 = .ok (ktxPacket buf r) := by
    rw [loadRange_eq_ok, length_ktxPacket, List.drop_zero]
    exact ⟨le_refl _, List.take_of_length_le (length_ktxPacket buf r).le⟩
  simp only [setKMatrix, whole, ok_bind, wordsOf_ktxPacket, rowNumber_cons, loadRange_gains, setGains_row, pure_eq_ok]

theorem krxReply_packet (children : GainWords) :
    krxReply children (ktxPacket buf r) = .ok (storeRow children r (row buf r)) := by
  have index : (r.val : ℚ) * 9 = (r.val * 9 : Nat) := by
    push_cast
    rfl
  have place : ((r.val * 9 : Nat) : ℚ).den = 1 ∧ 0 ≤ ((r.val * 9 : Nat) : ℚ).num := by
    rw [Rat.den_natCast, Rat.num_natCast]
    exact ⟨rfl, Int.natCast_nonneg _⟩
  simp only [krxReply, wordsOf_ktxPacket, rowNumber_cons, ok_bind, index, place, Rat.num_natCast,
    Int.toNat_natCast, loadRange_gains]
  exact storeCells_row children r (row buf r)

theorem getKMatrix_eq (store : GainStore) (row' : Fin actuationVectorSize)
    (here : (store.kRowCount % 5).toInt = row'.val) :
    getKMatrix store = .ok ({ store with kRowCount := store.kRowCount + 1 }, ktxPacket store.kHover row') := by
  have number : singleOfInt (store.kRowCount % 5).toInt = singleOfNat row' := by
    rw [here, singleOfInt, if_neg (by omega), Int.natAbs_natCast]
  simp only [getKMatrix, number, rowNumber_cons, ok_bind, getGains_row, pure_eq_ok, ktxPacket]

end Packets

/-! ## Whole matrices -/

/-- The packets of the viewer, in the order of the rows. -/
def ktx (buf : GainWords) (order : List (Fin actuationVectorSize)) : List (List UInt8) := order.map (ktxPacket buf)

theorem upload_eq (buf : GainWords) (store : GainStore) (order : List (Fin actuationVectorSize)) :
    (ktx buf order).foldlM setKMatrix store = .ok { store with kHover := storeRows buf store.kHover order } := by
  induction order generalizing store with
  | nil => rfl
  | cons r rest ih =>
    rw [ktx, List.map_cons, List.foldlM_cons, setKMatrix_packet, ok_bind, ← ktx, ih]
    rfl

theorem krx_eq (buf children : GainWords) (order : List (Fin actuationVectorSize)) :
    (ktx buf order).foldlM krxReply children = .ok (storeRows buf children order) := by
  induction order generalizing children with
  | nil => rfl
  | cons r rest ih =>
    rw [ktx, List.map_cons, List.foldlM_cons, krxReply_packet, ok_bind, ← ktx, ih]
    rfl

/-- Requests of the gains, one after the other, with their replies. -/
def download (store : GainStore) (requests : Nat) : Except Fault (GainStore × List (List UInt8)) :=
  run (fun store (_ : Unit) => getKMatrix store) store (.replicate requests ())

theorem kRowCount_mod {count : Nat} (small : count < 2 ^ 31) : (Int32.ofNat count % 5).toInt = (count % 5 : Nat) := by
  rw [Int32.toInt_mod, Int32.toInt_ofNat_of_lt small]
  rfl

theorem download_eq (kHover : GainWords) {count requests : Nat} (room : count + requests < 2 ^ 31) :
    download ⟨kHover, .ofNat count⟩ requests =
      .ok (⟨kHover, .ofNat (count + requests)⟩, ktx kHover (cyclicRows actuationVectorSize count requests)) := by
  induction requests generalizing count with
  | zero => rfl
  | succ requests ih =>
    have reply := getKMatrix_eq ⟨kHover, .ofNat count⟩ (Fin.ofNat actuationVectorSize count) (kRowCount_mod (by omega))
    have next : Int32.ofNat count + 1 = .ofNat (count + 1) := (Int32.ofNat_add count 1).symm
    have rest := @ih (count + 1) (by omega)
    rw [Nat.add_right_comm] at rest
    rw [next] at reply
    exact run_cons_eq_ok.mpr ⟨_, _, _, reply, rest, by rw [cyclicRows_succ]; rfl⟩

/-- The matrix of the viewer comes back from the vehicle, whatever the vehicle and the window of the viewer held
before, in whatever order it was sent and wherever the counter stands. -/
theorem gains_come_back (buf children kHover : GainWords) (kRowCount : Int32)
    {order : List (Fin actuationVectorSize)} (sent : order.Perm (List.finRange actuationVectorSize))
    (nonneg : 0 ≤ kRowCount.toInt) (room : kRowCount.toInt + 5 ≤ 2 ^ 31 - 1) :
    ∃ store store' replies, (ktx buf order).foldlM setKMatrix ⟨kHover, kRowCount⟩ = .ok store ∧
      download store 5 = .ok (store', replies) ∧ replies.foldlM krxReply children = .ok buf := by
  obtain ⟨count, place⟩ := Int.eq_ofNat_of_zero_le nonneg
  have counted : kRowCount = .ofNat count := by
    apply Int32.toInt_inj.mp
    rw [place, Int32.toInt_ofNat_of_lt (by omega)]
  subst counted
  have all (r : Fin actuationVectorSize) : r ∈ order := sent.mem_iff.mpr (List.mem_finRange r)
  have replied := @download_eq buf count 5 (by omega)
  have uploaded := upload_eq buf ⟨kHover, .ofNat count⟩ order
  rw [storeRows_all buf _ all] at uploaded
  refine ⟨_, _, _, uploaded, replied, ?_⟩
  rw [krx_eq, storeRows_all buf _ (mem_cyclicRows count)]

theorem gains_come_back_reversed : ∃ store store' replies,
    (ktx (.replicate _ 7) [4, 3, 2, 1, 0]).foldlM setKMatrix ⟨.replicate _ 0, 3⟩ = .ok store ∧
      download store 5 = .ok (store', replies) ∧ replies.foldlM krxReply (.replicate _ 0) = .ok (.replicate _ 7) :=
  gains_come_back (.replicate _ 7) (.replicate _ 0) (.replicate _ 0) 3 (by decide) (by decide) (by decide)

end TvcHopper.Vehicle
