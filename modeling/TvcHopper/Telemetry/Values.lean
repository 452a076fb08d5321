import TvcHopper.Telemetry.Vehicle

/-! The values of the telemetry server, in any order of events.

An entry of `prop_values_` is made when a property is first used, and keeps what
the lookup found at that time. It holds the last value that was received exactly
when the definition was there by then.
-/

set_option autoImplicit false

namespace TvcHopper.Telemetry
open Machine Spp

/-- The value most recently received, as far as the definition says; zeros when there is none. -/
def expected (latest : Option (List UInt8)) (size : UInt8) : List UInt8 :=
  match latest with
  | some value => value.take size.toNat
  | none => List.replicate size.toNat 0

/-- The entry has the first definition with its id, and the value that is expected. -/
def Keeps (definitions : List SppPropertyDefinition) (latest : Option (List UInt8)) (id : UInt16)
    (entry : PropValue) : Prop :=
  ∃ place pd, definitions.findIdx? (·.id == id) = some place ∧ definitions.find? (·.id == id) = some pd ∧
    entry.definition = some place ∧ entry.buffer = expected latest pd.size ∧ entry.buffer.length = pd.size.toNat

structure Current (comms : TelemetryComms) (definitions : List SppPropertyDefinition)
    (latest : UInt16 → Option (List UInt8)) : Prop where
  serves : Serves comms.spp comms.defaultClient definitions
  objects : comms.spp.streamObjects.length = sppStreamMaxCount
  entries : ∀ id entry, comms.propValues id = some entry → Keeps definitions (latest id) id entry
  fresh : ∀ id, comms.propValues id = none → latest id = none

section Values
variable {comms comms' : TelemetryComms} {definitions : List SppPropertyDefinition}
  {latest : UInt16 → Option (List UInt8)} {id : UInt16} {entry : PropValue} {pd : SppPropertyDefinition}

theorem Current.getValue (current : Current comms definitions latest)
    (first : definitions.find? (·.id == id) = some pd) :
    ∃ entry, getValue comms id = .ok ({ comms with propValues := Function.update comms.propValues id (some entry) },
        entry) ∧ Keeps definitions (latest id) id entry := by
  cases cached : comms.propValues id with
  | some entry =>
    have same : Function.update comms.propValues id (some entry) = comms.propValues := by
      rw [← cached, Function.update_eq_self]
    refine ⟨entry, ?_, current.entries id entry cached⟩
    rw [Telemetry.getValue, cached, same]
    rfl
  | none =>
    obtain ⟨place, found⟩ := findIdx_of_find first
    obtain ⟨status, lookup⟩ := current.serves.lookup id
    obtain ⟨copy, pd', stored, same, first'⟩ := current.serves.copy found
    obtain rfl : pd' = pd := Option.some.inj (first'.symm.trans first)
    rw [found] at lookup
    refine ⟨⟨some place, 0, List.replicate pd'.size.toNat 0⟩, ?_, place, pd', found, first, rfl, ?_, by simp⟩
    · rw [Telemetry.getValue, cached]
      simp only [lookup, ok_bind, load_eq_ok.mpr stored, same.size, pure_eq_ok]
    · rw [current.fresh id cached]
      rfl

/-- Without the definition the new entry has a null pointer. -/
theorem Current.getValue_null (current : Current comms definitions latest)
    (absent : definitions.find? (·.id == id) = none) :
    ∃ comms' entry, Telemetry.getValue comms id = .ok (comms', entry) ∧ entry.definition = none := by
  cases cached : comms.propValues id with
  | some entry =>
    obtain ⟨place, pd, -, first, -⟩ := current.entries id entry cached
    rw [absent] at first
    cases first
  | none =>
    obtain ⟨status, lookup⟩ := current.serves.lookup id
    rw [findIdx_absent absent] at lookup
    refine ⟨{ comms with propValues := Function.update comms.propValues id (some ⟨none, 0, []⟩) }, ⟨none, 0, []⟩, ?_,
      rfl⟩
    rw [Telemetry.getValue, cached]
    simp only [lookup, ok_bind, pure_eq_ok]

theorem Keeps.deref {value : Option (List UInt8)} (keeps : Keeps definitions value id entry) (comms : TelemetryComms)
    (serves : Serves comms.spp comms.defaultClient definitions)
    (first : definitions.find? (·.id == id) = some pd) :
    (∃ copy, entry.deref comms = .ok copy ∧ copy.size = pd.size) ∧ entry.buffer = expected value pd.size ∧
      entry.buffer.length = pd.size.toNat := by
  obtain ⟨place, pd', found, first', definition, buffer, length⟩ := keeps
  obtain rfl : pd' = pd := Option.some.inj (first'.symm.trans first)
  obtain ⟨copy, pd'', stored, same, first''⟩ := serves.copy found
  obtain rfl : pd'' = pd' := Option.some.inj (first''.symm.trans first)
  refine ⟨⟨copy, ?_, same.size⟩, buffer, length⟩
  rw [PropValue.deref, definition]
  exact load_eq_ok.mpr stored

theorem Current.enter (current : Current comms definitions latest) {value : Option (List UInt8)}
    (keeps : Keeps definitions value id entry) :
    Current { comms with propValues := Function.update comms.propValues id (some entry) } definitions
      (Function.update latest id value) := by
  refine ⟨current.serves, current.objects, ?_, ?_⟩
  · intro other entry' here
    change Function.update comms.propValues id (some entry) other = some entry' at here
    by_cases same : other = id
    · subst same
      rw [Function.update_self] at here ⊢
      obtain rfl := Option.some.inj here
      exact keeps
    · rw [Function.update_of_ne same] at here ⊢
      exact current.entries other entry' here
  · intro other missing
    change Function.update comms.propValues id (some entry) other = none at missing
    by_cases same : other = id
    · subst same
      rw [Function.update_self] at missing
      cases missing
    · rw [Function.update_of_ne same] at missing ⊢
      exact current.fresh other missing

/-! ## The answer to `val` -/

theorem valueMessage_stores {bytes : List UInt8} (loaded : loadRange entry.buffer 0 pd.size.toNat = .ok bytes) :
    valueMessage id pd entry = storeAll (List.replicate (2 + 1 + 4 + pd.size).toNat 0) 0
      [bytes16 id, [pd.size], bytes32 entry.timestamp, bytes] := by
  simp only [valueMessage, loaded, ok_bind]
  rfl

theorem valueMessage_ok (small : pd.size.toNat ≤ 248) (length : entry.buffer.length = pd.size.toNat) :
    valueMessage id pd entry = .ok (bytes16 id ++ [pd.size] ++ bytes32 entry.timestamp ++ entry.buffer) := by
  have loaded : loadRange entry.buffer 0 pd.size.toNat = .ok entry.buffer := by
    rw [← length, loadRange_eq_ok]
    exact ⟨by omega, by rw [List.drop_zero, List.take_length]⟩
  have msgLen : (2 + 1 + 4 + pd.size).toNat = 7 + pd.size.toNat := by
    have seven : (2 + 1 + 4 : UInt8).toNat = 7 := rfl
    rw [UInt8.toNat_add, seven]
    omega
  have whole : ([bytes16 id, [pd.size], bytes32 entry.timestamp, entry.buffer] : List (List UInt8)).flatten.length =
      7 + pd.size.toNat := by
    simp [length]
    omega
  have room : ([] : List UInt8).length + ([bytes16 id, [pd.size], bytes32 entry.timestamp, entry.buffer] :
      List (List UInt8)).flatten.length ≤ (List.replicate (2 + 1 + 4 + pd.size).toNat (0 : UInt8)).length := by
    rw [whole, List.length_replicate, msgLen, List.length_nil, Nat.zero_add]
  obtain ⟨msg, stored, size, start⟩ := storeAll_extends _ List.nil_prefix room
  rw [List.nil_append] at start
  have filled := start.eq_of_length (by rw [whole, size, List.length_replicate, msgLen])
  rw [valueMessage_stores loaded]
  refine stored.trans (congrArg Except.ok ?_)
  rw [← filled]
  simp

theorem valueMessage_small {msg : List UInt8} (done : valueMessage id pd entry = .ok msg) : pd.size.toNat ≤ 248 := by
  obtain ⟨first, one, done⟩ := bind_eq_ok.mp done
  obtain ⟨second, two, done⟩ := bind_eq_ok.mp done
  obtain ⟨third, three, done⟩ := bind_eq_ok.mp done
  obtain ⟨bytes, loaded, done⟩ := bind_eq_ok.mp done
  have length := loadRange_length loaded
  obtain ⟨room, -⟩ := storeRange_eq_ok.mp done
  have size : third.length = (2 + 1 + 4 + pd.size).toNat := by
    rw [storeRange_length three, storeRange_length two, storeRange_length one, List.length_replicate]
  have seven : (2 + 1 + 4 : UInt8).toNat = 7 := rfl
  rw [UInt8.toNat_add, seven] at size
  have small := pd.size.toNat_lt
  omega

/-! ## A value that arrives -/

/-- The property is known, and the memory from the value on has all its bytes. -/
def Takes (definitions : List SppPropertyDefinition) (id : UInt16) (value : List UInt8) : Prop :=
  ∃ pd, definitions.find? (·.id == id) = some pd ∧ pd.size.toNat ≤ value.length

theorem Current.onValueResponse (current : Current comms definitions latest) {value : List UInt8}
    (takes : Takes definitions id value) (instanceData : Option UInt32) :
    ∃ comms', onValueResponse comms id value instanceData = .ok comms' ∧
      Current comms' definitions (Function.update latest id (some value)) := by
  obtain ⟨pd, first, long⟩ := takes
  obtain ⟨entry, made, keeps⟩ := current.getValue first
  let used : TelemetryComms := { comms with propValues := Function.update comms.propValues id (some entry) }
  obtain ⟨⟨copy, pointer, size⟩, -, length⟩ := keeps.deref used current.serves first
  obtain ⟨place, pd', found, first', definition, -⟩ := keeps
  obtain rfl : pd' = pd := Option.some.inj (first'.symm.trans first)
  have loaded : loadRange value 0 copy.size.toNat = .ok (value.take pd'.size.toNat) := by
    rw [size, loadRange_eq_ok]
    exact ⟨by omega, by rw [List.drop_zero]⟩
  have taken : (value.take pd'.size.toNat).length = pd'.size.toNat := List.length_take_of_le long
  -- the whole buffer is overwritten
  have stored : storeRange entry.buffer 0 (value.take pd'.size.toNat) = .ok (value.take pd'.size.toNat) := by
    refine storeRange_eq_ok.mpr ⟨by omega, ?_⟩
    have whole : (value.take pd'.size.toNat).take pd'.size.toNat = value.take pd'.size.toNat :=
      List.take_of_length_le taken.le
    have rest : entry.buffer.drop pd'.size.toNat = [] := List.drop_eq_nil_of_le length.le
    rw [overwrite, length, taken, Nat.sub_zero, Nat.zero_add, whole, rest, List.take_zero, List.nil_append,
      List.append_nil]
  let written : PropValue := { entry with
    timestamp := instanceData.getD entry.timestamp
    buffer := value.take pd'.size.toNat }
  have keeps' : Keeps definitions (some value) id written := ⟨place, pd', found, first, definition, rfl, taken⟩
  refine ⟨{ comms with propValues := Function.update comms.propValues id (some written) }, ?_, current.enter keeps'⟩
  rw [Telemetry.onValueResponse, made, ok_bind]
  simp only [used] at pointer
  simp only [pointer, loaded, stored, ok_bind, pure_eq_ok, Function.update_idem]
  rfl

theorem Current.takes (current : Current comms definitions latest) {value : List UInt8} {instanceData : Option UInt32}
    (done : Telemetry.onValueResponse comms id value instanceData = .ok comms') : Takes definitions id value := by
  cases first : definitions.find? (·.id == id) with
  | none =>
    obtain ⟨used, entry, made, null⟩ := current.getValue_null first
    rw [Telemetry.onValueResponse, made, ok_bind] at done
    obtain ⟨_, pointer, -⟩ := bind_eq_ok.mp done
    rw [PropValue.deref, null] at pointer
    cases pointer
  | some pd =>
    obtain ⟨entry, made, keeps⟩ := current.getValue first
    rw [Telemetry.onValueResponse, made, ok_bind] at done
    obtain ⟨copy, pointer, done⟩ := bind_eq_ok.mp done
    obtain ⟨bytes, loaded, -⟩ := bind_eq_ok.mp done
    have serves : Serves comms.spp comms.defaultClient definitions := current.serves
    let used : TelemetryComms := { comms with propValues := Function.update comms.propValues id (some entry) }
    obtain ⟨⟨copy', pointer', size⟩, -⟩ := keeps.deref used serves first
    obtain rfl := Except.ok.inj (pointer'.symm.trans pointer)
    obtain ⟨inside, -⟩ := loadRange_eq_ok.mp loaded
    refine ⟨pd, first, ?_⟩
    rw [← size]
    omega

end Values

end TvcHopper.Telemetry
