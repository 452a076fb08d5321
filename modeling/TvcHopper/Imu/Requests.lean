import TvcHopper.Imu.Transfers

/-! What is sent to the sensor hub, and what of it the receiving side of the same transport makes out.

The driver writes as much of a transfer as its buffer has room for, and the
transport takes that for success.
-/

set_option autoImplicit false

namespace TvcHopper.Imu
open Machine

abbrev maxPiece : Nat := sh2HalMaxTransferOut - shtpHdrLen

/-- The fragments that go over the bus when a payload is sent: each one announces its own length, and is cut off at the
end of the driver's buffer. -/
def sentFragments (bufferSize : UInt16) (chan : UInt8) : Nat → UInt8 → Bool → List UInt8 →
    List (Fragment UInt8 UInt8 UInt8)
  | 0, _, _, _ => []
  | fuel + 1, seq, continues, data =>
    if data = [] then [] else
      ⟨chan, seq, continues, (data.take maxPiece).length, (data.take maxPiece).take (bufferSize.toNat - 4)⟩ ::
        sentFragments bufferSize chan fuel (seq + 1) true (data.drop maxPiece)

section Sending
variable {bufferSize : UInt16} {chan : UInt8} {data : List UInt8} {tx : Transmission}

theorem sentHeader {transferLen : UInt16} (small : transferLen.toNat ≤ maxPiece) (continues : Bool) (chan seq : UInt8) :
    [(transferLen + 4 &&& 0xFF).toUInt8,
      if continues then ((transferLen + 4) >>> 8 &&& 0x7F).toUInt8 ||| 0x80
      else ((transferLen + 4) >>> 8 &&& 0x7F).toUInt8,
      chan, seq] = headerBytes transferLen.toNat continues chan seq := by
  have table : ∀ len : Fin 125, ∀ continues : Bool,
      [(UInt16.ofNat len.val + 4 &&& 0xFF).toUInt8,
        if continues then ((UInt16.ofNat len.val + 4) >>> 8 &&& 0x7F).toUInt8 ||| 0x80
        else ((UInt16.ofNat len.val + 4) >>> 8 &&& 0x7F).toUInt8] =
      [UInt8.ofNat ((len.val + 4) % 256), UInt8.ofNat ((len.val + 4) / 256 % 128 + if continues then 128 else 0)] := by
    decide
  have value : UInt16.ofNat transferLen.toNat = transferLen := UInt16.ofNat_toNat
  have here := table ⟨transferLen.toNat, Nat.lt_succ_of_le small⟩ continues
  simp only [value, List.cons.injEq, and_true] at here
  rw [headerBytes, here.1, here.2]

@[simp] theorem headerBytes_length (left : Nat) (continues : Bool) (chan seq : UInt8) :
    (headerBytes left continues chan seq).length = 4 := rfl

theorem toNat_minU16 (a b : UInt16) : (minU16 a b).toNat = Min.min a.toNat b.toNat := by
  simp only [minU16, UInt16.lt_iff_toNat_lt]
  split <;> omega

theorem toNat_writeSize (length bufferSize : UInt16) :
    (min length.toUInt32 bufferSize.toUInt32).toNat = Min.min length.toNat bufferSize.toNat := by
  obtain ⟨first, second, one⟩ := toNat_min length.toUInt32 bufferSize.toUInt32
  rw [UInt16.toNat_toUInt32, UInt16.toNat_toUInt32] at *
  omega

theorem write_transfer (positive : 0 < bufferSize.toNat) (outTransfer transfer : List UInt8) {length : UInt16}
    (front : transfer <+: outTransfer) (size : length.toNat = transfer.length) (some_bytes : 0 < transfer.length) :
    ∃ status, write bufferSize outTransfer length.toUInt32 = .ok (transfer.take bufferSize.toNat, status) ∧
      status ≠ 0 := by
  obtain ⟨behind, rfl⟩ := front
  have count := toNat_writeSize length bufferSize
  refine ⟨min length.toUInt32 bufferSize.toUInt32, ?_, ?_⟩
  · have inside : 0 + (min length.toUInt32 bufferSize.toUInt32).toNat ≤ (transfer ++ behind).length := by
      rw [count, List.length_append]
      omega
    have whole : (transfer ++ behind).take (min length.toUInt32 bufferSize.toUInt32).toNat =
        transfer.take bufferSize.toNat := by
      rw [count, size, List.take_append_of_le_length (by omega), List.take_eq_take_iff]
      omega
    rw [write, loadRange, if_pos inside, List.drop_zero, whole]
    rfl
  · intro zero
    have nothing := congrArg UInt32.toNat zero
    rw [count] at nothing
    have value : (0 : UInt32).toNat = 0 := rfl
    omega

theorem txPass_spec (positive : 0 < bufferSize.toNat) (channel : chan.toNat < shtpMaxChans)
    (left : tx.cursor.toNat + tx.remaining.toNat = data.length) (more : 0 < tx.remaining.toNat) :
    ∃ outTransfer, let piece := (data.drop tx.cursor.toNat).take maxPiece
      let state := tx.shtp.chan[chan.toNat]
      txPass bufferSize chan data tx = .ok ⟨{ tx.shtp with
          chan := tx.shtp.chan.set chan.toNat { state with nextOutSeq := state.nextOutSeq + 1 }, outTransfer },
        true, tx.cursor + minU16 tx.remaining 124, tx.remaining - minU16 tx.remaining 124,
        tx.writes ++
          [(headerBytes piece.length tx.continuation chan state.nextOutSeq ++ piece).take bufferSize.toNat]⟩ ∧
      (minU16 tx.remaining 124).toNat = piece.length := by
  have amount : (minU16 tx.remaining 124).toNat = ((data.drop tx.cursor.toNat).take maxPiece).length := by
    rw [toNat_minU16, List.length_take, List.length_drop]
    have value : (124 : UInt16).toNat = maxPiece := rfl
    omega
  have small : (minU16 tx.remaining 124).toNat ≤ maxPiece := by
    rw [amount, List.length_take]
    exact Nat.min_le_left _ _
  have some_bytes : 0 < ((data.drop tx.cursor.toNat).take maxPiece).length := by
    rw [List.length_take, List.length_drop]
    exact Nat.lt_min.mpr ⟨by decide, by omega⟩
  -- the piece of this transfer
  generalize cut : (data.drop tx.cursor.toNat).take maxPiece = piece at amount some_bytes
  have loaded : loadRange data tx.cursor.toNat (minU16 tx.remaining 124).toNat = .ok piece := by
    rw [loadRange_eq_ok, amount, ← cut, List.take_eq_take_iff, List.length_take, List.length_drop]
    exact ⟨by omega, by omega⟩
  have state := loadCell_of_lt tx.shtp.chan channel
  generalize found : tx.shtp.chan[chan.toNat] = channelState at state
  have header := sentHeader small tx.continuation chan channelState.nextOutSeq
  rw [amount] at header small
  have headerFits : ([] : List UInt8).length +
      (headerBytes piece.length tx.continuation chan channelState.nextOutSeq).length ≤ sh2HalMaxTransferOut := by
    rw [headerBytes_length]
    decide
  have pieceFits : (headerBytes piece.length tx.continuation chan channelState.nextOutSeq).length + piece.length ≤
      sh2HalMaxTransferOut := by
    change 4 + piece.length ≤ maxPiece + 4
    omega
  -- the header goes to the front of the transfer, the piece behind it
  obtain ⟨staged, storedHeader, front⟩ :=
    storeCells_extends _ (List.nil_prefix (l := tx.shtp.outTransfer.toList)) headerFits
  obtain ⟨outTransfer, storedPiece, whole⟩ := storeCells_extends piece front pieceFits
  have lenField : (minU16 tx.remaining 124 + 4).toNat =
      (headerBytes piece.length tx.continuation chan channelState.nextOutSeq ++ piece).length := by
    rw [UInt16.toNat_add, amount, List.length_append, Nat.add_comm]
    have value : (4 : UInt16).toNat = 4 := rfl
    have bound : piece.length ≤ 124 := small
    change (4 + piece.length) % 2 ^ 16 = 4 + piece.length
    omega
  -- the driver writes as much of both as its buffer holds
  obtain ⟨status, written, nonzero⟩ := write_transfer positive outTransfer.toList _ whole lenField (by
    rw [List.length_append]
    omega)
  refine ⟨outTransfer, ?_, amount⟩
  have room : (sh2HalMaxTransferOut - shtpHdrLen).toUInt16 = 124 := rfl
  simp only [txPass, room, state, storeCell_of_lt _ _ channel, ok_bind, pure_eq_ok, header, List.length_nil]
    at storedHeader ⊢
  rw [storedHeader]
  have stored : storeCells staged shtpHdrLen piece = .ok outTransfer := storedPiece
  simp only [ok_bind, loaded, stored, List.nil_append, written, nonzero, if_false]

def writtenOf (fragments : List (Fragment UInt8 UInt8 UInt8)) : List (List UInt8) := fragments.map transferBytes

/-- A transfer that is cut off is a fragment with a shorter piece. -/
theorem written_eq (room : 4 ≤ bufferSize.toNat) (left : Nat) (continues : Bool) (chan seq : UInt8)
    (piece : List UInt8) :
    (headerBytes left continues chan seq ++ piece).take bufferSize.toNat =
      transferBytes ⟨chan, seq, continues, left, piece.take (bufferSize.toNat - 4)⟩ := by
  rw [List.take_append, headerBytes_length, transferBytes, List.take_of_length_le]
  rw [headerBytes_length]
  exact room

theorem txLoop_spec (room : 4 ≤ bufferSize.toNat) (channel : chan.toNat < shtpMaxChans) {fuel : Nat}
    (left : tx.cursor.toNat + tx.remaining.toNat = data.length) (small : data.length < 65536)
    (enough : tx.remaining.toNat < fuel) :
    ∃ tx', txLoop bufferSize chan data fuel tx = .ok tx' ∧ tx'.writes = tx.writes ++ writtenOf
      (sentFragments bufferSize chan fuel tx.shtp.chan[chan.toNat].nextOutSeq tx.continuation
        (data.drop tx.cursor.toNat)) := by
  -- each pass sends at least one byte, so that as many passes as there are bytes are enough
  induction fuel generalizing tx with
  | zero => exact absurd enough (Nat.not_lt_zero _)
  | succ fuel ih =>
    rcases Nat.eq_zero_or_pos tx.remaining.toNat with none_left | more
    · have done : ¬0 < tx.remaining := by
        rw [UInt16.lt_iff_toNat_lt, none_left]
        exact Nat.lt_irrefl 0
      have nothing : data.drop tx.cursor.toNat = [] := List.drop_eq_nil_of_le (by omega)
      refine ⟨tx, by rw [txLoop, if_neg done], ?_⟩
      rw [sentFragments, if_pos nothing, writtenOf, List.map_nil, List.append_nil]
    · have pending : 0 < tx.remaining := UInt16.lt_iff_toNat_lt.mpr more
      obtain ⟨outTransfer, one, amount⟩ := txPass_spec (Nat.lt_of_lt_of_le (by decide) room) channel left more
      have some_left : data.drop tx.cursor.toNat ≠ [] := by
        rw [ne_eq, List.drop_eq_nil_iff]
        omega
      set channel' := tx.shtp.chan[chan.toNat]
      set piece := (data.drop tx.cursor.toNat).take maxPiece
      have few : (minU16 tx.remaining 124).toNat ≤ tx.remaining.toNat := by
        rw [toNat_minU16]
        exact Nat.min_le_left _ _
      have some_sent : 0 < (minU16 tx.remaining 124).toNat := by
        rw [toNat_minU16]
        exact Nat.lt_min.mpr ⟨more, by decide⟩
      have less := UInt16.toNat_sub_of_le _ _ (UInt16.le_iff_toNat_le.mpr few)
      have further : (tx.cursor + minU16 tx.remaining 124).toNat =
          tx.cursor.toNat + (minU16 tx.remaining 124).toNat := by
        rw [UInt16.toNat_add]
        omega
      obtain ⟨tx', rest, writes⟩ := @ih ⟨{ tx.shtp with
          chan := tx.shtp.chan.set chan.toNat { channel' with nextOutSeq := channel'.nextOutSeq + 1 }, outTransfer },
        true, tx.cursor + minU16 tx.remaining 124, tx.remaining - minU16 tx.remaining 124,
        tx.writes ++ [(headerBytes piece.length tx.continuation chan channel'.nextOutSeq ++ piece).take
          bufferSize.toNat]⟩ (by simp only [further, less]; omega) (by simp only [less]; omega)
      refine ⟨tx', ?_, ?_⟩
      · rw [txLoop, if_pos pending, one, ok_bind, rest]
      -- what is left behind the pass is what is left behind the piece
      · have behind : (data.drop tx.cursor.toNat).drop maxPiece =
            data.drop (tx.cursor + minU16 tx.remaining 124).toNat := by
          have cut : piece.length = Min.min maxPiece (data.length - tx.cursor.toNat) := by
            rw [List.length_take, List.length_drop]
          rw [further, amount, List.drop_drop, List.drop_eq_drop_iff]
          omega
        have here : (tx.shtp.chan.set chan.toNat { channel' with nextOutSeq := channel'.nextOutSeq + 1 })[chan.toNat] =
            { channel' with nextOutSeq := channel'.nextOutSeq + 1 } := Vector.getElem_set_self _
        simp only [writes, sentFragments, if_neg some_left, behind, here, writtenOf, List.map_cons, written_eq room,
          List.append_assoc, List.singleton_append]
        rfl

theorem sentFragments_sendable (channel : chan.toNat < shtpMaxChans) (fuel : Nat) (seq : UInt8) (continues : Bool) :
    ∀ fragment ∈ sentFragments bufferSize chan fuel seq continues data, Sendable fragment := by
  induction fuel generalizing seq continues data with
  | zero => exact fun _ none => absurd none List.not_mem_nil
  | succ fuel ih =>
    rw [sentFragments]
    split
    · exact fun _ none => absurd none List.not_mem_nil
    · rw [List.forall_mem_cons]
      refine ⟨⟨channel, List.length_take_le' _ _, ?_⟩, ih _ _⟩
      exact Nat.lt_of_le_of_lt (Nat.add_le_add_right (List.length_take_le _ _) 4) (by decide)

theorem shtpSend_spec (shtp : Shtp) (room : 4 ≤ bufferSize.toNat) (channel : chan.toNat < shtpMaxChans) {len : UInt16}
    (size : len.toNat = data.length) :
    ∃ shtp' writes status, shtpSend bufferSize shtp chan data len = .ok (shtp', writes, status) ∧
      (status = sh2Ok ↔ data.length ≤ sh2HalMaxPayloadOut) ∧
      writes = if data.length ≤ sh2HalMaxPayloadOut then
        writtenOf (sentFragments bufferSize chan (data.length + 1) shtp.chan[chan.toNat].nextOutSeq false data)
      else [] := by
  rw [← size]
  by_cases small : len.toNat ≤ sh2HalMaxPayloadOut
  · have remaining : len.toUInt32.toUInt16 = len := by simp
    let start : Transmission := ⟨shtp, false, 0, len, []⟩
    have left : start.cursor.toNat + start.remaining.toNat = data.length := size ▸ Nat.zero_add _
    obtain ⟨tx, loop, writes⟩ := txLoop_spec room channel left (size ▸ len.toNat_lt) (Nat.lt_succ_self _)
    have done : txLoop bufferSize chan data (len.toNat + 1) ⟨shtp, false, 0, len, []⟩ = .ok tx := loop
    refine ⟨tx.shtp, tx.writes, sh2Ok, ?_, iff_of_true rfl small, ?_⟩
    · simp only [shtpSend, txProcess, remaining, not_lt.mpr small, not_le.mpr channel, if_false, done, ok_bind,
        pure_eq_ok]
    · rw [writes, if_pos small]
      rfl
  · refine ⟨_, [], sh2ErrBadParam, if_pos (Nat.lt_of_not_le small), iff_of_false (by decide) small, ?_⟩
    rw [if_neg small]

theorem sentFragments_single (bufferSize : UInt16) (chan : UInt8) (fuel : Nat) (seq : UInt8) (continues : Bool)
    (some_bytes : data ≠ []) (small : data.length ≤ maxPiece) :
    sentFragments bufferSize chan (fuel + 2) seq continues data =
      [⟨chan, seq, continues, data.length, data.take (bufferSize.toNat - 4)⟩] := by
  rw [sentFragments, if_neg some_bytes, List.take_of_length_le small, List.drop_eq_nil_of_le small, sentFragments,
    if_pos rfl]

end Sending

def Shtp.sent (shtp : Shtp) {chan : UInt8} (channel : chan.toNat < shtpMaxChans)
    (outTransfer : Vector UInt8 sh2HalMaxTransferOut) : Shtp :=
  { shtp with
    chan := shtp.chan.set chan.toNat
      { shtp.chan[chan.toNat] with nextOutSeq := shtp.chan[chan.toNat].nextOutSeq + 1 }
    outTransfer }

section Sent
variable {bufferSize : UInt16} {chan : UInt8} {data : List UInt8} {shtp : Shtp}
  (channel : chan.toNat < shtpMaxChans) (outTransfer : Vector UInt8 sh2HalMaxTransferOut)

theorem shtpSend_single (shtp : Shtp) (room : 4 ≤ bufferSize.toNat) (some_bytes : data ≠ [])
    (small : data.length ≤ maxPiece) {len : UInt16} (size : len.toNat = data.length) :
    ∃ outTransfer, shtpSend bufferSize shtp chan data len = .ok (shtp.sent channel outTransfer,
      [transferBytes ⟨chan, shtp.chan[chan.toNat].nextOutSeq, false, data.length,
        data.take (bufferSize.toNat - 4)⟩], sh2Ok) := by
  have fits : ¬sh2HalMaxPayloadOut < len.toNat := by
    rw [size, Nat.not_lt]
    exact Nat.le_trans small (by decide)
  have remaining : len.toUInt32.toUInt16 = len := by simp
  have more : 0 < len.toNat := by
    rw [size]
    exact List.length_pos_of_ne_nil some_bytes
  have pending : 0 < len := UInt16.lt_iff_toNat_lt.mpr more
  have all : minU16 len 124 = len := by
    rw [← UInt16.toNat_inj, toNat_minU16, size]
    exact Nat.min_eq_left small
  obtain ⟨outTransfer, one, -⟩ := @txPass_spec bufferSize chan data ⟨shtp, false, 0, len, []⟩
    (Nat.lt_of_lt_of_le (by decide) room) channel (size ▸ Nat.zero_add _) more
  have zero : (0 : UInt16).toNat = 0 := rfl
  simp only [zero, List.drop_zero, List.take_of_length_le small, all, UInt16.sub_self, UInt16.zero_add, List.nil_append,
    written_eq room] at one
  obtain ⟨fuel, count⟩ := Nat.exists_eq_succ_of_ne_zero more.ne'
  have done : ¬(0 : UInt16) < 0 := by decide
  refine ⟨outTransfer, ?_⟩
  simp only [shtpSend, fits, not_le.mpr channel, if_false, txProcess, remaining]
  simp only [count, txLoop, pending, if_true, one, ok_bind, done, if_false, pure_eq_ok, Shtp.sent]

theorem Shtp.Assembles.sent {assembler : ShtpAssembler} (assembles : shtp.Assembles assembler) :
    (shtp.sent channel outTransfer).Assembles assembler where
  bounded := assembles.bounded
  expected := by
    intro other state found
    by_cases here : other = chan
    · subst here
      rw [Shtp.sent, loadCell_of_lt _ channel, Vector.getElem_set_self] at found
      obtain rfl := Except.ok.inj found
      exact assembles.expected other shtp.chan[other.toNat] (loadCell_of_lt shtp.chan channel)
    · rw [Shtp.sent, loadCell_elsewhere (storeCell_of_lt _ _ channel) (mt UInt8.toNat_inj.mp here)] at found
      exact assembles.expected other state found
  missing := assembles.missing
  collected := assembles.collected

@[simp] theorem Shtp.listens_sent : (shtp.sent channel outTransfer).listens = shtp.listens := by
  funext other
  simp only [Shtp.listens, Shtp.sent, Vector.toList_set, List.getElem?_set, Vector.length_toList, channel, if_true]
  by_cases here : chan.toNat = other.toNat
  · rw [if_pos here, ← here, Vector.getElem?_toList, Vector.getElem?_eq_getElem channel]
    rfl
  · rw [if_neg here]

def Shtp.outSeq (shtp : Shtp) : Vector UInt8 shtpMaxChans := shtp.chan.map (·.nextOutSeq)

@[simp] theorem Shtp.outSeq_sent :
    (shtp.sent channel outTransfer).outSeq = shtp.outSeq.set chan.toNat (shtp.outSeq[chan.toNat] + 1) := by
  simp only [Shtp.outSeq, Shtp.sent, Vector.map_set, Vector.getElem_map]

theorem outSeq_of_stored {chans chans' : Vector ShtpChannel shtpMaxChans} {place : Nat} {found stored : ShtpChannel}
    (load : loadCell chans place = .ok found) (store : storeCell chans place stored = .ok chans')
    (same : stored.nextOutSeq = found.nextOutSeq) :
    chans'.map (·.nextOutSeq) = chans.map (·.nextOutSeq) := by
  obtain ⟨inside, rfl⟩ := loadCell_eq_ok.mp load
  obtain ⟨-, rfl⟩ := storeCell_eq_ok.mp store
  have here : chans[place].nextOutSeq = (chans.map (·.nextOutSeq))[place] := (Vector.getElem_map _ _).symm
  rw [Vector.map_set, same, here, Vector.set_getElem_self]

theorem shtpListenChan_outSeq {shtp' : Shtp} {status : Int} (done : shtpListenChan shtp chan = .ok (shtp', status)) :
    shtp'.outSeq = shtp.outSeq := by
  unfold shtpListenChan at done
  split at done
  · cases done
    rfl
  · obtain ⟨state, load, done⟩ := bind_eq_ok.mp done
    obtain ⟨chans, store, done⟩ := bind_eq_ok.mp done
    cases done
    exact outSeq_of_stored load store rfl

theorem rxAppend_outSeq {header : ShtpHeader} {transfer : List UInt8} {len : UInt16} {shtp' : Shtp}
    {calls : List ShtpCall} (done : rxAppend shtp header transfer len = .ok (shtp', calls)) :
    shtp'.outSeq = shtp.outSeq := by
  obtain ⟨fragment, -, done⟩ := bind_eq_ok.mp done
  obtain ⟨inPayload, -, done⟩ := bind_eq_ok.mp done
  obtain ⟨state, load, done⟩ := bind_eq_ok.mp done
  obtain ⟨chans, store, done⟩ := bind_eq_ok.mp done
  cases done
  exact outSeq_of_stored load store rfl

theorem rxDiscard_outSeq (shtp : Shtp) (header : ShtpHeader) (nextInSeq : UInt8) :
    (rxDiscard shtp header nextInSeq).1.outSeq = shtp.outSeq := by
  unfold rxDiscard
  split <;> rfl

theorem rxAccept_outSeq {header : ShtpHeader} {transfer : List UInt8} {len : UInt16} {tUs : UInt32} {shtp' : Shtp}
    {calls : List ShtpCall} (done : rxAccept shtp header transfer len tUs = .ok (shtp', calls)) :
    shtp'.outSeq = shtp.outSeq := by
  unfold rxAccept at done
  split at done
  · cases done
    rfl
  · rw [rxAppend_outSeq done]
    split <;> rfl

theorem rxStep_outSeq {received : Received} {shtp' : Shtp} {calls : List ShtpCall}
    (done : rxStep shtp received = .ok (shtp', calls)) : shtp'.outSeq = shtp.outSeq := by
  rw [rxStep, rxAssemble] at done
  by_cases few : received.len < 4
  · rw [if_pos few] at done
    cases done
    rfl
  rw [if_neg few] at done
  obtain ⟨header, -, done⟩ := bind_eq_ok.mp done
  obtain ⟨state, -, done⟩ := bind_eq_ok.mp done
  by_cases short : header.payloadLen < 4
  · rw [if_pos short] at done
    cases done
    rfl
  by_cases high : shtpMaxChans ≤ header.chan.toNat
  · rw [if_neg short, if_pos high] at done
    cases done
    rfl
  · rw [if_neg short, if_neg high] at done
    obtain ⟨accepted, one, done⟩ := bind_eq_ok.mp done
    cases done
    exact (rxAccept_outSeq one).trans (rxDiscard_outSeq _ header state.nextInSeq)

end Sent

/-- The peer reads a transfer as it was written. -/
def Received.Reads (received : Received) (bytes : List UInt8) : Prop :=
  bytes <+: received.transfer ∧ received.len.toNat = bytes.length

theorem carries_of_reads {transfers : List Received} {fragments : List (Fragment UInt8 UInt8 UInt8)}
    (sendable : ∀ fragment ∈ fragments, Sendable fragment)
    (arrive : List.Forall₂ Received.Reads transfers (writtenOf fragments)) :
    List.Forall₂ Received.Carries transfers (fragments.zip (transfers.map Received.tUs)) := by
  induction fragments generalizing transfers with
  | nil =>
    cases arrive
    exact .nil
  | cons fragment fragments ih =>
    cases arrive with
    | cons reads rest =>
      rw [List.map_cons, List.zip_cons_cons]
      obtain ⟨first, others⟩ := List.forall_mem_cons.mp sendable
      exact .cons ⟨first, reads.1, reads.2, rfl⟩ (ih others rest)

section Peer
variable {bufferSize : UInt16} {chan : UInt8} {payload : List UInt8} {assembler : ShtpAssembler}

theorem single_received (seq : UInt8) (tUs : UInt32) (small : payload.length ≤ maxPiece) :
    (ShtpAssembler.receive assembler ⟨chan, seq, false, payload.length, payload.take (bufferSize.toNat - 4)⟩ tUs).2 =
      if payload.length ≤ bufferSize.toNat - 4 then some ⟨chan, payload, tUs⟩ else none := by
  have room : payload.length ≤ payloadRoom := Nat.le_trans small (by decide)
  have missing : payload.length - Min.min (bufferSize.toNat - 4) payload.length = 0 ↔
      payload.length ≤ bufferSize.toNat - 4 := by omega
  rw [ShtpAssembler.receive, Assembler.receive_first rfl room]
  simp only [Assembler.append, Assembler.restart, List.nil_append, List.length_take, missing]
  split
  case isTrue whole => rw [List.take_of_length_le whole]
  case isFalse => rfl

/-- A payload that takes two transfers does not arrive. -/
theorem double_received (seq : UInt8) (first rest : UInt32) (long : maxPiece < payload.length)
    (small : payload.length ≤ sh2HalMaxPayloadOut) {cargo : Cargo UInt8 UInt32 UInt8}
    (out : cargo ∈ (Assembler.receiveAll (· + 1) payloadRoom assembler
      [(⟨chan, seq, false, (payload.take maxPiece).length, (payload.take maxPiece).take (bufferSize.toNat - 4)⟩, first),
        (⟨chan, seq + 1, true, (payload.drop maxPiece).length, (payload.drop maxPiece).take (bufferSize.toNat - 4)⟩,
          rest)]).2) : cargo.payload.length ≤ maxPiece := by
  have front : (payload.take maxPiece).length = maxPiece := List.length_take_of_le (Nat.le_of_lt long)
  have behind : (payload.drop maxPiece).length ≤ maxPiece := by
    rw [List.length_drop]
    exact Nat.le_trans (Nat.sub_le_sub_right small _) (by decide)
  simp only [Assembler.receiveAll, List.append_nil, List.mem_append, Option.mem_toList] at out
  have start : Assembler.receive (· + 1) payloadRoom assembler ⟨chan, seq, false, (payload.take maxPiece).length,
      (payload.take maxPiece).take (bufferSize.toNat - 4)⟩ first = _ :=
    Assembler.receive_first rfl (Nat.le_trans (Nat.le_of_eq front) (by decide)) first
  have least : ((payload.take maxPiece).take (bufferSize.toNat - 4)).length ≤ (payload.take maxPiece).length :=
    List.length_take_le' _ _
  rw [start] at out
  rcases out with one | two
  · refine Assembler.append_size ?_ least one
    rw [Assembler.restart, List.length_nil, Nat.zero_add]
    exact Nat.le_of_eq front
  · refine Assembler.receive_size (Assembler.append_bounded _ ?_ least) (List.length_take_le' _ _) behind two
    rw [Assembler.restart, List.length_nil, Nat.zero_add]
    exact Nat.le_of_eq front

end Peer

/-- A payload that `shtp_send` reports as sent reaches the listener of a peer with the same transport when it fits into
one transfer and into the buffer of the driver, and not otherwise. -/
theorem sent_payload_received_iff {bufferSize : UInt16} {chan len : _} {payload : List UInt8} (shtp : Shtp)
    (room : 4 ≤ bufferSize.toNat) (channel : UInt8.toNat chan < shtpMaxChans) (size : UInt16.toNat len = payload.length)
    {peer : Shtp} {assembler : ShtpAssembler} (assembles : peer.Assembles assembler) (listens : peer.listens chan) :
    ∃ shtp' writes status, shtpSend bufferSize shtp chan payload len = .ok (shtp', writes, status) ∧
      (status = sh2Ok ↔ payload.length ≤ sh2HalMaxPayloadOut) ∧
      ∀ transfers, List.Forall₂ Received.Reads transfers writes →
        ∃ final calls, run rxStep peer transfers = .ok (final, calls) ∧
          (payload ∈ (payloads calls.flatten).map Cargo.payload ↔
            payload ≠ [] ∧ payload.length + 4 ≤ Min.min bufferSize.toNat sh2HalMaxTransferOut) := by
  obtain ⟨shtp', writes, status, sent, ok, written⟩ := shtpSend_spec shtp room channel size
  refine ⟨shtp', writes, status, sent, ok, fun transfers arrive => ?_⟩
  -- too long for the transport: nothing is written
  by_cases long : sh2HalMaxPayloadOut < payload.length
  · rw [written, if_neg (Nat.not_le.mpr long)] at arrive
    cases arrive
    refine ⟨peer, [], rfl, iff_of_false List.not_mem_nil fun fits => ?_⟩
    have less := Nat.le_trans (Nat.le_add_right _ 4) (Nat.le_trans fits.2 (Nat.min_le_right _ _))
    exact absurd less (Nat.not_le.mpr long)
  have small := Nat.le_of_not_lt long
  rw [written, if_pos small] at arrive
  obtain ⟨final, calls, done, -, -, out⟩ :=
    rx_refines assembles (carries_of_reads (sentFragments_sendable channel _ _ _) arrive)
  refine ⟨final, calls, done, ?_⟩
  rw [out]
  by_cases some_bytes : payload = []
  · subst some_bytes
    rw [List.length_nil, sentFragments, if_pos rfl]
    exact iff_of_false List.not_mem_nil fun fits => fits.1 rfl
  rw [and_iff_right some_bytes]
  -- one transfer, of which the driver writes as much as its buffer holds
  by_cases single : payload.length ≤ maxPiece
  · obtain ⟨fuel, count⟩ : ∃ fuel, payload.length + 1 = fuel + 2 :=
      ⟨payload.length - 1, by have := List.length_pos_iff.mpr some_bytes; omega⟩
    rw [count, sentFragments_single bufferSize chan fuel _ false some_bytes single] at arrive ⊢
    cases arrive with
    | @cons received _ _ _ reads rest =>
      cases rest
      simp only [List.zip_cons_cons, List.map_cons, List.map_nil, List.zip_nil_left, Assembler.receiveAll,
        single_received _ _ single, List.append_nil]
      have fits : payload.length + 4 ≤ Min.min bufferSize.toNat sh2HalMaxTransferOut ↔
          payload.length ≤ bufferSize.toNat - 4 := by
        have most : payload.length + 4 ≤ sh2HalMaxTransferOut := Nat.add_le_add_right single 4
        rw [Nat.le_min, and_iff_left most]
        omega
      rw [fits]
      split
      case isTrue whole => simp [whole, listens]
      case isFalse short => simp [short]
  · have more := Nat.lt_of_not_le single
    -- two transfers: each announces its own length only, so what comes out is too short
    obtain ⟨fuel, count⟩ : ∃ fuel, payload.length + 1 = fuel + 3 :=
      ⟨payload.length - 2, by simp only [maxPiece, sh2HalMaxTransferOut, shtpHdrLen] at more; omega⟩
    have some_left : payload.drop maxPiece ≠ [] := by
      rw [ne_eq, List.drop_eq_nil_iff]
      exact Nat.not_le.mpr more
    have few_left : (payload.drop maxPiece).length ≤ maxPiece := by
      rw [List.length_drop]
      exact Nat.le_trans (Nat.sub_le_sub_right small _) (by decide)
    rw [count, sentFragments, if_neg some_bytes, sentFragments_single bufferSize chan fuel _ true some_left few_left]
      at arrive ⊢
    cases arrive with
    | @cons first _ _ _ _ rest =>
      cases rest with
      | @cons second _ _ _ _ rest =>
        cases rest
        refine iff_of_false ?_ fun fits => ?_
        case refine_2 => exact single (Nat.le_of_add_le_add_right (Nat.le_trans fits (Nat.min_le_right _ _)))
        rw [List.mem_map]
        rintro ⟨cargo, out, same⟩
        have short := double_received _ _ _ more small (List.mem_filter.mp out).1
        rw [same] at short
        exact single short

/-- A payload of two bytes, with a buffer of the driver that has room for the header and one of them. -/
theorem sent_payload_received_iff_short : ∃ listening, shtpListenChan Shtp.opened 3 = .ok (listening, sh2Ok) ∧
    ∃ shtp' writes status, shtpSend 5 Shtp.opened 3 [1, 2] 2 = .ok (shtp', writes, status) ∧
      (status = sh2Ok ↔ [1, 2].length ≤ sh2HalMaxPayloadOut) ∧
      ∀ transfers, List.Forall₂ Received.Reads transfers writes →
        ∃ final calls, run rxStep listening transfers = .ok (final, calls) ∧
          ([1, 2] ∈ (payloads calls.flatten).map Cargo.payload ↔
            [(1 : UInt8), 2] ≠ [] ∧ [1, 2].length + 4 ≤ Min.min (5 : UInt16).toNat sh2HalMaxTransferOut) := by
  obtain ⟨listening, done, assembles, listens⟩ := shtpListenChan_spec assembles_opened 3 (by decide) (by decide)
  refine ⟨listening, done, sent_payload_received_iff Shtp.opened (by decide) (by decide) rfl assembles ?_⟩
  rw [listens, Function.update_self]

end TvcHopper.Imu
