import TvcHopper.Imu.Read
import TvcHopper.Machine.Fragments

/-! The transport of the sensor hub: how payloads are put together from transfers,
and sent in transfers.

The length in the header of a received transfer is what is left of the payload,
and of a sent one what the transfer has. The callbacks that are registered are
called in the order of the calls that `rxAssemble` returns; none of them changes
what `rxAssemble` still writes.
-/

set_option autoImplicit false

namespace TvcHopper.Imu
open Machine

abbrev sh2HalMaxTransferOut : Nat := 128
abbrev sh2HalMaxPayloadOut : Nat := 128
abbrev sh2HalMaxTransferIn : Nat := 1024
abbrev sh2HalMaxPayloadIn : Nat := 1024

abbrev shtpMaxChans : Nat := 8
abbrev shtpHdrLen : Nat := 4

abbrev sh2Ok : Int := 0
abbrev sh2ErrBadParam : Int := -2

inductive ShtpEvent where
  | shortFragment
  | tooLargePayloads
  | badRxChan
  | badTxChan
  | badFragment
  | badSn
  | interruptedPayload
  deriving DecidableEq, Repr

/-- `callback` tells whether a listener is registered. -/
structure ShtpChannel where
  nextOutSeq : UInt8
  nextInSeq : UInt8
  callback : Bool
  deriving DecidableEq

structure Shtp where
  eventCallback : Bool
  outTransfer : Vector UInt8 sh2HalMaxTransferOut
  inRemaining : UInt16
  inChan : UInt8
  inPayload : Vector UInt8 sh2HalMaxPayloadIn
  inCursor : UInt16
  inTimestamp : UInt32
  inTransfer : Vector UInt8 sh2HalMaxTransferIn
  chan : Vector ShtpChannel shtpMaxChans
  rxBadChan : UInt32
  rxShortFragments : UInt32
  rxTooLargePayloads : UInt32
  rxInterruptedPayloads : UInt32
  badTxChan : UInt32
  txDiscards : UInt32
  txTooLargePayloads : UInt32

/-- A call of the event callback, or of the listener of a channel: it is given the whole buffer, and how much of it is
the payload. -/
inductive ShtpCall where
  | event (event : ShtpEvent)
  | payload (chan : UInt8) (payload : Vector UInt8 sh2HalMaxPayloadIn) (len : UInt16) (timestamp : UInt32)
  deriving DecidableEq

namespace Shtp

def opened : Shtp where
  eventCallback := false
  outTransfer := .replicate _ 0
  inRemaining := 0
  inChan := 0
  inPayload := .replicate _ 0
  inCursor := 0
  inTimestamp := 0
  inTransfer := .replicate _ 0
  chan := .replicate _ ⟨0, 0, false⟩
  rxBadChan := 0
  rxShortFragments := 0
  rxTooLargePayloads := 0
  rxInterruptedPayloads := 0
  badTxChan := 0
  txDiscards := 0
  txTooLargePayloads := 0

def event (shtp : Shtp) (event : ShtpEvent) : List ShtpCall := if shtp.eventCallback then [.event event] else []

end Shtp

def shtpListenChan (shtp : Shtp) (channel : UInt8) : Except Fault (Shtp × Int) := do
  if channel = 0 ∨ shtpMaxChans ≤ channel.toNat then return (shtp, sh2ErrBadParam)
  let listener ← loadCell shtp.chan channel.toNat
  let chan ← storeCell shtp.chan channel.toNat { listener with callback := true }
  return ({ shtp with chan }, sh2Ok)

/-! ## Receiving -/

structure ShtpHeader where
  payloadLen : UInt16
  continuation : Bool
  chan : UInt8
  seq : UInt8

def readShtpHeader (transfer : List UInt8) : Except Fault ShtpHeader := do
  let low ← load transfer 0
  let high ← load transfer 1
  let chan ← load transfer 2
  let seq ← load transfer 3
  return ⟨(low.toUInt16 + high.toUInt16 <<< 8) &&& ~~~0x8000, high &&& 0x80 != 0, chan, seq⟩

def rxDiscard (shtp : Shtp) (header : ShtpHeader) (nextInSeq : UInt8) : Shtp × List ShtpCall :=
  if shtp.inRemaining ≠ 0 ∧ (¬header.continuation ∨ header.chan ≠ shtp.inChan ∨ header.seq ≠ nextInSeq ∨
      header.payloadLen - 4 ≠ shtp.inRemaining) then
    ({ shtp with inRemaining := 0, rxInterruptedPayloads := shtp.rxInterruptedPayloads + 1 },
      shtp.event .badFragment ++ shtp.event .interruptedPayload)
  else (shtp, [])

/-- The fragment is appended, and the payload given to the listener when nothing is left of it. -/
def rxAppend (shtp : Shtp) (header : ShtpHeader) (transfer : List UInt8) (len : UInt16) :
    Except Fault (Shtp × List ShtpCall) := do
  let len := if header.payloadLen < len then header.payloadLen else len
  let fragment ← loadRange transfer shtpHdrLen (len - 4).toNat
  let inPayload ← storeCells shtp.inPayload shtp.inCursor.toNat fragment
  let inCursor := shtp.inCursor + (len - 4)
  let inRemaining := header.payloadLen - len
  let channel ← loadCell shtp.chan header.chan.toNat
  let delivered :=
    if inRemaining = 0 ∧ channel.callback then [.payload header.chan inPayload inCursor shtp.inTimestamp] else []
  let chan ← storeCell shtp.chan header.chan.toNat { channel with nextInSeq := header.seq + 1 }
  return ({ shtp with inPayload, inCursor, inRemaining, chan }, delivered)

def rxAccept (shtp : Shtp) (header : ShtpHeader) (transfer : List UInt8) (len : UInt16) (tUs : UInt32) :
    Except Fault (Shtp × List ShtpCall) := do
  if shtp.inRemaining = 0 ∧ sh2HalMaxPayloadIn < header.payloadLen.toNat then
    return ({ shtp with rxTooLargePayloads := shtp.rxTooLargePayloads + 1 }, shtp.event .tooLargePayloads)
  let shtp :=
    if shtp.inRemaining = 0 then { shtp with inTimestamp := tUs, inCursor := 0, inChan := header.chan } else shtp
  rxAppend shtp header transfer len

def rxAssemble (shtp : Shtp) (transfer : List UInt8) (len : UInt16) (tUs : UInt32) :
    Except Fault (Shtp × List ShtpCall) := do
  if len < 4 then
    return ({ shtp with rxShortFragments := shtp.rxShortFragments + 1 }, shtp.event .shortFragment)
  let header ← readShtpHeader transfer
  -- the channel is not checked yet
  let channel ← loadCell shtp.chan header.chan.toNat
  let badSn := if header.seq ≠ channel.nextInSeq then shtp.event .badSn else []
  if header.payloadLen < 4 then
    return ({ shtp with rxShortFragments := shtp.rxShortFragments + 1 }, badSn ++ shtp.event .shortFragment)
  if shtpMaxChans ≤ header.chan.toNat then
    return ({ shtp with rxBadChan := shtp.rxBadChan + 1 }, badSn ++ shtp.event .badRxChan)
  let (shtp, interrupted) := rxDiscard shtp header channel.nextInSeq
  let (shtp, accepted) ← rxAccept shtp header transfer len tUs
  return (shtp, badSn ++ interrupted ++ accepted)

/-! ## Sending -/

/-- `Write` of the driver: what goes over the bus, and the number it returns. -/
def write (bufferSize : UInt16) (buffer : List UInt8) (length : UInt32) : Except Fault (List UInt8 × UInt32) := do
  let writeSize := min length bufferSize.toUInt32
  let written ← loadRange buffer 0 writeSize.toNat
  return (written, writeSize)

/-- The local variables of `txProcess`, and what was written so far. -/
structure Transmission where
  shtp : Shtp
  continuation : Bool
  cursor : UInt16
  remaining : UInt16
  writes : List (List UInt8)

def minU16 (a b : UInt16) : UInt16 := if a < b then a else b

/-- One transfer. `Write` returns zero only when there is no buffer, and does so again when it is called again. -/
def txPass (bufferSize : UInt16) (chan : UInt8) (data : List UInt8) (tx : Transmission) :
    Except Fault Transmission := do
  -- as much as one transfer takes
  let transferLen := minU16 tx.remaining (sh2HalMaxTransferOut - shtpHdrLen).toUInt16
  let lenField := transferLen + 4
  let channel ← loadCell tx.shtp.chan chan.toNat
  let high := (lenField >>> 8 &&& 0x7F).toUInt8
  -- the length counts the header, and its highest bit says that this goes on with a payload
  let header := [(lenField &&& 0xFF).toUInt8, if tx.continuation then high ||| 0x80 else high, chan, channel.nextOutSeq]
  let chans ← storeCell tx.shtp.chan chan.toNat { channel with nextOutSeq := channel.nextOutSeq + 1 }
  let outTransfer ← storeCells tx.shtp.outTransfer 0 header
  -- the bytes of the payload stand behind the header
  let piece ← loadRange data tx.cursor.toNat transferLen.toNat
  let outTransfer ← storeCells outTransfer shtpHdrLen piece
  let (written, status) ← write bufferSize outTransfer.toList lenField.toUInt32
  -- `shtp_send` tries again as long as nothing is written
  if status = 0 then .error .diverges
  return ⟨{ tx.shtp with chan := chans, outTransfer }, true, tx.cursor + transferLen, tx.remaining - transferLen,
    tx.writes ++ [written]⟩

def txLoop (bufferSize : UInt16) (chan : UInt8) (data : List UInt8) : Nat → Transmission → Except Fault Transmission
  | 0, _ => .error .diverges
  | fuel + 1, tx =>
    if 0 < tx.remaining then do
      let tx ← txPass bufferSize chan data tx
      txLoop bufferSize chan data fuel tx
    else .ok tx

def txProcess (bufferSize : UInt16) (shtp : Shtp) (chan : UInt8) (data : List UInt8) (len : UInt32) :
    Except Fault (Shtp × List (List UInt8) × Int) := do
  let remaining := len.toUInt16
  let tx ← txLoop bufferSize chan data (remaining.toNat + 1) ⟨shtp, false, 0, remaining, []⟩
  return (tx.shtp, tx.writes, sh2Ok)

def shtpSend (bufferSize : UInt16) (shtp : Shtp) (channel : UInt8) (payload : List UInt8) (len : UInt16) :
    Except Fault (Shtp × List (List UInt8) × Int) := do
  if sh2HalMaxPayloadOut < len.toNat then
    return ({ shtp with txTooLargePayloads := shtp.txTooLargePayloads + 1 }, [], sh2ErrBadParam)
  if shtpMaxChans ≤ channel.toNat then
    return ({ shtp with badTxChan := shtp.badTxChan + 1 }, [], sh2ErrBadParam)
  txProcess bufferSize shtp channel payload len.toUInt32

/-! ## What it does: an assembler of fragments -/

/-- The fragment that a transfer is, without what stands behind the announced end. -/
def ShtpHeader.fragment (header : ShtpHeader) (transfer : List UInt8) (len : UInt16) : Fragment UInt8 UInt8 UInt8 where
  channel := header.chan
  number := header.seq
  continues := header.continuation
  left := header.payloadLen.toNat - 4
  piece := (transfer.drop 4).take (Min.min len.toNat header.payloadLen.toNat - 4)

theorem fragment_left (header : ShtpHeader) (transfer : List UInt8) (len : UInt16) :
    (header.fragment transfer len).left = header.payloadLen.toNat - 4 := rfl

abbrev ShtpAssembler : Type := Assembler UInt8 UInt8 UInt32 UInt8

/-- The room that `inPayload` leaves for a payload: its header is counted. -/
abbrev payloadRoom : Nat := sh2HalMaxPayloadIn - shtpHdrLen

abbrev ShtpAssembler.receive : ShtpAssembler → Fragment UInt8 UInt8 UInt8 → UInt32 →
    ShtpAssembler × Option (Cargo UInt8 UInt32 UInt8) :=
  Assembler.receive (· + 1) payloadRoom

def payloads (calls : List ShtpCall) : List (Cargo UInt8 UInt32 UInt8) :=
  calls.filterMap fun
    | .event _ => none
    | .payload chan payload len timestamp => some ⟨chan, payload.toList.take len.toNat, timestamp⟩

def Shtp.listens (shtp : Shtp) (channel : UInt8) : Bool :=
  ((shtp.chan.toList[channel.toNat]?).map (·.callback)).getD false

/-- The instance has what the assembler has. -/
structure Shtp.Assembles (shtp : Shtp) (assembler : ShtpAssembler) : Prop where
  bounded : assembler.Bounded payloadRoom
  expected : ∀ channel : UInt8, ∀ state, loadCell shtp.chan channel.toNat = .ok state →
    state.nextInSeq = assembler.expected channel
  missing : shtp.inRemaining.toNat = assembler.missing
  collected : assembler.missing ≠ 0 → assembler.collected <+: shtp.inPayload.toList ∧
    shtp.inCursor.toNat = assembler.collected.length ∧ shtp.inChan = assembler.channel ∧
    shtp.inTimestamp = assembler.stamp

theorem payloads_append (first rest : List ShtpCall) : payloads (first ++ rest) = payloads first ++ payloads rest :=
  List.filterMap_append

@[simp] theorem payloads_event (shtp : Shtp) (event : ShtpEvent) : payloads (shtp.event event) = [] := by
  unfold Shtp.event
  cases shtp.eventCallback <;> rfl

theorem assembles_opened : Shtp.opened.Assembles (LossyLink.fresh 0 0 0).assembler := by
  constructor
  case bounded => exact Nat.zero_le _
  case expected =>
    intro channel state found
    obtain ⟨inside, rfl⟩ := loadCell_eq_ok.mp found
    simp only [Shtp.opened, Vector.getElem_replicate]
    rfl
  case missing => rfl
  case collected => exact fun missing => absurd rfl missing

theorem shtpListenChan_spec {shtp : Shtp} {assembler : ShtpAssembler} (assembles : shtp.Assembles assembler)
    (channel : UInt8) (first : channel ≠ 0) (inside : channel.toNat < shtpMaxChans) :
    ∃ shtp', shtpListenChan shtp channel = .ok (shtp', sh2Ok) ∧ shtp'.Assembles assembler ∧
      shtp'.listens = Function.update shtp.listens channel true := by
  refine ⟨{ shtp with chan := shtp.chan.set channel.toNat { shtp.chan[channel.toNat] with callback := true } },
    ?_, ⟨assembles.bounded, ?_, assembles.missing, assembles.collected⟩, ?_⟩
  · simp only [shtpListenChan, first, not_le.mpr inside, or_self, if_false, loadCell_of_lt shtp.chan inside,
      storeCell_of_lt _ _ inside, ok_bind, pure_eq_ok]
  · intro other state found
    by_cases here : other = channel
    · subst here
      rw [loadCell_of_lt _ inside, Vector.getElem_set_self] at found
      obtain rfl := Except.ok.inj found
      exact assembles.expected other shtp.chan[other.toNat] (loadCell_of_lt shtp.chan inside)
    · rw [loadCell_elsewhere (storeCell_of_lt _ _ inside) (mt UInt8.toNat_inj.mp here)] at found
      exact assembles.expected other state found
  · funext other
    simp only [Shtp.listens, Vector.toList_set, List.getElem?_set, Vector.length_toList, inside, if_true]
    by_cases here : other = channel
    · subst here
      rw [if_pos rfl, Function.update_self]
      rfl
    · rw [if_neg (mt UInt8.toNat_inj.mp (Ne.symm here)), Function.update_of_ne here]
      rfl

/-! ### One transfer -/

section Transfer
variable {shtp : Shtp} {assembler : ShtpAssembler} {header : ShtpHeader} {transfer : List UInt8} {len : UInt16}

theorem rxDiscard_eq (transfer : List UInt8) (len : UInt16) (assembles : shtp.Assembles assembler)
    {channel : ShtpChannel} (found : loadCell shtp.chan header.chan.toNat = .ok channel)
    (whole : 4 ≤ header.payloadLen) :
    rxDiscard shtp header channel.nextInSeq =
      if shtp.inRemaining ≠ 0 ∧ ¬assembler.Fits (header.fragment transfer len) then
        ({ shtp with inRemaining := 0, rxInterruptedPayloads := shtp.rxInterruptedPayloads + 1 },
          shtp.event .badFragment ++ shtp.event .interruptedPayload)
      else (shtp, []) := by
  have four : (header.payloadLen - 4).toNat = header.payloadLen.toNat - 4 := UInt16.toNat_sub_of_le _ _ whole
  have nothing : shtp.inRemaining = 0 ↔ assembler.missing = 0 := by
    rw [← assembles.missing, ← UInt16.toNat_inj]
    rfl
  have left : header.payloadLen - 4 = shtp.inRemaining ↔ header.payloadLen.toNat - 4 = assembler.missing := by
    rw [← assembles.missing, ← UInt16.toNat_inj, four]
  unfold rxDiscard
  congr 1
  refine propext (and_congr_right fun more => ?_)
  have missing : assembler.missing ≠ 0 := mt nothing.mpr more
  obtain ⟨-, -, chan, -⟩ := assembles.collected missing
  simp only [Assembler.Fits, ShtpHeader.fragment, ne_eq, missing, not_false_eq_true, true_and, left, chan,
    assembles.expected _ _ found]
  tauto

theorem fragment_piece (header : ShtpHeader) (transfer : List UInt8) {len : UInt16} (whole : 4 ≤ header.payloadLen)
    (enough : 4 ≤ len) (memory : len.toNat ≤ transfer.length) :
    let used := if header.payloadLen < len then header.payloadLen else len
    4 ≤ used ∧ used ≤ header.payloadLen ∧
      loadRange transfer shtpHdrLen (used - 4).toNat = .ok (header.fragment transfer len).piece ∧
      (header.fragment transfer len).piece.length = (used - 4).toNat := by
  intro used
  have small : 4 ≤ header.payloadLen.toNat := UInt16.le_iff_toNat_le.mp whole
  have few : 4 ≤ len.toNat := UInt16.le_iff_toNat_le.mp enough
  have size : used.toNat = Min.min len.toNat header.payloadLen.toNat := by
    simp only [used, UInt16.lt_iff_toNat_lt]
    split <;> omega
  have four : 4 ≤ used := UInt16.le_iff_toNat_le.mpr (by rw [size]; exact Nat.le_min.mpr ⟨few, small⟩)
  have amount : (used - 4).toNat = Min.min len.toNat header.payloadLen.toNat - 4 := by
    rw [UInt16.toNat_sub_of_le _ _ four, size]
    rfl
  refine ⟨four, UInt16.le_iff_toNat_le.mpr (by rw [size]; exact Nat.min_le_right _ _), ?_, ?_⟩
  · rw [loadRange_eq_ok, amount]
    exact ⟨by simp only [shtpHdrLen]; omega, rfl⟩
  · rw [amount, ShtpHeader.fragment, List.length_take, List.length_drop]
    omega

/-- The instance can append to what the assembler has. -/
structure Shtp.Collects (shtp : Shtp) (assembler : ShtpAssembler) : Prop where
  expected : ∀ channel : UInt8, ∀ state, loadCell shtp.chan channel.toNat = .ok state →
    state.nextInSeq = assembler.expected channel
  collected : assembler.collected <+: shtp.inPayload.toList
  cursor : shtp.inCursor.toNat = assembler.collected.length
  channel : shtp.inChan = assembler.channel
  stamp : shtp.inTimestamp = assembler.stamp

theorem rxAppend_spec (collects : shtp.Collects assembler)
    (channel : header.chan.toNat < shtpMaxChans) (whole : 4 ≤ header.payloadLen) (enough : 4 ≤ len)
    (memory : len.toNat ≤ transfer.length)
    (room : assembler.collected.length + (header.payloadLen.toNat - 4) ≤ payloadRoom) :
    ∃ shtp' calls, rxAppend shtp header transfer len = .ok (shtp', calls) ∧
      shtp'.Assembles (assembler.append (· + 1) (header.fragment transfer len)).1 ∧
      (payloads calls = if shtp.listens header.chan then
        (assembler.append (· + 1) (header.fragment transfer len)).2.toList else []) ∧
      shtp'.listens = shtp.listens ∧ shtp'.eventCallback = shtp.eventCallback := by
  obtain ⟨four, below, loaded, length⟩ := fragment_piece header transfer whole enough memory
  have fits : assembler.collected.length + (header.fragment transfer len).piece.length ≤ sh2HalMaxPayloadIn := by
    have less := UInt16.le_iff_toNat_le.mp below
    have few := UInt16.toNat_sub_of_le _ _ four
    have more := UInt16.le_iff_toNat_le.mp whole
    have value : (4 : UInt16).toNat = 4 := rfl
    rw [length]
    simp only [payloadRoom, sh2HalMaxPayloadIn, shtpHdrLen] at room ⊢
    omega
  -- the bytes of the fragment go behind what has been collected
  obtain ⟨inPayload, stored, front⟩ := storeCells_extends _ collects.collected fits
  rw [← collects.cursor] at stored
  generalize stays : (if header.payloadLen < len then header.payloadLen else len) = used at four below loaded length
  have done : rxAppend shtp header transfer len = .ok ({ shtp with
      inPayload, inCursor := shtp.inCursor + (used - 4), inRemaining := header.payloadLen - used
      chan := shtp.chan.set header.chan.toNat { shtp.chan[header.chan.toNat] with nextInSeq := header.seq + 1 } },
      if header.payloadLen - used = 0 ∧ shtp.chan[header.chan.toNat].callback then
        [.payload header.chan inPayload (shtp.inCursor + (used - 4)) shtp.inTimestamp] else []) := by
    simp only [rxAppend, stays, loaded, stored, loadCell_of_lt _ channel, storeCell_of_lt _ _ channel, ok_bind,
      pure_eq_ok]
  have cursor : (shtp.inCursor + (used - 4)).toNat =
      (assembler.collected ++ (header.fragment transfer len).piece).length := by
    rw [UInt16.toNat_add, collects.cursor, List.length_append, length]
    simp only [sh2HalMaxPayloadIn] at fits
    omega
  have least : 4 ≤ used.toNat := UInt16.le_iff_toNat_le.mp four
  have most : used.toNat ≤ header.payloadLen.toNat := UInt16.le_iff_toNat_le.mp below
  have amount : (used - 4).toNat = used.toNat - 4 := UInt16.toNat_sub_of_le _ _ four
  have left : (header.fragment transfer len).left = header.payloadLen.toNat - 4 := rfl
  have remaining : (header.payloadLen - used).toNat =
      (header.fragment transfer len).left - (header.fragment transfer len).piece.length := by
    rw [UInt16.toNat_sub_of_le _ _ below, length, amount, left]
    omega
  -- the assembler appends the same piece, and both are complete with the last byte
  refine ⟨_, _, done, ⟨?_, ?_, remaining, ?_⟩, ?_, ?_, rfl⟩
  · have small : (header.fragment transfer len).piece.length ≤ (header.fragment transfer len).left := by
      rw [length, amount, left]
      omega
    have space : assembler.collected.length + (header.fragment transfer len).left ≤ payloadRoom := room
    exact Assembler.append_bounded _ space small
  · intro other state found
    -- only the channel of the fragment counts on
    by_cases here : other = header.chan
    · subst here
      rw [loadCell_of_lt _ channel, Vector.getElem_set_self] at found
      obtain rfl := Except.ok.inj found
      exact (Function.update_self header.chan (header.seq + 1) assembler.expected).symm
    · have apart : other.toNat ≠ header.chan.toNat := mt UInt8.toNat_inj.mp here
      have unchanged := collects.expected other state
      rw [loadCell_elsewhere (storeCell_of_lt _ _ channel) apart] at found
      rw [unchanged found]
      exact (Function.update_of_ne here (header.seq + 1) assembler.expected).symm
  · intro _
    exact ⟨front, cursor, collects.channel, collects.stamp⟩
  · have nothing : header.payloadLen - used = 0 ↔
        (header.fragment transfer len).left - (header.fragment transfer len).piece.length = 0 := by
      rw [← remaining, ← UInt16.toNat_inj]
      rfl
    have listens : shtp.listens header.chan = shtp.chan[header.chan.toNat].callback := by
      simp [Shtp.listens, channel]
    have payload : inPayload.toList.take (shtp.inCursor + (used - 4)).toNat =
        assembler.collected ++ (header.fragment transfer len).piece := by
      rw [cursor]
      exact (List.prefix_iff_eq_take.mp front).symm
    have of : (header.fragment transfer len).channel = header.chan := rfl
    rw [listens]
    simp only [Assembler.append, nothing]
    by_cases complete : (header.fragment transfer len).left - (header.fragment transfer len).piece.length = 0
    · cases shtp.chan[header.chan.toNat].callback <;>
        simp [complete, payloads, payload, collects.stamp, of, -UInt16.toNat_add]
    · simp [complete, payloads]
  · funext other
    simp only [Shtp.listens, Vector.toList_set, List.getElem?_set, Vector.length_toList]
    split
    case isTrue here =>
      rw [← here]
      simp [channel]
    case isFalse => rfl

theorem large_iff (header : ShtpHeader) (transfer : List UInt8) (len : UInt16) :
    sh2HalMaxPayloadIn < header.payloadLen.toNat ↔ payloadRoom < (header.fragment transfer len).left := by
  rw [fragment_left, sh2HalMaxPayloadIn, payloadRoom, sh2HalMaxPayloadIn, shtpHdrLen]
  omega

theorem Shtp.Assembles.nothing (assembles : shtp.Assembles assembler) :
    shtp.inRemaining = 0 ↔ assembler.missing = 0 := by
  rw [← assembles.missing, ← UInt16.toNat_inj]
  rfl

theorem rxAccept_spec (assembles : shtp.Assembles assembler)
    (matches_or_none : assembler.Fits (header.fragment transfer len) ∨ shtp.inRemaining = 0)
    (channel : header.chan.toNat < shtpMaxChans) (whole : 4 ≤ header.payloadLen) (enough : 4 ≤ len)
    (memory : len.toNat ≤ transfer.length) (tUs : UInt32) :
    ∃ shtp' calls, rxAccept shtp header transfer len tUs = .ok (shtp', calls) ∧
      shtp'.Assembles (ShtpAssembler.receive assembler (header.fragment transfer len) tUs).1 ∧
      (payloads calls = if shtp.listens header.chan then
        (ShtpAssembler.receive assembler (header.fragment transfer len) tUs).2.toList else []) ∧
      shtp'.listens = shtp.listens ∧ shtp'.eventCallback = shtp.eventCallback := by
  have bounded : assembler.collected.length + assembler.missing ≤ payloadRoom := assembles.bounded
  -- the fragment continues what is there
  by_cases fits : assembler.Fits (header.fragment transfer len)
  · have more : shtp.inRemaining ≠ 0 := mt assembles.nothing.mp fits.1
    obtain ⟨collected, cursor, inChan, stamp⟩ := assembles.collected fits.1
    have room : assembler.collected.length + (header.payloadLen.toNat - 4) ≤ payloadRoom := by
      rw [← fragment_left header transfer len, fits.2.2.2.2]
      exact bounded
    obtain ⟨shtp', calls, done, rest⟩ := rxAppend_spec ⟨assembles.expected, collected, cursor, inChan, stamp⟩ channel
      whole enough memory room
    refine ⟨shtp', calls, ?_, ?_⟩
    · rw [rxAccept, if_neg (fun none => more none.1), if_neg more, done]
    · rw [ShtpAssembler.receive, Assembler.receive, if_pos fits]
      exact rest
  have none_left := matches_or_none.resolve_left fits
  -- a first fragment that announces too much is dropped
  by_cases large : sh2HalMaxPayloadIn < header.payloadLen.toNat
  · refine ⟨{ shtp with rxTooLargePayloads := shtp.rxTooLargePayloads + 1 }, shtp.event .tooLargePayloads,
      if_pos ⟨none_left, large⟩, ?_, ?_, rfl, rfl⟩
    · rw [ShtpAssembler.receive, Assembler.receive, if_neg fits, if_pos ((large_iff header transfer len).mp large)]
      constructor
      case bounded => exact Nat.le_trans (Nat.le_add_right _ _) bounded
      case expected => exact assembles.expected
      case missing => rw [none_left]; rfl
      case collected => exact fun missing => absurd rfl missing
    · rw [ShtpAssembler.receive, Assembler.receive, if_neg fits, if_pos ((large_iff header transfer len).mp large)]
      cases shtp.listens header.chan <;> simp
  -- any other starts a payload
  · have room : ([] : List UInt8).length + (header.payloadLen.toNat - 4) ≤ payloadRoom := by
      have small := mt (large_iff header transfer len).mpr large
      rw [fragment_left] at small
      rw [List.length_nil]
      omega
    have collects : Shtp.Collects { shtp with inTimestamp := tUs, inCursor := 0, inChan := header.chan }
        (assembler.restart header.chan tUs) := ⟨assembles.expected, List.nil_prefix, rfl, rfl, rfl⟩
    obtain ⟨shtp', calls, done, rest⟩ := rxAppend_spec collects channel whole enough memory room
    refine ⟨shtp', calls, ?_, ?_⟩
    · rw [rxAccept, if_neg (fun large' => large large'.2), if_pos none_left, done]
    · rw [ShtpAssembler.receive, Assembler.receive, if_neg fits,
        if_neg (mt (large_iff header transfer len).mpr large)]
      exact rest

/-- A transfer that names a channel is received as the fragment that it is. -/
theorem rxAssemble_fragment (assembles : shtp.Assembles assembler) (enough : 4 ≤ len)
    (memory : len.toNat ≤ transfer.length) (read : readShtpHeader transfer = .ok header) (whole : 4 ≤ header.payloadLen)
    (channel : header.chan.toNat < shtpMaxChans) (tUs : UInt32) :
    ∃ shtp' calls, rxAssemble shtp transfer len tUs = .ok (shtp', calls) ∧
      shtp'.Assembles (ShtpAssembler.receive assembler (header.fragment transfer len) tUs).1 ∧
      (payloads calls = if shtp.listens header.chan then
        (ShtpAssembler.receive assembler (header.fragment transfer len) tUs).2.toList else []) ∧
      shtp'.listens = shtp.listens ∧ shtp'.eventCallback = shtp.eventCallback := by
  have found := loadCell_of_lt shtp.chan channel
  -- what is left of the assembly is as good as the assembly
  obtain ⟨started, interrupted, assembler', discard, none_delivered, assembles', matches_or_none, same, listens,
      events⟩ :
      ∃ started interrupted assembler',
        rxDiscard shtp header shtp.chan[header.chan.toNat].nextInSeq = (started, interrupted) ∧
        payloads interrupted = [] ∧ started.Assembles assembler' ∧
        (Assembler.Fits assembler' (header.fragment transfer len) ∨ started.inRemaining = 0) ∧
        ShtpAssembler.receive assembler' (header.fragment transfer len) tUs =
          ShtpAssembler.receive assembler (header.fragment transfer len) tUs ∧
        started.listens = shtp.listens ∧ started.eventCallback = shtp.eventCallback := by
    rw [rxDiscard_eq transfer len assembles found whole]
    by_cases differs : shtp.inRemaining ≠ 0 ∧ ¬assembler.Fits (header.fragment transfer len)
    · refine ⟨_, _, { assembler with missing := 0 }, if_pos differs, ?_, ?_, .inr rfl,
        Assembler.receive_discarded differs.2 tUs, rfl, rfl⟩
      · rw [payloads_append, payloads_event, payloads_event, List.append_nil]
      constructor
      case bounded => exact Nat.le_trans (Nat.le_add_right _ _) assembles.bounded
      case expected => exact assembles.expected
      case missing => rfl
      case collected => exact fun missing => absurd rfl missing
    · refine ⟨shtp, [], assembler, if_neg differs, rfl, assembles, ?_, rfl, rfl, rfl⟩
      tauto
  obtain ⟨shtp', accepted, done, assembled, delivered, listens', events'⟩ :=
    rxAccept_spec assembles' matches_or_none channel whole enough memory tUs
  rw [same] at assembled delivered
  rw [listens] at delivered
  refine ⟨shtp', (if header.seq ≠ shtp.chan[header.chan.toNat].nextInSeq then shtp.event .badSn else []) ++
    interrupted ++ accepted, ?_, assembled, ?_, listens'.trans listens, events'.trans events⟩
  · simp only [rxAssemble, UInt16.not_lt.mpr enough, read, found, UInt16.not_lt.mpr whole, not_le.mpr channel, if_false,
      ok_bind, pure_eq_ok, discard, done]
  · rw [payloads_append, payloads_append, none_delivered, delivered]
    split
    · rw [payloads_event]
      rfl
    · rfl

end Transfer

end TvcHopper.Imu
