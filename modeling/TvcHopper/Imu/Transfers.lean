import TvcHopper.Imu.Shtp

/-! Sequences of transfers: whether they can be received, and what comes out of them. -/

set_option autoImplicit false

namespace TvcHopper.Imu
open Machine

/-- A transfer in memory, of which `len` bytes were read. -/
structure Received where
  transfer : List UInt8
  len : UInt16
  within : len.toNat ≤ transfer.length
  tUs : UInt32

def rxStep (shtp : Shtp) (received : Received) : Except Fault (Shtp × List ShtpCall) :=
  rxAssemble shtp received.transfer received.len received.tUs

def Received.NamesChannel (received : Received) : Prop :=
  4 ≤ received.len → (received.transfer.getD 2 0).toNat < shtpMaxChans

section Bounds
variable {shtp shtp' : Shtp} {assembler : ShtpAssembler}

theorem readShtpHeader_of_length {transfer : List UInt8} (enough : 4 ≤ transfer.length) :
    ∃ header, readShtpHeader transfer = .ok header ∧ header.chan = transfer.getD 2 0 := by
  have place (i : Nat) (inside : i < 4) : load transfer i = .ok (transfer.getD i 0) := by
    rw [load_eq_ok, List.getD_eq_getElem?_getD, List.getElem?_eq_getElem (by omega), Option.getD_some]
  refine ⟨_, by simp only [readShtpHeader, place 0 (by decide), place 1 (by decide), place 2 (by decide),
    place 3 (by decide), ok_bind]; rfl, rfl⟩

theorem Shtp.Assembles.counted (assembles : shtp.Assembles assembler) (count : UInt32) :
    Shtp.Assembles { shtp with rxShortFragments := count } assembler :=
  ⟨assembles.bounded, assembles.expected, assembles.missing, assembles.collected⟩

theorem rxAssemble_short (shtp : Shtp) (transfer : List UInt8) {len : UInt16} (short : len < 4) (tUs : UInt32) :
    rxAssemble shtp transfer len tUs =
      .ok ({ shtp with rxShortFragments := shtp.rxShortFragments + 1 }, shtp.event .shortFragment) := by
  simp only [rxAssemble, short, if_true, pure_eq_ok]

theorem rxAssemble_no_header (shtp : Shtp) {transfer : List UInt8} {header : ShtpHeader}
    (read : readShtpHeader transfer = .ok header)
    (channel : header.chan.toNat < shtpMaxChans) {len : UInt16} (enough : 4 ≤ len) (short : header.payloadLen < 4)
    (tUs : UInt32) : ∃ calls, rxAssemble shtp transfer len tUs =
      .ok ({ shtp with rxShortFragments := shtp.rxShortFragments + 1 }, calls) := by
  refine ⟨(if header.seq ≠ shtp.chan[header.chan.toNat].nextInSeq then shtp.event .badSn else []) ++
    shtp.event .shortFragment, ?_⟩
  simp only [rxAssemble, UInt16.not_lt.mpr enough, if_false, read, ok_bind, pure_eq_ok,
    loadCell_of_lt shtp.chan channel, short, if_true]

theorem rxStep_spec (assembles : shtp.Assembles assembler) {received : Received} (names : received.NamesChannel) :
    ∃ shtp' calls assembler', rxStep shtp received = .ok (shtp', calls) ∧ shtp'.Assembles assembler' := by
  by_cases enough : 4 ≤ received.len
  · have long : 4 ≤ received.transfer.length := Nat.le_trans (UInt16.le_iff_toNat_le.mp enough) received.within
    obtain ⟨header, read, chan⟩ := readShtpHeader_of_length long
    have channel : header.chan.toNat < shtpMaxChans := chan ▸ names enough
    by_cases whole : 4 ≤ header.payloadLen
    · obtain ⟨shtp', calls, done, assembles', -⟩ :=
        rxAssemble_fragment assembles enough received.within read whole channel received.tUs
      exact ⟨shtp', calls, _, done, assembles'⟩
    · obtain ⟨calls, done⟩ :=
        rxAssemble_no_header shtp read channel enough (UInt16.not_le.mp whole) received.tUs
      exact ⟨_, calls, assembler, done, assembles.counted _⟩
  · exact ⟨_, _, assembler, rxAssemble_short shtp _ (UInt16.not_le.mp enough) received.tUs, assembles.counted _⟩

theorem rxStep_outside (shtp : Shtp) {received : Received} (outside : ¬received.NamesChannel) :
    rxStep shtp received = .error .outOfBounds := by
  obtain ⟨enough, high⟩ := Classical.not_imp.mp outside
  have long : 4 ≤ received.transfer.length := Nat.le_trans (UInt16.le_iff_toNat_le.mp enough) received.within
  obtain ⟨header, read, chan⟩ := readShtpHeader_of_length long
  rw [← chan] at high
  have behind : loadCell shtp.chan header.chan.toNat = .error .outOfBounds := by rw [loadCell, dif_neg high]
  simp only [rxStep, rxAssemble, UInt16.not_lt.mpr enough, if_false, read, ok_bind, behind]
  rfl

/-- Whatever the transfers are, nothing is written outside the buffers, and nothing is read outside them exactly when
each transfer is for one of the channels. -/
theorem rx_in_bounds_iff (assembles : shtp.Assembles assembler) (transfers : List Received) :
    (∃ result, run rxStep shtp transfers = .ok result) ↔ ∀ received ∈ transfers, received.NamesChannel := by
  induction transfers generalizing shtp assembler with
  | nil => exact ⟨fun _ => nofun, fun _ => ⟨_, rfl⟩⟩
  | cons received rest ih =>
    rw [List.forall_mem_cons]
    by_cases names : received.NamesChannel
    · obtain ⟨next, calls, assembler', one, assembles'⟩ := rxStep_spec assembles names
      rw [← ih assembles', and_iff_right names]
      constructor
      · rintro ⟨⟨final, outputs⟩, done⟩
        obtain ⟨next', _, later, one', tail, -⟩ := run_cons_eq_ok.mp done
        obtain ⟨rfl, -⟩ := Prod.mk.inj (Except.ok.inj (one.symm.trans one'))
        exact ⟨_, tail⟩
      · rintro ⟨⟨final, later⟩, tail⟩
        exact ⟨_, run_cons_eq_ok.mpr ⟨_, _, _, one, tail, rfl⟩⟩
    · constructor
      · rintro ⟨result, done⟩
        rw [run_head_fault (rxStep_outside shtp names)] at done
        cases done
      · rintro ⟨inside, -⟩
        exact absurd inside names

/-- A transfer for the ninth channel. -/
theorem rx_in_bounds_iff_ninth :
    (∃ result, run rxStep Shtp.opened [⟨[5, 0, 8, 0, 1], 5, by decide, 0⟩] = .ok result) ↔
      ∀ received ∈ [(⟨[5, 0, 8, 0, 1], 5, by decide, 0⟩ : Received)], received.NamesChannel :=
  rx_in_bounds_iff assembles_opened _

end Bounds

/-! ## The transfers of a sender that fragments its payloads -/

/-- The header of a transfer with so much left to send, of a payload that was begun or is. -/
def headerBytes (left : Nat) (continues : Bool) (chan seq : UInt8) : List UInt8 :=
  [UInt8.ofNat ((left + 4) % 256), UInt8.ofNat ((left + 4) / 256 % 128 + if continues then 128 else 0), chan, seq]

def transferBytes (fragment : Fragment UInt8 UInt8 UInt8) : List UInt8 :=
  headerBytes fragment.left fragment.continues fragment.channel fragment.number ++ fragment.piece

/-- The length of a payload and its header has 15 bits. -/
def Sendable (fragment : Fragment UInt8 UInt8 UInt8) : Prop :=
  fragment.channel.toNat < shtpMaxChans ∧ fragment.piece.length ≤ fragment.left ∧ fragment.left + 4 < 32768

/-- The first bytes that were received are those of the fragment. -/
structure Received.Carries (received : Received) (fragment : Fragment UInt8 UInt8 UInt8 × UInt32) : Prop where
  sendable : Sendable fragment.1
  bytes : transferBytes fragment.1 <+: received.transfer
  size : received.len.toNat = (transferBytes fragment.1).length
  stamp : received.tUs = fragment.2

theorem toNat_payloadLen (low high : UInt8) :
    ((low.toUInt16 + high.toUInt16 <<< 8) &&& ~~~0x8000).toNat = low.toNat + high.toNat % 128 * 256 := by
  have small := low.toNat_lt
  have large := high.toNat_lt
  have sum : (low.toUInt16 + high.toUInt16 <<< 8).toNat = low.toNat + high.toNat * 256 := by
    simp [UInt16.toNat_add, UInt16.toNat_shiftLeft, Nat.shiftLeft_eq]
    omega
  have mask : (~~~0x8000 : UInt16) = 0x7FFF := by decide
  have bits : (0x7FFF : UInt16).toNat = 2 ^ 15 - 1 := rfl
  rw [mask, UInt16.toNat_and, sum, bits, Nat.and_two_pow_sub_one_eq_mod]
  omega

theorem continuation_bit {value : Nat} (small : value < 128) (continues : Bool) :
    (UInt8.ofNat (value + if continues then 128 else 0) &&& 0x80 != 0) = continues := by
  have table : ∀ low : Fin 128, ∀ high : Bool,
      (UInt8.ofNat (low.val + if high then 128 else 0) &&& 0x80 != 0) = high := by decide
  exact table ⟨value, small⟩ continues

theorem Received.Carries.read {received : Received} {fragment : Fragment UInt8 UInt8 UInt8 × UInt32}
    (carries : received.Carries fragment) :
    ∃ header, readShtpHeader received.transfer = .ok header ∧ header.payloadLen.toNat = fragment.1.left + 4 ∧
      header.fragment received.transfer received.len = fragment.1 := by
  obtain ⟨⟨channel, whole, small⟩, ⟨behind, bytes⟩, size, -⟩ := carries
  obtain ⟨⟨chan, seq, continues, left, piece⟩, stamp⟩ := fragment
  simp only [transferBytes, headerBytes] at bytes size
  simp only at whole small
  have length : received.len.toNat = 4 + piece.length := by
    rw [size, List.length_append]
    rfl
  have payloadLen : (((UInt8.ofNat ((left + 4) % 256)).toUInt16 +
      (UInt8.ofNat ((left + 4) / 256 % 128 + if continues then 128 else 0)).toUInt16 <<< 8) &&& ~~~0x8000).toNat =
      left + 4 := by
    rw [toNat_payloadLen, UInt8.toNat_ofNat', UInt8.toNat_ofNat']
    cases continues <;> simp only [if_true, Bool.false_eq_true, if_false] <;> omega
  have continuation := continuation_bit (Nat.mod_lt ((left + 4) / 256) (by decide : 0 < 128)) continues
  refine ⟨⟨_, _, chan, seq⟩, by rw [← bytes]; rfl, payloadLen, ?_⟩
  rw [ShtpHeader.fragment, payloadLen, length, continuation, ← bytes]
  have amount : Min.min (4 + piece.length) (left + 4) - 4 = piece.length := by omega
  rw [amount, Nat.add_sub_cancel]
  simp

/-- Transfers that carry fragments come out as the assembler puts them together, for the channels with a listener. -/
theorem rx_refines {shtp : Shtp} {assembler : ShtpAssembler} (assembles : shtp.Assembles assembler)
    {transfers : List Received} {fragments : List (Fragment UInt8 UInt8 UInt8 × UInt32)}
    (carry : List.Forall₂ Received.Carries transfers fragments) :
    ∃ final calls, run rxStep shtp transfers = .ok (final, calls) ∧
      final.Assembles (Assembler.receiveAll (· + 1) payloadRoom assembler fragments).1 ∧
      final.listens = shtp.listens ∧
      payloads calls.flatten = (Assembler.receiveAll (· + 1) payloadRoom assembler fragments).2.filter
        (fun cargo => shtp.listens cargo.channel) := by
  induction carry generalizing shtp assembler with
  | nil => exact ⟨shtp, [], rfl, assembles, rfl, rfl⟩
  | @cons received fragment transfers fragments carries carry ih =>
    obtain ⟨header, read, payloadLen, same⟩ := carries.read
    have whole : 4 ≤ header.payloadLen := UInt16.le_iff_toNat_le.mpr (by rw [payloadLen]; exact Nat.le_add_left _ _)
    have enough : 4 ≤ received.len := by
      rw [UInt16.le_iff_toNat_le, carries.size, transferBytes, List.length_append]
      exact Nat.le_add_right _ _
    have chan : header.chan = fragment.1.channel := congrArg Fragment.channel same
    have channel : header.chan.toNat < shtpMaxChans := chan ▸ carries.sendable.1
    obtain ⟨next, calls, one, assembled, delivered, listens, -⟩ :=
      rxAssemble_fragment assembles enough received.within read whole channel received.tUs
    rw [same, carries.stamp] at assembled delivered
    obtain ⟨final, later, done, finished, listens', out⟩ := ih assembled
    refine ⟨final, calls :: later, run_cons_eq_ok.mpr ⟨_, _, _, one, done, rfl⟩, finished,
      listens'.trans listens, ?_⟩
    rw [List.flatten_cons, payloads_append, delivered, out, listens, chan, Assembler.receiveAll, List.filter_append]
    congr 1
    cases cargo : (ShtpAssembler.receive assembler fragment.1 fragment.2).2 with
    | none => simp
    | some cargo' =>
      simp [List.filter_cons, Assembler.receive_channel cargo]

/-- Payloads that have room in the transport's buffer, sent one after the other in fragments of any sizes, are given to
the listeners of their channels whole and in order, whatever was received before. -/
theorem shipments_received {shtp : Shtp} {assembler : ShtpAssembler} (assembles : shtp.Assembles assembler)
    {shipments : List (Shipment UInt8 UInt8 UInt32 UInt8)}
    (room : ∀ shipment ∈ shipments, shipment.pieces.flatten.length ≤ payloadRoom) {transfers : List Received}
    (carry : List.Forall₂ Received.Carries transfers (shipments.flatMap (Shipment.fragments (· + 1)))) :
    ∃ final calls, run rxStep shtp transfers = .ok (final, calls) ∧
      payloads calls.flatten = (shipments.map Shipment.cargo).filter (fun cargo => shtp.listens cargo.channel) := by
  obtain ⟨final, calls, done, -, -, out⟩ := rx_refines assembles carry
  rw [receiveAll_shipments assembler room] at out
  exact ⟨final, calls, done, out⟩

/-- Two payloads, the first one in two transfers, after channel 3 has got a listener. -/
theorem shipments_received_two : ∃ listening, shtpListenChan Shtp.opened 3 = .ok (listening, sh2Ok) ∧
    ∃ final calls, run rxStep listening
      [⟨[7, 0, 3, 0, 1, 2], 6, by decide, 10⟩, ⟨[5, 128, 3, 1, 3], 5, by decide, 20⟩,
        ⟨[5, 0, 3, 2, 4], 5, by decide, 30⟩] = .ok (final, calls) ∧
      payloads calls.flatten = [⟨3, [1, 2, 3], 10⟩, ⟨3, [4], 30⟩] := by
  obtain ⟨listening, done, assembles, listens⟩ := shtpListenChan_spec assembles_opened 3 (by decide) (by decide)
  have carry : List.Forall₂ Received.Carries
      [⟨[7, 0, 3, 0, 1, 2], 6, by decide, 10⟩, ⟨[5, 128, 3, 1, 3], 5, by decide, 20⟩,
        ⟨[5, 0, 3, 2, 4], 5, by decide, 30⟩]
      (List.flatMap (Shipment.fragments (· + 1))
        [⟨3, 0, [[1, 2], [3]], by simp [Cut], 10, [20], rfl⟩, ⟨3, 2, [[4]], by simp [Cut], 30, [], rfl⟩]) :=
    .cons ⟨⟨by decide, by decide, by decide⟩, by decide, rfl, rfl⟩
      (.cons ⟨⟨by decide, by decide, by decide⟩, by decide, rfl, rfl⟩
        (.cons ⟨⟨by decide, by decide, by decide⟩, by decide, rfl, rfl⟩ .nil))
  obtain ⟨final, calls, received, out⟩ := shipments_received assembles (by decide) carry
  refine ⟨listening, done, ?_⟩
  refine ⟨final, calls, received, ?_⟩
  rw [out, listens]
  rfl

/-! ## Transfers that get lost -/

abbrev ShtpLink : Type := LossyLink UInt8 UInt8 UInt32 UInt8

theorem iterate_succ (number : UInt8) (count : Nat) : (· + 1)^[count] number = number + UInt8.ofNat count := by
  induction count with
  | zero => simp
  | succ count ih =>
    rw [Function.iterate_succ_apply', ih]
    simp [UInt8.add_assoc]

/-- The sequence numbers come round after 256 transfers. -/
theorem sequence_distinct (number : UInt8) (count : Nat) (some_lost : 0 < count) (few : count < 256) :
    (· + 1)^[count] number ≠ number := by
  rw [iterate_succ]
  intro same
  have zero : UInt8.ofNat count = 0 := by simpa using same
  have value := congrArg UInt8.toNat zero
  rw [UInt8.toNat_ofNat'] at value
  have nothing : (0 : UInt8).toNat = 0 := rfl
  omega

theorem sublistForall₂_of_sublist {α β : Type} {relation : α → β → Prop} {first second : List α} {third : List β}
    (sub : first.Sublist second) (related : List.SublistForall₂ relation second third) :
    List.SublistForall₂ relation first third := by
  induction related generalizing first with
  | nil =>
    obtain rfl := List.sublist_nil.mp sub
    exact .nil
  | cons one _ ih =>
    cases sub with
    | cons _ sub => exact .cons_right (ih sub)
    | cons_cons _ sub => exact .cons one (ih sub)
  | cons_right _ ih => exact .cons_right (ih sub)

/-- When transfers get lost, the payloads that the listeners are given are ones that were sent, in their order and each
at most once, or ends of them: no payload has bytes of two, as long as no channel loses 256 transfers in a row. -/
theorem lossy_payloads {link link' : ShtpLink} (start : LossyLink.Traces (· + 1) link) {shtp : Shtp}
    (assembles : shtp.Assembles link.assembler) {sendings : List (Sending UInt8 UInt32 UInt8)}
    {arrivals : List (Arrival UInt8 UInt8 UInt32 UInt8)}
    (few : EveryStep (LossyLink.step (ε := Fault) (· + 1) payloadRoom)
      (fun link sending => link.lost sending.channel < 256) link sendings)
    (sent : run (LossyLink.step (ε := Fault) (· + 1) payloadRoom) link sendings = .ok (link', arrivals))
    {transfers : List Received}
    (carry : List.Forall₂ Received.Carries transfers (arrivals.filterMap Arrival.fragment)) :
    ∃ final calls, run rxStep shtp transfers = .ok (final, calls) ∧
      List.SublistForall₂ LossyLink.IsTail (payloads calls.flatten) link'.finished := by
  obtain ⟨final, calls, done, -, -, out⟩ := rx_refines assembles carry
  rw [LossyLink.receiveAll_arrivals _ _ sent] at out
  refine ⟨final, calls, done, ?_⟩
  rw [out]
  exact sublistForall₂_of_sublist List.filter_sublist (LossyLink.deliveries sequence_distinct start few sent)

/-- The first transfer of a payload of channel 3 gets lost. -/
theorem lossy_payloads_beginning :
    let sendings : List (Sending UInt8 UInt32 UInt8) :=
      [⟨3, some ⟨[[1, 2], [3]], by simp [Cut]⟩, none⟩, ⟨3, none, some 20⟩]
    ∃ link arrivals, run (LossyLink.step (ε := Fault) (· + 1) payloadRoom) (LossyLink.fresh 0 0 0) sendings =
        .ok (link, arrivals) ∧
      ∃ final calls, run rxStep Shtp.opened [⟨[5, 128, 3, 1, 3], 5, by decide, 20⟩] = .ok (final, calls) ∧
        List.SublistForall₂ LossyLink.IsTail (payloads calls.flatten) link.finished := by
  intro sendings
  have few : EveryStep (LossyLink.step (ε := Fault) (· + 1) payloadRoom)
      (fun link sending => link.lost sending.channel < 256) (LossyLink.fresh (0 : UInt8) 0 0) sendings :=
    ⟨by decide, by decide, trivial⟩
  refine ⟨_, _, rfl, ?_⟩
  exact lossy_payloads (LossyLink.traces_fresh _ 0 0 0) assembles_opened few rfl
    (.cons ⟨⟨by decide, by decide, by decide⟩, by decide, rfl, rfl⟩ .nil)

end TvcHopper.Imu
