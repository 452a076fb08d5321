import Mathlib.Data.List.Perm.Subperm
import TvcHopper.Machine.Execution
import TvcHopper.Machine.Semaphores
import TvcHopper.Spp.Protocol
import TvcHopper.Stcp.Codec

/-! The two tasks of the vehicle that send: `CommandControlComms_Task` through
`SppProcessStreams` and `UartListener_Task` through the handling of requests.

Each escapes its message into the one write buffer and hands the buffer to
`LPUART_RTOS_Send`, which takes a semaphore without waiting for it and reads
the bytes while they are transmitted. The wire carries whole frames as long as
nobody writes over bytes that are still to be read and no task finds the
semaphore taken: what a refused task sends is lost, and `SppSendPacket` returns
`SPP_STATUS_OK` all the same.
-/

set_option autoImplicit false

namespace TvcHopper.Stcp
open Machine Machine.Stuffing Spp

/-! ## Model -/

inductive Sender where
  | commandControlComms
  | uartListener
  deriving DecidableEq, Repr

def Sender.other : Sender → Sender
  | .commandControlComms => .uartListener
  | .uartListener => .commandControlComms

/-- A message passed to `StcpWrite`, and the bytes `StcpEscape` made of it. -/
structure Written where
  message : List UInt8
  escaped : List UInt8
  deriving DecidableEq, Repr

inductive SenderPc where
  | idle
  | escaped (written : Written) (size : UInt16)
  | sending (written : Written)
  deriving DecidableEq, Repr

/-- The driver: its semaphore, and the size and the progress of the transfer out of the write buffer. -/
structure LpuartRtosHandle where
  txSemaphore : BinarySemaphore
  dataSize : Nat
  transmitted : Nat
  deriving DecidableEq, Repr

structure Senders where
  buffers : StcpBuffers
  uart : LpuartRtosHandle
  place : Sender → SenderPc

inductive SendAction where
  | write (sender : Sender) (buffer : List UInt8) (size : UInt16)
  | send (sender : Sender)
  | transmit
  | complete (sender : Sender)

inductive SendEvent where
  | escaped (written : Written)
  | transmitted (byte : UInt8)
  | returned (message : List UInt8) (status : SppStatus)
  | silent
  deriving DecidableEq

/-- `LPUART_RTOS_Send` up to the place where it waits; `none` when it could not take the semaphore. The
size of a frame is never 0. -/
def lpuartRtosSend (uart : LpuartRtosHandle) (length : Nat) : Option LpuartRtosHandle :=
  match uart.txSemaphore.take with
  | (true, txSemaphore) => some { txSemaphore, dataSize := length, transmitted := 0 }
  | (false, _) => none

def sppSendPacket (_status : StcpStatus) : SppStatus := sppStatusOk

/-- The statuses of `LPUART_RTOS_Send`, as `XCCb_StcpSendPacket` passes them on. -/
def xccbStcpSendPacket (success : Bool) : StcpStatus := if success then sppStatusOk else sppStatusError

def Senders.goTo (senders : Senders) (sender : Sender) (place : SenderPc) : Senders :=
  { senders with place := Function.update senders.place sender place }

def sendStep (senders : Senders) : SendAction → Except Fault (Senders × SendEvent)
  | .write sender buffer size =>
    match senders.place sender with
    | .idle => do
      -- the write buffer is shared: it is written whether or not it is being transmitted
      let (buffers, escapedSize) ← stcpEscape senders.buffers buffer size
      let written : Written :=
        ⟨buffer.take size.toNat, buffers.writePayloadBuffer.toList.take escapedSize.toNat⟩
      return ({ senders with buffers }.goTo sender (.escaped written escapedSize), .escaped written)
    | _ => .ok (senders, .silent)
  | .send sender =>
    match senders.place sender with
    | .escaped written size =>
      match lpuartRtosSend senders.uart size.toNat with
      | some uart => .ok ({ senders with uart }.goTo sender (.sending written), .silent)
      -- the driver is busy, and the message is given up
      | none => .ok (senders.goTo sender .idle,
          .returned written.message (sppSendPacket (xccbStcpSendPacket false)))
    | _ => .ok (senders, .silent)
  | .transmit =>
    if senders.uart.transmitted < senders.uart.dataSize then do
      let byte ← loadCell senders.buffers.writePayloadBuffer senders.uart.transmitted
      return ({ senders with uart.transmitted := senders.uart.transmitted + 1 }, .transmitted byte)
    else .ok (senders, .silent)
  | .complete sender =>
    match senders.place sender with
    | .sending written =>
      -- the last byte is out: the interrupt wakes the task that waits
      if senders.uart.transmitted = senders.uart.dataSize then
        .ok ({ senders with uart.txSemaphore := senders.uart.txSemaphore.give }.goTo sender .idle,
          .returned written.message (sppSendPacket (xccbStcpSendPacket true)))
      else .ok (senders, .silent)
    | _ => .ok (senders, .silent)

/-- Both tasks behind the initialization of the driver; the write buffer holds anything. -/
def sendersInit (buffers : StcpBuffers) : Senders where
  buffers := buffers
  uart := { txSemaphore := .mutex, dataSize := 0, transmitted := 0 }
  place := fun _ => .idle

/-! ## What is seen -/

def transmittedBytes : List SendEvent → List UInt8
  | [] => []
  | .transmitted byte :: events => byte :: transmittedBytes events
  | _ :: events => transmittedBytes events

def reportedSent : List SendEvent → List (List UInt8)
  | [] => []
  | .returned message status :: events =>
    if status = sppStatusOk then message :: reportedSent events else reportedSent events
  | _ :: events => reportedSent events

theorem transmittedBytes_append (first rest : List SendEvent) :
    transmittedBytes (first ++ rest) = transmittedBytes first ++ transmittedBytes rest := by
  induction first with
  | nil => rfl
  | cons event first ih => cases event <;> simp [transmittedBytes, ih]

theorem reportedSent_append (first rest : List SendEvent) :
    reportedSent (first ++ rest) = reportedSent first ++ reportedSent rest := by
  induction first with
  | nil => rfl
  | cons event first ih =>
    cases event with
    | returned message status => by_cases ok : status = sppStatusOk <;> simp [reportedSent, ok, ih]
    | escaped _ | transmitted _ | silent => simp [reportedSent, ih]

theorem transmittedBytes_unseen (events : List SendEvent) {event : SendEvent} (unseen : transmittedBytes [event] = []) :
    transmittedBytes (events ++ [event]) = transmittedBytes events := by
  rw [transmittedBytes_append, unseen, List.append_nil]

theorem reportedSent_unseen (events : List SendEvent) {event : SendEvent} (unseen : reportedSent [event] = []) :
    reportedSent (events ++ [event]) = reportedSent events := by
  rw [reportedSent_append, unseen, List.append_nil]

/-- What was transmitted is whole frames and, while a transmission runs, the start of one more; the
messages that were sent are among those of the whole frames. -/
def SendsFrames (events : List SendEvent) (running : Prop) : Prop :=
  ∃ (frames : List Written) (part : List UInt8),
    transmittedBytes events = frames.flatMap (·.escaped) ++ part ∧
    (∀ written ∈ frames, .escaped written ∈ events) ∧
    (part = [] ∨ running ∧ ∃ written, .escaped written ∈ events ∧ part <+: written.escaped) ∧
    (reportedSent events).Subperm (frames.map (·.message))

/-! ## Steps -/

inductive SendOutcome (senders : Senders) : SendAction → Senders → SendEvent → Prop where
  | waits (action : SendAction) : SendOutcome senders action senders .silent
  | escapes (sender : Sender) (buffer : List UInt8) (size : UInt16) (buffers : StcpBuffers) (escapedSize : UInt16)
      (written : Written) : senders.place sender = .idle →
      stcpEscape senders.buffers buffer size = .ok (buffers, escapedSize) →
      written = ⟨buffer.take size.toNat, buffers.writePayloadBuffer.toList.take escapedSize.toNat⟩ →
      SendOutcome senders (.write sender buffer size)
        ({ senders with buffers }.goTo sender (.escaped written escapedSize)) (.escaped written)
  | starts (sender : Sender) (written : Written) (size : UInt16) : senders.place sender = .escaped written size →
      senders.uart.txSemaphore.available = true →
      SendOutcome senders (.send sender)
        ({ senders with uart := ⟨⟨false⟩, size.toNat, 0⟩ }.goTo sender (.sending written)) .silent
  | refused (sender : Sender) (written : Written) (size : UInt16) : senders.place sender = .escaped written size →
      senders.uart.txSemaphore.available = false →
      SendOutcome senders (.send sender) (senders.goTo sender .idle) (.returned written.message sppStatusOk)
  | transmits (byte : UInt8) : senders.uart.transmitted < senders.uart.dataSize →
      senders.buffers.writePayloadBuffer.toList[senders.uart.transmitted]? = some byte →
      SendOutcome senders .transmit { senders with uart.transmitted := senders.uart.transmitted + 1 }
        (.transmitted byte)
  | completes (sender : Sender) (written : Written) : senders.place sender = .sending written →
      senders.uart.transmitted = senders.uart.dataSize →
      SendOutcome senders (.complete sender)
        ({ senders with uart.txSemaphore := ⟨true⟩ }.goTo sender .idle) (.returned written.message sppStatusOk)

theorem sendStep_outcome {senders senders' : Senders} {action : SendAction} {event : SendEvent}
    (done : sendStep senders action = .ok (senders', event)) : SendOutcome senders action senders' event := by
  cases action with
  | write sender buffer size =>
    cases place : senders.place sender with
    | idle =>
      simp only [sendStep, place] at done
      obtain ⟨⟨buffers, escapedSize⟩, escapes, rest⟩ := bind_eq_ok.mp done
      obtain ⟨rfl, rfl⟩ := Prod.mk.inj (Except.ok.inj rest)
      exact .escapes sender buffer size buffers escapedSize _ place escapes rfl
    | escaped _ _ | sending _ =>
      simp only [sendStep, place, Except.ok.injEq, Prod.mk.injEq] at done
      obtain ⟨rfl, rfl⟩ := done
      exact .waits _
  | send sender =>
    cases place : senders.place sender with
    | escaped written size =>
      -- the driver is free, or refuses the message
      cases free : senders.uart.txSemaphore.available with
      | true =>
        simp only [sendStep, place, lpuartRtosSend, BinarySemaphore.take, free, Except.ok.injEq,
          Prod.mk.injEq] at done
        obtain ⟨rfl, rfl⟩ := done
        exact .starts sender written size place free
      | false =>
        simp only [sendStep, place, lpuartRtosSend, BinarySemaphore.take, free, Except.ok.injEq,
          Prod.mk.injEq] at done
        obtain ⟨rfl, rfl⟩ := done
        exact .refused sender written size place free
    | idle | sending _ =>
      simp only [sendStep, place, Except.ok.injEq, Prod.mk.injEq] at done
      obtain ⟨rfl, rfl⟩ := done
      exact .waits _
  | transmit =>
    by_cases more : senders.uart.transmitted < senders.uart.dataSize
    · simp only [sendStep, if_pos more] at done
      obtain ⟨byte, loaded, rest⟩ := bind_eq_ok.mp done
      obtain ⟨rfl, rfl⟩ := Prod.mk.inj (Except.ok.inj rest)
      obtain ⟨within, rfl⟩ := loadCell_eq_ok.mp loaded
      exact .transmits _ more (by simp [within])
    · simp only [sendStep, if_neg more, Except.ok.injEq, Prod.mk.injEq] at done
      obtain ⟨rfl, rfl⟩ := done
      exact .waits _
  | complete sender =>
    cases place : senders.place sender with
    | sending written =>
      by_cases whole : senders.uart.transmitted = senders.uart.dataSize
      · simp only [sendStep, place, if_pos whole, Except.ok.injEq, Prod.mk.injEq] at done
        obtain ⟨rfl, rfl⟩ := done
        exact .completes sender written place whole
      · simp only [sendStep, place, if_neg whole, Except.ok.injEq, Prod.mk.injEq] at done
        obtain ⟨rfl, rfl⟩ := done
        exact .waits _
    | idle | escaped _ _ =>
      simp only [sendStep, place, Except.ok.injEq, Prod.mk.injEq] at done
      obtain ⟨rfl, rfl⟩ := done
      exact .waits _

/-! ## Undisturbed runs -/

/-- From `position` on and as far as both reach, the two are the same. -/
def AgreeFrom (position : Nat) (first second : List UInt8) : Prop :=
  ∀ i < min first.length second.length, position ≤ i → first[i]? = second[i]?

instance (position : Nat) (first second : List UInt8) : Decidable (AgreeFrom position first second) :=
  inferInstanceAs (Decidable (∀ i < _, _))

/-- The bytes a task has escaped, and how many of them are transmitted. -/
def Senders.escapedBy (senders : Senders) (sender : Sender) : Option (List UInt8 × Nat) :=
  match senders.place sender with
  | .idle => none
  | .escaped written _ => some (written.escaped, 0)
  | .sending written => some (written.escaped, senders.uart.transmitted)

def SenderPc.isEscaped : SenderPc → Bool
  | .escaped _ _ => true
  | .idle | .sending _ => false

/-- A message that is escaped leaves the bytes as they are that the other task has still to transmit, and
no task that wants to transmit finds the semaphore taken. -/
def Undisturbed (senders : Senders) : SendAction → Prop
  | .write sender buffer size => senders.place sender = .idle →
      ∀ pending ∈ senders.escapedBy sender.other,
        AgreeFrom pending.2 pending.1 (frame stcpMarks (buffer.take size.toNat))
  | .send sender => (senders.place sender).isEscaped = true → senders.uart.txSemaphore.available = true
  | .transmit | .complete _ => True

instance (senders : Senders) (action : SendAction) : Decidable (Undisturbed senders action) :=
  match action with
  | .write sender buffer size => inferInstanceAs (Decidable (senders.place sender = .idle →
      ∀ pending ∈ senders.escapedBy sender.other,
        AgreeFrom pending.2 pending.1 (frame stcpMarks (buffer.take size.toNat))))
  | .send sender => inferInstanceAs (Decidable ((senders.place sender).isEscaped = true →
      senders.uart.txSemaphore.available = true))
  | .transmit | .complete _ => .isTrue trivial

/-- The write buffer holds the bytes from `position` on. -/
def StcpBuffers.Holds (buffers : StcpBuffers) (escaped : List UInt8) (position : Nat) : Prop :=
  ∀ i < escaped.length, position ≤ i → buffers.writePayloadBuffer.toList[i]? = escaped[i]?

def SenderPc.Intact (events : List SendEvent) (buffers : StcpBuffers) (transmitted : Nat) : SenderPc → Prop
  | .idle => True
  | .escaped written size => .escaped written ∈ events ∧ size.toNat = written.escaped.length ∧
      buffers.Holds written.escaped 0
  | .sending written => .escaped written ∈ events ∧ buffers.Holds written.escaped transmitted

/-- A transmission runs for the task that waits for it, and has put this much on the wire. -/
inductive OnLine (senders : Senders) : List UInt8 → Prop where
  | free : senders.uart.txSemaphore.available = true → senders.uart.transmitted = senders.uart.dataSize →
      (∀ sender written, senders.place sender ≠ .sending written) → OnLine senders []
  | busy (sender : Sender) (written : Written) : senders.uart.txSemaphore.available = false →
      senders.place sender = .sending written → (∀ other, senders.place sender.other ≠ .sending other) →
      senders.uart.dataSize = written.escaped.length → senders.uart.transmitted ≤ senders.uart.dataSize →
      OnLine senders (written.escaped.take senders.uart.transmitted)

/-- What is true of a run whose steps are all undisturbed. -/
structure IntactRun (events : List SendEvent) (senders : Senders) : Prop where
  tasks : ∀ sender, (senders.place sender).Intact events senders.buffers senders.uart.transmitted
  stream : ∃ (frames : List Written) (part : List UInt8),
    transmittedBytes events = frames.flatMap (·.escaped) ++ part ∧
    (∀ written ∈ frames, .escaped written ∈ events) ∧
    OnLine senders part ∧ reportedSent events = frames.map (·.message)

section Runs
variable {senders senders' : Senders} {events : List SendEvent} {action : SendAction} {event : SendEvent}

theorem other_ne (sender : Sender) : sender.other ≠ sender := by
  cases sender
  all_goals decide

theorem eq_other {sender task : Sender} (different : task ≠ sender) : task = sender.other := by
  cases sender
  all_goals cases task
  all_goals first | rfl | exact absurd rfl different

@[simp] theorem goTo_self (senders : Senders) (sender : Sender) (place : SenderPc) :
    (senders.goTo sender place).place sender = place := Function.update_self ..

@[simp] theorem goTo_other (senders : Senders) (sender : Sender) (place : SenderPc) :
    (senders.goTo sender place).place sender.other = senders.place sender.other :=
  Function.update_of_ne (other_ne sender) ..

theorem forall_goTo (Holds : SenderPc → Prop) {place : SenderPc} {sender : Sender} (own : Holds place)
    (other : Holds (senders.place sender.other)) (task : Sender) : Holds ((senders.goTo sender place).place task) := by
  by_cases same : task = sender
  · rw [same, goTo_self]
    exact own
  · rw [eq_other same, goTo_other]
    exact other

theorem StcpBuffers.Holds.mono {buffers : StcpBuffers} {escaped : List UInt8} {position later : Nat}
    (holds : buffers.Holds escaped position) (more : position ≤ later) : buffers.Holds escaped later :=
  fun i within reached => holds i within (Nat.le_trans more reached)

theorem SenderPc.Intact.mono {events' : List SendEvent} {buffers : StcpBuffers} {transmitted transmitted' : Nat}
    {place : SenderPc} (intact : place.Intact events buffers transmitted) (seen : events ⊆ events')
    (more : transmitted ≤ transmitted') : place.Intact events' buffers transmitted' := by
  cases place with
  | idle => trivial
  | escaped written size => exact ⟨seen intact.1, intact.2⟩
  | sending written => exact ⟨seen intact.1, intact.2.mono more⟩

/-- What agrees with the new frame stays in the buffer. -/
theorem StcpBuffers.Holds.escape {buffers buffers' : StcpBuffers} {escaped buffer : List UInt8} {size size' : UInt16}
    {position : Nat} (holds : buffers.Holds escaped position)
    (agree : AgreeFrom position escaped (frame stcpMarks (buffer.take size.toNat)))
    (escapes : stcpEscape buffers buffer size = .ok (buffers', size')) : buffers'.Holds escaped position := by
  obtain ⟨length, front, behind⟩ := stcpEscape_ok escapes
  intro i within reached
  by_cases written : i < size'.toNat
  · rw [agree i (by omega) reached, ← front, List.getElem?_take_of_lt written]
  · rw [behind i (by omega)]
    exact holds i within reached

theorem holds_escaped {buffers buffers' : StcpBuffers} {buffer : List UInt8} {size size' : UInt16}
    (escapes : stcpEscape buffers buffer size = .ok (buffers', size')) :
    size'.toNat = (buffers'.writePayloadBuffer.toList.take size'.toNat).length ∧
      buffers'.Holds (buffers'.writePayloadBuffer.toList.take size'.toNat) 0 := by
  obtain ⟨length, front, -⟩ := stcpEscape_ok escapes
  constructor
  · rw [front, length]
  · intro i within _
    rw [List.getElem?_take_of_lt (by rw [List.length_take] at within; omega)]

theorem SenderPc.Intact.escape {buffers buffers' : StcpBuffers} {buffer : List UInt8} {size size' : UInt16}
    {sender : Sender} (intact : (senders.place sender).Intact events buffers senders.uart.transmitted)
    (agree : ∀ pending ∈ senders.escapedBy sender,
      AgreeFrom pending.2 pending.1 (frame stcpMarks (buffer.take size.toNat)))
    (escapes : stcpEscape buffers buffer size = .ok (buffers', size')) :
    (senders.place sender).Intact events buffers' senders.uart.transmitted := by
  unfold Senders.escapedBy at agree
  cases place : senders.place sender with
  | idle => trivial
  | escaped written _ =>
    rw [place] at intact agree
    exact ⟨intact.1, intact.2.1, intact.2.2.escape (agree _ rfl) escapes⟩
  | sending written =>
    rw [place] at intact agree
    exact ⟨intact.1, intact.2.escape (agree _ rfl) escapes⟩

/-! ### The line -/

theorem OnLine.goTo {part : List UInt8} {sender : Sender} {place : SenderPc} (line : OnLine senders part)
    (before : ∀ written, senders.place sender ≠ .sending written) (behind : ∀ written, place ≠ .sending written)
    (buffers : StcpBuffers) : OnLine ({ senders with buffers }.goTo sender place) part := by
  cases line with
  | free available whole quiet =>
    exact .free available whole
      (forall_goTo (fun place => ∀ written, place ≠ .sending written) behind (quiet sender.other))
  | busy owner written taken sending single size within =>
    have other : owner = sender.other := eq_other fun same => before written (same ▸ sending)
    subst other
    have back : sender.other.other = sender := by cases sender <;> rfl
    refine .busy sender.other written taken ?_ ?_ size within
    · rw [goTo_other]
      exact sending
    · rw [back, goTo_self]
      exact behind

theorem OnLine.start {part : List UInt8} (sender : Sender) {written : Written} {size : UInt16}
    (line : OnLine senders part) (available : senders.uart.txSemaphore.available = true)
    (whole : size.toNat = written.escaped.length) :
    part = [] ∧ (∀ task other, senders.place task ≠ .sending other) ∧
      OnLine ({ senders with uart := ⟨⟨false⟩, size.toNat, 0⟩ }.goTo sender (.sending written)) [] := by
  cases line with
  | free _ _ quiet =>
    refine ⟨rfl, quiet, ?_⟩
    have start := @OnLine.busy ({ senders with uart := ⟨⟨false⟩, size.toNat, 0⟩ }.goTo sender (.sending written))
      sender written rfl (goTo_self ..) (by rw [goTo_other]; exact quiet sender.other) whole (Nat.zero_le _)
    exact start
  | busy _ _ taken => exact absurd (taken.symm.trans available) (by decide)

theorem OnLine.transmit {part : List UInt8} {byte : UInt8} (line : OnLine senders part)
    (tasks : ∀ sender, (senders.place sender).Intact events senders.buffers senders.uart.transmitted)
    (more : senders.uart.transmitted < senders.uart.dataSize)
    (read : senders.buffers.writePayloadBuffer.toList[senders.uart.transmitted]? = some byte) :
    OnLine { senders with uart.transmitted := senders.uart.transmitted + 1 } (part ++ [byte]) := by
  cases line with
  | free _ whole _ => omega
  | busy sender written taken sending single size within =>
    have holds := tasks sender
    rw [sending] at holds
    have next : written.escaped[senders.uart.transmitted]? = some byte := by
      rw [← holds.2 _ (by omega) (Nat.le_refl _)]
      exact read
    have longer : written.escaped.take senders.uart.transmitted ++ [byte] =
        written.escaped.take (senders.uart.transmitted + 1) := by
      rw [List.take_add_one, next, Option.toList_some]
    rw [longer]
    exact .busy sender written taken sending single size more

theorem OnLine.complete {part : List UInt8} {sender : Sender} {written : Written} (line : OnLine senders part)
    (place : senders.place sender = .sending written) (whole : senders.uart.transmitted = senders.uart.dataSize) :
    part = written.escaped ∧ OnLine ({ senders with uart.txSemaphore := ⟨true⟩ }.goTo sender .idle) [] := by
  cases line with
  | free _ _ quiet => exact absurd place (quiet sender written)
  | busy owner frame taken sending single size within =>
    have same : owner = sender := by
      by_contra different
      have other := eq_other fun equal => different (Eq.symm equal)
      exact single written (other ▸ place)
    subst same
    obtain rfl : frame = written := SenderPc.sending.inj (sending.symm.trans place)
    refine ⟨List.take_of_length_le (by omega), .free rfl whole ?_⟩
    exact forall_goTo (fun place => ∀ written, place ≠ .sending written) (fun _ => nofun) single

/-! ### Runs -/

theorem IntactRun.step (intact : IntactRun events senders) (undisturbed : Undisturbed senders action)
    (done : sendStep senders action = .ok (senders', event)) : IntactRun (events ++ [event]) senders' := by
  obtain ⟨tasks, frames, part, wire, known, line, sent⟩ := intact
  have seen : events ⊆ events ++ [event] := List.subset_append_left ..
  have known' : ∀ written ∈ frames, .escaped written ∈ events ++ [event] :=
    fun written member => seen (known written member)
  cases sendStep_outcome done with
  | waits _ =>
    exact ⟨fun sender => (tasks sender).mono seen (Nat.le_refl _), frames, part,
      (transmittedBytes_unseen events rfl).trans wire, known', line, (reportedSent_unseen events rfl).trans sent⟩
  | escapes sender buffer size buffers escapedSize written place escapes made =>
    refine ⟨?_, frames, part, (transmittedBytes_unseen events rfl).trans wire, known', ?_,
      (reportedSent_unseen events rfl).trans sent⟩
    · subst made
      obtain ⟨length, holds⟩ := holds_escaped escapes
      refine forall_goTo (·.Intact _ _ _) ⟨by simp, length, holds⟩ ?_
      exact ((tasks sender.other).escape (undisturbed place) escapes).mono seen (Nat.le_refl _)
    · exact line.goTo (by simp [place]) (by simp) buffers
  | starts sender written size place available =>
    have own := tasks sender
    rw [place] at own
    obtain ⟨rfl, quiet, started⟩ := line.start sender available own.2.1
    refine ⟨forall_goTo (·.Intact _ _ _) ⟨seen own.1, own.2.2⟩ ?_, frames, [],
      (transmittedBytes_unseen events rfl).trans wire, known', started, (reportedSent_unseen events rfl).trans sent⟩
    -- the other task does not transmit
    have other := tasks sender.other
    cases there : senders.place sender.other with
    | idle => trivial
    | escaped _ _ =>
      rw [there] at other
      exact ⟨seen other.1, other.2⟩
    | sending _ => exact absurd there (quiet _ _)
  | refused sender written size place taken =>
    have available := undisturbed (by rw [place]; rfl)
    exact absurd (taken.symm.trans available) (by decide)
  | transmits byte more read =>
    refine ⟨fun sender => (tasks sender).mono seen (Nat.le_succ _), frames, part ++ [byte], ?_, known',
      line.transmit tasks more read, (reportedSent_unseen events rfl).trans sent⟩
    rw [transmittedBytes_append, wire, List.append_assoc]
    rfl
  | completes sender written place whole =>
    have own := tasks sender
    rw [place] at own
    obtain ⟨rfl, free⟩ := line.complete place whole
    refine ⟨?_, frames ++ [written], [], ?_, ?_, free, ?_⟩
    · exact forall_goTo (·.Intact _ _ _) trivial ((tasks sender.other).mono seen (Nat.le_refl _))
    · simp [transmittedBytes_append, wire, transmittedBytes]
    · intro other member
      rcases List.mem_append.mp member with before | last
      · exact known' other before
      · rw [List.mem_singleton.mp last]
        exact seen own.1
    · rw [reportedSent_append, sent, List.map_append]
      rfl

theorem intactRun_init (buffers : StcpBuffers) : IntactRun [] (sendersInit buffers) where
  tasks := fun _ => trivial
  stream := ⟨[], [], rfl, nofun, .free rfl rfl nofun, rfl⟩

theorem IntactRun.sendsFrames (intact : IntactRun events senders) :
    SendsFrames events (senders.uart.txSemaphore.available = false) := by
  obtain ⟨tasks, frames, part, wire, known, line, sent⟩ := intact
  refine ⟨frames, part, wire, known, ?_, sent ▸ .refl _⟩
  cases line with
  | free _ _ _ => exact .inl rfl
  | busy sender written taken sending _ _ _ =>
    have own := tasks sender
    rw [sending] at own
    exact .inr ⟨taken, written, own.1, List.take_prefix ..⟩

end Runs

/-- In every run whose steps are undisturbed the wire carries whole frames, and every message that was
reported as sent is on it. -/
theorem sends_frames (buffers : StcpBuffers) (schedule : List SendAction) (final : Senders)
    (events : List SendEvent) (done : run sendStep (sendersInit buffers) schedule = .ok (final, events))
    (undisturbed : EveryStep sendStep Undisturbed (sendersInit buffers) schedule) :
    SendsFrames events (final.uart.txSemaphore.available = false) := by
  have intact := run_induction_allowed IntactRun
    (fun _ _ _ _ _ intact undisturbed one => intact.step undisturbed one) [] (intactRun_init buffers) undisturbed done
  exact intact.sendsFrames

/-! Two messages on zeroed buffers. -/

def zeroedBuffers : StcpBuffers := ⟨.replicate _ 0, .replicate _ 0⟩

/-- One behind the other. -/
theorem sends_frames_in_turn :
    ∃ final events, run sendStep (sendersInit zeroedBuffers)
        [.write .commandControlComms [1, 1] 2, .send .commandControlComms, .transmit, .transmit, .transmit, .transmit,
          .transmit, .complete .commandControlComms, .write .uartListener [2, 2] 2, .send .uartListener] =
          .ok (final, events) ∧
      SendsFrames events (final.uart.txSemaphore.available = false) := by
  obtain ⟨final, events, done, -⟩ := run_checked sendStep (sendersInit zeroedBuffers)
    [.write .commandControlComms [1, 1] 2, .send .commandControlComms, .transmit, .transmit, .transmit, .transmit,
      .transmit, .complete .commandControlComms, .write .uartListener [2, 2] 2, .send .uartListener]
    (fun _ _ => true) rfl
  exact ⟨final, events, done, sends_frames _ _ final events done (by decide)⟩

/-- The second while the first is transmitted: it changes the bytes of the first, and is not sent. -/
theorem sends_over_other :
    (∃ final events, run sendStep (sendersInit zeroedBuffers)
        [.write .commandControlComms [1, 1] 2, .send .commandControlComms, .transmit, .transmit,
          .write .uartListener [2, 2] 2, .send .uartListener, .transmit, .transmit, .transmit,
          .complete .commandControlComms] = .ok (final, events) ∧
        transmittedBytes events = [0x7A, 1, 2, 0x7F, 0x7F] ∧ reportedSent events = [[2, 2], [1, 1]]) ∧
      ¬∀ buffers schedule final events, run sendStep (sendersInit buffers) schedule = .ok (final, events) →
        SendsFrames events (final.uart.txSemaphore.available = false) := by
  have ran : ∃ final, run sendStep (sendersInit zeroedBuffers)
      [.write .commandControlComms [1, 1] 2, .send .commandControlComms, .transmit, .transmit,
        .write .uartListener [2, 2] 2, .send .uartListener, .transmit, .transmit, .transmit,
        .complete .commandControlComms] = .ok (final, [
          .escaped ⟨[1, 1], [0x7A, 1, 1, 0x7F, 0x7F]⟩, .silent, .transmitted 0x7A, .transmitted 1,
          .escaped ⟨[2, 2], [0x7A, 2, 2, 0x7F, 0x7F]⟩, .returned [2, 2] 0, .transmitted 2, .transmitted 0x7F,
          .transmitted 0x7F, .returned [1, 1] 0]) := ⟨_, rfl⟩
  obtain ⟨final, done⟩ := ran
  refine ⟨⟨final, _, done, rfl, rfl⟩, fun always => ?_⟩
  obtain ⟨frames, part, wire, known, -, sent⟩ := always _ _ _ _ done
  -- both messages were reported as sent, and the wire is too short for two frames
  have both : 2 ≤ frames.length := by simpa [reportedSent] using sent.length_le
  have long : ∀ written ∈ frames, written.escaped.length = 5 := by
    intro written member
    have escaped := known written member
    simp at escaped
    rcases escaped with rfl | rfl
    all_goals rfl
  have count : (frames.flatMap (·.escaped)).length = frames.length * 5 := by
    rw [List.length_flatMap, List.map_congr_left long]
    simp
  have short := congrArg List.length wire
  simp only [List.length_append, count] at short
  simp [transmittedBytes] at short
  omega

end TvcHopper.Stcp
