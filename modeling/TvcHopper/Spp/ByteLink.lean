import TvcHopper.Machine.Refinement
import TvcHopper.Spp.Link
import TvcHopper.Stcp.Transit

/-! A host and a client joined by two serial lines.

Every message is written as an STCP frame, and the listeners put the messages
together byte by byte. `HandleStcpPacket` of the vehicle and `handleStcpPacket` of
the server give them to the engines, whose `SendMessage` is `StcpWrite`. One task
at a time writes on each side.
-/

set_option autoImplicit false

namespace TvcHopper.Spp
open Machine Machine.Stuffing Stcp

variable {σ : Type}

structure ByteLink (σ : Type) where
  host : SppHostEngine
  client : SppClientEngine σ
  server : Listener 512
  vehicle : Listener 256
  toClient : List UInt8
  toHost : List UInt8

/-- `clientByte` and `hostByte` are one pass of the loops over the received bytes. -/
inductive ByteAction where
  | start (stack : Stack)
  | processStreams (timestamp elapsedTime : UInt32) (stack : Stack)
  | call (call : HostCall)
  | clientByte (stack : Stack)
  | hostByte (unset : Nat)

/-- What an engine did, and the messages that were written. -/
structure ByteEvent where
  event : Option StreamEvent
  written : List (List UInt8)

/-- What an engine did, other than processing its streams. -/
def ByteEvent.linkEvent (event : ByteEvent) : Option LinkEvent := event.event.bind StreamEvent.linkEvent

def byteStep (callbacks : StcpCallbacks) (link : ByteLink σ) : ByteAction → Except Fault (ByteLink σ × ByteEvent)
  | .start stack => do
    let message ← sppClientStart link.client stack
    let (vehicle, bytes) ← writeAll callbacks link.vehicle [message]
    return ({ link with vehicle, toHost := link.toHost ++ bytes }, ⟨some (.link .started), [message]⟩)
  | .processStreams timestamp elapsedTime stack => do
    let (client, sent) ← sppProcessStreams link.client timestamp elapsedTime stack
    let (vehicle, bytes) ← writeAll callbacks link.vehicle sent
    return ({ link with client, vehicle, toHost := link.toHost ++ bytes }, ⟨some (.processed sent), sent⟩)
  | .call call => do
    let (host, event) ← hostCall link.host call
    let (server, bytes) ← writeAll callbacks link.server (sentMessages event.effects)
    return ({ link with host, server, toClient := link.toClient ++ bytes },
      ⟨some (.link (.host event)), sentMessages event.effects⟩)
  | .clientByte stack =>
    match link.toClient with
    | [] => return (link, ⟨none, []⟩)
    | symbol :: rest => do
      -- the listener of the vehicle takes the byte, and may have a message for the client
      let (vehicle, handled) ← listenByte callbacks link.vehicle symbol
      match handled with
      | none => return ({ link with vehicle, toClient := rest }, ⟨none, []⟩)
      | some handled => do
        -- what the client sends goes out before the next byte is taken
        let (client, sent, status) ← sppClientProcessMessage link.client handled.buffer handled.size stack
        let (vehicle, bytes) ← writeAll callbacks vehicle sent
        return ({ link with client, vehicle, toClient := rest, toHost := link.toHost ++ bytes },
          ⟨some (.link (.client sent status)), sent⟩)
  | .hostByte unset =>
    match link.toHost with
    | [] => return (link, ⟨none, []⟩)
    | symbol :: rest => do
      -- the same on the server, for the host
      let (server, handled) ← listenByte callbacks link.server symbol
      match handled with
      | none => return ({ link with server, toHost := rest }, ⟨none, []⟩)
      | some handled => do
        let (host, event) ← hostCall link.host (.processMessage handled.buffer handled.size unset)
        let (server, bytes) ← writeAll callbacks server (sentMessages event.effects)
        return ({ link with host, server, toHost := rest, toClient := link.toClient ++ bytes },
          ⟨some (.link (.host event)), sentMessages event.effects⟩)

/-! ## What the frames make of a link -/

/-- A link, and for each channel whether its next message is lost. -/
structure FramedLink (σ : Type) where
  link : Link σ
  losesClient : Bool
  losesHost : Bool

/-- The status with which an engine refuses a message that does not start with the sync word. -/
def refusal (size header : Nat) : SppStatus := if size < header then sppStatusShortMessage else sppStatusInvalidSyncWord

/-- A step of the link, where a message is lost behind one that ends in the footer byte. -/
def framedStep (framed : FramedLink σ) : StreamAction → Except Fault (FramedLink σ × StreamEvent)
  | .link (.clientReceive trailing stack) =>
    match framed.link.toClient with
    | [] => return (framed, .link .idle)
    | message :: rest =>
      -- the message in front of it ended in the footer byte: the header is read as its first byte
      if framed.losesClient then
        return (⟨{ framed.link with toClient := rest }, endsInFooter stcpMarks message, framed.losesHost⟩,
          .link (.client [] (refusal (message.length + 1) (sppMsgHdrSize framed.link.client.addressLength))))
      else do
        let (link, event) ← linkStep framed.link (.clientReceive trailing stack)
        return (⟨link, endsInFooter stcpMarks message, framed.losesHost⟩, .link event)
  | .link (.hostReceive trailing unset) =>
    match framed.link.toHost with
    | [] => return (framed, .link .idle)
    | message :: rest =>
      -- as for the client
      if framed.losesHost then
        let lost := stcpHeaderByte :: message
        return (⟨{ framed.link with toHost := rest }, framed.losesClient, endsInFooter stcpMarks message⟩,
          .link (.host ⟨.processMessage (lost ++ trailing) (messageSize16 lost) unset, [],
            refusal (message.length + 1) (framed.link.host.addressLength.toNat * 2 + 2)⟩))
      else do
        let (link, event) ← linkStep framed.link (.hostReceive trailing unset)
        return (⟨link, framed.losesClient, endsInFooter stcpMarks message⟩, .link event)
  | action => do
    let (link, event) ← trafficStep framed.link action
    return ({ framed with link }, event)

/-! ## Refinement -/

structure Represents (Allowed : List UInt8 → Prop) (bytes : ByteLink σ) (framed : FramedLink σ) : Prop where
  host : bytes.host = framed.link.host
  client : bytes.client = framed.link.client
  toClient : InTransit Allowed bytes.vehicle bytes.toClient framed.losesClient framed.link.toClient
  toHost : InTransit Allowed bytes.server bytes.toHost framed.losesHost framed.link.toHost

/-- The action of the link that a byte stands for, if it ends a message. -/
inductive ByteAction.Abstracts : ByteAction → Option StreamAction → Prop where
  | start (stack : Stack) : Abstracts (.start stack) (some (.link (.start stack)))
  | processStreams (timestamp elapsedTime : UInt32) (stack : Stack) :
      Abstracts (.processStreams timestamp elapsedTime stack) (some (.processStreams timestamp elapsedTime stack))
  | call (call : HostCall) : Abstracts (.call call) (some (.link (.call call)))
  | clientByte (stack : Stack) : Abstracts (.clientByte stack) none
  | clientReceive (trailing : List UInt8) (stack : Stack) :
      Abstracts (.clientByte stack) (some (.link (.clientReceive trailing stack)))
  | hostByte (unset : Nat) : Abstracts (.hostByte unset) none
  | hostReceive (trailing : List UInt8) (unset : Nat) :
      Abstracts (.hostByte unset) (some (.link (.hostReceive trailing unset)))

def ByteEvent.Writes (Allowed : List UInt8 → Prop) (event : ByteEvent) : Prop :=
  ∀ message ∈ event.written, Allowed message

/-- Everything that is written goes through `StcpWrite`. -/
theorem byteStep_written {callbacks : StcpCallbacks} {bytes bytes' : ByteLink σ} {action : ByteAction}
    {event : ByteEvent} (done : byteStep callbacks bytes action = .ok (bytes', event)) :
    ∃ buffers result, run (writePayload callbacks) buffers event.written = .ok result := by
  -- all writing is done by `writeAll`
  have wrote {n : Nat} {listener : Listener n} {messages : List (List UInt8)} {result : Listener n × List UInt8}
      (written : writeAll callbacks listener messages = .ok result) :
      ∃ buffers result, run (writePayload callbacks) buffers messages = .ok result := by
    obtain ⟨frames, ran, -⟩ := bind_eq_ok.mp written
    exact ⟨_, _, ran⟩
  have nothing : ∃ buffers result, run (writePayload callbacks) buffers [] = .ok result :=
    ⟨bytes.server.buffers, _, run_nil _⟩
  cases action with
  | start stack =>
    simp only [byteStep, bind_eq_ok, pure_eq_ok, Except.ok.injEq, Prod.mk.injEq, Prod.exists] at done
    obtain ⟨_, -, _, _, written, -, rfl⟩ := done
    exact wrote written
  | processStreams timestamp elapsedTime stack =>
    simp only [byteStep, bind_eq_ok, pure_eq_ok, Except.ok.injEq, Prod.mk.injEq, Prod.exists] at done
    obtain ⟨_, _, -, _, _, written, -, rfl⟩ := done
    exact wrote written
  | call call =>
    simp only [byteStep, bind_eq_ok, pure_eq_ok, Except.ok.injEq, Prod.mk.injEq, Prod.exists] at done
    obtain ⟨_, _, -, _, _, written, -, rfl⟩ := done
    exact wrote written
  | clientByte stack =>
    cases line : bytes.toClient with
    | nil =>
      simp only [byteStep, line, pure_eq_ok, Except.ok.injEq, Prod.mk.injEq] at done
      obtain ⟨-, rfl⟩ := done
      exact nothing
    | cons symbol rest =>
      simp only [byteStep, line, bind_eq_ok, Prod.exists] at done
      obtain ⟨vehicle, handled, -, done⟩ := done
      cases handled with
      | none =>
        cases done
        exact nothing
      | some handled =>
        simp only [bind_eq_ok, pure_eq_ok, Except.ok.injEq, Prod.mk.injEq, Prod.exists] at done
        obtain ⟨_, _, _, -, _, _, written, -, rfl⟩ := done
        exact wrote written
  | hostByte unset =>
    cases line : bytes.toHost with
    | nil =>
      simp only [byteStep, line, pure_eq_ok, Except.ok.injEq, Prod.mk.injEq] at done
      obtain ⟨-, rfl⟩ := done
      exact nothing
    | cons symbol rest =>
      simp only [byteStep, line, bind_eq_ok, Prod.exists] at done
      obtain ⟨server, handled, -, done⟩ := done
      cases handled with
      | none =>
        cases done
        exact nothing
      | some handled =>
        simp only [bind_eq_ok, pure_eq_ok, Except.ok.injEq, Prod.mk.injEq, Prod.exists] at done
        obtain ⟨_, _, -, _, _, written, -, rfl⟩ := done
        exact wrote written

theorem byteStep_fits {callbacks : StcpCallbacks} {bytes bytes' : ByteLink σ} {action : ByteAction}
    {event : ByteEvent} (done : byteStep callbacks bytes action = .ok (bytes', event))
    (short : ∀ message ∈ event.written, message.length ≤ 65535) : event.Writes Fits := by
  obtain ⟨buffers, ⟨final, frames⟩, wrote⟩ := byteStep_written done
  exact run_writePayload_fits wrote short

section Step
variable {Allowed : List UInt8 → Prop} {callbacks : StcpCallbacks} {bytes bytes' : ByteLink σ}
  {framed : FramedLink σ} {event : ByteEvent}

theorem clientRefuses (client : SppClientEngine σ) {message : List UInt8} (fits : Fits message)
    (trailing : List UInt8) (stack : Stack) :
    sppClientProcessMessage client (led true message ++ trailing) (UInt16.ofNat (led true message).length) stack =
      .ok (client, [], refusal (message.length + 1) (sppMsgHdrSize client.addressLength)) := by
  have count : (UInt16.ofNat (led true message).length).toNat = message.length + 1 :=
    toNat_ofNat16 (Nat.lt_trans (length_led_lt true fits) (by decide))
  simp only [sppClientProcessMessage, count, refusal]
  split
  case isTrue => rfl
  case isFalse long =>
    cases message with
    | nil =>
      rw [sppMsgHdrSize, List.length_nil] at long
      omega
    | cons second rest => rfl

theorem hostRefuses (host : SppHostEngine) {message : List UInt8} (fits : Fits message)
    (trailing : List UInt8) (unset : Nat) :
    sppHostProcessMessage host (led true message ++ trailing) (UInt16.ofNat (led true message).length) unset =
      .ok (host, [], refusal (message.length + 1) (host.addressLength.toNat * 2 + 2)) := by
  have count : (UInt16.ofNat (led true message).length).toNat = message.length + 1 :=
    toNat_ofNat16 (Nat.lt_trans (length_led_lt true fits) (by decide))
  simp only [sppHostProcessMessage, count, refusal]
  split
  case isTrue => rfl
  case isFalse => rfl

variable (fits : ∀ message, Allowed message → Fits message)
include fits

theorem writeAll_eq_ok {n : Nat} {listener listener' : Listener n} {messages : List (List UInt8)} {written : List UInt8}
    (allowed : ∀ message ∈ messages, Allowed message)
    (done : writeAll callbacks listener messages = .ok (listener', written)) :
    ∃ buffers, listener' = { listener with buffers } ∧ written = (messages.map (frame stcpMarks)).flatten := by
  obtain ⟨buffers, wrote⟩ := writeAll_spec callbacks listener
    fun message member => fits message (allowed message member)
  obtain ⟨rfl, rfl⟩ := Prod.mk.inj (Except.ok.inj (wrote.symm.trans done))
  exact ⟨buffers, rfl, rfl⟩

theorem Represents.start (represents : Represents Allowed bytes framed) {stack : Stack}
    (done : byteStep callbacks bytes (.start stack) = .ok (bytes', event)) (allowed : event.Writes Allowed) :
    Stutters framedStep (Represents Allowed) framed bytes' (some (.link (.start stack))) event.event := by
  simp only [byteStep, bind_eq_ok, pure_eq_ok, Except.ok.injEq, Prod.mk.injEq, Prod.exists] at done
  obtain ⟨message, started, vehicle, written, wrote, rfl, rfl⟩ := done
  obtain ⟨buffers, rfl, rfl⟩ := writeAll_eq_ok fits allowed wrote
  refine ⟨⟨{ framed.link with toHost := framed.link.toHost ++ [message] }, framed.losesClient, framed.losesHost⟩,
    .link .started, ?_, rfl, represents.host, represents.client, represents.toClient.withBuffers buffers,
    represents.toHost.write allowed⟩
  rw [represents.client] at started
  simp only [framedStep, trafficStep, linkStep, started, ok_bind, pure_eq_ok]

theorem Represents.processStreams (represents : Represents Allowed bytes framed) {timestamp elapsedTime : UInt32}
    {stack : Stack}
    (done : byteStep callbacks bytes (.processStreams timestamp elapsedTime stack) = .ok (bytes', event))
    (allowed : event.Writes Allowed) :
    Stutters framedStep (Represents Allowed) framed bytes' (some (.processStreams timestamp elapsedTime stack))
      event.event := by
  simp only [byteStep, bind_eq_ok, pure_eq_ok, Except.ok.injEq, Prod.mk.injEq, Prod.exists] at done
  obtain ⟨client, sent, processed, vehicle, written, wrote, rfl, rfl⟩ := done
  obtain ⟨buffers, rfl, rfl⟩ := writeAll_eq_ok fits allowed wrote
  refine ⟨⟨{ framed.link with client, toHost := framed.link.toHost ++ sent }, framed.losesClient, framed.losesHost⟩,
    .processed sent, ?_, rfl, represents.host, rfl, represents.toClient.withBuffers buffers,
    represents.toHost.write allowed⟩
  rw [represents.client] at processed
  simp only [framedStep, trafficStep, processed, ok_bind, pure_eq_ok]

theorem Represents.call (represents : Represents Allowed bytes framed) {call : HostCall}
    (done : byteStep callbacks bytes (.call call) = .ok (bytes', event)) (allowed : event.Writes Allowed) :
    Stutters framedStep (Represents Allowed) framed bytes' (some (.link (.call call))) event.event := by
  simp only [byteStep, bind_eq_ok, pure_eq_ok, Except.ok.injEq, Prod.mk.injEq, Prod.exists] at done
  obtain ⟨host, hostEvent, called, server, written, wrote, rfl, rfl⟩ := done
  obtain ⟨buffers, rfl, rfl⟩ := writeAll_eq_ok fits allowed wrote
  refine ⟨⟨{ framed.link with host, toClient := framed.link.toClient ++ sentMessages hostEvent.effects },
    framed.losesClient, framed.losesHost⟩, .link (.host hostEvent), ?_, rfl, rfl, represents.client,
    represents.toClient.write allowed, represents.toHost.withBuffers buffers⟩
  rw [represents.host] at called
  simp only [framedStep, trafficStep, linkStep, called, ok_bind, pure_eq_ok]

theorem Represents.clientByte (represents : Represents Allowed bytes framed) {stack : Stack}
    (done : byteStep callbacks bytes (.clientByte stack) = .ok (bytes', event)) (allowed : event.Writes Allowed) :
    Stutters framedStep (Represents Allowed) framed bytes' none event.event ∨
      ∃ trailing, Stutters framedStep (Represents Allowed) framed bytes' (some (.link (.clientReceive trailing stack)))
        event.event := by
  cases line : bytes.toClient with
  | nil =>
    simp only [byteStep, line, pure_eq_ok, Except.ok.injEq, Prod.mk.injEq] at done
    obtain ⟨rfl, rfl⟩ := done
    exact .inl ⟨rfl, represents⟩
  | cons symbol rest =>
    have transit := represents.toClient
    have allowedHere := transit.allowed
    rw [line] at transit
    rcases transit.byte fits callbacks (by decide) with ⟨vehicle, heard, transit⟩ | handed
    · simp only [byteStep, line, heard, ok_bind, pure_eq_ok, Except.ok.injEq, Prod.mk.injEq] at done
      obtain ⟨rfl, rfl⟩ := done
      exact .inl ⟨rfl, represents.host, represents.client, transit, represents.toHost⟩
    · obtain ⟨payload, others, vehicle, trailing, first, heard, transit⟩ := handed
      simp only [byteStep, line, heard, ok_bind, bind_eq_ok, pure_eq_ok, Except.ok.injEq, Prod.mk.injEq,
        Prod.exists] at done
      obtain ⟨client, sent, status, processed, vehicle', written, wrote, rfl, rfl⟩ := done
      obtain ⟨buffers, rfl, rfl⟩ := writeAll_eq_ok fits allowed wrote
      rw [represents.client] at processed
      have small : Fits payload := fits payload (allowedHere payload (first ▸ List.mem_cons_self))
      refine .inr ⟨trailing, ⟨{ framed.link with
          client, toClient := others, toHost := framed.link.toHost ++ sent },
        endsInFooter stcpMarks payload, framed.losesHost⟩, .link (.client sent status), ?_, rfl, represents.host, rfl,
        transit.withBuffers buffers, represents.toHost.write allowed⟩
      cases lost : framed.losesClient with
      | false =>
        rw [lost] at processed
        have received := link_clientReceive first processed
        simp only [framedStep, first, lost, received, ok_bind, pure_eq_ok]
        rfl
      | true =>
        rw [lost, clientRefuses framed.link.client small trailing stack] at processed
        cases processed
        simp only [framedStep, first, lost, if_true, pure_eq_ok, List.append_nil]

theorem Represents.hostByte (represents : Represents Allowed bytes framed) {unset : Nat}
    (done : byteStep callbacks bytes (.hostByte unset) = .ok (bytes', event)) (allowed : event.Writes Allowed) :
    Stutters framedStep (Represents Allowed) framed bytes' none event.event ∨
      ∃ trailing, Stutters framedStep (Represents Allowed) framed bytes' (some (.link (.hostReceive trailing unset)))
        event.event := by
  cases line : bytes.toHost with
  | nil =>
    simp only [byteStep, line, pure_eq_ok, Except.ok.injEq, Prod.mk.injEq] at done
    obtain ⟨rfl, rfl⟩ := done
    exact .inl ⟨rfl, represents⟩
  | cons symbol rest =>
    have transit := represents.toHost
    have allowedHere := transit.allowed
    rw [line] at transit
    -- the byte is buffered, or ends the first message of the queue
    rcases transit.byte fits callbacks (by decide) with ⟨server, heard, transit⟩ | handed
    · simp only [byteStep, line, heard, ok_bind, pure_eq_ok, Except.ok.injEq, Prod.mk.injEq] at done
      obtain ⟨rfl, rfl⟩ := done
      exact .inl ⟨rfl, represents.host, represents.client, represents.toClient, transit⟩
    · obtain ⟨payload, others, server, trailing, first, heard, transit⟩ := handed
      simp only [byteStep, line, heard, ok_bind, bind_eq_ok, pure_eq_ok, Except.ok.injEq, Prod.mk.injEq,
        Prod.exists] at done
      obtain ⟨host, hostEvent, called, server', written, wrote, rfl, rfl⟩ := done
      obtain ⟨buffers, rfl, rfl⟩ := writeAll_eq_ok fits allowed wrote
      obtain ⟨call, effects, status⟩ := hostEvent
      obtain ⟨performed, same⟩ := hostCall_eq_ok.mp called
      obtain rfl : call = _ := same
      rw [represents.host] at performed
      have small : Fits payload := fits payload (allowedHere payload (first ▸ List.mem_cons_self))
      refine .inr ⟨trailing, ⟨{ framed.link with
          host, toHost := others, toClient := framed.link.toClient ++ sentMessages effects },
        framed.losesClient, endsInFooter stcpMarks payload⟩, .link (.host ⟨_, effects, status⟩), ?_, rfl, rfl,
        represents.client, represents.toClient.write allowed, transit.withBuffers buffers⟩
      -- a message that reaches the engine with the header in front is refused there
      cases lost : framed.losesHost with
      | false =>
        rw [lost] at performed
        have received := link_hostReceive first performed
        simp only [framedStep, first, lost, received, ok_bind, pure_eq_ok]
        rfl
      | true =>
        rw [lost] at performed
        have refused := performed.symm.trans (hostRefuses framed.link.host small trailing unset)
        obtain ⟨rfl, rest⟩ := Prod.mk.inj (Except.ok.inj refused)
        obtain ⟨rfl, rfl⟩ := Prod.mk.inj rest
        have nothing : framed.link.toClient ++ sentMessages [] = framed.link.toClient := List.append_nil _
        simp only [framedStep, first, lost, if_true, pure_eq_ok, nothing]
        rfl

theorem Represents.step (represents : Represents Allowed bytes framed) {action : ByteAction}
    (done : byteStep callbacks bytes action = .ok (bytes', event)) (allowed : event.Writes Allowed) :
    ∃ abstract, action.Abstracts abstract ∧
      Stutters framedStep (Represents Allowed) framed bytes' abstract event.event := by
  cases action with
  | start stack => exact ⟨_, .start stack, represents.start fits done allowed⟩
  | processStreams timestamp elapsedTime stack =>
    exact ⟨_, .processStreams timestamp elapsedTime stack, represents.processStreams fits done allowed⟩
  | call call => exact ⟨_, .call call, represents.call fits done allowed⟩
  | clientByte stack =>
    rcases represents.clientByte fits done allowed with silent | ⟨trailing, received⟩
    · exact ⟨_, .clientByte stack, silent⟩
    · exact ⟨_, .clientReceive trailing stack, received⟩
  | hostByte unset =>
    rcases represents.hostByte fits done allowed with silent | ⟨trailing, received⟩
    · exact ⟨_, .hostByte unset, silent⟩
    · exact ⟨_, .hostReceive trailing unset, received⟩

end Step

/-- What happens over the serial lines, in any order of the bytes, happens in a link that loses a message when the one
in front of it ends in the footer byte, and no other. Messages are given to `StcpWrite` with a length of 16 bits. -/
theorem byteLink_refines {callbacks : StcpCallbacks} {bytes bytes' : ByteLink σ} {framed : FramedLink σ}
    (represents : Represents Fits bytes framed) {actions : List ByteAction} {events : List ByteEvent}
    (done : run (byteStep callbacks) bytes actions = .ok (bytes', events))
    (short : ∀ event ∈ events, ∀ message ∈ event.written, message.length ≤ 65535) :
    ∃ abstract framed', List.Forall₂ ByteAction.Abstracts actions abstract ∧
      run framedStep framed abstract.reduceOption = .ok (framed', events.filterMap ByteEvent.event) ∧
      Represents Fits bytes' framed' :=
  run_stutters (Represents Fits) ByteAction.Abstracts ByteEvent.event
    (fun _ _ _ _ _ represents done short => represents.step (fun _ => id) done (byteStep_fits done short)) represents
    done short

def idleListener (n : Nat) : Listener n := ⟨⟨.replicate _ 0, .replicate _ 0⟩, .replicate _ 0, 0⟩

def setupBytes : ByteLink PropertyValues :=
  ⟨sppHostEngineInit setupParams staticHost, sppClientEngineInit setupClientParams staticClient, idleListener 512,
    idleListener 256, [], []⟩

/-- The request of the client to be connected, up to the response of the host. -/
theorem byteLink_refines_start :
    ∃ bytes' events abstract framed',
      run (byteStep ⟨fun _ => 0, fun _ _ => 0⟩) setupBytes ((.start fun _ _ => 0) :: .replicate 9 (.hostByte 0)) =
        .ok (bytes', events) ∧
      List.Forall₂ ByteAction.Abstracts ((.start fun _ _ => 0) :: .replicate 9 (.hostByte 0)) abstract ∧
      run framedStep ⟨⟨setupBytes.host, setupBytes.client, [], []⟩, false, false⟩ abstract.reduceOption =
        .ok (framed', events.filterMap ByteEvent.event) ∧
      Represents Fits bytes' framed' := by
  obtain ⟨bytes', events, done, checked⟩ := run_checked (byteStep ⟨fun _ => 0, fun _ _ => 0⟩) setupBytes
    ((.start fun _ _ => 0) :: .replicate 9 (.hostByte 0))
    (fun _ events => events.all fun event =>
      event.written.all fun message => decide (message.length ≤ 65535)) (by decide +kernel)
  have short : ∀ event ∈ events, ∀ message ∈ event.written, message.length ≤ 65535 := by
    intro event member message written
    exact of_decide_eq_true (List.all_eq_true.mp (List.all_eq_true.mp checked event member) message written)
  have represents : Represents Fits setupBytes ⟨⟨setupBytes.host, setupBytes.client, [], []⟩, false, false⟩ :=
    ⟨rfl, rfl, inTransit_idle Fits rfl, inTransit_idle Fits rfl⟩
  obtain ⟨abstract, framed', stands, framed, represents'⟩ := byteLink_refines represents done short
  exact ⟨bytes', events, abstract, framed', done, stands, framed, represents'⟩

end TvcHopper.Spp
