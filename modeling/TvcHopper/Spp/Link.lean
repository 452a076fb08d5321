import TvcHopper.Spp.Client
import TvcHopper.Spp.HostRun

/-! A host and a client joined by two reliable channels.

Each channel delivers every message once and in order. A receiver is given the
message, its length, and whatever memory happens to follow it.
-/

set_option autoImplicit false

namespace TvcHopper.Spp
open Machine

variable {σ : Type}

structure Link (σ : Type) where
  host : SppHostEngine
  client : SppClientEngine σ
  toClient : List (List UInt8)
  toHost : List (List UInt8)

inductive LinkAction where
  | start (stack : Stack)
  | call (call : HostCall)
  | clientReceive (trailing : List UInt8) (stack : Stack)
  | hostReceive (trailing : List UInt8) (unset : Nat)

inductive LinkEvent where
  | started
  | host (event : HostEvent)
  | client (sent : List (List UInt8)) (status : SppStatus)
  | idle
  deriving DecidableEq, Repr

def sentMessages (effects : List HostEffect) : List (List UInt8) :=
  effects.filterMap fun
    | .sendMessage message => some message
    | _ => none

def messageSize16 (message : List UInt8) : UInt16 := UInt16.ofNat message.length

/-- Nothing happens when a channel is empty. -/
def linkStep (link : Link σ) : LinkAction → Except Fault (Link σ × LinkEvent)
  | .start stack => do
    let message ← sppClientStart link.client stack
    return ({ link with toHost := link.toHost ++ [message] }, .started)
  | .call call => do
    let (host, event) ← hostCall link.host call
    return ({ link with host, toClient := link.toClient ++ sentMessages event.effects }, .host event)
  | .clientReceive trailing stack =>
    match link.toClient with
    | [] => return (link, .idle)
    | message :: rest => do
      let (client, sent, status) ←
        sppClientProcessMessage link.client (message ++ trailing) (messageSize16 message) stack
      return ({ link with client, toClient := rest, toHost := link.toHost ++ sent }, .client sent status)
  | .hostReceive trailing unset =>
    match link.toHost with
    | [] => return (link, .idle)
    | message :: rest => do
      let (host, event) ←
        hostCall link.host (.processMessage (message ++ trailing) (messageSize16 message) unset)
      return ({ link with host, toHost := rest, toClient := link.toClient ++ sentMessages event.effects },
        .host event)

def LinkAction.isDelivery : LinkAction → Bool
  | .clientReceive .. | .hostReceive .. => true
  | _ => false

def LinkEvent.isReceipt : LinkEvent → Bool
  | .client .. => true
  | .host ⟨.processMessage .., _, _⟩ => true
  | _ => false

def receipts (events : List LinkEvent) : Nat := events.countP (·.isReceipt)

theorem receipts_append (first rest : List LinkEvent) :
    receipts (first ++ rest) = receipts first + receipts rest := List.countP_append

/-! ## Calls of `SppProcessStreams` in between -/

inductive StreamAction where
  | link (action : LinkAction)
  | processStreams (timestamp elapsedTime : UInt32) (stack : Stack)

inductive StreamEvent where
  | link (event : LinkEvent)
  | processed (sent : List (List UInt8))

def StreamEvent.linkEvent : StreamEvent → Option LinkEvent
  | .link event => some event
  | .processed _ => none

def trafficStep (link : Link σ) : StreamAction → Except Fault (Link σ × StreamEvent)
  | .link action => do
    let (link, event) ← linkStep link action
    return (link, .link event)
  | .processStreams timestamp elapsedTime stack => do
    let (client, sent) ← sppProcessStreams link.client timestamp elapsedTime stack
    return ({ link with client, toHost := link.toHost ++ sent }, .processed sent)

theorem traffic_link {link link' : Link σ} {action : LinkAction} {event : LinkEvent}
    (done : linkStep link action = .ok (link', event)) :
    trafficStep link (.link action) = .ok (link', .link event) := by
  rw [trafficStep, done]
  rfl

theorem traffic_link_inv {link link' : Link σ} {action : LinkAction} {event : StreamEvent}
    (done : trafficStep link (.link action) = .ok (link', event)) :
    ∃ event', linkStep link action = .ok (link', event') ∧ event = .link event' := by
  simp only [trafficStep, bind_eq_ok, pure_eq_ok, Except.ok.injEq, Prod.mk.injEq, Prod.exists] at done
  obtain ⟨_, event', stepped, rfl, rfl⟩ := done
  exact ⟨event', stepped, rfl⟩

def Link.Drained (link : Link σ) : Prop := link.toClient = [] ∧ link.toHost = []

/-! ## One step, from what the engine does -/

section Steps
variable {link : Link σ}

theorem link_call {call : HostCall} {host : SppHostEngine} {effects : List HostEffect} {status : SppStatus}
    (performed : perform link.host call = .ok (host, effects, status)) :
    linkStep link (.call call) =
      .ok ({ link with host, toClient := link.toClient ++ sentMessages effects },
        .host ⟨call, effects, status⟩) := by
  have called : hostCall link.host call = .ok (host, ⟨call, effects, status⟩) :=
    hostCall_eq_ok.mpr ⟨performed, rfl⟩
  rw [linkStep, called]
  rfl

theorem link_hostReceive {message trailing : List UInt8} {rest : List (List UInt8)} {unset : Nat}
    {host : SppHostEngine} {effects : List HostEffect} {status : SppStatus} (first : link.toHost = message :: rest)
    (processed : sppHostProcessMessage link.host (message ++ trailing) (messageSize16 message) unset =
      .ok (host, effects, status)) :
    linkStep link (.hostReceive trailing unset) =
      .ok ({ link with host, toHost := rest, toClient := link.toClient ++ sentMessages effects },
        .host ⟨.processMessage (message ++ trailing) (messageSize16 message) unset, effects, status⟩) := by
  have called : hostCall link.host (.processMessage (message ++ trailing) (messageSize16 message) unset) =
      .ok (host, ⟨.processMessage (message ++ trailing) (messageSize16 message) unset, effects, status⟩) :=
    hostCall_eq_ok.mpr ⟨processed, rfl⟩
  simp only [linkStep, first, called, ok_bind, pure_eq_ok]

theorem link_clientReceive {message trailing : List UInt8} {rest : List (List UInt8)} {stack : Stack}
    {client : SppClientEngine σ} {sent : List (List UInt8)} {status : SppStatus}
    (first : link.toClient = message :: rest)
    (processed : sppClientProcessMessage link.client (message ++ trailing) (messageSize16 message) stack =
      .ok (client, sent, status)) :
    linkStep link (.clientReceive trailing stack) =
      .ok ({ link with client, toClient := rest, toHost := link.toHost ++ sent }, .client sent status) := by
  simp only [linkStep, first, processed, ok_bind, pure_eq_ok]

theorem link_hostReceive_fault {message trailing : List UInt8} {rest : List (List UInt8)} {unset : Nat} {fault : Fault}
    (first : link.toHost = message :: rest)
    (processed : sppHostProcessMessage link.host (message ++ trailing) (messageSize16 message) unset = .error fault) :
    linkStep link (.hostReceive trailing unset) = .error fault := by
  have called : hostCall link.host (.processMessage (message ++ trailing) (messageSize16 message) unset) =
      .error fault := by
    rw [hostCall, perform, processed]
    rfl
  simp only [linkStep, first, called]
  rfl

theorem link_hostReceive_idle {trailing : List UInt8} {unset : Nat} (empty : link.toHost = []) :
    linkStep link (.hostReceive trailing unset) = .ok (link, .idle) := by
  simp only [linkStep, empty, pure_eq_ok]

theorem link_clientReceive_idle {trailing : List UInt8} {stack : Stack} (empty : link.toClient = []) :
    linkStep link (.clientReceive trailing stack) = .ok (link, .idle) := by
  simp only [linkStep, empty, pure_eq_ok]

theorem link_clientReceive_rest {message trailing : List UInt8} {rest : List (List UInt8)} {stack : Stack}
    {link' : Link σ} {event : LinkEvent} (first : link.toClient = message :: rest)
    (done : linkStep link (.clientReceive trailing stack) = .ok (link', event)) : link'.toClient = rest := by
  simp only [linkStep, first, bind_eq_ok, pure_eq_ok, Except.ok.injEq, Prod.mk.injEq, Prod.exists] at done
  obtain ⟨_, _, _, -, rfl, -⟩ := done
  rfl

theorem link_hostReceive_rest {message trailing : List UInt8} {rest : List (List UInt8)} {unset : Nat}
    {link' : Link σ} {event : LinkEvent} (first : link.toHost = message :: rest)
    (done : linkStep link (.hostReceive trailing unset) = .ok (link', event)) : link'.toHost = rest := by
  simp only [linkStep, first, bind_eq_ok, pure_eq_ok, Except.ok.injEq, Prod.mk.injEq, Prod.exists] at done
  obtain ⟨_, _, -, rfl, -⟩ := done
  rfl

end Steps

end TvcHopper.Spp
