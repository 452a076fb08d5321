import TvcHopper.Spp.Directory

/-! One client connects at a time, for addresses of every length.

A host that is connecting turns every connect request down. Which client it is
connecting to it does not remember: it takes definitions from everyone, and the
first one without a successor ends the connecting.
-/

set_option autoImplicit false

namespace TvcHopper.Spp
open Machine

/-- The message id of a received message that passes the header checks. -/
def HostCall.msgId (addressLength : UInt8) (call : HostCall) : Option UInt8 :=
  (call.header addressLength).map (·.1)

/-- The first address of such a message, where every client puts its own. -/
def HostCall.sender (addressLength : UInt8) : HostCall → Option (List UInt8)
  | call@(.processMessage message _ _) =>
    (call.header addressLength).map fun _ => (message.drop 2).take addressLength.toNat
  | _ => none

/-- The answer to a request is a message that ends with this status. -/
def Answers (effects : List HostEffect) (status : SppStatus) : Prop :=
  ∃ message, effects = [.sendMessage message] ∧ message.getLast? = some status

/-- Connect requests are turned down without effect, and messages that are not from the client leave the
connection state and the definitions alone. -/
def Exclusive (client : List UInt8) (host : SppHostEngine) (call : HostCall) : Prop :=
  ∀ host' event, hostCall host call = .ok (host', event) →
    (call.msgId host.addressLength = some sppMsgConnectRequestBcId →
      host' = host ∧ event.status = sppStatusOk ∧ Answers event.effects sppStatusBusy) ∧
    ∀ sender, call.sender host.addressLength = some sender → sender ≠ client →
      host'.state = host.state ∧ host'.defsBufferUsed = host.defsBufferUsed ∧
        host'.propertyCount = host.propertyCount

def DefinedBy (client : List UInt8) (host : SppHostEngine) (call : HostCall) : Prop :=
  ∀ received, call.definition host.addressLength = some received → call.sender host.addressLength = some client

def HostCall.finishes (addressLength : UInt8) (client : List UInt8) (call : HostCall) : Prop :=
  call.sender addressLength = some client ∧
    ∃ received, call.definition addressLength = some received ∧ received.body[1]? = some 0

/-- A connect request of the client is answered with status OK. -/
structure Accepts (host connected : SppHostEngine) (client : List UInt8) (request : HostCall) : Prop where
  asks : request.msgId host.addressLength = some sppMsgConnectRequestBcId
  sender : request.sender host.addressLength = some client
  answered : ∃ event, hostCall host request = .ok (connected, event) ∧ Answers event.effects sppStatusOk

section Steps
variable {host host' : SppHostEngine} {call : HostCall} {event : HostEvent} {client : List UInt8}

theorem sender_read {addressLength : UInt8} {message : List UInt8} {len : UInt16} {msgId : UInt8} {sender : List UInt8}
    (read : readHeader addressLength message len = .ok (.ok (msgId, sender))) (unset : Nat) :
    (HostCall.processMessage message len unset).sender addressLength =
      some ((message.drop 2).take addressLength.toNat) := by
  simp only [HostCall.sender, header_read read, Option.map_some]

inductive ConnectOutcome (host host' : SppHostEngine) (event : HostEvent) : Prop where
  | busy (notReady : host.state ≠ .ready) (same : host' = host) (ok : event.status = sppStatusOk)
      (answer : Answers event.effects sppStatusBusy)
  | connected (client : SppAddress) (ready : host.state = .ready)
      (connects : sppConnectToClient { host with state := .connecting } client = .ok (host', event.effects))

theorem connectRequest_outcome (asks : call.msgId host.addressLength = some sppMsgConnectRequestBcId)
    (done : hostCall host call = .ok (host', event)) : ConnectOutcome host host' event := by
  obtain ⟨performed, -⟩ := hostCall_eq_ok.mp done
  have known {msgId : UInt8} {sender message : List UInt8} {len : UInt16} {unset : Nat}
      (asks : (HostCall.processMessage message len unset).msgId host.addressLength = some sppMsgConnectRequestBcId)
      (read : readHeader host.addressLength message len = .ok (.ok (msgId, sender))) :
      msgId = sppMsgConnectRequestBcId := by
    simpa [HostCall.msgId, header_read read] using asks
  cases call with
  | processMessage message len unset =>
    cases message_outcome performed with
    | busy sender header notReady same answer ok =>
      simp only [sppSendConnectBusyResponse, bind_eq_ok, pure_eq_ok, Except.ok.injEq] at answer
      obtain ⟨_, _, answer⟩ := answer
      exact .busy notReady same ok ⟨_, answer.symm, List.getLast?_concat⟩
    | connected sender propertyListId header ready listId connects ok => exact .connected _ ready connects
    -- the other messages have other ids
    | refused header same silent => simp [HostCall.msgId, HostCall.header, header] at asks
    | announced _ header _ _ => exact absurd (known asks header) (by decide)
    | defined _ header _ _ _ => exact absurd (known asks header) (by decide)
    | streamed _ header _ => exact absurd (known asks header) (by decide)
    | answered msgId _ _ header isResponse _ _ _ =>
      rw [known asks header] at isResponse
      cases isResponse
    | unknown msgId _ header other _ _ _ =>
      rw [known asks header] at other
      simp at other
  | _ => cases asks

theorem accepted_connecting (asks : call.msgId host.addressLength = some sppMsgConnectRequestBcId)
    (done : hostCall host call = .ok (host', event)) (accepted : Answers event.effects sppStatusOk) :
    host'.state = .connecting ∧ host'.addressLength = host.addressLength := by
  obtain ⟨message, sent, last⟩ := accepted
  cases connectRequest_outcome asks done with
  | busy notReady same ok answer =>
    -- the answer of a busy host ends differently
    obtain ⟨other, busy, end'⟩ := answer
    rw [sent] at busy
    cases busy
    rw [last] at end'
    exact absurd (Option.some.inj end') (by decide)
  | connected client ready connects =>
    obtain ⟨added, client', _, status, add, -, looped, effects⟩ := sppConnectToClient_outcome connects
    rw [sent] at effects
    cases effects
    have okay : status = sppStatusOk := by simpa using last
    cases looped with
    | alone none same kept =>
      have frame := add.frame.addressLength
      subst same
      cases add with
      | known _ _ same _ => exact ⟨by rw [same], frame⟩
      | new _ _ _ _ _ _ _ _ _ added => exact ⟨by rw [added], frame⟩
    | duplicate _ _ _ _ _ _ _ _ marked =>
      rw [okay] at marked
      exact absurd marked (by decide)

theorem connects_connecting (connecting : host.state = .connecting)
    (indirect : ∀ other, call ≠ .connectToClient other) : call.connects host = none := by
  cases call with
  | connectToClient other => exact absurd rfl (indirect other)
  | processMessage message len unset =>
    unfold HostCall.connects
    simp only [connecting, reduceCtorEq, and_false, if_false]
    cases (HostCall.processMessage message len unset).header host.addressLength with
    | none => rfl
    | some header =>
      obtain ⟨msgId, sender⟩ := header
      dsimp only
      cases load16 message (sppMsgHdrSize host.addressLength) <;> rfl
  | _ => rfl

theorem exclusive_iff (connecting : host.state = .connecting) (indirect : ∀ other, call ≠ .connectToClient other)
    (done : hostCall host call = .ok (host', event)) : Exclusive client host call ↔ DefinedBy client host call := by
  constructor
  · intro exclusive received definition
    obtain ⟨-, alone⟩ := exclusive host' event done
    obtain ⟨message, len, rfl, read, -, -⟩ := definition_eq_some definition
    have sender := sender_read read received.unset
    rw [sender]
    by_contra other
    -- a definition takes an entry of the buffer
    have used := (alone _ sender fun same => other (congrArg some same)).2.1
    rw [hostCall_definition definition, bind_eq_ok] at done
    obtain ⟨_, unpacked, done⟩ := done
    cases done
    obtain ⟨-, -, _, _, _, _, -, -, -, rfl⟩ := sppUnpackPropDef_outcome unpacked
    exact next_ne _ used
  · rintro own other otherEvent otherDone
    rw [done] at otherDone
    cases otherDone
    refine ⟨fun asks => ?_, fun sender from' apart => ?_⟩
    · cases connectRequest_outcome asks done with
      | busy notReady same ok answer => exact ⟨same, ok, answer⟩
      | connected client ready connects =>
        rw [connecting] at ready
        cases ready
    · cases directory_outcome done with
      | kept silent same notDefinition =>
        exact ⟨congrArg Directory.state same, congrArg Directory.defsBufferUsed same,
          congrArg Directory.propertyCount same⟩
      | connected state other effects connects notDefinition done =>
        rw [connects_connecting connecting indirect] at connects
        cases connects
      | defined received definition silent unpacked =>
        rw [own received definition] at from'
        exact absurd (Option.some.inj from').symm apart

theorem connecting_step (connecting : host.state = .connecting) (indirect : ∀ other, call ≠ .connectToClient other)
    (unfinished : ¬call.finishes host.addressLength client) (own : DefinedBy client host call)
    (done : hostCall host call = .ok (host', event)) :
    host'.state = .connecting ∧ host'.addressLength = host.addressLength := by
  cases directory_outcome done with
  | kept silent same notDefinition =>
    have state : host'.state = host.state := congrArg Directory.state same
    exact ⟨state.trans connecting, congrArg Directory.addressLength same⟩
  | connected state other effects connects notDefinition done =>
    rw [connects_connecting connecting indirect] at connects
    cases connects
  | defined received definition silent unpacked =>
    obtain ⟨-, -, _, _, copy, remaining, -, second, -, rfl⟩ := sppUnpackPropDef_outcome unpacked
    have more : remaining ≠ 0 := by
      rintro rfl
      exact unfinished ⟨own received definition, received, definition, second⟩
    refine ⟨?_, rfl⟩
    rw [withDefinition, if_neg more, connecting]

end Steps

/-- From the accepted connect request of a client to its last definition, connecting is exclusive exactly
when every definition that comes in is the client's. -/
theorem connecting_exclusive_iff {host connected : SppHostEngine} {client : List UInt8} {request : HostCall}
    (accepts : Accepts host connected client request) (calls : List HostCall)
    (indirect : ∀ call ∈ calls, ∀ other, call ≠ .connectToClient other)
    (unfinished : ∀ call ∈ calls, ¬call.finishes host.addressLength client) :
    EveryStep hostCall (Exclusive client) connected calls ↔ EveryStep hostCall (DefinedBy client) connected calls := by
  let Connecting (state : SppHostEngine) : Prop :=
    state.state = .connecting ∧ state.addressLength = host.addressLength
  let Occurs (call : HostCall) : Prop :=
    (∀ other, call ≠ .connectToClient other) ∧ ¬call.finishes host.addressLength client
  obtain ⟨event, answered, accepted⟩ := accepts.answered
  have start : Connecting connected := accepted_connecting accepts.asks answered accepted
  have exact_step : ∀ state call next output, Connecting state → Occurs call →
      hostCall state call = .ok (next, output) → (Exclusive client state call ↔ DefinedBy client state call) :=
    fun _ _ _ _ connecting occurs done => exclusive_iff connecting.1 occurs.1 done
  have preserved : ∀ state call next output, Connecting state → Occurs call → DefinedBy client state call →
      hostCall state call = .ok (next, output) → Connecting next := by
    rintro state call next output ⟨connecting, length⟩ ⟨indirect, unfinished⟩ own done
    obtain ⟨still, same⟩ := connecting_step connecting indirect (length.symm ▸ unfinished) own done
    exact ⟨still, same.trans length⟩
  exact everyStep_iff exact_step preserved start fun call member => ⟨indirect call member, unfinished call member⟩

/-- Client 0x44 connects, and client 0x45, which is not in the table, sends a definition. -/
def connectRequest : HostCall := .processMessage [0xCD, 0xA0, 0x44, 0x00, 0xD1, 0x00] 6 0

def otherDefinition : HostCall :=
  .processMessage [0xCD, 0xA5, 0x45, 0x1D, 1, 0, 0x0E, 0x00, 2, 0, 0x70, 0x00] 12 0

theorem connectRequest_accepted :
    ∃ connected, Accepts (sppHostEngineInit setupParams staticHost) connected [0x44] connectRequest ∧
      connected.state = .connecting ∧ connected.defsBufferUsed = 0 :=
  ⟨_, ⟨rfl, rfl, _, rfl, _, rfl, rfl⟩, rfl, rfl⟩

theorem otherDefinition_unfinished :
    (∀ call ∈ [otherDefinition], ∀ other, call ≠ .connectToClient other) ∧
      ∀ call ∈ [otherDefinition], ¬call.finishes 1 [0x44] := by
  refine ⟨by simp [otherDefinition], ?_⟩
  intro call member
  obtain rfl := List.mem_singleton.mp member
  rintro ⟨sender, -⟩
  exact absurd sender (by decide)

theorem connecting_exclusive_setup : ∃ connected,
    EveryStep hostCall (Exclusive [0x44]) connected [otherDefinition] ↔
      EveryStep hostCall (DefinedBy [0x44]) connected [otherDefinition] :=
  have ⟨connected, accepts, _⟩ := connectRequest_accepted
  ⟨connected, connecting_exclusive_iff accepts [otherDefinition] otherDefinition_unfinished.1
    otherDefinition_unfinished.2⟩

theorem other_definition_ends_connecting :
    ∃ connected host' event, Accepts (sppHostEngineInit setupParams staticHost) connected [0x44] connectRequest ∧
      hostCall connected otherDefinition = .ok (host', event) ∧ host'.state = .ready ∧ host'.defsBufferUsed = 1 ∧
      ¬EveryStep hostCall (Exclusive [0x44]) connected [otherDefinition] := by
  refine ⟨_, _, _, ⟨rfl, rfl, _, rfl, _, rfl, rfl⟩, rfl, rfl, rfl, ?_⟩
  rintro ⟨exclusive, -⟩
  have alone := (exclusive _ _ rfl).2 [0x45] rfl (by decide)
  exact absurd alone.1 (by decide)

end TvcHopper.Spp
