import TvcHopper.Machine.Execution
import TvcHopper.Telemetry.Values

/-! The telemetry server in any order of events.

Commands of the viewer and messages of the vehicle come in any order. Beside the
server a run keeps what the vehicle has sent, its definitions and the last value
for each id, and `val` is to be answered from that.
-/

set_option autoImplicit false

namespace TvcHopper.Telemetry
open Machine Spp

/-! ## Events -/

structure ViewerMessage where
  buffer : Vector UInt8 maxPacketSize
  size : Nat
  command : Command
  read : readIncoming buffer.toList size = .ok (.command command)

inductive Event where
  | viewer (message : ViewerMessage) (spare : Nat)
  | vehicle (message : VehicleMessage) (trailing : List UInt8) (unset : Nat)

def serve (comms : TelemetryComms) : Event → Except Fault (TelemetryComms × Output)
  | .viewer message spare => onCommand comms spare message.command
  | .vehicle message trailing unset =>
    handleStcpPacket comms (message.bytes ++ trailing) (messageSize16 message.bytes) unset

/-- The server beside what the vehicle has sent: its definitions, and the last value for each id. -/
structure Watched where
  comms : TelemetryComms
  definitions : List SppPropertyDefinition
  latest : UInt16 → Option (List UInt8)

def VehicleMessage.definitions : VehicleMessage → List SppPropertyDefinition
  | .definition pd _ _ => [pd]
  | _ => []

/-- A value the server was waiting for, with its id: the answer to a request, or what a stream brings. -/
def VehicleMessage.value (message : VehicleMessage) (trailing : List UInt8) (host : SppHostEngine) :
    Option (UInt16 × List UInt8) :=
  match message with
  | .getResponse token _ id value _ =>
    if token ∈ host.pendingRequestTokens.toList then some (id, value ++ trailing) else none
  | .stream streamId _ value _ => do
    let (_, started) ← streamObject host streamId
    let pd ← host.defsBuffer[← started.definition]?
    return (pd.id, value ++ trailing)
  | _ => none

def Watched.next (state : Watched) (event : Event) (comms : TelemetryComms) : Watched :=
  match event with
  | .viewer .. => { state with comms }
  | .vehicle message trailing _ =>
    { comms
      definitions := state.definitions ++ message.definitions
      latest := match message.value trailing state.comms.spp with
        | some (id, value) => Function.update state.latest id (some value)
        | none => state.latest }

def watch (state : Watched) (event : Event) : Except Fault (Watched × Output) := do
  let (comms, output) ← serve state.comms event
  return (state.next event comms, output)

/-- `<id:2><size:1><timestamp:4><value:size>` -/
def valueAnswer (id : UInt16) (size : UInt8) (timestamp : UInt32) (value : List UInt8) : List UInt8 :=
  bytes16 id ++ [size] ++ bytes32 timestamp ++ value

/-- A command and a message are handled whatever the memory holds that was not set, and `val` for a property whose
definition is there is answered with the last value. -/
def Served (state : Watched) : Event → Prop
  | .viewer message spare => ∃ comms output, serve state.comms (.viewer message spare) = .ok (comms, output) ∧
    ∀ id, message.command = .val id → ∀ pd ∈ state.definitions, pd.id = id →
      ∃ timestamp, output.answers = [valueAnswer id pd.size timestamp (expected (state.latest id) pd.size)]
  | .vehicle message trailing _ => ∀ unset, ∃ result, serve state.comms (.vehicle message trailing unset) = .ok result

/-- `streams_` and the table of the engine have sixteen places each, and the request needs a byte behind its array. -/
def StreamRoom (comms : TelemetryComms) (definitions : List SppPropertyDefinition) (id : UInt16) (spare : Nat) : Prop :=
  ¬comms.spp.pendingRequestCount > 8 → (∃ pd ∈ definitions, pd.id = id) →
    comms.streamCount < sppStreamMaxCount ∧ comms.spp.streamCount.toNat < sppStreamMaxCount ∧ 0 < spare

def InOrder (state : Watched) : Event → Prop
  | .viewer message spare =>
    match message.command with
    | .val id => ∃ pd, state.definitions.find? (·.id == id) = some pd ∧ pd.size.toNat ≤ 248 ∧
      ∀ other ∈ state.definitions, other.id = id → other.size = pd.size
    | .str id _ => StreamRoom state.comms state.definitions id spare
    | _ => True
  | .vehicle message trailing _ =>
    match message with
    | .definition _ _ _ => state.comms.spp.clientCount ≠ 0 ∧ state.definitions.length < bufferSize
    -- a value that was not asked for is dropped, so nothing has to be there for it
    | .getResponse _ _ _ _ _ => ∀ id value, message.value trailing state.comms.spp = some (id, value) →
      Takes state.definitions id value
    | .stream _ _ _ _ => ∃ id value, message.value trailing state.comms.spp = some (id, value) ∧
      Takes state.definitions id value
    | _ => True

section Commands
variable {comms comms' : TelemetryComms} {definitions : List SppPropertyDefinition}
  {latest : UInt16 → Option (List UInt8)} {id : UInt16} {output : Output} (spare : Nat)

theorem set_long {msg value : List UInt8} {size : Nat} (read : readIncoming msg size = .ok (.command (.set id value))) :
    msg.length ≤ value.length + 6 := by
  obtain ⟨msgStr, -, read⟩ := bind_eq_ok.mp read
  dsimp only at read
  split at read
  · obtain ⟨_, -, read⟩ := bind_eq_ok.mp read
    cases read
  obtain ⟨id', -, read⟩ := bind_eq_ok.mp read
  split at read
  · obtain ⟨_, -, read⟩ := bind_eq_ok.mp read
    cases read
  split at read
  · cases read
  split at read
  · cases read
  split at read
  · next cmd =>
    cases read
    rw [List.length_drop]
    cases slashed : msgStr.findIdx? (· = slash) with
    | none => dsimp only; omega
    | some index =>
      rw [slashed] at cmd
      have inside := (List.findIdx?_eq_some_iff_findIdx_eq.mp slashed).1
      have three := congrArg List.length cmd
      rw [List.length_take, Option.getD_some, Nat.min_eq_left inside.le] at three
      have command : (ascii ['s', 'e', 't']).length = 3 := rfl
      dsimp only
      omega
  · cases read

theorem Current.withEngine (current : Current comms definitions latest) {spp : SppHostEngine}
    (serves : Serves spp comms.defaultClient definitions)
    (objects : spp.streamObjects.length = comms.spp.streamObjects.length) (streamCount : Nat) :
    Current { comms with spp, streamCount } definitions latest :=
  ⟨serves, objects.trans current.objects, current.entries, current.fresh⟩

theorem Current.val {pd : SppPropertyDefinition} (current : Current comms definitions latest)
    (first : definitions.find? (·.id == id) = some pd) (small : pd.size.toNat ≤ 248) :
    ∃ comms' timestamp, onCommand comms spare (.val id) =
        .ok (comms', ⟨[], [valueAnswer id pd.size timestamp (expected (latest id) pd.size)]⟩) ∧
      Current comms' definitions latest := by
  obtain ⟨entry, made, keeps⟩ := current.getValue first
  let used : TelemetryComms := { comms with propValues := Function.update comms.propValues id (some entry) }
  obtain ⟨⟨copy, pointer, size⟩, buffer, length⟩ := keeps.deref used current.serves first
  have answered : valueMessage id copy entry =
      .ok (valueAnswer id pd.size entry.timestamp (expected (latest id) pd.size)) := by
    rw [valueMessage_ok (by rwa [size]) (by rwa [size]), size, buffer]
    rfl
  refine ⟨used, entry.timestamp, ?_, ?_⟩
  · simp only [used] at pointer
    simp only [onCommand, made, ok_bind, pointer, answered, pure_eq_ok, used]
  · have kept := current.enter keeps
    rwa [Function.update_eq_self] at kept

theorem Current.val_early (current : Current comms definitions latest)
    (absent : definitions.find? (·.id == id) = none) : onCommand comms spare (.val id) = .error .nullPointer := by
  obtain ⟨used, entry, made, null⟩ := current.getValue_null absent
  simp only [onCommand, made, ok_bind, PropValue.deref, null]
  rfl

/-- `val` is not answered without its definition, or when the length of the answer does not fit into eight bits. -/
theorem Current.val_first (current : Current comms definitions latest)
    (done : onCommand comms spare (.val id) = .ok (comms', output)) :
    ∃ pd, definitions.find? (·.id == id) = some pd ∧ pd.size.toNat ≤ 248 := by
  cases first : definitions.find? (·.id == id) with
  | none => cases (current.val_early spare first).symm.trans done
  | some pd =>
    obtain ⟨entry, made, keeps⟩ := current.getValue first
    rw [onCommand, made, ok_bind] at done
    obtain ⟨copy, pointer, done⟩ := bind_eq_ok.mp done
    obtain ⟨msg, filled, -⟩ := bind_eq_ok.mp done
    obtain ⟨⟨copy', pointer', size⟩, -⟩ := keeps.deref _ current.serves first
    obtain rfl := Except.ok.inj (pointer'.symm.trans pointer)
    have small := valueMessage_small filled
    rw [size] at small
    exact ⟨pd, rfl, small⟩

theorem valueAnswer_size {size size' : UInt8} {timestamp timestamp' : UInt32} {value value' : List UInt8}
    (same : valueAnswer id size timestamp value = valueAnswer id size' timestamp' value') : size = size' := by
  have third := congrArg (·[2]?) same
  simpa [valueAnswer, bytes16] using third

end Commands

/-! ## Requests of the viewer -/

section Requests
variable {comms comms' : TelemetryComms} {definitions : List SppPropertyDefinition}
  {latest : UInt16 → Option (List UInt8)} {id : UInt16} {output : Output} (spare : Nat)

theorem Current.request (current : Current comms definitions latest) {call : HostCall} (request : call.isRequest = true)
    {spp : SppHostEngine} {effects : List HostEffect} {status : SppStatus}
    (done : perform comms.spp call = .ok (spp, effects, status)) (streamCount : Nat) :
    Current { comms with spp, streamCount } definitions latest :=
  have change := request_change request done
  current.withEngine (current.serves.requested change) (RequestChange.objects change) streamCount

theorem Current.get (current : Current comms definitions latest) (id : UInt16) :
    ∃ comms' output, onCommand comms spare (.get id) = .ok (comms', output) ∧ Current comms' definitions latest := by
  obtain ⟨spp, effects, status, done⟩ := current.serves.getValue id
  refine ⟨{ comms with spp }, ⟨effects, []⟩, ?_, ?_⟩
  · rw [onCommand, done]
    rfl
  · have performed : perform comms.spp (.getValue comms.defaultClient id) = .ok (spp, effects, status) := done
    exact current.request rfl performed comms.streamCount

theorem Current.set (current : Current comms definitions latest) (id : UInt16) {value : List UInt8}
    (long : 255 ≤ value.length) :
    ∃ comms' output, onCommand comms spare (.set id value) = .ok (comms', output) ∧
      Current comms' definitions latest := by
  obtain ⟨spp, effects, status, done⟩ := current.serves.setValue id long
  refine ⟨{ comms with spp }, ⟨effects, []⟩, ?_, ?_⟩
  · rw [onCommand, done]
    rfl
  · have performed : perform comms.spp (.setValue comms.defaultClient id value) = .ok (spp, effects, status) := done
    exact current.request rfl performed comms.streamCount

theorem Current.str_iff (current : Current comms definitions latest) (id period : UInt16) :
    (∃ result, onCommand comms spare (.str id period) = .ok result) ↔ StreamRoom comms definitions id spare := by
  have started := current.serves.startStream_iff id period sppStreamRead comms.streamCount spare
  rw [current.objects] at started
  refine Iff.trans ?_ started
  constructor
  · rintro ⟨result, done⟩
    obtain ⟨⟨spp, effects, status⟩, done, -⟩ := bind_eq_ok.mp done
    exact ⟨spp, effects, status, done⟩
  · rintro ⟨spp, effects, status, done⟩
    exact ⟨_, by rw [onCommand, done]; rfl⟩

theorem Current.str (current : Current comms definitions latest) {id period : UInt16}
    (done : onCommand comms spare (.str id period) = .ok (comms', output)) : Current comms' definitions latest := by
  obtain ⟨⟨spp, effects, status⟩, started, done⟩ := bind_eq_ok.mp done
  obtain ⟨rfl, -⟩ := Prod.mk.inj (Except.ok.inj done)
  have performed : perform comms.spp
      (.startStream comms.defaultClient id period sppStreamRead comms.streamCount spare) =
        .ok (spp, effects, status) := started
  exact current.request rfl performed (comms.streamCount + 1)

end Requests

/-! ## Messages of the vehicle -/

section Messages
variable {comms comms' : TelemetryComms} {definitions : List SppPropertyDefinition}
  {latest : UInt16 → Option (List UInt8)}

theorem Keeps.extend {value : Option (List UInt8)} {id : UInt16} {entry : PropValue}
    (keeps : Keeps definitions value id entry) (later : List SppPropertyDefinition) :
    Keeps (definitions ++ later) value id entry := by
  obtain ⟨place, pd, found, first, rest⟩ := keeps
  refine ⟨place, pd, ?_, ?_, rest⟩
  · rw [List.findIdx?_append, found]
    rfl
  · rw [List.find?_append, first]
    rfl

theorem callbacks_sent {effects : List HostEffect} (sent : ∀ effect ∈ effects, ∃ bytes, effect = .sendMessage bytes)
    (comms : TelemetryComms) : effects.foldlM callback comms = .ok comms := by
  induction effects with
  | nil => rfl
  | cons effect effects ih =>
    obtain ⟨bytes, rfl⟩ := sent effect (List.mem_cons_self ..)
    rw [List.foldlM_cons, callback, ok_bind]
    exact ih fun later member => sent later (List.mem_cons_of_mem _ member)

theorem Current.accepted (current : Current comms definitions latest) {message : VehicleMessage} {trailing : List UInt8}
    {unset : Nat} {later : List SppPropertyDefinition}
    (accepts : Accepts comms.spp comms.defaultClient (process comms.spp message trailing unset)
      (definitions ++ later)) :
    ∃ comms' output, serve comms (.vehicle message trailing unset) = .ok (comms', output) ∧
      Current comms' (definitions ++ later) latest := by
  obtain ⟨spp, effects, status, processed, serves, objects, sent⟩ := accepts
  refine ⟨{ comms with spp }, ⟨effects, []⟩, ?_, serves, objects.trans current.objects, ?_, current.fresh⟩
  · rw [process] at processed
    simp only [serve, handleStcpPacket, processed, ok_bind, callbacks_sent sent, pure_eq_ok]
  · intro id entry here
    exact (current.entries id entry here).extend later

theorem Current.accepted_same (current : Current comms definitions latest) {message : VehicleMessage}
    {trailing : List UInt8} {unset : Nat}
    (accepts : Accepts comms.spp comms.defaultClient (process comms.spp message trailing unset) definitions) :
    ∃ comms' output, serve comms (.vehicle message trailing unset) = .ok (comms', output) ∧
      Current comms' (definitions ++ []) latest := by
  apply current.accepted
  rwa [List.append_nil]

theorem processed_of_served {message : VehicleMessage} {trailing : List UInt8} {unset : Nat}
    {result : TelemetryComms × Output} (done : serve comms (.vehicle message trailing unset) = .ok result) :
    ∃ result, process comms.spp message trailing unset = .ok result :=
  let ⟨processed, done, _⟩ := bind_eq_ok.mp done
  ⟨processed, done⟩

theorem Current.getResponse_eq (current : Current comms definitions latest) (token size : UInt8) (id : UInt16)
    (value : List UInt8) (short : value.length < 256) (trailing : List UInt8) (unset : Nat) :
    serve comms (.vehicle (.getResponse token size id value short) trailing unset) =
      if token ∈ comms.spp.pendingRequestTokens.toList then do
        let comms' ← Telemetry.onValueResponse { comms with spp := Spp.withoutToken comms.spp token } id
          (value ++ trailing) none
        return (comms', ⟨[.onValueResponse ⟨.external [vehicleAddress], 0⟩ id (value ++ trailing)], []⟩)
      else .ok ({ comms with spp := Spp.withoutToken comms.spp token }, ⟨[], []⟩) := by
  obtain ⟨status, processed⟩ := current.serves.getResponse token size id value short trailing unset
  rw [process] at processed
  simp only [serve, handleStcpPacket, processed, ok_bind]
  split
  · simp only [List.foldlM_cons, List.foldlM_nil, callback, bind_assoc, pure_bind]
  · rfl

theorem Current.withoutToken (current : Current comms definitions latest) (token : UInt8) :
    Current { comms with spp := Spp.withoutToken comms.spp token } definitions latest := by
  have objects : (Spp.withoutToken comms.spp token).streamObjects.length = comms.spp.streamObjects.length := by
    rw [withoutToken_objects]
  exact current.withEngine (current.serves.withoutToken token) objects comms.streamCount

theorem Current.getResponse (current : Current comms definitions latest) {token : UInt8} (size : UInt8) {id : UInt16}
    {value : List UInt8} (short : value.length < 256) {trailing : List UInt8}
    (takes : token ∈ comms.spp.pendingRequestTokens.toList → Takes definitions id (value ++ trailing)) (unset : Nat) :
    ∃ comms' output,
      serve comms (.vehicle (.getResponse token size id value short) trailing unset) = .ok (comms', output) ∧
        Current comms' definitions (if token ∈ comms.spp.pendingRequestTokens.toList then
          Function.update latest id (some (value ++ trailing)) else latest) := by
  have cleared := current.withoutToken token
  rw [current.getResponse_eq]
  by_cases waiting : token ∈ comms.spp.pendingRequestTokens.toList
  · rw [if_pos waiting, if_pos waiting]
    obtain ⟨comms', taken, kept⟩ := cleared.onValueResponse (takes waiting) none
    rw [taken]
    exact ⟨comms', _, rfl, kept⟩
  · rw [if_neg waiting, if_neg waiting]
    exact ⟨_, _, rfl, cleared⟩

theorem Current.getResponse_iff (current : Current comms definitions latest) (token size : UInt8) (id : UInt16)
    (value : List UInt8) (short : value.length < 256) (trailing : List UInt8) (unset : Nat) :
    (∃ result, serve comms (.vehicle (.getResponse token size id value short) trailing unset) = .ok result) ↔
      (token ∈ comms.spp.pendingRequestTokens.toList → Takes definitions id (value ++ trailing)) := by
  constructor
  · rintro ⟨result, done⟩ waiting
    rw [current.getResponse_eq, if_pos waiting] at done
    obtain ⟨comms', taken, -⟩ := bind_eq_ok.mp done
    exact (current.withoutToken token).takes taken
  · intro takes
    obtain ⟨comms', output, done, -⟩ := current.getResponse size short takes unset
    exact ⟨_, done⟩

theorem value_stream {streamId : UInt8} {timestamp : UInt32} {value : List UInt8} {short : value.length < 256}
    {trailing : List UInt8} {host : SppHostEngine} {id : UInt16} {given : List UInt8} :
    (VehicleMessage.stream streamId timestamp value short).value trailing host = some (id, given) ↔
      ∃ object stream place pd, streamObject host streamId = some (object, stream) ∧ stream.definition = some place ∧
        host.defsBuffer[place]? = some pd ∧ pd.id = id ∧ value ++ trailing = given := by
  simp [VehicleMessage.value, Option.bind_eq_some_iff]

theorem onStreamResponse_eq_ok {timestamp : UInt32} {stream : SppStream} :
    onStreamResponse comms timestamp stream = .ok comms' ↔
      ∃ place pd value, stream.definition = some place ∧ comms.spp.defsBuffer[place]? = some pd ∧
        stream.value = some value ∧ onValueResponse comms pd.id value (some timestamp) = .ok comms' := by
  unfold onStreamResponse
  split
  · next place value definition given =>
    rw [bind_eq_ok]
    constructor
    · rintro ⟨pd, loaded, taken⟩
      exact ⟨place, pd, value, definition, load_eq_ok.mp loaded, given, taken⟩
    · rintro ⟨place', pd, value', definition', stored, given', taken⟩
      obtain rfl := Option.some.inj (definition.symm.trans definition')
      obtain rfl := Option.some.inj (given.symm.trans given')
      exact ⟨pd, load_eq_ok.mpr stored, taken⟩
  · next missing =>
    refine ⟨nofun, ?_⟩
    rintro ⟨place, pd, value, definition, -, given, -⟩
    exact absurd given (missing place value definition)

theorem Current.withObjects (current : Current comms definitions latest) (streamObjects : List SppStream)
    (length : streamObjects.length = comms.spp.streamObjects.length) :
    Current { comms with spp := { comms.spp with streamObjects } } definitions latest :=
  current.withEngine (current.serves.withObjects streamObjects) length comms.streamCount

theorem Current.stream (current : Current comms definitions latest) {streamId : UInt8} {timestamp : UInt32}
    {value : List UInt8} {short : value.length < 256} {trailing : List UInt8} {id : UInt16} {given : List UInt8}
    (arrived : (VehicleMessage.stream streamId timestamp value short).value trailing comms.spp = some (id, given))
    (takes : Takes definitions id given) (unset : Nat) :
    ∃ comms' output,
      serve comms (.vehicle (.stream streamId timestamp value short) trailing unset) = .ok (comms', output) ∧
        Current comms' definitions (Function.update latest id (some given)) := by
  obtain ⟨object, stream, place, pd, here, definition, stored, rfl, rfl⟩ := value_stream.mp arrived
  have processed := current.serves.stream here timestamp value short trailing unset
  let sent : SppStream := { stream with value := some (value ++ trailing) }
  let streamed : TelemetryComms :=
    { comms with spp := { comms.spp with streamObjects := comms.spp.streamObjects.set object sent } }
  have changed : Current streamed definitions latest := current.withObjects _ List.length_set
  obtain ⟨comms', taken, kept⟩ := changed.onValueResponse takes (some timestamp)
  have called : Telemetry.onStreamResponse streamed timestamp sent = .ok comms' :=
    onStreamResponse_eq_ok.mpr ⟨place, pd, value ++ trailing, definition, stored, rfl, taken⟩
  refine ⟨comms', ⟨[.onStreamResponse timestamp sent], []⟩, ?_, kept⟩
  have folded : [HostEffect.onStreamResponse timestamp sent].foldlM callback streamed = .ok comms' := by
    rw [List.foldlM_cons, callback, called]
    rfl
  exact bind_eq_ok.mpr ⟨_, processed, bind_eq_ok.mpr ⟨_, folded, rfl⟩⟩

theorem Current.stream_iff (current : Current comms definitions latest) (streamId : UInt8) (timestamp : UInt32)
    (value : List UInt8) (short : value.length < 256) (trailing : List UInt8) (unset : Nat) :
    (∃ result, serve comms (.vehicle (.stream streamId timestamp value short) trailing unset) = .ok result) ↔
      ∃ id given, (VehicleMessage.stream streamId timestamp value short).value trailing comms.spp = some (id, given) ∧
        Takes definitions id given := by
  constructor
  · rintro ⟨result, done⟩
    obtain ⟨processed, done, after⟩ := bind_eq_ok.mp done
    obtain ⟨object, stream, here⟩ := current.serves.stream_object done
    obtain rfl := Except.ok.inj ((current.serves.stream here timestamp value short trailing unset).symm.trans done)
    obtain ⟨used, called, -⟩ := bind_eq_ok.mp after
    rw [List.foldlM_cons] at called
    obtain ⟨_, called, -⟩ := bind_eq_ok.mp called
    obtain ⟨place, pd, given, definition, stored, same, taken⟩ := onStreamResponse_eq_ok.mp called
    obtain rfl := Option.some.inj same
    refine ⟨pd.id, _, value_stream.mpr ⟨object, stream, place, pd, here, definition, stored, rfl, rfl⟩, ?_⟩
    exact (current.withObjects _ List.length_set).takes taken
  · rintro ⟨id, given, arrived, takes⟩
    obtain ⟨comms', output, served, -⟩ := current.stream arrived takes unset
    exact ⟨_, served⟩

end Messages

/-! ## Every order of events -/

section Steps
variable {state state' : Watched} {event : Event} {output : Output}

/-- The invariant of the server beside what was received. -/
def Watched.Consistent (state : Watched) : Prop := Current state.comms state.definitions state.latest

/-- An event in order is handled, and the entries are as they should be again. -/
theorem Watched.Consistent.handled (consistent : state.Consistent) (inOrder : InOrder state event) :
    ∃ comms output, serve state.comms event = .ok (comms, output) ∧ (state.next event comms).Consistent := by
  have nothing : state.definitions = state.definitions ++ [] := (List.append_nil _).symm
  cases event with
  | viewer message spare =>
    obtain ⟨buffer, size, command, read⟩ := message
    -- each command and each message has its rule; this puts them together
    cases command with
    | str id period =>
      obtain ⟨⟨comms, output⟩, done⟩ := (Current.str_iff spare consistent id period).mpr inOrder
      exact ⟨comms, output, done, Current.str spare consistent done⟩
    | get id => exact Current.get spare consistent id
    | val id =>
      obtain ⟨pd, first, small, -⟩ := inOrder
      obtain ⟨comms, timestamp, done, kept⟩ := Current.val spare consistent first small
      exact ⟨comms, _, done, kept⟩
    | set id value =>
      have long := set_long read
      have room : maxPacketSize = 4096 := rfl
      rw [Vector.length_toList, room] at long
      exact Current.set spare consistent id (by omega)
    | unknown => exact ⟨_, _, rfl, consistent⟩
  | vehicle message trailing unset =>
    cases message with
    | connectRequest broadcast propertyListId =>
      exact Current.accepted_same consistent (consistent.serves.connectRequest broadcast propertyListId trailing unset)
    | listResponse count numBytes last =>
      exact Current.accepted_same consistent (consistent.serves.listResponse count numBytes last trailing unset)
    | definition pd remaining terminated =>
      obtain ⟨known, room⟩ := inOrder
      exact Current.accepted consistent
        (consistent.serves.definition pd remaining terminated known room trailing unset)
    | getResponse token size id value short =>
      have takes (waiting : token ∈ state.comms.spp.pendingRequestTokens.toList) :
          Takes state.definitions id (value ++ trailing) := inOrder id _ (if_pos waiting)
      obtain ⟨comms, output, done, kept⟩ := Current.getResponse consistent size short takes unset
      refine ⟨comms, output, done, ?_⟩
      rw [Consistent, next, VehicleMessage.value]
      -- a value that was not asked for adds nothing to what was received
      by_cases waiting : token ∈ state.comms.spp.pendingRequestTokens.toList
      · rw [if_pos waiting] at kept ⊢
        rwa [nothing] at kept
      · rw [if_neg waiting] at kept ⊢
        rwa [nothing] at kept
    | setResponse token =>
      exact Current.accepted_same consistent (consistent.serves.setResponse token trailing unset)
    | stream streamId timestamp value short =>
      obtain ⟨id, given, arrived, takes⟩ := inOrder
      obtain ⟨comms, output, done, kept⟩ := Current.stream consistent arrived takes unset
      refine ⟨comms, output, done, ?_⟩
      rw [Consistent, next, arrived]
      rwa [nothing] at kept

/-- A step is as the server promises exactly if the event is in order. -/
theorem Watched.Consistent.served_iff (consistent : state.Consistent) (event : Event) :
    Served state event ↔ InOrder state event := by
  cases event with
  | viewer message spare =>
    obtain ⟨buffer, size, command, read⟩ := message
    constructor
    · rintro ⟨comms, output, done, answered⟩
      cases command with
      | str id period => exact (Current.str_iff spare consistent id period).mp ⟨_, done⟩
      | val id =>
        obtain ⟨pd, first, small⟩ := Current.val_first spare consistent done
        refine ⟨pd, first, small, ?_⟩
        intro other member same
        -- the answer is the same for every definition of the property
        have listed : pd.id = id := by simpa using List.find?_some first
        obtain ⟨timestamp, one⟩ := answered id rfl other member same
        obtain ⟨timestamp', two⟩ := answered id rfl pd (List.mem_of_find?_eq_some first) listed
        exact valueAnswer_size (List.cons.inj (one.symm.trans two)).1
      | get _ | set _ _ | unknown => trivial
    · intro inOrder
      cases command with
      | val id =>
        obtain ⟨pd, first, small, alike⟩ := inOrder
        obtain ⟨comms, timestamp, done, -⟩ := Current.val spare consistent first small
        refine ⟨comms, _, done, ?_⟩
        rintro id' ⟨rfl⟩ other member same
        exact ⟨timestamp, by rw [alike other member same]⟩
      | str _ _ | get _ | set _ _ | unknown =>
        obtain ⟨comms, output, done, -⟩ := consistent.handled inOrder
        exact ⟨comms, output, done, nofun⟩
  | vehicle message trailing unset =>
    constructor
    · intro served
      cases message with
      | definition pd remaining terminated =>
        apply (consistent.serves.definition_iff pd remaining terminated trailing).mp
        intro unset
        obtain ⟨result, done⟩ := served unset
        exact processed_of_served done
      | getResponse token size id value short =>
        have takes := (Current.getResponse_iff consistent token size id value short trailing unset).mp (served unset)
        intro id' given arrived
        obtain ⟨waiting, same⟩ := Option.ite_none_right_eq_some.mp arrived
        obtain ⟨rfl, rfl⟩ := Prod.mk.inj (Option.some.inj same)
        exact takes waiting
      | stream streamId timestamp value short =>
        exact (Current.stream_iff consistent streamId timestamp value short trailing unset).mp (served unset)
      | connectRequest _ _ | listResponse _ _ _ | setResponse _ => trivial
    · intro inOrder unset'
      have inOrder' : InOrder state (.vehicle message trailing unset') := inOrder
      obtain ⟨comms, output, done, -⟩ := consistent.handled inOrder'
      exact ⟨_, done⟩

theorem Watched.Consistent.watch (consistent : state.Consistent) (inOrder : InOrder state event)
    (done : watch state event = .ok (state', output)) : state'.Consistent := by
  obtain ⟨⟨comms, given⟩, served, done⟩ := bind_eq_ok.mp done
  obtain ⟨rfl, -⟩ := Prod.mk.inj (Except.ok.inj done)
  obtain ⟨comms', output', served', kept⟩ := consistent.handled inOrder
  obtain ⟨rfl, -⟩ := Prod.mk.inj (Except.ok.inj (served'.symm.trans served))
  exact kept

end Steps

/-! ### The two ways to start -/

/-- With a serial port the server connects to the vehicle; the emulator is waited for. -/
def opened (storage : Storage) (serial : Bool) : Except Fault (TelemetryComms × Output) :=
  if serial then start (telemetryComms storage) else .ok (telemetryComms storage, ⟨[], []⟩)

def watched (comms : TelemetryComms) : Watched := ⟨comms, [], fun _ => none⟩

theorem opened_consistent (storage : Storage) (serial : Bool) :
    ∃ comms output, opened storage serial = .ok (comms, output) ∧ (watched comms).Consistent := by
  have size : storage.streams.toList.length = sppStreamMaxCount := Vector.length_toList
  cases serial with
  | false =>
    exact ⟨_, _, rfl, serves_constructed storage, size, fun _ _ => nofun, fun _ _ => rfl⟩
  | true =>
    obtain ⟨spp, defaultClient, output, started, serves, objects⟩ := serves_start storage
    refine ⟨_, _, started, serves, ?_, fun _ _ => nofun, fun _ _ => rfl⟩
    exact (congrArg List.length objects).trans size

/-- However the server was started, and however commands and messages follow one another, all are handled as promised
exactly as long as they come in order. -/
theorem start_order_iff (storage : Storage) (serial : Bool) :
    ∃ comms output, opened storage serial = .ok (comms, output) ∧
      ∀ events,
        EveryAttempt watch Served (watched comms) events ↔ EveryAttempt watch InOrder (watched comms) events := by
  obtain ⟨comms, output, started, consistent⟩ := opened_consistent storage serial
  refine ⟨comms, output, started, ?_⟩
  intro events
  have exact_step : ∀ state event, state.Consistent → (Served state event ↔ InOrder state event) :=
    fun _ event consistent => consistent.served_iff event
  have preserved : ∀ state event next output, state.Consistent → InOrder state event →
      watch state event = .ok (next, output) → next.Consistent :=
    fun _ _ _ _ consistent inOrder done => consistent.watch inOrder done
  exact everyAttempt_iff exact_step preserved consistent events

/-- `val/`, 0xAB, and zeros up to the end of the receive buffer. -/
def valMessage : ViewerMessage where
  buffer := ⟨(ascii ['v', 'a', 'l', '/'] ++ [0xAB, 0x00] ++ List.replicate 4090 0).toArray, by
    rw [List.size_toArray, List.length_append, List.length_replicate]
    rfl⟩
  size := 6
  command := .val 0xAB
  read := by rfl

/-- The viewer asks for a value before the vehicle has sent its definitions. -/
theorem start_order_early : ∃ storage comms output, opened storage true = .ok (comms, output) ∧
    serve comms (.viewer valMessage 1) = .error .nullPointer ∧
    ¬EveryAttempt watch Served (watched comms) [.viewer valMessage 1] := by
  let storage : Storage :=
    { propDefsBuffer := Vector.replicate _ ⟨0, 0, 0, 0, Vector.replicate _ 0, 0⟩
      addressBuffer := Vector.replicate _ 0
      streams := Vector.replicate _ ⟨none, 0, 0, none, 0, 0⟩
      spp := staticHost }
  obtain ⟨comms, output, started, consistent⟩ := opened_consistent storage true
  have absent : ([] : List SppPropertyDefinition).find? (·.id == 0xAB) = none := rfl
  have faults : serve comms (.viewer valMessage 1) = .error .nullPointer := Current.val_early 1 consistent absent
  refine ⟨storage, comms, output, started, faults, ?_⟩
  rintro ⟨⟨_, _, done, -⟩, -⟩
  cases faults.symm.trans done

end TvcHopper.Telemetry
