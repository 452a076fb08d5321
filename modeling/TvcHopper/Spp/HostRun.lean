import TvcHopper.Machine.Execution
import TvcHopper.Spp.Connecting
import TvcHopper.Spp.Received

/-! Runs of the host engine, and what one call does to its pending requests.

The token counter, the token table and the request count change in two ways
only: a successful request draws a token and puts it into the table, a response
that passes the header checks clears its token. Every result about the pending
requests follows from this classification.
-/

set_option autoImplicit false

namespace TvcHopper.Spp
open Machine Machine.Slots

inductive HostCall where
  | connectToClient (client : SppAddress)
  | getValue (client : SppAddress) (id : UInt16)
  | setValue (client : SppAddress) (id : UInt16) (value : List UInt8)
  | startStream (client : SppAddress) (id period : UInt16) (streamType : UInt8) (stream spare : Nat)
  | getDefinition (client : SppAddress) (id : UInt16)
  | getPropertyCount (client : SppAddress)
  | processMessage (message : List UInt8) (len : UInt16) (unset : Nat)
  deriving DecidableEq, Repr

structure HostEvent where
  call : HostCall
  effects : List HostEffect
  status : SppStatus
  deriving DecidableEq, Repr

def perform (host : SppHostEngine) : HostCall → HostResult
  | .connectToClient client => do
    let (host, effects) ← sppConnectToClient host client
    return (host, effects, sppStatusOk)
  | .getValue client id => sppHostGetValue host client id
  | .setValue client id value => sppHostSetValue host client id value
  | .startStream client id period streamType stream spare =>
    sppHostStartStream host client id period streamType stream spare
  | .getDefinition client id => do
    let (status, _) ← sppHostGetDefinition host client id
    return (host, [], status)
  | .getPropertyCount client => do
    let _ ← sppHostGetPropertyCount host client
    return (host, [], sppStatusOk)
  | .processMessage message len unset => sppHostProcessMessage host message len unset

def hostCall (host : SppHostEngine) (call : HostCall) : Except Fault (SppHostEngine × HostEvent) := do
  let (host, effects, status) ← perform host call
  return (host, ⟨call, effects, status⟩)

theorem hostCall_eq_ok {host host' : SppHostEngine} {call : HostCall} {event : HostEvent} :
    hostCall host call = .ok (host', event) ↔
      perform host call = .ok (host', event.effects, event.status) ∧ event.call = call := by
  simp only [hostCall, bind_eq_ok, pure_eq_ok, Except.ok.injEq, Prod.mk.injEq, Prod.exists]
  constructor
  · rintro ⟨host, effects, status, performed, rfl, rfl⟩
    exact ⟨performed, rfl⟩
  · rintro ⟨performed, rfl⟩
    exact ⟨host', event.effects, event.status, performed, rfl, rfl⟩

/-! ## The part of the host that tracks requests -/

structure PendingRequests where
  tokenCount : UInt8
  tokens : Vector UInt8 sppPendingRequestsMax
  count : UInt16

def SppHostEngine.pending (host : SppHostEngine) : PendingRequests :=
  ⟨host.tokenCount, host.pendingRequestTokens, host.pendingRequestCount⟩

namespace PendingRequests

def next (pending : PendingRequests) : UInt8 :=
  if pending.tokenCount + 1 = sppTokenMaxReserved then 0 else pending.tokenCount + 1

def insert (pending : PendingRequests) (token : UInt8) : PendingRequests :=
  match replaceFirst sppTokenMaxReserved token pending.tokens with
  | some tokens => { pending with tokens, count := pending.count + 1 }
  | none => pending

def request (pending : PendingRequests) : PendingRequests :=
  insert { pending with tokenCount := pending.next } pending.next

def clear (pending : PendingRequests) (token : UInt8) : PendingRequests :=
  match replaceFirst token sppTokenMaxReserved pending.tokens with
  | some tokens => { pending with tokens, count := pending.count - 1 }
  | none => pending

theorem next_ne_reserved (pending : PendingRequests) : pending.next ≠ sppTokenMaxReserved := by
  unfold next
  by_cases rollover : pending.tokenCount + 1 = sppTokenMaxReserved
  · rw [if_pos rollover]
    decide
  · rw [if_neg rollover]
    exact rollover

end PendingRequests

theorem pending_insert (host : SppHostEngine) (token : UInt8) :
    (sppInsertToken host token).1.pending = host.pending.insert token := by
  unfold sppInsertToken PendingRequests.insert SppHostEngine.pending
  cases inserted : replaceFirst sppTokenMaxReserved token host.pendingRequestTokens <;> simp

theorem pending_request (host : SppHostEngine) :
    (sppInsertToken (sppGetToken host).1 (sppGetToken host).2).1.pending = host.pending.request := by
  rw [pending_insert]
  rfl

theorem pending_clear (host : SppHostEngine) (token : UInt8) :
    (sppClearToken host token).1.pending = host.pending.clear token := by
  unfold sppClearToken PendingRequests.clear SppHostEngine.pending
  cases cleared : replaceFirst token sppTokenMaxReserved host.pendingRequestTokens <;> simp

/-! ## What a request does -/

def HostCall.isRequest : HostCall → Bool
  | .getValue .. | .setValue .. | .startStream .. => true
  | _ => false

theorem request_refused {host : SppHostEngine} {call : HostCall} (request : call.isRequest = true)
    (full : host.pendingRequestCount > 8) : perform host call = .ok (host, [], sppStatusPendingFull) := by
  cases call with
  | getValue client id => exact if_pos full
  | setValue client id value => exact if_pos full
  | startStream client id period streamType stream spare => exact if_pos full
  | connectToClient _ | getDefinition _ _ | getPropertyCount _ | processMessage _ _ _ => cases request

/-- The host after it drew a token and put it into the table. -/
def withRequest (host : SppHostEngine) : SppHostEngine :=
  (sppInsertToken (sppGetToken host).1 (sppGetToken host).2).1

/-- The host with a stream that was entered in the next place of its table. -/
def enterStream (host : SppHostEngine) (place stream : Nat) (object : SppStream) (period : UInt16)
    (bound : host.streamCount.toNat < sppStreamMaxCount) : SppHostEngine :=
  { host with
    streamObjects := host.streamObjects.set stream
      { object with definition := some place, period := period.toUInt32, streamId := host.streamCount }
    streamCount := host.streamCount + 1
    streams := host.streams.set host.streamCount.toNat (some stream) }

inductive RequestDone (host host' : SppHostEngine) (effects : List HostEffect) (status : SppStatus) :
    HostCall → Prop where
  | full (call : HostCall) (full : host.pendingRequestCount > 8) (same : host' = host) (silent : effects = [])
      (failed : status = sppStatusPendingFull) : RequestDone host host' effects status call
  | refused (call : HostCall) (room : ¬host.pendingRequestCount > 8) (same : host' = host) (silent : effects = [])
      (failed : status = sppStatusNoSuchClient ∨ status = sppStatusUnknownProperty) :
      RequestDone host host' effects status call
  | getValue {client : SppAddress} {id : UInt16} {header : List UInt8} (room : ¬host.pendingRequestCount > 8)
      (filled : sppFillMessageHeader host client sppMsgGetRequestId = .ok header) (drawn : host' = withRequest host)
      (sent : effects = [.sendMessage (header ++ [host.pending.next] ++ bytes16 id)]) (ok : status = sppStatusOk) :
      RequestDone host host' effects status (.getValue client id)
  | setValue {client : SppAddress} {id : UInt16} {value header bytes : List UInt8} {place : Nat}
      {pd : SppPropertyDefinition} (room : ¬host.pendingRequestCount > 8)
      (defined : sppHostGetDefinition host client id = .ok (sppStatusOk, some place))
      (stored : host.defsBuffer[place]? = some pd) (loaded : loadRange value 0 pd.size.toNat = .ok bytes)
      (filled : sppFillMessageHeader host client sppMsgSetRequestId = .ok header) (drawn : host' = withRequest host)
      (sent : effects = [.sendMessage (header ++ [host.pending.next, pd.size] ++ bytes16 id ++ bytes)])
      (ok : status = sppStatusOk) : RequestDone host host' effects status (.setValue client id value)
  | startStream {client : SppAddress} {id period : UInt16} {streamType : UInt8} {stream spare place : Nat}
      {object : SppStream} {header : List UInt8} (room : ¬host.pendingRequestCount > 8)
      (defined : sppHostGetDefinition host client id = .ok (sppStatusOk, some place))
      (here : host.streamObjects[stream]? = some object) (bound : host.streamCount.toNat < sppStreamMaxCount)
      (filled : sppFillMessageHeader host client sppMsgStreamRequestId = .ok header) (spared : 0 < spare)
      (entered : host' = withRequest (enterStream host place stream object period bound))
      (sent : effects = [.sendMessage (header ++ ([host.pending.next, streamType, host.streamCount] ++ bytes16 id ++
        bytes16 period).take sppMsgStreamRequestSize)])
      (ok : status = sppStatusOk) :
      RequestDone host host' effects status (.startStream client id period streamType stream spare)

inductive RequestOutcome (host host' : SppHostEngine) (effects : List HostEffect) (status : SppStatus) :
    Prop where
  | full (full : host.pendingRequestCount > 8) (same : host' = host) (silent : effects = [])
      (failed : status = sppStatusPendingFull)
  | refused (room : ¬host.pendingRequestCount > 8) (same : host' = host) (silent : effects = [])
      (failed : status = sppStatusNoSuchClient ∨ status = sppStatusUnknownProperty)
  | sent (message : List UInt8) (room : ¬host.pendingRequestCount > 8)
      (sent : effects = [.sendMessage message]) (ok : status = sppStatusOk)
      (token : message[sppMsgHdrSize host.addressLength]? = some host.pending.next)
      (pending : host'.pending = host.pending.request)
      (addressLength : host'.addressLength = host.addressLength)

theorem sppInsertToken_addressLength (host : SppHostEngine) (token : UInt8) :
    (sppInsertToken host token).1.addressLength = host.addressLength := by
  unfold sppInsertToken
  cases replaceFirst sppTokenMaxReserved token host.pendingRequestTokens <;> rfl

theorem sppFillMessageHeader_length {host : SppHostEngine} {client : SppAddress} {messageId : UInt8}
    {header : List UInt8} (filled : sppFillMessageHeader host client messageId = .ok header) :
    header.length = sppMsgHdrSize host.addressLength := by
  unfold sppFillMessageHeader at filled
  simp only [bind_eq_ok] at filled
  obtain ⟨_, _, _, _, filled⟩ := filled
  exact messageHeader_length filled

theorem token_on_wire {host : SppHostEngine} {client : SppAddress} {messageId : UInt8}
    {header : List UInt8} (filled : sppFillMessageHeader host client messageId = .ok header)
    (token : UInt8) (rest : List UInt8) :
    (header ++ token :: rest)[sppMsgHdrSize host.addressLength]? = some token := by
  rw [← sppFillMessageHeader_length filled]
  simp

theorem sppHostGetDefinition_none {host : SppHostEngine} {client : SppAddress} {id : UInt16}
    {status : SppStatus} (found : sppHostGetDefinition host client id = .ok (status, none)) :
    status = sppStatusNoSuchClient ∨ status = sppStatusUnknownProperty := by
  unfold sppHostGetDefinition at found
  simp only [bind_eq_ok] at found
  obtain ⟨known, _, found⟩ := found
  cases known with
  | none => exact Or.inl (by simpa using found.symm)
  | some index =>
    simp only [bind_eq_ok] at found
    obtain ⟨_, _, _, _, place, _, found⟩ := found
    cases place with
    | none => exact Or.inr (by simpa using found.symm)
    | some _ => simp at found

theorem sppHostGetDefinition_status {host : SppHostEngine} {client : SppAddress} {id : UInt16} {status : SppStatus}
    {place : Nat} (found : sppHostGetDefinition host client id = .ok (status, some place)) :
    status = sppStatusOk := by
  unfold sppHostGetDefinition at found
  simp only [bind_eq_ok] at found
  obtain ⟨known, _, found⟩ := found
  cases known with
  | none => simp at found
  | some index =>
    simp only [bind_eq_ok] at found
    obtain ⟨_, _, _, _, inside, _, found⟩ := found
    cases inside with
    | none => simp at found
    | some _ => exact (congrArg Prod.fst (Except.ok.inj found)).symm

section Request
variable {host host' : SppHostEngine} {client : SppAddress} {id : UInt16} {call : HostCall}
  {effects : List HostEffect} {status : SppStatus}

theorem checked_done {request : HostResult}
    (done : (if host.pendingRequestCount > 8 then pure (host, [], sppStatusPendingFull) else request) =
      .ok (host', effects, status))
    (checked : ¬host.pendingRequestCount > 8 → request = .ok (host', effects, status) →
      RequestDone host host' effects status call) : RequestDone host host' effects status call := by
  by_cases full : host.pendingRequestCount > 8
  · simp only [if_pos full, pure_eq_ok, Except.ok.injEq, Prod.mk.injEq] at done
    obtain ⟨rfl, rfl, rfl⟩ := done
    exact .full call full rfl rfl rfl
  · rw [if_neg full] at done
    exact checked full done

theorem getValue_done (done : sppHostGetValue host client id = .ok (host', effects, status)) :
    RequestDone host host' effects status (.getValue client id) := by
  apply checked_done done
  intro room done
  obtain ⟨known, -, done⟩ := bind_eq_ok.mp done
  cases known with
  | none =>
    simp only [pure_eq_ok, Except.ok.injEq, Prod.mk.injEq] at done
    obtain ⟨rfl, rfl, rfl⟩ := done
    exact .refused _ room rfl rfl (.inl rfl)
  | some index =>
    simp only [bind_eq_ok, pure_eq_ok, Except.ok.injEq, Prod.mk.injEq] at done
    obtain ⟨header, filled, rfl, rfl, rfl⟩ := done
    exact .getValue room filled rfl rfl rfl

theorem setValue_done {value : List UInt8}
    (done : sppHostSetValue host client id value = .ok (host', effects, status)) :
    RequestDone host host' effects status (.setValue client id value) := by
  apply checked_done done
  intro room done
  obtain ⟨⟨found, place⟩, defined, done⟩ := bind_eq_ok.mp done
  cases place with
  | none =>
    simp only [pure_eq_ok, Except.ok.injEq, Prod.mk.injEq] at done
    obtain ⟨rfl, rfl, rfl⟩ := done
    exact .refused _ room rfl rfl (sppHostGetDefinition_none defined)
  | some place =>
    obtain rfl := sppHostGetDefinition_status defined
    simp only [bind_eq_ok, pure_eq_ok, Except.ok.injEq, Prod.mk.injEq] at done
    obtain ⟨pd, stored, header, filled, bytes, loaded, rfl, rfl, rfl⟩ := done
    exact .setValue room defined (load_eq_ok.mp stored) loaded filled rfl rfl rfl

/-- The body of a stream request needs one byte behind its array. -/
theorem fillArray_streamRequest {token streamType streamId : UInt8} {id period : UInt16} {spare : Nat}
    {body : List UInt8} :
    fillArray sppMsgStreamRequestSize spare ([token, streamType, streamId] ++ bytes16 id ++ bytes16 period) =
        .ok body ↔
      0 < spare ∧
        ([token, streamType, streamId] ++ bytes16 id ++ bytes16 period).take sppMsgStreamRequestSize = body := by
  rw [fillArray_eq_ok]
  apply and_congr_left
  intro _
  simp only [List.length_append, length_bytes16, List.length_cons, List.length_nil, sppMsgStreamRequestSize]
  omega

theorem startStream_done {period : UInt16} {streamType : UInt8} {stream spare : Nat}
    (done : sppHostStartStream host client id period streamType stream spare = .ok (host', effects, status)) :
    RequestDone host host' effects status (.startStream client id period streamType stream spare) := by
  apply checked_done done
  intro room done
  obtain ⟨known, -, done⟩ := bind_eq_ok.mp done
  cases known with
  | none =>
    simp only [pure_eq_ok, Except.ok.injEq, Prod.mk.injEq] at done
    obtain ⟨rfl, rfl, rfl⟩ := done
    exact .refused _ room rfl rfl (.inl rfl)
  | some index =>
    obtain ⟨⟨found, place⟩, defined, done⟩ := bind_eq_ok.mp done
    cases place with
    | none =>
      simp only [pure_eq_ok, Except.ok.injEq, Prod.mk.injEq] at done
      obtain ⟨rfl, rfl, rfl⟩ := done
      exact .refused _ room rfl rfl (sppHostGetDefinition_none defined)
    | some place =>
      -- the stream is entered before the token is drawn
      obtain rfl := sppHostGetDefinition_status defined
      simp only [bind_eq_ok, pure_eq_ok, Except.ok.injEq, Prod.mk.injEq] at done
      obtain ⟨object, here, streams, entered, header, filled, body, written, rfl, rfl, rfl⟩ := done
      obtain ⟨bound, rfl⟩ := storeCell_eq_ok.mp entered
      obtain ⟨spared, rfl⟩ := fillArray_streamRequest.mp written
      exact .startStream room defined (load_eq_ok.mp here) bound filled spared rfl rfl rfl

theorem request_done (request : call.isRequest = true) (done : perform host call = .ok (host', effects, status)) :
    RequestDone host host' effects status call := by
  cases call with
  | getValue client id => exact getValue_done done
  | setValue client id value => exact setValue_done done
  | startStream client id period streamType stream spare => exact startStream_done done
  | connectToClient _ | getDefinition _ _ | getPropertyCount _ | processMessage _ _ _ => cases request

theorem RequestDone.outcome (done : RequestDone host host' effects status call) :
    RequestOutcome host host' effects status := by
  cases done with
  | full _ full same silent failed => exact .full full same silent failed
  | refused _ room same silent failed => exact .refused room same silent failed
  | getValue room filled drawn sent ok =>
    subst drawn
    refine .sent _ room sent ok ?_ (pending_request host) (sppInsertToken_addressLength _ _)
    rw [List.append_assoc]
    exact token_on_wire filled _ _
  | setValue room defined stored loaded filled drawn sent ok =>
    subst drawn
    refine .sent _ room sent ok ?_ (pending_request host) (sppInsertToken_addressLength _ _)
    rw [List.append_assoc, List.append_assoc]
    exact token_on_wire filled _ _
  | startStream room defined here bound filled spared entered sent ok =>
    subst entered
    exact .sent _ room sent ok (token_on_wire filled _ _) (pending_request _) (sppInsertToken_addressLength _ _)

theorem request_outcome (request : call.isRequest = true)
    (done : perform host call = .ok (host', effects, status)) : RequestOutcome host host' effects status :=
  (request_done request done).outcome

end Request

/-! ## What a received message does -/

/-- The token of a received response that passes the header checks. -/
def HostCall.responseToken (addressLength : UInt8) : HostCall → Option UInt8
  | .processMessage message len _ =>
    if len.toNat < addressLength.toNat * 2 + 2 then none
    else if message[0]? = some sppMsgSyncWord ∧ message[1]?.any isResponseId then
      message[sppMsgHdrSize addressLength]?
    else none
  | _ => none

structure SameRequests (host host' : SppHostEngine) : Prop where
  pending : host'.pending = host.pending
  addressLength : host'.addressLength = host.addressLength

theorem SameRequests.trans {first second third : SppHostEngine} (one : SameRequests first second)
    (two : SameRequests second third) : SameRequests first third :=
  ⟨two.pending.trans one.pending, two.addressLength.trans one.addressLength⟩

theorem AddOutcome.same {host host' : SppHostEngine} {client client' : SppAddress}
    (outcome : AddOutcome host host' client client') : SameRequests host host' := by
  cases outcome with
  | known place found same pointer => exact same ▸ ⟨rfl, rfl⟩
  | new _ _ _ _ _ _ _ _ _ added => exact added ▸ ⟨rfl, rfl⟩

theorem LoopOutcome.same {client : SppAddress} {first behind : Nat} {host host' : SppHostEngine}
    {status status' : SppStatus} (outcome : LoopOutcome client first behind host host' status status') :
    SameRequests host host' := by
  cases outcome with
  | alone none same kept => exact same ▸ ⟨rfl, rfl⟩
  | duplicate _ _ _ _ _ _ _ given _ => exact given ▸ ⟨rfl, rfl⟩

theorem sppConnectToClient_same {host host' : SppHostEngine} {client : SppAddress}
    {effects : List HostEffect} (connected : sppConnectToClient host client = .ok (host', effects)) :
    SameRequests host host' ∧ ∃ message, effects = [.sendMessage message] := by
  obtain ⟨added, client', header, status, add, filled, looped, sent⟩ := sppConnectToClient_outcome connected
  exact ⟨add.same.trans looped.same, _, sent⟩

theorem sppUnpackPropDef_same {host host' : SppHostEngine} {client : SppAddress}
    {message : List UInt8} {len : UInt16} {unset : Nat}
    (unpacked : sppUnpackPropDef host client message len unset = .ok host') : SameRequests host host' := by
  obtain ⟨found, bound, copy, remaining, -, -, -, stored⟩ := (sppUnpackPropDef_outcome unpacked).stored
  exact stored ▸ ⟨rfl, rfl⟩

theorem sppClearToken_addressLength (host : SppHostEngine) (token : UInt8) :
    (sppClearToken host token).1.addressLength = host.addressLength := by
  unfold sppClearToken
  cases replaceFirst token sppTokenMaxReserved host.pendingRequestTokens <;> rfl

/-- The outcomes of all calls, as far as requests are concerned. -/
inductive CallOutcome (host host' : SppHostEngine) (call : HostCall) (effects : List HostEffect)
    (status : SppStatus) : Prop where
  | drawn (message : List UInt8) (request : call.isRequest = true) (ok : status = sppStatusOk)
      (notResponse : call.responseToken host.addressLength = none)
      (sent : effects = [.sendMessage message])
      (token : message[sppMsgHdrSize host.addressLength]? = some host.pending.next)
      (pending : host'.pending = host.pending.request)
      (addressLength : host'.addressLength = host.addressLength)
  | answered (token : UInt8) (received : call.responseToken host.addressLength = some token)
      (notRequest : call.isRequest = false)
      (pending : host'.pending = host.pending.clear token)
      (addressLength : host'.addressLength = host.addressLength)
      (accepted : effects ≠ [] → token ∈ host.pending.tokens.toList)
  | unchanged (idle : call.isRequest = true → status ≠ sppStatusOk)
      (notResponse : call.responseToken host.addressLength = none) (same : SameRequests host host')
      (noValue : ∀ client id value, .onValueResponse client id value ∉ effects)

theorem CallOutcome.quiet {host host' : SppHostEngine} {call : HostCall} {effects : List HostEffect}
    {status : SppStatus} (notRequest : call.isRequest = false)
    (notResponse : call.responseToken host.addressLength = none) (same : SameRequests host host')
    (noValue : ∀ client id value, .onValueResponse client id value ∉ effects) :
    CallOutcome host host' call effects status :=
  .unchanged (fun request => absurd request (by simp [notRequest])) notResponse same noValue

theorem RequestOutcome.outcome {host host' : SppHostEngine} {call : HostCall} {effects : List HostEffect}
    {status : SppStatus} (request : call.isRequest = true) (outcome : RequestOutcome host host' effects status) :
    CallOutcome host host' call effects status := by
  have notResponse : call.responseToken host.addressLength = none := by
    cases call with
    | getValue _ _ | setValue _ _ _ | startStream _ _ _ _ _ _ => rfl
    | connectToClient _ | getDefinition _ _ | getPropertyCount _ | processMessage _ _ _ => cases request
  cases outcome with
  | full _ same silent failed =>
    subst same silent failed
    exact .unchanged (fun _ => by decide) notResponse ⟨rfl, rfl⟩ (by simp)
  | refused _ same silent failed =>
    subst same silent
    refine .unchanged (fun _ => ?_) notResponse ⟨rfl, rfl⟩ (by simp)
    rcases failed with rfl | rfl <;> decide
  | sent message _ sent ok token pending addressLength =>
    exact .drawn message request ok notResponse sent token pending addressLength

theorem sppProcessStream_outcome {host host' : SppHostEngine} {message : List UInt8} {bodyIdx : Nat}
    {effects : List HostEffect} {status : SppStatus}
    (done : sppProcessStream host message bodyIdx = .ok (host', effects, status)) :
    SameRequests host host' ∧ ∃ timestamp stream, effects = [.onStreamResponse timestamp stream] := by
  unfold sppProcessStream at done
  simp only [bind_eq_ok] at done
  obtain ⟨_, _, pointer, _, done⟩ := done
  cases pointer with
  | none => cases done
  | some stream =>
    simp only [bind_eq_ok, pure_eq_ok, Except.ok.injEq, Prod.mk.injEq] at done
    obtain ⟨timestamp, _, object, _, rfl, rfl, -⟩ := done
    exact ⟨⟨rfl, rfl⟩, timestamp, _, rfl⟩

theorem readHeader_eq_ok {addressLength : UInt8} {message : List UInt8} {len : UInt16} {msgId : UInt8}
    {sender : List UInt8} (read : readHeader addressLength message len = .ok (.ok (msgId, sender))) :
    ¬len.toNat < addressLength.toNat * 2 + 2 ∧ message[0]? = some sppMsgSyncWord ∧ message[1]? = some msgId := by
  unfold readHeader at read
  by_cases short : len.toNat < addressLength.toNat * 2 + 2
  · simp [short] at read
  simp only [if_neg short, bind_eq_ok] at read
  obtain ⟨sync, first, read⟩ := read
  by_cases wrong : sync ≠ sppMsgSyncWord
  · simp [wrong] at read
  · simp only [if_neg wrong, bind_eq_ok, pure_eq_ok, Except.ok.injEq, Prod.mk.injEq] at read
    obtain ⟨_, named, _, _, _, _, rfl, rfl⟩ := read
    obtain rfl : sync = sppMsgSyncWord := not_not.mp wrong
    exact ⟨short, load_eq_ok.mp first, load_eq_ok.mp named⟩

theorem responseToken_header {addressLength : UInt8} {message : List UInt8} {len : UInt16} {msgId : UInt8}
    {sender : List UInt8} (read : readHeader addressLength message len = .ok (.ok (msgId, sender))) (unset : Nat) :
    (HostCall.processMessage message len unset).responseToken addressLength =
      if isResponseId msgId = true then message[sppMsgHdrSize addressLength]? else none := by
  obtain ⟨long, sync, named⟩ := readHeader_eq_ok read
  simp only [HostCall.responseToken, if_neg long, sync, named, Option.any_some, true_and]

theorem responseToken_refused {addressLength : UInt8} {message : List UInt8} {len : UInt16} {status : SppStatus}
    (read : readHeader addressLength message len = .ok (.error status)) (unset : Nat) :
    (HostCall.processMessage message len unset).responseToken addressLength = none := by
  unfold readHeader at read
  by_cases short : len.toNat < addressLength.toNat * 2 + 2
  · simp only [HostCall.responseToken, if_pos short]
  simp only [if_neg short, bind_eq_ok] at read
  obtain ⟨sync, first, read⟩ := read
  by_cases wrong : sync ≠ sppMsgSyncWord
  · simp [HostCall.responseToken, load_eq_ok.mp first, wrong]
  · simp [if_neg wrong, bind_eq_ok] at read

theorem processMessage_outcome {host host' : SppHostEngine} {message : List UInt8} {len : UInt16}
    {unset : Nat} {effects : List HostEffect} {status : SppStatus}
    (done : sppHostProcessMessage host message len unset = .ok (host', effects, status)) :
    CallOutcome host host' (.processMessage message len unset) effects status := by
  -- messages other than the three responses leave the requests alone
  have quiet {msgId : UInt8} {sender : List UInt8}
      (header : readHeader host.addressLength message len = .ok (.ok (msgId, sender)))
      (notResponse : isResponseId msgId = false) (same : SameRequests host host')
      (noValue : ∀ client id value, .onValueResponse client id value ∉ effects) :
      CallOutcome host host' (.processMessage message len unset) effects status :=
    .quiet rfl (by simp [responseToken_header header, notResponse]) same noValue
  cases message_outcome done with
  | refused header same silent =>
    subst same silent
    exact .quiet rfl (responseToken_refused header unset) ⟨rfl, rfl⟩ (by simp)
  | busy sender header notReady same answer ok =>
    subst same
    simp only [sppSendConnectBusyResponse, bind_eq_ok, pure_eq_ok, Except.ok.injEq] at answer
    obtain ⟨_, _, rfl⟩ := answer
    exact quiet header rfl ⟨rfl, rfl⟩ (by simp)
  | connected sender propertyListId header ready listId connects ok =>
    obtain ⟨same, _, rfl⟩ := sppConnectToClient_same connects
    exact quiet header rfl ⟨same.pending, same.addressLength⟩ (by simp)
  | announced sender header same silent =>
    subst same silent
    exact quiet header rfl ⟨rfl, rfl⟩ (by simp)
  | defined sender header unpacked silent ok =>
    subst silent
    exact quiet header rfl (sppUnpackPropDef_same unpacked) (by simp)
  | answered msgId sender token header isResponse loaded cleared accepted =>
    subst cleared
    exact .answered token (by simp [responseToken_header header, isResponse, loaded]) rfl
      (pending_clear host token) (sppClearToken_addressLength host token) accepted
  | streamed sender header streams =>
    obtain ⟨same, _, _, rfl⟩ := sppProcessStream_outcome streams
    exact quiet header rfl same (by simp)
  | unknown msgId sender header other same silent failed =>
    subst same silent
    have notResponse : isResponseId msgId = false := by
      simp only [List.mem_cons, not_or] at other
      simp [isResponseId, other]
    exact quiet header notResponse ⟨rfl, rfl⟩ (by simp)

/-- What a call does to the requests, for every call that completes. -/
theorem call_outcome {host host' : SppHostEngine} {call : HostCall} {event : HostEvent}
    (done : hostCall host call = .ok (host', event)) :
    CallOutcome host host' call event.effects event.status := by
  obtain ⟨performed, -⟩ := hostCall_eq_ok.mp done
  cases call with
  | getValue _ _ | setValue _ _ _ | startStream _ _ _ _ _ _ =>
    exact (request_outcome rfl performed).outcome rfl
  | processMessage message len unset => exact processMessage_outcome performed
  | connectToClient client =>
    simp only [perform, bind_eq_ok, pure_eq_ok, Except.ok.injEq, Prod.mk.injEq, Prod.exists] at performed
    obtain ⟨_, _, connected, rfl, effects, -⟩ := performed
    obtain ⟨same, _, rfl⟩ := sppConnectToClient_same connected
    exact .quiet rfl rfl same (by simp [← effects])
  | getDefinition _ _ =>
    simp only [perform, bind_eq_ok, pure_eq_ok, Except.ok.injEq, Prod.mk.injEq, Prod.exists] at performed
    obtain ⟨_, _, _, rfl, effects, -⟩ := performed
    exact .quiet rfl rfl ⟨rfl, rfl⟩ (by simp [← effects])
  | getPropertyCount _ =>
    simp only [perform, bind_eq_ok, pure_eq_ok, Except.ok.injEq, Prod.mk.injEq] at performed
    obtain ⟨_, _, rfl, effects, -⟩ := performed
    exact .quiet rfl rfl ⟨rfl, rfl⟩ (by simp [← effects])

theorem CallOutcome.addressLength {host host' : SppHostEngine} {call : HostCall}
    {effects : List HostEffect} {status : SppStatus}
    (outcome : CallOutcome host host' call effects status) : host'.addressLength = host.addressLength := by
  cases outcome with
  | drawn _ _ _ _ _ _ _ addressLength => exact addressLength
  | answered _ _ _ _ addressLength _ => exact addressLength
  | unchanged _ _ same _ => exact same.addressLength

end TvcHopper.Spp
