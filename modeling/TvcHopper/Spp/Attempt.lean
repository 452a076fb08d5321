import TvcHopper.Spp.Consistent

/-! A connection attempt of any client, at a host that may know it or be busy.

The host answers a request with OK, or with one of two statuses that end the
attempt at once. After an OK the client sends all its definitions, whatever the
host makes of the announcement, and the host takes them as long as it has
entries left.
-/

set_option autoImplicit false

namespace TvcHopper.Spp
open Machine

variable {σ : Type}

/-- A client that can ask for a connection, with any property list the protocol can carry. -/
structure Connectable (client : SppClientEngine σ) (address : UInt8) : Prop where
  one : OneByteClient client address
  broadcastAddress : ∃ byte rest, client.broadcastAddress.address = .external (byte :: rest)
  listed : ListedProperties client
  hostAddressBuffer : client.hostAddressBuffer ≠ []

/-- A client in the table with another address has this property list. -/
def ListedElsewhere (host : SppHostEngine) (address : UInt8) (propertyListId : UInt16) : Prop :=
  ∃ (i : Nat) (bound : i < sppConnectionsMax), i < host.clientCount.toNat ∧
    host.clients[i].propertyListId = propertyListId ∧ ¬PointsTo host host.clients[i] address

/-- There is a place for the client, and a byte for its address, unless it is known. -/
def HasRoom (host : SppHostEngine) (joined : List Joined) (address : UInt8) : Prop :=
  address ∉ joined.map (·.address) →
    joined.length < sppConnectionsMax ∧ joined.length < host.addressBuffer.length

/-! ## The answer to a request -/

structure Placed (own address : UInt8) (joined : List Joined) (place : Nat) (host : SppHostEngine) : Prop where
  consistent : Consistent own host joined
  here : joined[place]?.map (·.address) = some address

section Reply
variable {own address : UInt8} {host : SppHostEngine} {joined : List Joined} {client : SppAddress} {place : Nat}

theorem Placed.bound (placed : Placed own address joined place host) : place < sppConnectionsMax := by
  obtain ⟨entry, here, -⟩ := Option.map_eq_some_iff.mp placed.here
  exact Nat.lt_of_lt_of_le (List.getElem?_eq_some_iff.mp here).1 placed.consistent.table.room

theorem Placed.known (placed : Placed own address joined place host) (propertyListId : UInt16) :
    sppGetClientIdx host ⟨.external [address], propertyListId⟩ = .ok (some place) := by
  obtain ⟨entry, here, rfl⟩ := Option.map_eq_some_iff.mp placed.here
  exact sppGetClientIdx_joined placed.consistent.one placed.consistent.table placed.consistent.distinct here
    (pointsTo_external host entry.address [] propertyListId)

theorem Consistent.listedElsewhere_iff (consistent : Consistent own host joined) (propertyListId : UInt16) :
    ListedElsewhere host address propertyListId ↔
      ∃ entry ∈ joined, entry.propertyListId = propertyListId ∧ entry.address ≠ address := by
  have count := consistent.table.count
  have room := consistent.table.room
  constructor
  · rintro ⟨i, bound, counted, list, apart⟩
    have member : i < joined.length := count ▸ counted
    rw [consistent.table.known i bound member] at list
    refine ⟨joined[i], List.getElem_mem member, list, ?_⟩
    rintro rfl
    exact apart (consistent.table.read bound member)
  · rintro ⟨entry, known, rfl, apart⟩
    obtain ⟨i, member, rfl⟩ := List.getElem_of_mem known
    have bound : i < sppConnectionsMax := by omega
    refine ⟨i, bound, count ▸ member, by rw [consistent.table.known i bound member], ?_⟩
    -- one address leads to one byte
    rintro ⟨rest, reads⟩
    obtain ⟨others, known⟩ := consistent.table.read bound member
    rw [known] at reads
    exact apart (List.cons.inj (Option.some.inj reads)).1

theorem Consistent.isDuplicateAt_eq (consistent : Consistent own host joined) (points : PointsTo host client address)
    {i : Nat} (member : i < joined.length) :
    isDuplicateAt host client i =
      .ok (decide (joined[i].propertyListId = client.propertyListId ∧ joined[i].address ≠ address)) := by
  have bound : i < sppConnectionsMax := Nat.lt_of_lt_of_le member consistent.table.room
  rw [isDuplicateAt, loadCell_of_lt host.clients bound, ok_bind, consistent.table.known i bound member,
    (isClientAt_eq consistent.one consistent.table points bound).1, List.getElem?_eq_getElem member, Option.any_some]
  by_cases same : joined[i].propertyListId = client.propertyListId
  · by_cases equal : joined[i].address = address <;> simp [same, equal]
  · simp [same]

theorem Consistent.add (consistent : Consistent own host joined) (points : PointsTo host client address)
    (room : HasRoom host joined address) :
    ∃ added client' joined' place, sppAddClient host client = .ok (added, client') ∧
      Placed own address joined' place added ∧ PointsTo added client' address ∧
      client'.propertyListId = client.propertyListId ∧ added.state = host.state ∧
      (∀ entry, entry ∈ joined' ∧ entry.address ≠ address ↔ entry ∈ joined ∧ entry.address ≠ address) := by
  by_cases known : address ∈ joined.map (·.address)
  · obtain ⟨entry, member, rfl⟩ := List.mem_map.mp known
    obtain ⟨i, within, rfl⟩ := List.getElem_of_mem member
    have here : joined[i]? = some joined[i] := List.getElem?_eq_getElem within
    have found := known_client consistent.one consistent.table consistent.distinct here points
    refine ⟨host, client, joined, i, ?_, ⟨consistent, by rw [here]; rfl⟩, points, rfl, rfl, fun _ => Iff.rfl⟩
    rw [sppAddClient, found, ok_bind]
    rfl
  · obtain ⟨space, memory⟩ := room known
    have consistent' := consistent.withClient known client.propertyListId space memory
    refine ⟨_, _, _, joined.length, sppAddClient_new consistent.one consistent.table known points space memory,
      ⟨consistent', by simp⟩, ?_, rfl, rfl, ?_⟩
    · simpa using consistent'.table.points (i := joined.length) (by simp) client.propertyListId
    · intro entry
      simp only [List.mem_append, List.mem_singleton]
      constructor
      · rintro ⟨before | rfl, apart⟩
        · exact ⟨before, apart⟩
        · exact absurd rfl apart
      · rintro ⟨before, apart⟩
        exact ⟨.inl before, apart⟩

/-- What the host sends back to the client, and the state it is in then. -/
inductive Reply (own address : UInt8) (joined : List Joined) (place : Nat) (received : SppHostEngine) :
    SppStatus → Prop where
  | refused {status : SppStatus} (reason : status = sppStatusDuplicateClient ∨ status = sppStatusBusy) :
      Reply own address joined place received status
  | accepted (placed : Placed own address joined place received) (connecting : received.state = .connecting) :
      Reply own address joined place received sppStatusOk

theorem Reply.placed {joined : List Joined} {place : Nat} {received : SppHostEngine} {status : SppStatus}
    (reply : Reply own address joined place received status) (ok : status = sppStatusOk) :
    Placed own address joined place received ∧ received.state = .connecting := by
  cases reply with
  | refused reason =>
    subst ok
    rcases reason with same | same <;> exact absurd same (by decide)
  | accepted placed connecting => exact ⟨placed, connecting⟩

theorem Consistent.reply (consistent : Consistent own host joined) {address : UInt8}
    (room : HasRoom host joined address) (propertyListId : UInt16) :
    ∃ received status joined' place,
      sppConnectToClient { host with state := .connecting } ⟨.external [address], propertyListId⟩ =
        .ok (received, [.sendMessage (Message.connectResponse own address status)]) ∧
      Reply own address joined' place received status ∧ ConnectFrame host received ∧
      (∀ entry, entry ∈ joined' ∧ entry.address ≠ address ↔ entry ∈ joined ∧ entry.address ≠ address) ∧
      ((ListedElsewhere host address propertyListId ∧ status = sppStatusDuplicateClient ∧ received.state = .ready) ∨
        (¬ListedElsewhere host address propertyListId ∧ status = sppStatusOk)) := by
  obtain ⟨added, client', joined', place, add, placed, points, list, state, others⟩ :=
    (consistent.withState .connecting).add (pointsTo_external _ address [] propertyListId) room
  have count := placed.consistent.table.count
  have few := placed.consistent.table.room
  have bound := placed.bound
  have header := fillMessageHeader_one placed.consistent.one points sppMsgConnectResponseId
  obtain ⟨received, status, looped⟩ : ∃ received status,
      sppConnectLoop client' added.clientCount.toNat 0 added sppStatusOk = .ok (received, status) :=
    sppConnectLoop_total (by omega) (by omega) sppStatusOk
  have outcome := sppConnectLoop_outcome (Nat.zero_add _).le looped
  have connected : sppConnectToClient { host with state := .connecting } ⟨.external [address], propertyListId⟩ =
      .ok (received, [.sendMessage (Message.connectResponse own address status)]) := by
    rw [sppConnectToClient, add, ok_bind]
    simp only [header, ok_bind, looped, pure_eq_ok]
    rfl
  have asking : ConnectFrame host { host with state := .connecting } := ⟨rfl, rfl, rfl, rfl, rfl, rfl, rfl⟩
  have frame := asking.trans (sppConnectToClient_frame connected)
  refine ⟨received, status, joined', place, connected, ?_⟩
  -- who is a duplicate can be read off the table as it was
  have elsewhere : ListedElsewhere host address propertyListId ↔
      ∃ i, i < joined'.length ∧ isDuplicateAt added client' i = .ok true := by
    rw [consistent.listedElsewhere_iff]
    constructor
    · rintro ⟨entry, known, same, apart⟩
      obtain ⟨member, -⟩ := (others entry).mpr ⟨known, apart⟩
      obtain ⟨i, within, rfl⟩ := List.getElem_of_mem member
      refine ⟨i, within, ?_⟩
      rw [placed.consistent.isDuplicateAt_eq points within, list]
      simp [same, apart]
    · rintro ⟨i, within, found⟩
      rw [placed.consistent.isDuplicateAt_eq points within, list] at found
      obtain ⟨same, apart⟩ : joined'[i].propertyListId = propertyListId ∧ joined'[i].address ≠ address := by
        simpa using found
      exact ⟨joined'[i], ((others _).mp ⟨List.getElem_mem within, apart⟩).1, same, apart⟩
  cases outcome with
  | alone none same kept =>
    subst same kept
    refine ⟨.accepted placed state, frame, others, .inr ⟨?_, rfl⟩⟩
    rw [elsewhere]
    rintro ⟨i, within, found⟩
    rw [none i (Nat.zero_le _) (by omega)] at found
    cases found
  | duplicate place low high lastBound bound found last given marked =>
    subst marked
    have ready : received.state = .ready := by rw [given]; rfl
    exact ⟨.refused (.inl rfl), frame, others, .inl ⟨elsewhere.mpr ⟨place, by omega, found⟩, rfl, ready⟩⟩

end Reply

/-! ## The phases of an attempt -/

def listMessages (client : SppClientEngine σ) (status : SppStatus) : Nat :=
  if status = sppStatusOk then client.properties.length + 1 else 0

/-- `Attempt own client address joined place received status waiting link`: the host answers the request of
the client with `status`, which leaves it as `received`, and so many messages are still to be processed. -/
inductive Attempt (own : UInt8) (client : SppClientEngine σ) (address : UInt8) (joined : List Joined) (place : Nat)
    (received : SppHostEngine) (status : SppStatus) : Nat → Link σ → Prop where
  | requested {host : SppHostEngine} (broadcast : UInt8) (processed : ∀ trailing unset,
        sppHostProcessMessage host (Message.connectRequest address broadcast client.propertyListId ++ trailing) 6
          unset = .ok (received, [.sendMessage (Message.connectResponse own address status)], sppStatusOk)) :
      Attempt own client address joined place received status (listMessages client status + 2)
        ⟨host, client, [], [Message.connectRequest address broadcast client.propertyListId]⟩
  | answered : Attempt own client address joined place received status (listMessages client status + 1)
      ⟨received, client, [Message.connectResponse own address status], []⟩
  | refused {client' : SppClientEngine σ} (notOk : status ≠ sppStatusOk) :
      Attempt own client address joined place received status 0 ⟨received, client', [], []⟩
  | announced (numBytes : UInt16) (last : UInt8) (ok : status = sppStatusOk) :
      Attempt own client address joined place received status (client.properties.length + 1)
        ⟨received, knowing client own, [],
          Message.listResponse address own client.propertyCount.toUInt8 numBytes last ::
            sentDefinitions address own client.properties⟩
  | transferring {host : SppHostEngine} (done todo : List SppPropertyDefinition)
      (split : client.properties = done ++ todo) (ok : status = sppStatusOk)
      (placed : Placed own address joined place host)
      (room : host.defsBuffer.length = received.defsBuffer.length)
      (used : host.defsBufferUsed.toNat = received.defsBufferUsed.toNat + done.length)
      (state : host.state = if client.properties ≠ [] ∧ todo = [] then .ready else .connecting) :
      Attempt own client address joined place received status todo.length
        ⟨host, knowing client own, [], sentDefinitions address own todo⟩

/-- The buffer has no entries for the definitions of an accepted client. -/
def Overflows (client : SppClientEngine σ) (received : SppHostEngine) (status : SppStatus) : Prop :=
  status = sppStatusOk ∧
    received.defsBuffer.length < received.defsBufferUsed.toNat + client.properties.length

section Attempt
variable {own address : UInt8} {client : SppClientEngine σ} {joined : List Joined} {place waiting : Nat}
  {received : SppHostEngine} {status : SppStatus} {link : Link σ}

theorem Attempt.drained_iff (attempt : Attempt own client address joined place received status waiting link) :
    link.Drained ↔ waiting = 0 := by
  cases attempt with
  | requested _ _ | answered | announced _ _ _ => simp [Link.Drained]
  | refused notOk => simp [Link.Drained]
  | transferring done todo split ok placed room used state => cases todo <;> simp [Link.Drained, sentDefinitions]

theorem Attempt.clientReceive (connectable : Connectable client address)
    (reply : Reply own address joined place received status)
    (attempt : Attempt own client address joined place received status waiting link) (some : link.toClient ≠ [])
    (trailing : List UInt8) (stack : Stack) :
    ∃ next event link', waiting = next + 1 ∧ linkStep link (.clientReceive trailing stack) = .ok (link', event) ∧
      Attempt own client address joined place received status next link' := by
  cases attempt with
  | requested _ _ | refused _ | announced _ _ _ | transferring _ _ _ _ _ _ _ _ => exact absurd rfl some
  | answered =>
    cases reply with
    | refused reason =>
      obtain ⟨client', status', processed⟩ :=
        client_refused connectable.one connectable.hostAddressBuffer reason own trailing stack
      have notOk : status ≠ sppStatusOk := by rcases reason with rfl | rfl <;> decide
      refine ⟨0, _, _, by rw [listMessages, if_neg notOk], link_clientReceive rfl processed, .refused notOk⟩
    | accepted placed connecting =>
      obtain ⟨client', numBytes, last, processed, rfl⟩ := client_connectResponse connectable.one connectable.listed
        connectable.hostAddressBuffer own trailing stack
      exact ⟨_, _, _, by rw [listMessages, if_pos rfl], link_clientReceive rfl processed, .announced numBytes last rfl⟩

theorem Attempt.unpacked (connectable : Connectable client address) {host : SppHostEngine}
    {done rest : List SppPropertyDefinition} {pd : SppPropertyDefinition}
    (split : client.properties = done ++ pd :: rest) (ok : status = sppStatusOk)
    (placed : Placed own address joined place host) (room : host.defsBuffer.length = received.defsBuffer.length)
    (used : host.defsBufferUsed.toNat = received.defsBufferUsed.toNat + done.length)
    (state : host.state = .connecting) (inside : host.defsBufferUsed.toNat < host.defsBuffer.length)
    (copy : SppPropertyDefinition) :
    Attempt own client address joined place received status rest.length
      ⟨withDefinition host place placed.bound copy (UInt8.ofNat rest.length), knowing client own, [],
        sentDefinitions address own rest⟩ := by
  have whole : client.properties.length = done.length + (rest.length + 1) := by
    rw [split, List.length_append, List.length_cons]
  have short := connectable.listed.short
  have placed' : Placed own address joined place
      (withDefinition host place placed.bound copy (UInt8.ofNat rest.length)) :=
    ⟨placed.consistent.withDefinition inside place placed.bound copy _, placed.here⟩
  refine .transferring (done ++ [pd]) rest (by rw [split, List.append_assoc]; rfl) ok placed' ?_ ?_ ?_
  · rw [withDefinition, List.length_set, room]
  · have limit := placed.consistent.size
    have wide := host.defsBufferSize.toNat_lt
    have one : (1 : UInt16).toNat = 1 := rfl
    rw [withDefinition, UInt16.toNat_add, List.length_append, List.length_singleton]
    omega
  · -- the last definition has none remaining
    have last : UInt8.ofNat rest.length = 0 ↔ rest = [] := by
      rw [← UInt8.toNat_inj, UInt8.toNat_ofNat', UInt8.toNat_zero, Nat.mod_eq_of_lt (by omega)]
      exact List.length_eq_zero_iff
    have some : client.properties ≠ [] := by simp [split]
    rw [withDefinition, state]
    simp only [last, some, ne_eq, not_false_eq_true, true_and]

theorem Attempt.hostReceive (connectable : Connectable client address)
    (reply : Reply own address joined place received status)
    (attempt : Attempt own client address joined place received status waiting link) (some : link.toHost ≠ [])
    (trailing : List UInt8) (unset : Nat) :
    (∃ next event link', waiting = next + 1 ∧ linkStep link (.hostReceive trailing unset) = .ok (link', event) ∧
        Attempt own client address joined place received status next link') ∨
      Overflows client received status ∧ ∃ fault, linkStep link (.hostReceive trailing unset) = .error fault := by
  cases attempt with
  | answered | refused _ => exact absurd rfl some
  | requested broadcast processed =>
    exact .inl ⟨_, _, _, rfl, link_hostReceive rfl (processed trailing unset), .answered⟩
  | announced numBytes last ok =>
    obtain ⟨placed, connecting⟩ := reply.placed ok
    obtain ⟨answer, processed, -⟩ := processListResponse placed.consistent.one address client.propertyCount.toUInt8
      numBytes last trailing (by decide : 4 ≤ (8 : UInt16).toNat) unset
    refine .inl ⟨_, _, _, rfl, link_hostReceive rfl processed, ?_⟩
    refine .transferring [] client.properties rfl ok placed rfl rfl ?_
    -- an empty list ends with its announcement, and the host keeps connecting
    rw [if_neg fun both => both.1 both.2, connecting]
  | @transferring host done todo split ok placed room used state =>
    cases todo with
    | nil => exact absurd rfl some
    | cons pd rest =>
      have whole : client.properties.length = done.length + (rest.length + 1) := by
        rw [split, List.length_append, List.length_cons]
      have short := connectable.listed.short
      have terminated : 0 ∈ pd.name.toList := connectable.listed.names pd (by simp [split])
      by_cases inside : host.defsBufferUsed.toNat < host.defsBuffer.length
      · obtain ⟨copy, -, processed⟩ := processDefinition placed.consistent.one (placed.known 0) placed.bound inside
          terminated (UInt8.ofNat rest.length) trailing unset
        have connecting : host.state = .connecting := by simpa using state
        exact .inl ⟨_, _, _, rfl, link_hostReceive rfl processed,
          Attempt.unpacked connectable split ok placed room used connecting inside copy⟩
      · have long : 4 ≤ (messageSize16 (Message.definition address own pd (UInt8.ofNat rest.length)
            (sentName pd.name))).toNat := by
          have below : nameLength pd.name < 32 := nameLength_lt terminated
          have sent := length_sentName terminated
          rw [messageSize16, toNat_ofNat16] <;> rw [length_definitionMessage] <;> omega
        obtain ⟨fault, faulted⟩ := processDefinition_full placed.consistent.one (Nat.le_of_not_lt inside) address pd
          (UInt8.ofNat rest.length) (sentName pd.name) trailing long unset
        exact .inr ⟨⟨ok, by omega⟩, fault, link_hostReceive_fault rfl faulted⟩

theorem attempt_delivery (connectable : Connectable client address)
    (reply : Reply own address joined place received status)
    (attempt : Attempt own client address joined place received status waiting link) {action : LinkAction}
    (delivery : action.isDelivery = true) :
    (∃ next event link', linkStep link action = .ok (link', event) ∧
        Attempt own client address joined place received status next link') ∨
      Overflows client received status ∧ ∃ fault, linkStep link action = .error fault := by
  cases action with
  | start _ | call _ => cases delivery
  | clientReceive trailing stack =>
    by_cases empty : link.toClient = []
    · exact .inl ⟨waiting, .idle, link, link_clientReceive_idle empty, attempt⟩
    · obtain ⟨next, event, link', -, stepped, kept⟩ := attempt.clientReceive connectable reply empty trailing stack
      exact .inl ⟨next, event, link', stepped, kept⟩
  | hostReceive trailing unset =>
    by_cases empty : link.toHost = []
    · exact .inl ⟨waiting, .idle, link, link_hostReceive_idle empty, attempt⟩
    · rcases attempt.hostReceive connectable reply empty trailing unset with
        ⟨next, event, link', -, stepped, kept⟩ | full
      · exact .inl ⟨next, event, link', stepped, kept⟩
      · exact .inr full

/-- Deliveries in any order take the attempt further, or there are too many definitions for the buffer. -/
theorem attempt_run (connectable : Connectable client address)
    (reply : Reply own address joined place received status)
    (attempt : Attempt own client address joined place received status waiting link) {deliveries : List LinkAction}
    (allowed : ∀ action ∈ deliveries, action.isDelivery = true) :
    (∃ next events link', run linkStep link deliveries = .ok (link', events) ∧
        Attempt own client address joined place received status next link') ∨
      Overflows client received status ∧ ∃ fault, run linkStep link deliveries = .error fault := by
  induction deliveries generalizing link waiting with
  | nil => exact .inl ⟨waiting, [], link, rfl, attempt⟩
  | cons action rest ih =>
    have later : ∀ action ∈ rest, action.isDelivery = true := fun _ member => allowed _ (List.mem_cons_of_mem _ member)
    rcases attempt_delivery connectable reply attempt (allowed action (List.mem_cons_self ..)) with
      ⟨next, event, middle, stepped, kept⟩ | ⟨overflows, fault, stepped⟩
    · rcases ih kept later with ⟨final, events, link', ran, done⟩ | ⟨overflows, fault, ran⟩
      · exact .inl ⟨final, event :: events, link', run_cons_eq_ok.mpr ⟨_, _, _, stepped, ran, rfl⟩, done⟩
      · exact .inr ⟨overflows, fault, run_cons_fault stepped ran⟩
    · exact .inr ⟨overflows, fault, run_head_fault stepped⟩

/-- Every attempt can be brought to its end, or to the definition that has no entry in the buffer. -/
theorem attempt_ends (connectable : Connectable client address)
    (reply : Reply own address joined place received status)
    (attempt : Attempt own client address joined place received status waiting link) :
    ∃ deliveries : List LinkAction, (∀ action ∈ deliveries, action.isDelivery = true) ∧
      ((∃ link' events, run linkStep link deliveries = .ok (link', events) ∧
          Attempt own client address joined place received status 0 link') ∨
        Overflows client received status ∧ ∃ fault, run linkStep link deliveries = .error fault) := by
  induction waiting generalizing link with
  | zero => exact ⟨[], by simp, .inl ⟨link, [], rfl, attempt⟩⟩
  | succ waiting ih =>
    -- while a message is on its way, its receiver can take it
    have busy : ¬link.Drained := fun drained => by simpa using attempt.drained_iff.mp drained
    obtain ⟨action, delivery, taken⟩ : ∃ action : LinkAction, action.isDelivery = true ∧
        ((∃ event middle, linkStep link action = .ok (middle, event) ∧
            Attempt own client address joined place received status waiting middle) ∨
          Overflows client received status ∧ ∃ fault, linkStep link action = .error fault) := by
      by_cases empty : link.toHost = []
      · have some : link.toClient ≠ [] := fun none => busy ⟨none, empty⟩
        obtain ⟨next, event, middle, one, stepped, kept⟩ :=
          attempt.clientReceive connectable reply some [] fun _ _ => 0
        obtain rfl : waiting = next := by omega
        exact ⟨_, rfl, .inl ⟨event, middle, stepped, kept⟩⟩
      · rcases attempt.hostReceive connectable reply empty [] 0 with ⟨next, event, middle, one, stepped, kept⟩ | full
        · obtain rfl : waiting = next := by omega
          exact ⟨_, rfl, .inl ⟨event, middle, stepped, kept⟩⟩
        · exact ⟨_, rfl, .inr full⟩
    rcases taken with ⟨event, middle, stepped, kept⟩ | ⟨overflows, fault, stepped⟩
    · obtain ⟨deliveries, allowed, ended⟩ := ih kept
      refine ⟨action :: deliveries, List.forall_mem_cons.mpr ⟨delivery, allowed⟩, ?_⟩
      rcases ended with ⟨link', events, ran, done⟩ | ⟨overflows, fault, ran⟩
      · exact .inl ⟨link', event :: events, run_cons_eq_ok.mpr ⟨_, _, _, stepped, ran, rfl⟩, done⟩
      · exact .inr ⟨overflows, fault, run_cons_fault stepped ran⟩
    · exact ⟨[action], by simpa using delivery, .inr ⟨overflows, fault, run_head_fault stepped⟩⟩

theorem Attempt.finished (attempt : Attempt own client address joined place received status waiting link)
    (drained : link.Drained) :
    (status ≠ sppStatusOk ∧ link.host = received) ∨
      (status = sppStatusOk ∧ Placed own address joined place link.host ∧
        link.host.defsBuffer.length = received.defsBuffer.length ∧
        link.host.defsBufferUsed.toNat = received.defsBufferUsed.toNat + client.properties.length ∧
        (link.host.state = .ready ↔ client.properties ≠ [])) := by
  cases attempt with
  | requested _ _ | answered | announced _ _ _ => simp [Link.Drained] at drained
  | refused notOk => exact .inl ⟨notOk, rfl⟩
  | transferring done todo split ok placed room used state =>
    cases todo with
    | cons _ _ => simp [Link.Drained, sentDefinitions] at drained
    | nil =>
      obtain rfl : client.properties = done := by simpa using split
      refine .inr ⟨ok, placed, room, used, ?_⟩
      rw [state]
      by_cases empty : client.properties = []
      · simp [empty]
      · simp [empty]

/-! ## Attempts as runs of their own -/

section Runs
variable {host : SppHostEngine} {stack : Stack} {deliveries : List LinkAction} {events : List LinkEvent}

theorem attempt_start (connectable : Connectable client address)
    (processed : ∀ broadcast trailing unset,
      sppHostProcessMessage host (Message.connectRequest address broadcast client.propertyListId ++ trailing) 6 unset =
        .ok (received, [.sendMessage (Message.connectResponse own address status)], sppStatusOk)) (stack : Stack) :
    ∃ link, linkStep ⟨host, client, [], []⟩ (.start stack) = .ok (link, .started) ∧
      Attempt own client address joined place received status (listMessages client status + 2) link := by
  obtain ⟨broadcast, reaches⟩ := connectable.broadcastAddress
  refine ⟨_, ?_, .requested broadcast (processed broadcast)⟩
  rw [linkStep, clientStart_spec connectable.one reaches stack]
  rfl

theorem attempt_reached (connectable : Connectable client address)
    (reply : Reply own address joined place received status) {start : Link σ}
    (begins : linkStep ⟨host, client, [], []⟩ (.start stack) = .ok (start, .started))
    (attempt : Attempt own client address joined place received status waiting start)
    (allowed : ∀ action ∈ deliveries, action.isDelivery = true)
    (done : run linkStep ⟨host, client, [], []⟩ (.start stack :: deliveries) = .ok (link, events)) :
    ∃ next, Attempt own client address joined place received status next link := by
  obtain ⟨_, _, later, begins', ran, rfl⟩ := run_cons_eq_ok.mp done
  cases begins.symm.trans begins'
  rcases attempt_run connectable reply attempt allowed with ⟨next, _, _, ran', reached⟩ | ⟨-, fault, faulted⟩
  · cases ran'.symm.trans ran
    exact ⟨next, reached⟩
  · cases faulted.symm.trans ran

theorem attempt_completes (connectable : Connectable client address)
    (reply : Reply own address joined place received status) {start : Link σ}
    (begins : linkStep ⟨host, client, [], []⟩ (.start stack) = .ok (start, .started))
    (attempt : Attempt own client address joined place received status waiting start)
    (fits : ¬Overflows client received status) :
    ∃ deliveries link events, (∀ action ∈ deliveries, action.isDelivery = true) ∧
      run linkStep ⟨host, client, [], []⟩ (.start stack :: deliveries) = .ok (link, events) ∧ link.Drained ∧
      Attempt own client address joined place received status 0 link := by
  obtain ⟨deliveries, allowed, ended⟩ := attempt_ends connectable reply attempt
  rcases ended with ⟨link, events, ran, done⟩ | ⟨overflows, -⟩
  · exact ⟨deliveries, link, _, allowed, run_cons_eq_ok.mpr ⟨_, _, _, begins, ran, rfl⟩, done.drained_iff.mpr rfl, done⟩
  · exact absurd overflows fits

theorem Consistent.attempt (consistent : Consistent own host joined) (ready : host.state = .ready)
    (room : HasRoom host joined address) (connectable : Connectable client address) (stack : Stack) :
    ∃ link joined' place received status, linkStep ⟨host, client, [], []⟩ (.start stack) = .ok (link, .started) ∧
      Attempt own client address joined' place received status (listMessages client status + 2) link ∧
      Reply own address joined' place received status ∧ ConnectFrame host received ∧
      (∀ entry, entry ∈ joined' ∧ entry.address ≠ address ↔ entry ∈ joined ∧ entry.address ≠ address) ∧
      ((ListedElsewhere host address client.propertyListId ∧ status = sppStatusDuplicateClient ∧
          received.state = .ready) ∨
        (¬ListedElsewhere host address client.propertyListId ∧ status = sppStatusOk)) := by
  obtain ⟨received, status, joined', place, connected, reply, frame, others, answer⟩ :=
    consistent.reply room client.propertyListId
  obtain ⟨link, begins, attempt⟩ := attempt_start connectable (fun broadcast trailing unset =>
    processConnectRequest consistent.one ready broadcast trailing (by decide) unset connected) stack
  exact ⟨link, joined', place, received, status, begins, attempt, reply, frame, others, answer⟩

theorem busy_attempt (one : OneByteHost host own) (connecting : host.state = .connecting)
    (connectable : Connectable client address) (stack : Stack) :
    ∃ link, linkStep ⟨host, client, [], []⟩ (.start stack) = .ok (link, .started) ∧
      Attempt own client address [] 0 host sppStatusBusy (listMessages client sppStatusBusy + 2) link :=
  attempt_start connectable (fun broadcast trailing unset =>
    processConnectRequest_busy one connecting broadcast trailing (by decide) unset) stack

end Runs

end Attempt

end TvcHopper.Spp
