import TvcHopper.Spp.ClientSpec
import TvcHopper.Spp.HostSpec
import TvcHopper.Spp.Link

/-! The connection handshake of one client with a host that is ready.

A handshake takes three messages and one for each definition. Whatever the
order of deliveries, every message is processed as its sender meant it, and the
host gets ready again with the last definition.
-/

set_option autoImplicit false

namespace TvcHopper.Spp
open Machine

variable {σ : Type}

/-! ## Engines that are set up for one-byte addresses -/

structure HostParams (setup : HostSetup) (initParams : SppHostEngineInitParams) : Prop where
  addressLength : initParams.addressLength = 1
  callbacks : ComparesAddresses initParams.callbacks
  hostAddress : ∃ rest, initParams.hostAddress.address = .external (setup.address :: rest)
  definitionLimit : initParams.defsBufferSize.toNat = setup.definitions
  definitionRoom : setup.definitions ≤ initParams.defsBuffer.length
  addressRoom : setup.clients ≤ initParams.addressBuffer.length

structure ClientParams (initParams : SppClientEngineInitParams σ) (address : UInt8) : Prop where
  addressLength : initParams.addressLength = 1
  clientAddress : ∃ rest, initParams.clientAddress.address = .external (address :: rest)
  broadcastAddress : ∃ byte rest, initParams.broadcastAddress.address = .external (byte :: rest)
  hostAddressBuffer : initParams.hostAddressBuffer ≠ []
  count : initParams.propertyCount.toNat = initParams.properties.length
  nonempty : initParams.properties ≠ []
  short : initParams.properties.length ≤ 255
  names : ∀ pd ∈ initParams.properties, 0 ∈ pd.name.toList

theorem HostParams.holds {setup : HostSetup} {initParams : SppHostEngineInitParams}
    (params : HostParams setup initParams) (prior : SppHostEngine) :
    HostHolds setup (sppHostEngineInit initParams prior) [] where
  one := ⟨params.addressLength, params.callbacks, params.hostAddress⟩
  definitionLimit := params.definitionLimit.ge
  definitionRoom := params.definitionRoom
  addressRoom := params.addressRoom
  table := {
    count := rfl
    room := by decide
    known := by simp
    addresses := by simp
    unknown := by simp [sppHostEngineInit] }
  distinct := List.nodup_nil
  starts := by simp [sppHostEngineInit]
  counts := by simp [sppHostEngineInit]
  used := rfl
  definitions := .nil

/-- A client that the host does not know and can take in. -/
structure NewClient (setup : HostSetup) (joined : List Joined) (client : SppClientEngine σ) (address : UInt8) :
    Prop where
  one : OneByteClient client address
  broadcastAddress : ∃ byte rest, client.broadcastAddress.address = .external (byte :: rest)
  listed : ListedProperties client
  nonempty : client.properties ≠ []
  hostAddressBuffer : client.hostAddressBuffer ≠ []
  newAddress : address ∉ joined.map (·.address)
  newList : client.propertyListId ∉ joined.map (·.propertyListId)
  space : joined.length < sppConnectionsMax
  addressRoom : joined.length < setup.clients
  fits : (received joined).length + client.properties.length ≤ setup.definitions

theorem ClientParams.newClient {setup : HostSetup} {joined : List Joined}
    {initParams : SppClientEngineInitParams σ} {address : UInt8} (params : ClientParams initParams address)
    (prior : SppClientEngine σ) (newAddress : address ∉ joined.map (·.address))
    (newList : initParams.propertyListId ∉ joined.map (·.propertyListId))
    (space : joined.length < sppConnectionsMax) (addressRoom : joined.length < setup.clients)
    (fits : (received joined).length + initParams.properties.length ≤ setup.definitions) :
    NewClient setup joined (sppClientEngineInit initParams prior) address where
  one := ⟨params.addressLength, params.clientAddress, rfl⟩
  broadcastAddress := params.broadcastAddress
  listed := ⟨params.count, params.short, params.names⟩
  nonempty := params.nonempty
  hostAddressBuffer := params.hostAddressBuffer
  newAddress := newAddress
  newList := newList
  space := space
  addressRoom := addressRoom
  fits := fits

/-! ## The phases of a handshake -/

def knowing (client : SppClientEngine σ) (host : UInt8) : SppClientEngine σ :=
  { client with hostAddressBuffer := host :: client.hostAddressBuffer.tail }

/-- `Handshake setup joined pending client address waiting link`: a client meets a host that holds
`joined`, and so many messages are still to be processed. -/
inductive Handshake (setup : HostSetup) (joined : List Joined) (pending : PendingRequests)
    (client : SppClientEngine σ) (address : UInt8) : Nat → Link σ → Prop where
  | requested {host : SppHostEngine} (broadcast : UInt8) (holds : HostHolds setup host joined)
      (ready : host.state = .ready) (same : host.pending = pending) :
      Handshake setup joined pending client address (client.properties.length + 3)
        ⟨host, client, [], [Message.connectRequest address broadcast client.propertyListId]⟩
  | accepted {host : SppHostEngine}
      (holds : HostHolds setup host (joined ++ [⟨address, client.propertyListId, []⟩]))
      (connecting : host.state = .connecting) (same : host.pending = pending) :
      Handshake setup joined pending client address (client.properties.length + 2)
        ⟨host, client, [Message.connectResponse setup.address address sppStatusOk], []⟩
  | announced {host : SppHostEngine} (numBytes : UInt16) (last : UInt8)
      (holds : HostHolds setup host (joined ++ [⟨address, client.propertyListId, []⟩]))
      (connecting : host.state = .connecting) (same : host.pending = pending) :
      Handshake setup joined pending client address (client.properties.length + 1)
        ⟨host, knowing client setup.address, [],
          Message.listResponse address setup.address client.propertyCount.toUInt8 numBytes last ::
            sentDefinitions address setup.address client.properties⟩
  | transferring {host : SppHostEngine} (done todo : List SppPropertyDefinition)
      (split : client.properties = done ++ todo)
      (holds : HostHolds setup host (joined ++ [⟨address, client.propertyListId, done⟩]))
      (state : host.state = if todo = [] then .ready else .connecting) (same : host.pending = pending) :
      Handshake setup joined pending client address todo.length
        ⟨host, knowing client setup.address, [], sentDefinitions address setup.address todo⟩

section Handshake
variable {setup : HostSetup} {joined : List Joined} {pending : PendingRequests} {client : SppClientEngine σ}
  {address : UInt8} {waiting : Nat} {link : Link σ}

theorem handshake_start {host : SppHostEngine} (new : NewClient setup joined client address)
    (holds : HostHolds setup host joined) (ready : host.state = .ready) (stack : Stack) :
    ∃ link, linkStep ⟨host, client, [], []⟩ (.start stack) = .ok (link, .started) ∧
      Handshake setup joined host.pending client address (client.properties.length + 3) link := by
  obtain ⟨broadcast, reaches⟩ := new.broadcastAddress
  refine ⟨_, ?_, .requested broadcast holds ready rfl⟩
  rw [linkStep, clientStart_spec new.one reaches stack]
  rfl

theorem Handshake.drained_iff (handshake : Handshake setup joined pending client address waiting link) :
    link.Drained ↔ waiting = 0 := by
  cases handshake with
  | requested _ _ _ _ | accepted _ _ _ | announced _ _ _ _ _ => simp [Link.Drained]
  | transferring done todo split holds state same => cases todo <;> simp [Link.Drained, sentDefinitions]

theorem Handshake.hostReceive (new : NewClient setup joined client address)
    (handshake : Handshake setup joined pending client address waiting link) (some : link.toHost ≠ [])
    (trailing : List UInt8) (unset : Nat) :
    ∃ next event link', waiting = next + 1 ∧ event.isReceipt = true ∧
      linkStep link (.hostReceive trailing unset) = .ok (link', event) ∧
      Handshake setup joined pending client address next link' := by
  cases handshake with
  | requested broadcast holds ready same =>
    -- the client gets its place in the table here, and no definitions yet
    have processed := host_connectRequest holds ready new.newAddress new.newList new.space new.addressRoom
      broadcast trailing 6 (by decide) unset
    refine ⟨_, _, _, rfl, rfl, link_hostReceive rfl processed, ?_⟩
    exact .accepted ((holds.withState .connecting).withClient new.newAddress _ new.space
      (Nat.lt_of_lt_of_le new.addressRoom holds.addressRoom)) rfl same
  | accepted holds connecting same => exact absurd rfl some
  | announced numBytes last holds connecting same =>
    -- the count goes over the wire in one byte
    have count : client.propertyCount.toUInt8.toNat ≤ client.properties.length := by
      rw [UInt16.toNat_toUInt8, new.listed.count]
      exact Nat.mod_le _ _
    have fits : (received (joined ++ [⟨address, client.propertyListId, []⟩])).length +
        client.propertyCount.toUInt8.toNat ≤ setup.definitions := by
      have all := new.fits
      rw [received_snoc, List.append_nil]
      omega
    have processed := host_listResponse holds address fits numBytes last trailing 8 (by decide) unset
    refine ⟨_, _, _, rfl, rfl, link_hostReceive rfl processed, ?_⟩
    refine .transferring [] client.properties rfl holds ?_ same
    rw [if_neg new.nonempty]
    exact connecting
  | transferring done todo split holds state same =>
    cases todo with
    | nil => exact absurd rfl some
    | cons pd rest =>
      have short := new.listed.short
      have all := new.fits
      rw [split, List.length_append, List.length_cons] at short all
      have terminated : 0 ∈ pd.name.toList := new.listed.names pd (by simp [split])
      obtain ⟨copy, copied, processed⟩ := host_definition holds (by omega) terminated new.space
        (UInt8.ofNat rest.length) trailing unset
      refine ⟨_, _, _, rfl, rfl, link_hostReceive rfl processed, ?_⟩
      refine .transferring (done ++ [pd]) rest (by rw [split, List.append_assoc]; rfl)
        (holds.withDefinition (by omega) copied new.space _) ?_ same
      -- the last definition has none remaining
      have last : UInt8.ofNat rest.length = 0 ↔ rest = [] := by
        rw [← UInt8.toNat_inj, UInt8.toNat_ofNat', UInt8.toNat_zero, Nat.mod_eq_of_lt (by omega)]
        exact List.length_eq_zero_iff
      rw [Spp.withDefinition, state]
      simp only [last, reduceCtorEq, if_false]

theorem Handshake.clientReceive (new : NewClient setup joined client address)
    (handshake : Handshake setup joined pending client address waiting link) (some : link.toClient ≠ [])
    (trailing : List UInt8) (stack : Stack) :
    ∃ next event link', waiting = next + 1 ∧ event.isReceipt = true ∧
      linkStep link (.clientReceive trailing stack) = .ok (link', event) ∧
      Handshake setup joined pending client address next link' := by
  cases handshake with
  | requested _ _ _ _ | announced _ _ _ _ _ | transferring _ _ _ _ _ _ => exact absurd rfl some
  | accepted holds connecting same =>
    obtain ⟨client', numBytes, last, processed, rfl⟩ :=
      client_connectResponse new.one new.listed new.hostAddressBuffer setup.address trailing stack
    exact ⟨_, _, _, rfl, rfl, link_clientReceive rfl processed, .announced numBytes last holds connecting same⟩

theorem handshake_delivery (new : NewClient setup joined client address)
    (handshake : Handshake setup joined pending client address waiting link) {action : LinkAction}
    (delivery : action.isDelivery = true) :
    ∃ next event link', waiting = next + receipts [event] ∧ linkStep link action = .ok (link', event) ∧
      Handshake setup joined pending client address next link' := by
  cases action with
  | start _ | call _ => cases delivery
  | clientReceive trailing stack =>
    by_cases empty : link.toClient = []
    · exact ⟨waiting, .idle, link, rfl, link_clientReceive_idle empty, handshake⟩
    · obtain ⟨next, event, link', one, receipt, stepped, kept⟩ := handshake.clientReceive new empty trailing stack
      exact ⟨next, event, link', by simp [receipts, receipt, one], stepped, kept⟩
  | hostReceive trailing unset =>
    by_cases empty : link.toHost = []
    · exact ⟨waiting, .idle, link, rfl, link_hostReceive_idle empty, handshake⟩
    · obtain ⟨next, event, link', one, receipt, stepped, kept⟩ := handshake.hostReceive new empty trailing unset
      exact ⟨next, event, link', by simp [receipts, receipt, one], stepped, kept⟩

/-- Deliveries in any order never fail, and take the handshake further by each message they process. -/
theorem handshake_run (new : NewClient setup joined client address)
    (handshake : Handshake setup joined pending client address waiting link) {deliveries : List LinkAction}
    (allowed : ∀ action ∈ deliveries, action.isDelivery = true) :
    ∃ next events link', waiting = next + receipts events ∧
      run linkStep link deliveries = .ok (link', events) ∧
      Handshake setup joined pending client address next link' := by
  induction deliveries generalizing link waiting with
  | nil => exact ⟨waiting, [], link, rfl, rfl, handshake⟩
  | cons action rest ih =>
    obtain ⟨next, event, middle, one, stepped, kept⟩ := handshake_delivery new handshake (allowed action (by simp))
    obtain ⟨final, events, link', several, ran, done⟩ :=
      ih kept fun action member => allowed action (List.mem_cons_of_mem _ member)
    refine ⟨final, event :: events, link', ?_, run_cons_eq_ok.mpr ⟨_, _, _, stepped, ran, rfl⟩, done⟩
    have head : receipts (event :: events) = receipts [event] + receipts events := receipts_append [event] events
    omega

theorem handshake_completes (new : NewClient setup joined client address)
    (handshake : Handshake setup joined pending client address waiting link) :
    ∃ deliveries link' events, (∀ action ∈ deliveries, action.isDelivery = true) ∧
      run linkStep link deliveries = .ok (link', events) ∧ link'.Drained := by
  induction waiting generalizing link with
  | zero => exact ⟨[], link, [], by simp, rfl, handshake.drained_iff.mpr rfl⟩
  | succ waiting ih =>
    have busy : ¬link.Drained := fun drained => by simpa using handshake.drained_iff.mp drained
    -- while a message is on its way, its receiver can take it
    obtain ⟨action, delivery, event, middle, stepped, kept⟩ : ∃ action : LinkAction, action.isDelivery = true ∧
        ∃ event middle, linkStep link action = .ok (middle, event) ∧
          Handshake setup joined pending client address waiting middle := by
      by_cases empty : link.toHost = []
      · have some : link.toClient ≠ [] := fun none => busy ⟨none, empty⟩
        obtain ⟨next, event, middle, one, -, stepped, kept⟩ := handshake.clientReceive new some [] fun _ _ => 0
        obtain rfl : waiting = next := by omega
        exact ⟨_, rfl, event, middle, stepped, kept⟩
      · obtain ⟨next, event, middle, one, -, stepped, kept⟩ := handshake.hostReceive new empty [] 0
        obtain rfl : waiting = next := by omega
        exact ⟨_, rfl, event, middle, stepped, kept⟩
    obtain ⟨deliveries, link', events, allowed, ran, drained⟩ := ih kept
    refine ⟨action :: deliveries, link', event :: events, ?_, run_cons_eq_ok.mpr ⟨_, _, _, stepped, ran, rfl⟩,
      drained⟩
    intro other member
    rcases List.mem_cons.mp member with rfl | member
    · exact delivery
    · exact allowed other member

theorem Handshake.finished (handshake : Handshake setup joined pending client address waiting link)
    (drained : link.Drained) :
    HostHolds setup link.host (joined ++ [⟨address, client.propertyListId, client.properties⟩]) ∧
      link.host.state = .ready ∧ link.host.pending = pending ∧ link.client = knowing client setup.address := by
  cases handshake with
  | requested _ _ _ _ | accepted _ _ _ | announced _ _ _ _ _ => simp [Link.Drained] at drained
  | transferring done todo split holds state same =>
    cases todo with
    | cons _ _ => simp [Link.Drained, sentDefinitions] at drained
    | nil =>
      obtain rfl : client.properties = done := by simpa using split
      exact ⟨holds, state, same, rfl⟩

end Handshake

/-! ## The transfer of a property list -/

/-- The host is ready and knows one client with all its properties. -/
structure Transferred (host : SppHostEngine) (address : UInt8) (propertyListId : UInt16)
    (properties : List SppPropertyDefinition) : Prop where
  ready : host.state = .ready
  clientCount : host.clientCount = 1
  client : PointsTo host host.clients[0] address
  propertyListId : host.clients[0].propertyListId = propertyListId
  others : ∀ (i : Nat) (bound : i < sppConnectionsMax), i ≠ 0 → host.clients[i].address = .null
  propertyCount : host.propertyCount[0].toNat = properties.length
  definitions : List.Forall₂ SameDefinition (host.defsBuffer.take properties.length) properties

theorem HostHolds.transferred {setup : HostSetup} {host : SppHostEngine} {address : UInt8}
    {propertyListId : UInt16} {properties : List SppPropertyDefinition}
    (holds : HostHolds setup host [⟨address, propertyListId, properties⟩]) (ready : host.state = .ready) :
    Transferred host address propertyListId properties := by
  have used := holds.used
  have definitions := holds.definitions
  have all : received [⟨address, propertyListId, properties⟩] = properties := by simp [received]
  rw [all] at used definitions
  constructor
  · exact ready
  · exact UInt8.toNat_inj.mp holds.table.count
  · exact holds.table.read (by decide) Nat.zero_lt_one
  · rw [holds.table.known 0 (by decide) Nat.zero_lt_one]
    rfl
  · intro i bound behind
    exact holds.table.unknown i bound (Nat.one_le_iff_ne_zero.mpr behind)
  · exact holds.counts 0 (by decide)
  · rwa [used] at definitions

def freshLink (hostParams : SppHostEngineInitParams) (priorHost : SppHostEngine)
    (clientParams : SppClientEngineInitParams σ) (priorClient : SppClientEngine σ) : Link σ :=
  ⟨sppHostEngineInit hostParams priorHost, sppClientEngineInit clientParams priorClient, [], []⟩

/-- The property list arrives as it is: the deliveries never fail, `n + 3` messages are processed
until the channels are empty, and then the host holds the list. -/
theorem property_list_transferred {setup : HostSetup} {hostParams : SppHostEngineInitParams}
    {clientParams : SppClientEngineInitParams σ} {address : UInt8} (host : HostParams setup hostParams)
    (client : ClientParams clientParams address) (addressRoom : 1 ≤ setup.clients)
    (fits : clientParams.properties.length ≤ setup.definitions) (priorHost : SppHostEngine)
    (priorClient : SppClientEngine σ) (stack : Stack) (deliveries : List LinkAction)
    (allowed : ∀ action ∈ deliveries, action.isDelivery = true) :
    ∃ link events, run linkStep (freshLink hostParams priorHost clientParams priorClient)
        (.start stack :: deliveries) = .ok (link, events) ∧
      receipts events ≤ clientParams.properties.length + 3 ∧
      (link.Drained ↔ receipts events = clientParams.properties.length + 3) ∧
      (link.Drained → Transferred link.host address clientParams.propertyListId clientParams.properties) ∧
      ∃ more link' events', (∀ action ∈ more, action.isDelivery = true) ∧
        run linkStep link more = .ok (link', events') ∧ link'.Drained := by
  have new : NewClient setup [] (sppClientEngineInit clientParams priorClient) address :=
    client.newClient priorClient (by simp) (by simp) (by decide) addressRoom (by simpa [received] using fits)
  obtain ⟨started, begins, handshake⟩ := handshake_start new (host.holds priorHost) rfl stack
  obtain ⟨waiting, events, link, count, ran, handshake⟩ := handshake_run new handshake allowed
  have length : (sppClientEngineInit clientParams priorClient).properties.length + 3 =
      clientParams.properties.length + 3 := rfl
  have total : receipts (.started :: events) = receipts events := rfl
  refine ⟨link, .started :: events, run_cons_eq_ok.mpr ⟨_, _, _, begins, ran, rfl⟩, by omega, ?_, ?_, ?_⟩
  · rw [handshake.drained_iff, total]
    omega
  · intro drained
    obtain ⟨holds, ready, -, -⟩ := handshake.finished drained
    exact holds.transferred ready
  · exact handshake_completes new handshake

theorem hostParams_setup : HostParams ⟨0x1D, 24, 15⟩ setupParams :=
  ⟨rfl, comparesAddresses_firstByte, ⟨[], rfl⟩, rfl, by decide, by decide⟩

theorem clientParams_setup : ClientParams setupClientParams 0x01 :=
  ⟨rfl, ⟨[], rfl⟩, ⟨0x00, [], rfl⟩, by decide, rfl, by decide, by decide, by decide⟩

theorem property_list_transferred_setup :
    ∃ link events, run linkStep (freshLink setupParams staticHost setupClientParams staticClient)
        [.start fun _ _ => 0, .hostReceive [] 0, .clientReceive [] fun _ _ => 0] = .ok (link, events) ∧
      receipts events ≤ 6 ∧ (link.Drained ↔ receipts events = 6) ∧
      (link.Drained → Transferred link.host 0x01 0xDD plist) :=
  have ⟨link, events, ran, most, drained, done, _⟩ := property_list_transferred hostParams_setup clientParams_setup
    (by decide) (by decide) staticHost staticClient (fun _ _ => 0)
    [.hostReceive [] 0, .clientReceive [] fun _ _ => 0] (by simp [LinkAction.isDelivery])
  ⟨link, events, ran, most, drained, done⟩

end TvcHopper.Spp
