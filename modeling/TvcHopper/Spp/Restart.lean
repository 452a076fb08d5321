import TvcHopper.Spp.Attempt
import TvcHopper.Spp.Definitions

/-! One client that restarts, and connects anew each time.

The table recognises the client, but nothing recognises its definitions: each
handshake puts them behind those of the handshakes before, and counts them.
-/

set_option autoImplicit false

namespace TvcHopper.Spp
open Machine

variable {σ : Type}

/-- The client after one of its restarts. -/
structure Restarted (address : UInt8) (properties : List SppPropertyDefinition) (client : ConnectingClient σ) :
    Prop where
  connectable : Connectable client.engine address
  address : client.address = address
  properties : client.properties = properties

/-- The host knows one client, and holds its definitions once. -/
structure HoldsOnce (host : SppHostEngine) (properties : List SppPropertyDefinition) : Prop where
  clientCount : host.clientCount = 1
  propertyCount : host.propertyCount[0].toNat = properties.length
  used : host.defsBufferUsed.toNat = properties.length
  definitions : List.Forall₂ SameDefinition (host.defsBuffer.take properties.length) properties

/-- The host knows no other client. -/
structure Alone (own address : UInt8) (host : SppHostEngine) (joined : List Joined) : Prop where
  consistent : Consistent own host joined
  only : ∀ entry ∈ joined, entry.address = address

section Restart
variable {own address : UInt8} {host final : SppHostEngine} {joined : List Joined}
  {properties : List SppPropertyDefinition} {client : ConnectingClient σ} {clients : List (ConnectingClient σ)}
  {stack : Stack} {deliveries : List LinkAction} {link : Link σ} {events : List LinkEvent}

theorem Alone.length_le (alone : Alone own address host joined) : joined.length ≤ 1 := by
  have distinct := alone.consistent.distinct
  have same : joined.map (·.address) = List.replicate joined.length address := by
    rw [List.map_eq_replicate_iff]
    exact alone.only
  rwa [same, List.nodup_replicate] at distinct

theorem Alone.hasRoom (alone : Alone own address host joined) (memory : joined = [] → 0 < host.addressBuffer.length) :
    HasRoom host joined address := by
  intro absent
  have empty : joined = [] := by
    refine List.eq_nil_iff_forall_not_mem.mpr fun entry member => ?_
    exact absent (List.mem_map.mpr ⟨entry, member, alone.only entry member⟩)
  have place := memory empty
  rw [empty]
  exact ⟨by decide, place⟩

theorem Alone.not_listedElsewhere (alone : Alone own address host joined) (propertyListId : UInt16) :
    ¬ListedElsewhere host address propertyListId := by
  rw [alone.consistent.listedElsewhere_iff]
  rintro ⟨entry, member, -, apart⟩
  exact apart (alone.only entry member)

theorem Alone.attempt (alone : Alone own address host joined) (ready : host.state = .ready)
    (memory : joined = [] → 0 < host.addressBuffer.length) (restarted : Restarted address properties client)
    (stack : Stack) :
    ∃ start joined' place received,
      linkStep ⟨host, client.engine, [], []⟩ (.start stack) = .ok (start, .started) ∧
      Attempt own client.engine address joined' place received sppStatusOk
        (listMessages client.engine sppStatusOk + 2) start ∧
      Reply own address joined' place received sppStatusOk ∧ ConnectFrame host received ∧
      ∀ entry ∈ joined', entry.address = address := by
  obtain ⟨start, joined', place, received, status, begins, attempt, reply, frame, others, answer⟩ :=
    alone.consistent.attempt ready (alone.hasRoom memory) restarted.connectable stack
  obtain ⟨-, rfl⟩ := answer.resolve_left fun listed => alone.not_listedElsewhere _ listed.1
  refine ⟨start, joined', place, received, begins, attempt, reply, frame, fun entry member => ?_⟩
  by_contra apart
  exact apart (alone.only entry ((others entry).mp ⟨member, apart⟩).1)

theorem Alone.appended (alone : Alone own address host joined) (ready : host.state = .ready)
    (memory : joined = [] → 0 < host.addressBuffer.length) (restarted : Restarted address properties client)
    (allowed : ∀ action ∈ deliveries, action.isDelivery = true)
    (handshake : run linkStep ⟨host, client.engine, [], []⟩ (.start stack :: deliveries) = .ok (link, events))
    (drained : link.Drained) :
    ∃ joined', Alone own address link.host joined' ∧ joined'.length = 1 ∧
      link.host.defsBuffer.length = host.defsBuffer.length ∧
      link.host.defsBufferUsed.toNat = host.defsBufferUsed.toNat + properties.length ∧
      (link.host.state = .ready ↔ properties ≠ []) := by
  obtain ⟨start, joined', place, received, begins, attempt, reply, frame, only⟩ :=
    alone.attempt ready memory restarted stack
  obtain ⟨waiting, reached⟩ := attempt_reached restarted.connectable reply begins attempt allowed handshake
  rcases reached.finished drained with ⟨notOk, -⟩ | ⟨-, placed, room, used, readied⟩
  · exact absurd rfl notOk
  · have alone' : Alone own address link.host joined' := ⟨placed.consistent, only⟩
    have known : 0 < joined'.length := by
      obtain ⟨entry, here, -⟩ := Option.map_eq_some_iff.mp placed.here
      exact Nat.lt_of_le_of_lt (Nat.zero_le _) (List.getElem?_eq_some_iff.mp here).1
    have same : client.engine.properties = properties := restarted.properties
    rw [frame.defsBufferUsed, same] at used
    rw [frame.defsBuffer] at room
    rw [same] at readied
    exact ⟨joined', alone', Nat.le_antisymm alone'.length_le known, room, used, readied⟩

theorem Alone.connects (alone : Alone own address host joined) (ready : host.state = .ready)
    (memory : joined = [] → 0 < host.addressBuffer.length) (restarted : Restarted address properties client)
    (fits : host.defsBufferUsed.toNat + properties.length ≤ host.defsBuffer.length) (stack : Stack) :
    ∃ deliveries link events, (∀ action ∈ deliveries, action.isDelivery = true) ∧
      run linkStep ⟨host, client.engine, [], []⟩ (.start stack :: deliveries) = .ok (link, events) ∧ link.Drained := by
  obtain ⟨start, joined', place, received, begins, attempt, reply, frame, -⟩ :=
    alone.attempt ready memory restarted stack
  have same : client.engine.properties = properties := restarted.properties
  have room : ¬Overflows client.engine received sppStatusOk := by
    rintro ⟨-, overflows⟩
    rw [frame.defsBuffer, frame.defsBufferUsed, same] at overflows
    omega
  obtain ⟨deliveries, link, events, allowed, handshake, drained, -⟩ :=
    attempt_completes restarted.connectable reply begins attempt room
  exact ⟨deliveries, link, events, allowed, handshake, drained⟩

/-- A host that is ready again after each handshake has the list as often as the client has connected. -/
theorem connects_appends (some : properties ≠ []) (alone : Alone own address host joined) (ready : host.state = .ready)
    (memory : joined = [] → 0 < host.addressBuffer.length)
    (restarted : ∀ client ∈ clients, Restarted address properties client)
    (connects : Connects host clients final) :
    final.defsBufferUsed.toNat = host.defsBufferUsed.toNat + clients.length * properties.length := by
  induction connects generalizing joined with
  | none host => simp
  | next allowed handshake drained later ih =>
    obtain ⟨joined', alone', single, -, used, readied⟩ :=
      alone.appended ready memory (restarted _ (List.mem_cons_self ..)) allowed handshake drained
    have known : joined' ≠ [] := List.ne_nil_of_length_eq_add_one single
    have rest := ih alone' (readied.mpr some) (fun empty => absurd empty known)
      fun client member => restarted client (List.mem_cons_of_mem _ member)
    rw [rest, used, List.length_cons, Nat.succ_mul]
    omega

theorem busy_connects (one : OneByteHost host own) (connecting : host.state = .connecting)
    (restarted : ∀ client ∈ clients, Restarted address properties client) :
    Connects host clients final ↔ final = host := by
  constructor
  · intro connects
    induction connects with
    | none host => rfl
    | next allowed handshake drained later ih =>
      have connectable := (restarted _ (List.mem_cons_self ..)).connectable
      obtain ⟨start, begins, attempt⟩ := busy_attempt one connecting connectable _
      obtain ⟨waiting, reached⟩ := attempt_reached connectable (.refused (.inr rfl)) begins attempt allowed handshake
      rcases reached.finished drained with ⟨-, same⟩ | ⟨ok, -⟩
      · rw [same] at ih
        exact ih one connecting fun client member => restarted client (List.mem_cons_of_mem _ member)
      · exact absurd ok (by decide)
  · rintro rfl
    induction clients with
    | nil => exact .none _
    | cons client rest ih =>
      have connectable := (restarted client (List.mem_cons_self ..)).connectable
      obtain ⟨start, begins, attempt⟩ := busy_attempt one connecting connectable fun _ _ => 0
      have small : ¬Overflows client.engine final sppStatusBusy := fun overflows => absurd overflows.1 (by decide)
      obtain ⟨deliveries, link, events, allowed, handshake, drained, done⟩ :=
        attempt_completes connectable (.refused (.inr rfl)) begins attempt small
      rcases done.finished drained with ⟨-, same⟩ | ⟨ok, -⟩
      · have later : Connects link.host rest final := by
          rw [same]
          exact ih fun client member => restarted client (List.mem_cons_of_mem _ member)
        exact .next allowed handshake drained later
      · exact absurd ok (by decide)

theorem empty_connects (alone : Alone own address host joined) (ready : host.state = .ready)
    (memory : joined = [] → 0 < host.addressBuffer.length) (unused : host.defsBufferUsed.toNat = 0)
    (some : clients ≠ []) (restarted : ∀ client ∈ clients, Restarted address [] client) :
    (∃ final, Connects host clients final) ∧ ∀ final, Connects host clients final → HoldsOnce final [] := by
  obtain ⟨client, rest, rfl⟩ := List.exists_cons_of_ne_nil some
  obtain ⟨first, others⟩ := List.forall_mem_cons.mp restarted
  -- the host is left busy
  have done {stack : Stack} {deliveries : List LinkAction} {link : Link σ} {events : List LinkEvent}
      (allowed : ∀ action ∈ deliveries, action.isDelivery = true)
      (handshake : run linkStep ⟨host, client.engine, [], []⟩ (.start stack :: deliveries) = .ok (link, events))
      (drained : link.Drained) :
      OneByteHost link.host own ∧ link.host.state = .connecting ∧ HoldsOnce link.host [] := by
    obtain ⟨joined', alone', single, -, used, readied⟩ := alone.appended ready memory first allowed handshake drained
    have counted := alone'.consistent.counts 0 (by decide)
    have total := alone'.consistent.table.count
    rw [unused, List.length_nil] at used
    refine ⟨alone'.consistent.one, ?_, ?_, ?_, used, .nil⟩
    · cases state : link.host.state with
      | ready => exact absurd rfl (readied.mp state)
      | connecting => rfl
    · exact UInt8.toNat_inj.mp (total.trans single)
    · rw [List.length_nil]
      omega
  constructor
  · have used := alone.consistent.used
    obtain ⟨deliveries, link, events, allowed, handshake, drained⟩ :=
      alone.connects ready memory first used fun _ _ => 0
    obtain ⟨one, connecting, -⟩ := done allowed handshake drained
    exact ⟨link.host, .next allowed handshake drained ((busy_connects one connecting others).mpr rfl)⟩
  · intro final connects
    cases connects with
    | next allowed handshake drained later =>
      obtain ⟨one, connecting, once⟩ := done allowed handshake drained
      rwa [(busy_connects one connecting others).mp later]

theorem HostHolds.holdsOnce {setup : HostSetup} {propertyListId : UInt16}
    (holds : HostHolds setup host [⟨address, propertyListId, properties⟩]) : HoldsOnce host properties := by
  have all : received [⟨address, propertyListId, properties⟩] = properties := by simp [received]
  have used := holds.used
  have definitions := holds.definitions
  rw [all] at used definitions
  constructor
  · exact UInt8.toNat_inj.mp holds.table.count
  · exact holds.counts 0 (by decide)
  · exact used
  · rwa [used] at definitions

theorem single_connects {setup : HostSetup} {initParams : SppHostEngineInitParams}
    (params : HostParams setup initParams) (addressRoom : 1 ≤ setup.clients)
    (some : properties ≠ []) (fits : properties.length ≤ setup.definitions)
    (restarted : Restarted address properties client) (prior : SppHostEngine) :
    (∃ final, Connects (sppHostEngineInit initParams prior) [client] final) ∧
      ∀ final, Connects (sppHostEngineInit initParams prior) [client] final → HoldsOnce final properties := by
  obtain ⟨connectable, rfl, rfl⟩ := restarted
  have clientParams : ClientParams client.initParams client.address :=
    ⟨connectable.one.addressLength, connectable.one.clientAddress, connectable.broadcastAddress,
      connectable.hostAddressBuffer, connectable.listed.count, some, connectable.listed.short, connectable.listed.names⟩
  have compatible : Compatible setup ([] ++ [client]) := by
    have few : 1 ≤ sppConnectionsMax := by decide
    constructor
    · simpa using clientParams
    · simp
    · simp
    · exact few
    · exact addressRoom
    · simpa using fits
  have fresh : HostHolds setup (sppHostEngineInit initParams prior)
      (([] : List (ConnectingClient σ)).map (·.joined)) := params.holds prior
  refine ⟨connects_exists compatible fresh rfl, fun final connects => ?_⟩
  have holds : HostHolds setup final [client.joined] := connects_holds compatible fresh rfl connects
  exact holds.holdsOnce

end Restart

/-- However often one client connects, the host holds its list once exactly when there is nothing to hold, or it
connects only once. -/
theorem reconnects_once_iff {setup : HostSetup} {initParams : SppHostEngineInitParams}
    (params : HostParams setup initParams) (size : initParams.defsBuffer.length = initParams.defsBufferSize.toNat)
    (addressRoom : 1 ≤ setup.clients) {address : UInt8} {properties : List SppPropertyDefinition}
    (fits : properties.length ≤ setup.definitions) {clients : List (ConnectingClient σ)} (some : clients ≠ [])
    (restarted : ∀ client ∈ clients, Restarted address properties client) (prior : SppHostEngine) :
    ((∃ final, Connects (sppHostEngineInit initParams prior) clients final) ∧
        ∀ final, Connects (sppHostEngineInit initParams prior) clients final → HoldsOnce final properties) ↔
      clients.length = 1 ∨ properties = [] := by
  have alone : Alone setup.address address (sppHostEngineInit initParams prior) [] :=
    ⟨consistent_init params size prior, by simp⟩
  have memory : 0 < (sppHostEngineInit initParams prior).addressBuffer.length :=
    Nat.lt_of_lt_of_le addressRoom params.addressRoom
  by_cases empty : properties = []
  · subst empty
    simp only [or_true, iff_true]
    exact empty_connects alone rfl (fun _ => memory) rfl some restarted
  · simp only [empty, or_false]
    constructor
    · rintro ⟨⟨final, connects⟩, once⟩
      have appended := connects_appends empty alone rfl (fun _ => memory) restarted connects
      rw [(once final connects).used] at appended
      have positive : 0 < properties.length := List.length_pos_iff.mpr empty
      have unused : (sppHostEngineInit initParams prior).defsBufferUsed.toNat = 0 := rfl
      rw [unused, Nat.zero_add] at appended
      exact Nat.eq_of_mul_eq_mul_right positive (by omega)
    · intro single
      obtain ⟨client, rfl⟩ := List.length_eq_one_iff.mp single
      exact single_connects params addressRoom empty fits (restarted client (List.mem_cons_self ..)) prior

def testClient : ConnectingClient PropertyValues := ⟨0x01, setupClientParams, staticClient⟩

theorem restarted_testClient : Restarted 0x01 plist testClient :=
  ⟨⟨⟨rfl, ⟨[], rfl⟩, rfl⟩, ⟨0x00, [], rfl⟩, ⟨rfl, by decide, by decide⟩, by decide⟩, rfl, rfl⟩

theorem reconnects_once_setup :
    ((∃ final, Connects (sppHostEngineInit setupParams staticHost) [testClient] final) ∧
        ∀ final, Connects (sppHostEngineInit setupParams staticHost) [testClient] final → HoldsOnce final plist) ↔
      [testClient].length = 1 ∨ plist = [] :=
  reconnects_once_iff hostParams_setup rfl (by decide) (by decide) (by simp) (by simpa using restarted_testClient)
    staticHost

/-- After a restart of the client the host holds its three definitions twice. -/
theorem restart_counts_twice : ∃ final : SppHostEngine,
    Connects (sppHostEngineInit setupParams staticHost) [testClient, testClient] final ∧
      final.defsBufferUsed.toNat = 6 ∧ ¬HoldsOnce final plist := by
  have alone : Alone 0x1D 0x01 (sppHostEngineInit setupParams staticHost) [] :=
    ⟨consistent_init hostParams_setup rfl staticHost, by simp⟩
  have memory : ([] : List Joined) = [] → 0 < (sppHostEngineInit setupParams staticHost).addressBuffer.length :=
    fun _ => by decide
  have stack : Stack := fun _ _ => 0
  obtain ⟨_, link, _, allowed, first, drained⟩ := alone.connects rfl memory restarted_testClient (by decide) stack
  obtain ⟨joined, alone', single, room, used, readied⟩ :=
    alone.appended rfl memory restarted_testClient allowed first drained
  have ready : link.host.state = .ready := readied.mpr (by decide)
  have known : joined = [] → 0 < link.host.addressBuffer.length := by
    rintro rfl
    cases single
  have fits : link.host.defsBufferUsed.toNat + plist.length ≤ link.host.defsBuffer.length := by
    rw [used, room]
    decide
  obtain ⟨_, link', _, allowed', second, drained'⟩ := alone'.connects ready known restarted_testClient fits stack
  have connects : Connects (sppHostEngineInit setupParams staticHost) [testClient, testClient] link'.host :=
    .next allowed first drained (.next allowed' second drained' (.none _))
  have some : plist ≠ [] := by decide
  have appended : link'.host.defsBufferUsed.toNat = 6 :=
    connects_appends some alone rfl memory (by simpa using restarted_testClient) connects
  refine ⟨link'.host, connects, appended, fun once => ?_⟩
  have same := once.used
  rw [appended] at same
  exact absurd same (by decide)

end TvcHopper.Spp
