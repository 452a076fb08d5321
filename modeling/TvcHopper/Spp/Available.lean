import TvcHopper.Spp.Attempt

/-! Whether the host is ready again when a connection attempt has ended.

A host that accepts a client is ready again with the client's last definition.
A client without properties sends none, and one with too many overruns the
buffer before its last.
-/

set_option autoImplicit false

namespace TvcHopper.Spp
open Machine

variable {σ : Type}

/-- However the messages are delivered, the attempt never fails, can be brought to its end, and leaves the host
ready. -/
def BecomesAvailable (host : SppHostEngine) (client : SppClientEngine σ) : Prop :=
  ∀ (stack : Stack) (deliveries : List LinkAction), (∀ action ∈ deliveries, action.isDelivery = true) →
    ∃ link events, run linkStep ⟨host, client, [], []⟩ (.start stack :: deliveries) = .ok (link, events) ∧
      (link.Drained → link.host.state = .ready) ∧
      ∃ more link' events', (∀ action ∈ more, action.isDelivery = true) ∧
        run linkStep link more = .ok (link', events') ∧ link'.Drained

section Available
variable {own address : UInt8} {host : SppHostEngine} {joined : List Joined} {client : SppClientEngine σ}

theorem Consistent.becomesAvailable_iff (consistent : Consistent own host joined) (ready : host.state = .ready)
    (room : HasRoom host joined address) (connectable : Connectable client address) :
    BecomesAvailable host client ↔ ListedElsewhere host address client.propertyListId ∨
      client.properties ≠ [] ∧
        host.defsBufferUsed.toNat + client.properties.length ≤ host.defsBufferSize.toNat := by
  constructor
  · intro available
    obtain ⟨started, joined', place, received, status, begins, attempt, reply, frame, -, answer⟩ :=
      consistent.attempt ready room connectable fun _ _ => 0
    rcases answer with ⟨duplicate, -, -⟩ | ⟨-, ok⟩
    · exact .inl duplicate
    · -- the run to the end of the attempt does not fail, so it has its end in front of it
      obtain ⟨deliveries, allowed, ended⟩ := attempt_ends connectable reply attempt
      obtain ⟨link, events, ran, returns, -⟩ := available (fun _ _ => 0) deliveries allowed
      obtain ⟨_, _, later, begins', tail, rfl⟩ := run_cons_eq_ok.mp ran
      cases begins.symm.trans begins'
      rcases ended with ⟨link', events', whole, done⟩ | ⟨-, fault, faulted⟩
      · cases whole.symm.trans tail
        have drained := done.drained_iff.mpr rfl
        rcases done.finished drained with ⟨notOk, -⟩ | ⟨-, placed, length, used, readied⟩
        · exact absurd ok notOk
        · refine .inr ⟨readied.mp (returns drained), ?_⟩
          have below := placed.consistent.used
          rw [length, frame.defsBuffer, consistent.size, used, frame.defsBufferUsed] at below
          exact below
      · cases faulted.symm.trans tail
  · intro condition stack deliveries allowed
    obtain ⟨started, joined', place, received, status, begins, attempt, reply, frame, -, answer⟩ :=
      consistent.attempt ready room connectable stack
    have fits : ¬Overflows client received status := by
      rintro ⟨ok, overflows⟩
      rw [frame.defsBuffer, frame.defsBufferUsed, consistent.size] at overflows
      rcases answer with ⟨-, duplicate, -⟩ | ⟨alone, -⟩
      · rw [ok] at duplicate
        exact absurd duplicate (by decide)
      · have few := (condition.resolve_left alone).2
        omega
    rcases attempt_run connectable reply attempt allowed with ⟨next, events, link, ran, reached⟩ | ⟨overflows, -⟩
    · refine ⟨link, _, run_cons_eq_ok.mpr ⟨_, _, _, begins, ran, rfl⟩, fun drained => ?_, ?_⟩
      · rcases reached.finished drained with ⟨notOk, same⟩ | ⟨ok, -, -, -, readied⟩
        · rcases answer with ⟨-, -, ready'⟩ | ⟨-, ok⟩
          · rw [same, ready']
          · exact absurd ok notOk
        · rcases answer with ⟨-, duplicate, -⟩ | ⟨alone, -⟩
          · rw [ok] at duplicate
            exact absurd duplicate (by decide)
          · exact readied.mpr (condition.resolve_left alone).1
      · obtain ⟨more, allowed', ended⟩ := attempt_ends connectable reply reached
        rcases ended with ⟨link', events', ran', done⟩ | ⟨overflows, -⟩
        · exact ⟨more, link', events', allowed', ran', done.drained_iff.mpr rfl⟩
        · exact absurd overflows fits
    · exact absurd overflows fits

end Available

/-- A host that is ready, in any state it can reach, gets ready again after the attempt of any client exactly
when it knows the property list from another client, or the list has entries and fits. -/
theorem host_available_iff {setup : HostSetup} {initParams : SppHostEngineInitParams}
    (params : HostParams setup initParams) (size : initParams.defsBuffer.length = initParams.defsBufferSize.toNat)
    (memory : sppConnectionsMax ≤ initParams.addressBuffer.length) {prior host : SppHostEngine} {calls : List HostCall}
    {events : List HostEvent}
    (reached : run hostCall (sppHostEngineInit initParams prior) calls = .ok (host, events))
    (ready : host.state = .ready) (space : host.clientCount.toNat < sppConnectionsMax) {client : SppClientEngine σ}
    {address : UInt8} (connectable : Connectable client address) :
    BecomesAvailable host client ↔ ListedElsewhere host address client.propertyListId ∨
      client.properties ≠ [] ∧
        host.defsBufferUsed.toNat + client.properties.length ≤ host.defsBufferSize.toNat := by
  obtain ⟨joined, consistent⟩ := consistent_run params size reached
  have room : host.addressBuffer.length = initParams.addressBuffer.length := by
    refine run_invariant (fun host => host.addressBuffer.length = initParams.addressBuffer.length) ?_ rfl reached
    intro state call next event same done
    exact (addressBuffer_length done).trans same
  have count := consistent.table.count
  exact consistent.becomesAvailable_iff ready (fun _ => by omega) connectable

theorem ClientParams.connectable {initParams : SppClientEngineInitParams σ} {address : UInt8}
    (params : ClientParams initParams address) (prior : SppClientEngine σ) :
    Connectable (sppClientEngineInit initParams prior) address where
  one := ⟨params.addressLength, params.clientAddress, rfl⟩
  broadcastAddress := params.broadcastAddress
  listed := ⟨params.count, params.short, params.names⟩
  hostAddressBuffer := params.hostAddressBuffer

theorem host_available_setup :
    BecomesAvailable (sppHostEngineInit setupParams staticHost) (sppClientEngineInit setupClientParams staticClient) ↔
      ListedElsewhere (sppHostEngineInit setupParams staticHost) 0x01 0xDD ∨ plist ≠ [] ∧ 0 + 3 ≤ 24 :=
  host_available_iff hostParams_setup rfl (by decide) (run_nil _) rfl (by decide)
    (clientParams_setup.connectable staticClient)

def emptyClient : SppClientEngine PropertyValues :=
  sppClientEngineInit { setupClientParams with propertyCount := 0, properties := [] } staticClient

theorem connectable_empty : Connectable emptyClient 0x01 :=
  ⟨⟨rfl, ⟨[], rfl⟩, rfl⟩, ⟨0x00, [], rfl⟩, ⟨rfl, by decide, by decide⟩, by decide⟩

/-- A client without properties leaves the first host it meets busy for all others. -/
theorem empty_list_keeps_busy : ∃ (link : Link PropertyValues) (events : List LinkEvent),
    run linkStep ⟨sppHostEngineInit setupParams staticHost, emptyClient, [], []⟩
        [.start fun _ _ => 0, .hostReceive [] 0, .clientReceive [] fun _ _ => 0, .hostReceive [] 0] =
      .ok (link, events) ∧ link.Drained ∧ link.host.state = .connecting ∧ Connectable emptyClient 0x01 ∧
      sppHostProcessMessage link.host (Message.connectRequest 0x02 0x00 0xDD) 6 0 =
        .ok (link.host, [.sendMessage (Message.connectResponse 0x1D 0x02 sppStatusBusy)], sppStatusOk) ∧
      ¬BecomesAvailable (sppHostEngineInit setupParams staticHost) emptyClient := by
  refine ⟨_, _, rfl, ⟨rfl, rfl⟩, rfl, connectable_empty, rfl, ?_⟩
  intro available
  obtain ⟨link, events, ran, returns, -⟩ := available (fun _ _ => 0)
    [.hostReceive [] 0, .clientReceive [] fun _ _ => 0, .hostReceive [] 0] (by simp [LinkAction.isDelivery])
  cases ran
  exact absurd (returns ⟨rfl, rfl⟩) (by decide)

end TvcHopper.Spp
