import TvcHopper.Spp.Streams

/-! Runs with streams that go through to their end.

A start writes one byte behind the message that it builds, and the client reads
one behind the message that it takes. Where these two bytes are there, every
step of a connected link returns, and where one is not, the run ends there.
-/

set_option autoImplicit false

namespace TvcHopper.Spp
open Machine

variable {σ : Type}

/-! ## The steps that return -/

section Steps
variable {setup : HostSetup} {entry : Joined} {callbacks : SppClientCallbacks σ} {state : StreamLink σ}
  {opened : List (UInt8 × UInt16)} {requests : List Request} {messages : List HostMessage}

theorem returns_link {action : LinkAction} :
    StepReturns streamStep state (.link action) ↔ StepReturns linkStep state.link action := by
  constructor
  · rintro ⟨⟨state', event⟩, done⟩
    obtain ⟨link, event, stepped, -⟩ := stream_link_inv done
    exact ⟨(link, event), stepped⟩
  · rintro ⟨⟨link, event⟩, stepped⟩
    exact ⟨_, stream_link stepped⟩

theorem Streaming.call_returns (streaming : Streaming setup entry callbacks state opened requests messages)
    {call : HostCall} (accesses : (LinkAction.call call).Accesses entry.address entry.properties)
    (place : InPlace state (.link (.call call))) :
    StepReturns streamStep state (.link (.call call)) ↔ Spared state (.link (.call call)) := by
  rw [returns_link]
  by_cases full : state.link.host.pendingRequestCount > 8
  · refine iff_of_true ⟨_, link_call (request_refused accesses.isRequest full)⟩ ?_
    cases call with
    | startStream client id period streamType stream spare => exact fun room => absurd full room
    | _ => trivial
  cases call with
  | connectToClient _ | getDefinition _ _ | getPropertyCount _ | processMessage _ _ _ => cases accesses
  | getValue client id => exact iff_of_true ⟨_, streaming.paired.getValue_step accesses.1 full id⟩ trivial
  | setValue client id value =>
    obtain ⟨⟨addressed, listed⟩, long⟩ := accesses
    exact iff_of_true ⟨_, streaming.paired.setValue_step addressed full listed long⟩ trivial
  | startStream client id period streamType stream spare =>
    obtain ⟨few, inside⟩ := place full
    rw [← streaming.host.count] at few
    rw [streaming.paired.startStream_returns accesses.1 full accesses.2]
    exact ⟨fun returns _ => returns.2.2, fun spared => ⟨inside, few, spared full⟩⟩

theorem Streaming.clientReceive_returns (loads : LoadsWithin callbacks entry.properties)
    (streaming : Streaming setup entry callbacks state opened requests messages) (trailing : List UInt8)
    (stack : Stack) :
    StepReturns streamStep state (.link (.clientReceive trailing stack)) ↔
      Spared state (.link (.clientReceive trailing stack)) := by
  rw [returns_link]
  have queued := streaming.toClient
  cases requests with
  | nil =>
    refine iff_of_true ⟨_, link_clientReceive_idle queued⟩ fun message first => ?_
    rw [queued] at first
    cases first
  | cons request others =>
    have listed := (List.forall_mem_cons.mp streaming.listed).1
    cases request with
    | read token id =>
      obtain ⟨behind, -, served⟩ := streaming.paired.read_step loads listed queued trailing stack
      refine iff_of_true ⟨_, served⟩ fun message first isStart => ?_
      rw [queued] at first
      cases first
      cases isStart
    | write token id value =>
      refine iff_of_true ⟨_, streaming.paired.write_step listed.2 queued trailing stack⟩ fun message first isStart => ?_
      rw [queued] at first
      cases first
      cases isStart
    | stream token streamType streamId id period =>
      obtain ⟨place, looked, -⟩ := streaming.opening
      have tables := congrArg List.length streaming.tables
      have few := streaming.few
      have count := streaming.client.count
      have bound : state.link.client.streamCount.toNat < sppStreamMaxCount := by
        simp only [List.length_append, List.filterMap_cons, Request.opens, List.length_cons, streamTable,
          List.length_map, List.length_zipIdx] at tables
        omega
      rw [streaming.paired.stream_returns queued bound looked]
      constructor
      · intro behind _ _ _
        exact behind
      · intro spared
        exact spared _ (by rw [queued]; rfl) rfl

theorem Streaming.returns_iff (exact : LoadsExactly callbacks entry.properties)
    (streaming : Streaming setup entry callbacks state opened requests messages) {action : StreamAction}
    (accesses : action.Accesses entry.address entry.properties) (place : InPlace state action) :
    StepReturns streamStep state action ↔ Spared state action := by
  cases action with
  | processStreams timestamp elapsedTime stack =>
    obtain ⟨_, _, _, passed, -⟩ := streaming.process exact timestamp elapsedTime stack
    exact iff_of_true ⟨_, stream_process passed⟩ trivial
  | link action =>
    cases action with
    | start _ => cases accesses
    | call call => exact streaming.call_returns accesses place
    | clientReceive trailing stack => exact streaming.clientReceive_returns exact.within trailing stack
    | hostReceive trailing unset =>
      obtain ⟨_, _, _, stepped, -⟩ := streaming.hostReceive trailing unset
      exact iff_of_true ⟨_, stepped⟩ trivial

theorem Streaming.run_returns (exact : LoadsExactly callbacks entry.properties)
    (streaming : Streaming setup entry callbacks state opened requests messages) {actions : List StreamAction}
    (accesses : ∀ action ∈ actions, action.Accesses entry.address entry.properties)
    (own : (state.started.map Prod.snd ++ actions.filterMap StreamAction.object).Nodup)
    (place : EveryAttempt streamStep InPlace state actions) :
    EveryAttempt streamStep (StepReturns streamStep) state actions ↔ EveryAttempt streamStep Spared state actions := by
  induction actions generalizing state opened requests messages with
  | nil => exact Iff.rfl
  | cons action rest ih =>
    have here := accesses action (List.mem_cons_self ..)
    have same := streaming.returns_iff exact here place.1
    cases one : streamStep state action with
    | error fault => simp only [EveryAttempt, one, same]
    | ok result =>
      obtain ⟨⟨opened', requests', messages', after⟩, own'⟩ := streaming.next exact here own one
      have later := (everyAttempt_cons one).mp place
      rw [everyAttempt_cons one, everyAttempt_cons one, same,
        ih after (fun other member => accesses other (List.mem_cons_of_mem _ member)) own' later.2]

end Steps

/-! ## Connected links -/

section Connection
variable {setup : HostSetup} {clientParams : SppClientEngineInitParams σ} {address : UInt8} {link : Link σ}
  {actions : List StreamAction}

theorem Connected.streaming (connected : Connected setup clientParams address link)
    (fresh : link.host.streamCount = 0) :
    Streaming setup ⟨address, clientParams.propertyListId, clientParams.properties⟩ clientParams.callbacks
      ⟨link, [], []⟩ [] [] [] := by
  have carries := connected.carries
  constructor
  · exact carries.paired
  · exact ⟨by rw [fresh]; rfl, List.nodup_nil, by simp⟩
  · exact ⟨by rw [connected.client_streamCount]; rfl, by simp⟩
  · rfl
  · exact Nat.zero_le _
  · simp
  · simp
  · simp
  · simp
  · exact carries.toClient
  · exact carries.toHost
  · rfl

/-- After the handshake, with no stream yet, however starts, calls of `SppProcessStreams` and deliveries follow one
another: `OnStreamResponse` gets the time, the object and the value of each stream message, in every state that the
run reaches. -/
theorem streams_deliver (connected : Connected setup clientParams address link) (fresh : link.host.streamCount = 0)
    (exact : LoadsExactly clientParams.callbacks clientParams.properties)
    (accesses : ∀ action ∈ actions, action.Accesses address clientParams.properties)
    (own : (actions.filterMap StreamAction.object).Nodup) :
    EveryState streamStep Delivers ⟨link, [], []⟩ actions :=
  (connected.streaming fresh).run exact accesses own

/-- Such a run of at most sixteen starts goes through to its end, and delivers, exactly when there is a byte behind
the message of each start and behind each stream request that the client takes. -/
theorem streams_deliver_iff (connected : Connected setup clientParams address link)
    (fresh : link.host.streamCount = 0) (exact : LoadsExactly clientParams.callbacks clientParams.properties)
    (accesses : ∀ action ∈ actions, action.Accesses address clientParams.properties)
    (own : (actions.filterMap StreamAction.object).Nodup)
    (place : EveryAttempt streamStep InPlace ⟨link, [], []⟩ actions) :
    EveryState streamStep Delivers ⟨link, [], []⟩ actions ∧
        EveryAttempt streamStep (StepReturns streamStep) ⟨link, [], []⟩ actions ↔
      EveryAttempt streamStep Spared ⟨link, [], []⟩ actions := by
  have delivers := streams_deliver connected fresh exact accesses own
  rw [and_iff_right delivers]
  exact (connected.streaming fresh).run_returns exact accesses own place

end Connection

/-- A stream of `Prop_1` is started and sends its first value. -/
def propertyStreamed : List StreamAction :=
  [.link (.call (.startStream ⟨.external [0x01], 0⟩ 0xAB 10 1 0 1)), .link (.clientReceive [0] fun _ _ => 0),
    .processStreams 500 11 fun _ _ => 0, .link (.hostReceive [] 0)]

theorem streams_deliver_setup :
    ∃ link : Link PropertyValues,
      (EveryState streamStep Delivers ⟨link, [], []⟩ propertyStreamed ∧
          EveryAttempt streamStep (StepReturns streamStep) ⟨link, [], []⟩ propertyStreamed ↔
        EveryAttempt streamStep Spared ⟨link, [], []⟩ propertyStreamed) := by
  obtain ⟨link, _, done, checked⟩ := run_checked linkStep
    (freshLink setupParams streamingHost setupClientParams staticClient)
    ((.start fun _ _ => 0) :: setupDeliveries ++ [])
    (fun link _ => link.host.streamCount == 0 && link.host.streamObjects.length == 1) (by decide +kernel)
  obtain ⟨_, _, connected, ran⟩ := connected_setup done
  cases ran
  simp only [Bool.and_eq_true, beq_iff_eq] at checked
  obtain ⟨fresh, objects⟩ := checked
  refine ⟨link, streams_deliver_iff connected fresh (loadsExactly_variables plist) ?_ (by decide) ?_⟩
  · simp [propertyStreamed, StreamAction.Accesses, LinkAction.Accesses, Addressed, setupClientParams, plist]
  · refine ⟨fun _ => ⟨Nat.succ_pos 15, by rw [objects]; decide⟩, ?_⟩
    split
    · exact everyAttempt_of_forall (by simp [InPlace])
    · trivial

/-- The host starts a stream of `Prop_1` with no byte behind the message: the last `memcpy` leaves its array. -/
def streamOverrun : List StreamAction := [.link (.call (.startStream ⟨.external [0x01], 0⟩ 0xAB 10 1 0 0))]

theorem streams_undelivered :
    ∃ link : Link PropertyValues, Connected ⟨0x1D, 24, 15⟩ setupClientParams 0x01 link ∧ link.host.streamCount = 0 ∧
      LoadsExactly setupClientParams.callbacks setupClientParams.properties ∧
      (∀ action ∈ streamOverrun, action.Accesses 0x01 setupClientParams.properties) ∧
      (streamOverrun.filterMap StreamAction.object).Nodup ∧
      EveryAttempt streamStep InPlace ⟨link, [], []⟩ streamOverrun ∧
      ¬(EveryState streamStep Delivers ⟨link, [], []⟩ streamOverrun ∧
        EveryAttempt streamStep (StepReturns streamStep) ⟨link, [], []⟩ streamOverrun) := by
  obtain ⟨link, _, done, checked⟩ := run_checked linkStep
    (freshLink setupParams streamingHost setupClientParams staticClient)
    ((.start fun _ _ => 0) :: setupDeliveries ++ [])
    (fun link _ => link.host.streamCount == 0 && link.host.streamObjects.length == 1 &&
      link.host.pendingRequestCount == 0) (by decide +kernel)
  obtain ⟨_, _, connected, ran⟩ := connected_setup done
  cases ran
  simp only [Bool.and_eq_true, beq_iff_eq] at checked
  obtain ⟨⟨fresh, objects⟩, noRequest⟩ := checked
  have exact : LoadsExactly setupClientParams.callbacks setupClientParams.properties := loadsExactly_variables plist
  have accesses : ∀ action ∈ streamOverrun, action.Accesses 0x01 setupClientParams.properties := by
    simp [streamOverrun, StreamAction.Accesses, LinkAction.Accesses, Addressed, setupClientParams, plist]
  have place : InPlace (⟨link, [], []⟩ : StreamLink PropertyValues)
      (.link (.call (.startStream ⟨.external [0x01], 0⟩ 0xAB 10 1 0 0))) :=
    fun _ => ⟨Nat.succ_pos 15, by rw [objects]; decide⟩
  have alone : EveryAttempt streamStep InPlace ⟨link, [], []⟩ streamOverrun := by
    refine ⟨place, ?_⟩
    split <;> trivial
  refine ⟨link, connected, fresh, exact, accesses, by decide, alone, ?_⟩
  rintro ⟨-, returns⟩
  have spared := ((connected.streaming fresh).returns_iff exact (accesses _ (List.mem_singleton_self _)) place).mp
    returns.1
  exact absurd (spared (by rw [noRequest]; decide)) (by decide)

/-- The value arrives with the time at which it was read. -/
example : (match run streamStep ⟨freshLink setupParams streamingHost setupClientParams staticClient, [], []⟩
      (((.start fun _ _ => 0) :: setupDeliveries).map .link ++ propertyStreamed) with
    | .ok (final, _) => final.link.host.streamObjects.map (·.value)
    | .error _ => []) = [some [0, 0]] := by decide +kernel

end TvcHopper.Spp
