import Mathlib.Algebra.Order.BigOperators.Group.List
import Mathlib.Data.Multiset.OrderedMonoid
import TvcHopper.Spp.Flight

/-! Which requests are answered.

Runs of a link after its handshake, with at most eight requests outstanding at
any time. When both channels are empty, the requests that have no response are
the stream requests.
-/

set_option autoImplicit false

namespace TvcHopper.Spp
open Machine Machine.Slots

variable {σ : Type}

/-! ## Runs of a flight -/

/-- `waiting` more requests are outstanding than the run sends and answers. -/
def BoundedFrom (waiting : Nat) (link : Link σ) (actions : List LinkAction) : Prop :=
  ∀ before, before <+: actions → ∀ link' events, run linkStep link before = .ok (link', events) →
    waiting + (requestTokens events).length ≤ (responseTokens events).length + sppPendingRequestsMax

/-- Never more than eight requests that were sent are not answered. -/
def Bounded (link : Link σ) (actions : List LinkAction) : Prop :=
  ∀ before, before <+: actions → ∀ link' events, run linkStep link before = .ok (link', events) →
    (requestTokens events).length ≤ (responseTokens events).length + sppPendingRequestsMax

inductive MovesAlong (callbacks : SppClientCallbacks σ) (properties : List SppPropertyDefinition) :
    Flight σ → List LinkAction → List LinkEvent → Flight σ → Prop where
  | nil (flight : Flight σ) : MovesAlong callbacks properties flight [] [] flight
  | cons {flight middle final : Flight σ} {action : LinkAction} {event : LinkEvent} {actions : List LinkAction}
      {events : List LinkEvent} (first : Moves callbacks properties flight action event middle)
      (rest : MovesAlong callbacks properties middle actions events final) :
      MovesAlong callbacks properties flight (action :: actions) (event :: events) final

theorem requestTokens_cons (event : LinkEvent) (events : List LinkEvent) :
    requestTokens (event :: events) = requestTokens [event] ++ requestTokens events := by
  rw [requestTokens, hostEvents_cons, List.filterMap_append]
  rfl

theorem responseTokens_cons (event : LinkEvent) (events : List LinkEvent) :
    responseTokens (event :: events) = responseTokens [event] ++ responseTokens events := by
  rw [responseTokens, hostEvents_cons, List.filterMap_append]
  rfl

section Runs
variable {callbacks : SppClientCallbacks σ} {properties : List SppPropertyDefinition} {flight flight' : Flight σ}
  {action : LinkAction} {event : LinkEvent} {actions : List LinkAction} {events : List LinkEvent}

theorem Served.token {data data' : σ} {request : Request} {served : List Response}
    (serves : Served callbacks properties data request data' served) :
    (served.map Response.token : Multiset UInt8) + request.lost = {request.token} := by
  cases serves with
  | read _ _ _ _ | write _ _ _ _ => exact add_zero _
  | stream _ _ _ _ _ => exact zero_add _

theorem Moves.tokens (moves : Moves callbacks properties flight action event flight') :
    (requestTokens [event] : Multiset UInt8) + flight.tokens =
      (responseTokens [event] : Multiset UInt8) + flight'.tokens := by
  cases moves with
  | submit request operation seen =>
    rw [seen.requested, seen.answered]
    simp only [Flight.tokens, List.map_append, List.map_cons, List.map_nil, ← Multiset.coe_add,
      Multiset.coe_singleton, Multiset.coe_nil]
    abel
  | @serve data data' request others responses served lost _ _ operation serves seen =>
    rw [seen.requested, seen.answered]
    have token := serves.token
    simp only [Flight.tokens, List.map_append, List.map_cons, ← Multiset.coe_add, ← Multiset.cons_coe,
      ← Multiset.singleton_add, ← token]
    abel
  | collect operation seen =>
    rw [seen.requested, seen.answered]
    simp only [Flight.tokens, List.map_cons, ← Multiset.cons_coe, Multiset.coe_nil, ← Multiset.singleton_add]
    abel
  | idle operation seen => rw [seen.requested, seen.answered]

theorem MovesAlong.tokens (moves : MovesAlong callbacks properties flight actions events flight') :
    (requestTokens events : Multiset UInt8) + flight.tokens =
      (responseTokens events : Multiset UInt8) + flight'.tokens := by
  induction moves with
  | nil flight => rfl
  | @cons flight middle final action event actions events first rest ih =>
    -- what the step sends and takes in, then what the rest does
    rw [requestTokens_cons, responseTokens_cons, ← Multiset.coe_add, ← Multiset.coe_add, add_assoc, add_assoc, ← ih,
      add_left_comm, first.tokens]
    abel

/-- The tokens of the stream requests, at the client and on the way. -/
def Flight.streams (flight : Flight σ) : Multiset UInt8 := (flight.requests.map Request.lost).sum + flight.lost

theorem lost_card {size : UInt16 → UInt8} {request : Request}
    (operation : action.operation size = some request.operation) :
    request.lost.card = [action].countP LinkAction.startsStream := by
  cases action with
  | start _ | clientReceive _ _ | hostReceive _ _ => cases operation
  | call call =>
    cases call with
    | connectToClient _ | getDefinition _ _ | getPropertyCount _ | processMessage _ _ _ => cases operation
    | getValue _ _ | setValue _ _ _ | startStream _ _ _ _ _ _ =>
      cases request <;> first | rfl | cases operation

theorem startsStream_of_none {size : UInt16 → UInt8} (operation : action.operation size = none) :
    action.startsStream = false := by
  cases action with
  | start _ | clientReceive _ _ | hostReceive _ _ => rfl
  | call call =>
    cases call with
    | startStream _ _ _ _ _ _ => cases operation
    | connectToClient _ | getDefinition _ _ | getPropertyCount _ | processMessage _ _ _ | getValue _ _
    | setValue _ _ _ => rfl

theorem Moves.streams_card (moves : Moves callbacks properties flight action event flight') :
    flight'.streams.card = flight.streams.card + [action].countP LinkAction.startsStream := by
  cases moves with
  | submit request operation seen =>
    rw [← lost_card operation, ← Multiset.card_add]
    simp only [Flight.streams, List.map_append, List.map_cons, List.map_nil, List.sum_append, List.sum_singleton]
    congr 1
    abel
  | serve operation serves seen =>
    rw [List.countP_singleton, startsStream_of_none operation]
    simp only [Flight.streams, List.map_cons, List.sum_cons]
    rw [← add_assoc, add_comm _ (Request.lost _)]
    rfl
  | collect operation seen | idle operation seen =>
    rw [List.countP_singleton, startsStream_of_none operation]
    rfl

theorem MovesAlong.streams_card (moves : MovesAlong callbacks properties flight actions events flight') :
    flight'.streams.card = flight.streams.card + actions.countP LinkAction.startsStream := by
  induction moves with
  | nil flight => rfl
  | @cons flight middle final action event actions events first rest ih =>
    have both : (action :: actions).countP LinkAction.startsStream =
        [action].countP LinkAction.startsStream + actions.countP LinkAction.startsStream :=
      @List.countP_append _ _ [action] actions
    rw [ih, first.streams_card, both, add_assoc]

theorem MovesAlong.succeeded (moves : MovesAlong callbacks properties flight actions events flight') :
    ∀ event ∈ events, event.succeeded := by
  induction moves with
  | nil flight => simp
  | cons first rest ih =>
    intro event member
    rcases List.mem_cons.mp member with rfl | member
    · cases first with
      | submit _ _ seen | serve _ _ seen | collect _ seen | idle _ seen => exact seen.succeeded
    · exact ih event member

end Runs

section Links
variable {setup : HostSetup} {entry : Joined} {callbacks : SppClientCallbacks σ} {link link' : Link σ}
  {flight : Flight σ} {actions : List LinkAction} {events : List LinkEvent}

theorem Bounded.fromStart (bounded : Bounded link actions) : BoundedFrom 0 link actions := by
  intro before start link' events done
  rw [Nat.zero_add]
  exact bounded before start link' events done

theorem BoundedFrom.head {waiting : Nat} {action : LinkAction} {event : LinkEvent}
    (bounded : BoundedFrom waiting link (action :: actions)) (stepped : linkStep link action = .ok (link', event)) :
    (requestTokens [event]).length + waiting ≤ (responseTokens [event]).length + sppPendingRequestsMax := by
  have one := bounded [action] (by simp) link' [event] (run_singleton_eq_ok.mpr ⟨event, stepped, rfl⟩)
  omega

theorem BoundedFrom.tail {waiting waiting' : Nat} {action : LinkAction} {event : LinkEvent}
    (bounded : BoundedFrom waiting link (action :: actions)) (stepped : linkStep link action = .ok (link', event))
    (count : (requestTokens [event]).length + waiting = (responseTokens [event]).length + waiting') :
    BoundedFrom waiting' link' actions := by
  intro before start final events done
  have longer := bounded (action :: before) (List.cons_prefix_cons.mpr ⟨rfl, start⟩) final (event :: events)
    (run_cons_eq_ok.mpr ⟨_, _, _, stepped, done, rfl⟩)
  rw [requestTokens_cons, responseTokens_cons, List.length_append, List.length_append] at longer
  omega

theorem Moves.count {flight' : Flight σ} {properties : List SppPropertyDefinition} {action : LinkAction}
    {event : LinkEvent} (moves : Moves callbacks properties flight action event flight') :
    (requestTokens [event]).length + flight.tokens.card = (responseTokens [event]).length + flight'.tokens.card := by
  have cards := congrArg Multiset.card moves.tokens
  simpa using cards

theorem run_moves (loads : LoadsWithin callbacks entry.properties)
    (carries : Carries setup entry callbacks link flight)
    (accesses : ∀ action ∈ actions, action.Accesses entry.address entry.properties)
    (bounded : BoundedFrom flight.tokens.card link actions) (done : run linkStep link actions = .ok (link', events)) :
    ∃ flight', MovesAlong callbacks entry.properties flight actions events flight' ∧
      Carries setup entry callbacks link' flight' := by
  induction actions generalizing link flight events with
  | nil =>
    simp only [run_nil, Except.ok.injEq, Prod.mk.injEq] at done
    obtain ⟨rfl, rfl⟩ := done
    exact ⟨flight, .nil flight, carries⟩
  | cons action rest ih =>
    obtain ⟨middle, event, later, stepped, ran, rfl⟩ := run_cons_eq_ok.mp done
    obtain ⟨flight', moves, after⟩ :=
      step_moves loads carries (accesses action (List.mem_cons_self ..)) stepped (bounded.head stepped)
    obtain ⟨final, along, reached⟩ := ih after (fun other member => accesses other (List.mem_cons_of_mem _ member))
      (bounded.tail stepped moves.count) ran
    exact ⟨final, .cons moves along, reached⟩

theorem Flight.noStream (quiet : flight.streams = 0) : ∀ request ∈ flight.requests, request.lost = 0 := by
  intro request member
  have sum : (flight.requests.map Request.lost).sum = 0 := (add_eq_zero.mp quiet).1
  exact List.sum_eq_zero_iff.mp sum _ (List.mem_map_of_mem member)

theorem Moves.quiet {flight' : Flight σ} {properties : List SppPropertyDefinition} {action : LinkAction}
    {event : LinkEvent} (moves : Moves callbacks properties flight action event flight')
    (still : action.startsStream = false) (none : flight.streams = 0) : flight'.streams = 0 := by
  apply Multiset.card_eq_zero.mp
  rw [moves.streams_card, none, List.countP_singleton, still]
  rfl

theorem run_exists (loads : LoadsWithin callbacks entry.properties)
    (carries : Carries setup entry callbacks link flight)
    (accesses : ∀ action ∈ actions, action.Accesses entry.address entry.properties)
    (quiet : ∀ action ∈ actions, action.startsStream = false) (none : flight.streams = 0)
    (bounded : BoundedFrom flight.tokens.card link actions) :
    ∃ link' events, run linkStep link actions = .ok (link', events) := by
  induction actions generalizing link flight with
  | nil => exact ⟨link, [], rfl⟩
  | cons action rest ih =>
    have access := accesses action (List.mem_cons_self ..)
    have still := quiet action (List.mem_cons_self ..)
    obtain ⟨middle, event, stepped⟩ := step_exists loads carries access still (Flight.noStream none)
    obtain ⟨flight', moves, after⟩ := step_moves loads carries access stepped (bounded.head stepped)
    have others := fun other member => accesses other (List.mem_cons_of_mem action member)
    have othersQuiet := fun other member => quiet other (List.mem_cons_of_mem action member)
    obtain ⟨link', events, ran⟩ :=
      ih after others othersQuiet (moves.quiet still none) (bounded.tail stepped moves.count)
    exact ⟨link', event :: events, run_cons_eq_ok.mpr ⟨_, _, _, stepped, ran, rfl⟩⟩

end Links

/-! ## Connected links -/

structure Connected (setup : HostSetup) (clientParams : SppClientEngineInitParams σ) (address : UInt8)
    (link : Link σ) : Prop where
  client : ClientParams clientParams address
  addressRoom : 1 ≤ setup.clients
  fits : clientParams.properties.length ≤ setup.definitions
  handshake : ∃ hostParams priorHost priorClient stack deliveries events, HostParams setup hostParams ∧
    (∀ action ∈ deliveries, action.isDelivery = true) ∧
    run linkStep (freshLink hostParams priorHost clientParams priorClient) (.start stack :: deliveries) =
      .ok (link, events)
  drained : link.Drained

theorem Connected.finished {setup : HostSetup} {clientParams : SppClientEngineInitParams σ} {address : UInt8}
    {link : Link σ} (connected : Connected setup clientParams address link) :
    ∃ hostParams priorHost priorClient,
      NewClient setup [] (sppClientEngineInit clientParams priorClient) address ∧
      HostHolds setup link.host [⟨address, clientParams.propertyListId, clientParams.properties⟩] ∧
      link.host.pending = (sppHostEngineInit hostParams priorHost).pending ∧
      link.client = knowing (sppClientEngineInit clientParams priorClient) setup.address := by
  -- the deliveries are those of a handshake, which has one outcome
  obtain ⟨hostParams, priorHost, priorClient, stack, deliveries, _, host, allowed, done⟩ := connected.handshake
  have new : NewClient setup [] (sppClientEngineInit clientParams priorClient) address :=
    connected.client.newClient priorClient (by simp) (by simp) (by decide) connected.addressRoom
      (by simpa [received] using connected.fits)
  obtain ⟨started, begins, handshake⟩ := handshake_start new (host.holds priorHost) rfl stack
  obtain ⟨waiting, later, reached, -, ran, handshake⟩ := handshake_run new handshake allowed
  have whole : run linkStep (freshLink hostParams priorHost clientParams priorClient) (.start stack :: deliveries) =
      .ok (reached, .started :: later) := run_cons_eq_ok.mpr ⟨_, _, _, begins, ran, rfl⟩
  rw [done] at whole
  cases whole
  obtain ⟨holds, -, pending, client⟩ := handshake.finished connected.drained
  exact ⟨hostParams, priorHost, priorClient, new, holds, pending, client⟩

theorem Connected.carries {setup : HostSetup} {clientParams : SppClientEngineInitParams σ} {address : UInt8}
    {link : Link σ} (connected : Connected setup clientParams address link) :
    Carries setup ⟨address, clientParams.propertyListId, clientParams.properties⟩ clientParams.callbacks link
      ⟨clientParams.instanceData, [], [], 0⟩ := by
  obtain ⟨hostParams, priorHost, priorClient, new, holds, pending, client⟩ := connected.finished
  have fresh : link.host.pending.outstanding = 0 := by
    rw [pending]
    rfl
  constructor
  · exact holds
  · rw [pending]
    exact accounted_init hostParams priorHost
  · rw [client]
    exact ⟨new.one.addressLength, new.one.clientAddress, new.one.hostAddress⟩
  · rw [client]
    rfl
  · rw [client]
    exact ⟨new.listed.count, new.listed.short, new.listed.names⟩
  · rw [client]
    rfl
  · rw [client]
    rfl
  · rw [client]
    rfl
  · intro request member
    cases member
  · intro response member
    cases member
  · exact connected.drained.1
  · exact connected.drained.2
  · exact fresh

theorem Connected.client_streamCount {setup : HostSetup} {clientParams : SppClientEngineInitParams σ}
    {address : UInt8} {link : Link σ} (connected : Connected setup clientParams address link) :
    link.client.streamCount = 0 := by
  obtain ⟨hostParams, priorHost, priorClient, new, holds, pending, client⟩ := connected.finished
  rw [client]
  rfl

/-! ## Every request completes -/

/-- Each request has one response with its token, and the table is empty again. -/
structure Completed (link : Link σ) (events : List LinkEvent) : Prop where
  answered : (responseTokens events).Perm (requestTokens events)
  count : link.host.pendingRequestCount = 0
  free : ∀ token ∈ link.host.pendingRequestTokens.toList, token = sppTokenMaxReserved

section Links
variable {setup : HostSetup} {entry : Joined} {callbacks : SppClientCallbacks σ} {link link' : Link σ}
  {flight : Flight σ} {actions : List LinkAction} {events : List LinkEvent}

theorem Carries.completed_iff (carries : Carries setup entry callbacks link flight)
    (awaited : (requestTokens events : Multiset UInt8) =
      (responseTokens events : Multiset UInt8) + flight.tokens) :
    Completed link events ↔ flight.tokens = 0 := by
  constructor
  · intro completed
    have same : (responseTokens events : Multiset UInt8) = (requestTokens events : Multiset UInt8) :=
      Multiset.coe_eq_coe.mpr completed.answered
    rw [same] at awaited
    exact add_eq_left.mp awaited.symm
  · intro none
    have empty : link.host.pending.outstanding = 0 := carries.outstanding.trans none
    have count := carries.accounted.count_eq
    rw [none, add_zero] at awaited
    rw [empty, Multiset.card_zero] at count
    constructor
    · exact Multiset.coe_eq_coe.mp awaited.symm
    · exact UInt16.toNat_inj.mp count
    · intro token member
      by_contra real
      have inside : token ∈ link.host.pending.outstanding := mem_occupied.mpr ⟨member, real⟩
      rw [empty] at inside
      exact Multiset.notMem_zero token inside

theorem Carries.drained (carries : Carries setup entry callbacks link flight) (drained : link.Drained) :
    flight.requests = [] ∧ flight.responses = [] := by
  have toClient := carries.toClient
  have toHost := carries.toHost
  rw [drained.1] at toClient
  rw [drained.2] at toHost
  exact ⟨List.map_eq_nil_iff.mp toClient.symm, List.map_eq_nil_iff.mp toHost.symm⟩

theorem Carries.drain_client (loads : LoadsWithin callbacks entry.properties)
    (carries : Carries setup entry callbacks link flight) (none : flight.streams = 0) :
    ∃ deliveries link' events flight', (∀ action ∈ deliveries, action.isDelivery = true) ∧
      run linkStep link deliveries = .ok (link', events) ∧ link'.toClient = [] ∧
      Carries setup entry callbacks link' flight' := by
  generalize queued : link.toClient = messages
  induction messages generalizing link flight with
  | nil => exact ⟨[], link, [], flight, by simp, rfl, queued, carries⟩
  | cons message rest ih =>
    have accesses : (LinkAction.clientReceive [] fun _ _ => 0).Accesses entry.address entry.properties := trivial
    obtain ⟨middle, event, stepped⟩ := step_exists loads carries accesses rfl (Flight.noStream none)
    obtain ⟨flight', moves, after⟩ := carries.clientReceive loads stepped
    obtain ⟨deliveries, link', events, final, allowed, ran, empty, reached⟩ :=
      ih after (moves.quiet rfl none) (link_clientReceive_rest queued stepped)
    refine ⟨_ :: deliveries, link', event :: events, final, ?_, run_cons_eq_ok.mpr ⟨_, _, _, stepped, ran, rfl⟩,
      empty, reached⟩
    exact List.forall_mem_cons.mpr ⟨rfl, allowed⟩

theorem Carries.drain_host (carries : Carries setup entry callbacks link flight) (empty : link.toClient = []) :
    ∃ deliveries link' events, (∀ action ∈ deliveries, action.isDelivery = true) ∧
      run linkStep link deliveries = .ok (link', events) ∧ link'.Drained := by
  generalize queued : link.toHost = messages
  induction messages generalizing link flight with
  | nil => exact ⟨[], link, [], by simp, rfl, empty, queued⟩
  | cons message rest ih =>
    obtain ⟨middle, event, flight', stepped, same, moves, after⟩ := carries.hostReceive [] 0
    obtain ⟨deliveries, link', events, allowed, ran, drained⟩ :=
      ih after (same.trans empty) (link_hostReceive_rest queued stepped)
    refine ⟨_ :: deliveries, link', event :: events, ?_, run_cons_eq_ok.mpr ⟨_, _, _, stepped, ran, rfl⟩, drained⟩
    exact List.forall_mem_cons.mpr ⟨rfl, allowed⟩

theorem Carries.drains (loads : LoadsWithin callbacks entry.properties)
    (carries : Carries setup entry callbacks link flight) (none : flight.streams = 0) :
    ∃ deliveries link' events, (∀ action ∈ deliveries, action.isDelivery = true) ∧
      run linkStep link deliveries = .ok (link', events) ∧ link'.Drained := by
  obtain ⟨first, middle, earlier, _, allowed, ran, empty, reached⟩ := carries.drain_client loads none
  obtain ⟨rest, link', later, allowed', ran', drained⟩ := reached.drain_host empty
  refine ⟨first ++ rest, link', earlier ++ later, ?_, run_append_eq_ok.mpr ⟨_, _, _, ran, ran', rfl⟩, drained⟩
  exact List.forall_mem_append.mpr ⟨allowed, allowed'⟩

end Links

/-- A run without stream requests never fails and can always be drained. Whatever the requests, when the
link is drained each of them has been answered exactly if there is no stream request among them. -/
theorem requests_completed_iff {setup : HostSetup} {clientParams : SppClientEngineInitParams σ} {address : UInt8}
    {link : Link σ} {actions : List LinkAction} (connected : Connected setup clientParams address link)
    (loads : LoadsWithin clientParams.callbacks clientParams.properties)
    (accesses : ∀ action ∈ actions, action.Accesses address clientParams.properties)
    (bounded : Bounded link actions) :
    ((∀ action ∈ actions, action.startsStream = false) →
        ∃ deliveries link' events, (∀ action ∈ deliveries, action.isDelivery = true) ∧
          run linkStep link (actions ++ deliveries) = .ok (link', events) ∧ link'.Drained) ∧
      ∀ link' events, run linkStep link actions = .ok (link', events) → link'.Drained →
        (Completed link' events ↔ ∀ action ∈ actions, action.startsStream = false) := by
  have carries := connected.carries
  constructor
  · intro quiet
    obtain ⟨middle, earlier, ran⟩ := run_exists loads carries accesses quiet rfl bounded.fromStart
    obtain ⟨flight, moves, reached⟩ := run_moves loads carries accesses bounded.fromStart ran
    have none : flight.streams = 0 := by
      apply Multiset.card_eq_zero.mp
      rw [moves.streams_card, List.countP_eq_zero.mpr (by simpa using quiet)]
      rfl
    obtain ⟨deliveries, link', later, allowed, ran', drained⟩ := reached.drains loads none
    exact ⟨deliveries, link', earlier ++ later, allowed, run_append_eq_ok.mpr ⟨_, _, _, ran, ran', rfl⟩, drained⟩
  · intro link' events done drained
    obtain ⟨flight, moves, reached⟩ := run_moves loads carries accesses bounded.fromStart done
    obtain ⟨noRequests, noResponses⟩ := reached.drained drained
    have left : flight.tokens = flight.lost := by
      rw [Flight.tokens, noRequests, noResponses]
      exact zero_add flight.lost
    have streams : flight.streams = flight.lost := by
      rw [Flight.streams, noRequests]
      exact zero_add flight.lost
    -- a drained flight awaits one token for each stream request of the run
    have cards : flight.lost.card = actions.countP LinkAction.startsStream := by
      rw [← streams, moves.streams_card]
      exact Nat.zero_add _
    have awaited : (requestTokens events : Multiset UInt8) =
        (responseTokens events : Multiset UInt8) + flight.tokens := (add_zero _).symm.trans moves.tokens
    rw [reached.completed_iff awaited, left, ← Multiset.card_eq_zero, cards, List.countP_eq_zero]
    simp only [Bool.not_eq_true]

/-! ## The engines of the tests -/

/-- `staticHost` with one stream object of the application. -/
def streamingHost : SppHostEngine := { staticHost with streamObjects := [⟨none, 0, 0, none, 0, 0⟩] }

def setupDeliveries : List LinkAction :=
  [.hostReceive [] 0, .clientReceive [] fun _ _ => 0] ++ List.replicate 4 (.hostReceive [] 0)

theorem connected_setup {more : List LinkAction} {link : Link PropertyValues} {events : List LinkEvent}
    (done : run linkStep (freshLink setupParams streamingHost setupClientParams staticClient)
      ((.start fun _ _ => 0) :: setupDeliveries ++ more) = .ok (link, events)) :
    ∃ start later, Connected ⟨0x1D, 24, 15⟩ setupClientParams 0x01 start ∧
      run linkStep start more = .ok (link, later) := by
  obtain ⟨start, earlier, later, ran, after, -⟩ := run_append_eq_ok.mp done
  have checked : (match run linkStep (freshLink setupParams streamingHost setupClientParams staticClient)
      ((.start fun _ _ => 0) :: setupDeliveries) with
    | .ok (final, _) => final.toClient.isEmpty && final.toHost.isEmpty
    | .error _ => false) = true := by decide +kernel
  rw [ran] at checked
  refine ⟨start, later, ⟨clientParams_setup, by decide, by decide, ?_, ?_⟩, after⟩
  · exact ⟨setupParams, streamingHost, staticClient, _, setupDeliveries, _, hostParams_setup, by decide, ran⟩
  · simpa [Link.Drained] using checked

theorem connected_exists : ∃ link, Connected ⟨0x1D, 24, 15⟩ setupClientParams 0x01 link := by
  obtain ⟨_, _, done, -⟩ := run_checked linkStep (freshLink setupParams streamingHost setupClientParams staticClient)
    ((.start fun _ _ => 0) :: setupDeliveries ++ []) (fun _ _ => true) (by decide +kernel)
  obtain ⟨link, _, connected, -⟩ := connected_setup done
  exact ⟨link, connected⟩

/-- A write and a read of `Prop_1`, up to both answers. -/
def valueExchanged : List LinkAction :=
  [.call (.setValue ⟨.external [0x01], 0⟩ 0xAB [0x34, 0x12]), .call (.getValue ⟨.external [0x01], 0⟩ 0xAB),
    .clientReceive [] fun _ _ => 0, .hostReceive [] 0, .clientReceive [] fun _ _ => 0, .hostReceive [] 0]

theorem valueExchanged_accesses : ∀ action ∈ valueExchanged, action.Accesses 0x01 plist := by
  simp [valueExchanged, LinkAction.Accesses, Addressed, plist, propertySize]

theorem loadsExactly_variables (properties : List SppPropertyDefinition) :
    LoadsExactly (variableCallbacks properties) properties := by
  intro values pd member
  obtain ⟨first, found, size⟩ := find_listed ⟨pd, member, rfl⟩
  rw [size, variableCallbacks]
  simp only [found]
  apply length_localArray

theorem loadsWithin_variables (properties : List SppPropertyDefinition) :
    LoadsWithin (variableCallbacks properties) properties := (loadsExactly_variables properties).within

theorem bounded_of_short {link : Link σ} {actions : List LinkAction}
    (short : actions.length ≤ sppPendingRequestsMax) : Bounded link actions := by
  intro before start link' events done
  have requests : (requestTokens events).length ≤ events.length :=
    (List.length_filterMap_le ..).trans (List.length_filterMap_le ..)
  have length := run_length done
  have part := start.length_le
  omega

theorem requests_completed_setup :
    ∃ link : Link PropertyValues,
      ((∀ action ∈ valueExchanged, action.startsStream = false) →
        ∃ deliveries link' events, (∀ action ∈ deliveries, action.isDelivery = true) ∧
          run linkStep link (valueExchanged ++ deliveries) = .ok (link', events) ∧ link'.Drained) ∧
      ∀ link' events, run linkStep link valueExchanged = .ok (link', events) → link'.Drained →
        (Completed link' events ↔ ∀ action ∈ valueExchanged, action.startsStream = false) :=
  have ⟨link, connected⟩ := connected_exists
  ⟨link, requests_completed_iff connected (loadsWithin_variables plist) valueExchanged_accesses
    (bounded_of_short (by decide))⟩

def streamRequested : List LinkAction :=
  [.call (.startStream ⟨.external [0x01], 0⟩ 0xAB 10 1 0 1), .clientReceive [0] fun _ _ => 0]

/-- The client takes a stream request, and the host waits for the response for ever. -/
theorem stream_request_unanswered :
    ∃ link link' : Link PropertyValues, ∃ events, Connected ⟨0x1D, 24, 15⟩ setupClientParams 0x01 link ∧
      (∀ action ∈ streamRequested, action.Accesses 0x01 plist) ∧ Bounded link streamRequested ∧
      run linkStep link streamRequested = .ok (link', events) ∧ link'.Drained ∧ ¬Completed link' events := by
  obtain ⟨link', _, done, checked⟩ := run_checked linkStep
    (freshLink setupParams streamingHost setupClientParams staticClient)
    ((.start fun _ _ => 0) :: setupDeliveries ++ streamRequested)
    (fun link _ => link.toClient.isEmpty && link.toHost.isEmpty && link.host.pendingRequestCount == 1)
    (by decide +kernel)
  obtain ⟨link, events, connected, ran⟩ := connected_setup done
  simp only [Bool.and_eq_true, List.isEmpty_iff, beq_iff_eq] at checked
  refine ⟨link, link', events, connected, ?_, bounded_of_short (by decide), ran, checked.1, ?_⟩
  · simp [streamRequested, LinkAction.Accesses, Addressed, plist]
  · intro completed
    have count := completed.count
    rw [checked.2] at count
    cases count

end TvcHopper.Spp
