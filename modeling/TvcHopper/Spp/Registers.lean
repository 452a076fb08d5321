import Mathlib.Logic.Function.Basic
import TvcHopper.Machine.Pipeline
import TvcHopper.Spp.Completion

/-! Reads and writes over the protocol.

For an application that stores and loads its properties, the host sees a map of
registers: each value it receives is the one that the last write before the
read put there, whatever the order of deliveries.
-/

set_option autoImplicit false

namespace TvcHopper.Spp
open Machine Machine.Pipeline

variable {σ : Type}

/-! ## The register map -/

abbrev Registers := UInt16 → List UInt8

/-- A write replaces one register, a stream request none. -/
def Registers.apply (registers : Registers) : Operation → Registers
  | .read _ | .stream => registers
  | .write id value => Function.update registers id value

def readBack : Registers → List Operation → List (UInt16 × List UInt8)
  | _, [] => []
  | registers, .read id :: rest => (id, registers id) :: readBack registers rest
  | registers, operation :: rest => readBack (registers.apply operation) rest

/-- The last value that was written to a register. -/
def lastWritten (id : UInt16) (operations : List Operation) : Option (List UInt8) :=
  operations.reverse.findSome? fun
    | .write other value => if other = id then some value else none
    | _ => none

theorem apply_lastWritten (registers : Registers) (operations : List Operation) (id : UInt16) :
    operations.foldl Registers.apply registers id = (lastWritten id operations).getD (registers id) := by
  induction operations generalizing registers with
  | nil => rfl
  | cons operation rest ih =>
    rw [List.foldl_cons, ih, lastWritten, lastWritten, List.reverse_cons, List.findSome?_append, Option.getD_or]
    -- a later write wins; without one it is up to the first operation
    congr 1
    cases operation with
    | read _ | stream => rfl
    | write other value =>
      by_cases same : other = id
      · subst same
        simp [Registers.apply]
      · simp [Registers.apply, same, Function.update_of_ne (Ne.symm same)]

theorem readBack_read (registers : Registers) (before after : List Operation) (id : UInt16) :
    readBack registers (before ++ .read id :: after) =
      readBack registers before ++ (id, (lastWritten id before).getD (registers id)) ::
        readBack (before.foldl Registers.apply registers) after := by
  rw [← apply_lastWritten]
  induction before generalizing registers with
  | nil => rfl
  | cons operation rest ih =>
    cases operation with
    | read other => exact congrArg ((other, registers other) :: ·) (ih registers)
    | write _ _ | stream => exact ih _

example : readBack (fun _ => [0]) [.read 7, .write 7 [1], .write 8 [2], .read 7] = [(7, [0]), (7, [1])] := rfl

/-- The answers to an operation. That of a write brings no value. -/
def serveRegister (registers : Registers) : Operation → Registers × List (Option (UInt16 × List UInt8))
  | .read id => (registers, [some (id, registers id)])
  | .write id value => (Function.update registers id value, [none])
  | .stream => (registers, [])

theorem values_answers (registers : Registers) (operations : List Operation) :
    (answers serveRegister registers operations).filterMap id = readBack registers operations := by
  induction operations generalizing registers with
  | nil => rfl
  | cons operation rest ih =>
    rw [answers, List.filterMap_append, ih]
    cases operation <;> rfl

/-! ## Applications that keep their properties -/

/-- `GetValue` loads what `SetValue` stored, exactly the size of each property. -/
structure RegisterMap (callbacks : SppClientCallbacks σ) (properties : List SppPropertyDefinition) : Prop where
  unique : (properties.map (·.id)).Nodup
  loads : ∀ data, ∀ pd ∈ properties, (callbacks.getValue data pd.id).2.1.length = pd.size.toNat
  keeps : ∀ data, ∀ pd ∈ properties, ∀ other ∈ properties,
    (callbacks.getValue (callbacks.getValue data pd.id).1 other.id).2.1 = (callbacks.getValue data other.id).2.1
  stores : ∀ data, ∀ pd ∈ properties, ∀ value trailing, value.length = pd.size.toNat → ∀ other ∈ properties,
    (callbacks.getValue (callbacks.setValue data pd.id (value ++ trailing)).1 other.id).2.1 =
      if other.id = pd.id then value else (callbacks.getValue data other.id).2.1

def contents (callbacks : SppClientCallbacks σ) (data : σ) : Registers := fun id => (callbacks.getValue data id).2.1

theorem propertySize_unique {properties : List SppPropertyDefinition} (unique : (properties.map (·.id)).Nodup)
    {pd : SppPropertyDefinition} (member : pd ∈ properties) : propertySize properties pd.id = pd.size := by
  obtain ⟨first, found, size⟩ := find_listed ⟨pd, member, rfl⟩
  have same : first.id = pd.id := by simpa using List.find?_some found
  rw [size, List.inj_on_of_nodup_map unique (List.mem_of_find?_eq_some found) member same]

section Simulation
variable {callbacks : SppClientCallbacks σ} {properties : List SppPropertyDefinition}

theorem RegisterMap.loadsWithin (map : RegisterMap callbacks properties) : LoadsWithin callbacks properties := by
  intro data pd member
  rw [map.loads data pd member, propertySize_unique map.unique member]

/-! ## The link and the register map -/

/-- The registers hold the properties of the client, the queues what is in flight. -/
structure Mirrors (callbacks : SppClientCallbacks σ) (properties : List SppPropertyDefinition) (flight : Flight σ)
    (pipeline : Pipeline Registers Operation (Option (UInt16 × List UInt8))) : Prop where
  server : ∀ pd ∈ properties, pipeline.server pd.id = contents callbacks flight.data pd.id
  requests : pipeline.requests = flight.requests.map Request.operation
  responses : pipeline.responses = flight.responses.map Response.value?

theorem Served.mirrors (map : RegisterMap callbacks properties) {data data' : σ} {request : Request}
    {served : List Response} (serves : Served callbacks properties data request data' served) {registers : Registers}
    (server : ∀ pd ∈ properties, registers pd.id = contents callbacks data pd.id) :
    (serveRegister registers request.operation).2 = served.map Response.value? ∧
      ∀ pd ∈ properties, (serveRegister registers request.operation).1 pd.id = contents callbacks data' pd.id := by
  cases serves with
  | read token id behind listed whole =>
    obtain ⟨pd, member, rfl⟩ := listed
    rw [map.loads data pd member, propertySize_unique map.unique member] at whole
    -- the value fills its place in the response
    obtain rfl : behind = [] := List.length_eq_zero_iff.mp (by omega)
    constructor
    · simp [serveRegister, Request.operation, Response.value?, server pd member, contents]
    · intro other inside
      exact (server other inside).trans (map.keeps data pd member other inside).symm
  | write token id value trailing listed =>
    obtain ⟨⟨pd, member, rfl⟩, whole⟩ := listed
    rw [propertySize_unique map.unique member] at whole
    constructor
    · rfl
    · intro other inside
      rw [contents, map.stores data pd member value trailing whole other inside]
      by_cases same : other.id = pd.id
      · simp [serveRegister, Request.operation, same]
      · simp [serveRegister, Request.operation, same, Function.update_of_ne, server other inside, contents]
  | stream token streamType streamId id period => exact ⟨rfl, server⟩

/-- Each step of the link is one of the pipeline, or none. -/
theorem Moves.simulated (map : RegisterMap callbacks properties) {flight flight' : Flight σ} {action : LinkAction}
    {event : LinkEvent} (moves : Moves callbacks properties flight action event flight')
    {pipeline : Pipeline Registers Operation (Option (UInt16 × List UInt8))}
    (mirrors : Mirrors callbacks properties flight pipeline) :
    ∃ steps, submitted steps = [action].filterMap (·.operation (propertySize properties)) ∧
      (execute serveRegister pipeline steps).2.filterMap id = valuesReceived (propertySize properties) [event] ∧
      Mirrors callbacks properties flight' (execute serveRegister pipeline steps).1 := by
  obtain ⟨registers, requests, responses⟩ := pipeline
  obtain ⟨server, rfl, rfl⟩ := mirrors
  cases moves with
  | submit request operation seen =>
    refine ⟨[.submit request.operation], ?_, ?_, ?_⟩
    · simp [submitted, operation]
    · rw [seen.values]
      rfl
    · exact ⟨server, by simp [execute, Pipeline.step], rfl⟩
  | @serve data data' request others responses served lost _ _ operation serves seen =>
    obtain ⟨answered, server'⟩ := serves.mirrors map server
    refine ⟨[.serve], ?_, ?_, ?_⟩
    · simp [submitted, operation]
    · rw [seen.values]
      rfl
    · exact ⟨server', rfl, by simp [execute, Pipeline.step, answered]⟩
  | @collect data requests response others lost _ _ operation seen =>
    refine ⟨[.collect], ?_, ?_, ?_⟩
    · simp [submitted, operation]
    · rw [seen.values]
      show ([response].map Response.value?).filterMap id = _
      rw [List.filterMap_map]
      rfl
    · exact ⟨server, rfl, rfl⟩
  | idle operation seen =>
    refine ⟨[], ?_, ?_, ?_⟩
    · simp [submitted, operation]
    · rw [seen.values]
      rfl
    · exact ⟨server, rfl, rfl⟩

theorem valuesReceived_cons (size : UInt16 → UInt8) (event : LinkEvent) (events : List LinkEvent) :
    valuesReceived size (event :: events) = valuesReceived size [event] ++ valuesReceived size events := by
  rw [valuesReceived, hostEvents_cons, List.flatMap_append]
  rfl

theorem MovesAlong.simulated (map : RegisterMap callbacks properties) {flight flight' : Flight σ}
    {actions : List LinkAction} {events : List LinkEvent}
    (moves : MovesAlong callbacks properties flight actions events flight')
    {pipeline : Pipeline Registers Operation (Option (UInt16 × List UInt8))}
    (mirrors : Mirrors callbacks properties flight pipeline) :
    ∃ steps, submitted steps = actions.filterMap (·.operation (propertySize properties)) ∧
      (execute serveRegister pipeline steps).2.filterMap id = valuesReceived (propertySize properties) events ∧
      Mirrors callbacks properties flight' (execute serveRegister pipeline steps).1 := by
  induction moves generalizing pipeline with
  | nil flight => exact ⟨[], rfl, rfl, mirrors⟩
  | @cons flight middle final action event actions events first rest ih =>
    obtain ⟨one, operation, values, mirrors'⟩ := first.simulated map mirrors
    obtain ⟨more, operations, later, reached⟩ := ih mirrors'
    refine ⟨one ++ more, ?_, ?_, ?_⟩
    · rw [submitted, List.filterMap_append, ← submitted, ← submitted, operation, operations,
        ← List.filterMap_append, List.singleton_append]
    · rw [execute_append, List.filterMap_append, values, later, ← valuesReceived_cons]
    · rw [execute_append]
      exact reached

end Simulation

/-- Requests succeed, responses are accepted, and the values received are those that reads get from a
register map: the answers so far at any time, and all of them when nothing is in flight. -/
theorem registers_refined {setup : HostSetup} {clientParams : SppClientEngineInitParams σ} {address : UInt8}
    {link : Link σ} {actions : List LinkAction} (connected : Connected setup clientParams address link)
    (map : RegisterMap clientParams.callbacks clientParams.properties)
    (accesses : ∀ action ∈ actions, action.Accesses address clientParams.properties)
    (quiet : ∀ action ∈ actions, action.startsStream = false) (bounded : Bounded link actions) :
    ∃ link' events, run linkStep link actions = .ok (link', events) ∧ (∀ event ∈ events, event.succeeded) ∧
      valuesReceived (propertySize clientParams.properties) events <+:
        readBack (contents clientParams.callbacks clientParams.instanceData)
          (actions.filterMap (·.operation (propertySize clientParams.properties))) ∧
      (link'.Drained → valuesReceived (propertySize clientParams.properties) events =
        readBack (contents clientParams.callbacks clientParams.instanceData)
          (actions.filterMap (·.operation (propertySize clientParams.properties)))) := by
  have carries := connected.carries
  have loads := map.loadsWithin
  obtain ⟨link', events, ran⟩ := run_exists loads carries accesses quiet rfl bounded.fromStart
  obtain ⟨flight, moves, reached⟩ := run_moves loads carries accesses bounded.fromStart ran
  have start : Mirrors clientParams.callbacks clientParams.properties ⟨clientParams.instanceData, [], [], 0⟩
      ⟨contents clientParams.callbacks clientParams.instanceData, [], []⟩ := ⟨fun _ _ => rfl, rfl, rfl⟩
  obtain ⟨steps, operations, values, mirrors⟩ := moves.simulated map start
  refine ⟨link', events, ran, moves.succeeded, ?_, ?_⟩
  · rw [← values, ← values_answers, ← operations]
    exact (collected_initially serveRegister rfl).filterMap id
  · intro drained
    obtain ⟨noRequests, noResponses⟩ := reached.drained drained
    rw [← values, ← values_answers, ← operations]
    congr 1
    apply collected_all serveRegister rfl
    · rw [mirrors.requests, noRequests]
      rfl
    · rw [mirrors.responses, noResponses]
      rfl

theorem registerMap_variables {properties : List SppPropertyDefinition} (unique : (properties.map (·.id)).Nodup) :
    RegisterMap (variableCallbacks properties) properties := by
  have find : ∀ pd ∈ properties, properties.find? (·.id == pd.id) = some pd := by
    intro pd member
    obtain ⟨first, found, -⟩ := find_listed ⟨pd, member, rfl⟩
    have same : first.id = pd.id := by simpa using List.find?_some found
    rwa [List.inj_on_of_nodup_map unique (List.mem_of_find?_eq_some found) member same] at found
  constructor
  · exact unique
  · intro values pd member
    simp [variableCallbacks, find pd member]
  · intro values pd member other inside
    simp [variableCallbacks, find pd member]
  · intro values pd member value trailing whole other inside
    simp only [variableCallbacks, find pd member, find other inside]
    by_cases same : other.id = pd.id
    · obtain rfl : other = pd := List.inj_on_of_nodup_map unique inside member same
      rw [if_pos rfl]
      apply List.ext_getElem
      · rw [length_localArray, whole]
      · intro i low high
        have within : i < other.size.toNat := whole ▸ high
        simp [localArray, within, high, List.getElem?_append_left high]
    · simp [same]

theorem registers_refined_setup :
    ∃ link link' : Link PropertyValues, ∃ events, run linkStep link valueExchanged = .ok (link', events) ∧
      (∀ event ∈ events, event.succeeded) ∧
      valuesReceived (propertySize setupClientParams.properties) events <+:
        readBack (contents setupClientParams.callbacks setupClientParams.instanceData)
          (valueExchanged.filterMap (·.operation (propertySize setupClientParams.properties))) ∧
      (link'.Drained → valuesReceived (propertySize setupClientParams.properties) events =
        readBack (contents setupClientParams.callbacks setupClientParams.instanceData)
          (valueExchanged.filterMap (·.operation (propertySize setupClientParams.properties)))) :=
  have ⟨link, connected⟩ := connected_exists
  ⟨link, registers_refined connected (registerMap_variables (by decide)) valueExchanged_accesses (by decide)
    (bounded_of_short (by decide))⟩

end TvcHopper.Spp
