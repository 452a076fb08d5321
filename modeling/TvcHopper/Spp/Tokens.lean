import TvcHopper.Spp.Pending

/-! Which request a token stands for.

Tokens are drawn round and round through 255 values, whatever is still in the
table. An observer that numbers the draws shows that two slots can only hold
the same token when one of them was filled 255 draws before the other.
-/

set_option autoImplicit false

namespace TvcHopper.Spp
open Machine Machine.Slots

def HostEvent.isRequested (event : HostEvent) : Bool :=
  event.call.isRequest && event.status == sppStatusOk

/-! ## Draws -/

/-- How many tokens were drawn so far, and for every slot, how many when it was filled. -/
structure DrawHistory where
  drawn : Nat
  filled : Vector Nat sppPendingRequestsMax

def noDraws : DrawHistory := ⟨0, .replicate _ 0⟩

def recordDraw (history : DrawHistory) (requested : Bool)
    (before after : Vector UInt8 sppPendingRequestsMax) : DrawHistory :=
  let drawn := if requested then history.drawn + 1 else history.drawn
  { drawn
    filled := .ofFn fun slot =>
      if before[slot] = sppTokenMaxReserved ∧ after[slot] ≠ sppTokenMaxReserved then drawn
      else history.filled[slot] }

def observedCall (state : SppHostEngine × DrawHistory) (call : HostCall) :
    Except Fault ((SppHostEngine × DrawHistory) × HostEvent) := do
  let (host, event) ← hostCall state.1 call
  let history := recordDraw state.2 event.isRequested state.1.pendingRequestTokens host.pendingRequestTokens
  return ((host, history), event)

/-- Fewer than 255 tokens were drawn since any of the occupied slots was filled. -/
def RecentlyFilled (host : SppHostEngine) (history : DrawHistory) : Prop :=
  ∀ (slot : Nat) (within : slot < sppPendingRequestsMax),
    host.pendingRequestTokens[slot] ≠ sppTokenMaxReserved → history.drawn < history.filled[slot] + 255

instance (host : SppHostEngine) (history : DrawHistory) : Decidable (RecentlyFilled host history) :=
  inferInstanceAs (Decidable (∀ (slot : Nat) (within : slot < sppPendingRequestsMax),
    host.pendingRequestTokens[slot] ≠ sppTokenMaxReserved → history.drawn < history.filled[slot] + 255))

/-- The token in a slot is the number of its draw, modulo 255. -/
structure DrawnInOrder (tokenCount : UInt8) (tokens : Vector UInt8 sppPendingRequestsMax)
    (history : DrawHistory) : Prop where
  counter : tokenCount.toNat = history.drawn % 255
  token : ∀ (slot : Nat) (within : slot < sppPendingRequestsMax), tokens[slot] ≠ sppTokenMaxReserved →
    tokens[slot].toNat = history.filled[slot] % 255
  past : ∀ (slot : Nat) (within : slot < sppPendingRequestsMax), tokens[slot] ≠ sppTokenMaxReserved →
    history.filled[slot] ≤ history.drawn
  apart : ∀ (slot other : Nat) (within : slot < sppPendingRequestsMax) (within' : other < sppPendingRequestsMax),
    tokens[slot] ≠ sppTokenMaxReserved → tokens[other] ≠ sppTokenMaxReserved →
    history.filled[slot] = history.filled[other] → slot = other

theorem DrawnInOrder.distinct {host : SppHostEngine} {history : DrawHistory}
    (order : DrawnInOrder host.tokenCount host.pendingRequestTokens history)
    (recent : RecentlyFilled host history) : host.pending.outstanding.Nodup := by
  apply nodup_occupied
  intro slot other within within' real same
  have real' : host.pendingRequestTokens[other] ≠ sppTokenMaxReserved := same ▸ real
  have residue : history.filled[slot] % 255 = history.filled[other] % 255 := by
    rw [← order.token slot within real, ← order.token other within' real']
    exact congrArg UInt8.toNat same
  -- both draws lie in the last 255, so equal residues mean the same draw
  have equal : history.filled[slot] = history.filled[other] := by
    have past := order.past slot within real
    have past' := order.past other within' real'
    have close := recent slot within real
    have close' := recent other within' real'
    omega
  exact order.apart slot other within within' real real' equal

theorem next_toNat {pending : PendingRequests} {drawn : Nat}
    (counter : pending.tokenCount.toNat = drawn % 255) : pending.next.toNat = (drawn + 1) % 255 := by
  have one : (1 : UInt8).toNat = 1 := rfl
  have sum : (pending.tokenCount + 1).toNat = (pending.tokenCount.toNat + 1) % 256 := UInt8.toNat_add _ _
  unfold PendingRequests.next
  by_cases rollover : pending.tokenCount + 1 = sppTokenMaxReserved
  · have full : (pending.tokenCount + 1).toNat = 255 := congrArg UInt8.toNat rollover
    rw [if_pos rollover]
    have zero : (0 : UInt8).toNat = 0 := rfl
    omega
  · have notFull : (pending.tokenCount + 1).toNat ≠ 255 := fun full =>
      rollover (UInt8.toNat_inj.mp full)
    rw [if_neg rollover]
    omega

theorem recordDraw_filled (history : DrawHistory) (requested : Bool)
    (before after : Vector UInt8 sppPendingRequestsMax) {slot : Nat} (within : slot < sppPendingRequestsMax) :
    (recordDraw history requested before after).filled[slot] =
      if before[slot] = sppTokenMaxReserved ∧ after[slot] ≠ sppTokenMaxReserved then
        (recordDraw history requested before after).drawn
      else history.filled[slot] := by
  simp only [recordDraw, Vector.getElem_ofFn, Fin.getElem_fin]

theorem DrawnInOrder.unfilled {tokenCount tokenCount' : UInt8} {history : DrawHistory}
    {before after : Vector UInt8 sppPendingRequestsMax} {requested : Bool}
    (order : DrawnInOrder tokenCount before history)
    (counter : tokenCount'.toNat = (recordDraw history requested before after).drawn % 255)
    (kept : ∀ (slot : Nat) (within : slot < sppPendingRequestsMax),
      after[slot] ≠ sppTokenMaxReserved → after[slot] = before[slot]) :
    DrawnInOrder tokenCount' after (recordDraw history requested before after) := by
  have filled (slot : Nat) (within : slot < sppPendingRequestsMax) (real : after[slot] ≠ sppTokenMaxReserved) :
      (recordDraw history requested before after).filled[slot] = history.filled[slot] := by
    rw [recordDraw_filled, if_neg]
    rintro ⟨free, _⟩
    exact real ((kept slot within real).trans free)
  have occupied (slot : Nat) (within : slot < sppPendingRequestsMax) (real : after[slot] ≠ sppTokenMaxReserved) :
      before[slot] ≠ sppTokenMaxReserved := kept slot within real ▸ real
  have later : history.drawn ≤ (recordDraw history requested before after).drawn := by
    cases requested <;> simp [recordDraw]
  constructor
  · exact counter
  · intro slot within real
    rw [filled slot within real, kept slot within real]
    exact order.token slot within (occupied slot within real)
  · intro slot within real
    rw [filled slot within real]
    exact Nat.le_trans (order.past slot within (occupied slot within real)) later
  · intro slot other within within' real real' same
    rw [filled slot within real, filled other within' real'] at same
    exact order.apart slot other within within' (occupied slot within real) (occupied other within' real') same

theorem DrawnInOrder.filled {tokenCount token : UInt8} {history : DrawHistory}
    {tokens : Vector UInt8 sppPendingRequestsMax} (order : DrawnInOrder tokenCount tokens history)
    {index : Nat} (bound : index < sppPendingRequestsMax) (free : tokens[index] = sppTokenMaxReserved)
    (real : token ≠ sppTokenMaxReserved) (counter : token.toNat = (history.drawn + 1) % 255) :
    DrawnInOrder token (tokens.set index token) (recordDraw history true tokens (tokens.set index token)) := by
  have here : (recordDraw history true tokens (tokens.set index token)).filled[index] = history.drawn + 1 := by
    rw [recordDraw_filled, Vector.getElem_set_self, if_pos ⟨free, real⟩]
    rfl
  have elsewhere (slot : Nat) (within : slot < sppPendingRequestsMax) (other : index ≠ slot) :
      (recordDraw history true tokens (tokens.set index token)).filled[slot] = history.filled[slot] := by
    rw [recordDraw_filled, Vector.getElem_set_ne _ _ other, if_neg (fun both => both.2 both.1)]
  constructor
  · exact counter
  · intro slot within occupied
    by_cases same : index = slot
    · subst same
      rw [here, Vector.getElem_set_self, counter]
    · rw [Vector.getElem_set_ne _ _ same] at occupied ⊢
      rw [elsewhere slot within same]
      exact order.token slot within occupied
  · intro slot within occupied
    by_cases same : index = slot
    · subst same
      rw [here]
      exact Nat.le_refl _
    · rw [Vector.getElem_set_ne _ _ same] at occupied
      rw [elsewhere slot within same]
      exact Nat.le_succ_of_le (order.past slot within occupied)
  · intro slot other within within' occupied occupied' equal
    -- the new draw has a higher number than those of the other slots
    by_cases same : index = slot <;> by_cases same' : index = other
    · exact same.symm.trans same'
    · subst same
      rw [Vector.getElem_set_ne _ _ same'] at occupied'
      rw [here, elsewhere other within' same'] at equal
      have past := order.past other within' occupied'
      omega
    · subst same'
      rw [Vector.getElem_set_ne _ _ same] at occupied
      rw [here, elsewhere slot within same] at equal
      have past := order.past slot within occupied
      omega
    · rw [Vector.getElem_set_ne _ _ same] at occupied
      rw [Vector.getElem_set_ne _ _ same'] at occupied'
      rw [elsewhere slot within same, elsewhere other within' same'] at equal
      exact order.apart slot other within within' occupied occupied' equal

theorem DrawnInOrder.request {pending : PendingRequests} {history : DrawHistory}
    (order : DrawnInOrder pending.tokenCount pending.tokens history) :
    DrawnInOrder pending.request.tokenCount pending.request.tokens
      (recordDraw history true pending.tokens pending.request.tokens) := by
  have counter := next_toNat order.counter
  unfold PendingRequests.request PendingRequests.insert
  cases inserted : replaceFirst sppTokenMaxReserved pending.next pending.tokens with
  | none =>
    -- the token is drawn, though no slot takes it
    exact order.unfilled counter (fun _ _ _ => rfl)
  | some tokens =>
    obtain ⟨index, within, free, _, rfl⟩ := replaceFirst_eq_some.mp inserted
    exact order.filled within free pending.next_ne_reserved counter

theorem DrawnInOrder.clear {pending : PendingRequests} {history : DrawHistory} (token : UInt8)
    (order : DrawnInOrder pending.tokenCount pending.tokens history) :
    DrawnInOrder (pending.clear token).tokenCount (pending.clear token).tokens
      (recordDraw history false pending.tokens (pending.clear token).tokens) := by
  unfold PendingRequests.clear
  cases cleared : replaceFirst token sppTokenMaxReserved pending.tokens with
  | none => exact order.unfilled order.counter (fun _ _ _ => rfl)
  | some tokens =>
    obtain ⟨index, within, _, _, rfl⟩ := replaceFirst_eq_some.mp cleared
    apply order.unfilled order.counter
    intro slot bound real
    change (pending.tokens.set index sppTokenMaxReserved)[slot] ≠ sppTokenMaxReserved at real
    by_cases same : index = slot
    · subst same
      exact absurd (Vector.getElem_set_self within) real
    · exact Vector.getElem_set_ne within bound same

theorem drawnInOrder_step {state state' : SppHostEngine × DrawHistory} {call : HostCall} {event : HostEvent}
    (order : DrawnInOrder state.1.tokenCount state.1.pendingRequestTokens state.2)
    (done : observedCall state call = .ok (state', event)) :
    DrawnInOrder state'.1.tokenCount state'.1.pendingRequestTokens state'.2 := by
  simp only [observedCall, bind_eq_ok, pure_eq_ok, Except.ok.injEq, Prod.mk.injEq, Prod.exists] at done
  obtain ⟨host', event', called, rfl, rfl⟩ := done
  have ran := (hostCall_eq_ok.mp called).2
  cases call_outcome called with
  | drawn _ request ok _ _ _ pending _ =>
    have requested : event'.isRequested = true := by simp [HostEvent.isRequested, ran, request, ok]
    have count : host'.tokenCount = state.1.pending.request.tokenCount :=
      congrArg PendingRequests.tokenCount pending
    have tokens : host'.pendingRequestTokens = state.1.pending.request.tokens :=
      congrArg PendingRequests.tokens pending
    rw [count, tokens, requested]
    exact order.request
  | answered token received notRequest pending _ _ =>
    have idle : event'.isRequested = false := by simp [HostEvent.isRequested, ran, notRequest]
    have count : host'.tokenCount = (state.1.pending.clear token).tokenCount :=
      congrArg PendingRequests.tokenCount pending
    have tokens : host'.pendingRequestTokens = (state.1.pending.clear token).tokens :=
      congrArg PendingRequests.tokens pending
    rw [count, tokens, idle]
    exact order.clear token
  | unchanged idle _ same _ =>
    have notRequested : event'.isRequested = false := by simpa [HostEvent.isRequested, ran] using idle
    have count : host'.tokenCount = state.1.tokenCount := congrArg PendingRequests.tokenCount same.pending
    have tokens : host'.pendingRequestTokens = state.1.pendingRequestTokens :=
      congrArg PendingRequests.tokens same.pending
    rw [count, tokens, notRequested]
    exact order.unfilled order.counter (fun _ _ _ => rfl)

/-- The outstanding tokens differ in every reachable state in which each of them is one of the last
255 tokens drawn. -/
theorem outstanding_nodup (initParams : SppHostEngineInitParams) (prior : SppHostEngine)
    (calls : List HostCall) (host : SppHostEngine) (history : DrawHistory) (events : List HostEvent)
    (done : run observedCall (sppHostEngineInit initParams prior, noDraws) calls =
      .ok ((host, history), events))
    (recent : RecentlyFilled host history) : host.pending.outstanding.Nodup := by
  have start : DrawnInOrder (sppHostEngineInit initParams prior).tokenCount
      (sppHostEngineInit initParams prior).pendingRequestTokens noDraws := by
    constructor
    · rfl
    all_goals simp [sppHostEngineInit]
  have order := run_invariant
    (fun state : SppHostEngine × DrawHistory =>
      DrawnInOrder state.1.tokenCount state.1.pendingRequestTokens state.2)
    (fun _ _ _ _ => drawnInOrder_step) start done
  exact order.distinct recent

/-- Two requests, both unanswered. -/
theorem outstanding_nodup_two : ∃ host history events,
    run observedCall (sppHostEngineInit setupParams staticHost, noDraws)
        [.connectToClient ⟨.external [0x44], 0x11⟩, .getValue ⟨.external [0x44], 0x11⟩ 0x0E,
          .getValue ⟨.external [0x44], 0x11⟩ 0x0E] = .ok ((host, history), events) ∧
      RecentlyFilled host history ∧ host.pending.outstanding = {1, 2} ∧ host.pending.outstanding.Nodup := by
  have reached : (run observedCall (sppHostEngineInit setupParams staticHost, noDraws)
      [.connectToClient ⟨.external [0x44], 0x11⟩, .getValue ⟨.external [0x44], 0x11⟩ 0x0E,
        .getValue ⟨.external [0x44], 0x11⟩ 0x0E]).map
        (fun result => (decide (RecentlyFilled result.1.1 result.1.2), result.1.1.pendingRequestTokens.toList)) =
      .ok (true, [1, 2, 0xFF, 0xFF, 0xFF, 0xFF, 0xFF, 0xFF]) := by
    decide +kernel
  obtain ⟨⟨⟨host, history⟩, events⟩, done, same⟩ := map_eq_ok.mp reached
  obtain ⟨recent, tokens⟩ := Prod.mk.inj same
  have recent : RecentlyFilled host history := of_decide_eq_true recent
  refine ⟨host, history, events, done, recent, ?_, outstanding_nodup setupParams staticHost _ _ _ _ done recent⟩
  rw [outstanding_eq, tokens]
  decide

/-- Get requests whose answers follow at once, for the tokens from 2 on. -/
def answeredRounds (count : Nat) : List HostCall :=
  (List.range count).flatMap fun round =>
    [.getValue ⟨.external [0x44], 0x11⟩ 0x0E,
      .processMessage [0xCD, 0xB1, 0x44, 0x1D, UInt8.ofNat ((round + 2) % 255), 0x00, 0x00, 0x0E, 0x00] 9 0]

set_option maxRecDepth 10000 in
/-- The first request stays unanswered while 254 others are answered. The request after that gets
its token once more. -/
theorem token_drawn_again : ∃ host events,
    run hostCall (sppHostEngineInit setupParams staticHost)
        (.connectToClient ⟨.external [0x44], 0x11⟩ :: .getValue ⟨.external [0x44], 0x11⟩ 0x0E ::
          (answeredRounds 254 ++ [.getValue ⟨.external [0x44], 0x11⟩ 0x0E])) = .ok (host, events) ∧
      host.pending.outstanding = {1, 1} ∧ ¬host.pending.outstanding.Nodup := by
  have reached : (run hostCall (sppHostEngineInit setupParams staticHost)
      (.connectToClient ⟨.external [0x44], 0x11⟩ :: .getValue ⟨.external [0x44], 0x11⟩ 0x0E ::
        (answeredRounds 254 ++ [.getValue ⟨.external [0x44], 0x11⟩ 0x0E]))).map
        (fun result => result.1.pendingRequestTokens.toList) =
      .ok [1, 1, 0xFF, 0xFF, 0xFF, 0xFF, 0xFF, 0xFF] := by
    decide +kernel
  obtain ⟨⟨host, events⟩, done, tokens⟩ := map_eq_ok.mp reached
  have outstanding : host.pending.outstanding = {1, 1} := by
    rw [outstanding_eq, tokens]
    decide
  refine ⟨host, events, done, outstanding, ?_⟩
  rw [outstanding]
  decide

/-! ## Answers -/

def HostEvent.sentToken (addressLength : UInt8) (event : HostEvent) : Option UInt8 :=
  if event.isRequested then
    match event.effects with
    | [.sendMessage message] => message[sppMsgHdrSize addressLength]?
    | _ => none
  else none

def HostEvent.deliversValue (event : HostEvent) : Bool :=
  event.effects.any fun
    | .onValueResponse .. => true
    | _ => false

/-- A token that is sent waits for an answer, and one response with the token is the answer. -/
def awaitAnswer (addressLength : UInt8) (waiting : Multiset UInt8) (event : HostEvent) : Multiset UInt8 :=
  match event.sentToken addressLength, event.call.responseToken addressLength with
  | some token, _ => token ::ₘ waiting
  | none, some token => waiting.erase token
  | none, none => waiting

/-- The tokens of the requests made and not answered in the course of the events. -/
def unanswered (addressLength : UInt8) (events : List HostEvent) : Multiset UInt8 :=
  events.foldl (awaitAnswer addressLength) 0

theorem unanswered_concat (addressLength : UInt8) (events : List HostEvent) (event : HostEvent) :
    unanswered addressLength (events ++ [event]) =
      awaitAnswer addressLength (unanswered addressLength events) event := by
  simp [unanswered]

/-- A value with a token of its own, not the mark of a free slot. -/
def HostEvent.deliversAnswer (addressLength : UInt8) (event : HostEvent) : Bool :=
  event.deliversValue && event.call.responseToken addressLength != some sppTokenMaxReserved

/-- The ledger covers the table, and counts no more answers than requests. -/
structure Covered (addressLength : UInt8) (history : List HostEvent) (host : SppHostEngine) : Prop where
  length : host.addressLength = addressLength
  table : host.pending.outstanding ≤ unanswered addressLength history
  answers : history.countP (·.deliversAnswer addressLength) + (unanswered addressLength history).card ≤
    history.countP (·.isRequested)

theorem value_token {host host' : SppHostEngine} {call : HostCall} {event : HostEvent}
    (done : hostCall host call = .ok (host', event)) (delivered : event.deliversValue = true) :
    ∃ token, event.call.responseToken host.addressLength = some token ∧
      token ∈ host.pending.tokens.toList := by
  have ran := (hostCall_eq_ok.mp done).2
  cases call_outcome done with
  | drawn message _ _ _ sent _ _ _ => simp [HostEvent.deliversValue, sent] at delivered
  | answered token received _ _ _ accepted =>
    refine ⟨token, ran ▸ received, accepted ?_⟩
    intro silent
    simp [HostEvent.deliversValue, silent] at delivered
  | unchanged _ _ _ noValue =>
    obtain ⟨effect, member, isValue⟩ := List.any_eq_true.mp delivered
    cases effect with
    | onValueResponse client id value => exact absurd member (noValue client id value)
    | sendMessage _ | onStreamResponse _ _ => cases isValue

theorem awaitAnswer_step {host host' : SppHostEngine} {call : HostCall} {event : HostEvent}
    (done : hostCall host call = .ok (host', event)) (waiting : Multiset UInt8) :
    (event.isRequested = true ∧ event.deliversAnswer host.addressLength = false ∧
        host'.pending = host.pending.request ∧
        awaitAnswer host.addressLength waiting event = host.pending.next ::ₘ waiting) ∨
      (event.isRequested = false ∧ ∃ token, event.call.responseToken host.addressLength = some token ∧
        host'.pending = host.pending.clear token ∧
        awaitAnswer host.addressLength waiting event = waiting.erase token) ∨
      (event.isRequested = false ∧ event.deliversAnswer host.addressLength = false ∧
        host'.pending = host.pending ∧ awaitAnswer host.addressLength waiting event = waiting) := by
  have ran := (hostCall_eq_ok.mp done).2
  cases call_outcome done with
  | drawn message request ok _ sent token pending _ =>
    have requested : event.isRequested = true := by simp [HostEvent.isRequested, ran, request, ok]
    have sentToken : event.sentToken host.addressLength = some host.pending.next := by
      simp [HostEvent.sentToken, requested, sent, token]
    refine Or.inl ⟨requested, ?_, pending, by simp only [awaitAnswer, sentToken]⟩
    simp [HostEvent.deliversAnswer, HostEvent.deliversValue, sent]
  | answered token received notRequest pending _ _ =>
    have idle : event.isRequested = false := by simp [HostEvent.isRequested, ran, notRequest]
    have sentToken : event.sentToken host.addressLength = none := by simp [HostEvent.sentToken, idle]
    refine Or.inr (Or.inl ⟨idle, token, ran ▸ received, pending, ?_⟩)
    simp only [awaitAnswer, sentToken, ran, received]
  | unchanged notOk notResponse same noValue =>
    have idle : event.isRequested = false := by simpa [HostEvent.isRequested, ran] using notOk
    have sentToken : event.sentToken host.addressLength = none := by simp [HostEvent.sentToken, idle]
    have noAnswer : event.deliversValue = false := by
      by_contra delivered
      obtain ⟨token, received, _⟩ := value_token done (by simpa using delivered)
      rw [ran, notResponse] at received
      cases received
    refine Or.inr (Or.inr ⟨idle, by simp [HostEvent.deliversAnswer, noAnswer], same.pending, ?_⟩)
    simp only [awaitAnswer, sentToken, ran, notResponse]

theorem Covered.step {addressLength : UInt8} {history : List HostEvent} {host host' : SppHostEngine}
    {call : HostCall} {event : HostEvent} (covered : Covered addressLength history host)
    (done : hostCall host call = .ok (host', event)) : Covered addressLength (history ++ [event]) host' := by
  obtain ⟨rfl, table, answers⟩ := covered
  have length := (call_outcome done).addressLength
  rcases awaitAnswer_step done (unanswered host.addressLength history) with
    ⟨requested, noAnswer, pending, waiting⟩ | ⟨idle, token, received, pending, waiting⟩ |
      ⟨idle, noAnswer, pending, waiting⟩
  · refine ⟨length, ?_, ?_⟩
    · rw [unanswered_concat, waiting, pending]
      -- the ledger takes the token even when the table has no room for it
      rcases host.pending.request_outstanding with ⟨_, _, inserted⟩ | ⟨_, _, kept⟩
      · rw [inserted]
        exact (Multiset.cons_le_cons_iff _).mpr table
      · rw [PendingRequests.outstanding, kept]
        exact table.trans (Multiset.le_cons_self _ _)
    · rw [unanswered_concat, waiting, Multiset.card_cons]
      simp only [List.countP_append, List.countP_singleton, requested, noAnswer, Bool.false_eq_true,
        if_true, if_false]
      omega
  · refine ⟨length, ?_, ?_⟩
    · rw [unanswered_concat, waiting, pending, PendingRequests.clear_outstanding]
      exact Multiset.erase_le_erase token table
    · rw [unanswered_concat, waiting]
      simp only [List.countP_append, List.countP_singleton, idle, Bool.false_eq_true, if_false]
      by_cases answer : event.deliversAnswer host.addressLength = true
      · -- the token is one of the table, so of the ledger, and leaves it
        rw [if_pos answer]
        simp only [HostEvent.deliversAnswer, received, Bool.and_eq_true, bne_iff_ne, ne_eq,
          Option.some.injEq] at answer
        obtain ⟨token', received', inside⟩ := value_token done answer.1
        obtain rfl : token = token' := Option.some.inj (received.symm.trans received')
        have waits : token ∈ unanswered host.addressLength history :=
          Multiset.mem_of_le table (mem_occupied.mpr ⟨inside, answer.2⟩)
        have positive := Multiset.card_pos_iff_exists_mem.mpr ⟨token, waits⟩
        rw [Multiset.card_erase_of_mem waits, Nat.pred_eq_sub_one]
        omega
      · -- a response may take a token off the ledger and deliver nothing
        rw [if_neg answer]
        have fewer := Multiset.card_le_card (Multiset.erase_le token (unanswered host.addressLength history))
        omega
  · refine ⟨length, ?_, ?_⟩
    · rw [unanswered_concat, waiting, pending]
      exact table
    · rw [unanswered_concat, waiting]
      simp only [List.countP_append, List.countP_singleton, idle, noAnswer, Bool.false_eq_true, if_false]
      omega

theorem covered_run {initParams : SppHostEngineInitParams} {prior host : SppHostEngine}
    {calls : List HostCall} {events : List HostEvent}
    (done : run hostCall (sppHostEngineInit initParams prior) calls = .ok (host, events)) :
    Covered initParams.addressLength events host := by
  have start : Covered initParams.addressLength [] (sppHostEngineInit initParams prior) := by
    refine ⟨rfl, ?_, by simp [unanswered]⟩
    exact Multiset.zero_le _
  exact run_induction (Covered initParams.addressLength) (fun _ _ _ _ _ => Covered.step) [] start done

/-- A value that reaches the application with a token other than the mark of a free slot answers a
request that was made before, with this token, and not answered. -/
theorem value_answers_request (initParams : SppHostEngineInitParams) (prior host : SppHostEngine)
    (calls : List HostCall) (events : List HostEvent)
    (done : run hostCall (sppHostEngineInit initParams prior) calls = .ok (host, events)) :
    (∀ earlier event later, events = earlier ++ event :: later → event.deliversValue = true →
      ∃ token, event.call.responseToken initParams.addressLength = some token ∧
        (token ≠ sppTokenMaxReserved → token ∈ unanswered initParams.addressLength earlier)) ∧
    events.countP (·.deliversAnswer initParams.addressLength) ≤ events.countP (·.isRequested) := by
  constructor
  · rintro earlier event later rfl delivered
    obtain ⟨before, call, middle, next, start, here⟩ := run_output done
    obtain ⟨length, table, _⟩ := covered_run start
    obtain ⟨token, received, inside⟩ := value_token here delivered
    refine ⟨token, length ▸ received, fun real => ?_⟩
    exact Multiset.mem_of_le table (mem_occupied.mpr ⟨inside, real⟩)
  · have answers := (covered_run done).answers
    omega

/-- A get request and its answer. -/
theorem value_answers_get : ∃ host events,
    run hostCall (sppHostEngineInit setupParams staticHost)
        [.connectToClient ⟨.external [0x44], 0x11⟩, .getValue ⟨.external [0x44], 0x11⟩ 0x0E,
          .processMessage [0xCD, 0xB1, 0x44, 0x1D, 0x01, 0x00, 0x01, 0x0E, 0x00, 0x2A] 10 0] =
        .ok (host, events) ∧
      events.map (·.deliversValue) = [false, false, true] ∧
      events.countP (·.deliversAnswer 1) ≤ events.countP (·.isRequested) := by
  refine ⟨_, _, rfl, rfl, ?_⟩
  exact (value_answers_request setupParams staticHost _
    [.connectToClient ⟨.external [0x44], 0x11⟩, .getValue ⟨.external [0x44], 0x11⟩ 0x0E,
      .processMessage [0xCD, 0xB1, 0x44, 0x1D, 0x01, 0x00, 0x01, 0x0E, 0x00, 0x2A] 10 0] _ rfl).2

/-- The only request goes to the client at 0x44. A message from 0x45 with its token reaches the
application as a value. So does a get response that takes the token of a set request, and one with the
reserved token when nothing was requested. -/
theorem value_from_other_client :
    (∃ host events, run hostCall (sppHostEngineInit setupParams staticHost)
        [.connectToClient ⟨.external [0x44], 0x11⟩, .getValue ⟨.external [0x44], 0x11⟩ 0x0E,
          .processMessage [0xCD, 0xB1, 0x45, 0x1D, 0x01, 0x00, 0x01, 0x0E, 0x00, 0x2A] 10 0] =
        .ok (host, events) ∧
      events.map (·.effects) = [[.sendMessage [0xCD, 0xA1, 0x1D, 0x44, 0x00]],
        [.sendMessage [0xCD, 0xB0, 0x1D, 0x44, 0x01, 0x0E, 0x00]],
        [.onValueResponse ⟨.external [0x45], 0⟩ 0x0E [0x2A]]]) ∧
    (∃ host events, run hostCall (sppHostEngineInit setupParams staticHost)
        [.connectToClient ⟨.external [0x44], 0x11⟩,
          .processMessage [0xCD, 0xA5, 0x44, 0x1D, 0x01, 0x00, 0x0E, 0x00, 0xE0, 0x01, 0x50, 0x00] 12 0,
          .setValue ⟨.external [0x44], 0x11⟩ 0x0E [0x2A],
          .processMessage [0xCD, 0xB1, 0x44, 0x1D, 0x01, 0x00, 0x01, 0x0E, 0x00, 0x2B] 10 0] =
        .ok (host, events) ∧
      events.map (·.effects) = [[.sendMessage [0xCD, 0xA1, 0x1D, 0x44, 0x00]], [],
        [.sendMessage [0xCD, 0xB2, 0x1D, 0x44, 0x01, 0x01, 0x0E, 0x00, 0x2A]],
        [.onValueResponse ⟨.external [0x44], 0⟩ 0x0E [0x2B]]]) ∧
    ∃ host events, run hostCall (sppHostEngineInit setupParams staticHost)
        [.processMessage [0xCD, 0xB1, 0x44, 0x1D, 0xFF, 0x00, 0x01, 0x0E, 0x00, 0x2A] 10 0] =
        .ok (host, events) ∧
      events.map (·.effects) = [[.onValueResponse ⟨.external [0x44], 0⟩ 0x0E [0x2A]]] :=
  ⟨⟨_, _, rfl, rfl⟩, ⟨_, _, rfl, rfl⟩, _, _, rfl, rfl⟩

end TvcHopper.Spp
