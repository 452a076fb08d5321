import TvcHopper.Machine.Memory

/-! Counting loops of C, over an index that may be too narrow for its bound.

An 8-bit index below a wider bound starts over when it gets past 255, so the
loop ends only when its body leaves it.

A loop that polls takes inputs for as long as it has to wait. What is left of
the inputs is kept, so that what comes behind the loop goes on with it. A loop
that still waits when the inputs are used up has not ended.
-/

set_option autoImplicit false

namespace TvcHopper.Machine

/-- The first of the `remaining` indices from `index` on that passes the test. -/
def search (test : Nat → Except Fault Bool) : Nat → Nat → Except Fault (Option Nat)
  | 0, _ => .ok none
  | remaining + 1, index => do
    if ← test index then return some index
    else search test remaining (index + 1)

/-- A search below `bound` with an 8-bit counter, which starts over when it gets past 255. -/
def search8 (test : Nat → Except Fault Bool) (bound : Nat) : Except Fault (Option Nat) := do
  if bound < 256 then search test bound 0
  else
    match ← search test 256 0 with
    | some index => return some index
    | none => .error .diverges

/-- Run `body` for the `remaining` indices from `index` on. -/
def loop {σ : Type} (body : Nat → σ → Except Fault σ) : Nat → Nat → σ → Except Fault σ
  | 0, _, state => .ok state
  | remaining + 1, index, state => do
    let state ← body index state
    loop body remaining (index + 1) state

/-- The loop below `bound` with an 8-bit counter. -/
def loop8 {σ : Type} (body : Nat → σ → Except Fault σ) (bound : Nat) (state : σ) : Except Fault σ := do
  if bound < 256 then loop body bound 0 state
  else
    let _ ← loop body 256 0 state
    .error .diverges

/-- The rule for loops: an invariant that every pass of the body takes one index further. -/
theorem loop_ok {σ : Type} {body : Nat → σ → Except Fault σ} (Inv : Nat → σ → Prop)
    {remaining index : Nat} {state : σ} (start : Inv index state)
    (pass : ∀ place state, index ≤ place → place < index + remaining → Inv place state →
      ∃ next, body place state = .ok next ∧ Inv (place + 1) next) :
    ∃ final, loop body remaining index state = .ok final ∧ Inv (index + remaining) final := by
  induction remaining generalizing index state with
  | zero => exact ⟨state, rfl, start⟩
  | succ remaining ih =>
    obtain ⟨next, one, kept⟩ := pass index state (Nat.le_refl _) (by omega) start
    obtain ⟨final, rest, done⟩ := ih kept fun place state low high =>
      pass place state (by omega) (by omega)
    refine ⟨final, ?_, ?_⟩
    · rw [loop, one, ok_bind, rest]
    · rwa [Nat.add_assoc, Nat.add_comm 1] at done

/-- What every pass that completes keeps, a loop that completes keeps. -/
theorem loop_keeps {σ : Type} {body : Nat → σ → Except Fault σ} (Inv : σ → Prop)
    (pass : ∀ place state next, Inv state → body place state = .ok next → Inv next)
    {remaining index : Nat} {state final : σ} (start : Inv state)
    (done : loop body remaining index state = .ok final) : Inv final := by
  induction remaining generalizing index state with
  | zero =>
    obtain rfl := Except.ok.inj done
    exact start
  | succ remaining ih =>
    obtain ⟨next, one, rest⟩ := bind_eq_ok.mp done
    exact ih (pass index state next start one) rest

theorem loop8_keeps {σ : Type} {body : Nat → σ → Except Fault σ} (Inv : σ → Prop)
    (pass : ∀ place state next, Inv state → body place state = .ok next → Inv next)
    {bound : Nat} {state final : σ} (start : Inv state) (done : loop8 body bound state = .ok final) : Inv final := by
  unfold loop8 at done
  by_cases narrow : bound < 256
  · rw [if_pos narrow] at done
    exact loop_keeps Inv pass start done
  · rw [if_neg narrow] at done
    obtain ⟨_, _, diverges⟩ := bind_eq_ok.mp done
    cases diverges

theorem loop_map {σ τ : Type} (forget : σ → τ) {body : Nat → σ → Except Fault σ} {plain : Nat → τ → Except Fault τ}
    (same : ∀ index state, (body index state).map forget = plain index (forget state)) (remaining index : Nat)
    (state : σ) : (loop body remaining index state).map forget = loop plain remaining index (forget state) := by
  induction remaining generalizing index state with
  | zero => rfl
  | succ remaining ih =>
    rw [loop, loop, ← same]
    cases body index state with
    | error fault => rfl
    | ok next => exact ih (index + 1) next

theorem search_eq_some {test : Nat → Except Fault Bool} {remaining index found : Nat} :
    search test remaining index = .ok (some found) ↔
      index ≤ found ∧ found < index + remaining ∧ test found = .ok true ∧
        ∀ earlier, index ≤ earlier → earlier < found → test earlier = .ok false := by
  induction remaining generalizing index with
  | zero =>
    simp only [search, Except.ok.injEq, reduceCtorEq, false_iff]
    omega
  | succ remaining ih =>
    rw [search, bind_eq_ok]
    constructor
    · rintro ⟨passed, tested, rest⟩
      cases passed with
      | true =>
        obtain rfl : index = found := by simpa using rest
        exact ⟨Nat.le_refl _, by omega, tested, by omega⟩
      | false =>
        obtain ⟨low, high, here, before⟩ := ih.mp (by simpa using rest)
        refine ⟨by omega, by omega, here, fun earlier above below => ?_⟩
        rcases Nat.eq_or_lt_of_le above with rfl | above
        · exact tested
        · exact before earlier above below
    · rintro ⟨low, high, here, before⟩
      rcases Nat.eq_or_lt_of_le low with rfl | low
      · exact ⟨true, here, rfl⟩
      · refine ⟨false, before index (Nat.le_refl _) low, ?_⟩
        have rest : search test remaining (index + 1) = .ok (some found) :=
          ih.mpr ⟨low, by omega, here, fun earlier above below => before earlier (by omega) below⟩
        simpa using rest

theorem search_eq_none {test : Nat → Except Fault Bool} {remaining index : Nat} :
    search test remaining index = .ok none ↔
      ∀ earlier, index ≤ earlier → earlier < index + remaining → test earlier = .ok false := by
  induction remaining generalizing index with
  | zero =>
    simp only [search, true_iff]
    omega
  | succ remaining ih =>
    rw [search, bind_eq_ok]
    constructor
    · rintro ⟨passed, tested, rest⟩ earlier above below
      cases passed with
      | true => simp at rest
      | false =>
        rcases Nat.eq_or_lt_of_le above with rfl | above
        · exact tested
        · exact ih.mp (by simpa using rest) earlier above (by omega)
    · intro before
      refine ⟨false, before index (Nat.le_refl _) (by omega), ?_⟩
      have rest : search test remaining (index + 1) = .ok none :=
        ih.mpr fun earlier above below => before earlier (by omega) (by omega)
      simpa using rest

/-- A test that reads an array and cannot fail makes the loop a search in the list. -/
theorem search_eq_findIdx {α : Type} {test : Nat → Except Fault Bool} (passes : α → Bool)
    {memory : List α} {remaining : Nat} (index : Nat) (inside : index + remaining ≤ memory.length)
    (reads : ∀ (place : Nat) (value : α), memory[place]? = some value → test place = .ok (passes value)) :
    search test remaining index =
      .ok ((((memory.drop index).take remaining).findIdx? passes).map (index + ·)) := by
  induction remaining generalizing index with
  | zero => simp [search]
  | succ remaining ih =>
    have bound : index < memory.length := by omega
    rw [search, reads index _ (List.getElem?_eq_getElem bound), ok_bind, ih (index + 1) (by omega),
      List.drop_eq_getElem_cons bound, List.take_succ_cons, List.findIdx?_cons]
    cases passes memory[index] with
    | true => simp
    | false =>
      simp only [Bool.false_eq_true, if_false, Option.map_map]
      congr 2
      -- the places count from the element behind
      funext later
      simp only [Function.comp_apply]
      omega

/-- The last of the first `places` indices that passes a test. -/
def searchBack (test : Nat → Bool) : Nat → Option Nat
  | 0 => none
  | index + 1 => if test index then some index else searchBack test index

theorem searchBack_eq_none {test : Nat → Bool} {places : Nat} :
    searchBack test places = none ↔ ∀ index, index < places → test index = false := by
  induction places with
  | zero => simp [searchBack]
  | succ places ih =>
    rw [searchBack]
    cases here : test places with
    | true =>
      simp only [if_true, reduceCtorEq, false_iff]
      exact fun none => by simp [none places (Nat.lt_succ_self _)] at here
    | false =>
      simp only [Bool.false_eq_true, if_false, ih]
      constructor
      · intro none index below
        rcases Nat.lt_succ_iff_lt_or_eq.mp below with before | rfl
        · exact none index before
        · exact here
      · exact fun none index below => none index (Nat.lt_succ_of_lt below)

theorem searchBack_eq_some {test : Nat → Bool} {places index : Nat} (below : index < places)
    (passes : test index = true) (last : ∀ later, index < later → later < places → test later = false) :
    searchBack test places = some index := by
  induction places with
  | zero => omega
  | succ places ih =>
    rw [searchBack]
    rcases Nat.lt_succ_iff_lt_or_eq.mp below with before | rfl
    · have behind : test places = false := last places before (Nat.lt_succ_self _)
      rw [behind, if_neg (by simp)]
      exact ih before fun later above under => last later above (Nat.lt_succ_of_lt under)
    · rw [if_pos passes]

/-! ## Loops with an 8-bit index, pass by pass -/

section Passes
variable {σ : Type} {body : Nat → σ → Except Fault σ} {bound : Nat}

/-- The loop as it is run: `none` when it has not ended after so many looks at its condition. -/
def passes8 (body : Nat → σ → Except Fault σ) (bound : Nat) : Nat → UInt8 → σ → Except Fault (Option σ)
  | 0, _, _ => .ok none
  | looks + 1, index, state => do
    if index.toNat < bound then
      let state ← body index.toNat state
      passes8 body bound looks (index + 1) state
    else return some state

theorem loop8_ends (narrow : bound < 256) (state : σ) : loop8 body bound state = loop body bound 0 state :=
  if_pos narrow

/-- Above 255 every index is below the bound, so the condition always holds. -/
theorem passes8_wide (wide : 256 ≤ bound) (looks : Nat) (index : UInt8) (state final : σ) :
    passes8 body bound looks index state ≠ .ok (some final) := by
  induction looks generalizing index state with
  | zero => nofun
  | succ looks ih =>
    have below : index.toNat < bound := Nat.lt_of_lt_of_le index.toNat_lt wide
    rw [passes8, if_pos below]
    intro done
    obtain ⟨next, -, rest⟩ := bind_eq_ok.mp done
    exact ih (index + 1) next rest

/-- Below 256 the index never starts over. -/
theorem passes8_narrow (narrow : bound < 256) {remaining place : Nat} (left : place + remaining = bound) {looks : Nat}
    (enough : remaining < looks) (state : σ) :
    passes8 body bound looks (UInt8.ofNat place) state = (loop body remaining place state).map some := by
  have index : (UInt8.ofNat place).toNat = place := by
    rw [UInt8.toNat_ofNat']
    omega
  induction remaining generalizing place looks state with
  | zero =>
    obtain ⟨looks, rfl⟩ := Nat.exists_eq_add_of_lt enough
    rw [passes8, index, if_neg (by omega)]
    rfl
  | succ remaining ih =>
    obtain ⟨looks, rfl⟩ : ∃ n, looks = n + 1 := ⟨looks - 1, by omega⟩
    rw [passes8, index, if_pos (by omega), loop]
    cases body place state with
    | error fault => rfl
    | ok next =>
      have step : UInt8.ofNat place + 1 = UInt8.ofNat (place + 1) := by simp
      rw [step]
      refine ih (by omega) (by omega) next ?_
      rw [UInt8.toNat_ofNat']
      omega

theorem passes8_more {looks : Nat} {index : UInt8} {state final : σ}
    (done : passes8 body bound looks index state = .ok (some final)) (more : Nat) :
    passes8 body bound (looks + more) index state = .ok (some final) := by
  induction looks generalizing index state with
  | zero => cases done
  | succ looks ih =>
    rw [Nat.succ_add, passes8]
    rw [passes8] at done
    by_cases below : index.toNat < bound
    · rw [if_pos below] at done ⊢
      obtain ⟨next, one, rest⟩ := bind_eq_ok.mp done
      exact bind_eq_ok.mpr ⟨next, one, ih rest⟩
    · rwa [if_neg below] at done ⊢

theorem loop8_eq_ok {state final : σ} :
    loop8 body bound state = .ok final ↔ ∃ looks, passes8 body bound looks 0 state = .ok (some final) := by
  by_cases narrow : bound < 256
  · have enough (more : Nat) : passes8 body bound (bound + 1 + more) 0 state = (loop body bound 0 state).map some :=
      passes8_narrow narrow (Nat.zero_add bound) (by omega) state
    rw [loop8_ends narrow]
    constructor
    · intro done
      exact ⟨bound + 1, (enough 0).trans (by rw [done]; rfl)⟩
    · rintro ⟨looks, done⟩
      have later := passes8_more done (bound + 1)
      rw [Nat.add_comm, enough looks] at later
      cases looped : loop body bound 0 state with
      | error fault => simp [looped, Except.map] at later
      | ok last => simpa [looped, Except.map] using later
  · constructor
    · intro done
      unfold loop8 at done
      rw [if_neg narrow] at done
      obtain ⟨_, _, diverges⟩ := bind_eq_ok.mp done
      cases diverges
    · rintro ⟨looks, done⟩
      exact absurd done (passes8_wide (by omega) looks 0 state final)

theorem loop8_narrow {state final : σ} (done : loop8 body bound state = .ok final) : bound < 256 := by
  by_contra wide
  obtain ⟨looks, ends⟩ := loop8_eq_ok.mp done
  exact passes8_wide (by omega) looks 0 state final ends

end Passes

theorem loop_passes {σ : Type} {body : Nat → σ → Except Fault σ} {remaining index : Nat} {state final : σ}
    (done : loop body remaining index state = .ok final) {place : Nat} (low : index ≤ place)
    (high : place < index + remaining) : ∃ before after, body place before = .ok after := by
  induction remaining generalizing index state with
  | zero => omega
  | succ remaining ih =>
    obtain ⟨next, one, rest⟩ := bind_eq_ok.mp done
    rcases Nat.eq_or_lt_of_le low with rfl | later
    · exact ⟨state, next, one⟩
    · exact ih rest later (by omega)

/-! ## Loops that poll -/

section Polling
variable {σ ι ω ε : Type}

/-- The last component is what is left of the inputs when the loop has ended. -/
def poll (waits : σ → Bool) (step : σ → ι → Except ε (σ × ω)) : σ → List ι →
    Except ε (σ × List ω × Option (List ι))
  | state, [] => .ok (state, [], if waits state then none else some [])
  | state, input :: rest =>
    if waits state then do
      let (next, output) ← step state input
      let (final, outputs, left) ← poll waits step next rest
      return (final, output :: outputs, left)
    else .ok (state, [], some (input :: rest))

theorem poll_ended {waits : σ → Bool} {step : σ → ι → Except ε (σ × ω)} {state : σ} (ended : waits state = false)
    (inputs : List ι) : poll waits step state inputs = .ok (state, [], some inputs) := by
  cases inputs with
  | nil => simp [poll, ended]
  | cons input rest => simp [poll, ended]

/-- What a loop keeps of the state and the inputs that are still to come, it has in the end. -/
theorem poll_total {waits : σ → Bool} {step : σ → ι → Except ε (σ × ω)} (Inv : σ → List ι → Prop)
    (steps : ∀ state input rest, Inv state (input :: rest) → waits state = true →
      ∃ next output, step state input = .ok (next, output) ∧ Inv next rest)
    {state : σ} {inputs : List ι} (start : Inv state inputs) :
    ∃ final outputs left, poll waits step state inputs = .ok (final, outputs, left) ∧ Inv final (left.getD []) ∧
      (left = none ↔ waits final = true) := by
  induction inputs generalizing state with
  | nil =>
    refine ⟨state, [], _, rfl, ?_, ?_⟩
    · cases waits state <;> exact start
    · cases waits state <;> simp
  | cons input rest ih =>
    rw [poll]
    cases waiting : waits state with
    | false => exact ⟨state, [], _, rfl, start, by simp [waiting]⟩
    | true =>
      obtain ⟨next, output, one, kept⟩ := steps state input rest start waiting
      obtain ⟨final, outputs, left, later, ends, waits'⟩ := ih kept
      refine ⟨final, output :: outputs, left, ?_, ends, waits'⟩
      rw [if_pos rfl]
      exact bind_eq_ok.mpr ⟨_, one, bind_eq_ok.mpr ⟨_, later, rfl⟩⟩

end Polling

end TvcHopper.Machine
