import Mathlib.Data.List.Forall2
import Mathlib.Logic.Function.Iterate
import TvcHopper.Machine.Execution

/-! Cargoes that cross a link in fragments.

A fragment says how much of its cargo is left, and is numbered by its channel.
The assembler has one cargo at a time: a fragment that does not continue it starts
a new one. When fragments get lost, a cargo may come out without its beginning,
but never with a part of another one, unless the numbers have come round.
-/

set_option autoImplicit false

namespace TvcHopper.Machine

structure Fragment (κ ν α : Type) where
  channel : κ
  number : ν
  continues : Bool
  /-- How much of the cargo is left, this piece included. -/
  left : Nat
  piece : List α

structure Cargo (κ τ α : Type) where
  channel : κ
  payload : List α
  /-- When the first fragment arrived. -/
  stamp : τ
  deriving DecidableEq

structure Assembler (κ ν τ α : Type) where
  /-- The number of the next fragment of each channel. -/
  expected : κ → ν
  channel : κ
  collected : List α
  /-- How much of the cargo in progress is missing, and zero when there is none. -/
  missing : Nat
  stamp : τ

namespace Assembler
variable {κ ν τ α : Type} [DecidableEq κ] [DecidableEq ν] (next : ν → ν) (capacity : Nat)

def Fits (assembler : Assembler κ ν τ α) (fragment : Fragment κ ν α) : Prop :=
  assembler.missing ≠ 0 ∧ fragment.continues = true ∧ fragment.channel = assembler.channel ∧
    fragment.number = assembler.expected fragment.channel ∧ fragment.left = assembler.missing

instance (assembler : Assembler κ ν τ α) (fragment : Fragment κ ν α) : Decidable (assembler.Fits fragment) :=
  inferInstanceAs (Decidable (_ ∧ _))

/-- The cargo comes out when nothing is missing. -/
def append (assembler : Assembler κ ν τ α) (fragment : Fragment κ ν α) :
    Assembler κ ν τ α × Option (Cargo κ τ α) :=
  let collected := assembler.collected ++ fragment.piece
  let missing := fragment.left - fragment.piece.length
  ({ assembler with
      expected := Function.update assembler.expected fragment.channel (next fragment.number), collected, missing },
    if missing = 0 then some ⟨fragment.channel, collected, assembler.stamp⟩ else none)

def restart (assembler : Assembler κ ν τ α) (channel : κ) (stamp : τ) : Assembler κ ν τ α :=
  { assembler with channel, collected := [], stamp }

/-- A new cargo is dropped when it is larger than the capacity. -/
def receive (assembler : Assembler κ ν τ α) (fragment : Fragment κ ν α) (stamp : τ) :
    Assembler κ ν τ α × Option (Cargo κ τ α) :=
  if assembler.Fits fragment then append next assembler fragment
  else if capacity < fragment.left then ({ assembler with missing := 0 }, none)
  else append next (assembler.restart fragment.channel stamp) fragment

def receiveAll (assembler : Assembler κ ν τ α) :
    List (Fragment κ ν α × τ) → Assembler κ ν τ α × List (Cargo κ τ α)
  | [] => (assembler, [])
  | (fragment, stamp) :: rest =>
    let (assembler, cargo) := receive next capacity assembler fragment stamp
    let (assembler, later) := receiveAll assembler rest
    (assembler, cargo.toList ++ later)

/-- What is there of the cargo and what is missing do not exceed the capacity. -/
def Bounded (assembler : Assembler κ ν τ α) : Prop := assembler.collected.length + assembler.missing ≤ capacity

section Bounded
variable {next} {capacity} {assembler : Assembler κ ν τ α} {fragment : Fragment κ ν α}

omit [DecidableEq ν] in
theorem append_bounded (next : ν → ν) (room : assembler.collected.length + fragment.left ≤ capacity)
    (whole : fragment.piece.length ≤ fragment.left) : (assembler.append next fragment).1.Bounded capacity := by
  simp only [Bounded, append, List.length_append]
  omega

theorem receive_channel {stamp : τ} {cargo : Cargo κ τ α}
    (out : (receive next capacity assembler fragment stamp).2 = some cargo) : cargo.channel = fragment.channel := by
  have appended (started : Assembler κ ν τ α) (out : (append next started fragment).2 = some cargo) :
      cargo.channel = fragment.channel := by
    simp only [append] at out
    split at out
    · obtain rfl := Option.some.inj out
      rfl
    · cases out
  unfold receive at out
  split at out
  · exact appended assembler out
  split at out
  · cases out
  · exact appended _ out

omit [DecidableEq ν] in
theorem append_size {size : Nat} {cargo : Cargo κ τ α} (room : assembler.collected.length + fragment.left ≤ size)
    (whole : fragment.piece.length ≤ fragment.left) (out : (append next assembler fragment).2 = some cargo) :
    cargo.payload.length ≤ size := by
  simp only [append] at out
  split at out
  · obtain rfl := Option.some.inj out
    rw [List.length_append]
    omega
  · cases out

theorem receive_size {size : Nat} {stamp : τ} {cargo : Cargo κ τ α} (bounded : assembler.Bounded size)
    (whole : fragment.piece.length ≤ fragment.left) (small : fragment.left ≤ size)
    (out : (receive next capacity assembler fragment stamp).2 = some cargo) : cargo.payload.length ≤ size := by
  unfold receive at out
  split at out
  case isTrue fits =>
    refine append_size ?_ whole out
    rw [fits.2.2.2.2]
    exact bounded
  split at out
  · cases out
  · refine append_size ?_ whole out
    rw [restart, List.length_nil, Nat.zero_add]
    exact small

theorem receive_first (first : fragment.continues = false) (small : fragment.left ≤ capacity) (stamp : τ) :
    receive next capacity assembler fragment stamp =
      append next (assembler.restart fragment.channel stamp) fragment := by
  have other : ¬assembler.Fits fragment := by
    intro fits
    exact absurd (first.symm.trans fits.2.1) Bool.false_ne_true
  rw [receive, if_neg other, if_neg (Nat.not_lt.mpr small)]

theorem receive_discarded (other : ¬assembler.Fits fragment) (stamp : τ) :
    receive next capacity { assembler with missing := 0 } fragment stamp =
      receive next capacity assembler fragment stamp := by
  have nothing : ¬Fits { assembler with missing := 0 } fragment := fun fits => fits.1 rfl
  rw [receive, receive, if_neg other, if_neg nothing]
  rfl

end Bounded

end Assembler

/-! ## A cargo whose fragments arrive one after the other -/

section Whole
variable {κ ν τ α : Type}

/-- The pieces of a cargo: there is something left to send until the last one is. -/
def Cut : List (List α) → Prop
  | [] => False
  | [_] => True
  | _ :: second :: rest => (second :: rest).flatten ≠ [] ∧ Cut (second :: rest)

theorem Cut.left {piece : List α} {rest : List (List α)} (cut : Cut (piece :: rest)) :
    rest.flatten = [] ↔ rest = [] := by
  constructor
  · intro empty
    cases rest with
    | nil => rfl
    | cons second rest => exact absurd empty cut.1
  · rintro rfl
    rfl

theorem Cut.drop {pieces : List (List α)} (cut : Cut pieces) {index : Nat} (within : index < pieces.length) :
    Cut (pieces.drop index) := by
  induction index generalizing pieces with
  | zero => exact cut
  | succ index ih =>
    cases pieces with
    | nil => exact absurd within (Nat.not_lt_zero _)
    | cons piece rest =>
      cases rest with
      | nil => exact absurd (Nat.lt_of_succ_lt_succ within) (Nat.not_lt_zero _)
      | cons second rest => exact ih cut.2 (Nat.lt_of_succ_lt_succ within)

/-- The fragments of a cargo, from a number on; `continues` when some have been sent already. -/
def fragmentsOf (next : ν → ν) (channel : κ) : ν → Bool → List (List α) → List (Fragment κ ν α)
  | _, _, [] => []
  | number, continues, piece :: rest =>
    ⟨channel, number, continues, (piece :: rest).flatten.length, piece⟩ ::
      fragmentsOf next channel (next number) true rest

variable [DecidableEq κ] [DecidableEq ν] {next : ν → ν} {capacity : Nat}

theorem missing_behind (piece : List α) (rest : List (List α)) :
    (piece :: rest).flatten.length - piece.length = rest.flatten.length := by
  rw [List.flatten_cons, List.length_append, Nat.add_sub_cancel_left]

theorem receiveAll_rest (next : ν → ν) (capacity : Nat) (assembler : Assembler κ ν τ α) {number : ν}
    {pieces : List (List α)} (cut : Cut pieces)
    (in_progress : pieces.flatten ≠ []) (missing : assembler.missing = pieces.flatten.length)
    (expected : assembler.expected assembler.channel = number) {stamps : List τ}
    (count : stamps.length = pieces.length) :
    ∃ final, Assembler.receiveAll next capacity assembler
        ((fragmentsOf next assembler.channel number true pieces).zip stamps) =
          (final, [⟨assembler.channel, assembler.collected ++ pieces.flatten, assembler.stamp⟩]) ∧
        final.missing = 0 := by
  induction pieces generalizing assembler number stamps with
  | nil => exact absurd rfl in_progress
  | cons piece rest ih =>
    cases stamps with
    | nil => cases count
    | cons stamp stamps =>
      have some_missing : assembler.missing ≠ 0 := by
        rw [missing]
        exact mt List.length_eq_zero_iff.mp in_progress
      have fits : assembler.Fits ⟨assembler.channel, number, true, (piece :: rest).flatten.length, piece⟩ :=
        ⟨some_missing, rfl, rfl, expected.symm, missing.symm⟩
      rw [fragmentsOf, List.zip_cons_cons, Assembler.receiveAll, Assembler.receive, if_pos fits, Assembler.append]
      simp only [missing_behind]
      cases rest with
      | nil =>
        refine ⟨{ assembler with
          expected := Function.update assembler.expected assembler.channel (next number)
          collected := assembler.collected ++ piece
          missing := 0 }, ?_, rfl⟩
        simp [fragmentsOf, Assembler.receiveAll]
      | cons second rest =>
        have more : (second :: rest).flatten.length ≠ 0 := mt List.length_eq_zero_iff.mp cut.1
        obtain ⟨final, done, none_missing⟩ := ih
          { assembler with
            expected := Function.update assembler.expected assembler.channel (next number)
            collected := assembler.collected ++ piece
            missing := (second :: rest).flatten.length }
          cut.2 cut.1 rfl (Function.update_self _ _ _) (Nat.succ.inj count)
        refine ⟨final, ?_, none_missing⟩
        rw [done, if_neg more, List.append_assoc]
        rfl

/-- Whatever the assembler has been through, a cargo that arrives as a whole comes out as it is. -/
theorem receiveAll_cargo (next : ν → ν) (assembler : Assembler κ ν τ α) (channel : κ) (number : ν)
    {pieces : List (List α)} (cut : Cut pieces) (room : pieces.flatten.length ≤ capacity) {stamp : τ} {stamps : List τ}
    (count : (stamp :: stamps).length = pieces.length) :
    ∃ final, Assembler.receiveAll next capacity assembler
        ((fragmentsOf next channel number false pieces).zip (stamp :: stamps)) =
          (final, [⟨channel, pieces.flatten, stamp⟩]) ∧ final.missing = 0 := by
  cases pieces with
  | nil => exact cut.elim
  | cons piece rest =>
    have restarts : ¬assembler.Fits ⟨channel, number, false, (piece :: rest).flatten.length, piece⟩ := by
      rintro ⟨-, continues, -⟩
      cases continues
    rw [fragmentsOf, List.zip_cons_cons, Assembler.receiveAll, Assembler.receive, if_neg restarts,
      if_neg (Nat.not_lt.mpr room), Assembler.append]
    simp only [missing_behind]
    cases rest with
    | nil =>
      refine ⟨{ assembler.restart channel stamp with
        expected := Function.update assembler.expected channel (next number)
        collected := piece
        missing := 0 }, ?_, rfl⟩
      simp [fragmentsOf, Assembler.receiveAll, Assembler.restart]
    | cons second rest =>
      have more : (second :: rest).flatten.length ≠ 0 := mt List.length_eq_zero_iff.mp cut.1
      obtain ⟨final, done, none_missing⟩ := receiveAll_rest next capacity
        { assembler.restart channel stamp with
          expected := Function.update assembler.expected channel (next number)
          collected := piece
          missing := (second :: rest).flatten.length }
        cut.2 cut.1 rfl (Function.update_self _ _ _) (Nat.succ.inj count)
      refine ⟨final, ?_, none_missing⟩
      rw [if_neg more]
      simp only [Assembler.restart, List.nil_append] at done ⊢
      rw [done]
      rfl

theorem receiveAll_append (next : ν → ν) (capacity : Nat) (assembler : Assembler κ ν τ α)
    (first rest : List (Fragment κ ν α × τ)) :
    Assembler.receiveAll next capacity assembler (first ++ rest) =
      ((Assembler.receiveAll next capacity (Assembler.receiveAll next capacity assembler first).1 rest).1,
        (Assembler.receiveAll next capacity assembler first).2 ++
          (Assembler.receiveAll next capacity (Assembler.receiveAll next capacity assembler first).1 rest).2) := by
  induction first generalizing assembler with
  | nil => rfl
  | cons arrived first ih => simp only [List.cons_append, Assembler.receiveAll, ih, List.append_assoc]

/-- A cargo in pieces, with the times at which they arrive. -/
structure Shipment (κ ν τ α : Type) where
  channel : κ
  number : ν
  pieces : List (List α)
  cut : Cut pieces
  stamp : τ
  stamps : List τ
  count : (stamp :: stamps).length = pieces.length

namespace Shipment

def fragments (next : ν → ν) (shipment : Shipment κ ν τ α) : List (Fragment κ ν α × τ) :=
  (fragmentsOf next shipment.channel shipment.number false shipment.pieces).zip (shipment.stamp :: shipment.stamps)

def cargo (shipment : Shipment κ ν τ α) : Cargo κ τ α := ⟨shipment.channel, shipment.pieces.flatten, shipment.stamp⟩

end Shipment

/-- Whatever the assembler has been through, cargoes that arrive one after the other come out as they are. -/
theorem receiveAll_shipments (assembler : Assembler κ ν τ α) {shipments : List (Shipment κ ν τ α)}
    (room : ∀ shipment ∈ shipments, shipment.pieces.flatten.length ≤ capacity) :
    (Assembler.receiveAll next capacity assembler (shipments.flatMap (Shipment.fragments next))).2 =
      shipments.map Shipment.cargo := by
  induction shipments generalizing assembler with
  | nil => rfl
  | cons shipment rest ih =>
    obtain ⟨small, later⟩ := List.forall_mem_cons.mp room
    obtain ⟨final, one, -⟩ := receiveAll_cargo next assembler shipment.channel shipment.number shipment.cut small
      shipment.count
    rw [List.flatMap_cons, receiveAll_append, Shipment.fragments, one, ih final later]
    rfl

theorem receiveAll_singles (assembler : Assembler κ ν τ α) {fragments : List (Fragment κ ν α)}
    (single : ∀ fragment ∈ fragments, fragment.continues = false ∧ fragment.left = fragment.piece.length ∧
      fragment.left ≤ capacity) {stamps : List τ} (count : stamps.length = fragments.length) :
    (Assembler.receiveAll next capacity assembler (fragments.zip stamps)).2.map
        (fun cargo => (cargo.channel, cargo.payload)) =
      fragments.map fun fragment => (fragment.channel, fragment.piece) := by
  induction fragments generalizing assembler stamps with
  | nil => rfl
  | cons fragment rest ih =>
    cases stamps with
    | nil => cases count
    | cons stamp stamps =>
      obtain ⟨⟨first, whole, small⟩, others⟩ := List.forall_mem_cons.mp single
      have none_missing : fragment.left - fragment.piece.length = 0 := Nat.sub_eq_zero_of_le whole.le
      rw [List.zip_cons_cons, Assembler.receiveAll, Assembler.receive_first first small, Assembler.append,
        if_pos none_missing]
      exact congrArg ((fragment.channel, fragment.piece) :: ·) (ih _ others (Nat.succ.inj count))

end Whole

/-! ## A link that loses fragments -/

/-- The sender with the cargo of each channel, the assembler, and how many fragments of a channel the assembler has not
taken in since the last one that it has. -/
structure LossyLink (κ ν τ α : Type) where
  number : κ → ν
  cargo : κ → List (List α)
  sent : κ → Nat
  lost : κ → Nat
  assembler : Assembler κ ν τ α
  /-- The cargoes whose last fragment was sent. -/
  finished : List (κ × List α)

/-- A fragment is sent, of a new cargo or of the one in progress, and arrives or does not. -/
structure Sending (κ τ α : Type) where
  channel : κ
  fresh : Option { pieces : List (List α) // Cut pieces }
  arrives : Option τ

/-- What reaches the assembler in a step, and what comes out of it. -/
structure Arrival (κ ν τ α : Type) where
  fragment : Option (Fragment κ ν α × τ)
  cargo : Option (Cargo κ τ α)

namespace LossyLink
variable {κ ν τ α ε : Type}

def current (link : LossyLink κ ν τ α) (sending : Sending κ τ α) : List (List α) :=
  match sending.fresh with
  | some pieces => pieces
  | none => link.cargo sending.channel

def before (link : LossyLink κ ν τ α) (sending : Sending κ τ α) : Nat :=
  match sending.fresh with
  | some _ => 0
  | none => link.sent sending.channel

def fragment (link : LossyLink κ ν τ α) (sending : Sending κ τ α) (piece : List α) : Fragment κ ν α :=
  ⟨sending.channel, link.number sending.channel, link.before sending != 0,
    ((link.current sending).drop (link.before sending)).flatten.length, piece⟩

/-- What is collected is the end of what was sent of the cargo. -/
def Part (assembler : Assembler κ ν τ α) (cargo : List (List α)) (sent : Nat) : Prop :=
  assembler.collected ++ (cargo.drop sent).flatten <:+ cargo.flatten ∧
    assembler.missing = (cargo.drop sent).flatten.length

/-- The numbers tell how many fragments the assembler has not taken in; when there are none, it has a part of the cargo
of its channel. -/
structure Traces (next : ν → ν) (link : LossyLink κ ν τ α) : Prop where
  number : ∀ channel, link.number channel = next^[link.lost channel] (link.assembler.expected channel)
  cut : ∀ channel, link.cargo channel ≠ [] → Cut (link.cargo channel)
  part : link.assembler.missing ≠ 0 → link.lost link.assembler.channel = 0 →
    Part link.assembler (link.cargo link.assembler.channel) (link.sent link.assembler.channel)

/-- The cargo that comes out is one that was sent, or the end of it. -/
def IsTail (cargo : Cargo κ τ α) (sent : κ × List α) : Prop :=
  cargo.channel = sent.1 ∧ cargo.payload <:+ sent.2

/-- What a step does to the list of the cargoes that were sent. -/
def Delivers (link link' : LossyLink κ ν τ α) : Option (Cargo κ τ α) → Prop
  | none => link.finished <+: link'.finished
  | some cargo => ∃ sent, IsTail cargo sent ∧ link'.finished = link.finished ++ [sent]

section Cargo
variable {next : ν → ν} {link : LossyLink κ ν τ α} {sending : Sending κ τ α} {piece : List α}

theorem drop_before (left : (link.current sending)[link.before sending]? = some piece) :
    (link.current sending).drop (link.before sending) =
      piece :: (link.current sending).drop (link.before sending + 1) := by
  obtain ⟨within, here⟩ := List.getElem?_eq_some_iff.mp left
  rw [List.drop_eq_getElem_cons within, here]

theorem Traces.current_cut (traces : Traces next link)
    (left : (link.current sending)[link.before sending]? = some piece) : Cut (link.current sending) := by
  have some_left : link.current sending ≠ [] := by
    intro none_left
    rw [none_left] at left
    cases left
  cases fresh : sending.fresh with
  | some pieces =>
    simp only [current, fresh]
    exact pieces.2
  | none =>
    simp only [current, fresh] at some_left ⊢
    exact traces.cut _ some_left

/-- A fragment that fits is the next one of the cargo in progress. -/
theorem Traces.part_of_fits {period : Nat}
    (distinct : ∀ number count, 0 < count → count < period → next^[count] number ≠ number)
    (traces : Traces next link) (few : link.lost sending.channel < period)
    (fits : link.assembler.Fits (link.fragment sending piece)) :
    link.assembler.channel = sending.channel ∧
      Part link.assembler (link.current sending) (link.before sending) := by
  obtain ⟨missing, continues, channel, number, -⟩ := fits
  have same : sending.channel = link.assembler.channel := channel
  have none_lost : link.lost sending.channel = 0 := by
    by_contra lost
    apply distinct (link.assembler.expected sending.channel) _ (Nat.pos_of_ne_zero lost) few
    exact (traces.number sending.channel).symm.trans number
  have old : sending.fresh = none := by
    cases fresh : sending.fresh with
    | none => rfl
    | some pieces => simp [fragment, before, fresh] at continues
  have part := traces.part missing (same ▸ none_lost)
  rw [← same] at part
  simp only [current, before, old]
  exact ⟨same.symm, part⟩

end Cargo

variable [DecidableEq κ] (next : ν → ν)

def advance (link : LossyLink κ ν τ α) (sending : Sending κ τ α) : LossyLink κ ν τ α :=
  { link with
    number := Function.update link.number sending.channel (next (link.number sending.channel))
    cargo := Function.update link.cargo sending.channel (link.current sending)
    sent := Function.update link.sent sending.channel (link.before sending + 1)
    finished := if link.before sending + 1 = (link.current sending).length then
      link.finished ++ [(sending.channel, (link.current sending).flatten)] else link.finished }

section Advance
variable {next} {link : LossyLink κ ν τ α} {sending : Sending κ τ α} {piece : List α}

theorem part_append (next : ν → ν) {assembler : Assembler κ ν τ α} (cut : Cut (link.current sending))
    (left : (link.current sending)[link.before sending]? = some piece)
    (part : assembler.collected ++ ((link.current sending).drop (link.before sending)).flatten <:+
      (link.current sending).flatten) :
    Part (assembler.append next (link.fragment sending piece)).1 (link.current sending) (link.before sending + 1) ∧
      ∀ cargo, (assembler.append next (link.fragment sending piece)).2 = some cargo →
        link.before sending + 1 = (link.current sending).length ∧
          IsTail cargo (sending.channel, (link.current sending).flatten) := by
  have split := drop_before left
  obtain ⟨within, -⟩ := List.getElem?_eq_some_iff.mp left
  rw [split, List.flatten_cons, ← List.append_assoc] at part
  have missing : (link.fragment sending piece).left - piece.length =
      ((link.current sending).drop (link.before sending + 1)).flatten.length := by
    rw [fragment, split]
    exact missing_behind piece _
  refine ⟨⟨part, missing⟩, ?_⟩
  intro cargo out
  simp only [Assembler.append] at out
  split at out
  case isFalse => cases out
  case isTrue complete =>
    obtain rfl := Option.some.inj out
    have empty := List.length_eq_zero_iff.mp (missing.symm.trans complete)
    rw [empty, List.append_nil] at part
    have last := (split ▸ cut.drop within : Cut (piece :: _)).left.mp empty
    have short := List.drop_eq_nil_iff.mp last
    exact ⟨by omega, rfl, part⟩

theorem Traces.sent {link' : LossyLink κ ν τ α} (traces : Traces next link)
    (left : (link.current sending)[link.before sending]? = some piece)
    (cargo : link'.cargo = (link.advance next sending).cargo) (channel : κ) (some_left : link'.cargo channel ≠ []) :
    Cut (link'.cargo channel) := by
  rw [cargo] at some_left ⊢
  by_cases same : channel = sending.channel
  · subst same
    simp only [advance, Function.update_self]
    exact traces.current_cut left
  · simp only [advance, Function.update_of_ne same] at some_left ⊢
    exact traces.cut channel some_left

theorem finished_advance (next : ν → ν) (link : LossyLink κ ν τ α) (sending : Sending κ τ α) :
    link.finished <+: (link.advance next sending).finished := by
  simp only [advance]
  split
  · exact List.prefix_append _ _
  · exact List.prefix_rfl

theorem Traces.appended (assembler : Assembler κ ν τ α) (traces : Traces next link)
    (left : (link.current sending)[link.before sending]? = some piece)
    (expected : assembler.expected = link.assembler.expected) (channel : assembler.channel = sending.channel)
    (part : assembler.collected ++ ((link.current sending).drop (link.before sending)).flatten <:+
      (link.current sending).flatten) {link' : LossyLink κ ν τ α}
    (same : link' = { link.advance next sending with
      assembler := (assembler.append next (link.fragment sending piece)).1
      lost := Function.update link.lost sending.channel 0 }) :
    Traces next link' ∧ Delivers link link' (assembler.append next (link.fragment sending piece)).2 := by
  subst same
  obtain ⟨larger, out⟩ := part_append next (traces.current_cut left) left part
  refine ⟨⟨?_, traces.sent left rfl, ?_⟩, ?_⟩
  · intro other
    by_cases same : other = sending.channel
    · subst same
      simp [advance, Assembler.append, fragment]
    · simp [advance, Assembler.append, fragment, Function.update_of_ne same, expected, traces.number other]
  · intro _ _
    simpa [advance, Assembler.append, channel] using larger
  · cases delivered : (assembler.append next (link.fragment sending piece)).2 with
    | none => exact finished_advance next link sending
    | some cargo =>
      obtain ⟨last, tail⟩ := out cargo delivered
      exact ⟨_, tail, if_pos last⟩

theorem Traces.skipped {assembler : Assembler κ ν τ α} (traces : Traces next link)
    (left : (link.current sending)[link.before sending]? = some piece)
    (kept : assembler = link.assembler ∨ assembler = { link.assembler with missing := 0 })
    {link' : LossyLink κ ν τ α} (same : link' = { link.advance next sending with
      assembler, lost := Function.update link.lost sending.channel (link.lost sending.channel + 1) }) :
    Traces next link' ∧ Delivers link link' none := by
  subst same
  have expected : assembler.expected = link.assembler.expected := by rcases kept with rfl | rfl <;> rfl
  refine ⟨⟨?_, traces.sent left rfl, ?_⟩, finished_advance next link sending⟩
  · intro other
    by_cases same : other = sending.channel
    · subst same
      simp [advance, expected, traces.number sending.channel, Function.iterate_succ_apply', -Function.iterate_succ]
    · simp [advance, expected, Function.update_of_ne same, traces.number other]
  · intro missing none_lost
    rcases kept with rfl | rfl
    · have other : link.assembler.channel ≠ sending.channel := by
        intro same
        simp [same] at none_lost
      simp only [advance, Function.update_of_ne other] at none_lost ⊢
      exact traces.part missing none_lost
    · exact absurd rfl missing

end Advance

variable [DecidableEq ν] (capacity : Nat)

def Takes (link : LossyLink κ ν τ α) (fragment : Fragment κ ν α) : Prop :=
  link.assembler.Fits fragment ∨ fragment.left ≤ capacity

instance (link : LossyLink κ ν τ α) (fragment : Fragment κ ν α) : Decidable (link.Takes capacity fragment) :=
  inferInstanceAs (Decidable (_ ∨ _))

/-- Nothing happens when the cargo has no fragment left. -/
def step (link : LossyLink κ ν τ α) (sending : Sending κ τ α) :
    Except ε (LossyLink κ ν τ α × Arrival κ ν τ α) :=
  match (link.current sending)[link.before sending]?, sending.arrives with
  | none, _ => .ok (link, ⟨none, none⟩)
  -- it is sent, but does not arrive
  | some _, none => .ok ({ link.advance next sending with
      lost := Function.update link.lost sending.channel (link.lost sending.channel + 1) }, ⟨none, none⟩)
  | some piece, some stamp =>
    let fragment := link.fragment sending piece
    let (assembler, cargo) := Assembler.receive next capacity link.assembler fragment stamp
    .ok ({ link.advance next sending with
      assembler
      -- a fragment that is not taken in counts as lost, whatever became of it
      lost := Function.update link.lost sending.channel
        (if link.Takes capacity fragment then 0 else link.lost sending.channel + 1) },
      ⟨some (fragment, stamp), cargo⟩)

def fresh (number : ν) (channel : κ) (stamp : τ) : LossyLink κ ν τ α where
  number := fun _ => number
  cargo := fun _ => []
  sent := fun _ => 0
  lost := fun _ => 0
  assembler := ⟨fun _ => number, channel, [], 0, stamp⟩
  finished := []

omit [DecidableEq κ] [DecidableEq ν] in
theorem traces_fresh (number : ν) (channel : κ) (stamp : τ) :
    Traces next (fresh number channel stamp : LossyLink κ ν τ α) :=
  ⟨fun _ => rfl, fun _ some_left => absurd rfl some_left, fun missing => absurd rfl missing⟩

theorem receiveAll_arrivals {link final : LossyLink κ ν τ α} {sendings : List (Sending κ τ α)}
    {arrivals : List (Arrival κ ν τ α)}
    (done : run (step (ε := ε) next capacity) link sendings = .ok (final, arrivals)) :
    Assembler.receiveAll next capacity link.assembler (arrivals.filterMap Arrival.fragment) =
      (final.assembler, arrivals.filterMap Arrival.cargo) := by
  induction sendings generalizing link arrivals with
  | nil =>
    obtain ⟨rfl, rfl⟩ := Prod.mk.inj (Except.ok.inj done)
    rfl
  | cons sending rest ih =>
    obtain ⟨next', arrival, later, one, tail, rfl⟩ := run_cons_eq_ok.mp done
    have behind := ih tail
    unfold step at one
    cases left : (link.current sending)[link.before sending]? with
    | none =>
      simp only [left, Except.ok.injEq, Prod.mk.injEq] at one
      obtain ⟨rfl, rfl⟩ := one
      exact behind
    | some piece =>
      cases arrives : sending.arrives with
      | none =>
        simp only [left, arrives, Except.ok.injEq, Prod.mk.injEq] at one
        obtain ⟨rfl, rfl⟩ := one
        exact behind
      | some stamp =>
        simp only [left, arrives, Except.ok.injEq, Prod.mk.injEq] at one
        obtain ⟨rfl, rfl⟩ := one
        simp only [List.filterMap_cons, Assembler.receiveAll]
        rw [behind]
        cases (Assembler.receive next capacity link.assembler (link.fragment sending piece) stamp).2 <;> rfl

section Steps
variable {next} {capacity} {link link' : LossyLink κ ν τ α} {sending : Sending κ τ α} {period : Nat}
  (distinct : ∀ number count, 0 < count → count < period → next^[count] number ≠ number)
include distinct

theorem Traces.step (traces : Traces next link) (few : link.lost sending.channel < period)
    {arrival : Arrival κ ν τ α} (one : step (ε := ε) next capacity link sending = .ok (link', arrival)) :
    Traces next link' ∧ Delivers link link' arrival.cargo := by
  unfold LossyLink.step at one
  cases left : (link.current sending)[link.before sending]? with
  | none =>
    simp only [left, Except.ok.injEq, Prod.mk.injEq] at one
    obtain ⟨rfl, rfl⟩ := one
    exact ⟨traces, List.prefix_rfl⟩
  | some piece =>
    cases arrives : sending.arrives with
    | none =>
      simp only [left, arrives, Except.ok.injEq, Prod.mk.injEq] at one
      obtain ⟨rfl, rfl⟩ := one
      exact traces.skipped left (.inl rfl) rfl
    | some stamp =>
      simp only [left, arrives, Except.ok.injEq, Prod.mk.injEq] at one
      obtain ⟨rfl, rfl⟩ := one
      by_cases fits : link.assembler.Fits (link.fragment sending piece)
      · obtain ⟨channel, part⟩ := traces.part_of_fits distinct few fits
        rw [Assembler.receive, if_pos fits, if_pos (.inl fits)]
        exact traces.appended link.assembler left rfl channel part.1 rfl
      by_cases large : capacity < (link.fragment sending piece).left
      · have dropped : ¬link.Takes capacity (link.fragment sending piece) := by
          rintro (again | small)
          · exact fits again
          · omega
        rw [Assembler.receive, if_neg fits, if_pos large, if_neg dropped]
        exact traces.skipped left (.inr rfl) rfl
      · rw [Assembler.receive, if_neg fits, if_neg large, if_pos (.inr (Nat.le_of_not_lt large))]
        refine traces.appended (link.assembler.restart sending.channel stamp) left rfl rfl ?_ rfl
        -- a new cargo begins with what is left of the one that is sent
        conv_rhs => rw [← List.take_append_drop (link.before sending) (link.current sending), List.flatten_append]
        exact List.suffix_append _ _

/-- What comes out of a lossy link are the cargoes that went in, in their order, some of them missing and some without
their beginning, when a channel never loses as many fragments as there are numbers. -/
theorem deliveries {final : LossyLink κ ν τ α} (start : Traces next link) {sendings : List (Sending κ τ α)}
    {arrivals : List (Arrival κ ν τ α)}
    (few : EveryStep (step (ε := ε) next capacity) (fun link sending => link.lost sending.channel < period) link
      sendings)
    (done : run (step (ε := ε) next capacity) link sendings = .ok (final, arrivals)) :
    List.SublistForall₂ IsTail (arrivals.filterMap Arrival.cargo) final.finished := by
  have kept : Traces next final ∧
      List.SublistForall₂ IsTail (([] ++ arrivals).filterMap Arrival.cargo) final.finished := by
    refine run_induction_allowed
      (fun history link => Traces next link ∧
        List.SublistForall₂ IsTail (history.filterMap Arrival.cargo) link.finished)
      ?_ [] ⟨start, .nil⟩ few done
    rintro history link sending link' arrival ⟨traces, delivered⟩ few one
    obtain ⟨traces', delivers⟩ := traces.step distinct few one
    refine ⟨traces', ?_⟩
    rw [List.sublistForall₂_iff] at delivered ⊢
    obtain ⟨kept, tails, sub⟩ := delivered
    rw [List.filterMap_append]
    cases out : arrival.cargo with
    | none =>
      rw [out] at delivers
      exact ⟨kept, by simpa [out] using tails, sub.trans delivers.sublist⟩
    | some cargo =>
      rw [out] at delivers
      obtain ⟨sent, tail, finished⟩ := delivers
      refine ⟨kept ++ [sent], ?_, finished ▸ sub.append_right [sent]⟩
      rw [List.filterMap_cons_some out]
      exact List.rel_append tails (.cons tail .nil)
  exact kept.2

end Steps

end LossyLink

end TvcHopper.Machine
