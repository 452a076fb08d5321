import TvcHopper.Machine.Stuffing

/-! The frames of byte stuffing as a language.

A stuffed payload is a sequence of units: an element that is no mark, or the
escape with a mark behind it. Every such sequence is stuffed from one payload
only, so a frame has one reading although a footer can stand in its last unit.
-/

set_option autoImplicit false

namespace TvcHopper.Machine.Stuffing

section Units
variable {α : Type} [DecidableEq α]

inductive Units (marks : Marks α) : List α → Prop where
  | nil : Units marks []
  | plain {symbol : α} {rest : List α} : ¬marks.IsMark symbol → Units marks rest → Units marks (symbol :: rest)
  | escaped {mark : α} {rest : List α} : marks.IsMark mark → Units marks rest →
      Units marks (marks.escape :: mark :: rest)

/-- The header, units and the footer twice. -/
inductive WellFramed (marks : Marks α) : List α → Prop where
  | mk {units : List α} : Units marks units → WellFramed marks (marks.header :: units ++ [marks.footer, marks.footer])

variable {marks : Marks α}

theorem units_stuff (payload : List α) : Units marks (stuff marks payload) := by
  induction payload with
  | nil => exact .nil
  | cons symbol payload ih =>
    unfold stuff
    by_cases special : marks.IsMark symbol
    · rw [if_pos special]
      exact .escaped special ih
    · rw [if_neg special]
      exact .plain special ih

theorem Units.exists_stuff {units : List α} (built : Units marks units) : ∃ payload, stuff marks payload = units := by
  induction built with
  | nil => exact ⟨[], rfl⟩
  | @plain symbol rest ordinary _ ih =>
    obtain ⟨payload, rfl⟩ := ih
    exact ⟨symbol :: payload, if_neg ordinary⟩
  | @escaped mark rest special _ ih =>
    obtain ⟨payload, rfl⟩ := ih
    exact ⟨mark :: payload, if_pos special⟩

/-- The frames are exactly the framed sequences of units. -/
theorem wellFramed_iff {message : List α} : WellFramed marks message ↔ ∃ payload, frame marks payload = message := by
  constructor
  · intro framed
    cases framed with
    | mk built =>
      obtain ⟨payload, rfl⟩ := built.exists_stuff
      exact ⟨payload, rfl⟩
  · rintro ⟨payload, rfl⟩
    exact .mk (units_stuff payload)

theorem WellFramed.frame_extract {message : List α} (framed : WellFramed marks message) :
    frame marks (extract marks message) = message := by
  obtain ⟨payload, rfl⟩ := wellFramed_iff.mp framed
  rw [extract_frame]

theorem length_extract_lt {message : List α} (framed : WellFramed marks message) :
    (extract marks message).length + 3 ≤ message.length := by
  obtain ⟨payload, rfl⟩ := wellFramed_iff.mp framed
  rw [extract_frame, length_frame]
  omega

end Units

/-! ## Frames behind a lead

Where every frame stands behind a lead of fixed length, a receiver can skip the
lead by counting from the end of the message in front of it. A footer that is
left of that message is counted as part of the lead, and the last element of
the lead as part of the frame.
-/

section Led
variable {α : Type} [DecidableEq α] (marks : Marks α)

/-- The messages such a receiver finds, given the last element of the lead and whether a footer was left. -/
def led (separator : α) : Bool → List (List α) → List (List α)
  | _, [] => []
  | carry, payload :: payloads =>
    ((if carry then [separator] else []) ++
        if endsInFooter marks payload then (frame marks payload).dropLast else frame marks payload) ::
      led separator (endsInFooter marks payload) payloads

variable {marks}

theorem Split.upTo {payload body : List α} (split : Split marks payload body) :
    body ++ [marks.footer] =
      if endsInFooter marks payload then (frame marks payload).dropLast else frame marks payload := by
  rw [split.whole]
  cases endsInFooter marks payload with
  | false => simp [opening]
  | true => simp [opening, List.dropLast_append_of_ne_nil]

theorem dropLast_frame_ne (payload : List α) : (frame marks payload).dropLast ≠ frame marks payload := by
  intro same
  have shorter := congrArg List.length same
  rw [List.length_dropLast, length_frame] at shorter
  omega

/-- The frames are found whole exactly when no payload ends in a footer, the last one included. -/
theorem led_eq_iff {separator : α} (other : separator ≠ marks.header) (carry : Bool) (payloads : List (List α)) :
    led marks separator carry payloads = payloads.map (frame marks) ↔
      (payloads ≠ [] → carry = false) ∧ ∀ payload ∈ payloads, payload.getLast? ≠ some marks.footer := by
  induction payloads generalizing carry with
  | nil => simp [led]
  | cons payload payloads ih =>
    rw [led, List.map_cons, List.cons.injEq, ih]
    cases carry with
    | true =>
      have head (tail : List α) : separator :: tail ≠ frame marks payload :=
        fun same => other (List.cons.inj same).1
      simp [head]
    | false =>
      by_cases ends : payload.getLast? = some marks.footer
      · simp [endsInFooter, ends, dropLast_frame_ne]
      · simp [endsInFooter, ends]

end Led

end TvcHopper.Machine.Stuffing
