import Mathlib.Algebra.Group.Int.Defs
import Mathlib.Data.List.Basic

/-! Object-like macros, and the constant expressions that are made of them.

A macro stands for an expression without macros. Of two definitions of a name
the last one counts; a name without a definition has no value.
-/

set_option autoImplicit false

namespace TvcHopper.Machine

/-- The operands of `or` are not negative. -/
inductive ConstExpr where
  | named (name : String)
  | number (value : Int)
  | cast (bits : Nat) (operand : ConstExpr)
  | or (left right : ConstExpr)
  deriving DecidableEq, Repr

abbrev Definitions := List (String × ConstExpr)

def ConstExpr.value (macros : String → Option Int) : ConstExpr → Option Int
  | .named name => macros name
  | .number value => some value
  | .cast bits operand => (operand.value macros).map (· % 2 ^ bits)
  | .or left right => do
    let first ← left.value macros
    let second ← right.value macros
    return (first.toNat ||| second.toNat : Nat)

def lastDefinition (definitions : Definitions) (name : String) : Option ConstExpr := definitions.reverse.lookup name

def expand (definitions : Definitions) (name : String) : Option Int :=
  (lastDefinition definitions name).bind (ConstExpr.value fun _ => none)

def identifierChar (c : Char) : Bool := c.isAlphanum || c = '_'

/-- A name behind which there is no other token. -/
def isIdentifier (name : String) : Bool :=
  match name.toList with
  | [] => false
  | first :: rest => identifierChar first && !first.isDigit && rest.all identifierChar

/-! ## The last definition -/

section Definitions
variable {definitions later : Definitions} {name : String}

theorem lastDefinition_append (definitions later : Definitions) (name : String) :
    lastDefinition (definitions ++ later) name =
      (lastDefinition later name).or (lastDefinition definitions name) := by
  rw [lastDefinition, List.reverse_append, List.lookup_append]
  rfl

theorem lastDefinition_eq_none (absent : ∀ definition ∈ definitions, definition.1 ≠ name) :
    lastDefinition definitions name = none := by
  apply List.lookup_eq_none_iff.mpr
  intro definition member
  have apart := absent definition (List.mem_reverse.mp member)
  simpa using apart.symm

theorem lastDefinition_append_of_absent (absent : ∀ definition ∈ later, definition.1 ≠ name) :
    lastDefinition (definitions ++ later) name = lastDefinition definitions name := by
  rw [lastDefinition_append, lastDefinition_eq_none absent, Option.none_or]

theorem lastDefinition_of_mem {body : ConstExpr} (defined : (name, body) ∈ later) :
    ∃ last, (name, last) ∈ later ∧ lastDefinition (definitions ++ later) name = some last := by
  cases found : lastDefinition later name with
  | none =>
    have absent := List.lookup_eq_none_iff.mp found (name, body) (List.mem_reverse.mpr defined)
    simp at absent
  | some last =>
    refine ⟨last, ?_, by rw [lastDefinition_append, found, Option.some_or]⟩
    obtain ⟨before, behind, split, -⟩ := List.lookup_eq_some_iff.mp found
    apply List.mem_reverse.mp
    rw [split]
    simp

end Definitions

/-! ## Tables -/

section Tables
variable {α β : Type} {entry : α → Option β} {list : List α}

theorem mapM_eq_map {value : α → β} (made : ∀ a ∈ list, entry a = some (value a)) :
    list.mapM entry = some (list.map value) := by
  induction list with
  | nil => rfl
  | cons first rest ih =>
    have here := made first (List.mem_cons_self ..)
    have later := ih fun a member => made a (List.mem_cons_of_mem _ member)
    rw [List.mapM_cons, here, later]
    rfl

theorem mapM_eq_none {a : α} (member : a ∈ list) (missing : entry a = none) : list.mapM entry = none := by
  induction list with
  | nil => cases member
  | cons first rest ih =>
    rw [List.mapM_cons]
    cases made : entry first with
    | none => rfl
    | some value =>
      rcases List.mem_cons.mp member with rfl | later
      · rw [missing] at made
        cases made
      · rw [ih later]
        rfl

end Tables

end TvcHopper.Machine
