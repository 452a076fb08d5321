import Mathlib.Data.List.Forall2
import TvcHopper.Machine.Macros
import TvcHopper.Spp.Protocol

/-! The property list of a client, generated from its description.

`generate_spp_lists.py` reads the properties and prints a table of initializers
and a definition for each id; `spp_proto_def.h` has the other names and the
bit-fields that the host reads the flags with. The text is modelled by its
tokens, the names of the macros as they are printed.
-/

set_option autoImplicit false

namespace TvcHopper.Spp
open Machine

/-! ## The description -/

inductive PropertyType where
  | bool
  | float
  | u16
  | i16
  | u32
  | i32
  | arr
  deriving DecidableEq, Repr

def PropertyType.text : PropertyType → String
  | .bool => "BOOL"
  | .float => "FLOAT"
  | .u16 => "U16"
  | .i16 => "I16"
  | .u32 => "U32"
  | .i32 => "I32"
  | .arr => "ARR"

def sizes : PropertyType → Option Int
  | .bool => some 1
  | .float => some 4
  | .u16 => some 2
  | .i16 => some 2
  | .u32 => some 4
  | .i32 => some 4
  | .arr => none

/-- A property as it is described; keys can be missing. -/
structure TomlProperty where
  id : Int
  name : String
  type : PropertyType
  size : Option Int
  readable : Option Bool
  writeable : Option Bool
  streamableR : Option Bool
  streamableW : Option Bool
  deriving DecidableEq

/-! ## The generator -/

structure PropertyFlags where
  r : Bool
  w : Bool
  sr : Bool
  sw : Bool
  deriving DecidableEq

def PropertyFlags.str (flags : PropertyFlags) : Option ConstExpr :=
  let fstr := (if flags.r then ["SPP_FLAG_READABLE"] else []) ++ (if flags.w then ["SPP_FLAG_WRITEABLE"] else []) ++
    (if flags.sr then ["SPP_FLAG_STREAMABLE_R"] else []) ++ (if flags.sw then ["SPP_FLAG_STREAMABLE_W"] else [])
  match fstr with
  | [] => none
  | first :: rest => some (rest.foldl (fun joined name => .or joined (.named name)) (.named first))

structure PropertyDefinition where
  pid : Int
  pname : String
  ptype : PropertyType
  psize : Int
  pflags : PropertyFlags
  deriving DecidableEq

/-- One round of `read_properties`; there is no result when a key is missing. -/
def readProperty (p : TomlProperty) : Option PropertyDefinition := do
  let psize ← (if p.type = .arr then p.size else sizes p.type)
  let isR := p.writeable.getD false
  let isW := p.readable.getD false
  let isSr := p.streamableW.getD false
  let isSw := p.streamableR.getD false
  let pflags : PropertyFlags := ⟨isR, isW, isSw, isSr⟩
  return ⟨p.id, p.name, p.type, psize, pflags⟩

def readProperties (props : List TomlProperty) : Option (List PropertyDefinition) := props.mapM readProperty

/-- An initializer of the table. Without flags the braces are empty. -/
structure PropertyInitializer where
  id : ConstExpr
  type : ConstExpr
  size : ConstExpr
  flags : Option ConstExpr
  name : List Char
  nameLength : ConstExpr
  deriving DecidableEq

def propIdName (pname : String) : String := "PROP_" ++ pname ++ "_ID"

def PropertyDefinition.str (p : PropertyDefinition) : PropertyInitializer :=
  let pname := p.pname.toList ++ ['\\', '0']
  { id := .named (propIdName p.pname)
    type := .named ("SPP_PROP_T_" ++ p.ptype.text)
    size := .number p.psize
    flags := p.pflags.str
    name := pname
    nameLength := .number (pname.length - 1) }

/-- The table with the header that it includes, and the header of the host. -/
structure GeneratedFiles where
  propCount : Nat
  propIds : Definitions
  propertyList : List PropertyInitializer
  hostPropIds : Definitions
  deriving DecidableEq

def generateTable (propList : List PropertyDefinition) : GeneratedFiles where
  propCount := propList.length
  propIds := propList.map fun p => (propIdName p.pname, .cast 16 (.number p.pid))
  propertyList := propList.map PropertyDefinition.str
  hostPropIds := propList.map fun p => (propIdName p.pname, .cast 16 (.number p.pid))

/-! ## The compiled table -/

/-- The names of `spp_proto_def.h` that are printed into the table. -/
def sppProtoDef : Definitions := [
  ("SPP_PROP_T_U16", .cast 8 (.number 0xE0)),
  ("SPP_PROP_T_U32", .cast 8 (.number 0xE1)),
  ("SPP_PROP_T_I16", .cast 8 (.number 0xE2)),
  ("SPP_PROP_T_I32", .cast 8 (.number 0xE3)),
  ("SPP_PROP_T_FLOAT", .cast 8 (.number 0xE4)),
  ("SPP_PROP_T_BOOL", .cast 8 (.number 0xE5)),
  ("SPP_PROP_T_ARR", .cast 8 (.number 0xE6)),
  ("SPP_FLAG_READABLE", .cast 8 (.number 0x00)),
  ("SPP_FLAG_WRITEABLE", .cast 8 (.number 0x01)),
  ("SPP_FLAG_STREAMABLE_R", .cast 8 (.number 0x02)),
  ("SPP_FLAG_STREAMABLE_W", .cast 8 (.number 0x04))]

def literalBytes : List Char → List UInt8
  | '\\' :: '0' :: rest => 0 :: literalBytes rest
  | c :: rest => .ofNat c.toNat :: literalBytes rest
  | [] => []

/-- The value of a member; empty braces are zero. -/
def memberValue (macros : String → Option Int) : Option ConstExpr → Option Int
  | none => some 0
  | some initializer => initializer.value macros

/-- The places behind the string are zero. -/
def PropertyInitializer.compile (macros : String → Option Int) (p : PropertyInitializer) :
    Option SppPropertyDefinition := do
  let id ← p.id.value macros
  let type ← p.type.value macros
  let size ← p.size.value macros
  let flags ← memberValue macros p.flags
  let nameLength ← p.nameLength.value macros
  let name : Vector UInt8 sppPropNameLengthMax := .ofFn fun i => (literalBytes p.name)[i.val]?.getD 0
  return ⟨.ofInt id, .ofInt type, .ofInt size, .ofInt flags, name, .ofInt nameLength⟩

/-- The names that are defined have to be identifiers, and the table has to have room for its initializers. -/
def compileTable (files : GeneratedFiles) : Option (List SppPropertyDefinition) :=
  if files.propIds.all (isIdentifier ·.1) ∧ files.propertyList.length ≤ files.propCount then do
    let table ← files.propertyList.mapM (·.compile (expand (sppProtoDef ++ files.propIds)))
    return table ++ .replicate (files.propCount - table.length) ⟨0, 0, 0, 0, .replicate _ 0, 0⟩
  else none

/-! ## The bit-fields of the flags -/

def SppPropertyDefinition.isReadable (definition : SppPropertyDefinition) : Bool := definition.flags.toNat.testBit 0

def SppPropertyDefinition.isWriteable (definition : SppPropertyDefinition) : Bool := definition.flags.toNat.testBit 1

def SppPropertyDefinition.isReadStreamable (definition : SppPropertyDefinition) : Bool :=
  definition.flags.toNat.testBit 2

def SppPropertyDefinition.isWriteStreamable (definition : SppPropertyDefinition) : Bool :=
  definition.flags.toNat.testBit 3

/-! ## What is declared -/

def PropertyType.code : PropertyType → UInt8
  | .u16 => 0xE0
  | .u32 => 0xE1
  | .i16 => 0xE2
  | .i32 => 0xE3
  | .float => 0xE4
  | .bool => 0xE5
  | .arr => 0xE6

/-- The declared size for arrays, the size of the type otherwise. -/
def TomlProperty.declaredSize (p : TomlProperty) : Option Int := if p.type = .arr then p.size else sizes p.type

structure Declares (p : TomlProperty) (definition : SppPropertyDefinition) : Prop where
  id : (definition.id.toNat : Int) = p.id
  type : definition.type = p.type.code
  size : some (definition.size.toNat : Int) = p.declaredSize
  nameLength : definition.nameLength.toNat = p.name.length + 1
  readable : definition.isReadable = p.readable.getD false
  writeable : definition.isWriteable = p.writeable.getD false
  streamableR : definition.isReadStreamable = p.streamableR.getD false
  streamableW : definition.isWriteStreamable = p.streamableW.getD false

/-- The compiled table has one definition for each property, in order, that says what is declared. -/
def Faithful (props : List TomlProperty) : Prop :=
  ∃ propList table, readProperties props = some propList ∧ compileTable (generateTable propList) = some table ∧
    List.Forall₂ Declares props table

/-! ## What is compiled -/

/-- The flags as they are numbered: the first name is zero. -/
def PropertyFlags.byte (flags : PropertyFlags) : UInt8 :=
  (if flags.w then 0x01 else 0) ||| (if flags.sr then 0x02 else 0) ||| (if flags.sw then 0x04 else 0)

def TomlProperty.read (p : TomlProperty) : PropertyDefinition :=
  ⟨p.id, p.name, p.type, p.declaredSize.getD 0,
    ⟨p.writeable.getD false, p.readable.getD false, p.streamableR.getD false, p.streamableW.getD false⟩⟩

theorem readProperties_eq (props : List TomlProperty) :
    readProperties props = if ∀ p ∈ props, p.declaredSize.isSome then some (props.map TomlProperty.read) else none := by
  split
  · next sized =>
    apply mapM_eq_map
    intro p member
    obtain ⟨size, declared⟩ := Option.isSome_iff_exists.mp (sized p member)
    rw [TomlProperty.read, declared]
    rw [TomlProperty.declaredSize] at declared
    rw [readProperty, declared]
    rfl
  · next unsized =>
    simp only [not_forall] at unsized
    obtain ⟨p, member, missing⟩ := unsized
    rw [Option.not_isSome_iff_eq_none, TomlProperty.declaredSize] at missing
    exact mapM_eq_none member (by rw [readProperty, missing]; rfl)

section Macros
variable {propList : List PropertyDefinition}

theorem propIdName_ne {name : String} (starts : name.toList.head? = some 'S') (pname : String) :
    propIdName pname ≠ name := by
  intro same
  rw [← same] at starts
  simp [propIdName] at starts

theorem propIdName_injective {first second : String} (same : propIdName first = propIdName second) :
    first = second := by
  simpa [propIdName, String.append_assoc] using same

theorem isIdentifier_propIdName (pname : String) :
    isIdentifier (propIdName pname) = pname.toList.all identifierChar := by
  simp [isIdentifier, propIdName, identifierChar]

theorem expand_proto {name : String} (starts : name.toList.head? = some 'S') :
    expand (sppProtoDef ++ (generateTable propList).propIds) name = expand sppProtoDef name := by
  rw [expand, lastDefinition_append_of_absent]
  · rfl
  · intro definition member
    obtain ⟨p, -, rfl⟩ := List.mem_map.mp member
    exact propIdName_ne starts p.pname

theorem expand_propType (type : PropertyType) :
    expand (sppProtoDef ++ (generateTable propList).propIds) ("SPP_PROP_T_" ++ type.text) =
      some (type.code.toNat : Int) := by
  cases type with
  | bool | float | u16 | i16 | u32 | i32 | arr =>
    rw [expand_proto (by decide)]
    decide

theorem flags_value (flags : PropertyFlags) :
    memberValue (expand (sppProtoDef ++ (generateTable propList).propIds)) flags.str =
      some (flags.byte.toNat : Int) := by
  have readable : expand (sppProtoDef ++ (generateTable propList).propIds) "SPP_FLAG_READABLE" = some 0 :=
    (expand_proto (by decide)).trans (by decide)
  have writeable : expand (sppProtoDef ++ (generateTable propList).propIds) "SPP_FLAG_WRITEABLE" = some 1 :=
    (expand_proto (by decide)).trans (by decide)
  have streamableR : expand (sppProtoDef ++ (generateTable propList).propIds) "SPP_FLAG_STREAMABLE_R" = some 2 :=
    (expand_proto (by decide)).trans (by decide)
  have streamableW : expand (sppProtoDef ++ (generateTable propList).propIds) "SPP_FLAG_STREAMABLE_W" = some 4 :=
    (expand_proto (by decide)).trans (by decide)
  generalize expand (sppProtoDef ++ (generateTable propList).propIds) = macros at *
  obtain ⟨r, w, sr, sw⟩ := flags
  cases r <;> cases w <;> cases sr <;> cases sw <;>
    simp [PropertyFlags.str, PropertyFlags.byte, memberValue, ConstExpr.value, readable, writeable, streamableR,
      streamableW]

theorem expand_propId {p : PropertyDefinition} (member : p ∈ propList) :
    ∃ last ∈ propList, last.pname = p.pname ∧
      expand (sppProtoDef ++ (generateTable propList).propIds) (propIdName p.pname) = some (last.pid % 2 ^ 16) := by
  obtain ⟨body, defined, found⟩ := @lastDefinition_of_mem sppProtoDef (generateTable propList).propIds
    (propIdName p.pname) _ (List.mem_map.mpr ⟨p, member, rfl⟩)
  obtain ⟨last, member', same⟩ := List.mem_map.mp defined
  obtain ⟨named, rfl⟩ := Prod.mk.inj same
  refine ⟨last, member', propIdName_injective named, ?_⟩
  rw [expand, found]
  rfl

/-- The definition that an initializer is compiled to, with the id behind its name. -/
def PropertyDefinition.compiled (p : PropertyDefinition) (id : Int) : SppPropertyDefinition where
  id := .ofInt id
  type := p.ptype.code
  size := .ofInt p.psize
  flags := p.pflags.byte
  name := .ofFn fun i => (literalBytes (p.pname.toList ++ ['\\', '0']))[i.val]?.getD 0
  nameLength := .ofInt (p.pname.length + 1)

theorem ofInt_toNat (byte : UInt8) : UInt8.ofInt byte.toNat = byte := by
  apply UInt8.toNat_inj.mp
  have small := byte.toNat_lt
  rw [UInt8.ofInt, UInt8.toNat_ofNat']
  omega

theorem compile_str (p : PropertyDefinition) {id : Int}
    (found : expand (sppProtoDef ++ (generateTable propList).propIds) (propIdName p.pname) = some id) :
    p.str.compile (expand (sppProtoDef ++ (generateTable propList).propIds)) = some (p.compiled id) := by
  have length : ((p.pname.toList ++ ['\\', '0']).length : Int) - 1 = p.pname.length + 1 := by
    rw [List.length_append, String.length_toList]
    simp only [List.length_cons, List.length_nil]
    omega
  have flags := @flags_value propList p.pflags
  simp only [PropertyInitializer.compile, PropertyDefinition.str, ConstExpr.value, found, expand_propType, flags,
    length, PropertyDefinition.compiled, Option.bind_eq_bind, Option.bind_some, ofInt_toNat, Option.pure_def]

def definedId (propList : List PropertyDefinition) (pname : String) : Int :=
  (expand (sppProtoDef ++ (generateTable propList).propIds) (propIdName pname)).getD 0

theorem compileTable_eq (propList : List PropertyDefinition) :
    compileTable (generateTable propList) =
      if ∀ p ∈ propList, p.pname.toList.all identifierChar then
        some (propList.map fun p => p.compiled (definedId propList p.pname))
      else none := by
  have identifiers : ((generateTable propList).propIds.all (isIdentifier ·.1) = true ∧
      (generateTable propList).propertyList.length ≤ (generateTable propList).propCount) ↔
      ∀ p ∈ propList, p.pname.toList.all identifierChar := by
    simp [generateTable, isIdentifier_propIdName]
  unfold compileTable
  by_cases named : ∀ p ∈ propList, p.pname.toList.all identifierChar
  · have table : (generateTable propList).propertyList.mapM
        (·.compile (expand (sppProtoDef ++ (generateTable propList).propIds))) =
        some (propList.map fun p => p.compiled (definedId propList p.pname)) := by
      rw [generateTable, List.mapM_map]
      apply mapM_eq_map
      intro p member
      obtain ⟨last, -, -, found⟩ := expand_propId member
      have id : definedId propList p.pname = last.pid % 2 ^ 16 := by rw [definedId, found, Option.getD_some]
      rw [Function.comp_apply, id]
      exact compile_str p found
    rw [if_pos (identifiers.mpr named), if_pos named, table]
    simp [generateTable]
  · rw [if_neg (mt identifiers.mp named), if_neg named]

end Macros

/-! ## Faithful lists -/

section Lists
variable {p : TomlProperty} {props : List TomlProperty}

/-- A property that the table can say everything of: what is declared fits, and only reading is permitted. -/
structure Representable (p : TomlProperty) : Prop where
  named : p.name.toList.all identifierChar
  id : 0 ≤ p.id ∧ p.id < 65536
  size : ∃ size, p.declaredSize = some size ∧ 0 ≤ size ∧ size < 256
  writeable : p.writeable.getD false = false
  streamableR : p.streamableR.getD false = false
  streamableW : p.streamableW.getD false = false

theorem byte_bits (r w sr sw : Bool) :
    (PropertyFlags.byte ⟨r, w, sr, sw⟩).toNat.testBit 0 = w ∧ (PropertyFlags.byte ⟨r, w, sr, sw⟩).toNat.testBit 1 = sr ∧
      (PropertyFlags.byte ⟨r, w, sr, sw⟩).toNat.testBit 2 = sw ∧
      (PropertyFlags.byte ⟨r, w, sr, sw⟩).toNat.testBit 3 = false := by
  revert r w sr sw
  decide

/-- What the host sees of the permissions: reading is read from the name for writing, the others from the name
before their own, and the stream for writing has none. -/
theorem compiled_permissions (p : TomlProperty) (id : Int) :
    (p.read.compiled id).isReadable = p.readable.getD false ∧
      (p.read.compiled id).isWriteable = p.streamableR.getD false ∧
      (p.read.compiled id).isReadStreamable = p.streamableW.getD false ∧
      (p.read.compiled id).isWriteStreamable = false :=
  byte_bits _ _ _ _

theorem ofInt16_eq_iff (value declared : Int) :
    ((UInt16.ofInt value).toNat : Int) = declared ↔ value % 65536 = declared := by
  rw [UInt16.ofInt, UInt16.toNat_ofNat']
  omega

theorem ofInt8_eq_iff (value : Int) : ((UInt8.ofInt value).toNat : Int) = value ↔ 0 ≤ value ∧ value < 256 := by
  rw [UInt8.ofInt, UInt8.toNat_ofNat']
  omega

theorem declares_compiled_iff (short : p.name.length ≤ 31) {size : Int} (sized : p.declaredSize = some size)
    (id : Int) :
    Declares p (p.read.compiled id) ↔
      id % 65536 = p.id ∧ (0 ≤ size ∧ size < 256) ∧ p.writeable.getD false = false ∧
        p.streamableR.getD false = false ∧ p.streamableW.getD false = false := by
  have psize : p.read.psize = size := by rw [TomlProperty.read, sized, Option.getD_some]
  obtain ⟨readable, writeable, streamableR, streamableW⟩ := compiled_permissions p id
  constructor
  · intro declares
    have first := declares.writeable
    have second := declares.streamableR
    have third := declares.streamableW
    rw [writeable] at first
    rw [streamableR] at second
    rw [streamableW] at third
    have sameSize := declares.size
    rw [sized, PropertyDefinition.compiled, psize] at sameSize
    exact ⟨(ofInt16_eq_iff id p.id).mp declares.id, (ofInt8_eq_iff size).mp (Option.some.inj sameSize),
      by rw [← first, ← second, ← third], by rw [← second, ← third], third.symm⟩
  · rintro ⟨sameId, fits, noWrite, noStreamR, noStreamW⟩
    have length : (UInt8.ofInt (p.name.length + 1)).toNat = p.name.length + 1 := by
      have fits := (ofInt8_eq_iff (p.name.length + 1)).mpr (by omega)
      omega
    exact {
      id := (ofInt16_eq_iff id p.id).mpr sameId
      type := rfl
      size := by
        rw [sized, PropertyDefinition.compiled, psize]
        exact congrArg some ((ofInt8_eq_iff size).mpr fits)
      nameLength := length
      readable := readable
      writeable := by rw [writeable, noWrite, noStreamR]
      streamableR := by rw [streamableR, noStreamR, noStreamW]
      streamableW := by rw [streamableW, noStreamW] }

theorem faithful_iff_declares (props : List TomlProperty) :
    Faithful props ↔ (∀ p ∈ props, p.declaredSize.isSome) ∧ (∀ p ∈ props, p.name.toList.all identifierChar) ∧
      ∀ p ∈ props, Declares p (p.read.compiled (definedId (props.map TomlProperty.read) p.name)) := by
  have named : (∀ p ∈ props.map TomlProperty.read, p.pname.toList.all identifierChar) ↔
      ∀ p ∈ props, p.name.toList.all identifierChar := by
    simp [TomlProperty.read]
  constructor
  · rintro ⟨propList, table, read, compiled, each⟩
    rw [readProperties_eq, Option.ite_none_right_eq_some] at read
    obtain ⟨sized, read⟩ := read
    obtain rfl := Option.some.inj read
    rw [compileTable_eq, Option.ite_none_right_eq_some] at compiled
    obtain ⟨identifiers, compiled⟩ := compiled
    obtain rfl := Option.some.inj compiled
    rw [List.map_map, List.forall₂_map_right_iff, List.forall₂_same] at each
    exact ⟨sized, named.mp identifiers, each⟩
  · rintro ⟨sized, identifiers, each⟩
    refine ⟨_, _, by rw [readProperties_eq, if_pos sized], by rw [compileTable_eq, if_pos (named.mpr identifiers)], ?_⟩
    rw [List.map_map, List.forall₂_map_right_iff, List.forall₂_same]
    exact each

theorem definedId_eq (member : p ∈ props) :
    ∃ last ∈ props, last.name = p.name ∧ definedId (props.map TomlProperty.read) p.name = last.id % 65536 := by
  obtain ⟨last, member', named, found⟩ :=
    @expand_propId (props.map TomlProperty.read) p.read (List.mem_map.mpr ⟨p, member, rfl⟩)
  obtain ⟨last, inside, rfl⟩ := List.mem_map.mp member'
  refine ⟨last, inside, named, ?_⟩
  exact (congrArg (Option.getD · 0) found).trans rfl

/-- The table is faithful exactly when only reading is permitted, the names are identifiers, the ids and the sizes
of arrays fit, and no name stands for two ids. -/
theorem faithful_iff (props : List TomlProperty) (short : ∀ p ∈ props, p.name.length ≤ 31) :
    Faithful props ↔
      (∀ p ∈ props, Representable p) ∧ ∀ p ∈ props, ∀ q ∈ props, p.name = q.name → p.id = q.id := by
  rw [faithful_iff_declares]
  constructor
  · rintro ⟨sized, named, each⟩
    have ids (p : TomlProperty) (member : p ∈ props) :
        definedId (props.map TomlProperty.read) p.name % 65536 = p.id :=
      (ofInt16_eq_iff _ p.id).mp (each p member).id
    constructor
    · intro p member
      obtain ⟨size, declared⟩ := Option.isSome_iff_exists.mp (sized p member)
      obtain ⟨id, fits, writeable, streamableR, streamableW⟩ :=
        (declares_compiled_iff (short p member) declared _).mp (each p member)
      exact ⟨named p member, by omega, ⟨size, declared, fits⟩, writeable, streamableR, streamableW⟩
    · intro p member q member' same
      rw [← ids p member, ← ids q member', same]
  · rintro ⟨representable, distinct⟩
    refine ⟨fun p member => ?_, fun p member => (representable p member).named, fun p member => ?_⟩
    · obtain ⟨size, declared, -⟩ := (representable p member).size
      exact Option.isSome_iff_exists.mpr ⟨size, declared⟩
    · have can := representable p member
      obtain ⟨size, declared, fits⟩ := can.size
      obtain ⟨last, member', named, id⟩ := definedId_eq member
      have same := distinct last member' p member named
      refine (declares_compiled_iff (short p member) declared _).mpr
        ⟨?_, fits, can.writeable, can.streamableR, can.streamableW⟩
      have range := can.id
      omega

end Lists

/-! The first properties of the vehicle. -/

def startProperty : TomlProperty := ⟨0, "start", .bool, none, none, some true, none, none⟩

def statusProperty : TomlProperty := ⟨2, "status", .u32, none, some true, none, none, none⟩

def telemDataProperty : TomlProperty := ⟨10, "telem_data", .arr, some 32, some true, none, none, none⟩

theorem faithful_status : Faithful [statusProperty, telemDataProperty] := by
  refine (faithful_iff [statusProperty, telemDataProperty] (by decide)).mpr ⟨fun p member => ?_, by decide⟩
  rcases List.mem_pair.mp member with rfl | rfl
  · exact ⟨by decide, by decide, ⟨4, by decide⟩, rfl, rfl, rfl⟩
  · exact ⟨by decide, by decide, ⟨32, by decide⟩, rfl, rfl, rfl⟩

/-- The start command can be written, and the host is told that nothing is permitted. -/
theorem start_not_writeable :
    (∃ propList definition, readProperties [startProperty] = some propList ∧
        compileTable (generateTable propList) = some [definition] ∧ definition.flags = 0x00) ∧
      ¬Faithful [startProperty] := by
  constructor
  · exact ⟨_, _, by rw [readProperties_eq, if_pos (by decide)], by rw [compileTable_eq, if_pos (by decide)]; rfl, rfl⟩
  · intro faithful
    obtain ⟨-, -, each⟩ := (faithful_iff_declares [startProperty]).mp faithful
    have declares := each startProperty (List.mem_singleton.mpr rfl)
    have permitted := (compiled_permissions startProperty _).2.1.symm.trans declares.writeable
    cases permitted

end TvcHopper.Spp
