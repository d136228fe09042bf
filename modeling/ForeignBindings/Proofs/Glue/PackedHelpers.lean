import ForeignBindings.Glue.Emission
import ForeignBindings.Proofs.Glue.HelperText
import ForeignBindings.Proofs.Json.Normal
import ForeignBindings.Proofs.Module.WellFormed

/-!
# Helper functions of packed types

The emitted functions that pack and unpack values of a packed type, run line by line on a view of
bytes.  Where all fields are integers, the function that packs makes the packed bytes of every value
that can be packed, and the function that unpacks reads from any bytes that are long enough the
members that unpacking them yields.
-/

namespace ForeignBindings
namespace Glue

/-- Runs lines from a state on.  A line leads to another state or returns a result; a line that does
neither stops the run without one. -/
def runLines {σ ρ : Type} (step : σ → List Char → Option (σ ⊕ ρ)) : σ → List (List Char) → Option ρ
  | _, [] => none
  | state, line :: rest =>
      match step state line with
      | some (.inl next) => runLines step next rest
      | some (.inr result) => some result
      | none => none

/-- Runs the lines of a function behind the line that declares it. -/
def callFunction {σ ρ : Type} (declaration : String) (step : σ → List Char → Option (σ ⊕ ρ))
    (start : σ) (text : String) : Option ρ :=
  match Text.lines text.toList with
  | [] => none
  | head :: body => if head = declaration.toList then runLines step start body else none

/-- How far a function that packs a value has come. -/
inductive PackState where
  | entered
  /-- A buffer has been made. -/
  | allocated (bytes : List UInt8)
  /-- A view of the buffer has been made. -/
  | viewed (view : DataView)

/-- One line of a function that packs a value with the given integer members. -/
def stepPack (member? : String → Option Int) (state : PackState) (line : List Char) :
    Option (PackState ⊕ List UInt8) :=
  match state with
  | .entered => do
      let size ← readAllocation? line
      return .inl (.allocated (List.replicate size 0))
  | .allocated bytes =>
      if line = "  const view = new DataView(buf.buffer);".toList then
        some (.inl (.viewed ⟨bytes⟩))
      else if line = "  return buf;".toList then some (.inr bytes)
      else none
  | .viewed view =>
      if line = "  return buf;".toList then some (.inr view.bytes)
      else do
        let access ← readSet? line
        let value ← member? access.member
        let written ← view.set? access.type access.offset value access.littleEndian
        return .inl (.viewed written)

/-- The bytes that the function of a text makes of a value of a type with the given members. -/
def callPack (typeName text : String) (member? : String → Option Int) : Option (List UInt8) :=
  callFunction (packHead typeName) (stepPack member?) .entered text

/-- How far a function that unpacks bytes has come. -/
inductive UnpackState where
  | entered
  /-- A view of the bytes has been made. -/
  | viewed (view : DataView)
  /-- Members of the object have been read. -/
  | reading (view : DataView) (members : List (String × Int))

/-- One line of a function that unpacks bytes. -/
def stepUnpack (bytes : List UInt8) (state : UnpackState) (line : List Char) :
    Option (UnpackState ⊕ List (String × Int)) :=
  match state with
  | .entered =>
      if line =
          "  const view = new DataView(buf.buffer, buf.byteOffset, buf.byteLength);".toList then
        some (.inl (.viewed ⟨bytes⟩))
      else if line = "  return \x7b\x7d;".toList then some (.inr [])
      else none
  | .viewed view =>
      if line = "  return \x7b".toList then some (.inl (.reading view [])) else none
  | .reading view members =>
      if line = "  \x7d;".toList then some (.inr members)
      else do
        let access ← readGet? line
        let value ← view.get? access.type access.offset access.littleEndian
        return .inl (.reading view (members ++ [(access.member, value)]))

/-- The members of the object that the function of a text makes of bytes. -/
def callUnpack (typeName text : String) (bytes : List UInt8) : Option (List (String × Int)) :=
  callFunction (unpackHead typeName) (stepUnpack bytes) .entered text

/-- Whether the helper functions of a codec do what packing and unpacking in a layout do. -/
structure Codec.Computes (codec : Codec) (layout : Layout) (order : ByteOrder) : Prop where
  /-- The function that packs makes the bytes that packing makes of a value. -/
  packs : ∀ value bytes, Fixed.pack layout order value = .ok bytes →
    callPack codec.typeName (packText codec) value.integerMember? = some bytes
  /-- Bytes that are long enough are unpacked, and the function that unpacks makes an object with
  the same members and the same integers. -/
  unpacks : ∀ bytes : List UInt8, layout.size ≤ bytes.length →
    ∃ members found, Fixed.unpack layout order bytes = .ok (.object members) ∧
      callUnpack codec.typeName (unpackText codec) bytes = some found ∧
      (found.map Prod.fst).Nodup ∧
      (members.map fun member => (member.1, member.2.integer?)).Perm
        (found.map fun member => (member.1, some member.2))

section Lines

variable {σ ρ : Type} {step : σ → List Char → Option (σ ⊕ ρ)} {state next : σ} {line : List Char}

theorem runLines_of_next (stays : Text.StaysOnLine line) (rest : List Char)
    (stepped : step state line = some (.inl next)) :
    runLines step state (Text.lines (line ++ '\n' :: rest)) =
      runLines step next (Text.lines rest) := by
  rw [Text.lines_append stays, runLines, stepped]

theorem runLines_of_result (stays : Text.StaysOnLine line) (rest : List Char) {result : ρ}
    (stepped : step state line = some (.inr result)) :
    runLines step state (Text.lines (line ++ '\n' :: rest)) = some result := by
  rw [Text.lines_append stays, runLines, stepped]

end Lines

variable {order : ByteOrder}

/-- The helper functions of a layout. -/
def codecOf (order : ByteOrder) (typeName : String) (layout : Layout) : Codec :=
  ⟨typeName, layout.size, layout.slots.map (slotAccess order)⟩

theorem isEmpty_accesses_codecOf {typeName : String} {layout : Layout} :
    (codecOf order typeName layout).accesses.isEmpty = layout.slots.isEmpty :=
  List.isEmpty_map

theorem stepPack_allocationLine (member? : String → Option Int) (size : Nat) :
    stepPack member? .entered (allocationLine size) =
      some (.inl (.allocated (List.replicate size 0))) := by
  rw [stepPack, readAllocation?_allocationLine]
  rfl

/-- The line of one field writes what packing the field writes. -/
theorem stepPack_setLine {members : List (String × Json)} {slot : FieldSlot} {type : IntegerType}
    (integer : slot.primitive.integerType? = some type) {buffer : List UInt8}
    (fits : slot.offset + slot.width ≤ buffer.length) {pattern : Nat}
    (found : (Json.member? members slot.name).bind (Fixed.pattern? slot.primitive) =
      some pattern) (order : ByteOrder) :
    stepPack (Json.object members).integerMember? (.viewed ⟨buffer⟩)
        (setLine (slotAccess order slot)) =
      some (.inl (.viewed ⟨Fixed.overwrite buffer slot.offset
        (order.bytes slot.width pattern)⟩)) := by
  obtain ⟨value, held, patterned⟩ := Option.bind_eq_some_iff.mp found
  obtain ⟨number, isNumber, rfl⟩ := Fixed.integer?_of_pattern? integer patterned
  have read := readSet?_setLine (slotAccess order slot)
    (IntegerType.ofAccessor?_ofPrimitive integer)
  have width := FieldSlot.width?_eq (IntegerType.width?_eq integer)
  have notReturn : setLine (slotAccess order slot) ≠ "  return buf;".toList := by
    intro same
    rw [same] at read
    cases read
  have member : (Json.object members).integerMember? slot.name = some number := by
    rw [Json.integerMember?, Json.members?, Option.bind_some, held, Option.bind_some, isNumber]
  have written := DataView.set?_endianArgument integer order (width ▸ fits) number
  rw [stepPack, if_neg notReturn, read]
  simp only [Option.bind_eq_bind, Option.bind_some, slotAccess, member, written, width]
  rfl

/-- The lines of all fields write what packing the fields writes. -/
theorem runLines_setText {members : List (String × Json)} {slots : List FieldSlot}
    {buffer bytes : List UInt8}
    (integers : ∀ slot ∈ slots, ∃ type, slot.primitive.integerType? = some type)
    (fit : ∀ slot ∈ slots, slot.offset + slot.width ≤ buffer.length)
    (packed : Fixed.packSlots order members slots buffer = .ok bytes) (rest : List Char) :
    runLines (stepPack (Json.object members).integerMember?) (.viewed ⟨buffer⟩)
        (Text.lines ((slots.map (slotAccess order)).flatMap (fun access => (setText access).toList)
          ++ rest)) =
      runLines (stepPack (Json.object members).integerMember?) (.viewed ⟨bytes⟩)
        (Text.lines rest) := by
  induction slots generalizing buffer with
  | nil =>
      cases packed
      rfl
  | cons slot slots induction =>
      obtain ⟨⟨type, integer⟩, integers⟩ := List.forall_mem_cons.mp integers
      obtain ⟨fits, fit⟩ := List.forall_mem_cons.mp fit
      rw [Fixed.packSlots] at packed
      split at packed
      case h_1 => cases packed
      case h_2 pattern found =>
        rw [List.map_cons, List.flatMap_cons, toList_setText, List.append_assoc,
          List.append_assoc, List.singleton_append,
          runLines_of_next (staysOnLine_setLine _) _ (stepPack_setLine integer fits found order)]
        -- The line keeps the length of the buffer, so the other slots still lie within it.
        refine induction integers (fun other inside => ?_) packed
        rw [Fixed.length_overwrite (by rwa [ByteOrder.length_bytes])]
        exact fit other inside

/-- Running the function that packs a value makes the packed bytes of the value. -/
theorem callPack_packText {typeName : String} (identifier : Name.isIdentifier typeName)
    {layout : Layout}
    (integers : ∀ slot ∈ layout.slots, ∃ type, slot.primitive.integerType? = some type)
    (fit : ∀ slot ∈ layout.slots, slot.offset + slot.width ≤ layout.size) {value : Json}
    {bytes : List UInt8} (packed : Fixed.pack layout order value = .ok bytes) :
    callPack typeName (packText (codecOf order typeName layout)) value.integerMember? =
      some bytes := by
  obtain ⟨members, rfl⟩ : ∃ members, value = .object members := by
    cases value with
    | object members => exact ⟨members, rfl⟩
    | _ => cases packed
  have returned (view : DataView) :
      stepPack (Json.object members).integerMember? (.viewed view) "  return buf;".toList =
        some (.inr view.bytes) := by
    rw [stepPack, if_pos rfl]
  rw [callPack, callFunction, toList_packText, isEmpty_accesses_codecOf]
  simp only [codecOf, Text.lines_append (staysOnLine_packHead identifier), if_true]
  rw [runLines_of_next (staysOnLine_allocationLine _) _ (stepPack_allocationLine _ _)]
  rw [Fixed.pack] at packed
  -- The buffer of a struct without fields is returned before any view of it is made.
  cases empty : layout.slots.isEmpty with
  | true =>
      rw [List.isEmpty_iff.mp empty] at packed ⊢
      cases packed
      exact runLines_of_result (by decide) _ rfl
  | false =>
      have viewed (buffer : List UInt8) :
          stepPack (Json.object members).integerMember? (.allocated buffer)
            "  const view = new DataView(buf.buffer);".toList = some (.inl (.viewed ⟨buffer⟩)) := by
        rw [stepPack, if_pos rfl]
      rw [if_neg Bool.false_ne_true, List.append_assoc, List.singleton_append,
        runLines_of_next (by decide) _ (viewed _)]
      refine (runLines_setText integers (fun slot inside => ?_) packed _).trans ?_
      · rw [List.length_replicate]
        exact fit slot inside
      · exact runLines_of_result (by decide) _ (returned _)

/-! ## Unpacking -/

/-- The line of one field reads what unpacking the field reads. -/
theorem exists_stepUnpack_getLine {slot : FieldSlot} {type : IntegerType}
    (integer : slot.primitive.integerType? = some type) {bytes : List UInt8}
    (fits : slot.offset + slot.width ≤ bytes.length) (order : ByteOrder) :
    ∃ number value, Fixed.unpackSlot order bytes slot = .ok (slot.name, .number number) ∧
      (Json.number number).integer? = some value ∧
      ∀ read : List (String × Int),
        stepUnpack bytes (.reading ⟨bytes⟩ read) (getLine (slotAccess order slot)) =
          some (.inl (.reading ⟨bytes⟩ (read ++ [(slot.name, value)]))) := by
  rw [FieldSlot.width?_eq (IntegerType.width?_eq integer)] at fits
  obtain ⟨number, unpacked, isNumber⟩ := Fixed.exists_unpackSlot order integer fits
  have line_read := readGet?_getLine (slotAccess order slot)
    (IntegerType.ofAccessor?_ofPrimitive integer)
  have notEnd : getLine (slotAccess order slot) ≠ "  \x7d;".toList := by
    intro same
    rw [same] at line_read
    cases line_read
  have value := DataView.get?_endianArgument integer order fits
  refine ⟨number, _, unpacked, isNumber, fun read => ?_⟩
  rw [stepUnpack, if_neg notEnd, line_read]
  simp only [Option.bind_eq_bind, Option.bind_some, slotAccess, value]
  rfl

/-- The lines of all fields read what unpacking the fields reads. -/
theorem runLines_getText {slots : List FieldSlot} {bytes : List UInt8}
    (integers : ∀ slot ∈ slots, ∃ type, slot.primitive.integerType? = some type)
    (fit : ∀ slot ∈ slots, slot.offset + slot.width ≤ bytes.length) (order : ByteOrder) :
    ∃ members found, slots.mapM (Fixed.unpackSlot order bytes) = .ok members ∧
      members.map (fun member => (member.1, member.2.integer?)) =
        found.map (fun member => (member.1, some member.2)) ∧
      (∀ member ∈ members, member.2.normalize = member.2) ∧
      found.map Prod.fst = slots.map FieldSlot.name ∧
      ∀ (read : List (String × Int)) (rest : List Char),
        runLines (stepUnpack bytes) (.reading ⟨bytes⟩ read)
            (Text.lines ((slots.map (slotAccess order)).flatMap
              (fun access => (getText access).toList) ++ rest)) =
          runLines (stepUnpack bytes) (.reading ⟨bytes⟩ (read ++ found)) (Text.lines rest) := by
  induction slots with
  | nil =>
      refine ⟨[], [], rfl, rfl, nofun, rfl, fun read rest => ?_⟩
      rw [List.append_nil]
      rfl
  | cons slot slots induction =>
      obtain ⟨⟨type, integer⟩, integers⟩ := List.forall_mem_cons.mp integers
      obtain ⟨fits, fit⟩ := List.forall_mem_cons.mp fit
      obtain ⟨members, found, unpacked, same, normal, names, runs⟩ := induction integers fit
      obtain ⟨number, value, first, isNumber, stepped⟩ :=
        exists_stepUnpack_getLine integer fits order
      refine ⟨(slot.name, .number number) :: members, (slot.name, value) :: found, ?_, ?_,
        List.forall_mem_cons.mpr ⟨rfl, normal⟩, ?_, fun read rest => ?_⟩
      · rw [List.mapM_cons, first, unpacked]
        rfl
      · rw [List.map_cons, List.map_cons, same, isNumber]
      · rw [List.map_cons, List.map_cons, names]
      · rw [List.map_cons, List.flatMap_cons, toList_getText, List.append_assoc,
          List.append_assoc, List.singleton_append,
          runLines_of_next (staysOnLine_getLine _) _ (stepped read), runs, List.append_assoc,
          List.singleton_append]

/-- The function that unpacks returns what the lines of its fields have read, or an object without
members if there are no fields. -/
theorem callUnpack_eq {typeName : String} (identifier : Name.isIdentifier typeName)
    {layout : Layout} {bytes : List UInt8} {found : List (String × Int)}
    (names : found.map Prod.fst = layout.slots.map FieldSlot.name)
    (runs : ∀ rest : List Char,
      runLines (stepUnpack bytes) (.reading ⟨bytes⟩ [])
          (Text.lines ((layout.slots.map (slotAccess order)).flatMap
            (fun access => (getText access).toList) ++ rest)) =
        runLines (stepUnpack bytes) (.reading ⟨bytes⟩ found) (Text.lines rest)) :
    callUnpack typeName (unpackText (codecOf order typeName layout)) bytes = some found := by
  rw [callUnpack, callFunction]
  cases empty : layout.slots.isEmpty with
  | true =>
      have none : found = [] := by
        rw [List.isEmpty_iff.mp empty] at names
        exact List.map_eq_nil_iff.mp names
      have returned : stepUnpack bytes .entered "  return \x7b\x7d;".toList = some (.inr []) := by
        rw [stepUnpack, if_neg (by decide), if_pos rfl]
      rw [toList_unpackText_of_isEmpty (isEmpty_accesses_codecOf.trans empty), none]
      simp only [codecOf, Text.lines_append (staysOnLine_unpackHead identifier), if_true]
      exact runLines_of_result (by decide) _ returned
  | false =>
      have viewed : stepUnpack bytes .entered
          "  const view = new DataView(buf.buffer, buf.byteOffset, buf.byteLength);".toList =
            some (.inl (.viewed ⟨bytes⟩)) := by
        rw [stepUnpack, if_pos rfl]
      have opened : stepUnpack bytes (.viewed ⟨bytes⟩) "  return \x7b".toList =
          some (.inl (.reading ⟨bytes⟩ [])) := by
        rw [stepUnpack, if_pos rfl]
      have returned : stepUnpack bytes (.reading ⟨bytes⟩ found) "  \x7d;".toList =
          some (.inr found) := by
        rw [stepUnpack, if_pos rfl]
      rw [toList_unpackText (isEmpty_accesses_codecOf.trans empty)]
      simp only [codecOf, Text.lines_append (staysOnLine_unpackHead identifier), if_true]
      rw [runLines_of_next (by decide) _ viewed, runLines_of_next (by decide) _ opened, runs]
      exact runLines_of_result (by decide) _ returned

/-- Running the function that unpacks bytes reads the members that unpacking the bytes reads. -/
theorem callUnpack_unpackText {typeName : String} (identifier : Name.isIdentifier typeName)
    {layout : Layout}
    (integers : ∀ slot ∈ layout.slots, ∃ type, slot.primitive.integerType? = some type)
    (fit : ∀ slot ∈ layout.slots, slot.offset + slot.width ≤ layout.size)
    (distinct : (layout.slots.map FieldSlot.name).Nodup) {bytes : List UInt8}
    (long : layout.size ≤ bytes.length) :
    ∃ members found, Fixed.unpack layout order bytes = .ok (.object members) ∧
      callUnpack typeName (unpackText (codecOf order typeName layout)) bytes = some found ∧
      (found.map Prod.fst).Nodup ∧
      (members.map fun member => (member.1, member.2.integer?)).Perm
        (found.map fun member => (member.1, some member.2)) := by
  obtain ⟨members, found, unpacked, same, normal, names, runs⟩ := runLines_getText integers
    (fun slot inside => Nat.le_trans (fit slot inside) long) order
  have member_names : members.map Prod.fst = layout.slots.map FieldSlot.name := by
    have firsts := congrArg (List.map Prod.fst) same
    simpa only [List.map_map, Function.comp_def, ← names] using firsts
  have reordered := Json.normalizeMembers_perm (member_names ▸ distinct) normal
  refine ⟨Json.normalizeMembers members, found, ?_, callUnpack_eq identifier names (runs []),
    names ▸ distinct, same ▸ reordered.map fun member => (member.1, member.2.integer?)⟩
  rw [Fixed.unpack, if_neg (by omega), unpacked]
  rfl

/-- The slots of a struct of integers are those of integers, lie within a packed value and have
distinct names. -/
theorem slots_of_integers {typeName : String} {fields : Fields} {layout : Layout}
    (integers : ∀ field ∈ fields.toList, field.2.IsInteger)
    (placed : Layout.ofFields typeName fields = .ok layout) :
    (∀ slot ∈ layout.slots, ∃ type, slot.primitive.integerType? = some type) ∧
      (∀ slot ∈ layout.slots, slot.offset + slot.width ≤ layout.size) ∧
      (layout.slots.map FieldSlot.name).Nodup := by
  have isPlaced := Layout.isPlaced_of_ofFields placed
  exact ⟨fun slot inside => (integers _ (Layout.mem_of_ofFields placed inside)).exists_integerType?,
    isPlaced.inside, isPlaced.distinct⟩

theorem codecOf_computes {typeName : String} (identifier : Name.isIdentifier typeName)
    {fields : Fields} {layout : Layout} (integers : ∀ field ∈ fields.toList, field.2.IsInteger)
    (placed : Layout.ofFields typeName fields = .ok layout) :
    (codecOf order typeName layout).Computes layout order := by
  obtain ⟨slots, fit, distinct⟩ := slots_of_integers integers placed
  exact ⟨fun value bytes packed => callPack_packText identifier slots fit packed,
    fun bytes long => callUnpack_unpackText identifier slots fit distinct long⟩

/-- The helper functions of a type are a part of the text of every module that declares it. -/
theorem helpers_mem_parts {module : BindingModule} {config : Config} {glue : Module}
    (emitted : emit module config = .ok glue) {decl : TypeDecl}
    (inside : decl ∈ module.types.toList) {codec : Codec}
    (codecs : codecDeclarations module.options.byteOrder decl = .ok [.codec codec]) :
    packText codec ++ unpackText codec ∈ glue.parts := by
  obtain ⟨-, emitted⟩ := Checks.then_eq_ok_iff.mp emitted
  obtain ⟨-, emitted⟩ := Checks.then_eq_ok_iff.mp emitted
  obtain ⟨plans, -, emitted⟩ := Checks.bind_eq_ok_iff.mp emitted
  obtain ⟨declared, declares, emitted⟩ := Checks.bind_eq_ok_iff.mp emitted
  cases emitted
  obtain ⟨own, own_declared, declares⟩ := Checks.exists_mem_of_mapM_eq_ok declares inside
  obtain ⟨types, -, declares⟩ := Checks.bind_eq_ok_iff.mp declares
  rw [codecs] at declares
  cases declares
  have declaration : Declaration.codec codec ∈ declared.flatten :=
    List.mem_flatten.mpr ⟨_, own_declared, List.mem_append_right types List.mem_cons_self⟩
  have part : declarationText config.exported (.codec codec) ∈
      declared.flatten.map (declarationText config.exported) := List.mem_map_of_mem declaration
  simp only [Module.parts, List.mem_append]
  exact .inl (.inr part)

/-- Every packed struct of a module has a layout and the helper functions of this layout. -/
theorem exists_codecOf {draft : ModuleDraft} {module : BindingModule}
    (built : draft.build = .ok module) {decl : TypeDecl} (declared : decl ∈ module.types.toList)
    {fields : Fields} (packed : decl.kind = .struct ⟨fields, .fixed⟩) (order : ByteOrder) :
    ∃ layout, Layout.ofFields decl.name fields = .ok layout ∧
      codecDeclarations order decl = .ok [.codec (codecOf order decl.name layout)] ∧
      Name.isIdentifier decl.name = true := by
  obtain ⟨wellFormed, normalizes⟩ := ModuleDraft.build_eq_ok_iff.mp built
  have decl_wellFormed := wellFormed.types decl (normalizes.types_perm.mem_iff.mp declared)
  obtain ⟨layout, placed⟩ := (Layout.exists_ofFields_iff decl.name).mpr
    (decl_wellFormed.packed_scalars fields packed)
  refine ⟨layout, placed, ?_, decl_wellFormed.declarable.1⟩
  rw [codecDeclarations, packed]
  simp only [placed]
  rfl

/-- The emitted helper functions of a packed struct of integers compute what packing and unpacking
its values computes, in either byte order. -/
theorem emitted_helpers_compute_packed_values {draft : ModuleDraft} {module : BindingModule}
    (built : draft.build = .ok module) {decl : TypeDecl} (declared : decl ∈ module.types.toList)
    {fields : Fields} (packed : decl.kind = .struct ⟨fields, .fixed⟩)
    (integers : ∀ field ∈ fields.toList, field.2.IsInteger) :
    ∃ layout codec, Layout.ofFields decl.name fields = .ok layout ∧
      codecDeclarations module.options.byteOrder decl = .ok [.codec codec] ∧
      codec.typeName = decl.name ∧ codec.Computes layout module.options.byteOrder ∧
      ∀ config glue, emit module config = .ok glue →
        packText codec ++ unpackText codec ∈ glue.parts ∧
          glue.Shows (packText codec ++ unpackText codec) := by
  obtain ⟨layout, placed, codecs, identifier⟩ :=
    exists_codecOf built declared packed module.options.byteOrder
  exact ⟨layout, _, placed, codecs, rfl, codecOf_computes identifier integers placed,
    fun config glue emitted =>
      have part := helpers_mem_parts emitted declared codecs
      ⟨part, Module.shows_of_mem part⟩⟩

/-- A packed struct of a byte and a signed integer of two bytes, whose name has to be quoted. -/
def cellDecl : TypeDecl :=
  ⟨"Cell", .struct ⟨.ofList [("row", .primitive .u8), ("left edge", .primitive .i16)], .fixed⟩,
    none, none⟩

/-- A module of that struct, with the highest byte first. -/
def cellModule : BindingModule :=
  ⟨"cells", ⟨.big, .debug, .targetDirectory .debug⟩, ⟨#[cellDecl]⟩, []⟩

/-- A value of that struct. -/
def cellValue : Json :=
  .object [("left edge", .number (.integer (-2) (by decide) (by decide))),
    ("row", .number (.integer 7 (by decide) (by decide)))]

/-- The emitted function pads the byte and writes the negative integer behind it. -/
theorem emitted_helpers_compute_packed_values_cellModule :
    (((ModuleDraft.empty "cells").setByteOrder .big).addType cellDecl).build = .ok cellModule ∧
      ∃ codec, codecDeclarations .big cellDecl = .ok [.codec codec] ∧
        callPack codec.typeName (packText codec) cellValue.integerMember? =
          some [7, 0, 255, 254] := by
  have built : (((ModuleDraft.empty "cells").setByteOrder .big).addType cellDecl).build =
      .ok cellModule := by decide
  have declared : cellDecl ∈ cellModule.types.toList := List.mem_cons_self
  have integers : ∀ field ∈ (Entries.ofList [("row", TypeRef.primitive .u8),
      ("left edge", .primitive .i16)]).toList, field.2.IsInteger :=
    List.forall_mem_cons.mpr ⟨⟨.u8, ⟨1, false⟩, rfl, rfl⟩,
      List.forall_mem_singleton.mpr ⟨.i16, ⟨2, true⟩, rfl, rfl⟩⟩
  obtain ⟨layout, codec, placed, codecs, -, computes, -⟩ :=
    emitted_helpers_compute_packed_values built declared rfl integers
  have known : Layout.ofFields cellDecl.name (.ofList [("row", .primitive .u8),
      ("left edge", .primitive .i16)]) =
        .ok ⟨[⟨"row", .u8, 0⟩, ⟨"left edge", .i16, 2⟩], 4, 2⟩ := by decide
  obtain rfl := Except.ok.inj (placed.symm.trans known)
  exact ⟨built, codec, codecs, computes.packs cellValue _ rfl⟩

end Glue
end ForeignBindings
