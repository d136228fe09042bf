import ForeignBindings.Proofs.Glue.ModuleHead

/-!
# Printed modules are read back

The declarations of types, the functions that pack and unpack values and the wrappers are read as what
they were printed from, and so is a whole module.  It is enough that names are identifiers, that the
parts which are written as they are stay on their lines, and that no text was precomputed.
-/

namespace ForeignBindings
namespace Glue

/-- Whether a name and the members behind it can be told from the rest of an interface. -/
structure Interface.IsLegible (interface : Interface) : Prop where
  /-- The name is an identifier. -/
  name : Name.isIdentifier interface.name = true
  /-- The types of the members can be told apart. -/
  members : ∀ member ∈ interface.members, member.2.IsLegible

theorem leads_memberTexts (name : String) (before members : List (String × MemberType))
    (legible : ∀ member ∈ members, member.2.IsLegible) :
    Leads (.interface name before) (members.flatMap fun member => (memberText member).toList) []
      (.interface name (before ++ members)) := by
  induction members generalizing before with
  | nil =>
      rw [List.append_nil]
      exact .nil _
  | cons member members induction =>
      obtain ⟨first, others⟩ := List.forall_mem_cons.mp legible
      have rest := induction (before ++ [member]) others
      rw [List.append_assoc, List.singleton_append] at rest
      exact (leads_memberText first name before).append rest

/-- The line that opens an interface or, with both braces, is one. -/
theorem step_interface (exported : Bool) {name : String} (identifier : Name.isIdentifier name)
    (rest : List Char) :
    step .module ((exportText exported).toList ++ ("interface ".toList ++
        (name.toList ++ (" ".toList ++ rest)))) =
      if " ".toList ++ rest = " \x7b\x7d".toList then some ([.interface name []], .module)
      else if " ".toList ++ rest = " \x7b".toList then some ([], .interface name [])
      else none := by
  rw [step_module (isBare_interface _), readDeclaring?_interface identifier]
  exact endsWord_append (by decide) (by decide) rest

/-- The line that opens an interface. -/
def interfaceHead (exported : Bool) (name : String) : List Char :=
  (exportText exported).toList ++ ("interface ".toList ++ (name.toList ++ (" ".toList ++ ['\x7b'])))

section InterfaceHead

variable (exported : Bool) {name : String} (identifier : Name.isIdentifier name)
include identifier

theorem staysOnLine_interfaceHead : Text.StaysOnLine (interfaceHead exported name) := by
  unfold interfaceHead
  simp only [Text.staysOnLine_append]
  exact ⟨staysOnLine_exportText _, by decide, staysOnLine_identifier identifier, by decide⟩

theorem leads_interfaceHead :
    Leads .module (interfaceHead exported name ++ ['\n']) [] (.interface name []) :=
  leads_of_line (staysOnLine_interfaceHead exported identifier)
    (step_interface exported identifier ['\x7b'])

theorem stands_emptyInterface :
    Stands (interfaceHead exported name ++ ['\x7d', '\n', '\n']) [.interface name []] := by
  have stepped : step .module (interfaceHead exported name ++ ['\x7d']) =
      some ([.interface name []], .module) := by
    unfold interfaceHead
    simp only [List.append_assoc, step_interface exported identifier]
    rfl
  refine .ofSingle ?_ (by decide) stepped
  rw [Text.staysOnLine_append]
  exact ⟨staysOnLine_interfaceHead exported identifier, by decide⟩

end InterfaceHead

theorem stands_interfaceText (exported : Bool) {interface : Interface}
    (legible : interface.IsLegible) :
    Stands (interfaceText exported { interface with docs := none }).toList
      [.interface interface.name interface.members] := by
  obtain ⟨name, docs, members⟩ := interface
  have identifier : Name.isIdentifier name = true := legible.name
  rw [interfaceText, docComment_none, String.empty_append]
  split
  case isTrue empty =>
    obtain rfl := List.isEmpty_iff.mp empty
    have printed : (exportText exported ++ "interface " ++ name ++ " \x7b\x7d\n\n").toList =
        interfaceHead exported name ++ ['\x7d', '\n', '\n'] := by
      unfold interfaceHead
      simp only [-String.reduceAppend, String.toList_append, List.append_assoc]
      rfl
    rw [printed]
    exact stands_emptyInterface exported identifier
  case isFalse some =>
    have printed : (exportText exported ++ "interface " ++ name ++ " \x7b\n" ++
        String.join (members.map memberText) ++ "\x7d\n\n").toList =
          interfaceHead exported name ++ ['\n'] ++
            (members.flatMap fun member => (memberText member).toList) ++
              ([] ++ ['\x7d', '\n', '\n']) := by
      unfold interfaceHead
      simp only [-String.reduceAppend, String.toList_append, List.append_assoc, String.toList_join,
        List.flatMap_map]
      rfl
    have body := leads_memberTexts name [] members legible.members
    rw [printed]
    exact .ofLine ((leads_interfaceHead exported identifier).append body) (by decide) (by decide) (by
      rw [step]
      rfl)

theorem stands_oneOf (exported : Bool) {name : String} {alternatives : List String}
    (identifier : Name.isIdentifier name) (some : alternatives ≠ [])
    (identifiers : ∀ alternative ∈ alternatives, Name.isIdentifier alternative) :
    Stands (declarationText exported (.oneOf name none alternatives)).toList
      [.oneOf name alternatives] := by
  have printed : (declarationText exported (.oneOf name none alternatives)).toList =
      (exportText exported).toList ++ ("type ".toList ++ (name.toList ++ (" = ".toList ++
        (joinWith " | " alternatives).toList))) ++ [';', '\n', '\n'] := by
    unfold declarationText
    dsimp only
    rw [docComment_none, String.empty_append]
    simp only [-String.reduceAppend, String.toList_append, List.append_assoc]
    rfl
  have stays : Text.StaysOnLine ((exportText exported).toList ++ ("type ".toList ++
      (name.toList ++ (" = ".toList ++ (joinWith " | " alternatives).toList))) ++ [';']) := by
    simp only [Text.staysOnLine_append]
    exact ⟨⟨staysOnLine_exportText _, by decide, staysOnLine_identifier identifier, by decide,
      staysOnLine_joinWith (by decide) fun alternative inside =>
        staysOnLine_identifier (identifiers alternative inside)⟩, by decide⟩
  have stepped : step .module ((exportText exported).toList ++ ("type ".toList ++
      (name.toList ++ (" = ".toList ++ (joinWith " | " alternatives).toList))) ++ [';']) =
        .some ([.oneOf name alternatives], .module) := by
    simp only [List.append_assoc]
    rw [step_module (isBare_type _), readDeclaring?_oneOf identifier some identifiers]
  rw [printed]
  exact .ofSingle stays (by decide) stepped

theorem leads_setText (access : Access) : Leads .body (setText access).toList [] .body := by
  rw [toList_setText]
  exact leads_indented rfl (staysOnLine_setLine access)

theorem leads_getText (access : Access) : Leads .body (getText access).toList [] .body := by
  rw [toList_getText]
  exact leads_indented rfl (staysOnLine_getLine access)

/-- A line that declares a function leads into its body. -/
theorem leads_function (exported : Bool) {name : String} (identifier : Name.isIdentifier name)
    {line : List Char} (stays : Text.StaysOnLine line) (rest : List Char)
    (printed : line = (exportText exported).toList ++ ("function ".toList ++ (name.toList ++
      ("(".toList ++ rest ++ ['\x7b'])))) :
    Leads .module (line ++ ['\n']) [.value name] .body := by
  have ends : EndsWord ("(".toList ++ rest ++ ['\x7b']) := by
    rw [List.append_assoc]
    exact endsWord_append (by decide) (by decide) _
  obtain ⟨bare, read⟩ := readDeclaring?_value (by decide : "function " ∈ valueKeywords) identifier
    ends (scopeBehind?_brace _)
  refine leads_of_line stays ?_
  rw [printed, step_module bare, read]

theorem isIdentifier_append {start name : String} (first : Name.isIdentifier start)
    (second : Name.isIdentifier name) : Name.isIdentifier (start ++ name) := by
  obtain ⟨-, parts⟩ := isIdentifierPart_of_isIdentifier second
  rw [Name.isIdentifier] at first ⊢
  rw [String.toList_append]
  cases spelled : start.toList with
  | nil => simp [spelled] at first
  | cons letter letters =>
      simp only [spelled, List.cons_append, Bool.and_eq_true, List.all_append] at first ⊢
      exact ⟨first.1, first.2, List.all_eq_true.mpr parts⟩

theorem leads_packHead {typeName : String} (identifier : Name.isIdentifier typeName) :
    Leads .module ((packHead typeName).toList ++ ['\n']) [.value ("__pack_" ++ typeName)] .body := by
  refine leads_function false
    (isIdentifier_append (by decide : Name.isIdentifier "__pack_") identifier)
    (staysOnLine_packHead identifier)
    ("v: ".toList ++ (typeName.toList ++ "): Uint8Array ".toList)) ?_
  unfold packHead exportText
  simp only [-String.reduceAppend, String.toList_append, List.append_assoc, Bool.false_eq_true,
    if_false]
  rfl

theorem leads_unpackHead {typeName : String} (identifier : Name.isIdentifier typeName) :
    Leads .module ((unpackHead typeName).toList ++ ['\n']) [.value ("__unpack_" ++ typeName)]
      .body := by
  refine leads_function false
    (isIdentifier_append (by decide : Name.isIdentifier "__unpack_") identifier)
    (staysOnLine_unpackHead identifier)
    ("buf: Uint8Array): ".toList ++ (typeName.toList ++ " ".toList)) ?_
  unfold unpackHead exportText
  simp only [-String.reduceAppend, String.toList_append, List.append_assoc, Bool.false_eq_true,
    if_false]
  rfl

theorem stands_packText {codec : Codec} (identifier : Name.isIdentifier codec.typeName) :
    Stands (packText codec).toList [.value ("__pack_" ++ codec.typeName)] := by
  let view := if codec.accesses.isEmpty then []
    else "  const view = new DataView(buf.buffer);".toList ++ ['\n']
  have printed : (packText codec).toList =
      (packHead codec.typeName).toList ++ ['\n'] ++ (allocationLine codec.size ++ ['\n'] ++
        (view ++ (codec.accesses.flatMap (fun access => (setText access).toList) ++
          ("  return buf;".toList ++ ['\n'])))) ++ ([] ++ ['\x7d', '\n', '\n']) := by
    rw [toList_packText]
    simp only [view, List.append_assoc, List.cons_append, List.nil_append]
    rfl
  have viewed : Leads .body view [] .body := by
    simp only [view]
    split
    · exact .nil .body
    · exact leads_indented rfl (by decide)
  have allocates : Leads .body (allocationLine codec.size ++ ['\n']) [] .body :=
    leads_indented rfl (staysOnLine_allocationLine _)
  have writes := Leads.flatMap_nothing fun access (_ : access ∈ codec.accesses) =>
    leads_setText access
  have returns : Leads .body ("  return buf;".toList ++ ['\n']) [] .body :=
    leads_indented rfl (by decide)
  rw [printed]
  exact .ofLine ((leads_packHead identifier).append (allocates.append (viewed.append
    (writes.append returns)))) (by decide) (by decide) (by rfl)

theorem stands_unpackText {codec : Codec} (identifier : Name.isIdentifier codec.typeName) :
    Stands (unpackText codec).toList [.value ("__unpack_" ++ codec.typeName)] := by
  have head := leads_unpackHead identifier
  cases empty : codec.accesses.isEmpty with
  | true =>
      have printed : (unpackText codec).toList =
          (unpackHead codec.typeName).toList ++ ['\n'] ++ ("  return \x7b\x7d;".toList ++ ['\n']) ++
            ([] ++ ['\x7d', '\n', '\n']) := by
        rw [toList_unpackText_of_isEmpty empty]
        simp only [List.append_assoc, List.cons_append, List.nil_append]
        rfl
      have returns : Leads .body ("  return \x7b\x7d;".toList ++ ['\n']) [] .body :=
        leads_indented rfl (by decide)
      rw [printed]
      exact .ofLine (head.append returns) (by decide) (by decide) (by rfl)
  | false =>
      have printed : (unpackText codec).toList =
          (unpackHead codec.typeName).toList ++ ['\n'] ++
            ("  const view = new DataView(buf.buffer, buf.byteOffset, buf.byteLength);".toList ++
              ['\n'] ++ ("  return \x7b".toList ++ ['\n'] ++
                (codec.accesses.flatMap (fun access => (getText access).toList) ++
                  ("  \x7d;".toList ++ ['\n'])))) ++ ([] ++ ['\x7d', '\n', '\n']) := by
        rw [toList_unpackText empty]
        simp only [List.append_assoc, List.cons_append, List.nil_append]
        rfl
      have viewed : Leads .body
          ("  const view = new DataView(buf.buffer, buf.byteOffset, buf.byteLength);".toList ++
            ['\n']) [] .body := leads_indented rfl (by decide)
      have opens : Leads .body ("  return \x7b".toList ++ ['\n']) [] .body :=
        leads_indented rfl (by decide)
      have reads := Leads.flatMap_nothing fun access (_ : access ∈ codec.accesses) =>
        leads_getText access
      have closes : Leads .body ("  \x7d;".toList ++ ['\n']) [] .body :=
        leads_indented rfl (by decide)
      rw [printed]
      exact .ofLine (head.append (viewed.append (opens.append (reads.append closes))))
        (by decide) (by decide) (by rfl)

/-- Whether a declaration was rendered and its names are identifiers. -/
def Declaration.IsLegible : Declaration → Prop
  | .verbatim _ _ => False
  | .interface shape => shape.IsLegible
  | .oneOf name _ alternatives =>
      Name.isIdentifier name = true ∧ alternatives ≠ [] ∧
        ∀ alternative ∈ alternatives, Name.isIdentifier alternative = true
  | .codec helpers => Name.isIdentifier helpers.typeName = true

/-- What a declaration stands for at module scope; precomputed text is not looked into. -/
def Declaration.declared : Declaration → List Declared
  | .verbatim _ _ => []
  | .interface shape => [.interface shape.name shape.members]
  | .oneOf name _ alternatives => [.oneOf name alternatives]
  | .codec helpers =>
      [.value ("__pack_" ++ helpers.typeName), .value ("__unpack_" ++ helpers.typeName)]

theorem Declaration.docs_withoutDocs (declaration : Declaration) : declaration.withoutDocs.docs = none := by
  cases declaration <;> rfl

theorem Declaration.declared_withoutDocs (declaration : Declaration) :
    declaration.withoutDocs.declared = declaration.declared := by
  cases declaration <;> rfl

theorem Declaration.IsLegible.withoutDocs {declaration : Declaration}
    (legible : declaration.IsLegible) : declaration.withoutDocs.IsLegible := by
  cases declaration with
  | verbatim docs text => exact legible
  | interface shape => exact ⟨legible.name, legible.members⟩
  | oneOf name docs alternatives => exact legible
  | codec helpers => exact legible

/-- A declaration is read behind its documentation. -/
theorem stands_declarationText (exported : Bool) {declaration : Declaration}
    (legible : declaration.IsLegible) :
    Stands (declarationText exported declaration.withoutDocs).toList declaration.declared := by
  cases declaration with
  | verbatim docs text => exact legible.elim
  | interface shape => exact stands_interfaceText exported legible
  | oneOf name docs alternatives =>
      obtain ⟨identifier, some, identifiers⟩ := legible
      exact stands_oneOf exported identifier some identifiers
  | codec helpers =>
      rw [Declaration.withoutDocs, declarationText, String.toList_append]
      exact .append_left (stands_packText legible).leads (stands_unpackText legible)

/-- Whether the name of a wrapper is an identifier and its parts stay on their lines. -/
structure Wrapper.IsLegible (wrapper : Wrapper) : Prop where
  /-- The name is an identifier. -/
  name : Name.isIdentifier wrapper.name = true
  /-- Parameters and their types do not break the first line. -/
  params : ∀ param ∈ wrapper.params,
    Text.StaysOnLine param.1.toList ∧ Text.StaysOnLine param.2.spelling.toList
  /-- Nor does the type of the result. -/
  annotation : Text.StaysOnLine wrapper.annotation.spelling.toList
  /-- Every constant is defined on a line. -/
  setup : ∀ constant ∈ wrapper.setup,
    Text.StaysOnLine constant.1.toList ∧ Text.StaysOnLine constant.2.spelling.toList
  /-- The native result has a name on one line. -/
  rawResult : Text.StaysOnLine wrapper.rawResult.toList
  /-- The native call is a line. -/
  arguments : ∀ argument ∈ wrapper.arguments, Text.StaysOnLine argument.spelling.toList
  /-- The value is returned on a line. -/
  returned : Text.StaysOnLine wrapper.returned.spelling.toList

/-- The line that opens a wrapper. -/
def Wrapper.headLine (exported : Bool) (wrapper : Wrapper) : String :=
  exportText exported ++ "function " ++ wrapper.name ++ "(" ++
    joinWith ", " (wrapper.params.map fun param => param.1 ++ ": " ++ param.2.spelling) ++
    "): " ++ wrapper.annotation.spelling ++ " \x7b"

/-- The line that defines a constant. -/
def constantLine (constant : String × Expr) : String :=
  "  const " ++ constant.1 ++ " = " ++ constant.2.spelling ++ ";"

/-- The line of the native call. -/
def Wrapper.callLine (wrapper : Wrapper) : String :=
  "  const " ++ wrapper.rawResult ++ " = _lib.symbols" ++ memberAccess wrapper.name ++ "(" ++
    joinWith ", " (wrapper.arguments.map Expr.spelling) ++ ");"

/-- The line that returns a value. -/
def returnLine (value : Expr) : String :=
  "  return " ++ value.spelling ++ ";"

/-- A wrapper is printed line by line behind its documentation. -/
theorem toList_wrapperText (exported : Bool) (wrapper : Wrapper) :
    (wrapperText exported wrapper).toList = (docComment wrapper.docs).toList ++
      ((wrapper.headLine exported).toList ++ '\n' ::
        (wrapper.setup.flatMap (fun constant => (constantLine constant).toList ++ ['\n']) ++
          (wrapper.callLine.toList ++ '\n' :: ((returnLine wrapper.returned).toList ++ '\n' ::
            ['\x7d', '\n', '\n'])))) := by
  unfold wrapperText constantText returnText Wrapper.headLine Wrapper.callLine returnLine constantLine
  simp only [-String.reduceAppend, String.toList_append, List.append_assoc, String.toList_join,
    List.flatMap_map]
  rfl

section Wrappers

variable {wrapper : Wrapper}

theorem staysOnLine_headLine (legible : wrapper.IsLegible) (exported : Bool) :
    Text.StaysOnLine (wrapper.headLine exported).toList := by
  unfold Wrapper.headLine
  simp only [String.toList_append, Text.staysOnLine_append]
  refine ⟨⟨⟨⟨⟨⟨⟨staysOnLine_exportText _, by decide⟩, staysOnLine_identifier legible.name⟩,
    by decide⟩, staysOnLine_joinWith (by decide) ?_⟩, by decide⟩, legible.annotation⟩, by decide⟩
  intro text inside
  obtain ⟨param, held, rfl⟩ := List.mem_map.mp inside
  simp only [String.toList_append, Text.staysOnLine_append]
  exact ⟨⟨(legible.params param held).1, by decide⟩, (legible.params param held).2⟩

theorem staysOnLine_constantLine (legible : wrapper.IsLegible) {constant : String × Expr}
    (inside : constant ∈ wrapper.setup) : Text.StaysOnLine (constantLine constant).toList := by
  obtain ⟨name, value⟩ := legible.setup constant inside
  unfold constantLine
  simp only [String.toList_append, Text.staysOnLine_append]
  exact ⟨⟨⟨⟨by decide, name⟩, by decide⟩, value⟩, by decide⟩

theorem staysOnLine_callLine (legible : wrapper.IsLegible) :
    Text.StaysOnLine wrapper.callLine.toList := by
  unfold Wrapper.callLine
  simp only [String.toList_append, Text.staysOnLine_append]
  refine ⟨⟨⟨⟨⟨⟨by decide, legible.rawResult⟩, by decide⟩, staysOnLine_memberAccess _⟩,
    by decide⟩, staysOnLine_joinWith (by decide) ?_⟩, by decide⟩
  intro text inside
  obtain ⟨argument, held, rfl⟩ := List.mem_map.mp inside
  exact legible.arguments argument held

theorem staysOnLine_returnLine (legible : wrapper.IsLegible) :
    Text.StaysOnLine (returnLine wrapper.returned).toList := by
  unfold returnLine
  simp only [String.toList_append, Text.staysOnLine_append]
  exact ⟨⟨by decide, legible.returned⟩, by decide⟩

theorem leads_constantLine (legible : wrapper.IsLegible) {constant : String × Expr}
    (inside : constant ∈ wrapper.setup) :
    Leads .body ((constantLine constant).toList ++ ['\n']) [] .body := by
  refine leads_indented ?_ (staysOnLine_constantLine legible inside)
  unfold constantLine
  simp only [String.toList_append, List.append_assoc]
  rfl

theorem leads_callLine (legible : wrapper.IsLegible) :
    Leads .body (wrapper.callLine.toList ++ ['\n']) [] .body := by
  refine leads_indented ?_ (staysOnLine_callLine legible)
  unfold Wrapper.callLine
  simp only [String.toList_append, List.append_assoc]
  rfl

theorem leads_returnLine (legible : wrapper.IsLegible) :
    Leads .body ((returnLine wrapper.returned).toList ++ ['\n']) [] .body := by
  refine leads_indented ?_ (staysOnLine_returnLine legible)
  unfold returnLine
  simp only [String.toList_append, List.append_assoc]
  rfl

theorem leads_headLine (legible : wrapper.IsLegible) (exported : Bool) :
    Leads .module ((wrapper.headLine exported).toList ++ ['\n']) [.value wrapper.name] .body := by
  let params := joinWith ", " (wrapper.params.map fun param => param.1 ++ ": " ++ param.2.spelling)
  refine leads_function exported legible.name (staysOnLine_headLine legible exported)
    (params.toList ++ ("): ".toList ++ (wrapper.annotation.spelling.toList ++ " ".toList))) ?_
  unfold Wrapper.headLine
  simp only [params, String.toList_append, List.append_assoc]
  rfl

theorem Wrapper.IsLegible.withoutDocs (legible : wrapper.IsLegible) :
    wrapper.withoutDocs.IsLegible :=
  ⟨legible.name, legible.params, legible.annotation, legible.setup, legible.rawResult,
    legible.arguments, legible.returned⟩

/-- A wrapper is read behind its documentation. -/
theorem stands_wrapperText (exported : Bool) (legible : wrapper.IsLegible) :
    Stands (wrapperText exported wrapper.withoutDocs).toList [.value wrapper.name] := by
  have printed : (wrapperText exported wrapper.withoutDocs).toList =
      (wrapper.headLine exported).toList ++ ['\n'] ++
        (wrapper.setup.flatMap (fun constant => (constantLine constant).toList ++ ['\n']) ++
          (wrapper.callLine.toList ++ ['\n'] ++ ((returnLine wrapper.returned).toList ++ ['\n']))) ++
        ([] ++ ['\x7d', '\n', '\n']) := by
    rw [toList_wrapperText]
    simp only [List.append_assoc, List.cons_append, List.nil_append]
    rfl
  have setup := Leads.flatMap_nothing fun constant (inside : constant ∈ wrapper.setup) =>
    leads_constantLine legible inside
  have body := setup.append ((leads_callLine legible).append (leads_returnLine legible))
  rw [printed]
  exact .ofLine ((leads_headLine legible exported).append body) (by decide) (by decide) (by rfl)

end Wrappers

/-- Whether every line of a text is empty or a remark. -/
def IsRemark (text : String) : Prop :=
  ∃ lines : List String, text = joinWith "\n" lines ∧
    ∀ line ∈ lines, Text.StaysOnLine line.toList ∧ (line = "" ∨ "//".toList <+: line.toList)

/-- Remarks declare nothing. -/
theorem leads_of_isRemark {text : String} (remark : IsRemark text) :
    Leads .module (text.toList ++ ['\n']) [] .module := by
  obtain ⟨lines, rfl, remarks⟩ := remark
  have idle {line : String} (empty : line = "" ∨ "//".toList <+: line.toList) :
      step .module line.toList = some ([], .module) := by
    obtain rfl | ⟨rest, spelled⟩ := empty
    · rfl
    · rw [← spelled]
      rfl
  induction lines with
  | nil => exact leads_lineFeed
  | cons line lines induction =>
      obtain ⟨⟨stays, empty⟩, others⟩ := List.forall_mem_cons.mp remarks
      cases lines with
      | nil =>
          rw [joinWith_singleton]
          exact leads_of_line stays (idle empty)
      | cons next lines =>
          have first := leads_of_line stays (idle empty)
          have both := first.append (induction others)
          rw [joinWith_cons_cons]
          simpa using both

/-- Whether every part of a module can be told from the others. -/
structure Module.IsLegible (glue : Module) : Prop where
  /-- The first lines are remarks. -/
  banner : IsRemark glue.banner
  /-- The keys of the platforms stay on their lines. -/
  library : LocatedLibrary.StaysOnLine glue.library
  /-- Every declaration was rendered from identifiers. -/
  declarations : ∀ declaration ∈ glue.declarations, declaration.IsLegible
  /-- Every wrapper is named by an identifier. -/
  wrappers : ∀ wrapper ∈ glue.wrappers, wrapper.IsLegible

/-- The names that a module declares or imports for itself. -/
def Module.ownBindings (glue : Module) : List String :=
  ["CachePolicy", "prepare"] ++ glue.helpers.bindings ++ ["url", "uri", "opts", "symbols"] ++
    handleBindings glue.lazyInit

/-- What a module declares, in order. -/
def Module.declared (glue : Module) : List Declared :=
  glue.ownBindings.map .value ++ glue.declarations.flatMap Declaration.declared ++
    glue.wrappers.map fun wrapper => .value wrapper.name

/-- The documentation texts of a module. -/
def Module.docTexts (glue : Module) : List (Option String) :=
  glue.declarations.map Declaration.docs ++ glue.wrappers.map Wrapper.docs

/-- What a module declares, in order, with what the code within its documentation declares. -/
def Module.declaredWith (glue : Module) (read : Option String → List Declared) : List Declared :=
  glue.ownBindings.map .value ++
    glue.declarations.flatMap (fun declaration => read declaration.docs ++ declaration.declared) ++
      glue.wrappers.flatMap fun wrapper => read wrapper.docs ++ [.value wrapper.name]

theorem declaredWith_nothing (glue : Module) : glue.declaredWith (fun _ => []) = glue.declared := by
  simp only [Module.declaredWith, Module.declared, List.nil_append, List.map_eq_flatMap]

section Documented

variable {read : Option String → List Declared}

/-- What the code within its documentation declares comes before what a declaration declares. -/
theorem Declaration.IsLegible.stands {declaration : Declaration} (legible : declaration.IsLegible)
    (docs : Leads .module (docComment declaration.docs).toList (read declaration.docs) .module)
    (exported : Bool) :
    Stands (declarationText exported declaration).toList
      (read declaration.docs ++ declaration.declared) := by
  rw [declarationText_eq, String.toList_append]
  exact .append_left docs (stands_declarationText exported legible)

theorem Wrapper.IsLegible.stands {wrapper : Wrapper} (legible : wrapper.IsLegible)
    (docs : Leads .module (docComment wrapper.docs).toList (read wrapper.docs) .module)
    (exported : Bool) :
    Stands (wrapperText exported wrapper).toList (read wrapper.docs ++ [.value wrapper.name]) := by
  rw [wrapperText_eq, String.toList_append]
  exact .append_left docs (stands_wrapperText exported legible)

/-- The parts of a module, up to the symbol table and from the handle on. -/
theorem toList_parts (glue : Module) :
    (String.join glue.parts).toList =
      (glue.banner.toList ++ ['\n'] ++ ['\n'] ++ (importText glue.loaderUrl).toList ++
        (glue.helpers.sources.flatMap fun source => (source ++ "\n").toList) ++
          ((libraryText glue.package glue.library).toList ++ (symbolsText glue.symbols).toList)) ++
        ((handleText glue.exported glue.lazyInit).toList ++
          (glue.declarations.flatMap fun declaration =>
            (declarationText glue.exported declaration).toList) ++
          glue.wrappers.flatMap fun wrapper => (wrapperText glue.exported wrapper).toList) := by
  rw [String.toList_join, Module.parts]
  simp only [List.flatMap_append, List.flatMap_cons, List.flatMap_nil, List.flatMap_map,
    List.append_assoc, List.append_nil]
  rfl

theorem stands_parts {glue : Module} (legible : glue.IsLegible)
    (docs : ∀ text ∈ glue.docTexts, Leads .module (docComment text).toList (read text) .module) :
    Stands (String.join glue.parts).toList (glue.declaredWith read) := by
  rw [Module.docTexts, List.forall_mem_append, List.forall_mem_map, List.forall_mem_map] at docs
  have banner : Leads .module (glue.banner.toList ++ ['\n'] ++ ['\n']) [] .module :=
    (leads_of_isRemark legible.banner).append leads_lineFeed
  have head := ((banner.append (stands_importText glue.loaderUrl).leads).append
    (leads_helpers glue.helpers)).append ((stands_libraryText glue.package legible.library).leads.append
      (stands_symbolsText glue.symbols).leads)
  have tail := ((stands_handleText glue.exported glue.lazyInit).append_flatMap
    fun item inside => (legible.declarations item inside).stands (docs.1 item inside) glue.exported)
    |>.append_flatMap fun item inside =>
      (legible.wrappers item inside).stands (docs.2 item inside) glue.exported
  have found : glue.declaredWith read = [] ++ [.value "CachePolicy", .value "prepare"] ++
      glue.helpers.bindings.map .value ++ ([.value "url", .value "uri", .value "opts"] ++
        [.value "symbols"]) ++ ((handleBindings glue.lazyInit).map .value ++
          glue.declarations.flatMap (fun item => read item.docs ++ item.declared) ++
          glue.wrappers.flatMap fun item => read item.docs ++ [.value item.name]) := by
    simp [Module.declaredWith, Module.ownBindings]
  rw [toList_parts, found]
  exact .append_left head tail

end Documented

/-- The text of a legible module is read as what the module declares. -/
theorem declared?_text {glue : Module} (legible : glue.IsLegible)
    (docs : ∀ text ∈ glue.docTexts, StaysInComment text) :
    declared? glue.text = some glue.declared := by
  have nothing : Stands (String.join glue.parts).toList (glue.declaredWith fun _ => []) :=
    stands_parts legible fun text inside => leads_docComment (docs text inside)
  rw [declaredWith_nothing] at nothing
  exact nothing.declared?_endWithLineFeed

/-- A module without its documentation. -/
def Module.withoutDocs (glue : Module) : Module :=
  { glue with
    declarations := glue.declarations.map Declaration.withoutDocs
    wrappers := glue.wrappers.map Wrapper.withoutDocs }

/-- Without its documentation, the text of a legible module is read as what the module declares,
whatever the documentation holds. -/
theorem declared?_text_withoutDocs {glue : Module} (legible : glue.IsLegible) :
    declared? glue.withoutDocs.text = some glue.declared := by
  have undocumented : glue.withoutDocs.IsLegible :=
    { banner := legible.banner
      library := legible.library
      declarations := List.forall_mem_map.mpr fun declaration inside =>
        (legible.declarations declaration inside).withoutDocs
      wrappers := List.forall_mem_map.mpr fun wrapper inside =>
        (legible.wrappers wrapper inside).withoutDocs }
  have docs : ∀ text ∈ glue.withoutDocs.docTexts, StaysInComment text := by
    rw [Module.docTexts, List.forall_mem_append]
    refine ⟨?_, ?_⟩
    · rw [List.forall_mem_map]
      refine List.forall_mem_map.mpr fun declaration _ => ?_
      rw [Declaration.docs_withoutDocs]
      exact staysInComment_none
    · exact List.forall_mem_map.mpr (List.forall_mem_map.mpr fun _ _ => staysInComment_none)
  have same : glue.withoutDocs.declared = glue.declared := by
    simp only [Module.declared, Module.ownBindings, Module.withoutDocs, List.flatMap_map,
      List.map_map, Declaration.declared_withoutDocs]
    rfl
  rw [declared?_text undocumented docs, same]

end Glue
end ForeignBindings
