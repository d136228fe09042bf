import ForeignBindings.Proofs.Glue.CallPlans
import ForeignBindings.Proofs.Glue.PackedHelpers
import ForeignBindings.Proofs.Text.ObjectLiteral
import Mathlib.Algebra.Order.BigOperators.Group.List

/-!
# Members of emitted literals

The symbol table and the object that a function that unpacks returns are object initializers with
one definition for each function or field.  Each definition creates a member of that very name,
unless the name is `__proto__`, which sets the prototype of the object, or its quoted key is
malformed.
-/

namespace ForeignBindings
namespace Glue

open Text ObjectLiteral

theorem not_hasNullBeforeDigit_of_isIdentifier {name : String}
    (identifier : Name.isIdentifier name) :
    ¬ StringLiteral.HasNullBeforeDigit name.toList := by
  rintro ⟨digit, -, inside⟩
  have part := (isIdentifierPart_of_isIdentifier identifier).2 '\x00'
    (inside.subset List.mem_cons_self)
  cases part.symm.trans (show Name.isIdentifierPart '\x00' = false by decide)

/-- The key that a name is written as is read as the name. -/
theorem key?_propertyKey (wide : WideLetters) (name : String) (rest : List Char) :
    key? wide ((Name.propertyKey name).toList ++ ':' :: rest) =
      (quotedUnits? name).map (·, ':' :: rest) := by
  rw [Name.propertyKey, quotedUnits?]
  split
  case isTrue identifier =>
    rw [if_neg (not_hasNullBeforeDigit_of_isIdentifier identifier),
      key?_of_isIdentifierName (isIdentifierName_of_isIdentifier identifier wide)
        (rfl : wide.follows ':' = false), Option.map_some]
  case isFalse =>
    rw [toList_quote_append, key?]
    split
    case isTrue null => rw [StringLiteral.body?_of_hasNullBeforeDigit null, Option.map_none]
    case isFalse apart =>
      rw [StringLiteral.body?_of_not_hasNullBeforeDigit apart, Option.map_some, nameUnits]

/-- A key starts with a quote or with a letter of an identifier. -/
theorem starts_propertyKey (name : String) :
    ∃ first others, (Name.propertyKey name).toList = first :: others ∧
      isSpace first = false ∧ first ≠ '\x7d' := by
  rw [Name.propertyKey]
  split
  case isTrue identifier =>
    exact starts_of_isIdentifierName
      (isIdentifierName_of_isIdentifier identifier ⟨fun _ => false, fun _ => false⟩)
  case isFalse =>
    have quoted := toList_quote_append name []
    rw [List.append_nil] at quoted
    exact ⟨'"', _, quoted, rfl, by decide⟩

/-- A value that is passed over ends at the comma behind it. -/
theorem anyValue?_append {value : List Char} (skips : Skips [] value []) (rest : List Char) :
    anyValue? (value ++ ',' :: rest) = (some ()).map (·, ',' :: rest) := by
  rw [anyValue?, skips, behindValue?_comma]
  rfl

/-- The definition of a name. -/
def definition (name : String) (value : List Char) : List Char :=
  (Name.propertyKey name).toList ++ ':' :: value

section Definitions

variable (wide : WideLetters) {α : Type} {items : List α} (name : α → String)
  {value : α → List Char} {indent closing : List Char}

/-- An object initializer with one definition on each line is read as the names of these. -/
theorem entries?_definitions (skips : ∀ item ∈ items, Skips [] (value item) [])
    (indents : ∀ letter ∈ indent, isSpace letter = true)
    (closes : ∀ letter ∈ closing, isSpace letter = true) (rest : List Char) :
    entries? wide anyValue? ('\x7b' :: '\n' :: (items.flatMap
      (fun item => entryLine indent (definition (name item) (value item))) ++
        (closing ++ '\x7d' :: rest))) =
      ((items.map name).mapM quotedUnits?).map fun keys => (keys.map (·, ()), rest) := by
  have each (item : α) (inside : item ∈ items) : IsEntry wide anyValue?
      (definition (name item) (value item)) ((quotedUnits? (name item)).map (·, ())) := by
    have same : ((quotedUnits? (name item)).bind fun units => (some ()).map (units, ·)) =
        (quotedUnits? (name item)).map (·, ()) := by
      cases quotedUnits? (name item) <;> rfl
    have isEntry := isEntry_of_key? (starts_propertyKey (name item))
      (key?_propertyKey wide (name item)) (anyValue?_append (skips item inside))
    rwa [same] at isEntry
  have keys : (items.mapM fun item => (quotedUnits? (name item)).map (·, ())) =
      ((items.map name).mapM quotedUnits?).map fun keys => keys.map (·, ()) := by
    induction items with
    | nil => rfl
    | cons item items induction =>
        have later := induction (fun item inside => skips item (List.mem_cons_of_mem _ inside))
          fun item inside => each item (List.mem_cons_of_mem _ inside)
        rw [List.mapM_cons, later, List.map_cons, List.mapM_cons]
        cases quotedUnits? (name item) with
        | none => rfl
        | some units => cases (items.map name).mapM quotedUnits? <;> rfl
  rw [entries?_entryLines each indents closes, keys, Option.map_map]
  rfl

end Definitions

theorem skips_joinWith {separator : String} {closers : List Char} {texts : List String}
    (separates : Skips closers separator.toList closers)
    (skip : ∀ text ∈ texts, Skips closers text.toList closers) :
    Skips closers (joinWith separator texts).toList closers := by
  induction texts with
  | nil => exact fun rest => rfl
  | cons first texts induction =>
      obtain ⟨first_skips, others⟩ := List.forall_mem_cons.mp skip
      cases texts with
      | nil =>
          rw [joinWith_singleton]
          exact first_skips
      | cons second texts =>
          rw [joinWith_cons_cons]
          exact first_skips.append (separates.append (induction others))

/-- The value of a row of the symbol table. -/
def rowValue (entry : SymbolEntry) : String :=
  " \x7b parameters: [" ++ joinWith ", " (entry.parameters.map quote) ++ "], result: " ++
    quote entry.result ++ ", nonblocking: " ++ (if entry.nonBlocking then "true" else "false") ++
    " \x7d"

theorem symbolText_eq_definition (entry : SymbolEntry) :
    (symbolText entry).toList =
      entryLine "  ".toList (definition entry.name (rowValue entry).toList) := by
  unfold symbolText rowValue definition entryLine
  simp only [-String.reduceAppend, String.toList_append, List.append_assoc, List.cons_append]
  rfl

/-- The text behind which the symbol table stands as an object initializer. -/
def symbolsStart : String :=
  "const symbols = "

theorem symbolsText_eq_definitions {symbols : List SymbolEntry} (some : symbols ≠ []) :
    (symbolsText symbols).toList = symbolsStart.toList ++ '\x7b' :: '\n' ::
      (symbols.flatMap
        (fun entry => entryLine "  ".toList (definition entry.name (rowValue entry).toList)) ++
        ([] ++ '\x7d' :: " as const;\n\n".toList)) := by
  rw [toList_symbolsText some]
  simp only [symbolText_eq_definition]
  rfl

theorem skips_rowValue {entry : SymbolEntry}
    (tokens : ∀ token ∈ entry.result :: entry.parameters,
      ¬ StringLiteral.HasNullBeforeDigit token.toList) :
    Skips [] (rowValue entry).toList [] := by
  obtain ⟨result, parameters⟩ := List.forall_mem_cons.mp tokens
  have opens : Skips [] " \x7b parameters: [".toList [']', '\x7d'] := skips_of_passes? (by decide)
  have closes : Skips [']', '\x7d'] "], result: ".toList ['\x7d'] := skips_of_passes? (by decide)
  have flagged : Skips ['\x7d'] ", nonblocking: ".toList ['\x7d'] := skips_of_passes? (by decide)
  have flag : Skips ['\x7d'] (if entry.nonBlocking then "true" else "false").toList ['\x7d'] := by
    cases entry.nonBlocking <;> exact skips_of_passes? (by decide)
  have last : Skips ['\x7d'] " \x7d".toList [] := skips_of_passes? (by decide)
  have items : Skips [']', '\x7d'] (joinWith ", " (entry.parameters.map quote)).toList
      [']', '\x7d'] := by
    refine skips_joinWith (skips_of_passes? (by decide)) fun text inside => ?_
    obtain ⟨token, held, rfl⟩ := List.mem_map.mp inside
    exact skips_quote (parameters token held) _
  unfold rowValue
  simp only [-String.reduceAppend, String.toList_append]
  exact (((((opens.append items).append closes).append (skips_quote result _)).append
    flagged).append flag).append last

/-- The symbol table defines the names of its rows. -/
theorem exists_defines_symbolsText (wide : WideLetters) {symbols : List SymbolEntry}
    (distinct : (symbols.map SymbolEntry.name).Nodup)
    (tokens : ∀ entry ∈ symbols, ∀ token ∈ entry.result :: entry.parameters,
      ¬ StringLiteral.HasNullBeforeDigit token.toList) :
    ∃ literal, behind? symbolsStart (symbolsText symbols).toList = some literal ∧
      Defines wide literal (symbols.map SymbolEntry.name) := by
  have indents : ∀ letter ∈ "  ".toList, isSpace letter = true :=
    List.all_eq_true.mp (by decide)
  by_cases empty : symbols = []
  · subst empty
    exact ⟨"\x7b\x7d as const;\n\n".toList, by decide +kernel, defines_of_entries? distinct rfl⟩
  · rw [symbolsText_eq_definitions empty]
    exact ⟨_, behind?_append _ _, defines_of_entries? distinct
      (entries?_definitions wide SymbolEntry.name (fun entry inside => skips_rowValue (tokens entry inside))
        indents (List.forall_mem_nil _) _)⟩

theorem not_hasNullBeforeDigit_token (kind : NativeKind) :
    ∀ token ∈ kind.resultToken :: kind.paramTokens,
      ¬ StringLiteral.HasNullBeforeDigit token.toList := by
  cases kind with
  | scalar primitive => cases primitive <;> decide
  | buffer => decide

theorem Plans.not_hasNullBeforeDigit {module : BindingModule} {signature : Signature} {plan : Plan}
    (plans : Plans module signature plan) :
    ∀ token ∈ plan.symbol.result :: plan.symbol.parameters,
      ¬ StringLiteral.HasNullBeforeDigit token.toList := by
  refine List.forall_mem_cons.mpr ⟨?_, fun token inside => ?_⟩
  · have result : plan.symbol.result = (nativeKind signature.result).resultToken :=
      plans.result.native
    rw [result]
    exact not_hasNullBeforeDigit_token _ _ List.mem_cons_self
  · obtain ⟨param, held, inside⟩ := List.mem_flatMap.mp inside
    obtain ⟨entry, -, asked⟩ := exists_item_of_forall₂ plans.params held
    rw [asked.native] at inside
    exact not_hasNullBeforeDigit_token _ _ (List.mem_cons_of_mem _ inside)

/-! ## Unpacked objects -/

/-- What follows the `return` at the start of the body of a function. -/
def returned? : List Char → Option (List Char)
  | [] => none
  | letter :: rest => (behind? "\n  return " (letter :: rest)).or (returned? rest)

theorem returned?_line {line : List Char} (stays : StaysOnLine line) (rest : List Char) :
    returned? (line ++ '\n' :: rest) = returned? ('\n' :: rest) := by
  induction line with
  | nil => rfl
  | cons letter line induction =>
      obtain ⟨⟨notFeed, -⟩, stays⟩ := List.forall_mem_cons.mp stays
      have other : ('\n' == letter) = false := beq_false_of_ne notFeed.symm
      have spelled : "\n  return ".toList = '\n' :: "  return ".toList := rfl
      rw [List.cons_append, returned?, induction stays, behind?, spelled, List.isPrefixOf?, other]
      rfl

/-- The value of a member that reads a field. -/
def getValue (access : Access) : String :=
  " view.get" ++ access.method.spelling ++ "(" ++ toString access.offset ++
    endianText access.littleEndian ++ ")"

theorem getText_eq_definition (access : Access) :
    (getText access).toList =
      entryLine "    ".toList (definition access.field (getValue access).toList) := by
  unfold getText getValue definition entryLine
  simp only [-String.reduceAppend, String.toList_append, List.append_assoc, List.cons_append]
  rfl

theorem within?_of_isDigit {letter : Char} (digit : letter.isDigit = true) :
    within? [')'] letter = some [')'] := by
  have other : ([')'] : List Char).head? ≠ some letter := by
    rintro ⟨⟩
    cases digit
  have single : closer? letter = none := by
    unfold closer?
    split
    case h_4 => rfl
    all_goals cases digit
  have allowed : ¬ isRefused letter = true := by
    intro refused
    simp only [isRefused, List.contains_iff_mem, List.mem_cons, List.not_mem_nil, or_false]
      at refused
    obtain rfl | rfl | rfl | rfl | rfl | rfl | rfl := refused <;> cases digit
  rw [within?, if_neg other, single]
  exact if_neg allowed

theorem skips_digits (number : Nat) : Skips [')'] (toString number).toList [')'] := by
  have digits : (toString number).toList = Nat.toDigits 10 number := Nat.toList_repr
  rw [digits]
  refine skips_of_passes? (passes?_of_forall fun digit inside => ?_)
  have isDigit := Nat.isDigit_of_mem_toDigits (by decide) (by decide) inside
  refine ⟨?_, rfl, within?_of_isDigit isDigit⟩
  rintro rfl
  cases isDigit

theorem skips_getValue (access : Access) : Skips [] (getValue access).toList [] := by
  have opens : Skips [] " view.get".toList [] := skips_of_passes? (by decide)
  have method : Skips [] access.method.spelling.toList [] := by
    cases access.method <;> exact skips_of_passes? (by decide)
  have bracket : Skips [] "(".toList [')'] := skips_of_passes? (by decide)
  have endian : Skips [')'] (endianText access.littleEndian).toList [')'] := by
    rcases access.littleEndian with _ | _ | _ <;> exact skips_of_passes? (by decide)
  have last : Skips [')'] ")".toList [] := skips_of_passes? (by decide)
  unfold getValue
  simp only [-String.reduceAppend, String.toList_append]
  exact ((((opens.append method).append bracket).append (skips_digits _)).append endian).append last

theorem returned?_unpackText {codec : Codec} (identifier : Name.isIdentifier codec.typeName)
    (fields : codec.accesses.isEmpty = false) :
    returned? (unpackText codec).toList =
      some ('\x7b' :: '\n' :: (codec.accesses.flatMap
        (fun access => entryLine "    ".toList (definition access.field (getValue access).toList)) ++
          ("  ".toList ++ '\x7d' :: ";\n\x7d\n\n".toList))) := by
  have view : StaysOnLine
      "  const view = new DataView(buf.buffer, buf.byteOffset, buf.byteLength);".toList := by
    decide
  have other (rest : List Char) : behind? "\n  return " ('\n' ::
      ("  const view = new DataView(buf.buffer, buf.byteOffset, buf.byteLength);".toList ++ rest)) =
        none := rfl
  have found (rest : List Char) : behind? "\n  return " ('\n' :: ("  return \x7b".toList ++ rest)) =
      some ('\x7b' :: rest) := rfl
  have closing : "  \x7d;".toList ++ '\n' :: "\x7d\n\n".toList =
      "  ".toList ++ '\x7d' :: ";\n\x7d\n\n".toList := rfl
  rw [toList_unpackText fields, returned?_line (staysOnLine_unpackHead identifier), returned?,
    other, Option.none_or, returned?_line view, returned?, found, Option.some_or, closing]
  simp only [getText_eq_definition]

/-- The object that a function that unpacks returns defines the names of the fields. -/
theorem exists_defines_unpackText (wide : WideLetters) {typeName : String} (identifier : Name.isIdentifier typeName)
    (order : ByteOrder) {layout : Layout} (distinct : (layout.slots.map FieldSlot.name).Nodup) :
    ∃ literal, returned? (unpackText (codecOf order typeName layout)).toList = some literal ∧
      Defines wide literal (layout.slots.map FieldSlot.name) := by
  cases empty : layout.slots.isEmpty with
  | true =>
      rw [List.isEmpty_iff.mp empty] at distinct ⊢
      rw [toList_unpackText_of_isEmpty (isEmpty_accesses_codecOf.trans empty), codecOf,
        returned?_line (staysOnLine_unpackHead identifier)]
      exact ⟨"\x7b\x7d;\n\x7d\n\n".toList, rfl, defines_of_entries? distinct rfl⟩
  | false =>
      have indents : ∀ letter ∈ "    ".toList, isSpace letter = true :=
        List.all_eq_true.mp (by decide)
      have closes : ∀ letter ∈ "  ".toList, isSpace letter = true :=
        List.all_eq_true.mp (by decide)
      have names : (layout.slots.map (slotAccess order)).map Access.field =
          layout.slots.map FieldSlot.name := List.map_map
      have read := entries?_definitions wide Access.field
        (fun access (_ : access ∈ (codecOf order typeName layout).accesses) =>
          skips_getValue access) indents closes ";\n\x7d\n\n".toList
      rw [codecOf, names] at read
      exact ⟨_, returned?_unpackText identifier (isEmpty_accesses_codecOf.trans empty),
        defines_of_entries? distinct read⟩

variable {draft : ModuleDraft} {module : BindingModule} {config : Config} {glue : Module}

theorem not_hasNullBeforeDigit_signature (built : draft.build = .ok module) :
    ∀ name ∈ module.signatures.map Signature.name,
      ¬ StringLiteral.HasNullBeforeDigit name.toList := by
  obtain ⟨wellFormed, normalizes⟩ := ModuleDraft.build_eq_ok_iff.mp built
  intro name inside
  obtain ⟨signature, held, rfl⟩ := List.mem_map.mp inside
  exact not_hasNullBeforeDigit_of_isIdentifier
    (wellFormed.functions signature (normalizes.signatures_perm.mem_iff.mp held)).1

/-- The symbol table of an emitted module defines the names of the functions, and none of them makes
it malformed. -/
theorem exists_defines_symbols (built : draft.build = .ok module)
    (emitted : emit module config = .ok glue) (wide : WideLetters) :
    ∃ literal, behind? symbolsStart (symbolsText glue.symbols).toList = some literal ∧
      Defines wide literal (module.signatures.map Signature.name) ∧
      members? wide literal = some
        (((module.signatures.map Signature.name).filter (· ≠ "__proto__")).map nameUnits) := by
  have apart := not_hasNullBeforeDigit_signature built
  obtain ⟨-, normalizes⟩ := ModuleDraft.build_eq_ok_iff.mp built
  obtain ⟨plans, planned, -, symbols, -⟩ := exists_plans_of_emit built emitted
  have names : glue.symbols.map SymbolEntry.name = module.signatures.map Signature.name := by
    rw [symbols, List.map_map]
    exact map_eq_of_forall₂ (fun signature plan asked => congrArg Signature.name asked.planned)
      planned
  have distinct : (module.signatures.map Signature.name).Nodup :=
    normalizes.signatures_ordered.imp String.ne_of_lt
  rw [← names] at distinct apart ⊢
  have tokens : ∀ entry ∈ glue.symbols, ∀ token ∈ entry.result :: entry.parameters,
      ¬ StringLiteral.HasNullBeforeDigit token.toList := by
    intro entry inside
    obtain ⟨plan, held, rfl⟩ := List.mem_map.mp (symbols ▸ inside)
    obtain ⟨signature, -, asked⟩ := exists_item_of_forall₂ planned held
    exact asked.not_hasNullBeforeDigit
  obtain ⟨literal, read, defines⟩ := exists_defines_symbolsText wide distinct tokens
  obtain ⟨members, created⟩ : ∃ members, members? wide literal = some members := by
    refine Option.ne_none_iff_exists'.mp fun none => ?_
    obtain ⟨name, inside, null⟩ := defines.malformed.mp none
    exact apart name inside null
  exact ⟨literal, read, defines, created.trans (congrArg some (defines.creates members created))⟩

/-- In every emitted module, the object initializer of the symbol table creates one member for each
function exactly if no function is named `__proto__`, and that of a function that unpacks one for
each field exactly if, besides, no name of a field has a null character before a digit.  Only
`__proto__` is left out, and such other names make the literal malformed, which that of the symbol
table never is. -/
theorem literals_keep_members_iff (built : draft.build = .ok module)
    (emitted : emit module config = .ok glue) (wide : WideLetters) :
    (symbolsText glue.symbols ∈ glue.parts ∧ glue.Shows (symbolsText glue.symbols) ∧
      ∃ literal, behind? symbolsStart (symbolsText glue.symbols).toList = some literal ∧
        members? wide literal = some
          (((module.signatures.map Signature.name).filter (· ≠ "__proto__")).map nameUnits) ∧
        (members? wide literal = some ((module.signatures.map Signature.name).map nameUnits) ↔
          "__proto__" ∉ module.signatures.map Signature.name)) ∧
    ∀ decl ∈ module.types.toList, ∀ fields, decl.kind = .struct ⟨fields, .fixed⟩ →
      ∃ codec, codec.typeName = decl.name ∧ packText codec ++ unpackText codec ∈ glue.parts ∧
        glue.Shows (packText codec ++ unpackText codec) ∧
        ∃ literal, returned? (unpackText codec).toList = some literal ∧
          Defines wide literal fields.names := by
  have table : symbolsText glue.symbols ∈ glue.parts := by simp [Module.parts]
  refine ⟨⟨table, Module.shows_of_mem table, ?_⟩, ?_⟩
  · have apart := not_hasNullBeforeDigit_signature built
    obtain ⟨literal, read, defines, created⟩ := exists_defines_symbols built emitted wide
    refine ⟨literal, read, created, defines.keeps.trans ?_⟩
    constructor
    · exact fun all inside => (all "__proto__" inside).1 rfl
    · exact fun other name inside => ⟨fun same => other (same ▸ inside), apart name inside⟩
  · intro decl declared fields packed
    obtain ⟨layout, placed, codecs, identifier⟩ :=
      exists_codecOf built declared packed module.options.byteOrder
    obtain ⟨literal, read, defines⟩ := exists_defines_unpackText wide identifier
      module.options.byteOrder (Layout.isPlaced_of_ofFields placed).distinct
    rw [Layout.names_of_ofFields placed] at defines
    have part := helpers_mem_parts emitted declared codecs
    exact ⟨_, rfl, part, Module.shows_of_mem part, literal, read, defines⟩

/-- A packed struct with a function. -/
def gridDraft : ModuleDraft :=
  ModuleDraft.empty "grid" |>.addType cellDecl
    |>.addSignature ⟨"resize", [.primitive .u32], .primitive .void, false, none⟩

/-- The module of that draft. -/
def gridModule : BindingModule :=
  ⟨"grid", gridDraft.options, ⟨gridDraft.types.toArray⟩, gridDraft.signatures⟩

/-- The function and both fields are members, the one with a quoted key, too. -/
theorem literals_keep_members_iff_gridModule :
    gridDraft.build = .ok gridModule ∧
      ∃ glue, emit gridModule Config.default = .ok glue ∧ ∀ wide, ∃ table codec object,
        behind? symbolsStart (symbolsText glue.symbols).toList = some table ∧
        members? wide table = some [nameUnits "resize"] ∧
        codec.typeName = "Cell" ∧ packText codec ++ unpackText codec ∈ glue.parts ∧
        returned? (unpackText codec).toList = some object ∧
        members? wide object = some [nameUnits "row", nameUnits "left edge"] := by
  have built : gridDraft.build = .ok gridModule := by decide
  obtain ⟨glue, emitted⟩ := (exists_emit_eq_ok_iff built Config.default).mpr
    (BindingModule.faults_eq_nil_iff.mp (by decide))
  refine ⟨built, glue, emitted, fun wide => ?_⟩
  obtain ⟨⟨-, -, table, table_read, created, -⟩, unpacked⟩ :=
    literals_keep_members_iff built emitted wide
  obtain ⟨codec, named, inside, -, object, object_read, defines⟩ :=
    unpacked cellDecl List.mem_cons_self _ rfl
  exact ⟨table, codec, object, table_read, created, named, inside, object_read,
    defines.keeps.mpr (by decide)⟩

/-- A function that is named like the prototype of objects. -/
def protoDraft : ModuleDraft :=
  ModuleDraft.empty "d" |>.addSignature ⟨"__proto__", [], .primitive .void, false, none⟩

/-- The module of that draft. -/
def protoModule : BindingModule :=
  ⟨"d", protoDraft.options, ⟨#[]⟩, protoDraft.signatures⟩

/-- The symbol table of that module has no member, though the module has a function. -/
theorem symbols_lose_proto :
    protoDraft.build = .ok protoModule ∧
      protoModule.signatures.map Signature.name = ["__proto__"] ∧
      ∃ glue, emit protoModule Config.default = .ok glue ∧ ∀ wide, ∃ table,
        behind? symbolsStart (symbolsText glue.symbols).toList = some table ∧
        members? wide table = some [] ∧ members? wide table ≠ some [nameUnits "__proto__"] := by
  have built : protoDraft.build = .ok protoModule := by decide
  obtain ⟨glue, emitted⟩ := (exists_emit_eq_ok_iff built Config.default).mpr
    (BindingModule.faults_eq_nil_iff.mp (by decide))
  refine ⟨built, rfl, glue, emitted, fun wide => ?_⟩
  obtain ⟨table, read, -, created⟩ := exists_defines_symbols built emitted wide
  have nothing : members? wide table = some [] := created
  refine ⟨table, read, nothing, ?_⟩
  rw [nothing]
  nofun

end Glue
end ForeignBindings
