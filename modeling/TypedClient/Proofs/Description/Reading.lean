import TypedClient.Proofs.Description.Spelled

/-!
Every description is read back from each document that spells it. What a record is spelled by is the
list of its fields; the checks of the fields are met one by one, and those of the records inside by the
same statement about their own lists.
-/

namespace TypedClient

variable {α β : Type}

@[simp] theorem Checked.mapValid (f : α → β) (value : α) :
    f <$> Checked.valid value = .valid (f value) := rfl

@[simp] theorem Checked.seqValid (f : α → β) (value : α) :
    Checked.valid f <*> Checked.valid value = .valid (f value) := rfl

namespace Value

def IsText (value : Value) (content : Text) : Prop :=
  value = .scalar (.text content)

def IsFlag (value : Value) (content : Bool) : Prop :=
  value = .scalar (.bool content)

def IsSome (writes : Value → α → Prop) (value : Value) : Option α → Prop
  | some content => writes value content
  | none => False

def IsList (writes : Value → α → Prop) (value : Value) (contents : List α) : Prop :=
  ∃ values, value = .list values ∧ List.Forall₂ writes values contents

def IsRecord (slots : α → List Slot) (value : Value) (content : α) : Prop :=
  ∃ fields, value = .map fields ∧ SpellsRecord (slots content) fields

def IsTable (writes : Value → α → Prop) (value : Value) (table : List (Text × α)) : Prop :=
  ∃ fields, value = .map fields ∧ List.Forall₂ (fun (entry : Scalar × Value) (row : Text × α) =>
    entry.1 = .text row.1 ∧ writes entry.2 row.2) fields table

end Value

namespace Slot

def needed (name : Text) (content : α) (writes : Value → α → Prop) : Slot :=
  ⟨name, False, fun value => writes value content⟩

def usual (name : Text) (default content : α) (writes : Value → α → Prop) : Slot :=
  ⟨name, content = default, fun value => writes value content⟩

def optional (name : Text) (content : Option α) (writes : Value → α → Prop) : Slot :=
  usual name none content (Value.IsSome writes)

end Slot

open Value (IsText IsFlag IsSome IsList IsRecord IsTable)

def EnumMember.slots (member : EnumMember) : List Slot :=
  [.needed "name" member.name IsText, .usual "value" [] member.value IsText,
    .optional "summary" member.summary IsText]

def Property.slots (property : Property) : List Slot :=
  [.needed "name" property.name IsText, .usual "type" [] property.type IsText,
    .usual "is_nullable" false property.isNullable IsFlag,
    .usual "is_required" false property.isRequired IsFlag,
    .optional "summary" property.summary IsText, .optional "remarks" property.remarks IsText]

def DataType.slots (type : DataType) : List Slot :=
  [.usual "name" [] type.name IsText, .optional "namespace" type.namespaceName IsText,
    .optional "base_type" type.baseType IsText,
    .usual "generic_arguments" [] type.genericArguments (IsList IsText),
    .usual "properties" [] type.properties (IsList (IsRecord Property.slots)),
    .usual "enum_values" [] type.members (IsList (IsRecord EnumMember.slots)),
    .optional "summary" type.summary IsText, .optional "remarks" type.remarks IsText]

def Parameter.slots (parameter : Parameter) : List Slot :=
  [.needed "name" parameter.name IsText, .usual "type" [] parameter.type IsText,
    .usual "source" [] parameter.source IsText,
    .usual "is_optional" false parameter.isOptional IsFlag,
    .optional "default_value" parameter.defaultValue Eq, .optional "summary" parameter.summary IsText]

def ReturnType.slots (returnType : ReturnType) : List Slot :=
  [.optional "type" returnType.type IsText, .optional "type_simple" returnType.simpleType IsText,
    .optional "summary" returnType.summary IsText]

def Operation.slots (operation : Operation) : List Slot :=
  [.usual "controller" [] operation.controller IsText, .optional "action" operation.action IsText,
    .optional "http_method" operation.verb IsText, .usual "path" [] operation.path IsText,
    .usual "parameters" [] operation.parameters (IsList (IsRecord Parameter.slots)),
    .optional "return_type" operation.returnType (IsRecord ReturnType.slots),
    .optional "summary" operation.summary IsText, .optional "remarks" operation.remarks IsText]

def Description.slots (description : Description) : List Slot :=
  [.usual "apis" [] description.operations (IsList (IsRecord Operation.slots)),
    .usual "types" [] description.types (IsTable (IsRecord DataType.slots))]

section

variable {fields : Fields} {name : Text} {default content : α} {writes : Value → α → Prop}
  {check : Value → Checked α}

theorem requiredOfNeeded (once : (Assoc.keys fields).Nodup)
    (filled : (Slot.needed name content writes).Filled fields)
    (reads : ∀ value, writes value content → check value = .valid content) :
    fields.withoutNulls.required (spellings name) check = .valid content := by
  simp only [Slot.Filled, Slot.needed, false_and, or_false] at filled
  obtain ⟨key, value, takes, fits⟩ := filled
  rw [Fields.required, Fields.presentOfTakes once takes]
  dsimp only
  rw [reads value fits, Checked.under]

theorem optionalOfUsual (once : (Assoc.keys fields).Nodup)
    (filled : (Slot.usual name default content writes).Filled fields)
    (reads : ∀ value, writes value content → check value = .valid content) :
    fields.withoutNulls.optional (spellings name) default check = .valid content := by
  simp only [Slot.Filled, Slot.usual] at filled
  rcases filled with ⟨key, value, takes, fits⟩ | ⟨standard, lacks⟩
  · rw [Fields.optional, Fields.presentOfTakes once takes]
    dsimp only
    rw [reads value fits, Checked.under]
  · rw [Fields.optional, Fields.presentOfLacks once lacks, standard]

theorem optionalOfOptional {content : Option α} (once : (Assoc.keys fields).Nodup)
    (filled : (Slot.optional name content writes).Filled fields)
    (reads : ∀ value content, writes value content → check value = .valid content) :
    fields.withoutNulls.optional (spellings name) none (fun value => some <$> check value)
      = .valid content := by
  refine optionalOfUsual once filled fun value fits => ?_
  cases content with
  | none => exact absurd fits id
  | some content => rw [reads value content fits, Checked.mapValid]

theorem textRead (value : Value) (content : Text) (spelled : IsText value content) :
    Check.text value = .valid content := by
  rw [spelled, Check.text]

theorem flagRead (value : Value) (content : Bool) (spelled : IsFlag value content) :
    Check.truth value = .valid content := by
  rw [spelled, Check.truth]

theorem itemsRead {values : List Value} {contents : List α}
    (each : List.Forall₂ writes values contents)
    (reads : ∀ value content, writes value content → check value = .valid content) (index : Nat) :
    Checked.items check index values = .valid contents := by
  induction each generalizing index with
  | nil => rfl
  | cons first _ ih =>
    rw [Checked.items, reads _ _ first, ih, Checked.under, Checked.mapValid, Checked.seqValid]

theorem listRead {value : Value} {contents : List α} (spelled : IsList writes value contents)
    (reads : ∀ value content, writes value content → check value = .valid content) :
    Check.list check value = .valid contents := by
  obtain ⟨values, rfl, each⟩ := spelled
  exact itemsRead each reads 0

theorem entriesRead {table : List (Text × α)}
    (each : List.Forall₂ (fun (entry : Scalar × Value) (row : Text × α) =>
      entry.1 = .text row.1 ∧ writes entry.2 row.2) fields table)
    (reads : ∀ row ∈ table, ∀ value, writes value row.2 → check value = .valid row.2) :
    Check.entries check fields = .valid table := by
  induction each with
  | nil => rfl
  | @cons entry row _ _ first _ ih =>
    obtain ⟨key, value⟩ := entry
    obtain ⟨named, spelled⟩ := first
    simp only at named spelled
    rw [Check.entries, ih fun other inside => reads other (List.mem_cons_of_mem _ inside),
      reads row List.mem_cons_self _ spelled, named, Check.text]
    simp [Checked.under]

theorem tableRead {value : Value} {table : List (Text × α)} (spelled : IsTable writes value table)
    (reads : ∀ row ∈ table, ∀ value, writes value row.2 → check value = .valid row.2) :
    Check.mapping check value = .valid table := by
  obtain ⟨fields, rfl, each⟩ := spelled
  exact entriesRead each reads

theorem textField {content : Text} (once : (Assoc.keys fields).Nodup)
    (filled : (Slot.usual name [] content IsText).Filled fields) :
    Check.textOr [] fields.withoutNulls name = .valid content :=
  optionalOfUsual once filled fun value => textRead value content

theorem optionalTextField {content : Option Text} (once : (Assoc.keys fields).Nodup)
    (filled : (Slot.optional name content IsText).Filled fields) :
    Check.optionalText fields.withoutNulls name = .valid content :=
  optionalOfOptional once filled textRead

theorem flagField {content : Bool} (once : (Assoc.keys fields).Nodup)
    (filled : (Slot.usual name false content IsFlag).Filled fields) :
    Check.flag fields.withoutNulls name = .valid content :=
  optionalOfUsual once filled fun value => flagRead value content

theorem anyField {content : Option Value} (once : (Assoc.keys fields).Nodup)
    (filled : (Slot.optional name content Eq).Filled fields) :
    fields.withoutNulls.optional (spellings name) none (fun value => .valid (some value))
      = .valid content :=
  optionalOfOptional once filled fun _ _ same => congrArg Checked.valid same

theorem listField {contents : List α} (once : (Assoc.keys fields).Nodup)
    (filled : (Slot.usual name [] contents (IsList writes)).Filled fields)
    (reads : ∀ value content, writes value content → check value = .valid content) :
    Check.listOf check fields.withoutNulls name = .valid contents :=
  optionalOfUsual once filled fun _ spelled => listRead spelled reads

end

def EnumMember.fieldNames : List Text :=
  ["name", "value", "summary"]

def Property.fieldNames : List Text :=
  ["name", "type", "is_nullable", "is_required", "summary", "remarks"]

def DataType.fieldNames : List Text :=
  ["name", "namespace", "base_type", "generic_arguments", "properties", "enum_values", "summary",
    "remarks"]

def Parameter.fieldNames : List Text :=
  ["name", "type", "source", "is_optional", "default_value", "summary"]

def ReturnType.fieldNames : List Text :=
  ["type", "type_simple", "summary"]

def Operation.fieldNames : List Text :=
  ["controller", "action", "http_method", "path", "parameters", "return_type", "summary", "remarks"]

def Description.fieldNames : List Text :=
  ["apis", "types"]

def recordFieldNames : List (List Text) :=
  [EnumMember.fieldNames, Property.fieldNames, DataType.fieldNames, Parameter.fieldNames,
    ReturnType.fieldNames, Operation.fieldNames, Description.fieldNames]

theorem fieldNamesApart : ∀ names ∈ recordFieldNames, Apart names := by
  simp only [Apart]
  decide +kernel

theorem EnumMember.slotsApart (member : EnumMember) : Apart (member.slots.map (·.name)) :=
  fieldNamesApart EnumMember.fieldNames (by simp [recordFieldNames])

theorem Property.slotsApart (property : Property) : Apart (property.slots.map (·.name)) :=
  fieldNamesApart Property.fieldNames (by simp [recordFieldNames])

theorem DataType.slotsApart (type : DataType) : Apart (type.slots.map (·.name)) :=
  fieldNamesApart DataType.fieldNames (by simp [recordFieldNames])

theorem Parameter.slotsApart (parameter : Parameter) : Apart (parameter.slots.map (·.name)) :=
  fieldNamesApart Parameter.fieldNames (by simp [recordFieldNames])

theorem ReturnType.slotsApart (returnType : ReturnType) : Apart (returnType.slots.map (·.name)) :=
  fieldNamesApart ReturnType.fieldNames (by simp [recordFieldNames])

theorem Operation.slotsApart (operation : Operation) : Apart (operation.slots.map (·.name)) :=
  fieldNamesApart Operation.fieldNames (by simp [recordFieldNames])

theorem Description.slotsApart (description : Description) : Apart (description.slots.map (·.name)) :=
  fieldNamesApart Description.fieldNames (by simp [recordFieldNames])

theorem recordSpelled {slots : α → List Slot} {value : Value} {content : α}
    (spelled : IsRecord slots value content) (apart : Apart ((slots content).map (·.name))) :
    ∃ fields : Fields, (Assoc.keys fields).Nodup ∧ (∀ slot ∈ slots content, slot.Filled fields) ∧
      ∀ (model : Text) (check : Fields → Checked α),
        Check.describedRecord model check value = check fields.withoutNulls := by
  obtain ⟨fields, rfl, spells⟩ := spelled
  exact ⟨fields, spells.once, filledOfSpells spells apart, fun _ _ => rfl⟩

theorem memberValueRead (value : Value) (content : Text) (spelled : IsText value content) :
    Check.memberValue value = .valid content := by
  rw [spelled]
  rfl

theorem enumMemberRead (value : Value) (member : EnumMember)
    (spelled : IsRecord EnumMember.slots value member) :
    Check.enumMember value = .valid member := by
  obtain ⟨fields, once, filled, checked⟩ := recordSpelled spelled member.slotsApart
  simp only [EnumMember.slots, List.forall_mem_cons] at filled
  obtain ⟨name, content, summary, -⟩ := filled
  rw [Check.enumMember, checked, requiredOfNeeded once name fun value => textRead value _,
    optionalOfUsual once content fun value => memberValueRead value _,
    optionalTextField once summary]
  rfl

theorem propertyRead (value : Value) (property : Property)
    (spelled : IsRecord Property.slots value property) :
    Check.property value = .valid property := by
  obtain ⟨fields, once, filled, checked⟩ := recordSpelled spelled property.slotsApart
  simp only [Property.slots, List.forall_mem_cons] at filled
  obtain ⟨name, type, nullable, required, summary, remarks, -⟩ := filled
  rw [Check.property, checked, requiredOfNeeded once name fun value => textRead value _,
    textField once type, flagField once nullable, flagField once required,
    optionalTextField once summary, optionalTextField once remarks]
  rfl

theorem parameterRead (value : Value) (parameter : Parameter)
    (spelled : IsRecord Parameter.slots value parameter) :
    Check.parameter value = .valid parameter := by
  obtain ⟨fields, once, filled, checked⟩ := recordSpelled spelled parameter.slotsApart
  simp only [Parameter.slots, List.forall_mem_cons] at filled
  obtain ⟨name, type, source, omissible, default, summary, -⟩ := filled
  rw [Check.parameter, checked, requiredOfNeeded once name fun value => textRead value _,
    textField once type, textField once source, flagField once omissible,
    anyField once default,
    optionalTextField once summary]
  rfl

theorem returnTypeRead (value : Value) (returnType : ReturnType)
    (spelled : IsRecord ReturnType.slots value returnType) :
    Check.returnType value = .valid returnType := by
  obtain ⟨fields, once, filled, checked⟩ := recordSpelled spelled returnType.slotsApart
  simp only [ReturnType.slots, List.forall_mem_cons] at filled
  obtain ⟨type, simpleType, summary, -⟩ := filled
  rw [Check.returnType, checked, optionalTextField once type, optionalTextField once simpleType,
    optionalTextField once summary]
  rfl

theorem operationRead (value : Value) (operation : Operation)
    (spelled : IsRecord Operation.slots value operation) :
    Check.operation value = .valid operation := by
  obtain ⟨fields, once, filled, checked⟩ := recordSpelled spelled operation.slotsApart
  simp only [Operation.slots, List.forall_mem_cons] at filled
  obtain ⟨controller, action, verb, path, parameters, returnType, summary, remarks, -⟩ := filled
  rw [Check.operation, checked, textField once controller, optionalTextField once action,
    optionalTextField once verb, textField once path, listField once parameters parameterRead,
    optionalOfOptional once returnType returnTypeRead, optionalTextField once summary,
    optionalTextField once remarks]
  rfl

def DataType.OneKind (type : DataType) : Prop :=
  type.properties = [] ∨ type.members = []

theorem dataTypeRead (value : Value) (type : DataType) (oneKind : type.OneKind)
    (spelled : IsRecord DataType.slots value type) : Check.dataType value = .valid type := by
  obtain ⟨fields, once, filled, checked⟩ := recordSpelled spelled type.slotsApart
  simp only [DataType.slots, List.forall_mem_cons] at filled
  obtain ⟨name, namespaceName, baseType, arguments, properties, members, summary, remarks, -⟩ :=
    filled
  have fits : Check.recordOrEnum type = none := by
    rw [Check.recordOrEnum, if_pos (by simpa [DataType.OneKind] using oneKind)]
  rw [Check.dataType, checked, textField once name, optionalTextField once namespaceName,
    optionalTextField once baseType, listField once arguments textRead,
    listField once properties propertyRead, listField once members enumMemberRead,
    optionalTextField once summary, optionalTextField once remarks]
  simp [Checked.ensure, fits]

theorem descriptionRead (value : Value) (description : Description)
    (oneKind : ∀ row ∈ description.types, row.2.OneKind)
    (distinct : (Assoc.keys description.types).Nodup)
    (spelled : IsRecord Description.slots value description) :
    Check.description value = .valid description := by
  obtain ⟨fields, once, filled, checked⟩ := recordSpelled spelled description.slotsApart
  simp only [Description.slots, List.forall_mem_cons] at filled
  obtain ⟨operations, types, -⟩ := filled
  rw [Check.description, checked, listField once operations operationRead,
    optionalOfUsual once types fun _ spelled => tableRead spelled fun row inside value =>
      dataTypeRead value row.2 (oneKind row inside)]
  simp [Assoc.ofListOfNodup distinct]

/- The types come in the order of the document, which is another order of the same table. What a
document may say for one field includes every single choice, and what counts among several is told by
the entries alone. -/
theorem everySpellingDescribes (description : Description)
    (distinct : (Assoc.keys description.types).Nodup)
    (oneKind : ∀ row ∈ description.types, row.2.OneKind) :
    (∀ document types, types.Perm description.types →
      IsRecord Description.slots document ⟨description.operations, types⟩ →
        Description.ofValue document = .ok ⟨description.operations, types⟩ ∧
        ∀ key, Assoc.find? key types = Assoc.find? key description.types) ∧
    (∀ (slot : Slot) entries, slot.Chosen entries → slot.Written entries) ∧
    (∀ (fields : Fields) names key value, (Assoc.keys fields).Nodup →
      (fields.withoutNulls.present? names = some (key, value) ↔ fields.Takes names key value)) := by
  refine ⟨fun document types reordered spelled => ?_, fun _ _ => Slot.writtenOfChosen,
    fun _ _ _ _ => Fields.presentIff⟩
  have distinctTypes := (Assoc.keysPerm reordered).nodup_iff.mpr distinct
  have checked := descriptionRead document ⟨description.operations, types⟩
    (fun row inside => oneKind row (reordered.mem_iff.mp inside)) distinctTypes spelled
  refine ⟨?_, Assoc.findPerm distinctTypes reordered⟩
  rw [Description.ofValue, checked]

def widgetProperty : Property :=
  ⟨"id", [], false, true, none, none⟩

def propertyEntries : Fields :=
  [(.text "IsRequired", .scalar (.bool true)), (.text "Name", .text "other"),
    (.text "summary", .scalar .null), (.text "name", .text "id")]

theorem widgetPropertySpelled : IsRecord Property.slots (.map propertyEntries) widgetProperty := by
  have once : (Assoc.keys propertyEntries).Nodup := by decide
  refine ⟨propertyEntries, rfl, spellsOfFilled once widgetProperty.slotsApart ?_⟩
  simp only [Property.slots, List.forall_mem_cons]
  exact ⟨.ofPresent once rfl rfl, .ofAbsent once rfl rfl, .ofAbsent once rfl rfl,
    .ofPresent once rfl rfl, .ofAbsent once rfl rfl, .ofAbsent once rfl rfl, by simp⟩

def widgetType : DataType :=
  ⟨"Widget", some "Shop", none, [], [widgetProperty], [], none, none⟩

def typeEntries : Fields :=
  [(.text "Properties", .list [.map propertyEntries]), (.text "baseType", .scalar .null),
    (.int 7, .text "unknown"), (.text "Namespace", .text "Shop"), (.text "name", .text "Widget")]

theorem widgetTypeSpelled : IsRecord DataType.slots (.map typeEntries) widgetType := by
  have once : (Assoc.keys typeEntries).Nodup := by decide
  have properties : IsList (IsRecord Property.slots) (.list [.map propertyEntries])
      widgetType.properties := ⟨_, rfl, .cons widgetPropertySpelled .nil⟩
  refine ⟨typeEntries, rfl, spellsOfFilled once widgetType.slotsApart ?_⟩
  simp only [DataType.slots, List.forall_mem_cons]
  exact ⟨.ofPresent once rfl rfl, .ofPresent once rfl rfl, .ofAbsent once rfl rfl,
    .ofAbsent once rfl rfl, .ofPresent once rfl properties, .ofAbsent once rfl rfl,
    .ofAbsent once rfl rfl, .ofAbsent once rfl rfl, by simp⟩

def operationEntries : Fields :=
  [(.text "HttpMethod", .text "GET"), (.text "httpMethod", .text "POST"),
    (.text "http_method", .scalar .null), (.text "Action", .text "Get"),
    (.text "controller", .text "Widget"), (.text "Path", .text "widgets")]

def widgetOperation : Operation :=
  ⟨"Widget", some "Get", some "POST", "widgets", [], none, none, none⟩

theorem widgetOperationSpelled :
    IsRecord Operation.slots (.map operationEntries) widgetOperation := by
  have once : (Assoc.keys operationEntries).Nodup := by decide
  refine ⟨operationEntries, rfl, spellsOfFilled once widgetOperation.slotsApart ?_⟩
  simp only [Operation.slots, List.forall_mem_cons]
  exact ⟨.ofPresent once rfl rfl, .ofPresent once rfl rfl, .ofPresent once rfl rfl,
    .ofPresent once rfl rfl, .ofAbsent once rfl rfl, .ofAbsent once rfl rfl, .ofAbsent once rfl rfl,
    .ofAbsent once rfl rfl, by simp⟩

def widgetDescription : Description :=
  ⟨[widgetOperation], [("Shop.Widget", widgetType)]⟩

def descriptionEntries : Fields :=
  [(.text "Types", .map [(.text "Shop.Widget", .map typeEntries)]), (.text "apis", .scalar .null),
    (.text "Apis", .list [.map operationEntries])]

theorem everySpellingDescribesWidget :
    (Assoc.keys widgetDescription.types).Nodup ∧
      (∀ row ∈ widgetDescription.types, row.2.OneKind) ∧
      IsRecord Description.slots (.map descriptionEntries) widgetDescription ∧
      Description.ofValue (.map descriptionEntries) = .ok widgetDescription := by
  have distinct : (Assoc.keys widgetDescription.types).Nodup := by decide
  have oneKind : ∀ row ∈ widgetDescription.types, row.2.OneKind := by
    intro row inside
    obtain rfl := List.mem_singleton.mp inside
    exact .inr rfl
  have once : (Assoc.keys descriptionEntries).Nodup := by decide
  have operations : IsList (IsRecord Operation.slots) (.list [.map operationEntries])
      widgetDescription.operations := ⟨_, rfl, .cons widgetOperationSpelled .nil⟩
  have types : IsTable (IsRecord DataType.slots) (.map [(.text "Shop.Widget", .map typeEntries)])
      widgetDescription.types := ⟨_, rfl, .cons ⟨rfl, widgetTypeSpelled⟩ .nil⟩
  have spelled : IsRecord Description.slots (.map descriptionEntries) widgetDescription := by
    refine ⟨descriptionEntries, rfl, spellsOfFilled once widgetDescription.slotsApart ?_⟩
    simp only [Description.slots, List.forall_mem_cons]
    exact ⟨.ofPresent once rfl operations, .ofPresent once rfl types, by simp⟩
  obtain ⟨reads, -⟩ := everySpellingDescribes widgetDescription distinct oneKind
  exact ⟨distinct, oneKind, spelled, (reads _ _ .rfl spelled).1⟩

end TypedClient
