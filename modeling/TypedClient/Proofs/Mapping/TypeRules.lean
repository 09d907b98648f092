import Mathlib.Data.List.Forall2
import TypedClient.Mapping
import TypedClient.Proofs.Mapping.TypeGrammar

/-!
The rules of the mapping, each as a text of its arguments' texts and as a type of their types. Where the
arguments print their types, so does what a rule writes: its looks at a text, for a bar, for the beginning
of what may be missing and for a bare key, agree with the type.
-/

namespace TypedClient

namespace TypeTerm

def nullName : Text := "null"

def isNullable : TypeTerm → Bool
  | .union (.name first) _ => first == nullName
  | _ => false

def nullable (inner : TypeTerm) : TypeTerm :=
  if inner.isNullable then inner else .union (.name nullName) inner

def recordName : Text := "Record"

def stringName : Text := "string"

def numberName : Text := "number"

def recordKey : TypeTerm → TypeTerm
  | .name key => if key = stringName ∨ key = numberName then .name key else .name stringName
  | _ => .name stringName

def applied (name : Text) (arguments : List TypeTerm) : TypeTerm :=
  if arguments.isEmpty then .name name else .generic name arguments

end TypeTerm

namespace Mapping

open TypeTerm (Reads IsName recordName recordKey)

inductive Rule where
  | reference (name : Text)
  | fixed (name : Text)
  | nullable
  | sequence
  | anySequence
  | carried
  | record
  deriving DecidableEq, Repr

def wrapperRule? (isArray : Bool) (framework : Option Text) (count : Nat) : Option Rule :=
  let named (names : List Text) : Bool := framework.any (· ∈ names)
  match count with
  | 1 =>
    if named nullableNames then some .nullable
    else if isArray || named sequenceNames then some .sequence
    else if named asyncNames || named resultNames then some .carried
    else none
  | _ =>
    if isArray || named sequenceNames then some .anySequence
    else if named asyncNames then some (.fixed voidType)
    else match count with
      | 2 => if named dictionaryNames then some .record else none
      | _ => none

def nodeWrapper? (node : Signature) : Option Rule :=
  wrapperRule? node.isArray (if node.isArray then none else frameworkName? node.name)
    node.arguments.length

def ruleOf (mapping : Mapping) (node : Signature) : Rule :=
  if mapping.isTarget node then .reference node.name
  else match nodeWrapper? node with
    | some rule => rule
    | none =>
      match scalar? node.name with
      | some type => .fixed type
      | none =>
        if mapping.isDomain node.name then .reference (mapping.qualifier ++ simpleName node.name)
        else .fixed anyType

def recordText (key value : Text) : Text :=
  "Record<" ++ (if key = "string" ∨ key = "number" then key else "string") ++ ", " ++ value ++ ">"

def Rule.text : Rule → List Text → Text
  | .reference name, arguments => Mapping.applied name arguments
  | .fixed name, _ => name
  | .nullable, [argument] => Mapping.nullable argument
  | .sequence, [argument] => arrayOf argument
  | .anySequence, _ => anyType ++ "[]"
  | .carried, [argument] => argument
  | .record, [key, value] => recordText key value
  | _, _ => anyType

def Rule.type : Rule → List TypeTerm → TypeTerm
  | .reference name, arguments => TypeTerm.applied name arguments
  | .fixed name, _ => .name name
  | .nullable, [argument] => argument.nullable
  | .sequence, [argument] => .array argument
  | .anySequence, _ => .array (.name anyType)
  | .carried, [argument] => argument
  | .record, [key, value] => .generic recordName [recordKey key, value]
  | _, _ => .name anyType

def typeOf (mapping : Mapping) : Signature → TypeTerm :=
  Signature.fold fun node arguments => (mapping.ruleOf node).type arguments

theorem wrapperText (isArray : Bool) (framework : Option Text) (arguments : List Text) :
    wrapper? isArray framework arguments =
      (wrapperRule? isArray framework arguments.length).map (Rule.text · arguments) := by
  match arguments with
  | [] | [_] | [_, _] | _ :: _ :: _ :: _ =>
    simp only [wrapper?, wrapperRule?, List.length_nil, List.length_cons, Nat.reduceAdd,
      apply_ite (Option.map fun rule : Rule => rule.text _), Option.map_some, Option.map_none]
    rfl

theorem ruleText (mapping : Mapping) (node : Signature) {arguments : List Text}
    (count : arguments.length = node.arguments.length) :
    mapping.mapNode [] node arguments = (mapping.ruleOf node).text arguments := by
  unfold mapNode ruleOf nodeWrapper?
  simp only [List.lookup_nil, wrapperText, count]
  split
  · rfl
  · cases wrapperRule? node.isArray (if node.isArray then none else frameworkName? node.name)
        node.arguments.length with
    | some rule => rfl
    | none =>
      cases scalar? node.name with
      | some type => rfl
      | none =>
        simp only [Option.map_none]
        split <;> rfl

/- A text that prints a type. What the rules ask of a text has its answer in the type: whether it is a
bare name, and whether it begins as what may be missing does. -/
structure Printed (text : Text) (type : TypeTerm) : Prop where
  reads : Reads .union text type
  bare : ∀ name, type = .name name → text = name
  missing : type.isNullable = true → nullablePrefix <+: text

theorem primaryReads {text : Text} {type : TypeTerm} (primary : Reads .primary text type) :
    Reads .union text type :=
  .member (.single primary)

theorem nullNamed : IsName TypeTerm.nullName := by
  decide +kernel

theorem readsNull : Reads .suffixed TypeTerm.nullName (.name TypeTerm.nullName) :=
  .single (.name nullNamed)

theorem suffixedOfNoBar {text : Text} {type : TypeTerm} (reads : Reads .union text type)
    (free : '|' ∉ text) : Reads .suffixed text type := by
  cases reads with
  | member only => exact only
  | union first rest =>
    refine absurd (List.mem_append_left _ (List.mem_append_right _ ?_)) free
    decide

theorem nullableOfBegins {text : Text} {type : TypeTerm} (reads : Reads .union text type)
    (begins : nullablePrefix <+: text) : type.isNullable = true := by
  obtain ⟨rest, whole⟩ := begins
  have same : nullablePrefix = TypeTerm.nullName ++ TypeTerm.bar := by decide
  obtain ⟨other, rfl⟩ := TypeTerm.readsBegin reads readsNull (by rw [← whole, same])
  exact beq_self_eq_true TypeTerm.nullName

theorem printedName {text : Text} (named : IsName text) : Printed text (.name text) where
  reads := primaryReads (.name named)
  bare := by
    intro name same
    cases same
    rfl
  missing := fun impossible => absurd impossible Bool.false_ne_true

theorem printedReads {text : Text} {type : TypeTerm} (reads : Reads .union text type)
    (built : ∀ name, type ≠ .name name) (present : type.isNullable = false) : Printed text type where
  reads := reads
  bare := fun name same => absurd same (built name)
  missing := by
    rw [present]
    exact fun impossible => absurd impossible Bool.false_ne_true

theorem printedGeneric {base : Text} {texts : List Text} {types : List TypeTerm} (named : IsName base)
    (nonempty : texts ≠ []) (each : List.Forall₂ Printed texts types) :
    Printed (base ++ '<' :: TypeTerm.separator.intercalate texts ++ ['>']) (.generic base types) := by
  have below : List.Forall₂ (Reads .union) texts types := each.imp fun _ _ printed => printed.reads
  exact printedReads (primaryReads (.generic named nonempty below)) (by simp) rfl

theorem printedApplied {base : Text} {texts : List Text} {types : List TypeTerm} (named : IsName base)
    (each : List.Forall₂ Printed texts types) :
    Printed (applied base texts) (TypeTerm.applied base types) := by
  cases each with
  | nil => exact printedName named
  | cons first rest => exact printedGeneric named (by simp) (.cons first rest)

theorem printedArray {text : Text} {type : TypeTerm} (printed : Printed text type) :
    Printed (arrayOf text) (.array type) := by
  refine printedReads ?_ (by simp) rfl
  unfold arrayOf
  split
  · have grouped : '(' :: text ++ ")[]" = '(' :: text ++ [')'] ++ ['[', ']'] := by simp
    rw [grouped]
    exact .member (.array (.single (.group printed.reads)))
  · rename_i plain
    exact .member (.array (suffixedOfNoBar printed.reads fun bar => plain (.inl bar)))

theorem printedNullable {text : Text} {type : TypeTerm} (printed : Printed text type) :
    Printed (nullable text) type.nullable := by
  unfold nullable TypeTerm.nullable
  cases already : type.isNullable with
  | true =>
    rw [if_pos (List.isPrefixOf_iff_prefix.mpr (printed.missing already)), if_pos rfl]
    exact printed
  | false =>
    have other : ¬ nullablePrefix.isPrefixOf text = true := by
      intro begins
      rw [nullableOfBegins printed.reads (List.isPrefixOf_iff_prefix.mp begins)] at already
      contradiction
    rw [if_neg other, if_neg (by decide)]
    refine ⟨.union readsNull printed.reads, ?_, fun _ => List.prefix_append _ _⟩
    intro name same
    cases same

theorem printedKey {text : Text} {type : TypeTerm} (printed : Printed text type) :
    Printed (if text = "string" ∨ text = "number" then text else "string") (recordKey type) := by
  by_cases key : text = "string" ∨ text = "number"
  · have named : IsName text := by rcases key with rfl | rfl <;> decide +kernel
    cases TypeTerm.readsUnique printed.reads (primaryReads (.name named))
    have same : recordKey (.name text) = .name text := if_pos key
    rw [if_pos key, same]
    exact printedName named
  · have same : recordKey type = .name TypeTerm.stringName := by
      cases type with
      | name other =>
        have whole : text = other := printed.bare other rfl
        exact if_neg (whole ▸ key)
      | generic | array | union => rfl
    rw [if_neg key, same]
    exact printedName (by decide +kernel)

theorem recordWhole (key value : Text) :
    recordText key value =
      recordName ++ '<' :: TypeTerm.separator.intercalate
        [if key = "string" ∨ key = "number" then key else "string", value] ++ ['>'] := by
  unfold recordText
  generalize (if key = "string" ∨ key = "number" then key else "string") = first
  have opening : ("Record<" : Text) = recordName ++ ['<'] := by decide
  rw [List.intercalate_cons_cons, List.intercalate_singleton, opening]
  simp only [List.append_assoc, List.cons_append]
  rfl

theorem printedRecord {first second : Text} {key value : TypeTerm} (printedFirst : Printed first key)
    (printedSecond : Printed second value) :
    Printed (recordText first second) (.generic recordName [recordKey key, value]) := by
  have named : IsName recordName := by decide +kernel
  rw [recordWhole]
  exact printedGeneric named (List.cons_ne_nil _ _)
    (.cons (printedKey printedFirst) (.cons printedSecond .nil))

def Rule.Named : Rule → Prop
  | .reference name => IsName name
  | .fixed name => IsName name
  | _ => True

theorem anyNamed : IsName anyType := by
  decide +kernel

theorem printedRule {rule : Rule} (named : rule.Named) {texts : List Text} {types : List TypeTerm}
    (each : List.Forall₂ Printed texts types) : Printed (rule.text texts) (rule.type types) := by
  have other := printedName anyNamed
  have anyArray := printedArray other
  cases rule with
  | reference name => exact printedApplied named each
  | fixed name => exact printedName named
  | anySequence => exact anyArray
  | nullable =>
    match each with
    | .nil => exact other
    | .cons first .nil => exact printedNullable first
    | .cons _ (.cons _ _) => exact other
  | sequence =>
    match each with
    | .nil => exact other
    | .cons first .nil => exact printedArray first
    | .cons _ (.cons _ _) => exact other
  | carried =>
    match each with
    | .nil => exact other
    | .cons first .nil => exact first
    | .cons _ (.cons _ _) => exact other
  | record =>
    match each with
    | .nil => exact other
    | .cons _ .nil => exact other
    | .cons first (.cons second .nil) => exact printedRecord first second
    | .cons _ (.cons _ (.cons _ _)) => exact other

end Mapping

end TypedClient
