import TypedClient.Proofs.Mapping.TypeRules
import TypedClient.Proofs.Signature.Tree

/-!
What a mapped type means. The rules give a type as a term, without any text; the mapped text of a plain
signature is read as that term and as no other, so that signatures of different meaning are told apart.
-/

namespace TypedClient

namespace Text

theorem memExtendFirst {c d : Char} {pieces : List Text} :
    (∃ piece ∈ extendFirst c pieces, d ∈ piece) ↔ d = c ∨ ∃ piece ∈ pieces, d ∈ piece := by
  cases pieces with
  | nil => simp [extendFirst]
  | cons first others => simp [extendFirst, or_assoc]

theorem piecesNonempty (separates : Char → Bool) (text : Text) : pieces separates text ≠ [] := by
  cases text with
  | nil => exact List.cons_ne_nil _ _
  | cons c rest =>
    rw [pieces]
    split
    · exact List.cons_ne_nil _ _
    · cases pieces separates rest <;> exact List.cons_ne_nil _ _

theorem memPieces (separates : Char → Bool) {text : Text} {c : Char} (member : c ∈ text) :
    separates c = true ∨ ∃ piece ∈ pieces separates text, c ∈ piece := by
  induction text with
  | nil => contradiction
  | cons d rest ih =>
    rw [pieces]
    cases here : separates d with
    | true =>
      rcases List.mem_cons.mp member with rfl | later
      · exact .inl here
      · rcases ih later with separator | ⟨piece, among, found⟩
        · exact .inl separator
        · exact .inr ⟨piece, List.mem_cons_of_mem _ among, found⟩
    | false =>
      simp only [Bool.false_eq_true, if_false, memExtendFirst]
      rcases List.mem_cons.mp member with rfl | later
      · exact .inr (.inl rfl)
      · exact (ih later).imp_right .inr

end Text

namespace Mapping

open TypeTerm (Reads IsName)

def IsIdentifier (text : Text) : Prop :=
  text ≠ [] ∧ ∀ c ∈ text, Declaration.identifierPart c = true

instance (text : Text) : Decidable (IsIdentifier text) :=
  decidable_of_iff (text ≠ [] ∧ text.all Declaration.identifierPart = true) (by simp [IsIdentifier])

def nameSeparator (c : Char) : Bool :=
  c == '.' || c == '+'

def PlainName (name : Text) : Prop :=
  ∀ part ∈ Text.pieces nameSeparator name, IsIdentifier part

instance (name : Text) : Decidable (PlainName name) :=
  inferInstanceAs (Decidable (∀ part ∈ _, _))

def PlainNode (node : Signature) : Prop :=
  PlainName node.name ∨ (node.name = Signature.arrayName ∧ node.arguments.length = 1)

instance (node : Signature) : Decidable (PlainNode node) :=
  inferInstanceAs (Decidable (_ ∨ _))

def PlainTree (tree : Signature) : Prop :=
  ∀ node ∈ tree.walk, PlainNode node

instance (tree : Signature) : Decidable (PlainTree tree) :=
  inferInstanceAs (Decidable (∀ node ∈ _, _))

def Qualifies (qualifier : Text) : Prop :=
  qualifier = [] ∨ ∃ word, IsIdentifier word ∧ qualifier = word ++ ['.']

theorem PlainName.named {name : Text} (plain : PlainName name) : IsName name := by
  refine ⟨?_, ?_⟩
  · rintro rfl
    exact (plain [] List.mem_cons_self).1 rfl
  · intro c member
    unfold TypeTerm.nameChar
    rcases Text.memPieces nameSeparator member with separator | ⟨part, among, found⟩
    · unfold nameSeparator at separator
      simp only [Bool.or_assoc, separator, Bool.or_true]
    · rw [(plain part among).2 c found]
      rfl

theorem simpleIdentifier {name : Text} (plain : PlainName name) : IsIdentifier (simpleName name) := by
  have last := List.getLast_mem (Text.piecesNonempty nameSeparator name)
  have same : simpleName name = (Text.pieces nameSeparator name).getLast (Text.piecesNonempty _ _) := by
    rw [simpleName]
    change ((Text.pieces nameSeparator name).getLast?).getD [] = _
    rw [List.getLast?_eq_getLast_of_ne_nil (Text.piecesNonempty _ _), Option.getD_some]
  rw [same]
  exact plain _ last

theorem identifierChar {c : Char} (part : Declaration.identifierPart c = true) :
    TypeTerm.nameChar c = true := by
  rw [TypeTerm.nameChar, part]
  rfl

theorem qualifiedNamed {qualifier word : Text} (qualifies : Qualifies qualifier)
    (identifier : IsIdentifier word) : IsName (qualifier ++ word) := by
  obtain ⟨nonempty, each⟩ := identifier
  have named : ∀ c ∈ word, TypeTerm.nameChar c = true := fun c member => identifierChar (each c member)
  rcases qualifies with rfl | ⟨first, ⟨_, parts⟩, rfl⟩
  · exact ⟨nonempty, named⟩
  · refine ⟨by simp, ?_⟩
    simp only [List.mem_append, List.mem_singleton]
    rintro c ((inFirst | rfl) | inWord)
    · exact identifierChar (parts c inFirst)
    · decide
    · exact named c inWord

theorem scalarListed {name type : Text} (found : scalar? name = some type) :
    ∃ entry ∈ scalarAliases ++ scalarPrefixes, entry.2 = type := by
  have prefixed : scalar?.prefixed name = some type →
      ∃ entry ∈ scalarAliases ++ scalarPrefixes, entry.2 = type := by
    intro found
    obtain ⟨entry, first, rfl⟩ := Option.map_eq_some_iff.mp found
    exact ⟨entry, List.mem_append_right _ (List.mem_of_find?_eq_some first), rfl⟩
  unfold scalar? at found
  split at found
  · rename_i listed
    obtain ⟨_, _, whole, _⟩ := List.lookup_eq_some_iff.mp listed
    split at found
    · exact prefixed found
    · cases Option.some.inj found
      exact ⟨(_, type), List.mem_append_left _ (whole ▸ List.mem_append_right _ List.mem_cons_self), rfl⟩
  · exact prefixed found

theorem scalarNamed {name type : Text} (found : scalar? name = some type) : IsName type := by
  have named : ∀ entry ∈ scalarAliases ++ scalarPrefixes, IsName entry.2 := by decide +kernel
  obtain ⟨entry, listed, rfl⟩ := scalarListed found
  exact named entry listed

theorem arrayNotTarget {mapping : Mapping} (qualifies : Qualifies mapping.qualifier)
    {element : Signature} : mapping.isTarget (.node Signature.arrayName [element]) = false := by
  have other : (!mapping.qualifier.isEmpty &&
      mapping.qualifier.isPrefixOf Signature.arrayName) = false := by
    rcases qualifies with none | ⟨word, ⟨nonempty, parts⟩, whole⟩
    · rw [none]
      rfl
    · obtain ⟨c, rest, rfl⟩ := List.exists_cons_of_ne_nil nonempty
      have different : c ≠ '[' := by
        rintro rfl
        exact absurd (parts '[' List.mem_cons_self) (by decide)
      rw [whole]
      simp [Signature.arrayName, List.isPrefixOf, different]
  unfold isTarget
  simp only [Signature.name, Signature.arguments, other, List.isEmpty_cons, Bool.false_eq_true, if_false]
  exact (by decide : (modulePrefix.isPrefixOf Signature.arrayName || false ||
    decide (Signature.arrayName ∈ genericTypes)) = false)

theorem wrapperOwn {isArray : Bool} {framework : Option Text} {count : Nat} {rule : Rule}
    (found : wrapperRule? isArray framework count = some rule) :
    (∀ name, rule ≠ .reference name) ∧ ∀ name, rule = .fixed name → name = voidType := by
  unfold wrapperRule? at found
  grind

theorem wrapperNamed {isArray : Bool} {framework : Option Text} {count : Nat} {rule : Rule}
    (found : wrapperRule? isArray framework count = some rule) : rule.Named := by
  have voidNamed : IsName voidType := by decide +kernel
  cases rule with
  | nullable | sequence | anySequence | carried | record => trivial
  | reference name => exact absurd rfl ((wrapperOwn found).1 name)
  | fixed name => exact (wrapperOwn found).2 name rfl ▸ voidNamed

theorem ruleNamed {mapping : Mapping} (qualifies : Qualifies mapping.qualifier) {node : Signature}
    (plain : PlainNode node) : (mapping.ruleOf node).Named := by
  have cases : PlainName node.name ∨
      (mapping.isTarget node = false ∧ nodeWrapper? node = some .sequence) := by
    refine plain.imp_right ?_
    obtain ⟨name, arguments⟩ := node
    rintro ⟨rfl, single⟩
    obtain ⟨element, rfl⟩ := List.length_eq_one_iff.mp single
    exact ⟨arrayNotTarget qualifies, rfl⟩
  unfold ruleOf
  rcases cases with plain | ⟨source, wrapped⟩
  · cases mapping.isTarget node with
    | true => exact plain.named
    | false =>
      cases found : nodeWrapper? node with
      | some rule => exact wrapperNamed found
      | none =>
        cases scalar : scalar? node.name with
        | some type => exact scalarNamed scalar
        | none =>
          cases mapping.isDomain node.name with
          | true => exact qualifiedNamed qualifies (simpleIdentifier plain)
          | false => exact anyNamed
  · rw [source, wrapped]
    trivial

theorem mapRule (mapping : Mapping) (name : Text) (arguments : List Signature) :
    mapping.map [] (.node name arguments) =
      (mapping.ruleOf (.node name arguments)).text (arguments.map (mapping.map [])) := by
  have count : (arguments.map (mapping.map [])).length = arguments.length := List.length_map _
  rw [← ruleText mapping (.node name arguments) count, map, Signature.foldNode]

theorem mapTarget {mapping : Mapping} {name : Text} {arguments : List Signature}
    (target : mapping.isTarget (.node name arguments) = true) :
    mapping.map [] (.node name arguments) = applied name (arguments.map (mapping.map [])) := by
  simp [map, Signature.foldNode, mapNode, target, Signature.name]

theorem printedMap {mapping : Mapping} (qualifies : Qualifies mapping.qualifier) {tree : Signature}
    (plain : PlainTree tree) : Printed (mapping.map [] tree) (mapping.typeOf tree) := by
  induction tree using Signature.treeInduction with
  | node name arguments ih =>
    unfold PlainTree at plain
    rw [Signature.walkNode] at plain
    have here := ruleNamed qualifies (plain _ List.mem_cons_self)
    have below : ∀ argument ∈ arguments, Printed (mapping.map [] argument) (mapping.typeOf argument) := by
      intro argument member
      refine ih argument member fun node inside => plain node ?_
      exact List.mem_cons_of_mem _ (List.mem_flatMap.mpr ⟨argument, member, inside⟩)
    have each : List.Forall₂ Printed (arguments.map (mapping.map [])) (arguments.map mapping.typeOf) :=
      List.forall₂_map_left_iff.mpr (List.forall₂_map_right_iff.mpr (List.forall₂_same.mpr below))
    rw [mapRule, typeOf, Signature.foldNode]
    exact printedRule here each

theorem mappedMeaning {mapping : Mapping} (qualifies : Qualifies mapping.qualifier) :
    (∀ tree, PlainTree tree → ∀ type,
        Reads .union (mapping.map [] tree) type ↔ type = mapping.typeOf tree) ∧
      ∀ first second, PlainTree first → PlainTree second →
        mapping.map [] first = mapping.map [] second → mapping.typeOf first = mapping.typeOf second := by
  refine ⟨fun tree plain type => ⟨fun reads => ?_, ?_⟩, fun first second plain plain' same => ?_⟩
  · exact TypeTerm.readsUnique reads (printedMap qualifies plain).reads
  · rintro rfl
    exact (printedMap qualifies plain).reads
  · have reads := (printedMap qualifies plain).reads
    rw [same] at reads
    exact TypeTerm.readsUnique reads (printedMap qualifies plain').reads

def sampleMapping : Mapping :=
  ⟨"Shop", "types."⟩

def sampleItem : Signature :=
  .node "Nullable" [.node "System.Nullable" [.node "Shop.Box+Item" [.leaf "System.Int32"]]]

def sampleTask : Signature :=
  .node "Task" [.node "[]" [sampleItem]]

def sampleList : Signature :=
  .node "List" [sampleItem]

def sampleText : Text :=
  "(null | types.Item<number>)[]"

def sampleType : TypeTerm :=
  .array (.union (.name "null") (.generic "types.Item" [.name "number"]))

/- Wrappers under the framework's namespaces, and names that only end as wrappers do. -/
def sampleForeign : Signature :=
  .node "Shop.Task" [.node "Microsoft.AspNetCore.Mvc.ActionResult" [.leaf "System.Int32"],
    .node "Other.List" [.leaf "System.Int32"]]

def sampleForeignText : Text :=
  "types.Task<number, any>"

def sampleForeignType : TypeTerm :=
  .generic "types.Task" [.name "number", .name "any"]

theorem mappedMeaningNested :
    Qualifies sampleMapping.qualifier ∧
      PlainTree sampleTask ∧ PlainTree sampleList ∧ PlainTree sampleForeign ∧
      (sampleMapping.map [] sampleTask = sampleText ∧
        sampleMapping.typeOf sampleTask = sampleType ∧
        ∀ type, Reads .union sampleText type ↔ type = sampleType) ∧
      (sampleMapping.map [] sampleForeign = sampleForeignText ∧
        sampleMapping.typeOf sampleForeign = sampleForeignType ∧
        ∀ type, Reads .union sampleForeignText type ↔ type = sampleForeignType) ∧
      sampleMapping.map [] sampleTask = sampleMapping.map [] sampleList ∧
      sampleMapping.typeOf sampleTask = sampleMapping.typeOf sampleList := by
  have qualifies : Qualifies sampleMapping.qualifier := .inr ⟨"types", by decide +kernel, rfl⟩
  have plain : PlainTree sampleTask := by decide +kernel
  have plain' : PlainTree sampleList := by decide +kernel
  have foreign : PlainTree sampleForeign := by decide +kernel
  have mapped : sampleMapping.map [] sampleTask = sampleText := by decide +kernel
  have mapped' : sampleMapping.map [] sampleList = sampleText := by decide +kernel
  have mappedForeign : sampleMapping.map [] sampleForeign = sampleForeignText := by decide +kernel
  have same := mapped.trans mapped'.symm
  have meant : sampleMapping.typeOf sampleTask = sampleType := rfl
  have meantForeign : sampleMapping.typeOf sampleForeign = sampleForeignType := rfl
  obtain ⟨reads, apart⟩ := mappedMeaning qualifies
  exact ⟨qualifies, plain, plain', foreign,
    ⟨mapped, meant, mapped ▸ meant ▸ reads sampleTask plain⟩,
    ⟨mappedForeign, meantForeign, mappedForeign ▸ meantForeign ▸ reads sampleForeign foreign⟩,
    same, apart sampleTask sampleList plain plain' same⟩

end Mapping

end TypedClient
