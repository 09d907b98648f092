import TypedClient.Proofs.Mapping.TypeMeaning
import TypedClient.Proofs.Signature.Reading

/-!
Mapped types as signatures. A type that the mapping wrote is read back as a signature, and with a
qualifier every name in it is one that the mapping passes over: it is a name of TypeScript, or it has the
qualifier. So mapping a type once more does not change it.
-/

namespace TypedClient

namespace TypeTerm

open Signature (arrayName comma Plain)

theorem blankNotName {c : Char} (blank : Text.blank c = true) : nameChar c = false := by
  have each : ∀ range ∈ Text.blankRanges, ∀ n ∈ List.range' range.1 (range.2 + 1 - range.1),
      nameChar (Char.ofNat n) = false := by decide +kernel
  obtain ⟨range, member, inside⟩ := List.any_eq_true.mp blank
  simp only [Bool.and_eq_true, decide_eq_true_eq] at inside
  have here := each range member c.toNat (List.mem_range'_1.mpr (by omega))
  rwa [Char.ofNat_toNat] at here

theorem nameVisible {c : Char} (named : nameChar c = true) : Text.blank c = false := by
  cases blank : Text.blank c with
  | false => rfl
  | true => simp [blankNotName blank] at named

theorem IsName.starts {name : Text} (named : IsName name) : Text.Starts name := by
  obtain ⟨c, rest, rfl⟩ := List.exists_cons_of_ne_nil named.1
  exact ⟨c, rest, rfl, nameVisible (named.2 c List.mem_cons_self)⟩

theorem IsName.ends {name : Text} (named : IsName name) : Text.Ends name := by
  have last := List.dropLast_append_getLast named.1
  exact ⟨_, _, last.symm, nameVisible (named.2 _ (List.getLast_mem named.1))⟩

theorem IsName.without {name : Text} (named : IsName name) {c : Char} (other : nameChar c = false) :
    c ∉ name := by
  intro member
  simp [named.2 c member] at other

theorem IsName.plain {name : Text} (named : IsName name) : ∀ c ∈ name, Plain c := by
  intro c member
  refine ⟨?_, ?_, ?_⟩ <;> rintro rfl <;> exact named.without (by decide) member

theorem IsName.read {name : Text} (named : IsName name) : Signature.parse name = .leaf name := by
  have ends : ∀ {ending : Text} {c : Char}, c ∈ ending → nameChar c = false → ¬ ending <:+ name :=
    fun inside other suffix => named.without other (suffix.subset inside)
  exact Signature.parseName (Text.stripOf named.starts named.ends)
    (ends (c := ']') (by decide) (by decide)) (ends (c := '?') (by decide) (by decide))
    (named.without (by decide))

/- After a comma comes a space, which belongs to the next piece. -/
def spaced : List Text → List Text
  | [] => []
  | first :: rest => first :: rest.map (' ' :: ·)

theorem spacedNonempty {texts : List Text} (nonempty : texts ≠ []) : spaced texts ≠ [] := by
  cases texts with
  | nil => contradiction
  | cons first rest => exact List.cons_ne_nil _ _

theorem memSpaced {texts : List Text} {piece : Text} (member : piece ∈ spaced texts) :
    ∃ before, Text.isBlank before = true ∧ ∃ text ∈ texts, piece = before ++ text := by
  cases texts with
  | nil => simp [spaced] at member
  | cons first rest =>
    rcases List.mem_cons.mp member with rfl | later
    · exact ⟨[], rfl, piece, List.mem_cons_self, rfl⟩
    · obtain ⟨text, inside, rfl⟩ := List.mem_map.mp later
      exact ⟨[' '], by decide, text, List.mem_cons_of_mem _ inside, rfl⟩

theorem spacedSolid {texts : List Text} (solid : ∀ text ∈ texts, Signature.Solid text) :
    ∀ piece ∈ spaced texts, Signature.Solid piece := by
  intro piece member
  obtain ⟨before, blanks, text, inside, rfl⟩ := memSpaced member
  exact Signature.solidAppend (Signature.solidBlank blanks) (solid text inside)

theorem intercalateExtended (c : Char) (first : Text) (rest : List Text) :
    comma.intercalate ((c :: first) :: rest) = c :: comma.intercalate (first :: rest) := by
  cases rest <;> simp [List.intercalate_cons_cons]

theorem intercalateSpaced (texts : List Text) :
    separator.intercalate texts = comma.intercalate (spaced texts) := by
  induction texts with
  | nil => rfl
  | cons first rest ih =>
    cases rest with
    | nil => simp [spaced]
    | cons second others =>
      rw [List.intercalate_cons_cons, ih]
      simp only [spaced, List.map_cons, List.intercalate_cons_cons, intercalateExtended]
      simp [separator, comma]

theorem memIntercalate {between : Text} {texts : List Text} {c : Char}
    (member : c ∈ between.intercalate texts) : c ∈ between ∨ ∃ text ∈ texts, c ∈ text := by
  induction texts with
  | nil => simp at member
  | cons first rest ih =>
    cases rest with
    | nil => exact .inr ⟨first, List.mem_cons_self, by simpa using member⟩
    | cons second others =>
      rw [List.intercalate_cons_cons, List.append_assoc] at member
      simp only [List.mem_append] at member
      rcases member with here | here | later
      · exact .inr ⟨first, List.mem_cons_self, here⟩
      · exact .inl here
      · exact (ih later).imp_right fun ⟨text, inside, found⟩ =>
          ⟨text, List.mem_cons_of_mem _ inside, found⟩

end TypeTerm

namespace Mapping

open Signature (arrayName comma leaf Kept Solid)
open TypeTerm (IsName nameChar separator spaced)

variable {mapping : Mapping} {text base : Text} {texts : List Text}

/- A text that the mapping leaves alone, also as an argument. A union is kept as it is written, and any
other text is read as a signature of which it is the type. -/
structure Stable (mapping : Mapping) (text : Text) : Prop where
  starts : Text.Starts text
  ends : Text.Ends text
  solid : Solid text
  noAnd : '&' ∉ text
  kept : '|' ∉ text → Kept (Signature.parse text)
  mapped : '|' ∉ text → mapping.map [] (Signature.parse text) = text

theorem Stable.again (stable : Stable mapping text) : mapping.mapText [] text = text := by
  unfold mapText
  split
  · exact Text.stripOf stable.starts stable.ends
  · rename_i signature
    exact stable.mapped signature

theorem stableUnion (starts : Text.Starts text) (ends : Text.Ends text) (solid : Solid text)
    (noAnd : '&' ∉ text) (union : '|' ∈ text) : Stable mapping text :=
  ⟨starts, ends, solid, noAnd, fun plain => absurd union plain, fun plain => absurd union plain⟩

theorem stableName (named : IsName text) (target : mapping.isTarget (leaf text) = true) :
    Stable mapping text where
  starts := named.starts
  ends := named.ends
  solid := Signature.solidPlain named.plain
  noAnd := named.without (by decide)
  kept := by
    intro _
    have noOpening : '<' ∉ text := named.without (by decide)
    have noClosing : '>' ∉ text := named.without (by decide)
    rw [named.read]
    exact ⟨named.1, by simp [leaf, Signature.isMalformed, Signature.name, noOpening, noClosing]⟩
  mapped := by
    intro _
    rw [named.read]
    exact mapTarget target

theorem spacedPieces (each : ∀ text ∈ texts, Stable mapping text) :
    ∀ piece ∈ spaced texts, Solid piece ∧ Text.isBlank piece = false := by
  intro piece member
  refine ⟨TypeTerm.spacedSolid (fun text inside => (each text inside).solid) piece member, ?_⟩
  obtain ⟨before, blanks, text, inside, rfl⟩ := TypeTerm.memSpaced member
  have visible := (each text inside).starts.visible
  simp only [Text.isBlank, List.all_append] at visible ⊢
  rw [visible, Bool.and_false]

theorem parseArguments (named : IsName base) (nonempty : texts ≠ [])
    (each : ∀ text ∈ texts, Stable mapping text) :
    Signature.parse (base ++ '<' :: separator.intercalate texts ++ ['>']) =
      .node base (texts.map Signature.parse) := by
  have space : Text.isBlank [' '] = true := by decide
  have later : ∀ text, Signature.parse (' ' :: text) = Signature.parse text :=
    Signature.parseBefore space
  have read : (spaced texts).map Signature.parse = texts.map Signature.parse := by
    cases texts <;> simp [spaced, later]
  have cut : Signature.splitArguments (separator.intercalate texts) = some (spaced texts) := by
    exact Signature.splitArgumentsIff.mpr
      ⟨TypeTerm.spacedNonempty nonempty, spacedPieces each, TypeTerm.intercalateSpaced texts⟩
  rw [Signature.parseBracketed named.starts.visible (named.without (by decide)), cut]
  simp only [read, Text.stripOf named.starts named.ends]

theorem appliedGeneric (nonempty : texts ≠ []) :
    applied base texts = base ++ '<' :: separator.intercalate texts ++ ['>'] := by
  simp [applied, separator, nonempty]

theorem stableGeneric (named : IsName base) (nonempty : texts ≠ [])
    (target : mapping.isTarget (.node base (texts.map Signature.parse)) = true)
    (each : ∀ text ∈ texts, Stable mapping text) : Stable mapping (applied base texts) := by
  have read := parseArguments named nonempty each
  rw [appliedGeneric nonempty]
  refine ⟨?_, ⟨_, '>', rfl, by decide⟩, ?_, ?_, fun _ => ?_, fun plain => ?_⟩
  · rw [List.append_assoc]
    exact named.starts.append _
  · rw [TypeTerm.intercalateSpaced]
    exact Signature.solidBracketed named.plain fun piece member => (spacedPieces each piece member).1
  · have inside : '&' ∉ separator.intercalate texts := by
      intro member
      rcases TypeTerm.memIntercalate member with between | ⟨text, among, found⟩
      · exact absurd between (by decide)
      · exact (each text among).noAnd found
    simp [named.without (c := '&') (by decide), inside]
  · rw [read]
    exact ⟨named.1, by simp [Signature.isMalformed, Signature.arguments, nonempty]⟩
  · have same : ∀ text ∈ texts, mapping.map [] (Signature.parse text) = text := by
      intro text member
      refine (each text member).mapped fun bar => plain ?_
      have among := (Text.infixIntercalate separator member).subset bar
      simp [among]
    have mapped : (texts.map Signature.parse).map (mapping.map []) = texts := by
      rw [List.map_map]
      exact (List.map_congr_left same).trans (List.map_id' texts)
    rw [read, mapTarget target, mapped, appliedGeneric nonempty]

theorem mapArray (qualifies : Qualifies mapping.qualifier) (element : Signature) :
    mapping.map [] (.node arrayName [element]) = arrayOf (mapping.map [] element) := by
  have rule : mapping.ruleOf (.node arrayName [element]) = .sequence := by
    rw [ruleOf, arrayNotTarget qualifies]
    rfl
  rw [mapRule, rule]
  rfl

theorem endsAppend {first second : Text} (ends : Text.Ends second) : Text.Ends (first ++ second) := by
  obtain ⟨front, c, rfl, visible⟩ := ends
  exact ⟨first ++ front, c, by simp, visible⟩

theorem stableArray (qualifies : Qualifies mapping.qualifier) (stable : Stable mapping text) :
    Stable mapping (arrayOf text) := by
  by_cases union : '|' ∈ text
  · have grouped : arrayOf text = ['('] ++ text ++ ")[]" := if_pos (.inl union)
    rw [grouped]
    refine stableUnion ⟨'(', _, rfl, by decide⟩ (endsAppend ⟨[')', '['], ']', by decide, by decide⟩)
      ?_ (by simp [stable.noAnd]) (by simp [union])
    exact Signature.solidAppend (Signature.solidAppend (by decide) stable.solid) (by decide)
  · have suffixed : arrayOf text = text ++ arrayName := if_neg (by simp [union, stable.noAnd])
    have read : Signature.parse (text ++ arrayName) = .node arrayName [Signature.parse text] := by
      rw [Signature.parseArray stable.starts.visible, Signature.wrapKept (stable.kept union)]
    rw [suffixed]
    refine ⟨stable.starts.append _, endsAppend ⟨['['], ']', by decide, by decide⟩,
      Signature.solidAppend stable.solid (by decide), by simp [stable.noAnd, arrayName], ?_, ?_⟩
    · intro _
      rw [read]
      exact ⟨List.cons_ne_nil _ _, rfl⟩
    · intro _
      rw [read, mapArray qualifies, stable.mapped union, suffixed]

theorem stableNullable (stable : Stable mapping text) : Stable mapping (nullable text) := by
  unfold nullable
  split
  · exact stable
  · refine stableUnion ⟨'n', _, rfl, by decide⟩ (endsAppend stable.ends)
      (Signature.solidAppend (by decide) stable.solid) ?_ ?_
    · rw [List.mem_append, not_or]
      exact ⟨by decide, stable.noAnd⟩
    · exact List.mem_append_left _ (by decide)

theorem builtinTarget {name : Text} (builtin : name ∈ builtinTypes) :
    mapping.isTarget (leaf name) = true := by
  simp [isTarget, leaf, Signature.name, Signature.arguments, builtin]

theorem genericTarget {name : Text} (generic : name ∈ genericTypes) (first : Signature)
    (rest : List Signature) : mapping.isTarget (.node name (first :: rest)) = true := by
  simp [isTarget, Signature.name, Signature.arguments, generic]

theorem stableKey (stable : Stable mapping text) :
    Stable mapping (if text = "string" ∨ text = "number" then text else "string") := by
  split
  · exact stable
  · exact stableName (by decide +kernel) (builtinTarget (by decide))

theorem stableRecord {key value : Text} (stable : Stable mapping key)
    (stableValue : Stable mapping value) : Stable mapping (recordText key value) := by
  have generic : TypeTerm.recordName ∈ genericTypes := by decide
  rw [recordWhole, ← appliedGeneric (List.cons_ne_nil _ _)]
  refine stableGeneric (by decide +kernel) (List.cons_ne_nil _ _) (genericTarget generic _ _) ?_
  intro text member
  rcases List.mem_cons.mp member with rfl | later
  · exact stableKey stable
  · exact List.mem_singleton.mp later ▸ stableValue

def Rule.Passes (mapping : Mapping) (alone : Bool) : Rule → Prop
  | .reference name => ∀ arguments : List Signature, arguments.isEmpty = alone →
      mapping.isTarget (.node name arguments) = true
  | .fixed name => name ∈ builtinTypes
  | _ => True

theorem stableRule (qualifies : Qualifies mapping.qualifier) {rule : Rule} (named : rule.Named)
    (passes : rule.Passes mapping texts.isEmpty) (each : ∀ text ∈ texts, Stable mapping text) :
    Stable mapping (rule.text texts) := by
  have other : Stable mapping anyType := stableName anyNamed (builtinTarget (by decide))
  cases rule with
  | reference name =>
    by_cases none : texts = []
    · subst none
      exact stableName named (passes [] rfl)
    · exact stableGeneric named none (passes _ List.isEmpty_map) each
  | fixed name => exact stableName named (builtinTarget passes)
  | anySequence => exact stableArray qualifies other
  | nullable =>
    match texts with
    | [] => exact other
    | [text] => exact stableNullable (each text List.mem_cons_self)
    | _ :: _ :: _ => exact other
  | sequence =>
    match texts with
    | [] => exact other
    | [text] => exact stableArray qualifies (each text List.mem_cons_self)
    | _ :: _ :: _ => exact other
  | carried =>
    match texts with
    | [] => exact other
    | [text] => exact each text List.mem_cons_self
    | _ :: _ :: _ => exact other
  | record =>
    match texts with
    | [] => exact other
    | [_] => exact other
    | [key, value] => exact stableRecord (each key List.mem_cons_self) (each value (by simp))
    | _ :: _ :: _ :: _ => exact other

theorem scalarBuiltin {name type : Text} (found : scalar? name = some type) : type ∈ builtinTypes := by
  have all : ∀ entry ∈ scalarAliases ++ scalarPrefixes, entry.2 ∈ builtinTypes := by decide +kernel
  obtain ⟨entry, listed, rfl⟩ := scalarListed found
  exact all entry listed

theorem wrapperPasses {isArray alone : Bool} {framework : Option Text} {count : Nat} {rule : Rule}
    (found : wrapperRule? isArray framework count = some rule) : rule.Passes mapping alone := by
  have builtin : voidType ∈ builtinTypes := by decide
  cases rule with
  | nullable | sequence | anySequence | carried | record => trivial
  | reference name => exact absurd rfl ((wrapperOwn found).1 name)
  | fixed name => exact (wrapperOwn found).2 name rfl ▸ builtin

theorem qualifiedTarget (qualified : mapping.qualifier ≠ []) (name : Text)
    (arguments : List Signature) :
    mapping.isTarget (.node (mapping.qualifier ++ name) arguments) = true := by
  have begins : mapping.qualifier.isPrefixOf (mapping.qualifier ++ name) = true :=
    List.isPrefixOf_iff_prefix.mpr (List.prefix_append _ _)
  simp [isTarget, Signature.name, begins, qualified]

theorem rulePasses (qualified : mapping.qualifier ≠ []) (node : Signature) :
    (mapping.ruleOf node).Passes mapping node.arguments.isEmpty := by
  unfold ruleOf
  split
  · rename_i target
    intro arguments alike
    obtain ⟨name, own⟩ := node
    exact (targetAlike mapping name alike).trans target
  · cases found : nodeWrapper? node with
    | some rule => exact wrapperPasses found
    | none =>
      cases scalar : scalar? node.name with
      | some type => exact scalarBuiltin scalar
      | none =>
        simp only []
        split
        · exact fun arguments _ => qualifiedTarget qualified _ arguments
        · exact (by decide : anyType ∈ builtinTypes)

theorem stableMap (qualifies : Qualifies mapping.qualifier) (qualified : mapping.qualifier ≠ [])
    {tree : Signature} (plain : PlainTree tree) : Stable mapping (mapping.map [] tree) := by
  induction tree using Signature.treeInduction with
  | node name arguments ih =>
    unfold PlainTree at plain
    rw [Signature.walkNode] at plain
    have named := ruleNamed qualifies (plain _ List.mem_cons_self)
    have passes := rulePasses qualified (.node name arguments)
    have alone : (arguments.map (mapping.map [])).isEmpty = arguments.isEmpty := List.isEmpty_map
    rw [mapRule]
    refine stableRule qualifies named (alone ▸ passes) fun text member => ?_
    obtain ⟨argument, inside, rfl⟩ := List.mem_map.mp member
    refine ih argument inside fun node below => plain node ?_
    exact List.mem_cons_of_mem _ (List.mem_flatMap.mpr ⟨argument, inside, below⟩)

theorem mappedAgain {mapping : Mapping} {word : Text} (identifier : IsIdentifier word)
    (qualified : mapping.qualifier = word ++ ['.']) {tree : Signature} (plain : PlainTree tree) :
    mapping.mapText [] (mapping.map [] tree) = mapping.map [] tree :=
  (stableMap (.inr ⟨word, identifier, qualified⟩) (by simp [qualified]) plain).again

def recordSignature : Signature :=
  .node "Dictionary" [.leaf "System.Guid", .node "List" [.node "[]"
    [.node "Shop.Outer+Pair" [.leaf "System.Int32", .leaf "Task", .leaf "Vendor.Thing",
      .node "Array" [.leaf "T0"]]]]]

theorem mappedAgainRecord :
    IsIdentifier "types" ∧ sampleMapping.qualifier = "types" ++ ['.'] ∧ PlainTree recordSignature ∧
      sampleMapping.map [] recordSignature =
        "Record<string, types.Pair<number, void, any, Array<T0>>[][]>" ∧
      sampleMapping.mapText [] "Record<string, types.Pair<number, void, any, Array<T0>>[][]>" =
        "Record<string, types.Pair<number, void, any, Array<T0>>[][]>" := by
  have identifier : IsIdentifier "types" := by decide +kernel
  have plain : PlainTree recordSignature := by decide +kernel
  have mapped : sampleMapping.map [] recordSignature =
      "Record<string, types.Pair<number, void, any, Array<T0>>[][]>" := by decide +kernel
  have again := @mappedAgain sampleMapping _ identifier rfl _ plain
  rw [mapped] at again
  exact ⟨identifier, rfl, plain, mapped, again⟩

end Mapping

end TypedClient
