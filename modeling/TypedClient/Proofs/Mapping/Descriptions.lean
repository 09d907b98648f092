import TypedClient.Proofs.Mapping.DomainNames
import TypedClient.Proofs.Mapping.ReturnTypes
import TypedClient.Proofs.Signature.Spelling

/-!
Results whose types the table describes. Asynchronous layers fall away before the table is asked, so
they change nothing for the type inside them. A description that says of a type of the domain what
its signature says changes nothing either: both ways unwrap the same types and write the same name
with the same arguments.
-/

namespace TypedClient.Mapping

open Signature (WellFormed)

variable {mapping : Mapping} {unwrapped : List Text} {types : TypeTable} {names : List Text}
  {signature inner : Signature}

/- The entry that describes a type: under its text, or else under the canonical text of what is left
of it without asynchronous layers. -/
inductive Describes (types : TypeTable) (text : Text) : Text → DataType → Prop where
  | written {type} (found : Assoc.find? text types = some type) : Describes types text text type
  | canonical {type} (missing : Assoc.find? text types = none)
      (found : Assoc.find? (stripAsync (Signature.parse text)).text types = some type) :
      Describes types text (stripAsync (Signature.parse text)).text type

theorem Describes.listed {types : TypeTable} {text key : Text} {type : DataType}
    (describes : Describes types text key type) : Assoc.find? key types = some type := by
  cases describes with
  | written found => exact found
  | canonical missing found => exact found

def Unwraps (unwrapped : List Text) (described : DataType) : Prop :=
  described.name ∈ unwrapped ∧ described.genericArguments.length = 1

theorem resolveWhole {mapping : Mapping} {unwrapped : List Text} {described : DataType}
    (whole : ¬ Unwraps unwrapped described) :
    mapping.resolveDescribed unwrapped described =
      applied (mapping.qualifier ++ described.name)
        (described.genericArguments.map (mapping.mapText [])) := by
  unfold resolveDescribed
  split
  · rename_i argument single
    have other : described.name ∉ unwrapped := fun listed => whole ⟨listed, by simp [single]⟩
    rw [if_neg other, single, List.map_singleton]
  · rfl

theorem resolveDescribes {mapping : Mapping} {unwrapped : List Text} {types : TypeTable}
    {text key : Text} {described : DataType} (visible : Text.isBlank text = false)
    (describes : Describes types text key described) (whole : ¬ Unwraps unwrapped described) :
    mapping.resolve unwrapped types text =
      applied (mapping.qualifier ++ described.name)
        (described.genericArguments.map (mapping.mapText [])) := by
  have found : (Assoc.find? text types).or
      (Assoc.find? (stripAsync (Signature.parse text)).text types) = some described := by
    cases describes with
    | written found => rw [found, Option.some_or]
    | canonical missing found => rw [missing, found, Option.none_or]
  rw [resolve, if_neg (by simp [visible])]
  simp only [found]
  exact resolveWhole whole

def IsAsync (signature : Signature) : Prop :=
  simpleName signature.name ∈ asyncNames ∧ signature.arguments.length = 1

instance (signature : Signature) : Decidable (IsAsync signature) :=
  inferInstanceAs (Decidable (_ ∧ _))

def enclosed (names : List Text) (inner : Signature) : Signature :=
  names.foldr (fun name within => .node name [within]) inner

def resolveBare (mapping : Mapping) (unwrapped : List Text) (types : TypeTable)
    (signature : Signature) : Text :=
  match Assoc.find? signature.text types with
  | some described => mapping.resolveDescribed unwrapped described
  | none => mapping.resolveSignature unwrapped signature

theorem stripOther (bare : ¬ IsAsync signature) : stripAsync signature = signature := by
  obtain ⟨name, arguments⟩ := signature
  match arguments with
  | [] | _ :: _ :: _ => rfl
  | [argument] =>
    have other : simpleName name ∉ asyncNames := fun async => bare ⟨async, rfl⟩
    rw [stripAsync, if_neg other]

theorem stripEnclosed (async : ∀ name ∈ names, simpleName name ∈ asyncNames) :
    stripAsync (enclosed names inner) = stripAsync inner := by
  induction names with
  | nil => rfl
  | cons name rest ih =>
    have below := ih fun other member => async other (List.mem_cons_of_mem _ member)
    exact (stripLayer (async name List.mem_cons_self)).trans below

theorem wellFormedInner (wellFormed : WellFormed (enclosed names inner)) : WellFormed inner := by
  induction names with
  | nil => exact wellFormed
  | cons name rest ih => exact ih ((Signature.wellFormedNode.mp wellFormed).2 _ List.mem_cons_self)

/- The table is asked for the whole text and for what is left without layers; where it does not have
the first, or there are no layers, only the second counts. -/
theorem resolveStripped (wellFormed : WellFormed signature)
    (once : Assoc.find? signature.text types = none ∨ stripAsync signature = signature) :
    mapping.resolve unwrapped types signature.text =
      mapping.resolveBare unwrapped types (stripAsync signature) := by
  have spelled := Signature.spellsText signature
  have visible := (Signature.spellingPiece wellFormed spelled).2
  have asked : (Assoc.find? signature.text types).or
      (Assoc.find? (stripAsync signature).text types) =
        Assoc.find? (stripAsync signature).text types := by
    rcases once with missing | same
    · rw [missing, Option.none_or]
    · rw [same, Option.or_self]
  rw [resolve, if_neg (by simp [visible]), Signature.parseSpelled wellFormed spelled]
  simp only [asked]
  rfl

theorem layersIgnored (mapping : Mapping) (unwrapped : List Text)
    (wellFormed : WellFormed (enclosed names inner))
    (async : ∀ name ∈ names, simpleName name ∈ asyncNames) (bare : ¬ IsAsync inner)
    (unlisted : names ≠ [] → Assoc.find? (enclosed names inner).text types = none) :
    mapping.resolve unwrapped types (enclosed names inner).text =
        mapping.resolve unwrapped types inner.text ∧
      mapping.resolve unwrapped types inner.text =
        match Assoc.find? inner.text types with
        | some described => mapping.resolveDescribed unwrapped described
        | none => mapping.resolveSignature unwrapped inner := by
  have within := stripOther bare
  have plain : mapping.resolve unwrapped types inner.text =
      mapping.resolveBare unwrapped types inner := by
    rw [resolveStripped (wellFormedInner wellFormed) (.inr within), within]
  have stripped : stripAsync (enclosed names inner) = inner := (stripEnclosed async).trans within
  have once : Assoc.find? (enclosed names inner).text types = none ∨
      stripAsync (enclosed names inner) = enclosed names inner := by
    by_cases none : names = []
    · exact .inr (by rw [none]; exact within)
    · exact .inl (unlisted none)
  refine ⟨?_, plain⟩
  rw [resolveStripped wellFormed once, stripped, plain]

def resultSignature : Signature :=
  .node "Shop.Result" [.node "[]" [.leaf "Shop.Widget"]]

def resultTypes : TypeTable :=
  [("Shop.Result<Shop.Widget[]>", ⟨"Result", some "Shop", none, ["Shop.Widget[]"], [], [], none, none⟩)]

def layerNames : List Text :=
  ["System.Threading.Tasks.Task", "Shop.Task", "ValueTask"]

theorem layersIgnoredNested :
    WellFormed (enclosed layerNames resultSignature) ∧
      (∀ name ∈ layerNames, simpleName name ∈ asyncNames) ∧ ¬ IsAsync resultSignature ∧
      Assoc.find? (enclosed layerNames resultSignature).text resultTypes = none ∧
      shopMapping.resolve ["Result"] resultTypes (enclosed layerNames resultSignature).text =
        "types.Widget[]" := by
  have wellFormed : WellFormed (enclosed layerNames resultSignature) := by decide +kernel
  have async : ∀ name ∈ layerNames, simpleName name ∈ asyncNames := by decide +kernel
  have bare : ¬ IsAsync resultSignature := by decide +kernel
  have unlisted : Assoc.find? (enclosed layerNames resultSignature).text resultTypes = none := by
    decide +kernel
  obtain ⟨ignored, settled⟩ := layersIgnored shopMapping ["Result"] wellFormed async bare fun _ => unlisted
  refine ⟨wellFormed, async, bare, unlisted, ignored.trans (settled.trans ?_)⟩
  decide +kernel

theorem mapTextOf (wellFormed : WellFormed signature) (noBar : '|' ∉ signature.text) :
    mapping.mapText [] signature.text = mapping.map [] signature := by
  rw [mapText, if_neg noBar, Signature.parseSpelled wellFormed (Signature.spellsText signature)]

theorem mapArguments {name : Text} {arguments : List Signature}
    (wellFormed : WellFormed (.node name arguments)) (noBar : '|' ∉ (Signature.node name arguments).text) :
    (arguments.map Signature.text).map (mapping.mapText []) = arguments.map (mapping.map []) := by
  rw [List.map_map]
  refine List.map_congr_left fun argument member => ?_
  refine mapTextOf ((Signature.wellFormedNode.mp wellFormed).2 argument member) fun bar => ?_
  exact noBar ((Signature.argumentWithin member).subset bar)

def UnwrapsNode (unwrapped : List Text) (signature : Signature) : Prop :=
  simpleName signature.name ∈ unwrapped ∧ signature.arguments.length = 1

theorem signatureWhole (whole : ¬ UnwrapsNode unwrapped signature) :
    mapping.resolveSignature unwrapped signature = mapping.map [] signature := by
  obtain ⟨name, arguments⟩ := signature
  match arguments with
  | [] | _ :: _ :: _ => rfl
  | [argument] =>
    have other : simpleName name ∉ unwrapped := fun listed => whole ⟨listed, rfl⟩
    rw [resolveSignature, if_neg other]

theorem describedUnwrapped {described : DataType} {argument : Text}
    (listed : described.name ∈ unwrapped) (single : described.genericArguments = [argument]) :
    mapping.resolveDescribed unwrapped described = mapping.mapText [] argument := by
  simp only [resolveDescribed, single, if_pos listed]

theorem signatureUnwrapped {name : Text} {argument : Signature}
    (unwraps : UnwrapsNode unwrapped (.node name [argument])) :
    mapping.resolveSignature unwrapped (.node name [argument]) = mapping.map [] argument := by
  have listed : simpleName name ∈ unwrapped := unwraps.1
  rw [resolveSignature, if_pos listed]

theorem describedAlike {described : DataType} (wellFormed : WellFormed signature)
    (noBar : '|' ∉ signature.text) (domain : DomainName mapping signature.name)
    (named : described.name = simpleName signature.name)
    (arguments : described.genericArguments = signature.arguments.map Signature.text) :
    mapping.resolveDescribed unwrapped described =
      mapping.resolveSignature unwrapped signature := by
  have alike : Unwraps unwrapped described ↔ UnwrapsNode unwrapped signature := by
    rw [Unwraps, UnwrapsNode, named, arguments, List.length_map]
  obtain ⟨name, below⟩ := signature
  have mapped : described.genericArguments.map (mapping.mapText []) = below.map (mapping.map []) :=
    arguments ▸ mapArguments wellFormed noBar
  by_cases unwraps : UnwrapsNode unwrapped (.node name below)
  · obtain ⟨argument, rfl⟩ := List.length_eq_one_iff.mp unwraps.2
    rw [describedUnwrapped (alike.mpr unwraps).1 arguments, signatureUnwrapped unwraps]
    rw [arguments] at mapped
    exact (List.cons.inj mapped).1
  · rw [resolveWhole (mt alike.mp unwraps), signatureWhole unwraps, mapRule, mapped, named]
    exact congrArg (Rule.text · _) (domainRule domain below).symm

theorem descriptionConsistent {described : DataType} (unwrapped : List Text)
    (wellFormed : WellFormed signature) (noBar : '|' ∉ signature.text)
    (domain : DomainName mapping signature.name) (bare : simpleName signature.name ∉ asyncNames)
    (named : LastPart signature.name described.name)
    (arguments : described.genericArguments = signature.arguments.map Signature.text)
    (before after : TypeTable) (missing : Assoc.find? signature.text (before ++ after) = none) :
    mapping.resolve unwrapped (before ++ (signature.text, described) :: after) signature.text =
      mapping.resolve unwrapped (before ++ after) signature.text := by
  have whole : stripAsync signature = signature := stripOther fun async => bare async.1
  obtain ⟨free, _⟩ := Option.or_eq_none_iff.mp (Assoc.findAppend before after _ ▸ missing)
  have found : Assoc.find? signature.text (before ++ (signature.text, described) :: after) =
      some described := by
    rw [Assoc.findAppend, free, Option.none_or, Assoc.find?, if_pos rfl]
  rw [resolveStripped wellFormed (.inr whole), resolveStripped wellFormed (.inr whole), whole]
  simp only [resolveBare, found, missing]
  exact describedAlike wellFormed noBar domain (simpleNameLast named).symm arguments

def widgetTypes : TypeTable :=
  [("Shop.Widget", ⟨"Widget", some "Shop", none, [], [], [], none, none⟩)]

def pageSignature : Signature :=
  .node "Shop.Models.Page" [.leaf "Shop.Widget", .node "System.Nullable" [.leaf "System.Int32"]]

def pageType : DataType :=
  ⟨"Page", some "Shop.Models", none, ["Shop.Widget", "System.Nullable<System.Int32>"], [], [], none, none⟩

theorem descriptionConsistentPage :
    WellFormed pageSignature ∧ DomainName shopMapping pageSignature.name ∧
      LastPart pageSignature.name pageType.name ∧
      Assoc.find? pageSignature.text (resultTypes ++ widgetTypes) = none ∧
      shopMapping.resolve ["Page"] (resultTypes ++ (pageSignature.text, pageType) :: widgetTypes)
        pageSignature.text = "types.Page<types.Widget, null | number>" := by
  have wellFormed : WellFormed pageSignature := by decide +kernel
  have noBar : '|' ∉ pageSignature.text := by decide +kernel
  have domain : DomainName shopMapping pageSignature.name :=
    ⟨by decide, by decide, by decide, by decide, by decide, by decide⟩
  have bare : simpleName pageSignature.name ∉ asyncNames := by decide +kernel
  have named : LastPart pageSignature.name pageType.name := simpleNameIff.mp (by decide)
  have arguments : pageType.genericArguments = pageSignature.arguments.map Signature.text := by
    decide +kernel
  have missing : Assoc.find? pageSignature.text (resultTypes ++ widgetTypes) = none := by
    decide +kernel
  have same := descriptionConsistent ["Page"] wellFormed noBar domain bare named arguments _ _ missing
  refine ⟨wellFormed, domain, named, missing, same.trans ?_⟩
  rw [resolveStripped wellFormed (.inr (stripOther fun async => bare async.1))]
  decide +kernel

end TypedClient.Mapping
