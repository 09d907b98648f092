import TypedClient.Proofs.Collections
import TypedClient.Emission

/-!
The types of the namespace beside the names of the domain. The emission looks at the namespace of a
type, the mapping at its whole name, and both compare up to a dot. They part only where the prefix is
itself the name of a type: the mapping takes this name for one of the domain, and the type is not
inside the namespace.
-/

namespace TypedClient.Emission

variable {configuration : Configuration} {type : DataType} {start own name : Text}

/- A last part without dots does not reach into the namespace. -/
theorem withinName (dotless : '.' ∉ name) :
    start ++ ['.'] <+: own ++ '.' :: name ↔ own = start ∨ start ++ ['.'] <+: own := by
  constructor
  · rintro ⟨rest, whole⟩
    rw [List.append_assoc, List.singleton_append] at whole
    rcases List.append_eq_append_iff.mp whole with ⟨middle, ownEq, tail⟩ | ⟨middle, startEq, tail⟩
    · cases middle with
      | nil => exact .inl (by simpa using ownEq)
      | cons c middle =>
        obtain ⟨rfl, _⟩ := List.cons.inj tail
        exact .inr ⟨middle, by rw [ownEq, List.append_assoc, List.singleton_append]⟩
    · cases middle with
      | nil => exact .inl (by simpa using startEq.symm)
      | cons c middle =>
        obtain ⟨_, inside⟩ := List.cons.inj tail
        exact absurd (inside ▸ List.mem_append_right _ List.mem_cons_self) dotless
  · rintro (rfl | inside)
    · exact ⟨name, by simp⟩
    · exact inside.trans (List.prefix_append _ _)

def startOf (configuration : Configuration) : Text :=
  Text.dropEndWhile (· == '.') configuration.namespacePrefix

def ownNamespace (type : DataType) : Text :=
  type.namespaceName.getD []

theorem inScopeIff (bounded : startOf configuration ≠ []) :
    inScope configuration type = true ↔
      ownNamespace type = startOf configuration ∨
        startOf configuration ++ ['.'] <+: ownNamespace type := by
  change ((startOf configuration).isEmpty || ownNamespace type == startOf configuration ||
    (startOf configuration ++ ['.']).isPrefixOf (ownNamespace type)) = true ↔ _
  rw [List.isEmpty_eq_false_iff.mpr bounded, Bool.false_or, Bool.or_eq_true, beq_iff_eq,
    List.isPrefixOf_iff_prefix]

theorem isDomainIff (bounded : startOf configuration ≠ []) (qualifier name : Text) :
    (Mapping.ofPrefix configuration.namespacePrefix qualifier).isDomain name = true ↔
      name = startOf configuration ∨ startOf configuration ++ ['.'] <+: name :=
  Mapping.domainIff.trans (and_iff_right bounded)

theorem outsideOwnName (bounded : startOf configuration ≠ [])
    (whole : ownNamespace type ++ '.' :: name = startOf configuration) :
    inScope configuration type = false := by
  refine Bool.eq_false_iff.mpr fun inside => ?_
  have longer := congrArg List.length whole
  simp only [List.length_append, List.length_cons] at longer
  rcases (inScopeIff bounded).mp inside with same | within
  · rw [same] at longer
    omega
  · have shorter := within.length_le
    rw [List.length_append] at shorter
    omega

theorem domainScopeIff (qualifier : Text) (dotless : '.' ∉ name)
    (bounded : startOf configuration ≠ []) :
    ((Mapping.ofPrefix configuration.namespacePrefix qualifier).isDomain
        (ownNamespace type ++ '.' :: name) = true ↔
      inScope configuration type = true ∨
        ownNamespace type ++ '.' :: name = startOf configuration) ∧
    ((inScope configuration type = true ↔
        (Mapping.ofPrefix configuration.namespacePrefix qualifier).isDomain
          (ownNamespace type ++ '.' :: name) = true) ↔
      ownNamespace type ++ '.' :: name ≠ startOf configuration) := by
  have domain : (Mapping.ofPrefix configuration.namespacePrefix qualifier).isDomain
      (ownNamespace type ++ '.' :: name) = true ↔
        inScope configuration type = true ∨
          ownNamespace type ++ '.' :: name = startOf configuration := by
    rw [isDomainIff bounded, withinName dotless, inScopeIff bounded, or_comm]
  refine ⟨domain, ?_⟩
  rw [domain]
  constructor
  · intro alike whole
    have outside := outsideOwnName bounded whole
    rw [alike.mpr (.inr whole)] at outside
    contradiction
  · intro different
    exact ⟨.inl, fun either => either.resolve_right different⟩

def modelsConfiguration : Configuration :=
  { Configuration.standard with namespacePrefix := "Shop.Models." }

def invoiceType : DataType :=
  ⟨"Invoice", some "Shop.Models.Billing", none, [], [], [], none, none⟩

theorem domainScopeInvoice :
    ('.' : Char) ∉ ("Invoice" : Text) ∧ startOf modelsConfiguration ≠ [] ∧
      inScope modelsConfiguration invoiceType = true ∧
      (Mapping.ofPrefix modelsConfiguration.namespacePrefix "types.").isDomain
        "Shop.Models.Billing.Invoice" = true := by
  have dotless : ('.' : Char) ∉ ("Invoice" : Text) := by decide
  have bounded : startOf modelsConfiguration ≠ [] := by decide
  have inside : inScope modelsConfiguration invoiceType = true := by decide
  exact ⟨dotless, bounded, inside, (domainScopeIff "types." dotless bounded).1.mpr (.inl inside)⟩

def ownedTypes : TypeTable :=
  [("Shop.Widget", ⟨"Widget", some "Shop", none, [], [], [], none, none⟩),
    ("Shop.Widget.Part", ⟨"Part", some "Shop.Widget", none, [],
      [⟨"owner", "Shop.Widget", false, true, none, none⟩], [], none, none⟩)]

def widgetConfiguration : Configuration :=
  { Configuration.standard with namespacePrefix := "Shop.Widget" }

def partSource : Text :=
  "export interface Part \x7b\n  owner: Widget;\n\x7d\n"

theorem ownerNotDeclared :
    (∃ emission, ofTypes widgetConfiguration ownedTypes = .ok emission ∧
      emission.skipped = ["Shop.Widget"] ∧
      (("Part.ts" : Text), partSource) ∈ emission.files ∧
      ("Widget.ts" : Text) ∉ Assoc.keys emission.files) ∧
    ¬ ∀ (configuration : Configuration) (qualifier name : Text) (type : DataType), '.' ∉ name →
      startOf configuration ≠ [] →
        (inScope configuration type = true ↔
          (Mapping.ofPrefix configuration.namespacePrefix qualifier).isDomain
            (ownNamespace type ++ '.' :: name) = true) := by
  have run : (ofTypes widgetConfiguration ownedTypes).toOption.any (fun emission =>
      emission.skipped = ["Shop.Widget"].map String.toList ∧
        (("Part.ts" : Text), partSource) ∈ emission.files ∧
        ("Widget.ts" : Text) ∉ Assoc.keys emission.files) = true := by decide +kernel
  obtain ⟨emission, ok, found⟩ := Results.okOfAny run
  refine ⟨⟨emission, ok, of_decide_eq_true found⟩, fun all => ?_⟩
  have alike := all widgetConfiguration [] "Widget"
    ⟨"Widget", some "Shop", none, [], [], [], none, none⟩ (by decide) (by decide)
  exact absurd (alike.mpr (by decide)) (by decide)

end TypedClient.Emission
