import TypedClient.Loading
import TypedClient.Proofs.Loading.FaultSources

/-!
How loading ends. A description that cannot be used is a result with its kind, and settings that
cannot be used are a fault with a message. But neither loader is prepared for a YAML reader that
stops with something else than a YAML error, nor the settings for a file that is no text. What each
loader returns is told by a relation, and where it returns nothing by an exact condition.
-/

namespace TypedClient

variable {α ε : Type} {tree : FileTree} {path : Path} {name text : Text} {bytes : List UInt8}
  {fault : Yaml.Fault}

theorem Results.iffOfCases {run : Except ε α} {Returns : α → Prop} {Stops : ε → Prop}
    (returned : ∀ value, Returns value → run = .ok value)
    (stopped : ∀ cause, Stops cause → run = .error cause)
    (total : (∃ value, Returns value) ∨ ∃ cause, Stops cause) :
    (∀ value, run = .ok value ↔ Returns value) ∧ ∀ cause, run = .error cause ↔ Stops cause := by
  rcases total with ⟨value, returns⟩ | ⟨cause, stops⟩
  · have ran := returned value returns
    refine ⟨fun other => ⟨fun ok => ?_, returned other⟩, fun cause => ⟨fun error => ?_, stopped cause⟩⟩
    · rw [ran] at ok
      exact Except.ok.inj ok ▸ returns
    · rw [ran] at error
      cases error
  · have ran := stopped cause stops
    refine ⟨fun value => ⟨fun ok => ?_, returned value⟩, fun other => ⟨fun error => ?_, stopped other⟩⟩
    · rw [ran] at ok
      cases ok
    · rw [ran] at error
      exact Except.error.inj error ▸ stops

/- The YAML reader stops, and not because the text is no YAML. -/
def Foreign (text : Text) (fault : Yaml.Fault) : Prop :=
  Yaml.read text = .error fault ∧ fault ≠ .malformed

def FileTree.Holds (tree : FileTree) (path : Path) (text : Text) : Prop :=
  ∃ bytes, tree.readBytes path = .ok bytes ∧ decodeText? bytes = some text

def FileTree.HoldsNoText (tree : FileTree) (path : Path) : Prop :=
  ∃ bytes, tree.readBytes path = .ok bytes ∧ decodeText? bytes = none

namespace FileTree

theorem locateOfFind {entry : FileEntry} (found : tree.find? path = some entry) :
    ∃ place, tree.locate path = .ok place ∧ tree.entry? place = some entry := by
  unfold find? at found
  split at found
  · rename_i place located
    exact ⟨place, located, found⟩
  · contradiction

theorem readBytesOfFind (found : tree.find? path = some (.file bytes)) :
    tree.readBytes path = .ok bytes := by
  obtain ⟨place, located, entry⟩ := locateOfFind found
  simp only [readBytes, located, entry]

theorem locateOfRead (read : tree.readBytes path = .ok bytes) :
    ∃ place, tree.locate path = .ok place := by
  unfold readBytes at read
  split at read
  · contradiction
  · exact ⟨_, by assumption⟩

end FileTree

namespace Description

inductive Means (text : Text) : Option Value → Prop where
  | yaml {value : Value} (read : Yaml.read text = .ok value) : Means text (some value)
  | json {value : Value} (refused : Yaml.read text = .error .malformed)
      (read : Json.read? text = some value) : Means text (some value)
  | nothing (refused : Yaml.read text = .error .malformed) (unread : Json.read? text = none) :
      Means text none

inductive Parses (text : Text) : Except LoadFault Description → Prop where
  | model {fields : Fields} {description : Description} (means : Means text (some (.map fields)))
      (valid : Check.description (.map fields) = .valid description) :
      Parses text (.ok description)
  | invalid {fields : Fields} {problems : List Problem} (means : Means text (some (.map fields)))
      (bad : Check.description (.map fields) = .invalid problems) :
      Parses text (.error (.invalid problems))
  | malformed {value : Option Value} (means : Means text value)
      (other : ∀ fields, value ≠ some (.map fields)) : Parses text (.error .malformed)

/- A path that no file system can have is not a file that cannot be read. -/
inductive Loads (tree : FileTree) (path : Path) : Except LoadFault Description → Prop where
  | missing {fault : FileFault} (unread : tree.readBytes path = .error fault)
      (fits : fault ≠ .nullCharacter) : Loads tree path (.error .unreadable)
  | noText (holds : tree.HoldsNoText path) : Loads tree path (.error .unreadable)
  | text {text : Text} {result : Except LoadFault Description} (holds : tree.Holds path text)
      (parses : Parses text result) : Loads tree path result

inductive Escapes (tree : FileTree) (path : Path) : Escape → Prop where
  | path (unfit : tree.readBytes path = .error .nullCharacter) :
      Escapes tree path (.file .nullCharacter)
  | text {text : Text} {fault : Yaml.Fault} (holds : tree.Holds path text)
      (foreign : Foreign text fault) : Escapes tree path (.document fault)

theorem meansOrForeign (text : Text) :
    (∃ value, Means text value) ∨ ∃ fault, Foreign text fault := by
  rcases read : Yaml.read text with fault | value
  · by_cases refused : fault = .malformed
    · subst refused
      rcases json : Json.read? text with - | value
      · exact .inl ⟨none, .nothing read json⟩
      · exact .inl ⟨some value, .json read json⟩
    · exact .inr ⟨fault, read, refused⟩
  · exact .inl ⟨some value, .yaml read⟩

theorem documentValueOfMeans {value : Option Value} (means : Means text value) :
    documentValue text = .ok value := by
  cases means with
  | yaml read => simp [documentValue, read]
  | json refused read => simp [documentValue, refused, read]
  | nothing refused unread => simp [documentValue, refused, unread]

theorem ofTextOfForeign (foreign : Foreign text fault) : ofText text = .error fault := by
  obtain ⟨read, foreign⟩ := foreign
  have passed : documentValue text = .error fault := by
    rw [documentValue, read]
    cases fault <;> simp at foreign ⊢
  rw [ofText, passed]

theorem ofTextOfParses {result : Except LoadFault Description} (parses : Parses text result) :
    ofText text = .ok result := by
  cases parses with
  | model means valid => simp [ofText, documentValueOfMeans means, ofValue, valid]
  | invalid means bad => simp [ofText, documentValueOfMeans means, ofValue, bad]
  | @malformed value means other =>
    rw [ofText, documentValueOfMeans means]
    split
    · rename_i fields same
      exact absurd (Except.ok.inj same) (other fields)
    · rfl
    · contradiction

theorem parsesOrForeign (text : Text) :
    (∃ result, Parses text result) ∨ ∃ fault, Foreign text fault := by
  rcases meansOrForeign text with ⟨value, means⟩ | foreign
  · refine .inl ?_
    by_cases mapping : ∃ fields, value = some (.map fields)
    · obtain ⟨fields, rfl⟩ := mapping
      rcases checked : Check.description (.map fields) with description | problems
      · exact ⟨_, .model means checked⟩
      · exact ⟨_, .invalid means checked⟩
    · exact ⟨_, .malformed means (not_exists.mp mapping)⟩
  · exact .inr foreign

theorem ofTextIff (text : Text) :
    (∀ result, ofText text = .ok result ↔ Parses text result) ∧
      ∀ fault, ofText text = .error fault ↔ Foreign text fault :=
  Results.iffOfCases (fun _ => ofTextOfParses) (fun _ => ofTextOfForeign) (parsesOrForeign text)

theorem loadOfHolds (holds : tree.Holds path text) :
    load tree path = (ofText text).mapError .document := by
  obtain ⟨bytes, read, decoded⟩ := holds
  simp [load, read, decoded]

theorem loadOfLoads {result : Except LoadFault Description} (loads : Loads tree path result) :
    load tree path = .ok result := by
  cases loads with
  | @missing fault unread fits =>
    rw [load, unread]
    cases fault <;> simp at fits ⊢
  | noText holds =>
    obtain ⟨bytes, read, decoded⟩ := holds
    simp [load, read, decoded]
  | text holds parses =>
    rw [loadOfHolds holds, ofTextOfParses parses]
    rfl

theorem loadOfEscapes {cause : Escape} (escapes : Escapes tree path cause) :
    load tree path = .error cause := by
  cases escapes with
  | path unfit => rw [load, unfit]
  | text holds foreign =>
    rw [loadOfHolds holds, ofTextOfForeign foreign]
    rfl

theorem loadsOrEscapes (tree : FileTree) (path : Path) :
    (∃ result, Loads tree path result) ∨ ∃ cause, Escapes tree path cause := by
  rcases read : tree.readBytes path with fault | bytes
  · by_cases unfit : fault = .nullCharacter
    · subst unfit
      exact .inr ⟨_, .path read⟩
    · exact .inl ⟨_, .missing read unfit⟩
  · rcases decoded : decodeText? bytes with - | text
    · exact .inl ⟨_, .noText ⟨bytes, read, decoded⟩⟩
    · have holds : tree.Holds path text := ⟨bytes, read, decoded⟩
      rcases parsesOrForeign text with ⟨result, parses⟩ | ⟨fault, foreign⟩
      · exact .inl ⟨result, .text holds parses⟩
      · exact .inr ⟨_, .text holds foreign⟩

theorem loadIff (tree : FileTree) (path : Path) :
    (∀ result, load tree path = .ok result ↔ Loads tree path result) ∧
      ∀ cause, load tree path = .error cause ↔ Escapes tree path cause :=
  Results.iffOfCases (fun _ => loadOfLoads) (fun _ => loadOfEscapes) (loadsOrEscapes tree path)

end Description

namespace Project

inductive Parses (name text : Text) : Except LoadFault Project → Prop where
  | standard (read : Yaml.read text = .ok (.scalar .null)) : Parses name text (.ok .standard)
  | settings {fields : Fields} {project : Project} (read : Yaml.read text = .ok (.map fields))
      (valid : Check.project (.map fields) = .valid project) : Parses name text (.ok project)
  | invalid {fields : Fields} {problems : List Problem} (read : Yaml.read text = .ok (.map fields))
      (bad : Check.project (.map fields) = .invalid problems) :
      Parses name text (.error (.invalid name problems))
  | notMapping {value : Value} (read : Yaml.read text = .ok value) (something : value ≠ .scalar .null)
      (other : ∀ fields, value ≠ .map fields) : Parses name text (.error (.notMapping name))
  | refused (read : Yaml.read text = .error .malformed) :
      Parses name text (.error (.unreadable name))

inductive Loads (tree : FileTree) (path : Path) : Except LoadFault Project → Prop where
  | folder (found : tree.find? path = some .folder) :
      Loads tree path (.error (.unreadable path.text))
  | text {text : Text} {result : Except LoadFault Project} (holds : tree.Holds path text)
      (parses : Parses path.text text result) : Loads tree path result

inductive Escapes (tree : FileTree) (path : Path) : Escape → Prop where
  | noText (holds : tree.HoldsNoText path) : Escapes tree path .undecodable
  | text {text : Text} {fault : Yaml.Fault} (holds : tree.Holds path text)
      (foreign : Foreign text fault) : Escapes tree path (.document fault)

theorem ofTextOfParses {result : Except LoadFault Project} (parses : Parses name text result) :
    ofText name text = .ok result := by
  cases parses with
  | standard read => simp [ofText, read]
  | settings read valid => simp [ofText, read, valid]
  | invalid read bad => simp [ofText, read, bad]
  | refused read => simp [ofText, read]
  | @notMapping value read something other =>
    rw [ofText, read]
    split
    · rename_i same
      exact absurd (Except.ok.inj same) something
    · rename_i fields same
      exact absurd (Except.ok.inj same) (other fields)
    · rfl
    · contradiction
    · contradiction

theorem ofTextOfForeign (foreign : Foreign text fault) : ofText name text = .error fault := by
  obtain ⟨read, foreign⟩ := foreign
  rw [ofText, read]
  cases fault <;> simp at foreign ⊢

theorem parsesOrForeign (name text : Text) :
    (∃ result, Parses name text result) ∨ ∃ fault, Foreign text fault := by
  rcases read : Yaml.read text with fault | value
  · by_cases refused : fault = .malformed
    · subst refused
      exact .inl ⟨_, .refused read⟩
    · exact .inr ⟨fault, read, refused⟩
  · refine .inl ?_
    by_cases empty : value = .scalar .null
    · subst empty
      exact ⟨_, .standard read⟩
    by_cases mapping : ∃ fields, value = .map fields
    · obtain ⟨fields, rfl⟩ := mapping
      rcases checked : Check.project (.map fields) with project | problems
      · exact ⟨_, .settings read checked⟩
      · exact ⟨_, .invalid read checked⟩
    · exact ⟨_, .notMapping read empty (not_exists.mp mapping)⟩

theorem ofTextIff (name text : Text) :
    (∀ result, ofText name text = .ok result ↔ Parses name text result) ∧
      ∀ fault, ofText name text = .error fault ↔ Foreign text fault :=
  Results.iffOfCases (fun _ => ofTextOfParses) (fun _ => ofTextOfForeign) (parsesOrForeign name text)

theorem loadOfHolds (holds : tree.Holds path text) :
    load tree (some path) = (ofText path.text text).mapError .document := by
  obtain ⟨bytes, read, decoded⟩ := holds
  obtain ⟨place, located⟩ := FileTree.locateOfRead read
  simp [load, located, read, decoded]

theorem loadOfLoads {result : Except LoadFault Project} (loads : Loads tree path result) :
    load tree (some path) = .ok result := by
  cases loads with
  | folder found =>
    obtain ⟨place, located, entry⟩ := FileTree.locateOfFind found
    have read : tree.readBytes path = .error .isFolder := by
      simp only [FileTree.readBytes, located, entry]
    simp [load, located, read]
  | text holds parses =>
    rw [loadOfHolds holds, ofTextOfParses parses]
    rfl

theorem loadOfEscapes {cause : Escape} (escapes : Escapes tree path cause) :
    load tree (some path) = .error cause := by
  cases escapes with
  | noText holds =>
    obtain ⟨bytes, read, decoded⟩ := holds
    obtain ⟨place, located⟩ := FileTree.locateOfRead read
    simp [load, located, read, decoded]
  | text holds foreign =>
    rw [loadOfHolds holds, ofTextOfForeign foreign]
    rfl

theorem loadsOrEscapes (found : (tree.find? path).isSome) :
    (∃ result, Loads tree path result) ∨ ∃ cause, Escapes tree path cause := by
  obtain ⟨entry, found⟩ := Option.isSome_iff_exists.mp found
  cases entry with
  | folder => exact .inl ⟨_, .folder found⟩
  | file bytes =>
    have read := FileTree.readBytesOfFind found
    rcases decoded : decodeText? bytes with - | text
    · exact .inr ⟨_, .noText ⟨bytes, read, decoded⟩⟩
    · have holds : tree.Holds path text := ⟨bytes, read, decoded⟩
      rcases parsesOrForeign path.text text with ⟨result, parses⟩ | ⟨fault, foreign⟩
      · exact .inl ⟨result, .text holds parses⟩
      · exact .inr ⟨_, .text holds foreign⟩

theorem loadIff (found : (tree.find? path).isSome) :
    (∀ result, load tree (some path) = .ok result ↔ Loads tree path result) ∧
      ∀ cause, load tree (some path) = .error cause ↔ Escapes tree path cause :=
  Results.iffOfCases (fun _ => loadOfLoads) (fun _ => loadOfEscapes) (loadsOrEscapes found)

end Project

theorem loadingReturnsIff (tree : FileTree) (path : Path) (text : Text) :
    ((∀ result, Description.load tree path = .ok result ↔ Description.Loads tree path result) ∧
      ∀ cause, Description.load tree path = .error cause ↔ Description.Escapes tree path cause) ∧
    ((∀ result, Description.ofText text = .ok result ↔ Description.Parses text result) ∧
      ∀ fault, Description.ofText text = .error fault ↔ Foreign text fault) ∧
    ((tree.find? path).isSome →
      (∀ result, Project.load tree (some path) = .ok result ↔ Project.Loads tree path result) ∧
        ∀ cause, Project.load tree (some path) = .error cause ↔ Project.Escapes tree path cause) ∧
    ∀ fault, Foreign text fault → Yaml.FaultSource text fault :=
  ⟨Description.loadIff tree path, Description.ofTextIff text, Project.loadIff,
    fun _ foreign => Yaml.readFault foreign.1 foreign.2⟩

def accentTree : FileTree :=
  ⟨["work"], [(["work", "settings.yaml"], .file [0xE9])]⟩

theorem accentReturns :
    (accentTree.find? (.ofText "settings.yaml")).isSome ∧
      Description.load accentTree (.ofText "settings.yaml") = .ok (.error .unreadable) ∧
      Project.load accentTree (some (.ofText "settings.yaml")) = .error .undecodable := by
  have found : (accentTree.find? (.ofText "settings.yaml")).isSome := by decide +kernel
  have noText : accentTree.HoldsNoText (.ofText "settings.yaml") :=
    ⟨[0xE9], FileTree.readBytesOfFind (by decide +kernel), by decide +kernel⟩
  obtain ⟨description, -, project, -⟩ := loadingReturnsIff accentTree (.ofText "settings.yaml") []
  exact ⟨found, (description.1 _).mpr (.noText noText), ((project found).2 _).mpr (.noText noText)⟩

def impossibleDate : Text :=
  "x: 2023-02-30"

def dateTree : FileTree :=
  ⟨["work"], [(["work", "shop.yaml"], .file (Utf8.encode impossibleDate))]⟩

theorem foreignOfStops (stops : (match Yaml.read text with
    | .error found => decide (found = fault)
    | .ok _ => false) = true) (other : fault ≠ .malformed) : Foreign text fault := by
  rcases read : Yaml.read text with found | value
  · rw [read] at stops
    exact ⟨by rw [← of_decide_eq_true stops, read], other⟩
  · rw [read] at stops
    contradiction

theorem impossibleDateEscapes :
    Description.ofText impossibleDate = .error (.calendar .day) ∧
      Description.load dateTree (.ofText "shop.yaml") = .error (.document (.calendar .day)) ∧
      (dateTree.find? (.ofText "shop.yaml")).isSome ∧
      Project.load dateTree (some (.ofText "shop.yaml")) = .error (.document (.calendar .day)) ∧
      ¬ ∀ text, ∃ result, Description.ofText text = .ok result := by
  have stops : (match Yaml.read impossibleDate with
      | .error fault => decide (fault = .calendar .day)
      | .ok _ => false) = true := by decide +kernel
  have foreign : Foreign impossibleDate (.calendar .day) :=
    foreignOfStops stops (by simp)
  have holds : dateTree.Holds (.ofText "shop.yaml") impossibleDate :=
    ⟨Utf8.encode impossibleDate, FileTree.readBytesOfFind (by decide +kernel), by decide +kernel⟩
  have escapes := Description.ofTextOfForeign foreign
  refine ⟨escapes, Description.loadOfEscapes (.text holds foreign), by decide +kernel,
    Project.loadOfEscapes (.text holds foreign), fun returns => ?_⟩
  obtain ⟨result, ok⟩ := returns impossibleDate
  rw [escapes] at ok
  cases ok

end TypedClient
