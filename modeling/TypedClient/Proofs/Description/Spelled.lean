import TypedClient.Description.Reader
import TypedClient.Proofs.Collections

/-!
Records whose fields have several spellings. Which entry of a document a field takes is told by the
entries alone, not by their order: it is the first spelling that comes with something else than null.
A document spells a record if its entries are those of the fields, each under spellings of its own,
and others that are no field's; since no two fields of a record share a spelling, every field then
takes what was written for it.
-/

namespace TypedClient

namespace Fields

variable {fields other : Fields} {names : List Text} {key : Text} {value : Value}

/- The entry under the first of the names that has one and is not null there. -/
def Takes (fields : Fields) (names : List Text) (key : Text) (value : Value) : Prop :=
  (.text key, value) ∈ fields ∧ value ≠ .scalar .null ∧
    ∃ before after, names = before ++ key :: after ∧
      ∀ earlier ∈ before, ∀ early, (.text earlier, early) ∈ fields → early = .scalar .null

def Lacks (fields : Fields) (names : List Text) : Prop :=
  ∀ name ∈ names, ∀ value, (.text name, value) ∈ fields → value = .scalar .null

theorem memWithoutNulls {entry : Scalar × Value} :
    entry ∈ fields.withoutNulls ↔ entry ∈ fields ∧ entry.2 ≠ .scalar .null := by
  obtain ⟨key, value⟩ := entry
  rw [withoutNulls, List.mem_filter]
  refine and_congr_right fun _ => ?_
  dsimp only
  split
  · simp
  · rename_i something
    simpa using something

theorem entryEqFind (key : Text) (fields : Fields) :
    Value.entry? key fields = Assoc.find? (.text key) fields := by
  induction fields with
  | nil => rfl
  | cons entry rest ih => simp only [Value.entry?, Assoc.find?, ih]

theorem entryWithoutNulls (once : (Assoc.keys fields).Nodup) :
    Value.entry? key fields.withoutNulls = some value ↔
      (.text key, value) ∈ fields ∧ value ≠ .scalar .null := by
  have fewer : (Assoc.keys fields.withoutNulls).Nodup := once.sublist (Assoc.keysFilter _)
  rw [entryEqFind, Assoc.findIff fewer, memWithoutNulls]

theorem entryWithoutNullsNone (once : (Assoc.keys fields).Nodup) :
    Value.entry? key fields.withoutNulls = none ↔
      ∀ value, (.text key, value) ∈ fields → value = .scalar .null := by
  rw [Option.eq_none_iff_forall_ne_some]
  simp only [ne_eq, entryWithoutNulls once, not_and, not_not]

theorem presentCons (name : Text) (names : List Text) :
    fields.present? (name :: names) =
      match Value.entry? name fields with
      | some value => some (name, value)
      | none => fields.present? names := by
  rw [present?, List.findSome?_cons]
  cases Value.entry? name fields <;> rfl

theorem presentOfTakes (once : (Assoc.keys fields).Nodup) (takes : fields.Takes names key value) :
    fields.withoutNulls.present? names = some (key, value) := by
  obtain ⟨member, something, before, after, rfl, earlier⟩ := takes
  have found := (entryWithoutNulls once).mpr ⟨member, something⟩
  induction before with
  | nil => rw [List.nil_append, presentCons, found]
  | cons name before ih =>
    have null := (entryWithoutNullsNone once).mpr (earlier name List.mem_cons_self)
    rw [List.cons_append, presentCons, null]
    exact ih fun other inside => earlier other (List.mem_cons_of_mem _ inside)

theorem presentOfLacks (once : (Assoc.keys fields).Nodup) (lacks : fields.Lacks names) :
    fields.withoutNulls.present? names = none := by
  induction names with
  | nil => rfl
  | cons name names ih =>
    have null := (entryWithoutNullsNone once).mpr (lacks name List.mem_cons_self)
    rw [presentCons, null]
    exact ih fun other inside => lacks other (List.mem_cons_of_mem _ inside)

theorem takesOrLacks (fields : Fields) (names : List Text) :
    (∃ key value, fields.Takes names key value) ∨ fields.Lacks names := by
  induction names with
  | nil => exact .inr (by simp [Lacks])
  | cons name names ih =>
    by_cases here : ∃ value, (.text name, value) ∈ fields ∧ value ≠ .scalar .null
    · obtain ⟨value, member, something⟩ := here
      exact .inl ⟨name, value, member, something, [], names, rfl, by simp⟩
    · have null : ∀ value, (.text name, value) ∈ fields → value = .scalar .null :=
        fun value member => not_not.mp fun something => here ⟨value, member, something⟩
      rcases ih with ⟨key, value, member, something, before, after, rfl, earlier⟩ | lacks
      · exact .inl ⟨key, value, member, something, name :: before, after, rfl,
          List.forall_mem_cons.mpr ⟨null, earlier⟩⟩
      · exact .inr (List.forall_mem_cons.mpr ⟨null, lacks⟩)

theorem presentIff (once : (Assoc.keys fields).Nodup) :
    fields.withoutNulls.present? names = some (key, value) ↔ fields.Takes names key value := by
  refine ⟨fun present => ?_, presentOfTakes once⟩
  rcases takesOrLacks fields names with ⟨first, taken, takes⟩ | lacks
  · rw [presentOfTakes once takes] at present
    cases present
    exact takes
  · rw [presentOfLacks once lacks] at present
    cases present

theorem presentNone (once : (Assoc.keys fields).Nodup) :
    fields.withoutNulls.present? names = none ↔ fields.Lacks names := by
  refine ⟨fun absent => ?_, presentOfLacks once⟩
  rcases takesOrLacks fields names with ⟨first, taken, takes⟩ | lacks
  · rw [presentOfTakes once takes] at absent
    cases absent
  · exact lacks

theorem takesOfSame
    (same : ∀ name ∈ names, ∀ value, (.text name, value) ∈ other ↔ (.text name, value) ∈ fields)
    (takes : fields.Takes names key value) : other.Takes names key value := by
  obtain ⟨member, something, before, after, rfl, earlier⟩ := takes
  refine ⟨(same key (by simp) value).mpr member, something, before, after, rfl, ?_⟩
  intro name inside early written
  exact earlier name inside early ((same name (by simp [inside]) early).mp written)

theorem lacksOfSame
    (same : ∀ name ∈ names, ∀ value, (.text name, value) ∈ other ↔ (.text name, value) ∈ fields)
    (lacks : fields.Lacks names) : other.Lacks names :=
  fun name inside value written => lacks name inside value ((same name inside value).mp written)

end Fields

structure Slot where
  name : Text
  omissible : Prop
  fits : Value → Prop

namespace Slot

variable {slot : Slot} {fields other : Fields}

def Filled (slot : Slot) (fields : Fields) : Prop :=
  (∃ key value, fields.Takes (spellings slot.name) key value ∧ slot.fits value) ∨
    slot.omissible ∧ fields.Lacks (spellings slot.name)

theorem Filled.ofPresent {key : Text} {value : Value} (once : (Assoc.keys fields).Nodup)
    (present : fields.withoutNulls.present? (spellings slot.name) = some (key, value))
    (fits : slot.fits value) : slot.Filled fields :=
  .inl ⟨key, value, (Fields.presentIff once).mp present, fits⟩

theorem Filled.ofAbsent (once : (Assoc.keys fields).Nodup)
    (absent : fields.withoutNulls.present? (spellings slot.name) = none)
    (omissible : slot.omissible) : slot.Filled fields :=
  .inr ⟨omissible, (Fields.presentNone once).mp absent⟩

structure Written (slot : Slot) (entries : Fields) : Prop where
  own : ∀ key ∈ Assoc.keys entries, ∃ spelling ∈ spellings slot.name, key = .text spelling
  filled : slot.Filled entries

/- A field is left out, or written as null, or written once with a value that fits. -/
inductive Chosen (slot : Slot) : Fields → Prop where
  | leftOut (omissible : slot.omissible) : Chosen slot []
  | null {spelling : Text} (omissible : slot.omissible)
      (spelled : spelling ∈ spellings slot.name) : Chosen slot [(.text spelling, .scalar .null)]
  | under {spelling : Text} {value : Value} (spelled : spelling ∈ spellings slot.name)
      (something : value ≠ .scalar .null) (fits : slot.fits value) :
      Chosen slot [(.text spelling, value)]

theorem writtenOfChosen {entries : Fields} (chosen : slot.Chosen entries) :
    slot.Written entries := by
  cases chosen with
  | leftOut omissible => exact ⟨by simp, .inr ⟨omissible, by simp [Fields.Lacks]⟩⟩
  | null omissible spelled =>
    exact ⟨by simpa using spelled, .inr ⟨omissible, by simp [Fields.Lacks]⟩⟩
  | @under spelling value spelled something fits =>
    refine ⟨by simpa using spelled, .inl ⟨spelling, value, ⟨by simp, something, ?_⟩, fits⟩⟩
    -- A name of one word has its first spelling twice.
    obtain ⟨before, after, split, fresh⟩ := List.eq_append_cons_of_mem spelled
    refine ⟨before, after, split, fun earlier inside early written => ?_⟩
    have same : earlier = spelling := by
      simpa using (Prod.ext_iff.mp (List.mem_singleton.mp written)).1
    exact absurd (same ▸ inside) fresh

theorem filledOfSame
    (same : ∀ name ∈ spellings slot.name, ∀ value,
      (.text name, value) ∈ other ↔ (.text name, value) ∈ fields)
    (filled : slot.Filled fields) : slot.Filled other := by
  rcases filled with ⟨key, value, takes, fits⟩ | ⟨omissible, lacks⟩
  · exact .inl ⟨key, value, Fields.takesOfSame same takes, fits⟩
  · exact .inr ⟨omissible, Fields.lacksOfSame same lacks⟩

end Slot

def Apart (names : List Text) : Prop :=
  names.Pairwise fun first second => ∀ spelling ∈ spellings first, spelling ∉ spellings second

structure SpellsRecord (slots : List Slot) (fields : Fields) : Prop where
  once : (Assoc.keys fields).Nodup
  parts : ∃ (written : List Fields) (others : Fields), List.Forall₂ Slot.Written slots written ∧
    (∀ slot ∈ slots, ∀ spelling ∈ spellings slot.name, .text spelling ∉ Assoc.keys others) ∧
    fields.Perm (written.flatten ++ others)

section

variable {slots : List Slot} {written : List Fields} {fields : Fields}

theorem keyOfWritten (each : List.Forall₂ Slot.Written slots written) {key : Scalar}
    (inside : key ∈ Assoc.keys written.flatten) :
    ∃ slot ∈ slots, ∃ spelling ∈ spellings slot.name, key = .text spelling := by
  induction each with
  | nil => simp at inside
  | @cons slot entries slots written here _ ih =>
    rw [List.flatten_cons, Assoc.keysAppend, List.mem_append] at inside
    rcases inside with first | rest
    · exact ⟨slot, List.mem_cons_self, here.own key first⟩
    · obtain ⟨other, member, spelled⟩ := ih rest
      exact ⟨other, List.mem_cons_of_mem _ member, spelled⟩

theorem writtenApart (each : List.Forall₂ Slot.Written slots written)
    (apart : Apart (slots.map (·.name))) {slot : Slot} (member : slot ∈ slots) :
    ∃ entries, slot.Written entries ∧ ∀ spelling ∈ spellings slot.name, ∀ value,
      (.text spelling, value) ∈ written.flatten ↔ (.text spelling, value) ∈ entries := by
  induction each with
  | nil => simp at member
  | @cons first entries slots written here each ih =>
    rw [Apart, List.map_cons, List.pairwise_cons] at apart
    obtain ⟨away, apart⟩ := apart
    rcases List.mem_cons.mp member with rfl | inside
    · refine ⟨entries, here, fun spelling spelled value => ?_⟩
      rw [List.flatten_cons, List.mem_append, or_iff_left]
      intro stray
      obtain ⟨other, rest, under, spelledOther, same⟩ :=
        keyOfWritten each (Assoc.keyOfMember stray)
      cases same
      exact away other.name (List.mem_map_of_mem rest) _ spelled spelledOther
    · obtain ⟨own, wrote, only⟩ := ih apart inside
      refine ⟨own, wrote, fun spelling spelled value => ?_⟩
      rw [List.flatten_cons, List.mem_append, or_iff_right]
      · exact only spelling spelled value
      · intro stray
        obtain ⟨under, spelledFirst, same⟩ := here.own _ (Assoc.keyOfMember stray)
        cases same
        exact away slot.name (List.mem_map_of_mem inside) _ spelledFirst spelled

theorem filledOfSpells (spells : SpellsRecord slots fields) (apart : Apart (slots.map (·.name))) :
    ∀ slot ∈ slots, slot.Filled fields := by
  intro slot member
  obtain ⟨-, written, others, each, foreign, reordered⟩ := spells
  obtain ⟨entries, wrote, only⟩ := writtenApart each apart member
  refine Slot.filledOfSame (fun spelling spelled value => ?_) wrote.filled
  rw [reordered.mem_iff, List.mem_append, or_iff_left, only spelling spelled value]
  exact fun stray => foreign slot member spelling spelled (Assoc.keyOfMember stray)

theorem spellsOfFilled (once : (Assoc.keys fields).Nodup) (apart : Apart (slots.map (·.name)))
    (filled : ∀ slot ∈ slots, slot.Filled fields) : SpellsRecord slots fields := by
  refine ⟨once, ?_⟩
  induction slots generalizing fields with
  | nil => exact ⟨[], fields, .nil, by simp, by simp⟩
  | cons slot slots ih =>
    rw [Apart, List.map_cons, List.pairwise_cons] at apart
    obtain ⟨away, apart⟩ := apart
    obtain ⟨first, filled⟩ := List.forall_mem_cons.mp filled
    let own : Scalar × Value → Bool := fun entry => entry.1 ∈ (spellings slot.name).map .text
    have others : (Assoc.keys (fields.filter (! own ·))).Nodup := once.sublist (Assoc.keysFilter _)
    have still : ∀ other ∈ slots, other.Filled (fields.filter (! own ·)) := by
      intro other inside
      refine Slot.filledOfSame (fun spelling spelled value => ?_) (filled other inside)
      have foreign : spelling ∉ spellings slot.name := fun stray =>
        away other.name (List.mem_map_of_mem inside) spelling stray spelled
      simp [List.mem_filter, own, foreign]
    obtain ⟨written, rest, each, strange, reordered⟩ := ih others apart still
    have here : slot.Written (fields.filter own) := by
      refine ⟨fun key member => ?_, Slot.filledOfSame (fun spelling spelled value => ?_) first⟩
      · obtain ⟨value, inside⟩ := Assoc.memKeys.mp member
        have named := (List.mem_filter.mp inside).2
        simpa [own, eq_comm] using named
      · simp [List.mem_filter, own, spelled]
    refine ⟨fields.filter own :: written, rest, .cons here each, ?_, ?_⟩
    · refine List.forall_mem_cons.mpr ⟨fun spelling spelled stray => ?_, strange⟩
      obtain ⟨value, inside⟩ := Assoc.memKeys.mp stray
      have member := reordered.mem_iff.mpr (List.mem_append_right _ inside)
      have foreign := (List.mem_filter.mp member).2
      simp [own, spelled] at foreign
    · rw [List.flatten_cons, List.append_assoc]
      exact (List.filter_append_perm own fields).symm.trans (reordered.append_left _)

end

end TypedClient
