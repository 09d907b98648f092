import Mathlib.Data.List.Forall2
import Mathlib.Data.List.Nodup
import TypedClient.Assoc
import TypedClient.Text.Basic

/-!
Lists without repetition and association lists. A table is described by its keys and by what is
found under a key; writing and gathering are each one equation for both.
-/

namespace TypedClient.Text

def addNew (seen : List Text) (text : Text) : List Text :=
  if text ∈ seen then seen else seen ++ [text]

theorem distinctFold (texts : List Text) : distinct texts = texts.foldl addNew [] := rfl

theorem memAddNew {seen : List Text} {text other : Text} :
    other ∈ addNew seen text ↔ other ∈ seen ∨ other = text := by
  unfold addNew
  split
  · rename_i known
    constructor
    · exact Or.inl
    · rintro (old | rfl)
      · exact old
      · exact known
  · simp

theorem nodupAddNew {seen : List Text} (once : seen.Nodup) (text : Text) :
    (addNew seen text).Nodup := by
  unfold addNew
  split
  · exact once
  · rename_i new
    exact List.concat_eq_append ▸ once.concat new

theorem memFoldAddNew {texts seen : List Text} {text : Text} :
    text ∈ texts.foldl addNew seen ↔ text ∈ seen ∨ text ∈ texts := by
  induction texts generalizing seen with
  | nil => simp
  | cons first rest ih => rw [List.foldl_cons, ih, memAddNew, List.mem_cons, or_assoc]

theorem nodupFoldAddNew {texts seen : List Text} (once : seen.Nodup) :
    (texts.foldl addNew seen).Nodup := by
  induction texts generalizing seen with
  | nil => exact once
  | cons first rest ih => exact ih (nodupAddNew once first)

@[simp] theorem memDistinct {texts : List Text} {text : Text} :
    text ∈ distinct texts ↔ text ∈ texts := by
  rw [distinctFold, memFoldAddNew]
  simp

theorem nodupDistinct (texts : List Text) : (distinct texts).Nodup :=
  nodupFoldAddNew List.nodup_nil

theorem foldAddNewFresh {texts seen : List Text} (once : (seen ++ texts).Nodup) :
    texts.foldl addNew seen = seen ++ texts := by
  induction texts generalizing seen with
  | nil => simp
  | cons first rest ih =>
    have fresh : first ∉ seen := fun old =>
      (List.nodup_append.mp once).2.2 first old first List.mem_cons_self rfl
    rw [List.foldl_cons, addNew, if_neg fresh, ih (by simpa using once), List.append_assoc]
    rfl

theorem distinctOfNodup {texts : List Text} (once : texts.Nodup) : distinct texts = texts :=
  foldAddNewFresh once

theorem filterAddNew (keeps : Text → Bool) (seen : List Text) (text : Text) :
    (addNew seen text).filter keeps =
      if keeps text then addNew (seen.filter keeps) text else seen.filter keeps := by
  unfold addNew
  by_cases known : text ∈ seen
  · simp [known]
  · cases kept : keeps text <;> simp [known, kept, List.filter_append]

theorem filterFoldAddNew (keeps : Text → Bool) (texts seen : List Text) :
    (texts.foldl addNew seen).filter keeps =
      (texts.filter keeps).foldl addNew (seen.filter keeps) := by
  induction texts generalizing seen with
  | nil => rfl
  | cons first rest ih =>
    rw [List.foldl_cons, ih, filterAddNew]
    cases kept : keeps first <;> simp [kept]

theorem filterDistinct (keeps : Text → Bool) (texts : List Text) :
    (distinct texts).filter keeps = distinct (texts.filter keeps) :=
  filterFoldAddNew keeps texts []

end TypedClient.Text

namespace TypedClient.Assoc

variable {α β : Type}

def keys (table : List (α × β)) : List α :=
  table.map Prod.fst

@[simp] theorem keysNil : keys ([] : List (α × β)) = [] := rfl

@[simp] theorem keysCons (entry : α × β) (rest : List (α × β)) :
    keys (entry :: rest) = entry.1 :: keys rest := rfl

@[simp] theorem keysAppend (first second : List (α × β)) :
    keys (first ++ second) = keys first ++ keys second :=
  List.map_append

theorem keyOfMember {table : List (α × β)} {key : α} {value : β} (member : (key, value) ∈ table) :
    key ∈ keys table :=
  List.mem_map.mpr ⟨(key, value), member, rfl⟩

theorem memKeys {table : List (α × β)} {key : α} :
    key ∈ keys table ↔ ∃ value, (key, value) ∈ table := by
  constructor
  · intro member
    obtain ⟨⟨first, value⟩, inside, rfl⟩ := List.mem_map.mp member
    exact ⟨value, inside⟩
  · rintro ⟨value, member⟩
    exact keyOfMember member

theorem tableOfKeys {table : List (α × β)} {value : α → β}
    (each : ∀ entry ∈ table, entry.2 = value entry.1) :
    table = (keys table).map fun key => (key, value key) := by
  induction table with
  | nil => rfl
  | cons entry rest ih =>
    obtain ⟨key, held⟩ := entry
    have first : held = value key := each (key, held) List.mem_cons_self
    rw [keysCons, List.map_cons, ← ih fun other member => each other (List.mem_cons_of_mem _ member),
      first]

theorem keysPerm {table other : List (α × β)} (reordered : table.Perm other) :
    (keys table).Perm (keys other) :=
  reordered.map Prod.fst

theorem keysFilter {table : List (α × β)} (keeps : α × β → Bool) :
    (keys (table.filter keeps)).Sublist (keys table) :=
  List.filter_sublist.map Prod.fst

variable [DecidableEq α]

theorem findSplit {table : List (α × β)} {key : α} {value : β}
    (found : find? key table = some value) :
    ∃ before after, table = before ++ (key, value) :: after ∧ key ∉ keys before := by
  induction table with
  | nil => simp [find?] at found
  | cons entry rest ih =>
    obtain ⟨first, old⟩ := entry
    simp only [find?] at found
    split at found
    · rename_i same
      cases Option.some.inj found
      exact ⟨[], rest, by simp [same], by simp⟩
    · rename_i different
      obtain ⟨before, after, rfl, fresh⟩ := ih found
      exact ⟨(first, old) :: before, after, rfl, by simp [Ne.symm different, fresh]⟩

theorem findMember {table : List (α × β)} {key : α} {value : β}
    (found : find? key table = some value) : (key, value) ∈ table := by
  obtain ⟨before, after, rfl, _⟩ := findSplit found
  simp

theorem findOfMember {table : List (α × β)} (once : (keys table).Nodup) {key : α} {value : β}
    (member : (key, value) ∈ table) : find? key table = some value := by
  induction table with
  | nil => simp at member
  | cons entry rest ih =>
    obtain ⟨first, old⟩ := entry
    obtain ⟨fresh, once⟩ := List.nodup_cons.mp once
    rcases List.mem_cons.mp member with same | inside
    · cases same
      simp [find?]
    · have different : first ≠ key := by
        rintro rfl
        exact fresh (keyOfMember inside)
      simp only [find?, if_neg different]
      exact ih once inside

theorem findIff {table : List (α × β)} (once : (keys table).Nodup) {key : α} {value : β} :
    find? key table = some value ↔ (key, value) ∈ table :=
  ⟨findMember, findOfMember once⟩

theorem findPerm {table other : List (α × β)} (once : (keys table).Nodup)
    (reordered : table.Perm other) (key : α) : find? key table = find? key other := by
  have still : (keys other).Nodup := (keysPerm reordered).nodup_iff.mp once
  ext value
  rw [findIff once, findIff still]
  exact reordered.mem_iff

theorem findEqNone {table : List (α × β)} {key : α} :
    find? key table = none ↔ key ∉ keys table := by
  induction table with
  | nil => simp [find?]
  | cons entry rest ih =>
    obtain ⟨first, old⟩ := entry
    by_cases same : first = key
    · simp [find?, same]
    · simp [find?, same, ih, eq_comm (a := key)]

def pick (names : List α) (table : List (α × β)) : List (α × β) :=
  names.filterMap fun key => (find? key table).map fun value => (key, value)

theorem memPick {names : List α} {table : List (α × β)} {entry : α × β} :
    entry ∈ pick names table ↔ entry.1 ∈ names ∧ find? entry.1 table = some entry.2 := by
  obtain ⟨key, value⟩ := entry
  simp [pick, and_left_comm]

theorem pickKeys {entries table : List (α × β)}
    (found : ∀ entry ∈ entries, find? entry.1 table = some entry.2) :
    pick (keys entries) table = entries := by
  induction entries with
  | nil => rfl
  | cons entry rest ih =>
    have first := found entry List.mem_cons_self
    have others := ih fun other member => found other (List.mem_cons_of_mem _ member)
    rw [pick] at others ⊢
    rw [keysCons, List.filterMap_cons, first, Option.map_some, others]

theorem findAppend (first second : List (α × β)) (key : α) :
    find? key (first ++ second) = (find? key first).or (find? key second) := by
  induction first with
  | nil => rfl
  | cons entry rest ih =>
    obtain ⟨other, old⟩ := entry
    by_cases same : other = key
    · simp [find?, same]
    · simp [find?, same, ih]

theorem findPut (table : List (α × β)) (key other : α) (value : β) :
    find? other (put key value table) = if key = other then some value else find? other table := by
  induction table with
  | nil => simp [put, find?]
  | cons entry rest ih =>
    obtain ⟨first, old⟩ := entry
    simp only [put]
    split
    · rename_i same
      subst same
      simp only [find?]
      split <;> rfl
    · rename_i different
      simp only [find?, ih]
      split
      · rename_i here
        rw [if_neg (fun same => different (here.trans same.symm))]
      · rfl

theorem keysPut (table : List (α × β)) (key : α) (value : β) :
    keys (put key value table) = if key ∈ keys table then keys table else keys table ++ [key] := by
  induction table with
  | nil => simp [put]
  | cons entry rest ih =>
    obtain ⟨first, old⟩ := entry
    by_cases same : first = key
    · simp [put, same]
    · simp only [put, if_neg same, keysCons, ih, List.mem_cons, Ne.symm same, false_or]
      split <;> simp

theorem putFresh {table : List (α × β)} {key : α} (fresh : key ∉ keys table) (value : β) :
    put key value table = table ++ [(key, value)] := by
  induction table with
  | nil => rfl
  | cons entry rest ih =>
    obtain ⟨first, old⟩ := entry
    obtain ⟨different, fresh⟩ := not_or.mp (fun member => fresh (List.mem_cons.mpr member))
    simp only [put, if_neg (Ne.symm different), ih fresh, List.cons_append]

theorem memPut {table : List (α × β)} {key : α} {value : β} {entry : α × β}
    (member : entry ∈ put key value table) : entry = (key, value) ∨ entry ∈ table := by
  induction table with
  | nil => exact .inl (List.mem_singleton.mp member)
  | cons old rest ih =>
    simp only [put] at member
    split at member
    · rename_i same
      rcases List.mem_cons.mp member with rfl | inside
      · exact .inl (by rw [same])
      · exact .inr (List.mem_cons_of_mem _ inside)
    · rcases List.mem_cons.mp member with rfl | inside
      · exact .inr List.mem_cons_self
      · exact (ih inside).imp_right (List.mem_cons_of_mem _)

theorem nodupPut {table : List (α × β)} (once : (keys table).Nodup) (key : α) (value : β) :
    (keys (put key value table)).Nodup := by
  rw [keysPut]
  split
  · exact once
  · rename_i fresh
    exact List.concat_eq_append ▸ once.concat fresh

def putAll (table entries : List (α × β)) : List (α × β) :=
  entries.foldl (fun table entry => put entry.1 entry.2 table) table

theorem ofListEq (entries : List (α × β)) : ofList entries = putAll [] entries := rfl

@[simp] theorem putAllCons (table : List (α × β)) (entry : α × β) (rest : List (α × β)) :
    putAll table (entry :: rest) = putAll (put entry.1 entry.2 table) rest := rfl

theorem nodupPutAll {table : List (α × β)} (once : (keys table).Nodup) (entries : List (α × β)) :
    (keys (putAll table entries)).Nodup := by
  induction entries generalizing table with
  | nil => exact once
  | cons entry rest ih => exact ih (nodupPut once entry.1 entry.2)

theorem nodupOfList (entries : List (α × β)) : (keys (ofList entries)).Nodup := by
  have none : (keys ([] : List (α × β))).Nodup := List.nodup_nil
  exact nodupPutAll none entries

theorem putAllFresh {table entries : List (α × β)} (once : (keys (table ++ entries)).Nodup) :
    putAll table entries = table ++ entries := by
  induction entries generalizing table with
  | nil => simp [putAll]
  | cons entry rest ih =>
    have fresh : entry.1 ∉ keys table := by
      rw [keysAppend] at once
      exact fun old => (List.nodup_append.mp once).2.2 entry.1 old entry.1 List.mem_cons_self rfl
    rw [putAllCons, putFresh fresh, ih (by simpa using once), List.append_assoc]
    rfl

theorem ofListOfNodup {entries : List (α × β)} (once : (keys entries).Nodup) :
    ofList entries = entries :=
  putAllFresh once

theorem findPutAll (table entries : List (α × β)) (key : α) :
    find? key (putAll table entries) = (find? key entries.reverse).or (find? key table) := by
  induction entries generalizing table with
  | nil => rfl
  | cons entry rest ih =>
    rw [putAllCons, ih, findPut, List.reverse_cons, findAppend]
    cases find? key rest.reverse with
    | some value => rfl
    | none => by_cases same : entry.1 = key <;> simp [find?, same]

variable {γ : Type}

theorem gatherEqPut (groups : List (α × List γ)) (key : α) (item : γ) :
    gather key item groups = put key ((find? key groups).getD [] ++ [item]) groups := by
  induction groups with
  | nil => rfl
  | cons group rest ih =>
    obtain ⟨first, items⟩ := group
    by_cases same : first = key
    · simp [gather, put, find?, same]
    · simp [gather, put, find?, same, ih]

theorem findGather (groups : List (α × List γ)) (key other : α) (item : γ) :
    find? other (gather key item groups) =
      if key = other then some ((find? other groups).getD [] ++ [item]) else find? other groups := by
  rw [gatherEqPut, findPut]
  split
  · rename_i same
    rw [same]
  · rfl

theorem gatherPerm (groups : List (α × List γ)) (key : α) (item : γ) :
    ((gather key item groups).flatMap Prod.snd).Perm (groups.flatMap Prod.snd ++ [item]) := by
  induction groups with
  | nil => simp [gather]
  | cons group rest ih =>
    obtain ⟨first, items⟩ := group
    simp only [gather]
    split
    · simp only [List.flatMap_cons, List.append_assoc]
      exact List.Perm.append_left items List.perm_append_comm
    · simp only [List.flatMap_cons, List.append_assoc]
      exact List.Perm.append_left items ih

theorem keysPutNew (table : List (Text × β)) (key : Text) (value : β) :
    keys (put key value table) = Text.addNew (keys table) key := by
  rw [keysPut, Text.addNew]
  congr

theorem keysGather (groups : List (Text × List γ)) (key : Text) (item : γ) :
    keys (gather key item groups) = Text.addNew (keys groups) key := by
  rw [gatherEqPut, keysPutNew]

theorem keysPutAll (table entries : List (Text × β)) :
    keys (putAll table entries) = (keys entries).foldl Text.addNew (keys table) := by
  induction entries generalizing table with
  | nil => rfl
  | cons entry rest ih => rw [putAllCons, ih, keysPutNew, keysCons, List.foldl_cons]

theorem keysOfList (entries : List (Text × β)) :
    keys (ofList entries) = Text.distinct (keys entries) :=
  keysPutAll [] entries

/- What is left of many writings: in each place the last value that was written there. -/
theorem ofListMember {entries : List (Text × β)} {key : Text} {value : β}
    (member : (key, value) ∈ ofList entries) :
    ∃ before after, entries = before ++ (key, value) :: after ∧ key ∉ keys after := by
  have found := findOfMember (nodupOfList entries) member
  rw [ofListEq, findPutAll, show find? key ([] : List (Text × β)) = none from rfl,
    Option.or_none] at found
  obtain ⟨after, before, split, fresh⟩ := findSplit found
  refine ⟨before.reverse, after.reverse, ?_, ?_⟩
  · simpa using congrArg List.reverse split
  · simpa [keys] using fresh

end TypedClient.Assoc

namespace TypedClient.Results

variable {ε α β : Type} {step : α → Except ε β}

theorem eachOfMapM {items : List α} {results : List β} (ok : items.mapM step = .ok results) :
    List.Forall₂ (fun item result => step item = .ok result) items results := by
  induction items generalizing results with
  | nil =>
    cases Except.ok.inj ok
    exact .nil
  | cons item rest ih =>
    rw [List.mapM_cons] at ok
    cases first : step item with
    | error fault => simp [first, bind, Except.bind] at ok
    | ok result =>
      cases others : rest.mapM step with
      | error fault => simp [first, others, bind, Except.bind] at ok
      | ok results =>
        simp only [first, others, bind, Except.bind] at ok
        cases Except.ok.inj ok
        exact .cons first (ih others)

theorem mapMOfEach {items : List α} {results : List β}
    (each : List.Forall₂ (fun item result => step item = .ok result) items results) :
    items.mapM step = .ok results := by
  induction each with
  | nil => rfl
  | cons first _ ih => rw [List.mapM_cons, first, ih]; rfl

theorem mapMEqOk {items : List α} {results : List β} :
    items.mapM step = .ok results ↔
      List.Forall₂ (fun item result => step item = .ok result) items results :=
  ⟨eachOfMapM, mapMOfEach⟩

theorem eachExists {related : α → β → Prop} {items : List α} :
    (∃ results, List.Forall₂ related items results) ↔ ∀ item ∈ items, ∃ result, related item result := by
  constructor
  · rintro ⟨results, each⟩
    induction each with
    | nil => simp
    | cons first _ ih =>
      intro item member
      rcases List.mem_cons.mp member with rfl | inside
      · exact ⟨_, first⟩
      · exact ih item inside
  · intro all
    induction items with
    | nil => exact ⟨[], .nil⟩
    | cons item rest ih =>
      obtain ⟨result, first⟩ := all item List.mem_cons_self
      obtain ⟨results, others⟩ := ih fun other member => all other (List.mem_cons_of_mem _ member)
      exact ⟨result :: results, .cons first others⟩

theorem eachSplit {related : α → β → Prop} {items : List α} {before after : List β} {result : β}
    (each : List.Forall₂ related items (before ++ result :: after)) :
    ∃ first item last, items = first ++ item :: last ∧ related item result ∧
      List.Forall₂ related last after := by
  induction before generalizing items with
  | nil =>
    obtain ⟨item, last, here, others, rfl⟩ := List.forall₂_cons_right_iff.mp each
    exact ⟨[], item, last, rfl, here, others⟩
  | cons earlier rest ih =>
    obtain ⟨head, tail, _, others, rfl⟩ := List.forall₂_cons_right_iff.mp each
    obtain ⟨first, item, last, rfl, here, later⟩ := ih others
    exact ⟨head :: first, item, last, rfl, here, later⟩

theorem eachSource {related : α → β → Prop} {items : List α} {results : List β}
    (each : List.Forall₂ related items results) {result : β} (member : result ∈ results) :
    ∃ item ∈ items, related item result := by
  obtain ⟨before, after, rfl⟩ := List.append_of_mem member
  obtain ⟨first, item, last, rfl, here, _⟩ := eachSplit each
  exact ⟨item, by simp, here⟩

theorem eachWithin {related : α → β → Prop} {items : List α} {results : List β}
    (each : List.Forall₂ related items results) :
    List.Forall₂ (fun item result => item ∈ items ∧ related item result) items results := by
  induction each with
  | nil => exact .nil
  | cons here _ ih =>
    refine .cons ⟨List.mem_cons_self, here⟩ (ih.imp fun item result ⟨inside, found⟩ => ?_)
    exact ⟨List.mem_cons_of_mem _ inside, found⟩

theorem mapOfEach {inverse : β → α} {items : List α} {results : List β}
    (each : List.Forall₂ (fun item result => inverse result = item) items results) :
    results.map inverse = items := by
  induction each with
  | nil => rfl
  | cons here _ ih => rw [List.map_cons, here, ih]

theorem mapMTotal {items : List α} :
    (∃ results, items.mapM step = .ok results) ↔ ∀ item ∈ items, ∃ result, step item = .ok result := by
  simp only [mapMEqOk, eachExists]

theorem okOfAny {result : Except ε α} {holds : α → Bool}
    (run : result.toOption.any holds = true) : ∃ value, result = .ok value ∧ holds value = true := by
  cases result with
  | error fault => contradiction
  | ok value => exact ⟨value, rfl, run⟩

end TypedClient.Results
