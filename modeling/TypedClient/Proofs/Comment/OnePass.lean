import TypedClient.Proofs.Comment.Entities

/-!
The decoding of entities as a single pass. The text is gone through once from the left, and each entity
becomes the sign that it stands for, which is not looked at again. Replacing one entity after the other
comes to the same: no sign that is put in belongs to an entity that is still to be replaced, and no two
entities share a sign of the text.
-/

namespace TypedClient

namespace Text

variable {pattern replacement text : Text}

theorem replacePast {first : Char} {others part : Text} (free : first ∉ part) (rest : Text) :
    replaceAll (first :: others) replacement (part ++ rest) =
      part ++ replaceAll (first :: others) replacement rest := by
  induction part with
  | nil => rfl
  | cons c part ih =>
    obtain ⟨other, later⟩ := not_or.mp (mt List.mem_cons.mpr free)
    have begins : ¬ first :: others <+: c :: (part ++ rest) := fun start =>
      other (List.cons_prefix_cons.mp start).1
    rw [List.cons_append, replaceLater begins, ih later, List.cons_append]

theorem prefixReplaced {front : Text} {sign : Char} (filled : pattern ≠ []) (free : sign ∉ front)
    (start : front <+: replaceAll pattern [sign] text) : front <+: text := by
  induction front generalizing text with
  | nil => exact List.nil_prefix
  | cons c front ih =>
    by_cases occurs : pattern <+: text
    · obtain ⟨rest, rfl⟩ := occurs
      rw [replaceHere filled] at start
      cases (List.cons_prefix_cons.mp start).1
      exact absurd List.mem_cons_self free
    · cases text with
      | nil => exact start
      | cons d text =>
        rw [replaceLater occurs] at start
        obtain ⟨same, later⟩ := List.cons_prefix_cons.mp start
        exact List.cons_prefix_cons.mpr ⟨same, ih (mt (List.mem_cons_of_mem c) free) later⟩

end Text

namespace Comment

def Opened (entity : Text × Char) : Prop :=
  ∃ body, entity.1 = '&' :: body ∧ '&' ∉ body

/- The first one can be replaced before the second: it makes none of it and takes none of it away. -/
structure Before (first second : Text × Char) : Prop where
  sign : first.2 ∉ second.1
  apart : ¬ first.1 <+: second.1 ∧ ¬ second.1 <+: first.1

structure Ordered (listed : List (Text × Char)) : Prop where
  opened : ∀ entity ∈ listed, Opened entity
  before : listed.Pairwise Before

theorem Ordered.tail {entity : Text × Char} {others : List (Text × Char)}
    (ordered : Ordered (entity :: others)) : Ordered others :=
  ⟨(List.forall_mem_cons.mp ordered.opened).2, (List.pairwise_cons.mp ordered.before).2⟩

theorem entitiesOrdered : Ordered entities := by
  constructor
  · intro entity member
    have shape : ∀ entity ∈ entities, entity.1.head? = some '&' ∧ '&' ∉ entity.1.tail := by decide
    obtain ⟨head, free⟩ := shape entity member
    exact ⟨entity.1.tail, (List.cons_head?_tail head).symm, free⟩
  · have apart : entities.Pairwise fun first second =>
        first.2 ∉ second.1 ∧ ¬ first.1 <+: second.1 ∧ ¬ second.1 <+: first.1 := by decide
    exact apart.imp fun both => ⟨both.1, both.2⟩

theorem Opened.filled {entity : Text × Char} (opened : Opened entity) : entity.1 ≠ [] := by
  obtain ⟨body, whole, _⟩ := opened
  rw [whole]
  exact List.cons_ne_nil _ _

theorem Opened.starts {entity : Text × Char} {c : Char} {rest : Text} (opened : Opened entity)
    (start : entity.1 <+: c :: rest) : c = '&' := by
  obtain ⟨body, whole, _⟩ := opened
  rw [whole] at start
  exact (List.cons_prefix_cons.mp start).1.symm

theorem Opened.sign {entity : Text × Char} (opened : Opened entity) : '&' ∈ entity.1 := by
  obtain ⟨body, whole, _⟩ := opened
  rw [whole]
  exact List.mem_cons_self

theorem replaceBeside {first second : Text × Char} (opened : Opened first) (opened' : Opened second)
    (before : Before first second) (rest : Text) :
    Text.replaceAll first.1 [first.2] (second.1 ++ rest) =
      second.1 ++ Text.replaceAll first.1 [first.2] rest := by
  have other : ¬ first.1 <+: second.1 ++ rest := fun start =>
    (List.prefix_or_prefix_of_prefix start (List.prefix_append second.1 rest)).elim
      before.apart.1 before.apart.2
  obtain ⟨_, whole, _⟩ := opened
  obtain ⟨body, whole', free⟩ := opened'
  rw [whole', List.cons_append] at other ⊢
  rw [Text.replaceLater other, whole, Text.replacePast free, List.cons_append]

variable {listed : List (Text × Char)} {rest : Text}

theorem decodeOther {c : Char} (ordered : Ordered listed)
    (other : ∀ entity ∈ listed, ¬ entity.1 <+: c :: rest) :
    decodeEach listed (c :: rest) = c :: decodeEach listed rest := by
  induction listed generalizing rest with
  | nil => rfl
  | cons first others ih =>
    obtain ⟨here, later⟩ := List.forall_mem_cons.mp other
    have kept : Text.replaceAll first.1 [first.2] (c :: rest) =
        c :: Text.replaceAll first.1 [first.2] rest := Text.replaceLater here
    rw [decodeEach, decodeEach, kept]
    refine ih ordered.tail fun next member start => later next member ?_
    have before := (List.pairwise_cons.mp ordered.before).1 next member
    rw [← kept] at start
    exact Text.prefixReplaced (ordered.opened first List.mem_cons_self).filled before.sign start

theorem decodeHere {entity : Text × Char} (ordered : Ordered listed) (member : entity ∈ listed)
    (rest : Text) : decodeEach listed (entity.1 ++ rest) = entity.2 :: decodeEach listed rest := by
  induction listed generalizing rest with
  | nil => cases member
  | cons first others ih =>
    have opened := List.forall_mem_cons.mp ordered.opened
    have before := (List.pairwise_cons.mp ordered.before).1
    rcases List.mem_cons.mp member with rfl | later
    -- the sign is in no entity that is still to come, so it stays
    · rw [decodeEach, decodeEach, Text.replaceHere opened.1.filled, List.singleton_append]
      refine decodeOther ordered.tail fun next inside start => (before next inside).sign ?_
      rw [(opened.2 next inside).starts start]
      exact (opened.2 next inside).sign
    · rw [decodeEach, decodeEach, replaceBeside opened.1 (opened.2 entity later) (before entity later),
        ih ordered.tail later]

/- One pass over a text from the left. -/
inductive Decodes : Text → Text → Prop where
  | done : Decodes [] []
  | entity {entity : Text × Char} {rest decoded : Text} (member : entity ∈ entities)
      (later : Decodes rest decoded) : Decodes (entity.1 ++ rest) (entity.2 :: decoded)
  | other {c : Char} {rest decoded : Text} (none : ∀ entity ∈ entities, ¬ entity.1 <+: c :: rest)
      (later : Decodes rest decoded) : Decodes (c :: rest) (c :: decoded)

theorem decodedOf {text decoded : Text} (decodes : Decodes text decoded) :
    decodeEntities text = decoded := by
  rw [decodeEachAll]
  induction decodes with
  | done => rfl
  | entity member _ ih => rw [decodeHere entitiesOrdered member, ih]
  | other none _ ih => rw [decodeOther entitiesOrdered none, ih]

theorem decodesSome (text : Text) : ∃ decoded, Decodes text decoded := by
  induction long : text.length using Nat.strongRecOn generalizing text with
  | ind length ih =>
    subst long
    cases text with
    | nil => exact ⟨[], .done⟩
    | cons c rest =>
      by_cases found : ∃ entity ∈ entities, entity.1 <+: c :: rest
      · obtain ⟨entity, member, others, whole⟩ := found
        have filled := List.length_pos_iff.mpr (entitiesOrdered.opened entity member).filled
        have shorter : others.length < (c :: rest).length := by
          rw [← whole, List.length_append]
          omega
        obtain ⟨decoded, later⟩ := ih others.length shorter others rfl
        exact ⟨entity.2 :: decoded, whole ▸ .entity member later⟩
      · obtain ⟨decoded, later⟩ := ih rest.length (Nat.lt_succ_self _) rest rfl
        exact ⟨c :: decoded, .other (fun entity member start => found ⟨entity, member, start⟩) later⟩

def encodeSign (c : Char) : Text :=
  ((entities.find? fun entity => entity.2 = c).map Prod.fst).getD [c]

def encodeEntities (text : Text) : Text :=
  text.flatMap encodeSign

theorem decodesEncoded (text : Text) : Decodes (encodeEntities text) text := by
  induction text with
  | nil => exact .done
  | cons c rest ih =>
    rw [encodeEntities, List.flatMap_cons, ← encodeEntities, encodeSign]
    cases found : entities.find? fun entity => entity.2 = c with
    | some entity =>
      have same : entity.2 = c := by simpa using List.find?_some found
      exact same ▸ .entity (List.mem_of_find?_eq_some found) ih
    | none =>
      have absent := List.find?_eq_none.mp found
      refine .other (fun entity member start => ?_) ih
      have ampersand := (entitiesOrdered.opened entity member).starts start
      exact absent ("&amp;", '&') (by decide) (decide_eq_true ampersand.symm)

theorem decodedInOnePass (text : Text) :
    (∀ decoded, decodeEntities text = decoded ↔ Decodes text decoded) ∧
      decodeEntities (encodeEntities text) = text := by
  refine ⟨fun decoded => ⟨fun same => ?_, decodedOf⟩, decodedOf (decodesEncoded text)⟩
  obtain ⟨passed, decodes⟩ := decodesSome text
  rwa [← same, decodedOf decodes]

end Comment

end TypedClient
