import Mathlib.Data.List.Basic
import Mathlib.Logic.Function.Iterate
import TypedClient.Declaration
import TypedClient.Proofs.Signature.Pieces

/-!
The grammar of TypeScript types, as far as mapped types use it: names, generic types, arrays, unions and
parentheses. The suffix of an array binds tighter than the bar of a union. A text is read as at most one
type.
-/

namespace TypedClient

inductive TypeTerm where
  | name (text : Text)
  | generic (name : Text) (arguments : List TypeTerm)
  | array (element : TypeTerm)
  | union (first second : TypeTerm)
  deriving Repr

namespace TypeTerm

def nameChar (c : Char) : Bool :=
  Declaration.identifierPart c || c == '.' || c == '+'

def IsName (text : Text) : Prop :=
  text ≠ [] ∧ ∀ c ∈ text, nameChar c = true

instance (text : Text) : Decidable (IsName text) :=
  decidable_of_iff (text ≠ [] ∧ text.all nameChar = true) (by simp [IsName])

inductive Level where
  | primary
  | suffixed
  | union

def separator : Text := ", "

def bar : Text := " | "

inductive Reads : Level → Text → TypeTerm → Prop where
  | name {text} (named : IsName text) : Reads .primary text (.name text)
  | generic {base texts types} (named : IsName base) (nonempty : texts ≠ [])
      (each : List.Forall₂ (Reads .union) texts types) :
      Reads .primary (base ++ '<' :: separator.intercalate texts ++ ['>']) (.generic base types)
  | group {text type} (inner : Reads .union text type) : Reads .primary ('(' :: text ++ [')']) type
  | single {text type} (primary : Reads .primary text type) : Reads .suffixed text type
  | array {text type} (element : Reads .suffixed text type) :
      Reads .suffixed (text ++ ['[', ']']) (.array type)
  | member {text type} (only : Reads .suffixed text type) : Reads .union text type
  | union {text others type other} (first : Reads .suffixed text type)
      (rest : Reads .union others other) :
      Reads .union (text ++ bar ++ others) (.union type other)

def Level.follows : Level → List Char
  | .primary => [')', '>', ',', ' ', '[']
  | .suffixed => [')', '>', ',', ' ']
  | .union => [')', '>', ',']

def Follows (level : Level) (rest : Text) : Prop :=
  ∀ c ∈ rest.head?, c ∈ level.follows

/- Two types that start together, each with what may follow it, are the same. -/
def Determined (level : Level) (bound : Nat) : Prop :=
  ∀ {text other rest rest' : Text} {type type' : TypeTerm}, text.length ≤ bound →
    Reads level text type → Reads level other type' → Follows level rest → Follows level rest' →
      text ++ rest = other ++ rest' → text = other ∧ type = type'

def Stops (rest : Text) : Prop :=
  ∀ c ∈ rest.head?, nameChar c = false

theorem Follows.stops {level : Level} {rest : Text} (follows : Follows level rest) : Stops rest := by
  intro c member
  have outside : level.follows.all (fun c => !nameChar c) = true := by cases level <;> decide
  simpa using List.all_eq_true.mp outside c (follows c member)

theorem Follows.notBracket {level : Level} {rest : Text} (follows : Follows level rest) :
    rest.head? ≠ some '<' := by
  intro first
  have among := follows '<' first
  have absent : '<' ∉ level.follows := by cases level <;> decide
  exact absent among

theorem followsAt {level : Level} {c : Char} {rest : Text} (among : c ∈ level.follows) :
    Follows level (c :: rest) := by
  intro d first
  cases Option.some.inj first
  exact among

theorem Follows.suffixed {rest : Text} (follows : Follows .union rest) : Follows .suffixed rest := by
  intro c member
  exact List.mem_append_left [' '] (follows c member)

theorem runUnique {text other rest rest' : Text} (named : ∀ c ∈ text, nameChar c = true)
    (named' : ∀ c ∈ other, nameChar c = true) (stops : Stops rest) (stops' : Stops rest')
    (same : text ++ rest = other ++ rest') : text = other ∧ rest = rest' := by
  induction text generalizing other with
  | nil =>
    cases other with
    | nil => exact ⟨rfl, same⟩
    | cons c others =>
      have first := stops c (by rw [← List.nil_append rest, same]; rfl)
      exact absurd (named' c List.mem_cons_self) (Bool.not_eq_true _ ▸ first)
  | cons c others ih =>
    cases other with
    | nil =>
      have first := stops' c (by rw [← List.nil_append rest', ← same]; rfl)
      exact absurd (named c List.mem_cons_self) (Bool.not_eq_true _ ▸ first)
    | cons d others' =>
      obtain ⟨rfl, later⟩ := List.cons.inj same
      obtain ⟨rfl, ends⟩ := ih (fun c member => named c (List.mem_cons_of_mem _ member))
        (fun c member => named' c (List.mem_cons_of_mem _ member)) later
      exact ⟨rfl, ends⟩

theorem stopsAt {c : Char} {rest : Text} (other : nameChar c = false) : Stops (c :: rest) := by
  intro d first
  cases Option.some.inj first
  exact other

theorem nameNotGroup {base rest others : Text} (named : IsName base) :
    base ++ rest ≠ '(' :: others := by
  obtain ⟨c, later, rfl⟩ := List.exists_cons_of_ne_nil named.1
  intro same
  have first := named.2 c List.mem_cons_self
  rw [(List.cons.inj same).1] at first
  exact absurd first (by decide)

theorem joinUnique {bound : Nat} (determined : Determined .union bound) {texts others : List Text}
    {types types' : List TypeTerm} {rest rest' : Text} (each : List.Forall₂ (Reads .union) texts types)
    (each' : List.Forall₂ (Reads .union) others types') (nonempty : texts ≠ []) (nonempty' : others ≠ [])
    (short : ∀ text ∈ texts, text.length ≤ bound)
    (same : separator.intercalate texts ++ '>' :: rest = separator.intercalate others ++ '>' :: rest') :
    texts = others ∧ types = types' := by
  have closing : ∀ rest, Follows .union ('>' :: rest) := fun _ => followsAt (by decide)
  have another : ∀ rest, Follows .union (separator ++ rest) := fun _ => followsAt (by decide)
  induction each generalizing others types' with
  | nil => contradiction
  | @cons text type texts types here later ih =>
    cases each' with
    | nil => contradiction
    | @cons other type' others types' here' later' =>
      have fits := short text List.mem_cons_self
      cases later with
      | nil =>
        cases later' with
        | nil =>
          simp only [List.intercalate_singleton] at same
          obtain ⟨rfl, rfl⟩ := determined fits here here' (closing _) (closing _) same
          exact ⟨rfl, rfl⟩
        | cons =>
          rw [List.intercalate_singleton, List.intercalate_cons_cons, List.append_assoc,
            List.append_assoc] at same
          obtain ⟨rfl, _⟩ := determined fits here here' (closing _) (another _) same
          exact absurd (List.cons.inj (List.append_cancel_left same)).1 (by decide)
      | cons next more =>
        cases later' with
        | nil =>
          rw [List.intercalate_singleton, List.intercalate_cons_cons, List.append_assoc,
            List.append_assoc] at same
          obtain ⟨rfl, _⟩ := determined fits here here' (another _) (closing _) same
          exact absurd (List.cons.inj (List.append_cancel_left same)).1 (by decide)
        | cons next' more' =>
          rw [List.intercalate_cons_cons, List.intercalate_cons_cons, List.append_assoc,
            List.append_assoc, List.append_assoc, List.append_assoc] at same
          obtain ⟨rfl, rfl⟩ := determined fits here here' (another _) (another _) same
          have tails := List.append_cancel_left (List.append_cancel_left same)
          obtain ⟨sameTexts, sameTypes⟩ := ih (.cons next' more') (by simp) (by simp)
            (fun text member => short text (List.mem_cons_of_mem _ member)) tails
          exact ⟨by rw [sameTexts], by rw [sameTypes]⟩

theorem primaryDetermined {bound : Nat}
    (below : ∀ smaller < bound, Determined .union smaller) : Determined .primary bound := by
  intro text other rest rest' type type' fits first second follows after same
  cases first with
  | name named =>
    cases second with
    | name named' =>
      obtain ⟨rfl, _⟩ := runUnique named.2 named'.2 follows.stops after.stops same
      exact ⟨rfl, rfl⟩
    | generic named' _ _ =>
      rw [List.append_assoc, List.append_assoc] at same
      obtain ⟨_, ends⟩ := runUnique named.2 named'.2 follows.stops (stopsAt (by decide)) same
      exact absurd (congrArg List.head? ends) follows.notBracket
    | group _ => exact absurd same (nameNotGroup named)
  | @generic base texts types named nonempty each =>
    rw [List.append_assoc, List.append_assoc] at same
    cases second with
    | name named' =>
      obtain ⟨_, ends⟩ := runUnique named.2 named'.2 (stopsAt (by decide)) after.stops same
      exact absurd (congrArg List.head? ends.symm) after.notBracket
    | @generic base' others types' named' nonempty' each' =>
      rw [List.append_assoc, List.append_assoc] at same
      obtain ⟨rfl, ends⟩ :=
        runUnique named.2 named'.2 (stopsAt (by decide)) (stopsAt (by decide)) same
      have inside : separator.intercalate texts ++ '>' :: rest =
          separator.intercalate others ++ '>' :: rest' := (List.cons.inj ends).2
      have shorter : (separator.intercalate texts).length < bound := by
        simp only [List.length_append, List.length_cons, List.length_nil] at fits
        omega
      obtain ⟨rfl, rfl⟩ := joinUnique (below _ shorter) each each' nonempty nonempty'
        (fun text member => (Text.infixIntercalate separator member).length_le) inside
      exact ⟨rfl, rfl⟩
    | group _ => exact absurd same (nameNotGroup named)
  | @group text type inner =>
    cases second with
    | name named' => exact absurd same.symm (nameNotGroup named')
    | generic named' _ _ =>
      simp only [List.append_assoc] at same
      exact absurd same.symm (nameNotGroup named')
    | @group other type' inner' =>
      have inside : text ++ ([')'] ++ rest) = other ++ ([')'] ++ rest') := by
        simpa using (List.cons.inj same).2
      have shorter : text.length < bound := by
        simp only [List.length_append, List.length_cons, List.length_nil] at fits
        omega
      obtain ⟨rfl, rfl⟩ := below _ shorter (Nat.le_refl _) inner inner' (followsAt (by decide))
        (followsAt (by decide)) inside
      exact ⟨rfl, rfl⟩

def brackets : Nat → Text
  | 0 => []
  | count + 1 => '[' :: ']' :: brackets count

theorem bracketsNext (count : Nat) : brackets count ++ ['[', ']'] = brackets (count + 1) := by
  induction count with
  | zero => rfl
  | succ count ih => rw [brackets, List.cons_append, List.cons_append, ih]; rfl

theorem bracketsUnique {count count' : Nat} {rest rest' : Text} (follows : Follows .suffixed rest)
    (after : Follows .suffixed rest') (same : brackets count ++ rest = brackets count' ++ rest') :
    count = count' := by
  have absent : '[' ∉ Level.suffixed.follows := by decide
  induction count generalizing count' with
  | zero =>
    cases count' with
    | zero => rfl
    | succ count' =>
      change rest = _ at same
      rw [same] at follows
      exact absurd (follows '[' rfl) absent
  | succ count ih =>
    cases count' with
    | zero =>
      change _ = rest' at same
      rw [← same] at after
      exact absurd (after '[' rfl) absent
    | succ count' =>
      have later : brackets count ++ rest = brackets count' ++ rest' :=
        (List.cons.inj (List.cons.inj same).2).2
      rw [ih later]

theorem suffixedSource {text : Text} {type : TypeTerm} (reads : Reads .suffixed text type) :
    ∃ core base count, Reads .primary core base ∧ text = core ++ brackets count ∧
      type = array^[count] base := by
  induction long : text.length using Nat.strongRecOn generalizing text type with
  | ind length ih =>
    subst long
    cases reads with
    | single primary => exact ⟨_, _, 0, primary, by simp [brackets], rfl⟩
    | @array text type element =>
      obtain ⟨core, base, count, primary, rfl, rfl⟩ := ih text.length (by simp) element rfl
      refine ⟨core, base, count + 1, primary, ?_, (Function.iterate_succ_apply' _ _ _).symm⟩
      rw [List.append_assoc, bracketsNext]

theorem Follows.brackets {rest : Text} (follows : Follows .suffixed rest) (count : Nat) :
    Follows .primary (brackets count ++ rest) := by
  cases count with
  | zero =>
    intro c member
    exact List.mem_append_left ['['] (follows c member)
  | succ count => exact followsAt (by decide)

theorem suffixedDetermined {bound : Nat} (determined : Determined .primary bound) :
    Determined .suffixed bound := by
  intro text other rest rest' type type' fits first second follows after same
  obtain ⟨core, base, count, primary, rfl, rfl⟩ := suffixedSource first
  obtain ⟨core', base', count', primary', rfl, rfl⟩ := suffixedSource second
  have short : core.length ≤ bound := by
    rw [List.length_append] at fits
    omega
  rw [List.append_assoc, List.append_assoc] at same
  obtain ⟨rfl, rfl⟩ :=
    determined short primary primary' (follows.brackets count) (after.brackets count') same
  obtain rfl := bracketsUnique follows after (List.append_cancel_left same)
  exact ⟨rfl, rfl⟩

theorem followsBar (rest : Text) : Follows .suffixed (bar ++ rest) :=
  followsAt (by decide)

theorem unionDetermined {bound : Nat} (suffixed : Determined .suffixed bound)
    (below : ∀ smaller < bound, Determined .union smaller) : Determined .union bound := by
  intro text other rest rest' type type' fits first second follows after same
  cases first with
  | member only =>
    cases second with
    | member only' => exact suffixed fits only only' follows.suffixed after.suffixed same
    | union first' _ =>
      rw [List.append_assoc, List.append_assoc] at same
      obtain ⟨rfl, _⟩ := suffixed fits only first' follows.suffixed (followsBar _) same
      have ends := List.append_cancel_left same
      rw [ends] at follows
      exact absurd (follows ' ' rfl) (by decide)
  | @union text others type later here next =>
    rw [List.append_assoc, List.append_assoc] at same
    have short : text.length ≤ bound := by
      simp only [List.length_append] at fits
      omega
    cases second with
    | member only' =>
      obtain ⟨rfl, _⟩ := suffixed short here only' (followsBar _) after.suffixed same
      have ends := List.append_cancel_left same
      rw [← ends] at after
      exact absurd (after ' ' rfl) (by decide)
    | @union text' others' type' later' here' next' =>
      rw [List.append_assoc, List.append_assoc] at same
      obtain ⟨rfl, rfl⟩ := suffixed short here here' (followsBar _) (followsBar _) same
      have tails := List.append_cancel_left (List.append_cancel_left same)
      have shorter : others.length < bound := by
        simp only [List.length_append, bar] at fits
        have : (" | ".toList).length = 3 := by decide
        omega
      obtain ⟨rfl, rfl⟩ := below _ shorter (Nat.le_refl _) next next' follows after tails
      exact ⟨rfl, rfl⟩

theorem determined (bound : Nat) : Determined .union bound := by
  -- What stands in brackets, in parentheses or after a bar is shorter than the whole.
  induction bound using Nat.strongRecOn with
  | ind bound ih => exact unionDetermined (suffixedDetermined (primaryDetermined ih)) ih

theorem determinedSuffixed (bound : Nat) : Determined .suffixed bound :=
  suffixedDetermined (primaryDetermined fun smaller _ => determined smaller)

theorem followsNil (level : Level) : Follows level [] := by
  simp [Follows]

theorem readsBegin {text rest : Text} {type : TypeTerm} {first : Text} {begun : TypeTerm}
    (reads : Reads .union text type) (starts : Reads .suffixed first begun)
    (whole : text = first ++ bar ++ rest) : ∃ other, type = .union begun other := by
  rw [List.append_assoc] at whole
  cases reads with
  | member only =>
    obtain ⟨rfl, _⟩ := determinedSuffixed _ (Nat.le_refl _) only starts (followsNil _) (followsBar rest)
      (by rw [List.append_nil, whole])
    exact absurd (List.self_eq_append_right.mp whole) (List.cons_ne_nil _ _)
  | union here next =>
    rw [List.append_assoc] at whole
    obtain ⟨rfl, rfl⟩ := determinedSuffixed _ (Nat.le_refl _) here starts (followsBar _) (followsBar _) whole
    exact ⟨_, rfl⟩

theorem readsUnique {text : Text} {type other : TypeTerm} (reads : Reads .union text type)
    (reads' : Reads .union text other) : type = other :=
  (determined text.length (Nat.le_refl _) reads reads' (followsNil _) (followsNil _) rfl).2

end TypeTerm

end TypedClient
