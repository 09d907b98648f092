import Mathlib.Data.List.Infix
import Mathlib.Data.List.TakeWhile
import Mathlib.Tactic.Common
import TypedClient.Proofs.Script.Literal

/-!
Text that is put into a literal as it is. Reading gives the text back, and the names of its
substitutions, exactly where no sign in it means anything to the reader. One direction follows the
text sign by sign. In the other a backslash decides: an escape is longer than what it stands for, so
that the parts after it cannot make up for it.
-/

namespace TypedClient.Script

structure Named (name : Text) : Prop where
  nonempty : name ≠ []
  starts : name.head?.any Text.digit = false
  parts : ∀ c ∈ name, Declaration.identifierPart c = true

inductive Token where
  | raw (c : Char)
  | value (name : Text)
  deriving DecidableEq

namespace Token

def text : Token → Text
  | raw c => [c]
  | value name => '$' :: '\x7b' :: name ++ ['\x7d']

def parts : Token → List Part
  | raw c => (codeUnits c.toNat).map .unit
  | value name => [.value name]

end Token

def Form.signs : Form → List Char
  | .quoted => ['\'', '\\', '\n', '\r']
  | .template => ['\x60', '\\', '\r']

structure Clear (form : Form) (tokens : List Token) : Prop where
  signs : ∀ c ∈ form.signs, .raw c ∉ tokens
  opens : form = .template → ¬ [.raw '$', .raw '\x7b'] <:+: tokens

/- How many units a part takes up in a literal that is not escaped. -/
def Part.weight : Part → Nat
  | .unit _ => 1
  | .value name => (units (Token.value name).text).length

def weight : List Part → Nat
  | [] => 0
  | part :: rest => part.weight + weight rest

theorem weightAppend (first second : List Part) :
    weight (first ++ second) = weight first + weight second := by
  induction first with
  | nil => simp [weight]
  | cons part rest ih => rw [List.cons_append, weight, weight, ih, Nat.add_assoc]

theorem weightUnits (codes : List UInt16) : weight (codes.map .unit) = codes.length := by
  induction codes with
  | nil => rfl
  | cons code rest ih => rw [List.map_cons, weight, ih, List.length_cons, Part.weight, Nat.add_comm]

theorem unitsAppend (first second : Text) : units (first ++ second) = units first ++ units second :=
  List.flatMap_append

theorem unitsCons (c : Char) (rest : Text) : units (c :: rest) = codeUnits c.toNat ++ units rest :=
  List.flatMap_cons

theorem codeUnitsBound (code : Nat) : 1 ≤ (codeUnits code).length ∧ (codeUnits code).length ≤ 2 := by
  unfold codeUnits
  split <;> simp

theorem tokenWeight (tokens : List Token) :
    weight (tokens.flatMap Token.parts) = (units (tokens.flatMap Token.text)).length := by
  induction tokens with
  | nil => rfl
  | cons token rest ih =>
    rw [List.flatMap_cons, List.flatMap_cons, weightAppend, unitsAppend, List.length_append, ih]
    congr 1
    cases token with
    | raw c => simp [Token.parts, Token.text, weightUnits, units]
    | value name => simp [Token.parts, weight, Part.weight]

theorem lengthUnits (text : Text) : text.length ≤ (units text).length := by
  induction text with
  | nil => rfl
  | cons c rest ih =>
    have one := (codeUnitsBound c.toNat).1
    rw [unitsCons, List.length_append, List.length_cons]
    omega

theorem weightTake (front : Text) {text : Text} (start : front <+: text) :
    front.length ≤ (units text).length :=
  Nat.le_trans start.length_le (lengthUnits text)

theorem escapeWeight {text : Text} {codes : List UInt16} {length : Nat}
    (found : escape? text = some (codes, length)) :
    codes.length ≤ (units (text.take length)).length := by
  unfold escape? at found
  split at found
  · contradiction
  · cases Option.some.inj found
    exact Nat.zero_le _
  · obtain ⟨code, _, same⟩ := Option.map_eq_some_iff.mp found
    cases same
    exact weightTake ['x'] (by simp)
  -- only digits in braces make two units, and the brace is there for the second one
  · dsimp only at found
    split at found
    · contradiction
    · obtain ⟨code, _, same⟩ := Option.map_eq_some_iff.mp found
      cases same
      exact Nat.le_trans (codeUnitsBound code).2 (weightTake ['u', '\x7b'] (by simp))
  · obtain ⟨code, _, same⟩ := Option.map_eq_some_iff.mp found
    cases same
    exact weightTake ['u'] (by simp)
  · split at found
    · contradiction
    · cases Option.some.inj found
      exact weightTake ['0'] (by simp)
  · rename_i c rest _ _ _ _ _
    split at found
    · contradiction
    · split at found
      · cases Option.some.inj found
        exact Nat.zero_le _
      · cases Option.some.inj found
        have whole : units ((c :: rest).take 1) = codeUnits c.toNat := by simp [units]
        rw [whole]
        cases singleEscapes.lookup c with
        | none => exact Nat.le_refl _
        | some code => exact (codeUnitsBound c.toNat).1

section Steps

variable {form : Form} {c : Char} {rest : Text} {parts : List Part}

theorem readMark (form : Form) (rest : Text) :
    readFrom form 0 (form.mark :: rest) = if rest.isEmpty then some [] else none := by
  rw [readFrom, if_pos rfl]

theorem readEscape (form : Form) (rest : Text) :
    readFrom form 0 ('\\' :: rest) = (escape? rest).bind fun (codes, length) =>
      (readFrom form length rest).map (codes.map .unit ++ ·) := by
  have other : '\\' ≠ form.mark := by cases form <;> decide
  rw [readFrom, if_neg other, if_pos rfl]
  cases escape? rest <;> rfl

theorem readSubstitution (inner : Text) :
    readFrom .template 0 ('$' :: '\x7b' :: inner) = (substituted? inner).bind fun name =>
      (readFrom .template (name.length + 2) ('\x7b' :: inner)).map (.value name :: ·) := by
  rw [readFrom, if_neg (by decide), if_neg (by decide), if_pos ⟨rfl, rfl, rfl⟩, List.tail_cons]
  cases substituted? inner <;> rfl

theorem quotedSign (member : c ∈ Form.quoted.signs) (mark : c ≠ Form.quoted.mark)
    (escape : c ≠ '\\') : c = '\n' ∨ c = '\r' := by
  have other : c ≠ '\'' := mark
  simpa [Form.signs, other, escape] using member

theorem templateSign (member : c ∈ Form.template.signs) (mark : c ≠ Form.template.mark)
    (escape : c ≠ '\\') : c = '\r' := by
  have other : c ≠ '\x60' := mark
  simpa [Form.signs, other, escape] using member

theorem readQuotedBreak (breaks : c = '\n' ∨ c = '\r') : readFrom .quoted 0 (c :: rest) = none := by
  rcases breaks with rfl | rfl <;> rfl

theorem readTemplateBreak (rest : Text) :
    readFrom .template 0 ('\r' :: rest) =
      if rest.head? = some '\n' then readFrom .template 0 rest
      else (readFrom .template 0 rest).map (.unit 0x0A :: ·) := by
  rw [readFrom, if_neg (by decide), if_neg (by decide), if_neg (by simp), if_neg (by simp), if_pos rfl]

theorem readPlain (ordinary : c ∉ form.signs)
    (closed : form = .template → ¬ (c = '$' ∧ rest.head? = some '\x7b')) :
    readFrom form 0 (c :: rest) =
      (readFrom form 0 rest).map ((codeUnits c.toNat).map .unit ++ ·) := by
  rw [readFrom]
  cases form with
  | quoted =>
    simp only [Form.signs, List.mem_cons, List.not_mem_nil, or_false, not_or] at ordinary
    obtain ⟨mark, escape, feed, carriage⟩ := ordinary
    rw [if_neg (show c ≠ Form.quoted.mark from mark), if_neg escape, if_neg (by simp),
      if_neg (by simp [feed, carriage]), if_neg carriage]
  | template =>
    simp only [Form.signs, List.mem_cons, List.not_mem_nil, or_false, not_or] at ordinary
    obtain ⟨mark, escape, carriage⟩ := ordinary
    rw [if_neg (show c ≠ Form.template.mark from mark), if_neg escape,
      if_neg fun opens => closed rfl opens.2, if_neg (by simp), if_neg carriage]

theorem readSkip (form : Form) (skipped : Nat) (text : Text) :
    readFrom form skipped text = readFrom form 0 (text.drop skipped) := by
  induction text generalizing skipped with
  | nil => simp [readFrom]
  | cons c rest ih =>
    cases skipped with
    | zero => rfl
    | succ skipped => exact ih skipped

theorem substitutedIff {inner name : Text} :
    substituted? inner = some name ↔ Named name ∧ ∃ after, inner = name ++ '\x7d' :: after := by
  constructor
  · intro found
    unfold substituted? at found
    dsimp only at found
    split at found
    · contradiction
    · rename_i kept
      cases Option.some.inj found
      simp only [not_or, not_not] at kept
      obtain ⟨nonempty, starts, closing⟩ := kept
      have named : Named (inner.takeWhile Declaration.identifierPart) :=
        ⟨nonempty, by simpa using starts, fun c member => List.mem_takeWhile_imp member⟩
      obtain ⟨after, closes⟩ := List.head?_eq_some_iff.mp closing
      refine ⟨named, after, ?_⟩
      rw [← closes]
      have whole := List.take_append_drop (inner.takeWhile Declaration.identifierPart).length inner
      rw [← List.prefix_iff_eq_take.mp (List.takeWhile_prefix _)] at whole
      exact whole.symm
  · rintro ⟨named, after, rfl⟩
    have run : (name ++ '\x7d' :: after).takeWhile Declaration.identifierPart = name := by
      rw [List.takeWhile_append_of_pos named.parts, List.takeWhile_cons_of_neg (by decide),
        List.append_nil]
    unfold substituted?
    dsimp only
    rw [run, if_neg]
    simp [named.nonempty, named.starts]

/- What is read takes up no more units than the text that it is read from, with its last mark. -/
def Bounded (form : Form) (text : Text) : Prop :=
  ∀ {skipped : Nat} {parts : List Part}, readFrom form skipped text = some parts →
    weight parts + 1 ≤ (units (text.drop skipped)).length

theorem escapeShort (later : Bounded form rest)
    (found : readFrom form 0 ('\\' :: rest) = some parts) :
    weight parts + 1 ≤ (units rest).length := by
  rw [readEscape] at found
  obtain ⟨⟨codes, length⟩, escaped, more⟩ := Option.bind_eq_some_iff.mp found
  obtain ⟨others, read, rfl⟩ := Option.map_eq_some_iff.mp more
  have bound := later read
  have short := escapeWeight escaped
  have whole := congrArg (fun text => (units text).length) (List.take_append_drop length rest)
  simp only [unitsAppend, List.length_append] at whole
  rw [weightAppend, weightUnits]
  omega

theorem substitutionBound {inner : Text} (later : Bounded .template ('\x7b' :: inner))
    (found : readFrom .template 0 ('$' :: '\x7b' :: inner) = some parts) :
    weight parts + 1 ≤ (units ('$' :: '\x7b' :: inner)).length := by
  rw [readSubstitution] at found
  obtain ⟨name, substituted, more⟩ := Option.bind_eq_some_iff.mp found
  obtain ⟨others, read, rfl⟩ := Option.map_eq_some_iff.mp more
  obtain ⟨_, after, rfl⟩ := substitutedIff.mp substituted
  have bound := later read
  have rest : ('\x7b' :: (name ++ '\x7d' :: after)).drop (name.length + 2) = after := by
    simp [List.drop_append]
  have whole : '$' :: '\x7b' :: (name ++ '\x7d' :: after) = (Token.value name).text ++ after := by
    simp [Token.text]
  rw [rest] at bound
  rw [whole, unitsAppend, List.length_append, weight, Part.weight]
  omega

theorem unitBound (later : Bounded form rest) {code : UInt16} {others : List Part}
    (read : readFrom form 0 rest = some others) :
    weight (.unit code :: others) ≤ (units rest).length := by
  have bound := later read
  rw [List.drop_zero] at bound
  rw [weight, Part.weight]
  omega

theorem carriageBound (later : Bounded .template rest)
    (found : readFrom .template 0 ('\r' :: rest) = some parts) :
    weight parts ≤ (units rest).length := by
  rw [readTemplateBreak] at found
  split at found
  · exact Nat.le_of_succ_le (later found)
  · obtain ⟨others, read, rfl⟩ := Option.map_eq_some_iff.mp found
    exact unitBound later read

theorem readBounded (form : Form) (text : Text) : Bounded form text := by
  induction text with
  | nil => intro skipped parts found; simp [readFrom] at found
  | cons c rest ih =>
    intro skipped parts found
    cases skipped with
    | succ skipped => exact ih found
    | zero =>
      have one := (codeUnitsBound c.toNat).1
      rw [List.drop_zero]
      by_cases mark : c = form.mark
      · rw [mark, readMark] at found
        split at found
        · cases Option.some.inj found
          rw [unitsCons, List.length_append]
          exact Nat.le_trans one (Nat.le_add_right _ _)
        · contradiction
      by_cases escape : c = '\\'
      · subst escape
        have short := escapeShort ih found
        rw [unitsCons, List.length_append]
        omega
      by_cases opens : form = .template ∧ c = '$' ∧ rest.head? = some '\x7b'
      · obtain ⟨rfl, rfl, head⟩ := opens
        obtain ⟨inner, rfl⟩ := List.head?_eq_some_iff.mp head
        exact substitutionBound ih found
      rw [unitsCons, List.length_append]
      by_cases ordinary : c ∈ form.signs
      · cases form with
        | quoted =>
          rw [readQuotedBreak (quotedSign ordinary mark escape)] at found
          contradiction
        | template =>
          cases templateSign ordinary mark escape
          have bound := carriageBound ih found
          omega
      · rw [readPlain ordinary fun template head => opens ⟨template, head⟩] at found
        obtain ⟨others, read, rfl⟩ := Option.map_eq_some_iff.mp found
        have bound := ih read
        rw [List.drop_zero] at bound
        rw [weightAppend, weightUnits]
        omega

end Steps

section Tokens

variable {form : Form} {tokens : List Token} {c : Char} {name : Text}

theorem clearValue : Clear form (.value name :: tokens) ↔ Clear form tokens := by
  constructor
  · intro clear
    refine ⟨fun c member inside => clear.signs c member (List.mem_cons_of_mem _ inside), ?_⟩
    exact fun template inside => clear.opens template (List.infix_cons inside)
  · intro clear
    refine ⟨fun c member inside => ?_, fun template inside => ?_⟩
    · rcases List.mem_cons.mp inside with same | later
      · cases same
      · exact clear.signs c member later
    · rcases List.infix_cons_iff.mp inside with first | later
      · cases (List.cons_prefix_cons.mp first).1
      · exact clear.opens template later

theorem clearRaw : Clear form (.raw c :: tokens) ↔
    c ∉ form.signs ∧ (form = .template → ¬ (c = '$' ∧ tokens.head? = some (.raw '\x7b'))) ∧
      Clear form tokens := by
  constructor
  · intro clear
    refine ⟨fun member => clear.signs c member List.mem_cons_self, fun template opens => ?_, ?_, ?_⟩
    · obtain ⟨rfl, head⟩ := opens
      obtain ⟨rest, rfl⟩ := List.head?_eq_some_iff.mp head
      exact clear.opens template ⟨[], rest, rfl⟩
    · exact fun d member inside => clear.signs d member (List.mem_cons_of_mem _ inside)
    · exact fun template inside => clear.opens template (List.infix_cons inside)
  · rintro ⟨ordinary, closed, clear⟩
    refine ⟨fun d member inside => ?_, fun template inside => ?_⟩
    · rcases List.mem_cons.mp inside with same | later
      · cases same
        exact ordinary member
      · exact clear.signs d member later
    · rcases List.infix_cons_iff.mp inside with first | later
      · obtain ⟨dollar, brace⟩ := List.cons_prefix_cons.mp first
        obtain ⟨rest, rfl⟩ := brace
        cases dollar
        exact closed template ⟨rfl, rfl⟩
      · exact clear.opens template later

def written (form : Form) (tokens : List Token) : Text :=
  tokens.flatMap Token.text ++ [form.mark]

theorem writtenCons (token : Token) : written form (token :: tokens) = token.text ++ written form tokens := by
  simp [written]

theorem writtenNonempty : written form tokens ≠ [] := by
  simp [written]

theorem writtenHead : (written form tokens).head? = some '\x7b' ↔ tokens.head? = some (.raw '\x7b') := by
  cases tokens with
  | nil => cases form <;> simp [written, Form.mark]
  | cons token rest =>
    cases token with
    | raw c => simp [writtenCons, Token.text]
    | value name => simp [writtenCons, Token.text]

theorem writtenWeight :
    (units (written form tokens)).length = weight (tokens.flatMap Token.parts) + 1 := by
  have mark : (units [form.mark]).length = 1 := by cases form <;> rfl
  rw [written, unitsAppend, List.length_append, mark, tokenWeight]

theorem carriageStops (tokens : List Token) :
    readFrom .template 0 ('\r' :: written .template tokens) ≠
      some (.unit 0x0D :: tokens.flatMap Token.parts) := by
  intro read
  rw [readTemplateBreak] at read
  split at read
  · rename_i head
    obtain ⟨rest, whole⟩ := List.head?_eq_some_iff.mp head
    rw [whole, readPlain (by decide) fun _ opens => absurd opens.1 (by decide)] at read
    obtain ⟨others, _, same⟩ := Option.map_eq_some_iff.mp read
    cases (List.cons_eq_cons.mp same).1
  · obtain ⟨others, _, same⟩ := Option.map_eq_some_iff.mp read
    cases (List.cons_eq_cons.mp same).1

theorem signStops (member : c ∈ form.signs) :
    readFrom form 0 (c :: written form tokens) ≠
      some ((codeUnits c.toNat).map .unit ++ tokens.flatMap Token.parts) := by
  intro read
  by_cases mark : c = form.mark
  · rw [mark, readMark, if_neg (by simp [writtenNonempty])] at read
    contradiction
  by_cases escape : c = '\\'
  · subst escape
    have short := escapeShort (readBounded form _) read
    have single : (codeUnits '\\'.toNat).length = 1 := rfl
    rw [writtenWeight, weightAppend, weightUnits, single] at short
    omega
  cases form with
  | quoted =>
    rw [readQuotedBreak (quotedSign member mark escape)] at read
    contradiction
  | template =>
    cases templateSign member mark escape
    exact carriageStops tokens read

theorem opensStops (opens : tokens.head? = some (.raw '\x7b')) :
    readFrom .template 0 ('$' :: written .template tokens) ≠
      some ((codeUnits '$'.toNat).map .unit ++ tokens.flatMap Token.parts) := by
  intro read
  obtain ⟨inner, whole⟩ := List.head?_eq_some_iff.mp (writtenHead.mpr opens)
  rw [whole, readSubstitution] at read
  obtain ⟨name, _, more⟩ := Option.bind_eq_some_iff.mp read
  obtain ⟨others, _, same⟩ := Option.map_eq_some_iff.mp more
  cases (List.cons_eq_cons.mp same).1

theorem readValue (named : Named name) :
    readFrom .template 0 (written .template (.value name :: tokens)) =
      (readFrom .template 0 (written .template tokens)).map (.value name :: ·) := by
  have whole : written .template (.value name :: tokens) =
      '$' :: '\x7b' :: (name ++ '\x7d' :: written .template tokens) := by
    simp [writtenCons, Token.text]
  have rest : ('\x7b' :: (name ++ '\x7d' :: written .template tokens)).drop (name.length + 2) =
      written .template tokens := by
    simp [List.drop_append]
  rw [whole, readSubstitution, substitutedIff.mpr ⟨named, _, rfl⟩, Option.bind_some, readSkip, rest]

theorem rawReads
    (names : ∀ name, .value name ∈ tokens → form = .template ∧ Named name) :
    readFrom form 0 (written form tokens) = some (tokens.flatMap Token.parts) ↔
      Clear form tokens := by
  induction tokens with
  | nil =>
    have empty : Clear form [] := ⟨fun _ _ inside => List.not_mem_nil inside, fun _ inside => by simp at inside⟩
    simp [written, readMark, empty]
  | cons token rest ih =>
    have later := ih fun name inside => names name (List.mem_cons_of_mem _ inside)
    cases token with
    | value name =>
      obtain ⟨rfl, named⟩ := names name List.mem_cons_self
      rw [readValue named, clearValue, ← later]
      simp [Token.parts]
    | raw c =>
      rw [clearRaw, writtenCons, List.flatMap_cons]
      by_cases member : c ∈ form.signs
      · exact iff_of_false (signStops member) fun clear => clear.1 member
      by_cases opens : form = .template ∧ c = '$' ∧ rest.head? = some (.raw '\x7b')
      · obtain ⟨rfl, rfl, head⟩ := opens
        exact iff_of_false (opensStops head) fun clear => clear.2.1 rfl ⟨rfl, head⟩
      · have closed : form = .template → ¬ (c = '$' ∧ rest.head? = some (.raw '\x7b')) :=
          fun template here => opens ⟨template, here⟩
        rw [and_iff_right member, and_iff_right closed, ← later]
        rw [Token.text, List.singleton_append, readPlain member fun template head =>
          closed template ⟨head.1, writtenHead.mp head.2⟩]
        simp [Token.parts]

end Tokens

end TypedClient.Script
