import TypedClient.Proofs.Comment.Entities
import TypedClient.Proofs.Comment.Lines

/-!
Settled lines: trimmed, with a single space wherever there are blanks, and without delimiters. A line
that is made safe is settled, and trimming, escaping and collapsing leave a settled line as it is.
-/

namespace TypedClient

namespace Text

def Parted (c d : Char) : Prop :=
  ¬ (blank c = true ∧ blank d = true)

instance (c d : Char) : Decidable (Parted c d) :=
  inferInstanceAs (Decidable (¬ _))

structure SingleSpaced (text : Text) : Prop where
  parted : text.IsChain Parted
  spaces : ∀ c ∈ text, blank c = true → c = ' '

variable {text : Text}

theorem blankOther {c d : Char} (here : blank c = true) (visible : blank d = false) : c ≠ d := by
  rintro rfl
  exact Bool.false_ne_true (visible.symm.trans here)

theorem collapseParted (text : Text) : (collapse text).IsChain Parted := by
  induction text using collapse.induct with
  | case1 => exact .nil
  | case2 c blank | case3 c visible =>
    rw [collapse]
    split <;> exact .singleton _
  | case4 c d rest blank next ih =>
    rw [collapse, if_pos blank, if_pos next]
    exact ih
  | case5 c d rest blank next ih =>
    rw [collapse, if_pos blank, if_neg next]
    refine .cons ih ?_
    rw [Comment.headCollapse, if_neg next]
    rintro _ ⟨rfl⟩
    exact fun both => next both.2
  | case6 c d rest visible ih =>
    rw [collapse, if_neg visible]
    exact .cons ih fun _ _ both => visible both.1

theorem collapseSpaced (text : Text) : SingleSpaced (collapse text) :=
  ⟨collapseParted text, fun _ member blank => Comment.blankCollapsed member blank⟩

theorem collapseOfSpaced (spaced : SingleSpaced text) : collapse text = text := by
  obtain ⟨parted, spaces⟩ := spaced
  induction text using collapse.induct with
  | case1 => rfl
  | case2 c blank =>
    rw [collapse, if_pos blank, spaces c List.mem_cons_self blank]
  | case3 c visible => rw [collapse, if_neg visible]
  | case4 c d rest blank next ih =>
    exact absurd ⟨blank, next⟩ (List.isChain_cons_cons.mp parted).1
  | case5 c d rest blank next ih =>
    have later := ih (List.isChain_cons_cons.mp parted).2 fun e member =>
      spaces e (List.mem_cons_of_mem _ member)
    rw [collapse, if_pos blank, if_neg next, later, spaces c List.mem_cons_self blank]
  | case6 c d rest visible ih =>
    have later := ih (List.isChain_cons_cons.mp parted).2 fun e member =>
      spaces e (List.mem_cons_of_mem _ member)
    rw [collapse, if_neg visible, later]

theorem SingleSpaced.part {part : Text} (spaced : SingleSpaced text) (within : part <:+: text) :
    SingleSpaced part where
  parted := spaced.parted.infix within
  spaces := fun c member => spaced.spaces c (within.subset member)

theorem startsOfTrimmed (trimmed : strip text = text) (filled : text ≠ []) : Starts text := by
  have visible : isBlank text = false := by
    cases blank : isBlank text with
    | false => rfl
    | true => exact absurd (trimmed.symm.trans (stripBlank blank)) filled
  exact trimmed ▸ startsStrip visible

end Text

namespace Comment

open Text (SingleSpaced Parted)

structure Settled (line : Text) : Prop where
  trimmed : Text.strip line = line
  spaced : SingleSpaced line
  loose : line.IsChain Loose

variable {line : Text} {limits : CommentLimits}

theorem separateOfApart {first second : Char}
    (apart : line.IsChain fun c d => ¬ (c = first ∧ d = second)) :
    separate first second line = line := by
  induction line using separate.induct first second with
  | case1 => rfl
  | case2 c => rfl
  | case3 c d rest delimits ih => exact absurd delimits (List.isChain_cons_cons.mp apart).1
  | case4 c d rest other ih =>
    rw [separate, if_neg other, ih (List.isChain_cons_cons.mp apart).2]

theorem escapeOfLoose (loose : line.IsChain Loose) : escapeDelimiters line = line := by
  have closing : separate '*' '/' line = line := separateOfApart (loose.imp fun _ _ both => both.1)
  have opening : separate '/' '*' line = line :=
    separateOfApart (loose.imp fun _ _ both => mt And.symm both.2)
  rw [escapeDelimiters, closing, opening]

theorem settledOfEscaped (text : Text) :
    Settled (Text.strip (Text.collapse (escapeDelimiters text))) where
  trimmed := Text.stripStrip _
  spaced := (Text.collapseSpaced _).part (Text.stripWithin _)
  loose := by
    have space : ∀ c, Loose c ' ' ∧ Loose ' ' c := fun c =>
      ⟨⟨apartAfter c (by decide), apartBefore (by decide) c⟩,
        ⟨apartBefore (by decide) c, apartAfter c (by decide)⟩⟩
    have collapsed := collapseKeeps (fun c => (space c).1) (fun c => (space c).2) (escapeLoose text)
    exact collapsed.infix (Text.stripWithin _)

theorem settledCut (settled : Settled line) (filled : line ≠ []) (count : Nat) :
    Settled (line.take (count + 1) ++ ellipsis) := by
  have within := takeWithin (count + 1) line
  have dots : ∀ c, Parted c '.' ∧ Loose c '.' := fun c =>
    ⟨fun both => absurd both.2 (by decide), apartAfter c (by decide), apartBefore (by decide) c⟩
  have join : ∀ {keeps : Char → Char → Prop}, line.IsChain keeps → ellipsis.IsChain keeps →
      (∀ c, keeps c '.') → (line.take (count + 1) ++ ellipsis).IsChain keeps := by
    intro keeps front last next
    have start := front.infix within
    refine start.append last ?_
    rintro c _ _ ⟨rfl⟩
    exact next c
  refine ⟨?_, ⟨?_, ?_⟩, ?_⟩
  · obtain ⟨c, rest, rfl, visible⟩ := Text.startsOfTrimmed settled.trimmed filled
    exact Text.stripOf ⟨c, rest.take count ++ ellipsis, rfl, visible⟩
      ⟨c :: rest.take count ++ ['.', '.'], '.', by simp [ellipsis], by decide⟩
  · exact join settled.spaced.parted (by decide) fun c => (dots c).1
  · intro c member blank
    rcases List.mem_append.mp member with front | last
    · exact settled.spaced.spaces c (within.subset front) blank
    · have dotted : ellipsis.all (fun c => !Text.blank c) = true := by decide
      have visible : Text.blank c = false := by simpa using List.all_eq_true.mp dotted c last
      exact absurd blank (by simp [visible])
  · exact join settled.loose (by decide) fun c => (dots c).2

theorem settledTruncate (settled : Settled line) {length : Nat} (room : 4 ≤ length) :
    Settled (truncate length line) := by
  unfold truncate
  split
  · exact settled
  · rename_i longer
    have filled : line ≠ [] := by
      rintro rfl
      exact longer (Nat.zero_le length)
    obtain ⟨count, rfl⟩ := Nat.exists_eq_add_of_le room
    have cut : 4 + count - ellipsis.length = count + 1 := by
      change 4 + count - 3 = count + 1
      omega
    rw [cut]
    exact settledCut settled filled count

theorem lengthTruncate (line : Text) {length : Nat} (room : 4 ≤ length) :
    (truncate length line).length ≤ length := by
  unfold truncate
  split
  · assumption
  · have dots : ellipsis.length = 3 := rfl
    rw [List.length_append, List.length_take, dots]
    omega

theorem settledNil : Settled [] :=
  ⟨rfl, ⟨.nil, by simp⟩, .nil⟩

theorem settledSingleLine (room : 4 ≤ limits.maxLength) (text : Text) :
    Settled (singleLine limits text) ∧ (singleLine limits text).length ≤ limits.maxLength := by
  unfold singleLine
  split
  · exact ⟨settledNil, Nat.zero_le _⟩
  · exact ⟨settledTruncate (settledOfEscaped _) room, lengthTruncate _ room⟩

theorem neutralizePlain (loose : line.IsChain Loose)
    (plain : limits.preserveHtmlTags = true ∨ Plain line) : neutralize limits line = line := by
  have kept : (if limits.preserveHtmlTags then line else decodeEntities line) = line := by
    rcases plain with keeps | plain
    · rw [if_pos keeps]
    · rw [decodePlain plain, ite_self]
  rw [neutralize, kept, escapeOfLoose loose]

theorem singleLineTrimmed (trimmed : Text.strip line = line) :
    singleLine limits line =
      truncate limits.maxLength (Text.strip (Text.collapse (neutralize limits line))) := by
  unfold singleLine
  split
  · rename_i blank
    have empty : line = [] := trimmed.symm.trans (Text.stripBlank blank)
    rw [empty, neutralizePlain .nil (.inr (by decide))]
    exact (if_pos (Nat.zero_le limits.maxLength)).symm
  · rw [trimmed]

theorem singleLineKept (settled : Settled line) (short : line.length ≤ limits.maxLength)
    (plain : limits.preserveHtmlTags = true ∨ Plain line) : singleLine limits line = line := by
  rw [singleLineTrimmed settled.trimmed, neutralizePlain settled.loose plain,
    Text.collapseOfSpaced settled.spaced, settled.trimmed, truncate, if_pos short]

def withoutMarks (text : Text) : Text :=
  text.filter fun c => c != zeroWidthSpace

theorem withoutCons (c : Char) (rest : Text) :
    withoutMarks (c :: rest) = withoutMarks [c] ++ withoutMarks rest :=
  List.filter_append (p := fun c => c != zeroWidthSpace) [c] rest

theorem withoutSeparate (first second : Char) (text : Text) :
    withoutMarks (separate first second text) = withoutMarks text := by
  induction text using separate.induct first second with
  | case1 => rfl
  | case2 c => rfl
  | case3 c d rest delimits ih =>
    have mark : withoutMarks [zeroWidthSpace] = [] := by decide
    rw [separate, if_pos delimits, withoutCons, withoutCons zeroWidthSpace, ih, mark, List.nil_append,
      ← withoutCons]
  | case4 c d rest other ih => rw [separate, if_neg other, withoutCons, ih, ← withoutCons]

theorem withoutEscape (text : Text) : withoutMarks (escapeDelimiters text) = withoutMarks text := by
  rw [escapeDelimiters, withoutSeparate, withoutSeparate]

theorem countWithout {c : Char} (other : (c != zeroWidthSpace) = true) (text : Text) :
    (withoutMarks text).count c = text.count c :=
  List.count_filter other

theorem countCollapse {c : Char} (visible : Text.blank c = false) (text : Text) :
    (Text.collapse text).count c = text.count c := by
  have apart : ∀ {d : Char}, Text.blank d = true → d ≠ c := fun blank => Text.blankOther blank visible
  induction text using Text.collapse.induct with
  | case1 => rfl
  | case2 d blank =>
    rw [Text.collapse, if_pos blank, List.count_cons_of_ne (apart (by decide)),
      List.count_cons_of_ne (apart blank)]
  | case3 d shown => rw [Text.collapse, if_neg shown]
  | case4 d e rest blank next ih =>
    rw [Text.collapse, if_pos blank, if_pos next, ih, List.count_cons_of_ne (apart blank)]
  | case5 d e rest blank next ih =>
    rw [Text.collapse, if_pos blank, if_neg next, List.count_cons_of_ne (apart (by decide)), ih,
      List.count_cons_of_ne (apart blank)]
  | case6 d e rest shown ih =>
    rw [Text.collapse, if_neg shown, ← List.singleton_append, List.count_append, ih,
      ← List.count_append, List.singleton_append]

theorem countTruncate {c : Char} (other : c ∉ ellipsis) (length : Nat) (text : Text) :
    (truncate length text).count c ≤ text.count c := by
  unfold truncate
  split
  · exact Nat.le_refl _
  · rw [List.count_append, List.count_eq_zero.mpr other]
    exact (List.take_sublist _ text).count_le c

/- No step after the decoding puts a semicolon in. -/
theorem semicolonsAfter (length : Nat) (text : Text) :
    (truncate length (Text.strip (Text.collapse (escapeDelimiters text)))).count ';' ≤
      text.count ';' :=
  calc (truncate length (Text.strip (Text.collapse (escapeDelimiters text)))).count ';'
    _ ≤ (Text.strip (Text.collapse (escapeDelimiters text))).count ';' :=
      countTruncate (by decide) length _
    _ ≤ (Text.collapse (escapeDelimiters text)).count ';' :=
      (Text.stripWithin _).sublist.count_le ';'
    _ = (escapeDelimiters text).count ';' := countCollapse (by decide) _
    _ = (withoutMarks (escapeDelimiters text)).count ';' := (countWithout (by decide) _).symm
    _ = text.count ';' := by rw [withoutEscape, countWithout (by decide)]

theorem singleLineStableIff (room : 4 ≤ limits.maxLength) (text : Text) :
    singleLine limits (singleLine limits text) = singleLine limits text ↔
      limits.preserveHtmlTags = true ∨ Plain (singleLine limits text) := by
  obtain ⟨settled, short⟩ := settledSingleLine room text
  refine ⟨fun same => ?_, singleLineKept settled short⟩
  cases keeps : limits.preserveHtmlTags with
  | true => exact .inl rfl
  | false =>
    have fewer := semicolonsAfter limits.maxLength (decodeEntities (singleLine limits text))
    rw [singleLineTrimmed settled.trimmed, neutralize, keeps, if_neg Bool.false_ne_true] at same
    rw [same] at fewer
    exact .inr (plainOfSemicolons fewer)

theorem singleLineStableCut :
    singleLine ⟨8, 1, false, true⟩ (singleLine ⟨8, 1, false, true⟩ "*/ &amp;lt; b") =
      singleLine ⟨8, 1, false, true⟩ "*/ &amp;lt; b" :=
  (singleLineStableIff (by decide) "*/ &amp;lt; b").mpr (.inr (by decide +kernel))

theorem singleLineDecodesAgain :
    singleLine ⟨200, 5, false, true⟩ "&amp;lt;" = "&lt;" ∧
      ¬ singleLine ⟨200, 5, false, true⟩ (singleLine ⟨200, 5, false, true⟩ "&amp;lt;") =
        singleLine ⟨200, 5, false, true⟩ "&amp;lt;" := by
  have once : singleLine ⟨200, 5, false, true⟩ "&amp;lt;" = "&lt;" := by decide +kernel
  have twice : singleLine ⟨200, 5, false, true⟩ "&lt;" = "<" := by decide +kernel
  refine ⟨once, ?_⟩
  rw [once, twice]
  decide

end Comment

end TypedClient
