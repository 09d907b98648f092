import TypedClient.Proofs.Script.Raw
import TypedClient.Proofs.Service.Delivery
import TypedClient.Proofs.Service.Identifiers

/-!
The string literals of a function. A quoted address is escaped and always reads as its text. The text
of a template and the key of a member are written as they are, so they read as they should exactly
where none of their signs means anything to the reader.
-/

namespace TypedClient

namespace Text

theorem replaceSingle (c : Char) (replacement text : Text) :
    replaceAll [c] replacement text = text.flatMap fun d => if d = c then replacement else [d] := by
  unfold replaceAll
  induction text with
  | nil => rfl
  | cons d rest ih =>
    rw [replaceFrom, List.flatMap_cons]
    by_cases same : d = c
    · simp [same, ih]
    · simp [same, Ne.symm same, ih]

end Text

namespace Url

open Script (Form Token units valueOf evaluate?)

def escapeChar (c : Char) : Text :=
  if c = '\\' then "\\\\" else if c = '\'' then "\\'" else [c]

theorem escapeEach (text : Text) : escapeQuoted text = text.flatMap escapeChar := by
  rw [escapeQuoted, Text.replaceSingle, Text.replaceSingle, List.flatMap_assoc]
  congr 1
  funext c
  unfold escapeChar
  by_cases escape : c = '\\'
  · simp [escape]
  · by_cases mark : c = '\'' <;> simp [escape, mark]

theorem readEscaped {c : Char} {rest : Text}
    (escaped : Script.escape? (c :: rest) = some (Script.codeUnits c.toNat, 1)) :
    Script.readFrom .quoted 0 ('\\' :: c :: rest) =
      (Script.readFrom .quoted 0 rest).map ((Token.raw c).parts ++ ·) := by
  rw [Script.readEscape, escaped]
  rfl

theorem readEscapeChar {c : Char} (feed : c ≠ '\n') (carriage : c ≠ '\r') (rest : Text) :
    Script.readFrom .quoted 0 (escapeChar c ++ rest) =
      (Script.readFrom .quoted 0 rest).map ((Token.raw c).parts ++ ·) := by
  unfold escapeChar
  split
  · rename_i same
    subst same
    exact readEscaped rfl
  · rename_i escape
    split
    · rename_i same
      subst same
      exact readEscaped rfl
    · rename_i mark
      exact Script.readPlain (by simp [Form.signs, feed, carriage, escape, mark]) nofun

theorem escapedReads {text : Text} (feed : '\n' ∉ text) (carriage : '\r' ∉ text) :
    Script.readFrom .quoted 0 (escapeQuoted text ++ ['\'']) =
      some ((text.map Token.raw).flatMap Token.parts) := by
  rw [escapeEach]
  induction text with
  | nil => rfl
  | cons c rest ih =>
    simp only [List.mem_cons, not_or] at feed carriage
    rw [List.flatMap_cons, List.append_assoc, readEscapeChar (Ne.symm feed.1) (Ne.symm carriage.1),
      ih feed.2 carriage.2]
    rfl

namespace Place

def units (values : Text → List UInt16) : Place → List UInt16
  | kept text => Script.units text
  | filled argument => values argument.name

def tokens : Place → List Token
  | kept text => text.map .raw
  | filled argument => [.value argument.name]

end Place

theorem tokensText (places : List Place) :
    (places.flatMap (·.tokens)).flatMap Token.text = places.flatMap (·.text) := by
  rw [List.flatMap_assoc]
  congr 1
  funext place
  cases place with
  | kept text => simp [Place.tokens, Place.text, Token.text, List.flatMap_map]
  | filled argument => simp [Place.tokens, Place.text, Token.text]

theorem valueRaw (values : Text → List UInt16) (text : Text) :
    valueOf values ((text.map Token.raw).flatMap Token.parts) = units text := by
  induction text with
  | nil => rfl
  | cons c rest ih =>
    rw [valueOf] at ih ⊢
    rw [List.map_cons, List.flatMap_cons, List.flatMap_append, ih, Script.unitsCons]
    simp [Token.parts, List.flatMap_map, Script.Part.codes]

theorem valuePlaces (values : Text → List UInt16) (places : List Place) :
    valueOf values ((places.flatMap (·.tokens)).flatMap Token.parts) =
      places.flatMap (·.units values) := by
  rw [valueOf, List.flatMap_assoc, List.flatMap_assoc]
  congr 1
  funext place
  cases place with
  | kept text =>
    rw [← List.flatMap_assoc]
    exact valueRaw values text
  | filled argument => simp [Place.tokens, Place.units, Token.parts, Script.Part.codes]

theorem valueTokens {places : List Place} {name : Text}
    (member : Token.value name ∈ places.flatMap (·.tokens)) :
    ∃ argument, .filled argument ∈ places ∧ argument.name = name := by
  obtain ⟨place, inside, token⟩ := List.mem_flatMap.mp member
  cases place with
  | kept text => simp [Place.tokens] at token
  | filled argument =>
    simp only [Place.tokens, List.mem_singleton, Token.value.injEq] at token
    exact ⟨argument, inside, token.symm⟩

theorem keptTokens {places : List Place} (kept : ∀ place ∈ places, place.isFilled = false) :
    places.flatMap (·.tokens) = (places.flatMap (·.text)).map Token.raw := by
  rw [List.map_flatMap]
  refine List.flatMap_congr fun place member => ?_
  cases place with
  | kept text => rfl
  | filled argument => cases kept _ member

theorem keptSigns {places : List Place} (kept : ∀ place ∈ places, place.isFilled = false) {c : Char}
    (member : c ∈ places.flatMap (·.text)) : ∃ text, .kept text ∈ places ∧ c ∈ text := by
  obtain ⟨place, inside, here⟩ := List.mem_flatMap.mp member
  cases place with
  | kept text => exact ⟨text, inside, here⟩
  | filled argument => cases kept _ inside

/- A template reads as its places, whatever the identifiers stand for, where no kept sign means anything
to the reader; a quoted address always does. -/
theorem literalDenotes {places : List Place}
    (named : ∀ argument, .filled argument ∈ places → Script.Named argument.name)
    (unbroken : ∀ text, .kept text ∈ places → ∀ c ∈ text, c ≠ '\n' ∧ c ≠ '\r') :
    (∀ values, evaluate? values (literal places) = some (places.flatMap (·.units values))) ↔
      (∀ place ∈ places, place.isFilled = false) ∨
        Script.Clear .template (places.flatMap (·.tokens)) := by
  simp only [← valuePlaces, Script.evaluateAlways]
  unfold literal
  split
  · rename_i filled
    have some : ¬ ∀ place ∈ places, place.isFilled = false := fun none => by
      obtain ⟨place, member, full⟩ := List.any_eq_true.mp filled
      rw [none place member] at full
      contradiction
    rw [or_iff_right some, ← Script.rawReads, Script.written, tokensText]
    · rfl
    · intro name member
      obtain ⟨argument, inside, rfl⟩ := valueTokens member
      exact ⟨rfl, named argument inside⟩
  · rename_i all
    have none : ∀ place ∈ places, place.isFilled = false := by simpa using all
    have fine : ∀ c ∈ places.flatMap (·.text), c ≠ '\n' ∧ c ≠ '\r' := by
      intro c member
      obtain ⟨text, inside, here⟩ := keptSigns none member
      exact unbroken text inside c here
    refine iff_of_true ?_ (.inl none)
    rw [keptTokens none]
    exact escapedReads (fun feed => (fine _ feed).1 rfl) fun carriage => (fine _ carriage).2 rfl

theorem Stands.unique {routed : List Argument} {piece : Piece} {place other : Place}
    (distinct : (routed.map (Text.lower ·.wireName)).Nodup) (stands : Stands routed piece place)
    (stands' : Stands routed piece other) : other = place := by
  cases stands with
  | kept foreign =>
    cases stands' with
    | kept => rfl
    | filled member named => exact absurd named (foreign _ member)
  | filled member named =>
    cases stands' with
    | kept foreign => exact absurd named (foreign _ member)
    | filled member' named' =>
      have same := Option.some.inj (named'.symm.trans named)
      rw [List.inj_on_of_nodup_map distinct member' member same]

theorem standsUnique {routed : List Argument} {pieces : List Piece} {places others : List Place}
    (distinct : (routed.map (Text.lower ·.wireName)).Nodup)
    (stands : List.Forall₂ (Stands routed) pieces places)
    (stands' : List.Forall₂ (Stands routed) pieces others) : others = places := by
  induction stands generalizing others with
  | nil => exact List.forall₂_nil_left_iff.mp stands'
  | cons first _ ih =>
    obtain ⟨other, rest, here, later, rfl⟩ := List.forall₂_cons_left_iff.mp stands'
    rw [first.unique distinct here, ih later]

theorem filledRouted {routed : List Argument} {pieces : List Piece} {places : List Place}
    (stands : List.Forall₂ (Stands routed) pieces places) {argument : Argument}
    (filled : .filled argument ∈ places) : argument ∈ routed := by
  obtain ⟨piece, _, here⟩ := Results.eachSource stands filled
  cases here with
  | filled member => exact member

theorem memFull {apiPrefix path : Text} {c : Char} (member : c ∈ full apiPrefix path) :
    c ∈ apiPrefix ++ path ∨ c = '/' := by
  obtain ⟨slashes, split, _⟩ := slashesEnd apiPrefix
  rw [List.mem_append]
  rcases List.mem_append.mp member with front | back
  · refine .inl (.inl ?_)
    rw [split]
    exact List.mem_append_left _ front
  · rcases List.mem_cons.mp back with slash | inside
    · exact .inr slash
    · exact .inl (.inr ((List.dropWhile_sublist _).subset inside))

theorem keptWithin {routed : List Argument} {pieces : List Piece} {places : List Place}
    (stands : List.Forall₂ (Stands routed) pieces places) {text : Text}
    (kept : .kept text ∈ places) : ∀ c ∈ text, c ∈ pieces.flatMap Piece.written := by
  obtain ⟨piece, member, here⟩ := Results.eachSource stands kept
  cases here with
  | kept => exact fun c inside => List.mem_flatMap_of_mem member inside

end Url

namespace ClientFunction

open Script (units evaluate?)

def quotedKey (wireName : Text) : Text :=
  '\'' :: wireName ++ ['\'']

theorem memberQuoted {argument : Argument} (other : argument.name ≠ argument.wireName) :
    objectMember argument = quotedKey argument.wireName ++ ": " ++ argument.name := by
  rw [objectMember, if_neg other]
  simp [quotedKey]

theorem keyDenotes (wireName : Text) :
    (∀ values, evaluate? values (quotedKey wireName) = some (units wireName)) ↔
      ∀ c ∈ ['\'', '\\', '\n', '\r'], c ∉ wireName := by
  have clear : Script.Clear .quoted (wireName.map .raw) ↔
      ∀ c ∈ ['\'', '\\', '\n', '\r'], c ∉ wireName := by
    constructor
    · exact fun clear c sign member => clear.signs c sign (List.mem_map_of_mem member)
    · intro free
      refine ⟨fun c sign member => ?_, nofun⟩
      obtain ⟨d, inside, same⟩ := List.mem_map.mp member
      cases same
      exact free c sign inside
  have whole : Script.written .quoted (wireName.map .raw) = wireName ++ ['\''] := by
    simp [Script.written, Script.Token.text, Script.Form.mark, List.flatMap_map]
  have read : Script.literal? (quotedKey wireName) = Script.readFrom .quoted 0 (wireName ++ ['\'']) := rfl
  rw [← clear, ← Script.rawReads (by simp), whole, ← read, ← Script.evaluateAlways]
  refine forall_congr' fun values => ?_
  rw [Url.valueRaw]

theorem namedIdentifier (name : Text) : Script.Named (toIdentifier name) := by
  obtain ⟨c, rest, whole, starts⟩ := identifierHead name
  refine ⟨?_, ?_, identifyingIdentifier name⟩
  · rw [whole]
    exact List.cons_ne_nil _ _
  · rw [whole]
    exact starts

structure Literals (apiPrefix : Text) (operation : Operation) (function : ClientFunction)
    (places : List Url.Place) : Prop where
  stands : ∀ others, List.Forall₂ (Url.Stands ((members operation function none).map Prod.snd))
    (Url.pieces (Url.full apiPrefix operation.path)) others ↔ others = places
  address : (∀ values, evaluate? values function.url = some (places.flatMap (·.units values))) ↔
    (∀ place ∈ places, place.isFilled = false) ∨
      Script.Clear .template (places.flatMap (·.tokens))
  payload : Carries function.payload fun entry =>
    (members operation function (some entry)).map Prod.snd
  keys : ∀ entry, ∀ pair ∈ members operation function (some entry), pair.2.name ≠ pair.1.name →
    objectMember pair.2 = quotedKey pair.1.name ++ ": " ++ pair.2.name ∧
    ((∀ values, evaluate? values (quotedKey pair.1.name) = some (units pair.1.name)) ↔
      ∀ c ∈ ['\'', '\\', '\n', '\r'], c ∉ pair.1.name)

theorem literalsDenote {configuration : Configuration} {types : TypeTable} {operation : Operation}
    {name : Text} {function : ClientFunction}
    (ok : ofOperation configuration types operation name = .ok function)
    (unbroken : ∀ c ∈ configuration.apiPrefix ++ operation.path, c ≠ '\n' ∧ c ≠ '\r')
    (distinct : ((members operation function none).map fun pair => Text.lower pair.1.name).Nodup) :
    ∃ places, Literals configuration.apiPrefix operation function places := by
  have built := (ofOperationOk ok).2
  obtain ⟨places, stands, url⟩ :=
    Url.buildStands configuration.apiPrefix operation.path function.arguments
  rw [routedArguments built] at stands
  have apart : (((members operation function none).map Prod.snd).map
      (Text.lower ·.wireName)).Nodup := by
    rwa [List.map_map, List.map_congr_left (g := fun pair => Text.lower pair.1.name)]
    exact fun pair member => congrArg Text.lower (memberStems built member).wireName
  refine ⟨places, fun others => ⟨Url.standsUnique apart stands, fun same => same ▸ stands⟩, ?_,
    built.carries, fun entry pair member other => ?_⟩
  · rw [built.url, url]
    refine Url.literalDenotes (fun argument filled => ?_) fun text kept c inside => ?_
    · obtain ⟨pair, member, rfl⟩ := List.mem_map.mp (Url.filledRouted stands filled)
      rw [(memberStems built member).name]
      exact namedIdentifier pair.1.name
    · have within := Url.keptWithin stands kept c inside
      rw [Url.writtenPieces] at within
      rcases Url.memFull within with given | rfl
      · exact unbroken c given
      · decide
  · have named := (memberStems built member).wireName
    rw [← named] at other ⊢
    exact ⟨memberQuoted other, keyDenotes _⟩

def dottedQuery : Operation :=
  getting "api/widgets/\x7bid\x7d" [("id", "Path"), ("first.name", "Query")]

theorem literalsDenoteWidget :
    ∃ function places, ofOperation .standard [] dottedQuery "get" = .ok function ∧
      (∀ c ∈ Configuration.standard.apiPrefix ++ dottedQuery.path, c ≠ '\n' ∧ c ≠ '\r') ∧
      ((members dottedQuery function none).map fun pair => Text.lower pair.1.name).Nodup ∧
      Literals [] dottedQuery function places := by
  have run : (ofOperation .standard [] dottedQuery "get").toOption.any (fun function =>
      ((members dottedQuery function none).map fun pair => Text.lower pair.1.name).Nodup) = true := by
    decide +kernel
  obtain ⟨function, ok, found⟩ := Results.okOfAny run
  have distinct := of_decide_eq_true found
  have whole : (Configuration.standard.apiPrefix ++ dottedQuery.path).all
      (fun c => c ≠ '\n' ∧ c ≠ '\r') = true := by
    decide +kernel
  have unbroken : ∀ c ∈ Configuration.standard.apiPrefix ++ dottedQuery.path, c ≠ '\n' ∧ c ≠ '\r' :=
    fun c member => of_decide_eq_true (List.all_eq_true.mp whole c member)
  obtain ⟨places, literals⟩ := literalsDenote ok unbroken distinct
  exact ⟨function, places, ok, unbroken, distinct, literals⟩

def quoteInKey : Operation :=
  getting "api/`a\\b/\x7bid\x7d" [("id", "Path"), ("it's", "Query")]

theorem literalsUnread :
    ∃ function, ofOperation .standard [] quoteInKey "get" = .ok function ∧
      function.url = "`/api/`a\\b/$\x7bid\x7d`" ∧ (∀ values, evaluate? values function.url = none) ∧
      function.payload = ["params: \x7b 'it's': it_s \x7d".toList] ∧
      ∀ values, evaluate? values (quotedKey "it's") = none := by
  have run : (ofOperation .standard [] quoteInKey "get").toOption.any (fun function =>
      function.url = ("`/api/`a\\b/$\x7bid\x7d`" : Text) ∧ Script.literal? function.url = none ∧
        function.payload = ["params: \x7b 'it's': it_s \x7d".toList]) = true := by
    decide +kernel
  have key : Script.literal? (quotedKey "it's") = none := by decide +kernel
  obtain ⟨function, ok, found⟩ := Results.okOfAny run
  obtain ⟨url, unread, payload⟩ := of_decide_eq_true found
  refine ⟨function, ok, url, fun values => ?_, payload, fun values => ?_⟩
  · rw [evaluate?, unread, Option.map_none]
  · rw [evaluate?, key, Option.map_none]

end ClientFunction

end TypedClient
