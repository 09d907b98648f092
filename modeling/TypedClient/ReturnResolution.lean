import TypedClient.Description
import TypedClient.Mapping

/-!
The TypeScript type that an operation returns: asynchronous layers go first, then the type table is
asked for the signature, and a wrapper that is to be unwrapped gives way to its one argument.
-/

namespace TypedClient.Mapping

def stripAsync : Signature → Signature
  | .node name [argument] =>
    if simpleName name ∈ asyncNames then stripAsync argument else .node name [argument]
  | signature => signature

def resolveDescribed (mapping : Mapping) (unwrapped : List Text) (described : DataType) : Text :=
  match described.genericArguments with
  | [argument] =>
    if described.name ∈ unwrapped then mapping.mapText [] argument
    else applied (mapping.qualifier ++ described.name) [mapping.mapText [] argument]
  | arguments => applied (mapping.qualifier ++ described.name) (arguments.map (mapping.mapText []))

def resolveSignature (mapping : Mapping) (unwrapped : List Text) (signature : Signature) : Text :=
  match signature with
  | .node name [argument] =>
    if simpleName name ∈ unwrapped then mapping.map [] argument else mapping.map [] signature
  | _ => mapping.map [] signature

/-- The table is asked first for the text as it is written, then for its canonical form. -/
def resolve (mapping : Mapping) (unwrapped : List Text) (types : TypeTable) (text : Text) : Text :=
  if Text.isBlank text then anyType
  else
    let signature := stripAsync (Signature.parse text)
    match (Assoc.find? text types).or (Assoc.find? signature.text types) with
    | some described => mapping.resolveDescribed unwrapped described
    | none => mapping.resolveSignature unwrapped signature

end TypedClient.Mapping
