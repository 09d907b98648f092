import TypedClient.Main
import TypedClient.Document.NumberOrder
import TypedClient.Proofs.Collections
import TypedClient.Proofs.Emission.Order
import TypedClient.Proofs.Emission.BaseWalk
import TypedClient.Proofs.Mapping.Marked
import TypedClient.Proofs.Mapping.References
import TypedClient.Proofs.Declaration.Imports
import TypedClient.Proofs.Emission.Written
import TypedClient.Proofs.Emission.ImportTargets
import TypedClient.Proofs.Emission.Accounting
import TypedClient.Proofs.Emission.BaseOrder
import TypedClient.Proofs.Emission.Reordering
import TypedClient.Proofs.Service.Groups
import TypedClient.Proofs.Template.Standard
import TypedClient.Proofs.Service.Files
import TypedClient.Proofs.Service.Selection
import TypedClient.Proofs.Text.Trimmed
import TypedClient.Proofs.Signature.Pieces
import TypedClient.Proofs.Signature.Spelling
import TypedClient.Proofs.Signature.Rereading
import TypedClient.Proofs.Signature.Balance
import TypedClient.Proofs.Signature.Visible
import TypedClient.Proofs.Mapping.TypeGrammar
import TypedClient.Proofs.Mapping.TypeRules
import TypedClient.Proofs.Mapping.TypeMeaning
import TypedClient.Proofs.Mapping.Names
import TypedClient.Proofs.Mapping.Layers
import TypedClient.Proofs.Comment.Lines
import TypedClient.Proofs.Comment.Closed
import TypedClient.Proofs.Mapping.ReturnTypes
import TypedClient.Proofs.Service.Address
import TypedClient.Proofs.Service.Payload
import TypedClient.Proofs.Service.ReturnedNames
import TypedClient.Proofs.Script.Literal
import TypedClient.Proofs.Script.Raw
import TypedClient.Proofs.Service.Delivery
import TypedClient.Proofs.Service.Literals
import TypedClient.Proofs.Emission.NamespaceScope
import TypedClient.Proofs.Command.Writing
import TypedClient.Proofs.Loading.FaultSources
import TypedClient.Proofs.Loading.Escapes
import TypedClient.Proofs.Description.Spelled
import TypedClient.Proofs.Description.Reading
import TypedClient.Proofs.Mapping.Stability
import TypedClient.Proofs.Mapping.Substitution
import TypedClient.Proofs.Emission.FileSet
import TypedClient.Proofs.Emission.Arity
import TypedClient.Proofs.Mapping.DomainNames
import TypedClient.Proofs.Mapping.BrokenNames
import TypedClient.Proofs.Emission.Reasons
import TypedClient.Proofs.Mapping.Descriptions
import TypedClient.Proofs.Declaration.ImportLines
import TypedClient.Proofs.Emission.Policies
import TypedClient.Proofs.Comment.Entities
import TypedClient.Proofs.Comment.Settled
import TypedClient.Proofs.Comment.Kept
import TypedClient.Proofs.Comment.Paragraphs
import TypedClient.Proofs.Service.OwnFunctions
import TypedClient.Proofs.Service.ArgumentNames
import TypedClient.Proofs.Service.PayloadParts
import TypedClient.Proofs.Comment.OnePass
import TypedClient.Proofs.Service.ParameterOrder
import TypedClient.Proofs.Document.StringText
import TypedClient.Proofs.Declaration.Tokens
import TypedClient.Proofs.Signature.Arguments
import TypedClient.Proofs.Service.UsableNames
