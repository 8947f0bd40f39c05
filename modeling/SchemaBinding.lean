import SchemaBinding.Command.Folder
import SchemaBinding.Derivation.BaseTable
import SchemaBinding.Element
import SchemaBinding.Main
import SchemaBinding.Outline.Ancestry
import SchemaBinding.Outline.Signature.Sink
import SchemaBinding.Proofs.Derivations
import SchemaBinding.Proofs.Enumeration
import SchemaBinding.Proofs.SchemaSignatures
import SchemaBinding.Proofs.SingleInheritance
import SchemaBinding.Proofs.Substitutions
import SchemaBinding.Schema.Binding
import SchemaBinding.Proofs.Arena
import SchemaBinding.Proofs.Arena.Finish
import SchemaBinding.Proofs.Handles
import SchemaBinding.Proofs.Refusals
import SchemaBinding.Proofs.Identity
import SchemaBinding.Proofs.FieldTypes
import SchemaBinding.Proofs.DeclarationOrder
import SchemaBinding.Proofs.SchemaDerivations
import SchemaBinding.Proofs.PackageRenaming
import SchemaBinding.Proofs.ReadDocuments
import SchemaBinding.Proofs.SurfaceSyntax
import SchemaBinding.Proofs.WalkedDocuments
import SchemaBinding.Proofs.NamedClasses
import SchemaBinding.Proofs.Checking
import SchemaBinding.Proofs.Identifiers
import SchemaBinding.Proofs.UnreachedDeclarations
import SchemaBinding.Proofs.Namespaces
import SchemaBinding.Proofs.OverwritePolicies
import SchemaBinding.Proofs.UnreadBounds
import SchemaBinding.Proofs.OccurrenceBounds
import SchemaBinding.Proofs.SimpleTypeRoots
import SchemaBinding.Proofs.DifferenceReports
import SchemaBinding.Proofs.Preorder
import SchemaBinding.Proofs.CycleSearch
import SchemaBinding.Proofs.Streaming
import SchemaBinding.Proofs.NestingCulprits
import SchemaBinding.Proofs.PackageSegments
