import ResolverGen.Main
import ResolverGen.Proofs.Collection.Exactness
import ResolverGen.Proofs.Collection.Learning
import ResolverGen.Proofs.Code.Balance
import ResolverGen.Proofs.Resolver.Queries
import ResolverGen.Proofs.Resolver.Visibility
import ResolverGen.Proofs.Resolver.Origin
import ResolverGen.Proofs.Resolver.TypeNames
import ResolverGen.Proofs.Resolver.Variables
import ResolverGen.Proofs.Resolver.Ordering
import ResolverGen.Proofs.Resolver.ValueNames
import ResolverGen.Proofs.Round.Accounting
import ResolverGen.Proofs.Round.Reuse
import ResolverGen.Proofs.Storage.Loading
import ResolverGen.Proofs.Schema.Upgrade
import ResolverGen.Proofs.Schema.Execution
import ResolverGen.Proofs.Schema.Constants
import ResolverGen.Proofs.Schema.Guards
import ResolverGen.Proofs.Schema.Definition
import ResolverGen.Proofs.Round.Together
import ResolverGen.Proofs.Round.Foreign
import ResolverGen.Proofs.Round.Skipped
import ResolverGen.Proofs.Round.Renumbered
import ResolverGen.Proofs.Round.Lookups
import ResolverGen.Proofs.Round.Folders
import ResolverGen.Proofs.Round.Locations
import ResolverGen.Proofs.Argument.Tokens
import ResolverGen.Proofs.Argument.Items
import ResolverGen.Proofs.Element.Documents
import ResolverGen.Proofs.Payload.Layout
import ResolverGen.Proofs.Payload.RoundTrip
