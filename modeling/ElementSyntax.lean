import ElementSyntax.OrderedMap
import ElementSyntax.Name.Hyphenated
import ElementSyntax.Name.Singular
import ElementSyntax.Name.Simple
import ElementSyntax.Name.Item
import ElementSyntax.Metadata.Registry
import ElementSyntax.Metadata.TypeRelations
import ElementSyntax.Declaration.Basic
import ElementSyntax.Placement
import ElementSyntax.Problem
import ElementSyntax.Cache.Basic
import ElementSyntax.Resolution.Call
import ElementSyntax.Resolution.Batch
import ElementSyntax.Proofs.Outcome
import ElementSyntax.Proofs.Rollback
import ElementSyntax.Proofs.Checkpoints
import ElementSyntax.Proofs.Nesting
import ElementSyntax.Proofs.Entries
import ElementSyntax.Proofs.Contract
import ElementSyntax.Proofs.Invariant
import ElementSyntax.Proofs.Completeness
import ElementSyntax.Proofs.References
import ElementSyntax.Proofs.Congruence
import ElementSyntax.Proofs.Advance
import ElementSyntax.Proofs.History
import ElementSyntax.Proofs.Atomicity
import ElementSyntax.Proofs.Depth
import ElementSyntax.Proofs.Rank
import ElementSyntax.Proofs.Termination
import ElementSyntax.Proofs.Anchors
import ElementSyntax.Proofs.Plain
import ElementSyntax.Proofs.Tracking
import ElementSyntax.Proofs.Transparency
import ElementSyntax.Proofs.Agreement
import ElementSyntax.Proofs.Stability
import ElementSyntax.Proofs.Series
import ElementSyntax.Proofs.Strictness
import ElementSyntax.Proofs.Discipline
import ElementSyntax.Proofs.Recursion
import ElementSyntax.Proofs.Inclusion
import ElementSyntax.Proofs.Flattening
import ElementSyntax.Proofs.Expansion
import ElementSyntax.Proofs.SubTypes
import ElementSyntax.Proofs.Declared
import ElementSyntax.Proofs.Listing
import ElementSyntax.Proofs.Composition
import ElementSyntax.Proofs.Provenance
import ElementSyntax.Proofs.Layers
import ElementSyntax.Proofs.Alternatives
import ElementSyntax.Proofs.Namespaces
import ElementSyntax.Proofs.Rendering
import ElementSyntax.Proofs.Coverage
import ElementSyntax.Proofs.WellFormed
import ElementSyntax.Proofs.Members
import ElementSyntax.Proofs.Siblings
import ElementSyntax.Proofs.AttributeNames
import ElementSyntax.Proofs.Forms
import ElementSyntax.Proofs.Visits
import ElementSyntax.Proofs.Imports
import ElementSyntax.Proofs.Underway
import ElementSyntax.Proofs.Reports
import ElementSyntax.Proofs.SimpleTypes
import ElementSyntax.Proofs.Wrapping
import ElementSyntax.Proofs.Texts
import ElementSyntax.Proofs.Placements
import ElementSyntax.Proofs.Quiet
import ElementSyntax.Proofs.Sightings
import ElementSyntax.Proofs.Anticipation
import ElementSyntax.Proofs.Markers
import ElementSyntax.Proofs.LetterCase
import ElementSyntax.Proofs.Words
import ElementSyntax.Proofs.ItemNames
import ElementSyntax.Proofs.QualifiedNames
import ElementSyntax.Proofs.SingularNames
import ElementSyntax.Proofs.Origins
import ElementSyntax.Proofs.TypeHistories
import ElementSyntax.Proofs.Merging
import ElementSyntax.Proofs.Balance
