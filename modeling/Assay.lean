import Assay.Condition
import Assay.Hook.Stock
import Assay.LogSettings.Document
import Assay.Members
import Assay.Rule.Typed
import Assay.Settings.Document
import Assay.Summary
import Assay.Value.Identity
import Assay.Proofs.Container.Pointwise
import Assay.Proofs.Container.Recorded
import Assay.Proofs.Container.Required
import Assay.Proofs.Container.Tree
import Assay.Proofs.Checker.Reported
import Assay.Proofs.Container.Ignored
import Assay.Proofs.Fault.Leaves
import Assay.Proofs.Value.Place
import Assay.Proofs.Container.Mirror
import Assay.Proofs.Checker.Meter
import Assay.Proofs.Checker.Termination
import Assay.Proofs.Checker.Agreement
import Assay.Proofs.Rule.Reliance
import Assay.Proofs.Checker.Noninterference
import Assay.Proofs.Checker.Transparency
import Assay.Proofs.Checker.Composition
import Assay.Proofs.Container.Demand
import Assay.Proofs.Checker.Headroom
import Assay.Proofs.Check.Family
import Assay.Proofs.Checker.Declared
import Assay.Proofs.FirstPlaces
import Assay.Proofs.Rule.Construction
import Assay.Proofs.Hook.Grouping
import Assay.Proofs.Hook.Lifecycle
import Assay.Proofs.Joining
import Assay.Proofs.Check.Normal
import Assay.Proofs.Fault.Merging
import Assay.Proofs.Rule.Merging
import Assay.Proofs.Check.Seams
import Assay.Proofs.Container.Layers
import Assay.Proofs.Value.Symmetry
import Assay.Proofs.Value.Reordering
import Assay.Proofs.Value.Numeric
import Assay.Proofs.Check.Integers
import Assay.Proofs.Check.Literals
import Assay.Proofs.Number.Leading
import Assay.Proofs.Value.Keys
import Assay.Proofs.Check.Lengths
import Assay.Proofs.Check.Neighbours
import Assay.Proofs.Check.Settling
import Assay.Proofs.Check.Rewriting
import Assay.Proofs.Rule.Tags
import Assay.Proofs.Check.Validation
import Assay.Proofs.Checker.Alternatives
import Assay.Proofs.Checker.Validation
import Assay.Proofs.Fault.Placeholders
import Assay.Proofs.Fault.Nodes
import Assay.Proofs.Ascending
import Assay.Proofs.Entity.Rejection
import Assay.Proofs.Fault.Traces
import Assay.Proofs.Value.Documents
import Assay.Proofs.Json.Reading
import Assay.Proofs.Entity.Descriptors
import Assay.Proofs.Check.Mail
import Assay.Proofs.Fault.Rendering
