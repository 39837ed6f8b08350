import IdeProjects.Main
import IdeProjects.Storage.FileTree
import IdeProjects.Proofs.Sync.Unchecked
import IdeProjects.Proofs.Storage.Directories
import IdeProjects.Proofs.Sync.Target
import IdeProjects.Proofs.Sync.Writes
import IdeProjects.Proofs.Library.Scan
import IdeProjects.Proofs.Sync.Run
import IdeProjects.Proofs.Sync.PostState
import IdeProjects.Proofs.Sync.Isolation
import IdeProjects.Proofs.Sync.Modes
import IdeProjects.Proofs.Sync.Repeat
import IdeProjects.Proofs.Sync.Idempotence
import IdeProjects.Proofs.Library.ReferenceSet
import IdeProjects.Proofs.Unit.Merge
import IdeProjects.Proofs.Descriptor.Reader
import IdeProjects.Proofs.Guid.Fields
import IdeProjects.Proofs.Descriptor.Project
import IdeProjects.Proofs.Descriptor.Solution
import IdeProjects.Proofs.Schema.Rules
import IdeProjects.Proofs.Unit.Grammar
import IdeProjects.Proofs.Unit.LeftOut
import IdeProjects.Proofs.Unit.Snapshot
import IdeProjects.Proofs.Unit.Names
import IdeProjects.Proofs.Unit.RoundTrip
import IdeProjects.Proofs.Document
import IdeProjects.Proofs.CommandLine.Sync
import IdeProjects.Proofs.Storage.Reordered
import IdeProjects.Proofs.Library.Listing
import IdeProjects.Proofs.Library.Order
import IdeProjects.Proofs.Library.History
import IdeProjects.Proofs.Library.Coverage
import IdeProjects.Proofs.Sync.Accounting
import IdeProjects.Proofs.Descriptor.Links
import IdeProjects.Proofs.Sync.Links
import IdeProjects.Proofs.Sync.OneFile
import IdeProjects.Proofs.Sync.Drift
import IdeProjects.Proofs.CommandLine.Refusals
import IdeProjects.Proofs.Descriptor.HintPaths
import IdeProjects.Proofs.Library.DisplayName
import IdeProjects.Proofs.Schema.Order
import IdeProjects.Proofs.Config.Settings
import IdeProjects.Proofs.Descriptor.Characters
import IdeProjects.Proofs.Sync.Report
