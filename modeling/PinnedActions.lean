import PinnedActions.Main
import PinnedActions.Proofs.CommandLine.DiskEffect
import PinnedActions.Proofs.Disk.Search
import PinnedActions.Proofs.Http.Reference
import PinnedActions.Proofs.Pinning.Counts
import PinnedActions.Proofs.Pinning.Identity
import PinnedActions.Proofs.Pinning.LockStep
import PinnedActions.Proofs.Pinning.Uniform
import PinnedActions.Proofs.Pinning.UpgradeThenVerify
import PinnedActions.Proofs.Pinning.Upkeep
import PinnedActions.Proofs.Resolver.Chain
import PinnedActions.Proofs.Resolver.LeadingV
import PinnedActions.Proofs.Resolver.Listing
import PinnedActions.Proofs.Resolver.Spelling
import PinnedActions.Proofs.Version.Components
import PinnedActions.Proofs.Version.Tidy
import PinnedActions.Proofs.Workflow.Breaks
