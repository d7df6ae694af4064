import CallSite.Cache.History
import CallSite.Filter.Exit
import CallSite.Main
import CallSite.Proofs.Dependencies
import CallSite.Proofs.Dialogue
import CallSite.Proofs.FirstKeys
import CallSite.Proofs.Nesting
import CallSite.Proofs.RequireOnce
import CallSite.Proofs.Sharing
import CallSite.Proofs.Stability
import CallSite.Proofs.Stranding
import CallSite.Proofs.Transparency
import CallSite.Scenario.Run
import CallSite.Proofs.Reconciliation
import CallSite.Proofs.LineFilter
import CallSite.Proofs.Termination
import CallSite.Proofs.Ledger
import CallSite.Proofs.Provenance
import CallSite.Proofs.Recording
import CallSite.Proofs.HighBytes
import CallSite.Proofs.Backslashes
import CallSite.Proofs.Promotion
import CallSite.Proofs.Malformed
import CallSite.Proofs.FailedBuild
import CallSite.Proofs.CommandLine
import CallSite.Proofs.Splitting
import CallSite.Proofs.Lineage
import CallSite.Proofs.Dispatching
import CallSite.Proofs.Environment
import CallSite.Proofs.Representation
