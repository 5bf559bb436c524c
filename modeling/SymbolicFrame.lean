import SymbolicFrame.Kind
import SymbolicFrame.Diagnostic
import SymbolicFrame.Policy
import SymbolicFrame.Word
import SymbolicFrame.Value
import SymbolicFrame.Scope
import SymbolicFrame.Reservations
import SymbolicFrame.FrameError
import SymbolicFrame.Buffer.Basic
import SymbolicFrame.Buffer.Regions
import SymbolicFrame.Monitors
import SymbolicFrame.Frame.Basic
import SymbolicFrame.Frame.Text
import SymbolicFrame.Event
import SymbolicFrame.Edit.Editor
import SymbolicFrame.Edit.Stack
import SymbolicFrame.Edit.Locals
import SymbolicFrame.Edit.Exchange
import SymbolicFrame.Edit.Perform
import SymbolicFrame.Session.Population
import SymbolicFrame.Session.Basic
import SymbolicFrame.Session.Step
import SymbolicFrame.Proofs.Contents
import SymbolicFrame.Proofs.Verdicts
import SymbolicFrame.Proofs.Steps
import SymbolicFrame.Proofs.Atomicity
import SymbolicFrame.Proofs.Fits
import SymbolicFrame.Proofs.Refinement
import SymbolicFrame.Proofs.Histories
import SymbolicFrame.Proofs.Blocks
import SymbolicFrame.Proofs.ValueStack
import SymbolicFrame.Proofs.WideValues
import SymbolicFrame.Proofs.Equality
import SymbolicFrame.Proofs.Related
import SymbolicFrame.Proofs.Observation
import SymbolicFrame.Proofs.Runs
import SymbolicFrame.Proofs.Nesting
import SymbolicFrame.Proofs.Invariants
import SymbolicFrame.Proofs.ObjectMonitors
import SymbolicFrame.Proofs.StrictFrames
import SymbolicFrame.Proofs.Trust
import SymbolicFrame.Proofs.Lineage
import SymbolicFrame.Proofs.Causes
import SymbolicFrame.Proofs.Relaxation
import SymbolicFrame.Proofs.WithinBounds
import SymbolicFrame.Proofs.LastWriter
import SymbolicFrame.Proofs.Compatibility
import SymbolicFrame.Proofs.Reports
import SymbolicFrame.Proofs.ReservedRecords
import SymbolicFrame.Proofs.Parameters
import SymbolicFrame.Proofs.Calls
import SymbolicFrame.Proofs.LogLines
import SymbolicFrame.Proofs.Windows
import SymbolicFrame.Proofs.Descriptions
import SymbolicFrame.Proofs.Footprints
import SymbolicFrame.Proofs.Splices
import SymbolicFrame.Proofs.PartialCopies
import SymbolicFrame.Proofs.RawShuffles
import SymbolicFrame.Proofs.MonitorNesting
import SymbolicFrame.Proofs.Views
import SymbolicFrame.Proofs.Texts
import SymbolicFrame.Proofs.LocalRanges
