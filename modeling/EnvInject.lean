import EnvInject.FileTree.Snapshot
import EnvInject.Main
import EnvInject.Proofs.Placeholder.Grammar
import EnvInject.Proofs.Placeholder.Parts
import EnvInject.Proofs.Placeholder.Filling
import EnvInject.Proofs.Text.Utf8
import EnvInject.Proofs.Placeholder.Leftmost
import EnvInject.Proofs.Placeholder.Rescan
import EnvInject.Proofs.Placeholder.Splice
import EnvInject.Proofs.Placeholder.Text
import EnvInject.Proofs.FileTree.Contents
import EnvInject.Proofs.FileTree.Entry
import EnvInject.Proofs.FileTree.Relisted
import EnvInject.Proofs.Checklist
import EnvInject.Proofs.Selection
import EnvInject.Proofs.Scan
import EnvInject.Proofs.Scan.Exact
import EnvInject.Proofs.Replacement
import EnvInject.Proofs.Replacement.Pass
import EnvInject.Proofs.Replacement.Changed
import EnvInject.Proofs.Replacement.Guard
import EnvInject.Proofs.Replacement.Order
import EnvInject.Proofs.Run.Course
import EnvInject.Proofs.Run.FinalTree
import EnvInject.Proofs.Run.MissingVariables
import EnvInject.Proofs.Run.Again
import EnvInject.Proofs.Run.DryRun
import EnvInject.Proofs.Run.Report
import EnvInject.Proofs.Run.Values
import EnvInject.Proofs.Run.Text
import EnvInject.Proofs.Selection.Coverage
import EnvInject.Proofs.Selection.Order
import EnvInject.Proofs.Selection.Names
import EnvInject.Proofs.Questions
import EnvInject.Proofs.Run.Lookups
import EnvInject.Proofs.Run.Messages
import EnvInject.Proofs.FileTree.Extended
import EnvInject.Proofs.Selection.Aliases
import EnvInject.Proofs.Run.Aliases
import EnvInject.Proofs.Placeholder.Local
import EnvInject.Proofs.Checklist.Meetings
import EnvInject.Proofs.CommandLine.Reading
import EnvInject.Proofs.CommandLine.RoundTrip
import EnvInject.Proofs.CommandLine.Flags
import EnvInject.Proofs.Program.Output
