import ShellPages.Main
import ShellPages.Proofs.Agreement
import ShellPages.Proofs.Command.Anywhere
import ShellPages.Proofs.Command.Found
import ShellPages.Proofs.Command.Init
import ShellPages.Proofs.Command.Override
import ShellPages.Proofs.Command.Start
import ShellPages.Proofs.Config.Comments
import ShellPages.Proofs.Config.FirstFault
import ShellPages.Proofs.Config.Sources
import ShellPages.Proofs.Inspection.Wildcard
import ShellPages.Proofs.Kind
import ShellPages.Proofs.Page.Canonical
import ShellPages.Proofs.Page.Escaping
import ShellPages.Proofs.Page.Traversal
import ShellPages.Proofs.Parallel
import ShellPages.Proofs.Rearrangement
import ShellPages.Proofs.Repeats
import ShellPages.Proofs.Report.Decoration
import ShellPages.Proofs.Source.Flattening
import ShellPages.Proofs.Source.Standard
import ShellPages.Proofs.Written
