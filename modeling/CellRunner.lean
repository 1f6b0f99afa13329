import CellRunner.CommandLine.Machine
import CellRunner.Host.Rehearsal
import CellRunner.Main
import CellRunner.Proofs.Cell.ListedLines
import CellRunner.Proofs.Cell.MarkerLines
import CellRunner.Proofs.Cell.OfferList
import CellRunner.Proofs.Cell.RunAll
import CellRunner.Proofs.CommandLine.ListedRanges
import CellRunner.Proofs.CommandLine.SendArguments
import CellRunner.Proofs.CommandLine.SendGrammar
import CellRunner.Proofs.CommandLine.SentRange
import CellRunner.Proofs.CommandLine.Spellings
import CellRunner.Proofs.Document.AnnouncedLines
import CellRunner.Proofs.Document.ClampedBounds
import CellRunner.Proofs.Document.InvertedRange
import CellRunner.Proofs.Document.LineEndings
import CellRunner.Proofs.Document.OfferedTexts
import CellRunner.Proofs.Document.RangeFrame
import CellRunner.Proofs.Document.SelectedText
import CellRunner.Proofs.Document.SelectionLines
import CellRunner.Proofs.Host.RehearsedCalls
import CellRunner.Proofs.Json.Numerals
import CellRunner.Proofs.Json.PrintedTokens
import CellRunner.Proofs.Json.ReadBack
import CellRunner.Proofs.Picker.DrawnBox
import CellRunner.Proofs.Picker.DrawnRows
import CellRunner.Proofs.Picker.Highlight
import CellRunner.Proofs.Picker.NumberKeys
import CellRunner.Proofs.Picker.Settling
import CellRunner.Proofs.Picker.Window
import CellRunner.Proofs.Project.DiscoveredCommands
import CellRunner.Proofs.Project.FileOrder
import CellRunner.Proofs.Request.SendCalls
import CellRunner.Proofs.Session.Course
import CellRunner.Proofs.Session.LaunchedCommand
import CellRunner.Proofs.Session.PickedCommand
import CellRunner.Proofs.Session.Plan
import CellRunner.Proofs.Session.Starts
import CellRunner.Proofs.Session.Turns
import CellRunner.Proofs.Text.Widths
import CellRunner.Proofs.Text.WordRuns
import CellRunner.Proofs.Tmux.HostProcesses
import CellRunner.Proofs.Tmux.Interleaving
import CellRunner.Proofs.Tmux.ScriptedRuns
import CellRunner.Proofs.Tmux.SendProcesses
import CellRunner.Proofs.Tmux.SharedBuffer
import CellRunner.Proofs.Tmux.WindowListing
import CellRunner.Proofs.Document.LineTable
import CellRunner.Proofs.Frame.Messages
import CellRunner.Proofs.Text.Fitting
import CellRunner.Proofs.Terminal.Device
import CellRunner.Proofs.Terminal.Restoration
