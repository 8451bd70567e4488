import MuxLaunch.Deferred.Script
import MuxLaunch.Main
import MuxLaunch.Proofs.Flags.Refusal
import MuxLaunch.Proofs.Options.Puts
import MuxLaunch.Proofs.Options.Reading
import MuxLaunch.Proofs.Config.Loading
import MuxLaunch.Proofs.Config.LineByLine
import MuxLaunch.Proofs.Command.Locality
import MuxLaunch.Proofs.Command.Conformance
import MuxLaunch.Proofs.Launch.Delivery
import MuxLaunch.Proofs.Deferred.Queue
import MuxLaunch.Proofs.Launch.HandOff
import MuxLaunch.Proofs.Launch.Preparation
import MuxLaunch.Proofs.Launch.Course
import MuxLaunch.Proofs.Launch.Escape
import MuxLaunch.Proofs.Launch.Report
import MuxLaunch.Proofs.Launch.EarlyEnd
import MuxLaunch.Proofs.Launch.Foreground
import MuxLaunch.Proofs.Launch.Socket
import MuxLaunch.Proofs.Launch.Capabilities
import MuxLaunch.Proofs.Deferred.Accounting
import MuxLaunch.Proofs.Deferred.Reentrancy
import MuxLaunch.Proofs.Deferred.Session
import MuxLaunch.Proofs.Files.Lookup
import MuxLaunch.Proofs.Files.Canonical
import MuxLaunch.Proofs.Socket.RuntimeDirectory
import MuxLaunch.Proofs.Settings.Obstruction
import MuxLaunch.Proofs.Text.Feed
import MuxLaunch.Proofs.Config.Concatenation
import MuxLaunch.Proofs.Socket.Repetition
import MuxLaunch.Proofs.Files.Entry
import MuxLaunch.Proofs.Socket.Label
import MuxLaunch.Proofs.Launch.Undecodable
import MuxLaunch.Proofs.Config.Numbers
import MuxLaunch.Proofs.Text.Content
import MuxLaunch.Proofs.Config.Continuation
import MuxLaunch.Proofs.Command.FlagWords
import MuxLaunch.Proofs.Command.Reference
import MuxLaunch.Proofs.Config.Comments
import MuxLaunch.Proofs.Command.Modes
import MuxLaunch.Proofs.Launch.Trees
import MuxLaunch.Proofs.Launch.Shell
import MuxLaunch.Proofs.Launch.Snapshot
import MuxLaunch.Proofs.Environ.Edits
import MuxLaunch.Proofs.Flags.Gluing
import MuxLaunch.Proofs.Socket.Draw
import MuxLaunch.Proofs.Settings.Sections
