import WallpaperRotation.Checksum.Blake3
import WallpaperRotation.Checksum.Crc32
import WallpaperRotation.Command.Interpreter
import WallpaperRotation.Command.Printing
import WallpaperRotation.Command.Run
import WallpaperRotation.Command.Script
import WallpaperRotation.Command.Signal
import WallpaperRotation.Command.Template
import WallpaperRotation.Command.Test
import WallpaperRotation.CommandLine.Arguments
import WallpaperRotation.CommandLine.Program
import WallpaperRotation.CommandLine.Report
import WallpaperRotation.CommandLine.Request
import WallpaperRotation.CommandLine.Verb
import WallpaperRotation.Config.Basic
import WallpaperRotation.Config.Document
import WallpaperRotation.Disk.Basic
import WallpaperRotation.Disk.Edit
import WallpaperRotation.Disk.Read
import WallpaperRotation.Disk.Tree
import WallpaperRotation.Disk.Walk
import WallpaperRotation.Disk.Write
import WallpaperRotation.Failure
import WallpaperRotation.FilePath
import WallpaperRotation.IdSet
import WallpaperRotation.Image.Bmp
import WallpaperRotation.Image.Dds
import WallpaperRotation.Image.Farbfeld
import WallpaperRotation.Image.Field
import WallpaperRotation.Image.Gif
import WallpaperRotation.Image.Header
import WallpaperRotation.Image.Ico
import WallpaperRotation.Image.Jpeg
import WallpaperRotation.Image.Netpbm
import WallpaperRotation.Image.Png
import WallpaperRotation.Image.Qoi
import WallpaperRotation.Image.Radiance
import WallpaperRotation.Image.Tga
import WallpaperRotation.Image.Tiff
import WallpaperRotation.Image.WebP
import WallpaperRotation.ImageFile
import WallpaperRotation.Json.Printer
import WallpaperRotation.Json.Reader
import WallpaperRotation.Json.Scan
import WallpaperRotation.Ledger
import WallpaperRotation.Library.Basic
import WallpaperRotation.Library.Document
import WallpaperRotation.Library.Insert
import WallpaperRotation.Library.Scan
import WallpaperRotation.Library.Search
import WallpaperRotation.Library.Tags
import WallpaperRotation.Main
import WallpaperRotation.Proofs.Disk.Spelling
import WallpaperRotation.Proofs.Disk.WriteRead
import WallpaperRotation.Proofs.Disk.Written
import WallpaperRotation.Proofs.FilePath.Parent
import WallpaperRotation.Proofs.FilePath.Same
import WallpaperRotation.Proofs.Json.Reader
import WallpaperRotation.Proofs.Json.Scan
import WallpaperRotation.Proofs.Library.Candidate
import WallpaperRotation.Proofs.Library.Canonical
import WallpaperRotation.Proofs.Library.Consistency
import WallpaperRotation.Proofs.Library.Document
import WallpaperRotation.Proofs.Library.Found
import WallpaperRotation.Proofs.Library.Latest
import WallpaperRotation.Proofs.Library.Pairing
import WallpaperRotation.Proofs.Library.Edits
import WallpaperRotation.Proofs.Library.Placement
import WallpaperRotation.Proofs.Library.Record
import WallpaperRotation.Proofs.Library.Reinsert
import WallpaperRotation.Proofs.Library.Removal
import WallpaperRotation.Proofs.Library.Run
import WallpaperRotation.Proofs.Library.Tagging
import WallpaperRotation.Proofs.Rotation.Cycle
import WallpaperRotation.Proofs.Text.Decimal
import WallpaperRotation.Rotation.Commands
import WallpaperRotation.Rotation.Document
import WallpaperRotation.Result
import WallpaperRotation.Rotation.Rotator
import WallpaperRotation.Rotation.Select
import WallpaperRotation.Rotation.State
import WallpaperRotation.Rotation.Target
import WallpaperRotation.Rotation.Words
import WallpaperRotation.Scope
import WallpaperRotation.Storage
import WallpaperRotation.Text.Blank
import WallpaperRotation.Text.CaseTable
import WallpaperRotation.Text.Decimal
import WallpaperRotation.Text.Lines
import WallpaperRotation.Text.Lossy
import WallpaperRotation.Text.Lowercase
import WallpaperRotation.Text.Replace
import WallpaperRotation.Timestamp
import WallpaperRotation.Toml.Item
import WallpaperRotation.Toml.Printer
import WallpaperRotation.Toml.Reader
import WallpaperRotation.Toml.Scalar
import WallpaperRotation.Toml.Text
import WallpaperRotation.UserFolders
import WallpaperRotation.Wallpaper
import WallpaperRotation.Watch.Change
import WallpaperRotation.Watch.Daemon
import WallpaperRotation.Watch.Interval
import WallpaperRotation.Watch.Timer
import WallpaperRotation.Watch.Watcher
import WallpaperRotation.Proofs.Library.Rescan
import WallpaperRotation.Proofs.Library.Settled
import WallpaperRotation.Proofs.Library.LastFolder
import WallpaperRotation.Proofs.Library.Standing
import WallpaperRotation.Proofs.Library.Refusal
import WallpaperRotation.Proofs.Library.Outdated
import WallpaperRotation.Proofs.Library.Contents
import WallpaperRotation.Proofs.Library.Versions
import WallpaperRotation.Proofs.Timestamp
import WallpaperRotation.Proofs.Epoch
import WallpaperRotation.Proofs.Json.Yields
import WallpaperRotation.Proofs.Disk.Above
import WallpaperRotation.Proofs.Disk.Alike
import WallpaperRotation.Proofs.Disk.Grow
import WallpaperRotation.Proofs.Storage
import WallpaperRotation.Proofs.Rotation.Document
import WallpaperRotation.Proofs.Rotation.Reachable
import WallpaperRotation.Proofs.Rotation.Persistence
import WallpaperRotation.Proofs.CommandLine.Process
import WallpaperRotation.Proofs.CommandLine.Rotate
import WallpaperRotation.Proofs.CommandLine.Tasks
import WallpaperRotation.Proofs.CommandLine.Derived
import WallpaperRotation.Proofs.CommandLine.Commands
import WallpaperRotation.Proofs.CommandLine.Spared
import WallpaperRotation.Proofs.CommandLine.Damaged
import WallpaperRotation.Proofs.CommandLine.Scope
import WallpaperRotation.Proofs.CommandLine.Workers
import WallpaperRotation.Proofs.CommandLine.Interleaving
import WallpaperRotation.Proofs.Rotation.Pick
import WallpaperRotation.Proofs.Rotation.Changes
import WallpaperRotation.Proofs.Rotation.Aftermath
import WallpaperRotation.Proofs.Rotation.InTurn
import WallpaperRotation.Proofs.Watch.Course
import WallpaperRotation.Proofs.Watch.Ticks
import WallpaperRotation.Proofs.Watch.Timetable
import WallpaperRotation.Proofs.Watch.Clock
import WallpaperRotation.Proofs.Documents
import WallpaperRotation.Proofs.Toml.Strings
import WallpaperRotation.Proofs.Toml.Values
import WallpaperRotation.Proofs.Toml.Document
import WallpaperRotation.Proofs.Config.Document
import WallpaperRotation.Proofs.Config.Load
import WallpaperRotation.Proofs.Rotation.InScope
import WallpaperRotation.Proofs.Rotation.Apart
import WallpaperRotation.Proofs.Rotation.Repeats
import WallpaperRotation.Proofs.Rotation.Succession
import WallpaperRotation.Proofs.FilePath.Child
import WallpaperRotation.Proofs.Disk.Respelling
import WallpaperRotation.Proofs.Disk.Reordered
import WallpaperRotation.Proofs.Library.Restriction
import WallpaperRotation.Proofs.Library.Insertion
import WallpaperRotation.Proofs.Library.Validation
import WallpaperRotation.Proofs.Library.FirstScan
import WallpaperRotation.Proofs.Library.Enumeration
import WallpaperRotation.Proofs.Library.InPlace
import WallpaperRotation.Proofs.Rotation.Handover
import WallpaperRotation.Proofs.Rotation.Deletion
import WallpaperRotation.Proofs.Rotation.SameScope
import WallpaperRotation.Proofs.Text.Blank
import WallpaperRotation.Proofs.Text.Replace
import WallpaperRotation.Proofs.Command.Template
import WallpaperRotation.Proofs.Rotation.Turns
import WallpaperRotation.Proofs.Library.Lookup
import WallpaperRotation.Proofs.Watch.Interval
import WallpaperRotation.Proofs.Rotation.Fairness
import WallpaperRotation.Proofs.Rotation.Showings
import WallpaperRotation.Proofs.Library.VersionSearch
import WallpaperRotation.Proofs.Library.Balance
