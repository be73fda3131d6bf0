import JavaStubs.Build.Basic
import JavaStubs.Build.Generate
import JavaStubs.Build.Host
import JavaStubs.Build.Project
import JavaStubs.Build.Sources
import JavaStubs.Charset.Basic
import JavaStubs.Charset.Decode
import JavaStubs.Charset.Encode
import JavaStubs.CommandLine.Arguments
import JavaStubs.CommandLine.Command
import JavaStubs.CommandLine.Help
import JavaStubs.CommandLine.Listing
import JavaStubs.CommandLine.Output
import JavaStubs.CommandLine.Program
import JavaStubs.Compiler.Basic
import JavaStubs.Compiler.Request
import JavaStubs.Compiler.Template
import JavaStubs.Config.Basic
import JavaStubs.Config.Load
import JavaStubs.Config.Shape
import JavaStubs.Disk.Errno
import JavaStubs.Disk.Files
import JavaStubs.Disk.Locate
import JavaStubs.Disk.RealPath
import JavaStubs.Disk.Size
import JavaStubs.Disk.Stubs
import JavaStubs.Disk.Tree
import JavaStubs.Disk.Walk
import JavaStubs.Failure
import JavaStubs.FilePath
import JavaStubs.Library.Naming
import JavaStubs.Library.Plan
import JavaStubs.Library.Publish
import JavaStubs.Main
import JavaStubs.Number.Elapsed
import JavaStubs.Number.Real64
import JavaStubs.Number.Shortest
import JavaStubs.Proofs.Build.Again
import JavaStubs.Proofs.Build.Books
import JavaStubs.Proofs.Build.DefaultSources
import JavaStubs.Proofs.Build.Distinct
import JavaStubs.Proofs.Build.DryRun
import JavaStubs.Proofs.Build.Encoded
import JavaStubs.Proofs.Build.Frame
import JavaStubs.Proofs.Build.HandedOver
import JavaStubs.Proofs.Build.Listed
import JavaStubs.Proofs.Build.Overlapping
import JavaStubs.Proofs.Build.Precautions
import JavaStubs.Proofs.Build.Present
import JavaStubs.Proofs.Build.Refusals
import JavaStubs.Proofs.Build.Requests
import JavaStubs.Proofs.Build.Rerun
import JavaStubs.Proofs.Build.ResetOrder
import JavaStubs.Proofs.Build.Resetting
import JavaStubs.Proofs.Build.Spared
import JavaStubs.Proofs.Build.Stages
import JavaStubs.Proofs.Build.Timestamps
import JavaStubs.Proofs.Build.Turns
import JavaStubs.Proofs.Build.Within
import JavaStubs.Proofs.Charset.Blocks
import JavaStubs.Proofs.Charset.RoundTrip
import JavaStubs.Proofs.CommandLine.ExitCodes
import JavaStubs.Proofs.CommandLine.JsonOption
import JavaStubs.Proofs.CommandLine.Precautions
import JavaStubs.Proofs.CommandLine.Prediction
import JavaStubs.Proofs.CommandLine.Reading
import JavaStubs.Proofs.CommandLine.Streams
import JavaStubs.Proofs.CommandLine.Succeeding
import JavaStubs.Proofs.Compiler.Calls
import JavaStubs.Proofs.Compiler.Changes
import JavaStubs.Proofs.Compiler.Counting
import JavaStubs.Proofs.Compiler.Endings
import JavaStubs.Proofs.Compiler.Once
import JavaStubs.Proofs.Compiler.Program
import JavaStubs.Proofs.Compiler.Substitution
import JavaStubs.Proofs.Compiler.Template
import JavaStubs.Proofs.Config.Declared
import JavaStubs.Proofs.Config.Fits
import JavaStubs.Proofs.Config.Language
import JavaStubs.Proofs.Config.Loading
import JavaStubs.Proofs.Config.Reading
import JavaStubs.Proofs.Disk.Alters
import JavaStubs.Proofs.Disk.Confined
import JavaStubs.Proofs.Disk.Contents
import JavaStubs.Proofs.Disk.Effects
import JavaStubs.Proofs.Disk.Lasting
import JavaStubs.Proofs.Disk.Leads
import JavaStubs.Proofs.Disk.Place
import JavaStubs.Proofs.Disk.RecursiveWalk
import JavaStubs.Proofs.Disk.Refused
import JavaStubs.Proofs.Disk.SameContents
import JavaStubs.Proofs.Disk.StubTimes
import JavaStubs.Proofs.Disk.StubWalk
import JavaStubs.Proofs.Disk.WellFormed
import JavaStubs.Proofs.Library.Aborted
import JavaStubs.Proofs.Library.Bodies
import JavaStubs.Proofs.Library.Classes
import JavaStubs.Proofs.Library.Collisions
import JavaStubs.Proofs.Library.Entries
import JavaStubs.Proofs.Library.Found
import JavaStubs.Proofs.Library.History
import JavaStubs.Proofs.Library.LastRun
import JavaStubs.Proofs.Library.Located
import JavaStubs.Proofs.Library.Names
import JavaStubs.Proofs.Library.Operations
import JavaStubs.Proofs.Library.Places
import JavaStubs.Proofs.Library.Precautions
import JavaStubs.Proofs.Library.Publishing
import JavaStubs.Proofs.Library.Refusals
import JavaStubs.Proofs.Library.Registry
import JavaStubs.Proofs.Library.Republished
import JavaStubs.Proofs.Library.Steady
import JavaStubs.Proofs.Library.UpToDate
import JavaStubs.Proofs.Number.Whole
import JavaStubs.Proofs.Run.Events
import JavaStubs.Proofs.Run.Failing
import JavaStubs.Proofs.Run.Misconfigured
import JavaStubs.Proofs.Run.Outcomes
import JavaStubs.Proofs.Run.Refusals
import JavaStubs.Proofs.Run.Steady
import JavaStubs.Proofs.Run.TextWrites
import JavaStubs.Proofs.Run.Within
import JavaStubs.Proofs.Run.Writing
import JavaStubs.Proofs.Source.AllOrNothing
import JavaStubs.Proofs.Source.LeafPaths
import JavaStubs.Proofs.Source.Leaves
import JavaStubs.Proofs.Source.Metadata
import JavaStubs.Proofs.Source.OneLine
import JavaStubs.Proofs.Source.Picks
import JavaStubs.Proofs.Source.Rescan
import JavaStubs.Proofs.Source.Segments
import JavaStubs.Proofs.Source.Selection
import JavaStubs.Proofs.Source.Settled
import JavaStubs.Proofs.Source.Spelling
import JavaStubs.Proofs.Source.Stems
import JavaStubs.Proofs.Source.WellDeclared
import JavaStubs.Proofs.Text.Lines
import JavaStubs.Proofs.Text.Occurrences
import JavaStubs.Proofs.Text.UpperCase
import JavaStubs.Run.Log
import JavaStubs.Run.Moment
import JavaStubs.Run.Process
import JavaStubs.Run.Settings
import JavaStubs.Run.World
import JavaStubs.Run.Writing
import JavaStubs.Scope
import JavaStubs.Source.Pattern
import JavaStubs.Source.Scan
import JavaStubs.Source.Set
import JavaStubs.Source.Suffix
import JavaStubs.Text.Blank
import JavaStubs.Text.Cut
import JavaStubs.Text.Digit
import JavaStubs.Text.Hex
import JavaStubs.Text.Lines
import JavaStubs.Text.Printable
import JavaStubs.Text.Quoted
import JavaStubs.Text.Replace
import JavaStubs.Text.UpperCase
import JavaStubs.Toml.Document
import JavaStubs.Toml.Problem
import JavaStubs.Toml.Scalar
import JavaStubs.Toml.Table
import JavaStubs.Toml.Text
import JavaStubs.Value.Basic
import JavaStubs.Value.Json
import JavaStubs.Value.Shown
