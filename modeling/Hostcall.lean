import Hostcall.Access
import Hostcall.CommandLine.Help
import Hostcall.CommandLine.Request
import Hostcall.CommandLine.Run
import Hostcall.Console.Channels
import Hostcall.Console.Input
import Hostcall.Console.Outlet
import Hostcall.Fault
import Hostcall.Host.Disk
import Hostcall.Host.Error
import Hostcall.Host.OpenFile
import Hostcall.Host.Path
import Hostcall.IoState
import Hostcall.Log
import Hostcall.Log.Filter
import Hostcall.Machine.Basic
import Hostcall.Machine.Files
import Hostcall.Machine.Prompt
import Hostcall.Machine.Session
import Hostcall.Machine.Values
import Hostcall.Main
import Hostcall.Numeral.Binary
import Hostcall.Numeral.Decimal
import Hostcall.Pane.Coalescer
import Hostcall.Pane.FrontEnd
import Hostcall.Pattern.Basic
import Hostcall.Pattern.Brackets
import Hostcall.Pattern.CharClass
import Hostcall.Pattern.Escape
import Hostcall.Pattern.Nesting
import Hostcall.Pattern.Reader
import Hostcall.Pattern.Size
import Hostcall.Pattern.Source
import Hostcall.Script.Op
import Hostcall.Script.Replay
import Hostcall.Settings
import Hostcall.Settings.File
import Hostcall.Table
import Hostcall.Text.Blank
import Hostcall.Text.Letter
import Hostcall.Text.Line
import Hostcall.Text.Printable
import Hostcall.Text.Quoted
import Hostcall.Text.Reader
import Hostcall.Text.Split
import Hostcall.Text.Utf8
import Hostcall.Text.Utf8.Lemmas
import Hostcall.Toml.Document
import Hostcall.Toml.Scalar
import Hostcall.Toml.Value
import Hostcall.Trace
import Hostcall.World
import Hostcall.Yaml.Datum
import Hostcall.Yaml.Document
import Hostcall.Yaml.Node
import Hostcall.Yaml.Node.Grammar
import Hostcall.Yaml.Node.Meaning
import Hostcall.Yaml.Place
import Hostcall.Yaml.Scalar.Block
import Hostcall.Yaml.Scalar.Fold
import Hostcall.Yaml.Scalar.Plain
import Hostcall.Yaml.Scalar.Quoted
import Hostcall.Yaml.Tag
import Hostcall.Yaml.Token
import Hostcall.Yaml.Token.Lexer
import Hostcall.Proofs.Host.Handles
import Hostcall.Proofs.Table.Binding
import Hostcall.Proofs.Machine.Tables
import Hostcall.Proofs.Machine.Opening
import Hostcall.Proofs.World.Runs
import Hostcall.Proofs.World.Streams
import Hostcall.Proofs.Pane.Screen
import Hostcall.Proofs.Pane.Turns
import Hostcall.Proofs.Pane.Conservation
import Hostcall.Proofs.Pane.Ledger
import Hostcall.Proofs.Console.Reading
import Hostcall.Proofs.Machine.Intake
import Hostcall.Proofs.Machine.Tape
import Hostcall.Proofs.Table.Operations
import Hostcall.Proofs.World.Consumption
import Hostcall.Proofs.World.Field
import Hostcall.Proofs.Host.Growth
import Hostcall.Proofs.Host.Regions
import Hostcall.Proofs.Machine.Confinement
import Hostcall.Proofs.Machine.Twins
import Hostcall.Proofs.World.Isolation
import Hostcall.Proofs.World.Accounts
import Hostcall.Proofs.World.Descriptors
import Hostcall.Proofs.Machine.Sources
import Hostcall.Proofs.World.Sources
import Hostcall.Proofs.World.Cancellation
import Hostcall.Proofs.Host.Contents
import Hostcall.Proofs.World.Sessions
import Hostcall.Proofs.Console.Accounting
import Hostcall.Proofs.Machine.Outlets
import Hostcall.Proofs.World.Outputs
import Hostcall.Proofs.Pane.Chunks
import Hostcall.Proofs.Machine.Failures
import Hostcall.Proofs.World.LastError
import Hostcall.Proofs.Console.Nesting
import Hostcall.Proofs.Script.Replays
import Hostcall.Proofs.CommandLine.Inputs
import Hostcall.Proofs.Pane.Windows
import Hostcall.Proofs.Table.Capacity
import Hostcall.Proofs.World.Seeks
import Hostcall.Proofs.World.Resets
import Hostcall.Proofs.Numeral.Integers
import Hostcall.Proofs.Text.Ends
import Hostcall.Proofs.World.Lines
import Hostcall.Proofs.World.Strings
import Hostcall.Proofs.World.Integers
import Hostcall.Proofs.Machine.Buffers
import Hostcall.Proofs.Script.Outcomes
import Hostcall.Proofs.Text.Pieces
import Hostcall.Proofs.Log.Categories
import Hostcall.Proofs.Host.Paths
import Hostcall.Proofs.Machine.Transcript
import Hostcall.Proofs.World.Transcript
import Hostcall.Proofs.Log.Lines
import Hostcall.Proofs.Machine.Frame
import Hostcall.Proofs.Machine.Rewiring
