import Galley.Blake3
import Galley.Bytes
import Galley.Cache.Backing
import Galley.Cache.Machine
import Galley.Clock
import Galley.CommandLine.Run
import Galley.CommandLine.Settings
import Galley.CommandLine.Switch
import Galley.CommandLine.Usage
import Galley.Config
import Galley.Config.Load
import Galley.Decimal.Places
import Galley.Decimal.Shortest
import Galley.Decimal.Spelled
import Galley.Disk
import Galley.File.Console
import Galley.File.Desk
import Galley.File.Name
import Galley.File.Regular
import Galley.FileTree
import Galley.Font
import Galley.Guest
import Galley.Guest.Assembly
import Galley.Guest.Program
import Galley.Gzip.Bits
import Galley.Gzip.Checksum
import Galley.Gzip.Huffman
import Galley.Gzip.Inflate
import Galley.Gzip.Member
import Galley.Json.Basic
import Galley.Json.Blob
import Galley.Json.Literal
import Galley.Json.Parser
import Galley.Json.Printer
import Galley.Json.Record
import Galley.Loader
import Galley.Main
import Galley.Manifest
import Galley.Markup
import Galley.Memory
import Galley.Memory.Control
import Galley.MessagePack
import Galley.Proofs.Cache.Balance
import Galley.Proofs.Cache.Batch
import Galley.Proofs.Cache.Coalescing
import Galley.Proofs.Cache.Coherence
import Galley.Proofs.Cache.Honesty
import Galley.Proofs.Cache.InTurn
import Galley.Proofs.Cache.Ledger
import Galley.Proofs.Cache.Lingering
import Galley.Proofs.Cache.Provenance
import Galley.Proofs.Cache.Restarting
import Galley.Proofs.Cache.Settling
import Galley.Proofs.Cache.Step
import Galley.Proofs.Cache.Storeless
import Galley.Proofs.File.Aborting
import Galley.Proofs.File.Acts
import Galley.Proofs.File.Comparing
import Galley.Proofs.File.Frame
import Galley.Proofs.File.Independence
import Galley.Proofs.File.Lines
import Galley.Proofs.File.Opening
import Galley.Proofs.File.Reading
import Galley.Proofs.File.Reopening
import Galley.Proofs.File.Replies
import Galley.Proofs.File.Voice
import Galley.Proofs.File.Writing
import Galley.Proofs.Guest.Programs
import Galley.Proofs.Guest.Resumable
import Galley.Proofs.Loader
import Galley.Proofs.Markup.Linking
import Galley.Proofs.Markup.Renaming
import Galley.Proofs.Markup.Sharing
import Galley.Proofs.Memory.Veil
import Galley.Proofs.Pack.Reading
import Galley.Proofs.Paired
import Galley.Proofs.Request.Key
import Galley.Proofs.Service
import Galley.Proofs.Session.Dialogue
import Galley.Proofs.Session.Fetching
import Galley.Proofs.Session.History
import Galley.Proofs.Session.Log
import Galley.Proofs.Session.Output
import Galley.Proofs.Session.Reciting
import Galley.Proofs.Session.Rewinding
import Galley.Proofs.Session.Serving
import Galley.Proofs.Session.Setup
import Galley.Proofs.Session.Suspending
import Galley.Proofs.Session.Transparency
import Galley.Proofs.Suspension
import Galley.Proofs.Typesetter.Dependence
import Galley.Proofs.Typesetter.Dialogue
import Galley.Proofs.Typesetter.Fetching
import Galley.Proofs.Typesetter.Idling
import Galley.Proofs.Typesetter.Page
import Galley.Proofs.Typesetter.Showing
import Galley.Proofs.Typesetter.Transcript
import Galley.Proofs.Typesetter.Transparency
import Galley.Renderer.Arithmetic
import Galley.Renderer.Builtin
import Galley.Renderer.Builtin.Names
import Galley.Renderer.Builtin.Options
import Galley.Renderer.Builtin.Signals
import Galley.Renderer.Builtin.Surroundings
import Galley.Renderer.Builtin.Text
import Galley.Renderer.Builtin.Variables
import Galley.Renderer.Choice
import Galley.Renderer.Command
import Galley.Renderer.Condition
import Galley.Renderer.Conversion
import Galley.Renderer.Copy
import Galley.Renderer.Count
import Galley.Renderer.Echo
import Galley.Renderer.Evaluation
import Galley.Renderer.Expansion
import Galley.Renderer.Formatted
import Galley.Renderer.Job
import Galley.Renderer.Launch
import Galley.Renderer.Locale
import Galley.Renderer.Pattern
import Galley.Renderer.Printf
import Galley.Renderer.Quoting
import Galley.Renderer.Redirection
import Galley.Renderer.Script
import Galley.Renderer.Script.Grammar
import Galley.Renderer.Script.Reader
import Galley.Renderer.Shell
import Galley.Renderer.Stream
import Galley.Renderer.Tool
import Galley.Renderer.Translate
import Galley.Request.Basic
import Galley.Request.Codec
import Galley.Request.Document
import Galley.Request.Fingerprint
import Galley.Request.Package
import Galley.Service
import Galley.Session
import Galley.Session.Run
import Galley.Session.Serve
import Galley.Session.Start
import Galley.Store
import Galley.Suspension
import Galley.Text.Alphanumeric
import Galley.Text.Blank
import Galley.Text.Columns
import Galley.Text.Hex
import Galley.Text.Latin1
import Galley.Text.Printable
import Galley.Text.Terminal
import Galley.Text.Utf8
import Galley.Typesetter
import Galley.Proofs.File.Streaming
import Galley.Proofs.File.LineReading
import Galley.Proofs.File.Ending
import Galley.Proofs.File.Confining
import Galley.Proofs.File.Failing
import Galley.Proofs.File.Skipping
import Galley.Proofs.Typesetter.Preloading
import Galley.Proofs.Text.Encoding
import Galley.Proofs.Text.Trimming
import Galley.Proofs.Request.Normalizing
import Galley.Proofs.File.Naming
import Galley.Proofs.Typesetter.Providing
import Galley.Proofs.Memory.Fitting
import Galley.Proofs.Request.Specs
import Galley.Proofs.File.Fonts
import Galley.Proofs.Disk.Lexical
import Galley.Proofs.Loader.Asking
import Galley.Proofs.Session.Sparing
import Galley.Proofs.Session.Asking
import Galley.Proofs.Typesetter.Asking
import Galley.Proofs.Typesetter.Enclosing
import Galley.Proofs.File.Splicing
import Galley.Proofs.Memory.Writers
import Galley.Proofs.Request.Transport
