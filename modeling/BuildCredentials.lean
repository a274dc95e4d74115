import BuildCredentials.Audit.Entry
import BuildCredentials.Audit.Log
import BuildCredentials.Build.Command
import BuildCredentials.Build.Forwarding
import BuildCredentials.Build.Id
import BuildCredentials.Build.Output
import BuildCredentials.Build.Run
import BuildCredentials.Build.Scope
import BuildCredentials.Build.Scopes
import BuildCredentials.Bytes.Base64
import BuildCredentials.Bytes.Hex
import BuildCredentials.Bytes.Sha256
import BuildCredentials.Bytes.Utf8
import BuildCredentials.CommandLine.Command
import BuildCredentials.CommandLine.Grammar
import BuildCredentials.CommandLine.Scan
import BuildCredentials.Daemon
import BuildCredentials.Decimal.Range
import BuildCredentials.Decimal.Shortest
import BuildCredentials.Error
import BuildCredentials.FileTree
import BuildCredentials.Helper.Environment
import BuildCredentials.Helper.Lookup
import BuildCredentials.Helper.Memory
import BuildCredentials.Helper.Program
import BuildCredentials.Helper.Protocol
import BuildCredentials.Http.Body
import BuildCredentials.Http.Head
import BuildCredentials.Http.Message
import BuildCredentials.Http.Status
import BuildCredentials.Http.Target
import BuildCredentials.Http.Wire
import BuildCredentials.Json.Failure
import BuildCredentials.Json.Fields
import BuildCredentials.Json.Lexeme
import BuildCredentials.Json.Reader
import BuildCredentials.Json.Skip
import BuildCredentials.Json.Value
import BuildCredentials.Lookup.Client
import BuildCredentials.Lookup.Endpoint
import BuildCredentials.Lookup.Request
import BuildCredentials.Lookup.Serving
import BuildCredentials.Lookup.Session
import BuildCredentials.Lookup.Socket
import BuildCredentials.Main
import BuildCredentials.Peer.Connection
import BuildCredentials.Peer.Guard
import BuildCredentials.Program.Engine
import BuildCredentials.Program.Run
import BuildCredentials.Proofs.Audit.Lines
import BuildCredentials.Proofs.Build.Delivery
import BuildCredentials.Proofs.Build.Forwarding
import BuildCredentials.Proofs.Build.Lifetime
import BuildCredentials.Proofs.Build.Scopes
import BuildCredentials.Proofs.Bytes.Base64
import BuildCredentials.Proofs.Bytes.Utf8
import BuildCredentials.Proofs.CommandLine.Reading
import BuildCredentials.Proofs.CommandLine.Words
import BuildCredentials.Proofs.Daemon.Secrecy
import BuildCredentials.Proofs.FileTree.Appending
import BuildCredentials.Proofs.FileTree.Descending
import BuildCredentials.Proofs.FileTree.Making
import BuildCredentials.Proofs.FileTree.Rooted
import BuildCredentials.Proofs.Helper.Actions
import BuildCredentials.Proofs.Helper.Asking
import BuildCredentials.Proofs.Helper.Failing
import BuildCredentials.Proofs.Helper.Reaching
import BuildCredentials.Proofs.Http.Heads
import BuildCredentials.Proofs.Json.Depth
import BuildCredentials.Proofs.Json.Fields
import BuildCredentials.Proofs.Json.Grammar
import BuildCredentials.Proofs.Json.Objects
import BuildCredentials.Proofs.Json.Reading
import BuildCredentials.Proofs.Json.Sorting
import BuildCredentials.Proofs.Json.Spelling
import BuildCredentials.Proofs.Json.Strings
import BuildCredentials.Proofs.Json.Values
import BuildCredentials.Proofs.Lookup.Answers
import BuildCredentials.Proofs.Lookup.Binding
import BuildCredentials.Proofs.Lookup.Disclosure
import BuildCredentials.Proofs.Lookup.Rejection
import BuildCredentials.Proofs.Lookup.Replies
import BuildCredentials.Proofs.Lookup.Serving
import BuildCredentials.Proofs.Lookup.Trail
import BuildCredentials.Proofs.Lookup.Transparency
import BuildCredentials.Proofs.Lookup.Wire
import BuildCredentials.Proofs.Peer.Admission
import BuildCredentials.Proofs.Peer.Checks
import BuildCredentials.Proofs.Program.Run
import BuildCredentials.Proofs.Registry.Agreement
import BuildCredentials.Proofs.Registry.Header
import BuildCredentials.Proofs.Registry.Locality
import BuildCredentials.Proofs.Registry.Matching
import BuildCredentials.Proofs.Registry.Paths
import BuildCredentials.Proofs.Registry.Port
import BuildCredentials.Proofs.Registry.Resolution
import BuildCredentials.Proofs.Results
import BuildCredentials.Proofs.Settings.Accepting
import BuildCredentials.Proofs.Settings.Assigning
import BuildCredentials.Proofs.Settings.Fields
import BuildCredentials.Proofs.Settings.Saving
import BuildCredentials.Proofs.Settings.Text
import BuildCredentials.Proofs.Store.History
import BuildCredentials.Proofs.Store.Schedule
import BuildCredentials.Proofs.Text.Cutting
import BuildCredentials.Proofs.Toml.Document
import BuildCredentials.Proofs.Toml.Range
import BuildCredentials.Proofs.Toml.Scalar
import BuildCredentials.Proofs.Toml.Statement
import BuildCredentials.Proofs.Toml.Text
import BuildCredentials.Proofs.Url.Authority
import BuildCredentials.Proofs.Url.Path
import BuildCredentials.Proofs.Url.Pathless
import BuildCredentials.Proofs.Url.Spelling
import BuildCredentials.Registry.Address
import BuildCredentials.Registry.Config
import BuildCredentials.Registry.Matching
import BuildCredentials.Registry.Record
import BuildCredentials.Settings.Basic
import BuildCredentials.Settings.Command
import BuildCredentials.Settings.Document
import BuildCredentials.Settings.Places
import BuildCredentials.Shell.Arithmetic
import BuildCredentials.Shell.Builtin
import BuildCredentials.Shell.Expansion
import BuildCredentials.Shell.Format
import BuildCredentials.Shell.Machine
import BuildCredentials.Shell.Pattern
import BuildCredentials.Shell.Process
import BuildCredentials.Shell.Program
import BuildCredentials.Shell.Reader
import BuildCredentials.Shell.Run
import BuildCredentials.Shell.Syntax
import BuildCredentials.Shell.Test
import BuildCredentials.Shell.Tool
import BuildCredentials.Shell.Tool.Basic
import BuildCredentials.Shell.Tool.Files
import BuildCredentials.Shell.Tool.Text
import BuildCredentials.Store
import BuildCredentials.Store.Operation
import BuildCredentials.Text.Blank
import BuildCredentials.Text.Quoted
import BuildCredentials.Toml.Document
import BuildCredentials.Toml.Scalar
import BuildCredentials.Toml.Statement
import BuildCredentials.Toml.Text
import BuildCredentials.Toml.Value
import BuildCredentials.Unicode.Composition
import BuildCredentials.Unicode.Direction
import BuildCredentials.Unicode.Name
import BuildCredentials.Unicode.Normal
import BuildCredentials.Unicode.Printable
import BuildCredentials.Unicode.Ranges
import BuildCredentials.Unicode.Table
import BuildCredentials.Url.Address
import BuildCredentials.Url.Domain
import BuildCredentials.Url.Host
import BuildCredentials.Url.Ipv4
import BuildCredentials.Url.Ipv6
import BuildCredentials.Url.Path
import BuildCredentials.Url.Percent
import BuildCredentials.Url.Punycode
import BuildCredentials.Url.Scheme
