import GrammarBench.Backend
import GrammarBench.Bench
import GrammarBench.Child.Basic
import GrammarBench.Child.Interpreter
import GrammarBench.Child.Tool
import GrammarBench.CommandLine.Abort
import GrammarBench.CommandLine.Arguments
import GrammarBench.CommandLine.Run
import GrammarBench.Compile
import GrammarBench.Config.Basic
import GrammarBench.Config.Environment
import GrammarBench.Config.File
import GrammarBench.Decimal.Binary64
import GrammarBench.Diagnostic.Basic
import GrammarBench.Diagnostic.Line
import GrammarBench.Driver.Page
import GrammarBench.Driver.Render
import GrammarBench.Driver.Script
import GrammarBench.Driver.Skeleton
import GrammarBench.Driver.Spec
import GrammarBench.Execution
import GrammarBench.Failure
import GrammarBench.FileTree.Basic
import GrammarBench.FileTree.Walk
import GrammarBench.Harness
import GrammarBench.Host
import GrammarBench.IoFault
import GrammarBench.Json.Basic
import GrammarBench.Json.Document
import GrammarBench.Json.Members
import GrammarBench.Json.Printer
import GrammarBench.Json.Reader
import GrammarBench.Main
import GrammarBench.Path
import GrammarBench.Remote.Browser
import GrammarBench.Remote.Session
import GrammarBench.Report
import GrammarBench.Screen
import GrammarBench.Shell.Run
import GrammarBench.Shell.Script
import GrammarBench.Staging
import GrammarBench.Text.Blank
import GrammarBench.Text.CharRange
import GrammarBench.Text.CodeTable
import GrammarBench.Text.Composition
import GrammarBench.Text.DecimalDigit
import GrammarBench.Text.Digits
import GrammarBench.Text.Lowercase
import GrammarBench.Text.Mark
import GrammarBench.Text.Pieces
import GrammarBench.Text.Printable
import GrammarBench.Text.Punycode
import GrammarBench.Text.Quoted
import GrammarBench.Text.Utf8
import GrammarBench.Toml.Basic
import GrammarBench.Toml.Reader
import GrammarBench.Toml.Scalar
import GrammarBench.Web.Domain
import GrammarBench.Web.Domain.Direction
import GrammarBench.Web.Domain.Joiner
import GrammarBench.Web.Domain.Mapping
import GrammarBench.Web.HostName
import GrammarBench.Web.HostName.Ipv4
import GrammarBench.Web.HostName.Ipv6
import GrammarBench.Web.Percent
import GrammarBench.Web.Server
import GrammarBench.Web.Site
import GrammarBench.Web.Status
import GrammarBench.Web.Traffic
import GrammarBench.Web.Url
import GrammarBench.Web.Url.Authority
import GrammarBench.Web.Url.Path
import GrammarBench.Web.Url.Scheme
import GrammarBench.Proofs.Action
import GrammarBench.Proofs.FileTree.Entry
import GrammarBench.Proofs.Path
import GrammarBench.Proofs.Staging
import GrammarBench.Proofs.Compile
import GrammarBench.Proofs.Harness.CaseRun
import GrammarBench.Proofs.Harness.Contract
import GrammarBench.Proofs.Child.Output
import GrammarBench.Proofs.Child.Hearing
import GrammarBench.Proofs.Child.Tool
import GrammarBench.Proofs.Child.Interpreter
import GrammarBench.Proofs.Child.Contract
import GrammarBench.Proofs.CommandLine.ExitCode
import GrammarBench.Proofs.Diagnostic.Grammar
import GrammarBench.Proofs.Diagnostic.Parts
import GrammarBench.Proofs.Diagnostic.Body
import GrammarBench.Proofs.Diagnostic.Reading
import GrammarBench.Proofs.Diagnostic.RoundTrip
import GrammarBench.Proofs.Diagnostic.Survival
import GrammarBench.Proofs.Remote.Command
import GrammarBench.Proofs.Remote.Page
import GrammarBench.Proofs.Remote.Visit
import GrammarBench.Proofs.Remote.Browser
import GrammarBench.Proofs.Remote.Contract
import GrammarBench.Proofs.Driver.Words
import GrammarBench.Proofs.Driver.Shape
import GrammarBench.Proofs.Driver.Modules
import GrammarBench.Proofs.Driver.Loading
import GrammarBench.Proofs.FileTree.Directory
import GrammarBench.Proofs.Staging.Confined
import GrammarBench.Proofs.Staging.Root
import GrammarBench.Proofs.Staging.Lifetime
import GrammarBench.Proofs.Harness.Session
import GrammarBench.Proofs.Harness.Areas
import GrammarBench.Proofs.Json.RoundTrip
import GrammarBench.Proofs.FileTree.Site
import GrammarBench.Proofs.Harness.Steps
import GrammarBench.Proofs.Harness.OwnFiles
import GrammarBench.Proofs.FileTree.Alike
import GrammarBench.Proofs.Staging.Grown
import GrammarBench.Proofs.Staging.Apart
import GrammarBench.Proofs.Harness.Apart
import GrammarBench.Proofs.Harness.Interleaving
import GrammarBench.Proofs.Harness.History
import GrammarBench.Proofs.Driver.Names
import GrammarBench.Proofs.Driver.Distinct
import GrammarBench.Proofs.Driver.OptionalLine
import GrammarBench.Proofs.Driver.Hygiene
import GrammarBench.Proofs.FileTree.Way
import GrammarBench.Proofs.Compile.Call
import GrammarBench.Proofs.Compile.Messages
import GrammarBench.Proofs.Remote.Steps
import GrammarBench.Proofs.Remote.Turns
import GrammarBench.Proofs.Text.Repair
import GrammarBench.Proofs.Child.Capture
import GrammarBench.Proofs.FileTree.Ordinary
import GrammarBench.Proofs.FileTree.Deep
import GrammarBench.Proofs.Staging.Contents
import GrammarBench.Proofs.Staging.Operations
import GrammarBench.Proofs.Text.Words
import GrammarBench.Proofs.Config.Environment
import GrammarBench.Proofs.Json.Locality
import GrammarBench.Proofs.Json.Written
import GrammarBench.Proofs.Json.Records
import GrammarBench.Proofs.Report
import GrammarBench.Proofs.CommandLine.Output
import GrammarBench.Proofs.Child.Start
import GrammarBench.Proofs.CommandLine.Shown
import GrammarBench.Proofs.FileTree.Below
import GrammarBench.Proofs.Web.Site
