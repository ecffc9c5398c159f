import Rollout.Abi.DataType
import Rollout.Abi.Interface
import Rollout.Abi.Specifier
import Rollout.Abi.Value
import Rollout.Artifact
import Rollout.Build
import Rollout.Catalog
import Rollout.Command.Arguments
import Rollout.Command.Basic
import Rollout.Command.Notice
import Rollout.Config.Basic
import Rollout.Config.Dump
import Rollout.Config.Loading
import Rollout.Delivery
import Rollout.Distinct
import Rollout.Document
import Rollout.Environment.Basic
import Rollout.Environment.Dotenv
import Rollout.Files
import Rollout.Hex
import Rollout.Json
import Rollout.Keccak
import Rollout.Linker
import Rollout.Main
import Rollout.Moment
import Rollout.Network
import Rollout.Node.Client
import Rollout.Node.Domain
import Rollout.Node.Domain.Mapping
import Rollout.Node.Host
import Rollout.Node.Punycode
import Rollout.Node.Signer
import Rollout.Node.Url
import Rollout.Number.Decimal
import Rollout.Number.Shortest
import Rollout.Octets
import Rollout.Plan
import Rollout.Proofs.Abi.Arguments
import Rollout.Proofs.Abi.Document
import Rollout.Proofs.Abi.Encoding
import Rollout.Proofs.Argument
import Rollout.Proofs.Artifact.Document
import Rollout.Proofs.Build.Candidates
import Rollout.Proofs.Build.Layout
import Rollout.Proofs.Catalog
import Rollout.Proofs.Checked
import Rollout.Proofs.Command.Exit
import Rollout.Proofs.Command.Networks
import Rollout.Proofs.Command.Secrecy
import Rollout.Proofs.Config.Acceptance
import Rollout.Proofs.Config.Agreement
import Rollout.Proofs.Config.Comment
import Rollout.Proofs.Config.Document
import Rollout.Proofs.Config.Redaction
import Rollout.Proofs.Config.Variables
import Rollout.Proofs.Document.Layout
import Rollout.Proofs.Environment.Cutting
import Rollout.Proofs.Environment.Reference
import Rollout.Proofs.Environment.Replacement
import Rollout.Proofs.Hex
import Rollout.Proofs.Json.Arrangement
import Rollout.Proofs.Json.Fields
import Rollout.Proofs.Json.Naturals
import Rollout.Proofs.Json.Reading
import Rollout.Proofs.Linker
import Rollout.Proofs.Linker.Decoding
import Rollout.Proofs.Linker.Filling
import Rollout.Proofs.Linker.Leftover
import Rollout.Proofs.Linker.Scan
import Rollout.Proofs.Linker.Settled
import Rollout.Proofs.Linker.Slots
import Rollout.Proofs.Moment
import Rollout.Proofs.Network.Document
import Rollout.Proofs.Network.Matcher
import Rollout.Proofs.Number.Decimal
import Rollout.Proofs.Placeholder
import Rollout.Proofs.Placeholder.Sharing
import Rollout.Proofs.Plan.Blocked
import Rollout.Proofs.Plan.Building
import Rollout.Proofs.Plan.Checks
import Rollout.Proofs.Plan.Loop
import Rollout.Proofs.Plan.Order
import Rollout.Proofs.Plan.Queue
import Rollout.Proofs.Plan.Removal
import Rollout.Proofs.Plan.Reordering
import Rollout.Proofs.Record
import Rollout.Proofs.Report
import Rollout.Proofs.Run.Account
import Rollout.Proofs.Run.Calls
import Rollout.Proofs.Run.CreationCode
import Rollout.Proofs.Run.Dependencies
import Rollout.Proofs.Run.FirstSteps
import Rollout.Proofs.Run.Independence
import Rollout.Proofs.Run.Interruption
import Rollout.Proofs.Run.Payload
import Rollout.Proofs.Run.Planned
import Rollout.Proofs.Run.Reordering
import Rollout.Proofs.Run.Steps
import Rollout.Proofs.Run.Success
import Rollout.Proofs.Toml.Beside
import Rollout.Proofs.Toml.Comment
import Rollout.Proofs.Toml.Lines
import Rollout.Report
import Rollout.Run.Execution
import Rollout.Run.Payload
import Rollout.Text.Basic
import Rollout.Text.Composed
import Rollout.Text.Quoted
import Rollout.Text.Word
import Rollout.Toml.Number
import Rollout.Toml.Reader
import Rollout.Toml.Table
import Rollout.Toml.Text
