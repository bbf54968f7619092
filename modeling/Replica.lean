import Replica.Bytes
import Replica.Checksum
import Replica.Config.Basic
import Replica.Config.Load
import Replica.Config.Schema
import Replica.Config.Text
import Replica.Decimal.Binary64
import Replica.Decimal.Digits
import Replica.Decimal.Shortest
import Replica.Dict
import Replica.Digest.Hasher
import Replica.Digest.Sha256
import Replica.Disk.Call
import Replica.Disk.Directory
import Replica.Disk.Error
import Replica.Disk.Path
import Replica.Disk.Placement
import Replica.Disk.Staging
import Replica.Disk.Tree
import Replica.Disk.View
import Replica.Duration
import Replica.Flags
import Replica.Json
import Replica.Log
import Replica.Node
import Replica.Proofs.Config.Integers
import Replica.Proofs.Config.Overrides
import Replica.Proofs.Config.Partial
import Replica.Proofs.Config.RoundTrip
import Replica.Proofs.Config.Sections
import Replica.Proofs.Digest.Stream
import Replica.Proofs.Digest.Verification
import Replica.Proofs.Disk.Additions
import Replica.Proofs.Disk.Beside
import Replica.Proofs.Disk.Change
import Replica.Proofs.Disk.Covered
import Replica.Proofs.Disk.Delivery
import Replica.Proofs.Disk.Destination
import Replica.Proofs.Disk.Directories
import Replica.Proofs.Disk.Entries
import Replica.Proofs.Disk.InOrder
import Replica.Proofs.Disk.Kept
import Replica.Proofs.Disk.Lifecycle
import Replica.Proofs.Disk.Links
import Replica.Proofs.Disk.Ordinary
import Replica.Proofs.Disk.Paths
import Replica.Proofs.Disk.Placed
import Replica.Proofs.Disk.Promotion
import Replica.Proofs.Disk.Replacement
import Replica.Proofs.Disk.Session
import Replica.Proofs.Disk.Staged
import Replica.Proofs.Disk.Walk
import Replica.Proofs.Disk.WellFormed
import Replica.Proofs.Fallible
import Replica.Proofs.Json.Extension
import Replica.Proofs.Json.Grammar
import Replica.Proofs.Json.Strings
import Replica.Proofs.Json.Values
import Replica.Proofs.Registry.Agreement
import Replica.Proofs.Registry.Answers
import Replica.Proofs.Registry.Calls
import Replica.Proofs.Registry.Outcome
import Replica.Proofs.Registry.Report
import Replica.Proofs.Registry.Throttling
import Replica.Proofs.Text.Blank
import Replica.Proofs.Toml.Documents
import Replica.Proofs.Toml.Inheritance
import Replica.Proofs.Toml.Lines
import Replica.Proofs.Toml.Scalars
import Replica.Proofs.Toml.StringBodies
import Replica.Proofs.Toml.Strings
import Replica.Proofs.Toml.Tables
import Replica.Proofs.Transfer.Addresses
import Replica.Proofs.Transfer.AllOrNothing
import Replica.Proofs.Transfer.Backoff
import Replica.Proofs.Transfer.BlankAddress
import Replica.Proofs.Transfer.Checks
import Replica.Proofs.Transfer.Cutting
import Replica.Proofs.Transfer.DirectoryDestination
import Replica.Proofs.Transfer.ErrorBody
import Replica.Proofs.Transfer.Fields
import Replica.Proofs.Transfer.Independence
import Replica.Proofs.Transfer.ObjectStaging
import Replica.Proofs.Transfer.Outcome
import Replica.Proofs.Transfer.Promotion
import Replica.Proofs.Transfer.Reception
import Replica.Proofs.Transfer.Sentinel
import Replica.Proofs.Transfer.StagingDirectory
import Replica.Proofs.Transfer.States
import Replica.Proofs.Transfer.WholeBody
import Replica.Registry.Client
import Replica.Registry.Delete
import Replica.Registry.Service
import Replica.Text
import Replica.Toml.Lexical
import Replica.Toml.Moment
import Replica.Toml.Number
import Replica.Toml.Printer
import Replica.Toml.Reader
import Replica.Toml.Text
import Replica.Toml.Tree
import Replica.Toml.Value
import Replica.Transfer.Attempt
import Replica.Transfer.Body
import Replica.Transfer.Destination
import Replica.Transfer.Error
import Replica.Transfer.Event
import Replica.Transfer.MissingFile
import Replica.Transfer.Response
import Replica.Transfer.Result
import Replica.Transfer.Storage
