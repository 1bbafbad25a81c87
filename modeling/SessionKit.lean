import SessionKit.Argon2.Block
import SessionKit.Argon2.Derive
import SessionKit.Argon2.Params
import SessionKit.Base64
import SessionKit.Bytes
import SessionKit.Cli.Action
import SessionKit.Cli.Command
import SessionKit.Cli.Commands
import SessionKit.Cli.Context
import SessionKit.Cli.Demo
import SessionKit.Cli.Desk
import SessionKit.Cli.Directive
import SessionKit.Cli.Failure
import SessionKit.Cli.Filter
import SessionKit.Cli.LogLine
import SessionKit.Cli.Logger
import SessionKit.Cli.Pattern
import SessionKit.Cli.Run
import SessionKit.Cli.Scan
import SessionKit.Cli.Style
import SessionKit.Config.Check
import SessionKit.Config.Codec
import SessionKit.Config.Discovery
import SessionKit.Config.Errors
import SessionKit.Config.Sections
import SessionKit.Credential
import SessionKit.Decimal
import SessionKit.Decode
import SessionKit.Digest.Blake2b
import SessionKit.Digest.Row
import SessionKit.Digest.Sha256
import SessionKit.Event
import SessionKit.Files
import SessionKit.Files.Path
import SessionKit.Files.Tree
import SessionKit.Identifier
import SessionKit.Json
import SessionKit.Main
import SessionKit.Numeral
import SessionKit.Password.Encoded
import SessionKit.Password.Hasher
import SessionKit.Password.Malformed
import SessionKit.Program
import SessionKit.Proofs.Acceptance
import SessionKit.Proofs.Accounts
import SessionKit.Proofs.Base64
import SessionKit.Proofs.Calendar
import SessionKit.Proofs.Capacity
import SessionKit.Proofs.Checking
import SessionKit.Proofs.Chronicle
import SessionKit.Proofs.Clearance
import SessionKit.Proofs.Conduct
import SessionKit.Proofs.Configured
import SessionKit.Proofs.Creation
import SessionKit.Proofs.Debts
import SessionKit.Proofs.Defaults
import SessionKit.Proofs.Discipline
import SessionKit.Proofs.Distrust
import SessionKit.Proofs.Documents
import SessionKit.Proofs.Drawing
import SessionKit.Proofs.Effective
import SessionKit.Proofs.Encoding
import SessionKit.Proofs.Escape
import SessionKit.Proofs.Expiry
import SessionKit.Proofs.Exposure
import SessionKit.Proofs.Finality
import SessionKit.Proofs.Fleet
import SessionKit.Proofs.Genuine
import SessionKit.Proofs.Hashing
import SessionKit.Proofs.History
import SessionKit.Proofs.Holders
import SessionKit.Proofs.Interleaving
import SessionKit.Proofs.Issuance
import SessionKit.Proofs.Json
import SessionKit.Proofs.Layers
import SessionKit.Proofs.Lifetime
import SessionKit.Proofs.Listing
import SessionKit.Proofs.Lookups
import SessionKit.Proofs.Numerals
import SessionKit.Proofs.Orders
import SessionKit.Proofs.Outage
import SessionKit.Proofs.Provenance
import SessionKit.Proofs.Quotation
import SessionKit.Proofs.Records
import SessionKit.Proofs.Reentry
import SessionKit.Proofs.Refusal
import SessionKit.Proofs.Reloading
import SessionKit.Proofs.Removal
import SessionKit.Proofs.Renewal
import SessionKit.Proofs.Revocation
import SessionKit.Proofs.RevocationById
import SessionKit.Proofs.Rotation
import SessionKit.Proofs.Rules
import SessionKit.Proofs.Scalars
import SessionKit.Proofs.Selection
import SessionKit.Proofs.Sequence
import SessionKit.Proofs.Sharing
import SessionKit.Proofs.SignOut
import SessionKit.Proofs.Solitude
import SessionKit.Proofs.Statistics
import SessionKit.Proofs.Succession
import SessionKit.Proofs.Survival
import SessionKit.Proofs.Tables
import SessionKit.Proofs.Tally
import SessionKit.Proofs.Timestamps
import SessionKit.Proofs.Tokens
import SessionKit.Proofs.Traffic
import SessionKit.Proofs.Transparency
import SessionKit.Proofs.Values
import SessionKit.Proofs.Verdicts
import SessionKit.Random
import SessionKit.Session.Cache
import SessionKit.Session.Errors
import SessionKit.Session.Manager
import SessionKit.Session.Record
import SessionKit.Session.Settings
import SessionKit.Session.Simulation
import SessionKit.Session.Storage
import SessionKit.Session.Surroundings
import SessionKit.Text.Alphanumeric
import SessionKit.Text.Quoted
import SessionKit.Text.Slice
import SessionKit.Time.Calendar
import SessionKit.Time.Duration
import SessionKit.Time.Reader
import SessionKit.Time.Timestamp
import SessionKit.Token
import SessionKit.Toml.Document
import SessionKit.Toml.Number
import SessionKit.Toml.Reader
import SessionKit.Toml.Text
import SessionKit.Toml.Writer
