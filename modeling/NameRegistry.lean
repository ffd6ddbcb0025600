import NameRegistry.Bytes
import NameRegistry.OrderedMap.Lemmas
import NameRegistry.Text.Hex
import NameRegistry.Store.Nested
import NameRegistry.Pattern.Reader
import NameRegistry.Scope
import NameRegistry.Context
import NameRegistry.Time
import NameRegistry.Version
import NameRegistry.Json.Reader
import NameRegistry.Json.Writer
import NameRegistry.Json.Message
import NameRegistry.Json.Config
import NameRegistry.Config.Remembered
import NameRegistry.Registry.Domains
import NameRegistry.Guard.Account
import NameRegistry.Delivery.Basic
import NameRegistry.Query.Request
import NameRegistry.Proofs.Store.Visit
import NameRegistry.Proofs.Store.Lawful
import NameRegistry.Proofs.Store.Mirror
import NameRegistry.Proofs.Registry.Contents
import NameRegistry.Proofs.Delivery.Contents
import NameRegistry.Proofs.Delivery.Atomicity
import NameRegistry.Proofs.Binary.Reading
import NameRegistry.Proofs.Binary.Records
import NameRegistry.Proofs.Key.Packed
import NameRegistry.Proofs.Key.Object
import NameRegistry.Proofs.Key.Slot
import NameRegistry.Proofs.Store.Layout
import NameRegistry.Proofs.Registry.Records
import NameRegistry.Proofs.Registry.Names
import NameRegistry.Proofs.Registry.Accounts
import NameRegistry.Proofs.Registry.Domains
import NameRegistry.Proofs.Delivery.Change
import NameRegistry.Proofs.Failure
import NameRegistry.Proofs.Guard.Domain
import NameRegistry.Proofs.Guard.Account
import NameRegistry.Proofs.Delivery.Decision
import NameRegistry.Proofs.Delivery.Reachable
import NameRegistry.Proofs.Registry.Listing
import NameRegistry.Proofs.Delivery.Indexes
import NameRegistry.Proofs.Delivery.Integrity
import NameRegistry.Proofs.Delivery.Authorization
import NameRegistry.Proofs.Delivery.Direct
import NameRegistry.Proofs.Store.Nested
import NameRegistry.Proofs.Query.Listing
import NameRegistry.Proofs.Registry.Cascade
import NameRegistry.Proofs.Guard.Requirement
import NameRegistry.Proofs.Delivery.Outcome
import NameRegistry.Proofs.Delivery.Acceptance
import NameRegistry.Proofs.Delivery.Charges
import NameRegistry.Proofs.Delivery.Frame
import NameRegistry.Proofs.Delivery.Commutation
import NameRegistry.Proofs.Delivery.Succession
import NameRegistry.Proofs.Delivery.Rules
import NameRegistry.Proofs.Delivery.Expiry
import NameRegistry.Proofs.Delivery.Tenure
import NameRegistry.Proofs.Delivery.Terms
import NameRegistry.Proofs.Delivery.Aliasing
import NameRegistry.Proofs.Pattern.Anchored
import NameRegistry.Proofs.Delivery.Transfer
import NameRegistry.Proofs.Delivery.Replay
import NameRegistry.Proofs.Delivery.Composition
import NameRegistry.Proofs.Query.Request
import NameRegistry.Proofs.Registry.Inverses
import NameRegistry.Proofs.Query.Paging
import NameRegistry.Proofs.Registry.Isolation
import NameRegistry.Proofs.Json.Config
import NameRegistry.Proofs.Config.Patterns
import NameRegistry.Proofs.Config.Transparency
import NameRegistry.Proofs.Calendar
import NameRegistry.Proofs.Delivery.Renewals
import NameRegistry.Proofs.Registry.Subjects
import NameRegistry.Proofs.Key.Splitting
import NameRegistry.Proofs.Guard.History
import NameRegistry.Proofs.Json.Message
import NameRegistry.Proofs.Store.Scan
