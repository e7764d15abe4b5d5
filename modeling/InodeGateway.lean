import InodeGateway.Access
import InodeGateway.Attributes
import InodeGateway.Backend
import InodeGateway.Backend.Injected
import InodeGateway.Backend.Local
import InodeGateway.Backend.Memory
import InodeGateway.Backend.Sessions
import InodeGateway.Backend.Storage
import InodeGateway.Disk
import InodeGateway.Disk.Change
import InodeGateway.Disk.Deed
import InodeGateway.Disk.Report
import InodeGateway.Failure
import InodeGateway.Gateway
import InodeGateway.Gateway.Creation
import InodeGateway.Gateway.Operations
import InodeGateway.Gateway.Request
import InodeGateway.Handle
import InodeGateway.Http.Body
import InodeGateway.Http.Host
import InodeGateway.Http.Label
import InodeGateway.Http.Label.ClassTable
import InodeGateway.Http.Label.FoldingTable
import InodeGateway.Http.Label.LetterTable
import InodeGateway.Http.Media
import InodeGateway.Http.Metrics
import InodeGateway.Http.Percent
import InodeGateway.Http.Reply
import InodeGateway.Http.Request
import InodeGateway.Http.Route
import InodeGateway.Http.Schema
import InodeGateway.Http.Service
import InodeGateway.Http.Target
import InodeGateway.Identity
import InodeGateway.Inodes
import InodeGateway.Instant
import InodeGateway.Journal
import InodeGateway.Journal.ErrorForm
import InodeGateway.Journal.Line
import InodeGateway.Journal.Visit
import InodeGateway.Json
import InodeGateway.Json.Parser
import InodeGateway.Json.Printer
import InodeGateway.Num
import InodeGateway.Num.Reading
import InodeGateway.Num.Text
import InodeGateway.Object
import InodeGateway.Operation
import InodeGateway.OrderedMap
import InodeGateway.Path
import InodeGateway.Path.Name
import InodeGateway.Path.Spelling
import InodeGateway.Refusal
import InodeGateway.Settings
import InodeGateway.Settings.Environment
import InodeGateway.Text.Blank
import InodeGateway.Text.CaseTable
import InodeGateway.Text.CompositionTable
import InodeGateway.Text.Cut
import InodeGateway.Text.Half
import InodeGateway.Text.Lowercase
import InodeGateway.Text.NormalForm
import InodeGateway.Text.Punycode
import InodeGateway.Text.Quoted
import InodeGateway.Text.Table
import InodeGateway.World
import InodeGateway.Proofs.Inodes.Coherence
import InodeGateway.Proofs.Inodes.Bijection
import InodeGateway.Proofs.Gateway.Contract
import InodeGateway.Proofs.Gateway.Operations
import InodeGateway.Proofs.Gateway.Run
import InodeGateway.Proofs.Gateway.Permanence
import InodeGateway.Proofs.Gateway.Mirror
import InodeGateway.Proofs.Gateway.Record
import InodeGateway.Proofs.Gateway.Density
import InodeGateway.Proofs.Inodes.Ancestry
import InodeGateway.Proofs.Memory.Children
import InodeGateway.Proofs.Gateway.Confinement
import InodeGateway.Proofs.Gateway.Stages
import InodeGateway.Proofs.Backend.Accounting
import InodeGateway.Proofs.Backend.Faulty
import InodeGateway.Proofs.Gateway.Errands
import InodeGateway.Proofs.Gateway.Naming
import InodeGateway.Proofs.Gateway.Reporting
import InodeGateway.Proofs.Gateway.Validation
import InodeGateway.Proofs.Memory.Looks
import InodeGateway.Proofs.Memory.Tree
import InodeGateway.Proofs.Memory.Calm
import InodeGateway.Proofs.Attributes
import InodeGateway.Proofs.Gateway.Listing
import InodeGateway.Proofs.Http.Service
import InodeGateway.Proofs.Http.Creation
import InodeGateway.Proofs.Backend.Keeping
import InodeGateway.Proofs.Gateway.Namespace
import InodeGateway.Proofs.Gateway.Telling
import InodeGateway.Proofs.Memory.Keeping
import InodeGateway.Proofs.Disk.Ways
import InodeGateway.Proofs.Disk.Contents
import InodeGateway.Proofs.Local.Keeping
import InodeGateway.Proofs.Gateway.Alike
import InodeGateway.Proofs.Gateway.Releases
import InodeGateway.Proofs.Gateway.Footprint
import InodeGateway.Proofs.Backend.Interleaving
import InodeGateway.Proofs.Disk.Links
import InodeGateway.Proofs.Local.Containment
import InodeGateway.Proofs.Settings.Rules
import InodeGateway.Proofs.Settings.Caching
import InodeGateway.Proofs.Path.Acceptance
import InodeGateway.Proofs.Path.Canonical
import InodeGateway.Proofs.Path.Neighbours
import InodeGateway.Proofs.Path.Order
import InodeGateway.Proofs.Local.Resolution
import InodeGateway.Proofs.Gateway.Beside
import InodeGateway.Proofs.Backend.Storage
import InodeGateway.Proofs.Settings.Serving
import InodeGateway.Proofs.Handle
import InodeGateway.Proofs.Json
import InodeGateway.Proofs.Gateway.Shown
import InodeGateway.Proofs.Http.Forms
import InodeGateway.Proofs.Http.Replies
import InodeGateway.Proofs.Http.Faithful
import InodeGateway.Proofs.Path.Spellings
import InodeGateway.Proofs.Memory.Deeds
import InodeGateway.Proofs.Gateway.Respelling
import InodeGateway.Proofs.Gateway.Workshop
import InodeGateway.Proofs.Journal.Secrets
import InodeGateway.Proofs.Gateway.Discretion
import InodeGateway.Proofs.Gateway.Opening
import InodeGateway.Proofs.Gateway.Visits
import InodeGateway.Proofs.Gateway.Standing
import InodeGateway.Proofs.Memory.Making
import InodeGateway.Proofs.Gateway.Making
import InodeGateway.Proofs.Inodes.Registration
import InodeGateway.Proofs.Inodes.Occupied
import InodeGateway.Proofs.Gateway.Ascent
import InodeGateway.Proofs.Gateway.Collision
import InodeGateway.Proofs.Access
import InodeGateway.Proofs.Memory.Rights
import InodeGateway.Proofs.Gateway.Access
import InodeGateway.Proofs.Text.Margins
import InodeGateway.Proofs.Text.Numeral
import InodeGateway.Proofs.Handle.Wire
import InodeGateway.Proofs.Num.Nearest
import InodeGateway.Proofs.Identity
import InodeGateway.Proofs.Settings.Owners
import InodeGateway.Proofs.Identity.WrittenMap
import InodeGateway.Proofs.Settings.Identities
import InodeGateway.Proofs.Memory.Gap
import InodeGateway.Proofs.Memory.Space
import InodeGateway.Proofs.Gateway.Space
