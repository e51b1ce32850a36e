import DeclarativeForm.Binary64.Basic
import DeclarativeForm.Binary64.Numeral
import DeclarativeForm.Binary64.Rounding
import DeclarativeForm.Binary64.Shortest
import DeclarativeForm.Coercion
import DeclarativeForm.CommandLine.Command
import DeclarativeForm.CommandLine.Parameter
import DeclarativeForm.CommandLine.Run
import DeclarativeForm.Defaults
import DeclarativeForm.Engine.Edit
import DeclarativeForm.Engine.Fault
import DeclarativeForm.Engine.Fetch
import DeclarativeForm.Engine.Flow
import DeclarativeForm.Engine.Items
import DeclarativeForm.Engine.Navigator
import DeclarativeForm.Engine.State
import DeclarativeForm.Engine.Status
import DeclarativeForm.Engine.Submission
import DeclarativeForm.Engine.Sync
import DeclarativeForm.Engine.Wizard
import DeclarativeForm.Flow.State
import DeclarativeForm.Json.Basic
import DeclarativeForm.Json.Decode
import DeclarativeForm.Json.Members
import DeclarativeForm.Json.Printer
import DeclarativeForm.Json.Reader
import DeclarativeForm.Keyed
import DeclarativeForm.Main
import DeclarativeForm.Notice
import DeclarativeForm.Options.Function
import DeclarativeForm.Options.Slot
import DeclarativeForm.Options.Table
import DeclarativeForm.Outline.Render
import DeclarativeForm.Outline.View
import DeclarativeForm.Path.Access
import DeclarativeForm.Path.Basic
import DeclarativeForm.Path.Reader
import DeclarativeForm.Path.Reindex
import DeclarativeForm.Pattern.Bracket
import DeclarativeForm.Pattern.CharSet
import DeclarativeForm.Pattern.Escape
import DeclarativeForm.Pattern.Machine
import DeclarativeForm.Pattern.Program
import DeclarativeForm.Pattern.Reader
import DeclarativeForm.Pattern.Regular
import DeclarativeForm.Pattern.Search
import DeclarativeForm.Pattern.Syntax
import DeclarativeForm.Pattern.Verdict
import DeclarativeForm.Schema.Choice
import DeclarativeForm.Schema.Condition
import DeclarativeForm.Schema.Decode
import DeclarativeForm.Schema.Document
import DeclarativeForm.Schema.Envelope
import DeclarativeForm.Schema.Form
import DeclarativeForm.Schema.Lint
import DeclarativeForm.Schema.Node
import DeclarativeForm.Schema.Rule
import DeclarativeForm.Scope
import DeclarativeForm.Store
import DeclarativeForm.Text.Blank
import DeclarativeForm.Text.CaseFold
import DeclarativeForm.Text.Category
import DeclarativeForm.Text.CodePoints
import DeclarativeForm.Text.Letter
import DeclarativeForm.Text.LineBreak.Class
import DeclarativeForm.Text.LineBreak.Opportunity
import DeclarativeForm.Text.Property
import DeclarativeForm.Text.Quoted
import DeclarativeForm.Text.Script
import DeclarativeForm.Text.Width.Basic
import DeclarativeForm.Text.Width.ColumnSet
import DeclarativeForm.Text.Wrap.Basic
import DeclarativeForm.Text.Wrap.Escape
import DeclarativeForm.Text.Wrap.Fragment
import DeclarativeForm.Text.Wrap.Minima
import DeclarativeForm.Tree.Binding
import DeclarativeForm.Tree.Context
import DeclarativeForm.Tree.Count
import DeclarativeForm.Tree.Find
import DeclarativeForm.Tree.Locate
import DeclarativeForm.Tree.Validation
import DeclarativeForm.Tree.Walk
import DeclarativeForm.Validation.Checksum
import DeclarativeForm.Validation.Password
import DeclarativeForm.Validation.Rules
import DeclarativeForm.Validation.Validators
import DeclarativeForm.Visibility
import DeclarativeForm.Proofs.Json.Equality
import DeclarativeForm.Proofs.Json.Overlay
import DeclarativeForm.Proofs.Keyed
import DeclarativeForm.Proofs.Options.Slot
import DeclarativeForm.Proofs.Options.History
import DeclarativeForm.Proofs.Options.Reuse
import DeclarativeForm.Proofs.Fetch.Desk
import DeclarativeForm.Proofs.Fetch.Session
import DeclarativeForm.Proofs.Fetch.Work
import DeclarativeForm.Proofs.Fetch.Ledger
import DeclarativeForm.Proofs.Path.Numeral
import DeclarativeForm.Proofs.Path.Weight
import DeclarativeForm.Proofs.Fetch.Accounting
import DeclarativeForm.Proofs.Fetch.Custody
import DeclarativeForm.Proofs.Interference.Alike
import DeclarativeForm.Proofs.Interference.Operation
import DeclarativeForm.Proofs.Interference.Run
import DeclarativeForm.Proofs.Path.Frame
import DeclarativeForm.Proofs.Path.Lens
import DeclarativeForm.Proofs.Path.Plain
import DeclarativeForm.Proofs.Path.Grammar
import DeclarativeForm.Proofs.Tree.Namespace
import DeclarativeForm.Proofs.Tree.Duplicate
import DeclarativeForm.Proofs.Tree.Address
import DeclarativeForm.Proofs.Sync.Clearing
import DeclarativeForm.Proofs.Sync.Settled
import DeclarativeForm.Proofs.Sync.Rest
import DeclarativeForm.Proofs.Sync.Current
import DeclarativeForm.Proofs.Tree.Inventory
import DeclarativeForm.Proofs.Tree.Initial
import DeclarativeForm.Proofs.Sync.Progress
import DeclarativeForm.Proofs.Tree.Dependency
import DeclarativeForm.Proofs.Sync.Cascade
import DeclarativeForm.Proofs.Tree.Agreement
import DeclarativeForm.Proofs.Reset.Match
import DeclarativeForm.Proofs.Reset.Fresh
import DeclarativeForm.Proofs.Sync.Quiet
import DeclarativeForm.Proofs.Items.Missing
import DeclarativeForm.Proofs.Path.Shift
import DeclarativeForm.Proofs.Path.Rename
import DeclarativeForm.Proofs.Path.Relocation
import DeclarativeForm.Proofs.Tree.Key
import DeclarativeForm.Proofs.Tree.Shift
import DeclarativeForm.Proofs.Items.Keys
import DeclarativeForm.Proofs.Sync.Repeat
import DeclarativeForm.Proofs.Items.Removal
import DeclarativeForm.Proofs.Tree.Exposure
import DeclarativeForm.Proofs.Validation.Report
import DeclarativeForm.Proofs.Validation.Checksum
import DeclarativeForm.Proofs.Validation.Rule
import DeclarativeForm.Proofs.Validation.Precedence
import DeclarativeForm.Proofs.Validation.Shadow
import DeclarativeForm.Proofs.Validation.Owner
import DeclarativeForm.Proofs.Validation.Derivation
import DeclarativeForm.Proofs.Validation.Field
import DeclarativeForm.Proofs.Validation.Portion
import DeclarativeForm.Proofs.Wizard.Position
import DeclarativeForm.Proofs.Wizard.Gate
import DeclarativeForm.Proofs.Wizard.Coverage
import DeclarativeForm.Proofs.Outline.Listing
import DeclarativeForm.Proofs.Fetch.Settle
import DeclarativeForm.Proofs.Tree.Presence
import DeclarativeForm.Proofs.Items.Presence
import DeclarativeForm.Proofs.Flow.Choice
import DeclarativeForm.Proofs.Items.Fresh
import DeclarativeForm.Proofs.Fetch.Order
import DeclarativeForm.Proofs.Fetch.Steady
import DeclarativeForm.Proofs.Sync.Still
import DeclarativeForm.Proofs.Items.Bounds
import DeclarativeForm.Proofs.Reset.Submission
import DeclarativeForm.Proofs.Rejection
import DeclarativeForm.Proofs.Events.Mirror
import DeclarativeForm.Proofs.Outline.Offers
import DeclarativeForm.Proofs.Validation.Items
import DeclarativeForm.Proofs.Flow.Writers
import DeclarativeForm.Proofs.Flow.Agreement
import DeclarativeForm.Proofs.Flow.Renewal
import DeclarativeForm.Proofs.Flow.Sequence
import DeclarativeForm.Proofs.Flow.Interruption
import DeclarativeForm.Proofs.Sync.Notices
import DeclarativeForm.Proofs.Sync.Passes
import DeclarativeForm.Proofs.Sync.Warning
import DeclarativeForm.Proofs.Path.Nesting
import DeclarativeForm.Proofs.Visibility.Group
import DeclarativeForm.Proofs.Visibility.Reading
import DeclarativeForm.Proofs.Json.Record
import DeclarativeForm.Proofs.Schema.Depth
import DeclarativeForm.Proofs.Schema.Extension
import DeclarativeForm.Proofs.Outline.Blank
import DeclarativeForm.Proofs.Outline.Secret
