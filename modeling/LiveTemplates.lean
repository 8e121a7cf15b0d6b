import LiveTemplates.Application
import LiveTemplates.Binding.Attached
import LiveTemplates.Binding.Attribute
import LiveTemplates.Binding.Basic
import LiveTemplates.Blueprint.Basic
import LiveTemplates.Blueprint.Compiler
import LiveTemplates.Blueprint.Manifest
import LiveTemplates.Component.Class
import LiveTemplates.Component.Tag
import LiveTemplates.Expression
import LiveTemplates.Fault
import LiveTemplates.Forest
import LiveTemplates.Instance
import LiveTemplates.Json.Basic
import LiveTemplates.Json.Reader
import LiveTemplates.Json.Writer
import LiveTemplates.Markup.Builder
import LiveTemplates.Markup.Document
import LiveTemplates.Markup.Entities
import LiveTemplates.Markup.Names
import LiveTemplates.Markup.Rules.Body
import LiveTemplates.Markup.Rules.Foreign
import LiveTemplates.Markup.Rules.Head
import LiveTemplates.Markup.Rules.Outer
import LiveTemplates.Markup.Rules.Table
import LiveTemplates.Markup.Token
import LiveTemplates.Markup.Written
import LiveTemplates.Node
import LiveTemplates.Notice
import LiveTemplates.Number.Binary
import LiveTemplates.Number.Hexadecimal
import LiveTemplates.Number.Notation
import LiveTemplates.Number.Reading
import LiveTemplates.Number.Remainder
import LiveTemplates.Number.Shortest
import LiveTemplates.Options
import LiveTemplates.Program
import LiveTemplates.Program.Eval
import LiveTemplates.Program.Lowering
import LiveTemplates.Program.Scope
import LiveTemplates.Proofs.Binding.Written
import LiveTemplates.Proofs.Blueprint.Depth
import LiveTemplates.Proofs.Blueprint.Histories
import LiveTemplates.Proofs.Blueprint.Made
import LiveTemplates.Proofs.Blueprint.Registry
import LiveTemplates.Proofs.Blueprint.Scanning
import LiveTemplates.Proofs.Blueprint.Shadowing
import LiveTemplates.Proofs.Blueprint.Strictness
import LiveTemplates.Proofs.Blueprint.Unfolding
import LiveTemplates.Proofs.Blueprint.Uses
import LiveTemplates.Proofs.Blueprint.Workshop
import LiveTemplates.Proofs.Calls.Accounts
import LiveTemplates.Proofs.Calls.Copying
import LiveTemplates.Proofs.Calls.Dispatches
import LiveTemplates.Proofs.Calls.Faithful
import LiveTemplates.Proofs.Calls.Fitting
import LiveTemplates.Proofs.Calls.Furnishing
import LiveTemplates.Proofs.Calls.Installing
import LiveTemplates.Proofs.Calls.Ordering
import LiveTemplates.Proofs.Calls.Reporting
import LiveTemplates.Proofs.Calls.Telling
import LiveTemplates.Proofs.Calls.Ticks
import LiveTemplates.Proofs.Component.Tags
import LiveTemplates.Proofs.Detaching.Dealings
import LiveTemplates.Proofs.Detaching.Exactness
import LiveTemplates.Proofs.Detaching.Leading
import LiveTemplates.Proofs.Detaching.Mounting
import LiveTemplates.Proofs.Detaching.Retiring
import LiveTemplates.Proofs.Document.History
import LiveTemplates.Proofs.Document.Listening
import LiveTemplates.Proofs.Document.Starting
import LiveTemplates.Proofs.Forest.Attributes
import LiveTemplates.Proofs.Forest.Cloning
import LiveTemplates.Proofs.Forest.Growth
import LiveTemplates.Proofs.Forest.Moving
import LiveTemplates.Proofs.Forest.Reserve
import LiveTemplates.Proofs.Forest.Walking
import LiveTemplates.Proofs.Forest.WellFormed
import LiveTemplates.Proofs.Instance.Composition
import LiveTemplates.Proofs.Instance.Confinement
import LiveTemplates.Proofs.Instance.Deafness
import LiveTemplates.Proofs.Instance.Forestry
import LiveTemplates.Proofs.Instance.Grafting
import LiveTemplates.Proofs.Instance.Halting
import LiveTemplates.Proofs.Instance.Lineup
import LiveTemplates.Proofs.Instance.Mounting
import LiveTemplates.Proofs.Instance.Objects
import LiveTemplates.Proofs.Instance.Population
import LiveTemplates.Proofs.Instance.Rendered
import LiveTemplates.Proofs.Instance.Rendering
import LiveTemplates.Proofs.Node.Addresses
import LiveTemplates.Proofs.Number.Notation
import LiveTemplates.Proofs.Number.RoundTrip
import LiveTemplates.Proofs.Number.Rounding
import LiveTemplates.Proofs.Numbering.Attesting
import LiveTemplates.Proofs.Numbering.Keeping
import LiveTemplates.Proofs.Numbering.Minutes
import LiveTemplates.Proofs.Numbering.Minuting
import LiveTemplates.Proofs.Ownership.Attaching
import LiveTemplates.Proofs.Ownership.Books
import LiveTemplates.Proofs.Ownership.Deeds
import LiveTemplates.Proofs.Ownership.Diary
import LiveTemplates.Proofs.Ownership.Registrations
import LiveTemplates.Proofs.Ownership.Shares
import LiveTemplates.Proofs.Program.Access
import LiveTemplates.Proofs.Program.Assigning
import LiveTemplates.Proofs.Program.Collecting
import LiveTemplates.Proofs.Program.Language
import LiveTemplates.Proofs.Program.Occurrences
import LiveTemplates.Proofs.Program.Recording
import LiveTemplates.Proofs.Program.Spelling
import LiveTemplates.Proofs.Program.Sufficiency
import LiveTemplates.Proofs.Program.Traces
import LiveTemplates.Proofs.Reentrancy.Borrowing
import LiveTemplates.Proofs.Reentrancy.Compiling
import LiveTemplates.Proofs.Reentrancy.Instances
import LiveTemplates.Proofs.Reentrancy.Mirroring
import LiveTemplates.Proofs.Reentrancy.Watching
import LiveTemplates.Proofs.Separation.Isolation
import LiveTemplates.Proofs.Separation.Seats
import LiveTemplates.Proofs.Separation.Tandem
import LiveTemplates.Proofs.Template.Hoisting
import LiveTemplates.Proofs.Template.Nursery
import LiveTemplates.Proofs.Template.Planting
import LiveTemplates.Proofs.Template.Tending
import LiveTemplates.Proofs.Template.Tracing
import LiveTemplates.Proofs.Text.Uppercase
import LiveTemplates.Proofs.World.Activity
import LiveTemplates.Proofs.World.Convergence
import LiveTemplates.Proofs.World.Editing
import LiveTemplates.Proofs.World.Evolution
import LiveTemplates.Proofs.World.Listeners
import LiveTemplates.Proofs.World.Lockstep
import LiveTemplates.Proofs.World.Looking
import LiveTemplates.Proofs.World.Registries
import LiveTemplates.Proofs.World.Repeating
import LiveTemplates.Proofs.World.Threads
import LiveTemplates.Proofs.World.Woods
import LiveTemplates.Script.Grammar.Basic
import LiveTemplates.Script.Grammar.Expression
import LiveTemplates.Script.Grammar.Function
import LiveTemplates.Script.Grammar.Module
import LiveTemplates.Script.Grammar.Pattern
import LiveTemplates.Script.Grammar.Statement
import LiveTemplates.Script.Term
import LiveTemplates.Script.Token
import LiveTemplates.Session.Answer
import LiveTemplates.Session.Classes
import LiveTemplates.Session.Data
import LiveTemplates.Session.Describe
import LiveTemplates.Session.Inspect
import LiveTemplates.Session.Object
import LiveTemplates.Session.Perform.Basic
import LiveTemplates.Session.Perform.Compile
import LiveTemplates.Session.Perform.Events
import LiveTemplates.Session.Perform.Instances
import LiveTemplates.Session.Perform.Tree
import LiveTemplates.Session.Reference
import LiveTemplates.Session.Script
import LiveTemplates.Session.State
import LiveTemplates.Session.Step
import LiveTemplates.Template
import LiveTemplates.Text.Blank
import LiveTemplates.Text.CharSet
import LiveTemplates.Text.Identifier
import LiveTemplates.Text.Quoted
import LiveTemplates.Text.Uppercase
import LiveTemplates.Text.Word
import LiveTemplates.Value
import LiveTemplates.World.Basic
import LiveTemplates.World.Listening
import LiveTemplates.World.Running
