import Recordsmith.Text.Hex
import Recordsmith.Text.CodeRanges
import Recordsmith.Text.IdentChar
import Recordsmith.Text.Printable
import Recordsmith.Text.Casing
import Recordsmith.Text.Cluster
import Recordsmith.Text.Blank
import Recordsmith.Text.Words
import Recordsmith.Text.Similarity
import Recordsmith.Text.Quoted
import Recordsmith.Source.Ident
import Recordsmith.Source.Tree
import Recordsmith.Source.Literal
import Recordsmith.Source.Lexeme
import Recordsmith.Source.Sign
import Recordsmith.Source.Complaint
import Recordsmith.Source.Reader
import Recordsmith.Source.TypeExpr
import Recordsmith.Source.Expression
import Recordsmith.Source.Attribute
import Recordsmith.Source.Shape
import Recordsmith.Source.Grammar.Basic
import Recordsmith.Source.Grammar.Attributes
import Recordsmith.Source.Grammar.Paths
import Recordsmith.Source.Grammar.Generics
import Recordsmith.Source.Grammar.Types
import Recordsmith.Source.Grammar.Patterns
import Recordsmith.Source.Grammar.Operators
import Recordsmith.Source.Grammar.Expressions
import Recordsmith.Source.Grammar.Statements
import Recordsmith.Source.Grammar.Shapes
import Recordsmith.Source.Grammar.Functions
import Recordsmith.Source.Grammar.Items
import Recordsmith.Source.Grammar
import Recordsmith.Source.Declaration
import Recordsmith.Schema.Naming
import Recordsmith.Schema.Issue
import Recordsmith.Schema.Docs
import Recordsmith.Schema.Options
import Recordsmith.Schema.Property
import Recordsmith.Schema.Classify
import Recordsmith.Schema.Basic
import Recordsmith.Schema.Plan
import Recordsmith.Emit.Terms
import Recordsmith.Emit.RecordItem
import Recordsmith.Emit.TranslatorItem
import Recordsmith.Emit.AliasItem
import Recordsmith.Emit.Expansion
import Recordsmith.Data.Identity
import Recordsmith.Data.Value
import Recordsmith.Data.Nullable
import Recordsmith.Data.ItemList
import Recordsmith.Data.Failure
import Recordsmith.Data.Event
import Recordsmith.Data.Run
import Recordsmith.Data.Codec
import Recordsmith.Data.DataType
import Recordsmith.Data.TextForms
import Recordsmith.Data.Enumeration
import Recordsmith.Data.Row
import Recordsmith.Translate.Translator
import Recordsmith.Translate.Bindings
import Recordsmith.Translate.Read
import Recordsmith.Translate.Write
import Recordsmith.Translate.Derived
import Recordsmith.Translate.Meaning
import Recordsmith.Translate.Catalog
import Recordsmith.Store.Basic
import Recordsmith.Store.Memory
import Recordsmith.Store.Repository
import Recordsmith.Sample.Enumerations
import Recordsmith.Sample.Tag
import Recordsmith.Sample.Domains
import Recordsmith.Proofs.Schema.Accepted
import Recordsmith.Proofs.Schema.Sorting
import Recordsmith.Proofs.Schema.Issues
import Recordsmith.Proofs.Schema.Rules
import Recordsmith.Proofs.Translate.Conform
import Recordsmith.Proofs.Translate.Forms
import Recordsmith.Proofs.Translate.Writing
import Recordsmith.Proofs.Translate.RoundTrip
import Recordsmith.Proofs.Translate.Quiet
import Recordsmith.Proofs.Store.Memory
import Recordsmith.Proofs.Store.Reachable
import Recordsmith.Proofs.Store.Interrupted
import Recordsmith.Proofs.Translate.Typed
import Recordsmith.Proofs.Translate.TypedReading
import Recordsmith.Proofs.Translate.Storage
import Recordsmith.Proofs.Translate.Takeover
import Recordsmith.Proofs.Translate.Damage
import Recordsmith.Proofs.Translate.DamagedReading
import Recordsmith.Proofs.Store.Refinement
import Recordsmith.Proofs.Store.Journal
import Recordsmith.Proofs.Emit.Rearranged
import Recordsmith.Proofs.Emit.Uses
import Recordsmith.Proofs.Emit.Agreement
import Recordsmith.Proofs.Text.Words
import Recordsmith.Proofs.Schema.Naming
import Recordsmith.Proofs.Source.Reading
import Recordsmith.Proofs.Emit.RecordNames
import Recordsmith.Proofs.Emit.SnakeNames
import Recordsmith.Proofs.Text.JoinedWords
import Recordsmith.Proofs.Schema.Options
import Recordsmith.Proofs.Emit.OrdinaryNames
import Recordsmith.Proofs.Source.PlainItems
import Recordsmith.Proofs.Emit.Regrouped
import Recordsmith.Proofs.Store.Commuting
import Recordsmith.Proofs.Translate.Calls
import Recordsmith.Proofs.Text.Blank
import Recordsmith.Proofs.Schema.Documentation
import Recordsmith.Proofs.Text.Quoted
import Recordsmith.Proofs.Emit.FieldDocs
import Recordsmith.Proofs.Emit.NestedNames
import Recordsmith.Proofs.Emit.AliasMeaning
import Recordsmith.Proofs.Emit.Layout
