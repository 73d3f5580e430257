import ShapeLisp.Error
import ShapeLisp.Eval.Call
import ShapeLisp.Eval.Evaluate
import ShapeLisp.Eval.Event
import ShapeLisp.Eval.Forms
import ShapeLisp.Eval.Operators
import ShapeLisp.Eval.Run
import ShapeLisp.Host.Arity
import ShapeLisp.Host.Operation
import ShapeLisp.Host.Standard
import ShapeLisp.Json.Basic
import ShapeLisp.Json.Pointer
import ShapeLisp.Json.Text
import ShapeLisp.Keyed
import ShapeLisp.Main
import ShapeLisp.Number.Binary64
import ShapeLisp.Number.Layout
import ShapeLisp.Number.Numeral
import ShapeLisp.Number.Shortest
import ShapeLisp.Proofs.Eval.Alias
import ShapeLisp.Proofs.Eval.Application
import ShapeLisp.Proofs.Eval.Binders
import ShapeLisp.Proofs.Eval.Coherence
import ShapeLisp.Proofs.Eval.Comparison
import ShapeLisp.Proofs.Eval.Depth
import ShapeLisp.Proofs.Eval.Dispatch
import ShapeLisp.Proofs.Eval.Fallback
import ShapeLisp.Proofs.Eval.Frame
import ShapeLisp.Proofs.Eval.JsonOperator
import ShapeLisp.Proofs.Eval.Lock
import ShapeLisp.Proofs.Eval.Logic
import ShapeLisp.Proofs.Eval.LogicRules
import ShapeLisp.Proofs.Eval.Missing
import ShapeLisp.Proofs.Eval.Notes
import ShapeLisp.Proofs.Eval.Outcome
import ShapeLisp.Proofs.Eval.Ranges
import ShapeLisp.Proofs.Eval.Script
import ShapeLisp.Proofs.Eval.Stable
import ShapeLisp.Proofs.Eval.Termination
import ShapeLisp.Proofs.Eval.Unfolding
import ShapeLisp.Proofs.Eval.Unmentioned
import ShapeLisp.Proofs.Host.Blame
import ShapeLisp.Proofs.Host.Names
import ShapeLisp.Proofs.Host.Typed
import ShapeLisp.Proofs.Keyed
import ShapeLisp.Proofs.Number.Arithmetic
import ShapeLisp.Proofs.Number.Binary64
import ShapeLisp.Proofs.Number.Decimal
import ShapeLisp.Proofs.Number.Exact
import ShapeLisp.Proofs.Number.Grammar
import ShapeLisp.Proofs.Number.Order
import ShapeLisp.Proofs.Number.Rounding
import ShapeLisp.Proofs.Number.Shortest
import ShapeLisp.Proofs.Number.Written
import ShapeLisp.Proofs.Reader.Classification
import ShapeLisp.Proofs.Reader.JsonLiteral
import ShapeLisp.Proofs.Reader.Lines
import ShapeLisp.Proofs.Reader.Produced
import ShapeLisp.Proofs.Reader.Progress
import ShapeLisp.Proofs.Reader.Reread
import ShapeLisp.Proofs.Reader.RoundTrip
import ShapeLisp.Proofs.Reader.Scanner
import ShapeLisp.Proofs.Reader.Token
import ShapeLisp.Proofs.Reader.Unbalanced
import ShapeLisp.Proofs.Scope.Alias
import ShapeLisp.Proofs.Scope.Lookup
import ShapeLisp.Proofs.Scope.Store
import ShapeLisp.Proofs.Scope.Visible
import ShapeLisp.Proofs.Shape.Bindings
import ShapeLisp.Proofs.Shape.Equality
import ShapeLisp.Proofs.Shape.Specification
import ShapeLisp.Proofs.Text.Boundary
import ShapeLisp.Proofs.Text.ByteOrder
import ShapeLisp.Proofs.Text.Excerpt
import ShapeLisp.Proofs.Value.Conversion
import ShapeLisp.Proofs.Value.Equality
import ShapeLisp.Proofs.Value.Navigation
import ShapeLisp.Proofs.Value.Parts
import ShapeLisp.Proofs.Value.SelfEquality
import ShapeLisp.Reader.Expression
import ShapeLisp.Reader.JsonLiteral
import ShapeLisp.Reader.Source
import ShapeLisp.Reader.Token
import ShapeLisp.Regex.Basic
import ShapeLisp.Regex.CharSet
import ShapeLisp.Regex.Expr
import ShapeLisp.Regex.Grammar
import ShapeLisp.Regex.Program
import ShapeLisp.Regex.Search
import ShapeLisp.Repl
import ShapeLisp.Scope.Store
import ShapeLisp.Session
import ShapeLisp.Shape.Match
import ShapeLisp.Text.Alphabetic
import ShapeLisp.Text.CodePoints
import ShapeLisp.Text.CaseFold
import ShapeLisp.Text.Category.Letter
import ShapeLisp.Text.Category.Mark
import ShapeLisp.Text.Category.Number
import ShapeLisp.Text.Category.Other
import ShapeLisp.Text.Category.Punctuation
import ShapeLisp.Text.Category.Symbol
import ShapeLisp.Text.Excerpt
import ShapeLisp.Text.Printable
import ShapeLisp.Text.Property
import ShapeLisp.Text.Quoted
import ShapeLisp.Text.Script
import ShapeLisp.Text.Script.AtoH
import ShapeLisp.Text.Script.Common
import ShapeLisp.Text.Script.ItoO
import ShapeLisp.Text.Script.PtoZ
import ShapeLisp.Value.Basic
import ShapeLisp.Value.Display
import ShapeLisp.Value.Json
