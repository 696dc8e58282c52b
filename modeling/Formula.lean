import Formula.Main
import Formula.Proofs.Text.Classes
import Formula.Proofs.Text.Bytes
import Formula.Proofs.Number.Spelling
import Formula.Proofs.Number.Longest
import Formula.Proofs.Number.NotNaN
import Formula.Proofs.Number.Order
import Formula.Proofs.Number.Rounding
import Formula.Proofs.Source.Reader
import Formula.Proofs.Source.Simulation
import Formula.Proofs.Source.Watched
import Formula.Proofs.Source.Models
import Formula.Proofs.Source.Reads
import Formula.Proofs.Source.Buffered
import Formula.Proofs.Source.Handling
import Formula.Proofs.Source.Agreement
import Formula.Proofs.Token.Steps
import Formula.Proofs.Token.Simulation
import Formula.Proofs.Token.Lexemes
import Formula.Proofs.Token.PlainWords
import Formula.Proofs.Token.Shapes
import Formula.Proofs.Token.Consumed
import Formula.Proofs.Token.Numerals
import Formula.Proofs.Token.Numbers
import Formula.Proofs.Token.Coverage
import Formula.Proofs.Token.Locality
import Formula.Proofs.Token.State
import Formula.Proofs.Token.Reading
import Formula.Proofs.Token.Strings
import Formula.Proofs.Token.NumberValues
import Formula.Proofs.Expr.Shapes
import Formula.Proofs.Expr.Operands
import Formula.Proofs.Parse.Equations
import Formula.Proofs.Parse.Simulation
import Formula.Proofs.Parse.Interchange
import Formula.Proofs.Parse.Shapes
import Formula.Proofs.Parse.Trees
import Formula.Proofs.Parse.Reached
import Formula.Proofs.Store.Search
import Formula.Proofs.Store.Map
import Formula.Proofs.Store.History
import Formula.Proofs.Store.Layers
import Formula.Proofs.Eval.Questions
import Formula.Proofs.Eval.Dependencies
import Formula.Proofs.Eval.Rules
import Formula.Proofs.Eval.Folding
import Formula.Proofs.Eval.Conversations
import Formula.Proofs.Eval.Selection
import Formula.Proofs.Eval.SpelledLiterals
import Formula.Proofs.Grammar.Basic
import Formula.Proofs.Grammar.Tables
import Formula.Proofs.Grammar.Standing
import Formula.Proofs.Grammar.Sound
import Formula.Proofs.Grammar.Complete
import Formula.Proofs.Grammar.Lists
import Formula.Proofs.Grammar.Texts
import Formula.Proofs.Grammar.Operands
import Formula.Proofs.Grammar.Locality
import Formula.Proofs.Grammar.Members
import Formula.Proofs.Grammar.Literals
import Formula.Proofs.RoundTrip.Values
import Formula.Proofs.RoundTrip.Printer
import Formula.Proofs.RoundTrip.Trees
import Formula.Proofs.Shown.Values
import Formula.Proofs.Shown.Trees
import Formula.Proofs.Shown.Expressions
import Formula.Proofs.Grammar.Completions
import Formula.Proofs.Grammar.Viable
import Formula.Proofs.Parse.Prefixes
import Formula.Proofs.Grammar.Rejections
import Formula.Proofs.Grammar.VariableTokens
import Formula.Proofs.Token.Past
import Formula.Proofs.Token.Signs
import Formula.Proofs.Token.SignedNumbers
import Formula.Proofs.Parse.Relation
import Formula.Proofs.Parse.Alignment
import Formula.Proofs.Parse.Visits
import Formula.Proofs.Parse.Blanks
import Formula.Proofs.Grammar.Extended
import Formula.Proofs.Grammar.SignOperators
import Formula.Proofs.Parse.GluedSigns
import Formula.Proofs.Grammar.Words
import Formula.Proofs.Grammar.Respelling
import Formula.Proofs.Eval.Integers
import Formula.Proofs.Number.Exact
import Formula.Proofs.Number.Truncation
import Formula.Proofs.Eval.IntegerOperands
import Formula.Proofs.Eval.Division
import Formula.Proofs.Eval.Comparisons
import Formula.Proofs.Eval.FloatsAsIntegers
import Formula.Proofs.CommandLine.Sessions
import Formula.Proofs.Eval.Extremes
import Formula.Proofs.Parse.Pushback
import Formula.Proofs.Parse.Rescanning
