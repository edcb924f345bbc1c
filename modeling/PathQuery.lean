import PathQuery.Unicode.Class
import PathQuery.Unicode.Folding
import PathQuery.Unicode.Lowercase
import PathQuery.Binary64.Arithmetic
import PathQuery.Binary64.Decimal
import PathQuery.Json.Comparison
import PathQuery.Json.Printer
import PathQuery.Json.Reader
import PathQuery.Json.NumberText
import PathQuery.Query.Printer
import PathQuery.Query.Scanner
import PathQuery.Query.Parser
import PathQuery.AliasExpansion
import PathQuery.Evaluation.Comparison
import PathQuery.Evaluation.ValueSet
import PathQuery.Lookup.Element
import PathQuery.Regex.Matcher
import PathQuery.Regex.Parser
import PathQuery.Evaluation.Evaluator
import PathQuery.Config.Validation
import PathQuery.Config.Writer
import PathQuery.Main
import PathQuery.Proofs.Evaluation.Conservative
import PathQuery.Proofs.Evaluation.Definite
import PathQuery.Proofs.Query.Grammar
import PathQuery.Proofs.Query.Running
import PathQuery.Proofs.Query.Completeness
import PathQuery.Proofs.Query.Soundness
import PathQuery.Proofs.Query.Relocation
import PathQuery.Proofs.Binary64.Interval
import PathQuery.Proofs.Binary64.Shortest
import PathQuery.Proofs.Json.Numerals
import PathQuery.Proofs.Query.Formed
import PathQuery.Proofs.Json.Glyphs
import PathQuery.Proofs.Query.Lexemes
import PathQuery.Proofs.Query.PrintedText
import PathQuery.Proofs.Query.Traces
import PathQuery.Proofs.Query.RoundTrip
import PathQuery.Proofs.Query.Language
import PathQuery.Proofs.Query.Expansion
import PathQuery.Proofs.Query.Extent
import PathQuery.Proofs.Query.Tiling
import PathQuery.Proofs.Query.ErrorPositions
import PathQuery.Proofs.Query.Positions
import PathQuery.Proofs.Config.Compiled
import PathQuery.Proofs.Config.Acceptance
import PathQuery.Proofs.Evaluation.Equations
import PathQuery.Proofs.Evaluation.Errors
import PathQuery.Proofs.Evaluation.Placement
import PathQuery.Proofs.Evaluation.Depth
import PathQuery.Proofs.Evaluation.MissPosition
import PathQuery.Proofs.Json.MemberOrder
import PathQuery.Proofs.Lookup.Ranking
import PathQuery.Proofs.Lookup.MemberOrder
import PathQuery.Proofs.Function.MemberOrder
import PathQuery.Proofs.Function.Yield
import PathQuery.Proofs.Evaluation.MemberOrder
import PathQuery.Proofs.Binary64.Integers
import PathQuery.Proofs.Json.NumberOrder
import PathQuery.Proofs.Json.Equality
import PathQuery.Proofs.Json.Readable
import PathQuery.Proofs.Json.Rereading
import PathQuery.Proofs.Config.Reload
import PathQuery.Proofs.Evaluation.LiteralComparison
import PathQuery.Proofs.Evaluation.Confinement
import PathQuery.Proofs.Evaluation.Forgiving
import PathQuery.Proofs.Evaluation.Alternates
import PathQuery.Proofs.Evaluation.Nesting
import PathQuery.Proofs.Evaluation.Acyclic
import PathQuery.Proofs.Evaluation.Endless
import PathQuery.Proofs.Command.SyntaxCheck
import PathQuery.Proofs.Evaluation.Shape
import PathQuery.Proofs.Function.Parts
import PathQuery.Proofs.Evaluation.Parts
import PathQuery.Proofs.Access.Element
import PathQuery.Proofs.Access.DistanceTable
import PathQuery.Proofs.Access.TokenCursor
import PathQuery.Proofs.Access.ParserReading
import PathQuery.Proofs.Access.Evaluation
import PathQuery.Proofs.Evaluation.Agreement
import PathQuery.Proofs.Evaluation.Elementwise
import PathQuery.Proofs.Evaluation.Fusion
import PathQuery.Proofs.Evaluation.Filtering
import PathQuery.Proofs.Evaluation.Opening
import PathQuery.Proofs.Lookup.Alignment
import PathQuery.Proofs.Lookup.Slicing
import PathQuery.Proofs.Lookup.Nearest
import PathQuery.Proofs.Evaluation.Matching
import PathQuery.Proofs.Query.Splicing
import PathQuery.Proofs.Evaluation.Strictness
import PathQuery.Proofs.Function.Relocation
import PathQuery.Proofs.Evaluation.Relocation
import PathQuery.Proofs.Evaluation.AliasForms
import PathQuery.Proofs.Query.Chains
import PathQuery.Proofs.Evaluation.ShortCircuit
import PathQuery.Proofs.Json.Ordering
import PathQuery.Proofs.Evaluation.Operators
import PathQuery.Proofs.Evaluation.Negation
import PathQuery.Proofs.Function.Sorting
import PathQuery.Proofs.Function.Distinct
import PathQuery.Proofs.Json.NumberValue
import PathQuery.Proofs.Function.Totals
import PathQuery.Proofs.Query.KeyText
import PathQuery.Proofs.Query.StringLiterals
import PathQuery.Proofs.Query.Fuel
import PathQuery.Proofs.Query.Calls
import PathQuery.Proofs.Query.Likeness
import PathQuery.Proofs.Query.Offsets
import PathQuery.Proofs.Query.TokenForms
import PathQuery.Proofs.Query.OptionalRoot
import PathQuery.Proofs.Query.TokenEnds
import PathQuery.Proofs.Query.Spacing
import PathQuery.Proofs.Query.Respelling
import PathQuery.Proofs.Config.Targets
import PathQuery.Proofs.Query.Resumption
import PathQuery.Proofs.Binary64.Overflow
import PathQuery.Proofs.Query.NumberForms
import PathQuery.Proofs.Query.NumberLiterals
