import Stencil.Coercion
import Stencil.Escaping
import Stencil.Hooks
import Stencil.Journal
import Stencil.Json.Basic
import Stencil.Json.Guard
import Stencil.Json.Number
import Stencil.Json.Reader
import Stencil.Json.Writer
import Stencil.Number.Arithmetic
import Stencil.Number.Decimal
import Stencil.Number.Double
import Stencil.Number.Shortest
import Stencil.Path
import Stencil.Pattern.Basic
import Stencil.Pattern.Delimiters
import Stencil.Proofs.AtomsBeside
import Stencil.Proofs.BracketedText
import Stencil.Proofs.Caseless
import Stencil.Proofs.ClassBrackets
import Stencil.Proofs.CutPieces
import Stencil.Proofs.DerivedMatches
import Stencil.Proofs.DerivedOpening
import Stencil.Proofs.DirectScan
import Stencil.Proofs.EscapePositions
import Stencil.Proofs.EscapedPlaceholder
import Stencil.Proofs.EscapedText
import Stencil.Proofs.Escapes
import Stencil.Proofs.Expansion
import Stencil.Proofs.FixedPoint
import Stencil.Proofs.ForbiddenKeys
import Stencil.Proofs.GivenSettings
import Stencil.Proofs.GuardedDocuments
import Stencil.Proofs.JsonGrammar
import Stencil.Proofs.JsonLocality
import Stencil.Proofs.JsonParts
import Stencil.Proofs.JsonReading
import Stencil.Proofs.JsonText
import Stencil.Proofs.Leaves
import Stencil.Proofs.LeftmostPlaceholders
import Stencil.Proofs.MarkedAtoms
import Stencil.Proofs.MarkedText
import Stencil.Proofs.NearestDouble
import Stencil.Proofs.NumberGuard
import Stencil.Proofs.NumberText
import Stencil.Proofs.NumberWords
import Stencil.Proofs.OnePass
import Stencil.Proofs.PassBound
import Stencil.Proofs.PassCap
import Stencil.Proofs.PathSpelling
import Stencil.Proofs.PatternSource
import Stencil.Proofs.PowersOfTen
import Stencil.Proofs.PrivateMarks
import Stencil.Proofs.PropertyNames
import Stencil.Proofs.ReadLiterals
import Stencil.Proofs.Rounding
import Stencil.Proofs.RoundingError
import Stencil.Proofs.Runs
import Stencil.Proofs.SafeNumbers
import Stencil.Proofs.SearchSound
import Stencil.Proofs.SettledParts
import Stencil.Proofs.SinglePlaceholder
import Stencil.Proofs.SkippedClasses
import Stencil.Proofs.SlashedSource
import Stencil.Proofs.SourceDelimiters
import Stencil.Proofs.SpelledParts
import Stencil.Proofs.Splice
import Stencil.Proofs.Strictness
import Stencil.Proofs.TemplateStrings
import Stencil.Proofs.Trimming
import Stencil.Proofs.Truncation
import Stencil.Proofs.UnmarkedEscapes
import Stencil.Proofs.Unsearched
import Stencil.Regex.Basic
import Stencil.Regex.CharSet
import Stencil.Regex.Class
import Stencil.Regex.Escape
import Stencil.Regex.Pieces
import Stencil.Regex.Program
import Stencil.Regex.Reader
import Stencil.Regex.Search
import Stencil.Settings.Basic
import Stencil.Settings.Description
import Stencil.Settings.FromJson
import Stencil.Settings.FromYaml
import Stencil.Settings.Loading
import Stencil.Substitution
import Stencil.Template
import Stencil.Text.Basic
import Stencil.Text.Blank
import Stencil.Text.Quoted
import Stencil.Unicode.Category
import Stencil.Unicode.Folding
import Stencil.Unicode.Property
import Stencil.Unicode.PropertyName
import Stencil.Unicode.Runs
import Stencil.Unicode.Script
import Stencil.Yaml.Cursor
import Stencil.Yaml.Node
import Stencil.Yaml.ScalarText
import Stencil.Yaml.Token
import Stencil.Yaml.Value
