import Handoff.Float.Arith
import Handoff.Float.Binary
import Handoff.Float.Decimal
import Handoff.Float.Parse
import Handoff.Text.Case
import Handoff.Text.Grapheme
import Handoff.Text.Lines
import Handoff.Text.Quote
import Handoff.Text.Search
import Handoff.Text.Unicode.Blank
import Handoff.Text.Unicode.CaseMapping
import Handoff.Text.Unicode.Cased
import Handoff.Text.Unicode.GraphemeBreak
import Handoff.Text.Unicode.Printable
import Handoff.Text.Unicode.Table
import Handoff.Text.Words
import Handoff.Json.Cursor
import Handoff.Json.Error
import Handoff.Json.FromValue
import Handoff.Json.Lexeme
import Handoff.Json.Read
import Handoff.Json.Shape
import Handoff.Json.Value
import Handoff.Color
import Handoff.Design.Raw
import Handoff.Design.Schema
import Handoff.Scale
import Handoff.Config
import Handoff.Diagnostic
import Handoff.Tree.Arena
import Handoff.Tree.Node
import Handoff.Layout.Classify
import Handoff.Layout.Rotation
import Handoff.Paint.Convert
import Handoff.Paint.Gradient
import Handoff.Paint.Palette
import Handoff.Normalize.Names
import Handoff.Normalize.Pass
import Handoff.Normalize.Text
import Handoff.Normalize.Vectors
import Handoff.Annotation
import Handoff.Emit.Engine
import Handoff.Emit.Format
import Handoff.Emit.Fragment
import Handoff.Emit.Markup
import Handoff.Emit.Scene
import Handoff.Emit.Template
import Handoff.Target.Compose
import Handoff.Target.Flutter
import Handoff.Target.Html
import Handoff.Target.SwiftUi
import Handoff.Target.Tailwind
import Handoff.Conversion
import Handoff.Encode
import Handoff.Command
import Handoff.Main
import Handoff.Proofs.UniqueNames
import Handoff.Proofs.Tree.Arena
import Handoff.Proofs.Normalize.Vectors
import Handoff.Proofs.Normalize.Issues
import Handoff.Proofs.Normalize.Forest
import Handoff.Proofs.Normalize.Run
import Handoff.Proofs.Normalize.Shape
import Handoff.Proofs.Normalize.Flat
import Handoff.Proofs.Emit.Closure
import Handoff.Proofs.Emit.Warnings
import Handoff.Proofs.Conversion
import Handoff.Proofs.Normalize.Placement
import Handoff.Proofs.Normalize.Flow
import Handoff.Proofs.Float.Negation
import Handoff.Proofs.Normalize.Rotation
import Handoff.Proofs.Layout.ExactGeometry
import Handoff.Proofs.Emit.Dispatch
import Handoff.Proofs.Emit.Containers
import Handoff.Proofs.Emit.Contract
import Handoff.Proofs.Tree.Subtree
import Handoff.Proofs.Annotate.Questions
import Handoff.Proofs.Annotate.Answers
import Handoff.Proofs.Annotate.Roots
import Handoff.Proofs.Emit.Steady
import Handoff.Proofs.Emit.Marks
import Handoff.Proofs.Emit.Layouts
import Handoff.Proofs.Emit.Contexts
import Handoff.Proofs.Emit.Raises
import Handoff.Proofs.Emit.Gaps
import Handoff.Proofs.Emit.NativeGaps
import Handoff.Proofs.Emit.GapWarnings
import Handoff.Proofs.Text.Infix
import Handoff.Proofs.Text.CaseRuns
import Handoff.Proofs.Emit.ComposeImports
import Handoff.Proofs.Emit.Literals
import Handoff.Proofs.Emit.TemplateLiterals
import Handoff.Proofs.Emit.Paddings
import Handoff.Proofs.Tree.Forest
import Handoff.Proofs.Paint.Opacity
import Handoff.Proofs.Emit.DesignStrings
import Handoff.Proofs.Text.Alphabet
import Handoff.Proofs.Normalize.TextRuns
import Handoff.Proofs.Float.Order
import Handoff.Proofs.Scale.Nearest
import Handoff.Proofs.Scale.Tokens
import Handoff.Proofs.PaletteSummary
import Handoff.Proofs.Float.Exact
import Handoff.Proofs.Layout.RotatedBox
import Handoff.Proofs.Emit.ClassWords
import Handoff.Proofs.Emit.ConfinedTargets
import Handoff.Proofs.Emit.ConfinedClasses
import Handoff.Proofs.Outcomes
