import Pagefold.Asset.Sharing
import Pagefold.Asset.Table
import Pagefold.Bundle
import Pagefold.Class.Table
import Pagefold.Command.Arguments
import Pagefold.Command.Environment
import Pagefold.Command.Execute
import Pagefold.Command.FieldValue
import Pagefold.Command.LogFilter
import Pagefold.Command.Settings
import Pagefold.Command.Status
import Pagefold.Config
import Pagefold.Css.Calc
import Pagefold.Css.Calc.Reader
import Pagefold.Css.Color
import Pagefold.Css.Color.Shade
import Pagefold.Css.Condition
import Pagefold.Css.Condition.Container
import Pagefold.Css.Condition.Feature
import Pagefold.Css.Condition.Support
import Pagefold.Css.Declaration
import Pagefold.Css.Declaration.Animation
import Pagefold.Css.Declaration.Background
import Pagefold.Css.Declaration.Border
import Pagefold.Css.Declaration.Box
import Pagefold.Css.Declaration.Decoration
import Pagefold.Css.Declaration.Entry
import Pagefold.Css.Declaration.Family
import Pagefold.Css.Declaration.Flex
import Pagefold.Css.Declaration.Font
import Pagefold.Css.Declaration.Grammar
import Pagefold.Css.Declaration.Grid
import Pagefold.Css.Declaration.Image
import Pagefold.Css.Declaration.Lines
import Pagefold.Css.Declaration.Mask
import Pagefold.Css.Declaration.Property
import Pagefold.Css.Declaration.Reader
import Pagefold.Css.Declaration.Transform
import Pagefold.Css.Declaration.Transition
import Pagefold.Css.Measure
import Pagefold.Css.Paint
import Pagefold.Css.Part
import Pagefold.Css.Quantity
import Pagefold.Css.Reading
import Pagefold.Css.Selector
import Pagefold.Css.Selector.Name
import Pagefold.Css.Selector.Printer
import Pagefold.Css.Selector.Reader
import Pagefold.Css.Sheet
import Pagefold.Css.Sheet.Minify
import Pagefold.Css.Sheet.Printer
import Pagefold.Css.Sheet.Reader
import Pagefold.Css.Sheet.Registered
import Pagefold.Css.Sheet.Sections
import Pagefold.Css.Token
import Pagefold.Css.Value
import Pagefold.Digest.Content
import Pagefold.Failure
import Pagefold.Html.Adoption
import Pagefold.Html.Builder
import Pagefold.Html.Emit
import Pagefold.Html.Extract
import Pagefold.Html.Foreign
import Pagefold.Html.Modes
import Pagefold.Html.Node
import Pagefold.Html.Parse
import Pagefold.Html.Reference
import Pagefold.Html.Reference.Name
import Pagefold.Html.Sketch
import Pagefold.Html.Token
import Pagefold.Json
import Pagefold.Link
import Pagefold.Localization
import Pagefold.Main
import Pagefold.Number.Binary
import Pagefold.Number.Curve
import Pagefold.Number.Double
import Pagefold.Number.Nearest
import Pagefold.Number.Single
import Pagefold.Path
import Pagefold.Proofs.Asset.Alone
import Pagefold.Proofs.Asset.Name
import Pagefold.Proofs.Asset.Sharing
import Pagefold.Proofs.Asset.Table
import Pagefold.Proofs.Asset.Traces
import Pagefold.Proofs.Bundle.Blank
import Pagefold.Proofs.Bundle.Documents
import Pagefold.Proofs.Bundle.Failures
import Pagefold.Proofs.Bundle.Frame
import Pagefold.Proofs.Bundle.Lacking
import Pagefold.Proofs.Bundle.Order
import Pagefold.Proofs.Bundle.Output
import Pagefold.Proofs.Bundle.Overwriting
import Pagefold.Proofs.Bundle.Placement
import Pagefold.Proofs.Bundle.Preparation
import Pagefold.Proofs.Bundle.References
import Pagefold.Proofs.Bundle.Refusal
import Pagefold.Proofs.Bundle.Separation
import Pagefold.Proofs.Bundle.Stopping
import Pagefold.Proofs.Class.Table
import Pagefold.Proofs.Class.Token
import Pagefold.Proofs.Command.Figures
import Pagefold.Proofs.Command.Layers
import Pagefold.Proofs.Config
import Pagefold.Proofs.Css.Sheet
import Pagefold.Proofs.Css.Visits
import Pagefold.Proofs.Digest.Rendering
import Pagefold.Proofs.Execution
import Pagefold.Proofs.Html.Apart
import Pagefold.Proofs.Html.Assets
import Pagefold.Proofs.Html.Bundles
import Pagefold.Proofs.Html.ClassNames
import Pagefold.Proofs.Html.Closing
import Pagefold.Proofs.Html.Contents
import Pagefold.Proofs.Html.Encoding
import Pagefold.Proofs.Html.Ending
import Pagefold.Proofs.Html.Escaping
import Pagefold.Proofs.Html.Filling
import Pagefold.Proofs.Html.Fitting
import Pagefold.Proofs.Html.Formatting
import Pagefold.Proofs.Html.Frame
import Pagefold.Proofs.Html.Growth
import Pagefold.Proofs.Html.Inlined
import Pagefold.Proofs.Html.Lexemes
import Pagefold.Proofs.Html.Missing
import Pagefold.Proofs.Html.Partition
import Pagefold.Proofs.Html.Pieces
import Pagefold.Proofs.Html.Preformatted
import Pagefold.Proofs.Html.RawText
import Pagefold.Proofs.Html.Sealed
import Pagefold.Proofs.Html.Sketch
import Pagefold.Proofs.Html.Sound
import Pagefold.Proofs.Html.Stack
import Pagefold.Proofs.Html.Tables
import Pagefold.Proofs.Html.Taking
import Pagefold.Proofs.Html.Undisturbed
import Pagefold.Proofs.Link
import Pagefold.Proofs.Localization
import Pagefold.Proofs.Localization.Joined
import Pagefold.Proofs.Path
import Pagefold.Proofs.Path.Clean
import Pagefold.Proofs.Path.Parent
import Pagefold.Proofs.Renaming.Context
import Pagefold.Proofs.Renaming.Document
import Pagefold.Proofs.Renaming.Names
import Pagefold.Proofs.Renaming.Sources
import Pagefold.Proofs.Renaming.Spellings
import Pagefold.Proofs.Renaming.Style
import Pagefold.Proofs.Renaming.Survey
import Pagefold.Proofs.Script.Declaration
import Pagefold.Proofs.Script.Literals
import Pagefold.Proofs.Script.Renaming
import Pagefold.Proofs.Script.Usage
import Pagefold.Proofs.Search
import Pagefold.Proofs.Settled
import Pagefold.Proofs.Simulation
import Pagefold.Proofs.Simulation.Store
import Pagefold.Proofs.Store.Cached
import Pagefold.Proofs.Store.Change
import Pagefold.Proofs.Store.Journal
import Pagefold.Proofs.Store.Memory
import Pagefold.Proofs.Store.Operation
import Pagefold.Proofs.Store.WellFormed
import Pagefold.Proofs.Text.Cut
import Pagefold.Renaming.Context
import Pagefold.Renaming.Document
import Pagefold.Script.ClassConstant
import Pagefold.Script.Constant
import Pagefold.Script.Fragment
import Pagefold.Script.Known
import Pagefold.Script.Lexeme
import Pagefold.Script.Naming
import Pagefold.Script.Numeral
import Pagefold.Script.Printer
import Pagefold.Script.Quoted
import Pagefold.Script.Reader
import Pagefold.Script.Reader.Expression
import Pagefold.Script.Reader.Grammar
import Pagefold.Script.Reader.Source
import Pagefold.Script.Rule.Condition
import Pagefold.Script.Rule.Fold
import Pagefold.Script.Rule.Form
import Pagefold.Script.Rule.Method
import Pagefold.Script.Rule.Sequence
import Pagefold.Script.Rule.Single
import Pagefold.Script.Rule.Statement
import Pagefold.Script.Scope
import Pagefold.Script.Simplify
import Pagefold.Script.Tree
import Pagefold.Store.Basic
import Pagefold.Store.Cached
import Pagefold.Store.Disk
import Pagefold.Store.Memory
import Pagefold.Text.Cut
import Pagefold.Text.Identifier
import Pagefold.Text.Utf8
import Pagefold.Text.WordChar
import Pagefold.Tool
import Pagefold.Toolchain
