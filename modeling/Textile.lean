import Textile.Journal
import Textile.Main
import Textile.Proofs.Block
import Textile.Proofs.Element
import Textile.Proofs.Html.Input
import Textile.Proofs.Html.Nesting
import Textile.Proofs.Html.Source
import Textile.Proofs.Html.Token
import Textile.Proofs.LookBack
import Textile.Proofs.Outline
import Textile.Proofs.Output
import Textile.Proofs.Paragraphs
import Textile.Proofs.Replay
import Textile.Proofs.Text.Escape
import Textile.Proofs.Text.Trim
import Textile.Proofs.WellNested
import Textile.Proofs.Writer
import Textile.Proofs.Html.Content
import Textile.Proofs.Html.Ignored
import Textile.Proofs.Matching
import Textile.Proofs.Modifiers
import Textile.Proofs.Newlines
import Textile.Proofs.Wrapper
import Textile.Proofs.LastLine
import Textile.Proofs.Origin
import Textile.Proofs.Html.Tag
import Textile.Proofs.Html.Document
import Textile.Proofs.Text.Numeral
import Textile.Proofs.Text.Spelling
import Textile.Proofs.Modifiers.Declaration
import Textile.Proofs.Modifiers.Style
import Textile.Proofs.Modifiers.Shown
import Textile.Proofs.Unknown
import Textile.Proofs.Text.Scan
import Textile.Proofs.Html.Ending
import Textile.Proofs.Table
import Textile.Proofs.Junction
import Textile.Proofs.BlankText
import Textile.Proofs.ItemLine
import Textile.Proofs.BareItem
import Textile.Proofs.Gap
import Textile.Proofs.ItemStart
import Textile.Proofs.Command.Arguments
import Textile.Proofs.Command.Tree
import Textile.Proofs.Command.Run
import Textile.Proofs.Unicode.Lowercase
import Textile.Proofs.Ignoring
