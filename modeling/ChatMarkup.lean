import ChatMarkup.Text.Alphanumeric
import ChatMarkup.Text.Lines
import ChatMarkup.Text.Printable
import ChatMarkup.Inline.Parse
import ChatMarkup.Render.Span
import ChatMarkup.Document.Basic
import ChatMarkup.Document.Convert
import ChatMarkup.Config.Bundled
import ChatMarkup.Main
import ChatMarkup.Proofs.Cutting
import ChatMarkup.Proofs.Alike
import ChatMarkup.Proofs.Boundary
import ChatMarkup.Proofs.Composition
import ChatMarkup.Proofs.Laminar
import ChatMarkup.Proofs.Replay
import ChatMarkup.Proofs.Floors
import ChatMarkup.Proofs.Slices
import ChatMarkup.Proofs.Accounting
import ChatMarkup.Proofs.Conservation
import ChatMarkup.Proofs.Phrases
import ChatMarkup.Proofs.SpacedEmphasis
import ChatMarkup.Proofs.Canonical
import ChatMarkup.Proofs.CarriageReturns
import ChatMarkup.Proofs.Numbering
import ChatMarkup.Proofs.FencedCode
import ChatMarkup.Proofs.Escaping
import ChatMarkup.Proofs.EscapedLines
import ChatMarkup.Proofs.EscapedText
import ChatMarkup.Proofs.ListLevels
import ChatMarkup.Proofs.Contents
import ChatMarkup.Proofs.Streaming
import ChatMarkup.Proofs.TableRows
import ChatMarkup.Proofs.LineCounts
import ChatMarkup.Proofs.LinkGrammar
import ChatMarkup.Proofs.NormalForm
import ChatMarkup.Proofs.SwitchedOff
import ChatMarkup.Proofs.FileTrees
import ChatMarkup.Proofs.Scripts
import ChatMarkup.Proofs.Runs
import ChatMarkup.Proofs.InlineCode
import ChatMarkup.Proofs.Maximal
import ChatMarkup.Proofs.Extents
import ChatMarkup.Proofs.Resolution
import ChatMarkup.Proofs.TomlDocuments
import ChatMarkup.Proofs.Decoders
import ChatMarkup.Proofs.TomlTables
import ChatMarkup.Proofs.WrittenToml
import ChatMarkup.Proofs.Decoding
import ChatMarkup.Proofs.Settings
import ChatMarkup.Proofs.WrittenConfig
import ChatMarkup.Proofs.Spending
