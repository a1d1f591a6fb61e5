import Rirekisho.Command
import Rirekisho.CommandLine.Arguments
import Rirekisho.CommandLine.Check
import Rirekisho.CommandLine.Make
import Rirekisho.DataFile
import Rirekisho.Drawing.Canvas
import Rirekisho.Drawing.Document
import Rirekisho.Drawing.PageFile
import Rirekisho.Drawing.Recorder
import Rirekisho.Drawing.Renderer
import Rirekisho.Drawing.Shape
import Rirekisho.Drawing.Sink
import Rirekisho.Fault
import Rirekisho.Font
import Rirekisho.Geometry
import Rirekisho.Listing
import Rirekisho.Log
import Rirekisho.Main
import Rirekisho.Numeral.Literal
import Rirekisho.Numeral.Shortest
import Rirekisho.Options
import Rirekisho.Outline
import Rirekisho.Problem
import Rirekisho.Proofs.DataFile
import Rirekisho.Proofs.DataText
import Rirekisho.Proofs.Drawing.Document
import Rirekisho.Proofs.Drawing.Faces
import Rirekisho.Proofs.Drawing.Frame
import Rirekisho.Proofs.Drawing.Invariant
import Rirekisho.Proofs.Drawing.Layout
import Rirekisho.Proofs.Drawing.Lettering
import Rirekisho.Proofs.Drawing.Margin
import Rirekisho.Proofs.Drawing.Named
import Rirekisho.Proofs.Drawing.Pages
import Rirekisho.Proofs.Drawing.Paging
import Rirekisho.Proofs.Drawing.Parallel
import Rirekisho.Proofs.Drawing.Photo
import Rirekisho.Proofs.Drawing.Pointed
import Rirekisho.Proofs.Drawing.Recording
import Rirekisho.Proofs.Drawing.Reports
import Rirekisho.Proofs.Drawing.Segment
import Rirekisho.Proofs.Drawing.Sequence
import Rirekisho.Proofs.Drawing.Strokes
import Rirekisho.Proofs.Drawing.Table
import Rirekisho.Proofs.Drawing.Translation
import Rirekisho.Proofs.Drawing.Unregistered
import Rirekisho.Proofs.Drawing.Vertices
import Rirekisho.Proofs.Drawing.Whole
import Rirekisho.Proofs.Font
import Rirekisho.Proofs.Outcome
import Rirekisho.Proofs.Pairing
import Rirekisho.Proofs.Run
import Rirekisho.Proofs.Schema.Record
import Rirekisho.Proofs.Script.Append
import Rirekisho.Proofs.Script.Blame
import Rirekisho.Proofs.Script.Correspondence
import Rirekisho.Proofs.Script.Encoded
import Rirekisho.Proofs.Script.Expressible
import Rirekisho.Proofs.Script.File
import Rirekisho.Proofs.Script.Judgement
import Rirekisho.Proofs.Script.Numbering
import Rirekisho.Proofs.Script.Points
import Rirekisho.Proofs.Script.Polyline
import Rirekisho.Proofs.Script.Reading
import Rirekisho.Proofs.Script.Row
import Rirekisho.Proofs.Script.Spelling
import Rirekisho.Proofs.Script.Written
import Rirekisho.Proofs.Settings.Environment
import Rirekisho.Proofs.Settings.Field
import Rirekisho.Proofs.Settings.File
import Rirekisho.Proofs.Settings.Overlay
import Rirekisho.Proofs.Settings.Override
import Rirekisho.Proofs.Settings.Session
import Rirekisho.Proofs.Storage.Disk
import Rirekisho.Proofs.Storage.TextFile
import Rirekisho.Proofs.Text.Case
import Rirekisho.Proofs.Text.Line
import Rirekisho.Proofs.Text.Place
import Rirekisho.Proofs.Text.Strip
import Rirekisho.Proofs.Value.Lookup
import Rirekisho.Proofs.Yaml.Digits
import Rirekisho.Proofs.Yaml.Document
import Rirekisho.Proofs.Yaml.Token
import Rirekisho.Proofs.Yaml.Tree
import Rirekisho.Proofs.Yaml.Value
import Rirekisho.Record
import Rirekisho.Run
import Rirekisho.Schema.Checked
import Rirekisho.Schema.Model
import Rirekisho.Schema.Simple
import Rirekisho.Script.Field
import Rirekisho.Script.Grammar
import Rirekisho.Script.Reader
import Rirekisho.Settings.Basic
import Rirekisho.Settings.Environment
import Rirekisho.Settings.File
import Rirekisho.Settings.Session
import Rirekisho.Storage.Disk
import Rirekisho.Storage.Path
import Rirekisho.Storage.Signature
import Rirekisho.Storage.TextFile
import Rirekisho.Text.Blank
import Rirekisho.Text.Case
import Rirekisho.Text.Cased
import Rirekisho.Text.Digit
import Rirekisho.Text.Line
import Rirekisho.Text.Printable
import Rirekisho.Text.Quoted
import Rirekisho.Value.Basic
import Rirekisho.Value.Json
import Rirekisho.Value.Label
import Rirekisho.Variable
import Rirekisho.Yaml.Cursor
import Rirekisho.Yaml.Document
import Rirekisho.Yaml.Flaw
import Rirekisho.Yaml.Literal
import Rirekisho.Yaml.Node
import Rirekisho.Yaml.Scalar
import Rirekisho.Yaml.Source
import Rirekisho.Yaml.Token
import Rirekisho.Proofs.Located
import Rirekisho.Proofs.Script.Length
import Rirekisho.Proofs.Settings.Empty
import Rirekisho.Proofs.Schema.Declared
import Rirekisho.Proofs.Schema.Projection
