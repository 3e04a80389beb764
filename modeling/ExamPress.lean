import ExamPress.Batch.FailureLog
import ExamPress.Batch.Report
import ExamPress.Batch.Run
import ExamPress.Batch.Workshop
import ExamPress.Document.Decode
import ExamPress.Document.Kind
import ExamPress.Document.Node
import ExamPress.Document.PlainText
import ExamPress.Document.Printer
import ExamPress.Document.Problem
import ExamPress.Document.Reader
import ExamPress.Exam.Heading
import ExamPress.Exam.Job
import ExamPress.Exam.Template
import ExamPress.Exam.TemplateFile
import ExamPress.Files.Fault
import ExamPress.Files.Path
import ExamPress.Files.Tree
import ExamPress.Json.Fault
import ExamPress.Json.Reader
import ExamPress.Json.Value
import ExamPress.Json.Writer
import ExamPress.Main
import ExamPress.Markup.Render
import ExamPress.Number.Binary64
import ExamPress.Number.Decimal
import ExamPress.Number.Real
import ExamPress.Press.Assembly
import ExamPress.Press.Compiler
import ExamPress.Press.Program
import ExamPress.Press.Scratch
import ExamPress.Press.Stage
import ExamPress.Proofs.Batch.Accounting
import ExamPress.Proofs.Batch.Confinement
import ExamPress.Proofs.Batch.Delivery
import ExamPress.Proofs.Batch.Independence
import ExamPress.Proofs.Batch.Logging
import ExamPress.Proofs.Batch.Overwriting
import ExamPress.Proofs.Batch.ReadingBack
import ExamPress.Proofs.Batch.Turns
import ExamPress.Proofs.Batch.Verdict
import ExamPress.Proofs.Document.Fields
import ExamPress.Proofs.Document.Outermost
import ExamPress.Proofs.Document.Resaving
import ExamPress.Proofs.Document.Respelling
import ExamPress.Proofs.Document.RoundTrip
import ExamPress.Proofs.Document.Within
import ExamPress.Proofs.Document.Words
import ExamPress.Proofs.Exam.Agenda
import ExamPress.Proofs.Exam.Builtin
import ExamPress.Proofs.Exam.Questions
import ExamPress.Proofs.Exam.Remark
import ExamPress.Proofs.Files.Beginnings
import ExamPress.Proofs.Files.Change
import ExamPress.Proofs.Files.Cut
import ExamPress.Proofs.Files.Destination
import ExamPress.Proofs.Files.Listing
import ExamPress.Proofs.Files.MakingFolders
import ExamPress.Proofs.Json.Grammar
import ExamPress.Proofs.Json.NumberToken
import ExamPress.Proofs.Json.RoundTrip
import ExamPress.Proofs.Json.Steps
import ExamPress.Proofs.Json.StringToken
import ExamPress.Proofs.Json.Token
import ExamPress.Proofs.Markup.Blank
import ExamPress.Proofs.Markup.Label
import ExamPress.Proofs.Markup.Levels
import ExamPress.Proofs.Markup.LookAhead
import ExamPress.Proofs.Markup.Mark
import ExamPress.Proofs.Markup.Nesting
import ExamPress.Proofs.Markup.Payload
import ExamPress.Proofs.Markup.Questions
import ExamPress.Proofs.Markup.Returns
import ExamPress.Proofs.Markup.Saturation
import ExamPress.Proofs.Press.CleanUp
import ExamPress.Proofs.Press.FirstFault
import ExamPress.Proofs.Press.Room
import ExamPress.Proofs.Press.Scratch
import ExamPress.Proofs.Press.Stages
import ExamPress.Proofs.Question.Clause
import ExamPress.Proofs.Question.Groups
import ExamPress.Proofs.Question.Loading
import ExamPress.Proofs.Question.Order
import ExamPress.Proofs.Question.Picking
import ExamPress.Proofs.Question.Reading
import ExamPress.Proofs.Question.Source
import ExamPress.Proofs.Success
import ExamPress.Proofs.Template.Filling
import ExamPress.Proofs.Text.ByteOrder
import ExamPress.Proofs.Text.LineBytes
import ExamPress.Proofs.Text.Lines
import ExamPress.Proofs.Text.Occurrences
import ExamPress.Proofs.Text.Solid
import ExamPress.Proofs.Text.Trimmed
import ExamPress.Question.Bank
import ExamPress.Question.Lesson
import ExamPress.Question.Record
import ExamPress.Selection
import ExamPress.Settings
import ExamPress.Template.Data
import ExamPress.Template.Fault
import ExamPress.Template.Fill
import ExamPress.Template.Grammar
import ExamPress.Template.Helper
import ExamPress.Template.Nesting
import ExamPress.Template.Piece
import ExamPress.Template.Scope
import ExamPress.Template.Syntax
import ExamPress.Template.Tag
import ExamPress.Text.Blank
import ExamPress.Text.Duration
import ExamPress.Text.Lines
import ExamPress.Text.Printable
import ExamPress.Text.Shorten
import ExamPress.Text.Utf8
import ExamPress.Toml.Folder
import ExamPress.Toml.Reader
import ExamPress.Toml.Scalar
import ExamPress.Toml.Table
import ExamPress.Toml.Text
import ExamPress.Toml.Value
