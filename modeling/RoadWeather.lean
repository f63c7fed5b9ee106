import RoadWeather.Archive.Inflate
import RoadWeather.Archive.Zip
import RoadWeather.Batch.Basic
import RoadWeather.Batch.Run
import RoadWeather.Block
import RoadWeather.Collection.Analysis
import RoadWeather.Collection.Basic
import RoadWeather.Collection.Database
import RoadWeather.Collection.FromSheet
import RoadWeather.Collection.Report
import RoadWeather.Command.Files
import RoadWeather.Command.Folder
import RoadWeather.Command.LogFile
import RoadWeather.Command.Options
import RoadWeather.Command.Run
import RoadWeather.Condition.Basic
import RoadWeather.Condition.Order
import RoadWeather.Condition.Results
import RoadWeather.Condition.Sql
import RoadWeather.Condition.Token
import RoadWeather.Fault
import RoadWeather.Identifier
import RoadWeather.Journal
import RoadWeather.Link
import RoadWeather.Main
import RoadWeather.Markup.Xml
import RoadWeather.Number.Dyadic
import RoadWeather.Number.FloatText
import RoadWeather.Number.Shortest
import RoadWeather.Number.Significant
import RoadWeather.Problems
import RoadWeather.Proofs.Connectives
import RoadWeather.Proofs.Grammar
import RoadWeather.Proofs.Keeps
import RoadWeather.Proofs.ProblemLists
import RoadWeather.Proofs.Reading
import RoadWeather.Proofs.Steps
import RoadWeather.Samples
import RoadWeather.Sensors
import RoadWeather.Service
import RoadWeather.Service.Basic
import RoadWeather.Service.Batch
import RoadWeather.Service.Collection
import RoadWeather.Service.Command
import RoadWeather.Service.Dump
import RoadWeather.Service.Naming
import RoadWeather.Service.Objects
import RoadWeather.Service.Problems
import RoadWeather.Service.Workload
import RoadWeather.Settings
import RoadWeather.Stations
import RoadWeather.Table
import RoadWeather.Text.Alnum
import RoadWeather.Text.Blank
import RoadWeather.Text.Digit
import RoadWeather.Text.Integer
import RoadWeather.Text.Lower
import RoadWeather.Text.LowerTables
import RoadWeather.Text.Pieces
import RoadWeather.Text.Printable
import RoadWeather.Text.Ranges
import RoadWeather.Text.Template
import RoadWeather.Time.DayText
import RoadWeather.Time.Format
import RoadWeather.Time.Instant
import RoadWeather.Time.Serial
import RoadWeather.Time.Span
import RoadWeather.Value
import RoadWeather.Value.Arith
import RoadWeather.Value.Integer
import RoadWeather.Value.Text
import RoadWeather.Wire.Json
import RoadWeather.Workbook
import RoadWeather.Workbook.File
import RoadWeather.Workload.Basic
import RoadWeather.Workload.Templates
import RoadWeather.Proofs.Validity
import RoadWeather.Proofs.Blanks
import RoadWeather.Proofs.Numbering
import RoadWeather.Proofs.Tables
import RoadWeather.Proofs.Names
import RoadWeather.Proofs.Identifiers
import RoadWeather.Proofs.Making
import RoadWeather.Proofs.Summary
import RoadWeather.Proofs.Durations
import RoadWeather.Proofs.EveryBlock
import RoadWeather.Proofs.Made
import RoadWeather.Proofs.Checking
import RoadWeather.Proofs.Logging
import RoadWeather.Proofs.Adding
import RoadWeather.Proofs.DryValidation
import RoadWeather.Proofs.ValueText
import RoadWeather.Proofs.TableNames
import RoadWeather.Proofs.StationNumbers
import RoadWeather.Proofs.StationChecks
import RoadWeather.Proofs.SheetRows
import RoadWeather.Proofs.TextForms
import RoadWeather.Proofs.References
import RoadWeather.Proofs.InLists
