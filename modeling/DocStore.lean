import DocStore.Attempt
import DocStore.Calendar
import DocStore.Cli.Arguments
import DocStore.Cli.Command
import DocStore.Cli.Help
import DocStore.Cli.Run
import DocStore.Config
import DocStore.Database.Basic
import DocStore.Database.Opening
import DocStore.Failure
import DocStore.Fields
import DocStore.Interchange.Csv
import DocStore.Interchange.Format
import DocStore.Interchange.Rows
import DocStore.Json.Basic
import DocStore.Json.Comparison
import DocStore.Json.Decimal
import DocStore.Json.Reader
import DocStore.Json.Text
import DocStore.Json.Writer
import DocStore.Main
import DocStore.Node.Basic
import DocStore.Node.Decode
import DocStore.Node.Scalar
import DocStore.Number.Basic
import DocStore.Number.Double
import DocStore.Number.Notation
import DocStore.Number.Reading
import DocStore.Number.Shortest
import DocStore.Pattern.Basic
import DocStore.Pattern.CharClass
import DocStore.Pattern.CharSet
import DocStore.Pattern.Escape
import DocStore.Pattern.Expr
import DocStore.Pattern.Modes
import DocStore.Pattern.Property
import DocStore.Proofs.AddressedRecords
import DocStore.Proofs.Arrangement
import DocStore.Proofs.AssignedIds
import DocStore.Proofs.Attempts
import DocStore.Proofs.CallHistory
import DocStore.Proofs.ChangeRefusal
import DocStore.Proofs.ChangedRecords
import DocStore.Proofs.CollectionLookup
import DocStore.Proofs.CompactTexts
import DocStore.Proofs.Conformance
import DocStore.Proofs.CreatedRecords
import DocStore.Proofs.CsvIntegers
import DocStore.Proofs.CsvRoundTrip
import DocStore.Proofs.CsvRows
import DocStore.Proofs.CursorCodec
import DocStore.Proofs.CursorMarks
import DocStore.Proofs.CursorWalk
import DocStore.Proofs.DatabaseParts
import DocStore.Proofs.DefaultFills
import DocStore.Proofs.DeletionDepth
import DocStore.Proofs.DeletionInvariant
import DocStore.Proofs.DeletionReach
import DocStore.Proofs.DeletionSteps
import DocStore.Proofs.Descent
import DocStore.Proofs.DiskPlaces
import DocStore.Proofs.DistinctNumberTexts
import DocStore.Proofs.Edits
import DocStore.Proofs.EmbeddedRecords
import DocStore.Proofs.ExpandedFields
import DocStore.Proofs.FieldLookup
import DocStore.Proofs.FieldOrder
import DocStore.Proofs.FieldPositions
import DocStore.Proofs.FilePatterns
import DocStore.Proofs.FilterAlgebra
import DocStore.Proofs.GeneratedDefaults
import DocStore.Proofs.GeneratedIds
import DocStore.Proofs.GraphCoherence
import DocStore.Proofs.IdChangeFollowing
import DocStore.Proofs.IntegerOrder
import DocStore.Proofs.JsonRoundTrip
import DocStore.Proofs.JsonSpelling
import DocStore.Proofs.KeyChangePlans
import DocStore.Proofs.KeyChangeVerdict
import DocStore.Proofs.KeyedWrites
import DocStore.Proofs.LawfulUpkeep
import DocStore.Proofs.LiteralOccurrences
import DocStore.Proofs.MarkCollisions
import DocStore.Proofs.MergeSorting
import DocStore.Proofs.NearestDouble
import DocStore.Proofs.NodeReading
import DocStore.Proofs.NumberTexts
import DocStore.Proofs.PreparedNames
import DocStore.Proofs.PreparedRecords
import DocStore.Proofs.QueryOptionsRoundTrip
import DocStore.Proofs.RecordSubstitution
import DocStore.Proofs.RefusedFollowing
import DocStore.Proofs.RelationSides
import DocStore.Proofs.RequestConditions
import DocStore.Proofs.RequestOrder
import DocStore.Proofs.RequestedRecord
import DocStore.Proofs.RequiredDefaults
import DocStore.Proofs.ResultPages
import DocStore.Proofs.RoundedConformance
import DocStore.Proofs.RoundingIntervals
import DocStore.Proofs.SaveJournal
import DocStore.Proofs.SchemaRoundTrip
import DocStore.Proofs.ShortDecimals
import DocStore.Proofs.SoleRecords
import DocStore.Proofs.SortedResults
import DocStore.Proofs.StorageAgreement
import DocStore.Proofs.StorageCalls
import DocStore.Proofs.StorageHistories
import DocStore.Proofs.StoreUpkeep
import DocStore.Proofs.StoredIds
import DocStore.Proofs.TextOrder
import DocStore.Proofs.TextParts
import DocStore.Proofs.TypedIds
import DocStore.Proofs.TypedNumbers
import DocStore.Proofs.UniqueIds
import DocStore.Proofs.ValueEquality
import DocStore.Proofs.VisitMarks
import DocStore.Query.Codec
import DocStore.Query.Cursor
import DocStore.Query.Evaluate
import DocStore.Query.Filter
import DocStore.Query.Options
import DocStore.Query.Params
import DocStore.Query.Sort
import DocStore.Query.Walk
import DocStore.Record
import DocStore.Reference.Deletion
import DocStore.Reference.Expansion
import DocStore.Reference.Graph
import DocStore.Reference.KeyChange
import DocStore.Reference.Workspace
import DocStore.Schema.Catalog
import DocStore.Schema.Codec
import DocStore.Schema.Field
import DocStore.Schema.Hook
import DocStore.Schema.Problem
import DocStore.Schema.Registry
import DocStore.Schema.Relation
import DocStore.Schema.Supply
import DocStore.Schema.TypeTag
import DocStore.SortedMap
import DocStore.Storage.Adapter
import DocStore.Storage.Database
import DocStore.Storage.Disk
import DocStore.Storage.FilePattern
import DocStore.Storage.Folder
import DocStore.Storage.Medium
import DocStore.Storage.Memory
import DocStore.Storage.Tables
import DocStore.Storage.Unreliable
import DocStore.Store.Basic
import DocStore.Store.Edit
import DocStore.Text.Base64
import DocStore.Text.Blank
import DocStore.Text.Category.Basic
import DocStore.Text.Category.Letters
import DocStore.Text.Category.Others
import DocStore.Text.Digit
import DocStore.Text.LetterCase.Basic
import DocStore.Text.LetterCase.Mates
import DocStore.Text.LetterCase.Table
import DocStore.Text.Parts
import DocStore.Text.Quoted
import DocStore.Text.Script.Table
import DocStore.Validation.Check
import DocStore.Validation.Issue
import DocStore.Validation.Preparation
import DocStore.Yaml.Cursor
import DocStore.Yaml.Document
import DocStore.Yaml.Gap
import DocStore.Yaml.Scalar
import DocStore.Yaml.Token.Basic
import DocStore.Yaml.Token.Scan
import DocStore.Yaml.Writer
