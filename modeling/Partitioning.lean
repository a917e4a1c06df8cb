import Partitioning.Text.Blank
import Partitioning.Text.Lowercase
import Partitioning.Text.Quoted
import Partitioning.Decimal.Shortest
import Partitioning.Width
import Partitioning.Json.Writer
import Partitioning.Json.Document
import Partitioning.Json.Reader
import Partitioning.DataType
import Partitioning.Transform.Source
import Partitioning.Schema
import Partitioning.Schema.Json
import Partitioning.Resolver
import Partitioning.PartitionSpec.Json
import Partitioning.EngineValue
import Partitioning.Table.Json
import Partitioning.Settings.Json
import Partitioning.CommandLine
import Partitioning.Main
import Partitioning.Proofs.PartitionError
import Partitioning.Proofs.SourceType
import Partitioning.Proofs.SpecDeclarations
import Partitioning.Proofs.PartitionType
import Partitioning.Proofs.LookUps
import Partitioning.Proofs.Validation
import Partitioning.Proofs.PartitionValues
import Partitioning.Proofs.RoundTrip
import Partitioning.Proofs.Table
import Partitioning.Proofs.Grammar
import Partitioning.Proofs.SchemaDefects
import Partitioning.Proofs.ExactDecimal
import Partitioning.Proofs.Conversion
import Partitioning.Proofs.LetterCase
import Partitioning.Proofs.ColumnOrder
import Partitioning.Proofs.Compatibility
import Partitioning.Proofs.TableColumns
import Partitioning.Proofs.NameSearch
import Partitioning.Proofs.Transform
import Partitioning.Proofs.SpecJson
