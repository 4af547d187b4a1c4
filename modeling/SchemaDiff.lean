import SchemaDiff.Main
import SchemaDiff.Proofs.Sql.Quote
import SchemaDiff.Proofs.Text.Blank
import SchemaDiff.Proofs.Sql.Split
import SchemaDiff.Proofs.Ddl.Identifier
import SchemaDiff.Proofs.Ddl.TableStatement
import SchemaDiff.Proofs.Ddl.DefinitionWords
import SchemaDiff.Proofs.Ddl.ColumnType
import SchemaDiff.Proofs.Ddl.ColumnClauses
import SchemaDiff.Proofs.Ddl.ColumnDefinition
import SchemaDiff.Proofs.Comparison.Edit
import SchemaDiff.Proofs.Schema
import SchemaDiff.Proofs.Comparison.Matching
import SchemaDiff.Proofs.Comparison.Settled
import SchemaDiff.Proofs.Comparison.Placement
import SchemaDiff.Proofs.Comparison.Reconcile
import SchemaDiff.Proofs.Sql.Lexeme
import SchemaDiff.Proofs.Ddl.TableOption
import SchemaDiff.Proofs.Ddl.ColumnRender
import SchemaDiff.Proofs.Ddl.TableRender
import SchemaDiff.Proofs.Ddl.RoundTrip
import SchemaDiff.Proofs.Column
import SchemaDiff.Proofs.Comparison.Classification
import SchemaDiff.Proofs.Comparison.Gathering
import SchemaDiff.Proofs.Comparison.Statements
import SchemaDiff.Proofs.Comparison.Structure
import SchemaDiff.Proofs.Comparison.Mirror
import SchemaDiff.Proofs.Comparison.Report
import SchemaDiff.Proofs.Schema.Merge
import SchemaDiff.Proofs.Sql.Literal
import SchemaDiff.Proofs.Sql.Statements
import SchemaDiff.Proofs.Comparison.Stability
import SchemaDiff.Proofs.Database.Introspection
import SchemaDiff.Proofs.Files.Source
import SchemaDiff.Proofs.Comparison.Collation
import SchemaDiff.Proofs.Comparison.Order
import SchemaDiff.Proofs.Ddl.ColumnAlteration
import SchemaDiff.Proofs.Ddl.QuotedNames
import SchemaDiff.Proofs.Ddl.ColumnText
import SchemaDiff.Proofs.Ddl.UntypedColumn
import SchemaDiff.Proofs.Ddl.TypeLayout
import SchemaDiff.Proofs.Ddl.StringDefault
import SchemaDiff.Proofs.Ddl.OptionList
import SchemaDiff.Proofs.Ddl.WellFormed
import SchemaDiff.Proofs.CommandLine.Run
import SchemaDiff.Proofs.Comparison.Anchor
import SchemaDiff.Proofs.Sql.NormalForm
import SchemaDiff.Proofs.Sql.Cut
