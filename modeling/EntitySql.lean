import EntitySql.Calendar.Date
import EntitySql.Calendar.Time
import EntitySql.Calendar.Timestamp
import EntitySql.Conformance.Changes
import EntitySql.Conformance.Check
import EntitySql.Conformance.Commands
import EntitySql.Conformance.Person
import EntitySql.Conformance.Queries
import EntitySql.Conformance.Suite
import EntitySql.Connection.Address
import EntitySql.Connection.Host
import EntitySql.Connection.Pairs
import EntitySql.Connection.Problem
import EntitySql.Connection.Redaction
import EntitySql.Connection.Settings
import EntitySql.Database.Basic
import EntitySql.Database.Scripted
import EntitySql.Entity
import EntitySql.Error
import EntitySql.Failure
import EntitySql.Number.Binary
import EntitySql.Number.Decimal
import EntitySql.Number.Power
import EntitySql.Number.Shortest
import EntitySql.Query.Basic
import EntitySql.Query.Expression
import EntitySql.Query.Name
import EntitySql.Query.Parameter
import EntitySql.Statement.Change
import EntitySql.Statement.ColumnType
import EntitySql.Statement.Compile
import EntitySql.Statement.Context
import EntitySql.Statement.Declaration
import EntitySql.Statement.Expression
import EntitySql.Statement.Fragment
import EntitySql.Statement.Literal
import EntitySql.Statement.Select
import EntitySql.Statement.Written
import EntitySql.Text.Blank
import EntitySql.Text.Concealed
import EntitySql.Text.Digit
import EntitySql.Text.Joined
import EntitySql.Text.Percent
import EntitySql.Text.Punycode
import EntitySql.Text.Quoted
import EntitySql.Text.Shortened
import EntitySql.Text.Utf8
import EntitySql.Uuid
import EntitySql.Value.Basic
import EntitySql.Value.Optional
import EntitySql.Value.Target
import EntitySql.Value.Text
import EntitySql.Wire.Batch
import EntitySql.Wire.Cell
import EntitySql.Wire.Decoding
import EntitySql.Wire.Encoding
import EntitySql.Wire.Login
import EntitySql.Wire.Server
import EntitySql.Proofs.Paging.Rows
import EntitySql.Proofs.Paging.Window
import EntitySql.Proofs.Paging.Frames
import EntitySql.Proofs.Paging.Composition
import EntitySql.Proofs.Statement.Grammar
import EntitySql.Proofs.Statement.Literal
import EntitySql.Proofs.Statement.Readable
import EntitySql.Proofs.Statement.Change
import EntitySql.Proofs.Paging.Pages
import EntitySql.Proofs.Statement.Declaration
import EntitySql.Proofs.Statement.Variables
import EntitySql.Proofs.Wire.Batch
import EntitySql.Proofs.Query.Parameters
import EntitySql.Proofs.Statement.Pieces
import EntitySql.Proofs.Statement.References
import EntitySql.Proofs.Query.Columns
import EntitySql.Proofs.Database.Windows
import EntitySql.Proofs.Statement.Nesting
import EntitySql.Proofs.Statement.Faults
import EntitySql.Proofs.Wire.RoundTrip
import EntitySql.Proofs.Wire.DeclaredType
import EntitySql.Proofs.Text.Cutting
import EntitySql.Proofs.Connection.Login
import EntitySql.Proofs.Connection.Tokens
import EntitySql.Proofs.Connection.Entries
import EntitySql.Proofs.Connection.ShownPairs
import EntitySql.Proofs.Connection.AddressPasswords
import EntitySql.Proofs.Connection.PairPasswords
import EntitySql.Proofs.Database.AllOrNothing
import EntitySql.Proofs.Entity.OrderedMap
import EntitySql.Proofs.Statement.FirstFault
import EntitySql.Statement.Printer
import EntitySql.Proofs.Statement.Printer
import EntitySql.Proofs.Statement.PrintedQuery
import EntitySql.Proofs.Statement.WholeOrNothing
import EntitySql.Proofs.Wire.Resending
import EntitySql.Proofs.Wire.DeclaredNumbers
import EntitySql.Proofs.Value.Equality
import EntitySql.Proofs.Entity.SameProperties
import EntitySql.Proofs.Number.Rounding
import EntitySql.Proofs.Value.Integers
import EntitySql.Proofs.Number.Converting
import EntitySql.Proofs.Number.DecimalToBinary
import EntitySql.Proofs.Number.BinaryToDecimal
import EntitySql.Proofs.Value.Overflow
import EntitySql.Proofs.Value.Widening
import EntitySql.Proofs.Calendar.Reading
import EntitySql.Proofs.Calendar.Lossless
import EntitySql.Proofs.Calendar.Instants
import EntitySql.Proofs.Value.Tags
import EntitySql.Proofs.Query.Building
import EntitySql.Proofs.Connection.PairForm
import EntitySql.Proofs.Statement.Lexemes
import EntitySql.Proofs.Statement.Identifiers
import EntitySql.Proofs.Text.Utf8
import EntitySql.Proofs.Text.Percent
import EntitySql.Proofs.Text.Punycode
import EntitySql.Proofs.Connection.Server
import EntitySql.Proofs.Connection.DomainNames
import EntitySql.Proofs.Connection.Destination
import EntitySql.Proofs.Wire.Rows
import EntitySql.Proofs.Query.TypePath
import EntitySql.Proofs.Statement.Separators
import EntitySql.Proofs.Statement.Ordinals
import EntitySql.Proofs.Text.Shortened
