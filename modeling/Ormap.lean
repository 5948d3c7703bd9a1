import Ormap.Attribute
import Ormap.Attribute.Cell
import Ormap.Binary64
import Ormap.Binary64.Shortest
import Ormap.Catalog
import Ormap.Cells
import Ormap.Column
import Ormap.Config
import Ormap.Config.Json
import Ormap.Connection
import Ormap.Connection.Recording
import Ormap.Database
import Ormap.Database.Tables
import Ormap.Descriptor
import Ormap.Descriptor.Json
import Ormap.Discriminator
import Ormap.Dump
import Ormap.Error
import Ormap.Forest
import Ormap.Graph
import Ormap.Json
import Ormap.Life
import Ormap.Literal
import Ormap.Mapping
import Ormap.Naming
import Ormap.Object.Leaf
import Ormap.Object.Loading
import Ormap.Object.Storing
import Ormap.Once
import Ormap.Relationship
import Ormap.Resolution
import Ormap.Resolution.Columns
import Ormap.Resolution.Discriminators
import Ormap.Resolution.Outline
import Ormap.Row
import Ormap.Schema
import Ormap.Schema.Demand
import Ormap.Schema.JoinTable
import Ormap.Schema.Table
import Ormap.Session
import Ormap.Statement
import Ormap.Text.Blank
import Ormap.Text.Escaped
import Ormap.Text.Letters
import Ormap.Text.Numeral
import Ormap.Text.Printable
import Ormap.Text.Quoted
import Ormap.Timestamp
import Ormap.Uuid
import Ormap.Value
import Ormap.Waiting
import Ormap.Proofs.Catalog
import Ormap.Proofs.Hierarchy
import Ormap.Proofs.Ways
import Ormap.Proofs.Columns
import Ormap.Proofs.ForeignKeys
import Ormap.Proofs.Inheritance
import Ormap.Proofs.Discriminators
import Ormap.Proofs.Copies
import Ormap.Proofs.Tables
import Ormap.Proofs.Schema
import Ormap.Proofs.Cells
import Ormap.Proofs.Labels
import Ormap.Proofs.Storing
import Ormap.Proofs.RowFit
import Ormap.Proofs.Leaf
import Ormap.Proofs.RoundTrip
import Ormap.Proofs.Actions
import Ormap.Proofs.Defects
import Ormap.Proofs.Transactions
import Ormap.Proofs.References
import Ormap.Proofs.Mirrors
import Ormap.Proofs.Navigation
import Ormap.Proofs.Order
import Ormap.Proofs.TableNames
import Ormap.Proofs.Layout
import Ormap.Proofs.Quoting
import Ormap.Proofs.Literals
import Ormap.Proofs.Insertions
import Ormap.Proofs.SingleTable
import Ormap.Proofs.Rollback
import Ormap.Proofs.Extension
import Ormap.Proofs.Scripts
import Ormap.Proofs.Serialization
import Ormap.Proofs.Waiting
import Ormap.Proofs.Calls
import Ormap.Proofs.Descent
import Ormap.Proofs.Lossless
import Ormap.Proofs.Coercion
import Ormap.Proofs.Loops
import Ormap.Proofs.Addressing
import Ormap.Proofs.Keyless
import Ormap.Proofs.OneToOne
import Ormap.Proofs.Lowering
import Ormap.Proofs.Urls
import Ormap.Proofs.Lengths
import Ormap.Proofs.Clauses
import Ormap.Proofs.Origins
import Ormap.Proofs.ReferentialActions
