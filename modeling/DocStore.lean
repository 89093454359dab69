import DocStore.Assoc
import DocStore.Backend
import DocStore.Cache
import DocStore.Calendar
import DocStore.Cursor
import DocStore.Dict
import DocStore.Document
import DocStore.Epoch
import DocStore.Filter
import DocStore.Filter.Wildcard
import DocStore.Grant
import DocStore.Json.Basic
import DocStore.Json.Coercion
import DocStore.Json.Containment
import DocStore.Json.Number
import DocStore.Json.Order
import DocStore.Json.Printer
import DocStore.Json.Reader
import DocStore.Json.Record
import DocStore.ListingRequest
import DocStore.Memory.Collection
import DocStore.Memory.Documents
import DocStore.Memory.Grants
import DocStore.Memory.Journal
import DocStore.Memory.Serial
import DocStore.Number.Binary64
import DocStore.Number.FloatText
import DocStore.Number.Shortest
import DocStore.Path
import DocStore.Proofs.Backends
import DocStore.Proofs.Cache.Spending
import DocStore.Proofs.Cursor.Token
import DocStore.Proofs.Dict
import DocStore.Proofs.Document.FieldName
import DocStore.Proofs.Document.Merging
import DocStore.Proofs.Document.Reserved
import DocStore.Proofs.Document.Setting
import DocStore.Proofs.DocumentBackends
import DocStore.Proofs.Epoch
import DocStore.Proofs.Errors
import DocStore.Proofs.Filter.Regex
import DocStore.Proofs.Filter.Wildcard
import DocStore.Proofs.GrantBackends
import DocStore.Proofs.Json.Containment
import DocStore.Proofs.Json.Integral
import DocStore.Proofs.Json.Numeral
import DocStore.Proofs.Json.Order
import DocStore.Proofs.Json.RoundTrip
import DocStore.Proofs.Json.Rounding
import DocStore.Proofs.Json.Whole
import DocStore.Proofs.Listing.Keyset
import DocStore.Proofs.Listing.NextPage
import DocStore.Proofs.Listing.NullCursor
import DocStore.Proofs.Listing.Preorder
import DocStore.Proofs.Listing.Trichotomy
import DocStore.Proofs.Memory.Addressing
import DocStore.Proofs.Memory.BulkDeletion
import DocStore.Proofs.Memory.Cascade
import DocStore.Proofs.Memory.Change
import DocStore.Proofs.Memory.Contents
import DocStore.Proofs.Memory.Creation
import DocStore.Proofs.Memory.Deletion
import DocStore.Proofs.Memory.Effect
import DocStore.Proofs.Memory.Epochs
import DocStore.Proofs.Memory.GrantAccess
import DocStore.Proofs.Memory.GrantAnswers
import DocStore.Proofs.Memory.GrantEdits
import DocStore.Proofs.Memory.GrantRelations
import DocStore.Proofs.Memory.GrantRollback
import DocStore.Proofs.Memory.Isolation
import DocStore.Proofs.Memory.Latest
import DocStore.Proofs.Memory.Onward
import DocStore.Proofs.Memory.Paging
import DocStore.Proofs.Memory.Purging
import DocStore.Proofs.Memory.Rollback
import DocStore.Proofs.Memory.Sound
import DocStore.Proofs.Memory.Stamp
import DocStore.Proofs.Memory.Timeline
import DocStore.Proofs.Memory.Updating
import DocStore.Proofs.Path.Ancestors
import DocStore.Proofs.Path.Joining
import DocStore.Proofs.Replay
import DocStore.Proofs.Serial
import DocStore.Proofs.SingleUse
import DocStore.Proofs.Sql.Addressing
import DocStore.Proofs.Sql.Binding
import DocStore.Proofs.Sql.Columns
import DocStore.Proofs.Sql.ConnectionString
import DocStore.Proofs.Sql.DocumentAgreement
import DocStore.Proofs.Sql.DocumentSteps
import DocStore.Proofs.Sql.DocumentTables
import DocStore.Proofs.Sql.Exchange
import DocStore.Proofs.Sql.Filtering
import DocStore.Proofs.Sql.GrantAgreement
import DocStore.Proofs.Sql.GrantTables
import DocStore.Proofs.Sql.Keyed
import DocStore.Proofs.Sql.Likeness
import DocStore.Proofs.Sql.Meaning
import DocStore.Proofs.Sql.Mirror
import DocStore.Proofs.Sql.Ordering
import DocStore.Proofs.Sql.PathPattern
import DocStore.Proofs.Sql.Pattern
import DocStore.Proofs.Sql.PatternRules
import DocStore.Proofs.Sql.Placeholders
import DocStore.Proofs.Sql.PoolSettings
import DocStore.Proofs.Sql.PoolSize
import DocStore.Proofs.Sql.SetTables
import DocStore.Proofs.Sql.Shape
import DocStore.Proofs.Sql.Tables
import DocStore.Proofs.Sql.Wording
import DocStore.Proofs.Text.Base64Url
import DocStore.Proofs.Text.FormUrlEncoded
import DocStore.Proofs.Text.Numeral
import DocStore.Proofs.Text.Occurrence
import DocStore.Proofs.Text.Percent
import DocStore.Proofs.Text.Split
import DocStore.Proofs.Url.Authority
import DocStore.Proofs.Url.Host
import DocStore.Proofs.Url.QueryPairs
import DocStore.Proofs.Url.ReadBack
import DocStore.Proofs.Url.Reading
import DocStore.Proofs.Url.Scheme
import DocStore.Proofs.Url.Segments
import DocStore.Registry
import DocStore.RequestError
import DocStore.Services
import DocStore.Settings.Basic
import DocStore.Settings.Decode
import DocStore.Settings.Layers
import DocStore.Settings.Load
import DocStore.Settings.LogLevel
import DocStore.SortKey
import DocStore.Sql.Conversation
import DocStore.Sql.Documents
import DocStore.Sql.Expr
import DocStore.Sql.Grants
import DocStore.Sql.Listing
import DocStore.Sql.Pool
import DocStore.Sql.PoolSettings
import DocStore.Sql.Predicate
import DocStore.Sql.Schema
import DocStore.Sql.ServerUrl
import DocStore.Sql.Statement
import DocStore.Store.Client
import DocStore.Store.Documents
import DocStore.Store.Grants
import DocStore.StoreError
import DocStore.Text.Base64Url
import DocStore.Text.Blank
import DocStore.Text.CaseFold
import DocStore.Text.Duration
import DocStore.Text.FormUrlEncoded
import DocStore.Text.Hex
import DocStore.Text.Numeral
import DocStore.Text.Percent
import DocStore.Text.Quoted
import DocStore.Text.Split
import DocStore.Text.Unprintable
import DocStore.Text.Utf8
import DocStore.Ulid
import DocStore.Unicode.CombiningClass
import DocStore.Unicode.Composition
import DocStore.Unicode.Direction
import DocStore.Unicode.Joining
import DocStore.Unicode.Mark
import DocStore.Unicode.NormalForm
import DocStore.Unicode.Ranges
import DocStore.Url.Basic
import DocStore.Url.Domain
import DocStore.Url.DomainMapping
import DocStore.Url.Host
import DocStore.Url.Punycode
import DocStore.Url.Reader
import DocStore.Yaml.Document
import DocStore.Yaml.Lexer
import DocStore.Yaml.Lexer.Folding
import DocStore.Yaml.Lexer.Property
import DocStore.Yaml.Lexer.Scalar
import DocStore.Yaml.Lexer.State
import DocStore.Yaml.Node
import DocStore.Yaml.Source
import DocStore.Yaml.Token
