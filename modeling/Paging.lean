import Paging.Bytes
import Paging.Catalog
import Paging.Catalog.Json
import Paging.Collation
import Paging.Collection.Write
import Paging.Criteria
import Paging.Cursor
import Paging.Document
import Paging.Document.Json
import Paging.EntityId
import Paging.Hash.Hmac
import Paging.Hash.Sha256
import Paging.Json
import Paging.Json.Form
import Paging.Json.Token
import Paging.Json.Tree
import Paging.Keyset
import Paging.Number.Binary64
import Paging.Number.Numeral
import Paging.Number.Shortest
import Paging.Order.Clause
import Paging.Order.Rows
import Paging.Order.TopK
import Paging.Page
import Paging.Predicate
import Paging.Predicate.Eval
import Paging.Predicate.Json
import Paging.Predicate.Sql
import Paging.Proofs.Number.Exact
import Paging.Proofs.Number.Nearest
import Paging.Proofs.Number.Numeral
import Paging.Query
import Paging.Query.Error
import Paging.Query.Inspect
import Paging.Selection
import Paging.Selection.Json
import Paging.Sort
import Paging.SortedMap
import Paging.Store
import Paging.Text.Base64
import Paging.Text.Digits
import Paging.Text.LetterCase
import Paging.Text.LetterCase.Cased
import Paging.Text.LetterCase.Mapping
import Paging.Text.Position
import Paging.Text.Quoted
import Paging.Text.Unprintable
import Paging.Text.Utf8
import Paging.Time.Calendar
import Paging.Time.Clock
import Paging.Time.Rfc3339
import Paging.Time.Timestamp
import Paging.Token
import Paging.Value
import Paging.Value.Json
import Paging.Walk
import Paging.Proofs.Collation
import Paging.Proofs.Order.Ascending
import Paging.Proofs.Order.TopK
import Paging.Proofs.Order.Rows
import Paging.Proofs.Catalog
import Paging.Proofs.Sort
import Paging.Proofs.Keyset
import Paging.Proofs.Collection.Prepared
import Paging.Proofs.Store.Filed
import Paging.Proofs.Collection.Reachable
import Paging.Proofs.Page
import Paging.Proofs.Criteria
import Paging.Proofs.Query
import Paging.Proofs.Walk
import Paging.Proofs.Session
import Paging.Proofs.Collection.Invariant
import Paging.Proofs.Text.Base64
import Paging.Proofs.Token
import Paging.Proofs.Text.Digits
import Paging.Proofs.Number.Shortest
import Paging.Proofs.Time.Calendar
import Paging.Proofs.Time.Rfc3339
import Paging.Proofs.EntityId
import Paging.Proofs.Json.Token
import Paging.Proofs.Json.Tree
import Paging.Proofs.Json.Form
import Paging.Proofs.Document
import Paging.Proofs.Token.RoundTrip
import Paging.Proofs.Catalog.Names
import Paging.Proofs.Criteria.Meaning
import Paging.Proofs.Walk.Backward
import Paging.Proofs.Query.Reads
import Paging.Proofs.Query.Alike
import Paging.Proofs.Query.LetterCase
import Paging.Proofs.Store.Limited
import Paging.Proofs.Criteria.Listed
import Paging.Proofs.Collection.Update
import Paging.Proofs.Engine.Handles
import Paging.Proofs.Number.Denoted
import Paging.Proofs.Query.Select
import Paging.Proofs.Collection.Fitting
import Paging.Proofs.Collection.Batch
import Paging.Proofs.Engine.Interrupted
import Paging.Proofs.Order.Clause
import Paging.Proofs.Predicate.Lexemes
import Paging.Proofs.Predicate.Reading
import Paging.Proofs.Query.Compiled
import Paging.Proofs.Predicate.Ternary
import Paging.Proofs.Order.Images
import Paging.Proofs.Query.Nulls
import Paging.Proofs.Catalog.Reordered
import Paging.Proofs.Page.Marks
import Paging.Proofs.EntityId.Base64
import Paging.Proofs.Json.Depth
import Paging.Proofs.Selection
import Paging.Proofs.Sort.Strict
