import PagedQuery.Config.Loading
import PagedQuery.Document.Store
import PagedQuery.Log.Logger
import PagedQuery.Proofs.Condition.Plain
import PagedQuery.Proofs.Projection.Plain
import PagedQuery.Proofs.Selection.Layout
import PagedQuery.Storage.Pool
import PagedQuery.Proofs.Selection.Alignment
import PagedQuery.Proofs.Condition.Shape
import PagedQuery.Proofs.Page.Bounds
import PagedQuery.Proofs.Selection.Shape
import PagedQuery.Proofs.Storage.Runs
import PagedQuery.Proofs.Document.Listing
import PagedQuery.Proofs.Document.Walk
import PagedQuery.Proofs.Document.Table
import PagedQuery.Proofs.Search.Grammar
import PagedQuery.Proofs.Search.Lexing
import PagedQuery.Proofs.Search.Meaning
import PagedQuery.Proofs.Selection.Meaning
import PagedQuery.Proofs.Storage.Replies
import PagedQuery.Proofs.Storage.Transaction
import PagedQuery.Proofs.Projection.Lookup
import PagedQuery.Proofs.Document.Columns
import PagedQuery.Proofs.Document.Storing
import PagedQuery.Proofs.Document.Exchange
import PagedQuery.Proofs.Search.Like
import PagedQuery.Proofs.Text.Blank
import PagedQuery.Proofs.Search.Rows
import PagedQuery.Proofs.Selection.Passing
import PagedQuery.Proofs.Document.Filtering
import PagedQuery.Proofs.Projection.Order
import PagedQuery.Proofs.Storage.SameTexts
import PagedQuery.Proofs.Document.Operation
import PagedQuery.Proofs.Document.Texts
import PagedQuery.Proofs.Document.Searching
import PagedQuery.Proofs.Storage.Failures
import PagedQuery.Proofs.Document.Errors
import PagedQuery.Proofs.Config.Layering
import PagedQuery.Proofs.Config.Variables
import PagedQuery.Proofs.Config.Loading
import PagedQuery.Proofs.Projection.Joins
import PagedQuery.Proofs.Page.Exact
import PagedQuery.Proofs.Page.Normal
import PagedQuery.Proofs.Search.Substring
import PagedQuery.Proofs.Sort.RoundTrip
import PagedQuery.Proofs.Page.RoundTrip
import PagedQuery.Proofs.Condition.Spelling
import PagedQuery.Proofs.Selection.NormalForm
import PagedQuery.Proofs.Selection.Ordering
