import TypedStore.Context.Basic
import TypedStore.Dependencies
import TypedStore.Settings.Reader
import TypedStore.Proofs.Query.Shortcut
import TypedStore.Proofs.Context.Freshness
import TypedStore.Proofs.Context.Confinement
import TypedStore.Proofs.Store.Past
import TypedStore.Proofs.Store.Views
import TypedStore.Proofs.Store.Resolution
import TypedStore.Proofs.Store.Provenance
import TypedStore.Proofs.Query.Identity
import TypedStore.Proofs.Query.Failure
import TypedStore.Proofs.Context.Refresh
import TypedStore.Proofs.Filter.Leaf
import TypedStore.Proofs.Filter.Spelling
import TypedStore.Proofs.Store.Interleaving
import TypedStore.Proofs.Query.Isolation
import TypedStore.Proofs.Query.Discipline
import TypedStore.Proofs.Journal.Lines
import TypedStore.Proofs.Query.Planning
import TypedStore.Proofs.Context.Accounts
import TypedStore.Proofs.Context.Observation
import TypedStore.Proofs.Json.Reached
import TypedStore.Proofs.Query.Sorting
import TypedStore.Proofs.Query.ScanOrder
import TypedStore.Proofs.Filter.Range
import TypedStore.Proofs.Filter.Grammar
import TypedStore.Proofs.Filter.Sameness
import TypedStore.Proofs.Index.Sharing
import TypedStore.Proofs.Query.Flattening
import TypedStore.Proofs.Node.Edits
import TypedStore.Proofs.Journal.Reading
import TypedStore.Proofs.Context.Scopes
import TypedStore.Proofs.Pattern.Operand
import TypedStore.Proofs.Query.SortAgreement
import TypedStore.Proofs.Index.Place
