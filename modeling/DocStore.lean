import DocStore.Cipher.Envelope
import DocStore.Config.Election
import DocStore.Config.Options
import DocStore.Config.Store
import DocStore.Database.Fault
import DocStore.Database.Play
import DocStore.Document.Codec
import DocStore.Document.Entry
import DocStore.Document.Typed
import DocStore.Election.Rehearsal
import DocStore.Json.Reader
import DocStore.KeyValue.Key
import DocStore.KeyValue.Store
import DocStore.Log
import DocStore.Pool.Rehearsal
import DocStore.Pool.Stats
import DocStore.Query.Plan
import DocStore.Session
import DocStore.Sql.Pattern
import DocStore.Sql.TableName
import DocStore.Table.Layout
import DocStore.Table.Provision
import DocStore.Text.Blank
import DocStore.Text.Cut
import DocStore.Text.Shown
import DocStore.Time.Duration
import DocStore.Proofs.Sql.Spacing
import DocStore.Proofs.Query.Command
import DocStore.Proofs.Query.Content
import DocStore.Proofs.Query.Quoting
import DocStore.Proofs.Query.Placeholder
import DocStore.Proofs.Sql.BoolExpr
import DocStore.Proofs.Query.Meaning
import DocStore.Proofs.Election.Contest
import DocStore.Proofs.Election.Reaction
import DocStore.Proofs.Election.Leadership
import DocStore.Proofs.Election.Conduct
import DocStore.Proofs.Election.Career
import DocStore.Proofs.Election.Callbacks
import DocStore.Proofs.Election.Freshness
import DocStore.Proofs.Election.Custody
import DocStore.Proofs.Election.Handover
import DocStore.Proofs.Election.RoundTrips
import DocStore.Proofs.Document.Counters
import DocStore.Proofs.Document.Remembering
import DocStore.Proofs.Query.Wire
import DocStore.Proofs.Query.Checking
import DocStore.Proofs.Pool.Closing
import DocStore.Proofs.Pool.Opening
import DocStore.Proofs.Pool.Accounts
import DocStore.Proofs.Document.Seeding
import DocStore.Proofs.Document.Scoped
import DocStore.Proofs.Query.Operands
import DocStore.Proofs.Query.Choice
import DocStore.Proofs.Query.Columns
import DocStore.Proofs.Query.Paths
import DocStore.Proofs.Query.Dotted
import DocStore.Proofs.Query.Moments
import DocStore.Proofs.Table.Naming
import DocStore.Proofs.Config.Masking
import DocStore.Proofs.Config.RoundTrip
import DocStore.Proofs.Cipher.Opening
import DocStore.Proofs.KeyValue.Starting
import DocStore.Proofs.KeyValue.Batch
import DocStore.Proofs.Document.Models
import DocStore.Proofs.Document.Versions
import DocStore.Proofs.Election.Held
import DocStore.Proofs.KeyValue.ReadingBack
import DocStore.Proofs.Pool.Replacing
import DocStore.Proofs.Document.LastSaved
