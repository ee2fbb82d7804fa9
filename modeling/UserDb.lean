import UserDb.Main
import UserDb.Row.Spelling
import UserDb.Session
import UserDb.Value
import UserDb.Proofs.Classification
import UserDb.Proofs.Recognition
import UserDb.Proofs.Grammar
import UserDb.Proofs.History
import UserDb.Proofs.Lines
import UserDb.Proofs.Transcript
import UserDb.Proofs.Crash
import UserDb.Proofs.Listing
import UserDb.Proofs.Quoting
import UserDb.Proofs.Continuation
import UserDb.Proofs.Answers
import UserDb.Proofs.Restore
import UserDb.Proofs.Effects
import UserDb.Proofs.Omission
import UserDb.Proofs.StoredRows
import UserDb.Proofs.Layout
import UserDb.Proofs.LogReading
import UserDb.Proofs.AuditTrail
import UserDb.Proofs.Blame
import UserDb.Proofs.Causes
import UserDb.Proofs.Decomposition
import UserDb.Proofs.CanonicalForm
import UserDb.Proofs.Agreement
import UserDb.Proofs.Snapshots
