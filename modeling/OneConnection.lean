import OneConnection.Inspect
import OneConnection.Operation
import OneConnection.Settings.Document
import OneConnection.Settings.Environment
import OneConnection.Value.Document
import OneConnection.Proofs.Conservation
import OneConnection.Proofs.Deferred.Answers
import OneConnection.Proofs.Sql.Binding
import OneConnection.Proofs.Deferred.RoundTrips
import OneConnection.Proofs.Readers.Moving
import OneConnection.Proofs.Agreement.Erasing
import OneConnection.Proofs.Agreement.Operations
import OneConnection.Proofs.Agreement.Prompt
import OneConnection.Proofs.Agreement.Runs
import OneConnection.Proofs.Batches.Verification
import OneConnection.Proofs.Batches.Additions
import OneConnection.Proofs.Batches.Emptying
import OneConnection.Proofs.Lending.Runs
import OneConnection.Proofs.Sql.Placing
import OneConnection.Proofs.Readers.Tracking
import OneConnection.Proofs.Deferred.Counting
import OneConnection.Proofs.Deferred.Refused
import OneConnection.Proofs.Failures.Naming
import OneConnection.Proofs.Readers.Accounts
import OneConnection.Proofs.Logging.Runs
import OneConnection.Proofs.Statistics.Runs
import OneConnection.Proofs.Deferred.Limits
import OneConnection.Proofs.Logging.Announcing
import OneConnection.Proofs.Logging.Transcripts
import OneConnection.Proofs.Readers.Cuts
import OneConnection.Proofs.Batches.Partition
import OneConnection.Proofs.Sql.Endings
import OneConnection.Proofs.Dispatch.Chains
import OneConnection.Proofs.Settings.RoundTrips
import OneConnection.Proofs.Logging.Lines
import OneConnection.Proofs.Sql.Renumbering
import OneConnection.Proofs.Deferred.Cacheability
import OneConnection.Proofs.Failures.Sharing
