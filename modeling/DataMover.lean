import DataMover.Transition
import DataMover.Runs.Table
import DataMover.Runs.Reconciliation
import DataMover.Auth.Family
import DataMover.Compute.Attempts
import DataMover.Compute.Coordination
import DataMover.Compute.Deduplication
import DataMover.Compute.Waiting
import DataMover.Engine.Attachment
import DataMover.Engine.Connectors
import DataMover.Engine.Exposure
import DataMover.Engine.Safety
import DataMover.Engine.Uncertainty
import DataMover.Publication.Fence
import DataMover.Runs.Admission
import DataMover.Runs.Janitor
import DataMover.Runs.Wakeups
import DataMover.Auth.Administration
import DataMover.Auth.Capabilities
import DataMover.Auth.Invitations
import DataMover.Auth.Enrollment
import DataMover.Auth.Safety
import DataMover.Auth.RateLimits
import DataMover.Auth.Lockout
import DataMover.Email.Attempts
import DataMover.Engine.Keys
import DataMover.Engine.Labels
import DataMover.Runs.EventCounting
import DataMover.Runs.EventDelivery
import DataMover.Runtime.LegacySlot
import DataMover.Runtime.Ownership
import DataMover.Csv.Inference
import DataMover.Csv.Profiles
import DataMover.Interference
import DataMover.Postgres.Copy
import DataMover.Postgres.DecimalColumns
import DataMover.Postgres.Sequences
import DataMover.Publication.TableIdentity
import DataMover.Readiness.GuardedSchema
import DataMover.Engine.DecimalCasts
import DataMover.Csv.Agreement
import DataMover.Engine.Batches
import DataMover.Engine.SpoolRecords
import DataMover.Connections.Health
import DataMover.Foundry.Sensitivity
import DataMover.Foundry.Staging
import DataMover.Foundry.Markers
import DataMover.Redaction
import DataMover.Emulator.Rehearsal
import DataMover.Databricks.Exclusion
