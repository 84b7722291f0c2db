import ApexQuant.Auth.Issuance
import ApexQuant.Config.Validators
import ApexQuant.Auth.Revocation
import ApexQuant.Auth.Tokens
import ApexQuant.Auth.EmergencyStop
import ApexQuant.Auth.SweepAccounting
import ApexQuant.Auth.Creation
import ApexQuant.Auth.StorageInvariants
import ApexQuant.Secrets.Policy
import ApexQuant.Secrets.Ledger
import ApexQuant.Secrets.Noninterference
import ApexQuant.Secrets.Races
import ApexQuant.Secrets.MirrorDrift
import ApexQuant.Flags.Conformance
import ApexQuant.Flags.Provider
import ApexQuant.Flags.Races
import ApexQuant.Versioning.Lifecycle
import ApexQuant.Audit.Windows
import ApexQuant.Audit.Storage
import ApexQuant.Audit.Delivery
import ApexQuant.Foundation.Disk
import ApexQuant.Migrations.Bookkeeping
import ApexQuant.Migrations.Discovery
import ApexQuant.Migrations.History
import ApexQuant.Migrations.Interleaving
import ApexQuant.Versioning.Identity
import ApexQuant.Backup.Retention
import ApexQuant.Backup.Bookkeeping
import ApexQuant.Backup.Confidentiality
import ApexQuant.Config.Canonical
import ApexQuant.Services.Validation
import ApexQuant.Foundation.Separators
import ApexQuant.Services.Registry
import ApexQuant.Services.Identity
import ApexQuant.Services.Heartbeats
import ApexQuant.Services.Contract
import ApexQuant.Foundation.Frames
import ApexQuant.Recovery.Scoring
import ApexQuant.Recovery.Verifier
import ApexQuant.Recovery.Drill
import ApexQuant.Recovery.Completion
import ApexQuant.Backup.RestoreGate
import ApexQuant.Locks.DistributedLock
import ApexQuant.Events.Outbox
import ApexQuant.Health.Checker
import ApexQuant.Environments.Runtime
import ApexQuant.Testing.Runner
import ApexQuant.Containers.Soundness
import ApexQuant.Gateway.Identity
import ApexQuant.Versioning.Compatibility
import ApexQuant.Migrations.Creation
import ApexQuant.Migrations.Statements
import ApexQuant.Auth.Rejections
import ApexQuant.Auth.RoundTrip
import ApexQuant.Backup.Selection
import ApexQuant.Secrets.Atomicity
import ApexQuant.Secrets.Loading
import ApexQuant.Recovery.Caps
import ApexQuant.Logging.Redaction
import ApexQuant.Tracing.Attributes
import ApexQuant.Tracing.Traceparent
import ApexQuant.Flags.Rollout
import ApexQuant.Migrations.Lines
import ApexQuant.Services.Normalisation
import ApexQuant.Health.Discovery
import ApexQuant.Auth.Denials
import ApexQuant.Migrations.Ledger
import ApexQuant.Backup.Integrity
import ApexQuant.Backup.Verified
import ApexQuant.Backup.Schedule
import ApexQuant.Recovery.Backups
import ApexQuant.Recovery.Plans
import ApexQuant.Audit.Draining
import ApexQuant.Migrations.ClickHouse
import ApexQuant.Versioning.Mirrors
import ApexQuant.Versioning.Attempts
