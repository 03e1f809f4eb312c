import Attestation.Binary.Records
import Attestation.Fixture.KeyPair
import Attestation.Fixture.Scripted
import Attestation.Json.Records
import Attestation.Service.Script
import Attestation.Telemetry.Subscriber
import Attestation.Proofs.Stakes
import Attestation.Proofs.Acceptance
import Attestation.Proofs.Accounting
import Attestation.Fixture.SampleTask
import Attestation.Proofs.Certification
import Attestation.Proofs.Deadlines
import Attestation.Proofs.Arrivals
import Attestation.Proofs.Independence
import Attestation.Proofs.Scripts
import Attestation.Proofs.Validity
import Attestation.Proofs.Withdrawal
import Attestation.Proofs.ArrivalOrder
import Attestation.Proofs.Division
import Attestation.Proofs.Completion
import Attestation.Proofs.Pruning
import Attestation.Proofs.Initialization
import Attestation.Proofs.Conservation
import Attestation.Proofs.Separation
import Attestation.Proofs.Batches
import Attestation.Proofs.Encodings
import Attestation.Proofs.BinaryForms
import Attestation.Proofs.TextForms
import Attestation.Proofs.Registrations
import Attestation.Proofs.Queries
import Attestation.Proofs.Requirements
import Attestation.Proofs.Thresholds
import Attestation.Proofs.NumericOrder
