import AttestedImaging.Main
import AttestedImaging.Provider.Bench
import AttestedImaging.Provider.Fault
import AttestedImaging.Proofs.Bytes
import AttestedImaging.Proofs.Bundle
import AttestedImaging.Proofs.Bundle.NormalForm
import AttestedImaging.Proofs.Software
import AttestedImaging.Proofs.Invocation.Status
import AttestedImaging.Proofs.Invocation.Stages
import AttestedImaging.Proofs.Application.Atomicity
import AttestedImaging.Proofs.Application.Delivery
import AttestedImaging.Proofs.Application.Discipline
import AttestedImaging.Proofs.Application.Leaks
import AttestedImaging.Proofs.Attestation.Software
import AttestedImaging.Proofs.Application.Census
import AttestedImaging.Proofs.Application.Demand
import AttestedImaging.Proofs.PublicForm
import AttestedImaging.Proofs.Application.Verification
import AttestedImaging.Proofs.Blank
import AttestedImaging.Proofs.Pairing
import AttestedImaging.Proofs.Pairing.Attestation
import AttestedImaging.Proofs.Pairing.Invocation
import AttestedImaging.Proofs.Pairing.Application
import AttestedImaging.Proofs.Pairing.Software
import AttestedImaging.Proofs.Application.Secrecy
import AttestedImaging.Proofs.Application.History
import AttestedImaging.Proofs.Application.Archive
import AttestedImaging.Proofs.Application.Independence
import AttestedImaging.Proofs.Attestation.Keys
import AttestedImaging.Proofs.Application.Steps
import AttestedImaging.Proofs.Application.Keys
import AttestedImaging.Proofs.Application.Freshness
import AttestedImaging.Proofs.Application.Continuity
import AttestedImaging.Proofs.Bench
import AttestedImaging.Proofs.Software.Roles
import AttestedImaging.Proofs.Software.Signing
import AttestedImaging.Proofs.Software.Numbering
import AttestedImaging.Proofs.Software.Staleness
import AttestedImaging.Proofs.Attestation.Keyed
import AttestedImaging.Proofs.Invocation.Keyed
import AttestedImaging.Proofs.Application.Accounting
import AttestedImaging.Proofs.Application.Bookkeeping
import AttestedImaging.Proofs.Application.Exchange
import AttestedImaging.Proofs.Host.Run
import AttestedImaging.Proofs.Image.Bitmap
import AttestedImaging.Proofs.Image.File
import AttestedImaging.Proofs.Image.Pixel
import AttestedImaging.Proofs.Host.Arguments
import AttestedImaging.Proofs.Host.Attested
import AttestedImaging.Proofs.Host.Stored
import AttestedImaging.Proofs.Der
import AttestedImaging.Proofs.PublicForm.Signature
import AttestedImaging.Proofs.PublicForm.Point
import AttestedImaging.Proofs.Storage
import AttestedImaging.Proofs.Text.Decimal
import AttestedImaging.Proofs.Text.Trim
import AttestedImaging.Proofs.Config
import AttestedImaging.Proofs.Evidence
