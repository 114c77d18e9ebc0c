import ScopeLink.Main
import ScopeLink.Simulated.Script
import ScopeLink.Proofs.Client
import ScopeLink.Proofs.Tags
import ScopeLink.Proofs.Emulator.Exchange
import ScopeLink.Proofs.Emulator.Answers
import ScopeLink.Proofs.Emulator.Acquisition
import ScopeLink.Proofs.Usb.Claims
import ScopeLink.Proofs.Lifecycle
import ScopeLink.Proofs.Usb.Resources
import ScopeLink.Proofs.Rounds
import ScopeLink.Proofs.Strictness
import ScopeLink.Proofs.Residue
import ScopeLink.Proofs.Emulator.Deliveries
import ScopeLink.Proofs.Bounds
import ScopeLink.Proofs.Emulator.Conservation
import ScopeLink.Proofs.Assembly
import ScopeLink.Proofs.Command.Changes
import ScopeLink.Proofs.Usb.Scans
import ScopeLink.Proofs.Emulator.Asides
import ScopeLink.Proofs.Emulator.Chunking
import ScopeLink.Proofs.Duration
import ScopeLink.Proofs.Emulator.Compound
import ScopeLink.Proofs.Writes
import ScopeLink.Proofs.Usb.Endpoints
import ScopeLink.Proofs.Usb.Opening
import ScopeLink.Proofs.Emulator.Detection
import ScopeLink.Proofs.Fields
import ScopeLink.Proofs.Instrument.Reports
import ScopeLink.Proofs.Instrument.Identity
import ScopeLink.Proofs.Frames
import ScopeLink.Proofs.Emulator.Identification
import ScopeLink.Packed
import ScopeLink.Proofs.Packed
import ScopeLink.Proofs.Requests
