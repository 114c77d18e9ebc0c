import ScopeLink.Command.Arguments
import ScopeLink.Emulator.Basic
import ScopeLink.Instrument.Control
import ScopeLink.Session.Control
import ScopeLink.Usb.Link
/-!
# Carrying out a request

A task is carried out in a session that is started for it and stopped behind it. Tasks that change
the acquisition detect the instrument first; `toggle` asks for the state too, and stops an
acquisition that runs in either mode. What a task prints is printed when it has succeeded.

A request is carried out over a link to a device on a host, or over the emulated instrument, and
ends in a report: what is printed, and the failure if there was one.
-/

namespace ScopeLink.Command

inductive Failure where
  | noInstrument
  | discovery (error : DiscoveryError)
  | session (error : SessionError)
  | instrument (error : InstrumentError)
deriving DecidableEq, Repr

namespace Failure

def message : Failure → String
  | .noInstrument => "no supported instrument detected"
  | .discovery e => e.message
  | .session e => e.message
  | .instrument e => e.message

def cause : Failure → Option FramingError
  | .session e => e.cause
  | .instrument e => e.cause
  | _ => none

/-- The failure as it is reported, with its cause on a line of its own. -/
def report (f : Failure) : String :=
  "Error: " ++ f.message ++
    match f.cause with
    | some e => "\n\nCaused by:\n    " ++ e.message
    | none => ""

end Failure

/-- The capabilities, one to a line. -/
def printCapabilities (c : Capabilities) : String :=
  "Capabilities \x7b\n" ++
    s!"    bcd_version: {c.version.toNat},\n" ++
    s!"    accepts_indicator_pulse_request: {c.indicatorPulse},\n" ++
    s!"    is_talk_only: {c.talkOnly},\n" ++
    s!"    is_listen_only: {c.listenOnly},\n" ++
    s!"    supports_bulk_in_term_char: {c.termChar},\n" ++
    "\x7d"

/-! ## Tasks in a session -/

/-- What an operation comes to, and the session after it. -/
abbrev Performed (α : Type) := Outcome Failure α × Session

/-- Detects the instrument (`detect`), and goes on with its profile. -/
def withProfile {α : Type} (s : Session) (patience : Nat)
    (next : Session → Instrument.Profile → Dialogue Port (Performed α)) :
    Dialogue Port (Performed α) := do
  match ← Instrument.detect s patience with
  | (.ok (some profile), s) => next s profile
  | (.ok none, s) => return (.failed .noInstrument, s)
  | (.failed e, s) => return (.failed (.instrument e), s)
  | (.halted h, s) => return (.halted h, s)

/-- Asks for the state, and goes on with it. -/
def withState {α : Type} (s : Session) (patience : Nat) (profile : Instrument.Profile)
    (next : Session → Instrument.State → Dialogue Port (Performed α)) :
    Dialogue Port (Performed α) := do
  match ← Instrument.getState s patience profile with
  | (.ok state, s) => next s state
  | (.failed e, s) => return (.failed (.instrument e), s)
  | (.halted h, s) => return (.halted h, s)

/-- Brings the instrument into a state, and prints `output` once it has taken the command. -/
def change (s : Session) (profile : Instrument.Profile) (state : Instrument.State)
    (output : String) : Dialogue Port (Performed String) := do
  match ← Instrument.setState s profile state with
  | (.ok (), s) => return (.ok output, s)
  | (.error e, s) => return (.failed (.instrument e), s)

/-- The state that toggling leads to. -/
def toggled : Instrument.State → Instrument.State
  | .stopped => .running
  | .running | .single => .stopped

def askRoom : Nat := 4096

/-- The answer to a query as it is printed, without the blanks at its end. -/
def printAnswer (answer : Bytes) : String :=
  String.ofList (Text.trimEnd Text.isBlank (Utf8.decodeLossy answer)) ++ "\n"

/-- Carries out a task in a ready session (`execute`): what it prints. -/
def perform (s : Session) (patience : Nat) : Task → Dialogue Port (Performed String)
  | .identify => do
    let (outcome, s) ← Instrument.identify s patience
    return ((outcome.mapError .instrument).andThen fun i => .ok (i.print ++ "\n"), s)
  | .detect => withProfile s patience fun s profile => return (.ok (profile.name ++ "\n"), s)
  | .state => withProfile s patience fun s profile =>
    withState s patience profile fun s state => return (.ok (state.name ++ "\n"), s)
  | .run => withProfile s patience fun s profile => change s profile .running ""
  | .stop => withProfile s patience fun s profile => change s profile .stopped ""
  | .single => withProfile s patience fun s profile => change s profile .single ""
  | .toggle => withProfile s patience fun s profile =>
    withState s patience profile fun s state =>
      change s profile (toggled state) ((toggled state).name ++ "\n")
  | .pulse => do
    let outcome ← s.pulse
    return ((outcome.mapError .session).andThen fun _ => .ok "", s)
  | .caps => do
    let outcome ← s.capabilities
    return ((outcome.mapError .session).andThen fun c => .ok (printCapabilities c ++ "\n"), s)
  | .ask query => do
    let r ← s.ask patience (Bytes.ofString query) (Bytes.zeros askRoom) s.config.timeout
    let outcome := (r.outcome.mapError .session).andThen fun len =>
      .ok (printAnswer (r.output.take len))
    return (outcome, r.session)

/-- Starts a session, carries out a task in it, and stops it whatever the task came to (`drive`). -/
def drive (s : Session) (patience : Nat) (task : Task) : Dialogue Port (Outcome Failure String) := do
  match ← s.start with
  | (.error e, s) =>
    s.drop
    return .failed (.session e)
  | (.ok (), s) =>
    let (outcome, s) ← perform s patience task
    let s ← s.stop
    s.drop
    return outcome

/-! ## Requests -/

/-- The settings the options ask for. -/
def Options.config (o : Options) : Config :=
  { timeout := o.timeout.getD 1000
    tagPolicy := if o.strictTags then .matchRequest else .complementOnly }

/-- A line for each device. -/
def printDevices (found : List Usb.DeviceInfo) : String :=
  String.join (found.map fun d => d.print ++ "\n")

/-- Carries out a task over a link to the device that the options admit. -/
def performLinked {σ : Type} (host : Handler Usb.Host σ) (o : Options) (task : Task) (s : σ) :
    Outcome Failure String × σ :=
  match (Usb.connect o.filter).run host s with
  | (.failed e, s) => (.failed (.discovery e), s)
  | (.halted h, s) => (.halted h, s)
  | (.ok link, s) =>
    let driven := drive (Session.new o.config) Session.usualPatience task
    let (outcome, link, s) := driven.run (Usb.Link.port host) (link, s)
    (outcome, (link.drop.run host s).2)

/-- Carries out a request on a host (`main`, behind its arguments): what is printed, and the host after
it. -/
def carryOut {σ : Type} (host : Handler Usb.Host σ) (help : String) :
    Request → σ → Outcome Failure String × σ
  | .help, s => (.ok help, s)
  | .list, s =>
    match Usb.devices.run host s with
    | (.ok found, s) => (.ok (printDevices found), s)
    | (.error e, s) => (.failed (.discovery (.usb e)), s)
  | .perform o task, s =>
    if o.emulate then
      (((drive (Session.new o.config) Session.usualPatience task).run Emulator.port {}).1, s)
    else performLinked host o task s

end ScopeLink.Command
