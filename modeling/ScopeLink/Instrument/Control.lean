import ScopeLink.Instrument.Profile
import ScopeLink.Session.Exchange
/-!
# Controlling an instrument

Every operation here is one exchange of a session, under the time-out of its settings: a query
whose reply is read as text, or a command. Detection turns a failed identification into "no
profile"; every other failure is passed on.
-/

namespace ScopeLink.Instrument

/-- What an instrument is identified by (`IDN_QUERY`). -/
def identityQuery : String := "*IDN?"

/-- The longest replies that are read (`IDN_RESPONSE_LEN` and `STATE_RESPONSE_LEN`). -/
def identityRoom : Nat := 255
def statusRoom : Nat := 64

/-- The text of an answer, without the blanks and line ends around it. -/
def answerText (answer : Bytes) : Except InstrumentError String :=
  match Bytes.text? answer with
  | some text => .ok (String.ofList (Text.trimField text.toList))
  | none => .error .notText

/-- Asks `question` with room for `room` bytes of answer (`ask_text`), and reads the answer with
`interpret`. -/
def query {α : Type} (s : Session) (patience : Nat) (question : String) (room : Nat)
    (interpret : String → Except InstrumentError α) :
    Dialogue Port (Outcome InstrumentError α × Session) := do
  let r ← s.ask patience (Bytes.ofString question) (Bytes.zeros room) s.config.timeout
  let outcome := (r.outcome.mapError .session).andThen fun len =>
    (Outcome.ofExcept (answerText (r.output.take len))).andThen fun text =>
      .ofExcept (interpret text)
  return (outcome, r.session)

/-- Asks who the instrument is (`identify`). -/
def identify (s : Session) (patience : Nat) : Dialogue Port (Outcome InstrumentError Identity × Session) :=
  query s patience identityQuery identityRoom Identity.read

/-- The profile of the instrument (`detect`); none if it is not identified or no row matches. -/
def detect (s : Session) (patience : Nat) :
    Dialogue Port (Outcome InstrumentError (Option Profile) × Session) := do
  let (outcome, s) ← identify s patience
  let found := outcome.andThen fun identity =>
    .ok (matchProfile detectionTable identity.vendor identity.model)
  return (found.orElse none, s)

/-- Sends the command for `state` (`set_state`). It has been taken once the whole of it was written. -/
def setState (s : Session) (profile : Profile) (state : State) :
    Dialogue Port (Except InstrumentError Unit × Session) := do
  let command := Bytes.ofString (profile.command state)
  match ← s.write command s.config.timeout with
  | (.error e, s) => return (.error (.session e), s)
  | (.ok written, s) =>
    if written = command.length then return (.ok (), s)
    else return (.error (.shortWrite written command.length), s)

/-- Asks for the state and reads the reply (`get_state`). -/
def getState (s : Session) (patience : Nat) (profile : Profile) :
    Dialogue Port (Outcome InstrumentError State × Session) :=
  query s patience profile.status.query statusRoom profile.status.read

end ScopeLink.Instrument
