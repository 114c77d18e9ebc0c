import ScopeLink.Outcome
import ScopeLink.Session.Config
import ScopeLink.Session.Error
/-!
# Sessions

A session is the host's side of one attached instrument: where its life stands, the tag of its
latest transfer, and two buffers that transfers go through. It holds no port; each operation is a
dialogue with one, and gives the session after it.

Endpoints are open exactly while the session is ready. `start` and `stop` go between active and
ready, `unload` ends in `stopped`, which nothing leaves.
-/

namespace ScopeLink

namespace Session

/-- Where the life of a session stands (`SessionState`). -/
inductive State where
  /-- The interface is known, its endpoints are closed. -/
  | active
  /-- The endpoints are open. -/
  | ready
  /-- The interface is gone. -/
  | stopped
deriving DecidableEq, Repr

end Session

/-- A `Session` without its transport: settings, state, and the tag and buffers of its `Exchange`. -/
structure Session where
  config : Config
  state : Session.State
  /-- The tag of the latest transfer, 0 before the first. -/
  lastTag : UInt8
  outBuf : Bytes
  inBuf : Bytes
deriving DecidableEq, Repr

namespace Session

/-- An active session with empty buffers of at least the least size (`new`). -/
def new (config : Config) : Session :=
  let config := config.withBufferSize config.bufferSize
  { config, state := .active, lastTag := 0
    outBuf := Bytes.zeros config.bufferSize, inBuf := Bytes.zeros config.bufferSize }

/-- Opens the endpoints of an active session (`start`); a ready one is left alone. -/
def start (s : Session) : Dialogue Port (Except SessionError Unit × Session) :=
  match s.state with
  | .ready => return (.ok (), s)
  | .active => do
    match ← Port.openEndpoints with
    | .ok () => return (.ok (), { s with state := .ready })
    | .error e => return (.error (.ofTransfer e), s)
  | .stopped => return (.error .notReady, s)

/-- Closes the endpoints of a ready session (`stop`). -/
def stop (s : Session) : Dialogue Port Session :=
  match s.state with
  | .ready => do
    Port.closeEndpoints
    return { s with state := .active }
  | .active | .stopped => return s

/-- Closes the endpoints if they are open (`unload`); no exchange is possible from then on. -/
def unload (s : Session) : Dialogue Port Session := do
  let s ← s.stop
  return { s with state := .stopped }

/-- The end of a session: its endpoints are closed if they are open. -/
def drop (s : Session) : Dialogue Port Unit := do
  let _ ← s.stop
  return ()

@[simp] theorem new_lastTag (config : Config) : (new config).lastTag = 0 := rfl

theorem length_outBuf_new (config : Config) :
    (new config).outBuf.length = (new config).config.bufferSize := by simp [new]

theorem length_inBuf_new (config : Config) :
    (new config).inBuf.length = (new config).config.bufferSize := by simp [new]

theorem minBufferSize_le_new (config : Config) :
    Config.minBufferSize ≤ (new config).config.bufferSize := by
  simp only [new, Config.withBufferSize]
  exact Nat.le_max_right _ _

end Session

end ScopeLink
