import ScopeLink.Wire.Frame
/-!
# Settings of a session

Sizes count bytes and times milliseconds. A buffer holds a header and a payload; less than a header
and one aligned word is of no use, so a size asked for below that is raised to it.
-/

namespace ScopeLink

/-- Which tags a reply may carry, apart from the complement being right (`TagPolicy`). -/
inductive TagPolicy where
  /-- Any tag. -/
  | complementOnly
  /-- The tag of the request it answers. -/
  | matchRequest
deriving DecidableEq, Repr

def TagPolicy.admits : TagPolicy → (tag request : UInt8) → Bool
  | .complementOnly, _, _ => true
  | .matchRequest, tag, request => tag == request

theorem TagPolicy.admits_self (policy : TagPolicy) (tag : UInt8) : policy.admits tag tag = true := by
  cases policy <;> simp [admits]

/-- The settings of a session (`SessionConfig`). -/
structure Config where
  /-- The size of the outbound and of the inbound buffer, header included. -/
  bufferSize : Nat := 256
  /-- How long each transfer of an instrument operation may take. -/
  timeout : Nat := 1000
  tagPolicy : TagPolicy := .complementOnly
deriving DecidableEq, Repr

namespace Config

/-- Room for a header and one aligned word. -/
def minBufferSize : Nat := Header.byteCount + Frame.alignment

/-- The settings with another buffer size, raised to the least one (`with_buffer_size`). -/
def withBufferSize (c : Config) (size : Nat) : Config :=
  { c with bufferSize := max size minBufferSize }

/-- The most payload one request asks for (`read_chunk_size`): what the buffer has room for, in aligned
words. -/
def chunk (c : Config) : Nat :=
  let room := c.bufferSize - Header.byteCount
  room - room % Frame.alignment

/-- A buffer of the least size or more has room for a chunk of at least one word. -/
theorem chunk_bounds {c : Config} (h : minBufferSize ≤ c.bufferSize) :
    Frame.alignment ≤ c.chunk ∧ Frame.alignment ∣ c.chunk ∧
      Header.byteCount + c.chunk ≤ c.bufferSize := by
  simp only [minBufferSize, chunk, Header.byteCount, Frame.alignment] at *
  refine ⟨by omega, ⟨(c.bufferSize - 12) / 4, by omega⟩, by omega⟩

end Config

end ScopeLink
