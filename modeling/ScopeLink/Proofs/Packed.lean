import ScopeLink.Session.Packed
import ScopeLink.Proofs.Client
/-!
# Packed sessions are sessions

A session with packed buffers makes the calls of the session it unpacks to, and is what that session becomes:
`unpack` goes through every operation. So what a port and a client see of a session does not depend on how
its buffers are kept, and a session with buffers of gigabytes can be run.
-/

namespace ScopeLink

/-- The header of a reply is read off its front. -/
theorem Header.decode_take (b : Bytes) : decode (b.take byteCount) = decode b := by
  have hlt : (b.take byteCount).length < byteCount ↔ b.length < byteCount := by
    rw [List.length_take]
    omega
  have hget {i : Nat} (hi : i < byteCount) : (b.take byteCount).getD i 0 = b.getD i 0 := by
    rw [List.getD_eq_getElem?_getD, List.getElem?_take_of_lt hi, List.getD_eq_getElem?_getD]
  have hsize : ((b.take byteCount).drop 4).take 4 = (b.drop 4).take 4 := by
    rw [List.drop_take, List.take_take]
    rfl
  unfold decode
  rw [hget (by decide), hget (by decide), hget (by decide), hget (by decide), hsize]
  by_cases hshort : b.length < byteCount
  · rw [if_pos (hlt.mpr hshort), if_pos hshort]
  · rw [if_neg (mt hlt.mp hshort), if_neg hshort]

namespace PackedSession

open Session (send)

/-- A result with the session behind it spelled out. -/
def spelled {α : Type} (p : α × PackedSession) : α × Session := (p.1, p.2.unpack)

theorem unpack_new (config : Config) : (new config).unpack = Session.new config := by
  simp [new, unpack, Session.new, Bytes.zeros]

/-! ## Opening and closing -/

theorem unpack_start (s : PackedSession) : spelled <$> s.start = s.unpack.start := by
  obtain ⟨config, state, lastTag, outBuf, inBuf⟩ := s
  cases state with
  | ready => rfl
  | stopped => rfl
  | active =>
    show Dialogue.call (I := Port) _ _ = .call _ _
    congr 1
    funext answer
    cases answer <;> rfl

theorem unpack_stop (s : PackedSession) : unpack <$> s.stop = s.unpack.stop := by
  obtain ⟨config, state, lastTag, outBuf, inBuf⟩ := s
  cases state <;> rfl

theorem unpack_unload (s : PackedSession) : unpack <$> s.unload = s.unpack.unload := by
  obtain ⟨config, state, lastTag, outBuf, inBuf⟩ := s
  cases state <;> rfl

theorem unpack_drop (s : PackedSession) : s.drop = s.unpack.drop := by
  obtain ⟨config, state, lastTag, outBuf, inBuf⟩ := s
  cases state <;> rfl

/-- Class requests make no use of the buffers. -/
theorem control_bare {α : Type} (s : PackedSession) (request : UInt8) (room : Nat)
    (decode : Bytes → Except SessionError α) :
    s.bare.control request room decode = s.unpack.control request room decode := rfl

/-! ## Writing -/

theorem writeFrame_bytes (buffer : Packed) (tag : UInt8) (payload : Bytes) :
    Frame.write buffer.bytes tag payload =
      (buffer.writeFrame tag payload).map fun p => (p.1, p.2.bytes) := by
  unfold Frame.write Packed.writeFrame
  rw [Packed.length_bytes]
  split
  · rfl
  · simp

theorem unpack_write (s : PackedSession) (data : Bytes) (timeout : Nat) :
    spelled <$> s.write data timeout = s.unpack.write data timeout := by
  unfold write Session.write
  rw [map_bind]
  congr 1
  funext max
  have hlen : s.unpack.outBuf.length = s.outBuf.length := Packed.length_bytes _
  have hstate : s.unpack.state = s.state := rfl
  have hframe : Frame.write s.unpack.outBuf (Tag.next s.unpack.lastTag) data =
      (s.outBuf.writeFrame (Tag.next s.lastTag) data).map fun p => (p.1, p.2.bytes) :=
    writeFrame_bytes s.outBuf (Tag.next s.lastTag) data
  rw [hlen, hstate]
  split; · rfl
  split; · rfl
  split; · rfl
  dsimp only
  rw [hframe]
  cases s.outBuf.writeFrame (Tag.next s.lastTag) data with
  | none => rfl
  | some framed =>
    obtain ⟨len, outBuf⟩ := framed
    dsimp only [Option.map]
    rw [map_bind, Packed.bytes_take]
    congr 1
    funext answer
    cases answer <;> rfl

/-! ## Reading -/

theorem acceptHeader_eq (policy : TagPolicy) (requestTag : UInt8) (requested remaining : Nat) (reply : Packed) :
    acceptHeader policy requestTag requested remaining (Header.decode (reply.take Header.byteCount).bytes)
      reply.length = Session.acceptReply policy requestTag requested remaining reply.bytes := by
  rw [Packed.bytes_take, Header.decode_take, ← Packed.length_bytes]
  rfl

namespace Reading

theorem remaining_unpack (r : Reading) : r.unpack.remaining = r.remaining := by
  rw [Session.Reading.remaining, remaining, unpack, Packed.length_bytes]

theorem requested_unpack (r : Reading) : r.unpack.requested = r.requested := by
  rw [Session.Reading.requested, remaining_unpack]
  rfl

theorem unpack_append (r : Reading) (payload : Packed) :
    (r.append payload).unpack = r.unpack.append payload.bytes := by
  simp [append, unpack, Session.Reading.append]

end Reading

/-- A result with the read behind it spelled out. -/
def spelledReading {α : Type} (p : α × Reading) : α × Session.Reading := (p.1, p.2.unpack)

theorem unpack_round (timeout : Nat) (r : Reading) :
    spelledReading <$> round timeout r = Session.round timeout r.unpack := by
  have hconfig : r.unpack.session.config = r.session.config := rfl
  have htag : r.unpack.session.lastTag = r.session.lastTag := rfl
  have hroom : r.unpack.session.inBuf.length = r.session.inBuf.length := Packed.length_bytes _
  have hout (front : Bytes) :
      r.unpack.session.outBuf.overlay front = (r.session.outBuf.overlay (.ofBytes front)).bytes := by
    rw [Packed.bytes_overlay, Packed.bytes_ofBytes]
    rfl
  have hin (delivery : Port.Delivery) (room : Nat) : delivery.into r.unpack.session.inBuf room =
      (r.session.inBuf.overlay (.ofBytes (delivery.written.take room))).bytes := by
    rw [Packed.bytes_overlay, Packed.bytes_ofBytes]
    rfl
  unfold round Session.round
  dsimp only
  rw [map_bind, r.requested_unpack, r.remaining_unpack, htag, hout, ← Packed.bytes_take]
  generalize r.session.outBuf.overlay _ = outBuf
  congr 1
  funext answer
  cases answer with
  | error e => rfl
  | ok u =>
    dsimp only
    rw [map_bind, hroom]
    congr 1
    funext delivery
    rw [hin]
    generalize r.session.inBuf.overlay _ = inBuf
    cases delivery.count with
    | error e => rfl
    | ok received =>
      dsimp only
      rw [Packed.length_bytes]
      split; · rfl
      rw [acceptHeader_eq, Packed.bytes_take, hconfig]
      cases Session.acceptReply r.session.config.tagPolicy (Tag.next r.session.lastTag) r.requested
          r.remaining (inBuf.bytes.take received) with
      | error e => rfl
      | ok h =>
        dsimp only
        rw [← Packed.bytes_take, ← Packed.bytes_drop, ← Packed.bytes_take]
        exact congrArg (fun r' => Dialogue.done (Outcome.ok h.endOfMessage, r')) (Reading.unpack_append _ _)

theorem unpack_readRounds (timeout : Nat) : ∀ (rounds : Nat) (r : Reading),
    spelledReading <$> readRounds timeout rounds r = Session.readRounds timeout rounds r.unpack
  | rounds, r => by
    have hlen : r.unpack.output.length = r.output.length := Packed.length_bytes _
    have hgot : r.unpack.got = r.got := rfl
    unfold readRounds Session.readRounds
    rw [hlen, hgot]
    split; · rfl
    cases rounds with
    | zero => rfl
    | succ rounds =>
      dsimp only
      rw [map_bind, ← unpack_round, bind_map_left]
      congr 1
      funext p
      obtain ⟨outcome, r'⟩ := p
      cases outcome with
      | failed e => rfl
      | halted h => rfl
      | ok last =>
        cases last with
        | true => rfl
        | false => exact unpack_readRounds timeout rounds r'

theorem unpack_read (s : PackedSession) (patience : Nat) (output : Packed) (timeout : Nat) :
    ReadResult.unpack <$> s.read patience output timeout = s.unpack.read patience output.bytes timeout := by
  unfold read Session.read
  have hstate : s.unpack.state = s.state := rfl
  rw [hstate, Packed.length_bytes]
  split; · rfl
  show _ = Session.readRounds timeout (output.length + patience) (Reading.unpack ⟨s, output, 0⟩) >>= _
  rw [← unpack_readRounds, map_bind, bind_map_left]
  rfl

theorem unpack_ask (s : PackedSession) (patience : Nat) (query : Bytes) (output : Packed) (timeout : Nat) :
    ReadResult.unpack <$> s.ask patience query output timeout =
      s.unpack.ask patience query output.bytes timeout := by
  unfold ask Session.ask
  rw [map_bind, ← unpack_write, bind_map_left]
  congr 1
  funext p
  obtain ⟨outcome, s'⟩ := p
  cases outcome with
  | error e => rfl
  | ok n => exact unpack_read s' patience output timeout

/-! ## Runs -/

/-- What a read of a packed session comes to on a port, and what it does to the port, is what the read of the
session it unpacks to does. -/
theorem run_read {σ : Type} (port : Handler Port σ) (x : σ) (s : PackedSession) (patience : Nat)
    (output : Packed) (timeout : Nat) :
    (s.unpack.read patience output.bytes timeout).run port x =
      (((s.read patience output timeout).run port x).1.unpack,
        ((s.read patience output timeout).run port x).2) := by
  rw [← unpack_read, Dialogue.map_def, Dialogue.run_bind]
  rfl

end PackedSession

end ScopeLink
