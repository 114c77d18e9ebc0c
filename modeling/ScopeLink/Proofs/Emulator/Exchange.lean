import ScopeLink.Emulator.Basic
import ScopeLink.Proofs.Client
/-!
# Exchanges with the emulator

What each operation of a session comes to when the port is the emulator: a message is executed if
it `Fits`, and leaves everything but the count of transfers alone otherwise (`run_write`); a read
takes the front of the queue, as much as the output has room for, in as many rounds as that takes
chunks (`run_read`), or times out on an empty queue (`run_read_of_empty`).

Host and device compute the length of a frame, the size of a chunk and the end of a message apart
from each other. The lemmas on `accept`, `bulkIn` and `acceptReply` are where they are shown to
agree; the induction over the rounds (`run_readRounds`) only adds up what each of them brings.
-/

namespace ScopeLink

namespace Emulator

/-! ## The device's side -/

section

variable {α : Type} (e : Emulator)

theorem run_maxPacket (f : Nat → Dialogue Port α) :
    (Port.maxPacket >>= f).run port e = (f e.maxPacket).run port e := rfl

theorem run_bulkOut (data : Bytes) (timeout : Nat) (f : Except TransferError Nat → Dialogue Port α) :
    (Port.bulkOut data timeout >>= f).run port e =
      (f (e.bulkOut data).1).run port (e.bulkOut data).2 := rfl

theorem run_bulkIn (room timeout : Nat) (f : Port.Delivery → Dialogue Port α) :
    (Port.bulkIn room timeout >>= f).run port e =
      (f ((e.bulkIn room).1.getD (.failed .stall))).run port (e.bulkIn room).2 := rfl

theorem run_controlIn (request : UInt8) (value : UInt16) (room timeout : Nat)
    (f : Port.Delivery → Dialogue Port α) :
    (Port.controlIn request value room timeout >>= f).run port e =
      (f (e.controlIn request room).1).run port (e.controlIn request room).2 := rfl

end

/-- The bytes that executing a message adds to the queue. -/
def replyTo (e : Emulator) (message : Bytes) : Bytes :=
  replyBytes (executeUnits e.identity.toList [] e.acquisition (units (Utf8.decodeLossy message))).1

theorem queue_receive (e : Emulator) (message : Bytes) :
    (e.receive message).queue = e.queue ++ e.replyTo message := rfl

/-- The payload of a frame that is no longer than a packet is executed, byte for byte. -/
theorem accept_message {e : Emulator} (tag : UInt8) {message : Bytes}
    (small : message.length < UInt32.size) (fits : Frame.len message.length ≤ e.maxPacket) :
    e.accept (Frame.message tag message) = some (e.receive message) := by
  have hsize : (UInt32.ofNat message.length).toNat = message.length := UInt32.toNat_ofNat_of_lt' small
  have hpayload : ((Frame.message tag message).drop Header.byteCount).take message.length = message :=
    Frame.payload_encode _ _
  unfold accept
  rw [Frame.decode_message]
  simp [Header.out, Header.tagged, Header.tagConsistent, Header.endOfMessage, Header.endOfMessageBit,
    hsize, hpayload, fits]

/-- A transfer longer than a packet is not taken. -/
theorem accept_of_long {e : Emulator} {data : Bytes} (long : e.maxPacket < data.length) :
    e.accept data = none := by
  unfold accept
  cases Header.decode data with
  | none => rfl
  | some h => simp [long]

theorem accept_request {e : Emulator} {tag : UInt8} {size : UInt32}
    (room : Header.byteCount ≤ e.maxPacket) :
    e.accept (Header.request tag size).encode =
      some { e with pending := some (tag, size.toNat) } := by
  have hids : ¬ Header.requestId = Header.outId := by decide
  unfold accept
  rw [Header.decode_encode]
  simp [Header.request, Header.tagged, Header.tagConsistent, hids, room]

theorem bulkOut_accepted {e e' : Emulator} {data : Bytes} (isOpen : e.isOpen = true)
    (h : { e with outCount := e.outCount + 1 }.accept data = some e') :
    e.bulkOut data = (.ok data.length, e') := by
  unfold bulkOut
  rw [if_pos isOpen]
  dsimp only
  rw [h]

theorem bulkOut_refused {e : Emulator} {data : Bytes} (isOpen : e.isOpen = true)
    (h : { e with outCount := e.outCount + 1 }.accept data = none) :
    e.bulkOut data = (.error .stall, { e with outCount := e.outCount + 1 }) := by
  unfold bulkOut
  rw [if_pos isOpen]
  dsimp only
  rw [h]

/-- The transfer that answers a request: as much of the queue as was asked for, in a frame of its
own that fits the room. -/
theorem bulkIn_answers {e : Emulator} {tag : UInt8} {requested room n : Nat} (isOpen : e.isOpen = true)
    (asked : e.pending = some (tag, requested)) (queued : e.queue ≠ [])
    (fits : Frame.len requested ≤ room) (hn : min requested e.queue.length = n) :
    e.bulkIn room =
      (some (.full (Frame.encode (Header.reply tag (UInt32.ofNat n) (n = e.queue.length)) (e.queue.take n))),
        { e with inCount := e.inCount + 1, pending := none, queue := e.queue.drop n }) := by
  have hpad := Frame.le_paddedLen requested
  have hroom : Header.byteCount + Frame.paddedLen requested ≤ room := fits
  have hmin : min requested (room - Header.byteCount) = requested := by omega
  have hlen : (e.queue.take n).length = n := by
    rw [List.length_take]
    omega
  have hfull : (Frame.encode (Header.reply tag (UInt32.ofNat n) (n = e.queue.length))
      (e.queue.take n)).length ≤ room := by
    rw [Frame.length_encode, hlen]
    exact Nat.le_trans (Frame.len_mono (by omega)) fits
  unfold bulkIn
  simp only [isOpen, asked, queued, if_true, if_false]
  rw [if_neg (by omega)]
  simp only [answerRequest, hmin, hn]
  rw [List.take_of_length_le hfull]

theorem bulkIn_of_empty {e : Emulator} (room : Nat) (isOpen : e.isOpen = true) (empty : e.queue = []) :
    e.bulkIn room =
      (some (.failed .timeout), { e with inCount := e.inCount + 1, pending := none }) := by
  unfold bulkIn
  cases hp : e.pending with
  | none => simp [isOpen]
  | some request => simp [isOpen, empty]

end Emulator

namespace Config

/-- How many rounds bring so many bytes: one for each whole chunk, and one for what is left over. -/
def rounds (c : Config) (n : Nat) : Nat := (n + (c.chunk - 1)) / c.chunk

theorem rounds_of_le {c : Config} {n : Nat} (pos : 0 < n) (le : n ≤ c.chunk) : c.rounds n = 1 := by
  rw [rounds, Nat.div_eq_iff (by omega)]
  omega

/-- The first round brings a chunk if there is more to bring than that. -/
theorem rounds_of_lt {c : Config} {n : Nat} (pos : 0 < c.chunk) (lt : c.chunk < n) :
    c.rounds n = c.rounds (n - c.chunk) + 1 := by
  rw [rounds, rounds, ← Nat.add_div_right _ pos]
  congr 1
  omega

end Config

namespace Session

variable {patience : Nat}

/-! ## A message -/

/-- `s'` differs from `s` in its latest tag and in what its buffers hold. -/
structure Alike (s s' : Session) : Prop extends Kept s s' where
  state : s'.state = s.state

theorem Alike.refl (s : Session) : Alike s s := ⟨.refl s, rfl⟩

theorem Alike.trans {s s' s'' : Session} (h : Alike s s') (h' : Alike s' s'') : Alike s s'' :=
  ⟨h.toKept.trans h'.toKept, h'.state.trans h.state⟩

theorem run_send_accepted {e e' : Emulator} {data : Bytes} {timeout : Nat} (isOpen : e.isOpen = true)
    (h : { e with outCount := e.outCount + 1 }.accept data = some e') :
    (send data timeout).run Emulator.port e = (.ok (), e') := by
  unfold send
  rw [Emulator.run_bulkOut, Emulator.bulkOut_accepted isOpen h]
  dsimp only
  rw [if_pos rfl]
  rfl

theorem run_send_refused {e : Emulator} {data : Bytes} {timeout : Nat} (isOpen : e.isOpen = true)
    (h : { e with outCount := e.outCount + 1 }.accept data = none) :
    (send data timeout).run Emulator.port e =
      (.error (.transport .stall), { e with outCount := e.outCount + 1 }) := by
  unfold send
  rw [Emulator.run_bulkOut, Emulator.bulkOut_refused isOpen h]
  rfl

/-- A message of `n` bytes gets through: the session is ready, and packet and buffer hold its frame. -/
def Fits (s : Session) (e : Emulator) (n : Nat) : Prop :=
  s.state = .ready ∧ Frame.len n ≤ e.maxPacket ∧ Frame.len n ≤ s.config.bufferSize

/-- What a write to the emulator comes to: the message is executed if it fits, and nothing but the
count of transfers changes otherwise. -/
theorem run_write {s : Session} {e : Emulator} (data : Bytes) (timeout : Nat) (sized : s.Sized)
    (small : s.config.bufferSize < UInt32.size) (isOpen : s.state = .ready → e.isOpen = true) :
    ∃ s', Alike s s' ∧
      ((Fits s e data.length ∧ (s.write data timeout).run Emulator.port e =
          ((.ok data.length, s'), { e with outCount := e.outCount + 1 }.receive data)) ∨
        (¬ Fits s e data.length ∧ ∃ err n, (s.write data timeout).run Emulator.port e =
          ((.error err, s'), { e with outCount := n }))) := by
  have hpad := Frame.le_paddedLen data.length
  have hlen : Frame.len data.length = Header.byteCount + Frame.paddedLen data.length := rfl
  rw [write_eq sized small, Emulator.run_maxPacket]
  by_cases hpacket : e.maxPacket < data.length + Header.byteCount
  · rw [if_pos hpacket]
    refine ⟨s, .refl s, .inr ⟨?_, _, e.outCount, rfl⟩⟩
    rintro ⟨-, hfits, -⟩
    omega
  rw [if_neg hpacket]
  by_cases closed : s.state ≠ .ready
  · rw [if_pos closed]
    exact ⟨s, .refl s, .inr ⟨fun hfits => closed hfits.1, _, e.outCount, rfl⟩⟩
  have ready : s.state = .ready := Decidable.not_not.mp closed
  rw [if_neg closed, sized.out]
  by_cases hbuffer : s.config.bufferSize < Frame.len data.length
  · rw [if_pos hbuffer]
    refine ⟨s, .refl s, .inr ⟨?_, _, e.outCount, rfl⟩⟩
    rintro ⟨-, -, hfits⟩
    omega
  rw [if_neg hbuffer]
  refine ⟨s.writing data, ⟨s.kept_writing data, rfl⟩, ?_⟩
  -- a frame longer than a packet is still sent if its padding makes it so, and the device stalls
  by_cases hframe : e.maxPacket < Frame.len data.length
  · refine .inr ⟨?_, .transport .stall, e.outCount + 1, ?_⟩
    · rintro ⟨-, hfits, -⟩
      omega
    · have hrefused : { e with outCount := e.outCount + 1 }.accept (Frame.message (Tag.next s.lastTag) data)
          = none := Emulator.accept_of_long (by rwa [Frame.length_message])
      rw [Dialogue.run_bind, run_send_refused (isOpen ready) hrefused]
      rfl
  · refine .inl ⟨⟨ready, by omega, by omega⟩, ?_⟩
    have haccepted := Emulator.accept_message (e := { e with outCount := e.outCount + 1 })
      (Tag.next s.lastTag) (show data.length < UInt32.size by omega) (show _ ≤ e.maxPacket by omega)
    rw [Dialogue.run_bind, run_send_accepted (isOpen ready) haccepted]
    rfl

/-! ## A reply -/

/-- The frame that carries a part of a reply is accepted, whatever the policy on tags. -/
theorem acceptReply_reply (policy : TagPolicy) (tag : UInt8) (last : Bool) {payload : Bytes}
    {requested remaining : Nat} (small : payload.length < UInt32.size)
    (hrequested : payload.length ≤ requested) (hremaining : payload.length ≤ remaining) :
    acceptReply policy tag requested remaining
        (Frame.encode (Header.reply tag (UInt32.ofNat payload.length) last) payload) =
      .ok (Header.reply tag (UInt32.ofNat payload.length) last) := by
  have hsize : (UInt32.ofNat payload.length).toNat = payload.length := UInt32.toNat_ofNat_of_lt' small
  have hpad := Frame.le_paddedLen payload.length
  have hconsistent := Header.tagConsistent_tagged Header.replyId tag (UInt32.ofNat payload.length)
    (if last then Header.endOfMessageBit else 0)
  unfold acceptReply
  rw [Frame.decode_encode, Frame.length_encode]
  dsimp only [Header.reply] at *
  rw [if_neg (by simp [Header.tagged]), hconsistent]
  simp only [Header.tagged, TagPolicy.admits_self, hsize, Frame.len]
  rw [if_neg (by simp), if_neg (by omega), if_neg (by omega), if_neg (by omega)]

/-- A frame that arrives whole is taken for what it carries. -/
theorem receiving_reply {r : Reading} {payload : Bytes} (last : Bool) (sized : r.session.Sized)
    (small : payload.length < UInt32.size) (h : payload.length ≤ r.requested) :
    ∃ s', Alike r.session s' ∧
      r.receiving (Frame.len r.requested)
          (.full (Frame.encode
            (Header.reply (Tag.next r.session.lastTag) (UInt32.ofNat payload.length) last) payload)) =
        (.ok last, { r with session := s' }.append payload) := by
  have hfits := Reading.len_requested_le sized
  have hremaining : r.requested ≤ r.remaining := Nat.min_le_left _ _
  have hsize : (Header.reply (Tag.next r.session.lastTag) (UInt32.ofNat payload.length) last).size.toNat
      = payload.length := UInt32.toNat_ofNat_of_lt' small
  have haccept := acceptReply_reply r.session.config.tagPolicy (Tag.next r.session.lastTag) last
    small h (Nat.le_trans h hremaining)
  generalize hframe : Frame.encode (Header.reply (Tag.next r.session.lastTag)
    (UInt32.ofNat payload.length) last) payload = frame at haccept ⊢
  have hle : frame.length ≤ Frame.len r.requested := by
    rw [← hframe, Frame.length_encode]
    exact Frame.len_mono h
  have hinto : ((Port.Delivery.full frame).into r.session.inBuf (Frame.len r.requested)).take frame.length
      = frame := by
    rw [Port.Delivery.into, Port.Delivery.full, List.take_of_length_le hle]
    exact Bytes.take_overlay (by omega)
  refine ⟨{ r.requesting with inBuf := (Port.Delivery.full frame).into r.session.inBuf (Frame.len r.requested) },
    ⟨r.kept_requesting _ (Port.Delivery.length_into _ _ _), rfl⟩, ?_⟩
  unfold Reading.receiving
  show (if _ < frame.length then _ else _) = _
  rw [if_neg (by rw [Port.Delivery.length_into]; omega), hinto]
  dsimp only
  rw [haccept]
  dsimp only
  rw [Header.endOfMessage_reply, hsize, ← hframe, Frame.payload_encode]

/-- What a round brings from an emulator with something queued: the front of the queue, and whether
that is all of it. -/
theorem run_round {r : Reading} {e : Emulator} {n : Nat} (timeout : Nat) (sized : r.session.Sized)
    (small : r.requested < UInt32.size) (isOpen : e.isOpen = true) (room : Header.byteCount ≤ e.maxPacket)
    (queued : e.queue ≠ []) (hn : min r.requested e.queue.length = n) :
    ∃ s', Alike r.session s' ∧ (round timeout r).run Emulator.port e =
      ((.ok (n = e.queue.length), { r with session := s' }.append (e.queue.take n)),
        { e with
          outCount := e.outCount + 1, inCount := e.inCount + 1, pending := none
          queue := e.queue.drop n }) := by
  have hfits := Reading.len_requested_le sized
  have hasked : (UInt32.ofNat r.requested).toNat = r.requested := UInt32.toNat_ofNat_of_lt' small
  have hlen : (e.queue.take n).length = n := by
    rw [List.length_take]
    omega
  obtain ⟨s', halike, hreceiving⟩ := receiving_reply (decide (n = e.queue.length)) sized
    (show (e.queue.take n).length < UInt32.size by omega)
    (show (e.queue.take n).length ≤ r.requested by omega)
  rw [hlen] at hreceiving
  have hanswer := Emulator.bulkIn_answers
    (e := { e with outCount := e.outCount + 1, pending := some (Tag.next r.session.lastTag, r.requested) })
    isOpen rfl queued (Nat.le_refl _) hn
  refine ⟨s', halike, ?_⟩
  rw [round_eq sized, Dialogue.run_bind, Reading.request,
    run_send_accepted isOpen (Emulator.accept_request room), hasked]
  dsimp only
  rw [Nat.min_eq_left hfits, Emulator.run_bulkIn, hanswer, Dialogue.run_done]
  dsimp only [Option.getD]
  rw [hreceiving]

/-- A round with nothing queued times out, and leaves no request behind. -/
theorem run_round_of_empty {r : Reading} {e : Emulator} (timeout : Nat) (sized : r.session.Sized)
    (isOpen : e.isOpen = true) (room : Header.byteCount ≤ e.maxPacket) (empty : e.queue = []) :
    ∃ s', Alike r.session s' ∧ (round timeout r).run Emulator.port e =
      ((.failed .timeout, { r with session := s' }),
        { e with outCount := e.outCount + 1, inCount := e.inCount + 1, pending := none }) := by
  have hanswer := Emulator.bulkIn_of_empty
    (e := { e with
      outCount := e.outCount + 1
      pending := some (Tag.next r.session.lastTag, (UInt32.ofNat r.requested).toNat) })
    (Frame.len r.requested) isOpen empty
  refine ⟨_, ⟨r.kept_requesting ((Port.Delivery.failed .timeout).into r.session.inBuf (Frame.len r.requested))
    (Port.Delivery.length_into _ _ _), rfl⟩, ?_⟩
  rw [round_eq sized, Dialogue.run_bind, Reading.request,
    run_send_accepted isOpen (Emulator.accept_request room)]
  dsimp only
  rw [Nat.min_eq_left (Reading.len_requested_le sized), Emulator.run_bulkIn, hanswer]
  rfl

theorem Reading.remaining_append {r : Reading} {payload : Bytes}
    (h : r.got + payload.length ≤ r.output.length) :
    (r.append payload).remaining = r.remaining - payload.length := by
  have hgot : (r.append payload).got = r.got + payload.length := rfl
  rw [remaining, remaining, length_append h, hgot]
  omega

/-- The front of a queue taken in two parts is the front taken at once, whatever became of the session
in between. -/
theorem Reading.append_front {r : Reading} (s' s'' : Session) {queue : Bytes} {n m : Nat}
    (hn : n ≤ queue.length) (hnm : n ≤ m) (fits : r.got + m ≤ r.output.length) :
    { { r with session := s' }.append (queue.take n) with session := s'' }.append
        ((queue.drop n).take (m - n)) =
      { r with session := s'' }.append (queue.take m) := by
  have hsplit : queue.take m = queue.take n ++ (queue.drop n).take (m - n) := by
    rw [← List.take_add]
    congr 1
    omega
  rw [hsplit]
  refine Reading.append_append (r := { r with session := s'' }) ?_
  rw [List.length_take, List.length_take]
  show r.got + min n queue.length + min (m - n) _ ≤ r.output.length
  omega

/-- Rounds with an emulator that has something queued bring the front of the queue, as much as the
output has room for: each of them brings a chunk, but for the last one. -/
theorem run_readRounds (timeout : Nat) :
    ∀ (rounds : Nat) {r : Reading} {e : Emulator} {m : Nat}, r.session.Sized → r.requested < UInt32.size →
      e.isOpen = true → Header.byteCount ≤ e.maxPacket → r.remaining ≤ rounds → 0 < m →
      min r.remaining e.queue.length = m →
      ∃ s', Alike r.session s' ∧ (readRounds timeout rounds r).run Emulator.port e =
        ((.ok (r.got + m), { r with session := s' }.append (e.queue.take m)),
          { e with
            outCount := e.outCount + r.session.config.rounds m
            inCount := e.inCount + r.session.config.rounds m
            pending := none, queue := e.queue.drop m })
  | rounds, r, e, m, sized, small, isOpen, room, enough, pos, hm => by
    have hremaining : r.remaining = r.output.length - r.got := rfl
    have hword := (Config.chunk_bounds sized.least).1
    have halign : Frame.alignment = 4 := rfl
    have hrequested : r.requested = min r.remaining r.session.config.chunk := rfl
    have queued : e.queue ≠ [] := List.ne_nil_of_length_pos (by omega)
    have full : ¬ r.output.length ≤ r.got := by omega
    cases rounds with
    | zero => omega
    | succ rounds =>
      obtain ⟨n, hn⟩ : ∃ n, min r.requested e.queue.length = n := ⟨_, rfl⟩
      have hlen : (e.queue.take n).length = n := by
        rw [List.length_take]
        omega
      obtain ⟨s', halike, hround⟩ := run_round timeout sized small isOpen room queued hn
      rw [readRounds_succ full, Dialogue.run_bind, hround]
      by_cases more : n < m
      · -- the round brings a chunk, and leaves something both to be read and in the queue
        have hchunk : n = r.session.config.chunk := by omega
        have hgot : ({ r with session := s' }.append (e.queue.take n)).got = r.got + n := by
          show r.got + (e.queue.take n).length = _
          rw [hlen]
        have hremaining' : ({ r with session := s' }.append (e.queue.take n)).remaining = r.remaining - n := by
          rw [Reading.remaining_append (by rw [hlen]; show r.got + n ≤ r.output.length; omega), hlen]
          rfl
        have hrequested' : ({ r with session := s' }.append (e.queue.take n)).requested ≤ r.requested := by
          show min _ s'.config.chunk ≤ _
          rw [hremaining', halike.config]
          omega
        have hleft : (e.queue.drop n).length = e.queue.length - n := List.length_drop
        obtain ⟨s'', halike', hrest⟩ := run_readRounds timeout rounds
          (r := { r with session := s' }.append (e.queue.take n))
          (e := { e with
            outCount := e.outCount + 1, inCount := e.inCount + 1, pending := none
            queue := e.queue.drop n })
          (m := m - n) (halike.sized sized) (by omega) isOpen room (by omega) (by omega)
          (show min _ (e.queue.drop n).length = m - n by omega)
        refine ⟨s'', halike.trans halike', ?_⟩
        rw [decide_eq_false (by omega)]
        refine hrest.trans ?_
        have hrounds : r.session.config.rounds m = s'.config.rounds (m - n) + 1 := by
          rw [halike.config, hchunk]
          exact Config.rounds_of_lt (by omega) (by omega)
        rw [Reading.append_front s' s'' (by omega) (by omega) (by omega), List.drop_drop, hgot, hrounds,
          Nat.add_assoc, show n + (m - n) = m by omega]
        show _ = (_, { e with outCount := _, inCount := _, pending := _, queue := _ })
        rw [Nat.add_comm (s'.config.rounds (m - n)), ← Nat.add_assoc, ← Nat.add_assoc]
        rfl
      · -- it brings all that is queued or all that there is room for
        have hnm : n = m := by omega
        have hrounds : r.session.config.rounds m = 1 := Config.rounds_of_le pos (by omega)
        subst hnm
        refine ⟨s', halike, ?_⟩
        rw [hrounds]
        have hgot : ({ r with session := s' }.append (e.queue.take n)).got = r.got + n := by
          show r.got + (e.queue.take n).length = _
          rw [hlen]
        by_cases last : n = e.queue.length
        · rw [decide_eq_true last]
          show ((Outcome.ok ({ r with session := s' }.append (e.queue.take n)).got, _), _) = _
          rw [hgot]
        · rw [decide_eq_false last]
          have hfull : ({ r with session := s' }.append (e.queue.take n)).output.length ≤
              ({ r with session := s' }.append (e.queue.take n)).got := by
            rw [Reading.length_append (by rw [hlen]; show r.got + n ≤ r.output.length; omega), hgot]
            show r.output.length ≤ _
            omega
          show (readRounds timeout rounds _).run _ _ = _
          rw [readRounds_of_full hfull, hgot]
          rfl

/-- A read of a queued reply takes the front of it, as much as the output has room for. -/
theorem run_read {s : Session} {e : Emulator} {m : Nat} {output : Bytes} (timeout : Nat) (sized : s.Sized)
    (small : min output.length s.config.chunk < UInt32.size) (ready : s.state = .ready)
    (isOpen : e.isOpen = true) (room : Header.byteCount ≤ e.maxPacket) (queued : e.queue ≠ [])
    (hasRoom : output ≠ []) (hm : min output.length e.queue.length = m) :
    ∃ s', Alike s s' ∧ (s.read patience output timeout).run Emulator.port e =
      (⟨.ok m, (Reading.append ⟨s', output, 0⟩ (e.queue.take m)).output, s'⟩,
        { e with
          outCount := e.outCount + s.config.rounds m, inCount := e.inCount + s.config.rounds m
          pending := none, queue := e.queue.drop m }) := by
  have hqueued : 0 < e.queue.length := List.length_pos_iff.mpr queued
  have houtput : 0 < output.length := List.length_pos_iff.mpr hasRoom
  obtain ⟨s', halike, hrun⟩ := run_readRounds timeout (output.length + patience)
    (r := ⟨s, output, 0⟩) sized small isOpen room (Nat.le_add_right _ _) (by omega) hm
  refine ⟨s', halike, ?_⟩
  unfold read
  rw [if_neg (not_not_intro ready), Dialogue.run_bind, hrun, Nat.zero_add]
  rfl

/-- A read with nothing queued times out, and leaves no request behind. -/
theorem run_read_of_empty {s : Session} {e : Emulator} {output : Bytes} (timeout : Nat)
    (sized : s.Sized) (ready : s.state = .ready) (isOpen : e.isOpen = true)
    (room : Header.byteCount ≤ e.maxPacket) (empty : e.queue = []) (hasRoom : output ≠ []) :
    ∃ s', Alike s s' ∧ (s.read patience output timeout).run Emulator.port e =
      (⟨.failed .timeout, output, s'⟩,
        { e with outCount := e.outCount + 1, inCount := e.inCount + 1, pending := none }) := by
  have hpos : 0 < output.length := List.length_pos_iff.mpr hasRoom
  obtain ⟨rounds, hrounds⟩ : ∃ n, output.length + patience = n + 1 :=
    ⟨output.length + patience - 1, by omega⟩
  have full : ¬ (⟨s, output, 0⟩ : Reading).output.length ≤ 0 := Nat.not_le.mpr hpos
  obtain ⟨s', halike, hround⟩ := run_round_of_empty (r := ⟨s, output, 0⟩) timeout sized isOpen room empty
  refine ⟨s', halike, ?_⟩
  unfold read
  rw [if_neg (not_not_intro ready), hrounds, readRounds_succ full, Dialogue.run_bind, Dialogue.run_bind,
    hround]
  rfl

end Session

end ScopeLink
