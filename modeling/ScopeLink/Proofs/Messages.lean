import ScopeLink.Proofs.Assembly
import ScopeLink.Proofs.Tags
/-!
# Messages to the device

Of the frames that are sent, those that carry a message (`messages`), and the rule that a message goes into
one packet (`SinglePacket`).

A write asks for the packet size and decides by the length of the message without its padding whether it
sends it (`Admitted`); what it sends is padded. The two differ on a message that reaches into the last word
of a packet whose size is not a whole number of words (`Overlong`): its frame is sent and is longer than the
packet. Every other message keeps to the rule (`single_packet_iff`).
-/

namespace ScopeLink.Session

/-! ## Messages among the calls -/

/-- A frame that carries a message to the device. -/
def isMessage (frame : Bytes) : Bool := (Header.decode frame).any fun h => h.messageId == Header.outId

/-- The messages of the transfers out among these calls, whether or not they were taken. -/
def messages (log : List (Event Port)) : List Bytes := ((sentFrames log).filter isMessage).map payload

theorem messages_append (log log' : List (Event Port)) :
    messages (log ++ log') = messages log ++ messages log' := by
  rw [messages, sentFrames_append, List.filter_append, List.map_append]
  rfl

theorem isMessage_message (tag : UInt8) (data : Bytes) : isMessage (Frame.message tag data) = true := by
  simp [isMessage, Frame.decode_message, Header.out, Header.tagged]

theorem messages_message {tag : UInt8} {data : Bytes} (small : data.length < UInt32.size) :
    ([Frame.message tag data].filter isMessage).map payload = [data] := by
  have hsize : (UInt32.ofNat data.length).toNat = data.length := UInt32.toNat_ofNat_of_lt' small
  have hpayload : payload (Frame.message tag data) = data := by
    rw [payload, Frame.decode_message]
    show ((Frame.message tag data).drop Header.byteCount).take (UInt32.ofNat data.length).toNat = data
    rw [hsize]
    exact Frame.payload_encode _ _
  rw [List.filter_cons_of_pos (isMessage_message tag data), List.filter_nil, List.map_singleton, hpayload]

/-- The frames of a read are requests. -/
theorem not_isMessage_of_asking {log : List (Event Port)} (asking : ∀ event ∈ log, Asking event.call) :
    ∀ frame ∈ sentFrames log, isMessage frame = false := by
  intro frame hframe
  obtain ⟨⟨call, answer⟩, hevent, hcall⟩ := List.mem_filterMap.mp hframe
  have hasking := asking _ hevent
  cases call with
  | bulkOut data timeout =>
    obtain ⟨tag, size, rfl⟩ := hasking
    cases hcall
    simp [isMessage, Header.decode_encode, Header.request, Header.tagged, Header.requestId, Header.outId]
  | _ => cases hcall

/-- A read says nothing. -/
theorem messages_of_asking {log : List (Event Port)} (asking : ∀ event ∈ log, Asking event.call) :
    messages log = [] := by
  rw [messages, List.map_eq_nil_iff, List.filter_eq_nil_iff]
  intro frame hframe
  simp [not_isMessage_of_asking asking frame hframe]

/-! ## One write -/

/-- A write sends a message of `n` bytes to a port with packets of this size. -/
structure Admitted (s : Session) (packet n : Nat) : Prop where
  ready : s.state = .ready
  packet : n + Header.byteCount ≤ packet
  buffer : Frame.len n ≤ s.outBuf.length
  stated : n < UInt32.size

/-- A message that is admitted is sent in its frame, and any other one refused before that, for its length
if the session is ready. -/
theorem write_admitted (s : Session) (data : Bytes) (timeout : Nat) :
    (s.write data timeout).Always fun log r => ∃ packet : Nat,
      (Admitted s packet data.length ∧ ∃ answer, log = [⟨.maxPacket, packet⟩,
        ⟨.bulkOut (Frame.message (Tag.next s.lastTag) data) timeout, answer⟩]) ∨
      (¬ Admitted s packet data.length ∧ log = [⟨.maxPacket, packet⟩] ∧
        ∃ e, r.1 = .error e ∧ (s.state = .ready → ∃ limit, e = .tooLarge data.length limit)) := by
  unfold write
  rw [Port.maxPacket_bind]
  intro packet
  dsimp only
  split
  · rename_i hpacket
    refine ⟨packet, .inr ⟨fun admitted => ?_, rfl, _, rfl, fun _ => ⟨packet, rfl⟩⟩⟩
    exact Nat.not_le.mpr hpacket admitted.packet
  rename_i hpacket
  split
  · rename_i closed
    exact ⟨packet, .inr ⟨fun admitted => closed admitted.ready, rfl, _, rfl, fun ready => absurd ready closed⟩⟩
  rename_i ready
  split
  · rename_i hbuffer
    refine ⟨packet, .inr ⟨fun admitted => ?_, rfl, _, rfl, fun _ => ⟨_, rfl⟩⟩⟩
    exact Nat.not_le.mpr hbuffer admitted.buffer
  rename_i hbuffer
  split
  · rename_i hnone
    refine ⟨packet, .inr ⟨fun admitted => ?_, rfl, _, rfl, fun _ => ⟨packet, rfl⟩⟩⟩
    obtain hlarge | hlarge := Frame.write_eq_none_iff.mp hnone
    · exact hbuffer hlarge
    · exact Nat.not_le.mpr admitted.stated hlarge
  · rename_i n outBuf hsome
    have hstated : data.length < UInt32.size := by
      refine Nat.not_le.mp fun hlarge => ?_
      rw [Frame.write_eq_none_iff.mpr (.inr hlarge)] at hsome
      cases hsome
    have admitted : Admitted s packet data.length :=
      ⟨Decidable.not_not.mp ready, Nat.not_lt.mp hpacket, Nat.not_lt.mp hbuffer, hstated⟩
    rw [(Frame.write_eq_some hsome).1, Dialogue.always_bind]
    refine (send_transfer _ _).mono ?_
    rintro _ (e | u) ⟨answer, rfl⟩
    · exact ⟨packet, .inl ⟨admitted, answer, rfl⟩⟩
    · exact ⟨packet, .inl ⟨admitted, answer, rfl⟩⟩

/-- A write says what it is given, or nothing; if it succeeds, it has said it. -/
theorem write_messages (s : Session) (data : Bytes) (timeout : Nat) :
    (s.write data timeout).Always fun log r => messages log <+: [data] ∧
      ((∃ n, r.1 = .ok n) → messages log = [data]) := by
  refine (write_admitted s data timeout).mono ?_
  rintro log ⟨outcome, s'⟩ ⟨packet, ⟨admitted, answer, rfl⟩ | ⟨-, rfl, e, rfl, -⟩⟩
  · have hsaid : messages [⟨.maxPacket, packet⟩,
        ⟨.bulkOut (Frame.message (Tag.next s.lastTag) data) timeout, answer⟩] = [data] :=
      messages_message admitted.stated
    exact ⟨⟨[], by rw [hsaid, List.append_nil]⟩, fun _ => hsaid⟩
  · exact ⟨List.nil_prefix, nofun⟩

/-! ## One packet -/

/-- The calls made for a message, and their outcome, keep to one packet: no frame with a message is longer
than that, and a message with a longer frame is refused, with nothing asked but the size of the packet. -/
structure SinglePacket (packet : Nat) (data : Bytes) (log : List (Event Port))
    (outcome : Outcome SessionError Nat) : Prop where
  fits : ∀ frame ∈ sentFrames log, isMessage frame = true → frame.length ≤ packet
  refused : packet < Frame.len data.length → (∀ event ∈ log, event.call = .maxPacket) ∧
    ∃ limit, outcome = .failed (.tooLarge data.length limit)

/-- A message of `n` bytes is sent although its frame is longer than a packet. -/
def Overlong (s : Session) (packet n : Nat) : Prop := Admitted s packet n ∧ packet < Frame.len n

/-- There are such messages only where a packet ends within a word. -/
theorem exists_overlong_iff {s : Session} (sized : s.Sized) (ready : s.state = .ready) (packet : Nat) :
    (∃ n, Overlong s packet n) ↔ Header.byteCount ≤ packet ∧ ¬ Frame.alignment ∣ packet ∧
      packet - Header.byteCount < UInt32.size ∧
      Frame.len (packet - Header.byteCount) ≤ s.config.bufferSize := by
  rw [← sized.out]
  constructor
  · rintro ⟨n, admitted, hlong⟩
    have hpacket := admitted.packet
    have hbuffer := admitted.buffer
    have hstated := admitted.stated
    simp only [Frame.len, Frame.paddedLen, Frame.alignment, Header.byteCount, UInt32.size] at *
    exact ⟨by omega, by omega, by omega, by omega⟩
  · rintro ⟨hheader, hword, hstated, hbuffer⟩
    -- one byte in the last word is enough
    refine ⟨(packet - 12) / 4 * 4 + 1, ⟨ready, ?_, ?_, ?_⟩, ?_⟩
    all_goals
      simp only [Frame.len, Frame.paddedLen, Frame.alignment, Header.byteCount, UInt32.size] at *
      omega

/-- A read makes no calls but those it asks by. -/
theorem read_asking (patience : Nat) {s : Session} (sized : s.Sized) (output : Bytes) (timeout : Nat) :
    (s.read patience output timeout).Always fun log _ => ∀ event ∈ log, Asking event.call := by
  by_cases ready : s.state = .ready
  · exact (read_course patience sized ready output timeout).mono fun _ _ ⟨_, _, course, _⟩ => course.asking
  · unfold read
    rw [if_pos ready]
    exact nofun

/-- A message that is sent keeps to one packet if its frame does, whatever is asked behind it. -/
theorem singlePacket_of_sent {packet timeout : Nat} {tag : UInt8} {data : Bytes}
    {answer : Except TransferError Nat} {rest : List (Event Port)} {outcome : Outcome SessionError Nat}
    (asking : ∀ event ∈ rest, Asking event.call) :
    SinglePacket packet data
        ([⟨.maxPacket, packet⟩, ⟨.bulkOut (Frame.message tag data) timeout, answer⟩] ++ rest) outcome ↔
      ¬ packet < Frame.len data.length := by
  have hframes : sentFrames
      ([⟨.maxPacket, packet⟩, ⟨.bulkOut (Frame.message tag data) timeout, answer⟩] ++ rest) =
      Frame.message tag data :: sentFrames rest := rfl
  constructor
  · intro single
    have hfits := single.fits (Frame.message tag data) (by rw [hframes]; exact List.mem_cons_self)
      (isMessage_message tag data)
    rw [Frame.length_message] at hfits
    omega
  · intro hlong
    refine ⟨fun frame hframe hmessage => ?_, fun h => absurd h hlong⟩
    rw [hframes] at hframe
    obtain rfl | hrest := List.mem_cons.mp hframe
    · rw [Frame.length_message]
      omega
    · rw [not_isMessage_of_asking asking frame hrest] at hmessage
      cases hmessage

/-- One that is refused does so too. -/
theorem singlePacket_of_refused {packet limit : Nat} {data : Bytes} :
    SinglePacket packet data [⟨.maxPacket, packet⟩] (.failed (.tooLarge data.length limit)) := by
  refine ⟨nofun, fun _ => ⟨fun event hevent => ?_, limit, rfl⟩⟩
  rw [List.mem_singleton.mp hevent]

/-- Only a message that is admitted, and is longer in its frame than it seemed, breaks the rule. -/
theorem singlePacket_iff {s : Session} {packet : Nat} (timeout : Nat) (tag : UInt8) {data : Bytes}
    {log rest : List (Event Port)} {outcome : Outcome SessionError Nat}
    (asking : ∀ event ∈ rest, Asking event.call)
    (h : (Admitted s packet data.length ∧
        ∃ answer, log = [⟨.maxPacket, packet⟩, ⟨.bulkOut (Frame.message tag data) timeout, answer⟩]) ∨
      (¬ Admitted s packet data.length ∧ log = [⟨.maxPacket, packet⟩] ∧ rest = [] ∧
        ∃ limit, outcome = .failed (.tooLarge data.length limit))) :
    (∃ more, log ++ rest = ⟨.maxPacket, packet⟩ :: more) ∧
      (SinglePacket packet data (log ++ rest) outcome ↔ ¬ Overlong s packet data.length) := by
  obtain ⟨hadmitted, answer, rfl⟩ | ⟨hrefused, rfl, rfl, limit, rfl⟩ := h
  · refine ⟨⟨_, rfl⟩, (singlePacket_of_sent asking).trans ?_⟩
    simp [Overlong, hadmitted]
  · refine ⟨⟨[], rfl⟩, ?_⟩
    simp [Overlong, hrefused, singlePacket_of_refused]

theorem write_singlePacket {s : Session} (ready : s.state = .ready) (data : Bytes) (timeout : Nat) :
    (s.write data timeout).Always fun log r => ∃ packet : Nat,
      (∃ more, log = ⟨.maxPacket, packet⟩ :: more) ∧
      (SinglePacket packet data log (.ofExcept r.1) ↔ ¬ Overlong s packet data.length) := by
  refine (write_admitted s data timeout).mono ?_
  rintro log ⟨answer, s'⟩ ⟨packet, h⟩
  refine ⟨packet, ?_⟩
  rw [← List.append_nil log]
  refine singlePacket_iff timeout (Tag.next s.lastTag) nofun ?_
  obtain hsent | ⟨hrefused, hlog, e, rfl, hlimit⟩ := h
  · exact .inl hsent
  · obtain ⟨limit, rfl⟩ := hlimit ready
    exact .inr ⟨hrefused, hlog, rfl, limit, rfl⟩

theorem ask_singlePacket (patience : Nat) {s : Session} (sized : s.Sized) (ready : s.state = .ready)
    (query output : Bytes) (timeout : Nat) :
    (s.ask patience query output timeout).Always fun log r => ∃ packet : Nat,
      (∃ more, log = ⟨.maxPacket, packet⟩ :: more) ∧
      (SinglePacket packet query log r.outcome ↔ ¬ Overlong s packet query.length) := by
  unfold ask
  rw [Dialogue.always_bind]
  refine ((write_admitted s query timeout).and (write_written s query timeout)).mono ?_
  rintro log ⟨answer, s'⟩ ⟨⟨packet, h⟩, written⟩
  cases answer with
  | error e =>
    refine ⟨packet, singlePacket_iff timeout (Tag.next s.lastTag) nofun ?_⟩
    obtain hsent | ⟨hrefused, hlog, e, herror, hlimit⟩ := h
    · exact .inl hsent
    · cases herror
      obtain ⟨limit, rfl⟩ := hlimit ready
      exact .inr ⟨hrefused, hlog, rfl, limit, rfl⟩
  | ok n =>
    -- what is read behind a message that was sent is of no account
    refine (read_asking patience (written.kept.sized sized) output timeout).mono fun rest r asking => ?_
    refine ⟨packet, singlePacket_iff timeout (Tag.next s.lastTag) asking ?_⟩
    obtain hsent | ⟨-, -, e, herror, -⟩ := h
    · exact .inl hsent
    · cases herror

/-- **One packet for a message.** On any port, with packets of any size, writing a message or asking a
question keeps to one packet exactly if the message is not `Overlong`; and there is a message that is
exactly if the packet ends within a word and the buffer holds the frame that goes over it. -/
theorem single_packet_iff {σ : Type} (patience : Nat) (port : Handler Port σ) (x : σ) {s : Session}
    (sized : s.Sized) (ready : s.state = .ready) (timeout : Nat) :
    let packet := (port .maxPacket x).1
    (∀ data,
      let result := (s.write data timeout).run port.recorded (x, [])
      SinglePacket packet data result.2.2 (.ofExcept result.1.1) ↔ ¬ Overlong s packet data.length) ∧
    (∀ query output,
      let result := (s.ask patience query output timeout).run port.recorded (x, [])
      SinglePacket packet query result.2.2 result.1.outcome ↔ ¬ Overlong s packet query.length) ∧
    ((∃ n, Overlong s packet n) ↔ Header.byteCount ≤ packet ∧ ¬ Frame.alignment ∣ packet ∧
      packet - Header.byteCount < UInt32.size ∧
      Frame.len (packet - Header.byteCount) ≤ s.config.bufferSize) := by
  intro packet
  refine ⟨fun data => ?_, fun query output => ?_, exists_overlong_iff sized ready packet⟩
  · obtain ⟨calls, hlog, told, ⟨more, hmore⟩, hiff⟩ :=
      Dialogue.always_run (write_singlePacket ready data timeout) port x []
    rw [List.nil_append] at hlog
    obtain rfl : told = packet := Dialogue.first_answer (hlog.trans hmore)
    dsimp only
    rw [hlog]
    exact hiff
  · obtain ⟨calls, hlog, told, ⟨more, hmore⟩, hiff⟩ :=
      Dialogue.always_run (ask_singlePacket patience sized ready query output timeout) port x []
    rw [List.nil_append] at hlog
    obtain rfl : told = packet := Dialogue.first_answer (hlog.trans hmore)
    dsimp only
    rw [hlog]
    exact hiff

/-- Packets of whole words carry every message. -/
theorem single_packet_of_words :
    let s : Session := { new { bufferSize := 64 } with state := .ready }
    let script : Simulated.Script := { maxPacket := 64 }
    s.Sized ∧ s.state = .ready ∧ ∀ data,
      let result := (s.write data 50).run Simulated.Script.port.recorded (script, [])
      SinglePacket 64 data result.2.2 (.ofExcept result.1.1) := by
  intro s script
  have sized : s.Sized := (kept_state _ _).sized (sized_new _)
  obtain ⟨hwrite, -, hoverlong⟩ := single_packet_iff usualPatience Simulated.Script.port script sized rfl 50
  have hnone : ¬ ∃ n, Overlong s 64 n := fun h => (hoverlong.mp h).2.1 (by decide)
  exact ⟨sized, rfl, fun data => (hwrite data).mpr fun h => hnone ⟨_, h⟩⟩

/-- Five bytes fit into a packet of 18 bytes, and their frame of 20 is sent. -/
theorem overlong_frame_sent :
    let s : Session := { new {} with state := .ready }
    let script : Simulated.Script := { maxPacket := 18 }
    let data : Bytes := [65, 66, 67, 68, 69]
    let result := (s.write data 50).run Simulated.Script.port.recorded (script, [])
    (sentFrames result.2.2).map List.length = [20] ∧ Outcome.ofExcept result.1.1 = .ok 5 ∧
      ¬ SinglePacket 18 data result.2.2 (.ofExcept result.1.1) := by
  intro s script data result
  have hok : Outcome.ofExcept result.1.1 = .ok 5 := by decide +kernel
  refine ⟨by decide +kernel, hok, fun single => ?_⟩
  obtain ⟨-, limit, hlimit⟩ := single.refused (by decide)
  rw [hok] at hlimit
  cases hlimit

end ScopeLink.Session
