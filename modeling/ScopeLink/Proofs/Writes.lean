import ScopeLink.Proofs.Messages
/-!
# Writes

All that a write can come to. A message is `Refused`, for the first of three reasons that holds, before
anything has changed; or it goes out `Framed`, in one transfer, and has been written if the transfer reports
all of the frame (`Attempt`). An operation that begins with a write stands on it: setting the state of an
instrument succeeds when its command was written (`run_setState`), and asking ends with a query that was not
(`run_ask_of_unwritten`).
-/

namespace ScopeLink.Session

/-! ## Refusals -/

/-- Why a message of `n` bytes is refused for packets of this size. Each reason counts only where the ones
before it do not hold. -/
inductive Refused (s : Session) (packet n : Nat) : SessionError → Prop
  | packet : packet < Header.byteCount + n → Refused s packet n (.tooLarge n packet)
  | closed : Header.byteCount + n ≤ packet → s.state ≠ .ready → Refused s packet n .notReady
  | buffer : Header.byteCount + n ≤ packet → s.state = .ready → s.config.bufferSize < Frame.len n →
    Refused s packet n (.tooLarge n s.config.bufferSize)

theorem Refused.unique {s : Session} {packet n : Nat} {e e' : SessionError} (h : Refused s packet n e)
    (h' : Refused s packet n e') : e = e' := by
  cases h <;> cases h' <;> first | rfl | contradiction | omega

/-! ## Frames -/

/-- The frame carries the data: behind the header, which has the id of a message, the tag with its
complement, the size of the data, the mark of the end and zeros where it is reserved, stand the data and
zeros up to the next whole word. -/
def Framed (tag : UInt8) (data frame : Bytes) : Prop :=
  ∃ size : Bytes, ∃ padding : Nat,
    frame = [1, tag, ~~~tag, 0] ++ size ++ [1, 0, 0, 0] ++ data ++ Bytes.zeros padding ∧
    size.length = 4 ∧ Bytes.ofLittleEndian size = data.length ∧ padding < 4 ∧ 4 ∣ frame.length

theorem framed_message (tag : UInt8) {data : Bytes} (small : data.length < UInt32.size) :
    Framed tag data (Frame.message tag data) := by
  have hsize : (UInt32.ofNat data.length).toNat = data.length := UInt32.toNat_ofNat_of_lt' small
  refine ⟨Bytes.littleEndian 4 data.length, Frame.paddedLen data.length - data.length, ?_,
    Bytes.length_littleEndian 4 _, ?_, ?_, ?_⟩
  · simp [Frame.message, Frame.encode, Header.encode, Header.out, Header.tagged, Header.outId,
      Header.endOfMessageBit, Tag.complement, hsize]
  · rw [Bytes.ofLittleEndian_littleEndian_four]
    exact Nat.mod_eq_of_lt small
  · simp only [Frame.paddedLen, Frame.alignment]
    omega
  · rw [Frame.length_message, Frame.len]
    exact Nat.dvd_add (by decide) (Frame.alignment_dvd_paddedLen _)

/-- A frame that carries a message asks for nothing. -/
theorem Framed.not_asking {tag : UInt8} {data frame : Bytes} (framed : Framed tag data frame)
    (timeout : Nat) : ¬ Asking (.bulkOut frame timeout) := by
  rintro ⟨tag', size', hrequest⟩
  obtain ⟨size, padding, rfl, -⟩ := framed
  simp [Header.encode, Header.request, Header.tagged, Header.requestId] at hrequest

/-! ## One write -/

/-- The calls of a write, its outcome and the session it leaves. -/
inductive Attempt (s : Session) (packet : Nat) (data : Bytes) (timeout : Nat) :
    List (Event Port) → Except SessionError Nat × Session → Prop
  | refused {e} : Refused s packet data.length e →
    Attempt s packet data timeout [⟨.maxPacket, packet⟩] (.error e, s)
  | sent {frame answer} : (∀ e, ¬ Refused s packet data.length e) →
    Framed (Tag.next s.lastTag) data frame →
    Attempt s packet data timeout [⟨.maxPacket, packet⟩, ⟨.bulkOut frame timeout, answer⟩]
      ((sending frame.length answer).map fun _ => data.length, s.writing data)

theorem write_attempt {s : Session} (sized : s.Sized) (small : s.config.bufferSize < UInt32.size)
    (data : Bytes) (timeout : Nat) :
    (s.write data timeout).Always fun log r => ∃ packet, Attempt s packet data timeout log r := by
  rw [write_eq sized small, Port.maxPacket_bind, Dialogue.always_call]
  intro packet
  rw [sized.out]
  split
  · rename_i hpacket
    exact ⟨packet, .refused (.packet (by omega))⟩
  rename_i hpacket
  split
  · rename_i closed
    exact ⟨packet, .refused (.closed (by omega) closed)⟩
  rename_i ready
  split
  · rename_i hbuffer
    exact ⟨packet, .refused (.buffer (by omega) (Decidable.not_not.mp ready) hbuffer)⟩
  rename_i hbuffer
  have hnone : ∀ e, ¬ Refused s packet data.length e := by
    rintro e (hpacket' | ⟨-, closed⟩ | ⟨-, -, hbuffer'⟩)
    · omega
    · exact ready closed
    · exact hbuffer hbuffer'
  -- a buffer that holds the frame is small enough for the size to be stated in the header
  have hstated : data.length < UInt32.size := by
    have := Frame.le_paddedLen data.length
    simp only [Frame.len] at hbuffer
    omega
  refine (send_sending _ timeout).bind_done ?_
  rintro _ outcome ⟨answer, rfl, rfl⟩
  exact ⟨packet, .sent hnone (framed_message _ hstated)⟩

theorem map_sending_eq_ok_iff {len n m : Nat} {answer : Except TransferError Nat} :
    ((sending len answer).map fun _ => n) = .ok m ↔ m = n ∧ answer = .ok len := by
  constructor
  · intro h
    cases hsending : sending len answer with
    | error e =>
      rw [hsending] at h
      cases h
    | ok u =>
      rw [hsending] at h
      exact ⟨(Except.ok.inj h).symm, eq_of_sending hsending⟩
  · rintro ⟨rfl, rfl⟩
    rw [sending, if_pos rfl]
    rfl

section

variable {s : Session} {packet timeout : Nat} {data : Bytes} {log : List (Event Port)}
  {r : Except SessionError Nat × Session}

/-- What is refused is so without a call but for the size of a packet, and without a change. -/
theorem Attempt.refused_iff (attempt : Attempt s packet data timeout log r) (e : SessionError) :
    Refused s packet data.length e ↔ r = (.error e, s) ∧ log = [⟨.maxPacket, packet⟩] := by
  constructor
  · intro refused
    cases attempt with
    | refused refused' => rw [refused.unique refused']; exact ⟨rfl, rfl⟩
    | sent hnone => exact absurd refused (hnone e)
  · rintro ⟨hr, hlog⟩
    cases attempt with
    | refused refused =>
      cases hr
      exact refused
    | sent => cases hlog

/-- What is not refused is sent in its frame, and has been written exactly if the transfer reports all of it. -/
theorem Attempt.sent_of_not_refused (attempt : Attempt s packet data timeout log r)
    (hnone : ∀ e, ¬ Refused s packet data.length e) : ∃ frame answer,
      Framed (Tag.next s.lastTag) data frame ∧
      log = [⟨.maxPacket, packet⟩, ⟨.bulkOut frame timeout, answer⟩] ∧ r.2 = s.writing data ∧
      ∀ n, r.1 = .ok n ↔ n = data.length ∧ answer = .ok frame.length := by
  cases attempt with
  | refused refused => exact absurd refused (hnone _)
  | @sent frame answer _ framed => exact ⟨frame, answer, framed, rfl, rfl, fun n => map_sending_eq_ok_iff⟩

/-- A write that succeeds has written all of the data. -/
theorem Attempt.eq_length (attempt : Attempt s packet data timeout log r) {n : Nat} (ok : r.1 = .ok n) :
    n = data.length := by
  cases attempt with
  | refused => cases ok
  | sent => exact (map_sending_eq_ok_iff.mp ok).1

/-- The first call is for the size of a packet. -/
theorem Attempt.first (attempt : Attempt s packet data timeout log r) :
    ∃ more, log = ⟨.maxPacket, packet⟩ :: more := by
  cases attempt <;> exact ⟨_, rfl⟩

/-- Nothing that a write does belongs to a read. -/
theorem Attempt.not_asking (attempt : Attempt s packet data timeout log r) :
    ∀ event ∈ log, ¬ Asking event.call := by
  cases attempt with
  | refused => simp [Asking]
  | sent _ framed => simpa [Asking] using framed.not_asking timeout

end

/-! ## Operations that begin with a write -/

section

variable {σ : Type} (port : Handler Port σ) (x : σ)

/-- What becomes of a write on a port is told by the size of the packets there. -/
theorem run_write_attempt {s : Session} (sized : s.Sized) (small : s.config.bufferSize < UInt32.size)
    (data : Bytes) (timeout : Nat) :
    Attempt s (port .maxPacket x).1 data timeout ((s.write data timeout).run port.recorded (x, [])).2.2
      ((s.write data timeout).run port.recorded (x, [])).1 := by
  obtain ⟨calls, hlog, packet, attempt⟩ :=
    Dialogue.always_run (write_attempt sized small data timeout) port x []
  rw [List.nil_append] at hlog
  obtain ⟨more, hmore⟩ := attempt.first
  obtain rfl := Dialogue.first_answer (hlog.trans hmore)
  rw [hlog]
  exact attempt

/-- A query that could not be written is not read for. -/
theorem run_ask_of_unwritten (patience : Nat) {s : Session} {query : Bytes} (output : Bytes) {timeout : Nat}
    {e : SessionError} (failed : ((s.write query timeout).run port x).1.1 = .error e) :
    (s.ask patience query output timeout).run port x =
      (⟨.failed e, output, ((s.write query timeout).run port x).1.2⟩,
        ((s.write query timeout).run port x).2) := by
  unfold ask
  rw [Dialogue.run_bind]
  generalize (s.write query timeout).run port x = written at failed ⊢
  obtain ⟨⟨outcome, s'⟩, x'⟩ := written
  cases failed
  rfl

/-- A state is set by one write, and succeeds or fails with it, unless the write succeeds short of the end
of the command. -/
theorem run_setState_of_whole {s : Session} (profile : Instrument.Profile) (state : Instrument.State)
    (whole : ∀ n, ((s.write (Bytes.ofString (profile.command state)) s.config.timeout).run port x).1.1 =
      .ok n → n = (Bytes.ofString (profile.command state)).length) :
    let written := (s.write (Bytes.ofString (profile.command state)) s.config.timeout).run port x
    (Instrument.setState s profile state).run port x =
      (((written.1.1.map fun _ => ()).mapError .session, written.1.2), written.2) := by
  unfold Instrument.setState
  rw [Dialogue.run_bind]
  generalize (s.write (Bytes.ofString (profile.command state)) s.config.timeout).run port x = written
    at whole ⊢
  obtain ⟨⟨outcome, s'⟩, x'⟩ := written
  cases outcome with
  | error e => rfl
  | ok n =>
    obtain rfl := whole n rfl
    dsimp only
    rw [if_pos rfl]
    rfl

end

/-- **A write is all or nothing.** On any port, a message that is refused leaves everything as it was, and
any other one goes out in one frame, under the next tag, and has been written exactly if the transfer
reports all of that frame. The state of an instrument is set exactly when its command was written, and
never in part; a question that could not be written fails for the same reason, with nothing done behind the
write and nothing put into the output. -/
theorem write_all_or_nothing {σ : Type} (patience : Nat) (port : Handler Port σ) (x : σ) {s : Session}
    (sized : s.Sized) (small : s.config.bufferSize < UInt32.size) :
    let packet := (port .maxPacket x).1
    (∀ data timeout,
      let written := (s.write data timeout).run port.recorded (x, [])
      (∀ e, Refused s packet data.length e ↔
        written.1 = (.error e, s) ∧ written.2.2 = [⟨.maxPacket, packet⟩]) ∧
      ((∀ e, ¬ Refused s packet data.length e) → ∃ frame answer,
        Framed (Tag.next s.lastTag) data frame ∧
        written.2.2 = [⟨.maxPacket, packet⟩, ⟨.bulkOut frame timeout, answer⟩] ∧
        written.1.2 = s.writing data ∧
        ∀ n, written.1.1 = .ok n ↔ n = data.length ∧ answer = .ok frame.length)) ∧
    (∀ profile state,
      let command := Bytes.ofString (profile.command state)
      let written := (s.write command s.config.timeout).run port.recorded (x, [])
      let result := (Instrument.setState s profile state).run port.recorded (x, [])
      result.2 = written.2 ∧ result.1.2 = written.1.2 ∧
      (result.1.1 = .ok () ↔ written.1.1 = .ok command.length) ∧
      ∀ sent expected, result.1.1 ≠ .error (.shortWrite sent expected)) ∧
    (∀ query output timeout e,
      let written := (s.write query timeout).run port.recorded (x, [])
      let result := (s.ask patience query output timeout).run port.recorded (x, [])
      written.1.1 = .error e →
      result.1 = ⟨.failed e, output, written.1.2⟩ ∧ result.2 = written.2 ∧
      ∀ event ∈ result.2.2, ¬ Asking event.call) := by
  intro packet
  refine ⟨fun data timeout => ?_, fun profile state => ?_, fun query output timeout e => ?_⟩
  · have attempt := run_write_attempt port x sized small data timeout
    exact ⟨attempt.refused_iff, attempt.sent_of_not_refused⟩
  · intro command
    have attempt := run_write_attempt port x sized small command s.config.timeout
    have hset := run_setState_of_whole port.recorded (x, []) profile state fun n => attempt.eq_length
    intro written result
    have hresult : result = (((written.1.1.map fun _ => ()).mapError .session, written.1.2), written.2) := hset
    rw [hresult]
    refine ⟨rfl, rfl, ?_⟩
    cases houtcome : written.1.1 with
    | error e => exact ⟨⟨nofun, nofun⟩, nofun⟩
    | ok n =>
      obtain rfl : n = command.length := attempt.eq_length houtcome
      exact ⟨⟨fun _ => rfl, fun _ => rfl⟩, nofun⟩
  · intro written result failed
    have hresult : result = (⟨.failed e, output, written.1.2⟩, written.2) :=
      run_ask_of_unwritten port.recorded (x, []) patience output failed
    rw [hresult]
    exact ⟨rfl, rfl, (run_write_attempt port x sized small query timeout).not_asking⟩

/-- Of a question of five bytes the transfer takes all but one byte of the padding: the question fails, and
its output is as it was. Longer messages are refused by the buffer, and still longer ones by the packet. -/
theorem question_cut_short_not_read :
    let s : Session := { new { bufferSize := 32 } with state := .ready }
    let script : Simulated.Script := { outs := [.take (some 19)] }
    let question : Bytes := [42, 73, 68, 78, 63]
    let output : Bytes := [9, 9, 9]
    let result := (s.ask usualPatience question output 50).run Simulated.Script.port.recorded (script, [])
    s.Sized ∧ s.config.bufferSize < UInt32.size ∧
      Refused s 64 53 (.tooLarge 53 64) ∧ Refused s 64 21 (.tooLarge 21 32) ∧
      result.1.outcome = .failed (.partialTransfer 19 20) ∧ result.1.output = output ∧
      ∀ event ∈ result.2.2, ¬ Asking event.call := by
  intro s script question output result
  have sized : s.Sized := (kept_state _ _).sized (sized_new _)
  have small : s.config.bufferSize < UInt32.size := by decide
  obtain ⟨-, -, hask⟩ := write_all_or_nothing usualPatience Simulated.Script.port script sized small
  have hfailed : ((s.write question 50).run Simulated.Script.port.recorded (script, [])).1.1 =
      .error (.partialTransfer 19 20) := by with_unfolding_all rfl
  obtain ⟨hresult, -, hasking⟩ := hask question output 50 _ hfailed
  refine ⟨sized, small, .packet (by decide), .buffer (by decide) rfl (by decide), ?_, ?_, hasking⟩
  · exact congrArg ReadResult.outcome hresult
  · exact congrArg ReadResult.output hresult

end ScopeLink.Session
