import ScopeLink.Proofs.Assembly
import ScopeLink.Proofs.Emulator.Exchange
/-!
# Chunks leave no trace

A read of the emulator takes the front of its queue, as much as the output has room for. How many bytes
a request asks for, and so the size of the buffers, decides how many rounds that takes (`Config.rounds`)
and nothing else: neither what the client gets nor what is left for the next read.

The rounds are counted in the log of the calls. The device counts its transfers as well, and the two
counts go together call by call (`Counted`), so that the count behind a read, known from `run_read`, is
that of the log.
-/

namespace ScopeLink

namespace Emulator

/-- A transfer in. -/
def isIncoming : Event Port → Bool
  | ⟨.bulkIn .., _⟩ => true
  | _ => false

/-- Between `e` and `e'` the device, open all the time, counted the transfers of the log. -/
structure Counted (e : Emulator) (log : List (Event Port)) (e' : Emulator) : Prop where
  isOpen : e'.isOpen = true
  outCount : e'.outCount = e.outCount + (Session.sentFrames log).length
  inCount : e'.inCount = e.inCount + log.countP isIncoming

theorem Counted.trans {e e' e'' : Emulator} {log log' : List (Event Port)} (h : Counted e log e')
    (h' : Counted e' log' e'') : Counted e (log ++ log') e'' := by
  refine ⟨h'.isOpen, ?_, ?_⟩
  · rw [h'.outCount, h.outCount, Session.sentFrames_append, List.length_append, Nat.add_assoc]
  · rw [h'.inCount, h.inCount, List.countP_append, Nat.add_assoc]

/-- A transfer in is counted, whether or not there is an answer to it. -/
theorem bulkIn_counts {e : Emulator} (isOpen : e.isOpen = true) (room : Nat) :
    (e.bulkIn room).2.isOpen = true ∧ (e.bulkIn room).2.outCount = e.outCount ∧
      (e.bulkIn room).2.inCount = e.inCount + 1 := by
  unfold bulkIn
  rw [if_pos isOpen]
  cases e.pending with
  | none => exact ⟨isOpen, rfl, rfl⟩
  | some request =>
    dsimp only
    split
    · exact ⟨isOpen, rfl, rfl⟩
    split
    · exact ⟨isOpen, rfl, rfl⟩
    · exact ⟨isOpen, rfl, rfl⟩

theorem request_counts {e : Emulator} (isOpen : e.isOpen = true) (tag : UInt8) (size : UInt32) :
    (e.bulkOut (Header.request tag size).encode).2.isOpen = true ∧
      (e.bulkOut (Header.request tag size).encode).2.outCount = e.outCount + 1 ∧
      (e.bulkOut (Header.request tag size).encode).2.inCount = e.inCount := by
  by_cases room : Header.byteCount ≤ e.maxPacket
  · rw [bulkOut_accepted isOpen (accept_request room)]
    exact ⟨isOpen, rfl, rfl⟩
  · have hlong : e.maxPacket < (Header.request tag size).encode.length := by
      rw [Header.length_encode]
      omega
    rw [bulkOut_refused isOpen (accept_of_long hlong)]
    exact ⟨isOpen, rfl, rfl⟩

theorem counted_asking {e : Emulator} (isOpen : e.isOpen = true) {c : Port.Call} (asking : Session.Asking c) :
    Counted e [⟨c, (port c e).1⟩] (port c e).2 := by
  cases c with
  | bulkOut data timeout =>
    obtain ⟨tag, size, rfl⟩ := asking
    obtain ⟨hopen, hout, hin⟩ := request_counts isOpen tag size
    exact ⟨hopen, hout, hin⟩
  | bulkIn room timeout =>
    obtain ⟨hopen, hout, hin⟩ := bulkIn_counts isOpen room
    exact ⟨hopen, hout, hin⟩
  | _ => exact asking.elim

/-- The counts of the device behind a dialogue that only asks are those of its log. -/
theorem counted_run {α : Type} {d : Dialogue Port α}
    (asking : d.Always fun log _ => ∀ event ∈ log, Session.Asking event.call) {e : Emulator}
    (isOpen : e.isOpen = true) (log : List (Event Port)) :
    ∃ calls, (d.run port.recorded (e, log)).2.2 = log ++ calls ∧
      Counted e calls (d.run port.recorded (e, log)).2.1 := by
  obtain ⟨calls, hlog, hcounted⟩ := Dialogue.run_related
    (R := fun (e : Emulator) calls e' => e.isOpen = true → Counted e calls e') (fun e isOpen => ⟨isOpen, rfl, rfl⟩)
    (fun hcalls hcalls' isOpen => (hcalls isOpen).trans (hcalls' (hcalls isOpen).isOpen))
    (fun c e hc isOpen => counted_asking isOpen hc) asking e log
  exact ⟨calls, hlog, hcounted isOpen⟩

end Emulator

namespace Session

/-- The output behind a reply: the reply at its front, a zero behind that and the rest as it was, so far as
there is room. -/
theorem output_append (s : Session) {payload output : Bytes} (fits : payload.length ≤ output.length) :
    (Reading.append ⟨s, output, 0⟩ payload).output =
      (payload ++ 0 :: output.drop (payload.length + 1)).take output.length := by
  have happend : (Reading.append ⟨s, output, 0⟩ payload).output =
      (payload ++ output.drop payload.length).set payload.length 0 := by
    simp only [Reading.append, Bytes.splice, List.take_zero, List.nil_append, Nat.zero_add]
  rw [happend, List.set_append_right _ _ (Nat.le_refl _), Nat.sub_self, List.take_append,
    List.take_of_length_le fits]
  congr 1
  by_cases full : payload.length = output.length
  · rw [full, Nat.sub_self, List.drop_length]
    rfl
  · have hlt : payload.length < output.length := by omega
    have hroom : output.length - payload.length = (output.length - (payload.length + 1)) + 1 := by omega
    rw [List.drop_eq_getElem_cons hlt, List.set_cons_zero, hroom, List.take_succ_cons,
      List.take_of_length_le (Nat.le_of_eq List.length_drop)]

/-- **Chunking is transparent.** A read of an open emulator with a queue `e.queue` of any length brings the
front of it, as much as the output has room for, and takes nothing else from the device; the calls it makes
are requests and transfers in, one of each for a chunk. The buffers of the session, its policy on tags, its
latest tag and a request that is left over play no part but in the number of the calls. -/
theorem read_chunked (patience : Nat) {s : Session} {e : Emulator} {output : Bytes} (sized : s.Sized)
    (ready : s.state = .ready) (isOpen : e.isOpen = true) (room : Header.byteCount ≤ e.maxPacket)
    (queued : e.queue ≠ []) (hasRoom : output ≠ []) (small : output.length < UInt32.size) (timeout : Nat) :
    let m := min output.length e.queue.length
    let result := (s.read patience output timeout).run Emulator.port.recorded (e, [])
    result.1.outcome = .ok m ∧
      result.1.output = (e.queue.take m ++ 0 :: output.drop (m + 1)).take output.length ∧
      result.2.1.queue = e.queue.drop m ∧
      (∀ event ∈ result.2.2, Asking event.call) ∧
      (sentFrames result.2.2).length = s.config.rounds m ∧
      result.2.2.countP Emulator.isIncoming = s.config.rounds m := by
  intro m result
  have hm : min output.length e.queue.length = m := rfl
  have hread := read_course patience sized ready output timeout
  obtain ⟨s', -, hrun⟩ := run_read timeout sized (show min output.length s.config.chunk < _ by omega) ready
    isOpen room queued hasRoom hm
  obtain ⟨hanswer, hdevice⟩ := Handler.run_recorded Emulator.port (s.read patience output timeout) e []
  rw [hrun] at hanswer hdevice
  obtain ⟨calls, hcalls, payloads, ending, course, -⟩ := Dialogue.always_run hread Emulator.port e []
  obtain ⟨calls', hcalls', hcounted⟩ := Emulator.counted_run
    (hread.mono fun _ _ ⟨_, _, course, _⟩ => course.asking) isOpen []
  rw [List.nil_append] at hcalls hcalls'
  have hout := hcounted.outCount
  have hin := hcounted.inCount
  rw [← hcalls', hdevice] at hout hin
  have hlen : (e.queue.take m).length = m := by
    rw [List.length_take]
    omega
  refine ⟨by rw [hanswer], ?_, by rw [hdevice], ?_, by simpa using hout.symm, by simpa using hin.symm⟩
  · rw [hanswer]
    dsimp only
    rw [output_append s' (by omega), hlen]
  · rw [hcalls]
    exact course.asking

/-- Seventeen bytes come through a buffer with room for eight at a time in three rounds, behind a request
that nothing answered, and the last one is left. -/
theorem read_chunked_in_three_rounds :
    let s : Session := { new { bufferSize := 21, tagPolicy := .matchRequest } with state := .ready, lastTag := 254 }
    let e : Emulator := { isOpen := true, maxPacket := 12, pending := some (7, 3), queue := List.replicate 18 65 }
    let output : Bytes := List.replicate 17 9
    let result := (s.read usualPatience output 1).run Emulator.port.recorded (e, [])
    s.Sized ∧ s.state = .ready ∧ e.isOpen = true ∧ Header.byteCount ≤ e.maxPacket ∧ e.queue ≠ [] ∧
      output ≠ [] ∧ output.length < UInt32.size ∧
      result.1.outcome = .ok 17 ∧ result.1.output = List.replicate 17 65 ∧ result.2.1.queue = [65] ∧
      (∀ event ∈ result.2.2, Asking event.call) ∧ (sentFrames result.2.2).length = 3 ∧
      result.2.2.countP Emulator.isIncoming = 3 := by
  intro s e output
  have sized : s.Sized := ⟨length_outBuf_new _, length_inBuf_new _, minBufferSize_le_new _⟩
  have small : output.length < UInt32.size := by decide
  have hrounds : s.config.rounds 17 = 3 := by decide
  have hread := read_chunked usualPatience (s := s) (e := e) sized rfl rfl (by decide) (by decide) (by decide)
    small 1
  -- the read is told by the theorem, not evaluated
  generalize (s.read usualPatience output 1).run Emulator.port.recorded (e, []) = result at hread ⊢
  obtain ⟨houtcome, houtput, hqueue, hasking, hout, hin⟩ := hread
  exact ⟨sized, rfl, rfl, by decide, by decide, by decide, small, houtcome, houtput, hqueue, hasking,
    hout.trans hrounds, hin.trans hrounds⟩

end Session

end ScopeLink
