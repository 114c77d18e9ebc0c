import ScopeLink.Proofs.Reads
import ScopeLink.Proofs.Tags
/-!
# Strict tags

A session that holds replies to the tag of the request accepts none that is late, out of order or a
duplicate, whatever its device delivers: tags are drawn in turn (`TagChain.dvd_of_tag_eq`), so a reply
with the tag of another frame carries that of the request only if the tags have come round in between, and
a reply with another tag ends the read with nothing of it copied.
-/

namespace ScopeLink.Session

/-- A transfer in during an operation of a run. -/
structure Arrival where
  /-- The session in which the operation began, and the calls made on its port before. -/
  session : Session
  log : List (Event Port)
  /-- The calls of the operation before the transfer, and behind it. -/
  earlier : List (Event Port)
  room : Nat
  delivery : Port.Delivery
  later : List (Event Port)

namespace Arrival

/-- The reply that the transfer leaves in the buffer. -/
def reply (a : Arrival) : Option Bytes := a.delivery.reply (a.earlier.foldl laidOver a.session.inBuf) a.room

/-- The read ends with the transfer, in an error or because more is reported than the buffer has. Its output
holds the payloads of the replies before, and nothing of this one. -/
structure Rejected (a : Arrival) (given : Bytes) (result : ReadResult) : Prop where
  last : a.later = []
  failed : (∃ e, result.outcome = .failed e) ∨ result.outcome = .halted .overrun
  uncopied : result.output = collected a.session given a.earlier

/-- What a strict session makes of a transfer in, when the operation reads into `given` and comes to
`result`. -/
structure Judged (a : Arrival) (given : Bytes) (result : ReadResult) (request : Header) : Prop where
  /-- The call right before the transfer sent the request, all of it. -/
  asked : ∃ frame timeout, a.earlier.getLast? = some ⟨.bulkOut frame timeout, .ok frame.length⟩ ∧
    Header.decode frame = some request ∧ request.messageId = Header.requestId
  /-- What is not rejected is a reply with the tag of the request. -/
  accepted : a.Rejected given result ∨
    ∃ reply h, a.reply = some reply ∧ Header.decode reply = some h ∧ h.tag = request.tag
  /-- A reply with the tag of the frame sent `d` frames before the request is rejected, for that if its id is
  right, unless the tags have come round between the two. -/
  stale : ∀ reply h, a.reply = some reply → Header.decode reply = some h →
    ∀ d frame g, (sentFrames (a.log ++ a.earlier)).reverse[d]? = some frame →
      Header.decode frame = some g → h.tag = g.tag → ¬ 255 ∣ d →
        a.Rejected given result ∧ ∃ e, result.outcome = .failed (.framing e) ∧
          (h.messageId = Header.replyId → e = .tag h.tag h.inverse request.tag)

end Arrival

theorem ReadInto.judged {a : Arrival} {given : Bytes} {calls : List (Event Port)} {result : ReadResult}
    {time : Nat} (h : ReadInto a.session given calls result)
    (hsplit : calls = a.earlier ++ ⟨.bulkIn a.room time, a.delivery⟩ :: a.later)
    (strict : a.session.config.tagPolicy = .matchRequest) {last last' : UInt8}
    (hchain : TagChain last (sentFrames (a.log ++ a.earlier)) last') :
    ∃ request, a.Judged given result request := by
  obtain ⟨r, hawaiting, hconcluded⟩ := h.split hsplit
  obtain ⟨timeout, hsent⟩ := hawaiting.request
  have hreply : a.reply = a.delivery.reply r.session.inBuf a.room := by rw [hawaiting.inBuf]; rfl
  have hpolicy : r.session.config.tagPolicy = .matchRequest := by rw [hawaiting.config, strict]
  have hrejected (hnot : ∀ last, (r.receiving a.room a.delivery).1 ≠ .ok last) : a.Rejected given result := by
    obtain ⟨hlater, houtput, hend⟩ := hconcluded.refused hnot
    exact ⟨hlater, hend, houtput.trans hawaiting.output⟩
  have hasked : a.earlier.getLast? = some ⟨.bulkOut r.request.encode timeout, .ok r.request.encode.length⟩ := by
    rw [hsent, Header.length_encode]
  refine ⟨r.request, ⟨_, timeout, hasked, Header.decode_encode _, rfl⟩, ?_, ?_⟩
  · by_cases haccepted : ∃ last, (r.receiving a.room a.delivery).1 = .ok last
    · obtain ⟨last, hlast⟩ := haccepted
      obtain ⟨reply, header, hsome, haccept, -⟩ := Reading.receiving_accepted (Prod.ext hlast rfl)
      have htag := haccept.tag
      rw [hpolicy] at htag
      exact .inr ⟨reply, header, hreply.trans hsome, haccept.header, eq_of_beq htag⟩
    · exact .inl (hrejected fun last hlast => haccepted ⟨last, hlast⟩)
  · intro reply h hsome hdecode d frame g hframe hg htag hd
    have hlatest : (sentFrames (a.log ++ a.earlier)).getLast? = some r.request.encode :=
      sentFrames_getLast? (by rw [List.getLast?_append, hsent]; rfl)
    have hne : h.tag ≠ r.request.tag := fun heq =>
      hd (hchain.dvd_of_tag_eq hlatest hframe (Header.decode_encode _) hg (htag.symm.trans heq))
    have hreceived := Reading.receiving_of_reply (hreply.symm.trans hsome)
    rw [acceptReply_of_not_admits hdecode (by rw [hpolicy]; exact beq_false_of_ne hne)] at hreceived
    have hnot : ∀ last, (r.receiving a.room a.delivery).1 ≠ .ok last := by
      rw [hreceived]
      nofun
    have hfailed := hconcluded.failed (by rw [hreceived])
    exact ⟨hrejected hnot, _, hfailed, fun hid => if_pos hid⟩

section

variable {σ : Type}

/-- Every transfer in of an operation is judged by the tag of its request. -/
def Strict : Attended σ → (op : Operation) → op.Answer → Attended σ → Prop :=
  fun (s, _, log) op answer (_, _, log') => ∃ calls, log' = log ++ calls ∧
    ∀ earlier room time delivery later, calls = earlier ++ ⟨.bulkIn room time, delivery⟩ :: later →
      ∃ given report result request, op.reader = some (given, report) ∧ answer = report result ∧
        Arrival.Judged ⟨s, log, earlier, room, delivery, later⟩ given result request

theorem Told.strict {s : Session} {op : Operation} {log calls : List (Event Port)} {answer : op.Answer}
    (h : Told s op calls answer) (strict : s.config.tagPolicy = .matchRequest) {last last' : UInt8}
    (hchain : TagChain last (sentFrames (log ++ calls)) last') (x x' : σ) (s' : Session) :
    Strict (s, x, log) op answer (s', x', log ++ calls) := by
  refine ⟨calls, rfl, fun earlier room time delivery later hsplit => ?_⟩
  unfold Told at h
  cases hreader : op.reader with
  | none =>
    rw [hreader] at h
    exact absurd trivial (h ⟨.bulkIn room time, delivery⟩ (by rw [hsplit]; simp))
  | some reader =>
    obtain ⟨given, report⟩ := reader
    rw [hreader] at h
    obtain ⟨result, hread, hanswer⟩ := h
    -- the frames up to the transfer are numbered as those of the whole operation are
    obtain ⟨middle, hfront⟩ : ∃ middle, TagChain last (sentFrames (log ++ earlier)) middle := by
      rw [hsplit, ← List.append_assoc, sentFrames_append] at hchain
      exact hchain.front
    obtain ⟨request, hjudged⟩ :=
      ReadInto.judged (a := ⟨s, log, earlier, room, delivery, later⟩) hread hsplit strict hfront
    exact ⟨given, report, result, request, rfl, hanswer, hjudged⟩

/-- **Strict tags reject stale replies.** Whatever the port delivers, and whenever, over every run of
operations on a strict session a reply is accepted only with the tag of the request sent right before it, and
one with the tag of an earlier frame is rejected unless the tags have come round since. -/
theorem stale_replies_rejected (patience : Nat) (port : Handler Port σ) (x : σ) {config : Config}
    (strict : config.tagPolicy = .matchRequest) (small : config.bufferSize < UInt32.size)
    (ops : List Operation) :
    (operate patience port.recorded).EachStep Strict ops (new config, x, []) := by
  refine Handler.eachStep_of_step (h := operate patience port.recorded)
    (fun a : Attended σ => Numbered (new config) a.2.2 a.1) ?_ ops (new config, x, [])
    (numbered_lasting.refl (new config))
  rintro ⟨s, x, log⟩ op h
  have sized : s.Sized := h.kept.sized (sized_new config)
  have hpolicy : s.config.tagPolicy = .matchRequest := by rw [h.kept.config]; exact strict
  obtain ⟨calls, answer, s', x', hnext, hnumbered, htold⟩ :=
    operate_always ((numbered_lasting.serve op s).and (serve_told patience op sized)) port x log
  have hnumbered' := h.trans hnumbered
  rw [hnext]
  exact ⟨htold.strict hpolicy (hnumbered'.chain (sized_new config) (small_new small)) x x' s', hnumbered'⟩

/-- A query times out, and its reply comes late, when the next query has been sent, and once more. -/
theorem stale_replies_rejected_behind_timeout :
    let config : Config := { bufferSize := 16, tagPolicy := .matchRequest }
    let late : Simulated.InEntry := .deliver { payload := [1, 2], tag := some 2 } none
    let script : Simulated.Script := { ins := [.fail .timeout, late, late] }
    let ops : List Operation := [.start, .ask [5] [0, 0] 1, .ask [6] [0, 0] 1, .read [0, 0] 1]
    config.tagPolicy = .matchRequest ∧ config.bufferSize < UInt32.size ∧
      (operate usualPatience Simulated.Script.port.recorded).EachStep Strict ops (new config, script, []) := by
  intro config late script ops
  have small : config.bufferSize < UInt32.size := by decide
  exact ⟨rfl, small, stale_replies_rejected usualPatience Simulated.Script.port script rfl small ops⟩

example :
    let late : Simulated.InEntry := .deliver { payload := [1, 2], tag := some 2 } none
    let asked := (operate usualPatience Simulated.Script.port).after [.start, .ask [5] [0, 0] 1]
      (new { bufferSize := 16, tagPolicy := .matchRequest }, { ins := [.fail .timeout, late, late] })
    (operate usualPatience Simulated.Script.port (.ask [6] [0, 0] 1) asked).1 =
      (.failed (.framing (.tag 2 253 4)), [0, 0]) := by rfl

end

end ScopeLink.Session
