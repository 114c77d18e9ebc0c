import ScopeLink.Proofs.Assembly
import ScopeLink.Proofs.Packed
/-!
# What a request states

The request of a round asks for what is due: what is left of the output, a chunk at the most. The header has
four bytes for that number, and nothing checks that it fits them. What does not fit loses its upper digits,
while the reply is held against all of it (`Asked`). The frame of a message is more careful: it is not written
if four bytes cannot state its size.

So the requests of a read state what is due unless both the output and a chunk reach 4 GiB
(`requests_exact_iff`), which takes a buffer of twelve bytes more. A chunk of just 4 GiB is asked for as nothing
at all (`four_gibibytes_stated_as_zero`).
-/

namespace ScopeLink.Session

/-! ## A read behind its first rounds -/

/-- What a read becomes with these calls of it, told by the calls. -/
structure Reached (r : Reading) (calls : List (Event Port)) (r' : Reading) : Prop where
  config : r'.session.config = r.session.config
  inBuf : r'.session.inBuf = calls.foldl laidOver r.session.inBuf
  got : r'.got = r.got + (payloads r.session.inBuf calls).flatten.length
  length : r'.output.length = r.output.length

theorem Reached.refl (r : Reading) : Reached r [] r := ⟨rfl, rfl, rfl, rfl⟩

theorem Reached.trans {r r' r'' : Reading} {calls calls' : List (Event Port)} (h : Reached r calls r')
    (h' : Reached r' calls' r'') : Reached r (calls ++ calls') r'' := by
  have hin := h'.inBuf
  have hgot := h'.got
  rw [h.inBuf] at hin hgot
  refine ⟨h'.config.trans h.config, by rw [hin, List.foldl_append], ?_, h'.length.trans h.length⟩
  rw [hgot, h.got, payloads_append, List.flatten_append, List.length_append, Nat.add_assoc]

theorem Taking.reached {r : Reading} {delivery : Port.Delivery} {reply : Bytes} {h : Header}
    (taking : Taking r delivery reply h) (hgot : r.got ≤ r.output.length) (timeout : Nat) :
    Reached r (r.exchange timeout delivery) (r.taking delivery reply) := by
  have hpayloads : payloads r.session.inBuf (r.exchange timeout delivery) = [payload reply] := by
    simp [Reading.exchange, payloads, payload?, laidOver, taking.arrived]
  refine ⟨rfl, rfl, ?_, taking.length_output hgot⟩
  rw [hpayloads, List.flatten_singleton]
  rfl

/-- A transfer out among the calls of a round and others behind it is the request of the round, or one of
those. -/
theorem exchange_split_out {r : Reading} {timeout time : Nat} {delivery : Port.Delivery} {frame : Bytes}
    {answer : Except TransferError Nat} {rest earlier later : List (Event Port)}
    (h : r.exchange timeout delivery ++ rest = earlier ++ ⟨.bulkOut frame time, answer⟩ :: later) :
    earlier = [] ∨ ∃ earlier', earlier = r.exchange timeout delivery ++ earlier' ∧
      rest = earlier' ++ ⟨.bulkOut frame time, answer⟩ :: later := by
  rw [Reading.exchange, List.cons_append, List.cons_append, List.nil_append] at h
  cases earlier with
  | nil => exact .inl rfl
  | cons first earlier =>
    rw [List.cons_append] at h
    obtain ⟨hfirst, hrest⟩ := List.cons.inj h
    cases earlier with
    | nil => cases (List.cons.inj hrest).1
    | cons second earlier =>
      rw [List.cons_append] at hrest
      obtain ⟨hsecond, hrest⟩ := List.cons.inj hrest
      exact .inr ⟨earlier, by rw [Reading.exchange, hfirst, hsecond]; rfl, hrest⟩

/-- A round has one transfer out, and begins with it. -/
theorem eq_nil_of_exchange {r : Reading} {timeout time : Nat} {delivery : Port.Delivery} {frame : Bytes}
    {answer : Except TransferError Nat} {earlier later : List (Event Port)}
    (h : r.exchange timeout delivery = earlier ++ ⟨.bulkOut frame time, answer⟩ :: later) : earlier = [] := by
  rw [← List.append_nil (r.exchange timeout delivery)] at h
  obtain hnil | ⟨earlier', -, hrest⟩ := exchange_split_out h
  · exact hnil
  · simp at hrest

theorem Failing.eq_nil {timeout time : Nat} {r : Reading} {log earlier later : List (Event Port)}
    {e : SessionError} {frame : Bytes} {answer : Except TransferError Nat} (failing : Failing timeout r log e)
    (h : log = earlier ++ ⟨.bulkOut frame time, answer⟩ :: later) : earlier = [] := by
  cases failing with
  | unsent =>
    cases earlier with
    | nil => rfl
    | cons first earlier => simp at h
  | unanswered => exact eq_nil_of_exchange h
  | refused => exact eq_nil_of_exchange h

/-- From any transfer out on, the calls of a read are those of the read that the calls before have led to. -/
theorem Course.from_out {timeout time : Nat} {r : Reading} {log earlier later : List (Event Port)}
    {ps : List Bytes} {ending : Outcome SessionError Unit} {frame : Bytes} {answer : Except TransferError Nat}
    (course : Course timeout r log ps ending) (hgot : r.got ≤ r.output.length)
    (hsplit : log = earlier ++ ⟨.bulkOut frame time, answer⟩ :: later) :
    ∃ r' ps', Reached r earlier r' ∧
      Course timeout r' (⟨.bulkOut frame time, answer⟩ :: later) ps' ending := by
  -- the first transfer out is the request of the course itself
  have first {r : Reading} {log earlier : List (Event Port)} {ps : List Bytes}
      {ending : Outcome SessionError Unit} (course : Course timeout r log ps ending) (hnil : earlier = [])
      (hsplit : log = earlier ++ ⟨.bulkOut frame time, answer⟩ :: later) : ∃ r' ps', Reached r earlier r' ∧
        Course timeout r' (⟨.bulkOut frame time, answer⟩ :: later) ps' ending := by
    subst hnil
    rw [hsplit] at course
    exact ⟨r, ps, .refl r, course⟩
  induction course generalizing earlier with
  | full | unfinished => simp at hsplit
  | failed hmore failing => exact first (.failed hmore failing) (failing.eq_nil hsplit) hsplit
  | last hmore taking hlast => exact first (.last hmore taking hlast) (eq_nil_of_exchange hsplit) hsplit
  | overran hmore hcount hover => exact first (.overran hmore hcount hover) (eq_nil_of_exchange hsplit) hsplit
  | more hmore taking hnot course ih =>
    obtain hnil | ⟨earlier', rfl, hrest⟩ := exchange_split_out hsplit
    · exact first (.more hmore taking hnot course) hnil hsplit
    · have hgot' := taking.fits hgot
      rw [← taking.length_output hgot] at hgot'
      obtain ⟨r', ps', hreached, hcourse⟩ := ih hgot' hrest
      exact ⟨r', ps', (taking.reached hgot timeout).trans hreached, hcourse⟩

/-! ## One request -/

/-- A reply is held against a request for so many bytes: it passes all checks, or it has a fault, which ends
the read. -/
inductive Held {α : Type} (policy : TagPolicy) (tag : UInt8) (requested remaining : Nat) (reply : Bytes)
    (rest : List (Event Port)) (outcome : Outcome SessionError α) : Prop
  | accepted {h} : Accepted policy tag requested remaining reply h →
    Held policy tag requested remaining reply rest outcome
  | refused {e} : Fault policy tag requested reply e → rest = [] → outcome = .failed (.framing e) →
    Held policy tag requested remaining reply rest outcome

/-- The reply that comes right behind a request, if one arrives in this buffer, is held against so many bytes. -/
def ReplyHeld {α : Type} (policy : TagPolicy) (tag : UInt8) (requested remaining : Nat) (buffer : Bytes)
    (later : List (Event Port)) (outcome : Outcome SessionError α) : Prop :=
  ∀ room time delivery rest reply, later = ⟨.bulkIn room time, delivery⟩ :: rest →
    delivery.reply buffer room = some reply → Held policy tag requested remaining reply rest outcome

/-- The calls of a round that took a transfer in begin with its request, and a reply to that is the one that
the transfer brought. -/
theorem asks_of_exchange {timeout time : Nat} {r : Reading} {delivery : Port.Delivery}
    {behind later : List (Event Port)} {ending : Outcome SessionError Unit} {frame : Bytes}
    {answer : Except TransferError Nat}
    (hcalls : ⟨.bulkOut frame time, answer⟩ :: later = r.exchange timeout delivery ++ behind)
    (held : ∀ reply, delivery.reply r.session.inBuf r.room = some reply →
      Held r.session.config.tagPolicy r.request.tag r.requested r.remaining reply behind ending) :
    frame = r.request.encode ∧ ReplyHeld r.session.config.tagPolicy r.request.tag r.requested r.remaining
      r.session.inBuf later ending := by
  cases hcalls
  refine ⟨rfl, ?_⟩
  intro room time delivery' rest reply hlater hreply
  cases hlater
  exact held reply hreply

/-- The transfer out that a course begins with is its request, and what is asked for is what the reply to it
is held against. -/
theorem Course.asks {timeout time : Nat} {r : Reading} {later : List (Event Port)} {ps : List Bytes}
    {ending : Outcome SessionError Unit} {frame : Bytes} {answer : Except TransferError Nat}
    (course : Course timeout r (⟨.bulkOut frame time, answer⟩ :: later) ps ending) :
    frame = r.request.encode ∧ ReplyHeld r.session.config.tagPolicy r.request.tag r.requested r.remaining
      r.session.inBuf later ending := by
  generalize hcalls : (⟨.bulkOut frame time, answer⟩ :: later : List (Event Port)) = calls at course
  cases course with
  | full | unfinished => cases hcalls
  | failed _ failing =>
    cases failing with
    | unsent =>
      cases hcalls
      exact ⟨rfl, fun _ _ _ _ _ hlater => nomatch hlater⟩
    | unanswered hcount =>
      apply asks_of_exchange (hcalls.trans (List.append_nil _).symm)
      intro reply hreply
      simp [Port.Delivery.reply, hcount] at hreply
    | refused harrived hfault =>
      apply asks_of_exchange (hcalls.trans (List.append_nil _).symm)
      intro reply hreply
      cases harrived.symm.trans hreply
      exact .refused hfault rfl rfl
  | last _ taking =>
    apply asks_of_exchange (hcalls.trans (List.append_nil _).symm)
    intro reply hreply
    cases taking.arrived.symm.trans hreply
    exact .accepted taking.accepted
  | more _ taking =>
    apply asks_of_exchange hcalls
    intro reply hreply
    cases taking.arrived.symm.trans hreply
    exact .accepted taking.accepted
  | overran _ hcount hover =>
    apply asks_of_exchange (hcalls.trans (List.append_nil _).symm)
    intro reply hreply
    simp [Port.Delivery.reply, hcount, hover] at hreply

/-- A read that has more to get and rounds to do so begins with a request. -/
theorem Course.begins {timeout : Nat} {r : Reading} {log : List (Event Port)} {ps : List Bytes}
    {ending : Outcome SessionError Unit} (course : Course timeout r log ps ending)
    (more : r.got < r.output.length) (patient : ending = .halted .unfinished → ps ≠ []) :
    ∃ frame answer later, log = ⟨.bulkOut frame timeout, answer⟩ :: later := by
  cases course with
  | full hfull => omega
  | failed _ failing => cases failing <;> exact ⟨_, _, _, rfl⟩
  | last | more | overran => exact ⟨_, _, _, rfl⟩
  | unfinished => exact absurd rfl (patient rfl)

/-! ## The requests of a read -/

/-- What the output of a read has room for behind these calls. -/
def roomLeft (s : Session) (output : Bytes) (calls : List (Event Port)) : Nat :=
  output.length - (payloads s.inBuf calls).flatten.length

/-- What is due of the reply then: all that there is room for, but a chunk at the most. -/
def due (s : Session) (output : Bytes) (calls : List (Event Port)) : Nat :=
  min (roomLeft s output calls) s.config.chunk

theorem due_le (s : Session) (output : Bytes) (calls : List (Event Port)) :
    due s output calls ≤ min output.length s.config.chunk := by
  simp only [due, roomLeft]
  omega

theorem due_nil (s : Session) (output : Bytes) : due s output [] = min output.length s.config.chunk := rfl

/-- The transfer out of a read between these calls: it is a request, which states the lowest 32 bits of what is
due, and the reply to it is held against all that is due. -/
structure Asked (s : Session) (output : Bytes) (result : ReadResult) (earlier : List (Event Port)) (frame : Bytes)
    (later : List (Event Port)) (h : Header) : Prop where
  header : Header.decode frame = some h
  messageId : h.messageId = Header.requestId
  stated : h.size.toNat = due s output earlier % UInt32.size
  held : ReplyHeld s.config.tagPolicy h.tag (due s output earlier) (roomLeft s output earlier)
    (earlier.foldl laidOver s.inBuf) later result.outcome

/-- Every request among the calls states what is due. -/
def Exact (s : Session) (output : Bytes) (calls : List (Event Port)) : Prop :=
  ∀ earlier frame time answer later, calls = earlier ++ ⟨.bulkOut frame time, answer⟩ :: later →
    ∃ h, Header.decode frame = some h ∧ h.size.toNat = due s output earlier

theorem Reached.remaining {s : Session} {output : Bytes} {calls : List (Event Port)} {r : Reading}
    (h : Reached ⟨s, output, 0⟩ calls r) : r.remaining = roomLeft s output calls := by
  rw [Reading.remaining, h.length, h.got, roomLeft, Nat.zero_add]

theorem Reached.requested {s : Session} {output : Bytes} {calls : List (Event Port)} {r : Reading}
    (h : Reached ⟨s, output, 0⟩ calls r) : r.requested = due s output calls := by
  rw [Reading.requested, h.remaining, h.config, due]

/-- Every transfer out of a course is a request of the read. -/
theorem asked_of_course {s : Session} {output : Bytes} {timeout time : Nat} {result : ReadResult}
    {earlier later : List (Event Port)} {ps : List Bytes} {ending : Outcome SessionError Unit} {frame : Bytes}
    {answer : Except TransferError Nat} {log : List (Event Port)}
    (course : Course timeout ⟨s, output, 0⟩ log ps ending)
    (houtcome : result.outcome = ending.andThen fun _ => .ok ps.flatten.length)
    (hsplit : log = earlier ++ ⟨.bulkOut frame time, answer⟩ :: later) :
    ∃ h, Asked s output result earlier frame later h := by
  obtain ⟨r, ps', hreached, hcourse⟩ := course.from_out (Nat.zero_le _) hsplit
  obtain ⟨rfl, hheld⟩ := hcourse.asks
  rw [hreached.requested, hreached.remaining, hreached.config, hreached.inBuf] at hheld
  refine ⟨r.request, Header.decode_encode _, rfl, ?_, ?_⟩
  · rw [← hreached.requested]
    exact UInt32.toNat_ofNat'
  · intro room time delivery rest reply hlater hreply
    cases hheld room time delivery rest reply hlater hreply with
    | accepted haccepted => exact .accepted haccepted
    | refused hfault hrest hending => exact .refused hfault hrest (by rw [houtcome, hending]; rfl)

/-- A chunk can be stated unless the buffer takes 4 GiB and a header. -/
theorem chunk_small_iff (c : Config) :
    c.chunk < UInt32.size ↔ c.bufferSize < UInt32.size + Header.byteCount := by
  simp only [Config.chunk, Frame.alignment, Header.byteCount, UInt32.size]
  omega

/-- A message in a frame states its size, or there is no frame. -/
theorem size_of_write {buffer payload outBuf : Bytes} {tag : UInt8} {n : Nat}
    (h : Frame.write buffer tag payload = some (n, outBuf)) :
    ∃ header, Header.decode (outBuf.take n) = some header ∧ header.size.toNat = payload.length := by
  have hsmall : payload.length < UInt32.size := by
    have hsome : Frame.write buffer tag payload ≠ none := by simp [h]
    have := mt Frame.write_eq_none_iff.mpr hsome
    omega
  rw [(Frame.write_eq_some h).1]
  refine ⟨_, Frame.decode_message _ _, ?_⟩
  show (UInt32.ofNat payload.length).toNat = payload.length
  rw [UInt32.toNat_ofNat_of_lt' hsmall]

/-! ## Exact requests -/

/-- **When the requests of a read are exact.** On any device, every transfer out of a read is a request. It
states what is due without the digits above 32 bits, and the reply to it is held against all that is due. So
all of them are exact if and only if the output or a chunk is below 4 GiB, and a chunk is if and only if the
buffer is below 4 GiB and a header. The frame of a message states its size in full, or is not written. -/
theorem requests_exact_iff {σ : Type} (patience : Nat) (port : Handler Port σ) (x : σ) {s : Session}
    (sized : s.Sized) (ready : s.state = .ready) (output : Bytes) (timeout : Nat) :
    let run := (s.read patience output timeout).run port.recorded (x, [])
    (∀ earlier frame time answer later, run.2.2 = earlier ++ ⟨.bulkOut frame time, answer⟩ :: later →
      ∃ h, Asked s output run.1 earlier frame later h) ∧
    (Exact s output run.2.2 ↔ min output.length s.config.chunk < UInt32.size) ∧
    (s.config.chunk < UInt32.size ↔ s.config.bufferSize < UInt32.size + Header.byteCount) ∧
    ∀ tag payload n outBuf, Frame.write s.outBuf tag payload = some (n, outBuf) →
      ∃ h, Header.decode (outBuf.take n) = some h ∧ h.size.toNat = payload.length := by
  intro run
  obtain ⟨calls, hlog, ps, ending, course, houtcome, -, hpatience⟩ :=
    Dialogue.always_run (read_course patience sized ready output timeout) port x []
  rw [List.nil_append] at hlog
  have hasked : ∀ earlier frame time answer later,
      run.2.2 = earlier ++ ⟨.bulkOut frame time, answer⟩ :: later →
        ∃ h, Asked s output run.1 earlier frame later h :=
    fun _ _ _ _ _ hsplit => asked_of_course course houtcome (hlog.symm.trans hsplit)
  refine ⟨hasked, ⟨fun exact => ?_, fun small => ?_⟩, chunk_small_iff _, fun _ _ _ _ => size_of_write⟩
  · -- the first request is due all that a request of this read can be
    by_cases hnil : output.length = 0
    · rw [hnil, Nat.zero_min]
      decide
    have hbegins := course.begins (Nat.pos_of_ne_zero hnil) fun hend hps => by
      have := hpatience hend
      rw [hps, List.length_nil] at this
      omega
    obtain ⟨frame, answer, later, rfl⟩ := hbegins
    obtain ⟨h, hdecode, hsize⟩ := exact [] frame timeout answer later hlog
    rw [due_nil] at hsize
    rw [← hsize]
    exact h.size.toNat_lt
  · intro earlier frame time answer later hsplit
    obtain ⟨h, asked⟩ := hasked earlier frame time answer later hsplit
    have hle := due_le s output earlier
    refine ⟨h, asked.header, ?_⟩
    rw [asked.stated, Nat.mod_eq_of_lt (by omega)]

/-- With a buffer of 4 GiB and eleven bytes, the largest whose chunk can be stated, a read of 4 GiB is exact. -/
theorem requests_exact_of_largest_buffer :
    let s : Session := { new { bufferSize := 4294967307 } with state := .ready }
    let output := Bytes.zeros 4294967296
    let script : Simulated.Script := { ins := [.deliver { payload := [1, 2, 3] } none] }
    s.Sized ∧ s.state = .ready ∧
      Exact s output
        ((s.read usualPatience output 50).run Simulated.Script.port.recorded (script, [])).2.2 := by
  intro s output script
  have sized : s.Sized := (kept_state _ _).sized (sized_new _)
  have ready : s.state = .ready := rfl
  have hchunk : s.config.chunk < UInt32.size := by decide
  obtain ⟨-, hexact, -⟩ := requests_exact_iff usualPatience Simulated.Script.port script sized ready
    output 50
  exact ⟨sized, ready, hexact.mpr (Nat.lt_of_le_of_lt (Nat.min_le_right _ _) hchunk)⟩

/-- With a buffer one byte larger a chunk is 4 GiB, and a read of as many bytes asks for none. -/
theorem four_gibibytes_stated_as_zero :
    let s : Session := { new { bufferSize := 4294967308 } with state := .ready }
    let output := Bytes.zeros 4294967296
    let script : Simulated.Script := { ins := [.deliver { raw := some [] } (some 8589934592)] }
    let run := (s.read usualPatience output 50).run Simulated.Script.port.recorded (script, [])
    due s output [] = 4294967296 ∧
      run.2.2.map Event.call = [.bulkOut (Header.request 1 0).encode 50, .bulkIn 4294967308 50] ∧
      run.1.outcome = .halted .overrun ∧ ¬ Exact s output run.2.2 := by
  intro s output script
  -- the buffers are evaluated packed
  let p : PackedSession := { PackedSession.new { bufferSize := 4294967308 } with state := .ready }
  have hs : p.unpack = s := by
    have hnew := PackedSession.unpack_new { bufferSize := 4294967308 }
    exact congrArg (fun s : Session => { s with state := .ready }) hnew
  have houtput : (Packed.uniform 4294967296 0).bytes = output := Packed.bytes_uniform _ _
  have hrun := PackedSession.run_read Simulated.Script.port.recorded (script, []) p usualPatience
    (.uniform 4294967296 0) 50
  rw [hs, houtput] at hrun
  intro run
  have hcalls : run.2.2.map Event.call = [.bulkOut (Header.request 1 0).encode 50, .bulkIn 4294967308 50] := by
    rw [show run = _ from hrun]
    decide +kernel
  have hdue : due s output [] = 4294967296 := by
    rw [due_nil, Bytes.length_zeros]
    decide
  refine ⟨hdue, hcalls, ?_, fun exact => ?_⟩
  · rw [show run = _ from hrun]
    decide +kernel
  obtain ⟨⟨call, answer⟩, later, hlog, hcall, -⟩ := List.map_eq_cons_iff.mp hcalls
  cases hcall
  obtain ⟨h, hdecode, hsize⟩ := exact [] _ 50 answer later hlog
  rw [Header.decode_encode, Option.some.injEq] at hdecode
  rw [← hdecode, hdue] at hsize
  revert hsize
  decide

end ScopeLink.Session
