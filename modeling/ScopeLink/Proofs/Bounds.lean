import ScopeLink.Proofs.Checked
import ScopeLink.Proofs.Reads
import ScopeLink.Proofs.Residue
/-!
# No operation goes out of bounds

On a port that reports no more than there is room for, the checked operations go through without a fault and
come to what the operations come to (`Sound`). A buffer of at least sixteen bytes, a chunk that fits behind a
header, and a read that has read no more than its output holds (`Bounded`) are what every range of a round
rests on; `sound_round` is the step, `sound_readRounds` the induction, and `never_out_of_bounds` the theorem
over whole runs.
-/

namespace ScopeLink

namespace Checked

variable {patience : Nat}

/-! ## Lengths and ranges -/

/-- Lengths of what fits in memory. -/
def Allocatable (n : Nat) : Prop := n < 9223372036854775808

instance : DecidablePred Allocatable := fun n => inferInstanceAs (Decidable (n < 9223372036854775808))

/-- A check that passes. -/
theorem bind_of_ok {α β : Type} {x : Except Fault α} {a : α} {f : α → Except Fault β} (h : x = .ok a) :
    (x >>= f) = f a := by
  rw [h]
  rfl

section

variable {b data : Bytes} {start stop n : Nat}

theorem add_eq {a b : Nat} (h : a + b < lengthSize) : add a b = .ok (a + b) := if_pos h

theorem mul_eq {a b : Nat} (h : a * b < lengthSize) : mul a b = .ok (a * b) := if_pos h

theorem sub_eq {a b : Nat} (h : b ≤ a) : sub a b = .ok (a - b) := if_pos h

theorem slice_eq (h : start ≤ stop) (h' : stop ≤ b.length) :
    slice b start stop = .ok ((b.take stop).drop start) := if_pos ⟨h, h'⟩

theorem slice_front (h : stop ≤ b.length) : slice b 0 stop = .ok (b.take stop) :=
  slice_eq (Nat.zero_le _) h

theorem store_eq (h : stop ≤ b.length) (hstop : start + data.length = stop) :
    store b start stop data = .ok (Bytes.splice b start data) := by
  unfold store
  rw [if_pos ⟨by omega, h⟩, if_pos (by omega)]

theorem store_front (h : stop ≤ b.length) (hstop : data.length = stop) :
    store b 0 stop data = .ok (Bytes.overlay b data) := by
  rw [store_eq h (by omega), Bytes.splice, Bytes.overlay, List.take_zero, List.nil_append, Nat.zero_add,
    List.take_of_length_le (l := data) (by omega)]

theorem clear_eq (h : start ≤ b.length) :
    clear b start = .ok (b.take start ++ Bytes.zeros (b.length - start)) := if_pos h

end

/-! ## Headers and frames -/

theorem nextTag_eq (last : UInt8) : nextTag last = .ok (Tag.next last) := by
  have h : (last % 255).toNat < 255 := by
    rw [UInt8.toNat_mod]
    exact Nat.mod_lt _ (by decide)
  exact if_pos (by simp only [UInt8.size]; omega)

theorem paddedLen_eq {n : Nat} (h : Allocatable n) : paddedLen n = .ok (Frame.paddedLen n) := by
  simp only [Allocatable] at h
  unfold paddedLen
  by_cases hrest : 0 < n % Frame.alignment
  · have hwords : n / Frame.alignment + 1 < lengthSize := by
      simp only [Frame.alignment, lengthSize]
      omega
    rw [if_pos hrest, add_eq hwords]
    show mul (n / Frame.alignment + 1) Frame.alignment = _
    simp only [Frame.paddedLen, Frame.alignment] at *
    rw [mul_eq (by simp only [lengthSize]; omega)]
    congr 1
    omega
  · rw [if_neg hrest]
    show mul (n / Frame.alignment) Frame.alignment = _
    simp only [Frame.paddedLen, Frame.alignment] at *
    rw [mul_eq (by simp only [lengthSize]; omega)]
    congr 1
    omega

theorem paddedLen_bound {n : Nat} : Frame.paddedLen n ≤ n + 3 := by
  simp only [Frame.paddedLen, Frame.alignment]
  omega

theorem frameLen_eq {n : Nat} (h : Allocatable n) : frameLen n = .ok (Frame.len n) := by
  have hpad := @paddedLen_bound n
  simp only [Allocatable] at h
  unfold frameLen
  rw [paddedLen_eq h]
  exact add_eq (by simp only [lengthSize, Header.byteCount]; omega)

theorem encode_eq (h : Header) : encode h = .ok h.encode := by
  rfl

theorem item_take {b : Bytes} {i n : Nat} (hi : i < n) (hn : n ≤ b.length) :
    item (b.take n) i = .ok (b.getD i 0) := by
  have hb : i < b.length := Nat.lt_of_lt_of_le hi hn
  unfold item
  rw [List.getElem?_take_of_lt hi, List.getElem?_eq_getElem hb]
  simp [List.getD_eq_getElem?_getD, hb]

theorem take_drop_succ {b : Bytes} {i n : Nat} (h : i < b.length) :
    (b.drop i).take (n + 1) = b.getD i 0 :: (b.drop (i + 1)).take n := by
  rw [List.drop_eq_getElem_cons h, List.take_succ_cons]
  simp [List.getD_eq_getElem?_getD, h]

theorem decode_eq (b : Bytes) : decode b = .ok (Header.decode b) := by
  unfold decode Header.decode
  by_cases short : b.length < Header.byteCount
  · rw [if_pos short, if_pos short]
    rfl
  have hlen : Header.byteCount ≤ b.length := Nat.not_lt.mp short
  have hsize : (b.drop 4).take 4 = [b.getD 4 0, b.getD 5 0, b.getD 6 0, b.getD 7 0] := by
    have hword {i : Nat} (hi : i < 12) : i < b.length := Nat.lt_of_lt_of_le hi hlen
    rw [take_drop_succ (hword (by decide)), take_drop_succ (hword (by decide)),
      take_drop_succ (hword (by decide)), take_drop_succ (hword (by decide)), List.take_zero]
  have hitem (i : Nat) (hi : i < Header.byteCount) :
      item (b.take Header.byteCount) i = .ok (b.getD i 0) := item_take hi hlen
  rw [if_neg short, if_neg short, hsize, bind_of_ok (slice_front hlen), bind_of_ok (hitem 0 (by decide)),
    bind_of_ok (hitem 1 (by decide)), bind_of_ok (hitem 2 (by decide)), bind_of_ok (hitem 4 (by decide)),
    bind_of_ok (hitem 5 (by decide)), bind_of_ok (hitem 6 (by decide)), bind_of_ok (hitem 7 (by decide)),
    bind_of_ok (hitem 8 (by decide))]
  rfl

/-- A frame put together part by part is the frame. -/
theorem frame_eq {payload : Bytes} (buffer : Bytes) (tag : UInt8) (h : Allocatable payload.length) :
    frame buffer tag payload = .ok (Frame.write buffer tag payload) := by
  have hpad := Frame.le_paddedLen payload.length
  have hlen : Frame.len payload.length = Header.byteCount + Frame.paddedLen payload.length := rfl
  unfold frame Frame.write
  rw [bind_of_ok (frameLen_eq h)]
  by_cases hfits : buffer.length < Frame.len payload.length ∨ UInt32.size ≤ payload.length
  · rw [if_pos hfits, if_pos hfits]
    rfl
  have hstop : Header.byteCount + payload.length < lengthSize := by
    simp only [Allocatable, Header.byteCount, lengthSize] at *
    omega
  rw [if_neg hfits, if_neg hfits, bind_of_ok (encode_eq _)]
  generalize hheader : (Header.out tag (UInt32.ofNat payload.length) true).encode = header
  generalize hfront : buffer.take (Frame.len payload.length) = front
  have hcount : header.length = Header.byteCount := by rw [← hheader, Header.length_encode]
  have hroom : front.length = Frame.len payload.length := by
    rw [← hfront, List.length_take]
    omega
  have hlaid : (Bytes.overlay front header).length = front.length := Bytes.length_overlay _ _
  have hspliced : (Bytes.splice (Bytes.overlay front header) Header.byteCount payload).length =
      front.length := by
    rw [Bytes.length_splice (by omega), hlaid]
  have hfirst : (Bytes.overlay front header).take Header.byteCount = header := by
    rw [← hcount]
    exact Bytes.take_overlay (by omega)
  have hrest : Frame.len payload.length - (Header.byteCount + payload.length) =
      Frame.paddedLen payload.length - payload.length := by omega
  rw [bind_of_ok (store_front (by omega) hcount), bind_of_ok (add_eq hstop),
    bind_of_ok (store_eq (by omega) rfl), bind_of_ok (clear_eq (by omega)), Bytes.take_splice (by omega), hfirst,
    hspliced, hroom, hrest, Frame.message, Frame.encode, hheader]
  rfl

/-! ## Replies -/

theorem acceptReply_eq (policy : TagPolicy) (requestTag : UInt8) (requested remaining : Nat) (reply : Bytes) :
    acceptReply policy requestTag requested remaining reply =
      .ok (Session.acceptReply policy requestTag requested remaining reply) := by
  unfold acceptReply Session.acceptReply
  rw [bind_of_ok (decode_eq reply)]
  cases Header.decode reply with
  | none => rfl
  | some h =>
    have hwhole : Header.byteCount + h.size.toNat < lengthSize := by
      have := h.size.toNat_lt
      simp only [Header.byteCount, lengthSize]
      omega
    dsimp only
    rw [bind_of_ok (add_eq hwhole)]
    split
    · rfl
    split
    · rfl
    split
    · rfl
    split
    · rfl
    split
    · rfl
    · rfl

theorem chunk_eq (config : Config) : chunk config = .ok config.chunk := sub_eq (Nat.mod_le _ _)

/-! ## Fields -/

theorem readAcquireState_eq (reply : String) :
    readAcquireState reply = .ok (Instrument.readAcquireState reply) := by
  unfold readAcquireState expectFields Instrument.readAcquireState
  rcases Text.fields 2 reply.toList with _ | ⟨mode, _ | ⟨flag, _ | ⟨more, rest⟩⟩⟩ <;> rfl

theorem readRunState_eq (reply : String) : readRunState reply = .ok (Instrument.readRunState reply) := by
  unfold readRunState expectFields Instrument.readRunState
  rcases Text.fields 1 reply.toList with _ | ⟨field, _ | ⟨more, rest⟩⟩
  · rfl
  · have hitem : item [field] 0 = .ok field := rfl
    rw [if_neg (by simp)]
    dsimp only
    rw [bind_of_ok hitem]
    cases Instrument.runMnemonic field <;> rfl
  · rfl

theorem readStatus_eq (f : Instrument.StatusForm) (reply : String) : readStatus f reply = .ok (f.read reply) := by
  cases f with
  | modeAndFlag => exact readAcquireState_eq reply
  | mnemonic => exact readRunState_eq reply

theorem readIdentity_eq (reply : String) : readIdentity reply = .ok (Instrument.Identity.read reply) := by
  unfold readIdentity expectFields Instrument.Identity.read
  rcases Text.fields 4 reply.toList with
    _ | ⟨vendor, _ | ⟨model, _ | ⟨serial, _ | ⟨revision, _ | ⟨more, rest⟩⟩⟩⟩⟩ <;> rfl

/-! ## Dialogues without a fault -/

/-- A transfer into a buffer reports no more than there is room for. -/
def Within : (c : Port.Call) → c.Answer → Prop
  | .bulkIn room _, delivery => ∀ n, delivery.count = .ok n → n ≤ room
  | .controlIn _ _ room _, delivery => ∀ n, delivery.count = .ok n → n ≤ room
  | .openEndpoints, _ => True
  | .closeEndpoints, _ => True
  | .maxPacket, _ => True
  | .bulkOut .., _ => True

instance decidableWithin : ∀ (c : Port.Call) (answer : c.Answer), Decidable (Within c answer)
  | .bulkIn room _, ⟨_, .ok n⟩ | .controlIn _ _ room _, ⟨_, .ok n⟩ =>
    decidable_of_iff (n ≤ room) ⟨fun h _ hn => Except.ok.inj hn ▸ h, fun h => h n rfl⟩
  | .bulkIn .., ⟨_, .error _⟩ | .controlIn .., ⟨_, .error _⟩ => .isTrue nofun
  | .openEndpoints, _ | .closeEndpoints, _ | .maxPacket, _ | .bulkOut .., _ => .isTrue trivial

/-- A port that reports no more than there is room for. -/
def Obliging {σ : Type} (port : Handler Port σ) : Prop := ∀ c x, Within c (port c x).1

/-- On an obliging port, `g` goes through without a fault and comes to what `d` comes to, which satisfies
`Q`. -/
def Sound {α : Type} (Q : α → Prop) (g : Guarded α) (d : Dialogue Port α) : Prop :=
  Dialogue.Alongside (fun c answer answer' => answer' = answer ∧ Within c answer)
    (fun checked result => checked = .ok result ∧ Q result) g.run d

namespace Sound

variable {α β : Type} {P Q : α → Prop} {R : β → Prop}

theorem pure {a : α} (h : Q a) : Sound Q (Pure.pure a) (.done a) := .done ⟨rfl, h⟩

theorem mono {g : Guarded α} {d : Dialogue Port α} (h : Sound P g d) (hpq : ∀ a, P a → Q a) : Sound Q g d :=
  Dialogue.Alongside.mono h fun _ _ ⟨hok, ha⟩ => ⟨hok, hpq _ ha⟩

theorem bind {g : Guarded α} {d : Dialogue Port α} {f : α → Guarded β} {f' : α → Dialogue Port β}
    (h : Sound P g d) (hf : ∀ a, P a → Sound R (f a) (f' a)) : Sound R (g >>= f) (d >>= f') := by
  refine Dialogue.Alongside.bind h ?_
  rintro _ a ⟨rfl, ha⟩
  exact hf a ha

/-- A step that is within bounds is done. -/
theorem check {x : Except Fault α} {a : α} {f : α → Guarded β} {d : Dialogue Port β} (h : x = .ok a)
    (hf : Sound R (f a) d) : Sound R ((liftM x : Guarded α) >>= f) d := by
  subst h
  exact hf

theorem checked {x : Except Fault α} {a : α} (h : x = .ok a) (ha : Q a) :
    Sound Q (liftM x : Guarded α) (.done a) := by
  subst h
  exact .pure ha

/-- A call is answered within bounds. -/
theorem call {c : Port.Call} {f : c.Answer → Guarded β} {f' : c.Answer → Dialogue Port β}
    (hf : ∀ answer, Within c answer → Sound R (f answer) (f' answer)) :
    Sound R ((liftM (Dialogue.ask (I := Port) c) : Guarded c.Answer) >>= f) (.call (I := Port) c f') := by
  refine Dialogue.Alongside.call ?_
  rintro _ answer ⟨rfl, hwithin⟩
  exact hf answer hwithin

/-- A dialogue in which nothing has to be checked. -/
theorem lift (d : Dialogue Port α) : Sound (fun _ => True) (liftM d : Guarded α) d := by
  induction d with
  | done a => exact .done ⟨rfl, trivial⟩
  | call c next ih =>
    refine Dialogue.Alongside.call ?_
    rintro _ answer ⟨rfl, -⟩
    exact ih answer

/-- What the plain dialogue always comes to. -/
theorem always {g : Guarded α} {d : Dialogue Port α} (h : Sound P g d)
    (hd : d.Always fun _ a => Q a) : Sound (fun a => P a ∧ Q a) g d := by
  unfold Sound at h ⊢
  generalize g.run = x at h ⊢
  induction h with
  | done hab => exact .done ⟨hab.1, hab.2, hd⟩
  | call _ ih =>
    refine Dialogue.Alongside.call ?_
    rintro _ answer ⟨rfl, hwithin⟩
    exact ih _ _ ⟨rfl, hwithin⟩ (hd answer)

end Sound

/-! ## Exchanges -/

theorem le_of_frame {buffer payload outBuf : Bytes} {tag : UInt8} {n : Nat}
    (h : Frame.write buffer tag payload = some (n, outBuf)) : n ≤ outBuf.length := by
  rw [(Frame.write_eq_some h).2]
  unfold Frame.write at h
  split at h
  · cases h
  · cases h
    omega

/-- What a write lays out and sends is within the buffer. -/
theorem sound_write (s : Session) {data : Bytes} (h : Allocatable data.length) (timeout : Nat) :
    Sound (fun r => Session.Kept s r.2) (write s data timeout) (s.write data timeout) := by
  have htotal : data.length + Header.byteCount < lengthSize := by
    simp only [Allocatable, Header.byteCount, lengthSize] at *
    omega
  refine (Sound.always (P := fun _ => True) ?_ ((Session.write_written s data timeout).mono
    fun _ _ hwritten => hwritten.kept)).mono fun _ hr => hr.2
  unfold write Session.write
  rw [Port.maxPacket_bind]
  refine .call fun max _ => .check (add_eq htotal) ?_
  split
  · exact .pure trivial
  split
  · exact .pure trivial
  refine .check (frameLen_eq h) ?_
  split
  · exact .pure trivial
  refine .check (nextTag_eq _) (.check (frame_eq _ _ h) ?_)
  dsimp only
  cases hframe : Frame.write s.outBuf (Tag.next s.lastTag) data with
  | none => exact .pure trivial
  | some framed =>
    obtain ⟨n, outBuf⟩ := framed
    dsimp only
    refine .check (slice_front (le_of_frame hframe)) ((Sound.lift _).bind fun outcome _ => ?_)
    cases outcome with
    | error e => exact .pure trivial
    | ok u => exact .pure trivial

/-- A read whose buffers have the size of the settings, and that has read no more than it has room for. -/
structure Bounded (r : Session.Reading) : Prop where
  sized : r.session.Sized
  allocated : Allocatable r.session.config.bufferSize
  output : Allocatable r.output.length
  got : r.got ≤ r.output.length

/-- What a bounded read comes to without a fault: no halt for an overrun, and a bounded read again. -/
structure Stepped {α : Type} (r : Session.Reading) (p : Outcome SessionError α × Session.Reading) : Prop where
  outcome : p.1 ≠ .halted .overrun
  bounded : Bounded p.2
  length : p.2.output.length = r.output.length

/-- Why a dialogue was halted does not depend on what it would have come to. -/
theorem halted_ne_overrun {ε ε' α β : Type} {stop : Halt}
    (h : (.halted stop : Outcome ε α) ≠ .halted .overrun) : (.halted stop : Outcome ε' β) ≠ .halted .overrun := by
  rintro ⟨⟩
  exact h rfl

theorem Bounded.stepped {α : Type} {r : Session.Reading} {p : Outcome SessionError α × Session.Reading}
    (h : Bounded r) (outcome : p.1 ≠ .halted .overrun) (kept : Session.Kept r.session p.2.session)
    (length : p.2.output.length = r.output.length) (got : p.2.got ≤ p.2.output.length) : Stepped r p := by
  refine ⟨outcome, ⟨kept.sized h.sized, ?_, ?_, got⟩, length⟩
  · rw [kept.config]
    exact h.allocated
  · rw [length]
    exact h.output

theorem chunk_le {config : Config} (h : Config.minBufferSize ≤ config.bufferSize)
    (allocated : Allocatable config.bufferSize) : Allocatable config.chunk := by
  obtain ⟨-, -, hchunk⟩ := Config.chunk_bounds h
  simp only [Allocatable] at *
  omega

/-- The payload of a reply is cut out of the buffer, and laid over as much of the output. -/
theorem collect_eq {r : Session.Reading} {requested remaining received : Nat}
    (hreceived : received ≤ r.session.inBuf.length) (hremaining : r.got + remaining ≤ r.output.length)
    (houtput : Allocatable r.output.length) :
    collect r requested remaining received =
      .ok (match Session.acceptReply r.session.config.tagPolicy r.session.lastTag requested remaining
          (r.session.inBuf.take received) with
        | .error e => (.failed (.framing e), r)
        | .ok h => (.ok h.endOfMessage, r.append (Session.payload (r.session.inBuf.take received)))) := by
  unfold collect
  rw [bind_of_ok (slice_front hreceived), bind_of_ok (acceptReply_eq _ _ _ _ _)]
  cases haccept : Session.acceptReply r.session.config.tagPolicy r.session.lastTag requested remaining
    (r.session.inBuf.take received) with
  | error e => rfl
  | ok h =>
    obtain ⟨hdecode, -, -, -, -, hsize, hwhole⟩ := Session.acceptReply_ok_iff.mp haccept
    rw [List.length_take, Nat.min_eq_left hreceived] at hwhole
    have hlimit := h.size.toNat_lt
    have hgot : r.got + h.size.toNat < lengthSize := by
      simp only [Allocatable, lengthSize] at *
      omega
    have hstop : Header.byteCount + h.size.toNat < lengthSize := by
      simp only [Header.byteCount, lengthSize]
      omega
    have hpayload : Session.payload (r.session.inBuf.take received) =
        ((r.session.inBuf.take received).drop Header.byteCount).take h.size.toNat := by
      rw [Session.payload, hdecode]
    have hcut : (r.session.inBuf.take (Header.byteCount + h.size.toNat)).drop Header.byteCount =
        Session.payload (r.session.inBuf.take received) := by
      rw [hpayload, List.take_drop, List.take_take, Nat.min_eq_left hwhole]
    have hlen : (Session.payload (r.session.inBuf.take received)).length = h.size.toNat := by
      rw [hpayload, List.length_take, List.length_drop, List.length_take]
      omega
    dsimp only
    rw [bind_of_ok (add_eq hgot), bind_of_ok (add_eq hstop),
      bind_of_ok (slice_eq (Nat.le_add_right _ _) (by omega)), hcut,
      bind_of_ok (store_eq (by omega) (by rw [hlen])), Session.Reading.append, hlen]
    rfl

theorem reply_of_within {buffer : Bytes} {room received : Nat} {delivery : Port.Delivery}
    (hcount : delivery.count = .ok received) (hreceived : received ≤ buffer.length) :
    delivery.reply buffer room = some ((delivery.into buffer room).take received) := by
  rw [Port.Delivery.reply, hcount]
  exact if_neg (by rw [Port.Delivery.length_into]; omega)

/-- A reply within the room there is for it is collected as the round receives it. -/
theorem collect_spent {r : Session.Reading} {room received : Nat} {delivery : Port.Delivery} (h : Bounded r)
    (hcount : delivery.count = .ok received) (hreceived : received ≤ r.session.inBuf.length) :
    collect (r.spent room delivery) r.requested r.remaining received = .ok (r.receiving room delivery) := by
  have hremaining : r.got + r.remaining ≤ r.output.length := by
    have := h.got
    simp only [Session.Reading.remaining]
    omega
  rw [Session.Reading.receiving_of_reply (reply_of_within hcount hreceived)]
  exact collect_eq (r := r.spent room delivery) (by rwa [Session.Reading.spent, Port.Delivery.length_into])
    hremaining h.output

/-- Such a round does not halt, and reads no more than there is room for. -/
theorem receiving_stepped {r : Session.Reading} {room received : Nat} {delivery : Port.Delivery} (h : Bounded r)
    (hcount : delivery.count = .ok received) (hreceived : received ≤ r.session.inBuf.length) :
    Stepped r (r.receiving room delivery) := by
  have kept := r.kept_spent room delivery
  rw [Session.Reading.receiving_of_reply (reply_of_within hcount hreceived)]
  cases haccept : Session.acceptReply r.session.config.tagPolicy r.request.tag r.requested r.remaining
    ((delivery.into r.session.inBuf room).take received) with
  | error e => exact h.stepped (by simp) kept rfl h.got
  | ok header =>
    obtain ⟨hdecode, -, -, -, -, hsize, -⟩ := Session.acceptReply_ok_iff.mp haccept
    have hlen : (Session.payload ((delivery.into r.session.inBuf room).take received)).length ≤ r.remaining := by
      rw [Session.payload, hdecode]
      exact Nat.le_trans (List.length_take_le _ _) hsize
    have hgot : r.got + (Session.payload ((delivery.into r.session.inBuf room).take received)).length ≤
        r.output.length := by
      have := h.got
      simp only [Session.Reading.remaining] at hlen
      omega
    have hkeeps := Session.Reading.length_append (r := r.spent room delivery) hgot
    exact h.stepped (by simp) kept hkeeps (by rw [hkeeps]; exact hgot)

/-- A round is within bounds as long as there is something left to read. -/
theorem sound_round {r : Session.Reading} (h : Bounded r) (more : r.got < r.output.length) (timeout : Nat) :
    Sound (Stepped r) (round timeout r) (Session.round timeout r) := by
  have hrequested : Allocatable r.requested :=
    Nat.lt_of_le_of_lt (Nat.min_le_right _ _) (chunk_le h.sized.least h.allocated)
  have hleast : Header.byteCount ≤ r.session.outBuf.length := by
    rw [h.sized.out]
    exact Nat.le_trans (by decide) h.sized.least
  have hrequest : slice r.requesting.outBuf 0 Header.byteCount = .ok r.request.encode := by
    rw [slice_front (by rw [Session.Reading.requesting, Bytes.length_overlay]; exact hleast),
      Session.Reading.take_requesting h.sized]
  rw [Session.round_eq h.sized]
  unfold round
  refine .check (sub_eq (Nat.le_of_lt more)) (.check (chunk_eq _) (.check (nextTag_eq _)
    (.check (encode_eq _) (.check (store_front hleast (Header.length_encode _)) (.check hrequest ?_)))))
  refine (Sound.lift _).bind fun outcome _ => ?_
  cases outcome with
  | error e => exact .pure (h.stepped (by simp) (r.kept_requesting _ rfl) rfl h.got)
  | ok u =>
    refine .check (frameLen_eq hrequested) (.check (slice_front (Nat.min_le_right _ _)) ?_)
    dsimp only
    rw [Port.bulkIn_bind]
    refine .call fun delivery within => ?_
    cases hcount : delivery.count with
    | error e =>
      have hreceiving : r.receiving r.room delivery = (.failed (.ofTransfer e), r.spent r.room delivery) := by
        unfold Session.Reading.receiving
        rw [hcount]
        rfl
      show Sound (Stepped r) _ (.done (r.receiving r.room delivery))
      rw [hreceiving]
      exact .pure (h.stepped (by simp) (r.kept_spent r.room delivery) rfl h.got)
    | ok received =>
      have hreceived : received ≤ r.session.inBuf.length :=
        Nat.le_trans (within received hcount) (Nat.min_le_right _ _)
      exact .checked (collect_spent h hcount hreceived) (receiving_stepped h hcount hreceived)

/-- Rounds are within bounds to their end, and what they report has been read. -/
theorem sound_readRounds (timeout : Nat) : ∀ (rounds : Nat) {r : Session.Reading}, Bounded r →
    Sound (fun p => Stepped r p ∧ ∀ len, p.1 = .ok len → len ≤ p.2.output.length)
      (readRounds timeout rounds r) (Session.readRounds timeout rounds r)
  | rounds, r, h => by
    have hsame {outcome : Outcome SessionError Nat} (hout : outcome ≠ .halted .overrun) :
        Stepped r (outcome, r) := h.stepped hout (.refl _) rfl h.got
    by_cases full : r.output.length ≤ r.got
    · rw [Session.readRounds_of_full full]
      unfold readRounds
      rw [if_pos full]
      refine .pure ⟨hsame (by simp), fun len hlen => ?_⟩
      cases hlen
      exact h.got
    cases rounds with
    | zero =>
      unfold readRounds Session.readRounds
      rw [if_neg full, if_neg full]
      exact .pure ⟨hsame (by simp), by simp⟩
    | succ rounds =>
      rw [Session.readRounds_succ full, readRounds.eq_def]
      dsimp only
      rw [if_neg full]
      refine (sound_round h (Nat.not_le.mp full) timeout).bind ?_
      rintro ⟨outcome, r'⟩ ⟨hout, h', hlength⟩
      cases outcome with
      | ok last =>
        cases last with
        | true =>
          refine .pure ⟨⟨by simp, h', hlength⟩, fun len hlen => ?_⟩
          cases hlen
          exact h'.got
        | false =>
          refine (sound_readRounds timeout rounds h').mono ?_
          rintro p ⟨⟨hout', h'', hlength'⟩, hread⟩
          exact ⟨⟨hout', h'', hlength'.trans hlength⟩, hread⟩
      | failed e => exact .pure ⟨⟨by simp, h', hlength⟩, by simp⟩
      | halted stop => exact .pure ⟨⟨halted_ne_overrun hout, h', hlength⟩, by simp⟩

/-- What a read comes to without a fault: no halt for an overrun, an output of the length it had, and no more
reported than it holds. -/
structure Reported (output : Bytes) (r : Session.ReadResult) : Prop where
  outcome : r.outcome ≠ .halted .overrun
  length : r.output.length = output.length
  read : ∀ len, r.outcome = .ok len → len ≤ r.output.length

/-- A session that fits in memory. -/
structure Housed (s : Session) : Prop where
  sized : s.Sized
  allocated : Allocatable s.config.bufferSize

theorem Housed.kept {s s' : Session} (h : Housed s) (kept : Session.Kept s s') : Housed s' :=
  ⟨kept.sized h.sized, by rw [kept.config]; exact h.allocated⟩

theorem sound_read {s : Session} (h : Housed s) {output : Bytes} (hout : Allocatable output.length)
    (timeout : Nat) :
    Sound (Reported output) (read s patience output timeout) (s.read patience output timeout) := by
  unfold read Session.read
  split
  · exact .pure ⟨nofun, rfl, nofun⟩
  · have hstart : Bounded ⟨s, output, 0⟩ := ⟨h.sized, h.allocated, hout, Nat.zero_le _⟩
    refine (sound_readRounds timeout _ hstart).bind ?_
    rintro ⟨outcome, r⟩ ⟨⟨houtcome, -, hlength⟩, hread⟩
    exact .pure ⟨houtcome, hlength, hread⟩

theorem sound_ask {s : Session} (h : Housed s) {query output : Bytes} (hquery : Allocatable query.length)
    (hout : Allocatable output.length) (timeout : Nat) :
    Sound (Reported output) (ask s patience query output timeout) (s.ask patience query output timeout) := by
  refine (sound_write s hquery timeout).bind ?_
  rintro ⟨outcome, s'⟩ kept
  cases outcome with
  | error e => exact .pure ⟨nofun, rfl, nofun⟩
  | ok n => exact sound_read (h.kept kept) hout timeout

theorem sound_control {α : Type} (s : Session) (request : UInt8) (room : Nat)
    (decode : Bytes → Except SessionError α) :
    Sound (· ≠ .halted .overrun) (control s request room decode) (s.control request room decode) := by
  unfold control Session.control
  rw [Port.controlIn_bind]
  refine .call fun delivery within => ?_
  cases hcount : delivery.count with
  | error e => exact .pure nofun
  | ok len =>
    have hlen : len ≤ room := within len hcount
    have hroom : len ≤ (delivery.into (Bytes.zeros room) room).length := by
      rwa [Port.Delivery.length_into, Bytes.length_zeros]
    dsimp only
    rw [if_neg (Nat.not_lt.mpr hlen)]
    refine .check (slice_front hroom) (.pure ?_)
    cases decode ((delivery.into (Bytes.zeros room) room).take len) <;> exact nofun

/-! ## Instruments -/

theorem ofExcept_ne_halted {ε α : Type} (x : Except ε α) (h : Halt) : Outcome.ofExcept x ≠ .halted h := by
  cases x <;> exact nofun

theorem sound_query {α : Type} {s : Session} (h : Housed s) {question : String} {room : Nat}
    (hquestion : Allocatable (Bytes.ofString question).length) (hroom : Allocatable room)
    {interpret : String → Except Fault (Except InstrumentError α)}
    {interpret' : String → Except InstrumentError α} (hinterpret : ∀ text, interpret text = .ok (interpret' text)) :
    Sound (fun r => r.1 ≠ .halted .overrun) (query s patience question room interpret)
      (Instrument.query s patience question room interpret') := by
  refine (sound_ask h hquestion (by rwa [Bytes.length_zeros]) _).bind ?_
  rintro ⟨outcome, output, s'⟩ ⟨hout, -, hread⟩
  cases outcome with
  | failed e => exact .pure nofun
  | halted stop => exact .pure (halted_ne_overrun hout)
  | ok len =>
    refine .check (slice_front (hread len rfl)) ?_
    show Sound _ _ (.done ((Outcome.ofExcept (Instrument.answerText (output.take len))).andThen
      fun text => .ofExcept (interpret' text), s'))
    dsimp only
    cases Instrument.answerText (output.take len) with
    | error e => exact .pure nofun
    | ok text => exact .check (hinterpret text) (.pure (ofExcept_ne_halted _ _))

/-! ## Every operation -/

/-- The bytes that an operation is given fit in memory. -/
def Given : Session.Operation → Prop
  | .write data _ | .writeLength data _ => Allocatable data.length
  | .read output _ | .readLength output _ => Allocatable output.length
  | .ask query output _ | .askLength query output _ => Allocatable query.length ∧ Allocatable output.length
  | .setState profile state => Allocatable (Bytes.ofString (profile.command state)).length
  | .start | .stop | .unload | .pulse | .capabilities | .identify | .detect | .getState _ => True

instance : DecidablePred Given
  | .write data _ | .writeLength data _ => inferInstanceAs (Decidable (Allocatable data.length))
  | .read output _ | .readLength output _ => inferInstanceAs (Decidable (Allocatable output.length))
  | .ask query output _ | .askLength query output _ =>
    inferInstanceAs (Decidable (Allocatable query.length ∧ Allocatable output.length))
  | .setState profile state =>
    inferInstanceAs (Decidable (Allocatable (Bytes.ofString (profile.command state)).length))
  | .start | .stop | .unload | .pulse | .capabilities | .identify | .detect | .getState _ =>
    inferInstanceAs (Decidable True)

/-- An operation met more bytes than there is room for. -/
def Overran : (op : Session.Operation) → op.Answer → Prop
  | .start, _ => False
  | .stop, _ => False
  | .unload, _ => False
  | .write .., _ => False
  | .writeLength .., _ => False
  | .setState .., _ => False
  | .read .., (outcome, _) => outcome = .halted .overrun
  | .ask .., (outcome, _) => outcome = .halted .overrun
  | .readLength .., (outcome, _) => outcome = .halted .overrun
  | .askLength .., (outcome, _) => outcome = .halted .overrun
  | .pulse, outcome => outcome = .halted .overrun
  | .capabilities, outcome => outcome = .halted .overrun
  | .identify, outcome => outcome = .halted .overrun
  | .detect, outcome => outcome = .halted .overrun
  | .getState _, outcome => outcome = .halted .overrun

theorem orElse_ne_overrun {ε ε' α : Type} {outcome : Outcome ε α} (h : outcome ≠ .halted .overrun) (a : α) :
    (outcome.orElse a : Outcome ε' α) ≠ .halted .overrun := by
  cases outcome with
  | halted stop => exact halted_ne_overrun h
  | _ => exact nofun

/-- **Every operation is within bounds.** -/
theorem sound_serve (patience : Nat) (op : Session.Operation) {s : Session} (h : Housed s) (hop : Given op) :
    Sound (fun r => ¬ Overran op r.1) (serve patience op s) (Session.serve patience op s) := by
  have hidentify : Sound (fun r => r.1 ≠ .halted .overrun) (identify s patience)
      (Instrument.identify s patience) := sound_query h (by decide) (by decide) readIdentity_eq
  -- a flattened read is a read and one more step
  have hflat {output : Bytes} {g : Guarded Session.ReadResult} {d : Dialogue Port Session.ReadResult}
      (hg : Sound (Reported output) g d) :
      Sound (fun r => r.1.1 ≠ .halted .overrun)
        (g >>= fun r => pure (((r.outcome.orElse 0 : Outcome SessionError Nat), r.output), r.session))
        (Session.ReadResult.answered <$> (d >>= fun r => .done { r with outcome := r.outcome.orElse 0 })) := by
    rw [Dialogue.map_def, Dialogue.bind_assoc]
    exact hg.bind fun _ hr => Sound.pure (orElse_ne_overrun hr.outcome 0)
  cases op with
  | start => exact (Sound.lift _).mono fun _ _ => id
  | stop => exact (Sound.lift _).bind fun _ _ => .pure id
  | unload => exact (Sound.lift _).bind fun _ _ => .pure id
  | write data timeout => exact (sound_write s hop timeout).mono fun _ _ => id
  | read output timeout => exact (sound_read h hop timeout).bind fun _ hr => .pure hr.outcome
  | ask query output timeout => exact (sound_ask h hop.1 hop.2 timeout).bind fun _ hr => .pure hr.outcome
  | writeLength data timeout =>
    refine (sound_write s hop timeout).bind ?_
    rintro ⟨outcome, s'⟩ -
    cases outcome <;> exact .pure id
  | readLength output timeout =>
    exact hflat (sound_read h hop timeout)
  | askLength query output timeout =>
    exact hflat (sound_ask h hop.1 hop.2 timeout)
  | pulse => exact (sound_control s _ _ _).bind fun _ hr => .pure hr
  | capabilities => exact (sound_control s _ _ _).bind fun _ hr => .pure hr
  | identify => exact hidentify
  | detect =>
    refine hidentify.bind ?_
    rintro ⟨outcome, s'⟩ hout
    refine .pure (orElse_ne_overrun ?_ none)
    cases outcome with
    | halted stop => exact halted_ne_overrun hout
    | _ => exact nofun
  | setState profile state =>
    refine (sound_write s hop _).bind ?_
    rintro ⟨outcome, s'⟩ -
    cases outcome with
    | error e => exact .pure id
    | ok written =>
      dsimp only
      split <;> exact .pure id
  | getState profile =>
    have hquestion : Allocatable (Bytes.ofString profile.status.query).length := by
      cases profile.status <;> exact (by decide)
    exact sound_query h hquestion (by decide) (readStatus_eq _)

/-! ## The room of a transfer in -/

/-- With these calls made, a transfer in has the room of the reply to the request that was sent last. -/
def Offered (config : Config) (earlier : List (Event Port)) (room : Nat) : Prop :=
  ∃ requested tag timeout, 0 < requested ∧ requested ≤ config.chunk ∧
    earlier.getLast? = some ⟨.bulkOut (Header.request tag (UInt32.ofNat requested)).encode timeout,
      .ok Header.byteCount⟩ ∧
    room = Header.byteCount + Frame.paddedLen requested

theorem Offered.behind {config : Config} {earlier : List (Event Port)} {room : Nat}
    (h : Offered config earlier room) (before : List (Event Port)) : Offered config (before ++ earlier) room := by
  obtain ⟨requested, tag, timeout, hpos, hchunk, hlast, hroom⟩ := h
  exact ⟨requested, tag, timeout, hpos, hchunk, by rw [List.getLast?_append, hlast]; rfl, hroom⟩

theorem offered_request {r : Session.Reading} (sized : r.session.Sized) (more : r.got < r.output.length)
    (timeout : Nat) :
    Offered r.session.config [⟨.bulkOut r.request.encode timeout, .ok Header.byteCount⟩] r.room := by
  obtain ⟨hleast, -, -⟩ := Config.chunk_bounds sized.least
  have hpos : 0 < r.requested := by
    simp only [Session.Reading.requested, Session.Reading.remaining, Frame.alignment] at *
    omega
  exact ⟨r.requested, _, timeout, hpos, Nat.min_le_right _ _, rfl,
    Nat.min_eq_left (Session.Reading.len_requested_le sized)⟩

theorem offered_of_rounds {timeout room time : Nat} {r r' r'' : Session.Reading} {before last : List (Event Port)}
    {outcome : Outcome SessionError Nat} (h : Session.Rounds timeout r before r')
    (hlast : Session.LastRound timeout r' last outcome r'') (sized : r.session.Sized)
    {earlier later : List (Event Port)} {delivery : Port.Delivery}
    (hsplit : before ++ last = earlier ++ ⟨.bulkIn room time, delivery⟩ :: later) :
    Offered r.session.config earlier room := by
  induction h generalizing earlier with
  | nil r =>
    cases hlast with
    | full | unfinished => simp at hsplit
    | unsent =>
      rw [List.nil_append] at hsplit
      cases earlier with
      | nil => cases (List.cons.inj hsplit).1
      | cons first earlier => simp at hsplit
    | @answered delivery' outcome _ more hreceived =>
      rw [List.nil_append, ← List.append_nil (r.exchange timeout delivery')] at hsplit
      obtain ⟨rfl, rfl, rfl, rfl⟩ | ⟨earlier', -, hrest⟩ := Session.exchange_split hsplit
      · exact offered_request sized more timeout
      · simp at hrest
  | @cons r r' _ delivery' _ more hreceived _ ih =>
    rw [List.append_assoc] at hsplit
    obtain ⟨rfl, rfl, rfl, rfl⟩ | ⟨earlier', rfl, hrest⟩ := Session.exchange_split hsplit
    · exact offered_request sized more timeout
    · obtain ⟨reply, header, -, -, -, rfl⟩ := Session.Reading.receiving_accepted hreceived
      have kept := r.kept_spent r.room delivery'
      have hoffered := ih hlast (kept.sized sized) hrest
      exact hoffered.behind _

/-- Every transfer in of an operation has the room that was asked for right before it. -/
theorem offered_of_told {s : Session} {op : Session.Operation} {calls earlier later : List (Event Port)}
    {answer : op.Answer} {room time : Nat} {delivery : Port.Delivery} (h : Session.Told s op calls answer)
    (sized : s.Sized) (hsplit : calls = earlier ++ ⟨.bulkIn room time, delivery⟩ :: later) :
    Offered s.config earlier room := by
  have hquiet (quiet : Session.Quiet calls) : False :=
    quiet ⟨.bulkIn room time, delivery⟩ (by rw [hsplit]; simp) trivial
  unfold Session.Told at h
  split at h
  · exact (hquiet h).elim
  · obtain ⟨result, hread, -⟩ := h
    cases hread with
    | unread quiet => exact (hquiet quiet).elim
    | @rounds wrote s₁ _ _ _ _ _ _ quiet kept _ hrounds hlast =>
      obtain ⟨earlier', rfl, hrest⟩ := quiet.split hsplit
      rw [← kept.config]
      exact (offered_of_rounds hrounds hlast (kept.sized sized) hrest).behind wrote

/-! ## Whole runs -/

/-- Both buffers hold a header and a word, and a chunk is whole words that fit behind a header. -/
structure Roomy (s : Session) : Prop where
  out : 16 ≤ s.outBuf.length
  inn : 16 ≤ s.inBuf.length
  positive : 0 < s.config.chunk
  aligned : 4 ∣ s.config.chunk
  fits : 12 + s.config.chunk ≤ s.config.bufferSize

theorem roomy {s : Session} (sized : s.Sized) : Roomy s := by
  obtain ⟨hleast, hdvd, hfits⟩ := Config.chunk_bounds sized.least
  exact ⟨by rw [sized.out]; exact sized.least, by rw [sized.inn]; exact sized.least,
    Nat.lt_of_lt_of_le (by decide) hleast, hdvd, hfits⟩

/-- All that keeps an operation within bounds. -/
structure Secured {σ : Type} (patience : Nat) (port : Handler Port σ) (a : Session.Attended σ)
    (op : Session.Operation) (answer : op.Answer) (a' : Session.Attended σ) : Prop where
  /-- The checked operation has no fault, makes the same calls, and comes to the same. -/
  checked : (serve patience op a.1).run.run port.recorded a.2 = (.ok (answer, a'.1), a'.2)
  overran : ¬ Overran op answer
  before : Roomy a.1
  behind : Roomy a'.1
  /-- A transfer in has the room that was asked for, in which any emulator can answer. -/
  room : ∃ calls, a'.2.2 = a.2.2 ++ calls ∧
    ∀ earlier room time delivery later, calls = earlier ++ ⟨.bulkIn room time, delivery⟩ :: later →
      Offered a.1.config earlier room ∧ ∀ e : Emulator, (e.bulkIn room).1 ≠ none

theorem coupled_recorded {σ : Type} {port : Handler Port σ} (obliging : Obliging port) :
    Handler.Coupled (fun c answer answer' => answer' = answer ∧ Within c answer) Eq port.recorded
      port.recorded := by
  rintro c x _ rfl
  exact ⟨⟨rfl, obliging c x.1⟩, rfl⟩

theorem secured_step {σ : Type} {port : Handler Port σ} (obliging : Obliging port) (op : Session.Operation)
    (hop : Given op) {s : Session} (h : Housed s) (x : σ) (log : List (Event Port)) :
    let r := Session.operate patience port.recorded op (s, x, log)
    Secured patience port (s, x, log) op r.1 r.2 ∧ Housed r.2.1 := by
  obtain ⟨calls, hlog, htold, hnumbered⟩ := Dialogue.always_run
    ((Session.serve_told patience op h.sized).and (Session.numbered_lasting.serve op s)) port x log
  obtain ⟨⟨hchecked, hover⟩, hstate⟩ :=
    (coupled_recorded obliging).run (sound_serve patience op h hop) (rfl : (x, log) = _)
  have housed := h.kept hnumbered.kept
  refine ⟨⟨Prod.ext hchecked hstate, hover, roomy h.sized, roomy housed.sized, calls, hlog, ?_⟩, housed⟩
  intro earlier room time delivery later hsplit
  have hoffered := offered_of_told htold h.sized hsplit
  refine ⟨hoffered, fun e hnone => ?_⟩
  obtain ⟨requested, -, -, -, -, -, rfl⟩ := hoffered
  have := Emulator.bulkIn_eq_none hnone
  omega

theorem housed_new {config : Config} (allocated : Allocatable config.bufferSize) :
    Housed (Session.new config) := by
  refine ⟨Session.sized_new config, ?_⟩
  simp only [Allocatable, Session.new, Config.withBufferSize, Config.minBufferSize, Header.byteCount,
    Frame.alignment] at *
  omega

/-- **No operation goes out of bounds.** Whatever size its buffers are asked to have, and whatever an obliging
port delivers, every operation of a run that is given no more than fits in memory goes through without a fault,
in buffers of at least sixteen bytes, and offers each transfer in the room of the reply it has asked for. -/
theorem never_out_of_bounds {σ : Type} (patience : Nat) {port : Handler Port σ} (obliging : Obliging port) (x : σ)
    {config : Config} (allocated : Allocatable config.bufferSize) {ops : List Session.Operation}
    (given : ∀ op ∈ ops, Given op) :
    (Session.operate patience port.recorded).EachStep (Secured patience port) ops (Session.new config, x, []) := by
  refine Handler.eachStep_of_invariant (h := Session.operate patience port.recorded)
    (A := fun _ op _ _ => Given op) (fun a => Housed a.1) ?_ ops _ (housed_new allocated)
    (Handler.eachStep_of_mem (h := Session.operate patience port.recorded) (A := Given) ops _ given)
  rintro ⟨s, x, log⟩ op h hop
  exact secured_step obliging op hop h x log

theorem obliging_emulator : Obliging Emulator.port := by
  intro c e
  cases c with
  | bulkIn room time => exact fun n hn => (e.whole_bulkIn room n hn).1
  | controlIn request value room time => exact fun n hn => (e.whole_controlIn request room n hn).1
  | openEndpoints | closeEndpoints | maxPacket | bulkOut => trivial

/-- A buffer of three bytes is asked for, and an answer is read in words of four. -/
theorem never_out_of_bounds_on_emulator :
    let config : Config := { bufferSize := 3 }
    let ops : List Session.Operation := [.start, .write [1] 1, .ask (Bytes.ofString "*IDN?") (Bytes.zeros 7) 1,
      .read [] 1, .readLength [0] 1, .pulse, .capabilities, .detect, .getState .emulated,
      .setState .keysight .single, .stop, .read [0] 1, .unload]
    Obliging Emulator.port ∧ Allocatable config.bufferSize ∧ (∀ op ∈ ops, Given op) ∧
      (Session.operate Session.usualPatience Emulator.port.recorded).EachStep
        (Secured Session.usualPatience Emulator.port) ops
        (Session.new config, {}, []) := by
  intro config ops
  have allocated : Allocatable config.bufferSize := by decide
  have given : ∀ op ∈ ops, Given op := by decide
  exact ⟨obliging_emulator, allocated, given, never_out_of_bounds _ obliging_emulator {} allocated given⟩

end Checked

end ScopeLink
