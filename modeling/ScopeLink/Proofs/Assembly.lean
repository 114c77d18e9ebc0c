import ScopeLink.Proofs.Bounds
import ScopeLink.Proofs.Rounds
import ScopeLink.Simulated.Script
/-!
# The assembly of a reply

What a read makes of whatever a device answers. A round either fails for a cause that is named
(`Failing`), or takes one reply whole (`Taking`); `Course` puts rounds into a row, up to the reply that
ends the message, to an output that is full or to the first round that fails. Every read follows such a
course (`readRounds_course`), and its output is told by the payloads that were taken (`Filled`), whether
or not a later round failed.

A read halts on a count beyond its buffer, and where the patience of its reader ends. On a device that answers
finitely often (`Exhaustible`) and reports no more than there is room for it does neither.
-/

namespace ScopeLink

namespace Session

/-! ## Failures of a round -/

/-- A reply that belongs to a request, as far as its id and its tags say. -/
structure Belongs (policy : TagPolicy) (tag : UInt8) (reply : Bytes) (h : Header) : Prop where
  header : Header.decode reply = some h
  messageId : h.messageId = Header.replyId
  consistent : h.tagConsistent = true
  admitted : policy.admits h.tag tag = true

/-- What is wrong with a reply to a request of this tag, for so many bytes. -/
inductive Fault (policy : TagPolicy) (tag : UInt8) (requested : Nat) (reply : Bytes) : FramingError → Prop
  | headless : reply.length < Header.byteCount →
    Fault policy tag requested reply (.short reply.length Header.byteCount)
  | messageId {h} : Header.decode reply = some h → h.messageId ≠ Header.replyId →
    Fault policy tag requested reply (.messageId h.messageId Header.replyId)
  | tag {h} : Header.decode reply = some h → h.messageId = Header.replyId →
    h.tagConsistent = false ∨ policy.admits h.tag tag = false →
    Fault policy tag requested reply (.tag h.tag h.inverse tag)
  | overRequest {h} : Belongs policy tag reply h → requested < h.size.toNat →
    Fault policy tag requested reply (.overRequest h.size.toNat requested)
  | short {h} : Belongs policy tag reply h → h.size.toNat ≤ requested →
    reply.length < Header.byteCount + h.size.toNat →
    Fault policy tag requested reply (.short reply.length (Header.byteCount + h.size.toNat))

/-- A reply is refused for a fault it has. That it is larger than what is left of the output is never
found, since no more than that is requested. -/
theorem fault_of_acceptReply {policy : TagPolicy} {tag : UInt8} {requested remaining : Nat} {reply : Bytes}
    {e : FramingError} (hle : requested ≤ remaining)
    (refused : acceptReply policy tag requested remaining reply = .error e) :
    Fault policy tag requested reply e := by
  unfold acceptReply at refused
  split at refused
  · rename_i hdecode
    cases refused
    exact .headless (Header.decode_eq_none_iff.mp hdecode)
  rename_i h hdecode
  dsimp only at refused
  split at refused
  · rename_i hid
    cases refused
    exact .messageId hdecode hid
  rename_i hid
  split at refused
  · rename_i htag
    cases refused
    refine .tag hdecode (Decidable.not_not.mp hid) ?_
    simpa using htag
  rename_i htag
  simp only [Bool.not_eq_true, Bool.not_eq_false', Bool.and_eq_true] at htag
  have belongs : Belongs policy tag reply h := ⟨hdecode, Decidable.not_not.mp hid, htag.1, htag.2⟩
  split at refused
  · rename_i hlarge
    cases refused
    exact .overRequest belongs hlarge
  rename_i hwithin
  split at refused
  · omega
  split at refused
  · rename_i hshort
    cases refused
    exact .short belongs (Nat.not_lt.mp hwithin) hshort
  · cases refused

/-- What the answer to a transfer of so many bytes comes to. -/
def sending (len : Nat) : Except TransferError Nat → Except SessionError Unit
  | .error e => .error (.ofTransfer e)
  | .ok sent => if sent = len then .ok () else .error (.partialTransfer sent len)

theorem send_sending (data : Bytes) (timeout : Nat) :
    (send data timeout).Always fun log outcome => ∃ answer, log = [⟨.bulkOut data timeout, answer⟩] ∧
      outcome = sending data.length answer := by
  unfold send
  rw [Port.bulkOut_bind]
  intro answer
  cases answer with
  | error e => exact ⟨.error e, rfl, rfl⟩
  | ok sent =>
    dsimp only
    split
    · rename_i hall
      exact ⟨.ok sent, rfl, by rw [sending, if_pos hall]⟩
    · rename_i hpart
      exact ⟨.ok sent, rfl, by rw [sending, if_neg hpart]⟩

theorem eq_of_sending {len : Nat} {answer : Except TransferError Nat} (h : sending len answer = .ok ()) :
    answer = .ok len := by
  cases answer with
  | error e => cases h
  | ok sent =>
    dsimp only [sending] at h
    split at h
    · rename_i hall
      rw [hall]
    · cases h

/-- The round fails: its request is not sent whole, no transfer answers it, or the reply has a fault. -/
inductive Failing (timeout : Nat) (r : Reading) : List (Event Port) → SessionError → Prop
  | unsent {answer e} : sending Header.byteCount answer = .error e →
    Failing timeout r [⟨.bulkOut r.request.encode timeout, answer⟩] e
  | unanswered {delivery e} : delivery.count = .error e →
    Failing timeout r (r.exchange timeout delivery) (.ofTransfer e)
  | refused {delivery reply e} : delivery.reply r.session.inBuf r.room = some reply →
    Fault r.session.config.tagPolicy r.request.tag r.requested reply e →
    Failing timeout r (r.exchange timeout delivery) (.framing e)

/-- The round takes a reply that passes all checks. -/
structure Taking (r : Reading) (delivery : Port.Delivery) (reply : Bytes) (h : Header) : Prop where
  arrived : delivery.reply r.session.inBuf r.room = some reply
  accepted : Accepted r.session.config.tagPolicy r.request.tag r.requested r.remaining reply h

/-- The read behind a round that took a reply. -/
def Reading.taking (r : Reading) (delivery : Port.Delivery) (reply : Bytes) : Reading :=
  (r.spent r.room delivery).append (payload reply)

theorem Accepted.length_payload {policy : TagPolicy} {tag : UInt8} {requested remaining : Nat} {reply : Bytes}
    {h : Header} (accepted : Accepted policy tag requested remaining reply h) :
    (payload reply).length = h.size.toNat := by
  have hwhole := accepted.whole
  rw [payload, accepted.header]
  simp only [List.length_take, List.length_drop]
  omega

/-- All that a round can do. -/
inductive Turn (timeout : Nat) (r : Reading) :
    List (Event Port) → Outcome SessionError Bool × Reading → Prop
  | failed {log e session} : Failing timeout r log e → Turn timeout r log (.failed e, { r with session })
  | overran {delivery count session} : delivery.count = .ok count → r.session.inBuf.length < count →
    Turn timeout r (r.exchange timeout delivery) (.halted .overrun, { r with session })
  | taken {delivery reply h} : Taking r delivery reply h →
    Turn timeout r (r.exchange timeout delivery) (.ok h.endOfMessage, r.taking delivery reply)

theorem turn_receiving (timeout : Nat) (r : Reading) (delivery : Port.Delivery) :
    Turn timeout r (r.exchange timeout delivery) (r.receiving r.room delivery) := by
  cases hreply : delivery.reply r.session.inBuf r.room with
  | some reply =>
    rw [Reading.receiving_of_reply hreply]
    cases haccept : acceptReply r.session.config.tagPolicy r.request.tag r.requested r.remaining reply with
    | error e => exact .failed (.refused hreply (fault_of_acceptReply (Nat.min_le_left _ _) haccept))
    | ok h => exact .taken ⟨hreply, acceptReply_ok_iff.mp haccept⟩
  | none =>
    unfold Port.Delivery.reply at hreply
    unfold Reading.receiving
    dsimp only
    cases hcount : delivery.count with
    | error e => exact .failed (.unanswered hcount)
    | ok count =>
      rw [hcount] at hreply
      dsimp only at hreply ⊢
      split at hreply
      · rename_i hover
        rw [if_pos hover]
        rw [Port.Delivery.length_into] at hover
        exact .overran hcount hover
      · cases hreply

theorem round_turn {r : Reading} (sized : r.session.Sized) (timeout : Nat) :
    (round timeout r).Always fun log p => Turn timeout r log p := by
  rw [round_eq sized, Dialogue.always_bind]
  refine (send_sending r.request.encode timeout).mono ?_
  rintro _ outcome ⟨answer, rfl, houtcome⟩
  rw [Header.length_encode] at houtcome
  cases outcome with
  | error e => exact .failed (.unsent houtcome.symm)
  | ok u =>
    obtain rfl := eq_of_sending houtcome.symm
    exact fun delivery => turn_receiving timeout r delivery

/-! ## Rounds in a row -/

/-- The calls of a read from `r` on, with the payloads of the replies that are taken and what ends it. It
ends with the first reply that ends the message, with an output that is full, and with the first round
that fails; it halts on a count beyond the buffer, and where the rounds there are run out. -/
inductive Course (timeout : Nat) : Reading → List (Event Port) → List Bytes → Outcome SessionError Unit → Prop
  | full {r} : r.output.length ≤ r.got → Course timeout r [] [] (.ok ())
  | failed {r log e} : r.got < r.output.length → Failing timeout r log e →
    Course timeout r log [] (.failed e)
  | last {r delivery reply h} : r.got < r.output.length → Taking r delivery reply h →
    h.endOfMessage = true → Course timeout r (r.exchange timeout delivery) [payload reply] (.ok ())
  | more {r delivery reply h log payloads ending} : r.got < r.output.length → Taking r delivery reply h →
    h.endOfMessage = false → Course timeout (r.taking delivery reply) log payloads ending →
    Course timeout r (r.exchange timeout delivery ++ log) (payload reply :: payloads) ending
  | overran {r delivery count} : r.got < r.output.length → delivery.count = .ok count →
    r.session.inBuf.length < count →
    Course timeout r (r.exchange timeout delivery) [] (.halted .overrun)
  | unfinished {r} : r.got < r.output.length → Course timeout r [] [] (.halted .unfinished)

/-- What a read in rounds comes to, by its course. -/
structure Followed (timeout rounds : Nat) (r : Reading) (log : List (Event Port))
    (p : Outcome SessionError Nat × Reading) (payloads : List Bytes) (ending : Outcome SessionError Unit) :
    Prop where
  course : Course timeout r log payloads ending
  outcome : p.1 = ending.andThen fun _ => .ok p.2.got
  collected : p.2 = { payloads.foldl Reading.append r with session := p.2.session }
  patience : ending = .halted .unfinished → rounds ≤ payloads.length

/-- Every read follows a course: by induction on the rounds it may take, with `round_turn` for each. -/
theorem readRounds_course (timeout : Nat) : ∀ (rounds : Nat) (r : Reading), r.session.Sized →
    (readRounds timeout rounds r).Always fun log p => ∃ payloads ending,
      Followed timeout rounds r log p payloads ending
  | rounds, r, sized => by
    by_cases full : r.output.length ≤ r.got
    · rw [readRounds_of_full full]
      exact ⟨[], .ok (), .full full, rfl, rfl, by simp⟩
    have more : r.got < r.output.length := Nat.not_le.mp full
    cases rounds with
    | zero =>
      unfold readRounds
      rw [if_neg full]
      exact ⟨[], .halted .unfinished, .unfinished more, rfl, rfl, fun _ => Nat.le_refl 0⟩
    | succ rounds =>
      rw [readRounds_succ full, Dialogue.always_bind]
      refine (round_turn sized timeout).mono ?_
      rintro log p turn
      cases turn with
      | failed hfailing =>
        exact ⟨[], _, .failed more (by rwa [List.append_nil]), rfl, rfl, by simp⟩
      | overran hcount hover => exact ⟨[], _, .overran more hcount hover, rfl, rfl, by simp⟩
      | @taken delivery reply h htaking =>
        cases hlast : h.endOfMessage with
        | true => exact ⟨[payload reply], _, .last more htaking hlast, rfl, rfl, by simp⟩
        | false =>
          have sized' : (r.taking delivery reply).session.Sized := (r.kept_spent r.room delivery).sized sized
          refine (readRounds_course timeout rounds _ sized').mono ?_
          rintro log p ⟨payloads, ending, course, houtcome, hcollected, hpatience⟩
          refine ⟨payload reply :: payloads, ending, .more more htaking hlast course, houtcome, ?_,
            fun hend => Nat.succ_le_succ (hpatience hend)⟩
          refine hcollected.trans ?_
          rw [List.foldl_cons]
          show { payloads.foldl Reading.append { r.append (payload reply) with session := _ } with
            session := p.2.session } = _
          rw [foldl_append_session]

/-! ## The output -/

theorem Taking.fits {r : Reading} {delivery : Port.Delivery} {reply : Bytes} {h : Header}
    (taking : Taking r delivery reply h) (hgot : r.got ≤ r.output.length) :
    r.got + (payload reply).length ≤ r.output.length := by
  have hremaining := taking.accepted.remaining
  rw [taking.accepted.length_payload]
  simp only [Reading.remaining] at hremaining
  omega

theorem Taking.length_output {r : Reading} {delivery : Port.Delivery} {reply : Bytes} {h : Header}
    (taking : Taking r delivery reply h) (hgot : r.got ≤ r.output.length) :
    (r.taking delivery reply).output.length = r.output.length := Reading.length_append (taking.fits hgot)

theorem Course.fits {timeout : Nat} {r : Reading} {log : List (Event Port)} {payloads : List Bytes}
    {ending : Outcome SessionError Unit} (course : Course timeout r log payloads ending)
    (hgot : r.got ≤ r.output.length) : r.got + payloads.flatten.length ≤ r.output.length := by
  induction course with
  | full | failed | overran | unfinished => exact hgot
  | last _ taking =>
    rw [List.flatten_singleton]
    exact taking.fits hgot
  | @more r delivery reply h log payloads ending _ taking _ _ ih =>
    have hfits := taking.fits hgot
    have hlen := taking.length_output hgot
    have hgot' : (r.taking delivery reply).got = r.got + (payload reply).length := rfl
    have := ih (by omega)
    rw [List.flatten_cons, List.length_append]
    omega

/-- Payloads one behind the other are one payload. -/
theorem foldl_append_flatten : ∀ (payloads : List Bytes) {r : Reading}, payloads ≠ [] →
    r.got + payloads.flatten.length ≤ r.output.length →
    payloads.foldl Reading.append r = r.append payloads.flatten
  | [], _, h, _ => absurd rfl h
  | [p], _, _, _ => by simp
  | p :: q :: payloads, r, _, hfits => by
    simp only [List.flatten_cons, List.length_append] at hfits
    have hlen : (r.append p).output.length = r.output.length := Reading.length_append (by omega)
    have hgot : (r.append p).got = r.got + p.length := rfl
    have hrest : (r.append p).got + (q :: payloads).flatten.length ≤ (r.append p).output.length := by
      simp only [List.flatten_cons, List.length_append]
      omega
    rw [List.foldl_cons, foldl_append_flatten (q :: payloads) (List.cons_ne_nil _ _) hrest,
      Reading.append_append (by simp only [List.flatten_cons, List.length_append]; omega), ← List.flatten_cons]

/-- `result` is `output` with the payloads one behind the other at its front and a zero behind them; it is
as it was beyond, and all of it if there are none. -/
structure Filled (output : Bytes) (payloads : List Bytes) (result : Bytes) : Prop where
  fits : payloads.flatten.length ≤ output.length
  length : result.length = output.length
  front : result.take payloads.flatten.length = payloads.flatten
  terminated : payloads ≠ [] → payloads.flatten.length < output.length →
    result[payloads.flatten.length]? = some 0
  beyond : result.drop (payloads.flatten.length + 1) = output.drop (payloads.flatten.length + 1)
  untouched : payloads = [] → result = output

theorem filled_foldl (s : Session) {output : Bytes} {payloads : List Bytes}
    (fits : payloads.flatten.length ≤ output.length) :
    Filled output payloads (payloads.foldl Reading.append ⟨s, output, 0⟩).output := by
  by_cases hnil : payloads = []
  · subst hnil
    exact ⟨fits, rfl, rfl, fun h => absurd rfl h, rfl, fun _ => rfl⟩
  rw [foldl_append_flatten payloads hnil (by simpa using fits)]
  generalize hp : payloads.flatten = p at fits ⊢
  have hlen : (Bytes.splice output 0 p).length = output.length := Bytes.length_splice (by omega)
  have hfront : (Bytes.splice output 0 p).take p.length = p := by
    have htake : (Bytes.splice output 0 p).take (0 + p.length) = output.take 0 ++ p :=
      Bytes.take_splice (Nat.zero_le _)
    simpa using htake
  have hout : (Reading.append ⟨s, output, 0⟩ p).output = (Bytes.splice output 0 p).set p.length 0 := by
    simp [Reading.append]
  rw [hout]
  constructor
  · rwa [hp]
  · rw [List.length_set, hlen]
  · rw [hp, List.take_set_of_le (Nat.le_refl _), hfront]
  · intro _ hlt
    rw [hp] at hlt ⊢
    rw [List.getElem?_set_self (by omega)]
  · rw [hp, List.drop_set_of_lt (Nat.lt_succ_self _), Bytes.drop_splice (Nat.zero_le _) (by omega)]
  · exact fun h => absurd h hnil

/-! ## Devices that answer finitely often -/

/-- The calls of a read. -/
def Asking : Port.Call → Prop
  | .bulkOut data _ => ∃ tag size, data = (Header.request tag size).encode
  | .bulkIn .. => True
  | _ => False

/-- A transfer in that reports a count. -/
def reported : Event Port → Bool
  | ⟨.bulkIn .., delivery⟩ => delivery.count.isOk
  | _ => false

/-- A port that `left` counts down: a request leaves the count as it is or lower, and every transfer in
that does not fail takes one off. With nothing left, all of them fail. -/
def Exhaustible {σ : Type} (port : Handler Port σ) (left : σ → Nat) : Prop :=
  ∀ c x, Asking c → left (port c x).2 + (reported ⟨c, (port c x).1⟩).toNat ≤ left x

theorem asking_exchange (r : Reading) (timeout : Nat) (delivery : Port.Delivery) :
    ∀ event ∈ r.exchange timeout delivery, Asking event.call := by
  intro event hevent
  simp only [Reading.exchange, List.mem_cons, List.not_mem_nil, or_false] at hevent
  obtain rfl | rfl := hevent
  · exact ⟨_, _, rfl⟩
  · trivial

theorem Course.asking {timeout : Nat} {r : Reading} {log : List (Event Port)} {payloads : List Bytes}
    {ending : Outcome SessionError Unit} (course : Course timeout r log payloads ending) :
    ∀ event ∈ log, Asking event.call := by
  induction course with
  | full | unfinished => exact nofun
  | @failed r log e _ hfailing =>
    cases hfailing with
    | unsent =>
      intro event hevent
      rw [List.mem_singleton.mp hevent]
      exact ⟨_, _, rfl⟩
    | unanswered | refused => exact asking_exchange r timeout _
  | last | overran => exact asking_exchange _ timeout _
  | more _ _ _ _ ih =>
    intro event hevent
    obtain hevent | hevent := List.mem_append.mp hevent
    · exact asking_exchange _ timeout _ event hevent
    · exact ih event hevent

theorem Taking.reported_exchange {r : Reading} {delivery : Port.Delivery} {reply : Bytes} {h : Header}
    (taking : Taking r delivery reply h) (timeout : Nat) :
    (r.exchange timeout delivery).countP reported = 1 := by
  have hreply := taking.arrived
  unfold Port.Delivery.reply at hreply
  cases hcount : delivery.count with
  | error e =>
    rw [hcount] at hreply
    cases hreply
  | ok count => simp [Reading.exchange, reported, hcount, Except.isOk, Except.toBool]

/-- Each payload is from a transfer in of its own. -/
theorem Course.length_le {timeout : Nat} {r : Reading} {log : List (Event Port)} {payloads : List Bytes}
    {ending : Outcome SessionError Unit} (course : Course timeout r log payloads ending) :
    payloads.length ≤ log.countP reported := by
  induction course with
  | full | failed | overran | unfinished => exact Nat.zero_le _
  | last _ taking =>
    rw [taking.reported_exchange]
    exact Nat.le_refl 1
  | more _ taking _ _ ih =>
    rw [List.countP_append, taking.reported_exchange, List.length_cons]
    omega

/-- No more transfers in report a count than there were left. -/
theorem Exhaustible.countP_le {σ α : Type} {port : Handler Port σ} {left : σ → Nat}
    (exhaustible : Exhaustible port left) {d : Dialogue Port α}
    (asking : d.Always fun log _ => ∀ event ∈ log, Asking event.call) (x : σ) (log : List (Event Port)) :
    ∃ calls, (d.run port.recorded (x, log)).2.2 = log ++ calls ∧
      left (d.run port.recorded (x, log)).2.1 + calls.countP reported ≤ left x := by
  refine Dialogue.run_related (R := fun x calls y => left y + calls.countP reported ≤ left x)
    (fun x => Nat.le_refl _) (fun hcalls hcalls' => ?_) (fun c x hc => ?_) asking x log
  · rw [List.countP_append]
    omega
  · have hstep := exhaustible c x hc
    rw [List.countP_singleton]
    split
    · rename_i hreported
      rwa [hreported] at hstep
    · omega

/-- A script has as many transfers in to give as it has entries for them. -/
theorem exhaustible_script : Exhaustible Simulated.Script.port fun script => script.ins.length := by
  rintro (_ | _ | _ | ⟨data, timeout⟩ | ⟨room, timeout⟩ | _) script asking
  · exact asking.elim
  · exact asking.elim
  · exact asking.elim
  · obtain ⟨tag, size, rfl⟩ := asking
    have hobserve (script : Simulated.Script) :
        (script.observe (Header.request tag size).encode).ins = script.ins := by
      simp [Simulated.Script.observe, Header.decode_encode, Header.request, Header.tagged]
    simp only [Simulated.Script.port, Simulated.Script.bulkOut, reported, Bool.toNat_false, Nat.add_zero]
    split <;> simp [hobserve]
  · simp only [Simulated.Script.port, Simulated.Script.bulkIn]
    split <;> simp_all [reported, Port.Delivery.failed, Except.isOk, Except.toBool]
  · exact asking.elim

/-! ## A read of any device -/

/-- A read halts for a count beyond the room there was, or out of patience, with more to read. -/
theorem Course.halted {timeout : Nat} {r : Reading} {log : List (Event Port)} {payloads : List Bytes}
    {ending : Outcome SessionError Unit} {halt : Halt} (course : Course timeout r log payloads ending)
    (hend : ending = .halted halt) :
    halt = .overrun ∧ (∃ event ∈ log, ¬ Checked.Within event.call event.answer) ∨
      halt = .unfinished ∧ r.got < r.output.length := by
  induction course with
  | full | failed | last => cases hend
  | more hmore _ _ _ ih =>
    obtain ⟨hhalt, event, hevent, hbeyond⟩ | ⟨hhalt, -⟩ := ih hend
    · exact .inl ⟨hhalt, event, List.mem_append_right _ hevent, hbeyond⟩
    · exact .inr ⟨hhalt, hmore⟩
  | @overran r delivery count _ hcount hover =>
    cases hend
    refine .inl ⟨rfl, ⟨.bulkIn r.room timeout, delivery⟩, by simp [Reading.exchange], fun within => ?_⟩
    have hroom : r.room ≤ r.session.inBuf.length := Nat.min_le_right _ _
    have := within count hcount
    omega
  | unfinished hmore =>
    cases hend
    exact .inr ⟨rfl, hmore⟩

/-- The course of a read, whatever it is answered. -/
theorem read_course (patience : Nat) {s : Session} (sized : s.Sized) (ready : s.state = .ready) (output : Bytes)
    (timeout : Nat) :
    (s.read patience output timeout).Always fun log result => ∃ payloads ending,
      Course timeout ⟨s, output, 0⟩ log payloads ending ∧
      result.outcome = (ending.andThen fun _ => .ok payloads.flatten.length) ∧
      Filled output payloads result.output ∧
      (ending = .halted .unfinished → output.length + patience ≤ payloads.length) := by
  unfold read
  rw [if_neg (not_not_intro ready)]
  refine (readRounds_course timeout _ ⟨s, output, 0⟩ sized).bind_done ?_
  rintro log ⟨outcome, r⟩ ⟨payloads, ending, course, houtcome, hcollected, hpatience⟩
  have fits : payloads.flatten.length ≤ output.length := by simpa using course.fits (Nat.zero_le _)
  refine ⟨payloads, ending, course, ?_, ?_, hpatience⟩
  · have hgot : r.got = payloads.flatten.length := by
      dsimp only at hcollected
      rw [hcollected]
      by_cases hnil : payloads = []
      · subst hnil
        rfl
      · rw [foldl_append_flatten payloads hnil (by simpa using fits)]
        exact Nat.zero_add _
    rw [← hgot]
    exact houtcome
  · dsimp only at hcollected ⊢
    rw [hcollected]
    exact filled_foldl s fits

/-- A read of a device that answers finitely often, by a reader who is as patient as that, takes the rounds of
its course, comes to what ends that, and leaves the payloads of the replies before in its output. -/
theorem read_assembles {σ : Type} {port : Handler Port σ} {left : σ → Nat}
    (exhaustible : Exhaustible port left) {s : Session} (sized : s.Sized) (ready : s.state = .ready) {x : σ}
    {patience : Nat} (enough : left x ≤ patience) (output : Bytes) (timeout : Nat)
    (within : ∀ event ∈ ((s.read patience output timeout).run port.recorded (x, [])).2.2,
      Checked.Within event.call event.answer) :
    ∃ payloads ending,
      Course timeout ⟨s, output, 0⟩ ((s.read patience output timeout).run port.recorded (x, [])).2.2 payloads
        (.ofExcept ending) ∧
      ((s.read patience output timeout).run port.recorded (x, [])).1.outcome =
        .ofExcept (ending.map fun _ => payloads.flatten.length) ∧
      Filled output payloads ((s.read patience output timeout).run port.recorded (x, [])).1.output := by
  have hread := read_course patience sized ready output timeout
  obtain ⟨calls, hlog, payloads, ending, course, houtcome, hfilled, hpatience⟩ :=
    Dialogue.always_run hread port x []
  obtain ⟨calls', hlog', hleft⟩ := exhaustible.countP_le
    (hread.mono fun _ _ ⟨_, _, course, _⟩ => course.asking) x []
  rw [List.nil_append] at hlog hlog'
  rw [hlog] at within hlog'
  subst hlog'
  have hfew := course.length_le
  refine ⟨payloads, ?_⟩
  rw [hlog]
  cases ending with
  | ok u => exact ⟨.ok u, course, houtcome, hfilled⟩
  | failed e => exact ⟨.error e, course, houtcome, hfilled⟩
  | halted halt =>
    obtain ⟨-, event, hevent, hbeyond⟩ | ⟨rfl, hmore⟩ := course.halted rfl
    · exact absurd (within event hevent) hbeyond
    · -- the rounds ran out behind a transfer in for each of them, and there were fewer
      have hrounds := hpatience rfl
      dsimp only at hmore
      omega

/-- Two replies are taken, and the next is one to another kind of request: their payloads stay, with a zero
behind them. -/
theorem read_assembles_up_to_refusal :
    let s : Session := { new { bufferSize := 16 } with state := .ready }
    let script : Simulated.Script :=
      { ins := [.deliver { payload := [1, 2, 3, 4], attributes := 0 } none,
          .deliver { payload := [5], attributes := 0 } none, .deliver { messageId := 7 } none] }
    let output : Bytes := List.replicate 8 9
    let result := (s.read 3 output 1).run Simulated.Script.port.recorded (script, [])
    s.Sized ∧ s.state = .ready ∧ script.ins.length ≤ 3 ∧
      (∀ event ∈ result.2.2, Checked.Within event.call event.answer) ∧
      result.1.outcome = .failed (.framing (.messageId 7 2)) ∧ result.1.output = [1, 2, 3, 4, 5, 0, 9, 9] ∧
      ∃ payloads ending, Course 1 ⟨s, output, 0⟩ result.2.2 payloads (.ofExcept ending) ∧
        result.1.outcome = .ofExcept (ending.map fun _ => payloads.flatten.length) ∧
        Filled output payloads result.1.output := by
  intro s script output
  have sized : s.Sized := (kept_state _ _).sized (sized_new _)
  have enough : script.ins.length ≤ 3 := by decide
  have within : ∀ event ∈ ((s.read 3 output 1).run Simulated.Script.port.recorded (script, [])).2.2,
      Checked.Within event.call event.answer := by decide +kernel
  refine ⟨sized, rfl, enough, within, by decide +kernel, by decide +kernel, ?_⟩
  exact read_assembles exhaustible_script sized rfl enough output 1 within

end Session

end ScopeLink
