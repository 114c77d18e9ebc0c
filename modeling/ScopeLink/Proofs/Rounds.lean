import ScopeLink.Proofs.Client
/-!
# The rounds of a read

A read is a row of rounds, each a request and the transfer that answers it. All of them but the last are
accepted and leave more to read (`Rounds`); the last one ends the read, as does an output that is full
(`LastRound`). `readRounds_rounds` says that this is all a read can do, whatever it is answered.

What a row of rounds leaves behind can be told from its calls alone: the in-buffer is what was laid over
it (`laidOver`), and the output holds the payloads of the replies, one behind the other (`Rounds.progress`).
-/

namespace ScopeLink

/-- The bytes that a transfer into a buffer reports, as the buffer has them then; none if it failed, or
reports more of them than there are. -/
def Port.Delivery.reply (delivery : Port.Delivery) (buffer : Bytes) (room : Nat) : Option Bytes :=
  match delivery.count with
  | .error _ => none
  | .ok received =>
    if (delivery.into buffer room).length < received then none
    else some ((delivery.into buffer room).take received)

namespace Session

/-! ## What calls bring in -/

/-- A transfer in. -/
def TakesIn : Port.Call → Prop
  | .bulkIn .. => True
  | _ => False

/-- Calls that take nothing in. -/
abbrev Quiet (log : List (Event Port)) : Prop := ∀ event ∈ log, ¬ TakesIn event.call

/-- A buffer behind a call: a transfer in is laid over it. -/
def laidOver (buffer : Bytes) : Event Port → Bytes
  | ⟨.bulkIn room _, delivery⟩ => delivery.into buffer room
  | _ => buffer

/-- The payload that the header of a reply announces; nothing if there is no header. -/
def payload (reply : Bytes) : Bytes :=
  match Header.decode reply with
  | none => []
  | some h => (reply.drop Header.byteCount).take h.size.toNat

/-- The payload that a call brings into a buffer, if it brings a reply. -/
def payload? (buffer : Bytes) : Event Port → Option Bytes
  | ⟨.bulkIn room _, delivery⟩ => (delivery.reply buffer room).map payload
  | _ => none

/-- The payloads of the replies among these calls. -/
def payloads (buffer : Bytes) : List (Event Port) → List Bytes
  | [] => []
  | event :: log => (payload? buffer event).toList ++ payloads (laidOver buffer event) log

/-- The output of a read behind these calls: the payloads one behind the other, with a zero behind them. -/
def collected (s : Session) (given : Bytes) (log : List (Event Port)) : Bytes :=
  ((payloads s.inBuf log).foldl Reading.append ⟨s, given, 0⟩).output

theorem payloads_append (buffer : Bytes) : ∀ log log' : List (Event Port),
    payloads buffer (log ++ log') = payloads buffer log ++ payloads (log.foldl laidOver buffer) log'
  | [], _ => rfl
  | event :: log, log' => by
    rw [List.cons_append, payloads, payloads, payloads_append, List.foldl_cons, List.append_assoc]

theorem laidOver_of_not_takesIn {event : Event Port} (h : ¬ TakesIn event.call) (buffer : Bytes) :
    laidOver buffer event = buffer := by
  obtain ⟨call, answer⟩ := event
  cases call with
  | bulkIn room timeout => exact absurd trivial h
  | _ => rfl

theorem payload?_of_not_takesIn {event : Event Port} (h : ¬ TakesIn event.call) (buffer : Bytes) :
    payload? buffer event = none := by
  obtain ⟨call, answer⟩ := event
  cases call with
  | bulkIn room timeout => exact absurd trivial h
  | _ => rfl

/-- Quiet calls are of no account. -/
theorem foldl_laidOver_of_quiet {log : List (Event Port)} (quiet : Quiet log) (buffer : Bytes) :
    log.foldl laidOver buffer = buffer := by
  induction log with
  | nil => rfl
  | cons event log ih =>
    rw [List.foldl_cons, laidOver_of_not_takesIn (quiet event List.mem_cons_self)]
    exact ih fun e he => quiet e (List.mem_cons_of_mem _ he)

theorem payloads_of_quiet {log : List (Event Port)} (quiet : Quiet log) (buffer : Bytes) :
    payloads buffer log = [] := by
  induction log with
  | nil => rfl
  | cons event log ih =>
    have hevent := quiet event List.mem_cons_self
    rw [payloads, payload?_of_not_takesIn hevent, laidOver_of_not_takesIn hevent]
    exact ih fun e he => quiet e (List.mem_cons_of_mem _ he)

/-- A transfer in is none of the quiet calls before others. -/
theorem Quiet.split {log rest earlier later : List (Event Port)} {room timeout : Nat}
    {delivery : Port.Delivery} (quiet : Quiet log)
    (h : log ++ rest = earlier ++ ⟨.bulkIn room timeout, delivery⟩ :: later) :
    ∃ earlier', earlier = log ++ earlier' ∧ rest = earlier' ++ ⟨.bulkIn room timeout, delivery⟩ :: later := by
  obtain ⟨earlier', hearlier, hrest⟩ | ⟨within, hlog, hrest⟩ := List.append_eq_append_iff.mp h
  · exact ⟨earlier', hearlier, hrest⟩
  cases within with
  | nil => exact ⟨[], by rw [hlog]; simp, hrest.symm⟩
  | cons event within =>
    obtain ⟨rfl, -⟩ := List.cons.inj hrest
    rw [hlog] at quiet
    exact absurd trivial (quiet ⟨.bulkIn room timeout, delivery⟩ (by simp))

/-! ## Replies -/

/-- All that is checked of a reply that is accepted. -/
structure Accepted (policy : TagPolicy) (requestTag : UInt8) (requested remaining : Nat) (reply : Bytes)
    (h : Header) : Prop where
  header : Header.decode reply = some h
  messageId : h.messageId = Header.replyId
  consistent : h.tagConsistent = true
  tag : policy.admits h.tag requestTag = true
  requested : h.size.toNat ≤ requested
  remaining : h.size.toNat ≤ remaining
  whole : Header.byteCount + h.size.toNat ≤ reply.length

theorem acceptReply_ok_iff {policy : TagPolicy} {requestTag : UInt8} {requested remaining : Nat}
    {reply : Bytes} {h : Header} :
    acceptReply policy requestTag requested remaining reply = .ok h ↔
      Accepted policy requestTag requested remaining reply h := by
  constructor
  · intro ok
    obtain ⟨hrequested, hremaining, hwhole⟩ := size_le_of_acceptReply ok
    unfold acceptReply at ok
    split at ok
    · cases ok
    rename_i g hdecode
    dsimp only at ok
    split at ok
    · cases ok
    rename_i hid
    split at ok
    · cases ok
    rename_i htag
    simp only [Bool.not_eq_true, Bool.not_eq_false', Bool.and_eq_true] at htag
    split at ok; · cases ok
    split at ok; · cases ok
    split at ok; · cases ok
    cases ok
    exact ⟨hdecode, Decidable.not_not.mp hid, htag.1, htag.2, hrequested, hremaining, hwhole⟩
  · rintro ⟨hdecode, hid, hconsistent, htag, hrequested, hremaining, hwhole⟩
    unfold acceptReply
    rw [hdecode]
    dsimp only
    rw [if_neg (not_not_intro hid), if_neg (by simp [hconsistent, htag]), if_neg (Nat.not_lt.mpr hrequested),
      if_neg (Nat.not_lt.mpr hremaining), if_neg (Nat.not_lt.mpr hwhole)]

/-- A header whose tag the policy does not admit is refused, for its id if that is not a reply's. -/
theorem acceptReply_of_not_admits {policy : TagPolicy} {requestTag : UInt8} {requested remaining : Nat}
    {reply : Bytes} {h : Header} (hdecode : Header.decode reply = some h)
    (htag : policy.admits h.tag requestTag = false) :
    acceptReply policy requestTag requested remaining reply =
      .error (if h.messageId = Header.replyId then .tag h.tag h.inverse requestTag
        else .messageId h.messageId Header.replyId) := by
  unfold acceptReply
  rw [hdecode]
  dsimp only
  by_cases hid : h.messageId = Header.replyId
  · rw [if_neg (not_not_intro hid), if_pos (by simp [htag]), if_pos hid]
  · rw [if_pos hid, if_neg hid]

/-! ## One round -/

namespace Reading

/-- The room that a round gives the reply to its request. -/
def room (r : Reading) : Nat := min (Frame.len r.requested) r.session.inBuf.length

/-- The calls of a round whose request was sent. -/
def exchange (r : Reading) (timeout : Nat) (delivery : Port.Delivery) : List (Event Port) :=
  [⟨.bulkOut r.request.encode timeout, .ok Header.byteCount⟩, ⟨.bulkIn r.room timeout, delivery⟩]

/-- The read behind a transfer of which nothing is copied. -/
def spent (r : Reading) (room : Nat) (delivery : Port.Delivery) : Reading :=
  { r with session := { r.requesting with inBuf := delivery.into r.session.inBuf room } }

/-- A transfer without a reply fails the round, or halts it. -/
theorem receiving_of_no_reply {r : Reading} {room : Nat} {delivery : Port.Delivery}
    (hnone : delivery.reply r.session.inBuf room = none) :
    (r.receiving room delivery).2 = r.spent room delivery ∧
      ((∃ e, (r.receiving room delivery).1 = .failed e) ∨
        (r.receiving room delivery).1 = .halted .overrun) := by
  unfold Port.Delivery.reply at hnone
  unfold receiving
  dsimp only
  cases hcount : delivery.count with
  | error e => exact ⟨rfl, .inl ⟨_, rfl⟩⟩
  | ok received =>
    rw [hcount] at hnone
    dsimp only at hnone ⊢
    split at hnone
    · rename_i hover
      rw [if_pos hover]
      exact ⟨rfl, .inr rfl⟩
    · cases hnone

/-- With one, it is for the checks of the reply to say what becomes of the round. -/
theorem receiving_of_reply {r : Reading} {room : Nat} {delivery : Port.Delivery} {reply : Bytes}
    (hreply : delivery.reply r.session.inBuf room = some reply) :
    r.receiving room delivery =
      match acceptReply r.session.config.tagPolicy r.request.tag r.requested r.remaining reply with
      | .error e => (.failed (.framing e), r.spent room delivery)
      | .ok h => (.ok h.endOfMessage, (r.spent room delivery).append (payload reply)) := by
  unfold Port.Delivery.reply at hreply
  unfold receiving
  dsimp only
  cases hcount : delivery.count with
  | error e =>
    rw [hcount] at hreply
    cases hreply
  | ok received =>
    rw [hcount] at hreply
    dsimp only at hreply ⊢
    split at hreply
    · cases hreply
    rename_i hwithin
    obtain rfl := Option.some.inj hreply
    rw [if_neg hwithin]
    show (match acceptReply _ r.request.tag _ _ _ with | .error e => _ | .ok h => _) = _
    cases haccept : acceptReply r.session.config.tagPolicy r.request.tag r.requested r.remaining
        ((delivery.into r.session.inBuf room).take received) with
    | error e => rfl
    | ok h =>
      have hpayload : payload ((delivery.into r.session.inBuf room).take received) =
          (((delivery.into r.session.inBuf room).take received).drop Header.byteCount).take h.size.toNat := by
        rw [payload, (acceptReply_ok_iff.mp haccept).header]
      rw [hpayload]
      rfl

/-- A round that is accepted takes one reply, and its payload. -/
theorem receiving_accepted {r r' : Reading} {room : Nat} {delivery : Port.Delivery} {last : Bool}
    (h : r.receiving room delivery = (.ok last, r')) :
    ∃ reply header, delivery.reply r.session.inBuf room = some reply ∧
      Accepted r.session.config.tagPolicy r.request.tag r.requested r.remaining reply header ∧
      last = header.endOfMessage ∧ r' = (r.spent room delivery).append (payload reply) := by
  cases hreply : delivery.reply r.session.inBuf room with
  | none =>
    obtain ⟨e, hend⟩ | hend := (receiving_of_no_reply hreply).2
    · rw [h] at hend
      cases hend
    · rw [h] at hend
      cases hend
  | some reply =>
    rw [receiving_of_reply hreply] at h
    cases haccept : acceptReply r.session.config.tagPolicy r.request.tag r.requested r.remaining reply with
    | error e =>
      rw [haccept] at h
      cases h
    | ok header =>
      rw [haccept] at h
      cases h
      exact ⟨reply, header, rfl, acceptReply_ok_iff.mp haccept, rfl, rfl⟩

/-- A round that is not accepted copies nothing, and fails or halts. -/
theorem receiving_refused {r : Reading} {room : Nat} {delivery : Port.Delivery}
    (h : ∀ last, (r.receiving room delivery).1 ≠ .ok last) :
    (r.receiving room delivery).2 = r.spent room delivery ∧
      ((∃ e, (r.receiving room delivery).1 = .failed e) ∨
        (r.receiving room delivery).1 = .halted .overrun) := by
  cases hreply : delivery.reply r.session.inBuf room with
  | none => exact receiving_of_no_reply hreply
  | some reply =>
    rw [receiving_of_reply hreply] at h ⊢
    cases haccept : acceptReply r.session.config.tagPolicy r.request.tag r.requested r.remaining reply with
    | error e => exact ⟨rfl, .inl ⟨_, rfl⟩⟩
    | ok header =>
      rw [haccept] at h
      exact absurd rfl (h header.endOfMessage)

theorem kept_spent (r : Reading) (room : Nat) (delivery : Port.Delivery) :
    Kept r.session (r.spent room delivery).session :=
  r.kept_requesting _ (Port.Delivery.length_into _ _ _)

end Reading

/-- All that a round can do: fail to send its request, or send it and take one transfer in. -/
theorem round_received {r : Reading} (sized : r.session.Sized) (timeout : Nat) :
    (round timeout r).Always fun log p =>
      (∃ answer e, log = [⟨.bulkOut r.request.encode timeout, answer⟩] ∧
        p = (.failed e, { r with session := r.requesting })) ∨
      ∃ delivery, log = r.exchange timeout delivery ∧ p = r.receiving r.room delivery := by
  rw [round_eq sized, Dialogue.always_bind]
  refine (send_answer r.request.encode timeout).mono ?_
  rintro _ (e | ⟨⟩) ⟨sent, rfl, hsent⟩
  · exact .inl ⟨sent, e, rfl, rfl⟩
  · obtain rfl := hsent rfl
    exact fun delivery => .inr ⟨delivery, by simp [Reading.exchange, Reading.room], rfl⟩

/-! ## Rows of rounds -/

/-- Rounds that were accepted and left more to read. -/
inductive Rounds (timeout : Nat) : Reading → List (Event Port) → Reading → Prop
  | nil (r) : Rounds timeout r [] r
  | cons {r r' r'' delivery log} : r.got < r.output.length → r.receiving r.room delivery = (.ok false, r') →
    Rounds timeout r' log r'' → Rounds timeout r (r.exchange timeout delivery ++ log) r''

/-- All that a row of rounds can end in: an output that is full, the end of the patience there is, a
request that is not sent, or a round that is the last one or not accepted. -/
inductive LastRound (timeout : Nat) (r : Reading) :
    List (Event Port) → Outcome SessionError Nat → Reading → Prop
  | full : r.output.length ≤ r.got → LastRound timeout r [] (.ok r.got) r
  | unfinished : r.got < r.output.length → LastRound timeout r [] (.halted .unfinished) r
  | unsent {answer e} : r.got < r.output.length →
    LastRound timeout r [⟨.bulkOut r.request.encode timeout, answer⟩] (.failed e)
      { r with session := r.requesting }
  | answered {delivery outcome r'} : r.got < r.output.length →
    r.receiving r.room delivery = (outcome, r') → outcome ≠ .ok false →
    LastRound timeout r (r.exchange timeout delivery) (outcome.andThen fun _ => .ok r'.got) r'

theorem readRounds_rounds (timeout : Nat) : ∀ (rounds : Nat) (r : Reading), r.session.Sized →
    (readRounds timeout rounds r).Always fun log p => ∃ before r' last,
      log = before ++ last ∧ Rounds timeout r before r' ∧ LastRound timeout r' last p.1 p.2
  | rounds, r, sized => by
    by_cases full : r.output.length ≤ r.got
    · rw [readRounds_of_full full]
      exact ⟨[], r, [], rfl, .nil r, .full full⟩
    have more : r.got < r.output.length := Nat.not_le.mp full
    cases rounds with
    | zero =>
      unfold readRounds
      rw [if_neg full]
      exact ⟨[], r, [], rfl, .nil r, .unfinished more⟩
    | succ rounds =>
      rw [readRounds_succ full, Dialogue.always_bind]
      refine (round_received sized timeout).mono ?_
      rintro log p (⟨answer, e, rfl, rfl⟩ | ⟨delivery, rfl, rfl⟩)
      · exact ⟨[], r, [⟨.bulkOut r.request.encode timeout, answer⟩], rfl, .nil r, .unsent more⟩
      cases hreceived : r.receiving r.room delivery with
      | mk outcome r' =>
        have hlast (hmore : outcome ≠ .ok false) : ∃ before r'' last,
            r.exchange timeout delivery ++ [] = before ++ last ∧ Rounds timeout r before r'' ∧
              LastRound timeout r'' last (outcome.andThen fun _ => .ok r'.got) r' :=
          ⟨[], r, _, List.append_nil _, .nil r, .answered more hreceived hmore⟩
        cases outcome with
        | failed e => exact hlast (by simp)
        | halted h => exact hlast (by simp)
        | ok last =>
          cases last with
          | true => exact hlast (by simp)
          | false =>
            have sized' : r'.session.Sized := by
              obtain ⟨reply, header, -, -, -, rfl⟩ := Reading.receiving_accepted hreceived
              exact (r.kept_spent r.room delivery).sized sized
            refine (readRounds_rounds timeout rounds r' sized').mono ?_
            rintro log p ⟨before, r'', last, rfl, hrounds, hlast⟩
            exact ⟨_, r'', last, (List.append_assoc _ _ _).symm, .cons more hreceived hrounds, hlast⟩

/-- The session of a read has no part in what is collected. -/
theorem foldl_append_session (session : Session) : ∀ (chunks : List Bytes) (r : Reading),
    chunks.foldl Reading.append { r with session } = { chunks.foldl Reading.append r with session }
  | [], _ => rfl
  | chunk :: chunks, r => foldl_append_session session chunks (r.append chunk)

/-- What a row of rounds leaves of a read, told by its calls. -/
structure Progress (r : Reading) (log : List (Event Port)) (r' : Reading) : Prop where
  kept : Kept r.session r'.session
  inBuf : r'.session.inBuf = log.foldl laidOver r.session.inBuf
  collected : r' = { (payloads r.session.inBuf log).foldl Reading.append r with session := r'.session }

theorem Rounds.progress {timeout : Nat} {r r' : Reading} {log : List (Event Port)}
    (h : Rounds timeout r log r') : Progress r log r' := by
  induction h with
  | nil r => exact ⟨.refl _, rfl, rfl⟩
  | @cons r r' r'' delivery log _ hreceived _ ih =>
    obtain ⟨reply, header, hreply, -, -, rfl⟩ := Reading.receiving_accepted hreceived
    have hpayloads : payloads r.session.inBuf (r.exchange timeout delivery ++ log) =
        payload reply :: payloads (delivery.into r.session.inBuf r.room) log := by
      simp [Reading.exchange, payloads, payload?, laidOver, hreply]
    refine ⟨(r.kept_spent r.room delivery).trans ih.kept, ih.inBuf, ?_⟩
    rw [hpayloads, List.foldl_cons]
    refine ih.collected.trans ?_
    show { (payloads _ log).foldl Reading.append { r.append (payload reply) with session := _ } with
      session := r''.session } = _
    rw [foldl_append_session]
    rfl

/-- A transfer in among the calls of a round and others behind it is that of the round or one of those. -/
theorem exchange_split {r : Reading} {timeout room time : Nat} {delivery delivery' : Port.Delivery}
    {rest earlier later : List (Event Port)}
    (h : r.exchange timeout delivery ++ rest = earlier ++ ⟨.bulkIn room time, delivery'⟩ :: later) :
    (earlier = [⟨.bulkOut r.request.encode timeout, .ok Header.byteCount⟩] ∧ room = r.room ∧
      delivery' = delivery ∧ later = rest) ∨
    ∃ earlier', earlier = r.exchange timeout delivery ++ earlier' ∧
      rest = earlier' ++ ⟨.bulkIn room time, delivery'⟩ :: later := by
  rw [Reading.exchange, List.cons_append, List.cons_append, List.nil_append] at h
  cases earlier with
  | nil => cases (List.cons.inj h).1
  | cons first earlier =>
    cases earlier with
    | nil =>
      cases h
      exact .inl ⟨rfl, rfl, rfl, rfl⟩
    | cons second earlier =>
      simp only [List.cons_append, List.cons.injEq] at h
      obtain ⟨rfl, rfl, h⟩ := h
      exact .inr ⟨earlier, rfl, h⟩

/-- What becomes of a read with the transfer of a round: the round is accepted, or the read ends and comes
to what becomes of the round. -/
inductive Concluded (r : Reading) (room : Nat) (delivery : Port.Delivery) (later : List (Event Port))
    (result : ReadResult) : Prop
  | accepted {last} : (r.receiving room delivery).1 = .ok last → Concluded r room delivery later result
  | ended : later = [] → result.output = (r.receiving room delivery).2.output →
    result.outcome = ((r.receiving room delivery).1.andThen fun _ => .ok (r.receiving room delivery).2.got) →
    Concluded r room delivery later result

theorem Concluded.failed {r : Reading} {room : Nat} {delivery : Port.Delivery} {later : List (Event Port)}
    {result : ReadResult} (h : Concluded r room delivery later result) {e : SessionError}
    (he : (r.receiving room delivery).1 = .failed e) : result.outcome = .failed e := by
  cases h with
  | accepted hlast =>
    rw [he] at hlast
    cases hlast
  | ended _ _ houtcome =>
    rw [houtcome, he]
    rfl

/-- A read ends with a round that is not accepted, as the round does, and its output is as it was before. -/
theorem Concluded.refused {r : Reading} {room : Nat} {delivery : Port.Delivery} {later : List (Event Port)}
    {result : ReadResult} (h : Concluded r room delivery later result)
    (hnot : ∀ last, (r.receiving room delivery).1 ≠ .ok last) :
    later = [] ∧ result.output = r.output ∧
      ((∃ e, result.outcome = .failed e) ∨ result.outcome = .halted .overrun) := by
  obtain ⟨hspent, hend⟩ := Reading.receiving_refused hnot
  have hfailed {e : SessionError} := h.failed (e := e)
  cases h with
  | accepted hlast => exact absurd hlast (hnot _)
  | ended hlater houtput houtcome =>
    refine ⟨hlater, houtput.trans (by rw [hspent]; rfl), ?_⟩
    obtain ⟨e, he⟩ | hhalted := hend
    · exact .inl ⟨e, hfailed he⟩
    · exact .inr (by rw [houtcome, hhalted]; rfl)

/-- Every transfer in of a read is that of a round behind others that were accepted. -/
theorem Rounds.split {timeout room time : Nat} {r r' r'' : Reading} {before last : List (Event Port)}
    {outcome : Outcome SessionError Nat} (h : Rounds timeout r before r')
    (hlast : LastRound timeout r' last outcome r'') {earlier later : List (Event Port)}
    {delivery : Port.Delivery} (hsplit : before ++ last = earlier ++ ⟨.bulkIn room time, delivery⟩ :: later) :
    ∃ before r₀, Rounds timeout r before r₀ ∧
      earlier = before ++ [⟨.bulkOut r₀.request.encode timeout, .ok Header.byteCount⟩] ∧
      Concluded r₀ room delivery later ⟨outcome, r''.output, r''.session⟩ := by
  induction h generalizing earlier with
  | nil r =>
    cases hlast with
    | full | unfinished => simp at hsplit
    | unsent =>
      rw [List.nil_append] at hsplit
      cases earlier with
      | nil => cases (List.cons.inj hsplit).1
      | cons first earlier => simp at hsplit
    | @answered delivery' outcome _ _ hreceived =>
      rw [List.nil_append, ← List.append_nil (r.exchange timeout delivery')] at hsplit
      obtain ⟨rfl, rfl, rfl, rfl⟩ | ⟨earlier', -, hrest⟩ := exchange_split hsplit
      · exact ⟨[], r, .nil r, rfl, .ended rfl (by rw [hreceived]) (by rw [hreceived])⟩
      · simp at hrest
  | cons hmore hreceived _ ih =>
    rw [List.append_assoc] at hsplit
    obtain ⟨rfl, rfl, rfl, rfl⟩ | ⟨earlier', rfl, hrest⟩ := exchange_split hsplit
    · exact ⟨[], _, .nil _, rfl, .accepted (by rw [hreceived])⟩
    · obtain ⟨before, r₀, hrounds, hearlier, hconcluded⟩ := ih hlast hrest
      exact ⟨_, r₀, .cons hmore hreceived hrounds, by rw [hearlier, List.append_assoc], hconcluded⟩

end Session

end ScopeLink
