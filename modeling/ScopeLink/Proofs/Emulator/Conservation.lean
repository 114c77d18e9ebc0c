import ScopeLink.Proofs.Emulator.Deliveries
import ScopeLink.Proofs.Lifecycle
import ScopeLink.Proofs.Rounds
/-!
# Reply bytes are conserved

Calls made on an emulator directly, in any order and with any bytes. What the device still has to say, and to
which request, can be told from the log of the calls and their answers: the bytes that transfers in have
delivered and those still queued are the replies to the messages that were taken, and a request is answered
that was taken and that nothing has concluded since (`Accounted`).

A transfer out is one of four things (`Sent`), a transfer in one of three (`Taken`), and what each call changes
of the account is `Told`; `replies_conserved` is the theorem over whole runs.
-/

namespace ScopeLink.Emulator

/-! ## What a log tells -/

/-- The message that a call brought to the device: the payload of a transfer out that was taken. -/
def message? : Event Port → Option Bytes
  | ⟨.bulkOut data _, .ok _⟩ => (Header.decode data).bind fun h =>
    if h.messageId = Header.outId then some ((data.drop Header.byteCount).take h.size.toNat) else none
  | _ => none

/-- The request that a call brought: the tag it came with, and how much it asks for. -/
def request? : Event Port → Option (UInt8 × Nat)
  | ⟨.bulkOut data _, .ok _⟩ => (Header.decode data).bind fun h =>
    if h.messageId = Header.requestId then some (h.tag, h.size.toNat) else none
  | _ => none

/-- The payload that a call delivered to the host. -/
def delivered : Event Port → Bytes
  | ⟨.bulkIn .., delivery⟩ =>
    match delivery.count with
    | .ok n => Session.payload (delivery.written.take n)
    | .error _ => []
  | _ => []

/-- A transfer in that succeeded. -/
def Succeeds : Event Port → Prop
  | ⟨.bulkIn .., delivery⟩ => ∃ n, delivery.count = .ok n
  | _ => False

/-- Behind this call an earlier request is not answered any more: it is another request, a transfer in with
the endpoints open, or a close. -/
def Concludes (event : Event Port) : Prop :=
  match event with
  | ⟨.bulkIn .., delivery⟩ => delivery.count ≠ .error .disconnected
  | ⟨.closeEndpoints, _⟩ => True
  | event => (request? event).isSome

/-- A request was made, and nothing has concluded it since. -/
def Asked (log : List (Event Port)) (request : UInt8 × Nat) : Prop :=
  ∃ event, request? event = some request ∧ Lasts event Concludes log

/-- The replies to messages one behind the other, from a device in this state. -/
def repliesTo (e : Emulator) : List Bytes → Bytes
  | [] => []
  | m :: ms => e.replyTo m ++ (e.receive m).repliesTo ms

theorem asked_snoc {log : List (Event Port)} {event : Event Port} {request : UInt8 × Nat} :
    Asked (log ++ [event]) request ↔
      request? event = some request ∨ Asked log request ∧ ¬ Concludes event := by
  constructor
  · rintro ⟨a, ha, hlasts⟩
    obtain rfl | ⟨hlasts, hnot⟩ := lasts_snoc.mp hlasts
    · exact .inl ha
    · exact .inr ⟨⟨a, ha, hlasts⟩, hnot⟩
  · rintro (h | ⟨⟨a, ha, hlasts⟩, hnot⟩)
    · exact ⟨event, h, lasts_snoc.mpr (.inl rfl)⟩
    · exact ⟨a, ha, lasts_snoc.mpr (.inr ⟨hlasts, hnot⟩)⟩

/-- What is asked for can be stated in four bytes. -/
theorem asked_small {log : List (Event Port)} {request : UInt8 × Nat} (h : Asked log request) :
    request.2 < UInt32.size := by
  obtain ⟨⟨call, answer⟩, hrequest, -⟩ := h
  cases call with
  | bulkOut data timeout =>
    cases answer with
    | error e => cases hrequest
    | ok n =>
      obtain ⟨header, -, hsome⟩ := Option.bind_eq_some_iff.mp hrequest
      split at hsome
      · cases hsome
        exact header.size.toNat_lt
      · cases hsome
  | _ => cases hrequest

/-- Since each transfer in that succeeded before, a request has been made: none is answered twice. -/
theorem Asked.fresh {log before between : List (Event Port)} {event : Event Port} {request : UInt8 × Nat}
    (h : Asked log request) (hlog : log = before ++ event :: between) (hsuccess : Succeeds event) :
    ∃ other ∈ between, (request? other).isSome := by
  obtain ⟨a, ha, front, behind, hsplit, hnot⟩ := h
  have hconcludes : Concludes event := by
    obtain ⟨call, answer⟩ := event
    cases call with
    | bulkIn room time =>
      obtain ⟨n, hn⟩ := hsuccess
      simp [Concludes, hn]
    | _ => exact hsuccess.elim
  have hne : a ≠ event := by
    rintro rfl
    obtain ⟨call, answer⟩ := a
    cases call with
    | bulkIn room time => cases ha
    | _ => exact hsuccess.elim
  rw [hlog] at hsplit
  obtain ⟨within, hfront, hrest⟩ | ⟨within, hbefore, hrest⟩ := List.append_eq_append_iff.mp hsplit
  · cases within with
    | nil => exact absurd (List.cons.inj hrest).1.symm hne
    | cons first within =>
      obtain ⟨-, rfl⟩ := List.cons.inj hrest
      exact ⟨a, by simp, by rw [ha]; rfl⟩
  · cases within with
    | nil => exact absurd (List.cons.inj hrest).1 hne
    | cons first within =>
      obtain ⟨-, rfl⟩ := List.cons.inj hrest
      exact absurd hconcludes (hnot event (by simp))

/-! ## Replies -/

/-- What a device replies depends on its identity and its acquisition. -/
theorem replyTo_congr {e e' : Emulator} (identity : e'.identity = e.identity)
    (acquisition : e'.acquisition = e.acquisition) (m : Bytes) :
    e'.replyTo m = e.replyTo m ∧ (e'.receive m).acquisition = (e.receive m).acquisition := by
  unfold replyTo receive
  rw [identity, acquisition]
  exact ⟨rfl, rfl⟩

theorem repliesTo_append : ∀ (ms ms' : List Bytes) (e : Emulator),
    e.repliesTo (ms ++ ms') = e.repliesTo ms ++ (ms.foldl receive e).repliesTo ms'
  | [], _, _ => rfl
  | m :: ms, ms', e => by
    rw [List.cons_append, repliesTo, repliesTo, repliesTo_append ms ms', List.foldl_cons, List.append_assoc]

theorem repliesTo_congr : ∀ (ms : List Bytes) (e e' : Emulator), e'.identity = e.identity →
    e'.acquisition = e.acquisition →
    e'.repliesTo ms = e.repliesTo ms ∧
      (ms.foldl receive e').acquisition = (ms.foldl receive e).acquisition
  | [], _, _, _, acquisition => ⟨rfl, acquisition⟩
  | m :: ms, e, e', identity, acquisition => by
    obtain ⟨hreply, hreceive⟩ := replyTo_congr identity acquisition m
    obtain ⟨hreplies, hfold⟩ := repliesTo_congr ms (e.receive m) (e'.receive m) identity hreceive
    exact ⟨by rw [repliesTo, repliesTo, hreply, hreplies], hfold⟩

theorem identity_foldl_receive : ∀ (ms : List Bytes) (e : Emulator), (ms.foldl receive e).identity = e.identity
  | [], _ => rfl
  | m :: ms, e => identity_foldl_receive ms (e.receive m)

/-! ## A transfer in that succeeds -/

/-- How much of the queue a transfer in hands out. -/
def portion (e : Emulator) (requested room : Nat) : Nat :=
  min requested (min (room - Header.byteCount) e.queue.length)

/-- The transfer that answers a request: the tag comes back with its complement, the front of the queue is the
payload, which ends the message if that is all of it, and zeros fill up the last word. -/
structure Reply (e : Emulator) (request : UInt8 × Nat) (room : Nat) (transfer : Bytes) : Prop where
  header : ∃ h, Header.decode transfer = some h ∧ h.messageId = Header.replyId ∧ h.tag = request.1 ∧
    h.inverse = Tag.complement request.1 ∧ h.size.toNat = e.portion request.2 room ∧
    (h.endOfMessage = true ↔ e.queue.drop (e.portion request.2 room) = [])
  payload : (transfer.drop Header.byteCount).take (e.portion request.2 room) =
    e.queue.take (e.portion request.2 room)
  padding : ∀ b ∈ transfer.drop (Header.byteCount + e.portion request.2 room), b = 0
  length : transfer.length = min room (Frame.len (e.portion request.2 room))

theorem answerRequest_left (e : Emulator) (tag : UInt8) (requested room : Nat) :
    (answerRequest e.queue tag requested room).2 = e.queue.drop (e.portion requested room) := by
  rw [portion, ← Nat.min_assoc]
  rfl

theorem portion_le (e : Emulator) (requested room : Nat) :
    e.portion requested room ≤ requested ∧ e.portion requested room ≤ room - Header.byteCount ∧
      e.portion requested room ≤ e.queue.length := by
  simp only [portion]
  omega

/-- If only a header finds room, nothing but padding is cut off. -/
theorem answerRequest_parts (e : Emulator) (tag : UInt8) {requested room size : Nat}
    (hroom : Header.byteCount ≤ room) (hsize : e.portion requested room = size) :
    (answerRequest e.queue tag requested room).1 =
      (Header.reply tag (UInt32.ofNat size) (size = e.queue.length)).encode ++ (e.queue.take size ++
        (Bytes.zeros (Frame.paddedLen size - size)).take (room - (Header.byteCount + size))) := by
  obtain ⟨-, hfits, hqueued⟩ := e.portion_le requested room
  rw [hsize] at hfits hqueued
  have hlen : (e.queue.take size).length = size := by
    rw [List.length_take]
    omega
  have htransfer : (answerRequest e.queue tag requested room).1 =
      (Frame.encode (Header.reply tag (UInt32.ofNat size) (size = e.queue.length))
        (e.queue.take size)).take room := by
    rw [← hsize, portion, ← Nat.min_assoc]
    rfl
  generalize Header.reply tag (UInt32.ofNat size) (size = e.queue.length) = h at htransfer ⊢
  have hfront : (h.encode ++ e.queue.take size).length = Header.byteCount + size := by
    rw [List.length_append, Header.length_encode, hlen]
  rw [htransfer, Frame.encode, hlen, List.take_append, List.take_of_length_le (by omega), hfront,
    List.append_assoc]

theorem answerRequest_reply (e : Emulator) {request : UInt8 × Nat} {room : Nat}
    (hroom : Header.byteCount ≤ room) (small : request.2 < UInt32.size) :
    Reply e request room (answerRequest e.queue request.1 request.2 room).1 := by
  obtain ⟨size, hportion⟩ : ∃ size, e.portion request.2 room = size := ⟨_, rfl⟩
  obtain ⟨hrequested, hfits, hqueued⟩ := e.portion_le request.2 room
  rw [hportion] at hrequested hfits hqueued
  have hparts := e.answerRequest_parts request.1 hroom hportion
  generalize hheader : Header.reply request.1 (UInt32.ofNat size) (size = e.queue.length) = h at hparts
  have hlen : (e.queue.take size).length = size := by
    rw [List.length_take]
    omega
  rw [hparts]
  constructor <;> rw [hportion]
  case header =>
    have hsize : h.size.toNat = size := by
      rw [← hheader]
      exact UInt32.toNat_ofNat_of_lt' (Nat.lt_of_le_of_lt hrequested small)
    refine ⟨h, Header.decode_encode_append h _, by rw [← hheader]; rfl, by rw [← hheader]; rfl,
      by rw [← hheader]; rfl, hsize, ?_⟩
    rw [← hheader, Header.endOfMessage_reply, decide_eq_true_iff, List.drop_eq_nil_iff]
    omega
  case payload => rw [List.drop_left' (Header.length_encode h), List.take_left' hlen]
  case padding =>
    rw [← List.drop_drop, List.drop_left' (Header.length_encode h), List.drop_left' hlen]
    exact fun b hb => List.eq_of_mem_replicate (List.mem_of_mem_take hb)
  case length =>
    have hpad := Frame.le_paddedLen size
    rw [List.length_append, List.length_append, Header.length_encode, hlen, List.length_take,
      Bytes.length_zeros, Frame.len]
    omega

theorem Reply.delivered {e : Emulator} {request : UInt8 × Nat} {room : Nat} {transfer : Bytes}
    (h : Reply e request room transfer) (timeout : Nat) :
    delivered ⟨.bulkIn room timeout, .full transfer⟩ = e.queue.take (e.portion request.2 room) := by
  obtain ⟨header, hdecode, -, -, -, hsize, -⟩ := h.header
  show Session.payload (transfer.take transfer.length) = _
  rw [List.take_length, Session.payload, hdecode]
  dsimp only
  rw [hsize, h.payload]

/-! ## The device as the log tells it -/

/-- The state of a device behind these calls, as far as they tell it. -/
structure Accounted (start e : Emulator) (log : List (Event Port)) : Prop where
  identity : e.identity = start.identity
  acquisition : e.acquisition = ((log.filterMap message?).foldl receive start).acquisition
  opened : e.isOpen = true ↔ Session.Opened log
  asked : ∀ request, e.pending = some request ↔ Asked log request
  conserved : log.flatMap delivered ++ e.queue = start.repliesTo (log.filterMap message?)

/-- What one call changes of that. -/
structure Told (e : Emulator) (event : Event Port) (e' : Emulator) : Prop where
  identity : e'.identity = e.identity
  acquisition : e'.acquisition = ((message? event).toList.foldl receive e).acquisition
  opened : e'.isOpen = true ↔
    event = ⟨.openEndpoints, .ok ()⟩ ∨ e.isOpen = true ∧ event.call ≠ .closeEndpoints
  asked : ∀ request, e'.pending = some request ↔
    request? event = some request ∨ e.pending = some request ∧ ¬ Concludes event
  conserved : delivered event ++ e'.queue = e.queue ++ e.repliesTo (message? event).toList

theorem Accounted.told {start e e' : Emulator} {log : List (Event Port)} {event : Event Port}
    (h : Accounted start e log) (hevent : Told e event e') : Accounted start e' (log ++ [event]) := by
  have hmessages : (log ++ [event]).filterMap message? =
      log.filterMap message? ++ (message? event).toList := by
    rw [List.filterMap_append]
    cases hmessage : message? event <;> simp [hmessage]
  -- the device replies as the one would that got all the messages one behind the other
  obtain ⟨hreplies, hfold⟩ := repliesTo_congr (message? event).toList
    ((log.filterMap message?).foldl receive start) e
    (h.identity.trans (identity_foldl_receive _ start).symm) h.acquisition
  refine ⟨hevent.identity.trans h.identity, ?_, ?_, fun request => ?_, ?_⟩
  · rw [hmessages, List.foldl_append, hevent.acquisition, hfold]
  · rw [Session.opened_snoc, ← h.opened]
    exact hevent.opened
  · rw [asked_snoc, ← h.asked]
    exact hevent.asked request
  · rw [hmessages, repliesTo_append, ← hreplies, ← h.conserved, List.append_assoc, ← hevent.conserved]
    simp

/-! ## One call -/

/-- All that a transfer out can come to behind these calls. -/
inductive Sent (log : List (Event Port)) (e : Emulator) (data : Bytes) :
    Except TransferError Nat → Emulator → Prop
  | closed : ¬ Session.Opened log → Sent log e data (.error .disconnected) e
  | refused : Session.Opened log → Sent log e data (.error .stall) { e with outCount := e.outCount + 1 }
  | message {h} : Session.Opened log → Header.decode data = some h → h.messageId = Header.outId →
    Sent log e data (.ok data.length)
      ({ e with outCount := e.outCount + 1 }.receive ((data.drop Header.byteCount).take h.size.toNat))
  | request {h} : Session.Opened log → Header.decode data = some h → h.messageId = Header.requestId →
    Sent log e data (.ok data.length)
      { e with outCount := e.outCount + 1, pending := some (h.tag, h.size.toNat) }

theorem accept_some {e e' : Emulator} {data : Bytes} (h : e.accept data = some e') :
    ∃ header, Header.decode data = some header ∧
      ((header.messageId = Header.outId ∧
          e' = e.receive ((data.drop Header.byteCount).take header.size.toNat)) ∨
        (header.messageId = Header.requestId ∧
          e' = { e with pending := some (header.tag, header.size.toNat) })) := by
  unfold accept at h
  cases hdecode : Header.decode data with
  | none =>
    rw [hdecode] at h
    cases h
  | some header =>
    rw [hdecode] at h
    dsimp only at h
    refine ⟨header, rfl, ?_⟩
    split at h
    · cases h
    split at h
    · rename_i hid
      split at h
      · exact .inl ⟨hid, (Option.some.inj h).symm⟩
      · cases h
    split at h
    · rename_i hid
      split at h
      · exact .inr ⟨hid, (Option.some.inj h).symm⟩
      · cases h
    · cases h

theorem Accounted.sent {start e : Emulator} {log : List (Event Port)} (h : Accounted start e log)
    (data : Bytes) : Sent log e data (e.bulkOut data).1 (e.bulkOut data).2 := by
  by_cases opened : Session.Opened log
  · have isOpen := h.opened.mpr opened
    cases haccept : { e with outCount := e.outCount + 1 }.accept data with
    | none =>
      rw [bulkOut_refused isOpen haccept]
      exact .refused opened
    | some e' =>
      rw [bulkOut_accepted isOpen haccept]
      obtain ⟨header, hdecode, ⟨hid, rfl⟩ | ⟨hid, rfl⟩⟩ := accept_some haccept
      · exact .message opened hdecode hid
      · exact .request opened hdecode hid
  · unfold bulkOut
    rw [if_neg (mt h.opened.mp opened)]
    exact .closed opened

theorem Sent.told {log : List (Event Port)} {e e' : Emulator} {data : Bytes} {answer : Except TransferError Nat}
    (h : Sent log e data answer e') (timeout : Nat) : Told e ⟨.bulkOut data timeout, answer⟩ e' := by
  have hids : Header.outId ≠ Header.requestId := by decide
  cases h with
  | closed | refused =>
    exact ⟨rfl, rfl, by simp, fun request => by simp [Concludes, request?], (List.append_nil _).symm⟩
  | @message header _ hdecode hid =>
    have hmessage : message? ⟨.bulkOut data timeout, .ok data.length⟩ =
        some ((data.drop Header.byteCount).take header.size.toNat) := by
      rw [message?, hdecode, Option.bind_some, if_pos hid]
    have hrequest : request? ⟨.bulkOut data timeout, .ok data.length⟩ = none := by
      rw [request?, hdecode, Option.bind_some, if_neg (by rw [hid]; exact hids)]
    refine ⟨rfl, ?_, ?_, fun request => ?_, ?_⟩
    · rw [hmessage]
      rfl
    · simp [receive]
    · simp [Concludes, hrequest, receive]
    · rw [hmessage]
      show _ = e.queue ++ (e.replyTo _ ++ [])
      rw [List.append_nil]
      rfl
  | @request header _ hdecode hid =>
    have hmessage : message? ⟨.bulkOut data timeout, .ok data.length⟩ = none := by
      rw [message?, hdecode, Option.bind_some, if_neg (by rw [hid]; exact hids.symm)]
    have hrequest : request? ⟨.bulkOut data timeout, .ok data.length⟩ =
        some (header.tag, header.size.toNat) := by
      rw [request?, hdecode, Option.bind_some, if_pos hid]
    refine ⟨rfl, ?_, by simp, fun request => ?_, ?_⟩
    · rw [hmessage]
      rfl
    · simp [Concludes, hrequest]
    · rw [hmessage]
      exact (List.append_nil _).symm

/-- All that a transfer in can come to behind these calls. -/
inductive Taken (log : List (Event Port)) (e : Emulator) (room : Nat) : Port.Delivery → Emulator → Prop
  | closed : ¬ Session.Opened log → Taken log e room (.failed .disconnected) e
  | nothing : Session.Opened log → (∀ request, ¬ Asked log request) ∨ e.queue = [] →
    Taken log e room (.failed .timeout) { e with inCount := e.inCount + 1, pending := none }
  | answered {request transfer} : Session.Opened log → Asked log request → e.queue ≠ [] →
    Reply e request room transfer →
    Taken log e room (.full transfer)
      { e with inCount := e.inCount + 1, pending := none, queue := e.queue.drop (e.portion request.2 room) }

theorem Accounted.taken {start e : Emulator} {log : List (Event Port)} (h : Accounted start e log) {room : Nat}
    (hroom : Header.byteCount ≤ room) :
    Taken log e room ((e.bulkIn room).1.getD (.failed .stall)) (e.bulkIn room).2 := by
  unfold bulkIn
  by_cases opened : Session.Opened log
  · rw [if_pos (h.opened.mpr opened)]
    dsimp only
    cases hpending : e.pending with
    | none =>
      refine .nothing opened (.inl fun request hasked => ?_)
      rw [(h.asked request).mpr hasked] at hpending
      cases hpending
    | some request =>
      have hasked := (h.asked request).mp hpending
      dsimp only
      by_cases empty : e.queue = []
      · rw [if_pos empty]
        exact .nothing opened (.inr empty)
      · rw [if_neg empty, if_neg (Nat.not_lt.mpr hroom), answerRequest_left]
        exact .answered opened hasked empty (answerRequest_reply e hroom (asked_small hasked))
  · rw [if_neg (mt h.opened.mp opened)]
    exact .closed opened

theorem Taken.told {log : List (Event Port)} {e e' : Emulator} {room : Nat} {delivery : Port.Delivery}
    (h : Taken log e room delivery e') (timeout : Nat) : Told e ⟨.bulkIn room timeout, delivery⟩ e' := by
  cases h with
  | closed =>
    exact ⟨rfl, rfl, by simp, fun request => by simp [Concludes, request?, Port.Delivery.failed],
      (List.append_nil _).symm⟩
  | nothing =>
    exact ⟨rfl, rfl, by simp, fun request => by simp [Concludes, request?, Port.Delivery.failed],
      (List.append_nil _).symm⟩
  | answered _ _ _ hreply =>
    refine ⟨rfl, rfl, by simp, fun request => by simp [Concludes, request?, Port.Delivery.full], ?_⟩
    rw [hreply.delivered, List.take_append_drop]
    exact (List.append_nil _).symm

/-- Transfers in offer room for a header. -/
def HasRoom : Port.Call → Prop
  | .bulkIn room _ => Header.byteCount ≤ room
  | _ => True

instance : DecidablePred HasRoom
  | .bulkIn room _ => inferInstanceAs (Decidable (Header.byteCount ≤ room))
  | .openEndpoints | .closeEndpoints | .maxPacket | .bulkOut .. | .controlIn .. => .isTrue trivial

theorem Accounted.port {start e : Emulator} {log : List (Event Port)} (h : Accounted start e log)
    {call : Port.Call} (hroom : HasRoom call) :
    Told e ⟨call, (Emulator.port call e).1⟩ (Emulator.port call e).2 := by
  cases call with
  | openEndpoints =>
    exact ⟨rfl, rfl, by simp [Emulator.port, openEndpoints],
      fun request => by simp [Emulator.port, openEndpoints, Concludes, request?], (List.append_nil _).symm⟩
  | closeEndpoints =>
    exact ⟨rfl, rfl, by simp [Emulator.port, closeEndpoints],
      fun request => by simp [Emulator.port, closeEndpoints, Concludes, request?], (List.append_nil _).symm⟩
  | maxPacket =>
    exact ⟨rfl, rfl, by simp [Emulator.port], fun request => by simp [Emulator.port, Concludes, request?],
      (List.append_nil _).symm⟩
  | bulkOut data timeout => exact (h.sent data).told timeout
  | bulkIn room timeout => exact (h.taken hroom).told timeout
  | controlIn request value room timeout =>
    obtain ⟨pulses, hnext⟩ := e.controlIn_leaves request room
    show Told e ⟨.controlIn request value room timeout, _⟩ (e.controlIn request room).2
    rw [hnext]
    exact ⟨rfl, rfl, by simp, fun request => by simp [Concludes, request?], (List.append_nil _).symm⟩

/-! ## Whole runs -/

/-- A device with its endpoints closed that has nothing queued, as one is that was just switched on. -/
structure Idle (e : Emulator) : Prop where
  isOpen : e.isOpen = false
  queue : e.queue = []
  pending : e.pending = none

/-- Since each transfer in that succeeded, a request has been made. -/
def Renewed (log : List (Event Port)) : Prop :=
  ∀ before event after, log = before ++ event :: after → Succeeds event →
    ∃ other ∈ after, (request? other).isSome

/-- What a transfer comes to behind the calls before it. No request is answered twice, as there is a newer
one behind each transfer in that succeeds. -/
def Serves : Emulator × List (Event Port) → (call : Port.Call) → call.Answer →
    Emulator × List (Event Port) → Prop
  | (e, log), .bulkOut data _, answer, (e', _) => Sent log e data answer e'
  | (e, log), .bulkIn room timeout, delivery, (e', _) =>
    Taken log e room delivery e' ∧ (Succeeds ⟨.bulkIn room timeout, delivery⟩ → Renewed log)
  | _, _, _, _ => True

theorem accounted_idle {e : Emulator} (h : Idle e) : Accounted e e [] where
  identity := rfl
  acquisition := rfl
  opened := iff_of_false (by rw [h.isOpen]; nofun) not_lasts_nil
  asked request := iff_of_false (by rw [h.pending]; nofun) fun ⟨_, _, hlasts⟩ => not_lasts_nil hlasts
  conserved := h.queue

theorem Taken.renewed {log : List (Event Port)} {e e' : Emulator} {room timeout : Nat}
    {delivery : Port.Delivery} (h : Taken log e room delivery e')
    (hsuccess : Succeeds ⟨.bulkIn room timeout, delivery⟩) : Renewed log := by
  cases h with
  | closed => exact nomatch hsuccess
  | nothing => exact nomatch hsuccess
  | answered _ hasked => exact fun _ _ _ hlog => hasked.fresh hlog

theorem accounted_step {start e : Emulator} {log : List (Event Port)} {call : Port.Call}
    (h : Accounted start e log) (hroom : HasRoom call) :
    Serves (e, log) call (port.recorded call (e, log)).1 (port.recorded call (e, log)).2 ∧
      Accounted start (port.recorded call (e, log)).2.1 (port.recorded call (e, log)).2.2 := by
  refine ⟨?_, h.told (h.port hroom)⟩
  cases call with
  | bulkOut data timeout => exact h.sent data
  | bulkIn room timeout => exact ⟨h.taken hroom, (h.taken hroom).renewed⟩
  | _ => trivial

/-- **No reply byte is lost, doubled or out of place.** Whatever calls are made on a device, what its transfers
in have delivered, with what is still queued behind it, is the replies to the messages it took, in order; a
transfer in answers the request that nothing has concluded, and a transfer out that is rejected leaves the device
alone. -/
theorem replies_conserved {start : Emulator} (idle : Idle start) {calls : List Port.Call}
    (hroom : ∀ call ∈ calls, HasRoom call) :
    let behind := port.recorded.after calls (start, [])
    behind.2.flatMap delivered ++ behind.1.queue = start.repliesTo (behind.2.filterMap message?) ∧
      port.recorded.EachStep Serves calls (start, []) := by
  have hstart := accounted_idle idle
  constructor
  · have hbehind := Handler.after_of_forall (h := port.recorded) (C := HasRoom)
      (fun x => Accounted start x.1 x.2) (fun ⟨_, _⟩ _ hc h => (accounted_step h hc).2)
      calls (start, []) hroom hstart
    exact hbehind.conserved
  · exact Handler.eachStep_of_invariant (h := port.recorded) (A := fun _ call _ _ => HasRoom call)
      (fun x => Accounted start x.1 x.2) (fun ⟨_, _⟩ _ h hc => accounted_step h hc) calls (start, []) hstart
      (Handler.eachStep_of_mem (h := port.recorded) (A := HasRoom) calls _ hroom)

/-- Of the reply to a question, two bytes come for the later of two requests, and one waits while a request for
it is forgotten at a close; it comes behind the next open, in as much room as it needs. -/
theorem replies_conserved_over_close :
    let start : Emulator := { identity := "AB" }
    let question := Frame.message 1 [0x2A, 0x49, 0x44, 0x4E, 0x3F]
    let request (tag : UInt8) (size : UInt32) : Port.Call := .bulkOut (Header.request tag size).encode 1
    let calls : List Port.Call := [.bulkOut question 1, .openEndpoints, .bulkOut question 1, request 2 9,
      request 3 2, .bulkIn 64 1, .bulkOut [0xFF] 1, request 4 9, .closeEndpoints, .bulkIn 64 1,
      .openEndpoints, .bulkIn 64 1, request 5 9, .bulkIn 12 1, request 6 9, .controlIn 64 0 1 1, .bulkIn 13 1]
    let behind := port.recorded.after calls (start, [])
    Idle start ∧ (∀ call ∈ calls, HasRoom call) ∧
      behind.2.map delivered = [[], [], [], [], [], [0x41, 0x42], [], [], [], [], [], [], [], [], [], [],
        [0x0A]] ∧
      behind.2.flatMap delivered ++ behind.1.queue = start.repliesTo (behind.2.filterMap message?) ∧
      port.recorded.EachStep Serves calls (start, []) := by
  intro start question request calls behind
  have idle : Idle start := ⟨rfl, rfl, rfl⟩
  have hroom : ∀ call ∈ calls, HasRoom call := by decide
  exact ⟨idle, hroom, by decide, replies_conserved idle hroom⟩

end ScopeLink.Emulator
