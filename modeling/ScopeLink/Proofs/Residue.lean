import ScopeLink.Proofs.Coupling
import ScopeLink.Proofs.Emulator.Exchange
import ScopeLink.Proofs.Rounds
import ScopeLink.Proofs.Tags
/-!
# Nothing is left of earlier exchanges

The buffers of a session keep what went through them, and later transfers go through them too. Two sessions
that differ in nothing but what their buffers hold (`Twins`) still cannot be told apart, neither by a device
nor by a client: a frame is sent with all of its bytes laid over the buffer, and of a transfer in no byte is
looked at that it does not report.

Each part of an exchange is followed in both sessions at once (`Alongside`); `history_unobservable` is what
comes of it for whole runs.
-/

namespace ScopeLink

namespace Port

/-- A transfer wrote all of the bytes it reports, and there was room for them. -/
def Delivery.Whole (d : Delivery) (room : Nat) : Prop :=
  ∀ n, d.count = .ok n → n ≤ room ∧ n ≤ d.written.length

/-- The bytes that a transfer reports. -/
def Delivery.reported (d : Delivery) : Except TransferError Bytes := d.count.map d.written.take

/-- Answers to a call that are one outcome: a transfer into a buffer reports the same bytes, and may do as it
likes with the buffer behind them. -/
def SameOutcome : (c : Call) → c.Answer → c.Answer → Prop
  | .bulkIn room _, d, d' => d.Whole room ∧ d'.Whole room ∧ d.reported = d'.reported
  | .controlIn _ _ room _, d, d' => d.Whole room ∧ d'.Whole room ∧ d.reported = d'.reported
  | .openEndpoints, answer, answer' => answer = answer'
  | .closeEndpoints, answer, answer' => answer = answer'
  | .maxPacket, answer, answer' => answer = answer'
  | .bulkOut .., answer, answer' => answer = answer'

/-- What is reported of a transfer is found at the front of the buffer, whatever was there before. -/
theorem Delivery.take_into {d : Delivery} {buffer : Bytes} {room n : Nat} (hroom : room ≤ buffer.length)
    (hn : n ≤ room) (hwritten : n ≤ d.written.length) : (d.into buffer room).take n = d.written.take n := by
  have hlen : (d.written.take room).length = min room d.written.length := List.length_take
  have hfront : (d.into buffer room).take (d.written.take room).length = d.written.take room :=
    Bytes.take_overlay (by omega)
  calc (d.into buffer room).take n
      = ((d.into buffer room).take (d.written.take room).length).take n := by
        rw [List.take_take, Nat.min_eq_left (by omega)]
    _ = d.written.take n := by rw [hfront, List.take_take, Nat.min_eq_left hn]

theorem Delivery.whole_failed (e : TransferError) (room : Nat) : (failed e).Whole room := nofun

theorem Delivery.whole_full {data : Bytes} {room : Nat} (h : data.length ≤ room) :
    (full data).Whole room := by
  intro n hn
  obtain rfl : data.length = n := Except.ok.inj hn
  exact ⟨h, Nat.le_refl _⟩

/-- Two transfers of one outcome fail for one reason, or report one number of bytes, which are the same. -/
theorem Delivery.same_cases {d d' : Delivery} {room : Nat} (hd : d.Whole room) (hd' : d'.Whole room)
    (same : d.reported = d'.reported) :
    (∃ e, d.count = .error e ∧ d'.count = .error e) ∨
      ∃ n, d.count = .ok n ∧ d'.count = .ok n ∧ n ≤ room ∧ ∀ buffer buffer' : Bytes,
        room ≤ buffer.length → room ≤ buffer'.length →
          (d.into buffer room).take n = (d'.into buffer' room).take n := by
  unfold reported at same
  cases hcount : d.count with
  | error e =>
    cases hcount' : d'.count with
    | error e' =>
      rw [hcount, hcount'] at same
      cases same
      exact .inl ⟨e, rfl, rfl⟩
    | ok n =>
      rw [hcount, hcount'] at same
      cases same
  | ok n =>
    cases hcount' : d'.count with
    | error e' =>
      rw [hcount, hcount'] at same
      cases same
    | ok n' =>
      rw [hcount, hcount'] at same
      have hbytes : d.written.take n = d'.written.take n' := by simpa [Except.map] using same
      obtain ⟨hn, hwritten⟩ := hd n hcount
      obtain ⟨hn', hwritten'⟩ := hd' n' hcount'
      have hlen := congrArg List.length hbytes
      rw [List.length_take, List.length_take] at hlen
      obtain rfl : n = n' := by omega
      refine .inr ⟨n, rfl, rfl, hn, fun buffer buffer' hbuffer hbuffer' => ?_⟩
      rw [take_into hbuffer hn hwritten, take_into hbuffer' hn' hwritten', hbytes]

end Port

namespace Emulator

theorem whole_bulkIn (e : Emulator) (room : Nat) :
    ((e.bulkIn room).1.getD (.failed .stall)).Whole room := by
  unfold bulkIn
  split
  · dsimp only
    cases e.pending with
    | none => exact Port.Delivery.whole_failed _ _
    | some request =>
      dsimp only
      split
      · exact Port.Delivery.whole_failed _ _
      split
      · exact Port.Delivery.whole_failed _ _
      · exact Port.Delivery.whole_full (length_answerRequest_le _ _ _ _)
  · exact Port.Delivery.whole_failed _ _

theorem whole_controlIn (e : Emulator) (request : UInt8) (room : Nat) :
    (e.controlIn request room).1.Whole room := by
  unfold controlIn
  split
  · exact Port.Delivery.whole_full (List.length_take_le _ _)
  split
  · exact Port.Delivery.whole_full (List.length_take_le _ _)
  · exact Port.Delivery.whole_failed _ _

/-- One emulator gives one outcome to one call. -/
theorem coupled_port : Handler.Coupled Port.SameOutcome Eq port port := by
  rintro c e _ rfl
  refine ⟨?_, rfl⟩
  cases c with
  | bulkIn room time => exact ⟨e.whole_bulkIn room, e.whole_bulkIn room, rfl⟩
  | controlIn request value room time =>
    exact ⟨e.whole_controlIn request room, e.whole_controlIn request room, rfl⟩
  | openEndpoints | closeEndpoints | maxPacket | bulkOut => rfl

end Emulator

/-- Two buffers of one length take the same frame, or none. -/
theorem Frame.write_cases {buffer buffer' : Bytes} (hlen : buffer'.length = buffer.length) (tag : UInt8)
    (payload : Bytes) :
    (write buffer tag payload = none ∧ write buffer' tag payload = none) ∨
      ∃ n outBuf outBuf', write buffer tag payload = some (n, outBuf) ∧
        write buffer' tag payload = some (n, outBuf') ∧ outBuf'.take n = outBuf.take n ∧
        outBuf.length = buffer.length ∧ outBuf'.length = buffer'.length := by
  by_cases hfits : buffer.length < len payload.length ∨ UInt32.size ≤ payload.length
  · exact .inl ⟨write_eq_none_iff.mpr hfits, write_eq_none_iff.mpr (by rwa [hlen])⟩
  · have hwrite : write buffer tag payload = some (_, _) := if_neg hfits
    have hwrite' : write buffer' tag payload = some (_, _) := if_neg (by rwa [hlen])
    obtain ⟨htake, hbuffer⟩ := write_eq_some hwrite
    obtain ⟨htake', hbuffer'⟩ := write_eq_some hwrite'
    exact .inr ⟨_, _, _, hwrite, hwrite', htake'.trans htake.symm, hbuffer, hbuffer'⟩

namespace Session

variable {patience : Nat}

/-! ## Twins -/

/-- Two sessions that differ in nothing but what their buffers hold. -/
structure Twins (s s' : Session) : Prop where
  config : s'.config = s.config
  state : s'.state = s.state
  lastTag : s'.lastTag = s.lastTag
  sized : s.Sized
  sized' : s'.Sized

namespace Twins

variable {s s' : Session} (h : Twins s s')
include h

theorem length_outBuf : s'.outBuf.length = s.outBuf.length := by
  rw [h.sized'.out, h.sized.out, h.config]

theorem length_inBuf : s'.inBuf.length = s.inBuf.length := by
  rw [h.sized'.inn, h.sized.inn, h.config]

/-- Where their lives stand is set in both at once. -/
theorem withState (state : State) : Twins { s with state } { s' with state } :=
  ⟨h.config, rfl, h.lastTag, (kept_state s state).sized h.sized, (kept_state s' state).sized h.sized'⟩

end Twins

/-- Sessions of one config are twins whatever ports they have been on and whatever they did there, once
they are at one point of their lives and of their tags. -/
theorem twins_of_histories {σ τ : Type} (patience : Nat) (port : Handler Port σ) (port' : Handler Port τ)
    (x : σ) (x' : τ) (config : Config) (ops ops' : List Operation) :
    let s := ((operate patience port.recorded).after ops (new config, x, [])).1
    let s' := ((operate patience port'.recorded).after ops' (new config, x', [])).1
    s'.state = s.state → s'.lastTag = s.lastTag → Twins s s' := by
  intro s s' state lastTag
  obtain ⟨_, -, h⟩ := numbered_lasting.after port ops (new config) x []
  obtain ⟨_, -, h'⟩ := numbered_lasting.after port' ops' (new config) x' []
  exact ⟨h'.kept.config.trans h.kept.config.symm, state, lastTag, h.kept.sized (sized_new config),
    h'.kept.sized (sized_new config)⟩

/-- Two reads that differ in nothing but what the buffers of their sessions hold. -/
structure TwinReadings (r r' : Reading) : Prop where
  session : Twins r.session r'.session
  output : r'.output = r.output
  got : r'.got = r.got

namespace TwinReadings

variable {r r' : Reading} (h : TwinReadings r r')
include h

theorem remaining : r'.remaining = r.remaining := by simp [Reading.remaining, h.output, h.got]

theorem requested : r'.requested = r.requested := by
  simp [Reading.requested, h.remaining, h.session.config]

theorem request : r'.request = r.request := by
  simp [Reading.request, h.requested, h.session.lastTag]

theorem room : r'.room = r.room := by
  simp [Reading.room, h.requested, h.session.length_inBuf]

/-- Both send the same request, and may lay anything over their in-buffers then. -/
theorem requesting {inBuf inBuf' : Bytes} (hin : inBuf.length = r.session.inBuf.length)
    (hin' : inBuf'.length = r'.session.inBuf.length) :
    Twins { r.requesting with inBuf } { r'.requesting with inBuf := inBuf' } where
  config := h.session.config
  state := h.session.state
  lastTag := by rw [Reading.requesting, Reading.requesting, h.session.lastTag]
  sized := (r.kept_requesting inBuf hin).sized h.session.sized
  sized' := (r'.kept_requesting inBuf' hin').sized h.session.sized'

theorem append (payload : Bytes) : TwinReadings (r.append payload) (r'.append payload) where
  session := h.session
  output := by simp only [Reading.append, h.output, h.got]
  got := by simp only [Reading.append, h.got]

/-- One outcome of a transfer makes one of the round, and of what is read. -/
theorem receiving {time : Nat} {d d' : Port.Delivery}
    (same : Port.SameOutcome (.bulkIn r.room time) d d') :
    (r'.receiving r.room d').1 = (r.receiving r.room d).1 ∧
      TwinReadings (r.receiving r.room d).2 (r'.receiving r.room d').2 := by
  obtain ⟨hd, hd', hreported⟩ := same
  have hroom : r.room ≤ r.session.inBuf.length := Nat.min_le_right _ _
  have hroom' : r.room ≤ r'.session.inBuf.length := by rw [h.session.length_inBuf]; exact hroom
  have hspent : TwinReadings (r.spent r.room d) (r'.spent r.room d') :=
    ⟨h.requesting (Port.Delivery.length_into _ _ _) (Port.Delivery.length_into _ _ _), h.output, h.got⟩
  unfold Reading.receiving
  dsimp only
  obtain ⟨e, hcount, hcount'⟩ | ⟨n, hcount, hcount', hn, htake⟩ := Port.Delivery.same_cases hd hd' hreported
  · rw [hcount, hcount']
    exact ⟨rfl, hspent⟩
  · have hreply := htake r.session.inBuf r'.session.inBuf hroom hroom'
    rw [hcount, hcount']
    dsimp only
    rw [if_neg (by rw [Port.Delivery.length_into]; omega),
      if_neg (by rw [Port.Delivery.length_into]; omega), ← hreply, h.session.config, h.session.lastTag,
      h.requested, h.remaining]
    cases acceptReply r.session.config.tagPolicy (Tag.next r.session.lastTag) r.requested r.remaining
        ((d.into r.session.inBuf r.room).take n) with
    | error e => exact ⟨rfl, hspent⟩
    | ok header => exact ⟨rfl, hspent.append _⟩

end TwinReadings

/-! ## Exchanges side by side -/

/-- The same calls on the port, as long as their outcomes are the same, and related results. -/
abbrev Indistinct {α β : Type} (Q : α → β → Prop) (d : Dialogue Port α) (d' : Dialogue Port β) : Prop :=
  Dialogue.Alongside Port.SameOutcome Q d d'

theorem indistinct_send (data : Bytes) (timeout : Nat) :
    Indistinct Eq (send data timeout) (send data timeout) := by
  unfold send
  rw [Port.bulkOut_bind]
  refine .call ?_
  rintro answer _ ⟨⟩
  cases answer with
  | error e => exact .done rfl
  | ok sent =>
    dsimp only
    split
    · exact .done rfl
    · exact .done rfl

/-- What a call of a session comes to in both of two twins: one answer, and twins again. -/
abbrev Twinned {α : Type} (r r' : α × Session) : Prop := r'.1 = r.1 ∧ Twins r.2 r'.2

/-- The frame of a message is laid over all of the buffer that is sent. -/
theorem indistinct_write {s s' : Session} (h : Twins s s') (data : Bytes) (timeout : Nat) :
    Indistinct Twinned (s.write data timeout) (s'.write data timeout) := by
  unfold write
  rw [Port.maxPacket_bind, Port.maxPacket_bind]
  refine .call ?_
  rintro max _ ⟨⟩
  dsimp only
  rw [h.state, h.length_outBuf, h.lastTag]
  split
  · exact .done ⟨rfl, h⟩
  split
  · exact .done ⟨rfl, h⟩
  split
  · exact .done ⟨rfl, h⟩
  obtain ⟨hnone, hnone'⟩ | ⟨n, outBuf, outBuf', hsome, hsome', htake, hout, hout'⟩ :=
    Frame.write_cases h.length_outBuf (Tag.next s.lastTag) data
  · rw [hnone, hnone']
    exact .done ⟨rfl, h.config, rfl, rfl, ⟨h.sized.out, h.sized.inn, h.sized.least⟩,
      ⟨h.sized'.out, h.sized'.inn, h.sized'.least⟩⟩
  · have hnext : Twins { s with lastTag := Tag.next s.lastTag, outBuf }
        { s' with state := s.state, lastTag := Tag.next s.lastTag, outBuf := outBuf' } :=
      ⟨h.config, rfl, rfl, ⟨hout.trans h.sized.out, h.sized.inn, h.sized.least⟩,
        ⟨hout'.trans h.sized'.out, h.sized'.inn, h.sized'.least⟩⟩
    rw [hsome, hsome']
    dsimp only
    rw [htake]
    refine (indistinct_send _ timeout).bind ?_
    rintro outcome _ ⟨⟩
    cases outcome with
    | error e => exact .done ⟨rfl, hnext⟩
    | ok u => exact .done ⟨rfl, hnext⟩

/-- What a round comes to in both of two reads. -/
theorem indistinct_round {r r' : Reading} (h : TwinReadings r r') (timeout : Nat) :
    Indistinct (fun p p' => p'.1 = p.1 ∧ TwinReadings p.2 p'.2) (round timeout r) (round timeout r') := by
  rw [round_eq h.session.sized, round_eq h.session.sized', h.request]
  refine (indistinct_send _ timeout).bind ?_
  rintro outcome _ ⟨⟩
  cases outcome with
  | error e => exact .done ⟨rfl, h.requesting rfl rfl, h.output, h.got⟩
  | ok u =>
    show Indistinct _ (Port.bulkIn r.room timeout >>= fun d => .done (r.receiving r.room d))
      (Port.bulkIn r'.room timeout >>= fun d => .done (r'.receiving r'.room d))
    rw [h.room, Port.bulkIn_bind, Port.bulkIn_bind]
    exact .call fun d d' same => .done (h.receiving same)

theorem indistinct_readRounds (timeout : Nat) : ∀ (rounds : Nat) {r r' : Reading}, TwinReadings r r' →
    Indistinct (fun p p' => p'.1 = p.1 ∧ TwinReadings p.2 p'.2) (readRounds timeout rounds r)
      (readRounds timeout rounds r')
  | rounds, r, r', h => by
    by_cases full : r.output.length ≤ r.got
    · rw [readRounds_of_full full, readRounds_of_full (by rwa [h.output, h.got])]
      exact .done ⟨by rw [h.got], h⟩
    have full' : ¬ r'.output.length ≤ r'.got := by rwa [h.output, h.got]
    cases rounds with
    | zero =>
      unfold readRounds
      rw [if_neg full, if_neg full']
      exact .done ⟨rfl, h⟩
    | succ rounds =>
      rw [readRounds_succ full, readRounds_succ full']
      refine (indistinct_round h timeout).bind ?_
      rintro ⟨_, next⟩ ⟨outcome, next'⟩ ⟨rfl, hnext⟩
      cases outcome with
      | ok last =>
        cases last with
        | true => exact .done ⟨by rw [hnext.got], hnext⟩
        | false => exact indistinct_readRounds timeout rounds hnext
      | failed e => exact .done ⟨rfl, hnext⟩
      | halted e => exact .done ⟨rfl, hnext⟩

/-- What a read comes to in both of two twins. -/
structure TwinResults (r r' : ReadResult) : Prop where
  outcome : r'.outcome = r.outcome
  output : r'.output = r.output
  session : Twins r.session r'.session

theorem indistinct_read {s s' : Session} (h : Twins s s') (output : Bytes) (timeout : Nat) :
    Indistinct TwinResults (s.read patience output timeout) (s'.read patience output timeout) := by
  unfold read
  rw [h.state]
  split
  · exact .done ⟨rfl, rfl, h⟩
  · have hstart : TwinReadings ⟨s, output, 0⟩ ⟨s', output, 0⟩ := ⟨h, rfl, rfl⟩
    refine (indistinct_readRounds timeout _ hstart).bind ?_
    rintro ⟨outcome, r⟩ ⟨_, r'⟩ ⟨rfl, hnext⟩
    exact .done ⟨rfl, hnext.output, hnext.session⟩

theorem indistinct_ask {s s' : Session} (h : Twins s s') (query output : Bytes) (timeout : Nat) :
    Indistinct TwinResults (s.ask patience query output timeout) (s'.ask patience query output timeout) := by
  refine (indistinct_write h query timeout).bind ?_
  rintro ⟨_, next⟩ ⟨outcome, next'⟩ ⟨rfl, hnext⟩
  cases outcome with
  | error e => exact .done ⟨rfl, rfl, hnext⟩
  | ok n => exact indistinct_read hnext output timeout

/-- A class request does without the buffers of the session. -/
theorem indistinct_control {α : Type} {s s' : Session} (h : Twins s s') (request : UInt8) (room : Nat)
    (decode : Bytes → Except SessionError α) :
    Indistinct Eq (s.control request room decode) (s'.control request room decode) := by
  have hzeros : room ≤ (Bytes.zeros room).length := Nat.le_of_eq (Bytes.length_zeros room).symm
  unfold control
  rw [h.config, Port.controlIn_bind]
  refine .call ?_
  rintro d d' ⟨hd, hd', hreported⟩
  obtain ⟨e, hcount, hcount'⟩ | ⟨n, hcount, hcount', hn, htake⟩ := Port.Delivery.same_cases hd hd' hreported
  · rw [hcount, hcount']
    exact .done rfl
  · rw [hcount, hcount']
    dsimp only
    rw [if_neg (Nat.not_lt.mpr hn), if_neg (Nat.not_lt.mpr hn), htake _ _ hzeros hzeros]
    exact .done rfl

theorem indistinct_query {α : Type} {s s' : Session} (h : Twins s s') (question : String) (room : Nat)
    (interpret : String → Except InstrumentError α) :
    Indistinct Twinned (Instrument.query s patience question room interpret)
      (Instrument.query s' patience question room interpret) := by
  unfold Instrument.query
  rw [h.config]
  refine (indistinct_ask h _ _ _).bind ?_
  rintro r r' ⟨houtcome, houtput, hsession⟩
  exact .done ⟨by rw [houtcome, houtput], hsession⟩

/-! ## Every operation -/

theorem indistinct_start {s s' : Session} (h : Twins s s') : Indistinct Twinned s.start s'.start := by
  unfold start
  rw [h.state]
  cases s.state with
  | ready => exact .done ⟨rfl, h⟩
  | stopped => exact .done ⟨rfl, h⟩
  | active =>
    refine .call ?_
    rintro answer _ ⟨⟩
    cases answer with
    | error e => exact .done ⟨rfl, h⟩
    | ok u => exact .done ⟨rfl, h.withState .ready⟩

theorem indistinct_stop {s s' : Session} (h : Twins s s') : Indistinct Twins s.stop s'.stop := by
  unfold stop
  rw [h.state]
  cases s.state with
  | ready => exact .call fun _ _ _ => .done (h.withState .active)
  | active => exact .done h
  | stopped => exact .done h

theorem indistinct_serve (op : Operation) {s s' : Session} (h : Twins s s') :
    Indistinct Twinned (serve patience op s) (serve patience op s') := by
  have hread {d d' : Dialogue Port ReadResult} (hd : Indistinct TwinResults d d') :
      Indistinct Twinned (ReadResult.answered <$> d) (ReadResult.answered <$> d') := by
    refine hd.bind ?_
    rintro r r' ⟨houtcome, houtput, hsession⟩
    exact .done ⟨by simp only [ReadResult.answered, houtcome, houtput], hsession⟩
  -- a flattened read loses the error in both
  have hflat {d d' : Dialogue Port ReadResult} (hd : Indistinct TwinResults d d') :
      Indistinct TwinResults (d >>= fun r => .done { r with outcome := r.outcome.orElse 0 })
        (d' >>= fun r => .done { r with outcome := r.outcome.orElse 0 }) := by
    refine hd.bind ?_
    rintro r r' ⟨houtcome, houtput, hsession⟩
    exact .done ⟨by rw [houtcome], houtput, hsession⟩
  have hcontrol {α : Type} {d d' : Dialogue Port α} (hd : Indistinct Eq d d') :
      Indistinct Twinned ((fun r => (r, s)) <$> d) ((fun r => (r, s')) <$> d') := by
    refine hd.bind ?_
    rintro r _ ⟨⟩
    exact .done ⟨rfl, h⟩
  cases op with
  | start => exact indistinct_start h
  | stop => exact (indistinct_stop h).bind fun _ _ hnext => .done ⟨rfl, hnext⟩
  | unload =>
    refine ((indistinct_stop h).bind fun _ _ hnext => ?_).bind fun _ _ hnext => .done ⟨rfl, hnext⟩
    exact .done (hnext.withState .stopped)
  | write data timeout => exact indistinct_write h data timeout
  | read output timeout => exact hread (indistinct_read h output timeout)
  | ask query output timeout => exact hread (indistinct_ask h query output timeout)
  | writeLength data timeout =>
    refine (indistinct_write h data timeout).bind ?_
    rintro ⟨_, next⟩ ⟨outcome, next'⟩ ⟨rfl, hnext⟩
    cases outcome with
    | error e => exact .done ⟨rfl, hnext⟩
    | ok n => exact .done ⟨rfl, hnext⟩
  | readLength output timeout => exact hread (hflat (indistinct_read h output timeout))
  | askLength query output timeout => exact hread (hflat (indistinct_ask h query output timeout))
  | pulse => exact hcontrol (indistinct_control h _ _ _)
  | capabilities => exact hcontrol (indistinct_control h _ _ _)
  | identify => exact indistinct_query h _ _ _
  | detect =>
    refine (indistinct_query h _ _ _).bind ?_
    rintro ⟨_, next⟩ ⟨outcome, next'⟩ ⟨rfl, hnext⟩
    exact .done ⟨rfl, hnext⟩
  | setState profile state =>
    show Indistinct Twinned (Instrument.setState s profile state) (Instrument.setState s' profile state)
    unfold Instrument.setState
    dsimp only
    rw [h.config]
    refine (indistinct_write h _ _).bind ?_
    rintro ⟨_, next⟩ ⟨outcome, next'⟩ ⟨rfl, hnext⟩
    cases outcome with
    | error e => exact .done ⟨rfl, hnext⟩
    | ok written =>
      dsimp only
      split
      · exact .done ⟨rfl, hnext⟩
      · exact .done ⟨rfl, hnext⟩
  | getState profile => exact indistinct_query h _ _ _

/-! ## Whole runs -/

/-- **Nothing is left of earlier exchanges.** Two sessions that differ in what their buffers hold alone, on
ports that give the same outcomes, make the same calls on them over every run of operations, and give their
clients the same answers. -/
theorem history_unobservable {σ τ : Type} (patience : Nat) {port : Handler Port σ} {port' : Handler Port τ}
    {S : σ → τ → Prop} (coupled : Handler.Coupled Port.SameOutcome S port port') {s s' : Session}
    (twins : Twins s s') {x : σ} {x' : τ} (related : S x x') (ops : List Operation) :
    let last := (operate patience port.recorded).recorded.after ops ((s, x, []), [])
    let last' := (operate patience port'.recorded).recorded.after ops ((s', x', []), [])
    last'.2 = last.2 ∧ last'.1.2.2.map Event.call = last.1.2.2.map Event.call := by
  have hport := coupled.recorded (L := fun log log' => log'.map Event.call = log.map Event.call)
    fun log log' c answer answer' hlog _ => by simp [hlog]
  have hoperate : Handler.Coupled (fun _ answer answer' => answer' = answer) _ (operate patience port.recorded)
    (operate patience port'.recorded) := hport.through fun op _ _ h => indistinct_serve op h
  have hclient := hoperate.recorded (L := fun log log' => log' = log)
    fun log log' c answer answer' hlog hanswer => by rw [hlog, hanswer]
  obtain ⟨⟨-, -, hcalls⟩, hanswers⟩ :=
    hclient.after ops ((s, x, []), []) ((s', x', []), []) ⟨⟨twins, related, rfl⟩, rfl⟩
  exact ⟨hanswers, hcalls⟩

/-- A session that wrote twice and one that read a part of an answer go on alike. -/
theorem history_unobservable_behind_read :
    let past : List Operation := [.start, .write (Bytes.ofString "RUN") 1, .write (Bytes.ofString "SINGle") 1]
    let past' : List Operation := [.start, .ask (Bytes.ofString "*IDN?") (Bytes.zeros 3) 1]
    let behind := fun ops =>
      ((operate usualPatience Emulator.port.recorded).after ops (new { bufferSize := 20 }, {}, [])).1
    let s := behind past
    let s' := behind past'
    let e : Emulator := { isOpen := true, queue := [1, 2, 3, 4, 5] }
    let ops : List Operation := [.read (Bytes.zeros 4) 1, .write [7] 1, .ask [8, 9] (Bytes.zeros 2) 1]
    let last := (operate usualPatience Emulator.port.recorded).recorded.after ops ((s, e, []), [])
    let last' := (operate usualPatience Emulator.port.recorded).recorded.after ops ((s', e, []), [])
    s.state = .ready ∧ s.outBuf ≠ s'.outBuf ∧ s.inBuf ≠ s'.inBuf ∧ Twins s s' ∧
      last'.2 = last.2 ∧ last'.1.2.2.map Event.call = last.1.2.2.map Event.call := by
  intro past past' behind s s' e ops last last'
  have twins : Twins s s' :=
    twins_of_histories usualPatience Emulator.port Emulator.port {} {} { bufferSize := 20 } past past' rfl rfl
  exact ⟨rfl, by decide, by decide, twins,
    history_unobservable usualPatience Emulator.coupled_port twins (rfl : e = e) ops⟩

end Session

end ScopeLink
