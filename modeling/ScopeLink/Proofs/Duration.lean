import ScopeLink.Proofs.Assembly
import ScopeLink.Proofs.Tags
import ScopeLink.Proofs.Emulator.Exchange
/-!
# How long a read goes on

A read asks again until its message is complete, its output full or a round fails. Nothing in that bounds
the rounds: a reply may pass all checks with no byte in it and without ending the message, and the read is
then where it was. Every other round that does not end the read brings it at least a byte forward, so that
a read of `n` bytes begins no more than `n` rounds and one for each such idle reply (`Course.begun_le`).

A read of a device comes to an end exactly if the device gives idle replies a bounded number of times
(`read_ends_iff`). One that never tires of them is `tireless`: no number of rounds completes a read of it.
-/

namespace ScopeLink.Session

/-- How many rounds are begun in these calls; each of them begins with a request. -/
def begun (log : List (Event Port)) : Nat := (sentFrames log).length

theorem begun_append (log log' : List (Event Port)) : begun (log ++ log') = begun log + begun log' := by
  rw [begun, sentFrames_append, List.length_append]
  rfl

/-- How many of these calls of a read from `r` on are idle rounds: the reply passes all checks, but it
brings no byte and does not end the message. -/
def idles : Reading → List (Event Port) → Nat
  | r, ⟨.bulkOut .., _⟩ :: ⟨.bulkIn room _, delivery⟩ :: log =>
    match r.receiving room delivery with
    | (.ok false, r') => (if r'.got = r.got then 1 else 0) + idles r' log
    | _ => 0
  | _, _ => 0

theorem idles_le_begun (r : Reading) (log : List (Event Port)) : idles r log ≤ begun log := by
  fun_induction idles r log with
  | case1 r data timeout answer room _ delivery log r' hreceiving ih =>
    show _ ≤ begun log + 1
    split
    · omega
    · omega
  | case2 => exact Nat.zero_le _
  | case3 => exact Nat.zero_le _

/-! ## One course -/

/-- A round that takes a reply is idle if there is nothing in the reply. -/
theorem Taking.idles_exchange {r : Reading} {delivery : Port.Delivery} {reply : Bytes} {h : Header}
    (taking : Taking r delivery reply h) (hmore : h.endOfMessage = false) (timeout : Nat)
    (log : List (Event Port)) :
    idles r (r.exchange timeout delivery ++ log) =
      (if (payload reply).length = 0 then 1 else 0) + idles (r.taking delivery reply) log := by
  have hreceiving : r.receiving r.room delivery = (.ok false, r.taking delivery reply) := by
    rw [Reading.receiving_of_reply taking.arrived, acceptReply_ok_iff.mpr taking.accepted, ← hmore]
    rfl
  have hgot : (r.taking delivery reply).got = r.got + (payload reply).length := rfl
  have hsame : ((r.taking delivery reply).got = r.got) = ((payload reply).length = 0) := by
    rw [hgot]
    exact propext ⟨by omega, by omega⟩
  show (match r.receiving r.room delivery with
    | (.ok false, r') => (if r'.got = r.got then 1 else 0) + idles r' log
    | _ => 0) = _
  rw [hreceiving]
  simp only [hsame]

theorem begun_exchange (r : Reading) (timeout : Nat) (delivery : Port.Delivery) :
    begun (r.exchange timeout delivery) = 1 := rfl

theorem Failing.begun {timeout : Nat} {r : Reading} {log : List (Event Port)} {e : SessionError}
    (failing : Failing timeout r log e) : begun log = 1 := by
  cases failing <;> rfl

theorem Turned.begun {timeout : Nat} {r : Reading} {log : List (Event Port)} {s : Session}
    (turned : Turned timeout r log s) : begun log = 1 := by
  cases turned <;> rfl

/-- Each round that is begun brings a byte, is idle or is the last, and there is no last one yet of a read
that is not through. -/
theorem Course.begun_le {timeout : Nat} {r : Reading} {log : List (Event Port)} {payloads : List Bytes}
    {ending : Outcome SessionError Unit} (course : Course timeout r log payloads ending)
    (hgot : r.got ≤ r.output.length) :
    r.got + begun log ≤ r.output.length + idles r log ∧
      (ending = .halted .unfinished → r.got + payloads.length < r.output.length + idles r log) := by
  induction course with
  | full => exact ⟨Nat.le_add_right_of_le hgot, nofun⟩
  | unfinished hlt => exact ⟨Nat.le_add_right_of_le hgot, fun _ => hlt⟩
  | failed hlt failing =>
    have hone := failing.begun
    exact ⟨by omega, nofun⟩
  | last hlt | overran hlt =>
    rw [begun_exchange]
    exact ⟨by omega, nofun⟩
  | @more r delivery reply h log payloads ending hlt taking hmore _ ih =>
    have hfits := taking.fits hgot
    have hlen := taking.length_output hgot
    have hgot' : (r.taking delivery reply).got = r.got + (payload reply).length := rfl
    obtain ⟨hbegun, hunfinished⟩ := ih (by omega)
    rw [begun_append, begun_exchange, taking.idles_exchange hmore, List.length_cons]
    split
    · exact ⟨by omega, fun hend => by have := hunfinished hend; omega⟩
    · exact ⟨by omega, fun hend => by have := hunfinished hend; omega⟩

/-! ## More rounds -/

/-- A read begins no more rounds than it may take. -/
theorem readRounds_begun (timeout : Nat) : ∀ (rounds : Nat) (r : Reading),
    (readRounds timeout rounds r).Always fun log _ => begun log ≤ rounds
  | rounds, r => by
    by_cases full : r.output.length ≤ r.got
    · rw [readRounds_of_full full]
      exact Nat.zero_le _
    cases rounds with
    | zero =>
      unfold readRounds
      rw [if_neg full]
      exact Nat.le_refl 0
    | succ rounds =>
      rw [readRounds_succ full, Dialogue.always_bind]
      refine (round_turned timeout r).mono ?_
      rintro log ⟨outcome, r'⟩ turned
      have hone := turned.begun
      cases outcome with
      | ok last =>
        cases last with
        | true =>
          show begun (log ++ []) ≤ rounds + 1
          rw [List.append_nil]
          omega
        | false =>
          refine (readRounds_begun timeout rounds r').mono fun log' _ hrest => ?_
          rw [begun_append]
          omega
      | failed e | halted halt =>
        show begun (log ++ []) ≤ rounds + 1
        rw [List.append_nil]
        omega

/-- A read that has come to an end stays as it is, however many more rounds it may take. -/
theorem readRounds_more {σ : Type} (port : Handler Port σ) (timeout : Nat) :
    ∀ (rounds : Nat) {more : Nat} (r : Reading) (x : σ), rounds ≤ more →
      ((readRounds timeout rounds r).run port x).1.1 ≠ .halted .unfinished →
      (readRounds timeout more r).run port x = (readRounds timeout rounds r).run port x
  | rounds, more, r, x, hle, hend => by
    by_cases full : r.output.length ≤ r.got
    · rw [readRounds_of_full full, readRounds_of_full full]
    cases rounds with
    | zero =>
      unfold readRounds at hend
      rw [if_neg full] at hend
      exact absurd rfl hend
    | succ rounds =>
      obtain ⟨more, rfl⟩ : ∃ n, more = n + 1 := ⟨more - 1, by omega⟩
      rw [readRounds_succ full, Dialogue.run_bind] at hend ⊢
      rw [readRounds_succ full, Dialogue.run_bind]
      generalize (round timeout r).run port x = p at hend ⊢
      obtain ⟨⟨outcome, r'⟩, x'⟩ := p
      cases outcome with
      | ok last =>
        cases last with
        | true => rfl
        | false => exact readRounds_more port timeout rounds r' x' (by omega) hend
      | failed e | halted halt => rfl

/-! ## Reads of a device -/

section

variable {σ : Type} (port : Handler Port σ) (x : σ) (timeout : Nat)

/-- The calls that a read from `r` on makes if it may take so many rounds. -/
def calls (r : Reading) (rounds : Nat) : List (Event Port) :=
  ((readRounds timeout rounds r).run port.recorded (x, [])).2.2

/-- The read comes to an end, be it a failure, in some number of rounds. -/
def Ends (r : Reading) : Prop :=
  ∃ rounds, ((readRounds timeout rounds r).run port x).1.1 ≠ .halted .unfinished

theorem calls_begun (r : Reading) (rounds : Nat) : begun (calls port x timeout r rounds) ≤ rounds := by
  obtain ⟨log, hlog, hbegun⟩ := Dialogue.always_run (readRounds_begun timeout rounds r) port x []
  rw [calls, hlog]
  exact hbegun

variable {r : Reading} (sized : r.session.Sized) (hgot : r.got ≤ r.output.length)
include sized hgot

theorem calls_bounded (rounds : Nat) :
    r.got + begun (calls port x timeout r rounds) ≤ r.output.length + idles r (calls port x timeout r rounds) := by
  obtain ⟨log, hlog, payloads, ending, followed⟩ :=
    Dialogue.always_run (readRounds_course timeout rounds r sized) port x []
  rw [calls, hlog]
  exact (followed.course.begun_le hgot).1

/-- A read that has not come to an end has had an idle reply in all of its rounds but one for each byte. -/
theorem calls_of_unfinished {rounds : Nat}
    (hend : ((readRounds timeout rounds r).run port x).1.1 = .halted .unfinished) :
    r.got + rounds < r.output.length + idles r (calls port x timeout r rounds) := by
  obtain ⟨log, hlog, payloads, ending, followed⟩ :=
    Dialogue.always_run (readRounds_course timeout rounds r sized) port x []
  have houtcome := followed.outcome
  rw [(Handler.run_recorded port _ x []).1, hend] at houtcome
  have hending : ending = .halted .unfinished := by
    cases ending with
    | ok u | failed e => cases houtcome
    | halted halt =>
      cases houtcome
      rfl
  have hidle := (followed.course.begun_le hgot).2 hending
  have hrounds := followed.patience hending
  rw [calls, hlog]
  show _ < _ + idles r log
  omega

/-- A read comes to an end exactly if its idle rounds do. -/
theorem ends_iff_idles_bounded :
    Ends port x timeout r ↔ ∃ bound, ∀ rounds, idles r (calls port x timeout r rounds) ≤ bound := by
  constructor
  · rintro ⟨last, hend⟩
    refine ⟨last, fun rounds => ?_⟩
    have hidles := idles_le_begun r (calls port x timeout r rounds)
    by_cases hle : last ≤ rounds
    · -- from the end on, the calls are those there were
      have hsame : calls port x timeout r rounds = calls port x timeout r last := by
        rw [calls, readRounds_more port.recorded timeout last r (x, []) hle]
        · rfl
        · rwa [(Handler.run_recorded port _ x []).1]
      have hbegun := calls_begun port x timeout r last
      rw [hsame] at hidles ⊢
      omega
    · have hbegun := calls_begun port x timeout r rounds
      omega
  · rintro ⟨bound, hbound⟩
    refine ⟨r.output.length + bound, fun hend => ?_⟩
    have hidle := calls_of_unfinished port x timeout sized hgot hend
    have := hbound (r.output.length + bound)
    omega

end

/-! ## A device that never tires -/

/-- A device that answers every request at once: with nothing, and with more to come. Its state is the tag
of the latest request. -/
def tireless : Handler Port UInt8
  | .openEndpoints, tag => (.ok (), tag)
  | .closeEndpoints, tag => ((), tag)
  | .maxPacket, tag => (64, tag)
  | .bulkOut data _, tag => (.ok data.length, Simulated.requestTagAfter tag data)
  | .bulkIn _ _, tag => (.full (Frame.encode (Header.reply tag 0 false) []), tag)
  | .controlIn _ _ _ _, tag => (.failed .stall, tag)

theorem run_round_tireless {r : Reading} (timeout : Nat) (sized : r.session.Sized) (tag : UInt8) :
    ∃ s', Alike r.session s' ∧ (round timeout r).run tireless tag =
      ((.ok false, { r with session := s' }.append []), Tag.next r.session.lastTag) := by
  have hfits := Reading.len_requested_le sized
  obtain ⟨s', halike, hreceiving⟩ := receiving_reply false sized
    (show ([] : Bytes).length < UInt32.size by decide) (Nat.zero_le _)
  have hsend : (send r.request.encode timeout).run tireless tag = (.ok (), Tag.next r.session.lastTag) := by
    have htag : Simulated.requestTagAfter tag r.request.encode = Tag.next r.session.lastTag := by
      rw [Simulated.requestTagAfter, Header.decode_encode]
      rfl
    unfold send
    rw [Port.bulkOut_bind, Dialogue.run_call]
    simp only [tireless, htag, if_true]
    rfl
  refine ⟨s', halike, ?_⟩
  rw [round_eq sized, Dialogue.run_bind, hsend]
  dsimp only
  rw [Nat.min_eq_left hfits, Port.bulkIn_bind, Dialogue.run_call]
  exact congrArg (·, Tag.next r.session.lastTag) hreceiving

/-- No number of rounds completes a read of it, whatever the session and the output. -/
theorem unfinished_tireless (timeout : Nat) : ∀ (rounds : Nat) {r : Reading} (tag : UInt8),
    r.session.Sized → r.got < r.output.length →
    ((readRounds timeout rounds r).run tireless tag).1.1 = .halted .unfinished
  | 0, r, tag, _, hlt => by
    unfold readRounds
    rw [if_neg (Nat.not_le.mpr hlt)]
    rfl
  | rounds + 1, r, tag, sized, hlt => by
    obtain ⟨s', halike, hround⟩ := run_round_tireless timeout sized tag
    have hlen : ({ r with session := s' }.append []).output.length = r.output.length :=
      Reading.length_append (r := { r with session := s' }) (by simpa using Nat.le_of_lt hlt)
    rw [readRounds_succ (Nat.not_le.mpr hlt), Dialogue.run_bind, hround]
    refine unfinished_tireless timeout rounds _ (halike.sized sized) ?_
    rw [hlen]
    exact hlt

/-! ## The read of a session -/

/-- **How long a read goes on.** On any device, a read comes to an end exactly if the idle replies do, and
never begins more rounds than one for each byte of its output and one for each idle reply. What gives a
read up that has not come to an end is the patience of its reader, behind more idle replies than that. -/
theorem read_ends_iff {σ : Type} (patience : Nat) (port : Handler Port σ) (x : σ) {s : Session}
    (sized : s.Sized) (ready : s.state = .ready) (output : Bytes) (timeout : Nat) :
    let start : Reading := ⟨s, output, 0⟩
    let result := (s.read patience output timeout).run port.recorded (x, [])
    (Ends port x timeout start ↔
      ∃ bound, ∀ rounds, idles start (calls port x timeout start rounds) ≤ bound) ∧
    (∀ rounds, begun (calls port x timeout start rounds) ≤
      output.length + idles start (calls port x timeout start rounds)) ∧
    (result.1.outcome = .halted .unfinished → patience < idles start result.2.2) := by
  intro start result
  have hgot : start.got ≤ start.output.length := Nat.zero_le _
  refine ⟨ends_iff_idles_bounded port x timeout sized hgot, fun rounds => ?_, fun hend => ?_⟩
  · have hbounded := calls_bounded port x timeout sized hgot rounds
    rwa [show start.got = 0 from rfl, Nat.zero_add] at hbounded
  · -- the read is given a round for each byte beyond the patience
    have hread : (s.read patience output timeout).run port.recorded (x, []) =
        let last := (readRounds timeout (output.length + patience) start).run port.recorded (x, [])
        (⟨last.1.1, last.1.2.output, last.1.2.session⟩, last.2) := by
      unfold read
      rw [if_neg (not_not_intro ready), Dialogue.run_bind]
      rfl
    have hlog : result.2.2 = calls port x timeout start (output.length + patience) :=
      congrArg (·.2.2) hread
    have hlast : ((readRounds timeout (output.length + patience) start).run port x).1.1
        = .halted .unfinished := by
      rw [← (Handler.run_recorded port _ x []).1]
      exact (congrArg (·.1.outcome) hread).symm.trans hend
    have hidle := calls_of_unfinished port x timeout sized hgot hlast
    rw [hlog]
    simp only [start] at hidle ⊢
    omega

/-- Of the device that never tires, a read of one byte comes to no end. -/
theorem read_ends_iff_at_tireless :
    let s : Session := { new { bufferSize := 16 } with state := .ready }
    let start : Reading := ⟨s, [0], 0⟩
    s.Sized ∧ s.state = .ready ∧
      (∀ bound, ∃ rounds, bound < idles start (calls tireless 0 1 start rounds)) ∧
      3 < idles start ((s.read 3 [0] 1).run tireless.recorded (0, [])).2.2 := by
  intro s start
  have sized : s.Sized := (kept_state _ _).sized (sized_new _)
  obtain ⟨hends, -, hgiven⟩ := read_ends_iff 3 tireless 0 sized rfl [0] 1
  have hnever : ¬ Ends tireless 0 1 start := fun ⟨rounds, hrounds⟩ =>
    hrounds (unfinished_tireless 1 rounds 0 sized Nat.zero_lt_one)
  refine ⟨sized, rfl, fun bound => ?_, hgiven (by decide +kernel)⟩
  simpa using not_exists.mp (mt hends.mpr hnever) bound

/-- Three replies that pass all checks, with no byte in them and more to come, are followed by a fourth
round of a read of one byte, and one that never ends is followed by any number. -/
theorem rounds_beyond_output :
    let s : Session := { new { bufferSize := 16 } with state := .ready }
    let script : Simulated.Script := { ins := List.replicate 3 (.deliver { attributes := 0 } none) }
    let result := (s.read 3 [0] 50).run Simulated.Script.port.recorded (script, [])
    result.1.outcome = .failed .timeout ∧ begun result.2.2 = 4 ∧ ([0] : Bytes).length < begun result.2.2 ∧
      ¬ Ends tireless 0 50 ⟨s, [0], 0⟩ := by
  intro s script result
  have sized : s.Sized := (kept_state _ _).sized (sized_new _)
  refine ⟨by decide +kernel, by decide +kernel, by decide +kernel, fun ⟨rounds, hrounds⟩ => ?_⟩
  exact hrounds (unfinished_tireless 50 rounds 0 sized Nat.zero_lt_one)

end ScopeLink.Session
