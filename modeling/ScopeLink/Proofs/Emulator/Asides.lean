import ScopeLink.Emulator.Basic
import ScopeLink.Proofs.Client
/-!
# Class requests between transfers

A class request takes no lock of the session, so it may fall between any two calls of another client's
operation, between a request and its reply too. `weave` puts class requests into a dialogue with a port, a
list of them before each call and one behind the last.

On an emulated instrument nothing comes of that but the pulses that were asked for: the count of pulses is
read by no call (`port_pulsed`), so the woven dialogue is the plain one with another count (`run_weave`).
-/

namespace ScopeLink

namespace Emulator

/-- The device after so many pulses more. -/
def pulsed (e : Emulator) (n : Nat) : Emulator := { e with pulses := e.pulses + n }

theorem pulsed_pulsed (e : Emulator) (n m : Nat) : (e.pulsed n).pulsed m = e.pulsed (n + m) := by
  simp only [pulsed, Nat.add_assoc]

theorem accept_pulsed (e : Emulator) (n : Nat) (data : Bytes) :
    (e.pulsed n).accept data = (e.accept data).map fun e' => e'.pulsed n := by
  unfold accept
  cases Header.decode data with
  | none => rfl
  | some h =>
    simp only [pulsed, apply_ite (Option.map _), Option.map_none, Option.map_some]
    rfl

theorem bulkOut_pulsed (e : Emulator) (n : Nat) (data : Bytes) :
    (e.pulsed n).bulkOut data = ((e.bulkOut data).1, (e.bulkOut data).2.pulsed n) := by
  cases hopen : e.isOpen with
  | false => simp [bulkOut, pulsed, hopen]
  | true =>
    have haccept := accept_pulsed { e with outCount := e.outCount + 1 } n data
    simp only [pulsed, hopen] at haccept
    simp only [bulkOut, pulsed, hopen, if_true, haccept]
    cases accept _ data with
    | none => rfl
    | some e' => rfl

theorem bulkIn_pulsed (e : Emulator) (n room : Nat) :
    (e.pulsed n).bulkIn room = ((e.bulkIn room).1, (e.bulkIn room).2.pulsed n) := by
  cases hopen : e.isOpen with
  | false => simp [bulkIn, pulsed, hopen]
  | true =>
    simp only [bulkIn, pulsed, hopen, if_true]
    cases e.pending with
    | none => rfl
    | some request =>
      by_cases hqueue : e.queue = []
      · simp only [hqueue, if_true]
      by_cases hroom : room < Header.byteCount
      · simp only [hqueue, hroom, if_false, if_true]
      · simp only [hqueue, hroom, if_false]

theorem controlIn_pulsed (e : Emulator) (n : Nat) (request : UInt8) (room : Nat) :
    (e.pulsed n).controlIn request room =
      ((e.controlIn request room).1, (e.controlIn request room).2.pulsed n) := by
  by_cases hcapabilities : request = 7
  · simp only [controlIn, hcapabilities, if_true]
  by_cases hpulse : request = 64
  · subst hpulse
    simp only [controlIn, hcapabilities, if_false, if_true, pulsed, Nat.add_right_comm]
  · simp only [controlIn, hcapabilities, hpulse, if_false]

/-- No call looks at the count of pulses. -/
theorem port_pulsed (c : Port.Call) (e : Emulator) (n : Nat) :
    port c (e.pulsed n) = ((port c e).1, (port c e).2.pulsed n) := by
  cases c with
  | openEndpoints | closeEndpoints | maxPacket => rfl
  | bulkOut data timeout => exact e.bulkOut_pulsed n data
  | bulkIn room timeout =>
    dsimp only [port]
    rw [bulkIn_pulsed]
  | controlIn request value room timeout => exact e.controlIn_pulsed n request room

theorem run_pulsed {α : Type} (d : Dialogue Port α) (e : Emulator) (n : Nat) :
    d.run port (e.pulsed n) = ((d.run port e).1, (d.run port e).2.pulsed n) := by
  induction d generalizing e with
  | done a => rfl
  | call c next ih =>
    rw [Dialogue.run_call, Dialogue.run_call, port_pulsed]
    exact ih _ _

end Emulator

namespace Session

/-! ## Class requests of another client -/

/-- A class request that a client may make at any time. -/
inductive Aside where
  | pulse
  | capabilities
deriving DecidableEq, Repr

namespace Aside

abbrev Value : Aside → Type
  | .pulse => Unit
  | .capabilities => Capabilities

/-- Makes the request. -/
def ask (s : Session) : (aside : Aside) → Dialogue Port (Outcome SessionError aside.Value)
  | .pulse => s.pulse
  | .capabilities => s.capabilities

/-- What an emulated instrument answers. -/
def told : (aside : Aside) → aside.Value
  | .pulse => ()
  | .capabilities =>
    { version := 0x0100, indicatorPulse := true, talkOnly := false, listenOnly := false, termChar := false }

end Aside

/-- The class requests, with what comes of them. -/
abbrev Asides : Interface := ⟨Aside, fun aside => Outcome SessionError aside.Value⟩

/-- Makes these requests one after the other. -/
def asides (s : Session) : List Aside → Dialogue Port (List (Event Asides))
  | [] => return []
  | aside :: rest => do
    let answer ← aside.ask s
    let heard ← asides s rest
    return ⟨aside, answer⟩ :: heard

/-- The dialogue with class requests in its gaps: the first list of them goes before its first call, and so
on; those that are left go behind its end. -/
def weave {α : Type} (s : Session) : Dialogue Port α → List (List Aside) →
    Dialogue Port (α × List (Event Asides))
  | .done a, gaps => do
    let heard ← s.asides gaps.flatten
    return (a, heard)
  | .call c next, [] => .call c fun answer => s.weave (next answer) []
  | .call c next, gap :: gaps => do
    let heard ← s.asides gap
    .call c fun answer => do
      let (a, more) ← s.weave (next answer) gaps
      return (a, heard ++ more)

/-- An emulated instrument takes any class request at any time, and counts a pulse. -/
theorem run_aside (s : Session) (aside : Aside) (e : Emulator) :
    (aside.ask s).run Emulator.port e = (.ok aside.told, e.pulsed ([aside].count .pulse)) := by
  cases aside <;> rfl

theorem run_asides (s : Session) : ∀ (gap : List Aside) (e : Emulator),
    (s.asides gap).run Emulator.port e =
      (gap.map fun aside => ⟨aside, .ok aside.told⟩, e.pulsed (gap.count .pulse))
  | [], _ => rfl
  | aside :: rest, e => by
    have hcount : (aside :: rest).count .pulse = [aside].count .pulse + rest.count .pulse := by
      rw [← List.count_append, List.singleton_append]
    rw [asides, Dialogue.run_bind, run_aside, Dialogue.run_bind, run_asides, Emulator.pulsed_pulsed, hcount]
    rfl

/-- A dialogue with class requests in its gaps comes to what it comes to alone, but for the pulses. -/
theorem run_weave {α : Type} (s : Session) (d : Dialogue Port α) (gaps : List (List Aside)) (e : Emulator) :
    (s.weave d gaps).run Emulator.port e =
      (((d.run Emulator.port e).1, gaps.flatten.map fun aside => ⟨aside, .ok aside.told⟩),
        (d.run Emulator.port e).2.pulsed (gaps.flatten.count .pulse)) := by
  induction d generalizing gaps e with
  | done a =>
    rw [weave, Dialogue.run_bind, run_asides]
    rfl
  | call c next ih =>
    cases gaps with
    | nil =>
      rw [weave, Dialogue.run_call, ih]
      rfl
    | cons gap gaps =>
      -- what is left goes on behind the pulses of this gap
      have hnext := ih (Emulator.port c e).1 gaps ((Emulator.port c e).2.pulsed (gap.count .pulse))
      rw [Emulator.run_pulsed (next _), Emulator.pulsed_pulsed] at hnext
      rw [weave, Dialogue.run_bind, run_asides, Dialogue.run_call, Emulator.port_pulsed]
      dsimp only
      rw [Dialogue.run_bind, hnext, List.flatten_cons, List.map_append, List.count_append]
      rfl

example :
    let d := (new {}).weave (Port.bulkOut [] 1 >>= fun _ => Port.bulkIn 12 1) [[.capabilities], [.pulse, .pulse]]
    (d.run Emulator.port.recorded ({}, [])).2.2.map Event.call =
      [.controlIn 7 0 24 1000, .bulkOut [] 1, .controlIn 64 0 1 1000, .controlIn 64 0 1 1000, .bulkIn 12 1] := by
  rfl

/-! ## Runs of operations -/

/-- A client that asks for these operations in turn, and notes the answers. -/
def conduct : List Operation → Dialogue Client (List (Event Client))
  | [] => return []
  | op :: ops => do
    let answer ← Dialogue.ask (I := Client) op
    let rest ← conduct ops
    return ⟨op, answer⟩ :: rest

theorem run_conduct {σ : Type} (h : Handler Client σ) : ∀ (ops : List Operation) (x : σ)
    (log : List (Event Client)),
    h.recorded.after ops (x, log) = (((conduct ops).run h x).2, log ++ ((conduct ops).run h x).1)
  | [], x, log => by simp [conduct, Handler.after]
  | op :: ops, x, log => by
    rw [conduct, Dialogue.ask_bind, Dialogue.run_call, Dialogue.run_bind, Handler.after]
    show h.recorded.after ops ((h op x).2, log ++ [⟨op, (h op x).1⟩]) = _
    rw [run_conduct h ops, List.append_assoc]
    rfl

/-- **Class requests go unnoticed.** Wherever pulses and queries for capabilities fall between the calls that a
run of operations makes on an emulated instrument, the operations come to the same answers and output buffers
and the same session, the device is in the same state but for the pulses, which are those that were asked for
more, and each request is answered as on a device that has nothing else to do. -/
theorem asides_unnoticed (patience : Nat) (s : Session) (e : Emulator) (ops : List Operation)
    (gaps : List (List Aside)) :
    let alone := (operate patience Emulator.port).recorded.after ops ((s, e), [])
    let woven := (s.weave ((conduct ops).lower (serve patience) s) gaps).run Emulator.port e
    woven.1.1 = (alone.2, alone.1.1) ∧
      woven.2 = { alone.1.2 with pulses := alone.1.2.pulses + gaps.flatten.count .pulse } ∧
      woven.1.2.map Event.call = gaps.flatten ∧
      ∀ event ∈ woven.1.2, (∃ value, event.answer = .ok value) ∧
        ∀ idle, event.answer = ((event.call.ask s).run Emulator.port idle).1 := by
  intro alone woven
  have hwoven : woven = _ := run_weave s ((conduct ops).lower (serve patience) s) gaps e
  have halone : alone = _ := run_conduct (operate patience Emulator.port) ops (s, e) []
  rw [operate, Dialogue.run_through, List.nil_append] at halone
  rw [hwoven, halone]
  refine ⟨rfl, rfl, ?_, ?_⟩
  · rw [List.map_map]
    exact List.map_id gaps.flatten
  · intro event hevent
    obtain ⟨aside, -, rfl⟩ := List.mem_map.mp hevent
    exact ⟨⟨aside.told, rfl⟩, fun idle => by rw [run_aside]⟩

end Session

end ScopeLink
