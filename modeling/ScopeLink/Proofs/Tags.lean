import ScopeLink.Simulated.Script
import ScopeLink.Proofs.Client
/-!
# Tags along a run

The bulk-out transfers of a run carry the tags 1, 2, …, 255, 1, … one after the other, whatever the
port does: messages, the requests of a read and failed transfers all draw from the one counter, and
what is refused before a transfer draws nothing.

The induction is on the operations of the run (`Lasting.after`); what one write or one round does
to the counter is `Numbered`, and `TagChain` closes the tags of its frames under appending.
-/

namespace ScopeLink.Session

/-- The frames of the bulk-out transfers among these calls, in order. -/
def sentFrames (log : List (Event Port)) : List Bytes :=
  log.filterMap fun event => match event.call with
    | .bulkOut data _ => some data
    | _ => none

theorem sentFrames_append (log log' : List (Event Port)) :
    sentFrames (log ++ log') = sentFrames log ++ sentFrames log' := List.filterMap_append

theorem sentFrames_getLast? {log : List (Event Port)} {frame : Bytes} {timeout : Nat}
    {answer : Except TransferError Nat} (h : log.getLast? = some ⟨.bulkOut frame timeout, answer⟩) :
    (sentFrames log).getLast? = some frame := by
  obtain ⟨before, rfl⟩ := List.getLast?_eq_some_iff.mp h
  rw [sentFrames_append]
  exact List.getLast?_concat

/-! ## Chains of tags -/

/-- The frames carry the tags after `last`, with their complements, and `last'` is the latest. -/
def TagChain : (last : UInt8) → List Bytes → (last' : UInt8) → Prop
  | last, [], last' => last' = last
  | last, frame :: frames, last' =>
    (∃ h, Header.decode frame = some h ∧ h.tag = Tag.next last ∧ h.tagConsistent = true) ∧
      TagChain (Tag.next last) frames last'

theorem TagChain.append : ∀ {last last' last'' : UInt8} {frames frames' : List Bytes},
    TagChain last frames last' → TagChain last' frames' last'' →
      TagChain last (frames ++ frames') last''
  | _, _, _, [], _, h, h' => by subst h; exact h'
  | _, _, _, _ :: _, _, ⟨hf, h⟩, h' => ⟨hf, h.append h'⟩

/-- The latest tag is that of the last frame, or the one there was if no frame is sent. -/
theorem TagChain.latest : ∀ {last last' : UInt8} {frames : List Bytes},
    TagChain last frames last' →
      match frames.getLast? with
      | none => last' = last
      | some frame => ∃ h, Header.decode frame = some h ∧ h.tag = last'
  | _, _, [], h => h
  | last, last', [frame], ⟨⟨h, hd, ht, _⟩, hlast⟩ => ⟨h, hd, by rw [ht, show last' = _ from hlast]⟩
  | _, _, _ :: frame :: frames, ⟨_, hrest⟩ => by
    rw [List.getLast?_cons_cons]
    have hne : (frame :: frames).getLast? ≠ none := by simp
    have := hrest.latest
    revert this hne
    cases (frame :: frames).getLast? with
    | none => exact fun hne _ => absurd rfl hne
    | some f => exact fun _ h => h

/-- Frame `k` carries the tag that is `k` on from the one after `last`. -/
theorem TagChain.get : ∀ {last last' : UInt8} {frames : List Bytes},
    TagChain last frames last' → ∀ (k : Nat) (hk : k < frames.length),
      ∃ h, Header.decode frames[k] = some h ∧ h.tag.toNat = (last.toNat % 255 + k) % 255 + 1 ∧
        h.inverse.toNat = 255 - h.tag.toNat
  | last, _, frame :: frames, ⟨⟨h, hd, ht, hc⟩, _⟩, 0, _ => by
    refine ⟨h, hd, ?_, ?_⟩
    · rw [ht, Tag.toNat_next]
      omega
    · rw [eq_of_beq hc, Tag.toNat_complement]
  | last, _, frame :: frames, ⟨_, hrest⟩, k + 1, hk => by
    obtain ⟨h, hd, ht, hc⟩ := hrest.get k (by simpa using hk)
    refine ⟨h, hd, ?_, hc⟩
    rw [ht, Tag.toNat_next]
    omega

/-- The first frames of a chain are one. -/
theorem TagChain.front : ∀ {last last' : UInt8} {frames frames' : List Bytes},
    TagChain last (frames ++ frames') last' → ∃ middle, TagChain last frames middle
  | last, _, [], _, _ => ⟨last, rfl⟩
  | _, _, _ :: _, _, ⟨hf, h⟩ => by
    obtain ⟨middle, h'⟩ := h.front
    exact ⟨middle, hf, h'⟩

/-- Two frames of a chain carry one tag only if the tags have come round between them. -/
theorem TagChain.dvd_of_tag_eq {last last' : UInt8} {frames : List Bytes} (h : TagChain last frames last')
    {d : Nat} {latest frame : Bytes} {g g' : Header} (hlatest : frames.getLast? = some latest)
    (hframe : frames.reverse[d]? = some frame) (hg : Header.decode latest = some g)
    (hg' : Header.decode frame = some g') (heq : g'.tag = g.tag) : 255 ∣ d := by
  rw [← List.head?_reverse, List.head?_eq_getElem?] at hlatest
  have hd : d < frames.length := by simpa using (List.getElem?_eq_some_iff.mp hframe).1
  have tag_of {k : Nat} {f : Bytes} {g : Header} (hk : k < frames.length)
      (hf : frames.reverse[k]? = some f) (hdecode : Header.decode f = some g) :
      g.tag.toNat = (last.toNat % 255 + (frames.length - 1 - k)) % 255 + 1 := by
    rw [List.getElem?_reverse hk] at hf
    obtain ⟨hlt, rfl⟩ := List.getElem?_eq_some_iff.mp hf
    obtain ⟨g₀, hg₀, htag, -⟩ := h.get _ hlt
    rw [hdecode] at hg₀
    cases hg₀
    exact htag
  have hlatestTag := tag_of (by omega) hlatest hg
  have hframeTag := tag_of hd hframe hg'
  rw [heq] at hframeTag
  omega

/-! ## One write, one round -/

/-- The frames sent between two moments of a session are numbered on from its latest tag. A frame
is always sent with a tag drawn because a session with buffers below 4 GiB states every size. -/
structure Numbered (s : Session) (log : List (Event Port)) (s' : Session) : Prop where
  kept : Kept s s'
  chain : s.Sized → s.config.bufferSize < UInt32.size →
    TagChain s.lastTag (sentFrames log) s'.lastTag

theorem Numbered.trans {s s' s'' : Session} {log log' : List (Event Port)} (h : Numbered s log s')
    (h' : Numbered s' log' s'') : Numbered s (log ++ log') s'' := by
  refine ⟨h.kept.trans h'.kept, fun sized small => ?_⟩
  rw [sentFrames_append]
  exact (h.chain sized small).append (h'.chain (h.kept.sized sized) (by rwa [h.kept.config]))

/-- Calls that send nothing draw no tag. -/
theorem numbered_of_silent {s s' : Session} {log : List (Event Port)} (kept : Kept s s')
    (silent : sentFrames log = []) (tag : s'.lastTag = s.lastTag) : Numbered s log s' :=
  ⟨kept, fun _ _ => by rw [silent]; exact tag⟩

/-- One transfer draws one tag. -/
theorem numbered_of_frame {s s' : Session} {log : List (Event Port)} {frame : Bytes} (kept : Kept s s')
    (tag : s'.lastTag = Tag.next s.lastTag) (sent : sentFrames log = [frame])
    (header : s.Sized → ∃ h, Header.decode frame = some h ∧ h.tag = Tag.next s.lastTag ∧
      h.tagConsistent = true) : Numbered s log s' :=
  ⟨kept, fun sized _ => by rw [sent]; exact ⟨header sized, tag⟩⟩

/-- The frame of a write carries the tag that is drawn for it. -/
theorem numbered_write {s s' : Session} {data : Bytes} {timeout : Nat} {log : List (Event Port)}
    (h : Written s data timeout log s') : Numbered s log s' := by
  have kept := h.kept
  cases h with
  | refused => exact numbered_of_silent kept rfl rfl
  | unstated hroom hnone =>
    -- the size of a message that fits the buffer can be stated, so this does not happen
    refine ⟨kept, fun sized small => ?_⟩
    have := sized.out
    have := Frame.le_paddedLen data.length
    simp only [Frame.write_eq_none_iff, Frame.len] at hnone hroom
    omega
  | sent hsome =>
    refine numbered_of_frame kept rfl rfl fun _ => ?_
    rw [(Frame.write_eq_some hsome).1]
    exact ⟨_, Frame.decode_message _ _, rfl, Header.tagConsistent_tagged _ _ _ _⟩

/-- So does the request of a round. -/
theorem numbered_round {timeout : Nat} {r : Reading} {log : List (Event Port)} {s' : Session}
    (h : Turned timeout r log s') : Numbered r.session log s' := by
  have header : r.session.Sized → ∃ h, Header.decode (r.requesting.outBuf.take Header.byteCount) = some h ∧
      h.tag = Tag.next r.session.lastTag ∧ h.tagConsistent = true := by
    intro sized
    rw [Reading.take_requesting sized]
    exact ⟨_, Header.decode_encode _, rfl, Header.tagConsistent_tagged _ _ _ _⟩
  have kept := h.kept
  cases h <;> exact numbered_of_frame kept rfl rfl header

/-- A session that only goes on in its life draws no tag. -/
theorem numbered_state (s : Session) (state : State) {log : List (Event Port)}
    (silent : sentFrames log = []) : Numbered s log { s with state } :=
  numbered_of_silent (kept_state s state) silent rfl

theorem numbered_start (s : Session) : s.start.Always fun log r => Numbered s log r.2 := by
  unfold Session.start
  cases s.state with
  | ready => exact numbered_of_silent (.refl s) rfl rfl
  | stopped => exact numbered_of_silent (.refl s) rfl rfl
  | active =>
    intro answer
    cases answer with
    | error e => exact numbered_of_silent (.refl s) rfl rfl
    | ok u => exact numbered_state s .ready rfl

theorem numbered_stop (s : Session) : s.stop.Always fun log s' => Numbered s log s' := by
  unfold Session.stop
  cases s.state with
  | ready => exact fun _ => numbered_state s .active rfl
  | active => exact numbered_of_silent (.refl s) rfl rfl
  | stopped => exact numbered_of_silent (.refl s) rfl rfl

/-- Every operation draws its tags in turn: opening, closing and class requests send nothing. -/
theorem numbered_lasting : Lasting Numbered where
  refl s := numbered_of_silent (.refl s) rfl rfl
  trans := Numbered.trans
  start := numbered_start
  stop := numbered_stop
  unload s := Dialogue.Always.bind_trans Numbered.trans (g := id) (numbered_stop s) fun s' =>
    numbered_state s' .stopped rfl
  write s data timeout := (write_written s data timeout).mono fun _ _ => numbered_write
  round timeout r _ := (round_turned timeout r).mono fun _ _ => numbered_round
  control s α request room decode := (control_transfer s request room decode).mono fun _ _ h => by
    obtain ⟨delivery, rfl⟩ := h
    exact numbered_of_silent (.refl s) rfl rfl

/-! ## Whole runs -/

/-- The frames sent so far carry the tags 1, 2, …, 255, 1, … with their complements, and the latest tag
of the session is that of the last of them, 0 before the first. -/
structure InTurn (s : Session) (frames : List Bytes) : Prop where
  frame : ∀ (k : Nat) (hk : k < frames.length),
    ∃ h, Header.decode frames[k] = some h ∧ h.tag.toNat = k % 255 + 1 ∧
      h.inverse.toNat = 255 - h.tag.toNat
  latest : match frames.getLast? with
    | none => s.lastTag = 0
    | some frame => ∃ h, Header.decode frame = some h ∧ h.tag = s.lastTag

/-- **The tags of a run.** Whatever the port does, the transfers out of a run carry the tags in turn,
and the latest tag of the session is that of the latest of them. -/
theorem transfer_tags {σ : Type} (patience : Nat) (port : Handler Port σ) (x : σ) {config : Config}
    (small : config.bufferSize < UInt32.size) (ops : List Operation) :
    let last := (operate patience port.recorded).after ops (new config, x, [])
    InTurn last.1 (sentFrames last.2.2) := by
  obtain ⟨calls, hlog, hnumbered⟩ := numbered_lasting.after port ops (new config) x []
  rw [List.nil_append] at hlog
  have hchain := hnumbered.chain (sized_new config) (small_new small)
  dsimp only
  rw [hlog]
  refine ⟨fun k hk => ?_, hchain.latest⟩
  obtain ⟨h, hd, ht, hc⟩ := hchain.get k hk
  exact ⟨h, hd, by rw [ht]; simp, hc⟩

theorem transfer_tags_of_failing_port :
    let config : Config := { bufferSize := 16 }
    let script : Simulated.Script := { outs := [.take none, .fail .stall, .take (some 3)] }
    let ops : List Operation := [.write [1] 1, .start, .write [1] 1, .write [2] 1, .write [3] 1, .stop,
      .write [4] 1, .start, .ask [5] [0] 1]
    config.bufferSize < UInt32.size ∧
      let last := (operate usualPatience Simulated.Script.port.recorded).after ops (new config, script, [])
      InTurn last.1 (sentFrames last.2.2) := by
  intro config script ops
  have small : config.bufferSize < UInt32.size := by decide
  exact ⟨small, transfer_tags usualPatience Simulated.Script.port script small ops⟩

end ScopeLink.Session
