/-
  What a receiver reads off the packets of one frame.

  `decodePacket` is the receiver's side: a header and the data after it.  The check
  `packetPlanIsValid` rebuilds the payload packet by packet; `rebuildPackets_spec` says what every
  list it accepts decodes to, by induction on the packets with the bytes rebuilt so far as the
  invariant.  Plans that are built pass the check, so `ddp_round_trip` is about both.
-/
import Aurora.Hardware.DdpPackets

namespace Aurora.Hardware.Ddp

/-! ## The receiver -/

/-- A packet as it is read: its header, and its data. -/
abbrev Frame : Type := Header × List UInt8

/-- The header and the data of a packet. -/
def decodePacket (packet : Packet) : Option Frame :=
  (Header.unpack (packet.take headerLength)).map fun header => (header, packet.drop headerLength)

/-- The header carries the push flag. -/
def Header.Pushes (h : Header) : Prop := h.flags &&& ddpPush ≠ 0

/-- The packets of a frame: the data lie one after the other from offset zero on, and the last
    packet alone pushes them out. -/
structure FramePlan (frames : List Frame) (payload : List UInt8) : Prop where
  nonempty : frames ≠ []
  length : ∀ f ∈ frames, f.1.length = f.2.length
  first : ∀ f, frames[0]? = some f → f.1.offset = 0
  next : ∀ i f g, frames[i]? = some f → frames[i + 1]? = some g →
    g.1.offset = f.1.offset + f.1.length
  push : ∀ i f, frames[i]? = some f → (f.1.Pushes ↔ i + 1 = frames.length)
  data : (frames.map Prod.snd).flatten = payload

/-! ## The check -/

/-- The bytes of the frames before an index. -/
def bytesBefore (frames : List Frame) (i : Nat) : Nat :=
  ((frames.take i).map fun f => f.2.length).sum

theorem bytesBefore_succ {frames : List Frame} {i : Nat} {f : Frame} (h : frames[i]? = some f) :
    bytesBefore frames (i + 1) = bytesBefore frames i + f.2.length := by
  unfold bytesBefore
  rw [List.take_add_one, h, List.map_append, List.sum_append]
  rfl

/-- What the check has seen of the frames, from an index and some rebuilt bytes on. -/
structure Checked (count index : Nat) (rebuilt : List UInt8) (frames : List Frame) : Prop where
  length : ∀ f ∈ frames, f.1.length = f.2.length
  flags : ∀ i f, frames[i]? = some f → f.1.flags = flagsAt count (index + i)
  offset : ∀ i f, frames[i]? = some f → f.1.offset = rebuilt.length + bytesBefore frames i

variable {sequence : UInt8} {count index : Nat} {rebuilt payload : List UInt8}
  {packets : List Packet}

theorem Checked.nil : Checked count index rebuilt [] where
  length _ h := absurd h List.not_mem_nil
  flags _ _ h := nomatch h
  offset _ _ h := nomatch h

theorem Checked.cons {f : Frame} {frames : List Frame} (hlength : f.1.length = f.2.length)
    (hflags : f.1.flags = flagsAt count index) (hoffset : f.1.offset = rebuilt.length)
    (h : Checked count (index + 1) (rebuilt ++ f.2) frames) :
    Checked count index rebuilt (f :: frames) where
  length g hg := by
    rcases List.mem_cons.mp hg with rfl | hg
    · exact hlength
    · exact h.length g hg
  flags i g hg := by
    cases i with
    | zero =>
      obtain rfl := Option.some.inj hg
      exact hflags
    | succ i =>
      rw [h.flags i g hg]
      congr 1
      omega
  offset i g hg := by
    cases i with
    | zero =>
      obtain rfl := Option.some.inj hg
      exact hoffset
    | succ i =>
      have hbefore : bytesBefore (f :: frames) (i + 1) = f.2.length + bytesBefore frames i := rfl
      rw [h.offset i g hg, hbefore, List.length_append, Nat.add_assoc]

/-- A list that is rebuilt decodes, packet by packet. -/
theorem rebuildPackets_spec
    (h : rebuildPackets sequence count packets index rebuilt = some payload) :
    ∃ frames, packets.mapM decodePacket = some frames ∧ frames.length = packets.length ∧
      Checked count index rebuilt frames ∧
      payload = rebuilt ++ (frames.map Prod.snd).flatten := by
  induction packets generalizing index rebuilt with
  | nil =>
    obtain rfl := Option.some.inj h
    exact ⟨[], rfl, rfl, .nil, (List.append_nil _).symm⟩
  | cons packet packets ih =>
    rw [rebuildPackets] at h
    split at h
    · cases h
    · rename_i header hread
      dsimp only at h
      split at h
      · cases h
      · rename_i hgood
        simp only [not_or, ne_eq, not_not] at hgood
        obtain ⟨hflags, -, -, -, hoffset, hlength, -⟩ := hgood
        obtain ⟨frames, hdecode, hcount, hchecked, rfl⟩ := ih h
        refine ⟨(header, packet.drop headerLength) :: frames, ?_, ?_, ?_, ?_⟩
        · rw [List.mapM_cons, hdecode, decodePacket, hread]
          rfl
        · rw [List.length_cons, List.length_cons, hcount]
        · exact hchecked.cons hlength hflags hoffset
        · rw [List.map_cons, List.flatten_cons, List.append_assoc]

/-- The flags at an index push exactly at the end. -/
theorem flagsAt_pushes : flagsAt count index &&& ddpPush ≠ 0 ↔ index + 1 = count := by
  unfold flagsAt
  by_cases hlast : index + 1 = count
  · rw [if_pos hlast]
    exact iff_of_true (by decide) hlast
  · rw [if_neg hlast]
    exact iff_of_false (by decide) hlast

/-- Checked from the start, the frames are a plan of what they hold. -/
theorem Checked.framePlan {frames : List Frame} (h : Checked frames.length 0 [] frames)
    (hnonempty : frames ≠ []) : FramePlan frames (frames.map Prod.snd).flatten where
  nonempty := hnonempty
  length := h.length
  first f hf := h.offset 0 f hf
  next i f g hf hg := by
    rw [h.offset i f hf, h.offset (i + 1) g hg, bytesBefore_succ hf,
      h.length f (List.mem_of_getElem? hf), Nat.add_assoc]
  push i f hf := by
    unfold Header.Pushes
    rw [h.flags i f hf, Nat.zero_add]
    exact flagsAt_pushes
  data := rfl

/-- Every list the check accepts is a plan of the payload. -/
theorem framePlan_of_valid (h : packetPlanIsValid packets payload sequence = true) :
    ∃ frames, packets.mapM decodePacket = some frames ∧ FramePlan frames payload := by
  unfold packetPlanIsValid at h
  rw [Bool.and_eq_true, Bool.and_eq_true, decide_eq_true_eq, decide_eq_true_eq,
    decide_eq_true_eq] at h
  obtain ⟨⟨hsome, -⟩, hrebuilt⟩ := h
  obtain ⟨frames, hdecode, hcount, hchecked, rfl⟩ := rebuildPackets_spec hrebuilt
  rw [← hcount] at hchecked hsome
  have hnonempty : frames ≠ [] := List.ne_nil_of_length_pos hsome
  exact ⟨frames, hdecode, hchecked.framePlan hnonempty⟩

/-- A built plan has passed the check. -/
theorem valid_of_build (h : buildDdpPackets payload sequence = some packets) :
    packetPlanIsValid packets payload sequence = true := by
  unfold buildDdpPackets at h
  split at h
  · cases h
  split at h
  · cases h
  dsimp only at h
  split at h
  · cases h
  split at h
  · rename_i hvalid
    obtain rfl := Option.some.inj h
    exact hvalid
  · cases h

/-- Building never fails within the limits, and what is built, as everything that is accepted, is
    read back as the payload. -/
theorem ddp_round_trip :
    (∀ (payload : List UInt8) (sequence : UInt8),
      1 ≤ payload.length → payload.length ≤ maxFramePayload →
      sequence = testSequence ∨ sequence = blackoutSequence →
        ∃ packets frames, buildDdpPackets payload sequence = some packets ∧
          packets.mapM decodePacket = some frames ∧ FramePlan frames payload) ∧
    ∀ (packets : List Packet) (payload : List UInt8) (sequence : UInt8),
      packetPlanIsValid packets payload sequence = true →
        ∃ frames, packets.mapM decodePacket = some frames ∧ FramePlan frames payload := by
  constructor
  · intro payload sequence hsome hfits hsequence
    obtain ⟨packets, hbuild, -⟩ := buildDdpPackets_isSome hsequence hsome hfits
    obtain ⟨frames, hdecode, hplan⟩ := framePlan_of_valid (valid_of_build hbuild)
    exact ⟨packets, frames, hbuild, hdecode, hplan⟩
  · intro packets payload sequence h
    exact framePlan_of_valid h

end Aurora.Hardware.Ddp
