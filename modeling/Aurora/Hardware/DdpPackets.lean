/-
  The DDP packets of one frame.

  A frame is cut into at most two packets, each with a header that says where its bytes belong.  The
  plan of an admitted frame is accepted by the check the probe makes of it, so building one never
  fails (`buildDdpPackets_isSome`).
-/
import Mathlib.Algebra.Ring.Nat
import Mathlib.Data.List.Basic

namespace Aurora.Hardware.Ddp

/-- The bytes of a datagram. -/
abbrev Packet : Type := List UInt8

/-- The default output device. -/
def destinationId : UInt8 := 1
/-- Three bytes for a pixel. -/
def rgb24Datatype : UInt8 := 0x0B
/-- The length of a packet header. -/
def headerLength : Nat := 10
/-- The most data of one packet. -/
def maxDataPayload : Nat := 1400
/-- The most LEDs of a frame. -/
def maxLeds : Nat := 512
/-- The most data of one frame. -/
def maxFramePayload : Nat := 1536
/-- The most packets of one frame. -/
def maxDatagramsPerFrame : Nat := 2
/-- The colour of the test frame. -/
def testRgb : List UInt8 := [0, 0, 0x10]
/-- The colour of the blackout frame. -/
def blackoutRgb : List UInt8 := [0, 0, 0]
/-- The sequence number of the test frame. -/
def testSequence : UInt8 := 1
/-- The sequence number of the blackout frame. -/
def blackoutSequence : UInt8 := 2

/-- The version bits of the flags. -/
def ddpVersion : UInt8 := 0x40
/-- The bit that shows the frame. -/
def ddpPush : UInt8 := 0x01

/-- The fields of a packet header. -/
structure Header where
  flags : UInt8
  sequence : UInt8
  datatype : UInt8
  destination : UInt8
  offset : Nat
  length : Nat
deriving DecidableEq, Repr

/-- `_DDP_HEADER.pack`: four bytes, a 32-bit offset and a 16-bit length, big-endian. -/
def Header.pack (h : Header) : List UInt8 :=
  [h.flags, h.sequence, h.datatype, h.destination,
    UInt8.ofNat (h.offset / 0x1000000), UInt8.ofNat (h.offset / 0x10000),
    UInt8.ofNat (h.offset / 0x100), UInt8.ofNat h.offset,
    UInt8.ofNat (h.length / 0x100), UInt8.ofNat h.length]

/-- `_DDP_HEADER.unpack` -/
def Header.unpack : List UInt8 → Option Header
  | [flags, sequence, datatype, destination, o₃, o₂, o₁, o₀, l₁, l₀] =>
    some ⟨flags, sequence, datatype, destination,
      o₃.toNat * 0x1000000 + o₂.toNat * 0x10000 + o₁.toNat * 0x100 + o₀.toNat,
      l₁.toNat * 0x100 + l₀.toNat⟩
  | _ => none

/-- The payload cut at every `maxDataPayload` bytes; a frame has at most two cuts. -/
def chunksOf (payload : List UInt8) : Nat → List (List UInt8)
  | 0 => []
  | cuts + 1 =>
    if payload.isEmpty then []
    else payload.take maxDataPayload :: chunksOf (payload.drop maxDataPayload) cuts

/-- The flags of the packet at an index. -/
def flagsAt (count index : Nat) : UInt8 :=
  ddpVersion ||| (if index + 1 = count then ddpPush else 0)

/-- One packet of a frame. -/
def packetOf (sequence : UInt8) (count index : Nat) (chunk : List UInt8) : Packet :=
  Header.pack ⟨flagsAt count index, sequence, rgb24Datatype, destinationId,
    index * maxDataPayload, chunk.length⟩ ++ chunk

/-- The loop of `_packet_plan_is_valid`: what the packets rebuild after so many bytes. -/
def rebuildPackets (sequence : UInt8) (count : Nat) :
    List Packet → Nat → List UInt8 → Option (List UInt8)
  | [], _, rebuilt => some rebuilt
  | packet :: packets, index, rebuilt =>
    match Header.unpack (packet.take headerLength) with
    | none => none
    | some header =>
      let chunk := packet.drop headerLength
      if header.flags ≠ flagsAt count index ∨ header.sequence ≠ sequence ∨
          header.datatype ≠ rgb24Datatype ∨ header.destination ≠ destinationId ∨
          header.offset ≠ rebuilt.length ∨ header.length ≠ chunk.length ∨
          header.length > maxDataPayload then none
      else rebuildPackets sequence count packets (index + 1) (rebuilt ++ chunk)

/-- `_packet_plan_is_valid` -/
def packetPlanIsValid (packets : List Packet) (payload : List UInt8) (sequence : UInt8) : Bool :=
  (1 ≤ packets.length && packets.length ≤ maxDatagramsPerFrame) &&
    rebuildPackets sequence packets.length packets 0 [] = some payload

/-- `build_ddp_packets`; nothing where it raises a `ValueError`. -/
def buildDdpPackets (payload : List UInt8) (sequence : UInt8) : Option (List Packet) :=
  if ¬(sequence = testSequence ∨ sequence = blackoutSequence) then none
  else if payload.isEmpty ∨ payload.length > maxFramePayload then none
  else
    let chunks := chunksOf payload (payload.length / maxDataPayload + 1)
    if ¬(1 ≤ chunks.length ∧ chunks.length ≤ maxDatagramsPerFrame) then none
    else
      let packets := chunks.mapIdx fun index chunk =>
        packetOf sequence chunks.length index chunk
      if packetPlanIsValid packets payload sequence then some packets else none

/-! ## Headers -/

/-- Reading a header gives back the fields that fit. -/
theorem unpack_pack {h : Header} (hoffset : h.offset < 0x100000000) (hlength : h.length < 0x10000) :
    Header.unpack h.pack = some h := by
  obtain ⟨flags, sequence, datatype, destination, offset, length⟩ := h
  dsimp only at hoffset hlength
  simp only [Header.pack, Header.unpack, UInt8.toNat_ofNat', Option.some.injEq, Header.mk.injEq,
    true_and]
  constructor
  · omega
  · omega

theorem length_pack (h : Header) : h.pack.length = headerLength := rfl

/-! ## Plans -/

variable {sequence : UInt8} {count index : Nat} {chunk rebuilt : List UInt8}
  {packets : List Packet}

/-- The check goes on past a packet that says where its bytes belong. -/
theorem rebuildPackets_packetOf (hcount : index ≤ 1) (hoffset : index * maxDataPayload = rebuilt.length)
    (hchunk : chunk.length ≤ maxDataPayload) :
    rebuildPackets sequence count (packetOf sequence count index chunk :: packets) index rebuilt =
      rebuildPackets sequence count packets (index + 1) (rebuilt ++ chunk) := by
  have hpayload : maxDataPayload = 1400 := rfl
  let header : Header := ⟨flagsAt count index, sequence, rgb24Datatype, destinationId,
    index * maxDataPayload, chunk.length⟩
  have hread : Header.unpack ((packetOf sequence count index chunk).take headerLength) =
      some header := by
    rw [packetOf, List.take_left' (length_pack _)]
    refine unpack_pack ?_ ?_
    · show index * maxDataPayload < 0x100000000
      rw [hpayload]
      omega
    · show chunk.length < 0x10000
      omega
  have hrest : (packetOf sequence count index chunk).drop headerLength = chunk := by
    rw [packetOf, List.drop_left' (length_pack _)]
  rw [rebuildPackets, hread, hrest]
  have hgood : ¬(header.flags ≠ flagsAt count index ∨ header.sequence ≠ sequence ∨
      header.datatype ≠ rgb24Datatype ∨ header.destination ≠ destinationId ∨
      header.offset ≠ rebuilt.length ∨ header.length ≠ chunk.length ∨
      header.length > maxDataPayload) := by
    simp [header, hoffset, hchunk]
  exact if_neg hgood

theorem chunksOf_nil (cuts : Nat) : chunksOf [] cuts = [] := by
  cases cuts <;> rfl

/-- A payload that fits one packet is one chunk. -/
theorem chunksOf_one {payload : List UInt8} (hsome : payload ≠ [])
    (hfits : payload.length ≤ maxDataPayload) (cuts : Nat) :
    chunksOf payload (cuts + 1) = [payload] := by
  rw [chunksOf, if_neg (by simpa using hsome), List.take_of_length_le hfits,
    List.drop_of_length_le hfits, chunksOf_nil]

/-- A longer one is cut once. -/
theorem chunksOf_two {payload : List UInt8} (hlarge : maxDataPayload < payload.length)
    (hfits : payload.length ≤ 2 * maxDataPayload) (cuts : Nat) :
    chunksOf payload (cuts + 2) =
      [payload.take maxDataPayload, payload.drop maxDataPayload] := by
  have hsome : payload ≠ [] := by
    rintro rfl
    exact absurd hlarge (Nat.not_lt_zero _)
  have hrest : payload.drop maxDataPayload ≠ [] := by
    intro h
    have := congrArg List.length h
    rw [List.length_drop, List.length_nil] at this
    omega
  rw [chunksOf, if_neg (by simpa using hsome),
    chunksOf_one hrest (by rw [List.length_drop]; omega)]

/-- The plan made of the chunks of a payload. -/
def planOf (sequence : UInt8) (chunks : List (List UInt8)) : List Packet :=
  chunks.mapIdx fun index chunk => packetOf sequence chunks.length index chunk

theorem buildDdpPackets_of_chunks {payload : List UInt8} {chunks : List (List UInt8)}
    (hsequence : sequence = testSequence ∨ sequence = blackoutSequence) (hsome : payload ≠ [])
    (hfits : payload.length ≤ maxFramePayload)
    (hchunks : chunksOf payload (payload.length / maxDataPayload + 1) = chunks)
    (hcount : 1 ≤ chunks.length ∧ chunks.length ≤ maxDatagramsPerFrame)
    (hvalid : packetPlanIsValid (planOf sequence chunks) payload sequence = true) :
    buildDdpPackets payload sequence = some (planOf sequence chunks) := by
  have hbounds : ¬(payload.isEmpty = true ∨ payload.length > maxFramePayload) := by
    rintro (hempty | hlarge)
    · exact hsome (List.isEmpty_iff.mp hempty)
    · exact absurd hlarge (by omega)
  unfold buildDdpPackets
  rw [if_neg (not_not.mpr hsequence), if_neg hbounds, hchunks]
  dsimp only
  rw [if_neg (not_not.mpr hcount)]
  exact if_pos hvalid

/-- The plan of a frame that fits is built, with one packet for every cut of its payload. -/
theorem buildDdpPackets_isSome {payload : List UInt8}
    (hsequence : sequence = testSequence ∨ sequence = blackoutSequence)
    (hsome : 1 ≤ payload.length) (hfits : payload.length ≤ maxFramePayload) :
    ∃ packets, buildDdpPackets payload sequence = some packets ∧
      packets.length = (payload.length + maxDataPayload - 1) / maxDataPayload := by
  have hframe : maxFramePayload = 1536 := rfl
  have hpayload : maxDataPayload = 1400 := rfl
  have hne : payload ≠ [] := by
    rintro rfl
    exact absurd hsome (by decide)
  by_cases hone : payload.length ≤ maxDataPayload
  · refine ⟨_, buildDdpPackets_of_chunks hsequence hne hfits (chunksOf_one hne hone _)
      (by simp [maxDatagramsPerFrame]) ?_, ?_⟩
    · show ((1 ≤ 1 && 1 ≤ maxDatagramsPerFrame) &&
        decide (rebuildPackets sequence 1 [packetOf sequence 1 0 payload] 0 [] = some payload)) =
          true
      rw [rebuildPackets_packetOf (by omega) (by simp) hone]
      simp [rebuildPackets, maxDatagramsPerFrame]
    · show 1 = _
      rw [hpayload] at hone ⊢
      omega
  · have hcuts : payload.length / maxDataPayload + 1 = 0 + 2 := by
      rw [hpayload] at hone ⊢
      omega
    have hlength : (payload.take maxDataPayload).length = maxDataPayload := by
      rw [List.length_take]
      omega
    refine ⟨_, buildDdpPackets_of_chunks hsequence hne hfits
      (by rw [hcuts, chunksOf_two (by omega) (by omega)]) (by simp [maxDatagramsPerFrame]) ?_, ?_⟩
    · show ((1 ≤ 2 && 2 ≤ maxDatagramsPerFrame) &&
        decide (rebuildPackets sequence 2 [packetOf sequence 2 0 (payload.take maxDataPayload),
          packetOf sequence 2 1 (payload.drop maxDataPayload)] 0 [] = some payload)) = true
      rw [rebuildPackets_packetOf (by omega) (by simp) (by omega),
        rebuildPackets_packetOf (by omega) (by simp [hlength])
          (by rw [List.length_drop]; omega)]
      simp [rebuildPackets, maxDatagramsPerFrame]
    · show 2 = _
      rw [hpayload] at hone ⊢
      omega

end Aurora.Hardware.Ddp
