/-
  The enumeration of capture modes: formats, their frame sizes and the intervals of those.

  Three nested loops ask the driver for one indexed entry after another.  They share a budget of
  requests, a budget of records and a list of gaps; a loop ends where the driver says that an index
  is invalid, and every other end leaves a gap.

  1. **Calls** — what the probe asks of the system, each answered or raised.
  2. **Answers** — the entry a response describes, or that it describes none.
  3. **Loops** — intervals inside sizes inside formats, with the mutable lists passed along.
  4. **Probe** — target, descriptor, capabilities, queues, and the close at the end.
-/
import Aurora.Hardware.CaptureCalls

namespace Aurora.Hardware

open Program

namespace Modes

/-- The most formats of a queue that are listed. -/
def maxFormats : Nat := 32
/-- The most sizes of a format. -/
def maxSizes : Nat := 64
/-- The most intervals of a size. -/
def maxIntervals : Nat := 64
/-- The most requests of one probe. -/
def maxIoctls : Nat := 2048
/-- The most records of one result. -/
def maxRecords : Nat := 512

/-! ## Calls -/

/-- The indexed requests. -/
inductive EnumRequest
  | format (queue index : Nat)
  | frameSize (pixelFormat index : Nat)
  | frameInterval (pixelFormat width height index : Nat)
deriving DecidableEq, Repr

/-- The calls of the probe. -/
inductive ModeCall
  | lstat (identifier : String)
  | resolve (identifier : String)
  | stat (path : String)
  | openDevice (target : String)
  | fstat (fd : Nat)
  | queryCap (fd : Nat)
  | enumerate (fd : Nat) (request : EnumRequest)
  | close (fd : Nat)
deriving DecidableEq, Repr

/-- What a call returns; the two inspections of a file say whether it is a character device. -/
def ModeValue : ModeCall → Type
  | .lstat _ => Unit
  | .resolve _ => String
  | .stat _ => Bool
  | .openDevice _ => Nat
  | .fstat _ => Bool
  | .queryCap _ => Bytes
  | .enumerate _ _ => Bytes
  | .close _ => Unit

/-- What a call raises: resolving a path may also raise a `RuntimeError`, here `none`. -/
def ModeError : ModeCall → Type
  | .resolve _ => Option Raised
  | _ => Raised

/-- Every call may raise instead of returning its value. -/
def ModeInterface : Interface := ⟨ModeCall, fun c => Except (ModeError c) (ModeValue c)⟩

/-- Programs of this probe. -/
abbrev Mode (α : Type) : Type := Program ModeInterface Raised α

/-- A call with its answer. -/
abbrev ModeExchange : Type := Exchange ModeInterface

/-- Make a call and look at how it ended. -/
def attempt (c : ModeCall) : Mode (Except (ModeError c) (ModeValue c)) := ask (I := ModeInterface) c

/-! ## Modes -/

/-- How a size or an interval is described. -/
inductive ModeKind
  | discrete
  | continuous
  | stepwise
deriving DecidableEq, Repr

/-- A frame interval of a size. -/
structure CaptureFrameInterval where
  kind : ModeKind
  numerator : Option Nat := none
  denominator : Option Nat := none
  minNumerator : Option Nat := none
  minDenominator : Option Nat := none
  maxNumerator : Option Nat := none
  maxDenominator : Option Nat := none
  stepNumerator : Option Nat := none
  stepDenominator : Option Nat := none
deriving DecidableEq, Repr

/-- A frame size of a format. -/
structure CaptureFrameSize where
  kind : ModeKind
  width : Option Nat := none
  height : Option Nat := none
  minWidth : Option Nat := none
  maxWidth : Option Nat := none
  stepWidth : Option Nat := none
  minHeight : Option Nat := none
  maxHeight : Option Nat := none
  stepHeight : Option Nat := none
  intervals : List CaptureFrameInterval := []
  intervalsEnumerated : Bool := false
deriving DecidableEq, Repr

/-- A pixel format of a queue. -/
structure CapturePixelFormat where
  queueType : String
  fourcc : String
  bigEndian : Bool
  description : Option String
  compressed : Bool
  emulated : Bool
  frameSizes : List CaptureFrameSize := []
deriving DecidableEq, Repr

/-- The result of the probe. -/
structure CaptureModeProbeResult where
  reasonCode : String
  formats : List CapturePixelFormat := []
  enumerationComplete : Bool := false
  partialReasonCodes : List String := []
  deviceWasOpened : Bool := false
  querycapWasIssued : Bool := false
  enumerationIoctlWasIssued : Bool := false
  descriptorWasClosed : Bool := false
deriving DecidableEq, Repr

/-! ## Answers -/

/-- The format is compressed. -/
def formatCompressed : Nat := 1
/-- The format is emulated. -/
def formatEmulated : Nat := 2
/-- The big-endian bit of a format code. -/
def fourccBe : Nat := 2 ^ 31

/-- `_fourcc`: four printable bytes, low byte first, without the highest bit. -/
def fourcc (p : Nat) : Option (String × Bool) :=
  let bytes := (List.range 4).map fun i => (p % fourccBe) >>> (8 * i) &&& 255
  if bytes.any fun x => x < 32 ∨ 126 < x then none
  else some (String.ofList (bytes.map Char.ofNat), p &&& fourccBe ≠ 0)

/-- The text before the first zero byte: none when it is empty, an error when it is not printable
    or never ends. -/
def descriptionText (description : Bytes) : Option (Option String) :=
  let text := description.takeWhile (· ≠ 0)
  if 0 ∉ description then none
  else if text.any fun x => x < 32 ∨ 127 ≤ x then none
  else if text = [] then some none
  else some (some (String.ofList (text.map fun x => Char.ofNat x.toNat)))

/-- The pixel format of a format response and the format without its sizes. -/
def readFormat (queue : Nat) (label : String) (index : Nat) (response : Bytes) :
    Option (Nat × CapturePixelFormat) :=
  if u32 response 0 ≠ index ∨ u32 response 4 ≠ queue ∨ u32 response 52 ≠ 0 ∨
      u32 response 56 ≠ 0 ∨ u32 response 60 ≠ 0 then none
  else
    let flags := u32 response 8
    let pixelFormat := u32 response 44
    match descriptionText ((response.drop 12).take 32), fourcc pixelFormat with
    | some description, some (code, bigEndian) =>
      some (pixelFormat, ⟨label, code, bigEndian, description, flags &&& formatCompressed ≠ 0,
        flags &&& formatEmulated ≠ 0, []⟩)
    | _, _ => none

/-- What the response to a frame size request describes. -/
inductive SizeEntry
  | invalid
  | discrete (width height : Nat)
  | range (size : CaptureFrameSize)

/-- What a response says about one frame size. -/
def readFrameSize (pixelFormat index : Nat) (response : Bytes) : SizeEntry :=
  if u32 response 0 ≠ index ∨ u32 response 4 ≠ pixelFormat ∨ u32 response 36 ≠ 0 ∨
      u32 response 40 ≠ 0 then .invalid
  else
    let kind := u32 response 8
    if kind = 1 then
      if u32 response 12 = 0 ∨ u32 response 16 = 0 then .invalid
      else .discrete (u32 response 12) (u32 response 16)
    else if index ≠ 0 ∨ ¬(kind = 2 ∨ kind = 3) then .invalid
    else
      let minWidth := u32 response 12
      let maxWidth := u32 response 16
      let stepWidth := u32 response 20
      let minHeight := u32 response 24
      let maxHeight := u32 response 28
      let stepHeight := u32 response 32
      if minWidth = 0 ∨ maxWidth = 0 ∨ minHeight = 0 ∨ maxHeight = 0 ∨ maxWidth < minWidth ∨
          maxHeight < minHeight ∨ (kind = 3 ∧ (stepWidth = 0 ∨ stepHeight = 0)) then .invalid
      else
        .range {
          kind := if kind = 2 then .continuous else .stepwise
          minWidth := some minWidth
          maxWidth := some maxWidth
          stepWidth := if kind = 3 then some stepWidth else none
          minHeight := some minHeight
          maxHeight := some maxHeight
          stepHeight := if kind = 3 then some stepHeight else none }

/-- What the response to a frame interval request describes. -/
inductive IntervalEntry
  | invalid
  | discrete (interval : CaptureFrameInterval)
  | range (interval : CaptureFrameInterval)

/-- What a response says about one frame interval. -/
def readFrameInterval (pixelFormat width height index : Nat) (response : Bytes) :
    IntervalEntry :=
  if u32 response 0 ≠ index ∨ u32 response 4 ≠ pixelFormat ∨ u32 response 8 ≠ width ∨
      u32 response 12 ≠ height ∨ u32 response 44 ≠ 0 ∨ u32 response 48 ≠ 0 then .invalid
  else
    let kind := u32 response 16
    if kind = 1 then
      let numerator := u32 response 20
      let denominator := u32 response 24
      if numerator = 0 ∨ denominator = 0 then .invalid
      else .discrete
        { kind := .discrete, numerator := some numerator, denominator := some denominator }
    else if index ≠ 0 ∨ ¬(kind = 2 ∨ kind = 3) then .invalid
    else
      let minNumerator := u32 response 20
      let minDenominator := u32 response 24
      let maxNumerator := u32 response 28
      let maxDenominator := u32 response 32
      let stepNumerator := u32 response 36
      let stepDenominator := u32 response 40
      if minNumerator = 0 ∨ minDenominator = 0 ∨ maxNumerator = 0 ∨ maxDenominator = 0 ∨
          maxNumerator * minDenominator < minNumerator * maxDenominator ∨
          (kind = 3 ∧ (stepNumerator = 0 ∨ stepDenominator = 0)) then .invalid
      else
        .range {
          kind := if kind = 2 then .continuous else .stepwise
          minNumerator := some minNumerator
          minDenominator := some minDenominator
          maxNumerator := some maxNumerator
          maxDenominator := some maxDenominator
          stepNumerator := if kind = 3 then some stepNumerator else none
          stepDenominator := if kind = 3 then some stepDenominator else none }

/-! ## Budgets and gaps -/

/-- The three lists that the loops share and change. -/
structure Tally where
  budget : Nat
  records : Nat
  gaps : List String
deriving DecidableEq, Repr

namespace Tally

/-- The capability query is the first request. -/
def initial : Tally := ⟨1, 0, []⟩

/-- `_gap`: a code is listed once. -/
def gap (tally : Tally) (code : String) : Tally :=
  if code ∈ tally.gaps then tally else { tally with gaps := tally.gaps ++ [code] }

/-- The enumeration ends at a limit. -/
def limit (tally : Tally) : Tally := tally.gap "enumeration_limit_reached"

/-- `_record`: one more record, or the tally with the gap when there is no room. -/
def record (tally : Tally) : Except Tally Tally :=
  if tally.records ≥ maxRecords then .error tally.limit
  else .ok { tally with records := tally.records + 1 }

/-- One more request was made. -/
def spend (tally : Tally) : Tally := { tally with budget := tally.budget + 1 }

end Tally

/-- `_call`: a request within the budget, and how it ended. -/
def limitedCall (fd : Nat) (request : EnumRequest) (tally : Tally) :
    Mode (Option (Except Raised Bytes)) :=
  if tally.budget ≥ maxIoctls then pure none
  else do
    let answer ← attempt (.enumerate fd request)
    pure (some answer)

/-! ## Loops -/

/-- How a loop ends: the tally, and what it returns or raises. -/
abbrev LoopEnd (α : Type) : Type := Tally × Except Raised α

/-- `_intervals` from an index on, with some requests left. -/
def intervalsFrom (fd pixelFormat width height : Nat) :
    Nat → Nat → List CaptureFrameInterval → Tally →
      Mode (LoopEnd (List CaptureFrameInterval × Bool))
  | _, 0, out, tally => pure (tally.limit, .ok (out, false))
  | index, left + 1, out, tally => do
    match ← limitedCall fd (.frameInterval pixelFormat width height index) tally with
    | none => pure (tally.limit, .ok (out, false))
    | some (.error (.osError errno)) =>
      if errno = some einval then
        if out = [] then
          pure (tally.spend.gap "frame_interval_enumeration_unavailable", .ok (out, false))
        else pure (tally.spend, .ok (out, true))
      else pure (tally.spend.gap "frame_interval_enumeration_failed", .ok (out, false))
    | some (.error raised) => pure (tally.spend, .error raised)
    | some (.ok response) =>
      match readFrameInterval pixelFormat width height index response with
      | .invalid => pure (tally.spend.gap "invalid_frame_interval_response", .ok (out, false))
      | .discrete interval =>
        match tally.spend.record with
        | .error full => pure (full, .ok (out, false))
        | .ok recorded =>
          intervalsFrom fd pixelFormat width height (index + 1) left (out ++ [interval]) recorded
      | .range interval =>
        match tally.spend.record with
        | .error full => pure (full, .ok (out, false))
        | .ok recorded => pure (recorded, .ok (out ++ [interval], true))

/-- `_sizes` from an index on. -/
def sizesFrom (fd pixelFormat : Nat) :
    Nat → Nat → List CaptureFrameSize → Tally → Mode (LoopEnd (List CaptureFrameSize))
  | _, 0, out, tally => pure (tally.limit, .ok out)
  | index, left + 1, out, tally => do
    match ← limitedCall fd (.frameSize pixelFormat index) tally with
    | none => pure (tally.limit, .ok out)
    | some (.error (.osError errno)) =>
      if errno = some einval then
        if out = [] then pure (tally.spend.gap "frame_size_enumeration_unavailable", .ok out)
        else pure (tally.spend, .ok out)
      else pure (tally.spend.gap "frame_size_enumeration_failed", .ok out)
    | some (.error raised) => pure (tally.spend, .error raised)
    | some (.ok response) =>
      match readFrameSize pixelFormat index response with
      | .invalid => pure (tally.spend.gap "invalid_frame_size_response", .ok out)
      | .discrete width height =>
        match tally.spend.record with
        | .error full => pure (full, .ok out)
        | .ok recorded => do
          let (after, found) ←
            intervalsFrom fd pixelFormat width height 0 maxIntervals [] recorded
          match found with
          | .error raised => pure (after, .error raised)
          | .ok (intervals, finished) =>
            sizesFrom fd pixelFormat (index + 1) left (out ++ [
              { kind := .discrete
                width := some width
                height := some height
                intervals := intervals
                intervalsEnumerated := finished }]) after
      | .range size =>
        match tally.spend.record with
        | .error full => pure (full, .ok out)
        | .ok recorded =>
          pure (recorded.gap "frame_intervals_not_queried_for_range", .ok (out ++ [size]))

/-- `_formats` from an index on.  A response that is no format raises a `ValueError`. -/
def formatsFrom (fd queue : Nat) (label : String) :
    Nat → Nat → List CapturePixelFormat → Tally → Mode (LoopEnd (List CapturePixelFormat))
  | _, 0, out, tally => pure (tally.limit, .ok out)
  | index, left + 1, out, tally => do
    match ← limitedCall fd (.format queue index) tally with
    | none => pure (tally.limit, .ok out)
    | some (.error (.osError errno)) =>
      if errno = some einval then pure (tally.spend, .ok out)
      else pure (tally.spend, .error (.osError errno))
    | some (.error raised) => pure (tally.spend, .error raised)
    | some (.ok response) =>
      match readFormat queue label index response with
      | none => pure (tally.spend, .error .valueError)
      | some (pixelFormat, format) =>
        -- the record of the format is reserved before its sizes are enumerated
        match tally.spend.record with
        | .error full => pure (full, .ok out)
        | .ok recorded => do
          let (after, found) ← sizesFrom fd pixelFormat 0 maxSizes [] recorded
          match found with
          | .error raised => pure (after, .error raised)
          | .ok sizes =>
            formatsFrom fd queue label (index + 1) left
              (out ++ [{ format with frameSizes := sizes }]) after

/-- The loop over the queues.  The limits end `_formats` from within, so no queue is skipped for
    them. -/
def queuesFrom (fd : Nat) :
    List (Nat × String) → List CapturePixelFormat → Tally →
      Mode (List CapturePixelFormat × Tally)
  | [], formats, tally => pure (formats, tally)
  | (queue, label) :: rest, formats, tally => do
    let (after, found) ← formatsFrom fd queue label 0 maxFormats [] tally
    match found with
    | .ok more => queuesFrom fd rest (formats ++ more) after
    | .error .valueError => queuesFrom fd rest formats (after.gap "invalid_format_response")
    | .error (.osError _) => queuesFrom fd rest formats (after.gap "format_enumeration_failed")
    | .error raised => raise raised

/-! ## The probe -/

/-- The device captures video in several planes. -/
def capVideoCaptureMplane : Nat := 0x1000
/-- The type of such a queue. -/
def videoCaptureMplane : Nat := 9

/-- The capture queues a capability response reports, with their labels. -/
def captureQueues (response : Bytes) : List (Nat × String) :=
  let capabilities := u32 response 84
  let effective :=
    if capabilities &&& capDeviceCaps ≠ 0 then u32 response 88 else capabilities
  (if effective &&& capVideoCapture ≠ 0 then [(videoCapture, "single_planar")] else []) ++
    (if effective &&& capVideoCaptureMplane ≠ 0 then [(videoCaptureMplane, "multi_planar")]
      else [])

/-- The result of an enumeration, before the descriptor is closed. -/
def enumerated (formats : List CapturePixelFormat) (gaps : List String) :
    CaptureModeProbeResult :=
  if formats = [] then
    ⟨"no_capture_formats_reported", [], false, gaps, true, true, true, false⟩
  else
    ⟨if gaps = [] then "validated" else "validated_with_gaps", formats, gaps = [], gaps, true, true,
      true, false⟩

/-- What is found while the descriptor is open. -/
def inspect (fd : Nat) : Mode CaptureModeProbeResult := do
  match ← attempt (.fstat fd) with
  | .error (.osError _) => pure { reasonCode := "device_unavailable", deviceWasOpened := true }
  | .error raised => raise raised
  | .ok false => pure { reasonCode := "not_character_device", deviceWasOpened := true }
  | .ok true =>
    match ← attempt (.queryCap fd) with
    | .error (.osError errno) =>
      pure {
        reasonCode :=
          if errno = some enotty ∨ errno = some einval then "querycap_not_supported"
          else "capability_query_failed"
        deviceWasOpened := true
        querycapWasIssued := true }
    | .error raised => raise raised
    | .ok response =>
      if captureQueues response = [] then
        pure {
          reasonCode := "video_capture_not_supported"
          deviceWasOpened := true
          querycapWasIssued := true }
      else
        let (formats, tally) ← queuesFrom fd (captureQueues response) [] Tally.initial
        pure (enumerated formats tally.gaps)

/-- The result after the close: an unconfirmed one leaves the device unavailable. -/
def settle (result : CaptureModeProbeResult) (closed : Bool) : CaptureModeProbeResult :=
  if closed then { result with deviceWasOpened := true, descriptorWasClosed := true }
  else
    { result with
      reasonCode := "device_unavailable"
      enumerationComplete := false
      deviceWasOpened := true
      descriptorWasClosed := false }

/-- The descriptor is closed whatever happened. -/
def opened (fd : Nat) : Mode CaptureModeProbeResult := do
  let found ← (inspect fd).catching
  let close ← attempt (.close fd)
  match close, found with
  | .ok _, .ok result => pure (settle result true)
  | .error (.osError _), .ok result => pure (settle result false)
  | .error (.osError _), .error raised => raise raised
  | .error raised, _ => raise raised
  | .ok _, .error raised => raise raised

/-- `/dev/video` and a decimal number. -/
def isVideoNode (path : String) : Bool :=
  let node := "/dev/video".toList
  let number := path.toList.drop node.length
  path.toList.take node.length = node && !number.isEmpty && number.all Char.isDigit

/-- `_validated_video_target`: the resolved node, or the reason why there is none. -/
def validatedVideoTarget (identifier : String) : Mode (Except String String) := do
  match ← attempt (.lstat identifier) with
  | .error (.osError errno) =>
    pure (.error (if errno = some enoent then "device_not_found" else "symlink_resolution_failed"))
  | .error raised => raise raised
  | .ok _ =>
    match ← attempt (.resolve identifier) with
    | .error none => pure (.error "symlink_resolution_failed")
    | .error (some (.osError _)) => pure (.error "symlink_resolution_failed")
    | .error (some raised) => raise raised
    | .ok resolved =>
      if isVideoNode resolved then
        match ← attempt (.stat resolved) with
        | .error (.osError errno) =>
          pure (.error (if errno = some enoent then "device_not_found" else "device_unavailable"))
        | .error raised => raise raised
        | .ok false => pure (.error "not_character_device")
        | .ok true => pure (.ok resolved)
      else pure (.error "invalid_device_target")

/-- `enumerate_modes` -/
def enumerateModes (identifier : String) : Mode CaptureModeProbeResult := do
  match ← validatedVideoTarget identifier with
  | .error failure => pure { reasonCode := failure }
  | .ok target =>
    match ← attempt (.openDevice target) with
    | .error (.osError errno) => pure { reasonCode := openErrorReason errno }
    | .error raised => raise raised
    | .ok fd => opened fd

end Modes

end Aurora.Hardware
