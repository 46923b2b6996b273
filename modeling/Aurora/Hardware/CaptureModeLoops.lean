/-
  What the loops of a capture mode enumeration find.

  Every loop of the probe ends with a tally and either an exception or a list; `Finds` says what the
  list is: its records were counted, and when no gap is left its entries are sound and are those of
  the driver, index by index up to the first invalid one.  The three loops are instances, each
  proved by the same induction on the requests left.

  1. **Driver** — one answer for each request, and the list such a driver holds.
  2. **Tallies** — what a part of a run leaves of the budgets and the gaps.
  3. **Loops** — intervals, sizes, formats, queues.
-/
import Aurora.Hardware.CaptureModesProbe

namespace Aurora.Hardware.Modes

open Program

/-! ## Drivers -/

/-- A driver that answers a request in one way. -/
abbrev Driver : Type := EnumRequest → Except Raised Bytes

/-- The enumeration answers of a transcript are those of a driver. -/
def Agrees (driver : Driver) (t : List ModeExchange) : Prop :=
  ∀ fd request answer, (⟨.enumerate fd request, answer⟩ : ModeExchange) ∈ t →
    answer = driver request

/-- The entries from an index on: each is read off its answer, and the index after the last one is
    invalid. -/
inductive Lists {α : Type} (driver : Driver) (request : Nat → EnumRequest)
    (reads : Nat → Bytes → α → Prop) : Nat → List α → Prop
  | ends {index : Nat} (h : driver (request index) = .error (.osError (some einval))) :
      Lists driver request reads index []
  | entry {index : Nat} {response : Bytes} {x : α} {xs : List α}
      (h : driver (request index) = .ok response) (hx : reads index response x)
      (rest : Lists driver request reads (index + 1) xs) :
      Lists driver request reads index (x :: xs)

/-- A driver's list is the only one. -/
theorem Lists.unique {α : Type} {driver : Driver} {request : Nat → EnumRequest}
    {reads : Nat → Bytes → α → Prop} {index : Nat} {xs ys : List α}
    (h : Lists driver request reads index xs) (h' : Lists driver request reads index ys)
    (hreads : ∀ index response x y, reads index response x → reads index response y → x = y) :
    xs = ys := by
  induction h generalizing ys with
  | ends hend =>
    cases h' with
    | ends _ => rfl
    | entry hok _ _ =>
      rw [hend] at hok
      cases hok
  | entry hok hx _ ih =>
    cases h' with
    | ends hend =>
      rw [hend] at hok
      cases hok
    | entry hok' hy rest =>
      obtain rfl := Except.ok.inj (hok.symm.trans hok')
      rw [hreads _ _ _ _ hx hy, ih rest]

/-- An interval is read off a response, discrete or a range. -/
def ReadsInterval (pixelFormat width height index : Nat) (response : Bytes)
    (interval : CaptureFrameInterval) : Prop :=
  readFrameInterval pixelFormat width height index response = .discrete interval ∨
    readFrameInterval pixelFormat width height index response = .range interval

/-- The intervals of a frame size. -/
abbrev ListsIntervals (driver : Driver) (pixelFormat width height : Nat) :
    Nat → List CaptureFrameInterval → Prop :=
  Lists driver (.frameInterval pixelFormat width height) (ReadsInterval pixelFormat width height)

/-- A frame size is read off a response; a discrete one with its intervals. -/
def ReadsSize (driver : Driver) (pixelFormat index : Nat) (response : Bytes)
    (size : CaptureFrameSize) : Prop :=
  (∃ width height intervals, readFrameSize pixelFormat index response = .discrete width height ∧
      ListsIntervals driver pixelFormat width height 0 intervals ∧
      size = { kind := .discrete, width := some width, height := some height,
               intervals := intervals, intervalsEnumerated := true }) ∨
    readFrameSize pixelFormat index response = .range size

/-- The frame sizes of a pixel format. -/
abbrev ListsSizes (driver : Driver) (pixelFormat : Nat) : Nat → List CaptureFrameSize → Prop :=
  Lists driver (.frameSize pixelFormat) (ReadsSize driver pixelFormat)

/-- A format is read off a response, with its frame sizes. -/
def ReadsFormat (driver : Driver) (queue : Nat × String) (index : Nat) (response : Bytes)
    (format : CapturePixelFormat) : Prop :=
  ∃ pixelFormat bare sizes, readFormat queue.1 queue.2 index response = some (pixelFormat, bare) ∧
    ListsSizes driver pixelFormat 0 sizes ∧ format = { bare with frameSizes := sizes }

/-- The formats of a queue. -/
abbrev ListsFormats (driver : Driver) (queue : Nat × String) :
    Nat → List CapturePixelFormat → Prop :=
  Lists driver (.format queue.1) (ReadsFormat driver queue)

/-- An interval range is the only entry of its frame size. -/
def RangesAlone (driver : Driver) : Prop :=
  ∀ pixelFormat width height response interval,
    driver (.frameInterval pixelFormat width height 0) = .ok response →
    readFrameInterval pixelFormat width height 0 response = .range interval →
    driver (.frameInterval pixelFormat width height 1) = .error (.osError (some einval))

/-- A driver agrees with both parts of a transcript. -/
theorem agrees_append {driver : Driver} {t t' : List ModeExchange} :
    Agrees driver (t ++ t') ↔ Agrees driver t ∧ Agrees driver t' := by
  unfold Agrees
  constructor
  · intro h
    exact ⟨fun fd request answer hmem => h fd request answer (List.mem_append_left _ hmem),
      fun fd request answer hmem => h fd request answer (List.mem_append_right _ hmem)⟩
  · rintro ⟨h, h'⟩ fd request answer hmem
    rcases List.mem_append.mp hmem with hmem | hmem
    · exact h fd request answer hmem
    · exact h' fd request answer hmem

/-- The first answer of an agreeing transcript. -/
theorem Agrees.head {driver : Driver} {fd : Nat} {request : EnumRequest}
    {answer : Except Raised Bytes} {t : List ModeExchange}
    (h : Agrees driver ((⟨.enumerate fd request, answer⟩ : ModeExchange) :: t)) :
    driver request = answer :=
  (h fd request answer List.mem_cons_self).symm

/-- Only the first index may be answered by a range. -/
theorem index_of_range {pixelFormat width height index : Nat} {response : Bytes}
    {interval : CaptureFrameInterval}
    (h : readFrameInterval pixelFormat width height index response = .range interval) :
    index = 0 := by
  unfold readFrameInterval at h
  split at h
  · cases h
  dsimp only at h
  split at h
  · split at h <;> cases h
  split at h
  · cases h
  · rename_i hkind
    exact not_not.mp fun hne => hkind (Or.inl hne)

/-! ## Tallies -/

/-- What a part of a run that made these requests leaves of a tally. -/
structure Progress (tally after : Tally) (t : List ModeExchange) : Prop where
  budget : after.budget = tally.budget + t.length
  bounded : tally.budget ≤ maxIoctls → after.budget ≤ maxIoctls
  requests : ∀ x ∈ t, ∃ fd request, x.1 = .enumerate fd request
  gaps : after.gaps = [] → tally.gaps = []
  records : tally.records ≤ after.records
  room : tally.records ≤ maxRecords → after.records ≤ maxRecords

namespace Tally

variable {tally recorded full : Tally} {code : String}

theorem gap_ne_nil : (tally.gap code).gaps ≠ [] := by
  unfold gap
  split
  · rename_i hmem
    exact List.ne_nil_of_mem hmem
  · exact List.append_ne_nil_of_right_ne_nil _ (List.cons_ne_nil _ _)

@[simp] theorem gap_budget : (tally.gap code).budget = tally.budget := by
  unfold gap
  split <;> rfl

@[simp] theorem gap_records : (tally.gap code).records = tally.records := by
  unfold gap
  split <;> rfl

theorem limit_ne_nil : tally.limit.gaps ≠ [] := gap_ne_nil

theorem record_ok (h : tally.record = .ok recorded) :
    recorded = { tally with records := tally.records + 1 } ∧ tally.records < maxRecords := by
  unfold record at h
  split at h
  · cases h
  · exact ⟨(Except.ok.inj h).symm, by omega⟩

theorem record_records (h : tally.record = .ok recorded) :
    tally.records + 1 = recorded.records := by
  rw [(record_ok h).1]

/-- At its limit the tally notes the gap. -/
theorem record_error (h : tally.record = .error full) : full = tally.limit := by
  unfold record at h
  split at h
  · exact (Except.error.inj h).symm
  · cases h

theorem full_ne_nil (h : tally.record = .error full) : full.gaps ≠ [] := by
  rw [record_error h]
  exact limit_ne_nil

end Tally

namespace Progress

variable {tally mid after : Tally} {t t' : List ModeExchange}

theorem refl (tally : Tally) : Progress tally tally [] :=
  ⟨rfl, id, fun _ h => absurd h List.not_mem_nil, id, Nat.le_refl _, id⟩

theorem trans (h : Progress tally mid t) (h' : Progress mid after t') :
    Progress tally after (t ++ t') where
  budget := by rw [h'.budget, h.budget, List.length_append, Nat.add_assoc]
  bounded hb := h'.bounded (h.bounded hb)
  requests x hx := (List.mem_append.mp hx).elim (h.requests x) (h'.requests x)
  gaps hg := h.gaps (h'.gaps hg)
  records := Nat.le_trans h.records h'.records
  room hr := h'.room (h.room hr)

/-- A gap changes neither budget. -/
theorem gap (h : Progress tally after t) (code : String) : Progress tally (after.gap code) t where
  budget := by rw [Tally.gap_budget, h.budget]
  bounded hb := by rw [Tally.gap_budget]; exact h.bounded hb
  requests := h.requests
  gaps hg := absurd hg Tally.gap_ne_nil
  records := by rw [Tally.gap_records]; exact h.records
  room hr := by rw [Tally.gap_records]; exact h.room hr

/-- One request within the budget. -/
theorem spend {fd : Nat} {request : EnumRequest} {answer : Except Raised Bytes}
    (h : tally.budget < maxIoctls) :
    Progress tally tally.spend [⟨.enumerate fd request, answer⟩] where
  budget := rfl
  bounded _ := h
  requests _ hx := ⟨fd, request, congrArg Sigma.fst (List.mem_singleton.mp hx)⟩
  gaps := id
  records := Nat.le_refl _
  room := id

theorem record (h : Progress tally after t) {recorded : Tally} (hr : after.record = .ok recorded) :
    Progress tally recorded t := by
  obtain ⟨rfl, hroom⟩ := Tally.record_ok hr
  exact ⟨h.budget, h.bounded, h.requests, h.gaps, Nat.le_succ_of_le h.records, fun _ => hroom⟩

/-- Reaching the limit is progress, with a gap. -/
theorem full (h : Progress tally after t) {full : Tally} (hr : after.record = .error full) :
    Progress tally full t := by
  rw [Tally.record_error hr]
  exact h.gap _

end Progress

/-! ## What a loop finds -/

/-- A list that a loop has found: its records are counted, and unless a gap is left each entry is
    sound and together they are what every agreeing driver lists. -/
structure Finds {α : Type} (weigh : α → Nat) (sound : α → Prop) (listing : Driver → List α → Prop)
    (tally after : Tally) (t : List ModeExchange) (found : List α) : Prop where
  records : tally.records + (found.map weigh).sum ≤ after.records
  sound : after.gaps = [] → ∀ x ∈ found, sound x
  listed : after.gaps = [] → ∀ driver, RangesAlone driver → Agrees driver t → listing driver found

section Finds

variable {α : Type} {weigh : α → Nat} {sound : α → Prop} {listing : Driver → List α → Prop}
  {tally mid after : Tally} {t t' : List ModeExchange}

/-- A gap says that something is missing. -/
theorem Finds.cut {found : List α} (hgap : after.gaps ≠ [])
    (hrecords : tally.records + (found.map weigh).sum ≤ after.records) :
    Finds weigh sound listing tally after t found where
  records := hrecords
  sound hg := absurd hg hgap
  listed hg := absurd hg hgap

theorem Finds.stopped (h : Progress tally after t) (hgap : after.gaps ≠ []) :
    Finds weigh sound listing tally after t [] := .cut hgap h.records

/-- The next index is invalid. -/
theorem Finds.ended {request : Nat → EnumRequest} {reads : Driver → Nat → Bytes → α → Prop}
    {fd index : Nat} :
    Finds weigh sound (fun driver => Lists driver request (reads driver) index) tally tally.spend
      [⟨.enumerate fd (request index), .error (.osError (some einval))⟩] [] where
  records := Nat.le_refl _
  sound _ _ h := absurd h List.not_mem_nil
  listed _ _ _ hagrees := .ends hagrees.head

/-- One entry, and what the rest of the loop finds. -/
theorem Finds.cons {x : α} {xs : List α} {listing' : Driver → List α → Prop}
    (hrest : Progress mid after t') (hrecords : tally.records + weigh x ≤ mid.records)
    (hsound : mid.gaps = [] → sound x)
    (hlisted : mid.gaps = [] → ∀ driver, RangesAlone driver → Agrees driver t →
      listing' driver xs → listing driver (x :: xs))
    (h : Finds weigh sound listing' mid after t' xs) :
    Finds weigh sound listing tally after (t ++ t') (x :: xs) where
  records := by
    have hfound := h.records
    rw [List.map_cons, List.sum_cons]
    omega
  sound hg y hy := by
    rcases List.mem_cons.mp hy with rfl | hy
    · exact hsound (hrest.gaps hg)
    · exact h.sound hg y hy
  listed hg driver hranges hagrees := by
    obtain ⟨hfirst, hsecond⟩ := agrees_append.mp hagrees
    exact hlisted (hrest.gaps hg) driver hranges hfirst (h.listed hg driver hranges hsecond)

/-- Two lists found one after the other. -/
theorem Finds.append {xs ys : List α} {first second : Driver → List α → Prop}
    (hrest : Progress mid after t') (h : Finds weigh sound first tally mid t xs)
    (h' : Finds weigh sound second mid after t' ys)
    (hlisted : ∀ driver, first driver xs → second driver ys → listing driver (xs ++ ys)) :
    Finds weigh sound listing tally after (t ++ t') (xs ++ ys) where
  records := by
    have hxs := h.records
    have hys := h'.records
    rw [List.map_append, List.sum_append]
    omega
  sound hg x hx := by
    rcases List.mem_append.mp hx with hx | hx
    · exact h.sound (hrest.gaps hg) x hx
    · exact h'.sound hg x hx
  listed hg driver hranges hagrees := by
    obtain ⟨hfirst, hsecond⟩ := agrees_append.mp hagrees
    exact hlisted driver (h.listed (hrest.gaps hg) driver hranges hfirst)
      (h'.listed hg driver hranges hsecond)

end Finds

/-- A run of a request within the budget and of what follows. -/
theorem runs_limitedCall_bind {fd : Nat} {request : EnumRequest} {tally : Tally} {β : Type}
    {f : Option (Except Raised Bytes) → Mode β} {t : List ModeExchange} {r : Except Raised β} :
    Runs (limitedCall fd request tally >>= f) t r ↔
      (maxIoctls ≤ tally.budget ∧ Runs (f none) t r) ∨
        (tally.budget < maxIoctls ∧ ∃ answer t',
          t = [(⟨.enumerate fd request, answer⟩ : ModeExchange)] ++ t' ∧
            Runs (f (some answer)) t' r) := by
  unfold limitedCall
  by_cases hfull : tally.budget ≥ maxIoctls
  · rw [if_pos hfull, runs_bind]
    constructor
    · rintro (⟨e, h, -⟩ | ⟨a, t₁, t₂, rfl, h, hf⟩)
      · cases (runs_pure.mp h).2
      · obtain ⟨rfl, ha⟩ := runs_pure.mp h
        obtain rfl := Except.ok.inj ha
        exact Or.inl ⟨hfull, hf⟩
    · rintro (⟨-, hf⟩ | ⟨hlt, -⟩)
      · exact Or.inr ⟨none, [], t, rfl, runs_pure.mpr ⟨rfl, rfl⟩, hf⟩
      · omega
  · rw [if_neg hfull, bind_bind]
    refine (runs_ask_bind (I := ModeInterface) (c := .enumerate fd request)).trans ?_
    constructor
    · rintro ⟨answer, t', rfl, hf⟩
      exact Or.inr ⟨by omega, answer, t', rfl, hf⟩
    · rintro (⟨hle, -⟩ | ⟨-, answer, t', rfl, hf⟩)
      · omega
      · exact ⟨answer, t', rfl, hf⟩

/-! ## Intervals -/

/-- How the interval loop ends. -/
def IntervalsEnd (pixelFormat width height index : Nat) (out : List CaptureFrameInterval)
    (tally : Tally) (t : List ModeExchange)
    (r : Except Raised (LoopEnd (List CaptureFrameInterval × Bool))) : Prop :=
  ∃ after found, r = .ok (after, found) ∧ Progress tally after t ∧
    ∀ all finished, found = .ok (all, finished) → ∃ more, all = out ++ more ∧
      (after.gaps = [] → finished = true ∧ all ≠ []) ∧
      Finds (fun _ => 1) (fun _ => True)
        (fun driver => ListsIntervals driver pixelFormat width height index) tally after t more

section Intervals

variable {fd pixelFormat width height index : Nat} {out : List CaptureFrameInterval}
  {tally after : Tally} {t : List ModeExchange}

/-- A gap and no further interval. -/
theorem IntervalsEnd.stopped (h : Progress tally after t) (hgap : after.gaps ≠ []) :
    IntervalsEnd pixelFormat width height index out tally t
      (.ok (after, .ok (out, false))) := by
  refine ⟨after, _, rfl, h, ?_⟩
  rintro all finished hfound
  obtain ⟨rfl, rfl⟩ := Prod.mk.inj (Except.ok.inj hfound)
  exact ⟨[], (List.append_nil _).symm, fun hg => absurd hg hgap, .stopped h hgap⟩

theorem IntervalsEnd.raised (h : Progress tally after t) (raised : Raised) :
    IntervalsEnd pixelFormat width height index out tally t (.ok (after, .error raised)) :=
  ⟨after, _, rfl, h, fun _ _ hfound => nomatch hfound⟩

/-- The loop goes on after one interval. -/
theorem IntervalsEnd.entry {mid : Tally} {response : Bytes} {interval : CaptureFrameInterval}
    {t' : List ModeExchange} {r : Except Raised (LoopEnd (List CaptureFrameInterval × Bool))}
    (hfirst : Progress tally mid
      [⟨.enumerate fd (.frameInterval pixelFormat width height index), .ok response⟩])
    (hrecords : tally.records + 1 ≤ mid.records)
    (hread : readFrameInterval pixelFormat width height index response = .discrete interval)
    (h : IntervalsEnd pixelFormat width height (index + 1) (out ++ [interval]) mid t' r) :
    IntervalsEnd pixelFormat width height index out tally
      ([⟨.enumerate fd (.frameInterval pixelFormat width height index), .ok response⟩] ++ t')
      r := by
  obtain ⟨after, found, rfl, hrest, hfound⟩ := h
  refine ⟨after, found, rfl, hfirst.trans hrest, fun all finished heq => ?_⟩
  obtain ⟨more, rfl, hcomplete, hfinds⟩ := hfound all finished heq
  refine ⟨interval :: more, by rw [List.append_assoc]; rfl, hcomplete, ?_⟩
  exact hfinds.cons hrest hrecords (fun _ => True.intro) fun _ driver _ hagrees hlisted =>
    .entry hagrees.head (Or.inl hread) hlisted

end Intervals

/-- By induction on the indices left: how the listing of intervals ends. -/
theorem intervalsFrom_ends {fd pixelFormat width height : Nat} {index left : Nat}
    {out : List CaptureFrameInterval} {tally : Tally} {t : List ModeExchange}
    {r : Except Raised (LoopEnd (List CaptureFrameInterval × Bool))}
    (h : Runs (intervalsFrom fd pixelFormat width height index left out tally) t r) :
    IntervalsEnd pixelFormat width height index out tally t r := by
  induction left generalizing index out tally t with
  | zero =>
    obtain ⟨rfl, rfl⟩ := runs_pure.mp h
    exact .stopped ((Progress.refl tally).gap _) Tally.limit_ne_nil
  | succ left ih =>
    unfold intervalsFrom at h
    replace h := runs_limitedCall_bind.mp h
    -- the call limit may be reached before the driver is asked at all
    rcases h with ⟨-, h⟩ | ⟨hroom, answer, t', rfl, h⟩
    · obtain ⟨rfl, rfl⟩ := runs_pure.mp h
      exact .stopped ((Progress.refl tally).gap _) Tally.limit_ne_nil
    have hspent : Progress tally tally.spend
        [⟨.enumerate fd (.frameInterval pixelFormat width height index), answer⟩] :=
      .spend hroom
    cases answer with
    | error raised =>
      cases raised with
      | osError errno =>
        dsimp only at h
        split at h
        · rename_i heinval
          subst heinval
          split at h
          · obtain ⟨rfl, rfl⟩ := runs_pure.mp h
            exact .stopped (hspent.gap _) Tally.gap_ne_nil
          · -- the true end: the index after the last interval is invalid
            rename_i hout
            obtain ⟨rfl, rfl⟩ := runs_pure.mp h
            refine ⟨_, _, rfl, hspent, ?_⟩
            rintro all finished hfound
            obtain ⟨rfl, rfl⟩ := Prod.mk.inj (Except.ok.inj hfound)
            exact ⟨[], (List.append_nil _).symm, fun _ => ⟨rfl, hout⟩, .ended⟩
        · obtain ⟨rfl, rfl⟩ := runs_pure.mp h
          exact .stopped (hspent.gap _) Tally.gap_ne_nil
      | memoryError | overflowError | valueError | other =>
        obtain ⟨rfl, rfl⟩ := runs_pure.mp h
        exact .raised hspent _
    | ok response =>
      dsimp only at h
      split at h
      · obtain ⟨rfl, rfl⟩ := runs_pure.mp h
        exact .stopped (hspent.gap _) Tally.gap_ne_nil
      -- a discrete interval: the loop goes on, unless the record is full
      · rename_i interval hread
        split at h
        · rename_i full hfull
          obtain ⟨rfl, rfl⟩ := runs_pure.mp h
          exact .stopped (hspent.full hfull) (Tally.full_ne_nil hfull)
        · rename_i recorded hrecorded
          exact .entry (hspent.record hrecorded) (Tally.record_records hrecorded).le hread (ih h)
      · rename_i interval hread
        split at h
        · rename_i full hfull
          obtain ⟨rfl, rfl⟩ := runs_pure.mp h
          exact .stopped (hspent.full hfull) (Tally.full_ne_nil hfull)
        · -- a range: the driver has nothing after it
          rename_i recorded hrecorded
          obtain ⟨rfl, rfl⟩ := runs_pure.mp h
          obtain rfl := index_of_range hread
          have hrecords := (Tally.record_records hrecorded).le
          refine ⟨_, _, rfl, hspent.record hrecorded, ?_⟩
          rintro all finished hfound
          obtain ⟨rfl, rfl⟩ := Prod.mk.inj (Except.ok.inj hfound)
          refine ⟨[interval], rfl,
            fun _ => ⟨rfl, List.append_ne_nil_of_right_ne_nil _ (List.cons_ne_nil _ _)⟩, ?_⟩
          refine ⟨hrecords, fun _ _ _ => True.intro, fun _ driver hranges hagrees => ?_⟩
          have hfirst := hagrees.head
          exact .entry hfirst (Or.inr hread) (.ends (hranges _ _ _ _ _ hfirst hread))

/-! ## Frame sizes -/

/-- The records a frame size takes. -/
def sizeRecords (size : CaptureFrameSize) : Nat := 1 + size.intervals.length

/-- A discrete size has its intervals. -/
def SizeSound (size : CaptureFrameSize) : Prop :=
  size.kind = .discrete → size.intervalsEnumerated = true ∧ size.intervals ≠ []

/-- A range carries no intervals. -/
theorem intervals_of_range {pixelFormat index : Nat} {response : Bytes} {size : CaptureFrameSize}
    (h : readFrameSize pixelFormat index response = .range size) : size.intervals = [] := by
  unfold readFrameSize at h
  split at h
  · cases h
  dsimp only at h
  split at h
  · split at h <;> cases h
  split at h
  · cases h
  split at h
  · cases h
  · obtain rfl := SizeEntry.range.inj h
    rfl

/-- How the size loop ends. -/
def SizesEnd (pixelFormat index : Nat) (out : List CaptureFrameSize) (tally : Tally)
    (t : List ModeExchange) (r : Except Raised (LoopEnd (List CaptureFrameSize))) : Prop :=
  ∃ after found, r = .ok (after, found) ∧ Progress tally after t ∧
    ∀ all, found = .ok all → ∃ more, all = out ++ more ∧ (after.gaps = [] → all ≠ []) ∧
      Finds sizeRecords SizeSound (fun driver => ListsSizes driver pixelFormat index)
        tally after t more

section Sizes

variable {fd pixelFormat index : Nat} {out : List CaptureFrameSize} {tally after : Tally}
  {t : List ModeExchange}

theorem SizesEnd.stopped (h : Progress tally after t) (hgap : after.gaps ≠ []) :
    SizesEnd pixelFormat index out tally t (.ok (after, .ok out)) := by
  refine ⟨after, _, rfl, h, ?_⟩
  rintro all hfound
  obtain rfl := Except.ok.inj hfound
  exact ⟨[], (List.append_nil _).symm, fun hg => absurd hg hgap, .stopped h hgap⟩

theorem SizesEnd.raised (h : Progress tally after t) (raised : Raised) :
    SizesEnd pixelFormat index out tally t (.ok (after, .error raised)) :=
  ⟨after, _, rfl, h, fun _ hfound => nomatch hfound⟩

/-- The loop goes on after one discrete size and its intervals. -/
theorem SizesEnd.entry {mid : Tally} {response : Bytes} {width height : Nat}
    {intervals : List CaptureFrameInterval} {finished : Bool} {t₁ t₂ : List ModeExchange}
    {r : Except Raised (LoopEnd (List CaptureFrameSize))} {recorded : Tally}
    (hfirst : Progress tally recorded
      [⟨.enumerate fd (.frameSize pixelFormat index), .ok response⟩])
    (hrecords : tally.records + 1 ≤ recorded.records)
    (hread : readFrameSize pixelFormat index response = .discrete width height)
    (hintervals : IntervalsEnd pixelFormat width height 0 [] recorded t₁
      (.ok (mid, .ok (intervals, finished))))
    (h : SizesEnd pixelFormat (index + 1) (out ++ [
      { kind := .discrete, width := some width, height := some height,
        intervals := intervals, intervalsEnumerated := finished }]) mid t₂ r) :
    SizesEnd pixelFormat index out tally
      ([⟨.enumerate fd (.frameSize pixelFormat index), .ok response⟩] ++ (t₁ ++ t₂)) r := by
  obtain ⟨_, _, heq, hnested, hfound⟩ := hintervals
  obtain ⟨rfl, rfl⟩ := Prod.mk.inj (Except.ok.inj heq)
  obtain ⟨listed, hall, hcomplete, hfinds⟩ := hfound _ _ rfl
  rw [List.nil_append] at hall
  subst hall
  obtain ⟨after, found, rfl, hrest, hmore⟩ := h
  have hsize := hfirst.trans hnested
  rw [← List.append_assoc]
  refine ⟨after, found, rfl, hsize.trans hrest, fun all heq => ?_⟩
  obtain ⟨more, rfl, hne, hlater⟩ := hmore all heq
  refine ⟨_ :: more, by rw [List.append_assoc]; rfl, hne, ?_⟩
  refine hlater.cons hrest ?_ (fun hg _ => hcomplete hg) fun hg driver hranges hagrees hlisted => ?_
  · have hcounted := hfinds.records
    rw [List.map_const', List.sum_replicate_nat, Nat.mul_one] at hcounted
    have hweight : sizeRecords
        { kind := .discrete, width := some width, height := some height,
          intervals := intervals, intervalsEnumerated := finished } = 1 + intervals.length := rfl
    omega
  · obtain ⟨hhead, htail⟩ := agrees_append.mp hagrees
    refine .entry hhead.head (Or.inl ⟨width, height, intervals, hread, ?_, ?_⟩) hlisted
    · exact hfinds.listed hg driver hranges htail
    · rw [(hcomplete hg).1]

end Sizes

/-- By induction on the indices left: how the listing of sizes ends. -/
theorem sizesFrom_ends {fd pixelFormat : Nat} {index left : Nat} {out : List CaptureFrameSize}
    {tally : Tally} {t : List ModeExchange} {r : Except Raised (LoopEnd (List CaptureFrameSize))}
    (h : Runs (sizesFrom fd pixelFormat index left out tally) t r) :
    SizesEnd pixelFormat index out tally t r := by
  induction left generalizing index out tally t with
  | zero =>
    obtain ⟨rfl, rfl⟩ := runs_pure.mp h
    exact .stopped ((Progress.refl tally).gap _) Tally.limit_ne_nil
  | succ left ih =>
    unfold sizesFrom at h
    replace h := runs_limitedCall_bind.mp h
    -- the request needs room in the budget, whatever it answers
    rcases h with ⟨-, h⟩ | ⟨hroom, answer, t', rfl, h⟩
    · obtain ⟨rfl, rfl⟩ := runs_pure.mp h
      exact .stopped ((Progress.refl tally).gap _) Tally.limit_ne_nil
    have hspent : Progress tally tally.spend
        [⟨.enumerate fd (.frameSize pixelFormat index), answer⟩] := .spend hroom
    cases answer with
    | error raised =>
      cases raised with
      | osError errno =>
        dsimp only at h
        split at h
        -- `EINVAL` ends a list, but not before its first entry
        · rename_i heinval
          subst heinval
          split at h
          · obtain ⟨rfl, rfl⟩ := runs_pure.mp h
            exact .stopped (hspent.gap _) Tally.gap_ne_nil
          · rename_i hout
            obtain ⟨rfl, rfl⟩ := runs_pure.mp h
            refine ⟨_, _, rfl, hspent, ?_⟩
            rintro all hfound
            obtain rfl := Except.ok.inj hfound
            exact ⟨[], (List.append_nil _).symm, fun _ => hout, .ended⟩
        · obtain ⟨rfl, rfl⟩ := runs_pure.mp h
          exact .stopped (hspent.gap _) Tally.gap_ne_nil
      | memoryError | overflowError | valueError | other =>
        obtain ⟨rfl, rfl⟩ := runs_pure.mp h
        exact .raised hspent _
    | ok response =>
      dsimp only at h
      split at h
      · obtain ⟨rfl, rfl⟩ := runs_pure.mp h
        exact .stopped (hspent.gap _) Tally.gap_ne_nil
      · rename_i width height hread
        split at h
        · rename_i full hfull
          obtain ⟨rfl, rfl⟩ := runs_pure.mp h
          exact .stopped (hspent.full hfull) (Tally.full_ne_nil hfull)
        · rename_i recorded hrecorded
          have hfirst := hspent.record hrecorded
          replace h := runs_bind.mp h
          rcases h with ⟨_, hrun, -⟩ | ⟨⟨mid, found⟩, t₁, t₂, rfl, hrun, h⟩
          · obtain ⟨_, _, heq, -⟩ := intervalsFrom_ends hrun
            cases heq
          -- a discrete size asks for its intervals before the next size
          have hintervals := intervalsFrom_ends hrun
          dsimp only at h
          split at h
          · obtain ⟨rfl, rfl⟩ := runs_pure.mp h
            obtain ⟨_, _, heq, hnested, -⟩ := hintervals
            obtain ⟨rfl, -⟩ := Prod.mk.inj (Except.ok.inj heq)
            rw [List.append_nil]
            exact .raised (hfirst.trans hnested) _
          · exact .entry hfirst (Tally.record_records hrecorded).le hread hintervals (ih h)
      · rename_i size hread
        split at h
        · rename_i full hfull
          obtain ⟨rfl, rfl⟩ := runs_pure.mp h
          exact .stopped (hspent.full hfull) (Tally.full_ne_nil hfull)
        · -- the intervals of a range are not asked for, which is a gap
          rename_i recorded hrecorded
          obtain ⟨rfl, rfl⟩ := runs_pure.mp h
          have hfirst := (hspent.record hrecorded).gap "frame_intervals_not_queried_for_range"
          refine ⟨_, _, rfl, hfirst, ?_⟩
          rintro all hfound
          obtain rfl := Except.ok.inj hfound
          refine ⟨[size], rfl, fun hg => absurd hg Tally.gap_ne_nil, .cut Tally.gap_ne_nil ?_⟩
          rw [Tally.gap_records, ← Tally.record_records hrecorded, List.map_singleton,
            List.sum_singleton, sizeRecords, intervals_of_range hread]
          rfl

/-! ## Formats -/

/-- The records a format takes. -/
def formatRecords (format : CapturePixelFormat) : Nat :=
  1 + (format.frameSizes.map sizeRecords).sum

/-- A format has sizes, all of them sound. -/
def FormatSound (format : CapturePixelFormat) : Prop :=
  format.frameSizes ≠ [] ∧ ∀ size ∈ format.frameSizes, SizeSound size

/-- How the format loop ends. -/
def FormatsEnd (queue : Nat × String) (index : Nat) (out : List CapturePixelFormat)
    (tally : Tally) (t : List ModeExchange)
    (r : Except Raised (LoopEnd (List CapturePixelFormat))) : Prop :=
  ∃ after found, r = .ok (after, found) ∧ Progress tally after t ∧
    ∀ all, found = .ok all → ∃ more, all = out ++ more ∧
      Finds formatRecords FormatSound (fun driver => ListsFormats driver queue index)
        tally after t more

section Formats

variable {fd index : Nat} {queue : Nat × String} {out : List CapturePixelFormat}
  {tally after : Tally} {t : List ModeExchange}

/-- The formats may end early, with a gap. -/
theorem FormatsEnd.stopped (h : Progress tally after t) (hgap : after.gaps ≠ []) :
    FormatsEnd queue index out tally t (.ok (after, .ok out)) := by
  refine ⟨after, _, rfl, h, ?_⟩
  rintro all hfound
  obtain rfl := Except.ok.inj hfound
  exact ⟨[], (List.append_nil _).symm, .stopped h hgap⟩

theorem FormatsEnd.raised (h : Progress tally after t) (raised : Raised) :
    FormatsEnd queue index out tally t (.ok (after, .error raised)) :=
  ⟨after, _, rfl, h, fun _ hfound => nomatch hfound⟩

/-- The loop goes on after one format and its sizes. -/
theorem FormatsEnd.entry {mid recorded : Tally} {response : Bytes} {pixelFormat : Nat}
    {bare : CapturePixelFormat} {sizes : List CaptureFrameSize} {t₁ t₂ : List ModeExchange}
    {r : Except Raised (LoopEnd (List CapturePixelFormat))}
    (hfirst : Progress tally recorded [⟨.enumerate fd (.format queue.1 index), .ok response⟩])
    (hrecords : tally.records + 1 ≤ recorded.records)
    (hread : readFormat queue.1 queue.2 index response = some (pixelFormat, bare))
    (hsizes : SizesEnd pixelFormat 0 [] recorded t₁ (.ok (mid, .ok sizes)))
    (h : FormatsEnd queue (index + 1) (out ++ [{ bare with frameSizes := sizes }]) mid t₂ r) :
    FormatsEnd queue index out tally
      ([⟨.enumerate fd (.format queue.1 index), .ok response⟩] ++ (t₁ ++ t₂)) r := by
  obtain ⟨_, _, heq, hnested, hfound⟩ := hsizes
  obtain ⟨rfl, rfl⟩ := Prod.mk.inj (Except.ok.inj heq)
  obtain ⟨listed, hall, hne, hfinds⟩ := hfound _ rfl
  rw [List.nil_append] at hall
  subst hall
  obtain ⟨after, found, rfl, hrest, hmore⟩ := h
  have hformat := hfirst.trans hnested
  rw [← List.append_assoc]
  refine ⟨after, found, rfl, hformat.trans hrest, fun all heq => ?_⟩
  obtain ⟨more, rfl, hlater⟩ := hmore all heq
  refine ⟨_ :: more, by rw [List.append_assoc]; rfl, ?_⟩
  refine hlater.cons hrest ?_ (fun hg => ⟨hne hg, hfinds.sound hg⟩)
    fun hg driver hranges hagrees hlisted => ?_
  · have hcounted := hfinds.records
    have hweight : formatRecords { bare with frameSizes := sizes } =
        1 + (sizes.map sizeRecords).sum := rfl
    omega
  · obtain ⟨hhead, htail⟩ := agrees_append.mp hagrees
    exact .entry hhead.head
      ⟨pixelFormat, bare, sizes, hread, hfinds.listed hg driver hranges htail, rfl⟩ hlisted

end Formats

/-- By induction on the indices left: how the listing of formats ends. -/
theorem formatsFrom_ends {fd : Nat} {queue : Nat × String} {index left : Nat}
    {out : List CapturePixelFormat} {tally : Tally} {t : List ModeExchange}
    {r : Except Raised (LoopEnd (List CapturePixelFormat))}
    (h : Runs (formatsFrom fd queue.1 queue.2 index left out tally) t r) :
    FormatsEnd queue index out tally t r := by
  induction left generalizing index out tally t with
  | zero =>
    obtain ⟨rfl, rfl⟩ := runs_pure.mp h
    exact .stopped ((Progress.refl tally).gap _) Tally.limit_ne_nil
  | succ left ih =>
    unfold formatsFrom at h
    replace h := runs_limitedCall_bind.mp h
    -- the call limit may be reached before the driver is asked at all
    rcases h with ⟨-, h⟩ | ⟨hroom, answer, t', rfl, h⟩
    · obtain ⟨rfl, rfl⟩ := runs_pure.mp h
      exact .stopped ((Progress.refl tally).gap _) Tally.limit_ne_nil
    have hspent : Progress tally tally.spend
        [⟨.enumerate fd (.format queue.1 index), answer⟩] := .spend hroom
    cases answer with
    | error raised =>
      cases raised with
      | osError errno =>
        dsimp only at h
        split at h
        · rename_i heinval
          subst heinval
          obtain ⟨rfl, rfl⟩ := runs_pure.mp h
          refine ⟨_, _, rfl, hspent, ?_⟩
          rintro all hfound
          obtain rfl := Except.ok.inj hfound
          exact ⟨[], (List.append_nil _).symm, .ended⟩
        · obtain ⟨rfl, rfl⟩ := runs_pure.mp h
          exact .raised hspent _
      | memoryError | overflowError | valueError | other =>
        obtain ⟨rfl, rfl⟩ := runs_pure.mp h
        exact .raised hspent _
    | ok response =>
      dsimp only at h
      split at h
      · obtain ⟨rfl, rfl⟩ := runs_pure.mp h
        exact .raised hspent _
      · rename_i pixelFormat bare hread
        split at h
        · rename_i full hfull
          obtain ⟨rfl, rfl⟩ := runs_pure.mp h
          exact .stopped (hspent.full hfull) (Tally.full_ne_nil hfull)
        · rename_i recorded hrecorded
          have hfirst := hspent.record hrecorded
          replace h := runs_bind.mp h
          -- the sizes of the format, which never raise
          rcases h with ⟨_, hrun, -⟩ | ⟨⟨mid, found⟩, t₁, t₂, rfl, hrun, h⟩
          · obtain ⟨_, _, heq, -⟩ := sizesFrom_ends hrun
            cases heq
          -- a failure of theirs ends the enumeration, otherwise it goes on
          have hsizes := sizesFrom_ends hrun
          dsimp only at h
          split at h
          · obtain ⟨rfl, rfl⟩ := runs_pure.mp h
            obtain ⟨_, _, heq, hnested, -⟩ := hsizes
            obtain ⟨rfl, -⟩ := Prod.mk.inj (Except.ok.inj heq)
            rw [List.append_nil]
            exact .raised (hfirst.trans hnested) _
          · exact .entry hfirst (Tally.record_records hrecorded).le hread hsizes (ih h)

/-! ## Queues -/

/-- The formats of some queues, queue after queue. -/
def ListsQueues (driver : Driver) (queues : List (Nat × String))
    (formats : List CapturePixelFormat) : Prop :=
  ∃ parts, List.Forall₂ (fun queue part => ListsFormats driver queue 0 part) queues parts ∧
    formats = parts.flatten

theorem readsInterval_unique {pixelFormat width height index : Nat} {response : Bytes}
    {x y : CaptureFrameInterval} (hx : ReadsInterval pixelFormat width height index response x)
    (hy : ReadsInterval pixelFormat width height index response y) : x = y := by
  rcases hx with hx | hx <;> rcases hy with hy | hy <;> cases hx.symm.trans hy <;> rfl

theorem readsSize_unique {driver : Driver} {pixelFormat index : Nat} {response : Bytes}
    {x y : CaptureFrameSize} (hx : ReadsSize driver pixelFormat index response x)
    (hy : ReadsSize driver pixelFormat index response y) : x = y := by
  rcases hx with ⟨width, height, intervals, hx, hlists, rfl⟩ | hx
  · rcases hy with ⟨width', height', intervals', hy, hlists', rfl⟩ | hy
    · obtain ⟨rfl, rfl⟩ := SizeEntry.discrete.inj (hx.symm.trans hy)
      have hsame : intervals = intervals' :=
        hlists.unique hlists' fun _ _ _ _ h h' => readsInterval_unique h h'
      rw [hsame]
    · cases hx.symm.trans hy
  · rcases hy with ⟨_, _, _, hy, -, -⟩ | hy
    · cases hx.symm.trans hy
    · exact SizeEntry.range.inj (hx.symm.trans hy)

theorem readsFormat_unique {driver : Driver} {queue : Nat × String} {index : Nat}
    {response : Bytes} {x y : CapturePixelFormat} (hx : ReadsFormat driver queue index response x)
    (hy : ReadsFormat driver queue index response y) : x = y := by
  obtain ⟨pixelFormat, bare, sizes, hx, hlists, rfl⟩ := hx
  obtain ⟨pixelFormat', bare', sizes', hy, hlists', rfl⟩ := hy
  obtain ⟨rfl, rfl⟩ := Prod.mk.inj (Option.some.inj (hx.symm.trans hy))
  have hsame : sizes = sizes' :=
    hlists.unique hlists' fun _ _ _ _ h h' => readsSize_unique h h'
  rw [hsame]

/-- A driver has one list of formats. -/
theorem ListsQueues.unique {driver : Driver} {queues : List (Nat × String)}
    {formats others : List CapturePixelFormat} (h : ListsQueues driver queues formats)
    (h' : ListsQueues driver queues others) : formats = others := by
  obtain ⟨parts, hparts, rfl⟩ := h
  obtain ⟨parts', hparts', rfl⟩ := h'
  have hsame : parts = parts' := by
    induction hparts generalizing parts' with
    | nil =>
      cases hparts'
      rfl
    | cons hpart _ ih =>
      cases hparts' with
      | cons hpart' hrest' =>
        have hfirst := hpart.unique hpart' fun _ _ _ _ h h' => readsFormat_unique h h'
        rw [hfirst, ih _ hrest']
  rw [hsame]

/-- How the loop over the queues ends. -/
def QueuesEnd (queues : List (Nat × String)) (out : List CapturePixelFormat) (tally : Tally)
    (t : List ModeExchange) (r : Except Raised (List CapturePixelFormat × Tally)) : Prop :=
  ∃ after, Progress tally after t ∧ ∀ all final, r = .ok (all, final) → final = after ∧
    ∃ more, all = out ++ more ∧
      Finds formatRecords FormatSound (fun driver => ListsQueues driver queues) tally after t more

/-- A queue that failed leaves a gap and no formats. -/
theorem QueuesEnd.failed {queues rest : List (Nat × String)} {out : List CapturePixelFormat}
    {tally mid : Tally} {t t' : List ModeExchange}
    {r : Except Raised (List CapturePixelFormat × Tally)} (hqueue : Progress tally mid t)
    (code : String) (h : QueuesEnd rest out (mid.gap code) t' r) :
    QueuesEnd queues out tally (t ++ t') r := by
  obtain ⟨after, hrest, hend⟩ := h
  refine ⟨after, (hqueue.gap code).trans hrest, fun all final heq => ?_⟩
  obtain ⟨hfinal, more, hall, hfinds⟩ := hend all final heq
  have hgap : after.gaps ≠ [] := fun hg => Tally.gap_ne_nil (hrest.gaps hg)
  refine ⟨hfinal, more, hall, .cut hgap ?_⟩
  have hcounted := hfinds.records
  have hmid := hqueue.records
  rw [Tally.gap_records] at hcounted
  omega

theorem queuesFrom_ends {fd : Nat} {queues : List (Nat × String)}
    {out : List CapturePixelFormat} {tally : Tally} {t : List ModeExchange}
    {r : Except Raised (List CapturePixelFormat × Tally)}
    (h : Runs (queuesFrom fd queues out tally) t r) : QueuesEnd queues out tally t r := by
  induction queues generalizing out tally t with
  | nil =>
    obtain ⟨rfl, rfl⟩ := runs_pure.mp h
    refine ⟨tally, .refl tally, ?_⟩
    rintro all final heq
    obtain ⟨rfl, rfl⟩ := Prod.mk.inj (Except.ok.inj heq)
    exact ⟨rfl, [], (List.append_nil _).symm, Nat.le_refl _,
      fun _ _ hx => absurd hx List.not_mem_nil, fun _ _ _ _ => ⟨[], .nil, rfl⟩⟩
  | cons queue rest ih =>
    obtain ⟨number, label⟩ := queue
    unfold queuesFrom at h
    replace h := runs_bind.mp h
    rcases h with ⟨_, hrun, -⟩ | ⟨⟨mid, found⟩, t₁, t₂, rfl, hrun, h⟩
    · obtain ⟨_, _, heq, -⟩ := @formatsFrom_ends fd (number, label) _ _ _ _ _ _ hrun
      cases heq
    obtain ⟨_, _, heq, hqueue, hfound⟩ := @formatsFrom_ends fd (number, label) _ _ _ _ _ _ hrun
    obtain ⟨rfl, rfl⟩ := Prod.mk.inj (Except.ok.inj heq)
    cases found with
    | ok part =>
      obtain ⟨after, hrest, hend⟩ := ih h
      obtain ⟨_, hpart, hformats⟩ := hfound part rfl
      rw [List.nil_append] at hpart
      subst hpart
      refine ⟨after, hqueue.trans hrest, fun all final heq => ?_⟩
      obtain ⟨hfinal, more, rfl, hmore⟩ := hend all final heq
      refine ⟨hfinal, part ++ more, List.append_assoc _ _ _, hformats.append hrest hmore ?_⟩
      rintro driver hlists ⟨parts, hparts, rfl⟩
      exact ⟨part :: parts, .cons hlists hparts, rfl⟩
    | error raised =>
      cases raised with
      | valueError => exact .failed hqueue _ (ih h)
      | osError errno => exact .failed hqueue _ (ih h)
      | memoryError | overflowError | other =>
        obtain ⟨rfl, rfl⟩ := runs_raise.mp h
        rw [List.append_nil]
        exact ⟨mid, hqueue, fun _ _ heq => nomatch heq⟩

end Aurora.Hardware.Modes
