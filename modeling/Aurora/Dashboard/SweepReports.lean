/-
  Reports of whole sweeps, and of one sweep after the other.

  A sweep settles four components.  Its report is projected by the history exactly when all of them
  have told (`Tells`), and is refused for its reasons otherwise: the names, the order, the overall
  status and the times of a report never stand in the way.  What the service adds from one sweep to
  the next, the time of the last success, is the time of the newest sweep that succeeded.
-/
import Aurora.Dashboard.Reporting

namespace Aurora.Dashboard

open Hardware
open HealthHistory (ComponentName HealthHistoryStatus Details DetailValue componentOrder
  normalizeComponentReason normalizeComponentReason_decides ReasonResult ProjectionFailure
  ComponentProjection HealthProjection projectHealthReport worstComponentStatus Bounded Datetime
  SampleKind maxComponentLatencyMs maxServiceUptimeMs maxObservationSequence maxBoundedCounter)
open HealthHistory.Projection

section Sweeps

variable (reading : Reading) (settings : CollectorSettings) (sweep : Sweep)

/-! ## The components of a sweep -/

/-- What a component's collector, or its replacement, reports. -/
def seen (name : ComponentName) : ObservedHealth :=
  safeCollect ⟨name.value, if sweep.raises name then .error () else
    .ok (observe reading settings sweep name), sweep.stamp name⟩

/-- What the sweep reports of a component. -/
def settled : ComponentName → ObservedHealth
  | .capture =>
    if (seen reading settings sweep .capture).status = .unavailable then
      seen reading settings sweep .capture
    else
      withActivity (seen reading settings sweep .capture)
        ((seen reading settings sweep .hyperhdr).details.get "grabber_active")
  | name => seen reading settings sweep name

variable {reading settings sweep}

theorem observe_name (name : ComponentName) :
    (observe reading settings sweep name).name = name.value := by
  cases name with
  | wled =>
    show (collectWled _ _ _ _).name = _
    unfold collectWled
    split <;> rfl
  | hyperhdr =>
    show (collectHyperhdr _ _ _ _ _).name = _
    unfold collectHyperhdr
    dsimp only
    split
    · rfl
    · rfl
    · split <;> rfl
  | capture => exact collectCapture_observed.name
  | raspberryPi => rfl

theorem seen_name (name : ComponentName) : (seen reading settings sweep name).name = name.value := by
  unfold seen safeCollect
  cases sweep.raises name with
  | true => rfl
  | false => exact observe_name name

theorem withActivity_name (capture : ObservedHealth) (active : DetailValue) :
    (withActivity capture active).name = capture.name := by
  unfold withActivity
  dsimp only
  split
  · rfl
  · split <;> rfl

/-- The correction of the activity keeps the last success. -/
theorem withActivity_lastSuccessfulAt (capture : ObservedHealth) (active : DetailValue) :
    (withActivity capture active).lastSuccessfulAt = capture.lastSuccessfulAt := by
  unfold withActivity
  dsimp only
  split
  · rfl
  · split <;> rfl

theorem settled_name (name : ComponentName) :
    (settled reading settings sweep name).name = name.value := by
  cases name with
  | capture =>
    show (if _ then _ else _ : ObservedHealth).name = _
    split
    · exact seen_name .capture
    · exact (withActivity_name _ _).trans (seen_name .capture)
  | wled => exact seen_name .wled
  | hyperhdr => exact seen_name .hyperhdr
  | raspberryPi => exact seen_name .raspberryPi

/-- The components of a sweep are the four settled ones, in their order. -/
theorem collectComponents_default :
    collectComponents (defaultCollectors reading settings sweep) =
      componentOrder.map (settled reading settings sweep) := by
  have hseen : (defaultCollectors reading settings sweep).map safeCollect =
      [seen reading settings sweep .wled, seen reading settings sweep .hyperhdr,
        seen reading settings sweep .capture, seen reading settings sweep .raspberryPi] := rfl
  unfold collectComponents
  rw [hseen]
  have hw : (seen reading settings sweep .wled).name = "wled" := seen_name .wled
  have hh : (seen reading settings sweep .hyperhdr).name = "hyperhdr" := seen_name .hyperhdr
  have hc : (seen reading settings sweep .capture).name = "capture" := seen_name .capture
  have hp : (seen reading settings sweep .raspberryPi).name = "raspberry_pi" :=
    seen_name .raspberryPi
  unfold applyCaptureActivity byName
  simp only [List.reverse_cons, List.reverse_nil, List.nil_append, List.cons_append,
    List.find?_cons, hw, hh, hc, hp]
  show (if _ then _ else _) = [settled _ _ _ .wled, settled _ _ _ .hyperhdr, settled _ _ _ .capture,
    settled _ _ _ .raspberryPi]
  unfold settled
  split
  case isTrue => rfl
  case isFalse =>
    simp only [List.map_cons, List.map_nil, hw, hh, hc, hp]
    rfl

/-! ## Acceptance -/

variable (reading settings sweep)

/-- A component's collector failed, or its device told all that the history needs. -/
def Told : ComponentName → Prop
  | .wled => sweep.raises .wled = true ∨ WledTold reading.loads settings sweep.devices
  | .hyperhdr =>
    sweep.raises .hyperhdr = true ∨ HyperhdrTold reading.loads reading.upper settings sweep.devices
  | _ => True

/-- Every component of the sweep has told. -/
def Tells : Prop := ∀ name, Told reading settings sweep name

variable {reading settings sweep}

/-- A collector that failed is accepted, another one when its observation is. -/
theorem seen_accepted_iff (name : ComponentName) :
    Accepted name (seen reading settings sweep name).status
        (seen reading settings sweep name).details ↔
      sweep.raises name = true ∨ Accepted name (observe reading settings sweep name).status
        (observe reading settings sweep name).details := by
  unfold seen safeCollect
  cases sweep.raises name with
  | true => exact iff_of_true (accepted_failed name) (.inl rfl)
  | false => exact (or_iff_right Bool.false_ne_true).symm

/-- What HyperHDR's component says of the grabber is a Boolean or nothing. -/
theorem seen_grabber : ∃ active : Option Bool,
    (seen reading settings sweep .hyperhdr).details.get "grabber_active" = detail .bool active := by
  unfold seen safeCollect
  cases sweep.raises .hyperhdr with
  | true => exact ⟨none, rfl⟩
  | false =>
    have hobserved : HyperhdrObserved reading.loads reading.upper settings _ _
        (collectHyperhdr reading.loads reading.upper settings sweep.devices
          (sweep.stamp .hyperhdr)).details := collectHyperhdr_observed
    show ∃ active : Option Bool, (collectHyperhdr reading.loads reading.upper settings sweep.devices
      (sweep.stamp .hyperhdr)).details.get "grabber_active" = detail .bool active
    revert hobserved
    generalize (collectHyperhdr reading.loads reading.upper settings sweep.devices
      (sweep.stamp .hyperhdr)).details = details
    generalize (collectHyperhdr reading.loads reading.upper settings sweep.devices
      (sweep.stamp .hyperhdr)).status = status
    intro hobserved
    cases hobserved with
    | disabled => exact ⟨none, rfl⟩
    | unreached => exact ⟨none, rfl⟩
    | refused => exact ⟨none, rfl⟩
    | received _ info => exact ⟨info.grabberActive, rfl⟩

/-- A capture device that is available was observed. -/
theorem seen_capture (h : (seen reading settings sweep .capture).status ≠ .unavailable) :
    CaptureObserved (seen reading settings sweep .capture) := by
  unfold seen safeCollect at h ⊢
  cases hraises : sweep.raises .capture with
  | true =>
    rw [hraises] at h
    exact absurd rfl h
  | false => exact collectCapture_observed

/-- The history accepts a component of a sweep exactly when it has told. -/
theorem settled_accepted_iff (name : ComponentName) :
    Accepted name (settled reading settings sweep name).status
        (settled reading settings sweep name).details ↔ Told reading settings sweep name := by
  cases name with
  | wled => exact (seen_accepted_iff .wled).trans (or_congr_right collectWled_accepted_iff)
  | hyperhdr => exact (seen_accepted_iff .hyperhdr).trans (or_congr_right collectHyperhdr_accepted_iff)
  | raspberryPi =>
    exact iff_of_true ((seen_accepted_iff .raspberryPi).mpr (.inr (collectPi_accepted _ _ _ _)))
      trivial
  | capture =>
    refine iff_of_true ?_ trivial
    show Accepted .capture (if _ then _ else _ : ObservedHealth).status
      (if _ then _ else _ : ObservedHealth).details
    split
    case isTrue =>
      exact (seen_accepted_iff .capture).mpr (.inr collectCapture_observed.accepted)
    case isFalse havailable =>
      obtain ⟨active, hactive⟩ : ∃ active : Option Bool,
        (seen reading settings sweep .hyperhdr).details.get "grabber_active" =
          detail .bool active := seen_grabber
      rw [hactive]
      exact (seen_capture havailable).accepted_withActivity havailable active

end Sweeps

/-! ## Times -/

section Times

variable (iso : String → Option Datetime)

/-- The history reads this time. -/
def Readable (text : String) : Prop := ∃ t, timestampFromText iso (some text) = .ok t

/-- Every time and duration of a sweep is in the range that the history keeps. -/
structure Timely (sweep : Sweep) : Prop where
  checkedAt : Readable iso sweep.checkedAt
  uptime : ∃ n, durationMs (some (.float sweep.serviceUptimeSeconds)) maxServiceUptimeMs = .ok n
  stamps : ∀ name, Readable iso (sweep.stamp name).checkedAt
  latencies : ∀ name, ∃ n,
    roundedMilliseconds (some (.float (sweep.stamp name).latencyMs)) maxComponentLatencyMs = .ok n

/-- The times of a component are in range. -/
structure ObservedHealth.Timed (c : ObservedHealth) : Prop where
  checkedAt : Readable iso c.checkedAt
  latency : ∃ n, roundedMilliseconds (some (.float c.latencyMs)) maxComponentLatencyMs = .ok n
  lastSuccessfulAt : ∀ text, c.lastSuccessfulAt = some text → Readable iso text

variable {iso}

/-! ## Projection -/

/-- A component with readable times is projected when it is accepted, and refused otherwise. -/
theorem projectComponent_of_timed {name : ComponentName} {c : ObservedHealth} (h : c.Timed iso) :
    (Accepted name c.status c.details → ∃ p, projectComponent iso name c.record = .ok p ∧
      p.component = name ∧ p.status = c.status) ∧
    (¬Accepted name c.status c.details →
      projectComponent iso name c.record = .error (.rejection .reasonRejected)) := by
  obtain ⟨checkedAt, hchecked⟩ := h.checkedAt
  obtain ⟨latency, hlatency⟩ := h.latency
  have hlast : ∃ last, optionalTimestamp iso c.record.lastSuccessfulAt = .ok last := by
    show ∃ last, optionalTimestamp iso (c.lastSuccessfulAt.map some) = .ok last
    cases hat : c.lastSuccessfulAt with
    | none => exact ⟨none, rfl⟩
    | some text =>
      obtain ⟨t, ht⟩ := h.lastSuccessfulAt text hat
      refine ⟨some t, ?_⟩
      show (timestampFromText iso (some text)).map some = .ok (some t)
      rw [ht]
      rfl
  obtain ⟨last, hlast⟩ := hlast
  constructor
  · rintro ⟨reasons, haccepted⟩
    refine ⟨⟨name, c.status, reasons, checkedAt, latency, last⟩, ?_, rfl, rfl⟩
    have hnew := HealthHistory.component_check_of_accepted haccepted
      (timestampFromText_bounded hchecked) (roundedMilliseconds_bounded hlatency)
      (optionalTimestamp_bounded hlast)
    refine bind_eq_ok.mpr ⟨c.status, rfl, bind_eq_ok.mpr ⟨c.details, rfl, ?_⟩⟩
    rw [haccepted]
    refine bind_eq_ok.mpr ⟨checkedAt, hchecked, bind_eq_ok.mpr ⟨last, hlast,
      bind_eq_ok.mpr ⟨latency, hlatency, ?_⟩⟩⟩
    unfold newComponent
    rw [hnew]
  · intro hrefused
    obtain ⟨result, hresult⟩ := normalizeComponentReason_decides 1 name.value c.status.value
      c.details
    refine bind_eq_error.mpr (.inr ⟨c.status, rfl, bind_eq_error.mpr (.inr ⟨c.details, rfl, ?_⟩)⟩)
    rw [hresult]
    cases result with
    | accepted reasons => exact absurd ⟨reasons, hresult⟩ hrefused
    | rejected code => rfl

/-- The worst of a first status and some others. -/
theorem foldl_worst (statuses : List HealthHistoryStatus) : ∀ first : HealthHistoryStatus,
    statuses.foldl (fun worst status => if worst.severity < status.severity then status else worst)
        first =
      if .unavailable ∈ first :: statuses then .unavailable
      else if .degraded ∈ first :: statuses then .degraded
      else .healthy := by
  induction statuses with
  | nil =>
    intro first
    cases first <;> rfl
  | cons status rest ih =>
    intro first
    rw [List.foldl_cons, ih]
    cases first <;> cases status <;> simp [HealthHistoryStatus.severity]

/-- The dashboard and the history derive the same overall status. -/
theorem worstComponentStatus_eq {projected : List ComponentProjection}
    {components : List ObservedHealth} (hnonempty : components ≠ [])
    (h : projected.map ComponentProjection.status = components.map (·.status)) :
    worstComponentStatus projected = some (statusOf components) := by
  cases projected with
  | nil => exact absurd (List.map_eq_nil_iff.mp h.symm) hnonempty
  | cons p rest =>
    have hstatuses : (components.map (·.toComponentHealth)).map ComponentHealth.status =
        p.status :: rest.map ComponentProjection.status := by
      rw [List.map_map]
      exact h.symm
    have hempty : (components.map (·.toComponentHealth)).isEmpty = false := by
      cases components with
      | nil => exact absurd rfl hnonempty
      | cons => rfl
    show some (rest.foldl (fun worst c => if worst.severity < c.status.severity then c.status
      else worst) p.status) = _
    unfold statusOf overallStatus
    rw [hempty, hstatuses, if_neg Bool.false_ne_true, ← foldl_worst, List.foldl_map]

/-- The report of four named components with readable times. -/
structure ObservedReport.Reports (iso : String → Option Datetime) (report : ObservedReport)
    (components : ComponentName → ObservedHealth) : Prop where
  listed : report.components = componentOrder.map components
  names : ∀ name, (components name).name = name.value
  timed : ∀ name, (components name).Timed iso
  status : report.status = statusOf report.components
  checkedAt : Readable iso report.checkedAt
  uptime : ∃ n, durationMs (some (.float report.serviceUptimeSeconds)) maxServiceUptimeMs = .ok n

/-- Components with distinct known names are found under them. -/
theorem componentsByName_distinct (components : List HealthHistory.ComponentHealth) :
    ∀ found : List (String × HealthHistory.ComponentHealth),
      (∀ c ∈ components, c.name ∈ componentOrder.map ComponentName.value) →
      (found.map Prod.fst ++ components.map (·.name)).Nodup →
      componentsByName components found = .ok (found ++ components.map fun c => (c.name, c)) := by
  induction components with
  | nil =>
    intro found _ _
    rw [List.map_nil, List.append_nil]
    rfl
  | cons c rest ih =>
    intro found hknown hdistinct
    have hnew : c.name ∉ found.map Prod.fst := by
      intro hold
      exact (List.disjoint_of_nodup_append hdistinct) hold (List.mem_map_of_mem (.head _))
    have hrest := ih (found ++ [(c.name, c)]) (fun d hd => hknown d (.tail _ hd)) (by
      rw [List.map_append, List.append_assoc]
      exact hdistinct)
    conv_lhs => unfold componentsByName
    rw [require_pos (hknown c (.head _)), require_pos hnew]
    show componentsByName rest (found ++ [(c.name, c)]) = _
    rw [hrest, List.append_assoc]
    rfl

/-- Components with the fixed names pass the check of the names. -/
theorem componentsByName_record {components : ComponentName → ObservedHealth}
    (hnames : ∀ name, (components name).name = name.value) :
    componentsByName ((componentOrder.map components).map ObservedHealth.record) [] =
      .ok (componentOrder.map fun name => (name.value, (components name).record)) := by
  have hmapped : ((componentOrder.map components).map ObservedHealth.record).map (·.name) =
      componentOrder.map ComponentName.value := by
    rw [List.map_map, List.map_map]
    exact List.map_congr_left fun name _ => hnames name
  rw [componentsByName_distinct]
  · rw [List.nil_append, List.map_map, List.map_map]
    refine congrArg Except.ok (List.map_congr_left fun name _ => ?_)
    exact congrArg (·, (components name).record) (hnames name)
  · intro c hc
    rw [← hmapped]
    exact List.mem_map_of_mem hc
  · show ([] ++ _ : List String).Nodup
    rw [List.nil_append, hmapped]
    decide

theorem lookup_record (components : ComponentName → ObservedHealth) (name : ComponentName) :
    (componentOrder.map fun name => (name.value, (components name).record)).lookup name.value =
      some (components name).record := by
  cases name <;> rfl

/-- Mapping a step that succeeds or fails in one way fails in that way unless it succeeds on every
element. -/
theorem mapM_all_or_error {α β ε : Type} {f : α → Except ε β} {e : ε} {good : α → Prop} :
    ∀ l : List α, (∀ a ∈ l, good a ∧ (∃ b, f a = .ok b) ∨ ¬good a ∧ f a = .error e) →
      ((∀ a ∈ l, good a) ∧ ∃ r, l.mapM f = .ok r) ∨ ¬(∀ a ∈ l, good a) ∧ l.mapM f = .error e
  | [], _ => .inl ⟨nofun, [], rfl⟩
  | a :: l, h => by
    rw [List.mapM_cons]
    rcases h a (.head _) with ⟨hgood, b, hb⟩ | ⟨hbad, herror⟩
    · rcases mapM_all_or_error l fun c hc => h c (.tail _ hc) with ⟨hall, r, hr⟩ | ⟨hnot, herror⟩
      · refine .inl ⟨List.forall_mem_cons.mpr ⟨hgood, hall⟩, b :: r, ?_⟩
        exact bind_eq_ok.mpr ⟨b, hb, bind_eq_ok.mpr ⟨r, hr, rfl⟩⟩
      · refine .inr ⟨fun hall => hnot (List.forall_mem_cons.mp hall).2, ?_⟩
        exact bind_eq_error.mpr (.inr ⟨b, hb, bind_eq_error.mpr (.inl herror)⟩)
    · exact .inr ⟨fun hall => hbad (hall a (.head _)), bind_eq_error.mpr (.inl herror)⟩

/-- The request of a projection is in range. -/
structure InRange (sequence : Int) (recordedAt : Datetime) (missed : Int) : Prop where
  sequence : Bounded maxObservationSequence sequence
  recordedAt : ∃ t, timestampFromDatetime recordedAt = .ok t
  missed : Bounded maxBoundedCounter missed

theorem expect_some {α : Type} (reason : HealthHistory.ProjectionRejection) (a : α) :
    expect reason (some a) = .ok a := rfl

/-- A timely report is projected with its own statuses when every component is accepted, and is
refused for its reasons otherwise. -/
theorem ObservedReport.Reports.projected {report : ObservedReport}
    {components : ComponentName → ObservedHealth} (h : report.Reports iso components)
    {sequence : Int} {recordedAt : Datetime} {missed : Int} (kind : SampleKind)
    (hrange : InRange sequence recordedAt missed) :
    ((∀ name, Accepted name (components name).status (components name).details) ∧
      ∃ p, projectHealthReport iso report.record sequence recordedAt kind missed = .ok p ∧
        p.overallStatus = report.status ∧
        p.components.map (fun c => (c.component, c.status)) =
          componentOrder.map fun name => (name, (components name).status)) ∨
    ¬(∀ name, Accepted name (components name).status (components name).details) ∧
      projectHealthReport iso report.record sequence recordedAt kind missed =
        .error (.rejection .reasonRejected) := by
  obtain ⟨observedAt, hobserved⟩ := h.checkedAt
  obtain ⟨uptime, huptime⟩ := h.uptime
  obtain ⟨recorded, hrecorded⟩ := hrange.recordedAt
  have hfound : componentsByName (report.components.map ObservedHealth.record) [] = _ :=
    h.listed ▸ componentsByName_record h.names
  have hlookup : ∀ name ∈ componentOrder, ((componentOrder.map fun name =>
      (name.value, (components name).record)).lookup name.value).isSome = true := by
    intro name _
    rw [lookup_record]
    rfl
  have hstep : ∀ name, (do
      projectComponent iso name (← expect .invalidComponents ((componentOrder.map fun name =>
        (name.value, (components name).record)).lookup name.value))) =
      projectComponent iso name (components name).record := by
    intro name
    rw [lookup_record]
    rfl
  -- the checks at the head of the projection pass, so what is left is the components
  have hraises := HealthHistory.projectHealthReport_rejecting iso report.record sequence recordedAt
    kind missed
  unfold projectHealthReport at hraises ⊢
  simp only [ObservedReport.record, require_pos hrange.sequence, require_pos hrange.missed,
    expect_some, hobserved, huptime, hrecorded, hfound, require_pos hlookup, hstep, ok_bind,
    require_pos trivial] at hraises ⊢
  have hcomponent : ∀ name ∈ componentOrder,
      Accepted name (components name).status (components name).details ∧
        (∃ p, projectComponent iso name (components name).record = .ok p) ∨
      ¬Accepted name (components name).status (components name).details ∧
        projectComponent iso name (components name).record = .error (.rejection .reasonRejected) := by
    intro name _
    obtain ⟨haccepted, hrefused⟩ := projectComponent_of_timed (h.timed name)
    by_cases hname : Accepted name (components name).status (components name).details
    · obtain ⟨p, hp, -⟩ := haccepted hname
      exact .inl ⟨hname, p, hp⟩
    · exact .inr ⟨hname, hrefused hname⟩
  have hall : (∀ name ∈ componentOrder,
      Accepted name (components name).status (components name).details) ↔
      ∀ name, Accepted name (components name).status (components name).details := by
    refine ⟨fun h name => h name ?_, fun h name _ => h name⟩
    cases name <;> decide
  -- all components are projected, or the first refused one decides
  rcases mapM_all_or_error componentOrder hcomponent with ⟨haccepted, projected, hprojected⟩ |
    ⟨hrefused, herror⟩
  · left
    have hfields : projected.map (fun c => (c.component, c.status)) =
        componentOrder.map fun name => (name, (components name).status) := by
      have hsame : List.Forall₂ Eq (componentOrder.map fun name => (name, (components name).status))
          (projected.map fun c => (c.component, c.status)) := by
        rw [List.forall₂_map_left_iff, List.forall₂_map_right_iff]
        refine (mapM_eq_ok.mp hprojected).imp fun name p hp => ?_
        obtain ⟨p', hp', hname, hstatus⟩ :=
          (projectComponent_of_timed (h.timed name)).1 (hall.mp haccepted name)
        obtain rfl := Except.ok.inj (hp.symm.trans hp')
        rw [hname, hstatus]
      rw [List.forall₂_eq_eq_eq] at hsame
      exact hsame.symm
    have hstatus : worstComponentStatus projected = some report.status := by
      rw [h.status]
      refine worstComponentStatus_eq ?_ ?_
      · rw [h.listed]
        exact List.cons_ne_nil _ _
      · have hsnd := congrArg (List.map Prod.snd) hfields
        rw [List.map_map, List.map_map] at hsnd
        rw [h.listed, List.map_map]
        exact hsnd
    simp only [hprojected, ok_bind, require_pos hstatus] at hraises ⊢
    refine ⟨hall.mp haccepted, ?_⟩
    split
    case h_1 => exact ⟨_, rfl, rfl, hfields⟩
    case h_2 text hcheck =>
      rw [hcheck] at hraises
      exact absurd rfl (hraises text)
  · right
    rw [herror]
    exact ⟨fun h => hrefused (hall.mpr h), rfl⟩

end Times

/-! ## Last successes -/

/-- A component with what is remembered of it. -/
def remembered (lastSuccesses : Dict String String) (c : ObservedHealth) : ObservedHealth :=
  { c with lastSuccessfulAt := c.lastSuccessfulAt.or (lastSuccesses.get? c.name) }

/-- A component without a success of its own is given the remembered one. -/
theorem withLastSuccess_eq (d : Dict String String) (c : ObservedHealth) :
    { c with toComponentHealth := (withLastSuccess d c.toComponentHealth).1 } = remembered d c ∧
      ∀ k, (withLastSuccess d c.toComponentHealth).2.get? k =
        if k = c.name then c.lastSuccessfulAt.or (d.get? k) else d.get? k := by
  obtain ⟨⟨name, status, last⟩, message, checkedAt, latency, details⟩ := c
  unfold withLastSuccess remembered
  cases last with
  | some at_ =>
    refine ⟨rfl, fun k => ?_⟩
    dsimp only
    rw [Dict.get?_set]
    rfl
  | none =>
    dsimp only
    cases hprevious : d.get? name with
    | none =>
      refine ⟨rfl, fun k => ?_⟩
      dsimp only
      split <;> rfl
    | some previous =>
      refine ⟨rfl, fun k => ?_⟩
      dsimp only
      split <;> rfl

/-- The components are remembered in order, each under its own name. -/
theorem rememberAll_cons (d : Dict String String) (c : ObservedHealth) (rest : List ObservedHealth) :
    rememberAll d (c :: rest) =
      (remembered d c :: (rememberAll (withLastSuccess d c.toComponentHealth).2 rest).1,
        (rememberAll (withLastSuccess d c.toComponentHealth).2 rest).2) := by
  rw [← (withLastSuccess_eq d c).1]
  rfl

/-- The components of a sweep do not disturb each other. -/
theorem rememberAll_eq (components : List ObservedHealth) : ∀ d : Dict String String,
    (components.map (·.name)).Nodup →
      (rememberAll d components).1 = components.map (remembered d) ∧
      (∀ c ∈ components, (rememberAll d components).2.get? c.name =
        c.lastSuccessfulAt.or (d.get? c.name)) ∧
      ∀ k, k ∉ components.map (·.name) → (rememberAll d components).2.get? k = d.get? k := by
  induction components with
  | nil => exact fun d _ => ⟨rfl, nofun, fun _ _ => rfl⟩
  | cons c rest ih =>
    intro d hdistinct
    obtain ⟨hnew, hrest⟩ := List.nodup_cons.mp hdistinct
    have hget := (withLastSuccess_eq d c).2
    obtain ⟨hcomponents, hseen, hothers⟩ := ih (withLastSuccess d c.toComponentHealth).2 hrest
    have hsame : ∀ e ∈ rest, (withLastSuccess d c.toComponentHealth).2.get? e.name = d.get? e.name := by
      intro e he
      rw [hget, if_neg]
      intro heq
      have hmem : c.name ∈ rest.map (·.name) := heq ▸ List.mem_map_of_mem he
      exact hnew hmem
    rw [rememberAll_cons]
    refine ⟨?_, ?_, ?_⟩
    · dsimp only
      rw [hcomponents, List.map_cons]
      refine congrArg _ (List.map_congr_left fun e he => ?_)
      unfold remembered
      rw [hsame e he]
    · intro e he
      dsimp only
      rcases List.mem_cons.mp he with rfl | he
      · rw [hothers e.name hnew, hget, if_pos rfl]
      · rw [hseen e he, hsame e he]
    · intro k hk
      rw [List.map_cons, List.mem_cons, not_or] at hk
      rw [hothers k hk.2, hget, if_neg hk.1]

section Runs

variable (reading : Reading) (settings : CollectorSettings) (iso : String → Option Datetime)

/-! ## One sweep -/

/-- The times of a component are those of its collector. -/
structure Stamped (stamp : Stamp) (c : ObservedHealth) : Prop where
  checkedAt : c.checkedAt = stamp.checkedAt
  latencyMs : c.latencyMs = stamp.latencyMs
  lastSuccessfulAt : ∀ text, c.lastSuccessfulAt = some text → text = stamp.checkedAt

/-- Every component carries the stamp it was built with. -/
theorem component_stamped (name : String) (status : HealthHistoryStatus) (message : String)
    (stamp : Stamp) (succeeded : Bool) (details : Details) :
    Stamped stamp (component name status message stamp succeeded details) where
  checkedAt := rfl
  latencyMs := rfl
  lastSuccessfulAt text h := by
    have hsome : (if succeeded then some stamp.checkedAt else none) = some text := h
    split at hsome
    · exact (Option.some.inj hsome).symm
    · cases hsome

variable {reading settings iso}
variable {sweep : Sweep} {d : Dict String String}

/-- Whatever the collector, the component carries the sweep's stamp. -/
theorem observe_stamped (name : ComponentName) :
    Stamped (sweep.stamp name) (observe reading settings sweep name) := by
  cases name with
  | wled =>
    show Stamped _ (collectWled _ _ _ _)
    unfold collectWled
    split
    · exact component_stamped _ _ _ _ _ _
    · exact component_stamped _ _ _ _ _ _
  | hyperhdr =>
    show Stamped _ (collectHyperhdr _ _ _ _ _)
    unfold collectHyperhdr
    dsimp only
    split
    · exact component_stamped _ _ _ _ _ _
    · exact component_stamped _ _ _ _ _ _
    · split
      · exact component_stamped _ _ _ _ _ _
      · exact component_stamped _ _ _ _ _ _
  | capture =>
    show Stamped _ (collectCapture _ _ _)
    unfold collectCapture
    dsimp only
    split
    · exact component_stamped _ _ _ _ _ _
    · exact component_stamped _ _ _ _ _ _
  | raspberryPi => exact component_stamped _ _ _ _ _ _

/-- A failed collector's component does as well. -/
theorem seen_stamped (name : ComponentName) :
    Stamped (sweep.stamp name) (seen reading settings sweep name) := by
  unfold seen safeCollect
  cases sweep.raises name with
  | true => exact component_stamped _ _ _ _ _ _
  | false => exact observe_stamped name

/-- The correction of the activity keeps the stamp. -/
theorem withActivity_stamped {stamp : Stamp} {c : ObservedHealth} (h : Stamped stamp c)
    (active : DetailValue) : Stamped stamp (withActivity c active) := by
  unfold withActivity
  dsimp only
  split
  · exact ⟨h.checkedAt, h.latencyMs, h.lastSuccessfulAt⟩
  · split
    · exact ⟨h.checkedAt, h.latencyMs, h.lastSuccessfulAt⟩
    · exact ⟨h.checkedAt, h.latencyMs, h.lastSuccessfulAt⟩

theorem settled_stamped (name : ComponentName) :
    Stamped (sweep.stamp name) (settled reading settings sweep name) := by
  cases name with
  | capture =>
    show Stamped _ (if _ then _ else _)
    split
    · exact seen_stamped .capture
    · exact withActivity_stamped (seen_stamped .capture) _
  | wled => exact seen_stamped .wled
  | hyperhdr => exact seen_stamped .hyperhdr
  | raspberryPi => exact seen_stamped .raspberryPi

/-- The sweep reports the fixed components in their order. -/
theorem settled_names (reading : Reading) (settings : CollectorSettings) (sweep : Sweep) :
    ((componentOrder.map (settled reading settings sweep)).map (·.name)) =
    componentOrder.map ComponentName.value := by
  rw [List.map_map]
  exact List.map_congr_left fun name _ => settled_name name

/-- The report of a sweep after some others, and what is remembered after it. -/
theorem serveSweep_eq (reading : Reading) (settings : CollectorSettings)
    (d : Dict String String) (sweep : Sweep) :
    (serveSweep reading settings d sweep).1.components =
        componentOrder.map (fun name => remembered d (settled reading settings sweep name)) ∧
      (∀ name : ComponentName, (serveSweep reading settings d sweep).2.get? name.value =
        (settled reading settings sweep name).lastSuccessfulAt.or (d.get? name.value)) ∧
      ∀ k, k ∉ componentOrder.map ComponentName.value →
        (serveSweep reading settings d sweep).2.get? k = d.get? k := by
  have hdistinct : ((componentOrder.map (settled reading settings sweep)).map (·.name)).Nodup := by
    rw [settled_names reading settings sweep]
    decide
  obtain ⟨hcomponents, hseen, hothers⟩ :=
    rememberAll_eq (componentOrder.map (settled reading settings sweep)) d hdistinct
  have hreport : serveSweep reading settings d sweep =
      ({ status := statusOf (rememberAll d (componentOrder.map (settled reading settings sweep))).1
         checkedAt := sweep.checkedAt
         serviceUptimeSeconds := sweep.serviceUptimeSeconds
         components := (rememberAll d (componentOrder.map (settled reading settings sweep))).1 },
        (rememberAll d (componentOrder.map (settled reading settings sweep))).2) := by
    unfold serveSweep collectHealth
    rw [collectComponents_default]
  rw [hreport]
  refine ⟨?_, fun name => ?_, fun k hk => ?_⟩
  · rw [hcomponents, List.map_map]
    rfl
  · have hmem : settled reading settings sweep name ∈
        componentOrder.map (settled reading settings sweep) := by
      refine List.mem_map_of_mem ?_
      cases name <;> decide
    have hget := hseen _ hmem
    rwa [settled_name name] at hget
  · rw [← settled_names reading settings sweep] at hk
    exact hothers k hk

/-- Every time that is remembered can be read. -/
def AllReadable (iso : String → Option Datetime) (d : Dict String String) : Prop :=
  ∀ k text, d.get? k = some text → Readable iso text

theorem remembered_last {c : ObservedHealth} (hd : AllReadable iso d)
    (hown : ∀ text, c.lastSuccessfulAt = some text → Readable iso text) {text : String}
    (h : c.lastSuccessfulAt.or (d.get? c.name) = some text) : Readable iso text := by
  rcases Option.or_eq_some_iff.mp h with hlast | ⟨-, hprevious⟩
  · exact hown text hlast
  · exact hd _ text hprevious

theorem settled_readable (htimely : Timely iso sweep) (name : ComponentName) {text : String}
    (h : (settled reading settings sweep name).lastSuccessfulAt = some text) :
    Readable iso text := by
  rw [(settled_stamped name).lastSuccessfulAt text h]
  exact htimely.stamps name

/-- The report of a timely sweep is in range. -/
theorem serveSweep_reports (htimely : Timely iso sweep) (hd : AllReadable iso d) :
    (serveSweep reading settings d sweep).1.Reports iso
      fun name => remembered d (settled reading settings sweep name) where
  listed := (serveSweep_eq reading settings d sweep).1
  names := settled_name
  timed name := by
    have hstamped : Stamped (sweep.stamp name) (settled reading settings sweep name) :=
      settled_stamped name
    refine ⟨?_, ?_, fun text h => ?_⟩
    · show Readable iso (settled reading settings sweep name).checkedAt
      rw [hstamped.checkedAt]
      exact htimely.stamps name
    · show ∃ n, roundedMilliseconds (some (.float (settled reading settings sweep name).latencyMs))
        maxComponentLatencyMs = .ok n
      rw [hstamped.latencyMs]
      exact htimely.latencies name
    · exact remembered_last hd (fun text h => settled_readable htimely name h) h
  status := rfl
  checkedAt := htimely.checkedAt
  uptime := htimely.uptime

/-- A timely sweep leaves what is remembered readable. -/
theorem serveSweep_readable (htimely : Timely iso sweep) (hd : AllReadable iso d) :
    AllReadable iso (serveSweep reading settings d sweep).2 := by
  intro k text h
  obtain ⟨-, hseen, hothers⟩ := serveSweep_eq reading settings d sweep
  by_cases hk : k ∈ componentOrder.map ComponentName.value
  · obtain ⟨name, -, rfl⟩ := List.mem_map.mp hk
    rw [hseen name] at h
    rcases Option.or_eq_some_iff.mp h with hlast | ⟨-, hprevious⟩
    · exact settled_readable htimely name hlast
    · exact hd _ text hprevious
  · rw [hothers k hk] at h
    exact hd k text h

/-! ## Runs -/

variable (reading settings iso)

/-- The history projects the report of a sweep with its own statuses when every component has told,
and refuses it for its reasons otherwise. -/
def Projects (sweep : Sweep) (report : ObservedReport) : Prop :=
  ∀ (sequence : Int) (recordedAt : Datetime) (kind : SampleKind) (missed : Int),
    InRange sequence recordedAt missed →
    (Tells reading settings sweep ∧
      ∃ p, projectHealthReport iso report.record sequence recordedAt kind missed = .ok p ∧
        p.overallStatus = report.status ∧
        p.components.map (fun c => (c.component, c.status)) =
          componentOrder.map fun name => (name, (settled reading settings sweep name).status)) ∨
    ¬Tells reading settings sweep ∧
      projectHealthReport iso report.record sequence recordedAt kind missed =
        .error (.rejection .reasonRejected)

variable {reading settings iso}

theorem serveSweep_projects (htimely : Timely iso sweep) (hd : AllReadable iso d) :
    Projects reading settings iso sweep (serveSweep reading settings d sweep).1 := by
  intro sequence recordedAt kind missed hrange
  have htells : (∀ name, Accepted name (remembered d (settled reading settings sweep name)).status
      (remembered d (settled reading settings sweep name)).details) ↔
      Tells reading settings sweep := forall_congr' fun name => settled_accepted_iff name
  rw [← htells]
  exact (serveSweep_reports htimely hd).projected kind hrange

theorem serveSweeps_projects (sweeps : List Sweep) : ∀ d : Dict String String, AllReadable iso d →
    (∀ sweep ∈ sweeps, Timely iso sweep) →
    List.Forall₂ (Projects reading settings iso) sweeps (serveSweeps reading settings d sweeps) := by
  induction sweeps with
  | nil => exact fun _ _ _ => .nil
  | cons sweep rest ih =>
    intro d hd htimely
    have hsweep := htimely sweep (.head _)
    exact .cons (serveSweep_projects hsweep hd)
      (ih _ (serveSweep_readable hsweep hd) fun s hs => htimely s (.tail _ hs))

/-- Whatever the devices answer in any sequence of sweeps, the history loses exactly the reports in
which a device has not told. -/
theorem served_reports_projected (reading : Reading) (settings : CollectorSettings)
    (iso : String → Option Datetime) (sweeps : List Sweep)
    (htimely : ∀ sweep ∈ sweeps, Timely iso sweep) :
    List.Forall₂ (Projects reading settings iso) sweeps
      (serveSweeps reading settings .empty sweeps) :=
  serveSweeps_projects sweeps .empty (fun _ _ h => by cases h) htimely

/-! ### A sweep in which the network is down -/

/-- Everything is configured, -/
def downSettings : CollectorSettings where
  wled := ⟨true, some "wled.local", none, 2, none⟩
  expectedActiveLedCount := none
  expectedSkippedLeds := none
  zones := []
  hyperhdr := ⟨true, some "hyperhdr.local", none, 2⟩
  captureDevice := ⟨false, none⟩
  cpuTemperatureWarningC := 80
  memoryWarningPercent := 90
  storageWarningPercent := 90

/-- no text can be read, -/
def downReading : Reading where
  loads := fun _ => .error .jsonDecodeError
  upper := id
  rounded := id

/-- and no device answers. -/
def downSweep : Sweep where
  devices := {
    fetchInfo := fun _ _ _ => .error (.transport .timeout)
    fetchState := fun _ _ _ => .error (.transport .timeout)
    fetchServerInfo := fun _ _ _ => .error (.transport .timeout)
    capture := ⟨fun _ => .error .notFound, fun _ => .error .notFound, fun _ => .error .notFound,
      fun _ => .error .notFound, fun _ => false⟩
    platform := "linux"
    host := ⟨none, none, none, none, none, some 4⟩ }
  raises _ := false
  stamp _ := ⟨"2026-01-01T00:00:00+00:00", .finite 2000⟩
  checkedAt := "2026-01-01T00:00:00+00:00"
  serviceUptimeSeconds := .finite 0

/-- The one time of that sweep. -/
def downTime (text : String) : Option Datetime :=
  if text = "2026-01-01T00:00:00+00:00" then some (.aware (some 1767225600000000)) else none

/-- The same sweep, but the host of the WLED device cannot be encoded. -/
def unencodedSweep : Sweep where
  devices := { downSweep.devices with
    fetchInfo := fun _ _ _ => .error (.valueError "label empty or too long") }
  raises := downSweep.raises
  stamp := downSweep.stamp
  checkedAt := downSweep.checkedAt
  serviceUptimeSeconds := downSweep.serviceUptimeSeconds

theorem downSweep_timely : Timely downTime downSweep := by
  have htime : Readable downTime "2026-01-01T00:00:00+00:00" :=
    ⟨1767225600000000, toOption_eq_some.mp (by decide +kernel)⟩
  exact {
    checkedAt := htime
    uptime := ⟨0, toOption_eq_some.mp (by decide +kernel)⟩
    stamps := fun _ => htime
    latencies := fun _ => ⟨2000, toOption_eq_some.mp
      (show (roundedMilliseconds (some (.float (.finite 2000))) maxComponentLatencyMs).toOption = _
        from by decide +kernel)⟩ }

theorem unencodedSweep_timely : Timely downTime unencodedSweep where
  checkedAt := downSweep_timely.checkedAt
  uptime := downSweep_timely.uptime
  stamps := downSweep_timely.stamps
  latencies := downSweep_timely.latencies

theorem downSweep_tells : Tells downReading downSettings downSweep := by
  intro name
  cases name with
  | wled =>
    refine .inr fun _ => ⟨not_unexplained_transport _, not_unexplained_transport _, fun h => ?_⟩
    have htimeout : (validateWled downReading.loads downSettings.wled downSettings.zones
        downSweep.devices.fetchInfo none).reasonCode = "timeout" := rfl
    rw [htimeout] at h
    exact absurd h (by decide)
  | hyperhdr => exact .inr fun _ => ⟨not_unexplained_transport _, fun _ h => by cases h⟩
  | capture => trivial
  | raspberryPi => trivial

/-- The text of that error is no reason. -/
theorem unencodedSweep_untold : ¬Tells downReading downSettings unencodedSweep := by
  intro htells
  rcases htells .wled with hraises | htold
  · cases hraises
  · refine (htold rfl).1 (.inr ⟨"label empty or too long", rfl, ?_⟩)
    decide

theorem down_reports_projected :
    Tells downReading downSettings downSweep ∧ ¬Tells downReading downSettings unencodedSweep ∧
    List.Forall₂ (Projects downReading downSettings downTime) [downSweep, unencodedSweep]
      (serveSweeps downReading downSettings .empty [downSweep, unencodedSweep]) := by
  refine ⟨downSweep_tells, unencodedSweep_untold, ?_⟩
  refine served_reports_projected downReading downSettings downTime [downSweep, unencodedSweep]
    fun sweep hsweep => ?_
  rcases List.mem_cons.mp hsweep with rfl | h
  · exact downSweep_timely
  · obtain rfl := List.mem_singleton.mp h
    exact unencodedSweep_timely

/-! ### The last success -/

variable (reading settings)

/-- The devices let a component be observed: a document could be read, the node is there, or a source
of the host could be read. -/
def answered (devices : Devices) : ComponentName → Bool
  | .wled => settings.wled.enabled &&
    ((parseFetched (infoFetched settings devices) (parseWledInfo reading.loads)).isOk ||
      (parseFetched (stateFetched settings devices) (parseWledState reading.loads)).isOk)
  | .hyperhdr => settings.hyperhdr.enabled &&
    (parseFetched (serverFetched settings devices)
      (parseHyperhdrServerInfo reading.loads reading.upper)).isOk
  | .capture => settings.captureDevice.enabled && devices.platform = "linux" &&
    (probeDevice devices.capture (settings.captureDevice.identifier.getD "")).toOption.any
      (·.deviceNodePresent)
  | .raspberryPi => !devices.host.isEmpty

/-- A component is observed successfully in a sweep. -/
def succeeded (sweep : Sweep) (name : ComponentName) : Bool :=
  !sweep.raises name && answered reading settings sweep.devices name

/-- The time at which a component was checked in the newest of some sweeps. -/
def newestCheck (sweeps : List Sweep) (name : ComponentName) : Option String :=
  sweeps.getLast?.map fun sweep => (sweep.stamp name).checkedAt

/-- The time at which it was checked in the newest one in which that succeeded. -/
def lastSuccess (sweeps : List Sweep) (name : ComponentName) : Option String :=
  newestCheck (sweeps.filter fun sweep => succeeded reading settings sweep name) name

variable {reading settings}

/-- The newest check, the oldest sweep apart. -/
theorem newestCheck_cons (sweep : Sweep) (rest : List Sweep) (name : ComponentName) :
    newestCheck (sweep :: rest) name =
      (newestCheck rest name).or (some (sweep.stamp name).checkedAt) := by
  unfold newestCheck
  rw [List.getLast?_cons]
  cases rest.getLast? <;> rfl

/-- A collector that answers stamps its component, another one does not. -/
theorem collectWled_last (devices : Devices) (stamp : Stamp) :
    (collectWled reading.loads settings devices stamp).lastSuccessfulAt =
      if answered reading settings devices .wled then some stamp.checkedAt else none := by
  unfold answered collectWled
  cases henabled : settings.wled.enabled with
  | false => rfl
  | true =>
    have hinfo : (decide ((validateWled reading.loads settings.wled settings.zones devices.fetchInfo
        none).state = .healthy) || decide ((validateWled reading.loads settings.wled settings.zones
          devices.fetchInfo none).state = .degraded)) =
        (parseFetched (infoFetched settings devices) (parseWledInfo reading.loads)).isOk := by
      unfold validateWled infoFetched
      rw [if_pos henabled, Option.getD_none]
      split
      case h_1 hparsed => rw [hparsed]; rfl
      case h_2 hparsed => rw [hparsed]; rfl
      case h_3 info hparsed =>
        rw [hparsed]
        dsimp only
        split <;> rfl
    have hstate : (fetchWledState reading.loads settings.wled devices.fetchState).1.isSome =
        (parseFetched (stateFetched settings devices) (parseWledState reading.loads)).isOk := by
      unfold fetchWledState stateFetched
      split
      case h_1 hparsed => rw [hparsed]; rfl
      case h_2 hparsed => rw [hparsed]; rfl
      case h_3 hparsed => rw [hparsed]; rfl
    rw [← hinfo, ← hstate]
    rfl

/-- The last success of HyperHDR is this sweep's if the device answered. -/
theorem collectHyperhdr_last (devices : Devices) (stamp : Stamp) :
    (collectHyperhdr reading.loads reading.upper settings devices stamp).lastSuccessfulAt =
      if answered reading settings devices .hyperhdr then some stamp.checkedAt else none := by
  unfold answered serverFetched collectHyperhdr validateHyperhdr
  cases henabled : settings.hyperhdr.enabled with
  | false => rfl
  | true =>
    rw [if_pos rfl, Option.getD_none]
    cases parseFetched (devices.fetchServerInfo (hostOrEmpty settings.hyperhdr.host)
        (portOr 8090 settings.hyperhdr.port) settings.hyperhdr.validationTimeoutSeconds)
        (parseHyperhdrServerInfo reading.loads reading.upper) with
    | error e => cases e <;> rfl
    | ok info =>
      dsimp only
      split <;> rfl

/-- A device that was validated is there. -/
theorem validateCaptureDevice_present {settings : Modes.CaptureDeviceSettings} {platform : String}
    {calls : DeviceCalls}
    (h : (validateCaptureDevice settings platform (probeDevice calls)).state = .healthy) :
    (validateCaptureDevice settings platform (probeDevice calls)).deviceNodePresent = true := by
  have hvalidated := (validateCaptureDevice_healthy_iff settings platform (probeDevice calls)).mp h
  unfold validateCaptureDevice at hvalidated ⊢
  split at hvalidated
  case isTrue => exact absurd hvalidated (by decide)
  case isFalse henabled =>
    rw [if_neg henabled]
    split at hvalidated
    case isTrue => exact absurd hvalidated (by decide)
    case isFalse hplatform =>
      rw [if_neg hplatform]
      dsimp only [captureDeviceReport] at hvalidated ⊢
      split at hvalidated
      case h_1 result hprobe =>
        -- the ladder of checks starts with the node
        have hrung := probeDevice_rung hprobe
        have hread := hrung.validated.mp hvalidated
        exact hrung.character (hrung.registered (hrung.named (hrung.readable hread)))
      case h_2 => exact absurd hvalidated (by decide)

/-- The last success of the capture is this sweep's if the device answered. -/
theorem collectCapture_last (devices : Devices) (stamp : Stamp) :
    (collectCapture settings devices stamp).lastSuccessfulAt =
      if answered reading settings devices .capture then some stamp.checkedAt else none := by
  have hpresent : (validateCaptureDevice settings.captureDevice devices.platform
      (probeDevice devices.capture)).deviceNodePresent =
        answered reading settings devices .capture := by
    unfold answered validateCaptureDevice
    cases settings.captureDevice.enabled with
    | false => rfl
    | true =>
      by_cases hplatform : devices.platform = "linux"
      case neg => simp [hplatform, captureDeviceReport]
      case pos =>
        cases probeDevice devices.capture (settings.captureDevice.identifier.getD "") <;>
          simp [hplatform, captureDeviceReport, Except.toOption]
  rw [← hpresent]
  unfold collectCapture
  dsimp only
  split
  case isTrue hstate =>
    rw [validateCaptureDevice_present hstate]
    rfl
  case isFalse => rfl

/-- The last success of every component is this sweep's exactly if its device answered. -/
theorem observe_last (sweep : Sweep) (name : ComponentName) :
    (observe reading settings sweep name).lastSuccessfulAt =
      if answered reading settings sweep.devices name then some (sweep.stamp name).checkedAt
      else none := by
  cases name with
  | wled => exact collectWled_last sweep.devices _
  | hyperhdr => exact collectHyperhdr_last sweep.devices _
  | capture => exact collectCapture_last sweep.devices _
  | raspberryPi => rfl

/-- A component of a sweep gives its check time when it was observed, and nothing otherwise. -/
theorem settled_last (sweep : Sweep) (name : ComponentName) :
    (settled reading settings sweep name).lastSuccessfulAt =
      if succeeded reading settings sweep name then some (sweep.stamp name).checkedAt else none := by
  have hseen : (seen reading settings sweep name).lastSuccessfulAt =
      if succeeded reading settings sweep name then some (sweep.stamp name).checkedAt
      else none := by
    unfold seen safeCollect succeeded
    cases sweep.raises name with
    | true => rfl
    | false => exact observe_last sweep name
  cases name with
  | capture =>
    show (if _ then _ else _ : ObservedHealth).lastSuccessfulAt = _
    split
    · exact hseen
    · exact (withActivity_lastSuccessfulAt _ _).trans hseen
  | wled => exact hseen
  | hyperhdr => exact hseen
  | raspberryPi => exact hseen

/-- The last success, the oldest sweep apart. -/
theorem lastSuccess_cons (sweep : Sweep) (rest : List Sweep) (name : ComponentName) :
    lastSuccess reading settings (sweep :: rest) name =
      (lastSuccess reading settings rest name).or
        (settled reading settings sweep name).lastSuccessfulAt := by
  unfold lastSuccess
  rw [settled_last]
  cases hsucceeded : succeeded reading settings sweep name with
  | true =>
    have hkept : (sweep :: rest).filter (succeeded reading settings · name) =
        sweep :: rest.filter (succeeded reading settings · name) :=
      List.filter_cons_of_pos (p := fun sweep => succeeded reading settings sweep name) hsucceeded
    rw [hkept, newestCheck_cons, if_pos rfl]
  | false =>
    have hdropped : (sweep :: rest).filter (succeeded reading settings · name) =
        rest.filter (succeeded reading settings · name) :=
      List.filter_cons_of_neg (p := fun sweep => succeeded reading settings sweep name)
        (by rw [hsucceeded]; exact Bool.false_ne_true)
    rw [hdropped, if_neg Bool.false_ne_true, Option.or_none]

/-- The reports show the check times of their own sweeps. -/
theorem serveSweeps_checks (sweeps : List Sweep) : ∀ d : Dict String String,
    (serveSweeps reading settings d sweeps).map
        (fun report => report.components.map fun c => (c.name, c.checkedAt)) =
      sweeps.map fun sweep => componentOrder.map fun name =>
        (name.value, (sweep.stamp name).checkedAt) := by
  induction sweeps with
  | nil => exact fun _ => rfl
  | cons sweep rest ih =>
    intro d
    obtain ⟨hcomponents, -, -⟩ := serveSweep_eq reading settings d sweep
    refine congrArg₂ List.cons ?_ (ih _)
    show (serveSweep reading settings d sweep).1.components.map _ = _
    rw [hcomponents, List.map_map]
    refine List.map_congr_left fun name _ => ?_
    show ((settled reading settings sweep name).name,
      (settled reading settings sweep name).checkedAt) = _
    rw [settled_name, (settled_stamped name).checkedAt]

/-- The reports show the last success up to their own sweep. -/
theorem serveSweeps_last (sweeps : List Sweep) : ∀ d : Dict String String,
    (serveSweeps reading settings d sweeps).map
        (fun report => report.components.map fun c => (c.name, c.lastSuccessfulAt)) =
      sweeps.inits.tail.map fun past => componentOrder.map fun name =>
        (name.value, (lastSuccess reading settings past name).or (d.get? name.value)) := by
  induction sweeps with
  | nil => exact fun _ => rfl
  | cons sweep rest ih =>
    intro d
    obtain ⟨hcomponents, hseen, -⟩ := serveSweep_eq reading settings d sweep
    have hinits : (sweep :: rest).inits.tail = [sweep] :: rest.inits.tail.map (sweep :: ·) := by
      cases rest <;> rfl
    rw [hinits, List.map_cons, List.map_map]
    refine congrArg₂ List.cons ?_ ?_
    · -- the first report has nothing before it
      show (serveSweep reading settings d sweep).1.components.map _ = _
      rw [hcomponents, List.map_map]
      refine List.map_congr_left fun name _ => ?_
      rw [lastSuccess_cons]
      show ((settled reading settings sweep name).name,
        (settled reading settings sweep name).lastSuccessfulAt.or
          (d.get? (settled reading settings sweep name).name)) =
        (name.value, (settled reading settings sweep name).lastSuccessfulAt.or (d.get? name.value))
      rw [settled_name]
    · rw [ih]
      refine List.map_congr_left fun past _ => ?_
      show componentOrder.map _ = componentOrder.map fun name =>
        (name.value, (lastSuccess reading settings (sweep :: past) name).or (d.get? name.value))
      refine List.map_congr_left fun name _ => ?_
      show (name.value, (lastSuccess reading settings past name).or
        ((serveSweep reading settings d sweep).2.get? name.value)) = _
      rw [hseen name, lastSuccess_cons, Option.or_assoc]

/-- Each report gives the check time of every component, and as the time of its last success the
check time of the newest sweep so far in which its collector did not fail and the device answered:
what the capture device is corrected by does not matter. -/
theorem served_last_success (reading : Reading) (settings : CollectorSettings)
    (sweeps : List Sweep) :
    (serveSweeps reading settings .empty sweeps).map
        (fun report => report.components.map fun c => (c.name, c.checkedAt)) =
      (sweeps.map fun sweep => componentOrder.map fun name =>
        (name.value, (sweep.stamp name).checkedAt)) ∧
    (serveSweeps reading settings .empty sweeps).map
        (fun report => report.components.map fun c => (c.name, c.lastSuccessfulAt)) =
      sweeps.inits.tail.map fun past => componentOrder.map fun name =>
        (name.value, lastSuccess reading settings past name) := by
  refine ⟨serveSweeps_checks sweeps .empty, ?_⟩
  rw [serveSweeps_last sweeps .empty]
  refine List.map_congr_left fun past _ => List.map_congr_left fun name _ => ?_
  rw [Dict.get?_empty, Option.or_none]

end Runs

end Aurora.Dashboard
