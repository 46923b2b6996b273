/-
  Two calls of the reason normalizer.

  A collector's details carry device names, firmware texts, currents and temperatures beside the
  few fields the reasons are decided by.  `Contributing` names those fields component by
  component, and `normalize_eq` is the two-run statement: calls that agree on them have one
  result, whatever else the two dictionaries hold and in whatever order they hold it.

  1. **Call** — all five arguments as objects; the dictionary has unique keys by construction.
  2. **Reads** — a key test depends on the set of keys alone, and a test of every value is a test
     of every key.
  3. **Components** — one lemma each, with the branch on the shape first.
-/
import Aurora.HealthHistory.Reasons

namespace Aurora.HealthHistory

/-! ## Calls -/

/-- What is passed as details. -/
inductive DetailsArgument
  /-- A mapping whose keys are texts. -/
  | mapping (details : Details) (unique : details.keys.Nodup)
  /-- No mapping, or one with a key that is no text. -/
  | foreign

/-- The arguments of one call, each of which may be any object. -/
structure NormalizeCall where
  schemaVersion : DetailValue
  component : DetailValue
  status : DetailValue
  details : DetailsArgument
  message : DetailValue

namespace NormalizeCall

/-- The result of the call: the checks of the objects' types around the normalizer of typed
    arguments, in the order in which they are made. -/
def normalize (call : NormalizeCall) : Except String ReasonResult :=
  match call.schemaVersion with
  | .int schemaVersion =>
    if schemaVersion ≠ 1 then Reasons.rejected .unknownSchema
    else
      match call.component with
      | .str component =>
        if component ∉ ["wled", "hyperhdr", "capture", "raspberry_pi"] then
          Reasons.rejected .unknownComponent
        else
          match call.status with
          | .str status =>
            if status ∉ Reasons.statuses then Reasons.rejected .unknownStatus
            else
              match call.details with
              | .mapping details _ =>
                normalizeComponentReason schemaVersion component status details
              | .foreign => Reasons.rejected .unknownDetails
          | _ => Reasons.rejected .unknownStatus
      | _ => Reasons.rejected .unknownComponent
  | _ => Reasons.rejected .unknownSchema

end NormalizeCall

/-! ## Agreement -/

namespace DetailValue

/-- The value is null or a number that is no Boolean. -/
def isNumberOrNull (v : DetailValue) : Bool := v.isNone || v.isNumber

end DetailValue

namespace Details

/-- The dictionaries have the same keys, in any order. -/
def SameKeys (a b : Details) : Prop := ∀ key, key ∈ a.keys ↔ key ∈ b.keys

/-- The dictionaries hold the same value under a key. -/
def AgreeAt (a b : Details) (keys : List String) : Prop := ∀ key ∈ keys, a.get key = b.get key

end Details

/-- The fields that decide the reasons of a component, and nothing else. -/
structure Contributing (component : DetailValue) (a b : Details) : Prop where
  /-- The reason code, which the shape of a failed or disabled collector has for itself. -/
  reasonCode : a.AgreeAt b ["reason_code"]
  wled : component = .str "wled" → a.AgreeAt b ["info_reason_code", "state_reason_code"]
  hyperhdr : component = .str "hyperhdr" → a.AgreeAt b Reasons.hyperhdrDetailKeys
  capture : component = .str "capture" → a.AgreeAt b Reasons.captureActivityKeys
  raspberryPi : component = .str "raspberry_pi" →
    ∀ key, (a.get key).isNumberOrNull = (b.get key).isNumberOrNull

/-- Both arguments are rejected for their type, or both are mappings with the same keys that
    agree on the contributing fields. -/
inductive DetailsArgument.Agree (component : DetailValue) :
    DetailsArgument → DetailsArgument → Prop
  | foreign : Agree component .foreign .foreign
  | mapping {a b : Details} {ha : a.keys.Nodup} {hb : b.keys.Nodup} (keys : a.SameKeys b)
      (contributing : Contributing component a b) : Agree component (.mapping a ha) (.mapping b hb)

/-! ## Reads -/

namespace Details

theorem any_congr_of_mem {α : Type} {items : List α} {p q : α → Bool}
    (h : ∀ x ∈ items, p x = q x) : items.any p = items.any q := by
  induction items with
  | nil => rfl
  | cons x rest ih =>
    rw [List.any_cons, List.any_cons, h x List.mem_cons_self,
      ih fun y hy => h y (List.mem_cons_of_mem _ hy)]

theorem all_congr_of_mem {α : Type} {items : List α} {p q : α → Bool}
    (h : ∀ x ∈ items, p x = q x) : items.all p = items.all q := by
  rw [List.all_eq_not_any_not, List.all_eq_not_any_not,
    any_congr_of_mem fun x hx => congrArg not (h x hx)]

variable {a b : Details}

/-- The check of the keys sees the keys alone. -/
theorem SameKeys.hasKeys (h : a.SameKeys b) (expected : List String) :
    a.hasKeys expected = b.hasKeys expected := by
  unfold Details.hasKeys
  rw [Bool.eq_iff_iff, Bool.and_eq_true, Bool.and_eq_true]
  simp only [List.all_eq_true, decide_eq_true_eq]
  constructor
  · rintro ⟨hsub, hall⟩
    exact ⟨fun key hkey => hsub key ((h key).mpr hkey), fun key hkey => (h key).mp (hall key hkey)⟩
  · rintro ⟨hsub, hall⟩
    exact ⟨fun key hkey => hsub key ((h key).mp hkey), fun key hkey => (h key).mpr (hall key hkey)⟩

/-- Where details agree they are looked up the same. -/
theorem AgreeAt.get {keys : List String} (h : a.AgreeAt b keys) (key : String)
    (hkey : key ∈ keys := by decide) : a.get key = b.get key :=
  h key hkey

/-- With unique keys an entry is what a lookup of its key finds. -/
theorem get_of_mem (hunique : a.keys.Nodup) {key : String} {value : DetailValue}
    (h : (key, value) ∈ a) : a.get key = value := by
  induction a with
  | nil => exact absurd h List.not_mem_nil
  | cons item rest ih =>
    obtain ⟨first, found⟩ := item
    have hnodup := List.nodup_cons.mp hunique
    unfold Details.get
    rcases List.mem_cons.mp h with heq | hrest
    · obtain ⟨rfl, rfl⟩ := Prod.mk.inj heq
      rw [List.lookup_cons_self]
      rfl
    · have hne : key ≠ first := by
        rintro rfl
        exact hnodup.1 (List.mem_map.mpr ⟨_, hrest, rfl⟩)
      rw [List.lookup_cons, beq_false_of_ne hne]
      exact ih hnodup.2 hrest

/-- A test of the values is a test of what stands under the keys. -/
theorem any_values (hunique : a.keys.Nodup) (p : DetailValue → Bool) :
    (a.any fun item => p item.2) = a.keys.any fun key => p (a.get key) := by
  rw [Bool.eq_iff_iff, List.any_eq_true, List.any_eq_true]
  constructor
  · rintro ⟨⟨key, value⟩, hmem, hp⟩
    refine ⟨key, List.mem_map.mpr ⟨_, hmem, rfl⟩, ?_⟩
    rw [get_of_mem hunique hmem]
    exact hp
  · rintro ⟨key, hkey, hp⟩
    obtain ⟨⟨_, value⟩, hmem, rfl⟩ := List.mem_map.mp hkey
    rw [get_of_mem hunique hmem] at hp
    exact ⟨_, hmem, hp⟩

/-- A test of all values, if the lookups pass it alike. -/
theorem any_values_congr (ha : a.keys.Nodup) (hb : b.keys.Nodup) (hkeys : a.SameKeys b)
    {p : DetailValue → Bool} (hp : ∀ key, p (a.get key) = p (b.get key)) :
    (a.any fun item => p item.2) = b.any fun item => p item.2 := by
  rw [any_values ha, any_values hb, Bool.eq_iff_iff, List.any_eq_true, List.any_eq_true]
  constructor
  · rintro ⟨key, hkey, h⟩
    exact ⟨key, (hkeys key).mp hkey, hp key ▸ h⟩
  · rintro ⟨key, hkey, h⟩
    exact ⟨key, (hkeys key).mpr hkey, (hp key).symm ▸ h⟩

/-- Whether the collector failed is a matter of the reason code. -/
theorem SameKeys.isCollectorFailed (h : a.SameKeys b) (hreason : a.AgreeAt b ["reason_code"]) :
    a.isCollectorFailed = b.isCollectorFailed := by
  unfold Details.isCollectorFailed
  rw [h.hasKeys, hreason.get "reason_code"]

end Details

/-! ## Components -/

namespace Reasons

open Details

variable {a b : Details} {status : String}

/-- The WLED branch sees three of the values. -/
theorem normalizeWled_congr (hkeys : a.SameKeys b) (hreason : a.AgreeAt b ["reason_code"])
    (hcodes : a.AgreeAt b ["info_reason_code", "state_reason_code"]) :
    normalizeWled status a = normalizeWled status b := by
  have hfixed : fixedWledReason status a = fixedWledReason status b := by
    unfold fixedWledReason
    rw [hkeys.hasKeys, hreason.get "reason_code"]
  unfold normalizeWled
  rw [hfixed, hkeys.hasKeys, hcodes.get "info_reason_code",
    hcodes.get "state_reason_code"]

/-- The HyperHDR branch sees the listed values. -/
theorem normalizeHyperhdr_congr (hkeys : a.SameKeys b) (h : a.AgreeAt b hyperhdrDetailKeys) :
    normalizeHyperhdr status a = normalizeHyperhdr status b := by
  have hreason : a.AgreeAt b ["reason_code"] := by
    rintro key hkey
    obtain rfl := List.mem_singleton.mp hkey
    exact h.get "reason_code"
  have hflags : ∀ key ∈ hyperhdrFlagKeys, a.get key = b.get key := fun key hkey =>
    h key (List.mem_cons_of_mem _ (List.mem_cons_of_mem _ hkey))
  have hstates : ∀ state ∈ hyperhdrStates, a.get state.1 = b.get state.1 := fun state hstate =>
    hflags state.1 (List.mem_cons_of_mem _ (List.mem_map_of_mem (f := Prod.fst) hstate))
  -- every read below is under one of these keys, so each test of the four flags is the same
  have hvalues : (hyperhdrFlagKeys.any fun k => !(a.get k).isNone && !(a.get k).isFlag) =
      hyperhdrFlagKeys.any fun k => !(b.get k).isNone && !(b.get k).isFlag :=
    any_congr_of_mem fun k hk => by rw [hflags k hk]
  have hempty : (hyperhdrFlagKeys.all fun k => (a.get k).isNone) =
      hyperhdrFlagKeys.all fun k => (b.get k).isNone :=
    all_congr_of_mem fun k hk => by rw [hflags k hk]
  have hreported : (hyperhdrStates.any fun s => !(a.get s.1).isFlag) =
      hyperhdrStates.any fun s => !(b.get s.1).isFlag :=
    any_congr_of_mem fun s hs => by rw [hstates s hs]
  have hinactive : (hyperhdrStates.filter fun s => (a.get s.1).isBool false) =
      hyperhdrStates.filter fun s => (b.get s.1).isBool false :=
    List.filter_congr fun s hs => by rw [hstates s hs]
  unfold normalizeHyperhdr
  rw [hkeys.isCollectorFailed hreason, hkeys.hasKeys, h.get "reason_code",
    h.get "server_info_received", hvalues, hempty, hreported, hinactive]

/-- The activity is a matter of its own keys. -/
theorem captureActivity_congr (hkeys : a.SameKeys b) (h : a.AgreeAt b captureActivityKeys) :
    captureActivity a = captureActivity b := by
  unfold captureActivity
  rw [hkeys.hasKeys, hkeys.hasKeys, h.get "activity_source", h.get "grabber_active"]

/-- The capture branch sees the reason code and the activity. -/
theorem normalizeCapture_congr (hkeys : a.SameKeys b) (hreason : a.AgreeAt b ["reason_code"])
    (hactivity : a.AgreeAt b captureActivityKeys) :
    normalizeCapture status a = normalizeCapture status b := by
  unfold normalizeCapture
  rw [hkeys.isCollectorFailed hreason, captureActivity_congr hkeys hactivity,
    hreason.get "reason_code"]

/-- The Pi branch sees which values are numbers. -/
theorem normalizePi_congr (ha : a.keys.Nodup) (hb : b.keys.Nodup) (hkeys : a.SameKeys b)
    (hreason : a.AgreeAt b ["reason_code"])
    (hnumbers : ∀ key, (a.get key).isNumberOrNull = (b.get key).isNumberOrNull) :
    normalizePi status a = normalizePi status b := by
  have hvalues : (a.any fun item => !item.2.isNone && !item.2.isNumber) =
      b.any fun item => !item.2.isNone && !item.2.isNumber := by
    refine any_values_congr (p := fun v => !v.isNone && !v.isNumber) ha hb hkeys fun key => ?_
    have h := congrArg not (hnumbers key)
    unfold DetailValue.isNumberOrNull at h
    rwa [Bool.not_or, Bool.not_or] at h
  unfold normalizePi
  rw [hkeys.isCollectorFailed hreason, hkeys.hasKeys, hvalues]

end Reasons

/-! ## Two calls -/

/-- Typed arguments: the component decides which lemma the agreement is for. -/
theorem normalizeComponentReason_congr {schemaVersion : Int} {component status : String}
    {a b : Details} (ha : a.keys.Nodup) (hb : b.keys.Nodup) (hkeys : a.SameKeys b)
    (h : Contributing (.str component) a b) :
    normalizeComponentReason schemaVersion component status a =
      normalizeComponentReason schemaVersion component status b := by
  unfold normalizeComponentReason
  split
  · rfl
  split
  · rfl
  rename_i hknown
  split
  · rfl
  by_cases hwled : component = "wled"
  · rw [if_pos hwled, if_pos hwled]
    exact Reasons.normalizeWled_congr hkeys h.reasonCode (h.wled (congrArg _ hwled))
  rw [if_neg hwled, if_neg hwled]
  by_cases hhyperhdr : component = "hyperhdr"
  · rw [if_pos hhyperhdr, if_pos hhyperhdr]
    exact Reasons.normalizeHyperhdr_congr hkeys (h.hyperhdr (congrArg _ hhyperhdr))
  rw [if_neg hhyperhdr, if_neg hhyperhdr]
  by_cases hcapture : component = "capture"
  · rw [if_pos hcapture, if_pos hcapture]
    exact Reasons.normalizeCapture_congr hkeys h.reasonCode (h.capture (congrArg _ hcapture))
  rw [if_neg hcapture, if_neg hcapture]
  -- the three other names are excluded, so this is the Raspberry Pi
  have hpi : component = "raspberry_pi" := by
    simpa [hwled, hhyperhdr, hcapture] using not_not.mp hknown
  exact Reasons.normalizePi_congr ha hb hkeys h.reasonCode (h.raspberryPi (congrArg _ hpi))

namespace NormalizeCall

/-- The calls agree on everything that may decide their result. -/
structure Agree (c d : NormalizeCall) : Prop where
  schemaVersion : c.schemaVersion = d.schemaVersion
  component : c.component = d.component
  status : c.status = d.status
  details : c.details.Agree c.component d.details

theorem normalize_congr {c d : NormalizeCall} (h : c.Agree d) : c.normalize = d.normalize := by
  obtain ⟨schemaVersion, component, status, details, message⟩ := c
  obtain ⟨_, _, _, details', message'⟩ := d
  obtain ⟨rfl, rfl, rfl, hdetails⟩ := h
  unfold normalize
  dsimp only at hdetails ⊢
  split
  · split
    · rfl
    split
    · split
      · rfl
      split
      · split
        · rfl
        cases hdetails with
        | foreign => rfl
        | mapping hkeys hcontributing =>
          exact normalizeComponentReason_congr ‹_› ‹_› hkeys hcontributing
      · rfl
    · rfl
  · rfl

/-- The texts the two checks let through are the names of the components and of the statuses. -/
theorem component_of_known {component : String}
    (h : component ∈ ["wled", "hyperhdr", "capture", "raspberry_pi"]) :
    ∃ c : ComponentName, component = c.value := by
  simp only [List.mem_cons, List.not_mem_nil, or_false] at h
  rcases h with rfl | rfl | rfl | rfl
  · exact ⟨.wled, rfl⟩
  · exact ⟨.hyperhdr, rfl⟩
  · exact ⟨.capture, rfl⟩
  · exact ⟨.raspberryPi, rfl⟩

/-- A known status text is that of a status. -/
theorem status_of_known {status : String} (h : status ∈ Reasons.statuses) :
    ∃ s : HealthHistoryStatus, status = s.value := by
  simp only [Reasons.statuses, List.mem_cons, List.not_mem_nil, or_false] at h
  rcases h with rfl | rfl | rfl
  · exact ⟨.healthy, rfl⟩
  · exact ⟨.degraded, rfl⟩
  · exact ⟨.unavailable, rfl⟩

/-- An accepted call names a component and a status, and its reasons fit them. -/
theorem of_accepted {call : NormalizeCall} {reasons : List NormalizedReason}
    (h : call.normalize = .ok (.accepted reasons)) :
    ∃ (component : ComponentName) (status : HealthHistoryStatus),
      call.component = .str component.value ∧ ReasonsFit component status reasons := by
  obtain ⟨schemaVersion, component, status, details, message⟩ := call
  unfold normalize at h
  dsimp only at h ⊢
  split at h
  · obtain ⟨hschema, h⟩ := Reasons.of_guard h
    split at h
    · obtain ⟨hcomponent, h⟩ := Reasons.of_guard h
      split at h
      · obtain ⟨hstatus, h⟩ := Reasons.of_guard h
        split at h
        · obtain ⟨c, rfl⟩ := component_of_known (not_not.mp hcomponent)
          obtain ⟨s, rfl⟩ := status_of_known (not_not.mp hstatus)
          obtain rfl := not_not.mp hschema
          exact ⟨c, s, rfl, normalizeComponentReason_accepted h⟩
        · exact absurd h Reasons.rejected_ne_accepted
      · exact absurd h Reasons.rejected_ne_accepted
    · exact absurd h Reasons.rejected_ne_accepted
  · exact absurd h Reasons.rejected_ne_accepted

end NormalizeCall

/-- Two calls that agree on the contributing fields have one result, and every reason of an
    accepted result is a member of the registry named for the call's component. -/
theorem normalize_noninterference {c d : NormalizeCall} (h : c.Agree d) :
    c.normalize = d.normalize ∧
      ∀ reasons, c.normalize = .ok (.accepted reasons) →
        ∃ component : ComponentName, c.component = .str component.value ∧
          ∀ r ∈ reasons, r ∈ NormalizedReason.registry ∧ r.ofComponent component = true := by
  refine ⟨NormalizeCall.normalize_congr h, fun reasons haccepted => ?_⟩
  obtain ⟨component, status, hcomponent, hfit⟩ := NormalizeCall.of_accepted haccepted
  exact ⟨component, hcomponent, fun r hr => ⟨r.mem_registry, hfit.ofComponent r hr⟩⟩

/-- The two reason codes of a WLED snapshot whose info request timed out. -/
def timedOutCodes : Details :=
  [("info_reason_code", .str "timeout"), ("state_reason_code", .str "validated")]

/-- The other details of a WLED snapshot. -/
def deviceDetails (firmware : String) (current : Int) : Details :=
  [("firmware_version", .str firmware), ("uptime_seconds", .int 5),
    ("reported_led_count", .none), ("expected_led_count", .int 60),
    ("expected_active_led_count", .int 60), ("expected_skipped_leds", .collection),
    ("led_count_matches", .none), ("estimated_current_milliamps", .int current),
    ("current_limit_milliamps", .int 850), ("brightness", .int 128), ("output_on", .bool true)]

/-- Two WLED snapshots in different order, with other firmware, currents and messages. -/
theorem normalize_noninterference_wled :
    let c : NormalizeCall :=
      ⟨.int 1, .str "wled", .str "degraded",
        .mapping (timedOutCodes ++ deviceDetails "0.14.0" 410) (by decide), .none⟩
    let d : NormalizeCall :=
      ⟨.int 1, .str "wled", .str "degraded",
        .mapping (deviceDetails "private build" 12 ++ timedOutCodes) (by decide),
        .str "desk lamp"⟩
    c.normalize = d.normalize ∧ c.normalize = .ok (.accepted [.wledInfoTimeout]) := by
  intro c d
  refine ⟨(normalize_noninterference (c := c) (d := d)
    ⟨rfl, rfl, rfl, .mapping ?_ ⟨?_, ?_, ?_, ?_, ?_⟩⟩).1, rfl⟩
  · intro key
    show key ∈ List.map Prod.fst _ ↔ key ∈ List.map Prod.fst _
    rw [List.map_append, List.map_append]
    exact List.perm_append_comm.mem_iff
  · rintro key hkey
    obtain rfl := List.mem_singleton.mp hkey
    rfl
  · rintro - key hkey
    rcases List.mem_pair.mp hkey with rfl | rfl <;> rfl
  · intro h
    exact absurd (DetailValue.str.inj h) (by decide)
  · intro h
    exact absurd (DetailValue.str.inj h) (by decide)
  · intro h
    exact absurd (DetailValue.str.inj h) (by decide)

/-- The one-key shape of a failed collector is decided by its reason code, for the Raspberry Pi
    as for the others: neither text is a number or null, yet one call is accepted. -/
theorem collector_failed_interferes :
    let details (code : String) : Details := [("reason_code", .str code)]
    let call (code : String) : NormalizeCall :=
      ⟨.int 1, .str "raspberry_pi", .str "unavailable",
        .mapping (details code) (List.nodup_singleton _), .none⟩
    (details "collector_failed").SameKeys (details "probe") ∧
      (∀ key ∈ (details "probe").keys,
        ((details "collector_failed").get key).isNumberOrNull = false ∧
          ((details "probe").get key).isNumberOrNull = false) ∧
      (call "collector_failed").normalize = .ok (.accepted [.raspberryPiCollectorFailed]) ∧
      (call "probe").normalize = .ok (.rejected .unknownDetails) := by
  refine ⟨fun _ => Iff.rfl, ?_, rfl, rfl⟩
  intro key hkey
  obtain rfl := List.mem_singleton.mp hkey
  exact ⟨rfl, rfl⟩

end Aurora.HealthHistory
