/-
  A store that serves without faults.

  `serve` answers every call of a scheduler from a world whose checks pass and whose statements
  succeed, at fixed readings of the clocks and with a fixed report.  It is a function, so a call can be
  run against it; what it answers is a step of the world (`serve_step`).
-/
import Aurora.HealthHistory.World
import Aurora.HealthHistory.Agreeing
import Aurora.HealthHistory.WriteSafety

namespace Aurora.HealthHistory

open Ingestion Program
open Script (Faults)

/-- Both checks pass. -/
def IdentityChecks.passed : IdentityChecks := ⟨true, true⟩

/-- A resume state that is read passes its constructor. -/
theorem resumeState_check {F : SqliteFaults} {database : Database} {state : SchedulerResumeState}
    (h : (Queries.getSchedulerResumeState F database).1 = .ok state) : state.check = .ok () := by
  obtain ⟨database', hrun⟩ := HealthHistoryStore.readTransaction_eq_ok h
  unfold Queries.readSchedulerResumeState at hrun
  obtain ⟨checkpoint, m, -, hrest⟩ := Script.run_bind_eq_ok.mp hrun
  obtain ⟨u, m', htrusted, hreturn⟩ := Script.run_bind_eq_ok.mp hrest
  obtain ⟨rfl, -⟩ := Prod.mk.inj (Except.ok.inj hreturn)
  cases hcheck : (Queries.resumeState checkpoint).check with
  | ok u => rfl
  | error text =>
    rw [hcheck] at htrusted
    cases htrusted

namespace HealthHistoryStore

theorem resumed_check {s : HealthHistoryStore} {checks : IdentityChecks} {F : SqliteFaults}
    {state : SchedulerResumeState} (h : (s.getSchedulerResumeState checks F).1 = .ok state) :
    state.check = .ok () := by
  cases hresult : s.getSchedulerResumeState checks F with
  | mk result store =>
    rw [hresult] at h
    obtain rfl : result = .ok state := h
    unfold getSchedulerResumeState readQuery at hresult
    exact resumeState_check (bracketed_eq_ok hresult).2

/-- The resume state of a store whose checks pass. -/
def resume (s : HealthHistoryStore) : Except ResumeFailure ResumeState :=
  match h : (s.getSchedulerResumeState .passed Faults.none).1 with
  | .error e => .error (resumeFailure e)
  | .ok state => .ok ⟨state, resumed_check h⟩

theorem resume_eq (s : HealthHistoryStore) : s.resume.map Subtype.val =
    (s.getSchedulerResumeState .passed Faults.none).1.mapError resumeFailure := by
  unfold resume
  split
  · rename_i e h
    rw [h]
    rfl
  · rename_i state h
    exact (congrArg (Except.mapError resumeFailure) h).symm

end HealthHistoryStore

namespace HistoryWorld

/-- Answer a call at the readings `now` and `recordedAt`, and with this report. -/
def serve (now : ℚ) (recordedAt : Int) (report : HealthReport) :
    HistoryWorld → (c : HistoryCall) → c.Answer × HistoryWorld
  | w, .acquire _ => (true, w)
  | w, .monotonic _ => (some now, w)
  | w, .utcNow => (some (.aware (some recordedAt)), w)
  | w, .utcNowUs => (some recordedAt, w)
  | w, .healthReport => (some (some report), w)
  | w, .getSchedulerResumeState =>
    (w.store.resume, w.leaving (w.store.getSchedulerResumeState .passed Faults.none))
  | w, .closeStore => ((), { w with store := w.store.close })
  | w, .inspectStorageCapacity =>
    let r := w.store.inspectStorageCapacity .passed
      (.ok (HealthHistoryOrchestrator.databaseOfPages 100 pages_hundred))
    (r.1.mapError (historyException .envelope), w.leaving r)
  | w, .inspectFreeSpace =>
    let r := w.store.inspectFreeSpace .passed (.ok HealthHistoryOrchestrator.enoughSpace)
    (r.1.mapError (historyException .envelope), w.leaving r)
  | w, .inspectWal =>
    let r := w.store.inspectWal .passed (.ok HealthHistoryOrchestrator.emptyLog)
    (r.1.mapError (historyException .envelope), w.leaving r)
  | w, .cleanupRetention nowUtcUs retentionDays =>
    let r := w.store.cleanupRetention .passed Faults.none false nowUtcUs retentionDays
    (r.1.mapError (historyException .maintenance), w.leaving r)
  | w, .incrementalVacuum =>
    let r := w.store.incrementalVacuum .passed (.ok ())
    (r.1.mapError (historyException .maintenance), w.leaving r)
  | w, .passiveWalCheckpoint =>
    let r := w.store.passiveWalCheckpoint .passed (.error ⟨.storageBusy, false⟩)
    (r.1.mapError (historyException .envelope), w.leaving r)
  | w, .ingest projection =>
    let r := w.store.ingest .passed Faults.none projection
    (r.1.mapError (historyException .ingestion),
      ⟨r.2, w.committed ++ if w.store.commits .passed Faults.none projection then [projection] else []⟩)

variable {now : ℚ} {recordedAt : Int} {report : HealthReport}

theorem serve_step (w : HistoryWorld) (c : HistoryCall) :
    w.Step ⟨c, (serve now recordedAt report w c).1⟩ (serve now recordedAt report w c).2 := by
  cases c with
  | acquire owner => exact .acquire owner true
  | monotonic owner => exact .monotonic owner (some now)
  | utcNow => exact .utcNow (some (.aware (some recordedAt)))
  | utcNowUs => exact .utcNowUs (some recordedAt)
  | healthReport => exact .healthReport (some (some report))
  | getSchedulerResumeState => exact .getSchedulerResumeState .passed Faults.none w.store.resume_eq
  | closeStore => exact .closeStore
  | inspectStorageCapacity => exact .inspectStorageCapacity .passed _
  | inspectFreeSpace => exact .inspectFreeSpace .passed _
  | inspectWal => exact .inspectWal .passed _
  | cleanupRetention now days => exact .cleanupRetention .passed Faults.none false now days
  | incrementalVacuum => exact .incrementalVacuum .passed _
  | passiveWalCheckpoint => exact .passiveWalCheckpoint .passed _
  | ingest projection =>
    exact .ingest .passed Faults.none (fun _ hfault => nomatch hfault) projection

/-- A program run against the store is a run on the world. -/
theorem played {ε α : Type} (p : Program historyInterface ε α) (w : HistoryWorld) :
    Runs p (p.trace (serve now recordedAt report) w) (p.play (serve now recordedAt report) w).1 ∧
      Follows HistoryWorld.Step w (p.trace (serve now recordedAt report) w)
        (p.play (serve now recordedAt report) w).2 := by
  refine ⟨runs_trace _ p w, (follows_trace _ p w).mono ?_⟩
  rintro s ⟨c, answer⟩ m h
  have hstep := @serve_step now recordedAt report s c
  rw [h] at hstep
  exact hstep

end HistoryWorld

end Aurora.HealthHistory
