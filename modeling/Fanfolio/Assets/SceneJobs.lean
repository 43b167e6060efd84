import Fanfolio.Framework.Run
import Fanfolio.Schema
import Mathlib.Logic.Function.Basic

/-!
# Spatial scene jobs

A worker loads a job, and commits it as running, as validating, and as ready or failed. Between its
commits it holds the job in memory, and a delivery can overlap another one or follow a crash.
-/

namespace Fanfolio

open Framework

inductive SceneStatus where
  | queued
  | running
  | retryWait
  | validating
  | needsReview
  | ready
  | failed
  | cancelled
deriving DecidableEq, Repr

def SceneStatus.name : SceneStatus → String
  | .queued => "queued"
  | .running => "running"
  | .retryWait => "retry_wait"
  | .validating => "validating"
  | .needsReview => "needs_review"
  | .ready => "ready"
  | .failed => "failed"
  | .cancelled => "cancelled"

/-- `SPATIAL_SCENE_TERMINAL_STATUSES`. -/
def spatialSceneTerminalStatuses : List SceneStatus := [.ready, .failed, .cancelled]

/-- `SPATIAL_SCENE_STATUS_TRANSITIONS`. -/
def spatialSceneStatusTransitions : SceneStatus → List SceneStatus
  | .queued => [.running, .cancelled]
  | .running => [.validating, .retryWait, .failed, .cancelled]
  | .retryWait => [.running, .cancelled]
  | .validating => [.ready, .needsReview, .retryWait, .failed]
  | .needsReview => [.running, .cancelled]
  | .ready => []
  | .failed => []
  | .cancelled => []

/-- `next_spatial_scene_status`; an error is the text of its `ValueError`. -/
def nextSpatialSceneStatus (current requested : SceneStatus) : Except String SceneStatus :=
  if requested ∈ spatialSceneStatusTransitions current then .ok requested
  else if current ∈ spatialSceneTerminalStatuses then
    .error "terminal spatial scene status cannot be mutated"
  else
    .error ("invalid spatial scene status transition: " ++ current.name ++ " -> " ++ requested.name)

/-- A row of `spatial_scene_jobs`, as far as workers read and write it. -/
structure SpatialSceneJob where
  assetId : String
  status : SceneStatus := .queued
  phase : Option String := none
  attempts : Nat := 0
  errorCode : Option String := none
  resultMetadata : Option JsonObject := none
deriving DecidableEq, Repr

/-- What the provider answers, and the paths that the files were saved under. -/
structure SceneResult where
  provider : String
  modelVersion : String
  confidence : Rat
  depthStoragePath : String
  maskStoragePath : String
  backgroundStoragePath : String
deriving DecidableEq, Repr

/-- `spatial_scene_metadata`. -/
def spatialSceneMetadata (sourceAssetId : String) (result : SceneResult)
    (sourceRevision : String) : JsonObject :=
  [("version", .num 2), ("sourceAssetId", .str sourceAssetId), ("provider", .str result.provider),
   ("modelVersion", .str result.modelVersion), ("confidence", .num result.confidence),
   ("status", .str "completed"), ("depthAssetId", .str (sourceAssetId ++ "-spatial-depth")),
   ("maskAssetId", .str (sourceAssetId ++ "-spatial-mask")),
   ("backgroundAssetId", .str (sourceAssetId ++ "-spatial-background")),
   ("runtime", .str "webgl-layered"), ("maxYawDeg", .num 4), ("maxPitchDeg", .num 3),
   ("depthStoragePath", .str result.depthStoragePath),
   ("maskStoragePath", .str result.maskStoragePath),
   ("backgroundStoragePath", .str result.backgroundStoragePath),
   ("sourceRevision", .str sourceRevision)]

namespace SpatialSceneJob

def isTerminal (job : SpatialSceneJob) : Bool := spatialSceneTerminalStatuses.contains job.status

/-- The job as a worker holds it when it commits for the first time. -/
def started (job : SpatialSceneJob) : SpatialSceneJob :=
  { job with status := .running, phase := some "depth_and_mask", attempts := job.attempts + 1 }

def withoutAsset (job : SpatialSceneJob) : SpatialSceneJob :=
  { job with status := .failed, errorCode := some "ASSET_NOT_READY" }

def validated (job : SpatialSceneJob) : SpatialSceneJob :=
  { job with status := .validating, phase := some "packaging" }

def finished (metadata : JsonObject) (job : SpatialSceneJob) : SpatialSceneJob :=
  { job with status := .ready, phase := some "complete", resultMetadata := some metadata }

/-- The job after an exception; the metadata is in memory once the files are saved. -/
def aborted (metadata : Option JsonObject) (job : SpatialSceneJob) : SpatialSceneJob :=
  { job with
    status := .failed
    phase := some "error"
    errorCode := some "SPATIAL_SCENE_GENERATION_FAILED"
    resultMetadata := metadata <|> job.resultMetadata }

/-- A commit writes the columns that differ from those that the worker had loaded or written. -/
def flush (loaded changed row : SpatialSceneJob) : SpatialSceneJob :=
  { row with
    status := if changed.status = loaded.status then row.status else changed.status
    phase := if changed.phase = loaded.phase then row.phase else changed.phase
    attempts := if changed.attempts = loaded.attempts then row.attempts else changed.attempts
    errorCode := if changed.errorCode = loaded.errorCode then row.errorCode else changed.errorCode
    resultMetadata := if changed.resultMetadata = loaded.resultMetadata then row.resultMetadata
      else changed.resultMetadata }

end SpatialSceneJob

/-- Where a run of `process_spatial_scene` is, with the job that it holds in memory. -/
inductive ScenePhase where
  | idle
  | loaded (job : SpatialSceneJob)
  | generating (job : SpatialSceneJob)
  | packaging (job : SpatialSceneJob)
  | packaged (job : SpatialSceneJob) (metadata : JsonObject)
deriving DecidableEq, Repr

/-- The row of the job, the path of its asset, and the runs. -/
structure SceneState where
  job : SpatialSceneJob
  storagePath : Option String
  workers : Nat → ScenePhase

inductive SceneAction where
  /-- The job is delivered to a worker, which loads it. -/
  | load (worker : Nat)
  /-- The first commit, after a look at the asset. -/
  | start (worker : Nat)
  /-- The provider answers. -/
  | validate (worker : Nat)
  /-- The files are saved. -/
  | package (worker : Nat) (result : SceneResult) (sourceRevision : String)
  | finish (worker : Nat)
  /-- An exception is caught. -/
  | abort (worker : Nat)
  /-- The worker is gone. -/
  | crash (worker : Nat)
  /-- Another request changes the asset. -/
  | setAsset (storagePath : Option String)
deriving DecidableEq, Repr

namespace SceneState

def goOn (s : SceneState) (worker : Nat) (phase : ScenePhase) : SceneState :=
  { s with workers := Function.update s.workers worker phase }

/-- A worker commits what it has changed, and goes on. -/
def commit (s : SceneState) (worker : Nat) (held changed : SpatialSceneJob) (phase : ScenePhase) :
    SceneState :=
  { s.goOn worker phase with job := held.flush changed s.job }

def assetReady (s : SceneState) : Bool := (s.storagePath.filter (· ≠ "")).isSome

end SceneState

/-- One step of `process_spatial_scene`. -/
def sceneStep (s : SceneState) : SceneAction → SceneState
  | .load worker => match s.workers worker with
    | .idle => if s.job.isTerminal then s else s.goOn worker (.loaded s.job)
    | _ => s
  | .start worker => match s.workers worker with
    | .loaded job =>
      if s.assetReady then s.commit worker job job.started (.generating job.started)
      else s.commit worker job job.withoutAsset .idle
    | _ => s
  | .validate worker => match s.workers worker with
    | .generating job => s.commit worker job job.validated (.packaging job.validated)
    | _ => s
  | .package worker result sourceRevision => match s.workers worker with
    | .packaging job =>
      s.goOn worker (.packaged job (spatialSceneMetadata job.assetId result sourceRevision))
    | _ => s
  | .finish worker => match s.workers worker with
    | .packaged job metadata => s.commit worker job (job.finished metadata) .idle
    | _ => s
  | .abort worker => match s.workers worker with
    | .generating job => s.commit worker job (job.aborted none) .idle
    | .packaging job => s.commit worker job (job.aborted none) .idle
    | .packaged job metadata => s.commit worker job (job.aborted (some metadata)) .idle
    | _ => s
  | .crash worker => s.goOn worker .idle
  | .setAsset storagePath => { s with storagePath := storagePath }

/-- The change of the row is one that the table of transitions allows. -/
structure AllowedChange (old new : SpatialSceneJob) : Prop where
  status : new.status ≠ old.status → nextSpatialSceneStatus old.status new.status = .ok new.status
  terminal : old.isTerminal → new.status = old.status ∧ new.resultMetadata = old.resultMetadata

/-- The step changes the job as it is allowed to. -/
def SceneLawful (s : SceneState) (a : SceneAction) : Prop := AllowedChange s.job (sceneStep s a).job

/-- A job is delivered while no other run of it is under way. -/
def SceneAlone (s : SceneState) : SceneAction → Prop
  | .load _ => ∀ worker, s.workers worker = .idle
  | _ => True

/-- A run does not start on a job that an earlier one left in validation, and it misses the asset
only of a job that an earlier run has started. -/
def SceneResumes (s : SceneState) : SceneAction → Prop
  | .start worker => ∀ job, s.workers worker = .loaded job →
      if s.assetReady then job.status ≠ .validating
      else job.status = .running ∨ job.status = .validating
  | _ => True

def startScene (job : SpatialSceneJob) (storagePath : Option String) : SceneState :=
  ⟨job, storagePath, fun _ => .idle⟩

/-- The job that a run holds, and the statuses that it can have there. -/
def ScenePhase.Holds (job : SpatialSceneJob) : ScenePhase → Prop
  | .idle => True
  | .loaded held => held = job ∧ held.isTerminal = false
  | .generating held => held = job ∧ held.status = .running
  | .packaging held => held = job ∧ held.status = .validating
  | .packaged held _ => held = job ∧ held.status = .validating

/-- At most one run is under way, and it holds the row as it is stored. -/
structure SceneSound (s : SceneState) : Prop where
  holds : ∀ worker, (s.workers worker).Holds s.job
  one : ∀ worker worker', s.workers worker ≠ .idle → s.workers worker' ≠ .idle → worker = worker'

section

variable {s : SceneState} {worker : Nat} {job : SpatialSceneJob}

theorem flush_self (changed : SpatialSceneJob) (h : changed.assetId = job.assetId) :
    job.flush changed job = changed := by
  obtain ⟨assetId, status, phase, attempts, errorCode, resultMetadata⟩ := changed
  simp only [SpatialSceneJob.flush, SpatialSceneJob.mk.injEq]
  refine ⟨h.symm, ?_, ?_, ?_, ?_, ?_⟩ <;> exact ite_eq_right_iff.mpr Eq.symm

theorem allowedChange_refl (job : SpatialSceneJob) : AllowedChange job job :=
  ⟨fun h => absurd rfl h, fun _ => ⟨rfl, rfl⟩⟩

/-- A change of the status of a job that is not terminal is allowed by the table. -/
theorem allowedChange_iff {new : SpatialSceneJob} (h : job.isTerminal = false) :
    AllowedChange job new ↔
      new.status = job.status ∨ new.status ∈ spatialSceneStatusTransitions job.status := by
  constructor
  · intro hallowed
    by_cases hsame : new.status = job.status
    · exact .inl hsame
    · have hnext := hallowed.status hsame
      unfold nextSpatialSceneStatus at hnext
      split at hnext
      · exact .inr ‹_›
      · split at hnext <;> cases hnext
  · intro hor
    refine ⟨fun hne => ?_, fun hterminal => by simp [h] at hterminal⟩
    rw [nextSpatialSceneStatus, if_pos (hor.resolve_left hne)]

namespace SceneSound

variable {held changed : SpatialSceneJob} {phase : ScenePhase}

theorem others (h : SceneSound s) (hbusy : s.workers worker ≠ .idle) {worker' : Nat}
    (hne : worker' ≠ worker) : s.workers worker' = .idle := by
  by_contra hother
  exact hne (h.one worker' worker hother hbusy)

/-- The only run under way goes on with the row as it is stored now. -/
theorem update (h : ∀ worker' ≠ worker, s.workers worker' = .idle) (hphase : phase.Holds job) :
    SceneSound { s.goOn worker phase with job := job } := by
  refine ⟨fun worker' => ?_, fun worker₁ worker₂ hbusy₁ hbusy₂ => ?_⟩
  · by_cases heq : worker' = worker
    · subst heq
      simpa [SceneState.goOn] using hphase
    · simp [SceneState.goOn, Function.update_of_ne heq, h worker' heq, ScenePhase.Holds]
  · have hself : ∀ worker', Function.update s.workers worker phase worker' ≠ .idle →
        worker' = worker := by
      intro worker' hbusy
      by_contra hne
      exact hbusy (by rw [Function.update_of_ne hne, h worker' hne])
    exact (hself worker₁ hbusy₁).trans (hself worker₂ hbusy₂).symm

theorem commit_job (hheld : held = s.job) (hasset : changed.assetId = held.assetId) :
    (s.commit worker held changed phase).job = changed := by
  subst hheld
  exact flush_self changed hasset

theorem commit (h : SceneSound s) (hbusy : s.workers worker ≠ .idle) (hheld : held = s.job)
    (hasset : changed.assetId = held.assetId) (hphase : phase.Holds changed) :
    SceneSound (s.commit worker held changed phase) := by
  have hjob : (s.commit worker held changed phase).job = changed := commit_job hheld hasset
  rw [SceneState.commit] at hjob ⊢
  rw [show held.flush changed s.job = changed from hjob]
  exact update (fun _ => h.others hbusy) hphase

theorem setAsset (h : SceneSound s) (storagePath : Option String) :
    SceneSound { s with storagePath := storagePath } := ⟨h.holds, h.one⟩

theorem goOn (h : SceneSound s) (hbusy : s.workers worker ≠ .idle) (hphase : phase.Holds s.job) :
    SceneSound (s.goOn worker phase) := update (fun _ => h.others hbusy) hphase

theorem crash (h : SceneSound s) : SceneSound (s.goOn worker .idle) := by
  refine ⟨fun worker' => ?_, fun worker₁ worker₂ hbusy₁ hbusy₂ => ?_⟩
  · by_cases heq : worker' = worker
    · subst heq
      simp [SceneState.goOn, ScenePhase.Holds]
    · simpa [SceneState.goOn, Function.update_of_ne heq] using h.holds worker'
  · have hbefore : ∀ worker', Function.update s.workers worker .idle worker' ≠ .idle →
        s.workers worker' ≠ .idle := by
      intro worker' hbusy
      by_cases heq : worker' = worker
      · simp [heq] at hbusy
      · rwa [Function.update_of_ne heq] at hbusy
    exact h.one worker₁ worker₂ (hbefore worker₁ hbusy₁) (hbefore worker₂ hbusy₂)

/-- A commit of a run that holds the row is allowed exactly if its change of the status is. -/
theorem commit_iff (h : SceneSound s) (hbusy : s.workers worker ≠ .idle) (hheld : held = s.job)
    (hopen : held.isTerminal = false) (hasset : changed.assetId = held.assetId)
    (hphase : phase.Holds changed) :
    SceneSound (s.commit worker held changed phase) ∧
      (AllowedChange s.job (s.commit worker held changed phase).job ↔
        changed.status = held.status ∨
          changed.status ∈ spatialSceneStatusTransitions held.status) := by
  refine ⟨h.commit hbusy hheld hasset hphase, ?_⟩
  rw [commit_job hheld hasset]
  subst hheld
  exact allowedChange_iff hopen

/-- The commits after the first one follow the table. -/
theorem commit_allowed (h : SceneSound s) (hbusy : s.workers worker ≠ .idle) (hheld : held = s.job)
    (hstatus : changed.status ∈ spatialSceneStatusTransitions held.status)
    (hasset : changed.assetId = held.assetId) (hphase : phase.Holds changed) :
    SceneSound (s.commit worker held changed phase) ∧
      (AllowedChange s.job (s.commit worker held changed phase).job ↔ True) := by
  have hopen : held.isTerminal = false := by
    revert hstatus
    cases hcurrent : held.status <;>
      simp [SpatialSceneJob.isTerminal, hcurrent, spatialSceneTerminalStatuses,
        spatialSceneStatusTransitions]
  obtain ⟨hsound, hiff⟩ := h.commit_iff hbusy hheld hopen hasset hphase
  exact ⟨hsound, iff_true_intro (hiff.mpr (.inr hstatus))⟩

/-- If no deliveries overlap, a step is allowed exactly if it resumes the job rightly. -/
theorem step (h : SceneSound s) {a : SceneAction} (halone : SceneAlone s a) :
    SceneSound (sceneStep s a) ∧ (SceneLawful s a ↔ SceneResumes s a) := by
  have hsame : AllowedChange s.job s.job ↔ True := iff_true_intro (allowedChange_refl s.job)
  unfold SceneLawful
  cases a with
  | load worker =>
    simp only [sceneStep]
    split
    · split
      · exact ⟨h, hsame⟩
      · rename_i hterminal
        exact ⟨update (fun worker' _ => halone worker') ⟨rfl, by simpa using hterminal⟩, hsame⟩
    · exact ⟨h, hsame⟩
  | start worker =>
    simp only [sceneStep, SceneResumes]
    have hholds := h.holds worker
    split
    · rename_i held hphase
      have hbusy : s.workers worker ≠ .idle := by simp [hphase]
      rw [hphase] at hholds
      obtain ⟨hheld, hopen⟩ := hholds
      simp only [hphase, ScenePhase.loaded.injEq, forall_eq']
      split
      · have hcommit : SceneSound (s.commit worker held held.started (.generating held.started)) ∧ _ :=
          h.commit_iff hbusy hheld hopen rfl ⟨rfl, rfl⟩
        refine ⟨hcommit.1, hcommit.2.trans ?_⟩
        revert hopen
        cases hstatus : held.status <;>
          simp [SpatialSceneJob.isTerminal, SpatialSceneJob.started, hstatus,
            spatialSceneTerminalStatuses, spatialSceneStatusTransitions]
      · have hcommit : SceneSound (s.commit worker held held.withoutAsset .idle) ∧ _ :=
          h.commit_iff hbusy hheld hopen rfl trivial
        refine ⟨hcommit.1, hcommit.2.trans ?_⟩
        revert hopen
        cases hstatus : held.status <;>
          simp [SpatialSceneJob.isTerminal, SpatialSceneJob.withoutAsset, hstatus,
            spatialSceneTerminalStatuses, spatialSceneStatusTransitions]
    · rename_i hother
      refine ⟨h, hsame.trans (iff_of_true trivial fun job hloaded => ?_)⟩
      exact absurd hloaded (hother job)
  | validate worker =>
    simp only [sceneStep]
    have hholds := h.holds worker
    split
    · rename_i held hphase
      rw [hphase] at hholds
      refine h.commit_allowed (by simp [hphase]) hholds.1 ?_ rfl ⟨rfl, rfl⟩
      simp [hholds.2, SpatialSceneJob.validated, spatialSceneStatusTransitions]
    · exact ⟨h, hsame⟩
  | package worker result sourceRevision =>
    simp only [sceneStep]
    have hholds := h.holds worker
    split
    · rename_i held hphase
      rw [hphase] at hholds
      exact ⟨h.goOn (by simp [hphase]) hholds, hsame⟩
    · exact ⟨h, hsame⟩
  | finish worker =>
    simp only [sceneStep]
    have hholds := h.holds worker
    split
    · rename_i held metadata hphase
      rw [hphase] at hholds
      refine h.commit_allowed (by simp [hphase]) hholds.1 ?_ rfl trivial
      simp [hholds.2, SpatialSceneJob.finished, spatialSceneStatusTransitions]
    · exact ⟨h, hsame⟩
  | abort worker =>
    simp only [sceneStep]
    have hholds := h.holds worker
    split
    · rename_i held hphase
      rw [hphase] at hholds
      refine h.commit_allowed (by simp [hphase]) hholds.1 ?_ rfl trivial
      simp [hholds.2, SpatialSceneJob.aborted, spatialSceneStatusTransitions]
    · rename_i held hphase
      rw [hphase] at hholds
      refine h.commit_allowed (by simp [hphase]) hholds.1 ?_ rfl trivial
      simp [hholds.2, SpatialSceneJob.aborted, spatialSceneStatusTransitions]
    · rename_i held metadata hphase
      rw [hphase] at hholds
      refine h.commit_allowed (by simp [hphase]) hholds.1 ?_ rfl trivial
      simp [hholds.2, SpatialSceneJob.aborted, spatialSceneStatusTransitions]
    · exact ⟨h, hsame⟩
  | crash worker => exact ⟨h.crash, hsame⟩
  | setAsset storagePath => exact ⟨h.setAsset storagePath, hsame⟩

end SceneSound

theorem startScene_sound (job : SpatialSceneJob) (storagePath : Option String) :
    SceneSound (startScene job storagePath) :=
  ⟨fun _ => trivial, fun _ _ h => absurd rfl h⟩

/-- A run of deliveries that do not overlap and resume the job rightly follows the table and leaves
a terminal job as it is; and among runs without overlap no others do. -/
theorem sceneJobs_lawful (job : SpatialSceneJob) (storagePath : Option String)
    (acts : List SceneAction) :
    (Always sceneStep (fun s a => SceneAlone s a ∧ SceneResumes s a) (startScene job storagePath)
        acts → Always sceneStep SceneLawful (startScene job storagePath) acts) ∧
      (Always sceneStep (fun s a => SceneAlone s a ∧ SceneLawful s a) (startScene job storagePath)
        acts → Always sceneStep SceneResumes (startScene job storagePath) acts) := by
  have hstart := startScene_sound job storagePath
  constructor
  · intro hcareful
    exact hcareful.of_invariant hstart (fun _ _ h hstep => (h.step hstep.1).1)
      fun _ _ h hstep => (h.step hstep.1).2.mpr hstep.2
  · intro hlawful
    exact hlawful.of_invariant hstart (fun _ _ h hstep => (h.step hstep.1).1)
      fun _ _ h hstep => (h.step hstep.1).2.mp hstep.2

end

namespace SceneJobsExample

def job : SpatialSceneJob := { assetId := "asset_1" }

def result : SceneResult :=
  ⟨"local_fallback", "luminance-v1", 0, "asset_1-spatial-depth.png", "asset_1-spatial-mask.png",
    "asset_1-spatial-background.png"⟩

/-- One delivery from the first commit to the last. -/
def delivery (worker : Nat) : List SceneAction :=
  [.load worker, .start worker, .validate worker, .package worker result "asset_1:rev", .finish worker]

/-- The worker is gone while it saves the files, and the job is delivered again. -/
def redelivered : List SceneAction :=
  [.load 0, .start 0, .validate 0, .crash 0, .load 1, .start 1]

/-- Two deliveries overlap: the second one is still with the provider when the first one is ready. -/
def overlapping : List SceneAction :=
  [.load 0, .load 1, .start 0, .start 1, .validate 0, .package 0 result "asset_1:rev", .finish 0,
    .abort 1]

end SceneJobsExample

open SceneJobsExample in
theorem sceneJobs_lawful_oneDelivery :
    Always sceneStep SceneLawful (startScene job (some "/assets/asset_1.png")) (delivery 0) := by
  refine (sceneJobs_lawful job (some "/assets/asset_1.png") (delivery 0)).1
    ⟨⟨fun _ => rfl, trivial⟩, ⟨trivial, ?_⟩, ⟨trivial, trivial⟩, ⟨trivial, trivial⟩,
      ⟨trivial, trivial⟩, trivial⟩
  rintro held hheld
  obtain rfl := ScenePhase.loaded.inj hheld
  exact of_decide_eq_true rfl

open SceneJobsExample in
/-- The redelivery takes the job from validation back to running; a queued job without its asset
fails at once; and of overlapping deliveries the second one makes a ready job fail. -/
theorem sceneJobs_lawful_fails :
    ¬Always sceneStep SceneLawful (startScene job (some "/assets/asset_1.png")) redelivered ∧
    ¬Always sceneStep SceneLawful (startScene job none) [.load 0, .start 0] ∧
    ¬Always sceneStep SceneLawful (startScene job (some "/assets/asset_1.png")) overlapping := by
  refine ⟨?_, ?_, ?_⟩
  · rintro ⟨-, -, -, -, -, hstart, -⟩
    exact absurd (hstart.status (by decide)) (by decide)
  · rintro ⟨-, hstart, -⟩
    exact absurd (hstart.status (by decide)) (by decide)
  · rintro ⟨-, -, -, -, -, -, -, habort, -⟩
    exact absurd (habort.terminal rfl).1 (by decide)

end Fanfolio
