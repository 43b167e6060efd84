import Fanfolio.Growth.MissionRace

/-!
# Counting a mission

Whatever the order of loads and commits, the mission is counted as long as no worker commits
over a value that it has not loaded.
-/

namespace Fanfolio

open Framework

namespace MissionSlice

section

variable {slice : MissionSlice} {db db' : GrowthDb} {event : EngagementEvent}
  {progress row : MissionProgress} {draws : MissionDraws}

/-- A worker that has inserted the row without a commit knows that no row is committed. -/
def rowMissing (slice : MissionSlice) : ProgressPhase → Option (GrowthDb → Prop)
  | .inserted _ _ => some fun db => db.findProgress slice.key = none
  | _ => none

/-- What is so of a worker whatever the others do, as long as they commit fresh values. -/
def PhaseSound (slice : MissionSlice) (db : GrowthDb) (eventId : EventId) : ProgressPhase → Prop
  | .idle => True
  | .inserted event progress => event.id = eventId ∧ slice.Working db event ∧
      progress.key = slice.key ∧ progress.currentValue = 0 ∧ progress.completedAt = none
  | .loaded event progress => event.id = eventId ∧ slice.Working db event ∧ slice.Sound progress ∧
      ∃ row, db.findProgress slice.key = some row ∧ row.id = progress.id ∧
        progress.currentValue ≤ row.currentValue

structure RaceSound (slice : MissionSlice) (s : MissionRace) : Prop where
  accounted : slice.Accounted s.committed
  knows : s.Knows slice.rowMissing
  phases : ∀ eventId, slice.PhaseSound s.committed eventId (s.phase eventId)

theorem Working.mono (h : slice.Working db event)
    (hevent : db'.findEvent event.id = db.findEvent event.id) : slice.Working db' event :=
  ⟨hevent.trans h.found, h.unprocessed, h.userId, h.mem⟩

theorem PhaseSound.mono {eventId : EventId} {phase : ProgressPhase}
    (h : slice.PhaseSound db eventId phase)
    (hevent : phase ≠ .idle → db'.findEvent eventId = db.findEvent eventId)
    (hrow : ∀ row, db.findProgress slice.key = some row → ∃ row',
      db'.findProgress slice.key = some row' ∧ row'.id = row.id ∧
        row.currentValue ≤ row'.currentValue) : slice.PhaseSound db' eventId phase := by
  cases phase with
  | idle => trivial
  | inserted event progress =>
    obtain ⟨rfl, hworking, hrest⟩ := h
    exact ⟨rfl, hworking.mono (hevent (by simp)), hrest⟩
  | loaded event progress =>
    obtain ⟨rfl, hworking, hsound, row, hfound, hid, hle⟩ := h
    obtain ⟨row', hfound', hid', hle'⟩ := hrow row hfound
    exact ⟨rfl, hworking.mono (hevent (by simp)), hsound, row', hfound', hid'.trans hid,
      hle.trans hle'⟩

theorem Finished.findEvent_of_ne (h : slice.Finished db db' event progress draws.now)
    {eventId : EventId} (hne : eventId ≠ event.id) :
    db'.findEvent eventId = db.findEvent eventId := by
  rw [h.events]
  cases hfind : db.findEvent eventId with
  | none => rfl
  | some row =>
    have hid : row.id = eventId := by
      simpa using List.find?_some (p := fun row : EngagementEvent => row.id == eventId) hfind
    simp [hid, hne]

/-- Nothing of the mission of the fan tells the tables apart. -/
structure SameSlice (slice : MissionSlice) (db db' : GrowthDb) : Prop where
  progress : db'.findProgress slice.key = db.findProgress slice.key
  xp : slice.granted db'.xpEntries = slice.granted db.xpEntries
  points : slice.granted db'.pointEntries = slice.granted db.pointEntries
  rewards : slice.granted db'.rewardEntries = slice.granted db.rewardEntries
  processed : slice.processed db' = slice.processed db

theorem Keeps.sameSlice {s : MissionRace} (h : slice.Keeps s db) :
    slice.SameSlice s.committed db := by
  obtain ⟨hprogress, hxp, hpoints, hrewards, hevents⟩ := h
  refine ⟨hprogress, hxp, hpoints, hrewards, ?_⟩
  apply Finset.filter_congr
  intro eventId hmem
  rw [(hevents eventId hmem).1]

theorem SameSlice.counted_iff (h : slice.SameSlice db db') :
    slice.Counted db' ↔ slice.Counted db := by
  rw [MissionSlice.counted_iff, MissionSlice.counted_iff, GrowthDb.missionValue, h.progress,
    h.processed, h.xp, h.points, h.rewards]
  rfl

theorem SameSlice.accounted (h : slice.SameSlice db db') (hacc : slice.Accounted db) :
    slice.Accounted db' := by
  refine ⟨?_, ?_, ?_, ?_⟩
  · rw [h.progress]
    exact hacc.sound
  · rw [h.xp, h.processed]
    exact hacc.xp
  · rw [h.points, h.processed]
    exact hacc.points
  · rw [h.rewards, h.processed]
    exact hacc.rewards

/-- The tables as the worker that has inserted the row sees them. -/
theorem inserted_base (hacc : slice.Accounted db) (hcounted : slice.Counted db)
    (hnone : db.findProgress slice.key = none) (hkey : progress.key = slice.key)
    (hzero : progress.currentValue = 0) (hopen : progress.completedAt = none) :
    slice.Sound progress ∧
    GrowthDb.findProgress { db with progress := db.progress ++ [progress] } slice.key =
      some progress ∧
    slice.Accounted { db with progress := db.progress ++ [progress] } ∧
    slice.Counted { db with progress := db.progress ++ [progress] } := by
  have hsound : slice.Sound progress := by
    have hpos := slice.mission.target_pos
    exact ⟨by omega, by simp only [hopen, ne_eq, not_true, false_iff]; omega⟩
  have hfind : GrowthDb.findProgress { db with progress := db.progress ++ [progress] } slice.key =
      some progress := by
    rw [GrowthDb.findProgress] at hnone ⊢
    rw [List.find?_append, hnone]
    simp [hkey]
  refine ⟨hsound, hfind, ⟨?_, hacc.xp, hacc.points, hacc.rewards⟩,
    ⟨?_, hcounted.xp, hcounted.points, hcounted.rewards⟩⟩
  · intro row hrow
    obtain rfl : progress = row := Option.some.inj (hfind.symm.trans hrow)
    exact hsound
  · have hvalue := hcounted.value
    rw [GrowthDb.missionValue, hnone] at hvalue
    rw [GrowthDb.missionValue, hfind, Option.map_some, Option.getD_some, hzero]
    exact hvalue

theorem phases_update {phases : EventId → ProgressPhase} {eventId : EventId} {phase : ProgressPhase}
    (hown : slice.PhaseSound db eventId phase)
    (hothers : ∀ eventId' ≠ eventId, slice.PhaseSound db eventId' (phases eventId')) :
    ∀ eventId', slice.PhaseSound db eventId' (Function.update phases eventId phase eventId') := by
  intro eventId'
  by_cases heq : eventId' = eventId
  · subst heq
    rw [Function.update_self]
    exact hown
  · rw [Function.update_of_ne heq]
    exact hothers eventId' heq

section

variable {s : MissionRace} {eventId : EventId}

theorem RaceSound.move (h : slice.RaceSound s) {phase : ProgressPhase}
    (hphase : slice.PhaseSound s.committed eventId phase) (hknows : slice.rowMissing phase = none) :
    slice.RaceSound (s.move eventId phase) :=
  ⟨h.accounted, h.knows.move hknows, phases_update hphase fun eventId' _ => h.phases eventId'⟩

theorem RaceSound.letGo (h : slice.RaceSound s)
    (hmine : ∀ eventId', s.lock = some eventId' → eventId' = eventId) :
    slice.RaceSound (s.release eventId s.committed .idle) :=
  ⟨h.accounted, h.knows.release hmine _ rfl, phases_update trivial fun eventId' _ => h.phases eventId'⟩

theorem RaceSound.load (h : slice.RaceSound s) (readings : CardReadings)
    (order : List MissionDefinition) (now : Time) (progressId : ProgressId) :
    slice.RaceSound (slice.step s (.load eventId readings order now progressId)) := by
  simp only [step]
  split
  · rename_i event hidle hfind
    have hid : event.id = eventId := by
      simpa using List.find?_some (p := fun row : EngagementEvent => row.id == eventId) hfind
    split
    · rename_i hmatch
      obtain ⟨hunprocessed, -, hmem, huser, -⟩ := hmatch
      have hworking : slice.Working s.committed event :=
        ⟨hid ▸ hfind, hunprocessed, huser, hid ▸ hmem⟩
      split
      · rename_i progress hrow
        exact h.move ⟨hid, hworking, h.accounted.sound progress hrow, progress, hrow, rfl, le_rfl⟩
          rfl
      · rename_i hnone
        split
        · rename_i hfree
          split
          · rename_i created progress hcreate
            have hkeyed : (event.userId, slice.mission.id, slice.periodKey) = slice.key := by
              rw [huser]
              rfl
            rcases getOrCreateMissionProgress_ok hcreate with ⟨hsome, -⟩ | ⟨-, rfl, -, -⟩
            · rw [hkeyed, hnone] at hsome
              cases hsome
            · refine ⟨h.accounted, h.knows.acquire hfree ?_, phases_update
                ⟨hid, hworking, hkeyed, rfl, rfl⟩ fun eventId' _ => h.phases eventId'⟩
              rintro fact ⟨⟩
              exact hnone
          · exact h
        · exact h
    · exact h
  · exact h

/-- The phases of the other workers after the commit of one of them. -/
theorem Finished.phases (h : slice.RaceSound s)
    (hfin : slice.Finished db db' event progress draws.now) (heq : event.id = eventId)
    (hbase : ∀ eventId', db.findEvent eventId' = s.committed.findEvent eventId')
    (hrow : ∀ row, s.committed.findProgress slice.key = some row → ∃ row',
      db'.findProgress slice.key = some row' ∧ row'.id = row.id ∧
        row.currentValue ≤ row'.currentValue) :
    ∀ eventId', slice.PhaseSound db' eventId'
      (Function.update s.phase eventId .idle eventId') := by
  apply phases_update (by trivial)
  intro eventId' hne
  refine (h.phases eventId').mono ?_ hrow
  intro _
  rw [hfin.findEvent_of_ne (by rw [heq]; exact hne), hbase]

/-- The commit of a worker that has loaded the row. -/
theorem RaceSound.commit_loaded (h : slice.RaceSound s) (hcounted : slice.Counted s.committed)
    (hphase : s.phase eventId = .loaded event progress)
    (hok : slice.finish s.committed event progress draws = .ok db') :
    (slice.Counted db' ↔ slice.FindsFresh s.committed progress) ∧
    (slice.FindsFresh s.committed progress → slice.RaceSound (s.publish eventId db' .idle)) := by
  have hphases := h.phases eventId
  rw [hphase] at hphases
  obtain ⟨hid, hworking, hsound, row, hrow, hrowId, hle⟩ := hphases
  have hfin := finish_ok hok
  refine ⟨hfin.counts_iff h.accounted hworking hrow hrowId hsound hle hcounted, ?_⟩
  intro hfresh
  obtain ⟨hacc, row', hrow', hid', hle'⟩ :=
    hfin.accounted h.accounted hworking hrow hrowId hsound hle hfresh
  refine ⟨hacc, h.knows.publish ?_ rfl, hfin.phases h hid (fun _ => rfl) ?_⟩
  · intro other fact hfact hknown
    cases hother : s.phase other with
    | inserted otherEvent otherProgress =>
      rw [hother] at hfact
      obtain rfl := Option.some.inj hfact
      rw [hrow] at hknown
      cases hknown
    | _ =>
      rw [hother] at hfact
      cases hfact
  · intro found hfound
    obtain rfl : row = found := Option.some.inj (hrow.symm.trans hfound)
    exact ⟨row', hrow', hid', hle'⟩

/-- The commit of the worker that has inserted the row. -/
theorem RaceSound.commit_inserted (h : slice.RaceSound s) (hcounted : slice.Counted s.committed)
    (hphase : s.phase eventId = .inserted event progress)
    (hok : slice.finish { s.committed with progress := s.committed.progress ++ [progress] } event
      progress draws = .ok db') :
    slice.Counted db' ∧ slice.RaceSound (s.release eventId db' .idle) := by
  have hphases := h.phases eventId
  rw [hphase] at hphases
  obtain ⟨hid, hworking, hkey, hzero, hopen⟩ := hphases
  have hknown : (fun db : GrowthDb => db.findProgress slice.key = none) ∈
      slice.rowMissing (s.phase eventId) := by rw [hphase]; rfl
  have hnone := (h.knows eventId _ hknown).2
  obtain ⟨hsound, hfind, hacc, hbase⟩ :=
    inserted_base h.accounted hcounted hnone hkey hzero hopen
  have hfin := finish_ok hok
  have hworking' : slice.Working
      { s.committed with progress := s.committed.progress ++ [progress] } event :=
    ⟨hworking.found, hworking.unprocessed, hworking.userId, hworking.mem⟩
  have hfresh : slice.FindsFresh
      { s.committed with progress := s.committed.progress ++ [progress] } progress := by
    refine .inl ?_
    rw [GrowthDb.missionValue, hfind]
    rfl
  refine ⟨(hfin.counts_iff hacc hworking' hfind rfl hsound le_rfl hbase).mpr hfresh, ?_⟩
  obtain ⟨hacc', -⟩ := hfin.accounted hacc hworking' hfind rfl hsound le_rfl hfresh
  refine ⟨hacc', h.knows.release_of_knows hknown _ rfl, hfin.phases h hid (fun _ => rfl) ?_⟩
  intro row hrow
  rw [hnone] at hrow
  cases hrow

/-- A step keeps the mission counted exactly if a worker that commits finds a fresh value. -/
theorem RaceSound.counted_step (h : slice.RaceSound s) (hcounted : slice.Counted s.committed)
    (a : ProgressAction) :
    slice.Counted (slice.step s a).committed ↔ slice.CommitsFresh s a := by
  cases a with
  | load eventId readings order now progressId =>
    refine iff_of_true ?_ trivial
    have hsame : (slice.step s (.load eventId readings order now progressId)).committed =
        s.committed := by
      simp only [step]
      repeat' split
      all_goals rfl
    rw [hsame]
    exact hcounted
  | commit eventId draws =>
    simp only [step, CommitsFresh]
    cases hphase : s.phase eventId with
    | idle => exact iff_of_true hcounted trivial
    | inserted event progress =>
      refine iff_of_true ?_ trivial
      dsimp only
      split
      · rename_i db hok
        exact (h.commit_inserted hcounted hphase hok).1
      · exact hcounted
    | loaded event progress =>
      dsimp only
      cases hok : slice.finish s.committed event progress draws with
      | ok db => simpa [Except.isOk, Except.toBool] using (h.commit_loaded hcounted hphase hok).1
      | error e => exact iff_of_true hcounted (by simp [Except.isOk, Except.toBool])
  | abort eventId =>
    refine iff_of_true ?_ trivial
    simp only [step]
    split <;> exact hcounted
  | elsewhere db =>
    refine iff_of_true ?_ trivial
    simp only [step]
    split
    · rename_i hkeeps
      exact hkeeps.sameSlice.counted_iff.mpr hcounted
    · exact hcounted

theorem RaceSound.step (h : slice.RaceSound s) (hcounted : slice.Counted s.committed)
    {a : ProgressAction} (hfresh : slice.CommitsFresh s a) : slice.RaceSound (slice.step s a) := by
  cases a with
  | load eventId readings order now progressId => exact h.load readings order now progressId
  | commit eventId draws =>
    simp only [MissionSlice.step]
    cases hphase : s.phase eventId with
    | idle => exact h
    | inserted event progress =>
      dsimp only
      split
      · rename_i db hok
        exact (h.commit_inserted hcounted hphase hok).2
      · refine h.letGo ?_
        intro other hlock
        rw [(h.knows eventId _ (by rw [hphase]; rfl)).1] at hlock
        exact (Option.some.inj hlock).symm
    | loaded event progress =>
      dsimp only
      split
      · rename_i db hok
        simp only [CommitsFresh, hphase, hok] at hfresh
        exact (h.commit_loaded hcounted hphase hok).2 (hfresh rfl)
      · exact h.move trivial rfl
  | abort eventId =>
    simp only [MissionSlice.step]
    split
    · rename_i hmine
      refine h.letGo ?_
      intro other hlock
      exact Option.some.inj (hlock.symm.trans hmine)
    · exact h.move trivial rfl
  | elsewhere db =>
    simp only [MissionSlice.step]
    split
    · rename_i hkeeps
      refine ⟨hkeeps.sameSlice.accounted h.accounted, ?_, ?_⟩
      · intro other fact hfact
        obtain ⟨hlock, hknown⟩ := h.knows other fact hfact
        refine ⟨hlock, ?_⟩
        cases hother : s.phase other with
        | inserted event progress =>
          rw [hother] at hfact
          obtain rfl := Option.some.inj hfact
          exact hkeeps.1.trans hknown
        | _ =>
          rw [hother] at hfact
          cases hfact
      · intro other
        refine (h.phases other).mono ?_ ?_
        · intro hbusy
          have hmem : other ∈ slice.eventIds := by
            have hphases := h.phases other
            cases hother : s.phase other with
            | idle => exact absurd hother hbusy
            | inserted event progress =>
              rw [hother] at hphases
              exact hphases.1 ▸ hphases.2.1.mem
            | loaded event progress =>
              rw [hother] at hphases
              exact hphases.1 ▸ hphases.2.1.mem
          exact (hkeeps.2.2.2.2 other hmem).2 hbusy
        · intro row hrow
          exact ⟨row, hkeeps.1.trans hrow, rfl, le_rfl⟩
    · exact h

/-- No worker is about any of the events. -/
def start (db : GrowthDb) : MissionRace := ⟨db, none, fun _ => .idle⟩

theorem Untouched.processed (h : slice.Untouched db) : slice.processed db = ∅ := by
  rw [MissionSlice.processed, Finset.filter_eq_empty_iff]
  intro eventId hmem
  simp [h.events eventId hmem]

theorem Untouched.counted (h : slice.Untouched db) : slice.Counted db := by
  have hpos : ¬slice.mission.targetValue ≤ 0 := Nat.not_le.mpr slice.mission.target_pos
  rw [MissionSlice.counted_iff, GrowthDb.missionValue, h.progress, h.xp, h.points, h.rewards,
    h.processed]
  simp [hpos]

theorem Untouched.raceSound (h : slice.Untouched db) : slice.RaceSound (start db) := by
  refine ⟨⟨?_, ?_, ?_, ?_⟩, ?_, fun _ => trivial⟩
  · intro row hrow
    rw [start, h.progress] at hrow
    cases hrow
  · simp [start, h.xp]
  · simp [start, h.points]
  · simp [start, h.rewards]
  · intro eventId fact hfact
    cases hfact

/-- In a run of workers on different events the mission is counted in every state exactly when
every worker that commits finds the value it has loaded, or completes a mission without reward. -/
theorem missionProgress_counted_iff (slice : MissionSlice) {db : GrowthDb}
    (hdb : slice.Untouched db) (acts : List ProgressAction) :
    Throughout slice.step (fun s => slice.Counted s.committed) (start db) acts ↔
      Always slice.step slice.CommitsFresh (start db) acts := by
  refine throughout_iff_always (I := slice.RaceSound) hdb.raceSound hdb.counted ?_ ?_
  · intro s a hs hcounted hfresh
    exact hs.step hcounted hfresh
  · intro s a hs hcounted
    exact hs.counted_step hcounted a

/-- A worker that meets no other one does what `update_mission_progress` does. -/
theorem update_alone {readings : CardReadings} {order : List MissionDefinition}
    (hfind : db.findEvent eventId = some event) (hprocessed : event.status ≠ .processed)
    (hletter : event.status ≠ .deadLetter) (hmem : eventId ∈ slice.eventIds)
    (hmoves : slice.Moves db event readings order draws.now) :
    (run slice.step (start db)
      [.load eventId readings order draws.now draws.progressId, .commit eventId draws]).committed =
      match updateMissionProgress db event slice.mission draws with
      | .ok (db', _) => db'.patchEvent event.id (·.processed (event.attemptCount + 1) draws.now)
      | .error _ => db := by
  have hkeyed : (event.userId, slice.mission.id, slice.periodKey) = slice.key := by
    rw [hmoves.1]
    rfl
  simp only [run_cons, run_nil, MissionSlice.step, start, hfind, hprocessed, hletter, hmem, hmoves,
    updateMissionProgress, hmoves.2.2, ne_eq, not_false_eq_true, and_self, if_true]
  cases hrow : db.findProgress slice.key with
  | some progress =>
    have hload : getOrCreateMissionProgress db event.userId slice.mission.id slice.periodKey
        draws.progressId draws.now = .ok (db, progress) := by
      unfold getOrCreateMissionProgress
      rw [hkeyed, hrow]
    simp only [hload, Locked.move, Function.update_self, finish, bind, Except.bind]
    cases finishMissionProgress db event slice.mission slice.periodKey progress draws <;> rfl
  | none =>
    cases hload : getOrCreateMissionProgress db event.userId slice.mission.id slice.periodKey
      draws.progressId draws.now with
    | error e => simp [bind, Except.bind]
    | ok loaded =>
      obtain ⟨created, progress⟩ := loaded
      rcases getOrCreateMissionProgress_ok hload with ⟨hsome, -⟩ | ⟨-, -, -, hcreated⟩
      · rw [hkeyed, hrow] at hsome
        cases hsome
      · simp only [Locked.acquire, Function.update_self, finish, bind, Except.bind, hcreated]
        cases finishMissionProgress { db with progress := db.progress ++ [progress] } event
          slice.mission slice.periodKey progress draws <;> rfl

end

end

end MissionSlice

def comment (eventId : EventId) : EngagementEvent :=
  { id := eventId, userId := "fan", kind := "event_commented", sourceType := "event_comment",
    sourceId := eventId, payload := [] }

/-- Three comments of a fan, for a mission that asks for two. -/
def commentSlice : MissionSlice where
  userId := "fan"
  mission :=
    { id := "mission", title := "댓글", eventKind := "event_commented", targetValue := 2,
      rewardPayload := { xp := 10 }, status := .published, target_pos := by decide }
  periodKey := "once"
  eventIds := {"evt_1", "evt_2", "evt_3"}

def threeComments : GrowthDb where
  points := PointDb.opening [] [comment "evt_1", comment "evt_2", comment "evt_3"]
  xpLedger := []
  levels := []
  policies := []
  thresholds := []
  rewards := []
  rewardGrants := []
  missions := [commentSlice.mission]
  progress := []
  achievements := []
  achievementProgress := []
  seasons := []
  passProgress := []

/-- The second and the third comment are processed at the same time. -/
def commentsTogether : List ProgressAction :=
  [.load "evt_1" {} [] 1 "progress",
   .commit "evt_1" ⟨1, "progress", "xp_1", "point_1", "grant_1"⟩,
   .load "evt_2" {} [] 2 "progress_2",
   .load "evt_3" {} [] 2 "progress_3",
   .commit "evt_2" ⟨3, "progress_2", "xp_2", "point_2", "grant_2"⟩,
   .commit "evt_3" ⟨4, "progress_3", "xp_3", "point_3", "grant_3"⟩]

theorem untouched_threeComments : commentSlice.Untouched threeComments :=
  ⟨by decide, by decide, by decide, by decide, by decide⟩

theorem missionProgress_counted_commentsTogether :
    Throughout commentSlice.step (fun s => commentSlice.Counted s.committed)
      (MissionSlice.start threeComments) (commentsTogether.take 5) :=
  (MissionSlice.missionProgress_counted_iff commentSlice untouched_threeComments
    (commentsTogether.take 5)).mpr (by decide)

/-- Both of the workers complete the mission, and both deliver its reward. -/
theorem missionReward_twice_commentsTogether :
    commentSlice.Untouched threeComments ∧
    (commentSlice.processed (run commentSlice.step (MissionSlice.start threeComments)
      commentsTogether).committed).card = 3 ∧
    (commentSlice.granted (run commentSlice.step (MissionSlice.start threeComments)
      commentsTogether).committed.xpEntries).map Prod.snd = [10, 10] :=
  ⟨untouched_threeComments, by decide, by decide⟩

end Fanfolio
