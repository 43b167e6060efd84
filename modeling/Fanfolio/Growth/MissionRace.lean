import Fanfolio.Framework.RowLock
import Fanfolio.Growth.Processing
import Mathlib.Data.Finset.Card
import Mathlib.Tactic.MkIffOfInductiveProp

/-!
# Workers on one mission

Workers on different events of a fan share the progress row of a mission. Each of them reads
the row without a lock and writes what it made of it when it commits.
-/

namespace Fanfolio

open Framework

/-- One mission of one fan in one period, and the events that match it. -/
structure MissionSlice where
  userId : UserId
  mission : MissionDefinition
  periodKey : String
  eventIds : Finset EventId

/-- What the worker on an event is about. -/
inductive ProgressPhase where
  | idle
  | inserted (event : EngagementEvent) (progress : MissionProgress)
  | loaded (event : EngagementEvent) (progress : MissionProgress)
deriving DecidableEq, Repr

/-- A step of the worker on an event, or of any other transaction. -/
inductive ProgressAction where
  /-- `get_or_create_mission_progress` for the mission, in the attempt on the event. -/
  | load (eventId : EventId) (readings : CardReadings) (order : List MissionDefinition)
      (now : Time) (progressId : ProgressId)
  /-- The rest of the attempt, up to its commit or rollback. -/
  | commit (eventId : EventId) (draws : MissionDraws)
  | abort (eventId : EventId)
  /-- A commit that leaves the mission of the fan alone. -/
  | elsewhere (db : GrowthDb)

/-- The committed tables, who has inserted the row without a commit, and the workers. -/
abbrev MissionRace := Locked EventId GrowthDb ProgressPhase

namespace MissionSlice

variable (slice : MissionSlice)

def key : UserId × MissionId × String := (slice.userId, slice.mission.id, slice.periodKey)

/-- The rule key that `deliver_mission_reward` grants under. -/
def ruleKey : String := "mission:" ++ slice.mission.id ++ ":" ++ slice.periodKey

/-- The entries that the mission granted to the fan. -/
def granted {ν : Type} (entries : List (RuleKey × ν)) : List (RuleKey × ν) :=
  entries.filter fun entry => entry.1.1 == slice.userId && entry.1.2.2 == slice.ruleKey

/-- The attempt on the event moves the mission of the fan in the period. -/
def Moves (db : GrowthDb) (event : EngagementEvent) (readings : CardReadings)
    (order : List MissionDefinition) (now : Time) : Prop :=
  event.userId = slice.userId ∧ slice.mission ∈ missionsMoved db event readings order now ∧
    missionPeriodKey slice.mission.recurrence now slice.mission.startsAt slice.mission.endsAt =
      slice.periodKey

instance (db : GrowthDb) (event : EngagementEvent) (readings : CardReadings)
    (order : List MissionDefinition) (now : Time) :
    Decidable (slice.Moves db event readings order now) :=
  inferInstanceAs (Decidable (_ ∧ _ ∧ _))

def isProcessed (db : GrowthDb) (eventId : EventId) : Bool :=
  (db.findEvent eventId).any (·.status == .processed)

/-- The events that are committed as processed. -/
def processed (db : GrowthDb) : Finset EventId :=
  slice.eventIds.filter fun eventId => isProcessed db eventId

/-- A commit of another transaction: the rows of the mission and the events that workers hold
stay as they are, and none of the events becomes processed. -/
def Keeps (s : MissionRace) (db : GrowthDb) : Prop :=
  db.findProgress slice.key = s.committed.findProgress slice.key ∧
  slice.granted db.xpEntries = slice.granted s.committed.xpEntries ∧
  slice.granted db.pointEntries = slice.granted s.committed.pointEntries ∧
  slice.granted db.rewardEntries = slice.granted s.committed.rewardEntries ∧
  ∀ eventId ∈ slice.eventIds, isProcessed db eventId = isProcessed s.committed eventId ∧
    (s.phase eventId ≠ .idle → db.findEvent eventId = s.committed.findEvent eventId)

instance (s : MissionRace) (db : GrowthDb) : Decidable (slice.Keeps s db) :=
  inferInstanceAs (Decidable (_ ∧ _ ∧ _ ∧ _ ∧ _))

/-- `update_mission_progress` after the load, and the commit of the event as processed. -/
def finish (db : GrowthDb) (event : EngagementEvent) (progress : MissionProgress)
    (draws : MissionDraws) : Except Failure GrowthDb := do
  let (finished, _) ← finishMissionProgress db event slice.mission slice.periodKey progress draws
  return finished.patchEvent event.id (·.processed (event.attemptCount + 1) draws.now)

/-- One step; a step that waits for an insert of the row leaves the state as it is. -/
def step (s : MissionRace) : ProgressAction → MissionRace
  | .load eventId readings order now progressId =>
    match s.phase eventId, s.committed.findEvent eventId with
    | .idle, some event =>
      if event.status ≠ .processed ∧ event.status ≠ .deadLetter ∧ eventId ∈ slice.eventIds ∧
          slice.Moves s.committed event readings order now then
        match s.committed.findProgress slice.key with
        | some progress => s.move eventId (.loaded event progress)
        | none =>
          if s.lock = none then
            match getOrCreateMissionProgress s.committed event.userId slice.mission.id
                slice.periodKey progressId now with
            | .ok (_, progress) => s.acquire eventId (.inserted event progress)
            | .error _ => s
          else s
      else s
    | _, _ => s
  | .commit eventId draws =>
    match s.phase eventId with
    | .idle => s
    | .inserted event progress =>
      match slice.finish { s.committed with progress := s.committed.progress ++ [progress] } event
          progress draws with
      | .ok db => s.release eventId db .idle
      | .error _ => s.release eventId s.committed .idle
    | .loaded event progress =>
      match slice.finish s.committed event progress draws with
      | .ok db => s.publish eventId db .idle
      | .error _ => s.move eventId .idle
  | .abort eventId =>
    if s.lock = some eventId then s.release eventId s.committed .idle else s.move eventId .idle
  | .elsewhere db => if slice.Keeps s db then { s with committed := db } else s

/-- After `n` processed events the value is `min n target`, and every part of the reward has
been granted once if `n` has reached the target and not at all before. -/
@[mk_iff]
structure Counted (db : GrowthDb) : Prop where
  value : db.missionValue slice.key = min (slice.processed db).card slice.mission.targetValue
  xp : (slice.granted db.xpEntries).map Prod.snd =
    if slice.mission.targetValue ≤ (slice.processed db).card
    then slice.mission.rewardPayload.xpPart.toList else []
  points : (slice.granted db.pointEntries).map Prod.snd =
    if slice.mission.targetValue ≤ (slice.processed db).card
    then slice.mission.rewardPayload.pointPart.toList else []
  rewards : (slice.granted db.rewardEntries).map Prod.snd =
    if slice.mission.targetValue ≤ (slice.processed db).card
    then slice.mission.rewardPayload.rewardId.toList else []

/-- The fan has not begun the mission in the period. -/
structure Untouched (db : GrowthDb) : Prop where
  progress : db.findProgress slice.key = none
  events : ∀ eventId ∈ slice.eventIds, isProcessed db eventId = false
  xp : slice.granted db.xpEntries = []
  points : slice.granted db.pointEntries = []
  rewards : slice.granted db.rewardEntries = []

/-- The row has the value that was loaded, or a mission without reward is completed again. -/
def FindsFresh (db : GrowthDb) (progress : MissionProgress) : Prop :=
  db.missionValue slice.key = progress.currentValue ∨
    slice.mission.rewardPayload = {} ∧ progress.currentValue + 1 = slice.mission.targetValue

instance (db : GrowthDb) (progress : MissionProgress) : Decidable (slice.FindsFresh db progress) :=
  inferInstanceAs (Decidable (_ ∨ _ ∧ _))

/-- Every worker that has loaded the row, and is not rolled back, commits a fresh value. -/
def CommitsFresh (s : MissionRace) : ProgressAction → Prop
  | .commit eventId draws =>
    match s.phase eventId with
    | .loaded event progress =>
      (slice.finish s.committed event progress draws).isOk → slice.FindsFresh s.committed progress
    | _ => True
  | _ => True

instance (s : MissionRace) : (a : ProgressAction) → Decidable (slice.CommitsFresh s a)
  | .commit eventId draws => by
    unfold CommitsFresh
    dsimp only
    cases s.phase eventId <;> infer_instance
  | .load .. => isTrue trivial
  | .abort _ => isTrue trivial
  | .elsewhere _ => isTrue trivial

section

variable {slice : MissionSlice} {db db' : GrowthDb} {event : EngagementEvent}
  {progress row : MissionProgress} {draws : MissionDraws}

theorem granted_elim {ν : Type} {entries : List (RuleKey × ν)} {eventId : EventId}
    (hfresh : ∀ entry ∈ slice.granted entries, entry.1.2.1 ≠ eventId) (part : Option ν) :
    slice.granted (part.elim entries (addEntry entries (slice.userId, eventId, slice.ruleKey))) =
      slice.granted entries ++
        part.toList.map fun v => ((slice.userId, eventId, slice.ruleKey), v) := by
  cases part with
  | none => simp
  | some v =>
    have hnew : (slice.userId, eventId, slice.ruleKey) ∉ entries.map Prod.fst := by
      intro hmem
      obtain ⟨entry, hentry, hkey⟩ := List.mem_map.mp hmem
      exact hfresh entry (by simp [granted, hentry, hkey]) (by rw [hkey])
    simp only [Option.elim_some, addEntry_of_notMem hnew]
    simp [granted, List.filter_append]

/-- A row is completed exactly if its value is the target. -/
structure Sound (slice : MissionSlice) (progress : MissionProgress) : Prop where
  le : progress.currentValue ≤ slice.mission.targetValue
  completed : progress.completedAt ≠ none ↔ progress.currentValue = slice.mission.targetValue

theorem flush_refl (progress row : MissionProgress) : progress.flush progress row = row := by
  simp [MissionProgress.flush]

theorem Sound.advance_completed (h : slice.Sound progress)
    (hdone : progress.currentValue = slice.mission.targetValue) (now : Time) :
    progress.advance slice.mission.targetValue now = progress := by
  have hcompleted := h.completed.mpr hdone
  unfold MissionProgress.advance
  split
  · rfl
  · rename_i hnone
    exact absurd hnone hcompleted

theorem Sound.advance_open (h : slice.Sound progress)
    (hopen : progress.currentValue < slice.mission.targetValue) (now : Time) :
    progress.completedAt = none ∧ progress.advance slice.mission.targetValue now =
      { progress with
        currentValue := progress.currentValue + 1
        updatedAt := now
        completedAt := if progress.currentValue + 1 = slice.mission.targetValue then some now
          else none } := by
  have hnone : progress.completedAt = none := by
    by_contra hcompleted
    exact absurd (h.completed.mp hcompleted) (Nat.ne_of_lt hopen)
  refine ⟨hnone, ?_⟩
  have hmin : min (progress.currentValue + 1) slice.mission.targetValue =
      progress.currentValue + 1 := Nat.min_eq_left hopen
  have hreach : slice.mission.targetValue ≤ progress.currentValue + 1 ↔
      progress.currentValue + 1 = slice.mission.targetValue := by omega
  simp only [MissionProgress.advance, hnone, hmin, hreach]

/-- What a worker that commits makes of the tables it commits to. -/
structure Finished (slice : MissionSlice) (db db' : GrowthDb) (event : EngagementEvent)
    (progress : MissionProgress) (now : Time) : Prop where
  found : db'.findProgress slice.key = (db.findProgress slice.key).map fun row =>
    if row.id = progress.id then
      progress.flush (progress.advance slice.mission.targetValue now) row else row
  events : ∀ eventId, db'.findEvent eventId = (db.findEvent eventId).map fun row =>
    if row.id = event.id then row.processed (event.attemptCount + 1) now else row
  delivered : progress.completedAt = none ∧
      (progress.advance slice.mission.targetValue now).completedAt ≠ none →
    Delivers { db with progress := db'.progress, points := { db.points with events := db'.events } }
      db' (event.userId, event.id, slice.ruleKey) slice.mission.rewardPayload
  same : ¬(progress.completedAt = none ∧
      (progress.advance slice.mission.targetValue now).completedAt ≠ none) →
    db'.xpEntries = db.xpEntries ∧ db'.pointEntries = db.pointEntries ∧
      db'.rewardEntries = db.rewardEntries

theorem finish_ok (h : slice.finish db event progress draws = .ok db') :
    slice.Finished db db' event progress draws.now := by
  simp only [finish, bind_ok, Prod.exists, pure_ok] at h
  obtain ⟨finished, changed, hfinish, rfl⟩ := h
  obtain ⟨rfl, written, hwritten, hrest⟩ := finishMissionProgress_ok hfinish
  have hgrants : Grants written finished := by
    split at hrest
    · exact hrest.grants
    · exact hrest ▸ Grants.refl written
  refine ⟨?_, ?_, ?_, ?_⟩
  · show finished.findProgress slice.key = _
    rw [GrowthDb.findProgress, hgrants.progress, hwritten]
    exact findProgress_flush progress _ slice.key
  · intro eventId
    rw [findEvent_patch _ _ _ (by intro _; rfl), GrowthDb.findEvent, hgrants.events, hwritten]
    rfl
  · intro hcompletes
    rw [if_pos hcompletes, hwritten] at hrest
    exact ⟨rfl, hrest.missions, rfl, hrest.xp, hrest.points, hrest.rewards⟩
  · intro hsteps
    rw [if_neg hsteps] at hrest
    rw [hrest, hwritten]
    exact ⟨rfl, rfl, rfl⟩

/-- What the grants of the mission are accounted by: its row and the events that completed it. -/
structure Accounted (slice : MissionSlice) (db : GrowthDb) : Prop where
  sound : ∀ row, db.findProgress slice.key = some row → slice.Sound row
  xp : ∀ entry ∈ slice.granted db.xpEntries, entry.1.2.1 ∈ slice.processed db
  points : ∀ entry ∈ slice.granted db.pointEntries, entry.1.2.1 ∈ slice.processed db
  rewards : ∀ entry ∈ slice.granted db.rewardEntries, entry.1.2.1 ∈ slice.processed db

/-- What a worker knows of its event, whose row it holds. -/
structure Working (slice : MissionSlice) (db : GrowthDb) (event : EngagementEvent) : Prop where
  found : db.findEvent event.id = some event
  unprocessed : event.status ≠ .processed
  userId : event.userId = slice.userId
  mem : event.id ∈ slice.eventIds

theorem Working.notMem (h : slice.Working db event) : event.id ∉ slice.processed db := by
  intro hmem
  have hprocessed := (Finset.mem_filter.mp hmem).2
  rw [isProcessed, h.found] at hprocessed
  exact h.unprocessed (by simpa using hprocessed)

theorem Finished.isProcessed (h : slice.Finished db db' event progress draws.now)
    (eventId : EventId) : isProcessed db' eventId =
      if eventId = event.id then (db.findEvent eventId).isSome else isProcessed db eventId := by
  rw [MissionSlice.isProcessed, h.events, MissionSlice.isProcessed]
  cases hfind : db.findEvent eventId with
  | none => simp
  | some row =>
    have hid : row.id = eventId := by
      simpa using List.find?_some (p := fun row : EngagementEvent => row.id == eventId) hfind
    by_cases heq : eventId = event.id <;> simp [hid, heq, EngagementEvent.processed]

theorem Finished.processed (h : slice.Finished db db' event progress draws.now)
    (hworking : slice.Working db event) :
    slice.processed db' = insert event.id (slice.processed db) := by
  ext eventId
  simp only [MissionSlice.processed, Finset.mem_filter, Finset.mem_insert, h.isProcessed]
  by_cases heq : eventId = event.id
  · simp [heq, hworking.found, hworking.mem]
  · simp [heq]

/-- The entries of one part of the reward, if the worker completes the mission. -/
def delivery (slice : MissionSlice) (event : EngagementEvent) (progress : MissionProgress)
    {ν : Type} (part : Option ν) : List (RuleKey × ν) :=
  if progress.currentValue + 1 = slice.mission.targetValue then
    part.toList.map fun v => ((slice.userId, event.id, slice.ruleKey), v)
  else []

/-- The rule entries after the worker: one more for every part of a reward that it delivers. -/
theorem Finished.granted_part {ν : Type} {entries entries' : List (RuleKey × ν)} {part : Option ν}
    (hsound : slice.Sound progress) (now : Time)
    (hfresh : ∀ entry ∈ slice.granted entries, entry.1.2.1 ≠ event.id)
    (huser : event.userId = slice.userId)
    (hdelivered : progress.completedAt = none ∧
        (progress.advance slice.mission.targetValue now).completedAt ≠ none →
      entries' = part.elim entries (addEntry entries (event.userId, event.id, slice.ruleKey)))
    (hsame : ¬(progress.completedAt = none ∧
        (progress.advance slice.mission.targetValue now).completedAt ≠ none) → entries' = entries) :
    slice.granted entries' = slice.granted entries ++ slice.delivery event progress part := by
  unfold delivery
  rcases Nat.lt_or_eq_of_le hsound.le with hopen | hdone
  · obtain ⟨hnone, hadvance⟩ := hsound.advance_open hopen now
    by_cases hreach : progress.currentValue + 1 = slice.mission.targetValue
    · rw [hdelivered ⟨hnone, by rw [hadvance]; simp [hreach]⟩, huser, granted_elim hfresh,
        if_pos hreach]
    · rw [hsame (by rw [hadvance]; simp [hreach]), if_neg hreach, List.append_nil]
  · rw [hsame (by rw [hsound.advance_completed hdone]; tauto),
      if_neg (by omega), List.append_nil]

theorem delivery_snd {ν : Type} {entries entries' : List (RuleKey × ν)} {part : Option ν}
    (h : slice.granted entries' = slice.granted entries ++ slice.delivery event progress part) :
    (slice.granted entries').map Prod.snd = (slice.granted entries).map Prod.snd ++
      if progress.currentValue + 1 = slice.mission.targetValue then part.toList else [] := by
  rw [h, List.map_append, delivery]
  split <;> simp [Function.comp_def]

/-- One more event keeps a part of the reward accounted for exactly if the worker completes the
mission when the events do, or if the part is empty. -/
theorem partCounted_iff {ν : Type} {values values' : List ν} {part : Option ν} {n v target : Nat}
    (hbefore : values = if target ≤ n then part.toList else [])
    (hafter : values' = values ++ if v + 1 = target then part.toList else []) :
    values' = (if target ≤ n + 1 then part.toList else []) ↔
      part = none ∨ (v + 1 = target ↔ n + 1 = target) := by
  subst hbefore hafter
  cases part with
  | none => simp
  | some value =>
    by_cases hv : v + 1 = target <;> by_cases hn : target ≤ n <;>
      by_cases hn' : target ≤ n + 1 <;> simp [hv, hn, hn'] <;> omega

/-- The values of the row when a worker has written what it made of an older one. -/
theorem Finished.value (h : slice.Finished db db' event progress draws.now)
    (hrow : db.findProgress slice.key = some row) (hid : row.id = progress.id)
    (hsound : slice.Sound progress) :
    ∃ row', db'.findProgress slice.key = some row' ∧ row'.id = row.id ∧
      (progress.currentValue = slice.mission.targetValue → row' = row) ∧
      (progress.currentValue < slice.mission.targetValue →
        row'.currentValue = progress.currentValue + 1 ∧
        row'.completedAt = if progress.currentValue + 1 = slice.mission.targetValue
          then some draws.now else row.completedAt) := by
  refine ⟨progress.flush (progress.advance slice.mission.targetValue draws.now) row, ?_, rfl, ?_, ?_⟩
  · rw [h.found, hrow, Option.map_some, if_pos hid]
  · intro hdone
    rw [hsound.advance_completed hdone, flush_refl]
  · intro hopen
    obtain ⟨hnone, hadvance⟩ := hsound.advance_open hopen draws.now
    rw [hadvance]
    by_cases hreach : progress.currentValue + 1 = slice.mission.targetValue <;>
      simp [MissionProgress.flush, hreach, hnone]
    omega

theorem Accounted.fresh {ν : Type} {entries : List (RuleKey × ν)}
    (h : ∀ entry ∈ slice.granted entries, entry.1.2.1 ∈ slice.processed db)
    (hworking : slice.Working db event) :
    ∀ entry ∈ slice.granted entries, entry.1.2.1 ≠ event.id := by
  intro entry hentry heq
  exact hworking.notMem (heq ▸ h entry hentry)

/-- The entries after the worker are accounted by the events before it and its own. -/
theorem accounted_part {ν : Type} {entries entries' : List (RuleKey × ν)} {part : Option ν}
    (h : ∀ entry ∈ slice.granted entries, entry.1.2.1 ∈ slice.processed db)
    (hprocessed : slice.processed db' = insert event.id (slice.processed db))
    (hgranted : slice.granted entries' =
      slice.granted entries ++ slice.delivery event progress part) :
    ∀ entry ∈ slice.granted entries', entry.1.2.1 ∈ slice.processed db' := by
  intro entry hentry
  rw [hprocessed, Finset.mem_insert]
  rw [hgranted, List.mem_append] at hentry
  rcases hentry with hold | hnew
  · exact .inr (h entry hold)
  · unfold delivery at hnew
    split at hnew
    · obtain ⟨v, -, rfl⟩ := List.mem_map.mp hnew
      exact .inl rfl
    · cases hnew

/-- A worker that loaded `v` makes `v + 1` of the `n`-th value, unless it loaded the target. -/
theorem counts_iff_arith {n v value value' target : Nat} {noXp noPoints noReward : Prop}
    (hcount : value = min n target) (hle : v ≤ value) (hv : v ≤ target)
    (hdone : v = target → value' = value) (hopen : v < target → value' = v + 1) :
    (value' = min (n + 1) target ∧ (noXp ∨ (v + 1 = target ↔ n + 1 = target)) ∧
      (noPoints ∨ (v + 1 = target ↔ n + 1 = target)) ∧
      (noReward ∨ (v + 1 = target ↔ n + 1 = target))) ↔
      value = v ∨ (noXp ∧ noPoints ∧ noReward) ∧ v + 1 = target := by
  by_cases hfresh : value = v
  · have hlast : v + 1 = target ↔ n + 1 = target := by omega
    exact iff_of_true ⟨by omega, .inr hlast, .inr hlast, .inr hlast⟩ (.inl hfresh)
  · have hstale : value' = v + 1 := hopen (by omega)
    by_cases hreach : v + 1 = target
    · have hvalue : value' = min (n + 1) target := by omega
      have hlast : n + 1 ≠ target := by omega
      simp only [hvalue, hlast, hfresh, hreach, iff_false, not_true, or_false, false_or, and_true,
        true_and]
    · have hvalue : value' ≠ min (n + 1) target := by omega
      simp only [hvalue, hfresh, hreach, false_and, and_false, or_false]

section

variable (hfin : slice.Finished db db' event progress draws.now) (hacc : slice.Accounted db)
  (hworking : slice.Working db event) (hrow : db.findProgress slice.key = some row)
  (hid : row.id = progress.id) (hsound : slice.Sound progress)
  (hle : progress.currentValue ≤ row.currentValue)

include hfin hacc hworking hrow hid hsound hle

omit hrow hid hle in
theorem Finished.granted :
    slice.granted db'.xpEntries = slice.granted db.xpEntries ++
      slice.delivery event progress slice.mission.rewardPayload.xpPart ∧
    slice.granted db'.pointEntries = slice.granted db.pointEntries ++
      slice.delivery event progress slice.mission.rewardPayload.pointPart ∧
    slice.granted db'.rewardEntries = slice.granted db.rewardEntries ++
      slice.delivery event progress slice.mission.rewardPayload.rewardId :=
  ⟨Finished.granted_part hsound draws.now (Accounted.fresh hacc.xp hworking) hworking.userId
      (fun h => (hfin.delivered h).xp) fun h => (hfin.same h).1,
    Finished.granted_part hsound draws.now (Accounted.fresh hacc.points hworking) hworking.userId
      (fun h => (hfin.delivered h).points) fun h => (hfin.same h).2.1,
    Finished.granted_part hsound draws.now (Accounted.fresh hacc.rewards hworking) hworking.userId
      (fun h => (hfin.delivered h).rewards) fun h => (hfin.same h).2.2⟩

theorem Finished.accounted (hfresh : slice.FindsFresh db progress) :
    slice.Accounted db' ∧ ∃ row', db'.findProgress slice.key = some row' ∧ row'.id = row.id ∧
      row.currentValue ≤ row'.currentValue := by
  have hrowSound := hacc.sound row hrow
  have hvalue : db.missionValue slice.key = row.currentValue := by
    rw [GrowthDb.missionValue, hrow]
    rfl
  rw [FindsFresh, hvalue] at hfresh
  obtain ⟨row', hrow', hid', hdone', hopen'⟩ := hfin.value hrow hid hsound
  have hprocessed := hfin.processed hworking
  obtain ⟨hxp, hpoints, hrewards⟩ := hfin.granted hacc hworking hsound
  refine ⟨⟨?_, ?_, ?_, ?_⟩, row', hrow', hid', ?_⟩
  · intro found hfound
    obtain rfl : row' = found := Option.some.inj (hrow'.symm.trans hfound)
    rcases Nat.lt_or_eq_of_le hsound.le with hopen | hdone
    · obtain ⟨hval, hcompleted⟩ := hopen' hopen
      by_cases hreach : progress.currentValue + 1 = slice.mission.targetValue
      · exact ⟨by omega, by rw [hcompleted, hval]; simp [hreach]⟩
      · have hsame : row.currentValue = progress.currentValue := by tauto
        refine ⟨by omega, ?_⟩
        rw [hcompleted, if_neg hreach, hrowSound.completed, hval]
        omega
    · rw [hdone' hdone]
      exact hrowSound
  · exact accounted_part hacc.xp hprocessed hxp
  · exact accounted_part hacc.points hprocessed hpoints
  · exact accounted_part hacc.rewards hprocessed hrewards
  · rcases Nat.lt_or_eq_of_le hsound.le with hopen | hdone
    · have hval := (hopen' hopen).1
      have := hrowSound.le
      rcases hfresh with hsame | ⟨-, hreach⟩ <;> omega
    · rw [hdone' hdone]

/-- A commit keeps the mission counted exactly if the worker finds what it has loaded. -/
theorem Finished.counts_iff (hcounted : slice.Counted db) :
    slice.Counted db' ↔ slice.FindsFresh db progress := by
  have hrowSound := hacc.sound row hrow
  have hvalue : db.missionValue slice.key = row.currentValue := by
    rw [GrowthDb.missionValue, hrow]
    rfl
  have hcount := hcounted.value
  rw [hvalue] at hcount
  obtain ⟨row', hrow', -, hdone', hopen'⟩ := hfin.value hrow hid hsound
  have hvalue' : db'.missionValue slice.key = row'.currentValue := by
    rw [GrowthDb.missionValue, hrow']
    rfl
  have hcard : (slice.processed db').card = (slice.processed db).card + 1 := by
    rw [hfin.processed hworking, Finset.card_insert_of_notMem hworking.notMem]
  obtain ⟨hgrantedXp, hgrantedPoints, hgrantedRewards⟩ := hfin.granted hacc hworking hsound
  have hxp := partCounted_iff (hcounted.xp) (delivery_snd hgrantedXp)
  have hpoints := partCounted_iff (hcounted.points) (delivery_snd hgrantedPoints)
  have hrewards := partCounted_iff (hcounted.rewards) (delivery_snd hgrantedRewards)
  rw [FindsFresh, MissionReward.eq_empty_iff, hvalue]
  rw [MissionSlice.counted_iff, hvalue', hcard, hxp, hpoints, hrewards]
  exact counts_iff_arith hcount hle hsound.le (fun hdone => by rw [hdone' hdone])
    fun hopen => (hopen' hopen).1

end

end

end MissionSlice

end Fanfolio
