import Fanfolio.Framework.RowLock
import Fanfolio.Framework.Run
import Fanfolio.Pass.Claim

/-!
# Claims that overlap

A claim reads the lists of claimed tiers when it loads the row of the fan, and rewrites the list
of its track as a whole when it commits. Views and workers refresh the row in between.
-/

namespace Fanfolio

open Framework

/-- A claim is known by its tier and its track. -/
abbrev TierClaim := TierId × PassTrack

/-- What a claim is about: it has inserted the row of the fan, or loaded it. -/
inductive ClaimPhase where
  | idle
  | inserted (tier : PassTier) (season : PassSeason) (progress : PassProgress)
  | loaded (tier : PassTier) (season : PassSeason) (progress : PassProgress)
deriving DecidableEq, Repr

/-- A step of a claim, or of any other transaction. -/
inductive ClaimAction where
  /-- The checks of `claim_pass_tier` and `refresh_pass_progress`. -/
  | load (claim : TierClaim) (now : Time)
  /-- The rest of the claim, up to its commit or rollback. -/
  | commit (claim : TierClaim) (draws : ClaimDraws) (now : Time)
  | abort (claim : TierClaim)
  /-- `refresh_pass_progress` by a view or a worker. -/
  | refresh (now : Time)
  /-- A commit that leaves the row of the fan alone. -/
  | elsewhere (db : PassDb)

/-- The committed tables, the claims, and the claims that have reported success. -/
structure ClaimRace where
  tables : Locked TierClaim PassDb ClaimPhase
  succeeded : List TierClaim := []

/-- One fan in one season. -/
structure PassSlice where
  userId : UserId
  seasonId : SeasonId
deriving DecidableEq, Repr

namespace PassSlice

variable (slice : PassSlice)

def row (db : PassDb) : Option PassProgress := db.findPassProgress slice.userId slice.seasonId

def claimed (db : PassDb) (track : PassTrack) : List TierId :=
  claimedIn db.passProgress slice.userId slice.seasonId track

/-- A commit of another transaction: the tiers and the row of the fan stay as they are, and no
row takes the primary key of a row that a claim has inserted. -/
def Keeps (s : ClaimRace) (db : PassDb) : Prop :=
  db.tiers = s.tables.committed.tiers ∧ slice.row db = slice.row s.tables.committed ∧
    (db.passProgress.map (·.id)).Nodup ∧
    (s.tables.lock ≠ none →
      passProgressId slice.userId slice.seasonId ∉ db.passProgress.map (·.id))

instance (s : ClaimRace) (db : PassDb) : Decidable (slice.Keeps s db) :=
  inferInstanceAs (Decidable (_ ∧ _ ∧ _ ∧ _))

/-- One step; a step that waits for an insert of the row leaves the state as it is. -/
def step (s : ClaimRace) : ClaimAction → ClaimRace
  | .load claim now =>
    match s.tables.phase claim, checkClaim s.tables.committed claim.1 claim.2 now with
    | .idle, .ok (tier, season) =>
      if season.id = slice.seasonId then
        match refreshPassProgress s.tables.committed.toGrowthDb slice.userId season now,
            slice.row s.tables.committed with
        | .ok (_, progress), some _ =>
          { s with tables := s.tables.move claim (.loaded tier season progress) }
        | .ok (_, progress), none =>
          if s.tables.lock = none then
            { s with tables := s.tables.acquire claim (.inserted tier season progress) }
          else s
        | .error _, _ => s
      else s
    | _, _ => s
  | .commit claim draws now =>
    match s.tables.phase claim with
    | .idle => s
    | .inserted tier season progress =>
      let inserted : PassDb :=
        { s.tables.committed with passProgress := s.tables.committed.passProgress ++ [progress] }
      match finishClaim inserted slice.userId tier season claim.2 progress draws now with
      | .ok db => ⟨s.tables.release claim db .idle, s.succeeded ++ [claim]⟩
      | .error _ => { s with tables := s.tables.release claim s.tables.committed .idle }
    | .loaded tier season progress =>
      match finishClaim s.tables.committed slice.userId tier season claim.2 progress draws now with
      | .ok db => ⟨s.tables.publish claim db .idle, s.succeeded ++ [claim]⟩
      | .error _ => { s with tables := s.tables.move claim .idle }
  | .abort claim =>
    if s.tables.lock = some claim then
      { s with tables := s.tables.release claim s.tables.committed .idle }
    else { s with tables := s.tables.move claim .idle }
  | .refresh now =>
    match s.tables.committed.findSeason slice.seasonId with
    | none => s
    | some season =>
      if slice.row s.tables.committed = none ∧ s.tables.lock ≠ none then s
      else
        match refreshPassProgress s.tables.committed.toGrowthDb slice.userId season now with
        | .ok (growth, _) =>
          let refreshed : PassDb := { s.tables.committed with toGrowthDb := growth }
          { s with tables := { s.tables with committed := refreshed } }
        | .error _ => s
  | .elsewhere db =>
    if slice.Keeps s db then { s with tables := { s.tables with committed := db } } else s

/-- No claim is about its tier, and none has been before. -/
def start (db : PassDb) : ClaimRace := ⟨⟨db, none, fun _ => .idle⟩, []⟩

/-- Every claim that reported success is in the list of its track. -/
def Listed (s : ClaimRace) : Prop :=
  ∀ claim ∈ s.succeeded, claim.1 ∈ slice.claimed s.tables.committed claim.2

instance : DecidablePred slice.Listed := fun s =>
  inferInstanceAs (Decidable (∀ claim ∈ s.succeeded, _))

/-- Every claim that reported success is in the list of its track, and is refused from then on. -/
def Kept (s : ClaimRace) : Prop :=
  slice.Listed s ∧ ∀ claim ∈ s.succeeded, ∀ draws now db,
    claimPassTier s.tables.committed slice.userId claim.1 claim.2 draws now ≠ .ok db

/-- Every claim that goes through commits the list it has loaded: no other tier came in between. -/
def CommitsCurrent (s : ClaimRace) : ClaimAction → Prop
  | .commit claim draws now =>
    match s.tables.phase claim with
    | .loaded tier season progress =>
      (finishClaim s.tables.committed slice.userId tier season claim.2 progress draws now).isOk →
        ∀ tierId ∈ slice.claimed s.tables.committed claim.2,
          tierId ∈ progress.claimedIds claim.2 ∨ tierId = claim.1
    | _ => True
  | _ => True

instance (s : ClaimRace) : (a : ClaimAction) → Decidable (slice.CommitsCurrent s a)
  | .commit claim draws now => by
    unfold CommitsCurrent
    dsimp only
    cases s.tables.phase claim <;> infer_instance
  | .load .. => isTrue trivial
  | .abort _ => isTrue trivial
  | .refresh _ => isTrue trivial
  | .elsewhere _ => isTrue trivial

section

variable {slice : PassSlice} {db db' : PassDb} {claim : TierClaim} {tier : PassTier}
  {season : PassSeason} {progress : PassProgress}

/-- What a claim has checked before it goes on. -/
structure Checked (slice : PassSlice) (db : PassDb) (claim : TierClaim) (tier : PassTier)
    (season : PassSeason) : Prop where
  found : db.findTier claim.1 = some tier
  season : season.id = slice.seasonId
  inSeason : tier.seasonId = slice.seasonId
  track : claim.2 = .free ∨ claim.2 = .premium

theorem Checked.id (h : slice.Checked db claim tier season) : tier.id = claim.1 :=
  (mem_of_find_eq_some (g := PassTier.id) h.found).2

theorem Checked.of_checkClaim {now : Time}
    (h : checkClaim db claim.1 claim.2 now = .ok (tier, season))
    (hseason : season.id = slice.seasonId) : slice.Checked db claim tier season := by
  obtain ⟨htier, hid, htrack⟩ := checkClaim_ok h
  exact ⟨htier, hseason, hid.symm.trans hseason, htrack⟩

theorem Checked.transfer (h : slice.Checked db claim tier season) (htiers : db'.tiers = db.tiers) :
    slice.Checked db' claim tier season := by
  refine ⟨?_, h.season, h.inSeason, h.track⟩
  rw [PassDb.findTier, htiers]
  exact h.found

/-- Every tier of a list of a track has been claimed by a claim that succeeded. -/
def From (succeeded : List TierClaim) (track : PassTrack) (tierIds : List TierId) : Prop :=
  ∀ tierId ∈ tierIds, ∃ claim ∈ succeeded, claim.1 = tierId ∧
    (claim.2 = .premium ↔ track = .premium)

theorem From.append {succeeded : List TierClaim} {track : PassTrack} {tierIds : List TierId}
    (h : From succeeded track tierIds) (later : List TierClaim) :
    From (succeeded ++ later) track tierIds := by
  intro tierId hmem
  obtain ⟨claim, hclaim, heq⟩ := h tierId hmem
  exact ⟨claim, List.mem_append_left _ hclaim, heq⟩

/-- What a claim is about, as long as it has not committed. -/
def Works (slice : PassSlice) (db : PassDb) (succeeded : List TierClaim) (claim : TierClaim) :
    ClaimPhase → Prop
  | .idle => True
  | .inserted tier season progress =>
    slice.Checked db claim tier season ∧ progress.userId = slice.userId ∧
      progress.seasonId = slice.seasonId ∧ ∀ track, progress.claimedIds track = []
  | .loaded tier season progress =>
    slice.Checked db claim tier season ∧ (∃ row, slice.row db = some row ∧ row.id = progress.id) ∧
      From succeeded claim.2 (progress.claimedIds claim.2)

/-- While a claim holds the row it has inserted, there is no other. -/
def holds (slice : PassSlice) : ClaimPhase → Option (PassDb → Prop)
  | .inserted _ _ progress =>
    some fun db => slice.row db = none ∧ progress.id ∉ db.passProgress.map (·.id) ∧
      progress.id = passProgressId slice.userId slice.seasonId
  | _ => none

/-- What holds throughout every run: the claims in the lists have succeeded, and their tiers are
in the season. -/
structure Sound (slice : PassSlice) (s : ClaimRace) : Prop where
  ids : (s.tables.committed.passProgress.map (·.id)).Nodup
  knows : Locked.Knows slice.holds s.tables
  works : ∀ claim, slice.Works s.tables.committed s.succeeded claim (s.tables.phase claim)
  listed : ∀ track, From s.succeeded track (slice.claimed s.tables.committed track)
  known : ∀ claim ∈ s.succeeded, ∃ tier, s.tables.committed.findTier claim.1 = some tier ∧
    tier.seasonId = slice.seasonId

theorem claimed_congr {track track' : PassTrack} (h : track' = .premium ↔ track = .premium) :
    slice.claimed db track' = slice.claimed db track := by
  unfold claimed claimedIn PassProgress.claimedIds
  simp only [h]

theorem claimed_of_row (h : slice.row db' = slice.row db) (track : PassTrack) :
    slice.claimed db' track = slice.claimed db track := by
  unfold row PassDb.findPassProgress at h
  rw [claimed, claimedIn, h, claimed, claimedIn]

/-- A claim that reported success is refused as long as it is in its list. -/
theorem kept_iff_listed {s : ClaimRace} (hsound : slice.Sound s) : slice.Kept s ↔ slice.Listed s := by
  refine ⟨And.left, fun hlisted => ⟨hlisted, ?_⟩⟩
  intro claim hclaim draws now db hdone
  obtain ⟨tier, hfind, hseason⟩ := hsound.known claim hclaim
  obtain ⟨tier', hfind', -, hnew, -⟩ := claimPassTier_ok hsound.ids hdone
  obtain rfl := Option.some.inj (hfind.symm.trans hfind')
  have hid := (mem_of_find_eq_some (g := PassTier.id) hfind).2
  rw [hid, hseason] at hnew
  exact hnew (hlisted claim hclaim)

/-- What a claim that goes through leaves in the lists of the fan. -/
structure Committed (slice : PassSlice) (db db' : PassDb) (claim : TierClaim)
    (loadedIds : List TierId) : Prop where
  ids : (db'.passProgress.map (·.id)).Nodup
  tiers : db'.tiers = db.tiers
  row : ∀ row, slice.row db = some row → ∃ row', slice.row db' = some row' ∧ row'.id = row.id
  claimed : ∀ track, slice.claimed db' track =
    if track = .premium ↔ claim.2 = .premium then loadedIds ++ [claim.1]
    else slice.claimed db track

/-- The claims that have succeeded are all in the lists after one more exactly if it has loaded
the ones of its track. -/
theorem Committed.listed_iff {s : ClaimRace} (hsound : slice.Sound s) (hlisted : slice.Listed s)
    {loadedIds : List TierId}
    (h : slice.Committed s.tables.committed db' claim loadedIds) :
    (∀ claim' ∈ s.succeeded ++ [claim], claim'.1 ∈ slice.claimed db' claim'.2) ↔
      ∀ tierId ∈ slice.claimed s.tables.committed claim.2, tierId ∈ loadedIds ∨ tierId = claim.1 := by
  constructor
  · intro hall tierId hmem
    obtain ⟨claim', hclaim', rfl, htrack⟩ := hsound.listed claim.2 tierId hmem
    have hthere := hall claim' (List.mem_append_left _ hclaim')
    rw [h.claimed, if_pos htrack, List.mem_append, List.mem_singleton] at hthere
    exact hthere
  · intro hloaded claim' hmem
    rw [h.claimed]
    rcases List.mem_append.mp hmem with hold | hnow
    · split
      · rename_i htrack
        have hthere := hlisted claim' hold
        rw [claimed_congr htrack] at hthere
        rw [List.mem_append, List.mem_singleton]
        exact hloaded claim'.1 hthere
      · exact hlisted claim' hold
    · obtain rfl := List.mem_singleton.mp hnow
      rw [if_pos Iff.rfl]
      exact List.mem_append_right _ (List.mem_singleton.mpr rfl)

theorem Committed.of_loaded {row : PassProgress} {draws : ClaimDraws} {now : Time}
    (hids : (db.passProgress.map (·.id)).Nodup) (hchecked : slice.Checked db claim tier season)
    (hrow : slice.row db = some row) (hid : row.id = progress.id)
    (h : finishClaim db slice.userId tier season claim.2 progress draws now = .ok db') :
    slice.Committed db db' claim (progress.claimedIds claim.2) := by
  have hseason := hchecked.season
  have hfound : (db.passProgress.find? fun row =>
      row.userId == slice.userId && row.seasonId == season.id) = some row := by
    rw [hseason]
    exact hrow
  have hdone := finishClaim_ok hids hfound hid h
  refine ⟨hdone.ids ▸ hids, hdone.tiers, ?_, ?_⟩
  · intro row' hrow'
    have hmap := hdone.rows slice.userId slice.seasonId
    unfold PassSlice.row PassDb.findPassProgress at hrow'
    rw [hrow', Option.map_some] at hmap
    exact Option.map_eq_some_iff.mp hmap
  · intro track
    rw [PassSlice.claimed, hdone.claimed, hchecked.id, PassSlice.claimed]
    simp only [hseason, true_and]

theorem Committed.of_inserted {draws : ClaimDraws} {now : Time}
    (hids : (db.passProgress.map (·.id)).Nodup) (hchecked : slice.Checked db claim tier season)
    (huser : progress.userId = slice.userId) (hseason : progress.seasonId = slice.seasonId)
    (hempty : ∀ track, progress.claimedIds track = []) (hnone : slice.row db = none)
    (hnew : progress.id ∉ db.passProgress.map (·.id))
    (h : finishClaim { db with passProgress := db.passProgress ++ [progress] } slice.userId tier
      season claim.2 progress draws now = .ok db') :
    slice.Committed db db' claim [] := by
  have hinserted : slice.row { db with passProgress := db.passProgress ++ [progress] } =
      some progress := by
    unfold PassSlice.row PassDb.findPassProgress at hnone ⊢
    rw [find_insert, hnone]
    simp [huser, hseason]
  have hnodup : ((db.passProgress ++ [progress]).map (·.id)).Nodup :=
    nodup_insert hids fun row hrow heq => hnew (heq ▸ List.mem_map_of_mem hrow)
  have hchecked' : slice.Checked { db with passProgress := db.passProgress ++ [progress] } claim
      tier season := hchecked.transfer rfl
  have hdone := of_loaded hnodup hchecked' hinserted rfl h
  refine ⟨hdone.ids, hdone.tiers, ?_, ?_⟩
  · intro row hrow
    rw [hnone] at hrow
    cases hrow
  · intro track
    have hstart : slice.claimed { db with passProgress := db.passProgress ++ [progress] } track =
        slice.claimed db track := by
      unfold PassSlice.row PassDb.findPassProgress at hinserted hnone
      rw [PassSlice.claimed, claimedIn, hinserted, PassSlice.claimed, claimedIn, hnone]
      exact hempty track
    rw [hdone.claimed, hempty, hstart]

/-- A commit that goes through keeps the race sound. -/
theorem Sound.commit {s : ClaimRace} (hsound : slice.Sound s) {loadedIds : List TierId}
    {tables : Locked TierClaim PassDb ClaimPhase}
    (hchecked : slice.Checked s.tables.committed claim tier season)
    (hphase : tables.phase = Function.update s.tables.phase claim .idle)
    (hknows : Locked.Knows slice.holds tables)
    (h : slice.Committed s.tables.committed tables.committed claim loadedIds)
    (hlists : From s.succeeded claim.2 loadedIds) :
    slice.Sound ⟨tables, s.succeeded ++ [claim]⟩ := by
  refine ⟨h.ids, hknows, ?_, ?_, ?_⟩
  · intro claim'
    dsimp only
    rw [hphase]
    by_cases hsame : claim' = claim
    · subst hsame
      rw [Function.update_self]
      trivial
    · rw [Function.update_of_ne hsame]
      have hworks := hsound.works claim'
      cases hother : s.tables.phase claim' with
      | idle => trivial
      | inserted tier' season' progress' =>
        rw [hother] at hworks
        exact ⟨hworks.1.transfer h.tiers, hworks.2⟩
      | loaded tier' season' progress' =>
        rw [hother] at hworks
        obtain ⟨hchecked', ⟨row, hrow, hid⟩, hloaded⟩ := hworks
        obtain ⟨row', hrow', hid'⟩ := h.row row hrow
        exact ⟨hchecked'.transfer h.tiers, ⟨row', hrow', hid'.trans hid⟩, hloaded.append _⟩
  · intro track tierId hmem
    dsimp only at hmem
    rw [h.claimed] at hmem
    split at hmem
    · rename_i htrack
      rcases List.mem_append.mp hmem with hloaded | hnow
      · obtain ⟨claim', hclaim', heq, hsame⟩ := hlists.append [claim] tierId hloaded
        exact ⟨claim', hclaim', heq, hsame.trans htrack.symm⟩
      · exact ⟨claim, List.mem_append_right _ (List.mem_singleton.mpr rfl),
          (List.mem_singleton.mp hnow).symm, htrack.symm⟩
    · exact (hsound.listed track).append [claim] tierId hmem
  · intro claim' hclaim'
    dsimp only
    rcases List.mem_append.mp hclaim' with hold | hnow
    · obtain ⟨tier', hfind, hseason⟩ := hsound.known claim' hold
      rw [PassDb.findTier, h.tiers]
      exact ⟨tier', hfind, hseason⟩
    · obtain rfl := List.mem_singleton.mp hnow
      rw [PassDb.findTier, h.tiers]
      exact ⟨tier, hchecked.found, hchecked.inSeason⟩

/-- A claim that starts, waits or gives up commits nothing. -/
theorem Sound.go {s : ClaimRace} (hsound : slice.Sound s) {phase : ClaimPhase}
    {tables : Locked TierClaim PassDb ClaimPhase}
    (hcommitted : tables.committed = s.tables.committed)
    (hphase : tables.phase = Function.update s.tables.phase claim phase)
    (hknows : Locked.Knows slice.holds tables)
    (hworks : slice.Works s.tables.committed s.succeeded claim phase) :
    slice.Sound { s with tables := tables } := by
  refine ⟨?_, hknows, ?_, ?_, ?_⟩
  · exact hcommitted ▸ hsound.ids
  · intro claim'
    dsimp only
    rw [hcommitted, hphase]
    by_cases hsame : claim' = claim
    · subst hsame
      rw [Function.update_self]
      exact hworks
    · rw [Function.update_of_ne hsame]
      exact hsound.works claim'
  · exact hcommitted ▸ hsound.listed
  · exact hcommitted ▸ hsound.known

/-- A commit elsewhere keeps the tiers and the lists of the fan. -/
theorem Sound.change {s : ClaimRace} (hsound : slice.Sound s)
    (hids : (db.passProgress.map (·.id)).Nodup) (htiers : db.tiers = s.tables.committed.tiers)
    (hrow : ∀ row, slice.row s.tables.committed = some row →
      ∃ row', slice.row db = some row' ∧ row'.id = row.id)
    (hclaimed : ∀ track, slice.claimed db track = slice.claimed s.tables.committed track)
    (hheld : s.tables.lock ≠ none → slice.row s.tables.committed = none →
      slice.row db = none ∧
        passProgressId slice.userId slice.seasonId ∉ db.passProgress.map (·.id)) :
    slice.Sound { s with tables := { s.tables with committed := db } } := by
  refine ⟨hids, ?_, ?_, ?_, ?_⟩
  · intro claim fact hfact
    obtain ⟨hlock, hold⟩ := hsound.knows claim fact hfact
    refine ⟨hlock, ?_⟩
    dsimp only at hfact ⊢
    cases hphase : s.tables.phase claim with
    | idle =>
      rw [hphase] at hfact
      cases hfact
    | loaded tier season progress =>
      rw [hphase] at hfact
      cases hfact
    | inserted tier season progress =>
      rw [hphase] at hfact
      obtain rfl := Option.some.inj hfact
      obtain ⟨hnone, -, hid⟩ := hold
      have hlocked : s.tables.lock ≠ none := by
        rw [hlock]
        simp
      obtain ⟨hnone', hnew⟩ := hheld hlocked hnone
      exact ⟨hnone', hid ▸ hnew, hid⟩
  · intro claim
    have hworks := hsound.works claim
    dsimp only
    cases hphase : s.tables.phase claim with
    | idle => trivial
    | inserted tier season progress =>
      rw [hphase] at hworks
      exact ⟨hworks.1.transfer htiers, hworks.2⟩
    | loaded tier season progress =>
      rw [hphase] at hworks
      obtain ⟨hchecked, ⟨row, hfound, hid⟩, hloaded⟩ := hworks
      obtain ⟨row', hfound', hid'⟩ := hrow row hfound
      exact ⟨hchecked.transfer htiers, ⟨row', hfound', hid'.trans hid⟩, hloaded⟩
  · intro track
    dsimp only
    rw [hclaimed]
    exact hsound.listed track
  · intro claim hclaim
    dsimp only
    rw [PassDb.findTier, htiers]
    exact hsound.known claim hclaim

theorem works_of_loaded {s : ClaimRace} (hsound : slice.Sound s) {growth : GrowthDb} {now : Time}
    {row : PassProgress} (hchecked : slice.Checked s.tables.committed claim tier season)
    (hrow : slice.row s.tables.committed = some row)
    (h : refreshPassProgress s.tables.committed.toGrowthDb slice.userId season now =
      .ok (growth, progress)) :
    slice.Works s.tables.committed s.succeeded claim (.loaded tier season progress) := by
  have hprogress := refreshPassProgress_row h
  have hlisted := hsound.listed claim.2
  rw [claimed, claimedIn] at hlisted
  rw [PassSlice.row, PassDb.findPassProgress] at hrow
  rw [hchecked.season, hrow] at hprogress
  rw [hrow] at hlisted
  obtain ⟨hid, hlists⟩ := hprogress
  refine ⟨hchecked, ⟨_, hrow, hid.symm⟩, ?_⟩
  rw [hlists]
  exact hlisted

theorem works_of_inserted {s : ClaimRace} {growth : GrowthDb} {now : Time}
    (hchecked : slice.Checked s.tables.committed claim tier season)
    (hnone : slice.row s.tables.committed = none)
    (h : refreshPassProgress s.tables.committed.toGrowthDb slice.userId season now =
      .ok (growth, progress)) :
    slice.Works s.tables.committed s.succeeded claim (.inserted tier season progress) ∧
      progress.id ∉ s.tables.committed.passProgress.map (·.id) ∧
      progress.id = passProgressId slice.userId slice.seasonId := by
  have hprogress := refreshPassProgress_row h
  rw [row, PassDb.findPassProgress] at hnone
  rw [hchecked.season, hnone] at hprogress
  obtain ⟨hid, huser, hseason, hempty, hnew⟩ := hprogress
  exact ⟨⟨hchecked, huser, hseason, hempty⟩, hnew, hid⟩

theorem Sound.load {s : ClaimRace} (hsound : slice.Sound s) (claim : TierClaim) (now : Time) :
    slice.Sound (slice.step s (.load claim now)) := by
  rw [step]
  split
  · rename_i hidle hcheck
    split
    · rename_i hseason
      have hchecked := Checked.of_checkClaim hcheck hseason
      split
      · rename_i hrefresh hrow
        exact hsound.go rfl rfl (hsound.knows.move rfl)
          (works_of_loaded hsound hchecked hrow hrefresh)
      · rename_i hrefresh hnone
        split
        · rename_i hfree
          obtain ⟨hworks, hnew, hid⟩ := works_of_inserted hchecked hnone hrefresh
          refine hsound.go rfl rfl (hsound.knows.acquire hfree ?_) hworks
          intro fact hfact
          obtain rfl := Option.some.inj hfact
          exact ⟨hnone, hnew, hid⟩
        · exact hsound
      · exact hsound
    · exact hsound
  · exact hsound

/-- What a claim that goes through commits. -/
theorem committed_of_works {s : ClaimRace} (hsound : slice.Sound s) {draws : ClaimDraws}
    {now : Time} :
    (s.tables.phase claim = .inserted tier season progress →
      finishClaim { s.tables.committed with
          passProgress := s.tables.committed.passProgress ++ [progress] } slice.userId tier season
        claim.2 progress draws now = .ok db →
      slice.Checked s.tables.committed claim tier season ∧
        slice.Committed s.tables.committed db claim []) ∧
    (s.tables.phase claim = .loaded tier season progress →
      finishClaim s.tables.committed slice.userId tier season claim.2 progress draws now = .ok db →
      slice.Checked s.tables.committed claim tier season ∧
        From s.succeeded claim.2 (progress.claimedIds claim.2) ∧
        slice.Committed s.tables.committed db claim (progress.claimedIds claim.2)) := by
  have hworks := hsound.works claim
  constructor
  · intro hphase hdone
    have hheld := hsound.knows claim
    rw [hphase] at hworks hheld
    obtain ⟨-, hnone, hnew, -⟩ := hheld _ rfl
    obtain ⟨hchecked, huser, hseason, hempty⟩ := hworks
    exact ⟨hchecked,
      Committed.of_inserted hsound.ids hchecked huser hseason hempty hnone hnew hdone⟩
  · intro hphase hdone
    rw [hphase] at hworks
    obtain ⟨hchecked, ⟨row, hrow, hid⟩, hlisted⟩ := hworks
    exact ⟨hchecked, hlisted, Committed.of_loaded hsound.ids hchecked hrow hid hdone⟩

/-- A claim that has loaded the row overlaps no claim that holds a row of its own. -/
theorem Sound.knows_publish {s : ClaimRace} (hsound : slice.Sound s)
    (hphase : s.tables.phase claim = .loaded tier season progress) :
    Locked.Knows slice.holds (s.tables.publish claim db .idle) := by
  refine hsound.knows.publish ?_ rfl
  intro claim' fact hfact hfact'
  have hworks := hsound.works claim
  rw [hphase] at hworks
  obtain ⟨-, ⟨row, hrow, -⟩, -⟩ := hworks
  cases hother : s.tables.phase claim' with
  | idle =>
    rw [hother] at hfact
    cases hfact
  | loaded tier' season' progress' =>
    rw [hother] at hfact
    cases hfact
  | inserted tier' season' progress' =>
    rw [hother] at hfact
    obtain rfl := Option.some.inj hfact
    rw [hrow] at hfact'
    cases hfact'.1

theorem Sound.commits {s : ClaimRace} (hsound : slice.Sound s) (claim : TierClaim)
    (draws : ClaimDraws) (now : Time) : slice.Sound (slice.step s (.commit claim draws now)) := by
  rw [step]
  split
  · exact hsound
  · rename_i tier season progress hphase
    have hheld := hsound.knows claim
    rw [hphase] at hheld
    obtain ⟨hlock, -⟩ := hheld _ rfl
    have hrelease : ∀ db, Locked.Knows slice.holds (s.tables.release claim db .idle) := by
      intro db
      refine hsound.knows.release ?_ db rfl
      exact fun claim' hlock' => Option.some.inj (hlock'.symm.trans hlock)
    dsimp only
    split
    · rename_i db hdone
      obtain ⟨hchecked, hcommitted⟩ := (committed_of_works hsound).1 hphase hdone
      exact hsound.commit hchecked rfl (hrelease db) hcommitted fun _ hmem => by cases hmem
    · exact hsound.go rfl rfl (hrelease _) trivial
  · rename_i tier season progress hphase
    split
    · rename_i db hdone
      obtain ⟨hchecked, hlisted, hcommitted⟩ := (committed_of_works hsound).2 hphase hdone
      exact hsound.commit hchecked rfl (hsound.knows_publish hphase) hcommitted hlisted
    · exact hsound.go rfl rfl (hsound.knows.move rfl) trivial

theorem Sound.refreshes {s : ClaimRace} (hsound : slice.Sound s) (now : Time) :
    slice.Sound (slice.step s (.refresh now)) := by
  rw [step]
  split
  · exact hsound
  · rename_i season hseason
    have hid : season.id = slice.seasonId := (mem_of_find_eq_some (g := PassSeason.id) hseason).2
    split
    · exact hsound
    · rename_i hwait
      split
      · rename_i growth progress hrefresh
        obtain ⟨hfound, hids, hclaimed⟩ := refreshPassProgress_ok hrefresh
        have hprogress := refreshPassProgress_row hrefresh
        rw [hid] at hfound hprogress
        refine hsound.change (hids hsound.ids) rfl ?_ (hclaimed _ _) ?_
        · intro row hrow
          rw [PassSlice.row, PassDb.findPassProgress] at hrow
          rw [hrow] at hprogress
          exact ⟨progress, hfound, hprogress.1⟩
        · exact fun hlocked hnone => absurd ⟨hnone, hlocked⟩ hwait
      · exact hsound

theorem step_sound {s : ClaimRace} (hsound : slice.Sound s) (a : ClaimAction) :
    slice.Sound (slice.step s a) := by
  cases a with
  | load claim now => exact hsound.load claim now
  | commit claim draws now => exact hsound.commits claim draws now
  | abort claim =>
    rw [step]
    split
    · rename_i hlock
      refine hsound.go rfl rfl (hsound.knows.release ?_ _ rfl) trivial
      intro claim' hlock'
      exact Option.some.inj (hlock'.symm.trans hlock)
    · exact hsound.go rfl rfl (hsound.knows.move rfl) trivial
  | refresh now => exact hsound.refreshes now
  | elsewhere db =>
    rw [step]
    split
    · rename_i hkeeps
      obtain ⟨htiers, hrow, hids, hkey⟩ := hkeeps
      refine hsound.change hids htiers ?_ (claimed_of_row hrow) ?_
      · exact fun row hfound => ⟨row, hrow.trans hfound, rfl⟩
      · exact fun hlocked hnone => ⟨hrow.trans hnone, hkey hlocked⟩
    · exact hsound

/-- A step that neither adds a success nor changes a list. -/
theorem step_same {s : ClaimRace} (a : ClaimAction)
    (h : ∀ claim draws now, a ≠ .commit claim draws now) :
    (slice.step s a).succeeded = s.succeeded ∧
      ∀ track, slice.claimed (slice.step s a).tables.committed track =
        slice.claimed s.tables.committed track := by
  cases a with
  | load claim now =>
    rw [step]
    split
    · split
      · split
        · exact ⟨rfl, fun _ => rfl⟩
        · split <;> exact ⟨rfl, fun _ => rfl⟩
        · exact ⟨rfl, fun _ => rfl⟩
      · exact ⟨rfl, fun _ => rfl⟩
    · exact ⟨rfl, fun _ => rfl⟩
  | commit claim draws now => exact absurd rfl (h claim draws now)
  | abort claim =>
    rw [step]
    split <;> exact ⟨rfl, fun _ => rfl⟩
  | refresh now =>
    rw [step]
    split
    · exact ⟨rfl, fun _ => rfl⟩
    · split
      · exact ⟨rfl, fun _ => rfl⟩
      · split
        · rename_i hrefresh
          exact ⟨rfl, (refreshPassProgress_ok hrefresh).2.2 _ _⟩
        · exact ⟨rfl, fun _ => rfl⟩
  | elsewhere db =>
    rw [step]
    split
    · rename_i hkeeps
      exact ⟨rfl, claimed_of_row hkeeps.2.1⟩
    · exact ⟨rfl, fun _ => rfl⟩

/-- Success is kept by a step exactly if it commits no list that another claim has changed. -/
theorem step_kept_iff {s : ClaimRace} (hsound : slice.Sound s) (hkept : slice.Kept s)
    (a : ClaimAction) : slice.Kept (slice.step s a) ↔ slice.CommitsCurrent s a := by
  rw [kept_iff_listed (step_sound hsound a)]
  have hlisted := (kept_iff_listed hsound).mp hkept
  have hother (hne : ∀ claim draws now, a ≠ .commit claim draws now) :
      slice.Listed (slice.step s a) := by
    obtain ⟨hsucceeded, hclaimed⟩ := step_same a hne
    intro claim hclaim
    rw [hclaimed]
    exact hlisted claim (hsucceeded ▸ hclaim)
  cases a with
  | load claim now => exact iff_of_true (hother (by simp)) trivial
  | abort claim => exact iff_of_true (hother (by simp)) trivial
  | refresh now => exact iff_of_true (hother (by simp)) trivial
  | elsewhere db => exact iff_of_true (hother (by simp)) trivial
  | commit claim draws now =>
    rw [step, CommitsCurrent]
    cases hphase : s.tables.phase claim with
    | idle => exact iff_of_true hlisted trivial
    | inserted tier season progress =>
      dsimp only
      refine iff_of_true ?_ trivial
      split
      · rename_i db hdone
        obtain ⟨-, hcommitted⟩ := (committed_of_works hsound).1 hphase hdone
        have hheld := hsound.knows claim
        rw [hphase] at hheld
        obtain ⟨-, hnone, -⟩ := hheld _ rfl
        refine (hcommitted.listed_iff hsound hlisted).mpr ?_
        intro tierId hmem
        rw [PassSlice.row, PassDb.findPassProgress] at hnone
        rw [claimed, claimedIn, hnone] at hmem
        cases hmem
      · exact hlisted
    | loaded tier season progress =>
      dsimp only
      split
      · rename_i db hdone
        obtain ⟨-, -, hcommitted⟩ := (committed_of_works hsound).2 hphase hdone
        rw [hdone]
        exact (hcommitted.listed_iff hsound hlisted).trans ⟨fun h _ => h, fun h => h rfl⟩
      · rename_i failure hdone
        rw [hdone]
        exact iff_of_true hlisted fun hok => by cases hok

theorem start_sound (hids : (db.passProgress.map (·.id)).Nodup)
    (hnone : ∀ track, slice.claimed db track = []) : slice.Sound (start db) := by
  refine ⟨hids, ?_, fun _ => trivial, ?_, ?_⟩
  · intro claim fact hfact
    cases hfact
  · intro track tierId hmem
    rw [start, hnone] at hmem
    cases hmem
  · intro claim hclaim
    cases hclaim

end

end PassSlice

/-- From the fan's first claim in the season on, every claim that reported success stays in the
list of its track, and is refused from then on, exactly if every claim that goes through commits
the list it has loaded. -/
theorem claims_kept_iff (slice : PassSlice) {db : PassDb}
    (hids : (db.passProgress.map (·.id)).Nodup) (hnone : ∀ track, slice.claimed db track = [])
    (acts : List ClaimAction) :
    Throughout slice.step slice.Kept (PassSlice.start db) acts ↔
      Always slice.step slice.CommitsCurrent (PassSlice.start db) acts := by
  refine throughout_iff_always (I := slice.Sound) (PassSlice.start_sound hids hnone) ?_ ?_ ?_
  · constructor <;> intro claim hclaim <;> cases hclaim
  · exact fun s a hsound _ _ => PassSlice.step_sound hsound a
  · exact fun s a hsound hkept => PassSlice.step_kept_iff hsound hkept a

/-- A global season with two tiers, of which the fan has claimed none. -/
def twoTiers : PassDb :=
  { globalPass [] with
    tiers := [{ id := "tier_1", seasonId := "season", tier := 1, requiredXp := 0 },
              { id := "tier_2", seasonId := "season", tier := 2, requiredXp := 0 }] }

/-- One claim after the other. -/
def claimsInTurn : List ClaimAction :=
  [.load ("tier_1", .free) 10,
   .commit ("tier_1", .free) ⟨"evt_1", "grant_1", "ent_1"⟩ 10,
   .refresh 15,
   .load ("tier_2", .free) 20,
   .commit ("tier_2", .free) ⟨"evt_2", "grant_2", "ent_2"⟩ 20]

theorem claims_kept_inTurn :
    Throughout (PassSlice.step ⟨"fan", "season"⟩) (PassSlice.Kept ⟨"fan", "season"⟩)
      (PassSlice.start twoTiers) claimsInTurn := by
  refine (claims_kept_iff ⟨"fan", "season"⟩ (by decide) ?_ claimsInTurn).mpr ?_
  · intro track
    exact ite_self _
  · exact ⟨trivial, by decide, trivial, trivial, by decide, trivial⟩

/-- Both claims load the row before either of them commits. -/
def claimsTogether : List ClaimAction :=
  [.load ("tier_1", .free) 10,
   .load ("tier_2", .free) 10,
   .commit ("tier_1", .free) ⟨"evt_1", "grant_1", "ent_1"⟩ 11,
   .commit ("tier_2", .free) ⟨"evt_2", "grant_2", "ent_2"⟩ 12]

/-- The second commit loses the first claim, and its tier can be claimed again. -/
theorem claims_lost_together :
    (run (PassSlice.step ⟨"fan", "season"⟩) (PassSlice.start twoTiers) claimsTogether).succeeded =
      [("tier_1", .free), ("tier_2", .free)] ∧
    PassSlice.claimed ⟨"fan", "season"⟩ (run (PassSlice.step ⟨"fan", "season"⟩)
      (PassSlice.start twoTiers) claimsTogether).tables.committed .free = ["tier_2"] ∧
    (claimPassTier (run (PassSlice.step ⟨"fan", "season"⟩) (PassSlice.start twoTiers)
      claimsTogether).tables.committed "fan" "tier_1" .free ⟨"evt_3", "grant_3", "ent_3"⟩
      20).isOk = true ∧
    ¬Throughout (PassSlice.step ⟨"fan", "season"⟩) (PassSlice.Kept ⟨"fan", "season"⟩)
      (PassSlice.start twoTiers) claimsTogether := by
  refine ⟨by decide, by decide, by decide, fun h => ?_⟩
  exact absurd h.last.1 (by decide)

end Fanfolio
