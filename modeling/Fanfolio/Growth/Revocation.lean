import Fanfolio.Cards.Schema
import Fanfolio.Growth.AchievementRewards

/-!
# Revoked cards

The event of a collected card grants thirty XP if the card is eligible at the instant at which the
event is processed. The event of its revocation takes thirty XP back in any case, and does not name
the artist of the card.
-/

namespace Fanfolio

open Framework

/-- `revoke_card_growth`; `eventId` is the identifier it draws. -/
def revokeCardGrowth (events : List EngagementEvent) (userCard : UserCard) (reason : String)
    (eventId : EventId) : Except Failure (List EngagementEvent × EngagementEvent) :=
  recordEngagementEvent events userCard.userId "card_revoked" "user_card" userCard.id
    [("cardId", .str userCard.cardId), ("reason", .str reason)] eventId

/-- The key of the XP that an event is worth itself, apart from what missions reward it with. -/
def EngagementEvent.baseRule (event : EngagementEvent) : RuleKey :=
  (event.userId, event.id, event.kind)

/-- `scoped_user_xp` over the XP that an event is worth itself. -/
def GrowthDb.baseXpIn (db : GrowthDb) (event : EngagementEvent) (artistId : Option String) : Int :=
  scopedUserXp { db with xpLedger := db.xpLedger.filter (·.entry.1 == event.baseRule) }
    event.userId artistId none none

def GrowthDb.isProcessed (db : GrowthDb) (eventId : EventId) : Bool :=
  (db.findEvent eventId).any (·.status == .processed)

/-- The tables, and what `card_collected_source_is_eligible` has answered about an event at the
instant at which it was processed. -/
structure CardGrowth where
  db : GrowthDb
  eligible : EventId → Option Bool

inductive CardGrowthAction where
  /-- Only a revocation records an event of its kind. -/
  | record (userId : UserId) (kind sourceType sourceId : String) (payload : JsonObject)
      (eventId : EventId) (other : kind ≠ "card_revoked")
  | revoke (userCard : UserCard) (reason : String) (eventId : EventId)
  /-- Administrators edit what the events are matched with. -/
  | edit (rewards : List RewardCatalog) (missions : List MissionDefinition)
      (achievements : List AchievementDefinition) (seasons : List PassSeason)
  | process (eventId : EventId) (readings : CardReadings) (draws : AttemptDraws)
      (interrupted : Option Failure) (now : Time) (text : String)

def GrowthDb.recordOr (db : GrowthDb)
    (x : Except Failure (List EngagementEvent × EngagementEvent)) : GrowthDb :=
  { db with points := { db.points with events := commitOr db.points.events x } }

section

variable (settings : RetrySettings)

def CardGrowth.process (s : CardGrowth) (eventId : EventId) (readings : CardReadings)
    (draws : AttemptDraws) (interrupted : Option Failure) (now : Time) (text : String) :
    CardGrowth :=
  let db := processEngagementEvent settings s.db eventId readings draws interrupted now text
  { db := db
    eligible :=
      if !s.db.isProcessed eventId && db.isProcessed eventId then
        Function.update s.eligible eventId
          ((s.db.findEvent eventId).map (cardCollectedSourceIsEligible · readings))
      else s.eligible }

def cardGrowthStep (s : CardGrowth) : CardGrowthAction → CardGrowth
  | .record userId kind sourceType sourceId payload eventId _ =>
    let recorded := recordEngagementEvent s.db.points.events userId kind sourceType sourceId payload
      eventId
    { s with db := s.db.recordOr recorded }
  | .revoke userCard reason eventId =>
    { s with db := s.db.recordOr (revokeCardGrowth s.db.points.events userCard reason eventId) }
  | .edit rewards missions achievements seasons =>
    { s with
      db := { s.db with
        rewards := rewards, missions := missions, achievements := achievements,
        seasons := seasons } }
  | .process eventId readings draws interrupted now text =>
    s.process settings eventId readings draws interrupted now text

end

/-- Nothing has happened yet. -/
structure CardGrowth.Opening (s : CardGrowth) : Prop where
  events : s.db.events = []
  ledger : s.db.xpLedger = []

/-- Every event is booked once it is processed: a collected card for what it was worth then. -/
structure CardGrowth.Booked (s : CardGrowth) : Prop where
  ids : (s.db.events.map (·.id)).Nodup
  known : ∀ entry ∈ s.db.xpEntries, ∃ event ∈ s.db.events, event.id = entry.1.2.1
  revoked : ∀ event ∈ s.db.events, event.kind = "card_revoked" →
    event.payload.text "artistId" = none
  granted : ∀ event ∈ s.db.events, baseXpFor event ≠ 0 →
    s.db.xpEntries.filter (·.1 == event.baseRule) =
      if event.status = .processed ∧ s.eligible event.id = some true then
        [(event.baseRule, baseXpFor event)]
      else []
  others : ∀ event ∈ s.db.events, event.status = .processed → event.kind ≠ "card_collected" →
    s.eligible event.id = some true

/-- XP is granted on one event, and under rules that are no kind of an event. -/
structure GrantsBeside (eventId : EventId) (db db' : GrowthDb) : Prop where
  base : ∀ key : RuleKey, key.2.2 = "card_collected" ∨ key.2.2 = "card_revoked" →
    db'.xpEntries.filter (·.1 == key) = db.xpEntries.filter (·.1 == key)
  known : ∀ entry ∈ db'.xpEntries, entry ∈ db.xpEntries ∨ entry.1.2.1 = eventId

section

variable {db db' db'' : GrowthDb} {event : EngagementEvent} {eventId : EventId}

theorem filter_addEntry {ν : Type} {entries : List (RuleKey × ν)} {key key' : RuleKey} (value : ν)
    (hne : key' ≠ key) : (addEntry entries key' value).filter (·.1 == key) =
      entries.filter (·.1 == key) := by
  unfold addEntry
  split
  · rfl
  · rw [List.filter_append, List.filter_cons_of_neg (by simpa using hne), List.filter_nil,
      List.append_nil]

theorem mem_addEntry {ν : Type} {entries : List (RuleKey × ν)} {key : RuleKey} {value : ν}
    {entry : RuleKey × ν} (h : entry ∈ addEntry entries key value) :
    entry ∈ entries ∨ entry = (key, value) := by
  unfold addEntry at h
  split at h
  · exact .inl h
  · exact (List.mem_append.mp h).imp id List.mem_singleton.mp

namespace GrantsBeside

theorem of_same (hxp : db'.xpLedger = db.xpLedger) : GrantsBeside eventId db db' := by
  have hentries : db'.xpEntries = db.xpEntries := by
    rw [GrowthDb.xpEntries, hxp, GrowthDb.xpEntries]
  refine ⟨fun _ _ => by rw [hentries], ?_⟩
  intro entry hmem
  exact .inl (hentries ▸ hmem)

theorem trans (h : GrantsBeside eventId db db') (h' : GrantsBeside eventId db' db'') :
    GrantsBeside eventId db db'' := by
  refine ⟨fun key hkind => (h'.base key hkind).trans (h.base key hkind), ?_⟩
  intro entry hmem
  rcases h'.known entry hmem with hold | hnew
  · exact h.known entry hold
  · exact .inr hnew

theorem of_grantXp {userId : UserId} {ruleKey : String} {amount : Int} {ledgerId : LedgerId}
    {now : Time} {row : XpLedger} (hrule : ruleKey ≠ "card_collected" ∧ ruleKey ≠ "card_revoked")
    (h : grantXp db userId eventId ruleKey amount ledgerId now = .ok (db', row)) :
    GrantsBeside eventId db db' := by
  obtain ⟨xpLedger, levels, -, hentries⟩ := grantXp_ok h
  refine ⟨?_, ?_⟩
  · intro key hkind
    rw [hentries, filter_addEntry]
    rintro rfl
    exact hkind.elim hrule.1 hrule.2
  · intro entry hmem
    rw [hentries] at hmem
    rcases mem_addEntry hmem with hold | rfl
    · exact .inl hold
    · exact .inr rfl

theorem kept (event : EngagementEvent) : KeptByWrites event
    (fun ruleKey => ruleKey ≠ "card_collected" ∧ ruleKey ≠ "card_revoked")
    (GrantsBeside event.id) := by
  refine ⟨.trans, fun _ _ => .of_same rfl, refreshPassProgress_rel fun _ _ => .of_same rfl,
    .of_grantXp, ?_, ?_⟩
  · intro db db' ruleKey amount description metadata ledgerId row _ hgrant
    obtain ⟨balances, ledger, rfl, -⟩ := grantGrowthPoints_ok hgrant
    exact .of_same rfl
  · intro db db' rewardId ruleKey grantId now row _ hgrant
    obtain ⟨rewardGrants, rfl, -⟩ := grantReward_ok hgrant
    exact .of_same rfl

end GrantsBeside

theorem ruleKey_ne_kind (rest : String) :
    ("mission:" ++ rest ≠ "card_collected" ∧ "mission:" ++ rest ≠ "card_revoked") ∧
    "achievement:" ++ rest ≠ "card_collected" ∧ "achievement:" ++ rest ≠ "card_revoked" := by
  have hmission : ∀ kind, ¬"mission:".toList <+: kind.toList → "mission:" ++ rest ≠ kind := by
    rintro kind hnot rfl
    exact hnot (by simp)
  have hachievement : ∀ kind, ¬"achievement:".toList <+: kind.toList →
      "achievement:" ++ rest ≠ kind := by
    rintro kind hnot rfl
    exact hnot (by simp)
  exact ⟨⟨hmission _ (by decide), hmission _ (by decide)⟩, hachievement _ (by decide),
    hachievement _ (by decide)⟩

theorem baseXpFor_ne_zero_iff :
    baseXpFor event ≠ 0 ↔ event.kind = "card_collected" ∨ event.kind = "card_revoked" := by
  unfold baseXpFor
  split
  · simp [*]
  · split <;> simp [*]

namespace CardGrowth

variable {s : CardGrowth}

theorem Opening.booked (h : s.Opening) : s.Booked := by
  have hnone : ∀ event, event ∉ s.db.events := by
    intro event hmem
    rw [h.events] at hmem
    exact List.not_mem_nil hmem
  refine ⟨by rw [h.events]; exact List.nodup_nil, ?_, ?_, ?_, ?_⟩
  · intro entry hmem
    rw [GrowthDb.xpEntries, h.ledger] at hmem
    exact absurd hmem List.not_mem_nil
  · exact fun event hmem => absurd hmem (hnone event)
  · exact fun event hmem => absurd hmem (hnone event)
  · exact fun event hmem => absurd hmem (hnone event)

/-- An identifier that no event has is that of no XP. -/
theorem Booked.none_fresh (h : s.Booked) (hfresh : ∀ event' ∈ s.db.events, event'.id ≠ event.id) :
    s.db.xpEntries.filter (·.1 == event.baseRule) = [] := by
  rw [List.filter_eq_nil_iff]
  intro entry hmem hkey
  obtain ⟨event', hevent', hid⟩ := h.known entry hmem
  rw [beq_iff_eq] at hkey
  exact hfresh event' hevent' (by rw [hid, hkey]; rfl)

theorem Booked.recordOr (h : s.Booked)
    {x : Except Failure (List EngagementEvent × EngagementEvent)}
    (hx : ∀ events event, x = .ok (events, event) → events = s.db.events ∨
      (∀ event' ∈ s.db.events, event'.id ≠ event.id) ∧ event.status = .pending ∧
        (event.kind = "card_revoked" → event.payload.text "artistId" = none) ∧
        events = s.db.events ++ [event]) :
    Booked { s with db := s.db.recordOr x } := by
  have hsame : s.db.recordOr x = { s.db with points := { s.db.points with events := s.db.events } } →
      Booked { s with db := s.db.recordOr x } := by
    intro heq
    rw [heq]
    exact h
  rcases commitOr_cases s.db.points.events x with hold | ⟨event, hok⟩
  · exact hsame (by rw [GrowthDb.recordOr, hold]; rfl)
  · rcases hx _ event hok with hold | ⟨hfresh, hpending, hrevoked, happended⟩
    · exact hsame (by rw [GrowthDb.recordOr, hold])
    · have hevents : (s.db.recordOr x).events = s.db.events ++ [event] := happended
      have hcases : ∀ {P : EngagementEvent → Prop}, (∀ event' ∈ s.db.events, P event') → P event →
          ∀ event' ∈ (s.db.recordOr x).events, P event' := by
        intro P hold hnew event' hmem
        rw [hevents] at hmem
        rcases List.mem_append.mp hmem with hmem | hmem
        · exact hold event' hmem
        · exact List.mem_singleton.mp hmem ▸ hnew
      refine ⟨?_, ?_, hcases h.revoked hrevoked, hcases h.granted ?_, hcases h.others ?_⟩
      · rw [hevents]
        exact nodup_insert h.ids hfresh
      · intro entry hmem
        obtain ⟨event', hevent', hid⟩ := h.known entry hmem
        exact ⟨event', hevents ▸ List.mem_append_left _ hevent', hid⟩
      · intro _
        rw [hpending, if_neg (by simp)]
        exact h.none_fresh hfresh
      · intro hprocessed
        rw [hpending] at hprocessed
        cases hprocessed

/-- A step rewrites the row of one event, and grants XP on it alone. -/
theorem Booked.rewrite (h : s.Booked) {eligible : EventId → Option Bool}
    {f : EngagementEvent → EngagementEvent} (hfind : s.db.findEvent eventId = some event)
    (hid : ∀ row, (f row).id = row.id) (hbase : ∀ row, (f row).baseRule = row.baseRule)
    (hpayload : ∀ row, (f row).payload = row.payload)
    (hevents : db'.events = patch (·.id == eventId) f s.db.events)
    (hknown : ∀ entry ∈ db'.xpEntries, entry ∈ s.db.xpEntries ∨ entry.1.2.1 = eventId)
    (hothers : ∀ row ∈ s.db.events, row.id ≠ eventId → eligible row.id = s.eligible row.id ∧
      (baseXpFor row ≠ 0 → db'.xpEntries.filter (·.1 == row.baseRule) =
        s.db.xpEntries.filter (·.1 == row.baseRule)))
    (hgranted : baseXpFor event ≠ 0 → db'.xpEntries.filter (·.1 == event.baseRule) =
      if (f event).status = .processed ∧ eligible eventId = some true then
        [(event.baseRule, baseXpFor event)] else [])
    (hother : (f event).status = .processed → event.kind ≠ "card_collected" →
      eligible eventId = some true) : Booked ⟨db', eligible⟩ := by
  have hevent := findEvent_some hfind
  have hmem : event ∈ s.db.events := List.mem_of_find?_eq_some hfind
  have hkind : ∀ row, (f row).kind = row.kind := fun row =>
    (Prod.mk.inj (Prod.mk.inj (hbase row)).2).2
  have hworth : ∀ row, baseXpFor (f row) = baseXpFor row := by
    intro row
    rw [baseXpFor, hkind, baseXpFor]
  have hcases : ∀ {P : EngagementEvent → Prop}, P (f event) →
      (∀ row ∈ s.db.events, row.id ≠ eventId → P row) → ∀ row ∈ db'.events, P row := by
    intro P hown hrest row hrow
    rw [hevents] at hrow
    obtain ⟨before, hbefore, rfl⟩ := mem_patch.mp hrow
    by_cases hsame : before.id = eventId
    · obtain rfl := eq_of_unique h.ids hbefore hmem (hsame.trans hevent.symm)
      simpa [hsame] using hown
    · simpa [hsame] using hrest before hbefore hsame
  refine ⟨?_, ?_, hcases ?_ ?_, hcases ?_ ?_, hcases ?_ ?_⟩
  · rw [hevents, map_patch hid]
    exact h.ids
  · have hids : ∀ row ∈ s.db.events, ∃ row' ∈ db'.events, row'.id = row.id := by
      intro row hrow
      refine ⟨_, hevents ▸ mem_patch.mpr ⟨row, hrow, rfl⟩, ?_⟩
      split
      · exact hid row
      · rfl
    intro entry hentry
    rcases hknown entry hentry with hold | hnew
    · obtain ⟨row, hrow, hsame⟩ := h.known entry hold
      obtain ⟨row', hrow', hsame'⟩ := hids row hrow
      exact ⟨row', hrow', hsame'.trans hsame⟩
    · obtain ⟨row', hrow', hsame'⟩ := hids event hmem
      exact ⟨row', hrow', by rw [hsame', hevent, hnew]⟩
  · rw [hkind, hpayload]
    exact h.revoked event hmem
  · exact fun row hrow _ => h.revoked row hrow
  · rw [hworth, hbase, hid, hevent]
    exact hgranted
  · intro row hrow hne hbasexp
    obtain ⟨heligible, hsame⟩ := hothers row hrow hne
    simpa only [hsame hbasexp, heligible] using h.granted row hrow hbasexp
  · rw [hkind, hid, hevent]
    exact hother
  · intro row hrow hne
    dsimp only
    rw [(hothers row hrow hne).1]
    exact h.others row hrow

theorem isProcessed_eq {f : EngagementEvent → EngagementEvent}
    (hfind : db.findEvent eventId = some event) (hid : ∀ row, (f row).id = row.id)
    (hevents : db'.events = patch (·.id == eventId) f db.events) :
    db'.isProcessed eventId = ((f event).status == .processed) := by
  rw [GrowthDb.isProcessed, GrowthDb.findEvent, hevents, find_patch_key hid]
  rw [GrowthDb.findEvent] at hfind
  rw [hfind]
  rfl

/-- The base grant of an attempt, and what the rest of it grants beside. -/
theorem attemptEvent_base {readings : CardReadings} {draws : AttemptDraws}
    (h : attemptEvent db event readings draws = .ok db') :
    (∀ key : RuleKey, key.2.2 = "card_collected" ∨ key.2.2 = "card_revoked" →
      db'.xpEntries.filter (·.1 == key) =
        (if cardCollectedSourceIsEligible event readings = true ∧ baseXpFor event ≠ 0 then
          addEntry db.xpEntries event.baseRule (baseXpFor event)
        else db.xpEntries).filter (·.1 == key)) ∧
    ∀ entry ∈ db'.xpEntries, entry ∈ db.xpEntries ∨ entry.1.2.1 = event.id := by
  obtain ⟨withXp, withPasses, hxp, hbeside, rfl⟩ := (GrantsBeside.kept event).of_attemptEvent
    (fun rest => (ruleKey_ne_kind rest).1) (fun rest => (ruleKey_ne_kind rest).2)
    (fun _ _ => .of_same rfl) h
  have hentries : withXp.xpEntries =
      if cardCollectedSourceIsEligible event readings = true ∧ baseXpFor event ≠ 0 then
        addEntry db.xpEntries event.baseRule (baseXpFor event)
      else db.xpEntries := by
    rcases unlessZero_ok.mp hxp with ⟨hzero, rfl⟩ | ⟨hne, row, hgrant⟩
    · rw [if_neg]
      rintro ⟨heligible, hbase⟩
      rw [if_pos heligible] at hzero
      exact hbase hzero
    · obtain ⟨heligible, hbase⟩ : cardCollectedSourceIsEligible event readings = true ∧
          baseXpFor event ≠ 0 := by
        split at hne
        · exact ⟨‹_›, hne⟩
        · exact absurd rfl hne
      obtain ⟨xpLedger, levels, -, hadded⟩ := grantXp_ok hgrant
      rw [if_pos ⟨heligible, hbase⟩, hadded, if_pos heligible]
      rfl
  refine ⟨?_, ?_⟩
  · intro key hkind
    rw [← hentries]
    exact hbeside.base key hkind
  · intro entry hmem
    rcases hbeside.known entry hmem with hold | hnew
    · rw [hentries] at hold
      split at hold
      · rcases mem_addEntry hold with hmem | rfl
        · exact .inl hmem
        · exact .inr rfl
      · exact .inl hold
    · exact .inr hnew

theorem Booked.process (settings : RetrySettings) (h : s.Booked) (eventId : EventId)
    (readings : CardReadings) (draws : AttemptDraws) (interrupted : Option Failure) (now : Time)
    (text : String) : (s.process settings eventId readings draws interrupted now text).Booked := by
  rcases processEngagementEvent_cases settings s.db eventId readings draws interrupted now text with
    hsame | ⟨event, exception, hfind, hopen, hbooked⟩ | ⟨event, hfind, hopen, -, hattempt⟩
  · have hstays : s.process settings eventId readings draws interrupted now text = s := by
      rw [CardGrowth.process, hsame, Bool.not_and_self]
      rfl
    rw [hstays]
    exact h
  · have hunprocessed := decideRetry_ne_processed settings (event.attemptCount + 1) now
    have hafter : (s.db.patchEvent eventId (·.bookFailure settings (event.attemptCount + 1) exception
        now text)).isProcessed eventId = false := by
      rw [isProcessed_eq (f := (·.bookFailure settings (event.attemptCount + 1) exception now text))
        hfind (by intro _; rfl) rfl]
      exact beq_eq_false_iff_ne.mpr hunprocessed
    have hdb : s.process settings eventId readings draws interrupted now text =
        ⟨s.db.patchEvent eventId
          (·.bookFailure settings (event.attemptCount + 1) exception now text), s.eligible⟩ := by
      rw [CardGrowth.process, hbooked, hafter, Bool.and_false]
      rfl
    rw [hdb]
    refine h.rewrite hfind (by intro _; rfl) (by intro _; rfl) (by intro _; rfl) rfl
      (fun _ hmem => .inl hmem) (fun _ _ _ => ⟨rfl, fun _ => rfl⟩) ?_ ?_
    · intro hbase
      rw [if_neg fun hcond => hunprocessed hcond.1]
      have hgranted := h.granted event (List.mem_of_find?_eq_some hfind) hbase
      rwa [if_neg fun hcond => hopen (.inl hcond.1)] at hgranted
    · exact fun hprocessed => absurd hprocessed hunprocessed
  · have hevent := findEvent_some hfind
    subst hevent
    have hevents := attemptEvent_events hattempt
    obtain ⟨hbase, hknown⟩ := attemptEvent_base hattempt
    have hbefore : s.db.isProcessed event.id = false := by
      rw [GrowthDb.isProcessed, hfind, Option.any_some, beq_eq_false_iff_ne]
      exact fun hprocessed => hopen (.inl hprocessed)
    have hdb : s.process settings event.id readings draws interrupted now text =
        ⟨processEngagementEvent settings s.db event.id readings draws interrupted now text,
          Function.update s.eligible event.id
            (some (cardCollectedSourceIsEligible event readings))⟩ := by
      rw [CardGrowth.process, hbefore, isProcessed_eq hfind (by intro _; rfl) hevents, hfind]
      rfl
    rw [hdb]
    refine h.rewrite hfind (by intro _; rfl) (by intro _; rfl) (by intro _; rfl) hevents hknown
      ?_ ?_ ?_
    · intro row hrow hne
      refine ⟨Function.update_of_ne hne _ _, ?_⟩
      intro hworth
      rw [hbase row.baseRule (baseXpFor_ne_zero_iff.mp hworth)]
      split
      · exact filter_addEntry _ fun heq => hne (Prod.mk.inj (Prod.mk.inj heq).2).1.symm
      · rfl
    · intro hworth
      have hgranted := h.granted event (List.mem_of_find?_eq_some hfind) hworth
      rw [if_neg fun hcond => hopen (.inl hcond.1)] at hgranted
      rw [hbase event.baseRule (baseXpFor_ne_zero_iff.mp hworth), Function.update_self]
      by_cases heligible : cardCollectedSourceIsEligible event readings = true
      · have hnew : event.baseRule ∉ s.db.xpEntries.map Prod.fst := by
          intro hmem
          obtain ⟨entry, hentry, hkey⟩ := List.mem_map.mp hmem
          have hin : entry ∈ s.db.xpEntries.filter (·.1 == event.baseRule) :=
            List.mem_filter.mpr ⟨hentry, by simpa using hkey⟩
          rw [hgranted] at hin
          exact List.not_mem_nil hin
        rw [if_pos ⟨heligible, hworth⟩, addEntry_of_notMem hnew, List.filter_append, hgranted,
          if_pos ⟨rfl, by rw [heligible]⟩]
        simp
      · rw [if_neg fun hcond => heligible hcond.1, hgranted, if_neg]
        exact fun hcond => heligible (Option.some.inj hcond.2)
    · intro _ hkind
      rw [Function.update_self, cardCollectedSourceIsEligible, if_pos hkind]

/-- What a request records is refused, found or appended. -/
theorem Booked.record (h : s.Booked) {userId : UserId} {kind sourceType sourceId : String}
    {payload : JsonObject} {eventId : EventId}
    (hrevoked : kind = "card_revoked" → payload.text "artistId" = none) :
    Booked ⟨s.db.recordOr (recordEngagementEvent s.db.points.events userId kind sourceType sourceId
      payload eventId), s.eligible⟩ := by
  refine h.recordOr ?_
  intro events event hok
  rcases recordEngagementEvent_cases hok with ⟨-, hsame⟩ | ⟨-, hfresh, rfl, happended⟩
  · exact .inl hsame
  · exact .inr ⟨hfresh, rfl, hrevoked, happended⟩

theorem Booked.step (settings : RetrySettings) (h : s.Booked) (a : CardGrowthAction) :
    (cardGrowthStep settings s a).Booked := by
  cases a with
  | record userId kind sourceType sourceId payload eventId other =>
    exact h.record fun hkind => absurd hkind other
  | revoke userCard reason eventId => exact h.record fun _ => rfl
  | edit rewards missions achievements seasons =>
    exact ⟨h.ids, h.known, h.revoked, h.granted, h.others⟩
  | process eventId readings draws interrupted now text =>
    exact h.process settings eventId readings draws interrupted now text

theorem Opening.booked_run (settings : RetrySettings) (h : s.Opening) (acts : List CardGrowthAction) :
    (run (cardGrowthStep settings) s acts).Booked :=
  (throughout_of_step (I := Booked) h.booked fun _ a hbooked => hbooked.step settings a).last

/-- The XP of an event itself: all or nothing, in every scope. -/
theorem Booked.baseXpIn_eq (h : s.Booked) (hmem : event ∈ s.db.events)
    (hbase : baseXpFor event ≠ 0) (artistId : Option String) :
    s.db.baseXpIn event artistId =
      if (event.status = .processed ∧ s.eligible event.id = some true) ∧
          ∀ artistId' ∈ artistId, event.payload.text "artistId" = some artistId' then
        baseXpFor event
      else 0 := by
  have hfind : s.db.findEvent event.id = some event := find_of_mem h.ids hmem
  set rows := s.db.xpLedger.filter (·.entry.1 == event.baseRule) with hrows
  have hamounts : (rows.map (·.amount)).sum =
      if event.status = .processed ∧ s.eligible event.id = some true then baseXpFor event
      else 0 := by
    have hentries : rows.map (·.amount) =
        (s.db.xpEntries.filter (·.1 == event.baseRule)).map Prod.snd := by
      rw [GrowthDb.xpEntries, List.filter_map, List.map_map]
      rfl
    rw [hentries, h.granted event hmem hbase]
    split <;> simp
  have hscope : rows.filter (fun row =>
      row.userId == event.userId && windowOpen none none row.createdAt &&
        artistId.all fun artistId =>
          (s.db.findEvent row.eventId).any (·.payload.text "artistId" == some artistId)) =
      if ∀ artistId' ∈ artistId, event.payload.text "artistId" = some artistId' then rows
      else [] := by
    have hrow : ∀ row ∈ rows, row.userId = event.userId ∧ row.eventId = event.id := by
      intro row hmem
      have hkey := (List.mem_filter.mp hmem).2
      rw [beq_iff_eq] at hkey
      exact ⟨(Prod.mk.inj hkey).1, (Prod.mk.inj (Prod.mk.inj hkey).2).1⟩
    split
    · rename_i hall
      rw [List.filter_eq_self]
      intro row hmem
      obtain ⟨huser, hevent⟩ := hrow row hmem
      rw [huser, hevent, hfind]
      cases artistId with
      | none => simp [windowOpen]
      | some artistId => simpa [windowOpen] using hall
    · rename_i hnot
      rw [List.filter_eq_nil_iff]
      intro row hmem
      obtain ⟨huser, hevent⟩ := hrow row hmem
      rw [huser, hevent, hfind]
      cases artistId with
      | none => simp at hnot
      | some artistId => simpa [windowOpen] using hnot
  have hsum : s.db.baseXpIn event artistId = ((rows.filter (fun row =>
      row.userId == event.userId && windowOpen none none row.createdAt &&
        artistId.all fun artistId =>
          (s.db.findEvent row.eventId).any (·.payload.text "artistId" == some artistId))).map
      (·.amount)).sum := rfl
  rw [hsum, hscope]
  by_cases hall : ∀ artistId' ∈ artistId, event.payload.text "artistId" = some artistId'
  · rw [if_pos hall, hamounts]
    exact if_congr (and_iff_left hall).symm rfl rfl
  · rw [if_neg hall, if_neg fun hcond => hall hcond.2]
    rfl

end CardGrowth

/-- The events of a card that was collected and revoked cancel out: in total, and in every scope. -/
def NetZero (db : GrowthDb) (collected revoked : EngagementEvent) : Prop :=
  db.baseXpIn collected none + db.baseXpIn revoked none = 0 ∧
  ∀ artistId, db.baseXpIn collected (some artistId) + db.baseXpIn revoked (some artistId) = 0

/-- Once both events of a card are processed they cancel out exactly if the card was eligible when
the first one was processed, and belongs to no artist. -/
theorem revocation_cancels_iff (settings : RetrySettings) {s₀ : CardGrowth} (h₀ : s₀.Opening)
    (acts : List CardGrowthAction) (userCard : UserCard) {collected revoked : EngagementEvent}
    (hcollected : collected ∈ (run (cardGrowthStep settings) s₀ acts).db.events)
    (hcollects : collected.hasSource userCard.userId "card_collected" "user_card" userCard.id)
    (hrevoked : revoked ∈ (run (cardGrowthStep settings) s₀ acts).db.events)
    (hrevokes : revoked.hasSource userCard.userId "card_revoked" "user_card" userCard.id)
    (hprocessed : collected.status = .processed ∧ revoked.status = .processed) :
    NetZero (run (cardGrowthStep settings) s₀ acts).db collected revoked ↔
      (run (cardGrowthStep settings) s₀ acts).eligible collected.id = some true ∧
      collected.payload.text "artistId" = none := by
  have hbooked := h₀.booked_run settings acts
  set s := run (cardGrowthStep settings) s₀ acts
  have hkind : collected.kind = "card_collected" ∧ revoked.kind = "card_revoked" := by
    simp only [EngagementEvent.hasSource, Bool.and_eq_true, beq_iff_eq] at hcollects hrevokes
    exact ⟨hcollects.1.1.2, hrevokes.1.1.2⟩
  have hearns : baseXpFor collected = 30 := by
    rw [baseXpFor, if_pos hkind.1]
  have hcosts : baseXpFor revoked = -30 := by
    rw [baseXpFor, hkind.2]
    rfl
  have heligible := hbooked.others revoked hrevoked hprocessed.2 (by rw [hkind.2]; decide)
  have hartist := hbooked.revoked revoked hrevoked hkind.2
  have hcollectedIn := hbooked.baseXpIn_eq hcollected (by rw [hearns]; decide)
  have hrevokedIn := hbooked.baseXpIn_eq hrevoked (by rw [hcosts]; decide)
  simp only [hprocessed.1, true_and, hearns] at hcollectedIn
  simp only [hprocessed.2, heligible, true_and, hcosts, hartist] at hrevokedIn
  unfold NetZero
  simp only [hcollectedIn, hrevokedIn]
  by_cases hawarded : s.eligible collected.id = some true
  · cases hnamed : collected.payload.text "artistId" with
    | none => simp [hawarded]
    | some artistId =>
      simp only [hawarded, true_and, reduceCtorEq, iff_false, not_and]
      intro _ hscopes
      have hscope := hscopes artistId
      simp at hscope
  · simp [hawarded]

end

namespace RevokedCard

def userCard : UserCard where
  id := "user_card_1"
  userId := "fan"
  cardId := "card_1"
  redeemCodeId := some "CODE"
  dropId := some "drop_1"
  serialNumber := 1
  acquisitionSource := "redeem_code"
  acquiredAt := 0

def opening : CardGrowth where
  db := ⟨PointDb.opening [] [], [], [], [], [], [], [], [], [], [], [], [], []⟩
  eligible := fun _ => none

/-- The card is redeemed, its event is processed, it is revoked and this event is processed. -/
def acts (payload : JsonObject) (readings : CardReadings) : List CardGrowthAction :=
  [.record "fan" "card_collected" "user_card" "user_card_1" payload "evt_1" (by decide),
   .process "evt_1" readings (commentAttempt 1 "a") none 1 "",
   .revoke userCard "operator_adjustment" "evt_2",
   .process "evt_2" {} (commentAttempt 2 "b") none 2 ""]

/-- The row of an event after it was processed. -/
def event (eventId : EventId) (kind : String) (payload : JsonObject) (now : Time) :
    EngagementEvent :=
  { id := eventId, userId := "fan", kind := kind, sourceType := "user_card",
    sourceId := "user_card_1", payload := payload, status := .processed, processedAt := some now,
    attemptCount := 1 }

def ofArtist : JsonObject := [("cardId", .str "card_1"), ("artistId", .str "nova3")]

def ofNoArtist : JsonObject := [("cardId", .str "card_1"), ("artistId", .scalar .null)]

def revocation : JsonObject := [("cardId", .str "card_1"), ("reason", .str "operator_adjustment")]

end RevokedCard

open RevokedCard in
theorem revocation_cancels_noArtist :
    NetZero (run (cardGrowthStep {}) opening (acts ofNoArtist {})).db
      (event "evt_1" "card_collected" ofNoArtist 1) (event "evt_2" "card_revoked" revocation 2) :=
  (revocation_cancels_iff {} ⟨rfl, rfl⟩ (acts ofNoArtist {}) userCard (by decide) (by decide)
    (by decide) (by decide) ⟨rfl, rfl⟩).mpr ⟨by decide, by decide⟩

open RevokedCard in
/-- The fan keeps thirty XP in the scope of the artist, and loses thirty over a card that was not
eligible. -/
theorem revocation_cancels_fails :
    (let db := (run (cardGrowthStep {}) opening (acts ofArtist {})).db
     let collected := event "evt_1" "card_collected" ofArtist 1
     let revoked := event "evt_2" "card_revoked" revocation 2
     collected ∈ db.events ∧ revoked ∈ db.events ∧
     db.baseXpIn collected (some "nova3") + db.baseXpIn revoked (some "nova3") = 30 ∧
     ¬NetZero db collected revoked) ∧
    (let db := (run (cardGrowthStep {}) opening
       (acts ofNoArtist { sourceIsEligible := false })).db
     let collected := event "evt_1" "card_collected" ofNoArtist 1
     let revoked := event "evt_2" "card_revoked" revocation 2
     collected ∈ db.events ∧ revoked ∈ db.events ∧
     db.baseXpIn collected none + db.baseXpIn revoked none = -30 ∧
     ¬NetZero db collected revoked) := by
  refine ⟨⟨by decide, by decide, by decide, ?_⟩, by decide, by decide, by decide, ?_⟩
  · intro hzero
    exact absurd (hzero.2 "nova3") (by decide)
  · intro hzero
    exact absurd hzero.1 (by decide)

end Fanfolio
