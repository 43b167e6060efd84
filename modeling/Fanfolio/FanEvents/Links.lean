import Fanfolio.FanEvents.Schema
import Fanfolio.Framework.Run

/-!
# The links of events

Admins create, edit, submit, review, publish and end events. The drop, card, mission or page that
an event links to is checked when the event is submitted and when it is approved.
-/

namespace Fanfolio

open Framework

/-- The rows that events link to; identifiers are never empty. -/
structure LinkTables where
  drops : List Drop
  cards : List Card
  achievements : List AchievementDefinition
  dropIds : ∀ drop ∈ drops, drop.id ≠ ""
  cardIds : ∀ card ∈ cards, card.id ≠ ""
  achievementIds : ∀ achievement ∈ achievements, achievement.id ≠ ""

namespace LinkTables

variable (tables : LinkTables)

def findDrop (dropId : DropId) : Option Drop := tables.drops.find? (·.id == dropId)

def findCard (cardId : CardId) : Option Card := tables.cards.find? (·.id == cardId)

def findAchievement (achievementId : AchievementId) : Option AchievementDefinition :=
  tables.achievements.find? (·.id == achievementId)

end LinkTables

/-- A lookup that is skipped if the identifier is missing or empty. -/
def lookup {α : Type} (id : Option String) (find : String → Option α) : Option α :=
  (id.filter (· != "")).bind find

/-- `EVENT_LINK_INVALID` for a missing or a second link. -/
def linkInvalid : Failure :=
  .app ⟨422, "EVENT_LINK_INVALID", "이벤트 유형에 맞는 연결 대상 하나가 필요합니다."⟩

/-- Whether the link is there that goes with the type of an event. -/
def expectedLink (eventType : EventType) (drop : Option Drop) (card : Option Card)
    (achievement : Option AchievementDefinition) (externalUrl : Option String) : Bool :=
  match eventType with
  | .cardDrop => drop.isSome
  | .card => card.isSome
  | .fanMission => achievement.isSome
  | _ => externalUrl.isSome

/-- `validate_event_links`; `urlScheme` is the scheme of a URL that can be parsed. -/
def validateEventLinks (urlScheme : String → Option String) (eventType : EventType)
    (drop : Option Drop) (card : Option Card) (achievement : Option AchievementDefinition)
    (externalUrl : Option String) : Except Failure Unit :=
  if eventType = .announcement ∨ eventType = .comment then
    ensure (drop = none ∧ card = none ∧ achievement = none ∧ truthy externalUrl = false)
      (.app ⟨422, "EVENT_LINK_INVALID", "공지·댓글 이벤트는 연결 대상을 가질 수 없습니다."⟩)
  else do
    ensure (expectedLink eventType drop card achievement externalUrl = true ∧
      [drop.isSome, card.isSome, achievement.isSome, externalUrl.isSome].count true = 1) linkInvalid
    if eventType = .external then do
      let scheme ← orFail (externalUrl.bind urlScheme) (.unhandled "ValueError")
      ensure (scheme = "https")
        (.app ⟨422, "EVENT_URL_INVALID", "외부 링크는 HTTPS만 사용할 수 있습니다."⟩)
    else pure ()

/-- `validate_event_connections`. -/
def validateEventConnections (urlScheme : String → Option String) (tables : LinkTables)
    (content : EventContent) : Except Failure Unit := do
  let drop := lookup content.dropId tables.findDrop
  let card := lookup content.cardId tables.findCard
  let achievement := lookup content.achievementId tables.findAchievement
  validateEventLinks urlScheme content.eventType drop card achievement content.externalUrl
  ensure (content.eventType = .cardDrop →
      drop.any fun drop => drop.status == .scheduled || drop.status == .live)
    (.app ⟨422, "EVENT_DROP_NOT_READY", "공개 가능한 드롭만 이벤트에 연결할 수 있습니다."⟩)
  ensure (content.eventType = .card → card.any (·.releaseStatus == .published))
    (.app ⟨422, "EVENT_CARD_NOT_READY", "공개된 카드만 이벤트에 연결할 수 있습니다."⟩)
  ensure (content.eventType = .fanMission → achievement.any (·.status == .published))
    (.app ⟨422, "EVENT_MISSION_NOT_READY", "공개된 미션만 이벤트에 연결할 수 있습니다."⟩)

/-- The target that goes with the type of an event can be shown to fans. -/
def TargetReady (urlScheme : String → Option String) (tables : LinkTables)
    (content : EventContent) : Prop :=
  match content.eventType with
  | .announcement | .comment => True
  | .cardDrop => (content.dropId.bind tables.findDrop).any fun drop =>
    drop.status == .scheduled || drop.status == .live
  | .card => (content.cardId.bind tables.findCard).any (·.releaseStatus == .published)
  | .fanMission =>
    (content.achievementId.bind tables.findAchievement).any (·.status == .published)
  | .external => content.externalUrl.bind urlScheme = some "https"

instance (urlScheme : String → Option String) (tables : LinkTables) (content : EventContent) :
    Decidable (TargetReady urlScheme tables content) := by
  unfold TargetReady
  cases content.eventType <;> infer_instance

/-- `EventCreateRequest`, and `EventUpdateRequest`. -/
structure EventPayload extends EventContent where
  organizationId : Option OrganizationId := none
  artistId : Option ArtistId := none
  relatedCardIds : List CardId := []
  priority : Nat := 0
deriving DecidableEq, Repr

/-- `value.lower().startswith("https://")`. -/
def startsHttps (value : String) : Bool :=
  "https://".toList.isPrefixOf (value.toList.map Char.toLower)

namespace EventPayload

variable (payload : EventPayload)

/-- The links that are not empty, and the one that the type of the event asks for. -/
def linksFit : Bool :=
  let selected := [payload.dropId, payload.cardId, payload.achievementId,
    payload.externalUrl].countP truthy
  match payload.eventType with
  | .announcement | .comment => selected == 0
  | .cardDrop => payload.dropId.isSome && selected == 1
  | .card => payload.cardId.isSome && selected == 1
  | .fanMission => payload.achievementId.isSome && selected == 1
  | .external => payload.externalUrl.isSome && selected == 1

/-- `_validate_event_fields`. -/
def validateEventFields : Except Failure Unit :=
  ensure ((∀ limit ∈ payload.participantLimit, 1 ≤ limit) ∧ payload.relatedCardIds.Nodup ∧
      (∀ endsAt ∈ payload.endsAt, payload.startsAt < endsAt) ∧
      (∀ endsAt ∈ payload.applicationEndsAt, ∀ startsAt ∈ payload.applicationStartsAt,
        startsAt < endsAt) ∧
      payload.linksFit = true ∧ ∀ url ∈ payload.externalUrl, startsHttps url = true)
    (.app ⟨422, "VALIDATION_ERROR", "입력값을 확인해 주세요."⟩)

end EventPayload

structure EventDb where
  events : List Event
  relatedCards : List EventRelatedCard
  assets : List MediaAsset
  organizations : List OrganizationId
  artists : List ArtistId
  tables : LinkTables

/-- `validate_transition`. -/
def validateTransition (current target : EventWorkflowStatus) : Except Failure Unit :=
  let allowed : List EventWorkflowStatus := match current with
    | .draft | .changesRequested => [.pendingReview]
    | .pendingReview => [.changesRequested, .approved]
    | .approved => [.scheduled, .published]
    | .scheduled => [.published, .ended]
    | .published => [.ended]
    | .ended => []
  ensure (target ∈ allowed)
    (.app ⟨409, "EVENT_TRANSITION_INVALID",
      current.text ++ " 상태에서 " ++ target.text ++ "(으)로 변경할 수 없습니다."⟩)

namespace EventDb

variable (urlScheme : String → Option String) (db : EventDb) (context : AdminContext)

/-- `validate_event_asset`. -/
def validateEventAsset (assetId : String) : Except Failure Unit :=
  ensure ((db.assets.find? (·.id == assetId)).any fun asset =>
      asset.purpose == "event_banner" && asset.uploadCompletedAt.isSome &&
        [some "image/png", some "image/jpeg", some "image/webp"].contains asset.contentType)
    (.app ⟨422, "EVENT_ASSET_INVALID", "완료된 이벤트 배너 이미지를 선택해 주세요."⟩)

/-- `_validate_related_cards`. -/
def validateRelatedCards (cardIds : List CardId) : Except Failure Unit := do
  ensure (∀ cardId ∈ cardIds, (db.tables.findCard cardId).isSome)
    (.app ⟨422, "EVENT_RELATED_CARD_INVALID", "관련 카드 중 존재하지 않는 카드가 있습니다."⟩)
  ensure (context.isRoot = true ∨ ∀ cardId ∈ cardIds, ∀ card ∈ db.tables.findCard cardId,
      card.artistId.any (· ∈ context.assignedArtistIds))
    (.app ⟨404, "RESOURCE_NOT_FOUND", "항목을 찾을 수 없습니다."⟩)

/-- `_replace_related_cards`: the new rows are inserted before the old ones are deleted. -/
def replaceRelatedCards (eventId : EventId) (cardIds : List CardId) : Except Failure EventDb := do
  let rows := cardIds.mapIdx fun position cardId => EventRelatedCard.mk eventId cardId position
  ensure (∀ row ∈ rows, ∀ old ∈ db.relatedCards, old.eventId = eventId →
      old.cardId ≠ row.cardId ∧ old.position ≠ row.position)
    (.integrity "uq_event_related_cards_event_position")
  pure { db with relatedCards := db.relatedCards.filter (·.eventId != eventId) ++ rows }

/-- The foreign keys of the links of an event. -/
def checkLinkKeys (content : EventContent) : Except Failure Unit := do
  ensure (∀ dropId ∈ content.dropId, (db.tables.findDrop dropId).isSome)
    (.integrity "events_drop_id_fkey")
  ensure (∀ cardId ∈ content.cardId, (db.tables.findCard cardId).isSome)
    (.integrity "events_card_id_fkey")
  ensure (∀ achievementId ∈ content.achievementId,
      (db.tables.findAchievement achievementId).isSome)
    (.integrity "events_achievement_id_fkey")

def setEvent (event : Event) : EventDb :=
  { db with events := patch (·.id == event.id) (fun _ => event) db.events }

/-- The organization that an event is created for. -/
def createdScope (payload : EventPayload) : Except Failure (Option OrganizationId) :=
  if context.isRoot then do
    ensure (¬(payload.organizationId = none ∧ payload.artistId.isSome))
      (.app ⟨422, "EVENT_SCOPE_INVALID", "서비스 이벤트는 아티스트를 지정할 수 없습니다."⟩)
    pure payload.organizationId
  else do
    let notFound : Failure := .app ⟨404, "RESOURCE_NOT_FOUND", "항목을 찾을 수 없습니다."⟩
    let organization ← orFail context.organization notFound
    ensure (∀ organizationId ∈ payload.organizationId, organizationId = organization.id) notFound
    context.requireArtist payload.artistId
    pure (some organization.id)

/-- `admin_create_event`. -/
def createEvent (payload : EventPayload) (eventId : EventId) : Except Failure EventDb := do
  payload.validateEventFields
  context.requireAction "events:write"
  let organizationId ← createdScope context payload
  db.validateEventAsset payload.heroAssetId
  db.validateRelatedCards context payload.relatedCardIds
  db.checkLinkKeys payload.toEventContent
  ensure (∀ id ∈ organizationId, id ∈ db.organizations) (.integrity "events_organization_id_fkey")
  ensure (∀ id ∈ payload.artistId, id ∈ db.artists) (.integrity "events_artist_id_fkey")
  ensure (eventId ∉ db.events.map (·.id)) (.integrity "events_pkey")
  let event : Event :=
    { payload.toEventContent with
      id := eventId, organizationId := organizationId, artistId := payload.artistId
      priority := if context.isRoot then payload.priority else 0, createdBy := context.user.id }
  ({ db with events := db.events ++ [event] } : EventDb).replaceRelatedCards eventId
    payload.relatedCardIds

/-- `admin_update_event`. -/
def updateEvent (eventId : EventId) (payload : EventPayload) : Except Failure EventDb := do
  payload.validateEventFields
  context.requireAction "events:write"
  let event ← loadEventInScope db.events context eventId
  ensure (event.workflowStatus ≠ .ended)
    (.app ⟨409, "EVENT_EDIT_LOCKED", "종료된 이벤트는 편집할 수 없습니다."⟩)
  db.validateRelatedCards context payload.relatedCardIds
  let event : Event :=
    { event with
      toEventContent := payload.toEventContent
      priority := if context.isRoot then payload.priority else event.priority }
  let db ← (db.setEvent event).replaceRelatedCards eventId payload.relatedCardIds
  db.validateEventAsset payload.heroAssetId
  db.checkLinkKeys payload.toEventContent
  pure db

/-- `admin_submit_event`. -/
def submitEvent (eventId : EventId) : Except Failure EventDb := do
  context.requireAction "events:submit"
  let event ← loadEventInScope db.events context eventId
  validateTransition event.workflowStatus .pendingReview
  db.validateEventAsset event.heroAssetId
  validateEventConnections urlScheme db.tables event.toEventContent
  pure (db.setEvent { event with workflowStatus := .pendingReview })

/-- The check that `admin_review_event` makes before an approval. -/
def validateApproval (urlScheme : String → Option String) (tables : LinkTables)
    (target : EventWorkflowStatus) (content : EventContent) : Except Failure Unit :=
  if target = .approved then validateEventConnections urlScheme tables content else .ok ()

/-- `admin_review_event`. -/
def reviewEvent (eventId : EventId) (decision : ReviewDecision) (note : Option String) :
    Except Failure EventDb := do
  context.requireAction "events:review"
  let event ← loadEventInScope db.events context eventId
  let target : EventWorkflowStatus := match decision with
    | .approved => .approved
    | .changesRequested => .changesRequested
  validateTransition event.workflowStatus target
  validateApproval urlScheme db.tables target event.toEventContent
  pure (db.setEvent
    { event with
      workflowStatus := target, reviewedBy := some context.user.id, reviewNote := note })

/-- `admin_publish_event`. -/
def publishEvent (eventId : EventId) (now : Time) : Except Failure EventDb := do
  context.requireAction "events:publish"
  let event ← loadEventInScope db.events context eventId
  let target : EventWorkflowStatus := if event.startsAt ≤ now then .published else .scheduled
  validateTransition event.workflowStatus target
  pure (db.setEvent
    { event with workflowStatus := target, publishedAt := event.publishedAt.or (some now) })

/-- `admin_end_event`. -/
def endEvent (eventId : EventId) : Except Failure EventDb := do
  context.requireAction "events:publish"
  let event ← loadEventInScope db.events context eventId
  validateTransition event.workflowStatus .ended
  pure (db.setEvent { event with workflowStatus := .ended })

end EventDb

/-- A request of an admin about an event. -/
inductive EventRequest where
  | create (payload : EventPayload) (eventId : EventId)
  | update (eventId : EventId) (payload : EventPayload)
  | submit (eventId : EventId)
  | review (eventId : EventId) (decision : ReviewDecision) (note : Option String)
  | publish (eventId : EventId) (now : Time)
  | finish (eventId : EventId)
deriving DecidableEq, Repr

namespace EventDb

def perform (urlScheme : String → Option String) (db : EventDb) (context : AdminContext) :
    EventRequest → Except Failure EventDb
  | .create payload eventId => db.createEvent context payload eventId
  | .update eventId payload => db.updateEvent context eventId payload
  | .submit eventId => db.submitEvent urlScheme context eventId
  | .review eventId decision note => db.reviewEvent urlScheme context eventId decision note
  | .publish eventId now => db.publishEvent context eventId now
  | .finish eventId => db.endEvent context eventId

/-- A request of an admin; one that fails is rolled back. -/
def step (urlScheme : String → Option String) (db : EventDb)
    (request : AdminContext × EventRequest) : EventDb :=
  match db.perform urlScheme request.1 request.2 with
  | .ok db' => db'
  | .error _ => db

end EventDb

section

variable {urlScheme : String → Option String} {tables : LinkTables}

theorem LinkTables.findDrop_ne_empty {dropId : DropId} (h : (tables.findDrop dropId).isSome) :
    dropId ≠ "" := by
  obtain ⟨drop, hfind⟩ := Option.isSome_iff_exists.mp h
  obtain ⟨hmem, rfl⟩ := mem_of_find_eq_some hfind
  exact tables.dropIds drop hmem

theorem LinkTables.findCard_ne_empty {cardId : CardId} (h : (tables.findCard cardId).isSome) :
    cardId ≠ "" := by
  obtain ⟨card, hfind⟩ := Option.isSome_iff_exists.mp h
  obtain ⟨hmem, rfl⟩ := mem_of_find_eq_some hfind
  exact tables.cardIds card hmem

theorem LinkTables.findAchievement_ne_empty {achievementId : AchievementId}
    (h : (tables.findAchievement achievementId).isSome) : achievementId ≠ "" := by
  obtain ⟨achievement, hfind⟩ := Option.isSome_iff_exists.mp h
  obtain ⟨hmem, rfl⟩ := mem_of_find_eq_some hfind
  exact tables.achievementIds achievement hmem

/-- An identifier that refers to a row is looked up, and is there exactly if the row is. -/
theorem lookup_of_resolved {α : Type} {id : Option String} {find : String → Option α}
    (h : ∀ text ∈ id, (find text).isSome) (hne : ∀ {text}, (find text).isSome → text ≠ "") :
    lookup id find = id.bind find ∧ id.isSome = (id.bind find).isSome ∧
      truthy id = (id.bind find).isSome := by
  cases id with
  | none => exact ⟨rfl, rfl, rfl⟩
  | some text =>
    have hfound := h text rfl
    have htext := hne hfound
    simp [lookup, Option.filter, truthy, htext, hfound]

theorem startsHttps_ne_empty {url : String} (h : startsHttps url = true) : url ≠ "" := by
  rintro rfl
  exact absurd h (by decide)

theorem checkLinkKeys_ok {db : EventDb} {content : EventContent} {u : Unit} :
    db.checkLinkKeys content = .ok u ↔
      (∀ dropId ∈ content.dropId, (db.tables.findDrop dropId).isSome) ∧
      (∀ cardId ∈ content.cardId, (db.tables.findCard cardId).isSome) ∧
      ∀ achievementId ∈ content.achievementId,
        (db.tables.findAchievement achievementId).isSome := by
  simp [EventDb.checkLinkKeys]

/-- `linksFit`, by which of the four links are there. -/
def EventType.linksFit (eventType : EventType) (drop card achievement externalUrl : Bool) : Bool :=
  let selected := [drop, card, achievement, externalUrl].count true
  match eventType with
  | .announcement | .comment => selected == 0
  | .cardDrop => drop && selected == 1
  | .card => card && selected == 1
  | .fanMission => achievement && selected == 1
  | .external => externalUrl && selected == 1

/-- Links that fit the type of the event are valid, up to the scheme of the URL. -/
theorem validateEventLinks_iff {eventType : EventType} {drop : Option Drop} {card : Option Card}
    {achievement : Option AchievementDefinition} {externalUrl : Option String}
    (hurl : truthy externalUrl = externalUrl.isSome)
    (hfit : eventType.linksFit drop.isSome card.isSome achievement.isSome externalUrl.isSome) :
    validateEventLinks urlScheme eventType drop card achievement externalUrl = .ok () ↔
      (eventType = .external → externalUrl.bind urlScheme = some "https") := by
  have hnone : eventType = .announcement ∨ eventType = .comment → drop = none ∧ card = none ∧
      achievement = none ∧ truthy externalUrl = false := by
    rintro (rfl | rfl) <;> rw [hurl] <;>
      simpa [EventType.linksFit, List.count_eq_zero] using hfit
  cases eventType with
  | announcement | comment =>
    simp only [validateEventLinks, reduceCtorEq, true_or, or_true, if_true, ensure_ok,
      false_imp_iff, iff_true]
    exact hnone (by simp)
  | cardDrop | card | fanMission =>
    simp only [EventType.linksFit, Bool.and_eq_true, beq_iff_eq] at hfit
    simp only [validateEventLinks, reduceCtorEq, or_self, if_false, bind_ok,
      ensure_ok, exists_const, pure_ok, and_true, false_imp_iff, iff_true]
    exact hfit
  | external =>
    simp only [EventType.linksFit, Bool.and_eq_true, beq_iff_eq] at hfit
    simp only [validateEventLinks, reduceCtorEq, or_self, if_false, if_true, bind_ok,
      ensure_ok, exists_const, orFail_ok, forall_const, exists_eq_right]
    exact and_iff_right hfit

/-- The links of an accepted payload are valid exactly if their target is ready. -/
theorem validateEventConnections_iff {db : EventDb} {payload : EventPayload}
    (hfields : payload.validateEventFields = .ok ())
    (hkeys : db.checkLinkKeys payload.toEventContent = .ok ()) :
    validateEventConnections urlScheme db.tables payload.toEventContent = .ok () ↔
      TargetReady urlScheme db.tables payload.toEventContent := by
  obtain ⟨hdrop, hcard, hachievement⟩ := checkLinkKeys_ok.mp hkeys
  obtain ⟨hdropFound, hdropSome, hdropTruthy⟩ :=
    lookup_of_resolved hdrop db.tables.findDrop_ne_empty
  obtain ⟨hcardFound, hcardSome, hcardTruthy⟩ :=
    lookup_of_resolved hcard db.tables.findCard_ne_empty
  obtain ⟨hachievementFound, hachievementSome, hachievementTruthy⟩ :=
    lookup_of_resolved hachievement db.tables.findAchievement_ne_empty
  simp only [EventPayload.validateEventFields, ensure_ok] at hfields
  obtain ⟨-, -, -, -, hfit, hhttps⟩ := hfields
  have hurl : truthy payload.externalUrl = payload.externalUrl.isSome := by
    cases hexternal : payload.externalUrl with
    | none => rfl
    | some url => simpa [truthy] using startsHttps_ne_empty (hhttps url hexternal)
  have hlinks : payload.eventType.linksFit (payload.dropId.bind db.tables.findDrop).isSome
      (payload.cardId.bind db.tables.findCard).isSome
      (payload.achievementId.bind db.tables.findAchievement).isSome
      payload.externalUrl.isSome := by
    simp only [EventPayload.linksFit, List.countP_cons, List.countP_nil, hdropSome, hcardSome,
      hachievementSome, hdropTruthy, hcardTruthy, hachievementTruthy, hurl] at hfit
    simpa only [EventType.linksFit, List.count_cons, List.count_nil, beq_true] using hfit
  simp only [validateEventConnections, hdropFound, hcardFound, hachievementFound, bind_ok,
    ensure_ok, exists_const, validateEventLinks_iff hurl hlinks, TargetReady]
  cases payload.eventType <;> simp

end

/-- The statuses from the approval of an event to its end. -/
def Event.Shown (event : Event) : Prop :=
  event.workflowStatus = .approved ∨ event.workflowStatus = .scheduled ∨
    event.workflowStatus = .published

instance (event : Event) : Decidable event.Shown := inferInstanceAs (Decidable (_ ∨ _ ∨ _))

namespace EventDb

/-- The links of an event satisfy `validate_event_connections`, if it is shown. -/
def LinksValid (urlScheme : String → Option String) (tables : LinkTables) (event : Event) : Prop :=
  event.Shown → validateEventConnections urlScheme tables event.toEventContent = .ok ()

instance (urlScheme : String → Option String) (tables : LinkTables) (event : Event) :
    Decidable (LinksValid urlScheme tables event) := inferInstanceAs (Decidable (_ → _))

def AllLinksValid (urlScheme : String → Option String) (db : EventDb) : Prop :=
  ∀ event ∈ db.events, LinksValid urlScheme db.tables event

instance (urlScheme : String → Option String) (db : EventDb) :
    Decidable (db.AllLinksValid urlScheme) := inferInstanceAs (Decidable (∀ event ∈ db.events, _))

/-- An accepted edit of a shown event links it to a target that is ready. -/
def EditsReady (urlScheme : String → Option String) (db : EventDb) :
    AdminContext × EventRequest → Prop
  | (context, .update eventId payload) => (db.updateEvent context eventId payload).isOk →
    ∀ event ∈ db.events.find? (·.id == eventId), event.Shown →
      TargetReady urlScheme db.tables payload.toEventContent
  | _ => True

instance (urlScheme : String → Option String) (db : EventDb) :
    (request : AdminContext × EventRequest) → Decidable (db.EditsReady urlScheme request)
  | (_, .update ..) => by
    unfold EditsReady
    infer_instance
  | (_, .create ..) => isTrue trivial
  | (_, .submit _) => isTrue trivial
  | (_, .review ..) => isTrue trivial
  | (_, .publish ..) => isTrue trivial
  | (_, .finish _) => isTrue trivial

section

variable {urlScheme : String → Option String} {db db' : EventDb} {context : AdminContext}
  {eventId : EventId} {event : Event}

theorem mem_setEvent {row : Event} : row ∈ (db.setEvent event).events ↔
    (row ∈ db.events ∧ row.id ≠ event.id) ∨ (row = event ∧ event.id ∈ db.events.map (·.id)) := by
  simp only [setEvent, mem_patch, List.mem_map, beq_iff_eq]
  constructor
  · rintro ⟨row', hmem, rfl⟩
    split
    · exact .inr ⟨rfl, row', hmem, by assumption⟩
    · exact .inl ⟨hmem, by assumption⟩
  · rintro (⟨hmem, hid⟩ | ⟨rfl, row', hmem, hid⟩)
    · exact ⟨row, hmem, by rw [if_neg hid]⟩
    · exact ⟨row', hmem, by rw [if_pos hid]⟩

/-- A write to an event keeps the links valid exactly if it leaves valid links. -/
theorem allLinksValid_setEvent {old : Event} (h : db.AllLinksValid urlScheme)
    (hmem : old ∈ db.events) (hid : event.id = old.id) :
    (db.setEvent event).AllLinksValid urlScheme ↔ LinksValid urlScheme db.tables event := by
  constructor
  · intro hall
    exact hall event (mem_setEvent.mpr (.inr ⟨rfl, List.mem_map.mpr ⟨old, hmem, hid.symm⟩⟩))
  · intro hevent row hrow
    rcases mem_setEvent.mp hrow with ⟨hold, -⟩ | ⟨rfl, -⟩
    · exact h row hold
    · exact hevent

theorem replaceRelatedCards_ok {cardIds : List CardId}
    (h : db.replaceRelatedCards eventId cardIds = .ok db') :
    db'.events = db.events ∧ db'.tables = db.tables := by
  simp only [replaceRelatedCards, bind_ok, ensure_ok, pure_ok] at h
  obtain ⟨_, -, rfl⟩ := h
  exact ⟨rfl, rfl⟩

theorem validateTransition_ok {current target : EventWorkflowStatus} {u : Unit}
    (h : validateTransition current target = .ok u) :
    (target = .approved → current = .pendingReview) ∧
      (target = .scheduled ∨ target = .published → current = .approved ∨ current = .scheduled) := by
  revert h
  cases current <;> cases target <;> simp [validateTransition]

theorem createEvent_linksValid {payload : EventPayload} (h : db.AllLinksValid urlScheme)
    (hok : db.createEvent context payload eventId = .ok db') : db'.AllLinksValid urlScheme := by
  simp only [createEvent, bind_ok] at hok
  obtain ⟨_, -, _, -, organizationId, -, _, -, _, -, _, -, _, -, _, -, _, -, hreplace⟩ := hok
  obtain ⟨hevents, htables⟩ := replaceRelatedCards_ok hreplace
  intro row hrow
  rw [hevents] at hrow
  rw [htables]
  rcases List.mem_append.mp hrow with hold | hnew
  · exact h row hold
  · rw [List.mem_singleton.mp hnew]
    intro hshown
    simp [Event.Shown] at hshown

theorem submitEvent_linksValid (h : db.AllLinksValid urlScheme)
    (hok : db.submitEvent urlScheme context eventId = .ok db') : db'.AllLinksValid urlScheme := by
  simp only [submitEvent, bind_ok, pure_ok] at hok
  obtain ⟨_, -, event, hload, _, -, _, -, _, -, rfl⟩ := hok
  obtain ⟨hmem, -⟩ := loadEventInScope_ok hload
  refine (allLinksValid_setEvent h hmem ?_).mpr ?_
  · rfl
  · intro hshown
    simp [Event.Shown] at hshown

theorem reviewEvent_linksValid {decision : ReviewDecision} {note : Option String}
    (h : db.AllLinksValid urlScheme)
    (hok : db.reviewEvent urlScheme context eventId decision note = .ok db') :
    db'.AllLinksValid urlScheme := by
  simp only [reviewEvent, bind_ok, pure_ok] at hok
  obtain ⟨_, -, event, hload, _, -, _, hvalid, rfl⟩ := hok
  obtain ⟨hmem, -⟩ := loadEventInScope_ok hload
  refine (allLinksValid_setEvent h hmem ?_).mpr ?_
  · rfl
  · intro hshown
    cases decision with
    | approved => exact hvalid
    | changesRequested => simp [Event.Shown] at hshown

theorem publishEvent_linksValid {now : Time} (h : db.AllLinksValid urlScheme)
    (hok : db.publishEvent context eventId now = .ok db') : db'.AllLinksValid urlScheme := by
  simp only [publishEvent, bind_ok, pure_ok] at hok
  obtain ⟨_, -, event, hload, _, htransition, rfl⟩ := hok
  obtain ⟨hmem, -⟩ := loadEventInScope_ok hload
  refine (allLinksValid_setEvent h hmem ?_).mpr ?_
  · rfl
  · intro _
    refine h event hmem ?_
    -- an event is only published after it was approved
    rcases (validateTransition_ok htransition).2 (by split <;> simp) with hcurrent | hcurrent
    · exact .inl hcurrent
    · exact .inr (.inl hcurrent)

theorem endEvent_linksValid (h : db.AllLinksValid urlScheme)
    (hok : db.endEvent context eventId = .ok db') : db'.AllLinksValid urlScheme := by
  simp only [endEvent, bind_ok, pure_ok] at hok
  obtain ⟨_, -, event, hload, _, -, rfl⟩ := hok
  obtain ⟨hmem, -⟩ := loadEventInScope_ok hload
  refine (allLinksValid_setEvent h hmem ?_).mpr ?_
  · rfl
  · intro hshown
    simp [Event.Shown] at hshown

/-- An accepted edit keeps the links valid exactly if the target of a shown event is ready. -/
theorem updateEvent_linksValid {payload : EventPayload} (h : db.AllLinksValid urlScheme)
    (hok : db.updateEvent context eventId payload = .ok db') :
    db'.AllLinksValid urlScheme ↔ ∀ event ∈ db.events.find? (·.id == eventId), event.Shown →
      TargetReady urlScheme db.tables payload.toEventContent := by
  simp only [updateEvent, bind_ok, pure_ok] at hok
  obtain ⟨_, hfields, _, -, event, hload, _, -, _, -, replaced, hreplace, _, -, _, hkeys, rfl⟩ := hok
  obtain ⟨hmem, hid⟩ := loadEventInScope_ok hload
  rw [loadEventInScope, orFail_ok] at hload
  have hfind := (Option.filter_eq_some_iff.mp hload).1
  obtain ⟨hevents, htables⟩ := replaceRelatedCards_ok hreplace
  have hconnections : validateEventConnections urlScheme replaced.tables payload.toEventContent =
      .ok () ↔ TargetReady urlScheme replaced.tables payload.toEventContent :=
    validateEventConnections_iff hfields hkeys
  let edited : Event :=
    { event with
      toEventContent := payload.toEventContent
      priority := if context.isRoot then payload.priority else event.priority }
  have hedited : (db.setEvent edited).AllLinksValid urlScheme ↔
      LinksValid urlScheme db.tables edited := allLinksValid_setEvent h hmem rfl
  rw [AllLinksValid, hevents, htables]
  rw [htables] at hconnections
  refine hedited.trans ?_
  simp only [hfind, Option.mem_some_iff, forall_eq']
  exact imp_congr Iff.rfl hconnections

theorem step_linksValid {request : AdminContext × EventRequest} (h : db.AllLinksValid urlScheme) :
    (db.step urlScheme request).AllLinksValid urlScheme ↔ db.EditsReady urlScheme request := by
  obtain ⟨context, request⟩ := request
  unfold step
  dsimp only
  cases request with
  | create payload eventId =>
    refine iff_of_true ?_ trivial
    split
    · exact createEvent_linksValid h ‹_›
    · exact h
  | update eventId payload =>
    cases hok : db.updateEvent context eventId payload with
    | error e => simpa [perform, EditsReady, hok, Except.isOk, Except.toBool] using h
    | ok db' =>
      simp only [perform, EditsReady, hok, Except.isOk, Except.toBool, forall_const]
      exact updateEvent_linksValid h hok
  | submit eventId =>
    refine iff_of_true ?_ trivial
    split
    · exact submitEvent_linksValid h ‹_›
    · exact h
  | review eventId decision note =>
    refine iff_of_true ?_ trivial
    split
    · exact reviewEvent_linksValid h ‹_›
    · exact h
  | publish eventId now =>
    refine iff_of_true ?_ trivial
    split
    · exact publishEvent_linksValid h ‹_›
    · exact h
  | finish eventId =>
    refine iff_of_true ?_ trivial
    split
    · exact endEvent_linksValid h ‹_›
    · exact h

/-- The links of shown events stay valid exactly if accepted edits of shown events link them to
targets that are ready. -/
theorem linksValid_run (h : db.AllLinksValid urlScheme)
    (requests : List (AdminContext × EventRequest)) :
    Throughout (step urlScheme) (AllLinksValid urlScheme) db requests ↔
      Always (step urlScheme) (EditsReady urlScheme) db requests :=
  throughout_iff_always (I := fun _ => True) trivial h (fun _ _ _ _ _ => trivial)
    fun _ _ _ h' => step_linksValid h'

end

/-- A published card, a card in draft and a banner. -/
def cardEvents : EventDb where
  events := []
  relatedCards := []
  assets := [{ id := "banner", ownerId := "root", purpose := "event_banner",
               uploadCompletedAt := some 1, contentType := some "image/png" }]
  organizations := []
  artists := []
  tables :=
    { drops := []
      cards := [{ id := "c1", name := "One", releaseStatus := .published },
        { id := "c2", name := "Two" }]
      achievements := []
      dropIds := by decide
      cardIds := by decide
      achievementIds := by decide }

def httpsScheme (_ : String) : Option String := some "https"

/-- The payload of an event about a card. -/
def cardPayload (cardId : CardId) : EventPayload :=
  { title := "Cards", heroAssetId := "banner", eventType := .card, startsAt := 0,
    cardId := some cardId }

/-- An event about the published card is approved, and then edited. -/
def cardRequests (edited : CardId) : List (AdminContext × EventRequest) :=
  [(rootContext, .create (cardPayload "c1") "e1"), (rootContext, .submit "e1"),
    (rootContext, .review "e1" .approved none),
    (rootContext, .update "e1" (cardPayload edited)), (rootContext, .publish "e1" 1)]

theorem linksValid_fails : cardEvents.AllLinksValid httpsScheme ∧
    ¬Throughout (step httpsScheme) (AllLinksValid httpsScheme) cardEvents (cardRequests "c2") :=
  ⟨by decide, fun h => absurd h.last (by decide)⟩

theorem linksValid_run_card : cardEvents.AllLinksValid httpsScheme ∧
    (Throughout (step httpsScheme) (AllLinksValid httpsScheme) cardEvents (cardRequests "c1") ↔
      Always (step httpsScheme) (EditsReady httpsScheme) cardEvents (cardRequests "c1")) ∧
    Always (step httpsScheme) (EditsReady httpsScheme) cardEvents (cardRequests "c1") :=
  ⟨by decide, linksValid_run (by decide) _, by decide⟩

end EventDb

end Fanfolio
