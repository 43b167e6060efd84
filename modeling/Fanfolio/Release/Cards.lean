import Fanfolio.Release.Schema

/-!
# Making and reviewing cards

Operators and artists make cards, edit them and submit them for review; the company of the artist
decides first, and the platform after it where the policy says so. Root administrators have an
older review next to this one, and publish cards without a drop.

The checks on assets read storage; `assets` is their outcome.
-/

namespace Fanfolio

open Framework

/-- The attributes that a request sets on a card. -/
structure CardValues (Config : Type) where
  name : Option String := none
  rarity : Option (Option String) := none
  imageAssetId : Option (Option String) := none
  ownerArtistId : Option (Option String) := none
  artistId : Option (Option ArtistId) := none
  memberId : Option (Option MemberId) := none
  handwritingAssetId : Option (Option String) := none
  voiceAssetId : Option (Option String) := none
  videoAssetId : Option (Option String) := none
  designConfig : Option (Option Config) := none
  issueLimit : Option (Option Nat) := none
deriving DecidableEq, Repr

inductive CardReviewDecision where
  | approve
  | requestChanges
deriving DecidableEq, Repr

/-- A decision of the company or the platform, with its note. -/
structure ReleaseDecision where
  decision : ReviewDecision
  note : Option String := none
deriving DecidableEq, Repr

section

variable {Config : Type}

def ReleaseCard.update (card : ReleaseCard Config) (values : CardValues Config) :
    ReleaseCard Config :=
  { card with
    name := values.name.getD card.name
    rarity := values.rarity.getD card.rarity
    imageAssetId := values.imageAssetId.getD card.imageAssetId
    ownerArtistId := values.ownerArtistId.getD card.ownerArtistId
    artistId := values.artistId.getD card.artistId
    memberId := values.memberId.getD card.memberId
    handwritingAssetId := values.handwritingAssetId.getD card.handwritingAssetId
    voiceAssetId := values.voiceAssetId.getD card.voiceAssetId
    videoAssetId := values.videoAssetId.getD card.videoAssetId
    designConfig := values.designConfig.getD card.designConfig
    issueLimit := values.issueLimit.getD card.issueLimit }

/-- An edit takes a card back to draft if changes were requested. -/
def ReleaseCard.backToDraft (card : ReleaseCard Config) : ReleaseCard Config :=
  if card.releaseStatus = .changesRequested then
    { card with releaseStatus := .draft, status := .draft }
  else card

def ReleaseCard.changesRequested (card : ReleaseCard Config) (note : Option String) :
    ReleaseCard Config :=
  { card with
    releaseStatus := .changesRequested, status := .changesRequested, reviewNote := note }

def ReleaseCard.approved (card : ReleaseCard Config) : ReleaseCard Config :=
  { card with releaseStatus := .approved, status := .approved }

def ReleaseCard.toPlatform (card : ReleaseCard Config) : ReleaseCard Config :=
  { card with releaseStatus := .pendingPlatformReview, status := .pendingReview }

/-- The values with the artist of the member, where they name an artist or a member. -/
def resolveValues (db : ReleaseDb Config) (artistId : Option ArtistId) (memberId : Option MemberId)
    (values : CardValues Config) : Except Failure (CardValues Config) :=
  if values.artistId.isSome ∨ values.memberId.isSome then do
    let resolved ← resolveCatalogIds db (values.artistId.getD artistId)
      (values.memberId.getD memberId)
    return { values with artistId := some resolved }
  else .ok values

def cardLocked : Failure :=
  .app ⟨409, "INVALID_CARD_STATUS", "공개된 카드는 운영 화면에서 수정할 수 없습니다."⟩

def reviewNotAllowed : Failure :=
  .app ⟨409, "INVALID_CARD_STATUS", "검수 요청할 수 없는 상태입니다."⟩

def reviewRequired : Failure :=
  .app ⟨409, "REVIEW_REQUIRED", "검수 승인 후 카드를 공개할 수 있습니다."⟩

namespace Release

/-- `create_admin_card`. -/
def createAdminCard (db : ReleaseDb Config) (name : String) (values : CardValues Config)
    (assets : Except Failure Unit) (cardId : CardId) : Except Failure (ReleaseDb Config) := do
  assets
  let resolved ← resolveValues db none none values
  db.insertCard (({ id := cardId, name := name, status := .draft } : ReleaseCard Config).update
    resolved)

/-- `update_admin_card`. -/
def updateAdminCard (db : ReleaseDb Config) (cardId : CardId) (values : CardValues Config)
    (assets : Except Failure Unit) : Except Failure (ReleaseDb Config) := do
  let card ← orFail (db.findCard cardId) cardNotFound
  ensure (card.status ≠ .published) cardLocked
  assets
  let resolved ← resolveValues db card.artistId card.memberId values
  return db.modifyCard card.id (·.update resolved)

/-- `delete_admin_card`; the reviews and effect versions of the card go with it. -/
def deleteAdminCard (db : ReleaseDb Config) (cardId : CardId) :
    Except Failure (ReleaseDb Config) := do
  let card ← orFail (db.findCard cardId) cardNotFound
  ensure (card.status = .draft ∧ card.releaseStatus = .draft)
    (.app ⟨409, "INVALID_CARD_STATUS", "초안 상태의 카드만 삭제할 수 있습니다."⟩)
  ensure (∀ link ∈ db.packCards, link.cardId ≠ card.id)
    (.app ⟨409, "CARD_IN_USE", "카드팩 구성에 연결된 카드는 먼저 구성에서 제거해 주세요."⟩)
  return { db with
    cards := db.cards.filter (·.id != card.id)
    requests := db.requests.filter (·.cardId != card.id)
    effects := db.effects.filter (·.cardId != card.id) }

/-- `create_card` of the studio. -/
def createCard (db : ReleaseDb Config) (userId : UserId) (name : String)
    (values : CardValues Config) (assets : Except Failure Unit) (cardId : CardId) :
    Except Failure (ReleaseDb Config) := do
  assets
  let artistId ← resolveCatalogIds db (values.artistId.getD none) (values.memberId.getD none)
  db.insertCard (({ id := cardId, name := name, status := .draft } : ReleaseCard Config).update
    { values with ownerArtistId := some (some userId), artistId := some artistId })

def ownedCard (db : ReleaseDb Config) (userId : UserId) (cardId : CardId) :
    Except Failure (ReleaseCard Config) :=
  orFail ((db.findCard cardId).filter (·.ownerArtistId = some userId)) cardNotFound

/-- `update_card` of the studio. -/
def updateCard (db : ReleaseDb Config) (userId : UserId) (cardId : CardId)
    (values : CardValues Config) (assets : Except Failure Unit) :
    Except Failure (ReleaseDb Config) := do
  let card ← ownedCard db userId cardId
  ensure (card.status = .draft ∨ card.status = .changesRequested)
    (.app ⟨409, "INVALID_CARD_STATUS", "현재 상태에서는 카드를 수정할 수 없습니다."⟩)
  assets
  let resolved ← resolveValues db card.artistId card.memberId { values with ownerArtistId := none }
  return db.modifyCard card.id fun row => (row.update resolved).backToDraft

section

variable [Inhabited Config]

/-- `submit_admin_card_review`. -/
def submitAdminCardReview (db : ReleaseDb Config) (cardId : CardId) (note : Option String)
    (requestId : ReviewRequestId) : Except Failure (ReleaseDb Config) := do
  let card ← orFail (db.findCard cardId) cardNotFound
  ensure (card.status = .draft ∨ card.status = .changesRequested) reviewNotAllowed
  ensure (card.releaseStatus = .draft ∨ card.releaseStatus = .changesRequested) reviewNotAllowed
  submitCardForReleaseReview (db.modifyCard card.id ({ · with reviewNote := note }))
    { card with reviewNote := note } requestId

/-- `submit_review` of the studio. -/
def submitReview (db : ReleaseDb Config) (userId : UserId) (cardId : CardId) (note : Option String)
    (assets : Except Failure Unit) (requestId : ReviewRequestId) :
    Except Failure (ReleaseDb Config) := do
  let card ← ownedCard db userId cardId
  ensure (card.status = .draft) reviewNotAllowed
  ensure (card.releaseStatus = .draft ∨ card.releaseStatus = .changesRequested) reviewNotAllowed
  assets
  submitCardForReleaseReview (db.modifyCard card.id ({ · with reviewNote := note }))
    { card with reviewNote := note } requestId

end

/-- `review_card`. -/
def reviewCard (db : ReleaseDb Config) (cardId : CardId) (decision : CardReviewDecision) :
    Except Failure (ReleaseDb Config) := do
  let card ← orFail (db.findCard cardId) cardNotFound
  ensure (card.status = .pendingReview)
    (.app ⟨409, "INVALID_REVIEW_STATUS", "검수 대기 중인 카드만 검수할 수 있습니다."⟩)
  return db.modifyCard card.id ({ · with
    status := match decision with
      | .approve => .approved
      | .requestChanges => .changesRequested })

/-- `approve_card`. -/
def approveCard (db : ReleaseDb Config) (cardId : CardId) : Except Failure (ReleaseDb Config) :=
  reviewCard db cardId .approve

/-- `release_decision_payload`. -/
def checkDecision (payload : ReleaseDecision) : Except Failure Unit :=
  ensure (payload.decision = .changesRequested → payload.note.any (· ≠ ""))
    (.app ⟨422, "REVIEW_NOTE_REQUIRED", "수정 요청 사유를 입력해 주세요."⟩)

/-- `decide_partner_review`. -/
def decidePartnerReview [Inhabited Config] (db : ReleaseDb Config) (cardId : CardId)
    (payload : ReleaseDecision) (requestId : ReviewRequestId) :
    Except Failure (ReleaseDb Config) := do
  checkDecision payload
  let card ← orFail (db.findCard cardId) cardNotFound
  ensure (card.releaseStatus = .pendingPartnerReview)
    (.app ⟨409, "INVALID_REVIEW_STATUS", "회사 검수 대기 중인 카드만 검수할 수 있습니다."⟩)
  let request ← orFail (activeReviewRequest db card .partner)
    (.app ⟨409, "INVALID_REVIEW_STATUS", "회사 검수 요청을 찾을 수 없습니다."⟩)
  let recorded := recordReviewDecision db request payload.decision
  match payload.decision with
  | .changesRequested =>
    return recorded.modifyCard card.id (·.changesRequested payload.note)
  | .approved =>
    if card.releasePolicy = .partnerAndPlatform then
      createReviewRequest (recorded.modifyCard card.id (·.toPlatform)) card.toPlatform
        .platform requestId
    else return recorded.modifyCard card.id (·.approved)

/-- `decide_platform_review`. -/
def decidePlatformReview (db : ReleaseDb Config) (cardId : CardId) (payload : ReleaseDecision) :
    Except Failure (ReleaseDb Config) := do
  checkDecision payload
  let card ← orFail (db.findCard cardId) cardNotFound
  ensure (card.releaseStatus = .pendingPlatformReview)
    (.app ⟨409, "INVALID_REVIEW_STATUS", "플랫폼 검수 대기 중인 카드만 검수할 수 있습니다."⟩)
  let request ← orFail (activeReviewRequest db card .platform)
    (.app ⟨409, "INVALID_REVIEW_STATUS", "플랫폼 검수 요청을 찾을 수 없습니다."⟩)
  let recorded := recordReviewDecision db request payload.decision
  match payload.decision with
  | .changesRequested =>
    return recorded.modifyCard card.id (·.changesRequested payload.note)
  | .approved => return recorded.modifyCard card.id (·.approved)

/-- `publish`. -/
def publish (db : ReleaseDb Config) (cardId : CardId) : Except Failure (ReleaseDb Config) := do
  let card ← orFail (db.findCard cardId) cardNotFound
  ensure (¬(card.ownerArtistId.isSome ∧ card.status = .pendingReview)) reviewRequired
  ensure (¬(card.ownerArtistId.isSome ∧ card.releaseStatus = .approved))
    (.app ⟨409, "CARD_RELEASE_DROP_REQUIRED",
      "아티스트 카드는 승인 후 드롭 공개를 통해 출시해야 합니다."⟩)
  ensure (¬(card.status = .pendingReview ∨
    card.status = .draft ∧ card.ownerArtistId.isSome)) reviewRequired
  return db.modifyCard card.id ({ · with status := .published })

end Release

end

end Fanfolio
