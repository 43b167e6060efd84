import Fanfolio.Cards.Schema
import Fanfolio.Framework.Checked
import Fanfolio.Framework.Table

/-!
# The release tables

Cards with the columns of their release, the requests to review them, their effect versions, and
the drops and packs that they are released in.
-/

namespace Fanfolio

open Framework

abbrev ArtistId := String
abbrev MemberId := String
abbrev ReviewRequestId := String
abbrev EffectVersionId := String

inductive ReleasePolicy where
  | partnerOnly
  | partnerAndPlatform
deriving DecidableEq, Repr

/-- A row of `cards`, with the columns of its release. `Config` is what a design is made of. -/
structure ReleaseCard (Config : Type) extends Card where
  releasePolicy : ReleasePolicy := .partnerOnly
  reviewVersion : Nat := 0
  reviewNote : Option String := none
  imageAssetId : Option String := none
  handwritingAssetId : Option String := none
  voiceAssetId : Option String := none
  videoAssetId : Option String := none
  designConfig : Option Config := none
deriving DecidableEq, Repr

/-- The part of a card that reviewers see. -/
structure ReviewSnapshot (Config : Type) where
  name : String
  rarity : Option String
  artistId : Option ArtistId
  memberId : Option MemberId
  imageAssetId : Option String
  voiceAssetId : Option String
  videoAssetId : Option String
  handwritingAssetId : Option String
  designConfig : Config
  issueLimit : Option Nat
deriving DecidableEq, Repr

inductive ReviewStage where
  | partner
  | platform
deriving DecidableEq, Repr

inductive RequestStatus where
  | pending
  | approved
  | changesRequested
deriving DecidableEq, Repr

/-- A row of `card_review_requests`. -/
structure CardReviewRequest (Config : Type) where
  id : ReviewRequestId
  cardId : CardId
  version : Nat
  stage : ReviewStage
  status : RequestStatus
  snapshot : ReviewSnapshot Config
deriving DecidableEq, Repr

inductive EffectStatus where
  | draft
  | pendingReview
  | approved
  | rejected
deriving DecidableEq, Repr

/-- A row of `card_effect_versions`. -/
structure CardEffectVersion (Config : Type) where
  id : EffectVersionId
  cardId : CardId
  version : Nat
  designConfig : Config
  status : EffectStatus
deriving DecidableEq, Repr

structure Member where
  id : MemberId
  artistId : ArtistId
deriving DecidableEq, Repr

structure ReleaseDb (Config : Type) where
  artists : List ArtistId
  members : List Member
  cards : List (ReleaseCard Config)
  requests : List (CardReviewRequest Config)
  effects : List (CardEffectVersion Config)
  drops : List Drop
  packs : List CardPack
  packCards : List CardPackCard
deriving DecidableEq, Repr

section

variable {Config : Type}

namespace ReleaseDb

def findCard (db : ReleaseDb Config) (cardId : CardId) : Option (ReleaseCard Config) :=
  db.cards.find? (·.id == cardId)

def findDrop (db : ReleaseDb Config) (dropId : DropId) : Option Drop :=
  db.drops.find? (·.id == dropId)

def findPack (db : ReleaseDb Config) (packId : PackId) : Option CardPack :=
  db.packs.find? (·.id == packId)

/-- Set attributes of a card. -/
def modifyCard (db : ReleaseDb Config) (cardId : CardId)
    (change : ReleaseCard Config → ReleaseCard Config) : ReleaseDb Config :=
  { db with cards := patch (·.id == cardId) change db.cards }

def insertCard (db : ReleaseDb Config) (card : ReleaseCard Config) :
    Except Failure (ReleaseDb Config) := do
  ensure (∀ row ∈ db.cards, row.id ≠ card.id) (.integrity "cards_pkey")
  return { db with cards := db.cards ++ [card] }

end ReleaseDb

def cardNotFound : Failure := .app ⟨404, "CARD_NOT_FOUND", "카드를 찾을 수 없습니다."⟩

/-- `review_snapshot`. -/
def reviewSnapshot [Inhabited Config] (card : ReleaseCard Config) : ReviewSnapshot Config :=
  { name := card.name, rarity := card.rarity, artistId := card.artistId, memberId := card.memberId,
    imageAssetId := card.imageAssetId, voiceAssetId := card.voiceAssetId,
    videoAssetId := card.videoAssetId, handwritingAssetId := card.handwritingAssetId,
    designConfig := card.designConfig.getD default, issueLimit := card.issueLimit }

/-- `required_release_policy`. -/
def requiredReleasePolicy (card : ReleaseCard Config) : ReleasePolicy :=
  if card.rarity = some "Special" then .partnerAndPlatform else .partnerOnly

/-- `create_review_request`. -/
def createReviewRequest [Inhabited Config] (db : ReleaseDb Config) (card : ReleaseCard Config)
    (stage : ReviewStage) (requestId : ReviewRequestId) : Except Failure (ReleaseDb Config) := do
  ensure (∀ row ∈ db.requests, row.id ≠ requestId) (.integrity "card_review_requests_pkey")
  ensure (∀ row ∈ db.requests,
      ¬(row.cardId = card.id ∧ row.version = card.reviewVersion ∧ row.stage = stage))
    (.integrity "uq_card_review_request_version_stage")
  return { db with
    requests := db.requests ++
      [{ id := requestId, cardId := card.id, version := card.reviewVersion, stage := stage,
         status := .pending, snapshot := reviewSnapshot card }] }

/-- `active_review_request`. -/
def activeReviewRequest (db : ReleaseDb Config) (card : ReleaseCard Config) (stage : ReviewStage) :
    Option (CardReviewRequest Config) :=
  db.requests.find? fun row => row.cardId == card.id && row.version == card.reviewVersion &&
    row.stage == stage && row.status == .pending

/-- What `submit_card_for_release_review` sets on the card. -/
def ReleaseCard.submitted (card : ReleaseCard Config) : ReleaseCard Config :=
  { card with
    reviewVersion := card.reviewVersion + 1, releasePolicy := requiredReleasePolicy card
    releaseStatus := .pendingPartnerReview, status := .pendingReview }

/-- `submit_card_for_release_review`. -/
def submitCardForReleaseReview [Inhabited Config] (db : ReleaseDb Config)
    (card : ReleaseCard Config) (requestId : ReviewRequestId) :
    Except Failure (ReleaseDb Config) :=
  createReviewRequest (db.modifyCard card.id (·.submitted)) card.submitted .partner requestId

inductive ReviewDecision where
  | approved
  | changesRequested
deriving DecidableEq, Repr

def ReviewDecision.status : ReviewDecision → RequestStatus
  | .approved => .approved
  | .changesRequested => .changesRequested

/-- `record_review_decision`, for the status of the request. -/
def recordReviewDecision (db : ReleaseDb Config) (request : CardReviewRequest Config)
    (decision : ReviewDecision) : ReleaseDb Config :=
  { db with
    requests := patch (·.id == request.id) ({ · with status := decision.status }) db.requests }

/-- `resolve_admin_catalog_ids`, and `resolve_catalog_ids` of the studio. -/
def resolveCatalogIds (db : ReleaseDb Config) (artistId : Option ArtistId)
    (memberId : Option MemberId) : Except Failure (Option ArtistId) := do
  ensure (∀ id ∈ artistId, id ∈ db.artists)
    (.app ⟨404, "ARTIST_NOT_FOUND", "선택한 그룹을 찾을 수 없습니다."⟩)
  match memberId with
  | none => return artistId
  | some memberId =>
    let member ← orFail (db.members.find? (·.id == memberId))
      (.app ⟨404, "MEMBER_NOT_FOUND", "선택한 멤버를 찾을 수 없습니다."⟩)
    ensure (∀ id ∈ artistId, id = member.artistId)
      (.app ⟨422, "MEMBER_ARTIST_MISMATCH", "멤버와 그룹을 올바르게 선택해 주세요."⟩)
    return some member.artistId

end

end Fanfolio
