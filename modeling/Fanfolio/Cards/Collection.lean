import Fanfolio.Cards.System
import Fanfolio.Growth.Achievements
import Mathlib.Data.List.Dedup

/-!
# Collections

The collection view lists the copies of a fan that no combination consumed. The benefits of a
collection, their claims and the achievements look the cards of the fan up on their own.
-/

namespace Fanfolio

open Framework

abbrev CampaignId := String
abbrev AssetId := String

inductive CampaignStatus where
  | active
  | disabled
deriving DecidableEq, Repr

/-- A row of `collection_campaigns`. -/
structure CollectionCampaign where
  id : CampaignId
  name : String
  artistId : Option String := none
  seasonName : Option String := none
  requiredCardIds : List CardId
  benefitTitle : String
  benefitDescription : String
  benefitAssetId : Option AssetId := none
  status : CampaignStatus := .active
deriving DecidableEq, Repr

/-- A row of `collection_benefit_claims`. -/
structure CollectionBenefitClaim where
  id : String
  userId : UserId
  campaignId : CampaignId
  claimedAt : Time
deriving DecidableEq, Repr

/-- The tables, and the columns of cards, drops and artists, that only collections read. -/
structure CollectionDb where
  campaigns : List CollectionCampaign
  claims : List CollectionBenefitClaim
  isOfficial : CardId → Bool
  seasonName : CardId → Option String
  reviewVersion : CardId → Nat
  organizationId : DropId → Option String
  artistName : String → Option String

/-- The entry itself, unless it is missing or empty. -/
def orDefault (entry : Option String) (default : String) : String :=
  (entry.filter (· ≠ "")).getD default

/-- An entry of the collection view. -/
structure CollectionEntry where
  userCardId : UserCardId
  cardId : CardId
  name : String
  isOfficial : Bool
  artistId : Option String
  memberId : Option String
  rarity : Option String
  seasonName : Option String
  issueLimit : Option Nat
  acquisitionSource : String
  expiresAt : Option Time
  tradable : Bool
  serialNumber : Nat
  acquiredAt : Time
deriving DecidableEq, Repr

inductive BenefitStatus where
  | locked
  | unlocked
deriving DecidableEq, Repr

/-- An item of `collection_benefits`. -/
structure BenefitItem where
  campaignId : Option CampaignId
  artistId : Option String
  artistName : String
  seasonName : String
  requiredCount : Nat
  ownedCount : Nat
  status : BenefitStatus
  claimed : Bool
  claimedAt : Option Time
  claimable : Bool
  /-- The asset that `downloadUrl` is signed for. -/
  downloadAssetId : Option AssetId
  benefitTitle : String
  benefitDescription : String
deriving DecidableEq, Repr

/-- The cards of one artist and season, as `collection_benefits` groups the catalogue. -/
structure CatalogGroup where
  key : String × String
  artistId : Option String
  artistName : String
  cardIds : List CardId
deriving DecidableEq, Repr

/-- The answer of `claim_collection_benefit`. -/
structure BenefitClaimed where
  campaignId : CampaignId
  claimId : String
  claimedAt : Time
  downloadAssetId : Option AssetId
  benefitTitle : String
  benefitDescription : String
deriving DecidableEq, Repr

/-- The `condition_payload` of an achievement, with the entries for sets of cards. -/
structure CardConditionPayload extends ConditionPayload where
  campaignId : Option CampaignId := none
  cardIds : List CardId := []
deriving DecidableEq, Repr

/-- The columns of an achievement that say which cards count. -/
structure AchievementScope where
  organizationId : Option String := none
  artistId : Option String := none
  conditionType : AchievementCondition
  conditionPayload : CardConditionPayload := {}
deriving DecidableEq, Repr

section

variable {Digest : Type} (shelf : CollectionDb) (db : CardDb Digest) (userId : UserId)

/-- The copies of a fan that no combination consumed. -/
def CardDb.unconsumed : List UserCard :=
  db.userCards.filter fun row => row.userId == userId && !db.isMaterial row.id

/-- The copies that a pending proposal locks. -/
def CardDb.lockedByPending : List UserCardId :=
  (db.locks.filter fun lock => db.proposals.any fun row =>
    row.id == lock.proposalId && row.status == .pending).map (·.userCardId)

/-- The entry of a copy in the collection view. -/
def collectionEntry (row : UserCard) (card : Card) : CollectionEntry :=
  { userCardId := row.id
    cardId := card.id
    name := card.name
    isOfficial := shelf.isOfficial card.id
    artistId := card.artistId
    memberId := card.memberId
    rarity := card.rarity
    seasonName := shelf.seasonName card.id
    issueLimit := card.issueLimit
    acquisitionSource := row.acquisitionSource
    expiresAt := row.expiresAt
    tradable := card.tradable && row.expiresAt.isNone && row.tradeLockedAt.isNone &&
      !db.lockedByPending.contains row.id && row.acquisitionSource != "combination"
    serialNumber := row.serialNumber
    acquiredAt := row.acquiredAt }

/-- `collection`. -/
def collection : List CollectionEntry :=
  (db.unconsumed userId).filterMap fun row =>
    (db.findCard row.cardId).map (collectionEntry shelf db row)

/-- `owned_card_ids` of `collection_benefits` and of `claim_collection_benefit`. -/
def CardDb.ownedCardIds : List CardId :=
  (db.userCards.filter fun row => row.userId == userId).map (·.cardId)

/-- The item of an active campaign. -/
def campaignItem (campaign : CollectionCampaign) : BenefitItem :=
  let owned := campaign.requiredCardIds.filter ((db.ownedCardIds userId).contains ·)
  let complete := campaign.requiredCardIds.all ((db.ownedCardIds userId).contains ·)
  let claim := shelf.claims.find? fun row => row.userId == userId && row.campaignId == campaign.id
  { campaignId := some campaign.id
    artistId := campaign.artistId
    artistName := ((campaign.artistId.filter (· ≠ "")).bind shelf.artistName).getD "Fanfolio"
    seasonName := orDefault campaign.seasonName "기본 컬렉션"
    requiredCount := campaign.requiredCardIds.length
    ownedCount := owned.length
    status := if complete then .unlocked else .locked
    claimed := claim.isSome
    claimedAt := claim.map (·.claimedAt)
    claimable := complete && claim.isNone
    downloadAssetId := claim.bind fun _ => campaign.benefitAssetId.filter (· ≠ "")
    benefitTitle := campaign.benefitTitle
    benefitDescription := campaign.benefitDescription }

/-- `catalog_release_visible`. -/
def catalogReleaseVisible (card : Card) : Bool :=
  card.ownerArtistId.isNone ||
  (shelf.reviewVersion card.id == 0 && card.dropId.isNone) ||
  (card.releaseStatus == .published &&
    (card.dropId.bind db.findDrop).any fun drop => drop.status == .live)

/-- The groups of the catalogue so far, with one card more. -/
def addToGroup (groups : List CatalogGroup) (card : Card) : List CatalogGroup :=
  let key := (orDefault card.artistId "fanfolio", orDefault (shelf.seasonName card.id) "기본 컬렉션")
  if groups.any (·.key == key) then
    patch (·.key == key) (fun group => { group with cardIds := group.cardIds ++ [card.id] }) groups
  else
    groups ++ [{ key := key
                 artistId := card.artistId
                 artistName := (card.artistId.bind shelf.artistName).getD "Fanfolio"
                 cardIds := [card.id] }]

/-- The item of a group of the catalogue. -/
def groupItem (group : CatalogGroup) : BenefitItem :=
  let owned := group.cardIds.filter ((db.ownedCardIds userId).contains ·)
  { campaignId := none
    artistId := group.artistId
    artistName := group.artistName
    seasonName := group.key.2
    requiredCount := group.cardIds.length
    ownedCount := owned.length
    status := if owned.length = group.cardIds.length then .unlocked else .locked
    claimed := false
    claimedAt := none
    claimable := false
    downloadAssetId := none
    benefitTitle := group.artistName ++ " " ++ group.key.2 ++ " 완성 특전"
    benefitDescription := "컬렉션을 완성하면 디지털 특전이 해금됩니다." }

/-- `collection_benefits`; `order` and `cardOrder` are the orders in which the database returns
the campaigns and the catalogue. -/
def collectionBenefits (order : List CollectionCampaign) (cardOrder : List Card) :
    List BenefitItem :=
  match scan order (shelf.campaigns.filter (·.status == .active)) with
  | [] =>
    let catalogRows := scan cardOrder (db.cards.filter fun card =>
      card.status == .published && shelf.isOfficial card.id && catalogReleaseVisible shelf db card)
    (catalogRows.foldl (addToGroup shelf) []).map (groupItem db userId)
  | campaigns => campaigns.map (campaignItem shelf db userId)

/-- `claim_collection_benefit`; `claimId` is the identifier it draws. -/
def claimCollectionBenefit (campaignId : CampaignId) (claimId : String) (now : Time) :
    Except Failure (CollectionDb × BenefitClaimed) := do
  let alreadyClaimed : Failure :=
    .app ⟨409, "BENEFIT_ALREADY_CLAIMED", "이 특전은 이미 수령했습니다."⟩
  let campaign ← orFail (shelf.campaigns.find? fun row => row.id == campaignId)
    (.app ⟨404, "CAMPAIGN_NOT_FOUND", "컬렉션 캠페인을 찾을 수 없습니다."⟩)
  ensure (campaign.status = .active)
    (.app ⟨409, "CAMPAIGN_NOT_ACTIVE", "현재 수령할 수 없는 캠페인입니다."⟩)
  ensure (∀ row ∈ shelf.claims, ¬(row.userId = userId ∧ row.campaignId = campaign.id))
    alreadyClaimed
  ensure (∀ cardId ∈ campaign.requiredCardIds, cardId ∈ db.ownedCardIds userId)
    (.app ⟨409, "BENEFIT_NOT_UNLOCKED", "컬렉션을 완성한 뒤 특전을 수령할 수 있습니다."⟩)
  ensure (∀ row ∈ shelf.claims, row.id ≠ claimId) alreadyClaimed
  return ({ shelf with
      claims := shelf.claims ++
        [{ id := claimId, userId := userId, campaignId := campaign.id, claimedAt := now }] },
    { campaignId := campaign.id
      claimId := claimId
      claimedAt := now
      downloadAssetId := campaign.benefitAssetId.filter (· ≠ "")
      benefitTitle := campaign.benefitTitle
      benefitDescription := campaign.benefitDescription })

/-- `eligible_source_card_conditions`. -/
def eligibleSourceCardConditions (row : UserCard) (card : Card) (drop : Drop) : Bool :=
  row.userId == userId && card.status == .published && shelf.isOfficial card.id &&
  card.releaseStatus == .published && row.dropId == card.dropId && drop.status == .live

/-- `achievement_source_scope_conditions`. -/
def achievementSourceScopeConditions (achievement : AchievementScope) (card : Card) (drop : Drop) :
    Bool :=
  (achievement.organizationId.isNone ||
    shelf.organizationId drop.id == achievement.organizationId) &&
  (achievement.artistId.isNone || card.artistId == achievement.artistId)

/-- The cards that an achievement finds with a fan, one for each copy. -/
def achievementSourceCards (achievement : AchievementScope) : List Card :=
  db.userCards.filterMap fun row => do
    let card ← db.findCard row.cardId
    let drop ← card.dropId.bind db.findDrop
    if eligibleSourceCardConditions shelf userId row card drop &&
        achievementSourceScopeConditions shelf achievement card drop then
      some card
    else none

/-- `owned_card_query_value`. -/
def ownedCardQueryValue (achievement : AchievementScope) (value : Card → Option String) : Nat :=
  let member := achievement.conditionPayload.memberId.filter (· ≠ "")
  let cards := (achievementSourceCards shelf db userId achievement).filter fun card =>
    member.isNone || card.memberId == member
  (cards.filterMap value).dedup.length

/-- `achievement_current_value`; `payload` is that of the event. -/
def achievementCurrentValue (payload : JsonObject) (definition : AchievementScope) : Nat :=
  match definition.conditionType with
  | .firstCard => min 1 (ownedCardQueryValue shelf db userId definition fun card => some card.id)
  | .cardCount => ownedCardQueryValue shelf db userId definition fun card => some card.id
  | .memberCount => ownedCardQueryValue shelf db userId definition (·.memberId)
  | .specificCard =>
    match definition.conditionPayload.cardId.filter (· ≠ "") with
    | none => 0
    | some cardId =>
      ((achievementSourceCards shelf db userId definition).any (·.id == cardId)).toNat
  | .setComplete =>
    let campaign := (definition.conditionPayload.campaignId.filter (· ≠ "")).bind fun campaignId =>
      shelf.campaigns.find? fun row => row.id == campaignId
    let requiredCardIds := match campaign with
      | some campaign => campaign.requiredCardIds
      | none => definition.conditionPayload.cardIds
    let owned := (achievementSourceCards shelf db userId definition).filter fun card =>
      requiredCardIds.contains card.id
    (owned.map (·.id)).dedup.length
  | .dropParticipation =>
    match (definition.conditionPayload.dropId.filter (· ≠ "")).or
        ((payload.text "dropId").filter (· ≠ "")) with
    | none => 0
    | some dropId =>
      ((achievementSourceCards shelf db userId definition).any (·.dropId == some dropId)).toNat

end

end Fanfolio
