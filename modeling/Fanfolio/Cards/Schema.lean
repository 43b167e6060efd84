import Fanfolio.Events
import Fanfolio.Ownership.Ledger
import Mathlib.Data.Rat.Defs

/-!
# The card tables

The catalogue of cards, drops, packs and recipes, the cards that fans own, and the trades,
combinations and pack openings that move or create them.
-/

namespace Fanfolio

open Framework

abbrev PackId := String
abbrev RecipeId := String
abbrev CombinationId := String
abbrev OpeningId := String
abbrev ProposalId := Uuid

inductive Role where
  | fan
  | admin
  | artist
deriving DecidableEq, Repr

structure User where
  id : UserId
  role : Role := .fan
deriving DecidableEq, Repr

structure UserBlock where
  blockerId : UserId
  blockedId : UserId
deriving DecidableEq, Repr

inductive CardStatus where
  | draft
  | changesRequested
  | pendingReview
  | approved
  | published
deriving DecidableEq, Repr

inductive ReleaseStatus where
  | draft
  | changesRequested
  | pendingPartnerReview
  | pendingPlatformReview
  | approved
  | dropReady
  | published
deriving DecidableEq, Repr

/-- A row of `cards`. -/
structure Card where
  id : CardId
  name : String
  status : CardStatus := .published
  releaseStatus : ReleaseStatus := .draft
  ownerArtistId : Option String := none
  artistId : Option String := none
  memberId : Option String := none
  rarity : Option String := none
  issueLimit : Option Nat := none
  tradable : Bool := true
  dropId : Option DropId := none
deriving DecidableEq, Repr

inductive DropStatus where
  | draft
  | pendingReview
  | scheduled
  | live
  | ended
deriving DecidableEq, Repr

structure Drop where
  id : DropId
  status : DropStatus := .live
  artistId : Option String := none
deriving DecidableEq, Repr

/-- A row of `redeem_codes`. -/
structure RedeemCode where
  code : CodeId
  cardId : CardId
  dropId : DropId
  expiresAt : Option Time := none
  usedCount : Nat := 0
  maxUses : Nat := 1
  disabledAt : Option Time := none
deriving DecidableEq, Repr

/-- A row of `user_cards`: one copy of a card, held by its owner. -/
structure UserCard where
  id : UserCardId
  userId : UserId
  cardId : CardId
  redeemCodeId : Option CodeId
  dropId : Option DropId
  serialNumber : Nat
  acquisitionSource : String
  acquiredAt : Time
  expiresAt : Option Time := none
  tradeLockedAt : Option Time := none
deriving DecidableEq, Repr

inductive ProposalStatus where
  | pending
  | accepted
  | rejected
  | cancelled
  | expired
deriving DecidableEq, Repr

/-- A row of `trade_proposals`. -/
structure TradeProposal where
  id : ProposalId
  proposerId : UserId
  recipientId : UserId
  status : ProposalStatus
  expiresAt : Time
  createdAt : Time
  respondedAt : Option Time := none
deriving DecidableEq, Repr

inductive TradeSide where
  | offered
  | requested
deriving DecidableEq, Repr

/-- A row of `trade_items`: a card that one side of a proposal puts in. -/
structure TradeItem where
  proposalId : ProposalId
  userCardId : UserCardId
  side : TradeSide
deriving DecidableEq, Repr

/-- A row of `trade_locks`: the proposal that holds a card. -/
structure TradeLock where
  proposalId : ProposalId
  userCardId : UserCardId
deriving DecidableEq, Repr

structure TradeHold where
  proposalId : ProposalId
  releasedAt : Option Time := none
deriving DecidableEq, Repr

inductive PublicationStatus where
  | draft
  | published
deriving DecidableEq, Repr

structure CardPack where
  id : PackId
  artistId : String
  version : String := "v1.0"
  status : PublicationStatus := .published
deriving DecidableEq, Repr

/-- A row of `card_pack_cards`: a card of a pack and its probability, in percent. -/
structure CardPackCard where
  id : String
  packId : PackId
  cardId : CardId
  position : Nat := 0
  probability : ℚ
  enabled : Bool := true
deriving DecidableEq, Repr

/-- A row of `card_combination_recipes`. -/
structure CardCombinationRecipe where
  id : RecipeId
  scopeType : String
  scopeId : PackId
  inputQuantity : Nat
  outputRarityPool : List String
  probabilitySnapshot : List (CardId × ℚ)
  probabilityVersion : String
  status : PublicationStatus
deriving DecidableEq, Repr

structure CardCombination where
  id : CombinationId
  userId : UserId
  recipeId : RecipeId
  resultCardId : CardId
  resultUserCardId : Option UserCardId
  materialUserCardIds : List UserCardId
  probabilityVersion : String
  idempotencyKey : Option String
deriving DecidableEq, Repr

/-- A row of `card_combination_materials`: a copy that a combination consumed. -/
structure CardCombinationMaterial where
  combinationId : CombinationId
  userCardId : UserCardId
  cardId : CardId
deriving DecidableEq, Repr

inductive EntitlementStatus where
  | available
  | opened
  | revoked
deriving DecidableEq, Repr

/-- A right to open a pack: a row of `shop_order_entitlements` or of
`reward_grant_card_pack_entitlements`; `sourceId` is the order or the grant it came from. -/
structure PackEntitlement where
  id : String
  sourceId : String
  userId : UserId
  packId : PackId
  status : EntitlementStatus
  openedAt : Option Time := none
  createdAt : Time
deriving DecidableEq, Repr

structure CardPackOpening where
  id : OpeningId
  userId : UserId
  packId : PackId
  cardId : CardId
  userCardId : Option UserCardId
  idempotencyKey : Option String
  issuanceCode : String
deriving DecidableEq, Repr

/-- The tables that the card requests read and write. -/
structure CardDb (Digest : Type) where
  users : List User
  blocks : List UserBlock
  cards : List Card
  drops : List Drop
  codes : List RedeemCode
  packs : List CardPack
  packCards : List CardPackCard
  recipes : List CardCombinationRecipe
  shopEntitlements : List PackEntitlement
  rewardEntitlements : List PackEntitlement
  userCards : List UserCard
  ledger : List (CardOwnershipLedger Digest)
  proposals : List TradeProposal
  items : List TradeItem
  locks : List TradeLock
  holds : List TradeHold
  combinations : List CardCombination
  materials : List CardCombinationMaterial
  openings : List CardPackOpening
  events : List EngagementEvent
deriving DecidableEq, Repr

/-- The answer of a request: the database it leaves behind, and what the caller is told. -/
abbrev Answer (Digest α : Type) := CardDb Digest × Except Failure α

/-- A request is one transaction: it commits on success and is rolled back on failure. -/
def transact {Digest α : Type} (db : CardDb Digest) (attempt : Except Failure (CardDb Digest × α)) :
    Answer Digest α :=
  match attempt with
  | .ok (db', a) => (db', .ok a)
  | .error e => (db, .error e)

namespace CardDb

variable {Digest : Type}

def findUserCard (db : CardDb Digest) (userCardId : UserCardId) : Option UserCard :=
  db.userCards.find? (fun row => row.id == userCardId)

def findCard (db : CardDb Digest) (cardId : CardId) : Option Card :=
  db.cards.find? (fun row => row.id == cardId)

def findDrop (db : CardDb Digest) (dropId : DropId) : Option Drop :=
  db.drops.find? (fun row => row.id == dropId)

def findCode (db : CardDb Digest) (code : CodeId) : Option RedeemCode :=
  db.codes.find? (fun row => row.code == code)

def findProposal (db : CardDb Digest) (proposalId : ProposalId) : Option TradeProposal :=
  db.proposals.find? (fun row => row.id == proposalId)

end CardDb

end Fanfolio
