import Fanfolio.Release.Cards
import Mathlib.Algebra.Order.Group.Unbundled.Abs
import Mathlib.Algebra.Order.Ring.Rat
import Mathlib.Data.Rat.Defs

/-!
# Releasing cards

A reviewed card is linked to a drop and published when the drop goes live, or at once if it is live
already. Published cards are put into packs, whose entries are fixed once the pack is published.
-/

namespace Fanfolio

open Framework

/-- The statuses that `update_drop_status` accepts. -/
inductive DropStatusUpdate where
  | draft
  | scheduled
  | live
  | ended
deriving DecidableEq, Repr

def DropStatusUpdate.status : DropStatusUpdate → DropStatus
  | .draft => .draft
  | .scheduled => .scheduled
  | .live => .live
  | .ended => .ended

structure DropCreateRequest where
  artistId : Option ArtistId := none
  startsAt : Option Time := none
  endsAt : Option Time := none
deriving DecidableEq, Repr

structure CardPackCardInput where
  cardId : CardId
  position : Nat := 0
  probability : ℚ
  enabled : Bool := true
deriving DecidableEq, Repr

structure CardPackCreate where
  artistId : ArtistId
  version : String := "v1.0"
  cards : List CardPackCardInput := []
deriving DecidableEq, Repr

section

variable {Config : Type}

def dropNotFound : Failure := .app ⟨404, "DROP_NOT_FOUND", "드롭을 찾을 수 없습니다."⟩

def packNotFound : Failure := .app ⟨404, "CARD_PACK_NOT_FOUND", "카드팩을 찾을 수 없습니다."⟩

/-- What `link_card_to_drop` sets on the card. -/
def ReleaseCard.linked (card : ReleaseCard Config) (drop : Drop) : ReleaseCard Config :=
  { card with
    releaseStatus := if drop.status = .live then .published else .dropReady
    status := if drop.status = .live then .published else .approved
    dropId := some drop.id }

def ReleaseCard.started (card : ReleaseCard Config) : ReleaseCard Config :=
  { card with releaseStatus := .published, status := .published }

/-- The entries of a pack; `draw` gives their identifiers. -/
def CardPackCreate.links (payload : CardPackCreate) (packId : PackId) (draw : CardId → String) :
    List CardPackCard :=
  payload.cards.map fun item =>
    { id := draw item.cardId, packId := packId, cardId := item.cardId, position := item.position,
      probability := item.probability, enabled := item.enabled }

namespace Release

/-- `create_drop`. -/
def createDrop (db : ReleaseDb Config) (payload : DropCreateRequest) (dropId : DropId) :
    Except Failure (ReleaseDb Config) := do
  ensure (∀ startsAt ∈ payload.startsAt, ∀ endsAt ∈ payload.endsAt, startsAt < endsAt)
    (.app ⟨422, "INVALID_DROP_WINDOW", "종료 시각은 시작 시각보다 늦어야 합니다."⟩)
  ensure (∀ row ∈ db.drops, row.id ≠ dropId) (.integrity "drops_pkey")
  return { db with
    drops := db.drops ++ [{ id := dropId, status := .draft, artistId := payload.artistId }] }

/-- `submit_drop`. -/
def submitDrop (db : ReleaseDb Config) (dropId : DropId) : Except Failure (ReleaseDb Config) := do
  let drop ← orFail (db.findDrop dropId) dropNotFound
  ensure (drop.status = .draft)
    (.app ⟨409, "INVALID_DROP_STATUS", "초안 드롭만 발행 요청할 수 있습니다."⟩)
  return { db with drops := patch (·.id == drop.id) ({ · with status := .pendingReview }) db.drops }

/-- `link_card_to_drop`. -/
def linkCardToDrop (db : ReleaseDb Config) (dropId : DropId) (cardId : CardId) :
    Except Failure (ReleaseDb Config) := do
  let drop ← orFail (db.findDrop dropId) dropNotFound
  let card ← orFail (db.findCard cardId) cardNotFound
  ensure (card.artistId = drop.artistId)
    (.app ⟨404, "RESOURCE_NOT_FOUND", "항목을 찾을 수 없습니다."⟩)
  ensure (card.releaseStatus = .approved)
    (.app ⟨409, "CARD_RELEASE_NOT_APPROVED",
      "모든 필수 검수가 끝난 카드만 드롭에 연결할 수 있습니다."⟩)
  return db.modifyCard card.id (·.linked drop)

/-- `update_drop_status`. -/
def updateDropStatus (db : ReleaseDb Config) (dropId : DropId) (payload : DropStatusUpdate) :
    Except Failure (ReleaseDb Config) := do
  let drop ← orFail (db.findDrop dropId) dropNotFound
  let updated := { db with
    drops := patch (·.id == drop.id) ({ · with status := payload.status }) db.drops }
  if drop.status ≠ .live ∧ payload = .live then
    return { updated with
      cards := patch (fun row => row.dropId == some drop.id && row.releaseStatus == .dropReady)
        (·.started) db.cards }
  else return updated

/-- `validate_card_pack_input`. -/
def validateCardPackInput (db : ReleaseDb Config) (payload : CardPackCreate) :
    Except Failure Unit := do
  ensure ((payload.cards.map (·.cardId)).Nodup)
    (.app ⟨422, "DUPLICATE_PACK_CARD", "카드팩에 같은 카드를 중복으로 넣을 수 없습니다."⟩)
  let total := ((payload.cards.filter (·.enabled)).map (·.probability)).sum
  ensure (payload.cards = [] ∨ |total - 100| ≤ 1 / 1000)
    (.app ⟨422, "INVALID_PACK_ODDS", "공개 확률의 합계는 100%여야 합니다."⟩)
  let rows := db.cards.filter fun row => row.id ∈ payload.cards.map (·.cardId)
  ensure (rows.length = payload.cards.length)
    (.app ⟨404, "CARD_NOT_FOUND", "카드팩에 포함할 카드를 찾을 수 없습니다."⟩)
  ensure (∀ card ∈ rows, card.status = .published)
    (.app ⟨422, "PACK_CARDS_NOT_PUBLISHED", "공개되지 않은 카드는 카드팩에 포함할 수 없습니다."⟩)

/-- The check that the cards are those of the artist. -/
def checkPackArtist (db : ReleaseDb Config) (payload : CardPackCreate) : Except Failure Unit :=
  ensure (∀ card ∈ db.cards, card.id ∈ payload.cards.map (·.cardId) →
      card.artistId = some payload.artistId)
    (.app ⟨422, "PACK_ARTIST_MISMATCH", "카드팩과 카드의 아티스트가 일치해야 합니다."⟩)

/-- `create_card_pack`. -/
def createCardPack (db : ReleaseDb Config) (payload : CardPackCreate) (packId : PackId)
    (draw : CardId → String) : Except Failure (ReleaseDb Config) := do
  validateCardPackInput db payload
  ensure (payload.artistId ∈ db.artists)
    (.app ⟨404, "ARTIST_NOT_FOUND", "아티스트를 찾을 수 없습니다."⟩)
  checkPackArtist db payload
  ensure (∀ row ∈ db.packs, row.id ≠ packId) (.integrity "card_packs_pkey")
  let links := payload.links packId draw
  ensure (((db.packCards ++ links).map (·.id)).Nodup) (.integrity "card_pack_cards_pkey")
  return { db with
    packs := db.packs ++
      [{ id := packId, artistId := payload.artistId, version := payload.version,
         status := .draft }]
    packCards := db.packCards ++ links }

/-- `update_card_pack`. -/
def updateCardPack (db : ReleaseDb Config) (packId : PackId) (payload : CardPackCreate)
    (draw : CardId → String) : Except Failure (ReleaseDb Config) := do
  let pack ← orFail (db.findPack packId) packNotFound
  ensure (pack.status ≠ .published)
    (.app ⟨409, "PUBLISHED_PACK_IMMUTABLE",
      "공개된 카드팩은 수정할 수 없습니다. 새 버전을 만들어 주세요."⟩)
  validateCardPackInput db payload
  ensure (payload.artistId = pack.artistId)
    (.app ⟨422, "PACK_ARTIST_IMMUTABLE", "기존 카드팩의 아티스트는 변경할 수 없습니다."⟩)
  checkPackArtist db payload
  let others := db.packCards.filter (·.packId != pack.id)
  let links := payload.links pack.id draw
  ensure (((others ++ links).map (·.id)).Nodup) (.integrity "card_pack_cards_pkey")
  return { db with
    packs := patch (·.id == pack.id) ({ · with version := payload.version }) db.packs
    packCards := others ++ links }

/-- `publish_card_pack`. -/
def publishCardPack (db : ReleaseDb Config) (packId : PackId) :
    Except Failure (ReleaseDb Config) := do
  let pack ← orFail (db.findPack packId) packNotFound
  let links : List CardPackCard := db.packCards.filter (·.packId == pack.id)
  let total : ℚ := ((links.filter (·.enabled)).map (·.probability)).sum
  ensure (links ≠ [] ∧ |total - 100| ≤ 1 / 1000)
    (.app ⟨422, "INVALID_PACK_ODDS", "공개 확률의 합계는 100%여야 합니다."⟩)
  ensure (∀ card ∈ db.cards, card.id ∈ (links.filter (·.enabled)).map (·.cardId) →
      card.status = .published)
    (.app ⟨422, "PACK_CARDS_NOT_PUBLISHED",
      "공개되지 않은 카드는 카드팩을 공개하기 전에 먼저 공개해야 합니다."⟩)
  return { db with packs := patch (·.id == pack.id) ({ · with status := .published }) db.packs }

end Release

end

end Fanfolio
