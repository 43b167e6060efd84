import Fanfolio.Cards.Combination

/-!
# Opening a card pack

An opening draws one of the pack's cards by its published odds and grants it. A retry under
the same idempotency key is answered with the first opening.
-/

namespace Fanfolio

open Framework

/-- What an opening draws: identifiers, and the random point of the choice. -/
structure OpenDraws where
  openingId : OpeningId
  issuanceCode : String
  draw : ℚ
  grant : GrantDraws
  eventId : EventId
deriving DecidableEq, Repr

/-- The answer of `open_card_pack`. -/
structure PackOpened where
  openingId : OpeningId
  issuanceCode : String
  userCardId : UserCardId
  packId : PackId
  cardId : CardId
  serialNumber : Nat
  probability : ℚ
deriving DecidableEq, Repr

/-- The oldest available right of the user to open the pack. -/
def firstAvailable (entitlements : List PackEntitlement) (userId : UserId) (packId : PackId) :
    Option PackEntitlement :=
  ((entitlements.filter fun row =>
    row.userId == userId && row.packId == packId && row.status == .available).insertionSort
      fun row row' => toLex (row.createdAt, row.id) ≤ toLex (row'.createdAt, row'.id)).head?

theorem firstAvailable_ok {entitlements : List PackEntitlement} {userId : UserId} {packId : PackId}
    {row : PackEntitlement} (h : firstAvailable entitlements userId packId = some row) :
    row ∈ entitlements ∧ row.userId = userId ∧ row.packId = packId ∧ row.status = .available := by
  have hmem := (List.mem_insertionSort _).mp (List.mem_of_mem_head? h)
  simpa [and_assoc] using hmem

def markOpened (entitlements : List PackEntitlement) (id : String) (now : Time) :
    List PackEntitlement :=
  patch (·.id == id) ({ · with status := .opened, openedAt := some now }) entitlements

section

variable {Digest : Type}

/-- Mark a bought right opened, or else an earned one; an opening needs neither. -/
def CardDb.useEntitlement (db : CardDb Digest) (userId : UserId) (packId : PackId) (now : Time) :
    CardDb Digest :=
  match firstAvailable db.shopEntitlements userId packId with
  | some entitlement =>
    { db with shopEntitlements := markOpened db.shopEntitlements entitlement.id now }
  | none =>
    match firstAvailable db.rewardEntitlements userId packId with
    | some entitlement =>
      { db with rewardEntitlements := markOpened db.rewardEntitlements entitlement.id now }
    | none => db

/-- The answer to a retry, if the opening under its key can still be shown. -/
def CardDb.findOpening (db : CardDb Digest) (userId : UserId) (packId : PackId)
    (idempotencyKey : Option String) : Option PackOpened := do
  let key ← idempotencyKey.filter (· ≠ "")
  let existing ← db.openings.find? fun row =>
    row.userId == userId && row.packId == packId && row.idempotencyKey == some key
  let userCardId ← existing.userCardId
  let userCard ← db.findUserCard userCardId
  let link ← db.packCards.find? fun row => row.packId == packId && row.cardId == existing.cardId
  let card ← db.findCard existing.cardId
  return { openingId := existing.id, issuanceCode := existing.issuanceCode,
           userCardId := userCard.id, packId := packId, cardId := card.id,
           serialNumber := userCard.serialNumber, probability := link.probability }

/-- The published cards of a pack with their entries, in display order. -/
def CardDb.packRows (db : CardDb Digest) (packId : PackId) : List (CardPackCard × Card) :=
  ((db.enabledLinks packId).filterMap fun link =>
    ((db.findCard link.cardId).filter (·.status == .published)).map (link, ·)).insertionSort
      fun row row' => toLex (row.1.position, row.1.id) ≤ toLex (row'.1.position, row'.1.id)

def CardDb.insertOpening (db : CardDb Digest) (row : CardPackOpening) :
    Except Failure (CardDb Digest) := do
  ensure (∀ row' ∈ db.openings, row'.id ≠ row.id) (.integrity "card_pack_openings_pkey")
  ensure (∀ row' ∈ db.openings, row'.issuanceCode ≠ row.issuanceCode)
    (.integrity "uq_card_pack_openings_issuance_code")
  ensure (∀ row' ∈ db.openings, ¬(row'.userId = row.userId ∧ row'.packId = row.packId ∧
      row.idempotencyKey.isSome ∧ row'.idempotencyKey = row.idempotencyKey))
    (.integrity "uq_card_pack_openings_user_pack_key")
  return { db with openings := db.openings ++ [row] }

/-- The grant that an opening asks for. -/
def openingGrant (userId : UserId) (card : Card) (pack : CardPack) (probability : ℚ)
    (draws : OpenDraws) : GrantRequest :=
  { userId := userId, cardId := card.id, sourceType := "card_pack_opening",
    sourceId := draws.openingId, acquisitionSource := "card_pack", dropId := card.dropId,
    metadata := some [("packId", .str pack.id), ("issuanceCode", .str draws.issuanceCode),
      ("probabilityVersion", .str pack.version), ("probability", .num probability)] }

variable [RecordHash Digest]

/-- `open_card_pack`. -/
def openCardPack (db : CardDb Digest) (userId : UserId) (packId : PackId)
    (idempotencyKey : Option String) (draws : OpenDraws) (now : Time) :
    Except Failure (CardDb Digest × PackOpened) := do
  let pack ← orFail (db.packs.find? (fun row => row.id == packId && row.status == .published))
    (.app ⟨404, "CARD_PACK_NOT_FOUND", "공개된 카드팩을 찾을 수 없습니다."⟩)
  -- the right is marked opened before a retry is recognised
  let entitled := db.useEntitlement userId pack.id now
  match entitled.findOpening userId pack.id idempotencyKey with
  | some existing => return (entitled, existing)
  | none =>
    let rows := entitled.packRows pack.id
    ensure (rows ≠ [] ∧ |(rows.map (·.1.probability)).sum - 100| ≤ 1 / 1000)
      (.app ⟨409, "INVALID_PACK_ODDS", "이 카드팩의 공개 확률표가 유효하지 않습니다."⟩)
    ensure (∀ row ∈ rows, row.2.status = .published)
      (.app ⟨409, "PACK_CARDS_NOT_PUBLISHED", "카드팩에 공개되지 않은 카드가 포함되어 있습니다."⟩)
    let selected ← orFail (pickOrLast draws.draw (rows.map fun row => (row, row.1.probability)))
      (.unhandled "IndexError")
    let lockedCard ← orFail (entitled.findCard selected.2.id)
      (.app ⟨409, "CARD_NOT_FOUND", "선택된 카드가 존재하지 않습니다."⟩)
    let (granted, userCard) ← grantUserCard entitled
      (openingGrant userId lockedCard pack selected.1.probability draws) draws.grant now
    let opened ← granted.insertOpening
      { id := draws.openingId, userId := userId, packId := pack.id, cardId := lockedCard.id,
        userCardId := some userCard.id, idempotencyKey := idempotencyKey,
        issuanceCode := draws.issuanceCode }
    let (events, _) ← recordEngagementEvent opened.events userId "card_collected" "user_card"
      userCard.id
      [("cardId", .str lockedCard.id), ("artistId", .ofOption lockedCard.artistId),
        ("memberId", .ofOption lockedCard.memberId), ("packId", .str pack.id),
        ("source", .str "card_pack")] draws.eventId
    return ({ opened with events := events },
      { openingId := draws.openingId, issuanceCode := draws.issuanceCode,
        userCardId := userCard.id, packId := pack.id, cardId := lockedCard.id,
        serialNumber := userCard.serialNumber, probability := selected.1.probability })

variable {db db' : CardDb Digest}

omit [RecordHash Digest] in
/-- Using an entitlement only changes entitlements. -/
theorem useEntitlement_eq (db : CardDb Digest) (userId : UserId) (packId : PackId) (now : Time) :
    ∃ shop reward, db.useEntitlement userId packId now =
      { db with shopEntitlements := shop, rewardEntitlements := reward } := by
  unfold CardDb.useEntitlement
  split
  · exact ⟨_, _, rfl⟩
  · split
    · exact ⟨_, _, rfl⟩
    · exact ⟨_, _, rfl⟩

/-- What an opening that was not answered from an earlier one found and did. -/
structure Opened (db db' : CardDb Digest) (userId : UserId) (packId : PackId)
    (idempotencyKey : Option String) (draws : OpenDraws) (now : Time) (entitled : CardDb Digest)
    (pack : CardPack) (link : CardPackCard) (card : Card) (granted : CardDb Digest)
    (userCard : UserCard) : Prop where
  packFound : db.packs.find? (fun row => row.id == packId && row.status == .published) = some pack
  rightUsed : entitled = db.useEntitlement userId pack.id now
  firstTime : entitled.findOpening userId pack.id idempotencyKey = none
  choice : ∃ selected, pickOrLast draws.draw
    ((entitled.packRows pack.id).map fun row => (row, row.1.probability)) = some (link, selected) ∧
      entitled.findCard selected.id = some card
  grant : grantUserCard entitled (openingGrant userId card pack link.probability draws) draws.grant
    now = .ok (granted, userCard)
  after : ∃ openings events, db' = { granted with openings := openings, events := events }

/-- An opening is answered from an earlier one, or grants the card that it drew. -/
theorem openCardPack_ok {userId : UserId} {packId : PackId} {idempotencyKey : Option String}
    {draws : OpenDraws} {now : Time} {opened : PackOpened}
    (h : openCardPack db userId packId idempotencyKey draws now = .ok (db', opened)) :
    (∃ pack, db.packs.find? (fun row => row.id == packId && row.status == .published) = some pack ∧
      ∃ existing, (db.useEntitlement userId pack.id now).findOpening userId pack.id idempotencyKey =
        some existing ∧ db' = db.useEntitlement userId pack.id now) ∨
      ∃ entitled pack link card granted userCard, Opened db db' userId packId idempotencyKey draws
        now entitled pack link card granted userCard := by
  simp only [openCardPack, bind_ok, orFail_ok] at h
  obtain ⟨pack, hpack, h⟩ := h
  split at h
  · rename_i existing hexisting
    obtain ⟨rfl, -⟩ := Prod.mk.inj (pure_ok.mp h)
    exact .inl ⟨pack, hpack, existing, hexisting, rfl⟩
  · rename_i hnone
    simp only [bind_ok, orFail_ok, ensure_ok, exists_const, pure_ok, Prod.exists, Prod.mk.injEq,
      CardDb.insertOpening] at h
    obtain ⟨-, -, link, selected, hchoice, card, hcard, granted, userCard, hgrant, recorded,
      ⟨-, -, -, rfl⟩, events, event, -, rfl, -⟩ := h
    exact .inr ⟨_, pack, link, card, granted, userCard, hpack, rfl, hnone,
      ⟨selected, hchoice, hcard⟩, hgrant, ⟨_, _, rfl⟩⟩

theorem openCardPack_frame {userId : UserId} {packId : PackId} {idempotencyKey : Option String}
    {draws : OpenDraws} {now : Time} {opened : PackOpened}
    (h : openCardPack db userId packId idempotencyKey draws now = .ok (db', opened)) :
    ∃ shop reward userCards rows openings events, AddsCopy db.userCards userCards ∧
      (∀ row ∈ rows, row.action = "grant") ∧
      db' = { db with
        shopEntitlements := shop, rewardEntitlements := reward, userCards := userCards
        ledger := db.ledger ++ rows, openings := openings, events := events } := by
  rcases openCardPack_ok h with ⟨pack, -, existing, -, rfl⟩ |
    ⟨entitled, pack, link, card, granted, userCard, hopened⟩
  · obtain ⟨shop, reward, heq⟩ := useEntitlement_eq db userId pack.id now
    exact ⟨shop, reward, _, [], db.openings, db.events, .inl rfl, by simp, by rw [heq]; simp⟩
  · obtain ⟨shop, reward, heq⟩ := useEntitlement_eq db userId pack.id now
    have hgrant := hopened.grant
    rw [hopened.rightUsed, heq] at hgrant
    obtain ⟨userCards, rows, hadds, hrows, rfl⟩ := grantUserCard_frame hgrant
    obtain ⟨openings, events, rfl⟩ := hopened.after
    exact ⟨shop, reward, userCards, rows, openings, events, hadds, hrows, rfl⟩

end

end Fanfolio
