import Fanfolio.Cards.Grant

/-!
# Redeem codes

An administrator issues batches of codes for a card. A fan redeems a code once, as long as
the code has uses left.
-/

namespace Fanfolio

open Framework

/-- `CodeBatchRequest`; `expiresAt` is `none` when its text is not a date. -/
structure CodeBatchRequest where
  dropId : DropId
  cardId : CardId
  quantity : Nat
  maxUsesPerCode : Nat
  expiresAt : Option Time
  codePrefix : String
  quantity_pos : 0 < quantity
  maxUses_pos : 1 ≤ maxUsesPerCode

/-- What a redemption tells the fan, and the engagement event it recorded. -/
structure Redemption where
  userCardId : UserCardId
  cardId : CardId
  serialNumber : Nat
  redirectTo : String
  eventId : EventId
deriving DecidableEq, Repr

/-- The identifiers that a redemption draws. -/
structure RedeemDraws where
  grant : GrantDraws
  eventId : EventId
deriving DecidableEq, Repr

section

variable {Digest : Type}

/-- The codes that a batch adds; `draw` gives the random part of each. -/
def CodeBatchRequest.newCodes (payload : CodeBatchRequest) (draw : Nat → String)
    (expiresAt : Time) : List RedeemCode :=
  (List.range payload.quantity).map fun i =>
    { code := payload.codePrefix ++ "-" ++ draw i, cardId := payload.cardId,
      dropId := payload.dropId, expiresAt := some expiresAt, maxUses := payload.maxUsesPerCode }

/-- `code_batch`. -/
def codeBatch (db : CardDb Digest) (payload : CodeBatchRequest) (isRoot : Bool)
    (draw : Nat → String) : Except Failure (CardDb Digest × Nat) := do
  let drop ← orFail (db.findDrop payload.dropId)
    (.app ⟨404, "DROP_NOT_FOUND", "드롭을 찾을 수 없습니다."⟩)
  let card ← orFail (db.findCard payload.cardId)
    (.app ⟨404, "CARD_NOT_FOUND", "카드를 찾을 수 없습니다."⟩)
  ensure (isRoot ∨ card.artistId = drop.artistId)
    (.app ⟨404, "RESOURCE_NOT_FOUND", "항목을 찾을 수 없습니다."⟩)
  ensure (drop.status = .live)
    (.app ⟨409, "DROP_NOT_LIVE", "진행 중인 드롭에만 코드를 발급할 수 있습니다."⟩)
  ensure (card.ownerArtistId = none ∨
      (card.releaseStatus = .dropReady ∨ card.releaseStatus = .published) ∧
        card.dropId = some drop.id)
    (.app ⟨409, "CARD_NOT_LINKED_TO_DROP", "드롭에 연결된 카드에만 코드를 발급할 수 있습니다."⟩)
  ensure (card.status = .published)
    (.app ⟨409, "CARD_NOT_PUBLISHED", "공개된 카드에만 코드를 발급할 수 있습니다."⟩)
  let expiresAt ← orFail payload.expiresAt
    (.app ⟨422, "INVALID_EXPIRY", "만료 시각 형식이 올바르지 않습니다."⟩)
  let codes := db.codes ++ payload.newCodes draw expiresAt
  ensure (codes.map (·.code)).Nodup (.integrity "redeem_codes_pkey")
  return ({ db with codes := codes }, payload.quantity)

/-- `RedeemCodeStatusUpdate`. -/
inductive CodeStatus where
  | active
  | disabled
  | expired
deriving DecidableEq, Repr

/-- What `update_redeem_code` does to the row. -/
def CodeStatus.update (status : CodeStatus) (now : Time) (code : RedeemCode) : RedeemCode :=
  match status with
  | .disabled => { code with disabledAt := some now }
  | .expired => { code with disabledAt := none, expiresAt := some now }
  | .active => { code with disabledAt := none }

/-- `update_redeem_code`. -/
def updateRedeemCode (db : CardDb Digest) (codeId : CodeId) (status : CodeStatus) (now : Time) :
    Except Failure (CardDb Digest × Unit) := do
  let code ← orFail (db.findCode codeId)
    (.app ⟨404, "REDEEM_CODE_NOT_FOUND", "코드를 찾을 수 없습니다."⟩)
  let _ ← orFail (db.findDrop code.dropId)
    (.app ⟨404, "DROP_NOT_FOUND", "드롭을 찾을 수 없습니다."⟩)
  return ({ db with codes := patch (·.code == code.code) (status.update now) db.codes }, ())

/-- Whether a user holds a card that was created through the code. -/
def CardDb.ownsCardOf (db : CardDb Digest) (userId : UserId) (code : CodeId) : Bool :=
  db.userCards.any fun row => row.userId == userId && row.redeemCodeId == some code

/-- The grant that a redemption asks for. -/
def redeemGrant (userId : UserId) (code : RedeemCode) (card : Card) (drop : Drop)
    (acquisitionSource : String) : GrantRequest :=
  { userId := userId, cardId := card.id, sourceType := "redeem_code", sourceId := code.code,
    acquisitionSource := acquisitionSource, redeemCodeId := some code.code, dropId := card.dropId,
    metadata := some [("dropId", .str drop.id), ("acquisitionSource", .str acquisitionSource)] }

/-- `redeem`. -/
def redeem [RecordHash Digest] (db : CardDb Digest) (userId : UserId) (codeValue : CodeId)
    (acquisitionSource : String) (draws : RedeemDraws) (now : Time) :
    Except Failure (CardDb Digest × Redemption) := do
  let code ← orFail (db.findCode codeValue)
    (.app ⟨404, "REDEEM_CODE_NOT_FOUND", "코드를 찾을 수 없습니다."⟩)
  ensure (code.disabledAt = none)
    (.app ⟨409, "REDEEM_CODE_DISABLED", "비활성화된 코드입니다."⟩)
  ensure (code.usedCount < code.maxUses)
    (.app ⟨409, if code.maxUses = 0 then "REDEEM_LIMIT_REACHED" else "REDEEM_CODE_ALREADY_USED",
      "사용할 수 없는 코드입니다."⟩)
  ensure (db.ownsCardOf userId code.code = false)
    (.app ⟨409, "REDEEM_CODE_ALREADY_USED", "이미 사용한 코드입니다."⟩)
  ensure (∀ expiresAt ∈ code.expiresAt, now ≤ expiresAt)
    (.app ⟨409, "REDEEM_CODE_EXPIRED", "만료된 코드입니다."⟩)
  let card ← orFail (db.findCard code.cardId) cardNotPublished
  ensure (card.status = .published) cardNotPublished
  let dropNotLive : Failure := .app ⟨409, "DROP_NOT_LIVE", "현재 진행 중인 드롭이 아닙니다."⟩
  let drop ← orFail (db.findDrop code.dropId) dropNotLive
  ensure (drop.status = .live) dropNotLive
  ensure (card.dropId = some code.dropId)
    (.app ⟨409, "CARD_DROP_MISMATCH", "카드 발행 드롭과 코드 드롭이 일치하지 않습니다."⟩)
  let counted : CardDb Digest := { db with
    codes := patch (·.code == code.code) ({ · with usedCount := code.usedCount + 1 }) db.codes }
  let (granted, userCard) ←
    grantUserCard counted (redeemGrant userId code card drop acquisitionSource) draws.grant now
  let (events, event) ← recordEngagementEvent granted.events userId "card_collected" "user_card"
    userCard.id
    [("cardId", .str card.id), ("artistId", .ofOption card.artistId),
      ("memberId", .ofOption card.memberId), ("dropId", .str drop.id)] draws.eventId
  return ({ granted with events := events },
    { userCardId := userCard.id, cardId := card.id, serialNumber := userCard.serialNumber,
      redirectTo := "/reveal/" ++ userCard.id, eventId := event.id })

variable {db db' : CardDb Digest}

theorem codeBatch_ok {payload : CodeBatchRequest} {isRoot : Bool} {draw : Nat → String}
    {quantity : Nat} (h : codeBatch db payload isRoot draw = .ok (db', quantity)) :
    ∃ expiresAt, ((db.codes ++ payload.newCodes draw expiresAt).map (·.code)).Nodup ∧
      db' = { db with codes := db.codes ++ payload.newCodes draw expiresAt } := by
  simp only [codeBatch, bind_ok, orFail_ok, ensure_ok, exists_const, pure_ok, Prod.mk.injEq] at h
  obtain ⟨_, -, _, -, -, -, -, -, expiresAt, -, hnodup, rfl, -⟩ := h
  exact ⟨expiresAt, hnodup, rfl⟩

theorem updateRedeemCode_ok {codeId : CodeId} {status : CodeStatus} {now : Time} {u : Unit}
    (h : updateRedeemCode db codeId status now = .ok (db', u)) :
    ∃ code, db' = { db with codes := patch (·.code == code) (status.update now) db.codes } := by
  simp only [updateRedeemCode, bind_ok, orFail_ok, pure_ok, Prod.mk.injEq] at h
  obtain ⟨code, -, _, -, rfl, -⟩ := h
  exact ⟨code.code, rfl⟩

variable [RecordHash Digest]

/-- The database with one more use of a code. -/
def CardDb.countUse (db : CardDb Digest) (code : RedeemCode) : CardDb Digest :=
  { db with
    codes := patch (·.code == code.code) ({ · with usedCount := code.usedCount + 1 }) db.codes }

/-- What a successful redemption found and did. -/
structure Redeemed (db db' : CardDb Digest) (userId : UserId) (codeValue : CodeId)
    (acquisitionSource : String) (draws : RedeemDraws) (now : Time) (result : Redemption)
    (code : RedeemCode) (granted : CardDb Digest) (userCard : UserCard) : Prop where
  found : db.findCode codeValue = some code
  enabled : code.disabledAt = none
  left : code.usedCount < code.maxUses
  notOwned : db.ownsCardOf userId code.code = false
  grant : ∃ card drop, db.findCard code.cardId = some card ∧ db.findDrop code.dropId = some drop ∧
    grantUserCard (db.countUse code) (redeemGrant userId code card drop acquisitionSource)
      draws.grant now = .ok (granted, userCard)
  after : ∃ events, db' = { granted with events := events }
  answer : result.userCardId = userCard.id

theorem redeem_ok {userId : UserId} {codeValue : CodeId} {acquisitionSource : String}
    {draws : RedeemDraws} {now : Time} {result : Redemption}
    (h : redeem db userId codeValue acquisitionSource draws now = .ok (db', result)) :
    ∃ code granted userCard, Redeemed db db' userId codeValue acquisitionSource draws now result
      code granted userCard := by
  simp only [redeem, bind_ok, orFail_ok, ensure_ok, exists_const, pure_ok, Prod.exists,
    Prod.mk.injEq] at h
  obtain ⟨code, hfound, henabled, hleft, howned, -, card, hcard, -, drop, hdrop, -, -, granted,
    userCard, hgrant, events, event, -, rfl, rfl⟩ := h
  exact ⟨code, granted, userCard, hfound, henabled, hleft, howned,
    ⟨card, drop, hcard, hdrop, hgrant⟩, ⟨events, rfl⟩, rfl⟩

theorem redeem_frame {userId : UserId} {codeValue : CodeId} {acquisitionSource : String}
    {draws : RedeemDraws} {now : Time} {result : Redemption}
    (h : redeem db userId codeValue acquisitionSource draws now = .ok (db', result)) :
    ∃ codes userCards rows events, AddsCopy db.userCards userCards ∧
      (∀ row ∈ rows, row.action = "grant") ∧
      db' = { db with
        codes := codes, userCards := userCards, ledger := db.ledger ++ rows, events := events } := by
  obtain ⟨code, granted, userCard, hredeemed⟩ := redeem_ok h
  obtain ⟨card, drop, -, -, hgrant⟩ := hredeemed.grant
  obtain ⟨userCards, rows, hadds, hrows, rfl⟩ := grantUserCard_frame hgrant
  obtain ⟨events, rfl⟩ := hredeemed.after
  exact ⟨_, userCards, rows, events, hadds, hrows, rfl⟩

end

end Fanfolio
