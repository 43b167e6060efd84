import Fanfolio.Cards.Grant

/-!
# Trades between fans

A proposal lists the cards of both sides and locks them. It stays pending until the recipient
accepts or rejects it, the proposer cancels it, or a request finds it expired.
-/

namespace Fanfolio

open Framework

/-- `TradeProposalCreate`. -/
structure TradeProposalCreate where
  recipientUserId : UserId
  offeredUserCardIds : List UserCardId
  requestedUserCardIds : List UserCardId
  offered_length : 1 ≤ offeredUserCardIds.length ∧ offeredUserCardIds.length ≤ 20
  requested_length : requestedUserCardIds.length ≤ 20

/-- The side of a proposal that may answer it. -/
inductive TradeParty where
  | proposer
  | recipient
deriving DecidableEq, Repr

inductive TradeBox where
  | all
  | sent
  | received
deriving DecidableEq, Repr

/-- The identifiers that an acceptance draws. -/
structure AcceptDraws where
  ledgerId : UserCardId → LedgerId
  proposerEventId : EventId
  recipientEventId : EventId

/-- `_trade_error`. -/
def tradeError (code : String) (message : String := "거래할 수 없는 카드입니다.") : Failure :=
  .app ⟨422, code, message⟩

def tradeNotFound : Failure := .app ⟨404, "TRADE_NOT_FOUND", "거래 제안을 찾을 수 없습니다."⟩

def TradeProposal.userOf (proposal : TradeProposal) : TradeParty → UserId
  | .proposer => proposal.proposerId
  | .recipient => proposal.recipientId

/-- The side that an item comes from. -/
def TradeProposal.expectedOwner (proposal : TradeProposal) (item : TradeItem) : UserId :=
  match item.side with
  | .offered => proposal.proposerId
  | .requested => proposal.recipientId

/-- The side that an item goes to. -/
def TradeProposal.receiver (proposal : TradeProposal) (item : TradeItem) : UserId :=
  match item.side with
  | .offered => proposal.recipientId
  | .requested => proposal.proposerId

/-- The source of the ledger event of a traded card, `f"{proposal.id}:{card.id}"`. -/
def tradeSourceId (proposalId : ProposalId) (userCardId : UserCardId) : String :=
  proposalId.val ++ ":" ++ userCardId

section

variable {Digest : Type}

/-- `_is_blocked`. -/
def CardDb.isBlocked (db : CardDb Digest) (firstId secondId : UserId) : Bool :=
  db.blocks.any fun row =>
    (row.blockerId == firstId && row.blockedId == secondId) ||
      (row.blockerId == secondId && row.blockedId == firstId)

/-- A card of the user, joined with its catalogue row. -/
def CardDb.heldCard (db : CardDb Digest) (userId : UserId) (userCardId : UserCardId) :
    Option (UserCard × Card) :=
  match db.findUserCard userCardId with
  | some userCard =>
    if userCard.userId = userId then (db.findCard userCard.cardId).map (userCard, ·) else none
  | none => none

/-- `_load_trade_cards`. -/
def loadTradeCards (db : CardDb Digest) (userId : UserId) (userCardIds : List UserCardId) :
    Except Failure (List (UserCard × Card)) := do
  ensure userCardIds.Nodup
    (tradeError "DUPLICATE_TRADE_CARD" "같은 카드는 한 번만 선택할 수 있습니다.")
  ensure (∀ userCardId ∈ userCardIds, (db.heldCard userId userCardId).isSome)
    (.app ⟨404, "USER_CARD_NOT_FOUND", "보유한 카드만 거래할 수 있습니다."⟩)
  return userCardIds.filterMap (db.heldCard userId)

/-- Whether a combination has consumed the card. -/
def CardDb.isMaterial (db : CardDb Digest) (userCardId : UserCardId) : Bool :=
  db.materials.any (fun row => row.userCardId == userCardId)

def CardDb.isLocked (db : CardDb Digest) (userCardId : UserCardId) : Bool :=
  db.locks.any (fun row => row.userCardId == userCardId)

/-- The checks of `_validate_trade_cards` on one card. -/
def validateTradeCard (db : CardDb Digest) : UserCard × Card → Except Failure Unit
  | (userCard, card) => do
    ensure card.tradable (tradeError "CARD_NOT_TRADABLE")
    ensure (userCard.expiresAt = none)
      (tradeError "CARD_NOT_TRADABLE" "기간제 카드는 거래할 수 없습니다.")
    ensure (userCard.tradeLockedAt = none)
      (tradeError "CARD_NOT_TRADABLE" "잠긴 카드는 거래할 수 없습니다.")
    ensure (userCard.acquisitionSource ≠ "combination")
      (tradeError "CARD_NOT_TRADABLE" "조합으로 얻은 카드는 거래할 수 없습니다.")
    ensure (db.isMaterial userCard.id = false)
      (tradeError "CARD_NOT_TRADABLE" "조합에 사용한 카드는 거래할 수 없습니다.")
    ensure (db.isLocked userCard.id = false)
      (tradeError "CARD_ALREADY_IN_TRADE" "이미 다른 거래에 포함된 카드입니다.")

/-- `_validate_trade_cards`. -/
def validateTradeCards (db : CardDb Digest) (cards : List (UserCard × Card)) :
    Except Failure Unit := do
  ensure (cards ≠ []) (tradeError "TRADE_CARDS_REQUIRED" "거래할 카드를 한 장 이상 선택해 주세요.")
  forEach (validateTradeCard db) cards

/-- The items of a new proposal, the offered cards first. -/
def newItems (proposalId : ProposalId) (offered requested : List (UserCard × Card)) :
    List TradeItem :=
  offered.map (fun pair => ⟨proposalId, pair.1.id, .offered⟩) ++
    requested.map (fun pair => ⟨proposalId, pair.1.id, .requested⟩)

def TradeItem.lock (item : TradeItem) : TradeLock := ⟨item.proposalId, item.userCardId⟩

/-- The checks of `create_trade`: the cards of both sides. -/
def checkTrade (db : CardDb Digest) (userId : UserId) (payload : TradeProposalCreate) :
    Except Failure (List (UserCard × Card) × List (UserCard × Card)) := do
  ensure (payload.recipientUserId ≠ userId)
    (.app ⟨422, "TRADE_SELF_NOT_ALLOWED", "자기 자신에게 거래를 제안할 수 없습니다."⟩)
  let unavailable : Failure :=
    .app ⟨404, "TRADE_USER_UNAVAILABLE", "거래 상대를 찾을 수 없습니다."⟩
  let recipient ← orFail (db.users.find? (fun row => row.id == payload.recipientUserId)) unavailable
  ensure (recipient.role = .fan ∧ db.isBlocked userId recipient.id = false) unavailable
  ensure (∀ id ∈ payload.offeredUserCardIds, id ∉ payload.requestedUserCardIds)
    (tradeError "DUPLICATE_TRADE_CARD" "같은 카드는 양쪽에 동시에 넣을 수 없습니다.")
  let offered ← loadTradeCards db userId payload.offeredUserCardIds
  let requested ← loadTradeCards db recipient.id payload.requestedUserCardIds
  validateTradeCards db offered
  if requested ≠ [] then validateTradeCards db requested
  return (offered, requested)

/-- `create_trade`; `proposalId` is the identifier it draws. -/
def createTrade (db : CardDb Digest) (userId : UserId) (payload : TradeProposalCreate)
    (proposalId : ProposalId) (now : Time) : Except Failure (CardDb Digest × TradeProposal) := do
  let (offered, requested) ← checkTrade db userId payload
  let proposal : TradeProposal :=
    { id := proposalId, proposerId := userId, recipientId := payload.recipientUserId,
      status := .pending, expiresAt := now + days 7, createdAt := now }
  let items := newItems proposalId offered requested
  ensure (∀ row ∈ db.proposals, row.id ≠ proposalId) (.integrity "trade_proposals_pkey")
  ensure (((db.locks ++ items.map TradeItem.lock).map (·.userCardId)).Nodup)
    (.integrity "uq_trade_locks_user_card")
  return ({ db with
      proposals := db.proposals ++ [proposal]
      items := db.items ++ items
      locks := db.locks ++ items.map TradeItem.lock }, proposal)

/-- Give a proposal its final status and release its cards. -/
def CardDb.closeProposal (db : CardDb Digest) (proposalId : ProposalId) (status : ProposalStatus)
    (now : Time) : CardDb Digest :=
  { db with
    proposals := patch (·.id == proposalId)
      ({ · with status := status, respondedAt := some now }) db.proposals
    locks := db.locks.filter (fun row => row.proposalId ≠ proposalId) }

/-- `_expire_trade_proposal`; the flag says whether the proposal expired. -/
def expireTradeProposal (db : CardDb Digest) (proposal : TradeProposal) (now : Time) :
    CardDb Digest × Bool :=
  if proposal.status ≠ .pending ∨ now < proposal.expiresAt then (db, false)
  else (db.closeProposal proposal.id .expired now, true)

/-- The loop of `trade_inbox` over the proposals it selected. -/
def expireAll (db : CardDb Digest) (now : Time) (proposals : List TradeProposal) : CardDb Digest :=
  proposals.foldl (fun db proposal => (expireTradeProposal db proposal now).1) db

/-- The proposals that a user sees in a box, the latest first. -/
def inboxProposals (db : CardDb Digest) (userId : UserId) (box : TradeBox) : List TradeProposal :=
  (db.proposals.filter fun row =>
    match box with
    | .sent => row.proposerId == userId
    | .received => row.recipientId == userId
    | .all => row.proposerId == userId || row.recipientId == userId).insertionSort
      fun row row' => toLex (row'.createdAt, row'.id.val) ≤ toLex (row.createdAt, row.id.val)

/-- `trade_inbox`. -/
def tradeInbox (db : CardDb Digest) (userId : UserId) (box : TradeBox)
    (tradeStatus : Option ProposalStatus) (now : Time) : Answer Digest (List TradeProposal) :=
  let proposals := inboxProposals db userId box
  let after := expireAll db now proposals
  let answered := proposals.map fun row => (after.findProposal row.id).getD row
  (after, .ok (answered.filter fun row => tradeStatus.all (row.status == ·)))

/-- `trade_detail`. -/
def tradeDetail (db : CardDb Digest) (userId : UserId) (proposalId : ProposalId) (now : Time) :
    Answer Digest TradeProposal :=
  match db.findProposal proposalId with
  | none => (db, .error tradeNotFound)
  | some proposal =>
    if userId ≠ proposal.proposerId ∧ userId ≠ proposal.recipientId then
      (db, .error (.app ⟨403, "TRADE_NOT_ALLOWED", "이 거래를 확인할 권한이 없습니다."⟩))
    else
      let after := (expireTradeProposal db proposal now).1
      (after, .ok ((after.findProposal proposalId).getD proposal))

/-- Whether a hold on the proposal is active. -/
def CardDb.isHeld (db : CardDb Digest) (proposalId : ProposalId) : Bool :=
  db.holds.any (fun row => row.proposalId == proposalId && row.releasedAt == none)

/-- The checks of `_load_pending_proposal` before it looks at the clock. -/
def findPendingProposal (db : CardDb Digest) (proposalId : ProposalId) (userId : UserId)
    (role : TradeParty) : Except Failure TradeProposal := do
  let proposal ← orFail (db.findProposal proposalId) tradeNotFound
  ensure (proposal.userOf role = userId)
    (.app ⟨403, "TRADE_NOT_ALLOWED", "이 거래를 처리할 권한이 없습니다."⟩)
  ensure (proposal.status = .pending)
    (.app ⟨409, "TRADE_NOT_PENDING", "대기 중인 거래만 처리할 수 있습니다."⟩)
  ensure (db.isHeld proposal.id = false)
    (.app ⟨409, "TRADE_ON_HOLD", "운영 검토 중인 거래는 처리할 수 없습니다."⟩)
  return proposal

def tradeExpired : Failure := .app ⟨409, "TRADE_EXPIRED", "거래 제안이 만료되었습니다."⟩

/-- `_load_pending_proposal`; an expired proposal is closed and committed before the refusal. -/
def loadPendingProposal (db : CardDb Digest) (proposalId : ProposalId) (userId : UserId)
    (role : TradeParty) (now : Time) : Answer Digest TradeProposal :=
  match findPendingProposal db proposalId userId role with
  | .error e => (db, .error e)
  | .ok proposal =>
    if proposal.expiresAt ≤ now then
      ((expireTradeProposal db proposal now).1, .error tradeExpired)
    else
      (db, .ok proposal)

/-- The `UPDATE` of an owner, which checks the unique index on owner and code at once. -/
def CardDb.setOwner (db : CardDb Digest) (card : UserCard) (userId : UserId) :
    Except Failure (CardDb Digest) := do
  ensure (∀ row ∈ db.userCards,
      row.id ≠ card.id → ¬row.sameOwnerAndCode { card with userId := userId })
    (.integrity "uq_user_cards_user_redeem_code")
  return { db with userCards := patch (·.id == card.id) ({ · with userId := userId }) db.userCards }

/-- The ownership event of a traded card. -/
def transferEvent (proposal : TradeProposal) (item : TradeItem) (card : UserCard) (now : Time) :
    OwnershipEvent :=
  { userCardId := card.id, userId := proposal.receiver item, cardId := card.cardId,
    action := "transfer", sourceType := "trade", sourceId := tradeSourceId proposal.id card.id,
    fromUserId := some card.userId, toUserId := some (proposal.receiver item),
    metadata := some [("proposalId", .str proposal.id.val)], createdAt := some now }

variable [RecordHash Digest]

/-- One turn of the transfer loop: the autoflush writes the owner before the ledger event. -/
def moveItem (proposal : TradeProposal) (draw : UserCardId → LedgerId) (now : Time)
    (db : CardDb Digest) (item : TradeItem) : Except Failure (CardDb Digest) := do
  let card ← orFail (db.findUserCard item.userCardId) (.unhandled "KeyError")
  let moved ← db.setOwner card (proposal.receiver item)
  moved.appendLedger (transferEvent proposal item card now) (draw card.id) now

/-- The transfer loop of `_accept_trade_once`. -/
def moveItems (proposal : TradeProposal) (draw : UserCardId → LedgerId) (now : Time) :
    CardDb Digest → List TradeItem → Except Failure (CardDb Digest)
  | db, [] => .ok db
  | db, item :: items => do
    let moved ← moveItem proposal draw now db item
    moveItems proposal draw now moved items

/-- The check of `_accept_trade_once` that an item is still with the side that put it in. -/
def checkOwner (db : CardDb Digest) (proposal : TradeProposal) (item : TradeItem) :
    Except Failure Unit := do
  let card ← orFail (db.findUserCard item.userCardId) (.unhandled "KeyError")
  ensure (card.userId = proposal.expectedOwner item)
    (.app ⟨409, "TRADE_STATE_CONFLICT", "거래 카드의 소유자가 변경되었습니다."⟩)

/-- The engagement event of one participant. -/
def recordTradeCompleted (events : List EngagementEvent) (proposal : TradeProposal)
    (userId : UserId) (eventId : EventId) :
    Except Failure (List EngagementEvent × EngagementEvent) :=
  recordEngagementEvent events userId "trade_completed" "trade" proposal.id.val
    [("tradeId", .str proposal.id.val),
      ("participantRole", .str (if userId = proposal.proposerId then "proposer" else "recipient"))]
    eventId

/-- `_accept_trade_once` after the proposal is loaded; `order` is the order in which the
database returns the items. -/
def acceptTradeOnce (db : CardDb Digest) (proposal : TradeProposal) (order : List TradeItem)
    (draws : AcceptDraws) (now : Time) : Except Failure (CardDb Digest × ProposalStatus) := do
  let items := scan order (db.items.filter (fun row => row.proposalId = proposal.id))
  forEach (checkOwner db proposal) items
  let moved ← moveItems proposal draws.ledgerId now db items
  let closed := moved.closeProposal proposal.id .accepted now
  let (events, _) ←
    recordTradeCompleted closed.events proposal proposal.proposerId draws.proposerEventId
  let (events, _) ←
    recordTradeCompleted events proposal proposal.recipientId draws.recipientEventId
  return ({ closed with events := events }, .accepted)

/-- A violated constraint is answered as a conflict by `accept_trade`. -/
def tradeStateConflict : Failure → Failure
  | .integrity _ => .app ⟨409, "TRADE_STATE_CONFLICT",
      "거래가 이미 처리되었거나 카드 소유자가 변경되었습니다."⟩
  | e => e

/-- `accept_trade`. -/
def acceptTrade (db : CardDb Digest) (proposalId : ProposalId) (userId : UserId)
    (order : List TradeItem) (draws : AcceptDraws) (now : Time) : Answer Digest ProposalStatus :=
  match loadPendingProposal db proposalId userId .recipient now with
  | (db', .error e) => (db', .error e)
  | (db', .ok proposal) =>
    transact db' ((acceptTradeOnce db' proposal order draws now).mapError tradeStateConflict)

omit [RecordHash Digest] in
/-- `_reject_or_cancel`. -/
def rejectOrCancel (db : CardDb Digest) (proposalId : ProposalId) (userId : UserId)
    (role : TradeParty) (status : ProposalStatus) (now : Time) : Answer Digest ProposalStatus :=
  match loadPendingProposal db proposalId userId role now with
  | (db', .error e) => (db', .error e)
  | (db', .ok proposal) => (db'.closeProposal proposal.id status now, .ok status)

/-- `reject_trade`. -/
def rejectTrade (db : CardDb Digest) (proposalId : ProposalId) (userId : UserId) (now : Time) :
    Answer Digest ProposalStatus :=
  rejectOrCancel db proposalId userId .recipient .rejected now

/-- `cancel_trade`. -/
def cancelTrade (db : CardDb Digest) (proposalId : ProposalId) (userId : UserId) (now : Time) :
    Answer Digest ProposalStatus :=
  rejectOrCancel db proposalId userId .proposer .cancelled now

/-- The `hold_trade` action of an administrator. -/
def holdTrade (db : CardDb Digest) (proposalId : ProposalId) :
    Except Failure (CardDb Digest × Unit) := do
  let proposal ← orFail (db.findProposal proposalId)
    (.app ⟨404, "TRADE_NOT_FOUND", "거래를 찾을 수 없습니다."⟩)
  ensure (proposal.status = .pending)
    (.app ⟨409, "TRADE_NOT_PENDING", "대기 중인 거래만 보류할 수 있습니다."⟩)
  ensure (db.isHeld proposal.id = false)
    (.app ⟨409, "TRADE_ALREADY_HELD", "이미 보류된 거래입니다."⟩)
  ensure (∀ row ∈ db.holds, row.proposalId ≠ proposal.id) (.integrity "uq_trade_holds_proposal")
  return ({ db with holds := db.holds ++ [{ proposalId := proposal.id }] }, ())

/-- The `release_trade` action of an administrator. -/
def releaseTrade (db : CardDb Digest) (proposalId : ProposalId) (now : Time) :
    Except Failure (CardDb Digest × Unit) := do
  ensure (db.isHeld proposalId)
    (.app ⟨404, "TRADE_HOLD_NOT_FOUND", "활성 거래 보류를 찾을 수 없습니다."⟩)
  return ({ db with
    holds := patch (fun row => row.proposalId == proposalId && row.releasedAt == none)
      ({ · with releasedAt := some now }) db.holds }, ())

end

end Fanfolio
