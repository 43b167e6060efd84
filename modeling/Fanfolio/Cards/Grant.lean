import Fanfolio.Cards.Schema
import Fanfolio.Ownership.Chain

/-!
# Granting a card

Redemptions, pack openings and combinations all create their card here. A grant that finds
its own ledger event returns the card of that event and creates none.
-/

namespace Fanfolio

open Framework

/-- The arguments of `grant_user_card`. -/
structure GrantRequest where
  userId : UserId
  cardId : CardId
  sourceType : String
  sourceId : String
  acquisitionSource : String
  metadata : Option JsonObject := none
  redeemCodeId : Option CodeId := none
  dropId : Option DropId := none
deriving DecidableEq, Repr

/-- The identifiers that a grant draws. -/
structure GrantDraws where
  userCardId : UserCardId
  ledgerId : LedgerId
deriving DecidableEq, Repr

section

variable {Digest : Type}

/-- A grant row under the unique key `uq_card_ownership_ledger_event`. -/
def CardOwnershipLedger.isGrant (row : CardOwnershipLedger Digest) (userId : UserId)
    (sourceType sourceId : String) : Bool :=
  row.userId == userId && row.action == "grant" && row.sourceType == sourceType &&
    row.sourceId == sourceId

/-- The card of an earlier grant from the same source. -/
def CardDb.grantedCard (db : CardDb Digest) (userId : UserId) (sourceType sourceId : String) :
    Option UserCard :=
  (db.ledger.find? (·.isGrant userId sourceType sourceId)).bind
    fun row => db.findUserCard row.userCardId

/-- The number of copies of a card. -/
def CardDb.copies (db : CardDb Digest) (cardId : CardId) : Nat :=
  db.userCards.countP (fun row => row.cardId == cardId)

/-- The unique index `uq_user_cards_user_redeem_code`, which ignores rows without a code. -/
def UserCard.sameOwnerAndCode (row row' : UserCard) : Prop :=
  row.userId = row'.userId ∧ row.redeemCodeId.isSome ∧ row.redeemCodeId = row'.redeemCodeId

instance (row row' : UserCard) : Decidable (row.sameOwnerAndCode row') :=
  inferInstanceAs (Decidable (_ ∧ _))

def CardDb.insertUserCard (db : CardDb Digest) (row : UserCard) :
    Except Failure (CardDb Digest) := do
  ensure (∀ row' ∈ db.userCards, row'.id ≠ row.id) (.integrity "user_cards_pkey")
  ensure (∀ row' ∈ db.userCards,
      ¬(row'.cardId = row.cardId ∧ row'.serialNumber = row.serialNumber))
    (.integrity "uq_user_cards_card_serial")
  ensure (∀ row' ∈ db.userCards, ¬row'.sameOwnerAndCode row)
    (.integrity "uq_user_cards_user_redeem_code")
  return { db with userCards := db.userCards ++ [row] }

/-- `append_ownership_ledger` inside a request. -/
def CardDb.appendLedger [RecordHash Digest] (db : CardDb Digest) (event : OwnershipEvent)
    (ledgerId : LedgerId) (now : Time) : Except Failure (CardDb Digest) := do
  let (ledger, _) ← appendOwnershipLedger db.ledger event ledgerId now
  return { db with ledger := ledger }

def cardNotPublished : Failure := .app ⟨409, "CARD_NOT_PUBLISHED", "공개되지 않은 카드입니다."⟩

/-- The row that `grant_user_card` adds. -/
def GrantRequest.userCard (request : GrantRequest) (db : CardDb Digest)
    (userCardId : UserCardId) (now : Time) : UserCard :=
  { id := userCardId, userId := request.userId, cardId := request.cardId,
    redeemCodeId := request.redeemCodeId, dropId := request.dropId,
    serialNumber := db.copies request.cardId + 1,
    acquisitionSource := request.acquisitionSource, acquiredAt := now }

/-- The ownership event of a grant. -/
def GrantRequest.event (request : GrantRequest) (userCardId : UserCardId) : OwnershipEvent :=
  { userCardId := userCardId, userId := request.userId, cardId := request.cardId,
    action := "grant", sourceType := request.sourceType, sourceId := request.sourceId,
    toUserId := some request.userId, metadata := request.metadata }

/-- `grant_user_card`. -/
def grantUserCard [RecordHash Digest] (db : CardDb Digest) (request : GrantRequest)
    (draws : GrantDraws) (now : Time) : Except Failure (CardDb Digest × UserCard) :=
  match db.grantedCard request.userId request.sourceType request.sourceId with
  | some existing => .ok (db, existing)
  | none => do
    let card ← orFail (db.findCard request.cardId) cardNotPublished
    ensure (card.status = .published) cardNotPublished
    let userCard := request.userCard db draws.userCardId now
    let inserted ← db.insertUserCard userCard
    let recorded ← inserted.appendLedger (request.event userCard.id) draws.ledgerId now
    return (recorded, userCard)

variable [RecordHash Digest] {db db' : CardDb Digest} {request : GrantRequest}
  {draws : GrantDraws} {now : Time} {row userCard : UserCard}

omit [RecordHash Digest] in
theorem insertUserCard_ok : db.insertUserCard row = .ok db' ↔
    (∀ row' ∈ db.userCards, row'.id ≠ row.id) ∧
    (∀ row' ∈ db.userCards, ¬(row'.cardId = row.cardId ∧ row'.serialNumber = row.serialNumber)) ∧
    (∀ row' ∈ db.userCards, ¬row'.sameOwnerAndCode row) ∧
    { db with userCards := db.userCards ++ [row] } = db' := by
  simp only [CardDb.insertUserCard, bind_ok, ensure_ok, exists_const, pure_ok]

theorem appendLedger_ok {event : OwnershipEvent} {ledgerId : LedgerId} :
    db.appendLedger event ledgerId now = .ok db' ↔
      (∀ row ∈ db.ledger, row.id ≠ ledgerId) ∧
      (∀ row ∈ db.ledger, (ownershipRow db.ledger event ledgerId now).sameEvent row = false) ∧
      { db with ledger := db.ledger ++ [ownershipRow db.ledger event ledgerId now] } = db' := by
  simp only [CardDb.appendLedger, bind_ok, pure_ok, Prod.exists, appendOwnershipLedger_ok]
  constructor
  · rintro ⟨ledger, row, ⟨rfl, rfl, hid, hev⟩, rfl⟩
    exact ⟨hid, hev, rfl⟩
  · rintro ⟨hid, hev, rfl⟩
    exact ⟨_, _, ⟨rfl, rfl, hid, hev⟩, rfl⟩

/-- A grant that created a copy. -/
structure Issued (db db' : CardDb Digest) (request : GrantRequest) (draws : GrantDraws)
    (now : Time) (userCard : UserCard) : Prop where
  notGranted : db.grantedCard request.userId request.sourceType request.sourceId = none
  published : ∃ card, db.findCard request.cardId = some card ∧ card.status = .published
  row : userCard = request.userCard db draws.userCardId now
  freshId : ∀ row' ∈ db.userCards, row'.id ≠ userCard.id
  freshCode : ∀ row' ∈ db.userCards, ¬row'.sameOwnerAndCode userCard
  freshLedgerId : ∀ row' ∈ db.ledger, row'.id ≠ draws.ledgerId
  after : db' = { db with
    userCards := db.userCards ++ [userCard]
    ledger := db.ledger ++
      [ownershipRow db.ledger (request.event draws.userCardId) draws.ledgerId now] }

/-- A grant returns the card of an earlier grant from its source, or creates a copy. -/
theorem grantUserCard_ok (h : grantUserCard db request draws now = .ok (db', userCard)) :
    (db' = db ∧
      db.grantedCard request.userId request.sourceType request.sourceId = some userCard) ∨
    Issued db db' request draws now userCard := by
  unfold grantUserCard at h
  split at h
  · rename_i existing hfind
    obtain ⟨rfl, rfl⟩ := Prod.mk.inj (Except.ok.inj h)
    exact .inl ⟨rfl, hfind⟩
  · rename_i hfind
    simp only [bind_ok, orFail_ok, ensure_ok, exists_const, pure_ok, Prod.mk.injEq,
      insertUserCard_ok, appendLedger_ok] at h
    obtain ⟨card, hcard, hpublished, inserted, ⟨hid, -, hcode, rfl⟩, recorded,
      ⟨hledgerId, -, rfl⟩, rfl, rfl⟩ := h
    exact .inr ⟨hfind, ⟨card, hcard, hpublished⟩, rfl, hid, hcode, hledgerId, rfl⟩

/-- The second table is the first, or the first with one copy more. -/
def AddsCopy (rows rows' : List UserCard) : Prop :=
  rows' = rows ∨ ∃ userCard, rows' = rows ++ [userCard] ∧
    (∀ row ∈ rows, row.id ≠ userCard.id) ∧ (∀ row ∈ rows, ¬row.sameOwnerAndCode userCard)

theorem grantUserCard_frame (h : grantUserCard db request draws now = .ok (db', userCard)) :
    ∃ userCards rows, AddsCopy db.userCards userCards ∧ (∀ row ∈ rows, row.action = "grant") ∧
      db' = { db with userCards := userCards, ledger := db.ledger ++ rows } := by
  rcases grantUserCard_ok h with ⟨rfl, -⟩ | hissued
  · exact ⟨_, [], .inl rfl, by simp, by simp⟩
  · exact ⟨_, _, .inr ⟨userCard, rfl, hissued.freshId, hissued.freshCode⟩,
      by simp [ownershipRow, GrantRequest.event], hissued.after⟩

section

variable {P : Failure → Prop}

theorem appendLedger_failsIn (hP : ∀ constraint, P (.integrity constraint)) (event : OwnershipEvent)
    (ledgerId : LedgerId) : FailsIn P (db.appendLedger event ledgerId now) := by
  refine .bind ?_ fun _ => .pure _
  unfold appendOwnershipLedger
  dsimp only
  split
  · exact .error (hP _)
  · split
    · exact .error (hP _)
    · exact .ok _

/-- A grant is only refused by the database, or for a card that is not published. -/
theorem grantUserCard_failsIn (hP : ∀ constraint, P (.integrity constraint))
    (hcard : P cardNotPublished) (request : GrantRequest) (draws : GrantDraws) :
    FailsIn P (grantUserCard db request draws now) := by
  unfold grantUserCard
  split
  · exact .ok _
  · refine .bind (.orFail hcard) fun card => .bind (.ensure hcard) fun _ =>
      .bind ?_ fun inserted => ?_
    · exact .bind (.ensure (hP _)) fun _ => .bind (.ensure (hP _)) fun _ =>
        .bind (.ensure (hP _)) fun _ => .pure _
    · exact .bind (appendLedger_failsIn hP _ _) fun _ => .pure _

end

end

end Fanfolio
