import Fanfolio.Schema
import Fanfolio.Framework.Run
import Fanfolio.Framework.HashChain

/-!
# The card ownership ledger

Every grant, transfer and consumption of a card appends a row that carries the hash of the
owner's previous row. `verifyOwnershipChain` replays an owner's rows.
-/

namespace Fanfolio

open Framework

/-- The fields of `_ownership_hash_payload` other than the previous hash. -/
structure OwnershipFacts where
  id : LedgerId
  userCardId : UserCardId
  userId : UserId
  cardId : CardId
  action : String
  sourceType : String
  sourceId : String
  fromUserId : Option UserId
  toUserId : Option UserId
  metadata : JsonObject
  createdAt : Time
deriving DecidableEq, Repr

/-- `_ownership_hash_payload`, before it is rendered to bytes. -/
structure OwnershipHashPayload (Digest : Type) where
  facts : OwnershipFacts
  previousHash : Option Digest

/-- The digest of a rendered payload, `sha256(...).hexdigest()`. -/
class RecordHash (Digest : Type) where
  sha256 : OwnershipHashPayload Digest → Digest

/-- A row of `card_ownership_ledger`. -/
structure CardOwnershipLedger (Digest : Type) where
  id : LedgerId
  userCardId : UserCardId
  userId : UserId
  cardId : CardId
  action : String
  sourceType : String
  sourceId : String
  fromUserId : Option UserId
  toUserId : Option UserId
  metadataJson : Option JsonObject
  previousHash : Option Digest
  recordHash : Option Digest
  createdAt : Time
deriving DecidableEq, Repr

/-- The arguments of `append_ownership_ledger`. -/
structure OwnershipEvent where
  userCardId : UserCardId
  userId : UserId
  cardId : CardId
  action : String
  sourceType : String
  sourceId : String
  fromUserId : Option UserId := none
  toUserId : Option UserId := none
  metadata : Option JsonObject := none
  createdAt : Option Time := none
deriving DecidableEq, Repr

section

variable {Digest : Type}

/-- The order of the rows of one owner, `(created_at, id)`. -/
def CardOwnershipLedger.chainKey (row : CardOwnershipLedger Digest) : Time ×ₗ LedgerId :=
  toLex (row.createdAt, row.id)

/-- The unique constraint `uq_card_ownership_ledger_event`. -/
def CardOwnershipLedger.sameEvent (row row' : CardOwnershipLedger Digest) : Bool :=
  row.userId == row'.userId && row.action == row'.action &&
    row.sourceType == row'.sourceType && row.sourceId == row'.sourceId

/-- The stored rows of one owner. -/
def userRows (ledger : List (CardOwnershipLedger Digest)) (userId : UserId) :
    List (CardOwnershipLedger Digest) :=
  ledger.filter (fun row => row.userId == userId)

/-- Rows of the same instant carry increasing identifiers, in the order they were appended. -/
def TiesDrawnInOrder (rows : List (CardOwnershipLedger Digest)) : Prop :=
  rows.Pairwise (fun row row' => row.createdAt = row'.createdAt → row.id < row'.id)

instance (rows : List (CardOwnershipLedger Digest)) : Decidable (TiesDrawnInOrder rows) :=
  inferInstanceAs (Decidable (rows.Pairwise _))

/-- What the hash of a stored row commits to. -/
def CardOwnershipLedger.facts (row : CardOwnershipLedger Digest) : OwnershipFacts :=
  { id := row.id, userCardId := row.userCardId, userId := row.userId, cardId := row.cardId,
    action := row.action, sourceType := row.sourceType, sourceId := row.sourceId,
    fromUserId := row.fromUserId, toUserId := row.toUserId,
    metadata := row.metadataJson.getD [], createdAt := row.createdAt }

variable [RecordHash Digest]

/-- The hash of the owner's latest row: `created_at` descending, then `id` descending. -/
def previousRecordHash (ledger : List (CardOwnershipLedger Digest)) (userId : UserId) :
    Option Digest :=
  (HashChain.latest CardOwnershipLedger.chainKey (userRows ledger userId)).bind (·.recordHash)

/-- The row that `append_ownership_ledger` builds. -/
def ownershipRow (ledger : List (CardOwnershipLedger Digest)) (event : OwnershipEvent)
    (ledgerId : LedgerId) (now : Time) : CardOwnershipLedger Digest :=
  let timestamp := event.createdAt.getD now
  let previous := previousRecordHash ledger event.userId
  let metadataValue := event.metadata.getD []
  let facts : OwnershipFacts :=
    { id := ledgerId, userCardId := event.userCardId, userId := event.userId,
      cardId := event.cardId, action := event.action, sourceType := event.sourceType,
      sourceId := event.sourceId, fromUserId := event.fromUserId, toUserId := event.toUserId,
      metadata := metadataValue, createdAt := timestamp }
  { id := ledgerId, userCardId := event.userCardId, userId := event.userId,
    cardId := event.cardId, action := event.action, sourceType := event.sourceType,
    sourceId := event.sourceId, fromUserId := event.fromUserId, toUserId := event.toUserId,
    metadataJson := some metadataValue, previousHash := previous,
    recordHash := some (RecordHash.sha256 ⟨facts, previous⟩), createdAt := timestamp }

/-- `append_ownership_ledger`; `ledgerId` is the identifier it draws. -/
def appendOwnershipLedger (ledger : List (CardOwnershipLedger Digest)) (event : OwnershipEvent)
    (ledgerId : LedgerId) (now : Time) :
    Except Failure (List (CardOwnershipLedger Digest) × CardOwnershipLedger Digest) :=
  let row := ownershipRow ledger event ledgerId now
  if ledger.any (fun row' => row'.id == ledgerId) then
    .error (.integrity "card_ownership_ledger_pkey")
  else if ledger.any row.sameEvent then
    .error (.integrity "uq_card_ownership_ledger_event")
  else
    .ok (ledger ++ [row], row)

/-- What `verify_ownership_chain` returns. -/
structure ChainReport where
  valid : Bool
  verified : Nat
  legacy : Nat
  violations : List String
deriving DecidableEq, Repr

/-- The local variables of the verification loop. -/
structure ChainScan (Digest : Type) where
  previousHash : Option Digest
  verified : Nat
  legacy : Nat
  violations : List String

/-- One call of `append_ownership_ledger`, with the identifier it draws and the clock. -/
structure LedgerCall where
  event : OwnershipEvent
  ledgerId : LedgerId
  now : Time

/-- The `created_at` of the row that a call writes. -/
def LedgerCall.timestamp (call : LedgerCall) : Time := call.event.createdAt.getD call.now

/-- The ledger after one call; a call that violates a constraint is rolled back. -/
def ledgerStep (ledger : List (CardOwnershipLedger Digest)) (call : LedgerCall) :
    List (CardOwnershipLedger Digest) :=
  match appendOwnershipLedger ledger call.event call.ledgerId call.now with
  | .ok (ledger', _) => ledger'
  | .error _ => ledger

/-- The ledger that a sequence of calls leaves behind. -/
def ledgerAfter (Digest : Type) [RecordHash Digest]
    (calls : List LedgerCall) : List (CardOwnershipLedger Digest) :=
  run ledgerStep [] calls

variable [DecidableEq Digest]

def ChainScan.visit (scan : ChainScan Digest) (event : CardOwnershipLedger Digest) :
    ChainScan Digest :=
  match event.recordHash with
  -- a legacy row without a hash is a boundary: the chain starts anew after it
  | none => { scan with previousHash := none, legacy := scan.legacy + 1 }
  | some recordHash =>
    let linkViolation :=
      if event.previousHash ≠ scan.previousHash then [event.id ++ ":previous_hash"] else []
    let expectedHash := RecordHash.sha256 ⟨event.facts, event.previousHash⟩
    let hashViolation :=
      if recordHash ≠ expectedHash then [event.id ++ ":record_hash"] else []
    { previousHash := some recordHash, verified := scan.verified + 1, legacy := scan.legacy,
      violations := scan.violations ++ linkViolation ++ hashViolation }

/-- `verify_ownership_chain`. -/
def verifyOwnershipChain (events : List (CardOwnershipLedger Digest)) : ChainReport :=
  let scan := (HashChain.replay CardOwnershipLedger.chainKey events).foldl ChainScan.visit
    ⟨none, 0, 0, []⟩
  ⟨scan.violations.isEmpty, scan.verified, scan.legacy, scan.violations⟩

end

/-- A digest that is its own payload: the free, and so injective, record hash. -/
inductive SymbolicDigest where
  | first (facts : OwnershipFacts)
  | next (facts : OwnershipFacts) (previous : SymbolicDigest)
deriving DecidableEq, Repr

instance : RecordHash SymbolicDigest where
  sha256 payload :=
    match payload.previousHash with
    | none => .first payload.facts
    | some previous => .next payload.facts previous

theorem symbolicDigest_injective :
    Function.Injective (RecordHash.sha256 : OwnershipHashPayload SymbolicDigest → _) := by
  rintro ⟨facts, previous⟩ ⟨facts', previous'⟩ h
  cases previous <;> cases previous' <;> simp_all [RecordHash.sha256]

end Fanfolio
