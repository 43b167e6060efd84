import Fanfolio.Cards.Serials
import Fanfolio.Framework.Text

/-!
# Codes as they are printed

A batch prints its codes with the prefix that the administrator chose. A redemption strips what
the fan typed, puts it in upper case and asks for a card of the very drop of the code.
-/

namespace Fanfolio

open Framework

/-- The characters that the pattern of a prefix allows. -/
def isPrefixChar (c : Char) : Bool := c.isAlphanum || c == '_' || c == '-'

/-- The characters of `uuid4().hex` in upper case. -/
def isHexUpper (c : Char) : Bool := c.isDigit || ('A' ≤ c && c ≤ 'F')

/-- A `CodeBatchRequest` whose prefix the schema admits. -/
structure CodeBatchCreate extends CodeBatchRequest where
  prefix_length : 1 ≤ codePrefix.length ∧ codePrefix.length ≤ 30
  prefix_chars : codePrefix.toList.all isPrefixChar = true

/-- The random part of a code, `uuid4().hex[:10].upper()`. -/
abbrev CodeSuffix := {s : String // s.length = 10 ∧ s.toList.all isHexUpper = true}

inductive RedemptionSource where
  | qr
  | manual
deriving DecidableEq, Repr

def RedemptionSource.text : RedemptionSource → String
  | .qr => "qr"
  | .manual => "manual"

/-- `RedemptionRequest`. -/
structure RedemptionRequest where
  code : String
  source : RedemptionSource
  code_length : 1 ≤ code.length

/-- A request to `create_redemption`, with what the rate limiter answers and what it draws. -/
structure RedemptionAttempt where
  userId : UserId
  request : RedemptionRequest
  limiter : Except Failure Unit
  draws : RedeemDraws
  now : Time

section Attempts

variable {Digest : Type}

/-- A fan sends the code in time, when the code has uses left and it, its card and its drop are
as they were when it was printed; the identifiers that the request draws are new. -/
structure SentAsPrinted (printed db : CardDb Digest) (code : RedeemCode)
    (attempt : RedemptionAttempt) : Prop where
  sent : attempt.request.code = code.code
  admitted : attempt.limiter = .ok ()
  codeKept : ∃ used, db.findCode code.code = some { code with usedCount := used } ∧
    used < code.maxUses
  inTime : ∀ expiresAt ∈ code.expiresAt, attempt.now ≤ expiresAt
  cardKept : db.findCard code.cardId = printed.findCard code.cardId
  dropKept : db.findDrop code.dropId = printed.findDrop code.dropId
  freshCopy : ∀ row ∈ db.userCards, row.id ≠ attempt.draws.grant.userCardId
  freshRecord : ∀ row ∈ db.ledger, row.id ≠ attempt.draws.grant.ledgerId
  freshEvent : ∀ event ∈ db.events, event.id ≠ attempt.draws.eventId

/-- The prefix has no lower-case letter, the card belongs to the drop, and the fan neither
redeemed the code before nor holds a copy that was made through it. -/
structure RedeemableAsPrinted (printed db : CardDb Digest) (codePrefix : String)
    (code : RedeemCode) (userId : UserId) : Prop where
  upper : ∀ c ∈ codePrefix.toList, c.isLower = false
  linked : ∃ card, printed.findCard code.cardId = some card ∧ card.dropId = some code.dropId
  notHeld : db.ownsCardOf userId code.code = false
  notGranted : ∀ row ∈ db.ledger, row.isGrant userId "redeem_code" code.code = false

variable [RecordHash Digest]

/-- `create_redemption`. -/
def createRedemption (table : UpperCase) (db : CardDb Digest) (attempt : RedemptionAttempt) :
    Except Failure (CardDb Digest × Redemption) := do
  let normalizedCode := table.text (strip attempt.request.code)
  attempt.limiter
  redeem db attempt.userId normalizedCode attempt.request.source.text attempt.draws attempt.now

/-- The fan gets a new copy of the card, made through the code. -/
def GetsCard (table : UpperCase) (db : CardDb Digest) (attempt : RedemptionAttempt)
    (code : RedeemCode) : Prop :=
  ∃ after result userCard, createRedemption table db attempt = .ok (after, result) ∧
    after.userCards = db.userCards ++ [userCard] ∧ userCard.id = result.userCardId ∧
    userCard.userId = attempt.userId ∧ userCard.cardId = code.cardId ∧
    userCard.redeemCodeId = some code.code

end Attempts

section Characters

theorem isPrefixChar_toNat {c : Char} (h : isPrefixChar c) : 45 ≤ c.toNat ∧ c.toNat ≤ 122 := by
  have h : ((c.isUpper || c.isLower) || c.isDigit) || c == '_' || c == '-' := h
  simp only [Bool.or_eq_true, isUpper_iff_toNat, isLower_iff_toNat, isDigit_iff_toNat,
    beq_iff_eq] at h
  rcases h with (((h | h) | h) | rfl) | rfl
  · omega
  · omega
  · omega
  · decide
  · decide

theorem isHexUpper_toNat {c : Char} (h : isHexUpper c) :
    48 ≤ c.toNat ∧ c.toNat ≤ 57 ∨ 65 ≤ c.toNat ∧ c.toNat ≤ 70 := by
  simp only [isHexUpper, Bool.or_eq_true, Bool.and_eq_true, decide_eq_true_eq,
    isDigit_iff_toNat] at h
  exact h

variable {batch : CodeBatchCreate} {draw : Nat → CodeSuffix} {expiresAt : Time} {code : RedeemCode}

/-- The characters of a printed code are those of its prefix, a hyphen and upper-case digits. -/
theorem printed_chars (hcode : code ∈ batch.newCodes (fun i => (draw i).val) expiresAt) :
    ∃ suffix : CodeSuffix, code.code.toList =
      batch.codePrefix.toList ++ '-' :: suffix.val.toList := by
  obtain ⟨i, -, rfl⟩ := List.mem_map.mp hcode
  refine ⟨draw i, ?_⟩
  simp [String.toList_append]

/-- A printed code has characters of ASCII and no white space. -/
theorem printed_toNat (hcode : code ∈ batch.newCodes (fun i => (draw i).val) expiresAt) :
    ∀ c ∈ code.code.toList, 33 ≤ c.toNat ∧ c.toNat < 128 := by
  obtain ⟨suffix, hchars⟩ := printed_chars hcode
  intro c hc
  rw [hchars, List.mem_append, List.mem_cons] at hc
  rcases hc with hc | rfl | hc
  · have := isPrefixChar_toNat (List.all_eq_true.mp batch.prefix_chars c hc)
    omega
  · decide
  · have := isHexUpper_toNat (List.all_eq_true.mp suffix.property.2 c hc)
    omega

/-- Only the prefix of a printed code can have lower-case letters. -/
theorem printed_lower (hcode : code ∈ batch.newCodes (fun i => (draw i).val) expiresAt) :
    (∀ c ∈ code.code.toList, c.isLower = false) ↔
      ∀ c ∈ batch.codePrefix.toList, c.isLower = false := by
  obtain ⟨suffix, hchars⟩ := printed_chars hcode
  rw [hchars, List.forall_mem_append, List.forall_mem_cons]
  refine and_iff_left ⟨by decide, ?_⟩
  intro c hc
  rw [← Bool.not_eq_true, isLower_iff_toNat]
  have := isHexUpper_toNat (List.all_eq_true.mp suffix.property.2 c hc)
  omega

/-- A printed code is what it is normalised to exactly if its prefix has no lower-case letter. -/
theorem printed_normalized (table : UpperCase)
    (hcode : code ∈ batch.newCodes (fun i => (draw i).val) expiresAt) :
    table.text (strip code.code) = code.code ↔
      ∀ c ∈ batch.codePrefix.toList, c.isLower = false := by
  have htoNat := printed_toNat hcode
  rw [strip_of_noSpace fun c hc => isSpace_eq_false (htoNat c hc).1 (htoNat c hc).2,
    table.text_eq_self_iff fun c hc => (htoNat c hc).2, printed_lower hcode]

end Characters

section Redeeming

variable {Digest : Type} {printed issued db db' : CardDb Digest} {code : RedeemCode}

/-- A batch prints its codes for a published card and a live drop. -/
theorem codeBatch_printed {batch : CodeBatchCreate} {isRoot : Bool} {draw : Nat → CodeSuffix}
    {quantity : Nat} (h : codeBatch printed batch.toCodeBatchRequest isRoot
      (fun i => (draw i).val) = .ok (issued, quantity))
    (hcode : code ∈ issued.codes) (hnew : code ∉ printed.codes) :
    (∃ expiresAt, code ∈ batch.newCodes (fun i => (draw i).val) expiresAt) ∧
      code.disabledAt = none ∧
      (∃ card, printed.findCard code.cardId = some card ∧ card.status = .published) ∧
      ∃ drop, printed.findDrop code.dropId = some drop ∧ drop.status = .live := by
  simp only [codeBatch, bind_ok, orFail_ok, ensure_ok, exists_const, pure_ok, Prod.mk.injEq] at h
  obtain ⟨drop, hdrop, card, hcard, -, hlive, -, hpublished, expiresAt, -, -, rfl, -⟩ := h
  have hadded := (List.mem_append.mp hcode).resolve_left hnew
  obtain ⟨i, -, hi⟩ := List.mem_map.mp hadded
  refine ⟨⟨expiresAt, hadded⟩, ?_, ⟨card, ?_, hpublished⟩, drop, ?_, hlive⟩
  · rw [← hi]
  · rw [← hi]
    exact hcard
  · rw [← hi]
    exact hdrop

variable [RecordHash Digest]

/-- The event of a grant clashes with the grants from its source. -/
theorem isGrant_eq_sameEvent (row : CardOwnershipLedger Digest) (request : GrantRequest)
    (draws : GrantDraws) (now : Time) :
    row.isGrant request.userId request.sourceType request.sourceId =
      (ownershipRow db.ledger (request.event draws.userCardId) draws.ledgerId now).sameEvent row := by
  simp [CardOwnershipLedger.sameEvent, CardOwnershipLedger.isGrant, ownershipRow,
    GrantRequest.event, Bool.beq_comm]

theorem grantUserCard_succeeds {request : GrantRequest} {draws : GrantDraws} {now : Time}
    (hexact : db.SerialsExact)
    (hnew : ∀ row ∈ db.ledger, row.isGrant request.userId request.sourceType request.sourceId = false)
    (hcard : ∃ card, db.findCard request.cardId = some card ∧ card.status = .published)
    (hid : ∀ row ∈ db.userCards, row.id ≠ draws.userCardId)
    (hcode : ∀ row ∈ db.userCards, ¬row.sameOwnerAndCode (request.userCard db draws.userCardId now))
    (hrecord : ∀ row ∈ db.ledger, row.id ≠ draws.ledgerId) :
    ∃ granted, grantUserCard db request draws now =
        .ok (granted, request.userCard db draws.userCardId now) ∧
      granted.userCards = db.userCards ++ [request.userCard db draws.userCardId now] ∧
      granted.events = db.events := by
  have hnone : db.grantedCard request.userId request.sourceType request.sourceId = none := by
    rw [CardDb.grantedCard, List.find?_eq_none.mpr, Option.bind_none]
    intro row hrow
    rw [hnew row hrow]
    exact Bool.false_ne_true
  have hserial : ∀ row ∈ db.userCards, ¬(row.cardId = request.cardId ∧
      row.serialNumber = db.copies request.cardId + 1) := by
    rintro row hrow ⟨hcardId, hnumber⟩
    have hle := hexact.le_copies hrow
    rw [hcardId, hnumber] at hle
    omega
  have hevent : ∀ row ∈ db.ledger, (ownershipRow db.ledger (request.event draws.userCardId)
      draws.ledgerId now).sameEvent row = false := by
    intro row hrow
    rw [← isGrant_eq_sameEvent]
    exact hnew row hrow
  obtain ⟨card, hfind, hpublished⟩ := hcard
  simp only [grantUserCard, hnone, hfind, bind_ok, orFail_ok, ensure_ok, exists_const, pure_ok,
    Prod.mk.injEq, insertUserCard_ok, appendLedger_ok, Option.some.injEq, exists_eq_left']
  refine ⟨_, ⟨hpublished, _, ⟨hid, hserial, hcode, rfl⟩, _, ⟨hrecord, hevent, rfl⟩, rfl, trivial⟩,
    rfl, rfl⟩

omit [RecordHash Digest] in
theorem ownsCardOf_eq_false {userId : UserId} {codeValue : CodeId} :
    db.ownsCardOf userId codeValue = false ↔
      ∀ row ∈ db.userCards, row.userId = userId → row.redeemCodeId ≠ some codeValue := by
  simp [CardDb.ownsCardOf]

variable {table : UpperCase} {attempt : RedemptionAttempt}

theorem createRedemption_ok {after : CardDb Digest} {result : Redemption}
    (hadmitted : attempt.limiter = .ok ()) :
    createRedemption table db attempt = .ok (after, result) ↔
      redeem db attempt.userId (table.text (strip attempt.request.code))
        attempt.request.source.text attempt.draws attempt.now = .ok (after, result) := by
  rw [createRedemption, hadmitted]
  rfl

/-- A code that is sent as it was printed is redeemed if nothing is in its way. -/
theorem getsCard_of_redeemable (hexact : db.SerialsExact) (henabled : code.disabledAt = none)
    (hcard : ∃ card, printed.findCard code.cardId = some card ∧ card.status = .published)
    (hdrop : ∃ drop, printed.findDrop code.dropId = some drop ∧ drop.status = .live)
    (hnormal : table.text (strip code.code) = code.code)
    (hattempt : SentAsPrinted printed db code attempt)
    (hlinked : ∃ card, printed.findCard code.cardId = some card ∧ card.dropId = some code.dropId)
    (hheld : db.ownsCardOf attempt.userId code.code = false)
    (hgranted : ∀ row ∈ db.ledger,
      row.isGrant attempt.userId "redeem_code" code.code = false) :
    GetsCard table db attempt code := by
  obtain ⟨used, hfound, hleft⟩ := hattempt.codeKept
  obtain ⟨card, hfind, hpublished⟩ := hcard
  obtain ⟨drop, hdropFind, hlive⟩ := hdrop
  obtain ⟨card', hfind', hlink⟩ := hlinked
  obtain rfl := Option.some.inj (hfind.symm.trans hfind')
  rw [← hattempt.cardKept] at hfind
  rw [← hattempt.dropKept] at hdropFind
  have hid : card.id = code.cardId := (mem_of_find_eq_some hfind).2
  let counted : RedeemCode := { code with usedCount := used }
  let request := redeemGrant attempt.userId counted card drop attempt.request.source.text
  have hfresh : ∀ row ∈ db.userCards, ¬row.sameOwnerAndCode
      (request.userCard (db.countUse counted) attempt.draws.grant.userCardId attempt.now) := by
    rintro row hrow ⟨huser, -, hcode⟩
    exact ownsCardOf_eq_false.mp hheld row hrow huser hcode
  have hfindCounted : ∃ card', (db.countUse counted).findCard request.cardId = some card' ∧
      card'.status = .published := ⟨card, by rw [← hfind, ← hid]; rfl, hpublished⟩
  have hexactCounted : (db.countUse counted).SerialsExact := hexact
  have hnew : ∀ row ∈ (db.countUse counted).ledger,
      row.isGrant request.userId request.sourceType request.sourceId = false := hgranted
  obtain ⟨granted, hgrant, hcards, hevents⟩ := grantUserCard_succeeds hexactCounted hnew
    hfindCounted hattempt.freshCopy hfresh hattempt.freshRecord
  obtain ⟨events, event, hevent, -⟩ := recordEngagementEvent_fresh hattempt.freshEvent
    attempt.userId "card_collected" "user_card" attempt.draws.grant.userCardId
    [("cardId", .str card.id), ("artistId", .ofOption card.artistId),
      ("memberId", .ofOption card.memberId), ("dropId", .str drop.id)]
  have hredeem : redeem db attempt.userId code.code attempt.request.source.text attempt.draws
      attempt.now = .ok ({ granted with events := events },
        { userCardId := attempt.draws.grant.userCardId, cardId := card.id
          serialNumber := db.copies card.id + 1
          redirectTo := "/reveal/" ++ attempt.draws.grant.userCardId, eventId := event.id }) := by
    simp only [redeem, bind_ok, orFail_ok, ensure_ok, exists_const, pure_ok, Prod.exists,
      Prod.mk.injEq]
    exact ⟨counted, hfound, henabled, hleft, hheld, hattempt.inTime, card, hfind, hpublished, drop,
      hdropFind, hlive, hlink, granted, _, hgrant, events, event, by rw [hevents]; exact hevent,
      rfl, rfl⟩
  have hcode : table.text (strip attempt.request.code) = code.code := by
    rw [hattempt.sent, hnormal]
  rw [← hcode, ← createRedemption_ok hattempt.admitted] at hredeem
  exact ⟨_, _, _, hredeem, hcards, rfl, rfl, hid, rfl⟩

/-- A grant that added a copy was the first from its source. -/
theorem grantUserCard_adds {granted : CardDb Digest} {request : GrantRequest} {draws : GrantDraws}
    {now : Time} {userCard row : UserCard}
    (h : grantUserCard db request draws now = .ok (granted, userCard))
    (hadded : granted.userCards = db.userCards ++ [row]) :
    row = request.userCard db draws.userCardId now ∧
      ∀ row ∈ db.ledger, row.isGrant request.userId request.sourceType request.sourceId = false := by
  unfold grantUserCard at h
  split at h
  · obtain ⟨rfl, -⟩ := Prod.mk.inj (Except.ok.inj h)
    exact absurd (congrArg List.length hadded) (by simp)
  · simp only [bind_ok, orFail_ok, ensure_ok, exists_const, pure_ok, Prod.mk.injEq,
      insertUserCard_ok, appendLedger_ok] at h
    obtain ⟨card, -, -, inserted, ⟨-, -, -, rfl⟩, recorded, ⟨-, hevent, rfl⟩, rfl, -⟩ := h
    refine ⟨(List.singleton_inj.mp (List.append_cancel_left hadded)).symm, ?_⟩
    intro row hrow
    rw [isGrant_eq_sameEvent row request draws now]
    exact hevent row hrow

/-- What a redemption under the printed code found when it gave the fan a new copy. -/
theorem GetsCard.found (h : GetsCard table db attempt code)
    (hattempt : SentAsPrinted printed db code attempt) :
    table.text (strip code.code) = code.code ∧
      (∃ card, printed.findCard code.cardId = some card ∧ card.dropId = some code.dropId) ∧
      db.ownsCardOf attempt.userId code.code = false ∧
      ∀ row ∈ db.ledger, row.isGrant attempt.userId "redeem_code" code.code = false := by
  obtain ⟨after, result, row, hredeem, hcards, -, -, -, hrowCode⟩ := h
  obtain ⟨used, hfound, -⟩ := hattempt.codeKept
  rw [createRedemption_ok hattempt.admitted, hattempt.sent] at hredeem
  simp only [redeem, bind_ok, orFail_ok, ensure_ok, exists_const, pure_ok, Prod.exists,
    Prod.mk.injEq] at hredeem
  obtain ⟨code', hfound', -, -, howned, -, card, hcard, -, drop, -, -, hlink, granted, userCard,
    hgrant, events, event, -, rfl, -⟩ := hredeem
  obtain ⟨hrow, hgranted⟩ := grantUserCard_adds hgrant hcards
  have hcode : code'.code = code.code := by
    rw [hrow] at hrowCode
    exact Option.some.inj hrowCode
  have hnormal : code'.code = table.text (strip code.code) := (mem_of_find_eq_some hfound').2
  rw [← hnormal, hcode, hfound] at hfound'
  obtain rfl := Option.some.inj hfound'
  refine ⟨hnormal.symm, ⟨card, ?_, hlink⟩, howned, hgranted⟩
  rw [← hattempt.cardKept]
  exact hcard

theorem not_getsCard (h : (createRedemption table db attempt).isOk = false) :
    ¬GetsCard table db attempt code := by
  rintro ⟨after, result, userCard, hredeem, -⟩
  rw [hredeem] at h
  cases h

end Redeeming

def oneSuffix : Nat → CodeSuffix := fun _ => ⟨"00000000AB", by decide⟩

/-- One code with one use, under a prefix in upper case. -/
def upperBatch : CodeBatchCreate where
  dropId := "drop"
  cardId := "card"
  quantity := 1
  maxUsesPerCode := 1
  expiresAt := some 100
  codePrefix := "PF"
  quantity_pos := by decide
  maxUses_pos := by decide
  prefix_length := by decide
  prefix_chars := by decide

def lowerBatch : CodeBatchCreate :=
  { upperBatch with codePrefix := "pf", prefix_length := by decide, prefix_chars := by decide }

/-- A batch for a card of the console, which belongs to no drop. -/
def plainBatch : CodeBatchCreate := { upperBatch with cardId := "plain" }

def plainCatalogue : CardDb SymbolicDigest :=
  { smallCatalogue with cards := [{ id := "plain", name := "Plain" }] }

/-- The database after the batch was printed. -/
def printedIn (db : CardDb SymbolicDigest) (batch : CodeBatchCreate) : CardDb SymbolicDigest :=
  commitOr db (codeBatch db batch.toCodeBatchRequest true fun i => (oneSuffix i).val)

def codeOf (batch : CodeBatchCreate) : RedeemCode :=
  { code := batch.codePrefix ++ "-" ++ (oneSuffix 0).val, cardId := batch.cardId,
    dropId := batch.dropId, expiresAt := batch.expiresAt, maxUses := batch.maxUsesPerCode }

/-- A fan sends the printed code. -/
def sendCode (batch : CodeBatchCreate) (h : 1 ≤ (codeOf batch).code.length) : RedemptionAttempt :=
  { userId := "fan_a", request := ⟨(codeOf batch).code, .manual, h⟩, limiter := .ok ()
    draws := ⟨⟨"uc_a", "ledger_a"⟩, "evt_a"⟩, now := 1 }

end Fanfolio
