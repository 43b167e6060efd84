import Fanfolio.Cards.Issue
import Fanfolio.Framework.RowLocks

/-!
# Serial numbers

A copy gets the number of copies of its card plus one. The count is made under the lock on the
row of the card, so that requests that grant copies at the same time number them without a gap.
-/

namespace Fanfolio

open Framework

section Numbering

variable {Digest : Type}

/-- The cards and serial numbers of the copies. -/
def CardDb.issues (db : CardDb Digest) : List (CardId × Nat) :=
  db.userCards.map fun row => (row.cardId, row.serialNumber)

/-- The serial numbers of the copies of a card. -/
def CardDb.serials (db : CardDb Digest) (cardId : CardId) : List Nat :=
  (db.issues.filter fun issue => issue.1 == cardId).map Prod.snd

/-- The number of copies of a card that the ledger grants. -/
def CardDb.grantsOf (db : CardDb Digest) (cardId : CardId) : Nat :=
  db.grants.countP fun row => row.cardId == cardId

/-- The serial numbers of every card run from one to the number of copies granted. -/
def CardDb.SerialsExact (db : CardDb Digest) : Prop :=
  ∀ cardId, (db.serials cardId).Perm (List.range' 1 (db.grantsOf cardId))

/-- No copy was numbered and none granted. -/
structure SameSerials (db db' : CardDb Digest) : Prop where
  issues : db'.issues = db.issues
  grants : db'.grants = db.grants

/-- One copy was granted under the next serial number of its card. -/
structure NextSerial (db db' : CardDb Digest) (cardId : CardId) : Prop where
  issues : db'.issues = db.issues ++ [(cardId, db.copies cardId + 1)]
  grants : ∃ row, row.cardId = cardId ∧ db'.grants = db.grants ++ [row]

variable {db db' : CardDb Digest}

theorem copies_eq_length (db : CardDb Digest) (cardId : CardId) :
    db.copies cardId = (db.serials cardId).length := by
  rw [CardDb.serials, List.length_map, ← List.countP_eq_length_filter, CardDb.issues,
    List.countP_map]
  rfl

theorem SameSerials.refl (db : CardDb Digest) : SameSerials db db := ⟨rfl, rfl⟩

theorem SameSerials.trans {db'' : CardDb Digest} (h : SameSerials db db')
    (h' : SameSerials db' db'') : SameSerials db db'' :=
  ⟨h'.issues.trans h.issues, h'.grants.trans h.grants⟩

theorem SameSerials.serials (h : SameSerials db db') (cardId : CardId) :
    db'.serials cardId = db.serials cardId := by
  rw [CardDb.serials, h.issues, CardDb.serials]

theorem SameSerials.copies (h : SameSerials db db') (cardId : CardId) :
    db'.copies cardId = db.copies cardId := by
  rw [copies_eq_length, copies_eq_length, h.serials]

theorem SameSerials.exact (h : SameSerials db db') (hexact : db.SerialsExact) :
    db'.SerialsExact := by
  intro cardId
  rw [h.serials, CardDb.grantsOf, h.grants]
  exact hexact cardId

theorem CardDb.SerialsExact.copies (hexact : db.SerialsExact) (cardId : CardId) :
    db.copies cardId = db.grantsOf cardId := by
  rw [copies_eq_length, (hexact cardId).length_eq, List.length_range']

/-- No copy has a serial number beyond the number of copies. -/
theorem CardDb.SerialsExact.le_copies (hexact : db.SerialsExact) {row : UserCard}
    (hmem : row ∈ db.userCards) : row.serialNumber ≤ db.copies row.cardId := by
  have hserial : row.serialNumber ∈ db.serials row.cardId := by
    simp only [CardDb.serials, CardDb.issues, List.mem_map, List.mem_filter, beq_iff_eq]
    exact ⟨_, ⟨⟨row, hmem, rfl⟩, rfl⟩, rfl⟩
  rw [(hexact row.cardId).mem_iff, List.mem_range'_1, ← hexact.copies] at hserial
  omega

theorem NextSerial.serials {cardId : CardId} (h : NextSerial db db' cardId) (cardId' : CardId) :
    db'.serials cardId' =
      db.serials cardId' ++ if cardId = cardId' then [db.copies cardId + 1] else [] := by
  rw [CardDb.serials, h.issues, List.filter_append, List.map_append, CardDb.serials]
  by_cases hid : cardId = cardId' <;> simp [hid]

theorem NextSerial.copies_other {cardId cardId' : CardId} (h : NextSerial db db' cardId)
    (hne : cardId ≠ cardId') : db'.copies cardId' = db.copies cardId' := by
  rw [copies_eq_length, copies_eq_length, h.serials, if_neg hne, List.append_nil]

/-- A grant within a request that numbers no other copy. -/
theorem NextSerial.within {mid granted : CardDb Digest} {cardId : CardId}
    (h : NextSerial mid granted cardId) (hbefore : SameSerials db mid)
    (hafter : SameSerials granted db') : NextSerial db db' cardId := by
  refine ⟨?_, ?_⟩
  · rw [hafter.issues, h.issues, hbefore.issues, hbefore.copies]
  · obtain ⟨row, hrow, hgrants⟩ := h.grants
    exact ⟨row, hrow, by rw [hafter.grants, hgrants, hbefore.grants]⟩

/-- The next serial number keeps the numbers without a gap. -/
theorem NextSerial.exact {cardId : CardId} (h : NextSerial db db' cardId)
    (hexact : db.SerialsExact) : db'.SerialsExact := by
  obtain ⟨row, hrow, hgrants⟩ := h.grants
  intro cardId'
  rw [h.serials, CardDb.grantsOf, hgrants, List.countP_append, List.countP_singleton, hrow,
    ← CardDb.grantsOf]
  by_cases hid : cardId = cardId'
  · subst hid
    rw [if_pos rfl, if_pos (beq_self_eq_true cardId), hexact.copies,
      List.range'_1_concat, Nat.add_comm 1]
    exact (hexact cardId).append_right _
  · rw [if_neg hid, if_neg (by simpa using hid), List.append_nil]
    exact hexact cardId'

variable [RecordHash Digest]

/-- A grant numbers its copy, unless it returns the copy of an earlier grant. -/
theorem grantUserCard_serials {request : GrantRequest} {draws : GrantDraws} {now : Time}
    {userCard : UserCard} (h : grantUserCard db request draws now = .ok (db', userCard)) :
    SameSerials db db' ∨ NextSerial db db' request.cardId := by
  rcases grantUserCard_ok h with ⟨rfl, -⟩ | hissued
  · exact .inl (.refl db')
  · refine .inr ⟨?_, ?_⟩
    · rw [hissued.after, hissued.row]
      simp [CardDb.issues, GrantRequest.userCard]
    · refine ⟨ownershipRow db.ledger (request.event draws.userCardId) draws.ledgerId now, rfl, ?_⟩
      rw [hissued.after, CardDb.grants, List.filter_append]
      rfl

omit [RecordHash Digest] in
theorem setOwner_serials {card : UserCard} {userId : UserId}
    (h : db.setOwner card userId = .ok db') : SameSerials db db' := by
  obtain ⟨-, rfl⟩ := setOwner_ok.mp h
  exact ⟨map_patch (by intro _; rfl) _, rfl⟩

theorem appendLedger_serials {event : OwnershipEvent} {ledgerId : LedgerId} {now : Time}
    (haction : event.action ≠ "grant") (h : db.appendLedger event ledgerId now = .ok db') :
    SameSerials db db' := by
  obtain ⟨-, -, rfl⟩ := appendLedger_ok.mp h
  refine ⟨rfl, ?_⟩
  simp [CardDb.grants, ownershipRow, haction]

/-- The transfer loop numbers no copy. -/
theorem moveItems_serials {proposal : TradeProposal} {draw : UserCardId → LedgerId} {now : Time}
    {items : List TradeItem} (h : moveItems proposal draw now db items = .ok db') :
    SameSerials db db' := by
  induction items generalizing db with
  | nil =>
    obtain rfl := Except.ok.inj h
    exact .refl db
  | cons item items ih =>
    simp only [moveItems, moveItem, bind_ok] at h
    obtain ⟨moved, ⟨card, -, owned, howned, hmoved⟩, hrest⟩ := h
    have htransfer : (transferEvent proposal item card now).action ≠ "grant" := by
      simp [transferEvent]
    exact (setOwner_serials howned).trans
      ((appendLedger_serials htransfer hmoved).trans (ih hrest))

theorem acceptTradeOnce_serials {proposal : TradeProposal} {order : List TradeItem}
    {draws : AcceptDraws} {now : Time} {status : ProposalStatus}
    (h : acceptTradeOnce db proposal order draws now = .ok (db', status)) : SameSerials db db' := by
  simp only [acceptTradeOnce, bind_ok, Prod.exists, pure_ok, Prod.mk.injEq] at h
  obtain ⟨-, -, moved, hmoved, events, _, -, events', _, -, rfl, -⟩ := h
  exact ⟨(moveItems_serials hmoved).issues, (moveItems_serials hmoved).grants⟩

/-- The requests that grant no copy. -/
def CardAction.grantsNone : CardAction → Bool
  | .redeem .. | .combineCards .. | .openCardPack .. => false
  | _ => true

/-- Only a grant numbers a copy. -/
theorem cardStep_sameSerials (db : CardDb Digest) {a : CardAction} (ha : a.grantsNone) :
    SameSerials db (cardStep db a) := by
  have hstepped := cardStep_cases db a
  generalize cardStep db a = db' at hstepped ⊢
  cases hstepped with
  | swept h => exact h.keeps (.refl db) fun _ _ _ _ _ hsame => ⟨hsame.issues, hsame.grants⟩
  | edited | limited => exact ⟨rfl, rfl⟩
  | proposed hok =>
    obtain ⟨_, -, hnew⟩ := createTrade_ok hok
    rw [hnew.after]
    exact ⟨rfl, rfl⟩
  | accepted _ _ hok => exact acceptTradeOnce_serials hok
  | redeemed | combined | opened => cases ha

/-- A request numbers no copy, or one. -/
theorem cardStep_serials (db : CardDb Digest) (a : CardAction) :
    SameSerials db (cardStep db a) ∨ ∃ cardId, NextSerial db (cardStep db a) cardId := by
  by_cases ha : a.grantsNone
  · exact .inl (cardStep_sameSerials db ha)
  have hcommit : ∀ {α : Type} {attempt : Except Failure (CardDb Digest × α)},
      (∀ db' result, attempt = .ok (db', result) →
        SameSerials db db' ∨ ∃ cardId, NextSerial db db' cardId) →
      SameSerials db (commitOr db attempt) ∨ ∃ cardId, NextSerial db (commitOr db attempt) cardId :=
    fun hok => commitOr_keeps (.inl (.refl db)) hok
  have hgranted : ∀ {mid granted db' : CardDb Digest} {request : GrantRequest} {draws : GrantDraws}
      {now : Time} {userCard : UserCard},
      grantUserCard mid request draws now = .ok (granted, userCard) → SameSerials db mid →
      SameSerials granted db' → SameSerials db db' ∨ ∃ cardId, NextSerial db db' cardId := by
    intro mid granted db' request draws now userCard hgrant hbefore hafter
    rcases grantUserCard_serials hgrant with hsame | hnext
    · exact .inl (hbefore.trans (hsame.trans hafter))
    · exact .inr ⟨request.cardId, hnext.within hbefore hafter⟩
  cases a with
  | redeem =>
    refine hcommit fun db' result hok => ?_
    obtain ⟨code, granted, userCard, hredeemed⟩ := redeem_ok hok
    obtain ⟨card, drop, -, -, hgrant⟩ := hredeemed.grant
    obtain ⟨events, rfl⟩ := hredeemed.after
    exact hgranted hgrant ⟨rfl, rfl⟩ ⟨rfl, rfl⟩
  | combineCards =>
    refine hcommit fun db' result hok => ?_
    rcases combineCards_ok hok with ⟨rfl, -⟩ | ⟨-, _, materials, _, rows, _, _, hcombined⟩
    · exact .inl (.refl db')
    · obtain ⟨_, hgrant⟩ := hcombined.grant
      obtain ⟨_, _, rfl⟩ := hcombined.after
      refine hgranted hgrant ⟨rfl, ?_⟩ ⟨rfl, rfl⟩
      have hrows : rows.filter (fun row => row.action == "grant") = [] := by
        rw [List.filter_eq_nil_iff]
        intro row hrow
        simp [hcombined.consumed row hrow]
      rw [CardDb.grants, List.filter_append, hrows, List.append_nil, CardDb.grants]
  | openCardPack userId packId idempotencyKey draws now =>
    refine hcommit fun db' result hok => ?_
    rcases openCardPack_ok hok with ⟨pack, -, existing, -, rfl⟩ |
      ⟨entitled, pack, link, card, granted, userCard, hopened⟩
    · obtain ⟨shop, reward, heq⟩ := useEntitlement_eq db userId pack.id now
      rw [heq]
      exact .inl ⟨rfl, rfl⟩
    · obtain ⟨shop, reward, heq⟩ := useEntitlement_eq db userId pack.id now
      obtain ⟨openings, events, rfl⟩ := hopened.after
      refine hgranted hopened.grant ?_ ⟨rfl, rfl⟩
      rw [hopened.rightUsed, heq]
      exact ⟨rfl, rfl⟩
  | _ => exact absurd rfl ha

theorem CardDb.SerialsExact.step (hexact : db.SerialsExact) (a : CardAction) :
    (cardStep db a).SerialsExact := by
  rcases cardStep_serials db a with hsame | ⟨cardId, hnext⟩
  · exact hsame.exact hexact
  · exact hnext.exact hexact

omit [RecordHash Digest] in
theorem Genesis.serialsExact (h : Genesis db) : db.SerialsExact := by
  intro cardId
  simp [CardDb.serials, CardDb.issues, CardDb.grantsOf, CardDb.grants, h.userCards, h.ledger]

theorem cardsAfter_serialsExact (h : Genesis db) (acts : List CardAction) :
    (cardsAfter db acts).SerialsExact :=
  run_of_step h.serialsExact fun _ a hexact => hexact.step a

end Numbering

end Fanfolio
