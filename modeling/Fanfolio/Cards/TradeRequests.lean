import Fanfolio.Cards.Trade

/-!
# What a trade request does

For each request of the trade system, what it found when it succeeds and the database it
leaves behind.
-/

namespace Fanfolio

open Framework

section Requests

variable {Digest : Type} {db db' : CardDb Digest} {userId : UserId} {now : Time}
  {proposalId : ProposalId}

theorem findUserCard_some {userCardId : UserCardId} {row : UserCard}
    (h : db.findUserCard userCardId = some row) : row ∈ db.userCards ∧ row.id = userCardId :=
  ⟨List.mem_of_find?_eq_some h, by simpa using List.find?_some h⟩

theorem findProposal_some {proposal : TradeProposal}
    (h : db.findProposal proposalId = some proposal) :
    proposal ∈ db.proposals ∧ proposal.id = proposalId :=
  ⟨List.mem_of_find?_eq_some h, by simpa only [beq_iff_eq] using List.find?_some h⟩

theorem heldCard_some {userCardId : UserCardId} {pair : UserCard × Card}
    (h : db.heldCard userId userCardId = some pair) :
    pair.1 ∈ db.userCards ∧ pair.1.id = userCardId ∧ pair.1.userId = userId := by
  unfold CardDb.heldCard at h
  split at h
  · rename_i row hfind
    split at h
    · obtain ⟨card, -, rfl⟩ := Option.map_eq_some_iff.mp h
      obtain ⟨hmem, hid⟩ := findUserCard_some hfind
      exact ⟨hmem, hid, by assumption⟩
    · cases h
  · cases h

theorem loadTradeCards_ok {userCardIds : List UserCardId} {cards : List (UserCard × Card)}
    (h : loadTradeCards db userId userCardIds = .ok cards) :
    ∀ pair ∈ cards, pair.1 ∈ db.userCards ∧ pair.1.id ∈ userCardIds ∧ pair.1.userId = userId := by
  simp only [loadTradeCards, bind_ok, ensure_ok, exists_const, pure_ok] at h
  obtain ⟨-, -, rfl⟩ := h
  intro pair hpair
  obtain ⟨userCardId, hid, hheld⟩ := List.mem_filterMap.mp hpair
  obtain ⟨hmem, rfl, howner⟩ := heldCard_some hheld
  exact ⟨hmem, hid, howner⟩

theorem validateTradeCards_ok {cards : List (UserCard × Card)} {u : Unit}
    (h : validateTradeCards db cards = .ok u) :
    ∀ pair ∈ cards, db.isMaterial pair.1.id = false ∧ db.isLocked pair.1.id = false := by
  simp only [validateTradeCards, bind_ok, ensure_ok, exists_const, forEach_ok] at h
  intro pair hpair
  have hpairOk := h.2 pair hpair
  simp only [validateTradeCard, bind_ok, ensure_ok, exists_const] at hpairOk
  obtain ⟨-, -, -, -, hmaterial, hlocked⟩ := hpairOk
  exact ⟨hmaterial, hlocked⟩

/-- What a successful proposal found and did. -/
structure Proposed (db db' : CardDb Digest) (userId : UserId) (payload : TradeProposalCreate)
    (proposal : TradeProposal) (items : List TradeItem) : Prop where
  parties : proposal.proposerId = userId ∧ proposal.recipientId = payload.recipientUserId ∧
    userId ≠ payload.recipientUserId
  pending : proposal.status = .pending
  freshId : ∀ row ∈ db.proposals, row.id ≠ proposal.id
  itemsOf : ∀ item ∈ items, item.proposalId = proposal.id
  held : ∀ item ∈ items, ∃ row ∈ db.userCards, row.id = item.userCardId ∧
    row.userId = proposal.expectedOwner item
  free : ∀ item ∈ items, db.isMaterial item.userCardId = false
  locksUnique : ((db.locks ++ items.map TradeItem.lock).map (·.userCardId)).Nodup
  after : db' = { db with
    proposals := db.proposals ++ [proposal]
    items := db.items ++ items
    locks := db.locks ++ items.map TradeItem.lock }

theorem checkTrade_ok {payload : TradeProposalCreate} {offered requested : List (UserCard × Card)}
    (h : checkTrade db userId payload = .ok (offered, requested)) :
    userId ≠ payload.recipientUserId ∧
    (∀ pair ∈ offered, pair.1 ∈ db.userCards ∧ pair.1.userId = userId ∧
      db.isMaterial pair.1.id = false) ∧
    (∀ pair ∈ requested, pair.1 ∈ db.userCards ∧ pair.1.userId = payload.recipientUserId ∧
      db.isMaterial pair.1.id = false) := by
  simp only [checkTrade, bind_ok, orFail_ok, ensure_ok, exists_const] at h
  obtain ⟨hself, recipient, hrecipient, -, -, offered', hoffered, requested', hrequested, u, hvalid,
    hrest⟩ := h
  have hrecipientId : recipient.id = payload.recipientUserId := by
    simpa using List.find?_some hrecipient
  have hsplit : offered' = offered ∧ requested' = requested ∧
      (requested' ≠ [] → ∃ u, validateTradeCards db requested' = .ok u) := by
    split at hrest
    · simp only [bind_ok, pure_ok, Prod.mk.injEq] at hrest
      obtain ⟨u', hvalid', rfl, rfl⟩ := hrest
      exact ⟨rfl, rfl, fun _ => ⟨u', hvalid'⟩⟩
    · rename_i hempty
      obtain ⟨rfl, rfl⟩ := Prod.mk.inj (pure_ok.mp hrest)
      exact ⟨rfl, rfl, fun hne => absurd hne hempty⟩
  obtain ⟨rfl, rfl, hvalid'⟩ := hsplit
  refine ⟨Ne.symm hself, ?_, ?_⟩
  · intro pair hpair
    obtain ⟨hmem, -, howner⟩ := loadTradeCards_ok hoffered pair hpair
    exact ⟨hmem, howner, (validateTradeCards_ok hvalid pair hpair).1⟩
  · intro pair hpair
    obtain ⟨hmem, -, howner⟩ := loadTradeCards_ok hrequested pair hpair
    obtain ⟨u', hvalid'⟩ := hvalid' (List.ne_nil_of_mem hpair)
    exact ⟨hmem, howner.trans hrecipientId, (validateTradeCards_ok hvalid' pair hpair).1⟩

theorem createTrade_ok {payload : TradeProposalCreate} {proposal : TradeProposal}
    (h : createTrade db userId payload proposalId now = .ok (db', proposal)) :
    ∃ items, proposal.id = proposalId ∧ Proposed db db' userId payload proposal items := by
  simp only [createTrade, bind_ok, Prod.exists, ensure_ok, exists_const, pure_ok,
    Prod.mk.injEq] at h
  obtain ⟨offered, requested, hcheck, hfresh, hlocks, rfl, rfl⟩ := h
  obtain ⟨hself, hoffered, hrequested⟩ := checkTrade_ok hcheck
  have hmem : ∀ item ∈ newItems proposalId offered requested,
      (∃ pair ∈ offered, item = ⟨proposalId, pair.1.id, .offered⟩) ∨
        ∃ pair ∈ requested, item = ⟨proposalId, pair.1.id, .requested⟩ := by
    intro item hitem
    simpa only [newItems, List.mem_append, List.mem_map, eq_comm] using hitem
  refine ⟨newItems proposalId offered requested, rfl, ⟨rfl, rfl, hself⟩, rfl, hfresh, ?_, ?_, ?_,
    hlocks, rfl⟩
  · intro item hitem
    rcases hmem item hitem with ⟨pair, -, rfl⟩ | ⟨pair, -, rfl⟩ <;> rfl
  · intro item hitem
    rcases hmem item hitem with ⟨pair, hpair, rfl⟩ | ⟨pair, hpair, rfl⟩
    · exact ⟨pair.1, (hoffered pair hpair).1, rfl, (hoffered pair hpair).2.1⟩
    · exact ⟨pair.1, (hrequested pair hpair).1, rfl, (hrequested pair hpair).2.1⟩
  · intro item hitem
    rcases hmem item hitem with ⟨pair, hpair, rfl⟩ | ⟨pair, hpair, rfl⟩
    · exact (hoffered pair hpair).2.2
    · exact (hrequested pair hpair).2.2

/-- An expiry leaves the database alone, or closes the proposal as expired. -/
theorem expireTradeProposal_cases (db : CardDb Digest) (proposal : TradeProposal) (now : Time) :
    (expireTradeProposal db proposal now).1 = db ∨
      (expireTradeProposal db proposal now).1 = db.closeProposal proposal.id .expired now ∧
        proposal.status = .pending ∧ proposal.expiresAt ≤ now := by
  unfold expireTradeProposal
  split
  · exact .inl rfl
  · rename_i h
    simp only [not_or, not_not, not_lt] at h
    exact .inr ⟨rfl, h⟩

/-- What closings keep, the inbox keeps. -/
theorem expireAll_keeps {P : CardDb Digest → Prop} (hdb : P db)
    (hclose : ∀ db proposalId, P db → P (db.closeProposal proposalId .expired now))
    (proposals : List TradeProposal) : P (expireAll db now proposals) := by
  induction proposals generalizing db with
  | nil => exact hdb
  | cons proposal proposals ih =>
    show P (expireAll (expireTradeProposal db proposal now).1 now proposals)
    apply ih
    rcases expireTradeProposal_cases db proposal now with heq | ⟨heq, -⟩
    · rw [heq]
      exact hdb
    · rw [heq]
      exact hclose db proposal.id hdb

theorem findPendingProposal_ok {role : TradeParty} {proposal : TradeProposal} :
    findPendingProposal db proposalId userId role = .ok proposal ↔
      db.findProposal proposalId = some proposal ∧ proposal.userOf role = userId ∧
        proposal.status = .pending ∧ db.isHeld proposal.id = false := by
  simp only [findPendingProposal, bind_ok, orFail_ok, ensure_ok, exists_const, pure_ok]
  constructor
  · rintro ⟨_, hfind, huser, hstatus, hheld, rfl⟩
    exact ⟨hfind, huser, hstatus, hheld⟩
  · rintro ⟨hfind, huser, hstatus, hheld⟩
    exact ⟨proposal, hfind, huser, hstatus, hheld, rfl⟩

/-- Loading a pending proposal refuses, expires it, or finds it pending and unexpired. -/
theorem loadPendingProposal_cases (db : CardDb Digest) (proposalId : ProposalId) (userId : UserId)
    (role : TradeParty) (now : Time) :
    (∃ e, loadPendingProposal db proposalId userId role now = (db, .error e)) ∨
    (loadPendingProposal db proposalId userId role now =
        (db.closeProposal proposalId .expired now, .error tradeExpired) ∧
      ∃ proposal, findPendingProposal db proposalId userId role = .ok proposal) ∨
    ∃ proposal, loadPendingProposal db proposalId userId role now = (db, .ok proposal) ∧
      findPendingProposal db proposalId userId role = .ok proposal ∧ now < proposal.expiresAt := by
  unfold loadPendingProposal
  cases hfind : findPendingProposal db proposalId userId role with
  | error e => exact .inl ⟨e, rfl⟩
  | ok proposal =>
    obtain ⟨hfound, -, hpending, -⟩ := findPendingProposal_ok.mp hfind
    by_cases hexpired : proposal.expiresAt ≤ now
    · refine .inr (.inl ⟨?_, proposal, rfl⟩)
      simp [hexpired, expireTradeProposal, hpending, (findProposal_some hfound).2, not_lt.mpr hexpired]
    · refine .inr (.inr ⟨proposal, ?_, rfl, not_le.mp hexpired⟩)
      simp [hexpired]

/-- A rejection or cancellation refuses, expires the proposal, or closes it. -/
theorem rejectOrCancel_cases (db : CardDb Digest) (proposalId : ProposalId) (userId : UserId)
    (role : TradeParty) (status : ProposalStatus) (now : Time) :
    (rejectOrCancel db proposalId userId role status now).1 = db ∨
    (rejectOrCancel db proposalId userId role status now).1 =
      db.closeProposal proposalId .expired now ∨
    (rejectOrCancel db proposalId userId role status now).1 =
      db.closeProposal proposalId status now := by
  unfold rejectOrCancel
  rcases loadPendingProposal_cases db proposalId userId role now with
    ⟨e, heq⟩ | ⟨heq, -⟩ | ⟨proposal, heq, hfind, -⟩
  · rw [heq]
    exact .inl rfl
  · rw [heq]
    exact .inr (.inl rfl)
  · rw [heq]
    obtain ⟨hfound, -⟩ := findPendingProposal_ok.mp hfind
    simp [(findProposal_some hfound).2]

theorem holdTrade_ok {u : Unit} (h : holdTrade db proposalId = .ok (db', u)) :
    ∃ holds, db' = { db with holds := holds } := by
  simp only [holdTrade, bind_ok, orFail_ok, ensure_ok, exists_const, pure_ok, Prod.mk.injEq] at h
  obtain ⟨_, -, -, -, -, rfl, -⟩ := h
  exact ⟨_, rfl⟩

theorem releaseTrade_ok {u : Unit} (h : releaseTrade db proposalId now = .ok (db', u)) :
    ∃ holds, db' = { db with holds := holds } := by
  simp only [releaseTrade, bind_ok, ensure_ok, exists_const, pure_ok, Prod.mk.injEq] at h
  obtain ⟨-, rfl, -⟩ := h
  exact ⟨_, rfl⟩

end Requests

section Acceptance

variable {Digest : Type} [RecordHash Digest] {db db' : CardDb Digest} {proposal : TradeProposal}
  {now : Time} {draw : UserCardId → LedgerId}

/-- A card after the transfer loop: with its receiver if it is an item. -/
def TradeProposal.reassign (proposal : TradeProposal) (items : List TradeItem) (row : UserCard) :
    UserCard :=
  match items.find? (fun item => item.userCardId == row.id) with
  | some item => { row with userId := proposal.receiver item }
  | none => row

theorem reassign_nil (row : UserCard) : proposal.reassign [] row = row := rfl

omit [RecordHash Digest] in
theorem setOwner_ok {card : UserCard} {userId : UserId} : db.setOwner card userId = .ok db' ↔
    (∀ row ∈ db.userCards,
      row.id ≠ card.id → ¬row.sameOwnerAndCode { card with userId := userId }) ∧
    { db with userCards := patch (·.id == card.id) ({ · with userId := userId }) db.userCards }
      = db' := by
  simp only [CardDb.setOwner, bind_ok, ensure_ok, exists_const, pure_ok]

/-- Moving one item and then the others is moving them all. -/
theorem map_reassign_cons {item : TradeItem} {items : List TradeItem}
    (hnew : item.userCardId ∉ items.map (·.userCardId)) (rows : List UserCard) :
    (patch (·.id == item.userCardId) ({ · with userId := proposal.receiver item }) rows).map
      (proposal.reassign items) = rows.map (proposal.reassign (item :: items)) := by
  rw [patch, List.map_map]
  apply List.map_congr_left
  intro row _
  by_cases hrow : row.id = item.userCardId
  · have hnone : items.find? (fun item' => item'.userCardId == item.userCardId) = none := by
      rw [List.find?_eq_none]
      intro item' hitem' heq
      exact hnew (List.mem_map.mpr ⟨item', hitem', by simpa using heq⟩)
    simp [TradeProposal.reassign, hrow, hnone]
  · simp [TradeProposal.reassign, hrow, Ne.symm hrow]

/-- The transfer loop hands every item to its receiver and appends their ledger events. -/
theorem moveItems_ok {items : List TradeItem} (hnodup : (items.map (·.userCardId)).Nodup)
    (h : moveItems proposal draw now db items = .ok db') :
    ∃ rows, (∀ row ∈ rows, ∃ item ∈ items, row.action = "transfer" ∧
        row.sourceId = tradeSourceId proposal.id item.userCardId) ∧
      db' = { db with
        userCards := db.userCards.map (proposal.reassign items)
        ledger := db.ledger ++ rows } := by
  induction items generalizing db with
  | nil =>
    obtain rfl := Except.ok.inj h
    exact ⟨[], by simp, by simp [funext reassign_nil]⟩
  | cons item items ih =>
    rw [List.map_cons, List.nodup_cons] at hnodup
    simp only [moveItems, moveItem, bind_ok, orFail_ok, setOwner_ok, appendLedger_ok] at h
    obtain ⟨moved, ⟨card, hcard, owned, ⟨-, rfl⟩, -, -, rfl⟩, hrest⟩ := h
    obtain ⟨-, hid⟩ := findUserCard_some hcard
    obtain ⟨rows, hrows, rfl⟩ := ih hnodup.2 hrest
    refine ⟨ownershipRow db.ledger (transferEvent proposal item card now) (draw card.id) now :: rows,
      ?_, ?_⟩
    · rw [List.forall_mem_cons]
      refine ⟨⟨item, List.mem_cons_self, rfl, by rw [← hid]; rfl⟩, ?_⟩
      intro row hrow
      obtain ⟨item', hitem', hrow'⟩ := hrows row hrow
      exact ⟨item', List.mem_cons_of_mem _ hitem', hrow'⟩
    · simp only [List.append_assoc, List.cons_append, List.nil_append, hid,
        map_reassign_cons hnodup.1]

theorem moveItems_frame {items : List TradeItem}
    (h : moveItems proposal draw now db items = .ok db') :
    ∃ userCards ledger, db' = { db with userCards := userCards, ledger := ledger } := by
  induction items generalizing db with
  | nil =>
    obtain rfl := Except.ok.inj h
    exact ⟨_, _, rfl⟩
  | cons item items ih =>
    simp only [moveItems, moveItem, bind_ok, setOwner_ok, appendLedger_ok] at h
    obtain ⟨moved, ⟨card, -, owned, ⟨-, rfl⟩, -, -, rfl⟩, hrest⟩ := h
    obtain ⟨userCards, ledger, rfl⟩ := ih hrest
    exact ⟨userCards, ledger, rfl⟩

theorem acceptTradeOnce_frame {order : List TradeItem} {draws : AcceptDraws}
    {status : ProposalStatus}
    (h : acceptTradeOnce db proposal order draws now = .ok (db', status)) :
    ∃ userCards ledger events, db' = { ({ db with
        userCards := userCards, ledger := ledger } : CardDb Digest).closeProposal proposal.id
          .accepted now with events := events } := by
  simp only [acceptTradeOnce, bind_ok, Prod.exists, pure_ok, Prod.mk.injEq] at h
  obtain ⟨-, -, moved, hmoved, events, _, -, events', _, -, rfl, -⟩ := h
  obtain ⟨userCards, ledger, rfl⟩ := moveItems_frame hmoved
  exact ⟨userCards, ledger, events', rfl⟩

/-- A successful acceptance closes the proposal as accepted. -/
theorem acceptTradeOnce_closes {order : List TradeItem} {draws : AcceptDraws}
    {status : ProposalStatus}
    (h : acceptTradeOnce db proposal order draws now = .ok (db', status)) :
    db'.proposals = (db.closeProposal proposal.id .accepted now).proposals := by
  obtain ⟨userCards, ledger, events, rfl⟩ := acceptTradeOnce_frame h
  rfl

/-- What a successful acceptance found and did. -/
structure Accepted (db db' : CardDb Digest) (proposal : TradeProposal) (items : List TradeItem)
    (rows : List (CardOwnershipLedger Digest)) (now : Time) : Prop where
  itemsOf : items.Perm (db.items.filter fun row => row.proposalId = proposal.id)
  owners : ∀ item ∈ items, ∃ row ∈ db.userCards, row.id = item.userCardId ∧
    row.userId = proposal.expectedOwner item
  transfers : ∀ row ∈ rows, ∃ item ∈ items, row.action = "transfer" ∧
    row.sourceId = tradeSourceId proposal.id item.userCardId
  after : ∃ events, db' = { ({ db with
      userCards := db.userCards.map (proposal.reassign items)
      ledger := db.ledger ++ rows } : CardDb Digest).closeProposal proposal.id .accepted now with
    events := events }

theorem acceptTradeOnce_ok {order : List TradeItem} {draws : AcceptDraws}
    {status : ProposalStatus}
    (hnodup : ((db.items.filter fun row => row.proposalId = proposal.id).map
      (·.userCardId)).Nodup)
    (h : acceptTradeOnce db proposal order draws now = .ok (db', status)) :
    ∃ items rows, status = .accepted ∧ Accepted db db' proposal items rows now := by
  simp only [acceptTradeOnce, bind_ok, Prod.exists, pure_ok, Prod.mk.injEq, forEach_ok] at h
  obtain ⟨-, howners, moved, hmoved, events, _, -, events', _, -, rfl, rfl⟩ := h
  have hperm := scan_perm order (db.items.filter fun row => row.proposalId = proposal.id)
  obtain ⟨rows, hrows, rfl⟩ := moveItems_ok ((hperm.map _).nodup_iff.mpr hnodup) hmoved
  refine ⟨_, rows, rfl, hperm, ?_, hrows, ⟨events', rfl⟩⟩
  intro item hitem
  have hitemOk := howners item hitem
  simp only [checkOwner, bind_ok, orFail_ok, ensure_ok] at hitemOk
  obtain ⟨card, hcard, howner⟩ := hitemOk
  exact ⟨card, (findUserCard_some hcard).1, (findUserCard_some hcard).2, howner⟩

/-- An acceptance refuses, expires the proposal, or hands over its items. -/
theorem acceptTrade_cases (db : CardDb Digest) (proposalId : ProposalId) (userId : UserId)
    (order : List TradeItem) (draws : AcceptDraws) (now : Time) :
    ((acceptTrade db proposalId userId order draws now).1 = db ∧
      ∃ e, (acceptTrade db proposalId userId order draws now).2 = .error e) ∨
    ((acceptTrade db proposalId userId order draws now).1 =
        db.closeProposal proposalId .expired now ∧
      (acceptTrade db proposalId userId order draws now).2 = .error tradeExpired) ∨
    ∃ proposal status, findPendingProposal db proposalId userId .recipient = .ok proposal ∧
      (acceptTrade db proposalId userId order draws now).2 = .ok status ∧
      acceptTradeOnce db proposal order draws now =
        .ok ((acceptTrade db proposalId userId order draws now).1, status) := by
  unfold acceptTrade
  rcases loadPendingProposal_cases db proposalId userId .recipient now with
    ⟨e, heq⟩ | ⟨heq, -⟩ | ⟨proposal, heq, hfind, -⟩
  · rw [heq]
    exact .inl ⟨rfl, e, rfl⟩
  · rw [heq]
    exact .inr (.inl ⟨rfl, rfl⟩)
  · rw [heq]
    cases honce : acceptTradeOnce db proposal order draws now with
    | error e => exact .inl (by simp [honce, Except.mapError, transact])
    | ok result =>
      exact .inr (.inr ⟨proposal, result.2, hfind, by simp [honce, Except.mapError, transact]⟩)

end Acceptance

end Fanfolio
