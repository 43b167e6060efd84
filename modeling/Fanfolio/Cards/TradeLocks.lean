import Fanfolio.Cards.System

/-!
# Trades, locks and owners stay in step

The locks are the items of pending proposals at any time, and only an acceptance changes
owners.
-/

namespace Fanfolio

open Framework

/-- A proposal that is still open. -/
def IsPending (proposals : List TradeProposal) (proposalId : ProposalId) : Prop :=
  ∃ proposal ∈ proposals, proposal.id = proposalId ∧ proposal.status = .pending

instance (proposals : List TradeProposal) (proposalId : ProposalId) :
    Decidable (IsPending proposals proposalId) :=
  inferInstanceAs (Decidable (∃ proposal ∈ proposals, _))

/-- The invariant of the trade tables. -/
structure TradesConsistent (proposals : List TradeProposal) (items : List TradeItem)
    (locks : List TradeLock) : Prop where
  proposalIds : (proposals.map (·.id)).Nodup
  parties : ∀ proposal ∈ proposals, proposal.proposerId ≠ proposal.recipientId
  itemsProposed : ∀ item ∈ items, ∃ proposal ∈ proposals, proposal.id = item.proposalId
  itemsOnce : (items.map TradeItem.lock).Nodup
  lockCards : (locks.map (·.userCardId)).Nodup
  locked_iff : ∀ lock, lock ∈ locks ↔
    ∃ item ∈ items, item.lock = lock ∧ IsPending proposals item.proposalId

abbrev CardDb.TradesConsistent {Digest : Type} (db : CardDb Digest) : Prop :=
  Fanfolio.TradesConsistent db.proposals db.items db.locks

section Steps

variable {Digest : Type} {db db' : CardDb Digest}

theorem Genesis.tradesConsistent (h : Genesis db) : db.TradesConsistent := by
  refine ⟨?_, ?_, ?_, ?_, ?_, ?_⟩ <;>
    simp [h.proposals, h.items, h.locks]

theorem isPending_close {proposals : List TradeProposal} {proposalId proposalId' : ProposalId}
    {status : ProposalStatus} {now : Time} (hstatus : status ≠ .pending) :
    IsPending (patch (·.id == proposalId) ({ · with status := status, respondedAt := some now })
      proposals) proposalId' ↔ proposalId' ≠ proposalId ∧ IsPending proposals proposalId' := by
  constructor
  · rintro ⟨row, hmem, hid, hpending⟩
    obtain ⟨row', hmem', rfl⟩ := mem_patch.mp hmem
    by_cases hrow : row'.id = proposalId
    · simp [hrow, hstatus] at hpending
    · simp only [hrow, beq_iff_eq, if_false] at hid hpending
      exact ⟨fun heq => hrow (hid.trans heq), row', hmem', hid, hpending⟩
  · rintro ⟨hne, row, hmem, hid, hpending⟩
    have hrow : row.id ≠ proposalId := fun heq => hne (hid.symm.trans heq)
    exact ⟨row, mem_patch_of_not hmem (beq_eq_false_iff_ne.mpr hrow), hid, hpending⟩

/-- Closing a proposal releases exactly its locks. -/
theorem TradesConsistent.close (h : db.TradesConsistent) (proposalId : ProposalId)
    {status : ProposalStatus} (hstatus : status ≠ .pending) (now : Time) :
    (db.closeProposal proposalId status now).TradesConsistent := by
  refine ⟨?_, ?_, ?_, h.itemsOnce, nodup_delete _ h.lockCards, ?_⟩
  · show (List.map _ (patch _ _ db.proposals)).Nodup
    rw [map_patch (by intro _; rfl)]
    exact h.proposalIds
  · intro proposal hmem
    obtain ⟨row, hrow, rfl⟩ := mem_patch.mp hmem
    split <;> exact h.parties row hrow
  · intro item hitem
    obtain ⟨proposal, hmem, hid⟩ := h.itemsProposed item hitem
    refine ⟨_, mem_patch.mpr ⟨proposal, hmem, rfl⟩, ?_⟩
    split <;> exact hid
  · intro lock
    simp only [CardDb.closeProposal, List.mem_filter, h.locked_iff, isPending_close hstatus,
      decide_eq_true_eq]
    constructor
    · rintro ⟨⟨item, hitem, rfl, hpending⟩, hne⟩
      exact ⟨item, hitem, rfl, hne, hpending⟩
    · rintro ⟨item, hitem, rfl, hne, hpending⟩
      exact ⟨⟨item, hitem, rfl, hpending⟩, hne⟩

/-- A new proposal locks exactly its items. -/
theorem TradesConsistent.propose (h : db.TradesConsistent) {userId : UserId}
    {payload : TradeProposalCreate} {proposal : TradeProposal} {items : List TradeItem}
    (hnew : Proposed db db' userId payload proposal items) : db'.TradesConsistent := by
  obtain ⟨hproposer, hrecipient, hself⟩ := hnew.parties
  have hold : ∀ item ∈ db.items, item.proposalId ≠ proposal.id := by
    intro item hitem heq
    obtain ⟨row, hmem, hid⟩ := h.itemsProposed item hitem
    exact hnew.freshId row hmem (hid.trans heq)
  have hpending : ∀ proposalId, IsPending (db.proposals ++ [proposal]) proposalId ↔
      IsPending db.proposals proposalId ∨ proposalId = proposal.id := by
    intro proposalId
    simp [IsPending, List.mem_append, or_and_right, exists_or, hnew.pending, eq_comm]
  have hlocks : ((db.locks ++ items.map TradeItem.lock).map (·.userCardId)).Nodup :=
    hnew.locksUnique
  rw [hnew.after]
  refine ⟨nodup_insert h.proposalIds hnew.freshId, ?_, ?_, ?_, hlocks, ?_⟩
  · intro row hmem
    rcases List.mem_append.mp hmem with hmem | hmem
    · exact h.parties row hmem
    · rw [List.mem_singleton.mp hmem, hproposer, hrecipient]
      exact hself
  · intro item hitem
    rcases List.mem_append.mp hitem with hitem | hitem
    · obtain ⟨row, hmem, hid⟩ := h.itemsProposed item hitem
      exact ⟨row, List.mem_append_left _ hmem, hid⟩
    · exact ⟨proposal, by simp, (hnew.itemsOf item hitem).symm⟩
  · rw [List.map_append, List.nodup_append]
    refine ⟨h.itemsOnce, ?_, ?_⟩
    · rw [List.map_append, List.nodup_append, List.map_map] at hlocks
      exact List.Nodup.of_map (fun lock : TradeLock => lock.userCardId)
        (by rw [List.map_map]; exact hlocks.2.1)
    · intro lock hlock lock' hlock' heq
      obtain ⟨item, hitem, rfl⟩ := List.mem_map.mp hlock
      obtain ⟨item', hitem', rfl⟩ := List.mem_map.mp hlock'
      have hids := congrArg TradeLock.proposalId heq
      exact hold item hitem (hids.trans (hnew.itemsOf item' hitem'))
  · intro lock
    simp only [List.mem_append, h.locked_iff, List.mem_map, hpending]
    constructor
    · rintro (⟨item, hitem, rfl, hp⟩ | ⟨item, hitem, rfl⟩)
      · exact ⟨item, .inl hitem, rfl, .inl hp⟩
      · exact ⟨item, .inr hitem, rfl, .inr (hnew.itemsOf item hitem)⟩
    · rintro ⟨item, hitem | hitem, rfl, hp⟩
      · rcases hp with hp | hp
        · exact .inl ⟨item, hitem, rfl, hp⟩
        · exact absurd hp (hold item hitem)
      · exact .inr ⟨item, hitem, rfl⟩

/-- The cards of one proposal are listed once. -/
theorem TradesConsistent.itemCards (h : db.TradesConsistent) (proposalId : ProposalId) :
    ((db.items.filter fun row => row.proposalId = proposalId).map (·.userCardId)).Nodup := by
  have hlocks := nodup_delete (fun row : TradeItem => row.proposalId = proposalId) h.itemsOnce
  rw [List.Nodup, List.pairwise_map] at hlocks ⊢
  refine hlocks.imp_of_mem ?_
  intro item item' hitem hitem' hne heq
  apply hne
  have hid : item.proposalId = item'.proposalId := by
    simp only [List.mem_filter, decide_eq_true_eq] at hitem hitem'
    rw [hitem.2, hitem'.2]
  simp only [TradeItem.lock, hid, heq]

/-- A card is locked by one proposal only. -/
theorem TradesConsistent.onePending (h : db.TradesConsistent) {item item' : TradeItem}
    (hitem : item ∈ db.items) (hitem' : item' ∈ db.items)
    (hcard : item.userCardId = item'.userCardId) (hpending : IsPending db.proposals item.proposalId)
    (hpending' : IsPending db.proposals item'.proposalId) : item.proposalId = item'.proposalId := by
  have hlock := (h.locked_iff item.lock).mpr ⟨item, hitem, rfl, hpending⟩
  have hlock' := (h.locked_iff item'.lock).mpr ⟨item', hitem', rfl, hpending'⟩
  exact congrArg TradeLock.proposalId (eq_of_unique h.lockCards hlock hlock' hcard)

variable [RecordHash Digest]

omit [RecordHash Digest] in
theorem Accepted.tradesConsistent {proposal : TradeProposal} {items : List TradeItem}
    {rows : List (CardOwnershipLedger Digest)} {now : Time}
    (hacc : Accepted db db' proposal items rows now) (h : db.TradesConsistent) :
    db'.TradesConsistent := by
  obtain ⟨events, heq⟩ := hacc.after
  rw [heq]
  exact h.close proposal.id (by decide) now

omit [RecordHash Digest] in
theorem TradesConsistent.effect (h : db.TradesConsistent) (heffect : CardEffect db db') :
    db'.TradesConsistent := by
  cases heffect with
  | copied hcopy =>
    rw [CardDb.TradesConsistent, hcopy.proposals, hcopy.items, hcopy.locks]
    exact h
  | proposed hnew => exact h.propose hnew
  | closed proposalId now hstatus => exact h.close proposalId hstatus now

theorem TradesConsistent.step (h : db.TradesConsistent) (a : CardAction) :
    (cardStep db a).TradesConsistent := by
  refine cardStep_keeps h (fun _ _ => .effect) a (fun _ _ _ _ _ => h) ?_
  intro proposal order draws now status _ _ _ hok
  obtain ⟨_, _, -, hacc⟩ := acceptTradeOnce_ok (h.itemCards proposal.id) hok
  exact hacc.tradesConsistent h

theorem cardsAfter_tradesConsistent (h : Genesis db) (acts : List CardAction) :
    (cardsAfter db acts).TradesConsistent :=
  run_of_step h.tradesConsistent fun _ a hdb => hdb.step a

end Steps

section Copies

variable {Digest : Type} {db db' : CardDb Digest}

/-- Every copy has one row, and no fan holds two copies from one code. -/
structure CopiesUnique (rows : List UserCard) : Prop where
  ids : (rows.map (·.id)).Nodup
  codes : rows.Pairwise fun row row' => ¬row.sameOwnerAndCode row'

theorem sameOwnerAndCode_symm {row row' : UserCard} (h : row.sameOwnerAndCode row') :
    row'.sameOwnerAndCode row := by
  obtain ⟨howner, hsome, hcode⟩ := h
  exact ⟨howner.symm, by rw [← hcode]; exact hsome, hcode.symm⟩

theorem CopiesUnique.nil : CopiesUnique [] := ⟨by simp, List.Pairwise.nil⟩

theorem CopiesUnique.adds {rows rows' : List UserCard} (h : CopiesUnique rows)
    (hadds : AddsCopy rows rows') : CopiesUnique rows' := by
  rcases hadds with rfl | ⟨userCard, rfl, hid, hcode⟩
  · exact h
  · refine ⟨nodup_insert h.ids hid, ?_⟩
    rw [List.pairwise_append]
    refine ⟨h.codes, List.pairwise_singleton _ _, ?_⟩
    intro row hrow row' hrow'
    rw [List.mem_singleton.mp hrow']
    exact hcode row hrow

theorem CopiesUnique.setOwner {card : UserCard} {userId : UserId} (h : CopiesUnique db.userCards)
    (hcard : card ∈ db.userCards) (hok : db.setOwner card userId = .ok db') :
    CopiesUnique db'.userCards := by
  obtain ⟨hfree, rfl⟩ := setOwner_ok.mp hok
  refine ⟨?_, ?_⟩
  · show (List.map _ (patch _ _ db.userCards)).Nodup
    rw [map_patch (by intro _; rfl)]
    exact h.ids
  · show (patch _ _ db.userCards).Pairwise _
    rw [patch, List.pairwise_map]
    have hids := List.pairwise_map.mp h.ids
    refine (hids.and h.codes).imp_of_mem ?_
    rintro row row' hrow hrow' ⟨hne, hcode⟩
    by_cases hid : row.id = card.id
    · have hid' : row'.id ≠ card.id := fun heq => hne (hid.trans heq.symm)
      obtain rfl := eq_of_unique h.ids hrow hcard hid
      simpa [hid'] using fun hsame => hfree row' hrow' hid' (sameOwnerAndCode_symm hsame)
    · by_cases hid' : row'.id = card.id
      · obtain rfl := eq_of_unique h.ids hrow' hcard hid'
        simpa [hid] using hfree row hrow hid
      · simpa [hid, hid'] using hcode

variable [RecordHash Digest]

theorem CopiesUnique.moveItems {proposal : TradeProposal} {draw : UserCardId → LedgerId}
    {now : Time} {items : List TradeItem} (h : CopiesUnique db.userCards)
    (hok : moveItems proposal draw now db items = .ok db') : CopiesUnique db'.userCards := by
  induction items generalizing db with
  | nil =>
    obtain rfl := Except.ok.inj hok
    exact h
  | cons item items ih =>
    simp only [Fanfolio.moveItems, moveItem, bind_ok, orFail_ok, appendLedger_ok] at hok
    obtain ⟨moved, ⟨card, hcard, owned, howned, -, -, rfl⟩, hrest⟩ := hok
    have howned' := h.setOwner (findUserCard_some hcard).1 howned
    refine ih ?_ hrest
    exact howned'

omit [RecordHash Digest] in
theorem CopiesUnique.effect (h : CopiesUnique db.userCards) (heffect : CardEffect db db') :
    CopiesUnique db'.userCards := by
  cases heffect with
  | copied hcopy => exact h.adds hcopy.adds
  | proposed hnew =>
    rw [hnew.after]
    exact h
  | closed proposalId now hstatus => exact h

theorem CopiesUnique.accept {proposal : TradeProposal} {order : List TradeItem}
    {draws : AcceptDraws} {now : Time} {status : ProposalStatus} (h : CopiesUnique db.userCards)
    (hok : acceptTradeOnce db proposal order draws now = .ok (db', status)) :
    CopiesUnique db'.userCards := by
  simp only [acceptTradeOnce, bind_ok, Prod.exists, pure_ok, Prod.mk.injEq] at hok
  obtain ⟨-, -, moved, hmoved, _, _, -, _, _, -, rfl, -⟩ := hok
  have hunique := h.moveItems hmoved
  exact hunique

theorem CopiesUnique.step (h : CopiesUnique db.userCards) (a : CardAction) :
    CopiesUnique (cardStep db a).userCards :=
  cardStep_keeps (P := fun db => CopiesUnique db.userCards) h (fun _ _ => .effect) a
    (fun _ _ _ _ _ => h) fun _ _ _ _ _ _ _ _ hok => h.accept hok

theorem cardsAfter_copiesUnique (h : Genesis db) (acts : List CardAction) :
    CopiesUnique (cardsAfter db acts).userCards :=
  run_of_step (I := fun db : CardDb Digest => CopiesUnique db.userCards)
    (by rw [h.userCards]; exact .nil) fun _ a hdb => hdb.step a

end Copies

section Owners

variable {Digest : Type} {db db' : CardDb Digest}

def CardDb.ownerOf (db : CardDb Digest) (userCardId : UserCardId) : Option UserId :=
  (db.findUserCard userCardId).map (·.userId)

theorem CopiesUnique.find {row : UserCard} (h : CopiesUnique db.userCards)
    (hrow : row ∈ db.userCards) : db.findUserCard row.id = some row :=
  find_of_mem h.ids hrow

theorem CopiesUnique.ownerOf {row : UserCard} (h : CopiesUnique db.userCards)
    (hrow : row ∈ db.userCards) : db.ownerOf row.id = some row.userId := by
  rw [CardDb.ownerOf, h.find hrow]
  rfl

theorem findUserCard_reassign (proposal : TradeProposal) (items : List TradeItem)
    (rows : List UserCard) (userCardId : UserCardId) :
    (rows.map (proposal.reassign items)).find? (fun row => row.id == userCardId) =
      (rows.find? fun row => row.id == userCardId).map (proposal.reassign items) := by
  rw [List.find?_map]
  congr 2
  funext row
  simp only [Function.comp_apply, TradeProposal.reassign]
  split <;> rfl

/-- An acceptance hands every item to the other side, and no other card to anyone. -/
theorem Accepted.ownerOf {proposal : TradeProposal} {items : List TradeItem}
    {rows : List (CardOwnershipLedger Digest)} {now : Time} {row : UserCard}
    (hacc : Accepted db db' proposal items rows now) (h : CopiesUnique db.userCards)
    (hrow : row ∈ db.userCards) :
    db'.ownerOf row.id = some (proposal.reassign items row).userId := by
  obtain ⟨events, heq⟩ := hacc.after
  have hfind := h.find hrow
  rw [CardDb.findUserCard] at hfind
  rw [heq, CardDb.ownerOf, CardDb.findUserCard]
  show Option.map _ ((db.userCards.map (proposal.reassign items)).find? _) = _
  rw [findUserCard_reassign, hfind]
  rfl

theorem reassign_item {proposal : TradeProposal} {items : List TradeItem} {item : TradeItem}
    {row : UserCard} (hnodup : (items.map (·.userCardId)).Nodup) (hitem : item ∈ items)
    (hid : item.userCardId = row.id) :
    proposal.reassign items row = { row with userId := proposal.receiver item } := by
  have hfind := find_of_mem hnodup hitem
  simp only [hid] at hfind
  rw [TradeProposal.reassign, hfind]

theorem reassign_other {proposal : TradeProposal} {items : List TradeItem} {row : UserCard}
    (hnot : ∀ item ∈ items, item.userCardId ≠ row.id) : proposal.reassign items row = row := by
  have hfind : items.find? (fun item => item.userCardId == row.id) = none := by
    rw [List.find?_eq_none]
    simpa using hnot
  rw [TradeProposal.reassign, hfind]

variable [RecordHash Digest]

/-- The owners after an acceptance, by the items of the proposal. -/
theorem acceptTrade_owners (htrades : db.TradesConsistent) (hcopies : CopiesUnique db.userCards)
    {a : CardAction} {proposal : TradeProposal} (ha : acceptedProposal db a = some proposal)
    {row : UserCard} (hrow : row ∈ db.userCards) :
    (⟨proposal.id, row.id, .offered⟩ ∈ db.items →
      (cardStep db a).ownerOf row.id = some proposal.recipientId) ∧
    (⟨proposal.id, row.id, .requested⟩ ∈ db.items →
      (cardStep db a).ownerOf row.id = some proposal.proposerId) ∧
    ((∀ side, ⟨proposal.id, row.id, side⟩ ∉ db.items) →
      (cardStep db a).ownerOf row.id = some row.userId) := by
  cases a with
  | acceptTrade proposalId userId order draws now =>
    rw [acceptedProposal] at ha
    rcases acceptTrade_cases db proposalId userId order draws now with
      ⟨-, e, he⟩ | ⟨-, he⟩ | ⟨proposal', status, hfind, hstatus, hok⟩
    · rw [he] at ha
      cases ha
    · rw [he] at ha
      cases ha
    · rw [hstatus] at ha
      obtain ⟨hfound, -⟩ := findPendingProposal_ok.mp hfind
      obtain rfl := Option.some.inj (ha.symm.trans hfound)
      have hitems := htrades.itemCards proposal.id
      obtain ⟨items, rows, -, hacc⟩ := acceptTradeOnce_ok hitems hok
      have hmem : ∀ side, ⟨proposal.id, row.id, side⟩ ∈ items ↔
          ⟨proposal.id, row.id, side⟩ ∈ db.items := by
        intro side
        rw [hacc.itemsOf.mem_iff]
        simp
      have hnodup := (hacc.itemsOf.map (·.userCardId)).nodup_iff.mpr hitems
      simp only [cardStep, hacc.ownerOf hcopies hrow]
      refine ⟨?_, ?_, ?_⟩
      · intro hitem
        rw [reassign_item hnodup ((hmem _).mpr hitem) rfl]
        rfl
      · intro hitem
        rw [reassign_item hnodup ((hmem _).mpr hitem) rfl]
        rfl
      · intro hnot
        rw [reassign_other]
        intro item hitem hid
        apply hnot item.side
        rw [← hmem, ← hid]
        have hof := (hacc.itemsOf.mem_iff.mp hitem)
        simp only [List.mem_filter, decide_eq_true_eq] at hof
        rw [← hof.2]
        exact hitem
  | _ => cases ha

omit [RecordHash Digest] in
theorem mem_userCards_effect (heffect : CardEffect db db') {row : UserCard}
    (hrow : row ∈ db.userCards) : row ∈ db'.userCards := by
  cases heffect with
  | copied hcopy =>
    rcases hcopy.adds with heq | ⟨userCard, heq, -⟩
    · rw [heq]
      exact hrow
    · rw [heq]
      exact List.mem_append_left _ hrow
  | proposed hnew =>
    rw [hnew.after]
    exact hrow
  | closed => exact hrow

/-- Every request other than a successful acceptance leaves all owners alone. -/
theorem otherRequest_owners (hcopies : CopiesUnique db.userCards) {a : CardAction}
    (ha : acceptedProposal db a = none) {row : UserCard} (hrow : row ∈ db.userCards) :
    (cardStep db a).ownerOf row.id = some row.userId := by
  have hkept : CopiesUnique (cardStep db a).userCards ∧ row ∈ (cardStep db a).userCards := by
    refine cardStep_keeps (P := fun db => CopiesUnique db.userCards ∧ row ∈ db.userCards)
      ⟨hcopies, hrow⟩ ?_ a (fun _ _ _ _ _ => ⟨hcopies, hrow⟩) ?_
    · intro db db' hdb heffect
      exact ⟨hdb.1.effect heffect, mem_userCards_effect heffect hdb.2⟩
    · intro proposal order draws now status hsome
      rw [ha] at hsome
      cases hsome
  exact hkept.1.ownerOf hkept.2

/-- After any requests the locks are the items of the pending proposals, a card is in at most
one of them and has one owner, and the next request changes owners only by an acceptance. -/
theorem trades_inStep (h : Genesis db) (acts : List CardAction) :
    (∀ lock, lock ∈ (cardsAfter db acts).locks ↔ ∃ item ∈ (cardsAfter db acts).items,
      item.lock = lock ∧ IsPending (cardsAfter db acts).proposals item.proposalId) ∧
    (cardsAfter db acts).locks.Nodup ∧
    (∀ item ∈ (cardsAfter db acts).items, ∀ item' ∈ (cardsAfter db acts).items,
      item.userCardId = item'.userCardId →
      IsPending (cardsAfter db acts).proposals item.proposalId →
      IsPending (cardsAfter db acts).proposals item'.proposalId →
      item.proposalId = item'.proposalId) ∧
    ((cardsAfter db acts).userCards.map (·.id)).Nodup ∧
    (∀ a proposal, acceptedProposal (cardsAfter db acts) a = some proposal →
      ∀ row ∈ (cardsAfter db acts).userCards,
        (⟨proposal.id, row.id, .offered⟩ ∈ (cardsAfter db acts).items →
          (cardStep (cardsAfter db acts) a).ownerOf row.id = some proposal.recipientId) ∧
        (⟨proposal.id, row.id, .requested⟩ ∈ (cardsAfter db acts).items →
          (cardStep (cardsAfter db acts) a).ownerOf row.id = some proposal.proposerId) ∧
        ((∀ side, ⟨proposal.id, row.id, side⟩ ∉ (cardsAfter db acts).items) →
          (cardStep (cardsAfter db acts) a).ownerOf row.id = some row.userId)) ∧
    (∀ a, acceptedProposal (cardsAfter db acts) a = none →
      ∀ row ∈ (cardsAfter db acts).userCards,
        (cardStep (cardsAfter db acts) a).ownerOf row.id = some row.userId) := by
  have htrades := cardsAfter_tradesConsistent h acts
  have hcopies := cardsAfter_copiesUnique h acts
  refine ⟨htrades.locked_iff, htrades.lockCards.of_map _, ?_, hcopies.ids, ?_, ?_⟩
  · intro item hitem item' hitem' hcard hpending hpending'
    exact htrades.onePending hitem hitem' hcard hpending hpending'
  · intro a proposal ha row hrow
    exact acceptTrade_owners htrades hcopies ha hrow
  · intro a ha row hrow
    exact otherRequest_owners hcopies ha hrow

end Owners

def tradeId : ProposalId := ⟨"trade", by decide⟩

/-- An offer of one card for none. -/
def oneCardOffer : TradeProposalCreate := ⟨"fan_b", ["uc_a"], [], by decide, by decide⟩

/-- One fan offers the other a redeemed card. -/
def offeredCard : List CardAction :=
  [.redeem "fan_a" "CODE" "redeem_code" ⟨⟨"uc_a", "ledger_a"⟩, "evt_a"⟩ 1,
   .createTrade "fan_a" oneCardOffer tradeId 2]

theorem trades_inStep_offeredCard : ∃ item ∈ (cardsAfter smallCatalogue offeredCard).items,
    item.lock = ⟨⟨"trade", by decide⟩, "uc_a"⟩ ∧
      IsPending (cardsAfter smallCatalogue offeredCard).proposals item.proposalId :=
  ((trades_inStep genesis_smallCatalogue offeredCard).1 ⟨⟨"trade", by decide⟩, "uc_a"⟩).mp
    (by decide)

end Fanfolio
