import Fanfolio.Cards.TradeLocks

/-!
# When an acceptance succeeds

The transfer loop writes one owner at a time, and each write checks that the receiver holds
no other card from the same redeem code. An acceptance in order therefore succeeds exactly
when no item meets such a card on the side it goes to.
-/

namespace Fanfolio

open Framework

/-- Two texts with a separator agree if the parts before and after its first place do. -/
theorem split_at_separator {α : Type} {a : α} {xs xs' ys ys' : List α} (h : a ∉ xs) (h' : a ∉ xs')
    (heq : xs ++ a :: ys = xs' ++ a :: ys') : xs = xs' ∧ ys = ys' := by
  induction xs generalizing xs' with
  | nil =>
    cases xs' with
    | nil => exact ⟨rfl, (List.cons.inj heq).2⟩
    | cons b xs' =>
      have hb := (List.cons.inj heq).1
      simp [← hb] at h'
  | cons b xs ih =>
    cases xs' with
    | nil =>
      have hb := (List.cons.inj heq).1
      simp [hb] at h
    | cons b' xs' =>
      obtain ⟨rfl, hrest⟩ := List.cons.inj heq
      obtain ⟨rfl, rfl⟩ := ih (fun hmem => h (List.mem_cons_of_mem _ hmem))
        (fun hmem => h' (List.mem_cons_of_mem _ hmem)) hrest
      exact ⟨rfl, rfl⟩

/-- The source of a transfer names its proposal and its card. -/
theorem tradeSourceId_inj {proposalId proposalId' : ProposalId}
    {userCardId userCardId' : UserCardId}
    (h : tradeSourceId proposalId userCardId = tradeSourceId proposalId' userCardId') :
    proposalId = proposalId' ∧ userCardId = userCardId' := by
  have hlist := congrArg String.toList h
  simp only [tradeSourceId, String.toList_append, List.append_assoc] at hlist
  obtain ⟨hproposal, hcard⟩ := split_at_separator proposalId.property proposalId'.property hlist
  exact ⟨Subtype.ext (String.toList_inj.mp hproposal), String.toList_inj.mp hcard⟩

section Transfers

variable {Digest : Type} {db db' : CardDb Digest}

/-- Transfers are recorded for proposals that are no longer pending. -/
def TransfersSettled (db : CardDb Digest) : Prop :=
  ∀ row ∈ db.ledger, row.action = "transfer" → ∃ proposal ∈ db.proposals,
    proposal.status ≠ .pending ∧ ∃ userCardId, row.sourceId = tradeSourceId proposal.id userCardId

theorem TransfersSettled.close (h : TransfersSettled db) (proposalId : ProposalId)
    {status : ProposalStatus} (hstatus : status ≠ .pending) (now : Time) :
    TransfersSettled (db.closeProposal proposalId status now) := by
  intro row hrow haction
  obtain ⟨proposal, hmem, hsettled, hsource⟩ := h row hrow haction
  refine ⟨_, mem_patch.mpr ⟨proposal, hmem, rfl⟩, ?_, ?_⟩
  · split
    · exact hstatus
    · exact hsettled
  · split <;> exact hsource

theorem TransfersSettled.record (h : TransfersSettled db)
    {rows : List (CardOwnershipLedger Digest)} (hrows : ∀ row ∈ rows, row.action ≠ "transfer")
    (hledger : db'.ledger = db.ledger ++ rows) (hproposals : db'.proposals = db.proposals) :
    TransfersSettled db' := by
  intro row hrow haction
  rw [hledger] at hrow
  rcases List.mem_append.mp hrow with hrow | hrow
  · rw [hproposals]
    exact h row hrow haction
  · exact absurd haction (hrows row hrow)

theorem TransfersSettled.effect (h : TransfersSettled db) (heffect : CardEffect db db') :
    TransfersSettled db' := by
  cases heffect with
  | copied hcopy =>
    obtain ⟨rows, hrows, hledger⟩ := hcopy.records
    refine h.record ?_ hledger hcopy.proposals
    intro row hrow
    rw [hrows row hrow]
    decide
  | proposed hnew =>
    rw [hnew.after]
    intro row hrow haction
    obtain ⟨proposal, hmem, hsettled⟩ := h row hrow haction
    exact ⟨proposal, List.mem_append_left _ hmem, hsettled⟩
  | closed proposalId now hstatus => exact h.close proposalId hstatus now

variable [RecordHash Digest]

theorem TransfersSettled.step (h : TransfersSettled db) (htrades : db.TradesConsistent)
    (a : CardAction) : TransfersSettled (cardStep db a) := by
  refine cardStep_keeps h (fun _ _ => .effect) a ?_ ?_
  · intro combinations materials rows _ hrows
    refine h.record ?_ rfl rfl
    intro row hrow
    rw [hrows row hrow]
    decide
  · intro proposal order draws now status _ hmem hpending hok
    obtain ⟨_, rows, -, hacc⟩ := acceptTradeOnce_ok (htrades.itemCards proposal.id) hok
    obtain ⟨events, heq⟩ := hacc.after
    rw [heq]
    intro row hrow haction
    rcases List.mem_append.mp hrow with hrow | hrow
    · exact h.close proposal.id (by decide) now row hrow haction
    · obtain ⟨item, -, -, hsource⟩ := hacc.transfers row hrow
      refine ⟨_, mem_patch.mpr ⟨proposal, hmem, rfl⟩, ?_, item.userCardId, ?_⟩
      · simp
      · simp [hsource]

theorem cardsAfter_transfersSettled (h : Genesis db) (acts : List CardAction) :
    TransfersSettled (cardsAfter db acts) := by
  have hinv : (cardsAfter db acts).TradesConsistent ∧ TransfersSettled (cardsAfter db acts) := by
    refine run_of_step (I := fun db : CardDb Digest => db.TradesConsistent ∧ TransfersSettled db)
      ⟨h.tradesConsistent, by simp [TransfersSettled, h.ledger]⟩ ?_
    intro db a hdb
    exact ⟨hdb.1.step a, hdb.2.step hdb.1 a⟩
  exact hinv.2

end Transfers

section Loop

variable {Digest : Type} [RecordHash Digest] {db db' : CardDb Digest} {proposal : TradeProposal}
  {draw : UserCardId → LedgerId} {now : Time} {item : TradeItem} {items : List TradeItem}

/-- The item can be given to its receiver, who holds no other card from its code. -/
def Deliverable (db : CardDb Digest) (proposal : TradeProposal) (item : TradeItem) : Prop :=
  ∀ card ∈ db.userCards, card.id = item.userCardId → ∀ other ∈ db.userCards, other.id ≠ card.id →
    ¬other.sameOwnerAndCode { card with userId := proposal.receiver item }

instance (item : TradeItem) : Decidable (Deliverable db proposal item) :=
  inferInstanceAs (Decidable (∀ card ∈ db.userCards, _))

/-- The state between two turns of the transfer loop, with the items still to move. -/
structure Moving (db : CardDb Digest) (proposal : TradeProposal) (draw : UserCardId → LedgerId)
    (items : List TradeItem) : Prop where
  copies : CopiesUnique db.userCards
  parties : proposal.proposerId ≠ proposal.recipientId
  itemCards : (items.map (·.userCardId)).Nodup
  held : ∀ item ∈ items, ∃ card ∈ db.userCards, card.id = item.userCardId ∧
    card.userId = proposal.expectedOwner item
  freshIds : ∀ item ∈ items, ∀ row ∈ db.ledger, row.id ≠ draw item.userCardId
  distinctIds : (items.map fun item => draw item.userCardId).Nodup
  freshSources : ∀ item ∈ items, ∀ row ∈ db.ledger, row.action = "transfer" →
    row.sourceId ≠ tradeSourceId proposal.id item.userCardId

/-- Two items with one receiver come from one owner. -/
theorem expectedOwner_of_receiver (hparties : proposal.proposerId ≠ proposal.recipientId)
    {item item' : TradeItem} (h : proposal.receiver item = proposal.receiver item') :
    proposal.expectedOwner item = proposal.expectedOwner item' := by
  unfold TradeProposal.receiver at h
  unfold TradeProposal.expectedOwner
  cases hside : item.side <;> cases hside' : item'.side <;> simp_all [eq_comm]

/-- If an item goes to the owner of another, that one goes to the owner of the first. -/
theorem receiver_of_expectedOwner (hparties : proposal.proposerId ≠ proposal.recipientId)
    {item item' : TradeItem} (h : proposal.receiver item' = proposal.expectedOwner item) :
    proposal.receiver item = proposal.expectedOwner item' := by
  unfold TradeProposal.receiver TradeProposal.expectedOwner at *
  cases hside : item.side <;> cases hside' : item'.side <;> simp_all [eq_comm]

/-- What one turn of the loop writes. -/
structure ItemMoved (db db' : CardDb Digest) (proposal : TradeProposal) (item : TradeItem)
    (card : UserCard) (row : CardOwnershipLedger Digest) : Prop where
  cards : db'.userCards =
    patch (·.id == card.id) ({ · with userId := proposal.receiver item }) db.userCards
  ledger : db'.ledger = db.ledger ++ [row]
  source : row.sourceId = tradeSourceId proposal.id item.userCardId

theorem Moving.moveItem_iff (h : Moving db proposal draw (item :: items)) (now : Time) :
    ∃ card row, card ∈ db.userCards ∧ card.id = item.userCardId ∧
      card.userId = proposal.expectedOwner item ∧ row.id = draw item.userCardId ∧
      ∃ moved, ItemMoved db moved proposal item card row ∧
        ∀ db', moveItem proposal draw now db item = .ok db' ↔
          Deliverable db proposal item ∧ moved = db' := by
  obtain ⟨card, hcard, hid, howner⟩ := h.held item List.mem_cons_self
  have hfind : db.findUserCard item.userCardId = some card := by
    rw [← hid]
    exact h.copies.find hcard
  refine ⟨card, ownershipRow db.ledger (transferEvent proposal item card now) (draw card.id) now,
    hcard, hid, howner, by rw [← hid]; rfl, { db with
      userCards := patch (·.id == card.id) ({ · with userId := proposal.receiver item }) db.userCards
      ledger := db.ledger ++
        [ownershipRow db.ledger (transferEvent proposal item card now) (draw card.id) now] },
    ⟨rfl, rfl, by rw [← hid]; rfl⟩, ?_⟩
  intro db'
  simp only [moveItem, bind_ok, orFail_ok, hfind, Option.some.injEq, exists_eq_left',
    setOwner_ok, appendLedger_ok]
  constructor
  · rintro ⟨owned, ⟨hfree, rfl⟩, -, -, rfl⟩
    refine ⟨?_, rfl⟩
    intro card' hcard' hid' other hother hne
    obtain rfl := eq_of_unique h.copies.ids hcard' hcard (hid'.trans hid.symm)
    exact hfree other hother hne
  · rintro ⟨hdeliver, rfl⟩
    refine ⟨_, ⟨fun other hother hne => hdeliver card hcard hid other hother hne, rfl⟩, ?_, ?_, rfl⟩
    · intro row hrow
      rw [hid]
      exact h.freshIds item List.mem_cons_self row hrow
    · intro row hrow
      rw [Bool.eq_false_iff]
      intro hsame
      simp only [CardOwnershipLedger.sameEvent, Bool.and_eq_true, beq_iff_eq] at hsame
      refine h.freshSources item List.mem_cons_self row hrow hsame.1.1.2.symm ?_
      rw [← hsame.2, ← hid]
      rfl

omit [RecordHash Digest] in
theorem CopiesUnique.freeOf {rows : List UserCard} (h : CopiesUnique rows) {row row' : UserCard}
    (hrow : row ∈ rows) (hrow' : row' ∈ rows) (hne : row.id ≠ row'.id) :
    ¬row.sameOwnerAndCode row' := by
  have : Std.Symm fun row row' : UserCard => ¬row.sameOwnerAndCode row' :=
    ⟨fun _ _ hnot hsame => hnot (sameOwnerAndCode_symm hsame)⟩
  exact h.codes.forall hrow hrow' fun heq => hne (congrArg UserCard.id heq)

omit [RecordHash Digest] in
/-- After a turn a row is the moved card or one of the others. -/
theorem ItemMoved.mem_iff {card : UserCard} {row : CardOwnershipLedger Digest}
    (h : ItemMoved db db' proposal item card row) (hcopies : CopiesUnique db.userCards)
    (hcard : card ∈ db.userCards) (userCard : UserCard) :
    userCard ∈ db'.userCards ↔ userCard = { card with userId := proposal.receiver item } ∨
      userCard ∈ db.userCards ∧ userCard.id ≠ card.id := by
  rw [h.cards, mem_patch]
  constructor
  · rintro ⟨row', hrow', rfl⟩
    by_cases hid : row'.id = card.id
    · obtain rfl := eq_of_unique hcopies.ids hrow' hcard hid
      exact .inl (by simp)
    · refine .inr ?_
      simpa [hid] using hrow'
  · rintro (rfl | ⟨hmem, hid⟩)
    · exact ⟨card, hcard, by simp⟩
    · exact ⟨userCard, hmem, by simp [hid]⟩

omit [RecordHash Digest] in
theorem Moving.notMoved (h : Moving db proposal draw (item :: items)) {item' : TradeItem}
    (hitem' : item' ∈ items) : item'.userCardId ≠ item.userCardId := by
  have hnodup := h.itemCards
  rw [List.map_cons, List.nodup_cons] at hnodup
  intro heq
  exact hnodup.1 (heq ▸ List.mem_map_of_mem hitem')

omit [RecordHash Digest] in
/-- After a turn the loop goes on with the other items. -/
theorem Moving.tail (h : Moving db proposal draw (item :: items)) {card : UserCard}
    {row : CardOwnershipLedger Digest} (hcard : card ∈ db.userCards)
    (hid : card.id = item.userCardId) (hrow : row.id = draw item.userCardId)
    (hdeliver : Deliverable db proposal item) (hmoved : ItemMoved db db' proposal item card row) :
    Moving db' proposal draw items := by
  have hdistinct := h.distinctIds
  rw [List.map_cons, List.nodup_cons] at hdistinct
  refine ⟨?_, h.parties, (List.nodup_cons.mp h.itemCards).2, ?_, ?_, hdistinct.2, ?_⟩
  · have hok := setOwner_ok.mpr
      ⟨fun other hother hne => hdeliver card hcard hid other hother hne, rfl⟩
    rw [hmoved.cards]
    exact h.copies.setOwner hcard hok
  · intro item' hitem'
    obtain ⟨card', hcard', hid', howner'⟩ := h.held item' (List.mem_cons_of_mem _ hitem')
    refine ⟨card', (hmoved.mem_iff h.copies hcard card').mpr (.inr ⟨hcard', ?_⟩), hid', howner'⟩
    rw [hid, hid']
    exact h.notMoved hitem'
  · intro item' hitem' row' hrow'
    rw [hmoved.ledger] at hrow'
    rcases List.mem_append.mp hrow' with hold | hnew
    · exact h.freshIds item' (List.mem_cons_of_mem _ hitem') row' hold
    · rw [List.mem_singleton.mp hnew, hrow]
      intro heq
      exact hdistinct.1 (heq ▸ List.mem_map_of_mem hitem')
  · intro item' hitem' row' hrow' haction
    rw [hmoved.ledger] at hrow'
    rcases List.mem_append.mp hrow' with hold | hnew
    · exact h.freshSources item' (List.mem_cons_of_mem _ hitem') row' hold haction
    · rw [List.mem_singleton.mp hnew, hmoved.source]
      intro heq
      exact h.notMoved hitem' (tradeSourceId_inj heq).2.symm

omit [RecordHash Digest] in
/-- A turn changes nothing for the items that are still to move. -/
theorem Moving.deliverable_iff (h : Moving db proposal draw (item :: items)) {card : UserCard}
    {row : CardOwnershipLedger Digest} (hcard : card ∈ db.userCards)
    (hid : card.id = item.userCardId) (howner : card.userId = proposal.expectedOwner item)
    (hdeliver : Deliverable db proposal item) (hmoved : ItemMoved db db' proposal item card row)
    {item' : TradeItem} (hitem' : item' ∈ items) :
    Deliverable db' proposal item' ↔ Deliverable db proposal item' := by
  have hmem := hmoved.mem_iff h.copies hcard
  have hother := h.notMoved hitem'
  constructor
  · intro hdeliver' card' hcard' hid' other hmemOther hne
    have hne' : card'.id ≠ card.id := by rwa [hid', hid]
    by_cases hcase : other.id = card.id
    · obtain rfl := eq_of_unique h.copies.ids hmemOther hcard hcase
      rintro ⟨hsame, hsome, hcode⟩
      obtain ⟨card'', hcard'', hid'', howner''⟩ := h.held item' (List.mem_cons_of_mem _ hitem')
      obtain rfl := eq_of_unique h.copies.ids hcard' hcard'' (hid'.trans hid''.symm)
      refine hdeliver other hcard hid card' hcard' hne' ⟨?_, by rw [← hcode]; exact hsome, hcode.symm⟩
      have hcross : proposal.receiver item' = proposal.expectedOwner item := by
        rw [← howner]
        exact hsame.symm
      exact howner''.trans (receiver_of_expectedOwner h.parties hcross).symm
    · exact hdeliver' card' ((hmem card').mpr (.inr ⟨hcard', hne'⟩)) hid' other
        ((hmem other).mpr (.inr ⟨hmemOther, hcase⟩)) hne
  · intro hdeliver' card' hcard' hid' other hmemOther hne
    have hcard'' : card' ∈ db.userCards := by
      rcases (hmem card').mp hcard' with rfl | hold
      · exact absurd (hid'.symm.trans hid) hother
      · exact hold.1
    rcases (hmem other).mp hmemOther with rfl | ⟨hold, -⟩
    · rintro ⟨hsame, hsome, hcode⟩
      obtain ⟨held, hheld, hidHeld, hownerHeld⟩ := h.held item' (List.mem_cons_of_mem _ hitem')
      obtain rfl := eq_of_unique h.copies.ids hcard'' hheld (hid'.trans hidHeld.symm)
      refine h.copies.freeOf hcard hcard'' (fun heq => hne heq) ⟨?_, hsome, hcode⟩
      rw [howner, hownerHeld]
      exact expectedOwner_of_receiver h.parties hsame
    · exact hdeliver' card' hcard'' hid' other hold hne

/-- The transfer loop ends well exactly when every item can be given to its receiver. -/
theorem Moving.moveItems_iff (h : Moving db proposal draw items) :
    (∃ db', moveItems proposal draw now db items = .ok db') ↔
      ∀ item ∈ items, Deliverable db proposal item := by
  induction items generalizing db with
  | nil => simp [moveItems]
  | cons item items ih =>
    obtain ⟨card, row, hcard, hid, howner, hrow, moved, hmoved, hturn⟩ := h.moveItem_iff now
    rw [List.forall_mem_cons]
    constructor
    · rintro ⟨db', hok⟩
      obtain ⟨_, hfirst, hrest⟩ := bind_ok.mp hok
      obtain ⟨hdeliver, rfl⟩ := (hturn _).mp hfirst
      have htail := h.tail hcard hid hrow hdeliver hmoved
      refine ⟨hdeliver, fun item' hitem' => ?_⟩
      exact (h.deliverable_iff hcard hid howner hdeliver hmoved hitem').mp
        ((ih htail).mp ⟨db', hrest⟩ item' hitem')
    · rintro ⟨hdeliver, hothers⟩
      have htail := h.tail hcard hid hrow hdeliver hmoved
      obtain ⟨db', hrest⟩ := (ih htail).mpr fun item' hitem' =>
        (h.deliverable_iff hcard hid howner hdeliver hmoved hitem').mpr (hothers item' hitem')
      exact ⟨db', bind_ok.mpr ⟨moved, (hturn moved).mpr ⟨hdeliver, rfl⟩, hrest⟩⟩

end Loop

section Acceptance

variable {Digest : Type} {db : CardDb Digest} {proposal : TradeProposal} {draws : AcceptDraws}
  {now : Time}

/-- A proposal that its recipient may still accept, with every item where it belongs. -/
structure InOrder (db : CardDb Digest) (proposal : TradeProposal) (now : Time) : Prop where
  stored : proposal ∈ db.proposals
  pending : proposal.status = .pending
  notHeld : db.isHeld proposal.id = false
  unexpired : now < proposal.expiresAt
  owners : ∀ item ∈ db.items, item.proposalId = proposal.id →
    db.ownerOf item.userCardId = some (proposal.expectedOwner item)

/-- The identifiers that an acceptance draws are new. -/
structure FreshDraws (db : CardDb Digest) (proposal : TradeProposal) (draws : AcceptDraws) :
    Prop where
  ledgerIds : ∀ item ∈ db.items, item.proposalId = proposal.id →
    ∀ row ∈ db.ledger, row.id ≠ draws.ledgerId item.userCardId
  distinctLedgerIds : ((db.items.filter fun item => item.proposalId = proposal.id).map
    fun item => draws.ledgerId item.userCardId).Nodup
  eventIds : ∀ event ∈ db.events,
    event.id ≠ draws.proposerEventId ∧ event.id ≠ draws.recipientEventId
  distinctEventIds : draws.proposerEventId ≠ draws.recipientEventId

theorem TradesConsistent.findProposal (h : db.TradesConsistent) (hmem : proposal ∈ db.proposals) :
    db.findProposal proposal.id = some proposal := by
  cases hfind : db.findProposal proposal.id with
  | none =>
    have hnone := List.find?_eq_none.mp hfind proposal hmem
    simp at hnone
  | some found =>
    obtain ⟨hfound, hid⟩ := findProposal_some hfind
    rw [eq_of_unique h.proposalIds hfound hmem hid]

theorem InOrder.owned (h : InOrder db proposal now) {item : TradeItem} (hitem : item ∈ db.items)
    (hof : item.proposalId = proposal.id) : ∃ card ∈ db.userCards, card.id = item.userCardId ∧
      card.userId = proposal.expectedOwner item ∧ db.findUserCard item.userCardId = some card := by
  have howner := h.owners item hitem hof
  rw [CardDb.ownerOf] at howner
  obtain ⟨card, hfind, hcardOwner⟩ := Option.map_eq_some_iff.mp howner
  obtain ⟨hmem, hid⟩ := findUserCard_some hfind
  exact ⟨card, hmem, hid, hcardOwner, hfind⟩

/-- The transfer loop starts in order. -/
theorem InOrder.moving (h : InOrder db proposal now) (hdraws : FreshDraws db proposal draws)
    (htrades : db.TradesConsistent) (hcopies : CopiesUnique db.userCards)
    (hsettled : TransfersSettled db) {items : List TradeItem}
    (hitems : items.Perm (db.items.filter fun item => item.proposalId = proposal.id)) :
    Moving db proposal draws.ledgerId items := by
  have hof : ∀ item ∈ items, item ∈ db.items ∧ item.proposalId = proposal.id := by
    intro item hitem
    simpa using hitems.mem_iff.mp hitem
  refine ⟨hcopies, htrades.parties proposal h.stored, ?_, ?_, ?_, ?_, ?_⟩
  · exact (hitems.map _).nodup_iff.mpr (htrades.itemCards proposal.id)
  · intro item hitem
    obtain ⟨card, hcard, hid, howner, -⟩ := h.owned (hof item hitem).1 (hof item hitem).2
    exact ⟨card, hcard, hid, howner⟩
  · intro item hitem
    exact hdraws.ledgerIds item (hof item hitem).1 (hof item hitem).2
  · exact (hitems.map _).nodup_iff.mpr hdraws.distinctLedgerIds
  · intro item hitem row hrow haction hsource
    obtain ⟨other, hother, hclosed, userCardId, hsource'⟩ := hsettled row hrow haction
    obtain ⟨hid, -⟩ := tradeSourceId_inj (hsource'.symm.trans hsource)
    obtain rfl := eq_of_unique htrades.proposalIds hother h.stored hid
    exact hclosed h.pending

variable [RecordHash Digest]

/-- What follows the transfer loop never fails. -/
theorem acceptTradeOnce_succeeds_iff (h : InOrder db proposal now)
    (hdraws : FreshDraws db proposal draws) (htrades : db.TradesConsistent)
    (order : List TradeItem) :
    (∃ result, acceptTradeOnce db proposal order draws now = .ok result) ↔
      ∃ db', moveItems proposal draws.ledgerId now db
        (scan order (db.items.filter fun item => item.proposalId = proposal.id)) = .ok db' := by
  constructor
  · rintro ⟨result, hok⟩
    simp only [acceptTradeOnce, bind_ok] at hok
    obtain ⟨-, -, moved, hmoved, -⟩ := hok
    exact ⟨moved, hmoved⟩
  · rintro ⟨moved, hmoved⟩
    have hchecks : forEach (checkOwner db proposal)
        (scan order (db.items.filter fun item => item.proposalId = proposal.id)) = .ok () := by
      rw [forEach_ok]
      intro item hitem
      have hof : item ∈ db.items ∧ item.proposalId = proposal.id := by
        simpa using (scan_perm order _).mem_iff.mp hitem
      obtain ⟨card, -, -, howner, hfind⟩ := h.owned hof.1 hof.2
      simp only [checkOwner, bind_ok, orFail_ok, ensure_ok]
      exact ⟨card, hfind, howner⟩
    have hnodup := ((scan_perm order (db.items.filter fun item => item.proposalId = proposal.id)).map
      (·.userCardId)).nodup_iff.mpr (htrades.itemCards proposal.id)
    obtain ⟨rows, -, rfl⟩ := moveItems_ok hnodup hmoved
    obtain ⟨events, event, hproposer, hmem⟩ := recordEngagementEvent_fresh
      (fun event hevent => (hdraws.eventIds event hevent).1) proposal.proposerId "trade_completed"
      "trade" proposal.id.val _
    have hfresh : ∀ event ∈ events, event.id ≠ draws.recipientEventId := by
      intro event hevent
      rcases hmem event hevent with hold | hnew
      · exact (hdraws.eventIds event hold).2
      · rw [hnew]
        exact hdraws.distinctEventIds
    obtain ⟨events', event', hrecipient, -⟩ := recordEngagementEvent_fresh hfresh
      proposal.recipientId "trade_completed" "trade" proposal.id.val _
    simp only [acceptTradeOnce, bind_ok]
    exact ⟨_, (), hchecks, _, hmoved, (events, event), hproposer, (events', event'), hrecipient, rfl⟩

end Acceptance

/-- The proposal that the runs below offer. -/
def offeredTrade (createdAt : Time) : TradeProposal :=
  { id := tradeId, proposerId := "fan_a", recipientId := "fan_b", status := .pending,
    expiresAt := createdAt + days 7, createdAt := createdAt }

def offeredTradeDraws : AcceptDraws := ⟨fun id => "transfer_" ++ id, "evt_proposer", "evt_recipient"⟩

/-- Two fans redeem one code, and one offers the other its copy. -/
def offeredTwin : List CardAction :=
  [.redeem "fan_a" "CODE" "redeem_code" ⟨⟨"uc_a", "ledger_a"⟩, "evt_a"⟩ 1,
   .redeem "fan_b" "CODE" "redeem_code" ⟨⟨"uc_b", "ledger_b"⟩, "evt_b"⟩ 2,
   .createTrade "fan_a" oneCardOffer tradeId 3]

end Fanfolio
