import Fanfolio.Cards.ConsumedCards

/-!
# Cards of expired proposals

A proposal that has expired keeps its locks until one of its two sides looks at it, and until
then no new proposal can name its cards.
-/

namespace Fanfolio

open Framework

/-- The refusal of a card that a proposal has locked. -/
def cardAlreadyInTrade : Failure :=
  tradeError "CARD_ALREADY_IN_TRADE" "이미 다른 거래에 포함된 카드입니다."

section Locks

variable {Digest : Type} {db : CardDb Digest} {userId : UserId} {payload : TradeProposalCreate}
  {now : Time} {userCardId : UserCardId} {pair : UserCard × Card}

/-- The card is an item of a proposal that its recipient can still accept. -/
def InOpenTrade (db : CardDb Digest) (now : Time) (userCardId : UserCardId) : Prop :=
  ∃ item ∈ db.items, item.userCardId = userCardId ∧
    ∃ proposal ∈ db.proposals, proposal.id = item.proposalId ∧ proposal.status = .pending ∧
      now < proposal.expiresAt

/-- The card is an item of a proposal that has expired and was never closed. -/
def InOverdueTrade (db : CardDb Digest) (now : Time) (userCardId : UserCardId) : Prop :=
  ∃ item ∈ db.items, item.userCardId = userCardId ∧
    ∃ proposal ∈ db.proposals, proposal.id = item.proposalId ∧ proposal.status = .pending ∧
      proposal.expiresAt ≤ now

instance : Decidable (InOpenTrade db now userCardId) :=
  inferInstanceAs (Decidable (∃ item ∈ db.items, _))

instance : Decidable (InOverdueTrade db now userCardId) :=
  inferInstanceAs (Decidable (∃ item ∈ db.items, _))

/-- The card passes every check of `_validate_trade_cards` but the one of its lock. -/
structure Tradable (db : CardDb Digest) (pair : UserCard × Card) : Prop where
  tradable : pair.2.tradable = true
  permanent : pair.1.expiresAt = none
  unlocked : pair.1.tradeLockedAt = none
  notCombined : pair.1.acquisitionSource ≠ "combination"
  unconsumed : db.isMaterial pair.1.id = false

theorem tradable_iff : Tradable db pair ↔
    pair.2.tradable = true ∧ pair.1.expiresAt = none ∧ pair.1.tradeLockedAt = none ∧
      pair.1.acquisitionSource ≠ "combination" ∧ db.isMaterial pair.1.id = false := by
  constructor
  · rintro ⟨htradable, hpermanent, hunlocked, hsource, hmaterial⟩
    exact ⟨htradable, hpermanent, hunlocked, hsource, hmaterial⟩
  · rintro ⟨htradable, hpermanent, hunlocked, hsource, hmaterial⟩
    exact ⟨htradable, hpermanent, hunlocked, hsource, hmaterial⟩

instance : Decidable (Tradable db pair) := decidable_of_iff _ tradable_iff.symm

/-- The cards that a request names, the offered cards first. -/
def proposedCards (db : CardDb Digest) (userId : UserId) (payload : TradeProposalCreate) :
    List (UserCard × Card) :=
  payload.offeredUserCardIds.filterMap (db.heldCard userId) ++
    payload.requestedUserCardIds.filterMap (db.heldCard payload.recipientUserId)

/-- A request that nothing but a lock can stop. -/
structure Proposable (db : CardDb Digest) (userId : UserId) (payload : TradeProposalCreate) :
    Prop where
  notSelf : payload.recipientUserId ≠ userId
  available : ∃ recipient, db.users.find? (fun row => row.id == payload.recipientUserId) =
    some recipient ∧ recipient.role = .fan ∧ db.isBlocked userId recipient.id = false
  apart : ∀ id ∈ payload.offeredUserCardIds, id ∉ payload.requestedUserCardIds
  offeredOnce : payload.offeredUserCardIds.Nodup
  requestedOnce : payload.requestedUserCardIds.Nodup
  offeredHeld : ∀ id ∈ payload.offeredUserCardIds, (db.heldCard userId id).isSome
  requestedHeld : ∀ id ∈ payload.requestedUserCardIds,
    (db.heldCard payload.recipientUserId id).isSome
  tradable : ∀ pair ∈ proposedCards db userId payload, Tradable db pair

theorem validateTradeCard_ok :
    validateTradeCard db pair = .ok () ↔ Tradable db pair ∧ db.isLocked pair.1.id = false := by
  simp only [validateTradeCard, bind_ok, ensure_ok, exists_const, tradable_iff, and_assoc]

/-- The lock is the last check of a card. -/
theorem validateTradeCard_refused :
    validateTradeCard db pair = .error cardAlreadyInTrade ↔
      Tradable db pair ∧ db.isLocked pair.1.id = true := by
  constructor
  · intro h
    simp only [validateTradeCard, bind_error, ensure_error, ensure_ok, exists_const,
      cardAlreadyInTrade, tradeError, Failure.app.injEq, AppError.mk.injEq] at h
    have hcode : "CARD_NOT_TRADABLE" ≠ "CARD_ALREADY_IN_TRADE" := by decide
    simp only [hcode, false_and, and_false, false_or, and_true] at h
    simpa only [tradable_iff, and_assoc, Bool.not_eq_false] using h
  · rintro ⟨⟨htradable, hpermanent, hunlocked, hsource, hmaterial⟩, hlocked⟩
    simp [validateTradeCard, ensure, htradable, hpermanent, hunlocked, hsource, hmaterial, hlocked,
      cardAlreadyInTrade, bind, Except.bind]

theorem mem_proposedCards_offered {offered : List (UserCard × Card)}
    (h : loadTradeCards db userId payload.offeredUserCardIds = .ok offered)
    (hpair : pair ∈ offered) : pair ∈ proposedCards db userId payload := by
  simp only [loadTradeCards, bind_ok, ensure_ok, exists_const, pure_ok] at h
  obtain ⟨-, -, rfl⟩ := h
  exact List.mem_append_left _ hpair

theorem mem_proposedCards_requested {requested : List (UserCard × Card)}
    (h : loadTradeCards db payload.recipientUserId payload.requestedUserCardIds = .ok requested)
    (hpair : pair ∈ requested) : pair ∈ proposedCards db userId payload := by
  simp only [loadTradeCards, bind_ok, ensure_ok, exists_const, pure_ok] at h
  obtain ⟨-, -, rfl⟩ := h
  exact List.mem_append_right _ hpair

theorem validateTradeCards_refused {cards : List (UserCard × Card)}
    (h : validateTradeCards db cards = .error cardAlreadyInTrade) :
    ∃ pair ∈ cards, validateTradeCard db pair = .error cardAlreadyInTrade := by
  rw [validateTradeCards, bind_error] at h
  rcases h with h | ⟨_, -, h⟩
  · have hcode := (ensure_error.mp h).2
    simp [cardAlreadyInTrade, tradeError] at hcode
  · exact forEach_error h

theorem checkTrade_refused (h : checkTrade db userId payload = .error cardAlreadyInTrade) :
    ∃ pair ∈ proposedCards db userId payload, validateTradeCard db pair = .error cardAlreadyInTrade
    := by
  have hload : ∀ {ids : List UserCardId} {owner : UserId},
      loadTradeCards db owner ids ≠ .error cardAlreadyInTrade := by
    intro ids owner hfails
    simp only [loadTradeCards, bind_error, ensure_error, pure_error, cardAlreadyInTrade, tradeError,
      Failure.app.injEq, AppError.mk.injEq] at hfails
    simp at hfails
  simp only [checkTrade, bind_error, ensure_error, ensure_ok, orFail_error, orFail_ok, exists_const,
    hload, false_or] at h
  rcases h with h | ⟨-, h | ⟨recipient, hrecipient, h | ⟨-, h | ⟨-, h⟩⟩⟩⟩
  · simp [cardAlreadyInTrade, tradeError] at h
  · simp [cardAlreadyInTrade, tradeError] at h
  · simp [cardAlreadyInTrade, tradeError] at h
  · simp [cardAlreadyInTrade, tradeError] at h
  · have hid : recipient.id = payload.recipientUserId := by
      simpa using List.find?_some hrecipient
    rw [hid] at h
    obtain ⟨offered, hoffered, requested, hrequested, h | ⟨_, -, h⟩⟩ := h
    · obtain ⟨pair, hpair, hrefused⟩ := validateTradeCards_refused h
      exact ⟨pair, mem_proposedCards_offered hoffered hpair, hrefused⟩
    · split at h
      · simp only [bind_error, pure_error, and_false, exists_false, or_false] at h
        obtain ⟨pair, hpair, hrefused⟩ := validateTradeCards_refused h
        exact ⟨pair, mem_proposedCards_requested hrequested hpair, hrefused⟩
      · exact absurd h pure_error.mp

/-- A request is refused for a lock only when one of its cards is. -/
theorem createTrade_refused {proposalId : ProposalId}
    (h : createTrade db userId payload proposalId now = .error cardAlreadyInTrade) :
    ∃ pair ∈ proposedCards db userId payload,
      validateTradeCard db pair = .error cardAlreadyInTrade := by
  simp only [createTrade, bind_error, ensure_error, ensure_ok, exists_const, pure_error, and_false,
    or_false, cardAlreadyInTrade, tradeError, reduceCtorEq] at h
  exact checkTrade_refused h

theorem validateTradeCards_free {cards : List (UserCard × Card)} (hne : cards ≠ [])
    (hcards : ∀ pair ∈ cards, Tradable db pair ∧ db.isLocked pair.1.id = false) :
    validateTradeCards db cards = .ok () := by
  simp only [validateTradeCards, bind_ok, ensure_ok, exists_const, forEach_ok]
  exact ⟨hne, fun pair hpair => validateTradeCard_ok.mpr (hcards pair hpair)⟩

theorem loadTradeCards_held {userCardIds : List UserCardId} (honce : userCardIds.Nodup)
    (hheld : ∀ id ∈ userCardIds, (db.heldCard userId id).isSome) :
    loadTradeCards db userId userCardIds = .ok (userCardIds.filterMap (db.heldCard userId)) := by
  simp only [loadTradeCards, bind_ok, ensure_ok, exists_const, pure_ok, and_true]
  exact ⟨honce, hheld⟩

theorem Proposable.offered_ne_nil (h : Proposable db userId payload) :
    payload.offeredUserCardIds.filterMap (db.heldCard userId) ≠ [] := by
  obtain ⟨id, hid⟩ := List.exists_mem_of_length_pos payload.offered_length.1
  obtain ⟨pair, hpair⟩ := Option.isSome_iff_exists.mp (h.offeredHeld id hid)
  exact List.ne_nil_of_mem (List.mem_filterMap.mpr ⟨id, hid, hpair⟩)

theorem Proposable.checkTrade (h : Proposable db userId payload)
    (hfree : ∀ pair ∈ proposedCards db userId payload, db.isLocked pair.1.id = false) :
    checkTrade db userId payload =
      .ok (payload.offeredUserCardIds.filterMap (db.heldCard userId),
        payload.requestedUserCardIds.filterMap (db.heldCard payload.recipientUserId)) := by
  obtain ⟨recipient, hfind, hrole, hblocked⟩ := h.available
  have hid : recipient.id = payload.recipientUserId := by simpa using List.find?_some hfind
  have hvalid : ∀ pair ∈ proposedCards db userId payload,
      Tradable db pair ∧ db.isLocked pair.1.id = false :=
    fun pair hpair => ⟨h.tradable pair hpair, hfree pair hpair⟩
  have hrequested : loadTradeCards db recipient.id payload.requestedUserCardIds =
      .ok (payload.requestedUserCardIds.filterMap (db.heldCard payload.recipientUserId)) := by
    rw [hid]
    exact loadTradeCards_held h.requestedOnce h.requestedHeld
  have hoffered := validateTradeCards_free h.offered_ne_nil fun pair hpair =>
    hvalid pair (List.mem_append_left _ hpair)
  simp only [Fanfolio.checkTrade, bind_ok, orFail_ok, ensure_ok, exists_const]
  refine ⟨h.notSelf, recipient, hfind, ⟨hrole, hblocked⟩, h.apart, _,
    loadTradeCards_held h.offeredOnce h.offeredHeld, _, hrequested, (), hoffered, ?_⟩
  split
  · rename_i hne
    rw [validateTradeCards_free hne fun pair hpair => hvalid pair (List.mem_append_right _ hpair)]
    rfl
  · rfl

theorem heldCards_ids {owner : UserId} {ids : List UserCardId}
    (hheld : ∀ id ∈ ids, (db.heldCard owner id).isSome) :
    (ids.filterMap (db.heldCard owner)).map (·.1.id) = ids := by
  induction ids with
  | nil => rfl
  | cons id ids ih =>
    rw [List.forall_mem_cons] at hheld
    obtain ⟨pair, hpair⟩ := Option.isSome_iff_exists.mp hheld.1
    rw [List.filterMap_cons_some hpair, List.map_cons, ih hheld.2, (heldCard_some hpair).2.1]

/-- The new locks are on other cards than the old ones, each card once. -/
theorem Proposable.newLocks (h : Proposable db userId payload) (htrades : db.TradesConsistent)
    (hfree : ∀ pair ∈ proposedCards db userId payload, db.isLocked pair.1.id = false)
    (proposalId : ProposalId) :
    ((db.locks ++ (newItems proposalId
      (payload.offeredUserCardIds.filterMap (db.heldCard userId))
      (payload.requestedUserCardIds.filterMap (db.heldCard payload.recipientUserId))).map
        TradeItem.lock).map (·.userCardId)).Nodup := by
  have hids : ((newItems proposalId
      (payload.offeredUserCardIds.filterMap (db.heldCard userId))
      (payload.requestedUserCardIds.filterMap (db.heldCard payload.recipientUserId))).map
        TradeItem.lock).map (·.userCardId) =
      (proposedCards db userId payload).map (·.1.id) := by
    simp [newItems, proposedCards, TradeItem.lock, Function.comp_def]
  rw [List.map_append, hids, List.nodup_append]
  refine ⟨htrades.lockCards, ?_, ?_⟩
  · rw [proposedCards, List.map_append, heldCards_ids h.offeredHeld, heldCards_ids h.requestedHeld,
      List.nodup_append]
    refine ⟨h.offeredOnce, h.requestedOnce, ?_⟩
    rintro id hoffered id' hrequested rfl
    exact h.apart id hoffered hrequested
  · intro id hlocked id' hnew heq
    obtain ⟨lock, hlock, rfl⟩ := List.mem_map.mp hlocked
    obtain ⟨pair, hpair, rfl⟩ := List.mem_map.mp hnew
    have hunlocked := hfree pair hpair
    rw [← heq, isLocked_iff.mpr ⟨lock, hlock, rfl⟩] at hunlocked
    cases hunlocked

/-- A request that no lock stops goes through under a new identifier. -/
theorem Proposable.createTrade (h : Proposable db userId payload) (htrades : db.TradesConsistent)
    (hfree : ∀ pair ∈ proposedCards db userId payload, db.isLocked pair.1.id = false)
    {proposalId : ProposalId} (hfresh : ∀ row ∈ db.proposals, row.id ≠ proposalId) :
    ∃ result, createTrade db userId payload proposalId now = .ok result := by
  simp only [Fanfolio.createTrade, bind_ok, h.checkTrade hfree, Except.ok.injEq, exists_eq_left',
    ensure_ok, exists_const, pure_ok, exists_and_left, exists_eq', and_true]
  exact ⟨hfresh, h.newLocks htrades hfree proposalId⟩

/-- A card is locked by a proposal that is open, or by one that is overdue. -/
theorem TradesConsistent.isLocked_cases (htrades : db.TradesConsistent) (now : Time) :
    db.isLocked userCardId = true ↔
      InOpenTrade db now userCardId ∨ InOverdueTrade db now userCardId := by
  rw [htrades.isLocked]
  constructor
  · rintro ⟨item, hitem, hcard, proposal, hproposal, hid, hpending⟩
    rcases lt_or_ge now proposal.expiresAt with hopen | hover
    · exact .inl ⟨item, hitem, hcard, proposal, hproposal, hid, hpending, hopen⟩
    · exact .inr ⟨item, hitem, hcard, proposal, hproposal, hid, hpending, hover⟩
  · rintro (⟨item, hitem, hcard, proposal, hproposal, hid, hpending, -⟩ |
      ⟨item, hitem, hcard, proposal, hproposal, hid, hpending, -⟩) <;>
    exact ⟨item, hitem, hcard, proposal, hproposal, hid, hpending⟩

/-- One proposal at most locks a card, so an overdue one leaves no room for an open one. -/
theorem TradesConsistent.not_open_of_overdue (htrades : db.TradesConsistent)
    (hover : InOverdueTrade db now userCardId) : ¬InOpenTrade db now userCardId := by
  obtain ⟨item, hitem, hcard, proposal, hproposal, hid, hpending, hexpired⟩ := hover
  rintro ⟨item', hitem', hcard', proposal', hproposal', hid', hpending', hopen⟩
  have hsame := htrades.onePending hitem hitem' (hcard.trans hcard'.symm)
    ⟨proposal, hproposal, hid, hpending⟩ ⟨proposal', hproposal', hid', hpending'⟩
  have heq : proposal = proposal' := eq_of_unique htrades.proposalIds hproposal hproposal'
    (hid.trans (hsame.trans hid'.symm))
  rw [heq] at hexpired
  exact absurd hopen (not_lt.mpr hexpired)

end Locks

section Runs

variable {Digest : Type} [RecordHash Digest] {db : CardDb Digest}

end Runs

def secondTradeId : ProposalId := ⟨"second", by decide⟩

end Fanfolio
