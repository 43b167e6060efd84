import Fanfolio.Cards.Collection
import Fanfolio.Cards.ConsumedCards
import Fanfolio.Cards.Issue

/-!
# Which cards a fan owns

The benefits and the achievements count consumed copies, which the collection view leaves out.
They agree with the view exactly as long as whoever holds a consumed copy also holds another
copy of the card.
-/

namespace Fanfolio

open Framework

section Notions

variable {Digest : Type}

/-- The tables without the copies that a fan holds of a card. -/
def CardDb.without (db : CardDb Digest) (userId : UserId) (cardId : CardId) : CardDb Digest :=
  { db with
    userCards := db.userCards.filter fun row => !(row.userId == userId && row.cardId == cardId) }

/-- The list of benefits is another one without the card. -/
def CountsInBenefits (shelf : CollectionDb) (db : CardDb Digest) (userId : UserId)
    (cardId : CardId) : Prop :=
  ∃ order cardOrder, collectionBenefits shelf (db.without userId cardId) userId order cardOrder ≠
    collectionBenefits shelf db userId order cardOrder

/-- Some claim of a benefit is answered otherwise without the card. -/
def CountsInClaims (shelf : CollectionDb) (db : CardDb Digest) (userId : UserId)
    (cardId : CardId) : Prop :=
  ∃ campaignId claimId now,
    claimCollectionBenefit shelf (db.without userId cardId) userId campaignId claimId now ≠
      claimCollectionBenefit shelf db userId campaignId claimId now

/-- Some achievement has another value without the card. -/
def CountsInAchievements (shelf : CollectionDb) (db : CardDb Digest) (userId : UserId)
    (cardId : CardId) : Prop :=
  ∃ payload definition,
    achievementCurrentValue shelf (db.without userId cardId) userId payload definition ≠
      achievementCurrentValue shelf db userId payload definition

/-- The collection view shows a copy of the card. -/
def ShownInCollection (shelf : CollectionDb) (db : CardDb Digest) (userId : UserId)
    (cardId : CardId) : Prop :=
  ∃ entry ∈ collection shelf db userId, entry.cardId = cardId

instance (shelf : CollectionDb) (db : CardDb Digest) (userId : UserId) (cardId : CardId) :
    Decidable (ShownInCollection shelf db userId cardId) :=
  inferInstanceAs (Decidable (∃ entry ∈ collection shelf db userId, entry.cardId = cardId))

/-- Whatever counts for a fan, the collection view shows. -/
def SameNotion (db : CardDb Digest) : Prop :=
  ∀ shelf userId cardId, CountsInBenefits shelf db userId cardId ∨
    CountsInClaims shelf db userId cardId ∨ CountsInAchievements shelf db userId cardId →
    ShownInCollection shelf db userId cardId

/-- Every copy is a copy of a card of the catalogue. -/
def CardDb.Catalogued (db : CardDb Digest) : Prop :=
  ∀ row ∈ db.userCards, row.cardId ∈ db.cards.map (·.id)

/-- Whoever holds a copy holds one of the same card that no combination consumed. -/
def HoldersShown (db : CardDb Digest) : Prop :=
  ∀ row ∈ db.userCards, ∃ other ∈ db.unconsumed row.userId, other.cardId = row.cardId

variable {db : CardDb Digest} {shelf : CollectionDb} {userId : UserId} {cardId : CardId}

theorem mem_unconsumed {row : UserCard} : row ∈ db.unconsumed userId ↔
    row ∈ db.userCards ∧ row.userId = userId ∧ db.isMaterial row.id = false := by
  simp [CardDb.unconsumed]

/-- Without a copy of the card nothing is taken away. -/
theorem without_eq_self (h : ∀ row ∈ db.userCards, row.userId = userId → row.cardId ≠ cardId) :
    db.without userId cardId = db := by
  have hfilter : db.userCards.filter
      (fun row => !(row.userId == userId && row.cardId == cardId)) = db.userCards := by
    rw [List.filter_eq_self]
    intro row hrow
    simpa [not_and_or, imp_iff_not_or] using h row hrow
  rw [CardDb.without, hfilter]

theorem without_not_owned : cardId ∉ (db.without userId cardId).ownedCardIds userId := by
  intro hmem
  obtain ⟨row, hrow, hcard⟩ := List.mem_map.mp hmem
  obtain ⟨hrow, howner⟩ := List.mem_filter.mp hrow
  have hkept := (List.mem_filter.mp hrow).2
  rw [beq_iff_eq] at howner
  simp [howner, hcard] at hkept

theorem mem_ownedCardIds {row : UserCard} (hrow : row ∈ db.userCards) :
    row.cardId ∈ db.ownedCardIds row.userId :=
  List.mem_map.mpr ⟨row, List.mem_filter.mpr ⟨hrow, beq_self_eq_true _⟩, rfl⟩

theorem CardDb.Catalogued.shown_iff (h : db.Catalogued) : ShownInCollection shelf db userId cardId ↔
    ∃ row ∈ db.unconsumed userId, row.cardId = cardId := by
  constructor
  · rintro ⟨entry, hentry, rfl⟩
    obtain ⟨row, hrow, hmap⟩ := List.mem_filterMap.mp hentry
    obtain ⟨card, hcard, rfl⟩ := Option.map_eq_some_iff.mp hmap
    have hid := List.find?_some hcard
    exact ⟨row, hrow, (beq_iff_eq.mp hid).symm⟩
  · rintro ⟨row, hrow, rfl⟩
    obtain ⟨card, hmem, hid⟩ := List.mem_map.mp (h row (mem_unconsumed.mp hrow).1)
    have hsome : (db.findCard row.cardId).isSome := by
      rw [CardDb.findCard, List.find?_isSome]
      exact ⟨card, hmem, by simpa using hid⟩
    obtain ⟨found, hfound⟩ := Option.isSome_iff_exists.mp hsome
    have hid' := List.find?_some hfound
    refine ⟨collectionEntry shelf db row found, List.mem_filterMap.mpr ⟨row, hrow, ?_⟩, ?_⟩
    · rw [hfound]
      rfl
    · exact beq_iff_eq.mp hid'

/-- A campaign for one card. -/
def oneCardShelf (cardId : CardId) : CollectionDb where
  campaigns :=
    [{ id := "campaign", name := "Campaign", requiredCardIds := [cardId], benefitTitle := "Benefit",
       benefitDescription := "A benefit" }]
  claims := []
  isOfficial _ := true
  seasonName _ := none
  reviewVersion _ := 0
  organizationId _ := none
  artistName _ := none

/-- The campaign tells whether the fan has the card, consumed or not. -/
theorem countsInClaims_oneCard {row : UserCard} (hrow : row ∈ db.userCards) :
    CountsInClaims (oneCardShelf row.cardId) db row.userId row.cardId := by
  refine ⟨"campaign", "claim", 0, fun heq => ?_⟩
  have howned := mem_ownedCardIds hrow
  have hnot : row.cardId ∉ (db.without row.userId row.cardId).ownedCardIds row.userId :=
    without_not_owned
  simp [claimCollectionBenefit, oneCardShelf, orFail, ensure, howned, hnot, bind, Except.bind,
    pure, Except.pure] at heq

/-- The features agree on a state exactly if every copy has one that is shown. -/
theorem CardDb.Catalogued.sameNotion_iff_holders (h : db.Catalogued) :
    SameNotion db ↔ HoldersShown db := by
  constructor
  · intro hsame row hrow
    have hcounts := countsInClaims_oneCard hrow
    exact h.shown_iff.mp (hsame _ _ _ (.inr (.inl hcounts)))
  · intro hholders shelf userId cardId hcounts
    by_contra hshown
    have hnone : ∀ row ∈ db.userCards, row.userId = userId → row.cardId ≠ cardId := by
      rintro row hrow rfl rfl
      exact hshown (h.shown_iff.mpr (hholders row hrow))
    have hwithout := without_eq_self hnone
    rcases hcounts with ⟨_, _, hne⟩ | ⟨_, _, _, hne⟩ | ⟨_, _, hne⟩
    all_goals
      rw [hwithout] at hne
      exact hne rfl

end Notions

section Steps

variable {Digest : Type} [RecordHash Digest] {db db' : CardDb Digest}

/-- The fan who asks for a request that can issue a copy. -/
def CardAction.collector : CardAction → Option UserId
  | .redeem userId .. => some userId
  | .combineCards userId .. => some userId
  | .openCardPack userId .. => some userId
  | _ => none

/-- The request consumes the copy, or an earlier one did. -/
def ConsumedAfter (db : CardDb Digest) (a : CardAction) (userCardId : UserCardId) : Prop :=
  db.isMaterial userCardId = true ∨ userCardId ∈ consumedBy db a

instance (a : CardAction) (userCardId : UserCardId) : Decidable (ConsumedAfter db a userCardId) :=
  inferInstanceAs (Decidable (_ ∨ _))

/-- A copy after the request: an accepted trade hands it to the other side. -/
def movedBy (db : CardDb Digest) (a : CardAction) (row : UserCard) : UserCard :=
  match acceptedProposal db a with
  | some proposal => proposal.reassign (db.items.filter (·.proposalId = proposal.id)) row
  | none => row

/-- Whoever holds a consumed copy after the request keeps, gets or is issued another copy of the
card that no combination consumed. -/
def LeavesHoldersShown (db : CardDb Digest) (a : CardAction) : Prop :=
  ∀ row ∈ db.userCards, ConsumedAfter db a row.id →
    (∃ other ∈ db.userCards, other.cardId = row.cardId ∧
      (movedBy db a other).userId = (movedBy db a row).userId ∧ ¬ConsumedAfter db a other.id) ∨
    ∃ request ∈ issuedBy db a, request.cardId = row.cardId ∧
      request.userId = (movedBy db a row).userId

instance (a : CardAction) : Decidable (LeavesHoldersShown db a) :=
  inferInstanceAs (Decidable (∀ row ∈ db.userCards, _))

omit [RecordHash Digest] in
theorem reassign_origin (proposal : TradeProposal) (items : List TradeItem) (row : UserCard) :
    (proposal.reassign items row).origin = row.origin := by
  rw [TradeProposal.reassign]
  split <;> rfl

theorem movedBy_origin (a : CardAction) (row : UserCard) :
    (movedBy db a row).origin = row.origin := by
  rw [movedBy]
  split
  · exact reassign_origin _ _ _
  · rfl

theorem movedBy_id (a : CardAction) (row : UserCard) : (movedBy db a row).id = row.id :=
  congrArg Prod.fst (movedBy_origin a row)

theorem movedBy_cardId (a : CardAction) (row : UserCard) :
    (movedBy db a row).cardId = row.cardId :=
  congrArg (·.2.1) (movedBy_origin a row)

/-- A copy is issued to the fan who asks. -/
theorem issuedBy_userId {a : CardAction} {request : GrantRequest} (h : request ∈ issuedBy db a) :
    a.collector = some request.userId := by
  cases issuedFor_of_issuedBy h <;> rfl

/-- The second table is the first, or the first with a new copy of the fan. -/
def AddsCopyOf (collector : Option UserId) (rows rows' : List UserCard) : Prop :=
  rows' = rows ∨ ∃ userCard, rows' = rows ++ [userCard] ∧
    (∀ row ∈ rows, row.id ≠ userCard.id) ∧ collector = some userCard.userId

theorem grantUserCard_addsCopyOf {mid granted : CardDb Digest} {request : GrantRequest}
    {draws : GrantDraws} {now : Time} {userCard : UserCard}
    (h : grantUserCard mid request draws now = .ok (granted, userCard)) :
    AddsCopyOf (some request.userId) mid.userCards granted.userCards := by
  rcases grantUserCard_ok h with ⟨rfl, -⟩ | hissued
  · exact .inl rfl
  · refine .inr ⟨userCard, ?_, hissued.freshId, ?_⟩
    · rw [hissued.after]
    · rw [hissued.row]
      rfl

/-- The copies after a request that hands none over. -/
theorem cardStep_addsCopyOf {a : CardAction} (ha : acceptedProposal db a = none) :
    AddsCopyOf a.collector db.userCards (cardStep db a).userCards := by
  have hstepped := cardStep_cases db a
  generalize cardStep db a = db' at hstepped ⊢
  cases hstepped with
  | swept h =>
    exact h.keeps (P := fun db' => AddsCopyOf a.collector db.userCards db'.userCards) (.inl rfl)
      fun _ _ _ _ _ hkept => hkept
  | edited => exact .inl rfl
  | limited => exact .inl rfl
  | redeemed hok =>
    obtain ⟨code, granted, userCard, hredeemed⟩ := redeem_ok hok
    obtain ⟨card, drop, -, -, hgrant⟩ := hredeemed.grant
    obtain ⟨events, rfl⟩ := hredeemed.after
    exact grantUserCard_addsCopyOf hgrant
  | proposed hok =>
    obtain ⟨_, -, hnew⟩ := createTrade_ok hok
    rw [hnew.after]
    exact .inl rfl
  | accepted hfind hstatus hok =>
    obtain ⟨hfound, -⟩ := findPendingProposal_ok.mp hfind
    rw [acceptedProposal, hstatus] at ha
    exact absurd (hfound.symm.trans ha) (by simp)
  | combined hok =>
    rcases combineCards_ok hok with ⟨rfl, -⟩ |
      ⟨-, context, materials, resultCardId, rows, granted, copy, hcombined⟩
    · exact .inl rfl
    · obtain ⟨combinations, hgrant⟩ := hcombined.grant
      obtain ⟨combinations', events, rfl⟩ := hcombined.after
      exact grantUserCard_addsCopyOf hgrant
  | opened hok =>
    rcases openCardPack_ok hok with ⟨pack, -, existing, -, rfl⟩ |
      ⟨entitled, pack, link, card, granted, userCard, hopened⟩
    · obtain ⟨shop, reward, heq⟩ := useEntitlement_eq db _ pack.id _
      rw [heq]
      exact .inl rfl
    · obtain ⟨shop, reward, heq⟩ := useEntitlement_eq db _ pack.id _
      have hgrant := hopened.grant
      rw [hopened.rightUsed, heq] at hgrant
      obtain ⟨openings, events, rfl⟩ := hopened.after
      exact grantUserCard_addsCopyOf hgrant

omit [RecordHash Digest] in
/-- The order of the items does not matter. -/
theorem reassign_perm {proposal : TradeProposal} {items items' : List TradeItem} {row : UserCard}
    (hperm : items.Perm items') (hnodup : (items'.map (·.userCardId)).Nodup) :
    proposal.reassign items row = proposal.reassign items' row := by
  by_cases hitem : ∃ item ∈ items', item.userCardId = row.id
  · obtain ⟨item, hmem, hid⟩ := hitem
    rw [reassign_item hnodup hmem hid,
      reassign_item ((hperm.map _).nodup_iff.mpr hnodup) (hperm.mem_iff.mpr hmem) hid]
  · push Not at hitem
    rw [reassign_other hitem, reassign_other fun item hmem => hitem item (hperm.mem_iff.mp hmem)]

/-- An acceptance issues nothing and moves the items of its proposal. -/
theorem accepted_userCards (htrades : db.TradesConsistent) {a : CardAction}
    {proposal : TradeProposal} (ha : acceptedProposal db a = some proposal) :
    issuedBy db a = none ∧ (cardStep db a).userCards = db.userCards.map (movedBy db a) := by
  cases a with
  | acceptTrade proposalId userId order draws now =>
    refine ⟨rfl, ?_⟩
    rw [acceptedProposal] at ha
    rcases acceptTrade_cases db proposalId userId order draws now with
      ⟨-, e, he⟩ | ⟨-, he⟩ | ⟨proposal', status, hfind, hstatus, hok⟩
    · rw [he] at ha
      cases ha
    · rw [he] at ha
      cases ha
    · rw [hstatus] at ha
      obtain ⟨hfound, -⟩ := findPendingProposal_ok.mp hfind
      obtain rfl := Option.some.inj (ha.symm.trans hfound)
      have hitems := htrades.itemCards proposal.id
      obtain ⟨items, rows, -, hacc⟩ := acceptTradeOnce_ok hitems hok
      obtain ⟨events, heq⟩ := hacc.after
      rw [cardStep, heq]
      apply List.map_congr_left
      intro row _
      rw [movedBy, acceptedProposal, hstatus]
      simp only [hfound]
      exact reassign_perm hacc.itemsOf hitems
  | _ => cases ha

/-- The copies before a request as they are after it, and the one that it issues. -/
inductive Copies (db : CardDb Digest) (moved : List UserCard) :
    Option GrantRequest → List UserCard → Prop
  | same : Copies db moved none moved
  | issued {request : GrantRequest} (copy : UserCard) (hcard : copy.cardId = request.cardId)
      (howner : copy.userId = request.userId) (hfresh : ∀ row ∈ db.userCards, row.id ≠ copy.id)
      (hknown : request.cardId ∈ db.cards.map (·.id)) :
      Copies db moved (some request) (moved ++ [copy])

omit [RecordHash Digest] in
theorem Copies.old {moved rows : List UserCard} {issued : Option GrantRequest}
    (h : Copies db moved issued rows) {row : UserCard} (hrow : row ∈ moved) : row ∈ rows := by
  cases h with
  | same => exact hrow
  | issued => exact List.mem_append_left _ hrow

omit [RecordHash Digest] in
theorem Copies.mem {moved rows : List UserCard} {issued : Option GrantRequest}
    (h : Copies db moved issued rows) {row : UserCard} (hrow : row ∈ rows) :
    row ∈ moved ∨ ∃ request ∈ issued, row.cardId = request.cardId ∧ row.userId = request.userId ∧
      (∀ old ∈ db.userCards, old.id ≠ row.id) ∧ request.cardId ∈ db.cards.map (·.id) := by
  cases h with
  | same => exact .inl hrow
  | issued copy hcard howner hfresh hknown =>
    rcases List.mem_append.mp hrow with hold | hnew
    · exact .inl hold
    · obtain rfl := List.mem_singleton.mp hnew
      exact .inr ⟨_, rfl, hcard, howner, hfresh, hknown⟩

omit [RecordHash Digest] in
theorem Copies.new {moved rows : List UserCard} {issued : Option GrantRequest}
    (h : Copies db moved issued rows) {request : GrantRequest} (hissued : request ∈ issued) :
    ∃ copy ∈ rows, copy.cardId = request.cardId ∧ copy.userId = request.userId ∧
      ∀ old ∈ db.userCards, old.id ≠ copy.id := by
  cases h with
  | same => cases hissued
  | issued copy hcard howner hfresh =>
    obtain rfl := Option.some.inj hissued
    exact ⟨copy, List.mem_append_right _ (List.mem_singleton_self copy), hcard, howner, hfresh⟩

theorem cardStep_copies (htrades : db.TradesConsistent) (a : CardAction) :
    Copies db (db.userCards.map (movedBy db a)) (issuedBy db a) (cardStep db a).userCards := by
  cases ha : acceptedProposal db a with
  | some proposal =>
    obtain ⟨hissued, hmoved⟩ := accepted_userCards htrades ha
    rw [hissued, hmoved]
    exact .same
  | none =>
    have hmoved : db.userCards.map (movedBy db a) = db.userCards := by
      conv_rhs => rw [← List.map_id db.userCards]
      apply List.map_congr_left
      intro row _
      rw [movedBy, ha]
      rfl
    have hadds := cardStep_addsCopyOf ha
    have hcopying := (cardStep_effect htrades a).copying
    have howner := fun request => @issuedBy_userId _ _ db a request
    rw [hmoved]
    generalize issuedBy db a = issued at hcopying howner ⊢
    cases hcopying with
    | quiet hquiet =>
      rcases hadds with heq | ⟨copy, heq, -⟩
      · rw [heq]
        exact .same
      · have horigins := congrArg List.length hquiet.origins
        simp [CardDb.origins, heq] at horigins
    | @made request hmade =>
      obtain ⟨userCardId, row, horigins, -⟩ := hmade.made
      rcases hadds with heq | ⟨copy, heq, hfresh, hcollector⟩
      · have hlength := congrArg List.length horigins
        simp [CardDb.origins, heq] at hlength
      · rw [CardDb.origins, heq, List.map_append, CardDb.origins] at horigins
        have horigin := List.cons.inj (List.append_cancel_left horigins)
        obtain ⟨card, hcard, -⟩ := hmade.published
        rw [heq]
        refine .issued copy (congrArg (·.2.1) horigin.1) ?_ hfresh ?_
        · exact Option.some.inj (hcollector.symm.trans (howner request rfl))
        · have hid := List.find?_some hcard
          exact List.mem_map.mpr ⟨card, List.mem_of_find?_eq_some hcard, beq_iff_eq.mp hid⟩

omit [RecordHash Digest] in
theorem CardEffect.materials (h : CardEffect db db') : db'.materials = db.materials := by
  cases h with
  | copied hcopy => exact hcopy.materials
  | proposed hnew =>
    rw [hnew.after]
  | closed => rfl

/-- A request records what it consumes, and forgets nothing. -/
theorem cardStep_isMaterial (htrades : db.TradesConsistent) (hcopies : CopiesUnique db.userCards)
    {a : CardAction} {userCardId : UserCardId} :
    (cardStep db a).isMaterial userCardId = true ↔ ConsumedAfter db a userCardId := by
  rw [ConsumedAfter, isMaterial_iff, isMaterial_iff]
  have hmaterials : (∀ material ∈ db.materials, material ∈ (cardStep db a).materials) ∧
      ∀ material ∈ (cardStep db a).materials,
        material ∈ db.materials ∨ material.userCardId ∈ consumedBy db a := by
    refine cardStep_keeps (P := fun db' => (∀ material ∈ db.materials, material ∈ db'.materials) ∧
      ∀ material ∈ db'.materials,
        material ∈ db.materials ∨ material.userCardId ∈ consumedBy db a)
      ⟨fun _ h => h, fun _ => .inl⟩ ?_ a ?_ ?_
    · intro db' db'' hkept heffect
      rw [heffect.materials]
      exact hkept
    · intro combinations materials rows hconsumed _
      refine ⟨fun _ => List.mem_append_left _, ?_⟩
      intro material hmaterial
      exact (List.mem_append.mp hmaterial).imp_right (hconsumed material)
    · intro proposal order draws now status _ _ _ hok
      obtain ⟨_, _, -, hacc⟩ := acceptTradeOnce_ok (htrades.itemCards proposal.id) hok
      obtain ⟨events, heq⟩ := hacc.after
      rw [heq]
      exact ⟨fun _ h => h, fun _ => .inl⟩
  constructor
  · rintro ⟨material, hmaterial, hid⟩
    rcases hmaterials.2 material hmaterial with hold | hnew
    · exact .inl ⟨material, hold, hid⟩
    · exact .inr (hid ▸ hnew)
  · rintro (⟨material, hold, hid⟩ | hnew)
    · exact ⟨material, hmaterials.1 material hold, hid⟩
    · exact (consumedBy_recorded hcopies hnew).1

/-- A request consumes copies that are there. -/
theorem consumedBy_held (hcopies : CopiesUnique db.userCards) {a : CardAction}
    {userCardId : UserCardId} (hid : userCardId ∈ consumedBy db a) :
    ∃ row ∈ db.userCards, row.id = userCardId := by
  cases a with
  | combineCards userId request idempotencyKey order draws now =>
    rw [consumedBy] at hid
    split at hid
    · rename_i result hnone hok
      rcases combineCards_ok hok with ⟨-, hsome⟩ |
        ⟨-, context, materials, resultCardId, rows, granted, copy, hcombined⟩
      · rw [hnone] at hsome
        cases hsome
      · obtain ⟨row, hrow, rfl⟩ :=
          combineMaterials_complete hcopies.ids hcombined.materialsLoaded hid
        exact ⟨row, ((combineMaterials_ok hcombined.materialsLoaded).1 row hrow).1, rfl⟩
    · cases hid
  | _ => cases hid

/-- What every run keeps of the copies. -/
structure CopiesHeld (db : CardDb Digest) : Prop where
  trades : db.TradesConsistent
  copies : CopiesUnique db.userCards
  catalogued : db.Catalogued
  materials : ∀ material ∈ db.materials, ∃ row ∈ db.userCards, row.id = material.userCardId

theorem CopiesHeld.consumed_held (h : CopiesHeld db) {a : CardAction} {userCardId : UserCardId}
    (hconsumed : ConsumedAfter db a userCardId) : ∃ row ∈ db.userCards, row.id = userCardId := by
  rcases hconsumed with hold | hnew
  · obtain ⟨material, hmaterial, rfl⟩ := isMaterial_iff.mp hold
    exact h.materials material hmaterial
  · exact consumedBy_held h.copies hnew

omit [RecordHash Digest] in
theorem Genesis.copiesHeld (h : Genesis db) : CopiesHeld db := by
  refine ⟨h.tradesConsistent, ?_, ?_, ?_⟩
  · rw [h.userCards]
    exact .nil
  · simp [CardDb.Catalogued, h.userCards]
  · simp [h.materials]

/-- The identifiers of the catalogue stay. -/
theorem cardStep_cardIds (htrades : db.TradesConsistent) (a : CardAction) :
    (cardStep db a).cards.map (·.id) = db.cards.map (·.id) := by
  have hcards := (cardStep_effect htrades a).cards
  generalize (cardStep db a).cards = cards at hcards ⊢
  cases hcards with
  | same => rfl
  | limited => exact map_patch (by intro _; rfl) db.cards

theorem CopiesHeld.step (h : CopiesHeld db) (a : CardAction) : CopiesHeld (cardStep db a) := by
  have hcopies := cardStep_copies h.trades a
  refine ⟨h.trades.step a, h.copies.step a, ?_, ?_⟩
  · intro row hrow
    rw [cardStep_cardIds h.trades]
    rcases hcopies.mem hrow with hold | ⟨request, -, hcard, -, -, hknown⟩
    · obtain ⟨old, hmem, rfl⟩ := List.mem_map.mp hold
      rw [movedBy_cardId]
      exact h.catalogued old hmem
    · rw [hcard]
      exact hknown
  · intro material hmaterial
    have hconsumed : ConsumedAfter db a material.userCardId :=
      (cardStep_isMaterial h.trades h.copies).mp (isMaterial_iff.mpr ⟨material, hmaterial, rfl⟩)
    obtain ⟨row, hrow, hid⟩ := h.consumed_held hconsumed
    exact ⟨_, hcopies.old (List.mem_map_of_mem hrow), (movedBy_id a row).trans hid⟩

/-- Every holder is shown a copy after a request exactly if the request leaves it so. -/
theorem CopiesHeld.holdersShown_step (h : CopiesHeld db) (a : CardAction) :
    HoldersShown (cardStep db a) ↔ LeavesHoldersShown db a := by
  have hcopies := cardStep_copies h.trades a
  have hconsumed : ∀ userCardId, (cardStep db a).isMaterial userCardId = false ↔
      ¬ConsumedAfter db a userCardId := by
    intro userCardId
    rw [← cardStep_isMaterial h.trades h.copies, Bool.not_eq_true]
  simp only [HoldersShown, mem_unconsumed, hconsumed]
  constructor
  · intro hshown row hrow _
    have hmoved := hcopies.old (List.mem_map_of_mem hrow)
    obtain ⟨other, ⟨hother, howner, hnot⟩, hcard⟩ := hshown _ hmoved
    rw [movedBy_cardId] at hcard
    rcases hcopies.mem hother with hold | ⟨request, hissued, hcard', howner', -⟩
    · obtain ⟨old, hmem, rfl⟩ := List.mem_map.mp hold
      rw [movedBy_id] at hnot
      rw [movedBy_cardId] at hcard
      exact .inl ⟨old, hmem, hcard, howner, hnot⟩
    · exact .inr ⟨request, hissued, hcard'.symm.trans hcard, howner'.symm.trans howner⟩
  · intro hleaves row hrow
    by_cases hrowConsumed : ConsumedAfter db a row.id
    · obtain ⟨held, hheld, hid⟩ := h.consumed_held hrowConsumed
      rcases hcopies.mem hrow with hold | ⟨_, -, -, -, hfresh, -⟩
      · obtain ⟨old, hmem, rfl⟩ := List.mem_map.mp hold
        rw [movedBy_id] at hrowConsumed
        rw [movedBy_cardId]
        rcases hleaves old hmem hrowConsumed with
          ⟨other, hother, hcard, howner, hnot⟩ | ⟨request, hissued, hcard, howner⟩
        · refine ⟨movedBy db a other, ⟨hcopies.old (List.mem_map_of_mem hother), howner, ?_⟩, ?_⟩
          · rw [movedBy_id]
            exact hnot
          · rw [movedBy_cardId]
            exact hcard
        · -- the issued copy is new, and what is consumed was there
          obtain ⟨copy, hcopy, hcard', howner', hfresh⟩ := hcopies.new hissued
          refine ⟨copy, ⟨hcopy, howner'.trans howner, ?_⟩, hcard'.trans hcard⟩
          intro hcopyConsumed
          obtain ⟨held', hheld', hid'⟩ := h.consumed_held hcopyConsumed
          exact hfresh held' hheld' hid'
      · exact absurd hid (hfresh held hheld)
    · exact ⟨row, ⟨hrow, rfl, hrowConsumed⟩, rfl⟩

/-- In a run every feature counts only cards that the collection view shows exactly if every
request leaves the holders of consumed copies another copy. -/
theorem sameNotion_iff (h : Genesis db) (acts : List CardAction) :
    Throughout cardStep SameNotion db acts ↔ Always cardStep LeavesHoldersShown db acts := by
  have hheld : Throughout cardStep CopiesHeld db acts :=
    throughout_of_step h.copiesHeld fun _ a hdb => hdb.step a
  have hstart : HoldersShown db := by simp [HoldersShown, h.userCards]
  rw [throughout_iff_reached] at hheld ⊢
  rw [always_iff_split]
  constructor
  · intro hsame pre a post heq
    have hnext := hsame (pre ++ [a]) ⟨post, by simp [heq]⟩
    rw [(hheld (pre ++ [a]) ⟨post, by simp [heq]⟩).catalogued.sameNotion_iff_holders,
      run_append] at hnext
    exact ((hheld pre ⟨a :: post, heq.symm⟩).holdersShown_step a).mp hnext
  · intro hleaves pre hpre
    rw [(hheld pre hpre).catalogued.sameNotion_iff_holders]
    rcases List.eq_nil_or_concat pre with rfl | ⟨before, a, rfl⟩
    · exact hstart
    · obtain ⟨post, heq⟩ := hpre
      have hsplit : acts = before ++ a :: post := by simp [← heq]
      rw [List.concat_eq_append, run_append]
      exact ((hheld before ⟨a :: post, hsplit.symm⟩).holdersShown_step a).mpr
        (hleaves before a post hsplit)

end Steps

namespace OwnedCards

/-- The small catalogue with published releases, where two copies make a rare card. -/
def upgradeCatalogue : CardDb SymbolicDigest :=
  { smallCatalogue with
    cards :=
      [{ id := "card", name := "Card", releaseStatus := .published, dropId := some "drop" },
       { id := "rare", name := "Rare", releaseStatus := .published, dropId := some "drop" }]
    packCards :=
      [{ id := "link", packId := "pack", cardId := "card", probability := 50 },
       { id := "rare_link", packId := "pack", cardId := "rare", probability := 50 }]
    recipes :=
      [{ id := "recipe", scopeType := "card_pack", scopeId := "pack", inputQuantity := 2,
         outputRarityPool := ["rare"], probabilitySnapshot := [("rare", 100)],
         probabilityVersion := "v1.0:combination-1", status := .published }] }

theorem genesis_upgradeCatalogue : Genesis upgradeCatalogue := by
  refine ⟨rfl, rfl, rfl, rfl, rfl, rfl, ?_, ?_⟩ <;> decide

/-- A fan combines both copies of a card. -/
def combineBoth : List CardAction :=
  [.redeem "fan_a" "CODE" "redeem_code" ⟨⟨"uc_a", "ledger_a"⟩, "evt_a"⟩ 1,
   .redeem "fan_a" "CODE_2" "redeem_code" ⟨⟨"uc_b", "ledger_b"⟩, "evt_b"⟩ 2,
   .combineCards "fan_a" ⟨"recipe", ["uc_a", "uc_b"]⟩ none []
     ⟨"combination", 50, fun id => "consume_" ++ id, ⟨"uc_c", "ledger_c"⟩, "evt_c"⟩ 3]

/-- Where two copies make another copy of the card, the fan keeps one. -/
theorem sameNotion_iff_combineBoth : Throughout cardStep SameNotion smallCatalogue combineBoth :=
  (sameNotion_iff genesis_smallCatalogue combineBoth).mpr (by decide +kernel)

def combined : CardDb SymbolicDigest := cardsAfter upgradeCatalogue combineBoth

/-- Where they make a rare card, the view shows no copy of the card any more, and the benefits,
their claims and the achievements still count it. -/
theorem sameNotion_fails : Genesis upgradeCatalogue ∧
    ¬ShownInCollection (oneCardShelf "card") combined "fan_a" "card" ∧
    CountsInBenefits (oneCardShelf "card") combined "fan_a" "card" ∧
    CountsInClaims (oneCardShelf "card") combined "fan_a" "card" ∧
    CountsInAchievements (oneCardShelf "card") combined "fan_a" "card" ∧
    ¬Throughout cardStep SameNotion upgradeCatalogue combineBoth := by
  have hhidden : ¬ShownInCollection (oneCardShelf "card") combined "fan_a" "card" := by decide +kernel
  have hbenefits : CountsInBenefits (oneCardShelf "card") combined "fan_a" "card" :=
    ⟨[], [], by decide +kernel⟩
  refine ⟨genesis_upgradeCatalogue, hhidden, hbenefits, ?_, ?_, ?_⟩
  · exact ⟨"campaign", "claim", 4,
      fun heq => absurd (congrArg Except.isOk heq) (by decide +kernel)⟩
  · exact ⟨[], { conditionType := .specificCard, conditionPayload := { cardId := some "card" } },
      by decide +kernel⟩
  · intro hsame
    exact hhidden (hsame.last _ _ _ (.inl hbenefits))

end OwnedCards

end Fanfolio
