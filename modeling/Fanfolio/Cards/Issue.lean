import Fanfolio.Cards.TradeLocks

/-!
# What a request issues

A copy keeps its identifier, its card and its code for good, whoever holds it. A request
creates at most one copy, and records a grant for it.
-/

namespace Fanfolio

open Framework

section

variable {Digest : Type}

/-- What stays with a copy, whoever holds it. -/
def UserCard.origin (row : UserCard) : UserCardId × CardId × Option CodeId :=
  (row.id, row.cardId, row.redeemCodeId)

def CardDb.origins (db : CardDb Digest) : List (UserCardId × CardId × Option CodeId) :=
  db.userCards.map UserCard.origin

/-- The grants that the ledger records. -/
def CardDb.grants (db : CardDb Digest) : List (CardOwnershipLedger Digest) :=
  db.ledger.filter (fun row => row.action == "grant")

/-- The grant, unless its source was granted before. -/
def CardDb.newGrant (db : CardDb Digest) (request : Option GrantRequest) : Option GrantRequest :=
  request.filter fun request =>
    (db.grantedCard request.userId request.sourceType request.sourceId).isNone

/-- The grant that a redemption makes. -/
def CardDb.redeemRequest (db : CardDb Digest) (userId : UserId) (codeValue : CodeId)
    (acquisitionSource : String) : Option GrantRequest := do
  let code ← db.findCode codeValue
  let card ← db.findCard code.cardId
  let drop ← db.findDrop code.dropId
  return redeemGrant userId code card drop acquisitionSource

/-- The grant that a combination makes. -/
def CardDb.combineRequest (db : CardDb Digest) (userId : UserId) (request : CardCombinationRequest)
    (draws : CombineDraws) : Option GrantRequest := do
  let context ← (recipeContext db request.recipeId).toOption
  let resultCardId ← weightedChoice context.recipe.probabilitySnapshot draws.target
  return combinationGrant userId resultCardId draws.combinationId context

/-- The grant that an opening makes. -/
def CardDb.openRequest (db : CardDb Digest) (userId : UserId) (packId : PackId)
    (idempotencyKey : Option String) (draws : OpenDraws) (now : Time) : Option GrantRequest := do
  let pack ← db.packs.find? (fun row => row.id == packId && row.status == .published)
  let entitled := db.useEntitlement userId pack.id now
  match entitled.findOpening userId pack.id idempotencyKey with
  | some _ => none
  | none =>
    let (link, selected) ←
      pickOrLast draws.draw ((entitled.packRows pack.id).map fun row => (row, row.1.probability))
    let card ← entitled.findCard selected.id
    return openingGrant userId card pack link.probability draws

/-- The rows that no copy and no grant was added to. -/
structure NoCopy (db db' : CardDb Digest) : Prop where
  origins : db'.origins = db.origins
  grants : db'.grants = db.grants

/-- A copy was created, and its grant recorded. -/
structure CopyMade (db db' : CardDb Digest) (request : GrantRequest) : Prop where
  notGranted : db.grantedCard request.userId request.sourceType request.sourceId = none
  published : ∃ card, db.findCard request.cardId = some card ∧ card.status = .published
  made : ∃ userCardId row,
    db'.origins = db.origins ++ [(userCardId, request.cardId, request.redeemCodeId)] ∧
    db'.grants = db.grants ++ [row] ∧ row.userCardId = userCardId ∧
    row.isGrant request.userId request.sourceType request.sourceId

/-- The copy that the request stands for was created, and none without one. -/
inductive Copying (db db' : CardDb Digest) : Option GrantRequest → Prop
  | quiet (h : NoCopy db db') : Copying db db' none
  | made {request : GrantRequest} (h : CopyMade db db' request) : Copying db db' (some request)

variable {db db' db'' : CardDb Digest}

theorem NoCopy.refl (db : CardDb Digest) : NoCopy db db := ⟨rfl, rfl⟩

variable [RecordHash Digest]

omit [RecordHash Digest] in
theorem Accepted.noCopy {proposal : TradeProposal} {items : List TradeItem}
    {rows : List (CardOwnershipLedger Digest)} {now : Time}
    (h : Accepted db db' proposal items rows now) : NoCopy db db' := by
  obtain ⟨events, rfl⟩ := h.after
  refine ⟨?_, ?_⟩
  · show (db.userCards.map (proposal.reassign items)).map UserCard.origin = _
    rw [List.map_map, CardDb.origins]
    apply List.map_congr_left
    intro row _
    simp only [Function.comp_apply, TradeProposal.reassign]
    split <;> rfl
  · show (db.ledger ++ rows).filter _ = db.ledger.filter _
    have hrows : rows.filter (fun row => row.action == "grant") = [] := by
      rw [List.filter_eq_nil_iff]
      intro row hrow
      obtain ⟨item, -, haction, -⟩ := h.transfers row hrow
      simp [haction]
    rw [List.filter_append, hrows, List.append_nil]

theorem Issued.copyMade {request : GrantRequest} {draws : GrantDraws} {now : Time}
    {userCard : UserCard} (h : Issued db db' request draws now userCard) :
    CopyMade db db' request := by
  refine ⟨h.notGranted, h.published, draws.userCardId, ownershipRow db.ledger
    (request.event draws.userCardId) draws.ledgerId now, ?_, ?_, rfl, ?_⟩
  · rw [h.after, CardDb.origins, h.row]
    simp [CardDb.origins, UserCard.origin, GrantRequest.userCard]
  · rw [h.after, CardDb.grants, List.filter_append]
    rfl
  · simp [CardOwnershipLedger.isGrant, ownershipRow, GrantRequest.event]

/-- A grant creates a copy unless its source was granted before. -/
theorem grantUserCard_copying {request : GrantRequest} {draws : GrantDraws} {now : Time}
    {userCard : UserCard} (h : grantUserCard db request draws now = .ok (db', userCard)) :
    Copying db db' (db.newGrant (some request)) ∧ db'.cards = db.cards ∧ db'.codes = db.codes := by
  rcases grantUserCard_ok h with ⟨rfl, hgranted⟩ | hissued
  · have hnone : db'.newGrant (some request) = none := by
      simp [CardDb.newGrant, hgranted, Option.filter]
    rw [hnone]
    exact ⟨.quiet (.refl db'), rfl, rfl⟩
  · have hnew : db.newGrant (some request) = some request := by
      simp [CardDb.newGrant, hissued.notGranted, Option.filter]
    rw [hnew]
    refine ⟨.made hissued.copyMade, ?_, ?_⟩ <;> rw [hissued.after]

omit [RecordHash Digest] in
theorem grantedCard_eq (db : CardDb Digest) (userId : UserId) (sourceType sourceId : String) :
    db.grantedCard userId sourceType sourceId =
      (db.grants.find? (·.isGrant userId sourceType sourceId)).bind
        fun row => db.findUserCard row.userCardId := by
  have hfind : db.grants.find? (·.isGrant userId sourceType sourceId) =
      db.ledger.find? (·.isGrant userId sourceType sourceId) := by
    rw [CardDb.grants, List.find?_filter]
    congr 1
    funext row
    rw [Bool.eq_iff_iff]
    simp only [CardOwnershipLedger.isGrant, decide_eq_true_eq, Bool.and_eq_true, beq_iff_eq]
    tauto
  rw [CardDb.grantedCard, hfind]

/-- A grant inside a request is a grant of the request. -/
theorem grantUserCard_copying_within {mid granted : CardDb Digest} {request : GrantRequest}
    {draws : GrantDraws} {now : Time} {userCard : UserCard}
    (h : grantUserCard mid request draws now = .ok (granted, userCard))
    (huserCards : mid.userCards = db.userCards) (hgrants : mid.grants = db.grants)
    (hcards : mid.cards = db.cards) (huserCards' : db'.userCards = granted.userCards)
    (hledger' : db'.ledger = granted.ledger) :
    Copying db db' (db.newGrant (some request)) := by
  have hgranted : ∀ userId sourceType sourceId,
      mid.grantedCard userId sourceType sourceId = db.grantedCard userId sourceType sourceId := by
    intro userId sourceType sourceId
    rw [grantedCard_eq, grantedCard_eq, hgrants]
    simp only [CardDb.findUserCard, huserCards]
  have hnew : mid.newGrant (some request) = db.newGrant (some request) := by
    simp only [CardDb.newGrant, hgranted]
  have horigins : mid.origins = db.origins := by rw [CardDb.origins, huserCards, CardDb.origins]
  have horigins' : db'.origins = granted.origins := by
    rw [CardDb.origins, huserCards', CardDb.origins]
  have hgrants' : db'.grants = granted.grants := by rw [CardDb.grants, hledger', CardDb.grants]
  have hcopying := (grantUserCard_copying h).1
  rw [hnew] at hcopying
  generalize db.newGrant (some request) = issued at hcopying ⊢
  cases hcopying with
  | quiet hquiet =>
    exact .quiet ⟨horigins'.trans (hquiet.origins.trans horigins),
      hgrants'.trans (hquiet.grants.trans hgrants)⟩
  | made hmade =>
    refine .made ⟨?_, ?_, ?_⟩
    · rw [← hgranted]
      exact hmade.notGranted
    · obtain ⟨card, hcard, hstatus⟩ := hmade.published
      rw [CardDb.findCard, hcards] at hcard
      exact ⟨card, hcard, hstatus⟩
    · rw [horigins', hgrants', ← horigins, ← hgrants]
      exact hmade.made

end

section

variable {Digest : Type} [RecordHash Digest]

/-- The grant of the copy that a request creates. -/
def issuedBy (db : CardDb Digest) : CardAction → Option GrantRequest
  | .redeem userId codeValue acquisitionSource draws now =>
    match redeem db userId codeValue acquisitionSource draws now with
    | .ok _ => db.newGrant (db.redeemRequest userId codeValue acquisitionSource)
    | .error _ => none
  | .combineCards userId request idempotencyKey order draws now =>
    match db.findCombination userId idempotencyKey,
        combineCards db userId request idempotencyKey order draws now with
    | none, .ok _ => db.newGrant (db.combineRequest userId request draws)
    | _, _ => none
  | .openCardPack userId packId idempotencyKey draws now =>
    match openCardPack db userId packId idempotencyKey draws now with
    | .ok _ => db.newGrant (db.openRequest userId packId idempotencyKey draws now)
    | .error _ => none
  | _ => none

/-- The grant is that of the redemption, the combination or the opening that is asked for. -/
inductive IssuedFor : CardAction → GrantRequest → Prop
  | redeemed {userId : UserId} {codeValue : CodeId} {acquisitionSource : String}
      {draws : RedeemDraws} {now : Time} (code : RedeemCode) (card : Card) (drop : Drop) :
      IssuedFor (.redeem userId codeValue acquisitionSource draws now)
        (redeemGrant userId code card drop acquisitionSource)
  | combined {userId : UserId} {request : CardCombinationRequest} {idempotencyKey : Option String}
      {order : List UserCard} {draws : CombineDraws} {now : Time} (resultCardId : CardId)
      (context : RecipeContext) :
      IssuedFor (.combineCards userId request idempotencyKey order draws now)
        (combinationGrant userId resultCardId draws.combinationId context)
  | opened {userId : UserId} {packId : PackId} {idempotencyKey : Option String} {draws : OpenDraws}
      {now : Time} (card : Card) (pack : CardPack) (probability : ℚ) :
      IssuedFor (.openCardPack userId packId idempotencyKey draws now)
        (openingGrant userId card pack probability draws)

theorem issuedFor_of_issuedBy {db : CardDb Digest} {a : CardAction} {request : GrantRequest}
    (h : request ∈ issuedBy db a) : IssuedFor a request := by
  cases a with
  | redeem userId codeValue acquisitionSource draws now =>
    rw [issuedBy] at h
    split at h
    · obtain ⟨h, -⟩ := Option.mem_filter_iff.mp h
      simp only [CardDb.redeemRequest, Option.mem_def, Option.bind_eq_bind,
        Option.bind_eq_some_iff, Option.pure_def, Option.some.injEq] at h
      obtain ⟨code, -, card, -, drop, -, rfl⟩ := h
      exact .redeemed code card drop
    · cases h
  | combineCards userId request idempotencyKey order draws now =>
    rw [issuedBy] at h
    split at h
    · obtain ⟨h, -⟩ := Option.mem_filter_iff.mp h
      simp only [CardDb.combineRequest, Option.mem_def, Option.bind_eq_bind,
        Option.bind_eq_some_iff, Option.pure_def, Option.some.injEq] at h
      obtain ⟨context, -, resultCardId, -, rfl⟩ := h
      exact .combined resultCardId context
    · cases h
  | openCardPack userId packId idempotencyKey draws now =>
    rw [issuedBy] at h
    split at h
    · obtain ⟨h, -⟩ := Option.mem_filter_iff.mp h
      simp only [CardDb.openRequest, Option.mem_def, Option.bind_eq_bind,
        Option.bind_eq_some_iff] at h
      obtain ⟨pack, -, h⟩ := h
      split at h
      · cases h
      · simp only [Option.bind_eq_some_iff, Option.pure_def, Option.some.injEq] at h
        obtain ⟨⟨link, selected⟩, -, card, -, rfl⟩ := h
        exact .opened card pack link.probability
    · cases h
  | _ => cases h

/-- The catalogue after a request. -/
inductive CardsStep (db : CardDb Digest) : CardAction → List Card → Prop
  | same {a : CardAction} : CardsStep db a db.cards
  | limited {cardId : CardId} {issueLimit : Option Nat} {card : Card}
      (hfind : db.findCard cardId = some card) (hstatus : card.status ≠ .published) :
      CardsStep db (.updateAdminCard cardId issueLimit)
        (patch (·.id == card.id) ({ · with issueLimit := issueLimit }) db.cards)

/-- The codes after a request. -/
inductive CodesStep (db : CardDb Digest) : CardAction → List RedeemCode → Prop
  | same {a : CardAction} : CodesStep db a db.codes
  | used {userId : UserId} {codeValue : CodeId} {acquisitionSource : String}
      {draws : RedeemDraws} {now : Time} (code : RedeemCode)
      (hfound : db.findCode codeValue = some code) (hleft : code.usedCount < code.maxUses) :
      CodesStep db (.redeem userId codeValue acquisitionSource draws now) (db.countUse code).codes
  | issued {payload : CodeBatchRequest} {isRoot : Bool} {draw : Nat → String} {expiresAt : Time}
      (hnodup : ((db.codes ++ payload.newCodes draw expiresAt).map (·.code)).Nodup) :
      CodesStep db (.codeBatch payload isRoot draw) (db.codes ++ payload.newCodes draw expiresAt)
  | updated {codeId : CodeId} {status : CodeStatus} {now : Time} (code : CodeId) :
      CodesStep db (.updateRedeemCode codeId status now)
        (patch (·.code == code) (status.update now) db.codes)

/-- What a request does to the copies, the catalogue and the codes. -/
structure StepEffect (db : CardDb Digest) (a : CardAction) (db' : CardDb Digest) : Prop where
  copying : Copying db db' (issuedBy db a)
  cards : CardsStep db a db'.cards
  codes : CodesStep db a db'.codes

variable {db db' : CardDb Digest}

theorem redeem_stepEffect {userId : UserId} {codeValue : CodeId} {acquisitionSource : String}
    {draws : RedeemDraws} {now : Time} {result : Redemption}
    (h : redeem db userId codeValue acquisitionSource draws now = .ok (db', result)) :
    StepEffect db (.redeem userId codeValue acquisitionSource draws now) db' := by
  obtain ⟨code, granted, userCard, hredeemed⟩ := redeem_ok h
  obtain ⟨card, drop, hcard, hdrop, hgrant⟩ := hredeemed.grant
  obtain ⟨events, rfl⟩ := hredeemed.after
  have hrequest : db.redeemRequest userId codeValue acquisitionSource =
      some (redeemGrant userId code card drop acquisitionSource) := by
    simp [CardDb.redeemRequest, hredeemed.found, hcard, hdrop]
  obtain ⟨-, hcards, hcodes⟩ := grantUserCard_copying hgrant
  refine ⟨?_, ?_, ?_⟩
  · rw [issuedBy, h]
    simp only [hrequest]
    exact grantUserCard_copying_within hgrant rfl rfl rfl rfl rfl
  · show CardsStep db _ granted.cards
    rw [hcards]
    exact .same
  · show CodesStep db _ granted.codes
    rw [hcodes]
    exact .used code hredeemed.found hredeemed.left

theorem openCardPack_stepEffect {userId : UserId} {packId : PackId}
    {idempotencyKey : Option String} {draws : OpenDraws} {now : Time} {opened : PackOpened}
    (h : openCardPack db userId packId idempotencyKey draws now = .ok (db', opened)) :
    StepEffect db (.openCardPack userId packId idempotencyKey draws now) db' := by
  rcases openCardPack_ok h with ⟨pack, hpack, existing, hexisting, rfl⟩ |
    ⟨entitled, pack, link, card, granted, userCard, hopened⟩
  · obtain ⟨shop, reward, heq⟩ := useEntitlement_eq db userId pack.id now
    have hrequest : db.openRequest userId packId idempotencyKey draws now = none := by
      simp [CardDb.openRequest, hpack, hexisting]
    refine ⟨?_, ?_, ?_⟩
    · rw [issuedBy, h]
      simp only [hrequest, CardDb.newGrant, Option.filter_none]
      rw [heq]
      exact .quiet ⟨rfl, rfl⟩
    · rw [heq]
      exact .same
    · rw [heq]
      exact .same
  · obtain ⟨shop, reward, heq⟩ := useEntitlement_eq db userId pack.id now
    obtain ⟨selected, hselected, hcard⟩ := hopened.choice
    have hgrant := hopened.grant
    have hentitled := hopened.rightUsed
    have hrequest : db.openRequest userId packId idempotencyKey draws now =
        some (openingGrant userId card pack link.probability draws) := by
      have hnone := hopened.firstTime
      rw [hentitled] at hselected hcard hnone
      simp [CardDb.openRequest, hopened.packFound, hselected, hcard, hnone]
    obtain ⟨-, hcards, hcodes⟩ := grantUserCard_copying hgrant
    obtain ⟨openings, events, rfl⟩ := hopened.after
    rw [hentitled, heq] at hgrant hcards hcodes
    refine ⟨?_, ?_, ?_⟩
    · rw [issuedBy, h]
      simp only [hrequest]
      exact grantUserCard_copying_within hgrant rfl rfl rfl rfl rfl
    · show CardsStep db _ granted.cards
      rw [hcards]
      exact .same
    · show CodesStep db _ granted.codes
      rw [hcodes]
      exact .same

theorem combineCards_stepEffect {userId : UserId} {request : CardCombinationRequest}
    {idempotencyKey : Option String} {order : List UserCard} {draws : CombineDraws} {now : Time}
    {combination : CardCombination}
    (h : combineCards db userId request idempotencyKey order draws now = .ok (db', combination)) :
    StepEffect db (.combineCards userId request idempotencyKey order draws now) db' := by
  rcases combineCards_ok h with ⟨rfl, hexisting⟩ |
    ⟨hnew, context, materials, resultCardId, rows, granted, copy, hcombined⟩
  · refine ⟨?_, .same, .same⟩
    rw [issuedBy, hexisting]
    exact .quiet (.refl db')
  · obtain ⟨combinations, hgrant⟩ := hcombined.grant
    obtain ⟨combinations', events, rfl⟩ := hcombined.after
    have hrequest : db.combineRequest userId request draws =
        some (combinationGrant userId resultCardId draws.combinationId context) := by
      simp [CardDb.combineRequest, hcombined.contextLoaded, Except.toOption, hcombined.choice]
    have hrows : rows.filter (fun row => row.action == "grant") = [] := by
      rw [List.filter_eq_nil_iff]
      intro row hrow
      simp [hcombined.consumed row hrow]
    obtain ⟨-, hcards, hcodes⟩ := grantUserCard_copying hgrant
    refine ⟨?_, ?_, ?_⟩
    · rw [issuedBy, hnew, h]
      simp only [hrequest]
      refine grantUserCard_copying_within hgrant rfl ?_ rfl rfl rfl
      rw [CardDb.grants, List.filter_append, hrows, List.append_nil, CardDb.grants]
    · show CardsStep db _ granted.cards
      rw [hcards]
      exact .same
    · show CodesStep db _ granted.codes
      rw [hcodes]
      exact .same

theorem StepEffect.quiet {a : CardAction} (hissued : issuedBy db a = none) (h : NoCopy db db')
    (hcards : db'.cards = db.cards) (hcodes : db'.codes = db.codes) : StepEffect db a db' := by
  refine ⟨?_, ?_, ?_⟩
  · rw [hissued]
    exact .quiet h
  · rw [hcards]
    exact .same
  · rw [hcodes]
    exact .same

/-- Requests that only close proposals. -/
theorem Swept.stepEffect {a : CardAction} (h : Swept db db') (hissued : issuedBy db a = none) :
    StepEffect db a db' := by
  obtain ⟨hquiet, hcards, hcodes⟩ := h.keeps
    (P := fun db' => NoCopy db db' ∧ db'.cards = db.cards ∧ db'.codes = db.codes)
    ⟨.refl db, rfl, rfl⟩ fun _ _ _ _ _ h => ⟨⟨h.1.origins, h.1.grants⟩, h.2⟩
  exact .quiet hissued hquiet hcards hcodes

/-- A request that is rolled back does nothing. -/
theorem StepEffect.commitOr {α : Type} {a : CardAction} {attempt : Except Failure (CardDb Digest × α)}
    (hrefused : ∀ e, attempt = .error e → issuedBy db a = none)
    (hok : ∀ db' result, attempt = .ok (db', result) → StepEffect db a db') :
    StepEffect db a (Framework.commitOr db attempt) := by
  cases hattempt : attempt with
  | error e => exact .quiet (hrefused e hattempt) (.refl db) rfl rfl
  | ok result => exact hok result.1 result.2 hattempt

theorem cardStep_effect (htrades : db.TradesConsistent) (a : CardAction) :
    StepEffect db a (cardStep db a) := by
  cases a with
  | redeem =>
    refine .commitOr ?_ fun _ _ => redeem_stepEffect
    intro e he
    rw [issuedBy, he]
  | codeBatch payload isRoot draw =>
    refine .commitOr (fun _ _ => rfl) fun db' result hok => ?_
    obtain ⟨expiresAt, hnodup, rfl⟩ := codeBatch_ok hok
    exact ⟨.quiet ⟨rfl, rfl⟩, .same, .issued hnodup⟩
  | updateRedeemCode =>
    refine .commitOr (fun _ _ => rfl) fun db' result hok => ?_
    obtain ⟨code, rfl⟩ := updateRedeemCode_ok hok
    exact ⟨.quiet ⟨rfl, rfl⟩, .same, .updated code⟩
  | createTrade =>
    refine .commitOr (fun _ _ => rfl) fun db' result hok => ?_
    obtain ⟨items, -, hnew⟩ := createTrade_ok hok
    rw [hnew.after]
    exact .quiet rfl ⟨rfl, rfl⟩ rfl rfl
  | acceptTrade proposalId userId order draws now =>
    rcases acceptTrade_cases db proposalId userId order draws now with
      ⟨heq, -⟩ | ⟨heq, -⟩ | ⟨proposal, status, -, -, hok⟩
    · rw [cardStep, heq]
      exact Swept.refl.stepEffect rfl
    · rw [cardStep, heq]
      exact (Swept.refl.close proposalId now (by decide)).stepEffect rfl
    · obtain ⟨items, rows, -, hacc⟩ := acceptTradeOnce_ok (htrades.itemCards proposal.id) hok
      have hquiet := hacc.noCopy
      obtain ⟨events, heq⟩ := hacc.after
      exact .quiet rfl hquiet (by rw [cardStep, heq]; rfl) (by rw [cardStep, heq]; rfl)
  | rejectTrade proposalId userId now =>
    exact (swept_rejectOrCancel db proposalId userId _ (by decide) now).stepEffect rfl
  | cancelTrade proposalId userId now =>
    exact (swept_rejectOrCancel db proposalId userId _ (by decide) now).stepEffect rfl
  | tradeInbox userId box tradeStatus now => exact (swept_expireAll db now _).stepEffect rfl
  | tradeDetail userId proposalId now =>
    exact (swept_tradeDetail db userId proposalId now).stepEffect rfl
  | holdTrade =>
    refine .commitOr (fun _ _ => rfl) fun db' result hok => ?_
    obtain ⟨_, rfl⟩ := holdTrade_ok hok
    exact .quiet rfl ⟨rfl, rfl⟩ rfl rfl
  | releaseTrade =>
    refine .commitOr (fun _ _ => rfl) fun db' result hok => ?_
    obtain ⟨_, rfl⟩ := releaseTrade_ok hok
    exact .quiet rfl ⟨rfl, rfl⟩ rfl rfl
  | createCombinationRecipe =>
    refine .commitOr (fun _ _ => rfl) fun db' result hok => ?_
    obtain ⟨_, rfl⟩ := createCombinationRecipe_ok hok
    exact .quiet rfl ⟨rfl, rfl⟩ rfl rfl
  | combineCards =>
    refine .commitOr ?_ fun _ _ => combineCards_stepEffect
    intro e he
    rw [issuedBy, he]
    split <;> simp_all
  | openCardPack =>
    refine .commitOr ?_ fun _ _ => openCardPack_stepEffect
    intro e he
    rw [issuedBy, he]
  | updateAdminCard =>
    refine .commitOr (fun _ _ => rfl) fun db' result hok => ?_
    obtain ⟨card, hfind, hstatus, rfl⟩ := updateAdminCard_ok hok
    exact ⟨.quiet ⟨rfl, rfl⟩, .limited hfind hstatus, .same⟩

end

end Fanfolio
