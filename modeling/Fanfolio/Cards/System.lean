import Fanfolio.Cards.Redeem
import Fanfolio.Cards.TradeRequests
import Fanfolio.Cards.Pack
import Fanfolio.Framework.Run

/-!
# The card system

One step is one request, with the identifiers it draws, the order in which the database
returns unordered rows, and the clock. A request that fails is rolled back, except that an
expired trade proposal stays closed.
-/

namespace Fanfolio

open Framework

/-- A request to the card system. -/
inductive CardAction where
  | redeem (userId : UserId) (codeValue : CodeId) (acquisitionSource : String)
      (draws : RedeemDraws) (now : Time)
  | codeBatch (payload : CodeBatchRequest) (isRoot : Bool) (draw : Nat → String)
  | updateRedeemCode (codeId : CodeId) (status : CodeStatus) (now : Time)
  | createTrade (userId : UserId) (payload : TradeProposalCreate) (proposalId : ProposalId)
      (now : Time)
  | acceptTrade (proposalId : ProposalId) (userId : UserId) (order : List TradeItem)
      (draws : AcceptDraws) (now : Time)
  | rejectTrade (proposalId : ProposalId) (userId : UserId) (now : Time)
  | cancelTrade (proposalId : ProposalId) (userId : UserId) (now : Time)
  | tradeInbox (userId : UserId) (box : TradeBox) (tradeStatus : Option ProposalStatus)
      (now : Time)
  | tradeDetail (userId : UserId) (proposalId : ProposalId) (now : Time)
  | holdTrade (proposalId : ProposalId)
  | releaseTrade (proposalId : ProposalId) (now : Time)
  | createCombinationRecipe (payload : CardCombinationRecipeCreate) (recipeId : RecipeId)
  | combineCards (userId : UserId) (request : CardCombinationRequest)
      (idempotencyKey : Option String) (order : List UserCard) (draws : CombineDraws) (now : Time)
  | openCardPack (userId : UserId) (packId : PackId) (idempotencyKey : Option String)
      (draws : OpenDraws) (now : Time)
  | updateAdminCard (cardId : CardId) (issueLimit : Option Nat)

section

variable {Digest : Type}

/-- `update_admin_card`, for the issue limit. -/
def updateAdminCard (db : CardDb Digest) (cardId : CardId) (issueLimit : Option Nat) :
    Except Failure (CardDb Digest × Unit) := do
  let card ← orFail (db.findCard cardId)
    (.app ⟨404, "CARD_NOT_FOUND", "카드를 찾을 수 없습니다."⟩)
  ensure (card.status ≠ .published)
    (.app ⟨409, "INVALID_CARD_STATUS", "공개된 카드는 운영 화면에서 수정할 수 없습니다."⟩)
  return ({ db with
    cards := patch (·.id == card.id) ({ · with issueLimit := issueLimit }) db.cards }, ())

/-- At most one copy is added, with its grant in the ledger, and the rest is left alone. -/
structure CopyEffect (db db' : CardDb Digest) : Prop where
  adds : AddsCopy db.userCards db'.userCards
  records : ∃ rows, (∀ row ∈ rows, row.action = "grant") ∧ db'.ledger = db.ledger ++ rows
  proposals : db'.proposals = db.proposals
  items : db'.items = db.items
  locks : db'.locks = db.locks
  materials : db'.materials = db.materials

/-- What a request can do to the cards and trades, other than accept a trade or consume cards. -/
inductive CardEffect (db : CardDb Digest) : CardDb Digest → Prop
  | copied {db' : CardDb Digest} (h : CopyEffect db db') : CardEffect db db'
  | proposed {db' : CardDb Digest} {userId : UserId} {payload : TradeProposalCreate}
      {proposal : TradeProposal} {items : List TradeItem}
      (h : Proposed db db' userId payload proposal items) : CardEffect db db'
  | closed (proposalId : ProposalId) {status : ProposalStatus} (now : Time)
      (h : status ≠ .pending) : CardEffect db (db.closeProposal proposalId status now)

variable [RecordHash Digest]

/-- The database after one request. -/
def cardStep (db : CardDb Digest) : CardAction → CardDb Digest
  | .redeem userId codeValue acquisitionSource draws now =>
    commitOr db (redeem db userId codeValue acquisitionSource draws now)
  | .codeBatch payload isRoot draw => commitOr db (codeBatch db payload isRoot draw)
  | .updateRedeemCode codeId status now => commitOr db (updateRedeemCode db codeId status now)
  | .createTrade userId payload proposalId now =>
    commitOr db (createTrade db userId payload proposalId now)
  | .acceptTrade proposalId userId order draws now =>
    (acceptTrade db proposalId userId order draws now).1
  | .rejectTrade proposalId userId now => (rejectTrade db proposalId userId now).1
  | .cancelTrade proposalId userId now => (cancelTrade db proposalId userId now).1
  | .tradeInbox userId box tradeStatus now => (tradeInbox db userId box tradeStatus now).1
  | .tradeDetail userId proposalId now => (tradeDetail db userId proposalId now).1
  | .holdTrade proposalId => commitOr db (holdTrade db proposalId)
  | .releaseTrade proposalId now => commitOr db (releaseTrade db proposalId now)
  | .createCombinationRecipe payload recipeId =>
    commitOr db (createCombinationRecipe db payload recipeId)
  | .combineCards userId request idempotencyKey order draws now =>
    commitOr db (combineCards db userId request idempotencyKey order draws now)
  | .openCardPack userId packId idempotencyKey draws now =>
    commitOr db (openCardPack db userId packId idempotencyKey draws now)
  | .updateAdminCard cardId issueLimit => commitOr db (updateAdminCard db cardId issueLimit)

/-- The database after a list of requests. -/
def cardsAfter (db : CardDb Digest) (acts : List CardAction) : CardDb Digest :=
  run cardStep db acts

/-- A database before the first request of a fan: a catalogue, and codes that nobody used. -/
structure Genesis (db : CardDb Digest) : Prop where
  userCards : db.userCards = []
  ledger : db.ledger = []
  proposals : db.proposals = []
  items : db.items = []
  locks : db.locks = []
  materials : db.materials = []
  codeIds : (db.codes.map (·.code)).Nodup
  unused : ∀ code ∈ db.codes, code.usedCount = 0

omit [RecordHash Digest] in
theorem updateAdminCard_ok {db db' : CardDb Digest} {cardId : CardId} {issueLimit : Option Nat}
    {u : Unit} (h : updateAdminCard db cardId issueLimit = .ok (db', u)) :
    ∃ card, db.findCard cardId = some card ∧ card.status ≠ .published ∧
      db' = { db with
        cards := patch (·.id == card.id) ({ · with issueLimit := issueLimit }) db.cards } := by
  simp only [updateAdminCard, bind_ok, orFail_ok, ensure_ok, exists_const, pure_ok,
    Prod.mk.injEq] at h
  obtain ⟨card, hcard, hstatus, rfl, -⟩ := h
  exact ⟨card, hcard, hstatus, rfl⟩

/-- The proposal whose cards a request hands over. -/
def acceptedProposal (db : CardDb Digest) : CardAction → Option TradeProposal
  | .acceptTrade proposalId userId order draws now =>
    match (acceptTrade db proposalId userId order draws now).2 with
    | .ok _ => db.findProposal proposalId
    | .error _ => none
  | _ => none

/-- The cards that a request consumes. -/
def consumedBy (db : CardDb Digest) : CardAction → List UserCardId
  | .combineCards userId request idempotencyKey order draws now =>
    match db.findCombination userId idempotencyKey,
        combineCards db userId request idempotencyKey order draws now with
    | none, .ok _ => request.materialUserCardIds
    | _, _ => []
  | _ => []

omit [RecordHash Digest] in
/-- Proposals are closed, one after the other, and nothing else happens. -/
inductive Swept (db : CardDb Digest) : CardDb Digest → Prop
  | refl : Swept db db
  | close {db' : CardDb Digest} (h : Swept db db') (proposalId : ProposalId)
      {status : ProposalStatus} (now : Time) (hstatus : status ≠ .pending) :
      Swept db (db'.closeProposal proposalId status now)

omit [RecordHash Digest] in
theorem Swept.keeps {P : CardDb Digest → Prop} {db db' : CardDb Digest} (h : Swept db db')
    (hdb : P db) (hclose : ∀ db proposalId status now, status ≠ .pending → P db →
      P (db.closeProposal proposalId status now)) : P db' := by
  induction h with
  | refl => exact hdb
  | close _ proposalId now hstatus ih => exact hclose _ proposalId _ now hstatus ih

omit [RecordHash Digest] in
theorem swept_rejectOrCancel (db : CardDb Digest) (proposalId : ProposalId) (userId : UserId)
    (role : TradeParty) {status : ProposalStatus} (hstatus : status ≠ .pending) (now : Time) :
    Swept db (rejectOrCancel db proposalId userId role status now).1 := by
  rcases rejectOrCancel_cases db proposalId userId role status now with heq | heq | heq <;> rw [heq]
  · exact .refl
  · exact .close .refl _ _ (by decide)
  · exact .close .refl _ _ hstatus

omit [RecordHash Digest] in
theorem swept_expireAll (db : CardDb Digest) (now : Time) (proposals : List TradeProposal) :
    Swept db (expireAll db now proposals) :=
  expireAll_keeps .refl (fun _ _ h => .close h _ _ (by decide)) proposals

omit [RecordHash Digest] in
theorem swept_tradeDetail (db : CardDb Digest) (userId : UserId) (proposalId : ProposalId)
    (now : Time) : Swept db (tradeDetail db userId proposalId now).1 := by
  rw [tradeDetail]
  split
  · exact .refl
  · rename_i proposal hfind
    split
    · exact .refl
    · rcases expireTradeProposal_cases db proposal now with heq | ⟨heq, -⟩ <;> rw [heq]
      · exact .refl
      · exact .close .refl _ _ (by decide)

/-- What one request does to the tables: nothing, or what its handler does when it succeeds. -/
inductive CardStepped (db : CardDb Digest) : CardAction → CardDb Digest → Prop
  | swept {a : CardAction} {db' : CardDb Digest} (h : Swept db db') : CardStepped db a db'
  | edited {a : CardAction} (codes : List RedeemCode) (holds : List TradeHold)
      (recipes : List CardCombinationRecipe) :
      CardStepped db a { db with codes := codes, holds := holds, recipes := recipes }
  | limited {cardId : CardId} {issueLimit : Option Nat} {card : Card} :
      CardStepped db (.updateAdminCard cardId issueLimit) { db with
        cards := patch (·.id == card.id) ({ · with issueLimit := issueLimit }) db.cards }
  | redeemed {userId : UserId} {codeValue : CodeId} {acquisitionSource : String}
      {draws : RedeemDraws} {now : Time} {db' : CardDb Digest} {result : Redemption}
      (h : redeem db userId codeValue acquisitionSource draws now = .ok (db', result)) :
      CardStepped db (.redeem userId codeValue acquisitionSource draws now) db'
  | proposed {userId : UserId} {payload : TradeProposalCreate} {proposalId : ProposalId}
      {now : Time} {db' : CardDb Digest} {proposal : TradeProposal}
      (h : createTrade db userId payload proposalId now = .ok (db', proposal)) :
      CardStepped db (.createTrade userId payload proposalId now) db'
  | accepted {proposalId : ProposalId} {userId : UserId} {order : List TradeItem}
      {draws : AcceptDraws} {now : Time} {db' : CardDb Digest} {proposal : TradeProposal}
      {status : ProposalStatus}
      (hfind : findPendingProposal db proposalId userId .recipient = .ok proposal)
      (hstatus : (acceptTrade db proposalId userId order draws now).2 = .ok status)
      (h : acceptTradeOnce db proposal order draws now = .ok (db', status)) :
      CardStepped db (.acceptTrade proposalId userId order draws now) db'
  | combined {userId : UserId} {request : CardCombinationRequest} {idempotencyKey : Option String}
      {order : List UserCard} {draws : CombineDraws} {now : Time} {db' : CardDb Digest}
      {combination : CardCombination}
      (h : combineCards db userId request idempotencyKey order draws now =
        .ok (db', combination)) :
      CardStepped db (.combineCards userId request idempotencyKey order draws now) db'
  | opened {userId : UserId} {packId : PackId} {idempotencyKey : Option String}
      {draws : OpenDraws} {now : Time} {db' : CardDb Digest} {result : PackOpened}
      (h : openCardPack db userId packId idempotencyKey draws now = .ok (db', result)) :
      CardStepped db (.openCardPack userId packId idempotencyKey draws now) db'

theorem cardStep_cases (db : CardDb Digest) (a : CardAction) :
    CardStepped db a (cardStep db a) := by
  have hsame : CardStepped db a db := .swept .refl
  cases a with
  | redeem => exact commitOr_keeps hsame fun _ _ hok => .redeemed hok
  | createTrade => exact commitOr_keeps hsame fun _ _ hok => .proposed hok
  | combineCards => exact commitOr_keeps hsame fun _ _ hok => .combined hok
  | openCardPack => exact commitOr_keeps hsame fun _ _ hok => .opened hok
  | codeBatch =>
    refine commitOr_keeps hsame fun db' result hok => ?_
    obtain ⟨_, -, rfl⟩ := codeBatch_ok hok
    exact .edited _ _ _
  | updateRedeemCode =>
    refine commitOr_keeps hsame fun db' result hok => ?_
    obtain ⟨_, rfl⟩ := updateRedeemCode_ok hok
    exact .edited _ _ _
  | holdTrade =>
    refine commitOr_keeps hsame fun db' result hok => ?_
    obtain ⟨_, rfl⟩ := holdTrade_ok hok
    exact .edited _ _ _
  | releaseTrade =>
    refine commitOr_keeps hsame fun db' result hok => ?_
    obtain ⟨_, rfl⟩ := releaseTrade_ok hok
    exact .edited _ _ _
  | createCombinationRecipe =>
    refine commitOr_keeps hsame fun db' result hok => ?_
    obtain ⟨_, rfl⟩ := createCombinationRecipe_ok hok
    exact .edited _ _ _
  | updateAdminCard =>
    refine commitOr_keeps hsame fun db' result hok => ?_
    obtain ⟨_, -, -, rfl⟩ := updateAdminCard_ok hok
    exact .limited
  | acceptTrade proposalId userId order draws now =>
    rcases acceptTrade_cases db proposalId userId order draws now with
      ⟨heq, -⟩ | ⟨heq, -⟩ | ⟨proposal, status, hfind, hstatus, hok⟩
    · rw [cardStep, heq]
      exact hsame
    · rw [cardStep, heq]
      exact .swept (.close .refl _ _ (by decide))
    · exact .accepted hfind hstatus hok
  | rejectTrade proposalId userId now =>
    exact .swept (swept_rejectOrCancel db proposalId userId _ (by decide) now)
  | cancelTrade proposalId userId now =>
    exact .swept (swept_rejectOrCancel db proposalId userId _ (by decide) now)
  | tradeInbox userId box tradeStatus now => exact .swept (swept_expireAll db now _)
  | tradeDetail userId proposalId now => exact .swept (swept_tradeDetail db userId proposalId now)

/-- What the effects, consumption and a successful acceptance keep, every request keeps. -/
theorem cardStep_keeps {P : CardDb Digest → Prop} {db : CardDb Digest} (hdb : P db)
    (heffect : ∀ db db', P db → CardEffect db db' → P db') (a : CardAction)
    (hconsume : ∀ combinations materials rows,
      (∀ row ∈ materials, row.userCardId ∈ consumedBy db a) → (∀ row ∈ rows, row.action = "consume") →
      P { db with
        combinations := combinations, materials := db.materials ++ materials
        ledger := db.ledger ++ rows })
    (haccept : ∀ proposal order draws now status, acceptedProposal db a = some proposal →
      proposal ∈ db.proposals → proposal.status = .pending →
      acceptTradeOnce db proposal order draws now = .ok (cardStep db a, status) →
      P (cardStep db a)) :
    P (cardStep db a) := by
  have hcopy : ∀ {db'}, CopyEffect db db' → P db' :=
    fun hcopied => heffect db _ hdb (.copied hcopied)
  have hquiet : ∀ {db' : CardDb Digest}, db'.userCards = db.userCards → db'.ledger = db.ledger →
      db'.proposals = db.proposals → db'.items = db.items → db'.locks = db.locks →
      db'.materials = db.materials → P db' :=
    fun hcards hledger hproposals hitems hlocks hmaterials =>
      hcopy ⟨.inl hcards, ⟨[], by simp, by simp [hledger]⟩, hproposals, hitems, hlocks, hmaterials⟩
  have hstepped := cardStep_cases db a
  generalize cardStep db a = db' at hstepped haccept ⊢
  cases hstepped with
  | swept h =>
    exact h.keeps hdb fun db proposalId _ now hstatus hP =>
      heffect db _ hP (.closed proposalId now hstatus)
  | edited => exact hquiet rfl rfl rfl rfl rfl rfl
  | limited => exact hquiet rfl rfl rfl rfl rfl rfl
  | redeemed hok =>
    obtain ⟨_, userCards, rows, _, hadds, hrows, rfl⟩ := redeem_frame hok
    exact hcopy ⟨hadds, ⟨rows, hrows, rfl⟩, rfl, rfl, rfl, rfl⟩
  | opened hok =>
    obtain ⟨_, _, _, rows, _, _, hadds, hrows, rfl⟩ := openCardPack_frame hok
    exact hcopy ⟨hadds, ⟨rows, hrows, rfl⟩, rfl, rfl, rfl, rfl⟩
  | proposed hok =>
    obtain ⟨_, -, hnew⟩ := createTrade_ok hok
    exact heffect db db' hdb (.proposed hnew)
  | accepted hfind hstatus hok =>
    obtain ⟨hfound, -, hpending, -⟩ := findPendingProposal_ok.mp hfind
    refine haccept _ _ _ _ _ ?_ (findProposal_some hfound).1 hpending hok
    rw [acceptedProposal, hstatus]
    exact hfound
  | combined hok =>
    rcases combineCards_ok hok with ⟨rfl, -⟩ |
      ⟨hnew, context, materials, resultCardId, rows, granted, copy, hcombined⟩
    · exact hdb
    · obtain ⟨combinations, hgrant⟩ := hcombined.grant
      obtain ⟨userCards, grants, hadds, hgrants, rfl⟩ := grantUserCard_frame hgrant
      obtain ⟨combinations', events, rfl⟩ := hcombined.after
      refine heffect _ _ (hconsume combinations _ rows ?_ hcombined.consumed)
        (.copied ⟨hadds, ⟨grants, hgrants, rfl⟩, rfl, rfl, rfl, rfl⟩)
      intro row hrow
      obtain ⟨material, hmaterial, rfl⟩ := List.mem_map.mp hrow
      rw [consumedBy, hnew, hok]
      exact ((combineMaterials_ok hcombined.materialsLoaded).1 material hmaterial).2.1

end

/-- Three fans, a live drop with a card and a card limited to one copy, codes for both, and a
pack whose recipe turns two copies into one. -/
def smallCatalogue : CardDb SymbolicDigest where
  users := [{ id := "fan_a" }, { id := "fan_b" }, { id := "fan_c" }]
  blocks := []
  cards :=
    [{ id := "card", name := "Card", dropId := some "drop" },
     { id := "rare", name := "Rare", dropId := some "drop", issueLimit := some 1 }]
  drops := [{ id := "drop" }]
  codes :=
    [{ code := "CODE", cardId := "card", dropId := "drop", maxUses := 3 },
     { code := "CODE_2", cardId := "card", dropId := "drop", maxUses := 3 },
     { code := "RARE", cardId := "rare", dropId := "drop", maxUses := 2 }]
  packs := [{ id := "pack", artistId := "artist" }]
  packCards := [{ id := "link", packId := "pack", cardId := "card", probability := 100 }]
  recipes :=
    [{ id := "recipe", scopeType := "card_pack", scopeId := "pack", inputQuantity := 2,
       outputRarityPool := ["common"], probabilitySnapshot := [("card", 100)],
       probabilityVersion := "v1.0:combination-1", status := .published }]
  shopEntitlements := []
  rewardEntitlements := []
  userCards := []
  ledger := []
  proposals := []
  items := []
  locks := []
  holds := []
  combinations := []
  materials := []
  openings := []
  events := []

theorem genesis_smallCatalogue : Genesis smallCatalogue := by
  refine ⟨rfl, rfl, rfl, rfl, rfl, rfl, ?_, ?_⟩ <;> decide

end Fanfolio
