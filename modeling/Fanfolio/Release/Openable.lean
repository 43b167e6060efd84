import Fanfolio.Cards.Pack
import Fanfolio.Release.System
import Mathlib.Algebra.BigOperators.Group.List.Basic
import Mathlib.Tactic.NormNum

/-!
# Packs that open

A pack is checked when it is published, and its entries are fixed from then on. It opens as long as
its cards stay published.
-/

namespace Fanfolio

open Framework

def Failure.isInvalidOdds : Failure → Bool
  | .app e => e.code == "INVALID_PACK_ODDS"
  | _ => false

section

variable {Config : Type}

/-- The entries of a pack that can be drawn. -/
def ReleaseDb.enabledLinks (db : ReleaseDb Config) (packId : PackId) : List CardPackCard :=
  db.packCards.filter fun row => row.packId == packId && row.enabled

namespace Release

variable {validate : Config → Except Failure Config} {db db' : ReleaseDb Config}
  {a : ReleaseAction Config} {packId : PackId}

/-- All cards of the pack are published, and their probabilities sum to 100. -/
structure PackOpens (db : ReleaseDb Config) (packId : PackId) : Prop where
  odds : |((db.enabledLinks packId).map (·.probability)).sum - 100| ≤ 1 / 1000
  cards : ∀ link ∈ db.enabledLinks packId, ∃ card,
    db.findCard link.cardId = some card ∧ card.status = .published

def PublishedPacksOpen (db : ReleaseDb Config) : Prop :=
  ∀ pack ∈ db.packs, pack.status = .published → PackOpens db pack.id

/-- The card can be drawn from a published pack. -/
def InPublishedPack (db : ReleaseDb Config) (cardId : CardId) : Prop :=
  ∃ pack ∈ db.packs, pack.status = .published ∧
    ∃ link ∈ db.enabledLinks pack.id, link.cardId = cardId

/-- The request sets another status than published on the card, whatever its status was. -/
def TakesBack (db : ReleaseDb Config) : ReleaseAction Config → CardId → Prop
  | .decidePartnerReview cardId payload _, cardId' => cardId = cardId' ∧
    checkDecision payload = .ok () ∧
    ∃ card, db.findCard cardId = some card ∧ card.releaseStatus = .pendingPartnerReview
  | .decidePlatformReview cardId payload, cardId' => cardId = cardId' ∧
    checkDecision payload = .ok () ∧
    ∃ card, db.findCard cardId = some card ∧ card.releaseStatus = .pendingPlatformReview
  | .linkCardToDrop dropId cardId, cardId' => cardId = cardId' ∧
    ∃ card drop, db.findCard cardId = some card ∧ db.findDrop dropId = some drop ∧
      card.artistId = drop.artistId ∧ card.releaseStatus = .approved ∧ drop.status ≠ .live
  | _, _ => False

/-- No request takes back a card of a published pack. -/
def KeepsPacks (db : ReleaseDb Config) (a : ReleaseAction Config) : Prop :=
  ∀ cardId, InPublishedPack db cardId → ¬TakesBack db a cardId

section

variable [Inhabited Config] {r r' : CardRecord Config}

theorem Moves.published_kept (hmoves : Moves validate db a r r')
    (hfound : db.findCard r.card.id = some r.card) (hkeeps : ¬TakesBack db a r.card.id)
    (hstatus : r.card.status = .published) : r'.card.status = .published := by
  cases hmoves with
  | edited assets hopen hvalues => exact absurd hstatus hopen
  | revised assets hopen hvalues =>
    exact absurd hstatus (not_published_of_editable hopen)
  | submitted note requestId hopen hrelease =>
    exact absurd hstatus (not_published_of_editable hopen)
  | reviewed hpending hdecision => exact absurd (hstatus.symm.trans hpending) (by decide)
  | partnerChanges hrelease hpayload => exact absurd ⟨rfl, hpayload, _, hfound, hrelease⟩ hkeeps
  | partnerToPlatform hrelease hpayload hpolicy hrequest =>
    exact absurd ⟨rfl, hpayload, _, hfound, hrelease⟩ hkeeps
  | partnerApproved hrelease hpayload hpolicy hrequest =>
    exact absurd ⟨rfl, hpayload, _, hfound, hrelease⟩ hkeeps
  | platformChanges hrelease hpayload => exact absurd ⟨rfl, hpayload, _, hfound, hrelease⟩ hkeeps
  | platformApproved hrelease hpayload hrequest =>
    exact absurd ⟨rfl, hpayload, _, hfound, hrelease⟩ hkeeps
  | published howner hdraft hpending => rfl
  | @linked _ drop hdrop hartist hrelease =>
    by_cases hlive : drop.status = .live
    · exact if_pos hlive
    · exact absurd ⟨rfl, _, _, hfound, hdrop, hartist, hrelease, hlive⟩ hkeeps
  | started hrelease => rfl
  | effectsChanged hkept => exact hstatus
  | effectApproved hkept hversion hconfig => exact hstatus

/-- A published card stays published under a request that does not take it back. -/
theorem published_kept (h : Consistent db) {cardId : CardId} {card : ReleaseCard Config}
    (hkeeps : ¬TakesBack db a cardId) (hcard : db.findCard cardId = some card)
    (hstatus : card.status = .published) :
    ∃ card', (step validate db a).findCard cardId = some card' ∧ card'.status = .published := by
  have hfollows : Follows validate db a (db.record cardId) ((step validate db a).record cardId) :=
    step_follows h cardId
  have hr := record_found hcard
  obtain rfl := findCard_id hcard
  generalize hr' : (step validate db a).record card.id = o at hfollows
  rw [hr] at hfollows
  cases hfollows with
  | same => exact ⟨card, record_card hr', hstatus⟩
  | deleted hdraft => exact absurd (hstatus.symm.trans hdraft) (by decide)
  | moves hmoves => exact ⟨_, record_card hr', hmoves.published_kept hcard hkeeps hstatus⟩

/-- The published packs after a request open, or were published before with the same entries. -/
def PacksFollow (db db' : ReleaseDb Config) : Prop :=
  ∀ pack ∈ db'.packs, pack.status = .published → PackOpens db' pack.id ∨
    (∃ old ∈ db.packs, old.id = pack.id ∧ old.status = .published) ∧
      db'.enabledLinks pack.id = db.enabledLinks pack.id

omit [Inhabited Config] in
theorem PacksFollow.of_eq (hpacks : db'.packs = db.packs) (hlinks : db'.packCards = db.packCards) :
    PacksFollow db db' := by
  intro pack hpack hstatus
  refine .inr ⟨⟨pack, hpacks ▸ hpack, rfl, hstatus⟩, ?_⟩
  rw [ReleaseDb.enabledLinks, ReleaseDb.enabledLinks, hlinks]

theorem submit_packs {card : ReleaseCard Config} {note : Option String}
    {requestId : ReviewRequestId}
    (hok : submitCardForReleaseReview (db.modifyCard card.id ({ · with reviewNote := note }))
      { card with reviewNote := note } requestId = .ok db') : PacksFollow db db' := by
  obtain ⟨-, rfl⟩ := createReviewRequest_ok hok
  exact .of_eq rfl rfl

omit [Inhabited Config] in
theorem insertCard_packs {card : ReleaseCard Config} (hok : db.insertCard card = .ok db') :
    PacksFollow db db' := by
  simp only [ReleaseDb.insertCard, bind_ok, pure_ok] at hok
  obtain ⟨-, -, rfl⟩ := hok
  exact .of_eq rfl rfl

omit [Inhabited Config] in
theorem reviewCard_packs {cardId : CardId} {decision : CardReviewDecision}
    (hok : reviewCard db cardId decision = .ok db') : PacksFollow db db' := by
  simp only [reviewCard, bind_ok, pure_ok] at hok
  obtain ⟨card, -, -, -, rfl⟩ := hok
  exact .of_eq rfl rfl

theorem decidePartnerReview_packs {cardId : CardId} {payload : ReleaseDecision}
    {requestId : ReviewRequestId}
    (hok : decidePartnerReview db cardId payload requestId = .ok db') : PacksFollow db db' := by
  simp only [decidePartnerReview, bind_ok] at hok
  obtain ⟨-, -, card, -, -, -, request, -, hok⟩ := hok
  split at hok
  · obtain rfl := pure_ok.mp hok
    exact .of_eq rfl rfl
  · split at hok
    · obtain ⟨-, rfl⟩ := createReviewRequest_ok hok
      exact .of_eq rfl rfl
    · obtain rfl := pure_ok.mp hok
      exact .of_eq rfl rfl

omit [Inhabited Config] in
theorem decidePlatformReview_packs {cardId : CardId} {payload : ReleaseDecision}
    (hok : decidePlatformReview db cardId payload = .ok db') : PacksFollow db db' := by
  simp only [decidePlatformReview, bind_ok] at hok
  obtain ⟨-, -, card, -, -, -, request, -, hok⟩ := hok
  split at hok
  · obtain rfl := pure_ok.mp hok
    exact .of_eq rfl rfl
  · obtain rfl := pure_ok.mp hok
    exact .of_eq rfl rfl

omit [Inhabited Config] in
theorem updateDropStatus_packs {dropId : DropId} {payload : DropStatusUpdate}
    (hok : updateDropStatus db dropId payload = .ok db') : PacksFollow db db' := by
  simp only [updateDropStatus, bind_ok] at hok
  obtain ⟨drop, -, hok⟩ := hok
  split at hok
  · obtain rfl := pure_ok.mp hok
    exact .of_eq rfl rfl
  · obtain rfl := pure_ok.mp hok
    exact .of_eq rfl rfl

omit [Inhabited Config] in
theorem updateEffectVersion_packs {userId : UserId} {cardId : CardId} {versionId : EffectVersionId}
    {designConfig : Option Config} {assets : Except Failure Unit}
    (hok : updateEffectVersion validate db userId cardId versionId designConfig assets = .ok db') :
    PacksFollow db db' := by
  simp only [updateEffectVersion, bind_ok] at hok
  obtain ⟨card, -, -, -, version, -, -, -, hok⟩ := hok
  cases designConfig with
  | some designConfig =>
    simp only [bind_ok, pure_ok] at hok
    obtain ⟨config, -, -, -, rfl⟩ := hok
    exact .of_eq rfl rfl
  | none =>
    obtain rfl := pure_ok.mp hok
    exact .of_eq rfl rfl

omit [Inhabited Config] in
theorem decideEffectVersion_packs {cardId : CardId} {versionId : EffectVersionId} {approve : Bool}
    {message : String}
    (hok : decideEffectVersion validate db cardId versionId approve message = .ok db') :
    PacksFollow db db' := by
  simp only [decideEffectVersion, bind_ok] at hok
  obtain ⟨card, -, version, -, -, -, hok⟩ := hok
  split at hok
  · simp only [bind_ok, pure_ok] at hok
    obtain ⟨config, -, rfl⟩ := hok
    exact .of_eq rfl rfl
  · obtain rfl := pure_ok.mp hok
    exact .of_eq rfl rfl

omit [Inhabited Config] in
theorem links_other {payload : CardPackCreate} {draw : CardId → String} {packId packId' : PackId}
    (hne : packId' ≠ packId) :
    (payload.links packId draw).filter (fun row => row.packId == packId' && row.enabled) = [] := by
  refine List.filter_eq_nil_iff.mpr ?_
  intro link hlink
  obtain ⟨item, -, rfl⟩ := List.mem_map.mp hlink
  simp [Ne.symm hne]

omit [Inhabited Config] in
theorem createCardPack_packs {payload : CardPackCreate} {draw : CardId → String}
    (hok : createCardPack db payload packId draw = .ok db') : PacksFollow db db' := by
  simp only [createCardPack, bind_ok, ensure_ok, exists_const, pure_ok] at hok
  obtain ⟨-, -, -, -, -, hfresh, -, rfl⟩ := hok
  intro pack hpack hstatus
  rcases List.mem_append.mp hpack with hpack | hpack
  · refine .inr ⟨⟨pack, hpack, rfl, hstatus⟩, ?_⟩
    simp only [ReleaseDb.enabledLinks]
    rw [List.filter_append, links_other (hfresh pack hpack), List.append_nil]
  · rw [List.mem_singleton.mp hpack] at hstatus
    exact absurd hstatus (by simp)

omit [Inhabited Config] in
theorem updateCardPack_packs (h : Consistent db) {payload : CardPackCreate}
    {draw : CardId → String} (hok : updateCardPack db packId payload draw = .ok db') :
    PacksFollow db db' := by
  simp only [updateCardPack, bind_ok, orFail_ok, ensure_ok, exists_const, pure_ok] at hok
  obtain ⟨pack, hfound, hopen, -, -, -, -, -, -, rfl⟩ := hok
  intro pack' hpack' hstatus
  obtain ⟨row, hrow, rfl⟩ := mem_patch.mp hpack'
  have hmem := (mem_of_find_eq_some (g := CardPack.id) hfound).1
  have hne : row.id ≠ pack.id := by
    intro heq
    obtain rfl := eq_of_unique h.packIds hrow hmem heq
    rw [if_pos (beq_self_eq_true _)] at hstatus
    exact hopen hstatus
  rw [if_neg (by simpa using hne)] at hstatus ⊢
  refine .inr ⟨⟨row, hrow, rfl, hstatus⟩, ?_⟩
  simp only [ReleaseDb.enabledLinks]
  rw [List.filter_append, links_other hne, List.append_nil, List.filter_filter]
  congr 1
  funext link
  by_cases hlink : link.packId = row.id <;> simp [hlink, hne]

omit [Inhabited Config] in
/-- What the check of a pack that is published gives. -/
theorem publishCardPack_opens (h : Consistent db)
    (hok : publishCardPack db packId = .ok db') : PackOpens db packId ∧
      db' = { db with
        packs := patch (·.id == packId) ({ · with status := .published }) db.packs } := by
  simp only [publishCardPack, bind_ok, orFail_ok, ensure_ok, exists_const, pure_ok] at hok
  obtain ⟨pack, hfound, ⟨-, hodds⟩, hcards, rfl⟩ := hok
  obtain ⟨-, rfl⟩ := mem_of_find_eq_some (g := CardPack.id) hfound
  have henabled : (db.packCards.filter (·.packId == pack.id)).filter (·.enabled) =
      db.enabledLinks pack.id := by
    rw [List.filter_filter, ReleaseDb.enabledLinks]
    congr 1
    funext link
    exact Bool.and_comm _ _
  rw [henabled] at hodds hcards
  refine ⟨⟨hodds, ?_⟩, rfl⟩
  intro link hlink
  obtain ⟨card, hcard, hcardId⟩ := List.mem_map.mp (h.links link (List.mem_filter.mp hlink).1)
  refine ⟨card, ?_, hcards card hcard (List.mem_map.mpr ⟨link, hlink, hcardId.symm⟩)⟩
  rw [← hcardId]
  exact find_of_mem (g := fun row : ReleaseCard Config => row.id) h.cardIds hcard

omit [Inhabited Config] in
theorem publishCardPack_packs (h : Consistent db)
    (hok : publishCardPack db packId = .ok db') : PacksFollow db db' := by
  obtain ⟨hopens, rfl⟩ := publishCardPack_opens h hok
  intro pack' hpack' hstatus
  obtain ⟨row, hrow, rfl⟩ := mem_patch.mp hpack'
  split at hstatus
  · rename_i hid
    rw [if_pos hid]
    obtain rfl := beq_iff_eq.mp hid
    exact .inl ⟨hopens.odds, hopens.cards⟩
  · rename_i hid
    rw [if_neg hid]
    exact .inr ⟨⟨row, hrow, rfl, hstatus⟩, rfl⟩

theorem attempt_packs (h : Consistent db) (hok : attempt validate db a = .ok db') :
    PacksFollow db db' := by
  cases a with
  | createAdminCard name values assets cardId =>
    simp only [attempt, createAdminCard, bind_ok] at hok
    obtain ⟨-, -, resolved, -, hok⟩ := hok
    exact insertCard_packs hok
  | updateAdminCard cardId values assets =>
    simp only [attempt, updateAdminCard, bind_ok, pure_ok] at hok
    obtain ⟨card, -, -, -, -, -, resolved, -, rfl⟩ := hok
    exact .of_eq rfl rfl
  | deleteAdminCard cardId =>
    simp only [attempt, deleteAdminCard, bind_ok, pure_ok] at hok
    obtain ⟨card, -, -, -, -, -, rfl⟩ := hok
    exact .of_eq rfl rfl
  | createCard userId name values assets cardId =>
    simp only [attempt, createCard, bind_ok] at hok
    obtain ⟨-, -, artistId, -, hok⟩ := hok
    exact insertCard_packs hok
  | updateCard userId cardId values assets =>
    simp only [attempt, updateCard, bind_ok, pure_ok] at hok
    obtain ⟨card, -, -, -, -, -, resolved, -, rfl⟩ := hok
    exact .of_eq rfl rfl
  | submitAdminCardReview cardId note requestId =>
    simp only [attempt, submitAdminCardReview, bind_ok] at hok
    obtain ⟨card, -, -, -, -, -, hok⟩ := hok
    exact submit_packs hok
  | submitReview userId cardId note assets requestId =>
    simp only [attempt, submitReview, bind_ok] at hok
    obtain ⟨card, -, -, -, -, -, -, -, hok⟩ := hok
    exact submit_packs hok
  | reviewCard cardId decision => exact reviewCard_packs hok
  | approveCard cardId =>
    have happrove : reviewCard db cardId .approve = .ok db' := hok
    exact reviewCard_packs happrove
  | decidePartnerReview cardId payload requestId => exact decidePartnerReview_packs hok
  | decidePlatformReview cardId payload => exact decidePlatformReview_packs hok
  | publish cardId =>
    simp only [attempt, publish, bind_ok, pure_ok] at hok
    obtain ⟨card, -, -, -, -, -, -, -, rfl⟩ := hok
    exact .of_eq rfl rfl
  | createDrop payload dropId =>
    simp only [attempt, createDrop, bind_ok, pure_ok] at hok
    obtain ⟨-, -, -, -, rfl⟩ := hok
    exact .of_eq rfl rfl
  | submitDrop dropId =>
    simp only [attempt, submitDrop, bind_ok, pure_ok] at hok
    obtain ⟨drop, -, -, -, rfl⟩ := hok
    exact .of_eq rfl rfl
  | linkCardToDrop dropId cardId =>
    simp only [attempt, linkCardToDrop, bind_ok, pure_ok] at hok
    obtain ⟨drop, -, card, -, -, -, -, -, rfl⟩ := hok
    exact .of_eq rfl rfl
  | updateDropStatus dropId payload => exact updateDropStatus_packs hok
  | createCardPack payload packId draw => exact createCardPack_packs hok
  | updateCardPack packId payload draw => exact updateCardPack_packs h hok
  | publishCardPack packId => exact publishCardPack_packs h hok
  | createEffectVersion userId cardId designConfig assets versionId =>
    simp only [attempt, createEffectVersion, bind_ok, pure_ok] at hok
    obtain ⟨card, -, -, -, config, -, -, -, -, -, rfl⟩ := hok
    exact .of_eq rfl rfl
  | updateEffectVersion userId cardId versionId designConfig assets =>
    exact updateEffectVersion_packs hok
  | submitEffectVersionReview userId cardId versionId =>
    simp only [attempt, submitEffectVersionReview, bind_ok, pure_ok] at hok
    obtain ⟨card, -, -, -, version, -, -, -, rfl⟩ := hok
    exact .of_eq rfl rfl
  | approveEffectVersion cardId versionId => exact decideEffectVersion_packs hok
  | reviewEffectVersion cardId versionId approve => exact decideEffectVersion_packs hok

theorem step_packs (h : Consistent db) : PacksFollow db (step validate db a) := by
  unfold step
  split
  · rename_i hok
    exact attempt_packs h hok
  · exact .of_eq rfl rfl

/-- A request that takes back no card of a published pack leaves the published packs open. -/
theorem PublishedPacksOpen.step (hopen : PublishedPacksOpen db) (h : Consistent db)
    (hkeeps : KeepsPacks db a) : PublishedPacksOpen (step validate db a) := by
  intro pack hpack hstatus
  rcases step_packs h pack hpack hstatus with hnew | ⟨⟨old, hold, hid, hpublished⟩, hlinks⟩
  · exact hnew
  · have hopens := hopen old hold hpublished
    rw [hid] at hopens
    refine ⟨hlinks ▸ hopens.odds, ?_⟩
    rw [hlinks]
    intro link hlink
    obtain ⟨card, hcard, hlive⟩ := hopens.cards link hlink
    refine published_kept h (hkeeps link.cardId ?_) hcard hlive
    exact ⟨old, hold, hpublished, link, hid ▸ hlink, rfl⟩

end

section

variable {Digest : Type} {fans : CardDb Digest}

/-- The tables that fans open packs from are those that operators release. -/
structure SharesCatalogue (db : ReleaseDb Config) (fans : CardDb Digest) : Prop where
  cards : fans.cards = db.cards.map (·.toCard)
  packs : fans.packs = db.packs
  packCards : fans.packCards = db.packCards

/-- A pack that opens offers all of its enabled entries. -/
theorem packRows_links (hsame : SharesCatalogue db fans) (hopens : PackOpens db packId) :
    ((fans.packRows packId).map (·.1)).Perm (db.enabledLinks packId) := by
  have hlinks : fans.enabledLinks packId = db.enabledLinks packId := by
    rw [CardDb.enabledLinks, hsame.packCards, ReleaseDb.enabledLinks]
  have hfound : ∀ link ∈ db.enabledLinks packId, ((fans.findCard link.cardId).filter
      (·.status == .published)).map (fun _ => link) = some link := by
    intro link hlink
    obtain ⟨card, hcard, hstatus⟩ := hopens.cards link hlink
    have hcard' : fans.findCard link.cardId = some card.toCard := by
      rw [CardDb.findCard, hsame.cards, List.find?_map]
      exact congrArg (Option.map ReleaseCard.toCard) hcard
    simp [hcard', Option.filter, hstatus]
  refine ((List.perm_insertionSort _ _).map _).trans (.of_eq ?_)
  rw [hlinks, List.map_filterMap]
  simp only [Option.map_map, Function.comp_def]
  rw [List.filterMap_congr hfound, List.filterMap_some]

theorem packRows_sum (hsame : SharesCatalogue db fans) (hopens : PackOpens db packId) :
    ((fans.packRows packId).map (·.1.probability)).sum =
      ((db.enabledLinks packId).map (·.probability)).sum := by
  rw [← ((packRows_links hsame hopens).map _).sum_eq, List.map_map]
  rfl

/-- A pack that opens is never refused for its odds. -/
theorem openCardPack_validOdds [RecordHash Digest] (hsame : SharesCatalogue db fans)
    (hopen : PublishedPacksOpen db) (userId : UserId) (packId : PackId)
    (idempotencyKey : Option String) (draws : OpenDraws) (now : Time) :
    FailsIn (·.isInvalidOdds = false)
      (openCardPack fans userId packId idempotencyKey draws now) := by
  refine .bind_of (.orFail rfl) fun pack hpack => ?_
  have hfound := orFail_ok.mp hpack
  have hmem := List.mem_of_find?_eq_some hfound
  have hstatus := List.find?_some hfound
  simp only [Bool.and_eq_true, beq_iff_eq] at hstatus
  obtain ⟨shop, reward, hentitled⟩ := useEntitlement_eq fans userId pack.id now
  have hsame' : SharesCatalogue db (fans.useEntitlement userId pack.id now) := by
    rw [hentitled]
    exact ⟨hsame.cards, hsame.packs, hsame.packCards⟩
  have hopens := hopen pack (hsame.packs ▸ hmem) hstatus.2
  have hsum := packRows_sum hsame' hopens
  dsimp only
  split
  · exact .pure _
  · refine .bind (.ensure_of ⟨?_, ?_⟩) fun _ => ?_
    · intro hnone
      have hodds := hopens.odds
      rw [← hsum, hnone] at hodds
      norm_num at hodds
    · rw [hsum]
      exact hopens.odds
    · refine .bind (.ensure rfl) fun _ => .bind (.orFail rfl) fun selected => .bind (.orFail rfl)
        fun lockedCard => .bind (grantUserCard_failsIn (P := (·.isInvalidOdds = false))
          (fun _ => rfl) rfl _ _) fun granted => .bind ?_ fun opened => ?_
      · exact .bind (.ensure rfl) fun _ => .bind (.ensure rfl) fun _ => .bind (.ensure rfl)
          fun _ => .pure _
      · exact .bind (recordEngagementEvent_failsIn (P := (·.isInvalidOdds = false))
          (fun _ => rfl) _ _ _ _ _ _ _) fun _ => .pure _

/-- Every published pack opens, and fans are never refused for its odds. -/
def PacksOpenable (Digest : Type) [RecordHash Digest] (db : ReleaseDb Config) : Prop :=
  PublishedPacksOpen db ∧ ∀ fans : CardDb Digest, SharesCatalogue db fans →
    ∀ userId packId idempotencyKey draws now, FailsIn (·.isInvalidOdds = false)
      (openCardPack fans userId packId idempotencyKey draws now)

end

section

/-- A card of the platform that the company approves, and a pack of it. -/
def publishedInPack : List (ReleaseAction Unit) :=
  [.createAdminCard "Stage" { artistId := some (some "artist") } (.ok ()) "card",
   .submitAdminCardReview "card" none "request",
   .decidePartnerReview "card" ⟨.approved, none⟩ "unused", .publish "card",
   .createCardPack { artistId := "artist", cards := [{ cardId := "card", probability := 100 }] }
     "pack" ("link_" ++ ·),
   .publishCardPack "pack"]

/-- The published card is linked to a drop that is not live. -/
def linkedFromPack : List (ReleaseAction Unit) :=
  publishedInPack ++
    [.createDrop ⟨some "artist", none, none⟩ "drop", .linkCardToDrop "drop" "card"]

end

end Release

end

end Fanfolio
