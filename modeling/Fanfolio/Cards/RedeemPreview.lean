import Fanfolio.Cards.Notices
import Fanfolio.Cards.PrintedCodes

/-!
# The preview of a redemption

A fan can ask what a code gives before redeeming it. The preview makes the checks of the
redemption; the grant, its event and its notifications come after them.
-/

namespace Fanfolio

open Framework

section Redeeming

variable {Digest : Type}

/-- `preview_redeem`. -/
def previewRedeem (db : CardDb Digest) (userId : UserId) (codeValue : CodeId) (now : Time) :
    Except Failure Card := do
  let code ← orFail (db.findCode codeValue)
    (.app ⟨404, "REDEEM_CODE_NOT_FOUND", "코드를 찾을 수 없습니다."⟩)
  ensure (code.disabledAt = none)
    (.app ⟨409, "REDEEM_CODE_DISABLED", "비활성화된 코드입니다."⟩)
  ensure (code.usedCount < code.maxUses)
    (.app ⟨409, "REDEEM_CODE_ALREADY_USED", "사용할 수 없는 코드입니다."⟩)
  ensure (db.ownsCardOf userId code.code = false)
    (.app ⟨409, "REDEEM_CODE_ALREADY_USED", "이미 사용한 코드입니다."⟩)
  ensure (∀ expiresAt ∈ code.expiresAt, now ≤ expiresAt)
    (.app ⟨409, "REDEEM_CODE_EXPIRED", "만료된 코드입니다."⟩)
  let card ← orFail (db.findCard code.cardId) cardNotPublished
  ensure (card.status = .published) cardNotPublished
  let dropNotLive : Failure := .app ⟨409, "DROP_NOT_LIVE", "현재 진행 중인 드롭이 아닙니다."⟩
  let drop ← orFail (db.findDrop code.dropId) dropNotLive
  ensure (drop.status = .live) dropNotLive
  ensure (card.dropId = some code.dropId)
    (.app ⟨409, "CARD_DROP_MISMATCH", "카드 발행 드롭과 코드 드롭이 일치하지 않습니다."⟩)
  return card

/-- The same error code, up to the two names for a code without uses. -/
def AlikeRefusal (e e' : Failure) : Prop :=
  e.code = e'.code ∨
    e.code = some "REDEEM_CODE_ALREADY_USED" ∧ e'.code = some "REDEEM_LIMIT_REACHED"

/-- What the fan can redeem: the code, with its card and its drop. -/
structure Redeemable (db : CardDb Digest) (userId : UserId) (codeValue : CodeId) (now : Time)
    (code : RedeemCode) (card : Card) (drop : Drop) : Prop where
  found : db.findCode codeValue = some code
  enabled : code.disabledAt = none
  left : code.usedCount < code.maxUses
  notOwned : db.ownsCardOf userId code.code = false
  inTime : ∀ expiresAt ∈ code.expiresAt, now ≤ expiresAt
  cardFound : db.findCard code.cardId = some card
  published : card.status = .published
  dropFound : db.findDrop code.dropId = some drop
  live : drop.status = .live
  linked : card.dropId = some code.dropId

def redemptionKey (codeValue : CodeId) (userId : UserId) : String :=
  "redemption:" ++ codeValue ++ ":" ++ userId

/-- The notifications of a redemption: the followers hear of a new copy, the fan in any case. -/
def redemptionNotices (db after : CardDb Digest) (notices : NoticeDb) (userId : UserId)
    (codeValue : CodeId) (result : Redemption) : List NoticeRequest :=
  match after.findUserCard result.userCardId, after.findCard result.cardId with
  | some userCard, some card =>
    (if db.grantedCard userId "redeem_code" codeValue = none then
      notices.followerRequests db.blocks userCard card else []) ++
    [{ userId := userId, kind := "card_redeemed", title := "카드를 컬렉션에 추가했어요"
       body := card.name ++ " 카드가 내 컬렉션에 추가되었습니다."
       entityType := "user_card", entityId := userCard.id
       eventKey := redemptionKey codeValue userId }]
  | _, _ => []

variable [RecordHash Digest]

/-- `redeem` with the notifications of its transaction. -/
def redeemNotified (s : NotifiedDb Digest) (userId : UserId) (codeValue : CodeId)
    (acquisitionSource : String) (draws : RedeemDraws) (draw : NoticeRequest → NoticeDraws)
    (now : Time) : Except Failure (NotifiedDb Digest × Redemption) := do
  let (after, result) ← redeem s.1 userId codeValue acquisitionSource draws now
  let notices ← s.2.notifyAll (redemptionNotices s.1 after s.2 userId codeValue result) draw
  return ((after, notices), result)

/-- The identifiers that a redemption draws are new. -/
structure FreshRedemption (s : NotifiedDb Digest) (userId : UserId) (codeValue : CodeId)
    (acquisitionSource : String) (draws : RedeemDraws) (draw : NoticeRequest → NoticeDraws)
    (now : Time) : Prop where
  copy : ∀ row ∈ s.1.userCards, row.id ≠ draws.grant.userCardId
  record : ∀ row ∈ s.1.ledger, row.id ≠ draws.grant.ledgerId
  event : ∀ event ∈ s.1.events, event.id ≠ draws.eventId
  notices : ∀ after result, redeem s.1 userId codeValue acquisitionSource draws now =
    .ok (after, result) →
      s.2.FreshNotices draw (redemptionNotices s.1 after s.2 userId codeValue result)

/-- The fan, and for a first redemption the followers of the fan, can be notified. -/
structure RecipientsFit (s : NotifiedDb Digest) (userId : UserId) (codeValue : CodeId)
    (userCardId : UserCardId) : Prop where
  fan : s.2.isNotified userId (redemptionKey codeValue userId) = true ∨ s.2.AddressesFit userId
  followers : s.1.grantedCard userId "redeem_code" codeValue = none →
    s.2.FollowersFit s.1.blocks userId userCardId

/-- The preview answers a card exactly if the redemption gives it, and both refuse alike. -/
structure PreviewAgrees (s : NotifiedDb Digest) (userId : UserId) (codeValue : CodeId)
    (acquisitionSource : String) (draws : RedeemDraws) (draw : NoticeRequest → NoticeDraws)
    (now : Time) : Prop where
  accepts : ∀ cardId, (∃ card, previewRedeem s.1 userId codeValue now = .ok card ∧
      card.id = cardId) ↔
    ∃ after result, redeemNotified s userId codeValue acquisitionSource draws draw now =
      .ok (after, result) ∧ result.cardId = cardId
  refuses : ∀ e e', previewRedeem s.1 userId codeValue now = .error e →
    redeemNotified s userId codeValue acquisitionSource draws draw now = .error e' →
      AlikeRefusal e e'

variable {db db' : CardDb Digest} {s : NotifiedDb Digest} {userId : UserId} {codeValue : CodeId}
  {acquisitionSource : String} {draws : RedeemDraws} {draw : NoticeRequest → NoticeDraws}
  {now : Time}

omit [RecordHash Digest] in
theorem previewRedeem_ok {card : Card} : previewRedeem db userId codeValue now = .ok card ↔
    ∃ code drop, Redeemable db userId codeValue now code card drop := by
  simp only [previewRedeem, bind_ok, orFail_ok, ensure_ok, exists_const, pure_ok]
  constructor
  · rintro ⟨code, hfound, henabled, hleft, howned, htime, _, hcard, hpublished, drop, hdrop, hlive,
      hlinked, rfl⟩
    exact ⟨code, drop, hfound, henabled, hleft, howned, htime, hcard, hpublished, hdrop, hlive,
      hlinked⟩
  · rintro ⟨code, drop, h⟩
    exact ⟨code, h.found, h.enabled, h.left, h.notOwned, h.inTime, card, h.cardFound, h.published,
      drop, h.dropFound, h.live, h.linked, rfl⟩

/-- What the preview refuses, the redemption refuses alike. -/
theorem previewRedeem_refuses : RefusesAlike AlikeRefusal (previewRedeem s.1 userId codeValue now)
    (redeemNotified s userId codeValue acquisitionSource draws draw now) := by
  have hrefl : ∀ e, AlikeRefusal e e := fun e => .inl rfl
  have hchecks : RefusesAlike AlikeRefusal (previewRedeem s.1 userId codeValue now)
      (redeem s.1 userId codeValue acquisitionSource draws now) := by
    refine .bind_same hrefl fun code _ => .bind_same hrefl fun _ _ => .bind ?_ (.ensure ?_) fun _ _ =>
      .bind_same hrefl fun _ _ => .bind_same hrefl fun _ _ => .bind_same hrefl fun card _ =>
      .bind_same hrefl fun _ _ => .bind_same hrefl fun drop _ => .bind_same hrefl fun _ _ =>
      .bind_same hrefl fun _ _ => .ok card _
    · intro u hu
      exact ensure_ok.mpr (ensure_ok.mp hu)
    · by_cases hzero : code.maxUses = 0
      · exact .inr ⟨rfl, by rw [if_pos hzero, Failure.code]⟩
      · exact .inl (by rw [if_neg hzero])
  intro e he
  obtain ⟨e', hredeem, halike⟩ := hchecks e he
  exact ⟨e', bind_error.mpr (.inl hredeem), halike⟩

/-- A redemption only succeeds for what the fan can redeem. -/
theorem redeem_redeemable {result : Redemption}
    (h : redeem db userId codeValue acquisitionSource draws now = .ok (db', result)) :
    ∃ code card drop, Redeemable db userId codeValue now code card drop ∧
      result.cardId = card.id := by
  simp only [redeem, bind_ok, orFail_ok, ensure_ok, exists_const, pure_ok, Prod.exists,
    Prod.mk.injEq] at h
  obtain ⟨code, hfound, henabled, hleft, howned, htime, card, hcard, hpublished, drop, hdrop, hlive,
    hlinked, granted, userCard, -, events, event, -, -, rfl⟩ := h
  exact ⟨code, card, drop, ⟨hfound, henabled, hleft, howned, htime, hcard, hpublished, hdrop, hlive,
    hlinked⟩, rfl⟩

/-- What the fan can redeem is redeemed, for the copy of an earlier grant or for a new one. -/
theorem Redeemable.redeem_succeeds {code : RedeemCode} {card : Card} {drop : Drop}
    (h : Redeemable s.1 userId codeValue now code card drop) (hkept : NotifiedKept s)
    (hfresh : FreshRedemption s userId codeValue acquisitionSource draws draw now) :
    ∃ after result userCard,
      redeem s.1 userId codeValue acquisitionSource draws now = .ok (after, result) ∧
      result.cardId = card.id ∧ after.findUserCard result.userCardId = some userCard ∧
      after.findCard result.cardId = some card ∧
      (s.1.grantedCard userId "redeem_code" codeValue = none →
        userCard.userId = userId ∧ userCard.id = draws.grant.userCardId) := by
  obtain ⟨hmem, rfl⟩ := findCode_some h.found
  have hid : card.id = code.cardId := (mem_of_find_eq_some h.cardFound).2
  have hcardFound : s.1.findCard card.id = some card := hid ▸ h.cardFound
  let request := redeemGrant userId code card drop acquisitionSource
  have hgrant : ∃ granted userCard, grantUserCard (s.1.countUse code) request draws.grant now =
      .ok (granted, userCard) ∧ granted.events = s.1.events ∧ granted.cards = s.1.cards ∧
      granted.findUserCard userCard.id = some userCard ∧
      (s.1.grantedCard userId "redeem_code" code.code = none →
        userCard.userId = userId ∧ userCard.id = draws.grant.userCardId) := by
    cases hgranted : s.1.grantedCard userId "redeem_code" code.code with
    | some existing =>
      refine ⟨s.1.countUse code, existing, ?_, rfl, rfl, ?_, fun hnone => by cases hnone⟩
      · have hagain : (s.1.countUse code).grantedCard request.userId request.sourceType
            request.sourceId = some existing := hgranted
        rw [grantUserCard, hagain]
      · obtain ⟨row, -, hfound⟩ := Option.bind_eq_some_iff.mp hgranted
        have hrow : existing.id = row.userCardId := (mem_of_find_eq_some hfound).2
        rw [hrow]
        exact hfound
    | none =>
      obtain ⟨log, hlog⟩ := hkept.logged
      have hnew : ∀ row ∈ (s.1.countUse code).ledger,
          row.isGrant request.userId request.sourceType request.sourceId = false := by
        intro row hrow
        rw [← Bool.not_eq_true]
        intro hisGrant
        refine (grantedCard_isNone hlog.granted).mp hgranted ⟨row, ?_, hisGrant⟩
        simp only [CardOwnershipLedger.isGrant, Bool.and_eq_true] at hisGrant
        exact List.mem_filter.mpr ⟨hrow, hisGrant.1.1.2⟩
      have hcode : ∀ row ∈ s.1.userCards, ¬row.sameOwnerAndCode
          (request.userCard (s.1.countUse code) draws.grant.userCardId now) := by
        rintro row hrow ⟨huser, -, hcode⟩
        exact ownsCardOf_eq_false.mp h.notOwned row hrow huser hcode
      have hexact : (s.1.countUse code).SerialsExact := hkept.serials
      have hpublished : ∃ card', (s.1.countUse code).findCard request.cardId = some card' ∧
          card'.status = .published := ⟨card, hcardFound, h.published⟩
      obtain ⟨granted, hgrant, hcards, hevents⟩ := grantUserCard_succeeds hexact hnew hpublished
        hfresh.copy hcode hfresh.record
      obtain ⟨userCards, rows, -, -, hframe⟩ := grantUserCard_frame hgrant
      refine ⟨granted, _, hgrant, hevents, ?_, ?_, fun _ => ⟨rfl, rfl⟩⟩
      · rw [hframe]
        rfl
      · have hmissing : s.1.userCards.find? (fun row => row.id == draws.grant.userCardId) = none := by
          rw [List.find?_eq_none]
          intro row hrow heq
          exact hfresh.copy row hrow (eq_of_beq heq)
        rw [CardDb.findUserCard, hcards, List.find?_append]
        show (s.1.userCards.find? (fun row => row.id == draws.grant.userCardId)).or _ = _
        rw [hmissing, Option.none_or]
        simp
  obtain ⟨granted, userCard, hgrant, hevents, hcards, hfound, hnew⟩ := hgrant
  obtain ⟨events, event, hevent, -⟩ := recordEngagementEvent_fresh hfresh.event userId
    "card_collected" "user_card" userCard.id
    [("cardId", .str card.id), ("artistId", .ofOption card.artistId),
      ("memberId", .ofOption card.memberId), ("dropId", .str drop.id)]
  let result : Redemption :=
    { userCardId := userCard.id, cardId := card.id, serialNumber := userCard.serialNumber
      redirectTo := "/reveal/" ++ userCard.id, eventId := event.id }
  refine ⟨{ granted with events := events }, result, userCard, ?_, rfl, hfound, ?_, hnew⟩
  · simp only [redeem, bind_ok, orFail_ok, ensure_ok, exists_const, pure_ok, Prod.exists,
      Prod.mk.injEq]
    exact ⟨code, h.found, h.enabled, h.left, h.notOwned, h.inTime, card, h.cardFound, h.published,
      drop, h.dropFound, h.live, h.linked, granted, userCard, hgrant, events, event,
      by rw [hevents]; exact hevent, rfl, rfl⟩
  · show granted.cards.find? _ = _
    rw [hcards]
    exact hcardFound

/-- What the fan can redeem is redeemed with its notifications exactly if its recipients fit. -/
theorem Redeemable.redeemNotified_succeeds {code : RedeemCode} {card : Card} {drop : Drop}
    (h : Redeemable s.1 userId codeValue now code card drop) (hkept : NotifiedKept s)
    (hfresh : FreshRedemption s userId codeValue acquisitionSource draws draw now) :
    (∃ after result, redeemNotified s userId codeValue acquisitionSource draws draw now =
      .ok (after, result)) ↔ RecipientsFit s userId codeValue draws.grant.userCardId := by
  obtain ⟨after, result, userCard, hredeem, -, hfound, hcard, hnew⟩ := h.redeem_succeeds hkept hfresh
  have hnotify := NoticeDb.notifyAll_succeeds hkept.notices (hfresh.notices after result hredeem)
  have hnotified : (∃ after result, redeemNotified s userId codeValue acquisitionSource draws draw
      now = .ok (after, result)) ↔ ∃ notices, s.2.notifyAll
        (redemptionNotices s.1 after s.2 userId codeValue result) draw = .ok notices := by
    simp only [redeemNotified, hredeem, bind_ok, pure_ok, Except.ok.injEq, exists_eq_left',
      Prod.mk.injEq]
    constructor
    · rintro ⟨_, _, notices, hok, -⟩
      exact ⟨notices, hok⟩
    · rintro ⟨notices, hok⟩
      exact ⟨_, _, notices, hok, rfl, rfl⟩
  rw [hnotified, hnotify]
  simp only [redemptionNotices, hfound, hcard, List.forall_mem_append, List.forall_mem_singleton]
  constructor
  · rintro ⟨hfollowers, hfan⟩
    refine ⟨hfan, fun hnone => ?_⟩
    rw [if_pos hnone] at hfollowers
    obtain ⟨huser, hid⟩ := hnew hnone
    have hfit := NoticeDb.followerRequests_notifiable.mp hfollowers
    rwa [huser, hid] at hfit
  · rintro ⟨hfan, hfollowers⟩
    refine ⟨?_, hfan⟩
    by_cases hnone : s.1.grantedCard userId "redeem_code" codeValue = none
    · obtain ⟨huser, hid⟩ := hnew hnone
      rw [if_pos hnone]
      refine NoticeDb.followerRequests_notifiable.mpr ?_
      rw [huser, hid]
      exact hfollowers hnone
    · rw [if_neg hnone]
      simp

theorem NotifiedKept.agrees_iff_recipientsFit (hkept : NotifiedKept s)
    (hfresh : FreshRedemption s userId codeValue acquisitionSource draws draw now) :
    PreviewAgrees s userId codeValue acquisitionSource draws draw now ↔
      ((∃ code card drop, Redeemable s.1 userId codeValue now code card drop) →
        RecipientsFit s userId codeValue draws.grant.userCardId) := by
  constructor
  · rintro ⟨haccepts, -⟩ ⟨code, card, drop, hredeemable⟩
    obtain ⟨after, result, hok, -⟩ := (haccepts card.id).mp
      ⟨card, previewRedeem_ok.mpr ⟨code, drop, hredeemable⟩, rfl⟩
    exact (hredeemable.redeemNotified_succeeds hkept hfresh).mp ⟨after, result, hok⟩
  · intro hfit
    have hcardId : ∀ after result, redeemNotified s userId codeValue acquisitionSource draws draw
        now = .ok (after, result) → ∃ card, previewRedeem s.1 userId codeValue now = .ok card ∧
          card.id = result.cardId := by
      intro after result hok
      simp only [redeemNotified, bind_ok, pure_ok, Prod.exists, Prod.mk.injEq] at hok
      obtain ⟨db', result', hredeem, notices, -, -, rfl⟩ := hok
      obtain ⟨code, card, drop, hredeemable, hcard⟩ := redeem_redeemable hredeem
      exact ⟨card, previewRedeem_ok.mpr ⟨code, drop, hredeemable⟩, hcard.symm⟩
    constructor
    · intro cardId
      constructor
      · rintro ⟨card, hpreview, rfl⟩
        obtain ⟨code, drop, hredeemable⟩ := previewRedeem_ok.mp hpreview
        obtain ⟨after, result, hok⟩ := (hredeemable.redeemNotified_succeeds hkept hfresh).mpr
          (hfit ⟨code, card, drop, hredeemable⟩)
        obtain ⟨card', hpreview', hcard'⟩ := hcardId after result hok
        obtain rfl := Except.ok.inj (hpreview.symm.trans hpreview')
        exact ⟨after, result, hok, hcard'.symm⟩
      · rintro ⟨after, result, hok, rfl⟩
        exact hcardId after result hok
    · intro e e' hpreview hredeem
      obtain ⟨e'', hredeem', halike⟩ := previewRedeem_refuses e hpreview
      obtain rfl := Except.error.inj (hredeem.symm.trans hredeem')
      exact halike

/-- In every state that requests reach, the preview of a redemption agrees with the redemption
exactly if the fan cannot redeem the code, or those who would be notified have addresses that fit. -/
theorem previewAgrees_iff {s₀ : NotifiedDb Digest} (h : NotifiedGenesis s₀)
    (acts : List NotifiedAction)
    (hfresh : FreshRedemption (notifiedAfter s₀ acts) userId codeValue acquisitionSource draws draw
      now) :
    PreviewAgrees (notifiedAfter s₀ acts) userId codeValue acquisitionSource draws draw now ↔
      ((∃ code card drop, Redeemable (notifiedAfter s₀ acts).1 userId codeValue now code card drop) →
        RecipientsFit (notifiedAfter s₀ acts) userId codeValue draws.grant.userCardId) :=
  (h.reached acts).agrees_iff_recipientsFit hfresh

omit [RecordHash Digest] in
/-- Without followers, a redemption notifies its fan alone. -/
theorem freshNotices_of_noFollows {after : CardDb Digest} {result : Redemption}
    (hfollows : s.2.follows = [])
    (hfresh : ∀ request : NoticeRequest, s.2.FreshNotice userId (draw request)) :
    s.2.FreshNotices draw (redemptionNotices s.1 after s.2 userId codeValue result) := by
  unfold redemptionNotices
  split
  · rename_i userCard card _ _
    rw [NoticeDb.followerRequests_of_noFollows hfollows, ite_self, List.nil_append]
    exact ⟨fun _ => hfresh _, fun _ _ => trivial⟩
  · trivial

end Redeeming

namespace RedeemPreviewExample

open NoticeExample

/-- A fan with a device and nothing redeemed. -/
def reached (length : Nat) (h : 1 ≤ length ∧ length ≤ 4096) : NotifiedDb SymbolicDigest :=
  notifiedAfter (smallCatalogue, start) [.notice (registration length h)]

def redeemDraws : RedeemDraws := ⟨⟨"uc_a", "ledger_a"⟩, "evt_a"⟩

theorem genesis : NotifiedGenesis (smallCatalogue, start) := ⟨genesis_smallCatalogue, start_blank⟩

theorem reached_freshRedemption (length : Nat) (h : 1 ≤ length ∧ length ≤ 4096) :
    FreshRedemption (reached length h) "fan_a" "CODE" "manual" redeemDraws (fun _ => draws) 0 :=
  ⟨fun _ hrow => (List.not_mem_nil hrow).elim, fun _ hrow => (List.not_mem_nil hrow).elim,
    fun _ hevent => (List.not_mem_nil hevent).elim, fun _ _ _ =>
    freshNotices_of_noFollows rfl fun _ => reached_fresh length h⟩

/-- The fan can redeem the code, and hears of it if the token has at most 224 characters. -/
theorem reached_recipientsFit (length : Nat) (h : 1 ≤ length ∧ length ≤ 4096) :
    RecipientsFit (reached length h) "fan_a" "CODE" "uc_a" ↔ length ≤ 224 := by
  rw [← reached_fits length h]
  constructor
  · rintro ⟨hnotified | hfit, -⟩
    · cases hnotified
    · exact hfit
  · intro hfit
    exact ⟨.inr hfit, fun _ _ _ hfollower => by cases hfollower⟩

end RedeemPreviewExample

open NoticeExample RedeemPreviewExample in
theorem previewAgrees_iff_longest : PreviewAgrees (RedeemPreviewExample.reached 224 (by decide))
    "fan_a" "CODE" "manual" redeemDraws (fun _ => draws) 0 :=
  (previewAgrees_iff genesis [.notice (registration 224 (by decide))]
    (reached_freshRedemption 224 (by decide))).mpr
      fun _ => (reached_recipientsFit 224 (by decide)).mpr le_rfl

open NoticeExample RedeemPreviewExample in
/-- The preview gives the card, and the redemption fails on a token of 225 characters. -/
theorem previewAgrees_fails : NotifiedGenesis (smallCatalogue, start) ∧
    FreshRedemption (RedeemPreviewExample.reached 225 (by decide)) "fan_a" "CODE" "manual"
      redeemDraws (fun _ => draws) 0 ∧
    ¬PreviewAgrees (RedeemPreviewExample.reached 225 (by decide)) "fan_a" "CODE" "manual"
      redeemDraws (fun _ => draws) 0 := by
  have hfresh := reached_freshRedemption 225 (by decide)
  refine ⟨genesis, hfresh, fun hagrees => ?_⟩
  have hkept : NotifiedKept (RedeemPreviewExample.reached 225 (by decide)) := genesis.reached _
  have hfit := (hkept.agrees_iff_recipientsFit hfresh).mp hagrees
    ⟨_, _, _, rfl, rfl, by decide, rfl, by decide, rfl, rfl, rfl, rfl, rfl⟩
  exact absurd ((reached_recipientsFit 225 (by decide)).mp hfit) (by decide)

end Fanfolio
