import Fanfolio.Cards.Redemption
import Fanfolio.Cards.Serials
import Fanfolio.Notifications.Queue

/-!
# Notifications of new cards

A grant tells the followers of the new owner, and the request around it tells the owner. All of
it happens in the transaction of the grant.
-/

namespace Fanfolio

open Framework

/-- The code of an application error. -/
def Failure.code : Failure → Option String
  | .app e => some e.code
  | _ => none

namespace NoticeDb

/-- Notifications of one transaction, in turn. -/
def notifyAll (db : NoticeDb) (requests : List NoticeRequest) (draw : NoticeRequest → NoticeDraws) :
    Except Failure NoticeDb :=
  requests.foldlM (fun db request => db.notifyUserOnce request (draw request)) db

/-- Identifiers are new when a notification draws them. -/
def FreshNotices (draw : NoticeRequest → NoticeDraws) : NoticeDb → List NoticeRequest → Prop
  | _, [] => True
  | db, request :: requests =>
    (db.isNotified request.userId request.eventKey = false →
      db.FreshNotice request.userId (draw request)) ∧
    ∀ db', db.notifyUserOnce request (draw request) = .ok db' → FreshNotices draw db' requests

/-- The recipient was notified before or has addresses that fit. -/
def Notifiable (db : NoticeDb) (request : NoticeRequest) : Prop :=
  db.isNotified request.userId request.eventKey = true ∨ db.AddressesFit request.userId

variable {db db' : NoticeDb} {request : NoticeRequest} {draws : NoticeDraws}

theorem notifyUserOnce_frame (h : db.notifyUserOnce request draws = .ok db') :
    db'.accounts = db.accounts ∧ db'.devices = db.devices := by
  unfold notifyUserOnce at h
  split at h
  · obtain rfl := Except.ok.inj h
    exact ⟨rfl, rfl⟩
  · obtain ⟨-, -, _, -, rfl⟩ := insertNotice_ok.mp h
    exact ⟨rfl, rfl⟩

theorem notifyUserOnce_isNotified (h : db.notifyUserOnce request draws = .ok db')
    (userId : UserId) (eventKey : String) : db'.isNotified userId eventKey ↔
      db.isNotified userId eventKey ∨ (request.userId = userId ∧ request.eventKey = eventKey) := by
  unfold notifyUserOnce at h
  split at h
  · rename_i hnotified
    obtain rfl := Except.ok.inj h
    refine ⟨.inl, fun hor => hor.elim id ?_⟩
    rintro ⟨rfl, rfl⟩
    exact hnotified
  · obtain ⟨-, -, _, -, rfl⟩ := insertNotice_ok.mp h
    simp [isNotified]

theorem AddressesFit.congr (haccounts : db'.accounts = db.accounts)
    (hdevices : db'.devices = db.devices) {userId : UserId} :
    db'.AddressesFit userId ↔ db.AddressesFit userId := by
  have hfound : db'.findAccount userId = db.findAccount userId := by
    rw [findAccount, findAccount, haccounts]
  constructor
  · rintro ⟨hemail, htokens⟩
    rw [hfound] at hemail htokens
    rw [hdevices] at htokens
    exact ⟨hemail, htokens⟩
  · rintro ⟨hemail, htokens⟩
    refine ⟨?_, ?_⟩
    · rwa [hfound]
    · rwa [hfound, hdevices]

/-- A notification succeeds exactly if its recipient can be notified. -/
theorem notifyUserOnce_succeeds (h : db.Sound)
    (hfresh : db.isNotified request.userId request.eventKey = false →
      db.FreshNotice request.userId draws) :
    (∃ db', db.notifyUserOnce request draws = .ok db') ↔ db.Notifiable request := by
  cases hnotified : db.isNotified request.userId request.eventKey with
  | true =>
    refine iff_of_true ⟨db, ?_⟩ (.inl hnotified)
    rw [notifyUserOnce, hnotified, if_pos rfl]
  | false =>
    have hsafe := queuesSafely_iff_addressesFit h (hfresh hnotified)
    refine Iff.trans ⟨fun hok => ⟨fun _ => ?_, hok⟩, fun hqueues => hqueues.2⟩ hsafe
    obtain ⟨db', hok⟩ := hok
    rw [notifyUserOnce, hnotified, if_neg Bool.false_ne_true] at hok
    obtain ⟨-, -, _, hinsert, -⟩ := insertNotice_ok.mp hok
    exact ((insertDeliveries_ok h.outbox).mp hinsert).1

/-- A transaction can notify all of its recipients exactly if each of them can be notified. -/
theorem notifyAll_succeeds {draw : NoticeRequest → NoticeDraws} {requests : List NoticeRequest}
    (h : db.Sound) (hfresh : FreshNotices draw db requests) :
    (∃ db', db.notifyAll requests draw = .ok db') ↔ ∀ request ∈ requests, db.Notifiable request := by
  induction requests generalizing db with
  | nil => exact iff_of_true ⟨db, rfl⟩ (by simp)
  | cons request requests ih =>
    have hnext : ∀ db₁, db.notifyUserOnce request (draw request) = .ok db₁ →
        db.Notifiable request → ((∃ db', db₁.notifyAll requests draw = .ok db') ↔
          ∀ request' ∈ requests, db.Notifiable request') := by
      intro db₁ hok hfirst
      rw [ih (h.notifyUserOnce hok) (hfresh.2 db₁ hok)]
      obtain ⟨haccounts, hdevices⟩ := notifyUserOnce_frame hok
      refine forall₂_congr fun request' _ => ?_
      unfold Notifiable
      rw [notifyUserOnce_isNotified hok, AddressesFit.congr haccounts hdevices, or_right_comm]
      -- A repeated notification needs no more than its first occurrence.
      refine ⟨fun hor => hor.elim id ?_, .inl⟩
      rintro ⟨huser, hkey⟩
      rw [← huser, ← hkey]
      exact hfirst
    have hfold : (∃ db', db.notifyAll (request :: requests) draw = .ok db') ↔
        ∃ db₁, db.notifyUserOnce request (draw request) = .ok db₁ ∧
          ∃ db', db₁.notifyAll requests draw = .ok db' := by
      simp only [notifyAll, List.foldlM_cons, bind_ok]
      constructor
      · rintro ⟨db', db₁, hfirst, hrest⟩
        exact ⟨db₁, hfirst, db', hrest⟩
      · rintro ⟨db₁, hfirst, db', hrest⟩
        exact ⟨db', db₁, hfirst, hrest⟩
    rw [hfold, List.forall_mem_cons]
    constructor
    · rintro ⟨db₁, hok, hrest⟩
      have hfirst := (notifyUserOnce_succeeds h hfresh.1).mp ⟨db₁, hok⟩
      exact ⟨hfirst, (hnext db₁ hok hfirst).mp hrest⟩
    · rintro ⟨hfirst, hrest⟩
      obtain ⟨db₁, hok⟩ := (notifyUserOnce_succeeds h hfresh.1).mpr hfirst
      exact ⟨db₁, hok, (hnext db₁ hok hfirst).mpr hrest⟩

/-- The followers who hear of new cards of an owner: not those of a private collection, and nobody
across a block. -/
def followersToTell (db : NoticeDb) (blocks : List UserBlock) (ownerId : UserId) : List UserId :=
  if db.visibilities.any (fun row => row.userId == ownerId && !row.publicEnabled) then []
  else
    let followerIds := (db.follows.filter (·.followingId == ownerId)).map (·.followerId)
    followerIds.filter fun followerId => !blocks.any fun block =>
      block.blockerId == followerId && block.blockedId == ownerId ||
        block.blockerId == ownerId && block.blockedId == followerId

def followingKey (ownerId : UserId) (userCardId : UserCardId) (followerId : UserId) : String :=
  "following-card:" ++ ownerId ++ ":" ++ userCardId ++ ":" ++ followerId

/-- The notifications of `notify_followers_of_card` for a new copy. -/
def followerRequests (db : NoticeDb) (blocks : List UserBlock) (userCard : UserCard) (card : Card) :
    List NoticeRequest :=
  match db.findAccount userCard.userId with
  | none => []
  | some owner =>
    let ownerName :=
      (owner.nickname.filter (· ≠ "")).getD ((owner.email.filter (· ≠ "")).getD owner.id)
    (db.followersToTell blocks userCard.userId).map fun followerId =>
      { userId := followerId, kind := "following_card_collected"
        title := ownerName ++ "님이 새 카드를 모았어요"
        body := card.name ++ " 카드가 공개 컬렉션에 추가됐습니다."
        entityType := "fan", entityId := userCard.userId
        eventKey := followingKey userCard.userId userCard.id followerId }

/-- Nobody hears of a new copy while there are no followers. -/
theorem followerRequests_of_noFollows (h : db.follows = []) {blocks : List UserBlock}
    {userCard : UserCard} {card : Card} : db.followerRequests blocks userCard card = [] := by
  unfold followerRequests followersToTell
  split <;> simp [h]

/-- The followers of an owner can hear of a new copy. -/
def FollowersFit (db : NoticeDb) (blocks : List UserBlock) (ownerId : UserId)
    (userCardId : UserCardId) : Prop :=
  (db.findAccount ownerId).isSome → ∀ followerId ∈ db.followersToTell blocks ownerId,
    db.isNotified followerId (followingKey ownerId userCardId followerId) = true ∨
      db.AddressesFit followerId

theorem followerRequests_notifiable {blocks : List UserBlock} {userCard : UserCard} {card : Card} :
    (∀ request ∈ db.followerRequests blocks userCard card, db.Notifiable request) ↔
      db.FollowersFit blocks userCard.userId userCard.id := by
  unfold followerRequests FollowersFit Notifiable
  cases db.findAccount userCard.userId with
  | none => simp
  | some owner => simp

end NoticeDb

/-- The cards and the tables around notifications. -/
abbrev NotifiedDb (Digest : Type) := CardDb Digest × NoticeDb

/-- What requests of other parts write: accounts, blocks, the catalogue and rights to packs. -/
structure Surroundings where
  users : List User
  blocks : List UserBlock
  cards : List Card
  drops : List Drop
  packs : List CardPack
  packCards : List CardPackCard
  recipes : List CardCombinationRecipe
  shopEntitlements : List PackEntitlement
  rewardEntitlements : List PackEntitlement

/-- A request to the cards, to the tables around notifications, or to other parts. -/
inductive NotifiedAction where
  | card (a : CardAction)
  | notice (a : NoticeAction)
  | others (tables : Surroundings)

section

variable {Digest : Type}

def CardDb.surroundedBy (db : CardDb Digest) (tables : Surroundings) : CardDb Digest :=
  { db with
    users := tables.users, blocks := tables.blocks, cards := tables.cards, drops := tables.drops
    packs := tables.packs, packCards := tables.packCards, recipes := tables.recipes
    shopEntitlements := tables.shopEntitlements
    rewardEntitlements := tables.rewardEntitlements }

variable [RecordHash Digest]

/-- Requests and notifications come in any order: a request with its notifications is one of the
one and some of the other. -/
def notifiedStep (s : NotifiedDb Digest) : NotifiedAction → NotifiedDb Digest
  | .card a => (cardStep s.1 a, s.2)
  | .notice a => (s.1, noticeStep s.2 a)
  | .others tables => (s.1.surroundedBy tables, s.2)

def notifiedAfter (s : NotifiedDb Digest) (acts : List NotifiedAction) : NotifiedDb Digest :=
  run notifiedStep s acts

/-- What every run keeps: serials, the ledger of the copies, their keys, and the outbox. -/
structure NotifiedKept (s : NotifiedDb Digest) : Prop where
  serials : s.1.SerialsExact
  logged : ∃ log, LogKept (s.1, log)
  copies : CopiesUnique s.1.userCards
  notices : s.2.Sound

theorem NotifiedKept.step {s : NotifiedDb Digest} (h : NotifiedKept s) (a : NotifiedAction) :
    NotifiedKept (notifiedStep s a) := by
  obtain ⟨hserials, ⟨log, hlog⟩, hcopies, hnotices⟩ := h
  cases a with
  | card a => exact ⟨hserials.step a, ⟨_, hlog.step a⟩, hcopies.step a, hnotices⟩
  | notice a => exact ⟨hserials, ⟨log, hlog⟩, hcopies, hnotices.step a⟩
  | others tables =>
    exact ⟨hserials, ⟨log, hlog.trades, hlog.codeIds, hlog.granted, hlog.log, hlog.coded,
      hlog.known⟩, hcopies, hnotices⟩

omit [RecordHash Digest] in
theorem Genesis.logKept {db : CardDb Digest} (h : Genesis db) : LogKept (db, []) := by
  refine ⟨h.tradesConsistent, h.codeIds, ?_, ?_, ?_, ?_⟩ <;>
    simp [CardDb.grants, CardDb.origins, h.ledger, h.userCards]

/-- Nobody asked for anything yet. -/
structure NotifiedGenesis (s : NotifiedDb Digest) : Prop where
  cards : Genesis s.1
  notices : s.2.Blank

theorem NotifiedGenesis.reached {s : NotifiedDb Digest} (h : NotifiedGenesis s)
    (acts : List NotifiedAction) : NotifiedKept (notifiedAfter s acts) :=
  run_of_step ⟨h.cards.serialsExact, ⟨[], h.cards.logKept⟩, cardsAfter_copiesUnique h.cards [],
    h.notices.sound⟩ fun _ a hs => hs.step a

end

end Fanfolio
