import Fanfolio.Framework.Paging
import Fanfolio.Framework.Table
import Fanfolio.Framework.Text
import Fanfolio.Social.Graph
import Mathlib.Data.List.Dedup
import Mathlib.Data.Prod.Lex
import Mathlib.Data.String.Basic

/-!
# Finding other fans

A fan searches for others, sees whom they follow and who follows them, and opens a collection. A
collection that its owner has made private is to be told by none of these pages, and the search
shows nobody across a block.
-/

namespace Fanfolio.Discovery

open Framework

structure Artist where
  id : String
  name : String
  imageUrl : Option String := none
deriving DecidableEq, Repr

structure Member where
  id : String
  name : String
deriving DecidableEq, Repr

/-- A row of `cards`, with what a collection shows of it. -/
structure ShownCard extends Card where
  imageAssetId : Option String := none
  imageUrl : String := "https://example.test/card.png"
  isOfficial : Bool := true
  seasonName : Option String := none
  signatureText : Option String := none
deriving DecidableEq, Repr

structure FanWishlistItem where
  id : String
  userId : UserId
  cardId : CardId
  createdAt : Time
deriving DecidableEq, Repr

/-- The tables of the social pages; `packs` are in the order of their publication, the latest
first. -/
structure DiscoveryDb where
  accounts : List Account := []
  follows : List Follow := []
  blocks : List UserBlock := []
  visibilities : List CardVisibility := []
  artists : List Artist := []
  members : List Member := []
  cards : List ShownCard := []
  userCards : List UserCard := []
  materials : List CardCombinationMaterial := []
  wishlist : List FanWishlistItem := []
  packs : List CardPack := []
  packCards : List CardPackCard := []
deriving DecidableEq, Repr

/-- The items of `_collection_card`. -/
structure CollectionCard where
  userCardId : UserCardId
  cardId : CardId
  name : String
  imageUrl : String
  isOfficial : Bool
  artistId : Option String
  artistName : Option String
  memberId : Option String
  memberName : Option String
  rarity : Option String
  seasonName : Option String
  signatureText : Option String
  issueLimit : Option Nat
  acquisitionSource : String
  serialNumber : Nat
  acquiredAt : Time
  expiresAt : Option Time
  tradable : Bool
deriving DecidableEq, Repr

/-- The items of `_wanted_card`. -/
structure WantedCard where
  cardId : CardId
  name : String
  imageUrl : String
  isOfficial : Bool
  artistId : Option String
  artistName : Option String
  memberId : Option String
  memberName : Option String
  rarity : Option String
  seasonName : Option String
  signatureText : Option String
  issueLimit : Option Nat
deriving DecidableEq, Repr

/-- The items of `_fan_data`. -/
structure FanData where
  id : UserId
  nickname : String
  profileImageUrl : Option String
  isFollowing : Bool
  followerCount : Nat
  followingCount : Nat
  ownedCount : Nat
  tradableCount : Nat
  favoriteArtists : List Artist
  sharedFavoriteArtists : List Artist
  previewCards : List CollectionCard
  matchingWishlistCount : Nat
  latestCardAt : Option Time
deriving DecidableEq, Repr

structure RankedFan extends FanData where
  recommendationScore : Nat
  recommendationReasons : List String
deriving DecidableEq, Repr

structure PublicCollection where
  userId : UserId
  nickname : Option String
  profileImageUrl : Option String
  featuredPackId : Option PackId
  isFollowing : Bool
  ownedCount : Nat
  followerCount : Nat
  followingCount : Nat
  favoriteArtists : List Artist
  cards : List CollectionCard
  wantedCards : List WantedCard
deriving DecidableEq, Repr

def cardImageUrl (card : ShownCard) : String :=
  match card.imageAssetId.filter (· ≠ "") with
  | some _ => "/api/cards/" ++ card.id ++ "/image?client=fan"
  | none => card.imageUrl

/-- The latest first, and those of one moment by their id. -/
def collectionKey (row : UserCard × ShownCard) : Int ×ₗ String :=
  toLex (-(row.1.acquiredAt : Int), row.1.id)

def wantedKey (row : FanWishlistItem × ShownCard) : Int ×ₗ Stringᵒᵈ :=
  toLex (-(row.1.createdAt : Int), OrderDual.toDual row.1.id)

/-- The first of the two texts that is not empty. -/
def orText (text : Option String) (other : String) : String := (text.filter (· ≠ "")).getD other

namespace DiscoveryDb

variable (db : DiscoveryDb)

def findAccount (userId : UserId) : Option Account := db.accounts.find? (·.id == userId)

def findCard (cardId : CardId) : Option ShownCard := db.cards.find? (·.id == cardId)

def artistOf (card : ShownCard) : Option Artist :=
  card.artistId.bind fun artistId => db.artists.find? (·.id == artistId)

def memberOf (card : ShownCard) : Option Member :=
  card.memberId.bind fun memberId => db.members.find? (·.id == memberId)

/-- A collection is public unless its owner has said otherwise. -/
def isPublic (userId : UserId) : Bool :=
  match db.visibilities.find? (·.userId == userId) with
  | none => true
  | some visibility => visibility.publicEnabled

/-- The copies of a fan that no combination has consumed. -/
def unconsumed (userId : UserId) : List UserCard :=
  db.userCards.filter fun row =>
    row.userId == userId && !db.materials.any (·.userCardId == row.id)

/-- The copies of a fan with their cards, the latest first. -/
def collectionRows (userId : UserId) : List (UserCard × ShownCard) :=
  sortedBy collectionKey ((db.unconsumed userId).filterMap fun row =>
    (db.findCard row.cardId).map fun card => (row, card))

def collectionCard (row : UserCard × ShownCard) : CollectionCard where
  userCardId := row.1.id
  cardId := row.2.id
  name := row.2.name
  imageUrl := cardImageUrl row.2
  isOfficial := row.2.isOfficial
  artistId := ((db.artistOf row.2).map Artist.id).or row.2.artistId
  artistName := (db.artistOf row.2).map Artist.name
  memberId := ((db.memberOf row.2).map Member.id).or row.2.memberId
  memberName := (db.memberOf row.2).map Member.name
  rarity := row.2.rarity
  seasonName := row.2.seasonName
  signatureText := row.2.signatureText
  issueLimit := row.2.issueLimit
  acquisitionSource := row.1.acquisitionSource
  serialNumber := row.1.serialNumber
  acquiredAt := row.1.acquiredAt
  expiresAt := row.1.expiresAt
  tradable := row.2.tradable && row.1.expiresAt.isNone && row.1.tradeLockedAt.isNone &&
    row.1.acquisitionSource != "combination"

def wantedCard (card : ShownCard) : WantedCard where
  cardId := card.id
  name := card.name
  imageUrl := cardImageUrl card
  isOfficial := card.isOfficial
  artistId := ((db.artistOf card).map Artist.id).or card.artistId
  artistName := (db.artistOf card).map Artist.name
  memberId := ((db.memberOf card).map Member.id).or card.memberId
  memberName := (db.memberOf card).map Member.name
  rarity := card.rarity
  seasonName := card.seasonName
  signatureText := card.signatureText
  issueLimit := card.issueLimit

def followerCount (userId : UserId) : Nat := db.follows.countP (·.followingId == userId)

def followingCount (userId : UserId) : Nat := db.follows.countP (·.followerId == userId)

def favoriteArtists (account : Account) : List Artist :=
  account.favoriteArtistIds.filterMap fun artistId => db.artists.find? (·.id == artistId)

/-- `_fan_data`. -/
def fanData (target : Account) (viewerId : UserId) : FanData :=
  let other := viewerId ≠ "" ∧ viewerId ≠ target.id
  let shared : List String :=
    if other then ((db.findAccount viewerId).map (·.favoriteArtistIds)).getD [] else []
  let wished : List CardId :=
    if other then (db.wishlist.filter (·.userId == viewerId)).map (·.cardId) else []
  let rows := if db.isPublic target.id then db.collectionRows target.id else []
  let cards := rows.map db.collectionCard
  let favorites := db.favoriteArtists target
  { id := target.id
    nickname := orText target.nickname (orText target.email target.id)
    profileImageUrl := target.profileImageUrl
    isFollowing := other ∧ ⟨viewerId, target.id⟩ ∈ db.follows
    followerCount := db.followerCount target.id
    followingCount := db.followingCount target.id
    ownedCount := (db.unconsumed target.id).length
    tradableCount := cards.countP (·.tradable)
    favoriteArtists := favorites
    sharedFavoriteArtists := favorites.filter (·.id ∈ shared)
    previewCards := cards.take 3
    matchingWishlistCount := ((rows.map (·.2.id)).dedup.filter (· ∈ wished)).length
    latestCardAt := cards.head?.map (·.acquiredAt) }

section

variable (ilike : String → String → Bool)

/-- A copy whose card, season, artist or member the query names. -/
def copyMatches (query : String) (row : UserCard) : Bool :=
  (db.findCard row.cardId).any fun card =>
    ilike query card.name || card.seasonName.any (ilike query) ||
      (db.artistOf card).any (fun artist => ilike query artist.name) ||
      (db.memberOf card).any fun member => ilike query member.name

/-- `matching_card_owners`. -/
def ownsMatching (query : String) (userId : UserId) : Bool :=
  db.isPublic userId && (db.unconsumed userId).any (db.copyMatches ilike query)

/-- The condition of the query on a fan. -/
def searchMatches (query : String) (target : Account) : Bool :=
  query == "" || ilike query target.id || target.email.any (ilike query) ||
    target.nickname.any (ilike query) || db.ownsMatching ilike query target.id

end

end DiscoveryDb

/-- The reasons for a recommendation. -/
def recommendationReasons (item : FanData) (recent : Bool) : List String :=
  let shared := if item.sharedFavoriteArtists = [] then [] else
    [", ".intercalate ((item.sharedFavoriteArtists.take 2).map Artist.name) ++ "를 함께 좋아해요"]
  let wished := if item.matchingWishlistCount = 0 then [] else
    ["내가 찾는 카드 " ++ toString item.matchingWishlistCount ++ "장을 보유하고 있어요"]
  let tradable := if item.tradableCount = 0 then [] else
    ["교환 가능한 카드가 " ++ toString item.tradableCount ++ "장 있어요"]
  let reasons := shared ++ wished ++ tradable
  let reasons := if reasons = [] ∧ recent then ["최근 컬렉션을 업데이트했어요"] else reasons
  if reasons = [] then ["새로운 팬을 만나보세요"] else reasons.take 3

def ranked (now : Time) (item : FanData) : RankedFan :=
  let recent : Bool := item.latestCardAt.any fun latest => now ≤ latest + days 7
  { toFanData := item
    recommendationScore := item.sharedFavoriteArtists.length * 100 +
      item.matchingWishlistCount * 50 + min item.tradableCount 10 * 5 + if recent then 10 else 0
    recommendationReasons := recommendationReasons item recent }

/-- The best first, then by nickname and id. -/
def rankKey (item : RankedFan) : Int ×ₗ String ×ₗ String :=
  toLex (-(item.recommendationScore : Int), toLex (item.nickname, item.id))

inductive ConnectionKind where
  | following
  | followers
deriving DecidableEq, Repr

def collectionNotFound (message : String) : Failure := .app ⟨404, "COLLECTION_NOT_FOUND", message⟩

namespace DiscoveryDb

variable (db : DiscoveryDb)

/-- The fans that a search finds. -/
def searchTargets (ilike : String → String → Bool) (viewerId : UserId) (query : String) :
    List Account :=
  (db.accounts.filter fun target => target.role == .fan && target.id != viewerId &&
    target.deletedAt.isNone && db.searchMatches ilike (strip query) target).filter fun target =>
      !isBlocked db.blocks viewerId target.id

/-- `search_fans`. -/
def searchFans (ilike : String → String → Bool) (now : Time) (viewerId : UserId) (query : String) :
    List RankedFan :=
  sortedBy rankKey ((db.searchTargets ilike viewerId query).map fun target =>
    ranked now (db.fanData target viewerId))

/-- `fan_connections`; `order` is the order of the accounts by nickname, email and id. -/
def fanConnections (order : List Account) (viewerId : UserId) (kind : ConnectionKind) :
    List FanData :=
  let connected : Account → Bool := fun account =>
    match kind with
    | .followers => ⟨account.id, viewerId⟩ ∈ db.follows
    | .following => ⟨viewerId, account.id⟩ ∈ db.follows
  (scan order (db.accounts.filter connected)).map fun target => db.fanData target viewerId

/-- `public_collection`. -/
def publicCollection (viewerId : Option UserId) (userId : UserId) :
    Except Failure PublicCollection := do
  let notFound := collectionNotFound "컬렉션을 찾을 수 없습니다."
  let target ← orFail (db.findAccount userId) notFound
  ensure (target.role = .fan) notFound
  ensure (viewerId = some userId ∨ ∀ viewer ∈ viewerId, isBlocked db.blocks viewer userId = false)
    notFound
  ensure (viewerId = some userId ∨ db.isPublic userId = true)
    (collectionNotFound "비공개 컬렉션입니다.")
  let cards := (db.collectionRows userId).map db.collectionCard
  let cardIds := (db.collectionRows userId).map (·.2.id)
  let wanted := sortedBy wantedKey ((db.wishlist.filter (·.userId == userId)).filterMap fun row =>
    (db.findCard row.cardId).map fun card => (row, card))
  pure
    { userId := userId
      nickname := target.nickname
      profileImageUrl := target.profileImageUrl
      featuredPackId := (db.packs.find? fun pack => pack.status == .published &&
        db.packCards.any fun row => row.packId == pack.id && row.enabled &&
          cardIds.contains row.cardId).map (·.id)
      isFollowing := viewerId.any fun viewer =>
        viewer != userId && db.follows.contains ⟨viewer, userId⟩
      ownedCount := cards.length
      followerCount := db.followerCount userId
      followingCount := db.followingCount userId
      favoriteArtists := db.favoriteArtists target
      cards := cards
      wantedCards := wanted.map fun row => db.wantedCard row.2 }

/-- The tables without the copies in private collections. -/
def redact : DiscoveryDb :=
  { db with userCards := db.userCards.filter fun row => db.isPublic row.userId }

/-- An item, without the size of a private collection. -/
def hideOwned (item : FanData) : FanData :=
  if db.isPublic item.id then item else { item with ownedCount := 0 }

def hideRanked (item : RankedFan) : RankedFan :=
  { item with toFanData := db.hideOwned item.toFanData }

section

variable {db : DiscoveryDb}

theorem unconsumed_redact (userId : UserId) : db.redact.unconsumed userId =
    if db.isPublic userId then db.unconsumed userId else [] := by
  rw [unconsumed, redact, List.filter_filter]
  split
  · rename_i hpublic
    refine List.filter_congr fun row _ => ?_
    by_cases huser : row.userId = userId
    · rw [huser, hpublic, Bool.and_true]
    · rw [beq_eq_false_iff_ne.mpr huser, Bool.false_and, Bool.false_and]
  · rename_i hprivate
    refine List.filter_eq_nil_iff.mpr fun row _ hrow => hprivate ?_
    simp only [Bool.and_eq_true, beq_iff_eq] at hrow
    exact hrow.1.1 ▸ hrow.2

theorem isPublic_redact (userId : UserId) : db.redact.isPublic userId = db.isPublic userId := rfl

theorem collectionRows_redact {userId : UserId} (h : db.isPublic userId = true) :
    db.redact.collectionRows userId = db.collectionRows userId := by
  rw [collectionRows, unconsumed_redact, if_pos h]
  rfl

/-- An item on a redacted page: everything but the size of a private collection is there. -/
theorem fanData_redact (target : Account) (viewerId : UserId) :
    db.redact.fanData target viewerId = db.hideOwned (db.fanData target viewerId) := by
  have hid : (db.fanData target viewerId).id = target.id := rfl
  rw [hideOwned, hid]
  by_cases hpublic : db.isPublic target.id = true
  · rw [if_pos hpublic, fanData, isPublic_redact, collectionRows_redact hpublic,
      unconsumed_redact, if_pos hpublic]
    rfl
  · rw [if_neg hpublic, fanData, isPublic_redact, if_neg hpublic, unconsumed_redact,
      if_neg hpublic, fanData, if_neg hpublic]
    rfl

section

variable {ilike : String → String → Bool} {now : Time} {viewerId : UserId} {query : String}

/-- A query does not find a fan by a card of a private collection. -/
theorem ownsMatching_redact (userId : UserId) :
    db.redact.ownsMatching ilike query userId = db.ownsMatching ilike query userId := by
  rw [ownsMatching, isPublic_redact, unconsumed_redact, ownsMatching]
  by_cases hpublic : db.isPublic userId = true
  · rw [if_pos hpublic]
    rfl
  · rw [Bool.not_eq_true] at hpublic
    rw [hpublic, Bool.false_and, Bool.false_and]

theorem searchTargets_redact :
    db.redact.searchTargets ilike viewerId query = db.searchTargets ilike viewerId query := by
  have hmatches (target : Account) : db.redact.searchMatches ilike (strip query) target =
      db.searchMatches ilike (strip query) target := by
    rw [searchMatches, ownsMatching_redact, searchMatches]
  simp only [searchTargets, hmatches]
  rfl

end

end

end DiscoveryDb

theorem ranked_hideOwned (db : DiscoveryDb) (now : Time) (item : FanData) :
    ranked now (db.hideOwned item) = db.hideRanked (ranked now item) := by
  simp only [DiscoveryDb.hideRanked, DiscoveryDb.hideOwned]
  by_cases hpublic : db.isPublic item.id = true
  · have hitem : (ranked now item).toFanData = item := rfl
    rw [hitem, if_pos hpublic]
    rfl
  · have hitem : (ranked now item).toFanData = item := rfl
    rw [hitem, if_neg hpublic]
    rfl

theorem rankKey_hideRanked (db : DiscoveryDb) (item : RankedFan) :
    rankKey (db.hideRanked item) = rankKey item := by
  simp only [DiscoveryDb.hideRanked, DiscoveryDb.hideOwned, rankKey]
  split <;> rfl

section

variable (db : DiscoveryDb) (ilike : String → String → Bool) (now : Time)

/-- What the pages tell of a private collection is its size: without the copies in it, a search
and the connections show the same fans in the same order, with everything but that number, and a
collection that another one opens is the same. -/
theorem pages_redact :
    (∀ viewerId query, db.redact.searchFans ilike now viewerId query =
      (db.searchFans ilike now viewerId query).map db.hideRanked) ∧
    (∀ order viewerId kind, db.redact.fanConnections order viewerId kind =
      (db.fanConnections order viewerId kind).map db.hideOwned) ∧
    ∀ viewerId userId, viewerId ≠ some userId →
      db.redact.publicCollection viewerId userId = db.publicCollection viewerId userId := by
  refine ⟨fun viewerId query => ?_, fun order viewerId kind => ?_, fun viewerId userId hother => ?_⟩
  · have hitems (target : Account) : ranked now (db.redact.fanData target viewerId) =
        db.hideRanked (ranked now (db.fanData target viewerId)) := by
      rw [DiscoveryDb.fanData_redact, ranked_hideOwned]
    simp only [DiscoveryDb.searchFans, DiscoveryDb.searchTargets_redact, hitems]
    rw [← sortedBy_map db.hideRanked (rankKey_hideRanked db), List.map_map]
    rfl
  · simp only [DiscoveryDb.fanConnections, DiscoveryDb.fanData_redact, List.map_map]
    rfl
  · by_cases hpublic : db.isPublic userId = true
    · simp only [DiscoveryDb.publicCollection, DiscoveryDb.collectionRows_redact hpublic]
      rfl
    · have hrefused (db' : DiscoveryDb) (hprivate : db'.isPublic userId ≠ true) (e : Failure) :
          ensure (viewerId = some userId ∨ db'.isPublic userId = true) e = .error e :=
        if_neg (not_or.mpr ⟨hother, hprivate⟩)
      simp only [DiscoveryDb.publicCollection, hrefused db hpublic, hrefused db.redact hpublic]
      rfl

end

section

variable {db : DiscoveryDb} {ilike : String → String → Bool} {now : Time} {viewerId : UserId}
  {query : String}

namespace DiscoveryDb

theorem mem_searchTargets {target : Account} :
    target ∈ db.searchTargets ilike viewerId query ↔ target ∈ db.accounts ∧ target.role = .fan ∧
      target.id ≠ viewerId ∧ target.deletedAt = none ∧
        db.searchMatches ilike (strip query) target = true ∧
          isBlocked db.blocks viewerId target.id = false := by
  simp only [searchTargets, List.mem_filter, Bool.and_eq_true, beq_iff_eq, bne_iff_ne, ne_eq,
    Option.isNone_iff_eq_none, Bool.not_eq_true', and_assoc]

theorem searchFans_perm : (db.searchFans ilike now viewerId query).Perm
    ((db.searchTargets ilike viewerId query).map fun target =>
      ranked now (db.fanData target viewerId)) :=
  sortedBy_perm rankKey _

end DiscoveryDb

/-- A search shows every fan that it finds once, the best first: those who match, but not the fan
who searches, no deleted one and nobody across a block. -/
theorem searchFans_exact (hids : (db.accounts.map (·.id)).Nodup) :
    let items := db.searchFans ilike now viewerId query
    Ordered rankKey items ∧ (items.map (·.id)).Nodup ∧
      ∀ item, item ∈ items ↔ ∃ target ∈ db.accounts, target.role = .fan ∧
        target.id ≠ viewerId ∧ target.deletedAt = none ∧
        db.searchMatches ilike (strip query) target = true ∧
        isBlocked db.blocks viewerId target.id = false ∧
        item = ranked now (db.fanData target viewerId) := by
  refine ⟨sortedBy_ordered rankKey _, ?_, fun item => ?_⟩
  · rw [(DiscoveryDb.searchFans_perm.map _).nodup_iff, List.map_map]
    exact hids.sublist ((List.filter_sublist.trans List.filter_sublist).map _)
  · rw [DiscoveryDb.searchFans_perm.mem_iff, List.mem_map]
    simp only [DiscoveryDb.mem_searchTargets, and_assoc]
    constructor
    · rintro ⟨target, hmem, hfan, hother, hlive, hmatches, hblock, rfl⟩
      exact ⟨target, hmem, hfan, hother, hlive, hmatches, hblock, rfl⟩
    · rintro ⟨target, hmem, hfan, hother, hlive, hmatches, hblock, rfl⟩
      exact ⟨target, hmem, hfan, hother, hlive, hmatches, hblock, rfl⟩

/-- Who is found by an id does not depend on the order of the accounts. -/
theorem find_perm {accounts accounts' : List Account} (hids : (accounts.map (·.id)).Nodup)
    (h : accounts'.Perm accounts) (userId : UserId) :
    accounts'.find? (·.id == userId) = accounts.find? (·.id == userId) := by
  have hids' : (accounts'.map (·.id)).Nodup := (h.map _).nodup_iff.mpr hids
  cases hfind : accounts.find? (·.id == userId) with
  | none =>
    rw [List.find?_eq_none] at hfind ⊢
    exact fun account haccount => hfind account (h.subset haccount)
  | some account =>
    obtain ⟨hmem, rfl⟩ := mem_of_find_eq_some hfind
    exact find_of_mem hids' (h.symm.subset hmem)

/-- The order in which the accounts come from the database does not show. -/
theorem searchFans_anyOrder (hids : (db.accounts.map (·.id)).Nodup) {accounts : List Account}
    (h : accounts.Perm db.accounts) :
    ({ db with accounts := accounts } : DiscoveryDb).searchFans ilike now viewerId query =
      db.searchFans ilike now viewerId query := by
  have hfind : ({ db with accounts := accounts } : DiscoveryDb).findAccount viewerId =
      db.findAccount viewerId := find_perm hids h viewerId
  have hdata (target : Account) :
      ({ db with accounts := accounts } : DiscoveryDb).fanData target viewerId =
        db.fanData target viewerId := by
    rw [DiscoveryDb.fanData, hfind, DiscoveryDb.fanData]
    rfl
  have htargets : (({ db with accounts := accounts } : DiscoveryDb).searchTargets ilike viewerId
      query).Perm (db.searchTargets ilike viewerId query) := (h.filter _).filter _
  rw [DiscoveryDb.searchFans]
  simp only [hdata]
  refine sortedBy_congr (htargets.map _) fun item hitem item' hitem' hkey => ?_
  obtain ⟨target, htarget, rfl⟩ := List.mem_map.mp hitem
  obtain ⟨target', htarget', rfl⟩ := List.mem_map.mp hitem'
  have hid : target.id = target'.id := congrArg (fun key => (ofLex (ofLex key).2).2) hkey
  rw [eq_of_unique hids (DiscoveryDb.mem_searchTargets.mp htarget).1
    (DiscoveryDb.mem_searchTargets.mp htarget').1 hid]

/-- The connections of a fan, which are not checked for blocks, show nobody across one as long as
nobody follows across one. -/
theorem fanConnections_unblocked {users : List User} {order : List Account}
    (h : SocialDb.NoFollowAcrossBlock ⟨users, db.follows, db.blocks⟩) {kind : ConnectionKind}
    {item : FanData} (hitem : item ∈ db.fanConnections order viewerId kind) :
    isBlocked db.blocks viewerId item.id = false := by
  obtain ⟨target, htarget, rfl⟩ := List.mem_map.mp hitem
  have hconnected := (List.mem_filter.mp ((scan_perm order _).mem_iff.mp htarget)).2
  cases kind with
  | following => exact h ⟨viewerId, target.id⟩ (of_decide_eq_true hconnected)
  | followers =>
    rw [isBlocked_comm]
    exact h ⟨target.id, viewerId⟩ (of_decide_eq_true hconnected)

/-- Two fans and the one who searches; one of the two is blocked. -/
def threeFans : DiscoveryDb :=
  { accounts := [{ id := "jun", nickname := some "jun" }, { id := "mina", nickname := some "mina" },
      { id := "sora" }]
    blocks := [⟨"sora", "mina"⟩] }

theorem searchFans_exact_threeFans :
    let items := threeFans.searchFans (fun _ _ => false) 0 "mina" " "
    Ordered rankKey items ∧ (items.map (·.id)).Nodup ∧
      ∀ item, item ∈ items ↔ ∃ target ∈ threeFans.accounts, target.role = .fan ∧
        target.id ≠ "mina" ∧ target.deletedAt = none ∧
        threeFans.searchMatches (fun _ _ => false) (strip " ") target = true ∧
        isBlocked threeFans.blocks "mina" target.id = false ∧
        item = ranked 0 (threeFans.fanData target "mina") :=
  searchFans_exact (by decide)

theorem searchFans_anyOrder_threeFans :
    ({ threeFans with accounts := threeFans.accounts.reverse } : DiscoveryDb).searchFans
        (fun _ _ => true) 0 "jun" "card" =
      threeFans.searchFans (fun _ _ => true) 0 "jun" "card" :=
  searchFans_anyOrder (by decide) (List.reverse_perm _)

end

end Fanfolio.Discovery
