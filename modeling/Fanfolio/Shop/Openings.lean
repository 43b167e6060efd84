import Fanfolio.Cards.System
import Fanfolio.Shop.Refunds

/-!
# Pack openings under a key

An opening marks a right of the fan as opened, and then looks for an earlier opening under its
idempotency key. Orders and rewards give rights to open packs, and refunds take them back.
-/

namespace Fanfolio

open Framework

/-- What a fan was told under a key. -/
structure KeyedOpening where
  userId : UserId
  packId : PackId
  key : String
  answer : PackOpened
deriving DecidableEq, Repr

/-- The card tables, and the answers under a key so far. -/
structure OpeningState (Digest : Type) where
  db : CardDb Digest
  log : List KeyedOpening

/-- A request to open a pack, or any other operation, which leaves `db` behind. -/
inductive OpeningAction (Digest : Type) where
  | openCardPack (userId : UserId) (packId : PackId) (idempotencyKey : Option String)
      (draws : OpenDraws) (now : Time)
  | elsewhere (db : CardDb Digest)

def openedCount (entitlements : List PackEntitlement) : Nat :=
  entitlements.countP (·.status == .opened)

/-- Rights are added or taken back, and none is opened. -/
structure RightsKept (rows rows' : List PackEntitlement) : Prop where
  ids : (rows.map (·.id)).Nodup → (rows'.map (·.id)).Nodup
  opened : openedCount rows' ≤ openedCount rows

instance (rows rows' : List PackEntitlement) : Decidable (RightsKept rows rows') :=
  decidable_of_iff (_ ∧ _) ⟨fun ⟨h1, h2⟩ => ⟨h1, h2⟩, fun ⟨h1, h2⟩ => ⟨h1, h2⟩⟩

/-- The unique key `uq_card_pack_cards_pack_card`. -/
def UniqueLinks (links : List CardPackCard) : Prop :=
  (links.map fun row => (row.packId, row.cardId)).Nodup

instance (links : List CardPackCard) : Decidable (UniqueLinks links) :=
  inferInstanceAs (Decidable (List.Nodup _))

section

variable {Digest : Type}

def CardDb.publishedPack (db : CardDb Digest) (packId : PackId) : Option CardPack :=
  db.packs.find? (fun row => row.id == packId && row.status == .published)

/-- All rights to open a pack that are marked opened. -/
def CardDb.openedRights (db : CardDb Digest) : Nat :=
  openedCount db.shopEntitlements + openedCount db.rewardEntitlements

/-- An operation other than an opening: published packs and their entries stay as they are, cards
and copies are not deleted, and a copy keeps its serial number. -/
structure Elsewhere (db db' : CardDb Digest) : Prop where
  openings : db'.openings = db.openings
  packs : ∀ pack ∈ db.packs, pack.status = .published → (db'.publishedPack pack.id).isSome
  links : ∀ pack ∈ db.packs, pack.status = .published →
    db'.packCards.filter (·.packId == pack.id) = db.packCards.filter (·.packId == pack.id)
  uniqueLinks : UniqueLinks db.packCards → UniqueLinks db'.packCards
  cards : ∀ card ∈ db.cards, (db'.findCard card.id).isSome
  copies : ∀ copy ∈ db.userCards, (db'.findUserCard copy.id).map (·.serialNumber) =
    (db.findUserCard copy.id).map (·.serialNumber)
  shopRights : RightsKept db.shopEntitlements db'.shopEntitlements
  rewardRights : RightsKept db.rewardEntitlements db'.rewardEntitlements

instance (db db' : CardDb Digest) : Decidable (Elsewhere db db') :=
  decidable_of_iff (_ ∧ _ ∧ _ ∧ _ ∧ _ ∧ _ ∧ _ ∧ _)
    ⟨fun ⟨h1, h2, h3, h4, h5, h6, h7, h8⟩ => ⟨h1, h2, h3, h4, h5, h6, h7, h8⟩,
      fun ⟨h1, h2, h3, h4, h5, h6, h7, h8⟩ => ⟨h1, h2, h3, h4, h5, h6, h7, h8⟩⟩

namespace Openings

/-- One request; a failed one is rolled back. -/
def step [RecordHash Digest] (s : OpeningState Digest) : OpeningAction Digest → OpeningState Digest
  | .openCardPack userId packId idempotencyKey draws now =>
    match openCardPack s.db userId packId idempotencyKey draws now with
    | .ok (db, answer) =>
      ⟨db, s.log ++ (idempotencyKey.map fun key => ⟨userId, packId, key, answer⟩).toList⟩
    | .error _ => s
  | .elsewhere db => if Elsewhere s.db db then { s with db := db } else s

def start (db : CardDb Digest) : OpeningState Digest := ⟨db, []⟩

/-- No pack has been opened yet. -/
structure Unopened (db : CardDb Digest) : Prop where
  openings : db.openings = []
  opened : db.openedRights = 0
  links : UniqueLinks db.packCards
  shopIds : (db.shopEntitlements.map (·.id)).Nodup
  rewardIds : (db.rewardEntitlements.map (·.id)).Nodup

/-- The fan has had an answer for the pack under the key. -/
def Used (s : OpeningState Digest) (userId : UserId) (packId : PackId) (key : String) : Prop :=
  ∃ entry ∈ s.log, entry.userId = userId ∧ entry.packId = packId ∧ entry.key = key

/-- An opening under a key that has an answer is given that answer, and changes nothing. -/
def Answered [RecordHash Digest] (s : OpeningState Digest) : OpeningAction Digest → Prop
  | .openCardPack userId packId (some key) draws now =>
    ∀ entry ∈ s.log, entry.userId = userId → entry.packId = packId → entry.key = key →
      openCardPack s.db userId packId (some key) draws now = .ok (s.db, entry.answer)
  | _ => True

/-- An opening under a key that has an answer has a key that is not empty, and the fan has no
right left to open the pack. -/
def Clear (s : OpeningState Digest) : OpeningAction Digest → Prop
  | .openCardPack userId packId (some key) _ _ =>
    Used s userId packId key → key ≠ "" ∧
      firstAvailable s.db.shopEntitlements userId packId = none ∧
      firstAvailable s.db.rewardEntitlements userId packId = none
  | _ => True

instance (s : OpeningState Digest) (userId : UserId) (packId : PackId) (key : String) :
    Decidable (Used s userId packId key) :=
  inferInstanceAs (Decidable (∃ entry ∈ s.log, _))

instance (s : OpeningState Digest) : ∀ a, Decidable (Clear s a)
  | .openCardPack _ _ (some _) _ _ => inferInstanceAs (Decidable (_ → _ ∧ _ ∧ _))
  | .openCardPack _ _ none _ _ => isTrue trivial
  | .elsewhere _ => isTrue trivial

/-- No more rights are opened than there are openings. -/
def Covered (s : OpeningState Digest) : Prop :=
  (s.db.openings.map (·.id)).Nodup ∧ s.db.openedRights ≤ s.db.openings.length

end Openings

variable {db db' : CardDb Digest} {userId : UserId} {packId : PackId} {now : Time}
  {idempotencyKey : Option String} {answer : PackOpened} {draws : OpenDraws}

theorem findOpening_some : db.findOpening userId packId idempotencyKey = some answer ↔
    ∃ key existing userCardId userCard link card,
      idempotencyKey = some key ∧ key ≠ "" ∧
      db.openings.find? (fun row => row.userId == userId && row.packId == packId &&
        row.idempotencyKey == some key) = some existing ∧
      existing.userCardId = some userCardId ∧ db.findUserCard userCardId = some userCard ∧
      db.packCards.find? (fun row => row.packId == packId && row.cardId == existing.cardId) =
        some link ∧
      db.findCard existing.cardId = some card ∧
      answer = { openingId := existing.id, issuanceCode := existing.issuanceCode,
                 userCardId := userCard.id, packId := packId, cardId := card.id,
                 serialNumber := userCard.serialNumber, probability := link.probability } := by
  simp only [CardDb.findOpening, Option.bind_eq_bind, Option.bind_eq_some_iff,
    Option.filter_eq_some_iff, decide_eq_true_eq, Option.pure_def, Option.some.injEq]
  constructor
  · rintro ⟨key, ⟨hkey, hne⟩, existing, hfind, userCardId, hcopy, userCard, huserCard, link, hlink,
      card, hcard, rfl⟩
    exact ⟨key, existing, userCardId, userCard, link, card, hkey, by simpa using hne, hfind, hcopy,
      huserCard, hlink, hcard, rfl⟩
  · rintro ⟨key, existing, userCardId, userCard, link, card, hkey, hne, hfind, hcopy, huserCard,
      hlink, hcard, rfl⟩
    exact ⟨key, ⟨hkey, by simpa using hne⟩, existing, hfind, userCardId, hcopy, userCard,
      huserCard, link, hlink, card, hcard, rfl⟩

/-- An opening that can be shown can be shown as long as its rows are kept. -/
theorem findOpening_kept {rest : List CardPackOpening}
    (h : db.findOpening userId packId idempotencyKey = some answer)
    (hopenings : db'.openings = db.openings ++ rest)
    (hlinks : db'.packCards.filter (·.packId == packId) = db.packCards.filter (·.packId == packId))
    (hcards : ∀ card ∈ db.cards, (db'.findCard card.id).isSome)
    (hcopies : ∀ copy ∈ db.userCards, (db'.findUserCard copy.id).map (·.serialNumber) =
      (db.findUserCard copy.id).map (·.serialNumber)) :
    db'.findOpening userId packId idempotencyKey = some answer := by
  obtain ⟨key, existing, userCardId, userCard, link, card, hkey, hne, hfind, hcopy, huserCard,
    hlink, hcard, rfl⟩ := findOpening_some.mp h
  obtain ⟨hcopyMem, hcopyId⟩ := findUserCard_some huserCard
  obtain ⟨hcardMem, hcardId⟩ := mem_of_find_eq_some (g := Card.id) hcard
  obtain ⟨card', hcard'⟩ := Option.isSome_iff_exists.mp (hcards card hcardMem)
  have hcopy' := hcopies userCard hcopyMem
  rw [hcopyId, huserCard, Option.map_some, Option.map_eq_some_iff] at hcopy'
  obtain ⟨userCard', huserCard', hserial⟩ := hcopy'
  have hlink' : db'.packCards.find? (fun row => row.packId == packId &&
      row.cardId == existing.cardId) = some link := by
    have hwithin := find_and (fun row : CardPackCard => row.packId == packId)
      (fun row => row.cardId == existing.cardId)
    rw [hwithin] at hlink ⊢
    rw [hlinks, hlink]
  rw [hcardId] at hcard'
  refine findOpening_some.mpr ⟨key, existing, userCardId, userCard', link, card', hkey, hne, ?_,
    hcopy, huserCard', hlink', hcard', ?_⟩
  · rw [hopenings, List.find?_append, hfind]
    rfl
  · rw [hserial, (findUserCard_some huserCard').2, hcopyId,
      (mem_of_find_eq_some (g := Card.id) hcard').2, hcardId]

/-- Marking rights does not change what a retry is told. -/
@[simp] theorem useEntitlement_findOpening (userId' : UserId) (packId' : PackId) :
    (db.useEntitlement userId' packId' now).findOpening userId packId idempotencyKey =
      db.findOpening userId packId idempotencyKey := by
  obtain ⟨shop, reward, heq⟩ := useEntitlement_eq db userId' packId' now
  rw [heq]
  rfl

theorem markOpened_eq_self {entitlements : List PackEntitlement} {row : PackEntitlement}
    (hmem : row ∈ entitlements) (h : markOpened entitlements row.id now = entitlements) :
    row.status = .opened := by
  rw [markOpened] at h
  rw [← fixed_of_patch h hmem (by simp)]

/-- An opening takes no right exactly if the fan has none for the pack. -/
theorem useEntitlement_eq_self : db.useEntitlement userId packId now = db ↔
    firstAvailable db.shopEntitlements userId packId = none ∧
      firstAvailable db.rewardEntitlements userId packId = none := by
  have hmarked : ∀ {rows row}, firstAvailable rows userId packId = some row →
      markOpened rows row.id now ≠ rows := by
    intro rows row hfirst heq
    obtain ⟨hmem, -, -, hstatus⟩ := firstAvailable_ok hfirst
    have hopened := markOpened_eq_self hmem heq
    rw [hstatus] at hopened
    cases hopened
  unfold CardDb.useEntitlement
  split
  · rename_i right hright
    refine iff_of_false (fun heq => ?_) (by simp [hright])
    exact hmarked hright (congrArg CardDb.shopEntitlements heq)
  · rename_i hshop
    split
    · rename_i right hright
      refine iff_of_false (fun heq => ?_) (by simp [hright])
      exact hmarked hright (congrArg CardDb.rewardEntitlements heq)
    · rename_i hreward
      exact iff_of_true rfl ⟨hshop, hreward⟩

/-- An opening marks at most one right, and the rights keep their identifiers. -/
theorem useEntitlement_rights (userId : UserId) (packId : PackId) (now : Time)
    (hshop : (db.shopEntitlements.map (·.id)).Nodup)
    (hreward : (db.rewardEntitlements.map (·.id)).Nodup) :
    (db.useEntitlement userId packId now).openedRights ≤ db.openedRights + 1 ∧
      ((db.useEntitlement userId packId now).shopEntitlements.map (·.id)).Nodup ∧
      ((db.useEntitlement userId packId now).rewardEntitlements.map (·.id)).Nodup := by
  have hids : ∀ rows id, (markOpened rows id now).map (·.id) = rows.map (·.id) :=
    fun rows id => map_patch (by intro _; rfl) rows
  have hcount : ∀ {rows} id, (rows.map (·.id)).Nodup →
      openedCount (markOpened rows id now) ≤ openedCount rows + 1 :=
    fun id hnd => countP_patch_one hnd id
  unfold CardDb.useEntitlement CardDb.openedRights
  split
  · rename_i right _
    have := hcount right.id hshop
    exact ⟨by dsimp only; omega, (hids _ _).symm ▸ hshop, hreward⟩
  · split
    · rename_i right _
      have := hcount right.id hreward
      exact ⟨by dsimp only; omega, hshop, (hids _ _).symm ▸ hreward⟩
    · exact ⟨by omega, hshop, hreward⟩

theorem publishedPack_mem {pack : CardPack} (h : db.publishedPack packId = some pack) :
    pack ∈ db.packs ∧ pack.id = packId ∧ pack.status = .published := by
  have hfound := List.find?_some h
  simp only [Bool.and_eq_true, beq_iff_eq] at hfound
  exact ⟨List.mem_of_find?_eq_some h, hfound⟩

/-- An opening of a published pack under a key with an opening that can be shown is told that one. -/
theorem openCardPack_replay [RecordHash Digest] {pack : CardPack} (hmem : pack ∈ db.packs)
    (hid : pack.id = packId) (hstatus : pack.status = .published)
    (h : db.findOpening userId packId idempotencyKey = some answer) :
    openCardPack db userId packId idempotencyKey draws now =
      .ok (db.useEntitlement userId packId now, answer) := by
  have hsome : (db.publishedPack packId).isSome :=
    List.find?_isSome.mpr ⟨pack, hmem, by simp [hid, hstatus]⟩
  obtain ⟨pack', hpack'⟩ := Option.isSome_iff_exists.mp hsome
  have hid' : pack'.id = packId := by
    have hfound := List.find?_some hpack'
    simp only [Bool.and_eq_true, beq_iff_eq] at hfound
    exact hfound.1
  rw [openCardPack, bind_ok]
  refine ⟨pack', orFail_ok.mpr hpack', ?_⟩
  dsimp only
  rw [hid', useEntitlement_findOpening, h]
  rfl

theorem mem_packRows {row : CardPackCard × Card} (h : row ∈ db.packRows packId) :
    row.1 ∈ db.packCards ∧ row.1.packId = packId ∧ db.findCard row.1.cardId = some row.2 := by
  obtain ⟨link, hlink, hrow⟩ := List.mem_filterMap.mp ((List.mem_insertionSort _).mp h)
  obtain ⟨card, hcard, rfl⟩ := Option.map_eq_some_iff.mp hrow
  obtain ⟨hlinks, hpack⟩ := List.mem_filter.mp hlink
  simp only [Bool.and_eq_true, beq_iff_eq] at hpack
  exact ⟨hlinks, hpack.1, (Option.filter_eq_some_iff.mp hcard).1⟩

theorem UniqueLinks.find {links : List CardPackCard} (h : UniqueLinks links) {link : CardPackCard}
    (hmem : link ∈ links) : links.find? (fun row => row.packId == link.packId &&
      row.cardId == link.cardId) = some link := by
  rw [← find_of_mem h hmem]
  congr 1

/-- What an opening does that is not answered from an earlier one. -/
structure OpenedAnew (db db' : CardDb Digest) (userId : UserId) (packId : PackId)
    (idempotencyKey : Option String) (now : Time) (answer : PackOpened) (row : CardPackOpening) :
    Prop where
  published : ∃ pack ∈ db.packs, pack.id = packId ∧ pack.status = .published
  openings : db'.openings = db.openings ++ [row]
  freshId : ∀ row' ∈ db.openings, row'.id ≠ row.id
  under : row.userId = userId ∧ row.packId = packId ∧ row.idempotencyKey = idempotencyKey
  freshKey : idempotencyKey.isSome → ∀ row' ∈ db.openings,
    ¬(row'.userId = userId ∧ row'.packId = packId ∧ row'.idempotencyKey = idempotencyKey)
  shop : db'.shopEntitlements = (db.useEntitlement userId packId now).shopEntitlements
  reward : db'.rewardEntitlements = (db.useEntitlement userId packId now).rewardEntitlements
  packs : db'.packs = db.packs
  packCards : db'.packCards = db.packCards
  cards : db'.cards = db.cards
  copies : AddsCopy db.userCards db'.userCards
  shown : ∀ key, idempotencyKey = some key → key ≠ "" →
    db'.findOpening userId packId idempotencyKey = some answer

/-- A card that a grant answers with can be looked up afterwards. -/
theorem grantUserCard_found [RecordHash Digest] {request : GrantRequest} {grant : GrantDraws}
    {userCard : UserCard} (h : grantUserCard db request grant now = .ok (db', userCard)) :
    db'.findUserCard userCard.id = some userCard := by
  rcases grantUserCard_ok h with ⟨rfl, hgranted⟩ | hissued
  · obtain ⟨row, -, hfind⟩ := Option.bind_eq_some_iff.mp hgranted
    rwa [(findUserCard_some hfind).2]
  · rw [hissued.after, CardDb.findUserCard, find_insert]
    have hnone : db.userCards.find? (fun row => row.id == userCard.id) = none := by
      rw [List.find?_eq_none]
      intro row hrow
      simpa using hissued.freshId row hrow
    simp [hnone]

theorem openCardPack_anew [RecordHash Digest] (hlinks : UniqueLinks db.packCards)
    (hnone : db.findOpening userId packId idempotencyKey = none)
    (h : openCardPack db userId packId idempotencyKey draws now = .ok (db', answer)) :
    ∃ row, OpenedAnew db db' userId packId idempotencyKey now answer row := by
  simp only [openCardPack, bind_ok, orFail_ok] at h
  obtain ⟨pack, hpack, h⟩ := h
  have hfound := List.find?_some hpack
  simp only [Bool.and_eq_true, beq_iff_eq] at hfound
  obtain ⟨rfl, hstatus⟩ := hfound
  rw [useEntitlement_findOpening, hnone] at h
  obtain ⟨shop, reward, heq⟩ := useEntitlement_eq db userId pack.id now
  rw [heq] at h
  simp only [bind_ok, orFail_ok, ensure_ok, exists_const, pure_ok, Prod.exists, Prod.mk.injEq,
    CardDb.insertOpening] at h
  obtain ⟨-, -, link, selected, hchoice, card, hcard, granted, userCard, hgrant, recorded,
    ⟨hid, -, hkey, rfl⟩, events, event, -, rfl, rfl⟩ := h
  have hcopy := grantUserCard_found hgrant
  obtain ⟨userCards, rows, hadds, -, rfl⟩ := grantUserCard_frame hgrant
  have hdrawn : (link, selected) ∈ db.packRows pack.id := by
    obtain ⟨entry, hentry, hlink⟩ := List.mem_map.mp (pickOrLast_mem hchoice)
    obtain ⟨row, hrow, rfl⟩ := List.mem_map.mp hentry
    exact hlink ▸ hrow
  obtain ⟨hmem, hlinkPack, hselected⟩ := mem_packRows hdrawn
  have hcardId : card.id = link.cardId :=
    (mem_of_find_eq_some (g := Card.id) hcard).2.trans
      (mem_of_find_eq_some (g := Card.id) hselected).2
  have hshop : shop = (db.useEntitlement userId pack.id now).shopEntitlements := by rw [heq]
  have hreward : reward = (db.useEntitlement userId pack.id now).rewardEntitlements := by rw [heq]
  refine ⟨_, ⟨pack, List.mem_of_find?_eq_some hpack, rfl, hstatus⟩, rfl, hid, ⟨rfl, rfl, rfl⟩, ?_,
    hshop, hreward, rfl, rfl, rfl, hadds, ?_⟩
  · intro hsome row' hrow' hsame
    exact hkey row' hrow' ⟨hsame.1, hsame.2.1, hsome, hsame.2.2⟩
  · intro key hkeyEq hne
    subst hkeyEq
    have hfirst : db.openings.find? (fun row => row.userId == userId && row.packId == pack.id &&
        row.idempotencyKey == some key) = none := by
      rw [List.find?_eq_none]
      intro row' hrow' hsame
      simp only [Bool.and_eq_true, beq_iff_eq] at hsame
      exact hkey row' hrow' ⟨hsame.1.1, hsame.1.2, rfl, hsame.2⟩
    let row : CardPackOpening :=
      { id := draws.openingId, userId := userId, packId := pack.id, cardId := card.id,
        userCardId := some userCard.id, idempotencyKey := some key,
        issuanceCode := draws.issuanceCode }
    refine findOpening_some.mpr ⟨key, row, userCard.id, userCard, link, card, rfl, hne, ?_, rfl,
      hcopy, ?_, ?_, rfl⟩
    · rw [find_insert, hfirst]
      simp [row]
    · dsimp only [row]
      rw [hcardId, ← hlinkPack]
      exact hlinks.find hmem
    · dsimp only [row]
      rw [(mem_of_find_eq_some (g := Card.id) hcard).2]
      exact hcard

/-- A grant keeps the copies that there are. -/
theorem AddsCopy.find {rows rows' : List UserCard} (h : AddsCopy rows rows') {copy : UserCard}
    (hmem : copy ∈ rows) : rows'.find? (·.id == copy.id) = rows.find? (·.id == copy.id) := by
  rcases h with rfl | ⟨userCard, rfl, hfresh, -⟩
  · rfl
  · rw [find_insert, if_neg (by simpa using (hfresh copy hmem).symm), Option.or_none]

/-- The packs, their openings and the rights to open them are left alone. -/
structure SamePacks (db db' : CardDb Digest) : Prop where
  openings : db'.openings = db.openings
  packs : db'.packs = db.packs
  packCards : db'.packCards = db.packCards
  shopRights : db'.shopEntitlements = db.shopEntitlements
  rewardRights : db'.rewardEntitlements = db.rewardEntitlements
  cards : db'.cards.map (·.id) = db.cards.map (·.id)
  copies : ∀ copy ∈ db.userCards, (db'.findUserCard copy.id).map (·.serialNumber) =
    (db.findUserCard copy.id).map (·.serialNumber)

theorem SamePacks.refl (db : CardDb Digest) : SamePacks db db :=
  ⟨rfl, rfl, rfl, rfl, rfl, rfl, fun _ _ => rfl⟩

theorem RightsKept.refl (rows : List PackEntitlement) : RightsKept rows rows := ⟨id, le_rfl⟩

theorem SamePacks.elsewhere (h : SamePacks db db') : Elsewhere db db' := by
  refine ⟨h.openings, ?_, ?_, ?_, ?_, h.copies, ?_, ?_⟩
  · intro pack hpack hstatus
    rw [CardDb.publishedPack, h.packs]
    exact List.find?_isSome.mpr ⟨pack, hpack, by simp [hstatus]⟩
  · intro pack _ _
    rw [h.packCards]
  · rw [h.packCards]
    exact id
  · intro card hcard
    have hid : card.id ∈ db'.cards.map (·.id) := h.cards ▸ List.mem_map_of_mem hcard
    obtain ⟨card', hcard', heq⟩ := List.mem_map.mp hid
    exact List.find?_isSome.mpr ⟨card', hcard', by simp [heq]⟩
  · rw [h.shopRights]
    exact .refl _
  · rw [h.rewardRights]
    exact .refl _

theorem SamePacks.close (h : SamePacks db db') (proposalId : ProposalId) (status : ProposalStatus)
    (now : Time) : SamePacks db (db'.closeProposal proposalId status now) :=
  ⟨h.openings, h.packs, h.packCards, h.shopRights, h.rewardRights, h.cards, h.copies⟩

/-- The transfer loop changes owners, not serial numbers. -/
theorem moveItems_serialNumber [RecordHash Digest] {proposal : TradeProposal}
    {draw : UserCardId → LedgerId} {items : List TradeItem}
    (h : moveItems proposal draw now db items = .ok db') (userCardId : UserCardId) :
    (db'.findUserCard userCardId).map (·.serialNumber) =
      (db.findUserCard userCardId).map (·.serialNumber) := by
  induction items generalizing db with
  | nil =>
    obtain rfl := Except.ok.inj h
    rfl
  | cons item items ih =>
    simp only [moveItems, moveItem, bind_ok, setOwner_ok, appendLedger_ok] at h
    obtain ⟨moved, ⟨card, -, owned, ⟨-, rfl⟩, -, -, rfl⟩, hrest⟩ := h
    rw [ih hrest, CardDb.findUserCard, find_patch (by intro _; rfl), Option.map_map]
    congr 1
    funext row
    rw [Function.comp_apply]
    split <;> rfl

theorem acceptTradeOnce_samePacks [RecordHash Digest] {proposal : TradeProposal}
    {order : List TradeItem} {draws : AcceptDraws} {status : ProposalStatus}
    (h : acceptTradeOnce db proposal order draws now = .ok (db', status)) : SamePacks db db' := by
  simp only [acceptTradeOnce, bind_ok, Prod.exists, pure_ok, Prod.mk.injEq] at h
  obtain ⟨-, -, moved, hmoved, events, _, -, events', _, -, rfl, -⟩ := h
  have hserial := moveItems_serialNumber hmoved
  obtain ⟨userCards, ledger, rfl⟩ := moveItems_frame hmoved
  exact ⟨rfl, rfl, rfl, rfl, rfl, rfl, fun copy _ => hserial copy.id⟩

/-- Every card request but an opening is such an operation. -/
theorem cardStep_elsewhere [RecordHash Digest] (db : CardDb Digest) {a : CardAction}
    (hopen : ∀ userId packId idempotencyKey draws now,
      a ≠ .openCardPack userId packId idempotencyKey draws now) :
    Elsewhere db (cardStep db a) := by
  have hrefl := SamePacks.refl db
  refine SamePacks.elsewhere ?_
  have hgrant : ∀ {userCards}, AddsCopy db.userCards userCards → ∀ copy ∈ db.userCards,
      (userCards.find? (·.id == copy.id)).map (·.serialNumber) =
        (db.findUserCard copy.id).map (·.serialNumber) :=
    fun hadds copy hcopy => congrArg _ (hadds.find hcopy)
  have hstepped := cardStep_cases db a
  generalize cardStep db a = db' at hstepped ⊢
  cases hstepped with
  | swept h => exact h.keeps hrefl fun _ _ _ _ _ hsame => hsame.close _ _ _
  | edited => exact ⟨rfl, rfl, rfl, rfl, rfl, rfl, fun _ _ => rfl⟩
  | limited =>
    exact ⟨rfl, rfl, rfl, rfl, rfl, map_patch (by intro _; rfl) _, fun _ _ => rfl⟩
  | redeemed hok =>
    obtain ⟨_, userCards, rows, _, hadds, -, rfl⟩ := redeem_frame hok
    exact ⟨rfl, rfl, rfl, rfl, rfl, rfl, hgrant hadds⟩
  | proposed hok =>
    obtain ⟨items, -, hnew⟩ := createTrade_ok hok
    rw [hnew.after]
    exact ⟨rfl, rfl, rfl, rfl, rfl, rfl, fun _ _ => rfl⟩
  | accepted _ _ hok => exact acceptTradeOnce_samePacks hok
  | combined hok =>
    obtain ⟨_, _, userCards, _, _, hadds, rfl⟩ := combineCards_frame hok
    exact ⟨rfl, rfl, rfl, rfl, rfl, rfl, hgrant hadds⟩
  | opened => exact absurd rfl (hopen _ _ _ _ _)

/-- An order adds a right that is not opened. -/
theorem insertEntitlement_rights {db db' : ShopDb} {row : PackEntitlement}
    (hstatus : row.status = .available) (h : db.insertEntitlement row = .ok db') :
    RightsKept db.shopEntitlements db'.shopEntitlements := by
  simp only [ShopDb.insertEntitlement, bind_ok, ensure_ok, exists_const, pure_ok] at h
  obtain ⟨hid, -, rfl⟩ := h
  refine ⟨fun hnd => nodup_insert hnd hid, ?_⟩
  simp [openedCount, hstatus]

/-- A refund takes a right back. -/
theorem revoke_rights (db : ShopDb) (item : RefundItem) (now : Time) :
    RightsKept db.shopEntitlements (db.revoke item now).shopEntitlements := by
  cases item with
  | entitlement row =>
    refine ⟨fun hnd => ?_, countP_patch_le (by simp) _⟩
    rw [ShopDb.revoke, map_patch (by intro _; rfl)]
    exact hnd
  | grant row => exact .refl _

namespace Openings

/-- The log and the openings agree, and the openings cover the opened rights. -/
structure Kept (s : OpeningState Digest) : Prop where
  shown : ∀ entry ∈ s.log, entry.key ≠ "" →
    s.db.findOpening entry.userId entry.packId (some entry.key) = some entry.answer
  taken : ∀ entry ∈ s.log, ∃ row ∈ s.db.openings, row.userId = entry.userId ∧
    row.packId = entry.packId ∧ row.idempotencyKey = some entry.key
  published : ∀ entry ∈ s.log, ∃ pack ∈ s.db.packs, pack.id = entry.packId ∧
    pack.status = .published
  logged : ∀ row ∈ s.db.openings, ∀ key, row.idempotencyKey = some key →
    Used s row.userId row.packId key
  links : UniqueLinks s.db.packCards
  shopIds : (s.db.shopEntitlements.map (·.id)).Nodup
  rewardIds : (s.db.rewardEntitlements.map (·.id)).Nodup
  covered : Covered s

theorem Unopened.kept (h : Unopened db) : Kept (start db) := by
  refine ⟨?_, ?_, ?_, ?_, h.links, h.shopIds, h.rewardIds, ?_, ?_⟩
  · simp [start]
  · simp [start]
  · simp [start]
  · simp [start, h.openings]
  · simp [start, h.openings]
  · simp [start, h.opened]

variable {s : OpeningState Digest}

theorem Kept.elsewhere (h : Kept s) (hdb : Elsewhere s.db db) : Kept { s with db := db } := by
  refine ⟨?_, ?_, ?_, ?_, hdb.uniqueLinks h.links, hdb.shopRights.ids h.shopIds,
    hdb.rewardRights.ids h.rewardIds, ?_⟩
  · intro entry hentry hne
    obtain ⟨pack, hpack, hid, hstatus⟩ := h.published entry hentry
    exact findOpening_kept (h.shown entry hentry hne)
      (by rw [hdb.openings, List.append_nil]) (hid ▸ hdb.links pack hpack hstatus) hdb.cards
      hdb.copies
  · intro entry hentry
    rw [hdb.openings]
    exact h.taken entry hentry
  · intro entry hentry
    obtain ⟨pack, hpack, hid, hstatus⟩ := h.published entry hentry
    obtain ⟨pack', hpack'⟩ := Option.isSome_iff_exists.mp (hdb.packs pack hpack hstatus)
    obtain ⟨hmem, hid', hstatus'⟩ := publishedPack_mem hpack'
    exact ⟨pack', hmem, hid'.trans hid, hstatus'⟩
  · intro row hrow key hkey
    rw [hdb.openings] at hrow
    exact h.logged row hrow key hkey
  · have hshop := hdb.shopRights.opened
    have hreward := hdb.rewardRights.opened
    have hcovered := h.covered.2
    refine ⟨by rw [hdb.openings]; exact h.covered.1, ?_⟩
    rw [hdb.openings]
    unfold CardDb.openedRights at hcovered ⊢
    dsimp only
    omega

theorem Kept.anew {answer : PackOpened} {row : CardPackOpening} (h : Kept s)
    (hopened : OpenedAnew s.db db userId packId idempotencyKey now answer row) :
    Kept ⟨db, s.log ++ (idempotencyKey.map fun key => ⟨userId, packId, key, answer⟩).toList⟩ := by
  obtain ⟨hrights, hshopIds, hrewardIds⟩ :=
    useEntitlement_rights userId packId now h.shopIds h.rewardIds
  refine ⟨?_, ?_, ?_, ?_, hopened.packCards ▸ h.links, hopened.shop ▸ hshopIds,
    hopened.reward ▸ hrewardIds, ?_, ?_⟩
  · intro entry hentry hne
    rcases List.mem_append.mp hentry with hold | hnew
    · refine findOpening_kept (h.shown entry hold hne) hopened.openings (by rw [hopened.packCards])
        ?_ ?_
      · intro card hcard
        rw [CardDb.findCard, hopened.cards]
        exact List.find?_isSome.mpr ⟨card, hcard, by simp⟩
      · intro copy hcopy
        exact congrArg _ (hopened.copies.find hcopy)
    · rw [Option.mem_toList, Option.map_eq_some_iff] at hnew
      obtain ⟨key, hkey, rfl⟩ := hnew
      exact hkey ▸ hopened.shown key hkey hne
  · intro entry hentry
    rw [hopened.openings]
    rcases List.mem_append.mp hentry with hold | hnew
    · obtain ⟨row', hrow', hunder⟩ := h.taken entry hold
      exact ⟨row', List.mem_append_left _ hrow', hunder⟩
    · rw [Option.mem_toList, Option.map_eq_some_iff] at hnew
      obtain ⟨key, hkey, rfl⟩ := hnew
      exact ⟨row, by simp, hopened.under.1, hopened.under.2.1, hopened.under.2.2.trans hkey⟩
  · intro entry hentry
    rw [hopened.packs]
    rcases List.mem_append.mp hentry with hold | hnew
    · exact h.published entry hold
    · rw [Option.mem_toList, Option.map_eq_some_iff] at hnew
      obtain ⟨key, hkey, rfl⟩ := hnew
      exact hopened.published
  · intro row' hrow' key hkey
    rw [hopened.openings] at hrow'
    rcases List.mem_append.mp hrow' with hold | hnew
    · obtain ⟨entry, hentry, hunder⟩ := h.logged row' hold key hkey
      exact ⟨entry, List.mem_append_left _ hentry, hunder⟩
    · obtain rfl := List.mem_singleton.mp hnew
      refine ⟨⟨userId, packId, key, answer⟩, List.mem_append_right _ ?_, hopened.under.1.symm,
        hopened.under.2.1.symm, rfl⟩
      rw [← hopened.under.2.2, hkey]
      simp
  · rw [hopened.openings]
    exact nodup_insert h.covered.1 hopened.freshId
  · have hcovered := h.covered.2
    rw [hopened.openings, List.length_append, List.length_singleton]
    unfold CardDb.openedRights at hrights hcovered ⊢
    rw [hopened.shop, hopened.reward]
    omega

/-- An opening answered without marking a right is only told once more. -/
theorem Kept.again (h : Kept s)
    (hfound : s.db.findOpening userId packId idempotencyKey = some answer)
    (hused : ∃ entry ∈ s.log, entry.userId = userId ∧ entry.packId = packId ∧
      some entry.key = idempotencyKey) :
    Kept ⟨s.db, s.log ++ (idempotencyKey.map fun key => ⟨userId, packId, key, answer⟩).toList⟩ := by
  obtain ⟨old, hold, rfl, rfl, rfl⟩ := hused
  have hmem : ∀ entry ∈ s.log ++ [⟨old.userId, old.packId, old.key, answer⟩], entry ∈ s.log ∨
      entry = ⟨old.userId, old.packId, old.key, answer⟩ := by
    intro entry hentry
    simpa using hentry
  refine ⟨?_, ?_, ?_, ?_, h.links, h.shopIds, h.rewardIds, h.covered⟩
  · intro entry hentry hne
    rcases hmem entry hentry with hentry | rfl
    · exact h.shown entry hentry hne
    · exact hfound
  · intro entry hentry
    rcases hmem entry hentry with hentry | rfl
    · exact h.taken entry hentry
    · exact h.taken old hold
  · intro entry hentry
    rcases hmem entry hentry with hentry | rfl
    · exact h.published entry hentry
    · exact h.published old hold
  · intro row hrow key hkey
    obtain ⟨entry, hentry, hunder⟩ := h.logged row hrow key hkey
    exact ⟨entry, List.mem_append_left _ hentry, hunder⟩

/-- The fan has had an answer under the key of an opening that can be shown. -/
theorem Kept.used (h : Kept s)
    (hfound : s.db.findOpening userId packId idempotencyKey = some answer) :
    ∃ entry ∈ s.log, entry.userId = userId ∧ entry.packId = packId ∧
      some entry.key = idempotencyKey := by
  obtain ⟨key, existing, -, -, -, -, rfl, -, hfind, -⟩ := findOpening_some.mp hfound
  have hunder := List.find?_some hfind
  simp only [Bool.and_eq_true, beq_iff_eq] at hunder
  obtain ⟨entry, hentry, huser, hpack, hkey⟩ :=
    h.logged existing (List.mem_of_find?_eq_some hfind) key hunder.2
  exact ⟨entry, hentry, huser.trans hunder.1.1, hpack.trans hunder.1.2, congrArg some hkey⟩

variable [RecordHash Digest]

theorem Kept.step {a : OpeningAction Digest} (h : Kept s) (hclear : Clear s a) :
    Kept (step s a) := by
  cases a with
  | elsewhere db =>
    simp only [Openings.step]
    split
    · rename_i hdb
      exact h.elsewhere hdb
    · exact h
  | openCardPack userId packId idempotencyKey draws now =>
    simp only [Openings.step]
    split
    · rename_i db answer hok
      cases hfind : s.db.findOpening userId packId idempotencyKey with
      | none =>
        obtain ⟨row, hopened⟩ := openCardPack_anew h.links hfind hok
        exact h.anew hopened
      | some existing =>
        have hused := h.used hfind
        obtain ⟨entry, hentry, huser, hpack, rfl⟩ := hused
        obtain ⟨pack, hmem, hid, hstatus⟩ := h.published entry hentry
        rw [openCardPack_replay hmem (hid.trans hpack) hstatus hfind] at hok
        obtain ⟨hdb, rfl⟩ := Prod.mk.inj (Except.ok.inj hok)
        obtain ⟨-, hnone⟩ := hclear ⟨entry, hentry, huser, hpack, rfl⟩
        rw [useEntitlement_eq_self.mpr hnone] at hdb
        exact hdb ▸ h.again hfind ⟨entry, hentry, huser, hpack, rfl⟩
    · exact h

/-- A repeated opening is given the first answer and changes nothing exactly if its key is not
empty and no right of the fan to open the pack is left. -/
theorem Kept.answered_iff {a : OpeningAction Digest} (h : Kept s) : Answered s a ↔ Clear s a := by
  cases a with
  | elsewhere db => exact Iff.rfl
  | openCardPack userId packId idempotencyKey draws now =>
    cases idempotencyKey with
    | none => exact Iff.rfl
    | some key =>
      constructor
      · rintro hanswered ⟨entry, hentry, huser, hpack, hkey⟩
        have hok := hanswered entry hentry huser hpack hkey
        obtain ⟨row, hrow, hunder⟩ := h.taken entry hentry
        cases hfind : s.db.findOpening userId packId (some key) with
        | none =>
          obtain ⟨_, hopened⟩ := openCardPack_anew h.links hfind hok
          exact absurd ⟨hunder.1.trans huser, hunder.2.1.trans hpack,
            hunder.2.2.trans (congrArg some hkey)⟩ (hopened.freshKey rfl row hrow)
        | some existing =>
          obtain ⟨_, _, _, _, _, _, hsome, hne, -⟩ := findOpening_some.mp hfind
          obtain ⟨pack, hmem, hid, hstatus⟩ := h.published entry hentry
          rw [openCardPack_replay hmem (hid.trans hpack) hstatus hfind] at hok
          have hsame := (Prod.mk.inj (Except.ok.inj hok)).1
          exact ⟨Option.some.inj hsome ▸ hne, useEntitlement_eq_self.mp hsame⟩
      · rintro hclear entry hentry rfl rfl rfl
        obtain ⟨hne, hnone⟩ := hclear ⟨entry, hentry, rfl, rfl, rfl⟩
        obtain ⟨pack, hmem, hid, hstatus⟩ := h.published entry hentry
        rw [openCardPack_replay hmem hid hstatus (h.shown entry hentry hne),
          useEntitlement_eq_self.mpr hnone]

end Openings

/-- In every run from unopened packs: repeated openings are all answered with the first one, changing
nothing, and opened rights never outnumber openings, exactly if no repeated opening has an empty key
or finds a right left. -/
theorem openings_answered_iff [RecordHash Digest] (h : Openings.Unopened db)
    (acts : List (OpeningAction Digest)) :
    (Always Openings.step Openings.Answered (Openings.start db) acts ∧
      Throughout Openings.step Openings.Covered (Openings.start db) acts) ↔
    Always Openings.step Openings.Clear (Openings.start db) acts := by
  have hiff : Always Openings.step Openings.Answered (Openings.start db) acts ↔
      Always Openings.step Openings.Clear (Openings.start db) acts :=
    always_congr_of_invariant h.kept (fun s a hs => hs.answered_iff) fun s a hs ha => hs.step ha
  constructor
  · exact fun hboth => hiff.mp hboth.1
  · intro hclear
    refine ⟨hiff.mpr hclear, ?_⟩
    exact (hclear.throughout h.kept fun s a hs ha => hs.step ha).imp fun s hs => hs.covered

end

/-- A catalogue whose fan has bought the pack once, and once more. -/
def boughtPacks : CardDb SymbolicDigest :=
  { smallCatalogue with
    shopEntitlements :=
      [{ id := "right_1", sourceId := "order_1", userId := "fan_a", packId := "pack",
         status := .available, createdAt := 1 },
       { id := "right_2", sourceId := "order_2", userId := "fan_a", packId := "pack",
         status := .available, createdAt := 2 }] }

def openSample (draw : String) : OpeningAction SymbolicDigest :=
  .openCardPack "fan_a" "pack" (some "key")
    { openingId := "opening" ++ draw, issuanceCode := "code" ++ draw, draw := 50,
      grant := ⟨"copy" ++ draw, "ledger" ++ draw⟩, eventId := "event" ++ draw } 10

/-- The second order is refunded between the opening and the retry. -/
def refundedBetween : List (OpeningAction SymbolicDigest) :=
  let opened := (Openings.step (Openings.start boughtPacks) (openSample "1")).db
  [openSample "1",
    .elsewhere { opened with
      shopEntitlements := patch (·.id == "right_2") ({ · with status := .revoked })
        opened.shopEntitlements },
    openSample "2"]

theorem unopened_boughtPacks : Openings.Unopened boughtPacks := by
  constructor <;> decide

theorem openings_answered_refunded :
    Always Openings.step Openings.Answered (Openings.start boughtPacks) refundedBetween ∧
      Throughout Openings.step Openings.Covered (Openings.start boughtPacks) refundedBetween :=
  (openings_answered_iff unopened_boughtPacks _).mpr (by decide +kernel)

/-- A retry opens the second right. -/
theorem openings_retry_opensRight :
    Openings.Unopened boughtPacks ∧
      ¬Always Openings.step Openings.Answered (Openings.start boughtPacks)
        [openSample "1", openSample "2"] ∧
      ¬Throughout Openings.step Openings.Covered (Openings.start boughtPacks)
        [openSample "1", openSample "2"] := by
  refine ⟨unopened_boughtPacks, ?_, ?_⟩
  · rintro ⟨-, hanswered, -⟩
    have hkept := unopened_boughtPacks.kept.step (a := openSample "1") (by decide)
    exact absurd (hkept.answered_iff.mp hanswered) (by decide +kernel)
  · intro hcovered
    exact absurd hcovered.last.2 (by decide +kernel)

end Fanfolio
