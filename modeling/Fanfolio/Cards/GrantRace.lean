import Fanfolio.Cards.Serials

/-!
# Grants that race on one card

Redemptions, pack openings and combinations run at the same time. Each of them looks for an
earlier grant of its source, locks the row of its card, counts the copies, and inserts a copy
and its ledger event, which the others see once they are committed.
-/

namespace Fanfolio

open Framework

/-- The request that a grant is part of. -/
inductive GrantPath where
  | redeem
  | openCardPack
  | combineCards
deriving DecidableEq, Repr

/-- How far a request that grants a card has come. -/
inductive GrantPhase (Digest : Type) where
  | idle
  /-- The request knows what it will grant. -/
  | opened (path : GrantPath) (request : GrantRequest)
  /-- `open_card_pack` has locked the card that it drew. -/
  | drawn (request : GrantRequest)
  /-- `grant_user_card` found no earlier grant; an opening has its card locked by then. -/
  | ungranted (path : GrantPath) (request : GrantRequest)
  | locked (request : GrantRequest)
  | counted (request : GrantRequest) (serial : Nat)
  /-- The copy and its ledger event are written, and not committed. -/
  | inserted (userCard : UserCard) (record : CardOwnershipLedger Digest)
deriving DecidableEq, Repr

/-- A step of a request that grants a card, or another request as a whole. -/
inductive GrantAction where
  | redeem (worker : Nat) (userId : UserId) (codeValue : CodeId) (acquisitionSource : String)
  | openCardPack (worker : Nat) (userId : UserId) (packId : PackId)
      (idempotencyKey : Option String) (draws : OpenDraws) (now : Time)
  | combineCards (worker : Nat) (userId : UserId) (request : CardCombinationRequest)
      (draws : CombineDraws)
  | lockDrawn (worker : Nat)
  | findGrant (worker : Nat)
  | lockCard (worker : Nat)
  | countCopies (worker : Nat)
  | insert (worker : Nat) (draws : GrantDraws) (now : Time)
  | commit (worker : Nat)
  | abort (worker : Nat)
  | other (request : CardAction)

/-- The committed tables, the locks on the cards and the requests under way. -/
abbrev GrantRace (Digest : Type) := RowLocks Nat CardId (CardDb Digest) (GrantPhase Digest)

section

variable {Digest : Type} [RecordHash Digest]

/-- The commit of a copy and its ledger event: a duplicate key is refused. -/
def CardDb.commitGrant (db : CardDb Digest) (userCard : UserCard)
    (record : CardOwnershipLedger Digest) : Except Failure (CardDb Digest × Unit) := do
  let inserted ← db.insertUserCard userCard
  ensure (∀ row ∈ db.ledger, row.id ≠ record.id) (.integrity "card_ownership_ledger_pkey")
  ensure (∀ row ∈ db.ledger, record.sameEvent row = false)
    (.integrity "uq_card_ownership_ledger_event")
  return ({ inserted with ledger := db.ledger ++ [record] }, ())

namespace GrantRace

/-- The request starts with what it will grant, if it comes to a grant. -/
def start (s : GrantRace Digest) (worker : Nat) (path : GrantPath)
    (request : Option GrantRequest) : GrantRace Digest :=
  match s.phase worker, request with
  | .idle, some request => s.move worker (.opened path request)
  | _, _ => s

/-- A card that is not published ends the request. -/
def lockPublished (s : GrantRace Digest) (worker : Nat) (path : GrantPath)
    (request : GrantRequest) : GrantRace Digest :=
  match s.committed.findCard request.cardId with
  | some card =>
    if card.status = .published then
      if path = .openCardPack then s.move worker (.locked request)
      else s.acquire worker request.cardId (.locked request)
    else s.release worker s.committed .idle
  | none => s.release worker s.committed .idle

/-- The copy that a grant writes under the number it counted. -/
def numbered (db : CardDb Digest) (request : GrantRequest) (serial : Nat) (draws : GrantDraws)
    (now : Time) : UserCard :=
  { request.userCard db draws.userCardId now with serialNumber := serial }

/-- One step; a step that waits for the lock on the card leaves the state as it is. -/
def step (s : GrantRace Digest) : GrantAction → GrantRace Digest
  | .redeem worker userId codeValue acquisitionSource =>
    s.start worker .redeem (s.committed.redeemRequest userId codeValue acquisitionSource)
  | .openCardPack worker userId packId idempotencyKey draws now =>
    s.start worker .openCardPack
      (s.committed.openRequest userId packId idempotencyKey draws now)
  | .combineCards worker userId request draws =>
    s.start worker .combineCards (s.committed.combineRequest userId request draws)
  | .lockDrawn worker =>
    match s.phase worker with
    | .opened .openCardPack request =>
      if s.owner request.cardId = none then s.acquire worker request.cardId (.drawn request) else s
    | _ => s
  | .findGrant worker =>
    match s.phase worker with
    | .opened path request =>
      if path = .openCardPack then s
      else if (s.committed.grantedCard request.userId request.sourceType request.sourceId).isSome
      then s.release worker s.committed .idle
      else s.move worker (.ungranted path request)
    | .drawn request =>
      if (s.committed.grantedCard request.userId request.sourceType request.sourceId).isSome
      then s.release worker s.committed .idle
      else s.move worker (.ungranted .openCardPack request)
    | _ => s
  | .lockCard worker =>
    match s.phase worker with
    | .ungranted path request =>
      if path = .openCardPack ∨ s.owner request.cardId = none then
        s.lockPublished worker path request
      else s
    | _ => s
  | .countCopies worker =>
    match s.phase worker with
    | .locked request => s.move worker (.counted request (s.committed.copies request.cardId + 1))
    | _ => s
  | .insert worker draws now =>
    match s.phase worker with
    | .counted request serial =>
      s.move worker (.inserted (numbered s.committed request serial draws now)
        (ownershipRow s.committed.ledger (request.event draws.userCardId) draws.ledgerId now))
    | _ => s
  | .commit worker =>
    match s.phase worker with
    | .inserted userCard record =>
      s.release worker (commitOr s.committed (s.committed.commitGrant userCard record)) .idle
    | _ => s
  | .abort worker => s.release worker s.committed .idle
  | .other request =>
    if request.grantsNone then { s with committed := cardStep s.committed request } else s

/-- No request is under way. -/
def idle (db : CardDb Digest) : GrantRace Digest := ⟨db, fun _ => none, fun _ => .idle⟩

end GrantRace

/-- The card whose row a request has locked. -/
def GrantPhase.lockedCard : GrantPhase Digest → Option CardId
  | .drawn request => some request.cardId
  | .ungranted path request => if path = .openCardPack then some request.cardId else none
  | .locked request => some request.cardId
  | .counted request _ => some request.cardId
  | .inserted userCard _ => some userCard.cardId
  | _ => none

def GrantPhase.holds (phase : GrantPhase Digest) (cardId : CardId) : Prop :=
  phase.lockedCard = some cardId

/-- A number that was counted is still the next one. -/
def GrantPhase.countIsNext (phase : GrantPhase Digest) (db : CardDb Digest) : Prop :=
  match phase with
  | .counted request serial => serial = db.copies request.cardId + 1
  | .inserted userCard record =>
    userCard.serialNumber = db.copies userCard.cardId + 1 ∧ record.action = "grant" ∧
      record.cardId = userCard.cardId
  | _ => True

omit [RecordHash Digest] in
theorem countIsNext_congr {phase : GrantPhase Digest} {db db' : CardDb Digest}
    (hcopies : ∀ cardId, phase.holds cardId → db'.copies cardId = db.copies cardId)
    (h : phase.countIsNext db) : phase.countIsNext db' := by
  cases phase with
  | counted request serial =>
    rw [GrantPhase.countIsNext, hcopies request.cardId rfl]
    exact h
  | inserted userCard record =>
    rw [GrantPhase.countIsNext, hcopies userCard.cardId rfl]
    exact h
  | _ => trivial

omit [RecordHash Digest] in
/-- A commit under the next number of the card numbers the copy without a gap. -/
theorem commitGrant_serials {db db' : CardDb Digest} {userCard : UserCard}
    {record : CardOwnershipLedger Digest} {u : Unit}
    (hnext : (GrantPhase.inserted userCard record).countIsNext db)
    (h : db.commitGrant userCard record = .ok (db', u)) : NextSerial db db' userCard.cardId := by
  obtain ⟨hserial, haction, hcard⟩ := hnext
  simp only [CardDb.commitGrant, bind_ok, insertUserCard_ok, ensure_ok, exists_const, pure_ok,
    Prod.mk.injEq] at h
  obtain ⟨_, ⟨-, -, -, rfl⟩, -, -, rfl, -⟩ := h
  refine ⟨?_, record, hcard, ?_⟩
  · simp [CardDb.issues, hserial]
  · simp [CardDb.grants, haction]

/-- The serial numbers are exact, and every request that holds a card counts right. -/
structure GrantRace.Numbered (s : GrantRace Digest) : Prop where
  exact : s.committed.SerialsExact
  knows : s.Knows GrantPhase.holds GrantPhase.countIsNext

namespace GrantRace.Numbered

variable {s : GrantRace Digest} {worker : Nat}

omit [RecordHash Digest] in
theorem move (h : s.Numbered) {phase : GrantPhase Digest}
    (hcard : ∀ cardId, phase.holds cardId → (s.phase worker).holds cardId)
    (hcount : phase.countIsNext s.committed) :
    GrantRace.Numbered (RowLocks.move s worker phase) :=
  ⟨h.exact, h.knows.move hcard hcount⟩

omit [RecordHash Digest] in
theorem acquire (h : s.Numbered) {phase : GrantPhase Digest} {cardId : CardId}
    (hfree : s.owner cardId = none) (hcard : phase.lockedCard = some cardId)
    (hcount : phase.countIsNext s.committed) :
    GrantRace.Numbered (RowLocks.acquire s worker cardId phase) := by
  refine ⟨h.exact, h.knows.acquire hfree ?_ hcount⟩
  intro cardId' hholds
  exact .inl (Option.some.inj (hholds.symm.trans hcard))

omit [RecordHash Digest] in
/-- A request that ends without a commit leaves the numbers as they are. -/
theorem rollback (h : s.Numbered) : GrantRace.Numbered (s.release worker s.committed .idle) :=
  ⟨h.exact, h.knows.release (fun _ hholds => by cases hholds) trivial fun _ _ hcount => hcount⟩

omit [RecordHash Digest] in
theorem start (h : s.Numbered) (path : GrantPath) (request : Option GrantRequest) :
    (s.start worker path request).Numbered := by
  unfold GrantRace.start
  split
  · exact h.move (fun _ hholds => by cases hholds) trivial
  · exact h

omit [RecordHash Digest] in
theorem commit (h : s.Numbered) {userCard : UserCard} {record : CardOwnershipLedger Digest}
    (hphase : s.phase worker = .inserted userCard record) :
    GrantRace.Numbered
      (s.release worker (commitOr s.committed (s.committed.commitGrant userCard record)) .idle) := by
  have hnext := h.knows.facts worker
  rw [hphase] at hnext
  rcases commitOr_cases s.committed (s.committed.commitGrant userCard record) with heq | ⟨_, hok⟩
  · rw [heq]
    exact h.rollback
  · have hgranted := commitGrant_serials hnext hok
    refine ⟨hgranted.exact h.exact, h.knows.release (fun _ hholds => by cases hholds) trivial ?_⟩
    intro phase hother hcount
    refine countIsNext_congr ?_ hcount
    intro cardId hholds
    refine hgranted.copies_other ?_
    rintro rfl
    exact hother _ hholds (by rw [hphase]; rfl)

omit [RecordHash Digest] in
theorem lockPublished (h : s.Numbered) {path : GrantPath} {request : GrantRequest}
    (hphase : s.phase worker = .ungranted path request)
    (hfree : path = .openCardPack ∨ s.owner request.cardId = none) :
    (s.lockPublished worker path request).Numbered := by
  unfold GrantRace.lockPublished
  split
  · split
    · split
      · rename_i hpath
        refine h.move ?_ trivial
        intro cardId hholds
        rw [hphase, GrantPhase.holds, GrantPhase.lockedCard, if_pos hpath]
        exact hholds
      · rename_i hpath
        exact h.acquire (hfree.resolve_left hpath) rfl trivial
    · exact h.rollback
  · exact h.rollback

/-- Each step of each request keeps the numbers exact. -/
theorem step (h : s.Numbered) (a : GrantAction) : (s.step a).Numbered := by
  cases a with
  | redeem | openCardPack | combineCards => exact h.start _ _
  | lockDrawn worker =>
    simp only [GrantRace.step]
    split
    · split
      · rename_i hfree
        exact h.acquire hfree rfl trivial
      · exact h
    · exact h
  | findGrant worker =>
    simp only [GrantRace.step]
    split
    · rename_i path request hphase
      split
      · exact h
      · rename_i hpath
        split
        · exact h.rollback
        · refine h.move ?_ trivial
          intro cardId hholds
          rw [GrantPhase.holds, GrantPhase.lockedCard, if_neg hpath] at hholds
          cases hholds
    · rename_i request hphase
      split
      · exact h.rollback
      · refine h.move ?_ trivial
        intro cardId hholds
        rw [hphase]
        exact hholds
    · exact h
  | lockCard worker =>
    simp only [GrantRace.step]
    split
    · rename_i path request hphase
      split
      · rename_i hfree
        exact h.lockPublished hphase hfree
      · exact h
    · exact h
  | countCopies worker =>
    simp only [GrantRace.step]
    split
    · rename_i request hphase
      refine h.move ?_ rfl
      intro cardId hholds
      rw [hphase]
      exact hholds
    · exact h
  | insert worker draws now =>
    simp only [GrantRace.step]
    split
    · rename_i request serial hphase
      have hcount := h.knows.facts worker
      rw [hphase] at hcount
      refine h.move ?_ ⟨hcount, rfl, rfl⟩
      intro cardId hholds
      rw [hphase]
      exact hholds
    · exact h
  | commit worker =>
    simp only [GrantRace.step]
    split
    · rename_i userCard record hphase
      exact h.commit hphase
    · exact h
  | abort worker => exact h.rollback
  | other request =>
    simp only [GrantRace.step]
    split
    · rename_i hnone
      have hsame := cardStep_sameSerials s.committed hnone
      refine ⟨hsame.exact h.exact, h.knows.change fun worker hcount => ?_⟩
      exact countIsNext_congr (fun cardId _ => hsame.copies cardId) hcount
    · exact h

end GrantRace.Numbered

omit [RecordHash Digest] in
theorem numbered_idle {db : CardDb Digest} (h : db.SerialsExact) :
    (GrantRace.idle db).Numbered := by
  refine ⟨h, ?_, fun _ => trivial⟩
  intro worker cardId hholds
  cases hholds

theorem commitGrant_alone {db : CardDb Digest} {request : GrantRequest} {card : Card}
    (hgranted : db.grantedCard request.userId request.sourceType request.sourceId = none)
    (hcard : db.findCard request.cardId = some card) (hpublished : card.status = .published)
    (draws : GrantDraws) (now : Time) :
    commitOr db (db.commitGrant
      (GrantRace.numbered db request (db.copies request.cardId + 1) draws now)
      (ownershipRow db.ledger (request.event draws.userCardId) draws.ledgerId now)) =
    commitOr db (grantUserCard db request draws now) := by
  refine commitOr_congr (fun db' => ?_) db
  simp only [grantUserCard, hgranted, hcard, CardDb.commitGrant, bind_ok, orFail_ok, ensure_ok,
    exists_const, insertUserCard_ok, appendLedger_ok, pure_ok, Prod.mk.injEq, Option.some.injEq,
    exists_eq_left']
  constructor
  · rintro ⟨inserted, ⟨hid, hserial, hcode, rfl⟩, hledgerId, hevent, rfl, -⟩
    exact ⟨_, hpublished, _, ⟨hid, hserial, hcode, rfl⟩, _, ⟨hledgerId, hevent, rfl⟩, rfl, rfl⟩
  · rintro ⟨_, -, _, ⟨hid, hserial, hcode, rfl⟩, _, ⟨hledgerId, hevent, rfl⟩, rfl, -⟩
    exact ⟨_, ⟨hid, hserial, hcode, rfl⟩, hledgerId, hevent, rfl, trivial⟩

theorem grantUserCard_unpublished {db : CardDb Digest} {request : GrantRequest}
    (hcard : ∀ card, db.findCard request.cardId = some card → card.status ≠ .published)
    (draws : GrantDraws) (now : Time) :
    commitOr db (grantUserCard db request draws now) = db := by
  rcases commitOr_cases db (grantUserCard db request draws now) with heq | ⟨_, hok⟩
  · exact heq
  · rcases grantUserCard_ok hok with ⟨heq, -⟩ | hissued
    · exact heq
    · obtain ⟨card, hfind, hpublished⟩ := hissued.published
      exact absurd hpublished (hcard card hfind)

/-- A request that runs alone grants as `grant_user_card` does. -/
theorem grantRace_alone (db : CardDb Digest) (worker : Nat) {path : GrantPath}
    (hpath : path ≠ .openCardPack) (request : GrantRequest) (draws : GrantDraws) (now : Time) :
    (run GrantRace.step ((GrantRace.idle db).move worker (.opened path request))
      [.findGrant worker, .lockCard worker, .countCopies worker, .insert worker draws now,
        .commit worker]).committed = commitOr db (grantUserCard db request draws now) := by
  cases hgranted : db.grantedCard request.userId request.sourceType request.sourceId with
  | some existing =>
    simp [GrantRace.step, GrantRace.idle, RowLocks.move, RowLocks.release, hpath, hgranted,
      grantUserCard, commitOr]
  | none =>
    cases hcard : db.findCard request.cardId with
    | none =>
      rw [grantUserCard_unpublished (by simp [hcard])]
      simp [GrantRace.step, GrantRace.idle, RowLocks.move, RowLocks.release, hpath, hgranted,
        GrantRace.lockPublished, hcard]
    | some card =>
      by_cases hpublished : card.status = .published
      · rw [← commitGrant_alone hgranted hcard hpublished]
        simp [GrantRace.step, GrantRace.idle, RowLocks.move, RowLocks.release, RowLocks.acquire,
          hpath, hgranted, GrantRace.lockPublished, hcard, hpublished]
      · rw [grantUserCard_unpublished (by simp [hcard, hpublished])]
        simp [GrantRace.step, GrantRace.idle, RowLocks.move, RowLocks.release, hpath, hgranted,
          GrantRace.lockPublished, hcard, hpublished]

/-- Whatever requests run at the same time, the copies of every card are numbered from one to
the number of copies granted. -/
theorem serialsExact_run {db : CardDb Digest} (h : Genesis db) (acts : List GrantAction) :
    Throughout GrantRace.step (fun s => s.committed.SerialsExact) (GrantRace.idle db) acts :=
  (throughout_of_step (numbered_idle h.serialsExact) fun _ a hnumbered => hnumbered.step a).imp
    fun _ hs => hs.exact

end

/-- Two fans redeem codes for the same card at the same time, a grant is taken back, and the
second copy is traded. -/
def racingRedemptions : List GrantAction :=
  [.redeem 0 "fan_a" "CODE" "redeem_code", .redeem 1 "fan_b" "CODE_2" "redeem_code",
   .findGrant 0, .findGrant 1, .lockCard 0, .lockCard 1, .countCopies 0,
   .insert 0 ⟨"uc_lost", "ledger_lost"⟩ 1, .abort 0, .lockCard 1, .countCopies 1,
   .insert 1 ⟨"uc_b", "ledger_b"⟩ 2, .commit 1, .redeem 0 "fan_a" "CODE" "redeem_code",
   .findGrant 0, .lockCard 0, .countCopies 0, .insert 0 ⟨"uc_a", "ledger_a"⟩ 3, .commit 0,
   .other (.createTrade "fan_a" oneCardOffer tradeId 4),
   .other (.acceptTrade tradeId "fan_b" [⟨tradeId, "uc_a", .offered⟩]
      ⟨fun _ => "ledger_t", "evt_p", "evt_r"⟩ 5)]

theorem serialsExact_run_racing :
    ((run GrantRace.step (GrantRace.idle smallCatalogue) racingRedemptions).committed.serials
      "card").Perm (List.range' 1 2) ∧
    (run GrantRace.step (GrantRace.idle smallCatalogue) racingRedemptions).committed.ownerOf
      "uc_a" = some "fan_b" :=
  ⟨(serialsExact_run genesis_smallCatalogue racingRedemptions).last "card", by decide⟩

end Fanfolio
