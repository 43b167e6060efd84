import Fanfolio.Cards.TradeLocks
import Fanfolio.Framework.RowLock

/-!
# Requests that race on one proposal

An answer locks the row of the proposal and reads it under the lock. The inbox and the detail
page read it without, and write what they decided by primary key once the lock is free.
-/

namespace Fanfolio

open Framework

/-- The answers to a proposal. -/
inductive TradeAnswer where
  | accept
  | reject
  | cancel
deriving DecidableEq, Repr

/-- The side that may give the answer. -/
def TradeAnswer.role : TradeAnswer → TradeParty
  | .accept => .recipient
  | .reject => .recipient
  | .cancel => .proposer

/-- What a request on the proposal is about. -/
inductive RacePhase where
  | idle
  | loaded (answer : TradeAnswer) (proposal : TradeProposal)
  | seen (proposal : TradeProposal)
  | wrote (respondedAt : Time)
deriving DecidableEq, Repr

/-- A step of a request on the proposal. -/
inductive RaceAction where
  /-- `_load_pending_proposal`, which locks the row. -/
  | load (request : Nat) (answer : TradeAnswer) (userId : UserId) (now : Time)
  | finish (request : Nat) (order : List TradeItem) (draws : AcceptDraws) (now : Time)
  /-- `trade_inbox` and `trade_detail` select the row. -/
  | read (request : Nat) (userId : UserId)
  /-- `_expire_trade_proposal` on the row that was read. -/
  | expire (request : Nat) (now : Time)
  | commit (request : Nat)
  | abort (request : Nat)

/-- The committed tables, the lock on the row and the requests under way. -/
abbrev TradeRace (Digest : Type) := Locked Nat (CardDb Digest) RacePhase

section

variable {Digest : Type} [RecordHash Digest]

/-- What an answer writes. -/
def answerTrade (db : CardDb Digest) (proposal : TradeProposal) (order : List TradeItem)
    (draws : AcceptDraws) (now : Time) : TradeAnswer → CardDb Digest
  | .accept => commitOr db (acceptTradeOnce db proposal order draws now)
  | .reject => db.closeProposal proposal.id .rejected now
  | .cancel => db.closeProposal proposal.id .cancelled now

/-- One step of a request; a step that waits for the lock leaves the state as it is. -/
def raceStep (proposalId : ProposalId) (s : TradeRace Digest) : RaceAction → TradeRace Digest
  | .load request answer userId now =>
    if s.lock = none ∧ s.phase request = .idle then
      match loadPendingProposal s.committed proposalId userId answer.role now with
      | (db, .error _) => s.release request db .idle
      | (_, .ok proposal) => s.acquire request (.loaded answer proposal)
    else s
  | .finish request order draws now =>
    match s.phase request with
    | .loaded answer proposal =>
      s.release request (answerTrade s.committed proposal order draws now answer) .idle
    | _ => s
  | .read request userId =>
    match s.phase request, s.committed.findProposal proposalId with
    | .idle, some proposal =>
      if userId = proposal.proposerId ∨ userId = proposal.recipientId then
        s.move request (.seen proposal)
      else s
    | _, _ => s
  | .expire request now =>
    match s.phase request with
    | .seen proposal =>
      if (expireTradeProposal s.committed proposal now).2 = false then s.move request .idle
      else if s.lock = none then s.acquire request (.wrote now)
      else s
    | _ => s
  | .commit request =>
    match s.phase request with
    | .wrote respondedAt =>
      s.release request (s.committed.closeProposal proposalId .expired respondedAt) .idle
    | _ => s
  | .abort request =>
    if s.lock = some request then s.release request s.committed .idle else s.move request .idle

/-- No request is under way. -/
def raceStart (db : CardDb Digest) : TradeRace Digest := ⟨db, none, fun _ => .idle⟩

def statusOf (proposalId : ProposalId) (s : TradeRace Digest) : Option ProposalStatus :=
  (s.committed.findProposal proposalId).map (·.status)

/-- What a request knows while it holds the lock. -/
def raceKnows (proposalId : ProposalId) : RacePhase → Option (CardDb Digest → Prop)
  | .loaded _ proposal =>
    some fun db => db.findProposal proposalId = some proposal ∧ proposal.status = .pending
  | .wrote _ => some fun _ => True
  | _ => none

/-- The step leaves the status alone once it is final. -/
def StatusFinal (proposalId : ProposalId) (s : TradeRace Digest) (a : RaceAction) : Prop :=
  ∀ status ∈ statusOf proposalId s, status ≠ .pending →
    statusOf proposalId (raceStep proposalId s a) = some status

/-- An expiry is committed over a proposal that is still pending, or expired already. -/
def ExpiresUnanswered (proposalId : ProposalId) (s : TradeRace Digest) : RaceAction → Prop
  | .commit request => ∀ respondedAt, s.phase request = .wrote respondedAt →
    ∀ status ∈ statusOf proposalId s, status = .pending ∨ status = .expired
  | _ => True

variable {proposalId : ProposalId} {s : TradeRace Digest}

omit [RecordHash Digest] in
theorem findProposal_close (db : CardDb Digest) (proposalId : ProposalId)
    (status : ProposalStatus) (now : Time) :
    (db.closeProposal proposalId status now).findProposal proposalId =
      (db.findProposal proposalId).map ({ · with status := status, respondedAt := some now }) :=
  find_patch_key (by intro _; rfl) _ _

theorem raceKnows_step (h : s.Knows (raceKnows proposalId)) (a : RaceAction) :
    (raceStep proposalId s a).Knows (raceKnows proposalId) := by
  cases a with
  | load request answer userId now =>
    simp only [raceStep]
    split
    · rename_i hfree
      rcases loadPendingProposal_cases s.committed proposalId userId answer.role now with
        ⟨e, heq⟩ | ⟨heq, -⟩ | ⟨proposal, heq, hfind, -⟩ <;> simp only [heq]
      · exact h.release (by simp [hfree.1]) _ rfl
      · exact h.release (by simp [hfree.1]) _ rfl
      · obtain ⟨hfound, -, hpending, -⟩ := findPendingProposal_ok.mp hfind
        refine h.acquire hfree.1 ?_
        rintro fact ⟨⟩
        exact ⟨hfound, hpending⟩
    · exact h
  | finish request order draws now =>
    simp only [raceStep]
    split
    · rename_i answer proposal hphase
      exact h.release_of_knows (by rw [hphase]; rfl) _ rfl
    · exact h
  | read request userId =>
    simp only [raceStep]
    split
    · split
      · exact h.move rfl
      · exact h
    · exact h
  | expire request now =>
    simp only [raceStep]
    split
    · split
      · exact h.move rfl
      · split
        · rename_i hfree
          exact h.acquire hfree (by simp [raceKnows])
        · exact h
    · exact h
  | commit request =>
    simp only [raceStep]
    split
    · rename_i respondedAt hphase
      exact h.release_of_knows (by rw [hphase]; rfl) _ rfl
    · exact h
  | abort request =>
    simp only [raceStep]
    split
    · rename_i hmine
      refine h.release ?_ _ rfl
      intro w' hlock
      exact Option.some.inj (hlock.symm.trans hmine)
    · exact h.move rfl

omit [RecordHash Digest] in
theorem statusOf_release_close (request : Nat) (status : ProposalStatus) (now : Time)
    (phase : RacePhase) :
    statusOf proposalId
      (s.release request (s.committed.closeProposal proposalId status now) phase) =
      (statusOf proposalId s).map fun _ => status := by
  rw [statusOf, Locked.release_committed, findProposal_close, statusOf, Option.map_map,
    Option.map_map]
  rfl

/-- A status changes once it is final only by an expiry that is committed over it. -/
theorem statusFinal_iff (h : s.Knows (raceKnows proposalId)) (a : RaceAction) :
    StatusFinal proposalId s a ↔ ExpiresUnanswered proposalId s a := by
  unfold StatusFinal
  cases a with
  | load request answer userId now =>
    refine iff_of_true ?_ trivial
    intro status hstatus hfinal
    simp only [raceStep]
    split
    · rcases loadPendingProposal_cases s.committed proposalId userId answer.role now with
        ⟨e, heq⟩ | ⟨heq, proposal, hfind⟩ | ⟨proposal, heq, -⟩ <;> simp only [heq]
      · exact hstatus
      · obtain ⟨hfound, -, hpending, -⟩ := findPendingProposal_ok.mp hfind
        rw [statusOf, hfound] at hstatus
        exact absurd ((Option.some.inj hstatus).symm.trans hpending) hfinal
      · exact hstatus
    · exact hstatus
  | finish request order draws now =>
    refine iff_of_true ?_ trivial
    intro status hstatus hfinal
    simp only [raceStep]
    split
    · rename_i answer proposal hphase
      obtain ⟨-, hfound, hpending⟩ := h request _ (by rw [hphase]; rfl)
      rw [statusOf, hfound] at hstatus
      exact absurd ((Option.some.inj hstatus).symm.trans hpending) hfinal
    · exact hstatus
  | read request userId =>
    refine iff_of_true ?_ trivial
    intro status hstatus _
    simp only [raceStep]
    split
    · split <;> exact hstatus
    · exact hstatus
  | expire request now =>
    refine iff_of_true ?_ trivial
    intro status hstatus _
    simp only [raceStep]
    split
    · split
      · exact hstatus
      · split <;> exact hstatus
    · exact hstatus
  | commit request =>
    simp only [raceStep, ExpiresUnanswered]
    cases hphase : s.phase request with
    | wrote respondedAt =>
      simp only [statusOf_release_close]
      cases hstatus : statusOf proposalId s with
      | none => simp
      | some status => cases status <;> simp
    | _ => exact iff_of_true (fun status hstatus _ => hstatus) (by simp)
  | abort request =>
    refine iff_of_true ?_ trivial
    intro status hstatus _
    simp only [raceStep]
    split <;> exact hstatus

/-- The step hands over the cards of the proposal. -/
def Swaps (s : TradeRace Digest) : RaceAction → Prop
  | .finish request order draws now => ∃ proposal, s.phase request = .loaded .accept proposal ∧
    ∃ result, acceptTradeOnce s.committed proposal order draws now = .ok result
  | _ => False

theorem Swaps.status {a : RaceAction} (hswaps : Swaps s a) (h : s.Knows (raceKnows proposalId)) :
    statusOf proposalId (raceStep proposalId s a) = some .accepted := by
  cases a with
  | finish request order draws now =>
    obtain ⟨proposal, hphase, ⟨db', status⟩, hok⟩ := hswaps
    obtain ⟨-, hfound, -⟩ := h request _ (by rw [hphase]; rfl)
    have hcloses := acceptTradeOnce_closes hok
    rw [(findProposal_some hfound).2] at hcloses
    have hfind := findProposal_close s.committed proposalId .accepted now
    rw [CardDb.findProposal, ← hcloses, hfound] at hfind
    simp only [raceStep, hphase, answerTrade, hok, statusOf, Locked.release_committed, commitOr]
    rw [CardDb.findProposal, hfind]
    rfl
  | _ => exact hswaps.elim

theorem statusOf_run {acts : List RaceAction}
    (h : Always (raceStep proposalId) (StatusFinal proposalId) s acts) {status : ProposalStatus}
    (hstatus : statusOf proposalId s = some status) (hfinal : status ≠ .pending) :
    statusOf proposalId (run (raceStep proposalId) s acts) = some status := by
  induction acts generalizing s with
  | nil => exact hstatus
  | cons a acts ih => exact ih h.2 (h.1 status hstatus hfinal)

/-- In a run of requests on one proposal its final status stays, and it is accepted ever after
its cards are handed over, exactly when every expiry finds it pending or expired. -/
theorem proposalStatus_final_iff {db : CardDb Digest} (acts : List RaceAction) :
    (Always (raceStep proposalId) (StatusFinal proposalId) (raceStart db) acts ∧
      ∀ pre a post, acts = pre ++ a :: post →
        Swaps (run (raceStep proposalId) (raceStart db) pre) a → ∀ later, later <+: post →
        statusOf proposalId (run (raceStep proposalId) (raceStart db) (pre ++ a :: later)) =
          some .accepted) ↔
      Always (raceStep proposalId) (ExpiresUnanswered proposalId) (raceStart db) acts := by
  have hstart : (raceStart db).Knows (raceKnows proposalId) := by
    intro request fact hfact
    cases hfact
  have hfinal : Always (raceStep proposalId) (StatusFinal proposalId) (raceStart db) acts ↔
      Always (raceStep proposalId) (ExpiresUnanswered proposalId) (raceStart db) acts :=
    always_congr_of_invariant hstart (fun s a hs => statusFinal_iff hs a)
      fun s a hs _ => raceKnows_step hs a
  constructor
  · rintro ⟨hkept, -⟩
    exact hfinal.mp hkept
  · intro hguard
    have hkept := hfinal.mpr hguard
    refine ⟨hkept, ?_⟩
    rintro pre a post rfl hswaps later ⟨rest, rfl⟩
    have hknows : (run (raceStep proposalId) (raceStart db) pre).Knows (raceKnows proposalId) :=
      run_of_step hstart fun s a hs => raceKnows_step hs a
    rw [always_append] at hkept
    have hrest := hkept.2.2
    rw [always_append] at hrest
    rw [run_append, run_cons]
    exact statusOf_run hrest.1 (hswaps.status hknows) (by decide)

/-- The request of the card system that an answer is. -/
def TradeAnswer.action (answer : TradeAnswer) (proposalId : ProposalId) (userId : UserId)
    (order : List TradeItem) (draws : AcceptDraws) (now : Time) : CardAction :=
  match answer with
  | .accept => .acceptTrade proposalId userId order draws now
  | .reject => .rejectTrade proposalId userId now
  | .cancel => .cancelTrade proposalId userId now

/-- An answer that meets no other request does what the card system does. -/
theorem answer_alone (db : CardDb Digest) (request : Nat) (answer : TradeAnswer) (userId : UserId)
    (order : List TradeItem) (draws : AcceptDraws) (now : Time) :
    (run (raceStep proposalId) (raceStart db)
      [.load request answer userId now, .finish request order draws now]).committed =
      cardStep db (answer.action proposalId userId order draws now) := by
  simp only [run_cons, run_nil, raceStep, raceStart, true_and, if_true]
  rcases hload : loadPendingProposal db proposalId userId answer.role now with ⟨db', e | proposal⟩
  · cases answer <;>
      simp_all [TradeAnswer.role, TradeAnswer.action, cardStep, acceptTrade, rejectTrade,
        cancelTrade, rejectOrCancel, Locked.release]
  · have hdb : db' = db := by
      rcases loadPendingProposal_cases db proposalId userId answer.role now with
        ⟨e, heq⟩ | ⟨heq, -⟩ | ⟨_, heq, -⟩ <;> rw [heq] at hload
      · cases hload
      · cases hload
      · exact (congrArg Prod.fst hload).symm
    subst hdb
    simp only [Locked.acquire, Function.update_self, Locked.release_committed]
    cases answer with
    | accept =>
      rw [TradeAnswer.action, cardStep, acceptTrade]
      simp only [TradeAnswer.role] at hload
      rw [hload]
      simp only [answerTrade]
      cases acceptTradeOnce db' proposal order draws now <;> rfl
    | reject =>
      rw [TradeAnswer.action, cardStep, rejectTrade, rejectOrCancel]
      simp only [TradeAnswer.role] at hload
      rw [hload]
      rfl
    | cancel =>
      rw [TradeAnswer.action, cardStep, cancelTrade, rejectOrCancel]
      simp only [TradeAnswer.role] at hload
      rw [hload]
      rfl

/-- A detail page that meets no other request does what the card system does. -/
theorem detail_alone (db : CardDb Digest) (request : Nat) (userId : UserId) (now : Time) :
    (run (raceStep proposalId) (raceStart db)
      [.read request userId, .expire request now, .commit request]).committed =
      cardStep db (.tradeDetail userId proposalId now) := by
  simp only [run_cons, run_nil, cardStep, tradeDetail, raceStart]
  cases hfind : db.findProposal proposalId with
  | none => simp [raceStep, hfind]
  | some proposal =>
    have hid := (findProposal_some hfind).2
    by_cases hparty : userId = proposal.proposerId ∨ userId = proposal.recipientId
    · have hnot : ¬(userId ≠ proposal.proposerId ∧ userId ≠ proposal.recipientId) := by tauto
      dsimp only
      rw [if_neg hnot]
      by_cases hexpired : proposal.status ≠ .pending ∨ now < proposal.expiresAt
      · simp [raceStep, hfind, hparty, expireTradeProposal, hexpired, Locked.move]
      · simp [raceStep, hfind, hparty, expireTradeProposal, hexpired, Locked.move, Locked.acquire,
          Locked.release, hid]
    · have hnot : userId ≠ proposal.proposerId ∧ userId ≠ proposal.recipientId := by tauto
      dsimp only
      rw [if_pos hnot]
      simp [raceStep, hfind, hparty]

end

/-- The recipient reads the detail page, accepts just in time, and the page expires the
proposal after all. -/
def expiredAfterAcceptance : List RaceAction :=
  [.read 0 "fan_b",
   .load 1 .accept "fan_b" (1 + days 7),
   .finish 1 [] ⟨fun id => "transfer_" ++ id, "evt_proposer", "evt_recipient"⟩ (1 + days 7),
   .expire 0 (2 + days 7),
   .commit 0]

/-- The cards stay swapped, and the proposal is no longer accepted. -/
theorem proposalStatus_lost_expiredAfterAcceptance :
    statusOf ⟨"trade", by decide⟩ (run (raceStep ⟨"trade", by decide⟩)
      (raceStart (cardsAfter smallCatalogue offeredCard)) (expiredAfterAcceptance.take 3)) =
        some .accepted ∧
    statusOf ⟨"trade", by decide⟩ (run (raceStep ⟨"trade", by decide⟩)
      (raceStart (cardsAfter smallCatalogue offeredCard)) expiredAfterAcceptance) =
        some .expired ∧
    (run (raceStep ⟨"trade", by decide⟩)
      (raceStart (cardsAfter smallCatalogue offeredCard)) expiredAfterAcceptance).committed.ownerOf
        "uc_a" = some "fan_b" :=
  ⟨by decide, by decide, by decide⟩

end Fanfolio
