import Fanfolio.Cards.TradeLocks

/-!
# Trades on hold

The support desk puts a pending proposal on hold and releases it. Acceptances, rejections and
cancellations look for an active hold; the inbox and the detail page expire a proposal without
looking for one, and a release leaves its row behind.
-/

namespace Fanfolio

open Framework

/-- A pending proposal whose time is over. -/
def TradeProposal.IsOverdue (proposal : TradeProposal) (now : Time) : Prop :=
  proposal.status = .pending ∧ proposal.expiresAt ≤ now

instance (proposal : TradeProposal) (now : Time) : Decidable (proposal.IsOverdue now) :=
  inferInstanceAs (Decidable (_ ∧ _))

/-- The row of a proposal that got its final status. -/
def TradeProposal.close (status : ProposalStatus) (now : Time) (proposal : TradeProposal) :
    TradeProposal :=
  { proposal with status := status, respondedAt := some now }

theorem isOk_iff {α : Type} {attempt : Except Failure α} :
    attempt.isOk ↔ ∃ a, attempt = .ok a := by
  cases attempt <;> simp [Except.isOk, Except.toBool]

section Holds

variable {Digest : Type}

def CardDb.proposalStatus (db : CardDb Digest) (proposalId : ProposalId) : Option ProposalStatus :=
  (db.findProposal proposalId).map (·.status)

/-- Every pending proposal without an active hold can be put on hold. -/
def CardDb.Holdable (db : CardDb Digest) : Prop :=
  ∀ proposal ∈ db.proposals, proposal.status = .pending → db.isHeld proposal.id = false →
    (holdTrade db proposal.id).isOk

instance (db : CardDb Digest) : Decidable db.Holdable :=
  inferInstanceAs (Decidable (∀ proposal ∈ db.proposals, _))

/-- The proposals on hold have the status that they had. -/
def CardDb.KeepsHeld (db db' : CardDb Digest) : Prop :=
  ∀ proposal ∈ db.proposals, db.isHeld proposal.id →
    db'.proposalStatus proposal.id = some proposal.status

instance (db db' : CardDb Digest) : Decidable (db.KeepsHeld db') :=
  inferInstanceAs (Decidable (∀ proposal ∈ db.proposals, _))

def CardDb.NoneHeldOverdue (db : CardDb Digest) (proposals : List TradeProposal) (now : Time) :
    Prop :=
  ∀ proposal ∈ proposals, db.isHeld proposal.id → ¬proposal.IsOverdue now

/-- The proposals that `trade_detail` shows to a user. -/
def detailProposals (db : CardDb Digest) (userId : UserId) (proposalId : ProposalId) :
    List TradeProposal :=
  (db.findProposal proposalId).toList.filter fun proposal =>
    userId = proposal.proposerId ∨ userId = proposal.recipientId

/-- A release finds its proposal closed, and neither the inbox nor the detail page meets an
overdue proposal that is on hold. -/
def CardDb.HoldsRespected (db : CardDb Digest) : CardAction → Prop
  | .releaseTrade proposalId _ =>
    db.isHeld proposalId → db.proposalStatus proposalId ≠ some .pending
  | .tradeInbox userId box _ now => db.NoneHeldOverdue (inboxProposals db userId box) now
  | .tradeDetail userId proposalId now =>
    db.NoneHeldOverdue (detailProposals db userId proposalId) now
  | _ => True

/-- The keys of the proposals and of their holds. -/
structure CardDb.HoldsConsistent (db : CardDb Digest) : Prop where
  proposalIds : (db.proposals.map (·.id)).Nodup
  holdsOf : ∀ hold ∈ db.holds, hold.proposalId ∈ db.proposals.map (·.id)

variable {db db' : CardDb Digest}

theorem isHeld_iff {proposalId : ProposalId} : db.isHeld proposalId ↔
    ∃ hold ∈ db.holds, hold.proposalId = proposalId ∧ hold.releasedAt = none := by
  simp only [CardDb.isHeld, List.any_eq_true, Bool.and_eq_true, beq_iff_eq]

theorem isHeld_congr (hholds : db'.holds = db.holds) (proposalId : ProposalId) :
    db'.isHeld proposalId = db.isHeld proposalId := by
  rw [CardDb.isHeld, hholds, CardDb.isHeld]

theorem proposalStatus_of_mem (hids : (db.proposals.map (·.id)).Nodup) {proposal : TradeProposal}
    (hmem : proposal ∈ db.proposals) : db.proposalStatus proposal.id = some proposal.status := by
  rw [CardDb.proposalStatus, CardDb.findProposal, find_of_mem hids hmem]
  rfl

theorem holdTrade_isOk (hids : (db.proposals.map (·.id)).Nodup) {proposal : TradeProposal}
    (hmem : proposal ∈ db.proposals) : (holdTrade db proposal.id).isOk ↔
      proposal.status = .pending ∧ db.isHeld proposal.id = false ∧
        ∀ hold ∈ db.holds, hold.proposalId ≠ proposal.id := by
  have hfind : db.findProposal proposal.id = some proposal := find_of_mem hids hmem
  rw [isOk_iff]
  simp only [holdTrade, bind_ok, orFail_ok, ensure_ok, exists_const, hfind, Option.some.injEq,
    exists_eq_left', pure_ok, Prod.exists]
  constructor
  · rintro ⟨_, _, hpending, hfree, hnew, -⟩
    exact ⟨hpending, hfree, hnew⟩
  · rintro ⟨hpending, hfree, hnew⟩
    exact ⟨_, _, hpending, hfree, hnew, rfl⟩

/-- A proposal can be put on hold exactly if no row of an earlier hold is in the way. -/
theorem holdable_iff (hids : (db.proposals.map (·.id)).Nodup) : db.Holdable ↔
    ∀ proposal ∈ db.proposals, proposal.status = .pending → db.isHeld proposal.id = false →
      ∀ hold ∈ db.holds, hold.proposalId ≠ proposal.id := by
  constructor
  · intro h proposal hmem hpending hfree
    exact ((holdTrade_isOk hids hmem).mp (h proposal hmem hpending hfree)).2.2
  · intro h proposal hmem hpending hfree
    exact (holdTrade_isOk hids hmem).mpr ⟨hpending, hfree, h proposal hmem hpending hfree⟩

/-- An update that closes proposals, and leaves the holds alone. -/
structure Closes (db db' : CardDb Digest) (p : TradeProposal → Bool)
    (f : TradeProposal → TradeProposal) : Prop where
  proposals : db'.proposals = patch p f db.proposals
  holds : db'.holds = db.holds
  ids : ∀ row, (f row).id = row.id
  closed : ∀ row, (f row).status ≠ .pending

namespace Closes

variable {p : TradeProposal → Bool} {f : TradeProposal → TradeProposal}

theorem consistent (hcloses : Closes db db' p f) (h : db.HoldsConsistent) :
    db'.HoldsConsistent := by
  have hids : db'.proposals.map (·.id) = db.proposals.map (·.id) := by
    rw [hcloses.proposals, map_patch hcloses.ids]
  refine ⟨?_, ?_⟩
  · rw [hids]
    exact h.proposalIds
  · rw [hids, hcloses.holds]
    exact h.holdsOf

theorem holdable (hcloses : Closes db db' p f) (h : db.HoldsConsistent) (hholdable : db.Holdable) :
    db'.Holdable := by
  rw [holdable_iff (hcloses.consistent h).proposalIds]
  intro proposal hmem hpending
  rw [hcloses.proposals, mem_patch] at hmem
  obtain ⟨row, hrow, rfl⟩ := hmem
  split at hpending
  · exact absurd hpending (hcloses.closed row)
  · rename_i hp
    rw [if_neg hp, isHeld_congr hcloses.holds, hcloses.holds]
    exact (holdable_iff h.proposalIds).mp hholdable row hrow hpending

theorem keepsHeld_iff (hcloses : Closes db db' p f) (h : db.HoldsConsistent) :
    db.KeepsHeld db' ↔ ∀ proposal ∈ db.proposals, db.isHeld proposal.id → p proposal →
      (f proposal).status = proposal.status := by
  have hafter : ∀ proposal ∈ db.proposals, db'.proposalStatus proposal.id =
      some (if p proposal then f proposal else proposal).status := by
    intro proposal hmem
    have hpatched := proposalStatus_of_mem (hcloses.consistent h).proposalIds
      (hcloses.proposals ▸ mem_patch.mpr ⟨proposal, hmem, rfl⟩)
    rw [← hpatched]
    split
    · rw [hcloses.ids]
    · rfl
  constructor
  · intro hkeeps proposal hmem hheld hp
    have hstatus := hkeeps proposal hmem hheld
    rw [hafter proposal hmem, if_pos hp] at hstatus
    exact Option.some.inj hstatus
  · intro hkept proposal hmem hheld
    rw [hafter proposal hmem]
    split
    · rename_i hp
      rw [hkept proposal hmem hheld hp]
    · rfl

end Closes

/-- An update that reaches no proposal is none. -/
theorem Closes.none (hproposals : db'.proposals = db.proposals) (hholds : db'.holds = db.holds) :
    Closes db db' (fun _ => false) (TradeProposal.close .expired 0) :=
  ⟨by rw [hproposals, patch_of_forall_not]; simp, hholds, fun _ => rfl, by simp [TradeProposal.close]⟩

theorem closes_closeProposal (proposalId : ProposalId) {status : ProposalStatus}
    (hstatus : status ≠ .pending) (now : Time)
    (hproposals : db'.proposals = (db.closeProposal proposalId status now).proposals)
    (hholds : db'.holds = db.holds) :
    Closes db db' (·.id == proposalId) (TradeProposal.close status now) :=
  ⟨hproposals, hholds, fun _ => rfl, fun _ => hstatus⟩

/-- The proposals that a sweep of the list closes. -/
def isSwept (proposals : List TradeProposal) (now : Time) (row : TradeProposal) : Bool :=
  proposals.any fun proposal => decide (proposal.IsOverdue now) && proposal.id == row.id

theorem isSwept_cons (proposal : TradeProposal) (proposals : List TradeProposal) (now : Time)
    (row : TradeProposal) : isSwept (proposal :: proposals) now row =
      (isSwept [proposal] now row || isSwept proposals now row) := by
  simp only [isSwept, List.any_cons, List.any_nil, Bool.or_false]

theorem isSwept_close (proposals : List TradeProposal) (now : Time) (status : ProposalStatus)
    (row : TradeProposal) :
    isSwept proposals now (row.close status now) = isSwept proposals now row := rfl

@[simp] theorem close_close (status : ProposalStatus) (now : Time) (row : TradeProposal) :
    (row.close status now).close status now = row.close status now := rfl

theorem expireTradeProposal_proposals (proposal : TradeProposal) (now : Time) :
    (expireTradeProposal db proposal now).1.proposals =
      patch (isSwept [proposal] now) (TradeProposal.close .expired now) db.proposals := by
  by_cases hoverdue : proposal.IsOverdue now
  · have hopen : ¬(proposal.status ≠ .pending ∨ now < proposal.expiresAt) := by
      rw [not_or, not_not, not_lt]
      exact hoverdue
    have hswept : isSwept [proposal] now = fun row => row.id == proposal.id := by
      funext row
      simp only [isSwept, List.any_cons, List.any_nil, hoverdue, decide_true, Bool.true_and,
        Bool.or_false, BEq.comm]
    rw [expireTradeProposal, if_neg hopen, hswept]
    rfl
  · have hopen : proposal.status ≠ .pending ∨ now < proposal.expiresAt := by
      rw [← not_le, ← not_and_or]
      exact hoverdue
    rw [expireTradeProposal, if_pos hopen, patch_of_forall_not]
    simp [isSwept, hoverdue]

/-- The inbox closes its overdue proposals. -/
theorem expireAll_proposals (proposals : List TradeProposal) (now : Time) :
    (expireAll db now proposals).proposals =
      patch (isSwept proposals now) (TradeProposal.close .expired now) db.proposals := by
  induction proposals generalizing db with
  | nil =>
    rw [patch_of_forall_not (by simp [isSwept])]
    rfl
  | cons proposal proposals ih =>
    show (expireAll (expireTradeProposal db proposal now).1 now proposals).proposals = _
    rw [ih, expireTradeProposal_proposals, patch, patch, patch, List.map_map]
    apply List.map_congr_left
    intro row _
    rw [Function.comp_apply, isSwept_cons proposal proposals]
    cases hhead : isSwept [proposal] now row with
    | false => simp
    | true => simp [isSwept_close]

theorem expireAll_closes (proposals : List TradeProposal) (now : Time) :
    Closes db (expireAll db now proposals) (isSwept proposals now)
      (TradeProposal.close .expired now) :=
  ⟨expireAll_proposals proposals now,
    expireAll_keeps (P := fun db' => db'.holds = db.holds) rfl (fun _ _ h => h) proposals,
    fun _ => rfl, by simp [TradeProposal.close]⟩

/-- A sweep leaves the proposals on hold alone exactly if none of them is overdue. -/
theorem expireAll_keepsHeld (h : db.HoldsConsistent) {proposals : List TradeProposal} {now : Time}
    (hrows : ∀ proposal ∈ proposals, proposal ∈ db.proposals) :
    db.KeepsHeld (expireAll db now proposals) ↔ db.NoneHeldOverdue proposals now := by
  rw [(expireAll_closes proposals now).keepsHeld_iff h]
  constructor
  · intro hkept proposal hmem hheld hoverdue
    have hswept : isSwept proposals now proposal :=
      List.any_eq_true.mpr ⟨proposal, hmem, by simp [hoverdue]⟩
    have hstatus := hkept proposal (hrows proposal hmem) hheld hswept
    rw [hoverdue.1] at hstatus
    cases hstatus
  · intro hnone row hrow hheld hswept
    obtain ⟨proposal, hmem, hproposal⟩ := List.any_eq_true.mp hswept
    rw [Bool.and_eq_true, decide_eq_true_eq, beq_iff_eq] at hproposal
    obtain rfl := eq_of_unique h.proposalIds (hrows proposal hmem) hrow hproposal.2
    exact absurd hproposal.1 (hnone proposal hmem hheld)

theorem inboxProposals_mem {userId : UserId} {box : TradeBox} {proposal : TradeProposal}
    (hmem : proposal ∈ inboxProposals db userId box) : proposal ∈ db.proposals := by
  rw [inboxProposals, List.mem_insertionSort] at hmem
  exact List.mem_of_mem_filter hmem

theorem detailProposals_mem {userId : UserId} {proposalId : ProposalId} {proposal : TradeProposal}
    (hmem : proposal ∈ detailProposals db userId proposalId) : proposal ∈ db.proposals := by
  have hfind := Option.mem_toList.mp (List.mem_of_mem_filter hmem)
  exact (findProposal_some hfind).1

/-- The detail page sweeps the proposal that it shows. -/
theorem tradeDetail_eq (userId : UserId) (proposalId : ProposalId) (now : Time) :
    (tradeDetail db userId proposalId now).1 =
      expireAll db now (detailProposals db userId proposalId) := by
  unfold tradeDetail detailProposals
  cases hfind : db.findProposal proposalId with
  | none => rfl
  | some proposal =>
    by_cases hparty : userId = proposal.proposerId ∨ userId = proposal.recipientId
    · simp [← not_or, hparty, expireAll]
    · simp [← not_or, hparty, expireAll]

/-- A request that keeps the keys, the statuses of the proposals on hold, and that the others can
be put on hold. -/
structure KeepsHolds (db db' : CardDb Digest) : Prop where
  consistent : db'.HoldsConsistent
  keepsHeld : db.KeepsHeld db'
  holdable : db'.Holdable

theorem Closes.keepsHolds {p : TradeProposal → Bool} {f : TradeProposal → TradeProposal}
    (hcloses : Closes db db' p f) (h : db.HoldsConsistent) (hholdable : db.Holdable)
    (hfree : ∀ proposal ∈ db.proposals, p proposal → db.isHeld proposal.id = false) :
    KeepsHolds db db' := by
  refine ⟨hcloses.consistent h, ?_, hcloses.holdable h hholdable⟩
  rw [hcloses.keepsHeld_iff h]
  intro proposal hmem hheld hp
  rw [hfree proposal hmem hp] at hheld
  cases hheld

theorem keepsHolds_of_same (h : db.HoldsConsistent) (hholdable : db.Holdable)
    (hproposals : db'.proposals = db.proposals) (hholds : db'.holds = db.holds) :
    KeepsHolds db db' :=
  (Closes.none hproposals hholds).keepsHolds h hholdable fun _ _ hp => absurd hp Bool.false_ne_true

theorem keepsHolds_of_close (h : db.HoldsConsistent) (hholdable : db.Holdable)
    {proposalId : ProposalId} {status : ProposalStatus} (hstatus : status ≠ .pending) {now : Time}
    (hproposals : db'.proposals = (db.closeProposal proposalId status now).proposals)
    (hholds : db'.holds = db.holds) (hfree : db.isHeld proposalId = false) : KeepsHolds db db' := by
  refine (closes_closeProposal proposalId hstatus now hproposals hholds).keepsHolds h hholdable ?_
  intro proposal _ hid
  rw [beq_iff_eq.mp hid]
  exact hfree

/-- No hold is on a proposal that does not exist yet. -/
theorem Proposed.keepsHolds {userId : UserId} {payload : TradeProposalCreate}
    {proposal : TradeProposal} {items : List TradeItem}
    (hnew : Proposed db db' userId payload proposal items) (h : db.HoldsConsistent)
    (hholdable : db.Holdable) : KeepsHolds db db' := by
  have hproposals : db'.proposals = db.proposals ++ [proposal] := by rw [hnew.after]
  have hholds : db'.holds = db.holds := by rw [hnew.after]
  have hconsistent : db'.HoldsConsistent := by
    refine ⟨?_, ?_⟩
    · rw [hproposals]
      exact nodup_insert h.proposalIds hnew.freshId
    · rw [hproposals, hholds, List.map_append]
      exact fun hold hhold => List.mem_append_left _ (h.holdsOf hold hhold)
  refine ⟨hconsistent, ?_, ?_⟩
  · intro row hrow _
    refine proposalStatus_of_mem hconsistent.proposalIds ?_
    rw [hproposals]
    exact List.mem_append_left _ hrow
  · rw [holdable_iff hconsistent.proposalIds, hproposals, hholds]
    intro row hrow hpending
    rw [isHeld_congr hholds]
    rcases List.mem_append.mp hrow with hrow | hrow
    · exact (holdable_iff h.proposalIds).mp hholdable row hrow hpending
    · intro _ hold hhold heq
      obtain ⟨row', hrow', hid⟩ := List.mem_map.mp (h.holdsOf hold hhold)
      rw [List.mem_singleton.mp hrow] at heq
      exact hnew.freshId row' hrow' (hid.trans heq)

/-- The row of a new hold is active. -/
theorem holdTrade_keepsHolds (h : db.HoldsConsistent) (hholdable : db.Holdable)
    {proposalId : ProposalId} {u : Unit} (hok : holdTrade db proposalId = .ok (db', u)) :
    KeepsHolds db db' := by
  simp only [holdTrade, bind_ok, orFail_ok, ensure_ok, exists_const, pure_ok, Prod.mk.injEq] at hok
  obtain ⟨proposal, hfind, -, -, -, rfl, -⟩ := hok
  obtain ⟨hmem, -⟩ := findProposal_some hfind
  refine ⟨⟨h.proposalIds, ?_⟩, ?_, ?_⟩
  · intro hold hhold
    rcases List.mem_append.mp hhold with hhold | hhold
    · exact h.holdsOf hold hhold
    · rw [List.mem_singleton.mp hhold]
      exact List.mem_map_of_mem hmem
  · intro row hrow _
    exact proposalStatus_of_mem h.proposalIds hrow
  · refine (holdable_iff ?_).mpr ?_
    · exact h.proposalIds
    · intro row hrow hpending hfree hold hhold heq
      have hbefore : db.isHeld row.id = false := by
        rw [CardDb.isHeld, List.any_append, Bool.or_eq_false_iff] at hfree
        exact hfree.1
      rcases List.mem_append.mp hhold with hhold | hhold
      · exact (holdable_iff h.proposalIds).mp hholdable row hrow hpending hbefore hold hhold heq
      · rw [← Bool.not_eq_true, isHeld_iff] at hfree
        rw [List.mem_singleton.mp hhold] at heq
        exact hfree ⟨_, List.mem_append_right _ (List.mem_singleton_self _), heq, rfl⟩

/-- Loading a pending proposal leaves the proposals on hold alone. -/
theorem loadPendingProposal_keepsHolds (h : db.HoldsConsistent) (hholdable : db.Holdable)
    (proposalId : ProposalId) (userId : UserId) (role : TradeParty) (now : Time) :
    (∃ e, (loadPendingProposal db proposalId userId role now).2 = .error e ∧
      KeepsHolds db (loadPendingProposal db proposalId userId role now).1) ∨
    ∃ proposal, loadPendingProposal db proposalId userId role now = (db, .ok proposal) ∧
      db.isHeld proposal.id = false := by
  rcases loadPendingProposal_cases db proposalId userId role now with
    ⟨e, heq⟩ | ⟨heq, proposal, hfind⟩ | ⟨proposal, heq, hfind, -⟩
  · rw [heq]
    exact .inl ⟨e, rfl, keepsHolds_of_same h hholdable rfl rfl⟩
  · obtain ⟨hfound, -, -, hfree⟩ := findPendingProposal_ok.mp hfind
    rw [(findProposal_some hfound).2] at hfree
    rw [heq]
    exact .inl ⟨_, rfl, keepsHolds_of_close h hholdable (by decide) rfl rfl hfree⟩
  · obtain ⟨-, -, -, hfree⟩ := findPendingProposal_ok.mp hfind
    exact .inr ⟨proposal, heq, hfree⟩

theorem rejectOrCancel_keepsHolds (h : db.HoldsConsistent) (hholdable : db.Holdable)
    (proposalId : ProposalId) (userId : UserId) (role : TradeParty) {status : ProposalStatus}
    (hstatus : status ≠ .pending) (now : Time) :
    KeepsHolds db (rejectOrCancel db proposalId userId role status now).1 := by
  unfold rejectOrCancel
  rcases loadPendingProposal_keepsHolds h hholdable proposalId userId role now with
    ⟨e, herror, hkeeps⟩ | ⟨proposal, heq, hfree⟩
  · split
    · rename_i hload
      rw [hload] at hkeeps
      exact hkeeps
    · rename_i hload
      rw [hload] at herror
      cases herror
  · rw [heq]
    exact keepsHolds_of_close h hholdable hstatus rfl rfl hfree

theorem releaseTrade_rows {proposalId : ProposalId} {now : Time} {u : Unit}
    (hok : releaseTrade db proposalId now = .ok (db', u)) :
    db.isHeld proposalId ∧ db'.proposals = db.proposals ∧
      db'.holds = patch (fun row => row.proposalId == proposalId && row.releasedAt == none)
        ({ · with releasedAt := some now }) db.holds := by
  simp only [releaseTrade, bind_ok, ensure_ok, exists_const, pure_ok, Prod.mk.injEq] at hok
  obtain ⟨hheld, rfl, -⟩ := hok
  exact ⟨hheld, rfl, rfl⟩

theorem releaseTrade_error {proposalId : ProposalId} {now : Time} {e : Failure}
    (herror : releaseTrade db proposalId now = .error e) : db.isHeld proposalId = false := by
  by_contra hheld
  rw [Bool.not_eq_false] at hheld
  rw [releaseTrade, ensure, if_pos hheld] at herror
  cases herror

theorem releaseTrade_consistent (h : db.HoldsConsistent) {proposalId : ProposalId} {now : Time}
    {u : Unit} (hok : releaseTrade db proposalId now = .ok (db', u)) : db'.HoldsConsistent := by
  obtain ⟨-, hproposals, hholds⟩ := releaseTrade_rows hok
  refine ⟨hproposals ▸ h.proposalIds, ?_⟩
  intro hold hhold
  rw [hholds] at hhold
  obtain ⟨row, hrow, rfl⟩ := mem_patch.mp hhold
  rw [hproposals]
  split <;> exact h.holdsOf row hrow

/-- A release leaves its row, and its proposal is not on hold any more. -/
theorem releaseTrade_holdable (h : db.HoldsConsistent) (hholdable : db.Holdable)
    {proposalId : ProposalId} {now : Time} {u : Unit}
    (hok : releaseTrade db proposalId now = .ok (db', u)) :
    db'.Holdable ↔ db.HoldsRespected (.releaseTrade proposalId now) := by
  obtain ⟨hheld, hproposals, hholds⟩ := releaseTrade_rows hok
  rw [holdable_iff (releaseTrade_consistent h hok).proposalIds, hproposals]
  constructor
  · intro hafter _ hstatus
    obtain ⟨proposal, hfind, hpending⟩ := Option.map_eq_some_iff.mp hstatus
    obtain ⟨hmem, rfl⟩ := findProposal_some hfind
    obtain ⟨hold, hhold, hid, -⟩ := isHeld_iff.mp hheld
    refine hafter proposal hmem hpending ?_ _ (hholds ▸ mem_patch.mpr ⟨hold, hhold, rfl⟩) ?_
    · rw [← Bool.not_eq_true, isHeld_iff, hholds]
      rintro ⟨_, hactive, hactiveId, hnone⟩
      obtain ⟨row, -, rfl⟩ := mem_patch.mp hactive
      by_cases hrow : (row.proposalId == proposal.id && row.releasedAt == none) = true
      · rw [if_pos hrow] at hnone
        cases hnone
      · rw [if_neg hrow] at hactiveId hnone
        exact hrow (by rw [hactiveId, hnone]; simp)
    · split <;> exact hid
  · intro hclosed proposal hmem hpending hfree hold hhold heq
    have hne : proposal.id ≠ proposalId := by
      rintro rfl
      exact hclosed hheld (by rw [proposalStatus_of_mem h.proposalIds hmem, hpending])
    have hkept : ∀ row ∈ db.holds, row.proposalId = proposal.id → row ∈ db'.holds := by
      intro row hrow hid
      rw [hholds]
      exact mem_patch_of_not hrow (by rw [hid, beq_false_of_ne hne, Bool.false_and])
    rw [hholds] at hhold
    obtain ⟨row, hrow, rfl⟩ := mem_patch.mp hhold
    have hid : row.proposalId = proposal.id := by
      split at heq <;> exact heq
    refine (holdable_iff h.proposalIds).mp hholdable proposal hmem hpending ?_ row hrow hid
    rw [← Bool.not_eq_true, isHeld_iff] at hfree ⊢
    rintro ⟨active, hactive, hactiveId, hnone⟩
    exact hfree ⟨active, hkept active hactive hactiveId, hactiveId, hnone⟩

end Holds

section Runs

variable {Digest : Type} [RecordHash Digest] {db : CardDb Digest}

theorem acceptTradeOnce_holds {db' : CardDb Digest} {proposal : TradeProposal}
    {order : List TradeItem} {draws : AcceptDraws} {now : Time} {status : ProposalStatus}
    (h : acceptTradeOnce db proposal order draws now = .ok (db', status)) :
    db'.holds = db.holds := by
  obtain ⟨userCards, ledger, events, rfl⟩ := acceptTradeOnce_frame h
  rfl

theorem acceptTrade_keepsHolds (h : db.HoldsConsistent) (hholdable : db.Holdable)
    (proposalId : ProposalId) (userId : UserId) (order : List TradeItem) (draws : AcceptDraws)
    (now : Time) : KeepsHolds db (acceptTrade db proposalId userId order draws now).1 := by
  unfold acceptTrade
  rcases loadPendingProposal_keepsHolds h hholdable proposalId userId .recipient now with
    ⟨e, herror, hkeeps⟩ | ⟨proposal, heq, hfree⟩
  · split
    · rename_i hload
      rw [hload] at hkeeps
      exact hkeeps
    · rename_i hload
      rw [hload] at herror
      cases herror
  · rw [heq]
    cases honce : acceptTradeOnce db proposal order draws now with
    | error e =>
      simp only [honce, Except.mapError, transact]
      exact keepsHolds_of_same h hholdable rfl rfl
    | ok result =>
      simp only [honce, Except.mapError, transact]
      refine keepsHolds_of_close h hholdable (by decide) (acceptTradeOnce_closes honce) ?_ hfree
      exact acceptTradeOnce_holds honce

/-- Each request keeps the holds, and the law of the holds exactly under their condition. -/
theorem cardStep_holds (h : db.HoldsConsistent) (hholdable : db.Holdable) (a : CardAction) :
    (cardStep db a).HoldsConsistent ∧
      (db.KeepsHeld (cardStep db a) ∧ (cardStep db a).Holdable ↔ db.HoldsRespected a) := by
  have hall : ∀ {db' : CardDb Digest}, KeepsHolds db db' →
      db'.HoldsConsistent ∧ (db.KeepsHeld db' ∧ db'.Holdable ↔ True) :=
    fun hkeeps => ⟨hkeeps.consistent, iff_true_intro ⟨hkeeps.keepsHeld, hkeeps.holdable⟩⟩
  have hsame : KeepsHolds db db := keepsHolds_of_same h hholdable rfl rfl
  have hsweep : ∀ proposals now, (∀ proposal ∈ proposals, proposal ∈ db.proposals) →
      (expireAll db now proposals).HoldsConsistent ∧
        (db.KeepsHeld (expireAll db now proposals) ∧ (expireAll db now proposals).Holdable ↔
          db.NoneHeldOverdue proposals now) := by
    intro proposals now hrows
    have hcloses : Closes db (expireAll db now proposals) _ _ := expireAll_closes proposals now
    refine ⟨hcloses.consistent h, ?_⟩
    rw [and_iff_left (hcloses.holdable h hholdable)]
    exact expireAll_keepsHeld h hrows
  cases a with
  | redeem =>
    refine hall (commitOr_keeps hsame fun db' result hok => ?_)
    obtain ⟨_, _, _, _, -, -, rfl⟩ := redeem_frame hok
    exact keepsHolds_of_same h hholdable rfl rfl
  | codeBatch =>
    refine hall (commitOr_keeps hsame fun db' result hok => ?_)
    obtain ⟨_, -, rfl⟩ := codeBatch_ok hok
    exact keepsHolds_of_same h hholdable rfl rfl
  | updateRedeemCode =>
    refine hall (commitOr_keeps hsame fun db' result hok => ?_)
    obtain ⟨_, rfl⟩ := updateRedeemCode_ok hok
    exact keepsHolds_of_same h hholdable rfl rfl
  | createTrade =>
    refine hall (commitOr_keeps hsame fun db' result hok => ?_)
    obtain ⟨_, -, hnew⟩ := createTrade_ok hok
    exact hnew.keepsHolds h hholdable
  | acceptTrade proposalId userId order draws now =>
    exact hall (acceptTrade_keepsHolds h hholdable proposalId userId order draws now)
  | rejectTrade proposalId userId now =>
    exact hall (rejectOrCancel_keepsHolds h hholdable proposalId userId _ (by decide) now)
  | cancelTrade proposalId userId now =>
    exact hall (rejectOrCancel_keepsHolds h hholdable proposalId userId _ (by decide) now)
  | tradeInbox userId box tradeStatus now =>
    exact hsweep _ now fun proposal => inboxProposals_mem
  | tradeDetail userId proposalId now =>
    rw [cardStep, tradeDetail_eq]
    exact hsweep _ now fun proposal => detailProposals_mem
  | holdTrade =>
    refine hall (commitOr_keeps hsame fun db' result hok => ?_)
    exact holdTrade_keepsHolds h hholdable hok
  | releaseTrade proposalId now =>
    cases hattempt : releaseTrade db proposalId now with
    | error e =>
      rw [cardStep, hattempt]
      have hfree : db.isHeld proposalId = false := releaseTrade_error hattempt
      refine ⟨h, iff_of_true ⟨hsame.keepsHeld, hholdable⟩ fun hheld => ?_⟩
      rw [hfree] at hheld
      cases hheld
    | ok result =>
      rw [cardStep, hattempt]
      obtain ⟨-, hproposals, -⟩ := releaseTrade_rows hattempt
      have hconsistent := releaseTrade_consistent h hattempt
      refine ⟨hconsistent, ?_⟩
      rw [← releaseTrade_holdable h hholdable hattempt]
      refine and_iff_right fun proposal hmem _ => ?_
      exact proposalStatus_of_mem hconsistent.proposalIds (hproposals ▸ hmem)
  | createCombinationRecipe =>
    refine hall (commitOr_keeps hsame fun db' result hok => ?_)
    obtain ⟨_, rfl⟩ := createCombinationRecipe_ok hok
    exact keepsHolds_of_same h hholdable rfl rfl
  | combineCards userId request idempotencyKey order draws now =>
    refine hall (commitOr_keeps hsame fun db' result hok => ?_)
    obtain ⟨_, _, _, _, _, -, rfl⟩ := combineCards_frame hok
    exact keepsHolds_of_same h hholdable rfl rfl
  | openCardPack =>
    refine hall (commitOr_keeps hsame fun db' result hok => ?_)
    obtain ⟨_, _, _, _, _, _, -, -, rfl⟩ := openCardPack_frame hok
    exact keepsHolds_of_same h hholdable rfl rfl
  | updateAdminCard =>
    refine hall (commitOr_keeps hsame fun db' result hok => ?_)
    obtain ⟨_, -, -, rfl⟩ := updateAdminCard_ok hok
    exact keepsHolds_of_same h hholdable rfl rfl

/-- From a database without holds, every pending proposal without an active hold can be put on
hold and every request leaves the proposals on hold alone, exactly in the runs that release no
pending proposal and show no overdue proposal that is on hold. -/
theorem holds_run (hids : (db.proposals.map (·.id)).Nodup) (hholds : db.holds = [])
    (acts : List CardAction) :
    Throughout cardStep CardDb.Holdable db acts ∧
      Always cardStep (fun db a => db.KeepsHeld (cardStep db a)) db acts ↔
    Always cardStep CardDb.HoldsRespected db acts := by
  have hconsistent : db.HoldsConsistent := ⟨hids, by simp [hholds]⟩
  have hholdable : db.Holdable := by
    rw [holdable_iff hids]
    simp [hholds]
  refine throughout_and_always_iff hconsistent hholdable ?_ ?_
  · intro db a h hholdable _
    exact (cardStep_holds h hholdable a).1
  · intro db a h hholdable
    exact (cardStep_holds h hholdable a).2

end Runs

/-- The trade is put on hold and released. -/
def releasedHold : List CardAction :=
  offeredCard ++ [.holdTrade tradeId, .releaseTrade tradeId 3]

/-- The recipient opens the inbox when the trade on hold is overdue. -/
def overdueHold : List CardAction :=
  offeredCard ++ [.holdTrade tradeId, .tradeInbox "fan_b" .received none (2 + days 7)]

/-- A released trade cannot be put on hold again, and the inbox expires a trade on hold. -/
theorem holds_fail :
    ¬Throughout cardStep CardDb.Holdable smallCatalogue releasedHold ∧
    ¬Always cardStep (fun db a => db.KeepsHeld (cardStep db a)) smallCatalogue overdueHold :=
  ⟨fun h => absurd h.last (by decide), by decide⟩

theorem holds_run_refused :
    Throughout cardStep CardDb.Holdable smallCatalogue
      (offeredCard ++ [.holdTrade tradeId, .rejectTrade tradeId "fan_b" 3]) ∧
    Always cardStep (fun db a => db.KeepsHeld (cardStep db a)) smallCatalogue
      (offeredCard ++ [.holdTrade tradeId, .rejectTrade tradeId "fan_b" 3]) :=
  (holds_run (by decide) rfl _).mpr
    ⟨trivial, trivial, trivial, trivial, trivial⟩

end Fanfolio
