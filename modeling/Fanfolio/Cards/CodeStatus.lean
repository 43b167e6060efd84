import Fanfolio.Cards.RedeemPreview
import Fanfolio.Cards.Redemption

/-!
# The status of a redeem code

The console shows a code with a status, and a redemption decides on its own whether to refuse it.
The two look at the same columns, in another order, and differ on the instant of expiry.
-/

namespace Fanfolio

open Framework

/-- The answers of `redeem_code_status`. -/
inductive RedeemCodeStatus where
  | active
  | disabled
  | expired
  | exhausted
deriving DecidableEq, Repr

/-- `redeem_code_status`; a time without a zone is in UTC. -/
def redeemCodeStatus (code : RedeemCode) (now : Time) : RedeemCodeStatus :=
  if code.disabledAt.isSome then .disabled
  else if code.expiresAt.any (· ≤ now) then .expired
  else if code.maxUses ≤ code.usedCount then .exhausted
  else .active

/-- The status that the refusal of a redemption stands for. -/
def Failure.refusedStatus (e : Failure) : Option RedeemCodeStatus :=
  if e.code = some "REDEEM_CODE_DISABLED" then some .disabled
  else if e.code = some "REDEEM_CODE_EXPIRED" then some .expired
  else if e.isUsedUp then some .exhausted
  else none

section

variable {Digest : Type}

/-- The code is disabled; or it does not expire up to now, and has no uses left or the fan holds no
copy of it; or it expired before, has uses left, and the fan holds no copy of it. -/
def StatusSettled (db : CardDb Digest) (userId : UserId) (code : RedeemCode) (now : Time) : Prop :=
  code.disabledAt ≠ none ∨
    ((∀ expiresAt ∈ code.expiresAt, now < expiresAt) ∧
      (code.maxUses ≤ code.usedCount ∨ db.ownsCardOf userId code.code = false)) ∨
    ((∃ expiresAt ∈ code.expiresAt, expiresAt < now) ∧ code.usedCount < code.maxUses ∧
      db.ownsCardOf userId code.code = false)

variable [RecordHash Digest] {db : CardDb Digest} {userId : UserId} {codeValue : CodeId}
  {acquisitionSource : String} {draws : RedeemDraws} {now : Time} {code : RedeemCode}

/-- The status for which a redemption refuses the code, if it does. -/
def redeemRefusal (db : CardDb Digest) (userId : UserId) (codeValue : CodeId)
    (acquisitionSource : String) (draws : RedeemDraws) (now : Time) : Option RedeemCodeStatus :=
  match redeem db userId codeValue acquisitionSource draws now with
  | .ok _ => none
  | .error e => e.refusedStatus

/-- The status is active exactly if the redemption does not refuse the code, and else it is the one
for which the redemption refuses it. -/
structure StatusAgrees (db : CardDb Digest) (userId : UserId) (codeValue : CodeId)
    (acquisitionSource : String) (draws : RedeemDraws) (now : Time) (code : RedeemCode) : Prop where
  active : redeemCodeStatus code now = .active ↔
    redeemRefusal db userId codeValue acquisitionSource draws now = none
  reason : redeemCodeStatus code now ≠ .active →
    redeemRefusal db userId codeValue acquisitionSource draws now =
      some (redeemCodeStatus code now)

theorem redeemRefusal_of_error {e : Failure}
    (h : redeem db userId codeValue acquisitionSource draws now = .error e) :
    redeemRefusal db userId codeValue acquisitionSource draws now = e.refusedStatus := by
  rw [redeemRefusal, h]

theorem Failure.refusedStatus_of_isUsedUp {e : Failure} (h : e.isUsedUp) :
    e.refusedStatus = some .exhausted := by
  cases e with
  | app e =>
    have hcode : e.code = "REDEEM_CODE_ALREADY_USED" ∨ e.code = "REDEEM_LIMIT_REACHED" := by
      simp only [Failure.isUsedUp, Bool.and_eq_true, Bool.or_eq_true, beq_iff_eq] at h
      exact h.2
    rw [Failure.refusedStatus, Failure.code, if_neg, if_neg, if_pos h]
    · rcases hcode with hcode | hcode <;> simp [hcode]
    · rcases hcode with hcode | hcode <;> simp [hcode]
  | integrity => cases h
  | unhandled => cases h

theorem redeemRefusal_disabled (hfound : db.findCode codeValue = some code)
    (hdisabled : code.disabledAt ≠ none) :
    redeemRefusal db userId codeValue acquisitionSource draws now = some .disabled :=
  redeemRefusal_of_error (bind_error.mpr (.inr ⟨code, orFail_ok.mpr hfound,
    bind_error.mpr (.inl (ensure_error.mpr ⟨hdisabled, rfl⟩))⟩))

/-- A code without uses left and a code of which the fan holds a copy are refused alike. -/
theorem redeemRefusal_exhausted (hfound : db.findCode codeValue = some code)
    (henabled : code.disabledAt = none)
    (hused : code.usedCount < code.maxUses → db.ownsCardOf userId code.code) :
    redeemRefusal db userId codeValue acquisitionSource draws now = some .exhausted := by
  have hrefused : refusedAsUsed db userId codeValue acquisitionSource draws now :=
    refusedAsUsed_iff.mpr ⟨code, hfound, henabled, hused⟩
  unfold refusedAsUsed at hrefused
  split at hrefused
  · cases hrefused
  · rename_i e he
    exact (redeemRefusal_of_error he).trans (Failure.refusedStatus_of_isUsedUp hrefused)

theorem redeemRefusal_expired (hfound : db.findCode codeValue = some code)
    (henabled : code.disabledAt = none) (hleft : code.usedCount < code.maxUses)
    (hheld : db.ownsCardOf userId code.code = false)
    (hexpired : ¬∀ expiresAt ∈ code.expiresAt, now ≤ expiresAt) :
    redeemRefusal db userId codeValue acquisitionSource draws now = some .expired :=
  redeemRefusal_of_error (bind_error.mpr (.inr ⟨code, orFail_ok.mpr hfound,
    bind_error.mpr (.inr ⟨(), ensure_ok.mpr henabled, bind_error.mpr (.inr ⟨(), ensure_ok.mpr hleft,
      bind_error.mpr (.inr ⟨(), ensure_ok.mpr hheld,
        bind_error.mpr (.inl (ensure_error.mpr ⟨hexpired, rfl⟩))⟩)⟩)⟩)⟩))

/-- What comes after the checks on the code refuses for other reasons. -/
theorem redeemRefusal_none (hfound : db.findCode codeValue = some code)
    (henabled : code.disabledAt = none) (hleft : code.usedCount < code.maxUses)
    (hheld : db.ownsCardOf userId code.code = false)
    (htime : ∀ expiresAt ∈ code.expiresAt, now ≤ expiresAt) :
    redeemRefusal db userId codeValue acquisitionSource draws now = none := by
  have hfails : FailsIn (·.refusedStatus = none)
      (redeem db userId codeValue acquisitionSource draws now) := by
    refine .bind_of (.orFail rfl) fun code' hcode' => ?_
    obtain rfl := Option.some.inj (hfound.symm.trans (orFail_ok.mp hcode'))
    refine .bind (.ensure_of henabled) fun _ => .bind (.ensure_of hleft) fun _ =>
      .bind (.ensure_of hheld) fun _ => .bind (.ensure_of htime) fun _ => ?_
    refine .bind (.orFail rfl) fun card => .bind (.ensure rfl) fun _ => .bind (.orFail rfl)
      fun drop => .bind (.ensure rfl) fun _ => .bind (.ensure (by decide)) fun _ => ?_
    refine .bind (grantUserCard_failsIn (P := (·.refusedStatus = none)) (fun _ => rfl) rfl _ _)
      fun granted => ?_
    exact .bind (recordEngagementEvent_failsIn (P := (·.refusedStatus = none)) (fun _ => rfl)
      _ _ _ _ _ _ _) fun _ => .pure _
  unfold redeemRefusal
  split
  · rfl
  · rename_i e he
    exact hfails e he

theorem statusAgrees_iff_refusal :
    StatusAgrees db userId codeValue acquisitionSource draws now code ↔
      redeemRefusal db userId codeValue acquisitionSource draws now =
        if redeemCodeStatus code now = .active then none
        else some (redeemCodeStatus code now) := by
  constructor
  · intro h
    split
    · exact h.active.mp ‹_›
    · exact h.reason ‹_›
  · intro h
    constructor
    · rw [h]
      by_cases hactive : redeemCodeStatus code now = .active
      · rw [if_pos hactive]
        exact iff_of_true hactive rfl
      · rw [if_neg hactive]
        exact iff_of_false hactive (Option.some_ne_none _)
    · intro hreason
      rw [h, if_neg hreason]

theorem redeemCodeStatus_of_enabled (henabled : code.disabledAt = none) :
    redeemCodeStatus code now =
      if ∀ expiresAt ∈ code.expiresAt, now < expiresAt then
        if code.usedCount < code.maxUses then .active else .exhausted
      else .expired := by
  have huses : (if code.maxUses ≤ code.usedCount then RedeemCodeStatus.exhausted else .active) =
      if code.usedCount < code.maxUses then .active else .exhausted := by
    by_cases hleft : code.usedCount < code.maxUses
    · rw [if_neg (not_le.mpr hleft), if_pos hleft]
    · rw [if_pos (not_lt.mp hleft), if_neg hleft]
  rw [redeemCodeStatus, if_neg (by simp [henabled]), huses]
  cases hexpiry : code.expiresAt with
  | none => simp
  | some expiresAt => by_cases h : now < expiresAt <;> simp [h]

/-- The status agrees with the redemption exactly if the two come to the same reason: they differ
at the instant of expiry, where a code has expired and is used up, and where the fan holds a copy
that was made through a code with uses left. -/
theorem statusAgrees_iff (hfound : db.findCode codeValue = some code) :
    StatusAgrees db userId codeValue acquisitionSource draws now code ↔
      StatusSettled db userId code now := by
  rw [statusAgrees_iff_refusal, StatusSettled]
  by_cases henabled : code.disabledAt = none
  · rw [redeemCodeStatus_of_enabled henabled]
    by_cases hvalid : ∀ expiresAt ∈ code.expiresAt, now < expiresAt
    · rw [if_pos hvalid]
      by_cases hleft : code.usedCount < code.maxUses
      · rw [if_pos hleft]
        cases hheld : db.ownsCardOf userId code.code with
        | true =>
          -- The code is active, and a fan who got a copy of it in a trade is refused.
          rw [redeemRefusal_exhausted hfound henabled fun _ => hheld]
          refine iff_of_false (by decide) ?_
          rintro (h | ⟨-, h | h⟩ | ⟨-, -, h⟩)
          · exact h henabled
          · exact not_le.mpr hleft h
          · cases h
          · cases h
        | false =>
          have htime : ∀ expiresAt ∈ code.expiresAt, now ≤ expiresAt := fun expiresAt hmem =>
            (hvalid expiresAt hmem).le
          rw [redeemRefusal_none hfound henabled hleft hheld htime]
          exact iff_of_true rfl (.inr (.inl ⟨hvalid, .inr rfl⟩))
      · rw [if_neg hleft, redeemRefusal_exhausted hfound henabled fun h => absurd h hleft]
        exact iff_of_true rfl (.inr (.inl ⟨hvalid, .inl (not_lt.mp hleft)⟩))
    · -- The status is expired: the redemption must come as far as the expiry, and find it past.
      rw [if_neg hvalid]
      by_cases hreached : code.usedCount < code.maxUses ∧ db.ownsCardOf userId code.code = false
      · by_cases htime : ∀ expiresAt ∈ code.expiresAt, now ≤ expiresAt
        · rw [redeemRefusal_none hfound henabled hreached.1 hreached.2 htime]
          refine iff_of_false (by decide) ?_
          rintro (h | ⟨h, -⟩ | ⟨⟨expiresAt, hmem, hlt⟩, -⟩)
          · exact h henabled
          · exact hvalid h
          · exact not_le.mpr hlt (htime expiresAt hmem)
        · rw [redeemRefusal_expired hfound henabled hreached.1 hreached.2 htime]
          have hlate : ∃ expiresAt ∈ code.expiresAt, expiresAt < now := by simpa using htime
          exact iff_of_true rfl (.inr (.inr ⟨hlate, hreached⟩))
      · have hused : code.usedCount < code.maxUses → db.ownsCardOf userId code.code := fun h =>
          Bool.of_not_eq_false fun hheld => hreached ⟨h, hheld⟩
        rw [redeemRefusal_exhausted hfound henabled hused]
        refine iff_of_false (by decide) ?_
        rintro (h | ⟨h, -⟩ | ⟨-, h⟩)
        · exact h henabled
        · exact hvalid h
        · exact hreached h
  · have hstatus : redeemCodeStatus code now = .disabled := by
      rw [redeemCodeStatus, if_pos (Option.isSome_iff_ne_none.mpr henabled)]
    rw [redeemRefusal_disabled hfound henabled, hstatus]
    exact iff_of_true rfl (.inl henabled)

end

/-- A batch is printed, and its code is set to expired at once. -/
def expiredAtOnce : List CardAction :=
  [.codeBatch upperBatch.toCodeBatchRequest true fun i => (oneSuffix i).val,
   .updateRedeemCode "PF-00000000AB" .expired 50]

def expiredCode : RedeemCode :=
  { code := "PF-00000000AB", cardId := "card", dropId := "drop", expiresAt := some 50 }

theorem statusAgrees_expiredCode :
    StatusAgrees (cardsAfter smallCatalogue expiredAtOnce) "fan_a" "PF-00000000AB" "redeem_code"
        ⟨⟨"uc_a", "ledger_a"⟩, "evt_a"⟩ 51 expiredCode ∧
      redeemCodeStatus expiredCode 51 = .expired :=
  ⟨(statusAgrees_iff (by decide)).mpr
    (.inr (.inr ⟨⟨50, rfl, by decide⟩, by decide, by decide⟩)), by decide⟩

/-- At the instant of expiry the console says that the code has expired, and a fan who never used
it gets its card. -/
theorem status_differs_atExpiry :
    Genesis smallCatalogue ∧
    (run loggedStep (smallCatalogue, []) expiredAtOnce).2 = [] ∧
    (cardsAfter smallCatalogue expiredAtOnce).findCode "PF-00000000AB" = some expiredCode ∧
    redeemCodeStatus expiredCode 50 = .expired ∧
    (∃ result, redeem (cardsAfter smallCatalogue expiredAtOnce) "fan_a" "PF-00000000AB"
      "redeem_code" ⟨⟨"uc_a", "ledger_a"⟩, "evt_a"⟩ 50 = .ok result) ∧
    ¬StatusAgrees (cardsAfter smallCatalogue expiredAtOnce) "fan_a" "PF-00000000AB" "redeem_code"
      ⟨⟨"uc_a", "ledger_a"⟩, "evt_a"⟩ 50 expiredCode := by
  have hredeemed : ∃ result, redeem (cardsAfter smallCatalogue expiredAtOnce) "fan_a"
      "PF-00000000AB" "redeem_code" ⟨⟨"uc_a", "ledger_a"⟩, "evt_a"⟩ 50 = .ok result := ⟨_, rfl⟩
  refine ⟨genesis_smallCatalogue, by decide, by decide, by decide, hredeemed, ?_⟩
  intro hagrees
  obtain ⟨result, hresult⟩ := hredeemed
  have hrefusal := hagrees.reason (by decide)
  rw [redeemRefusal, hresult] at hrefusal
  cases hrefusal

end Fanfolio
