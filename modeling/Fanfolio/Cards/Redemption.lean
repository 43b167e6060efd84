import Fanfolio.Cards.Issue

/-!
# Redeeming a code once

A redemption decides repeated use from the owner of the copy, the grant decides it from the
ledger, and a trade moves the one and not the other. A log of the redemptions tells where the
two part.
-/

namespace Fanfolio

open Framework

section Refusals

variable {Digest : Type} [RecordHash Digest] {db db' : CardDb Digest} {userId : UserId}
  {codeValue : CodeId} {acquisitionSource : String} {draws : RedeemDraws} {now : Time}

/-- The refusals of a code that the fan has used or that has no uses left. -/
def Failure.isUsedUp : Failure → Bool
  | .app e => e.statusCode == 409 &&
      (e.code == "REDEEM_CODE_ALREADY_USED" || e.code == "REDEEM_LIMIT_REACHED")
  | _ => false

def refusedAsUsed (db : CardDb Digest) (userId : UserId) (codeValue : CodeId)
    (acquisitionSource : String) (draws : RedeemDraws) (now : Time) : Bool :=
  match redeem db userId codeValue acquisitionSource draws now with
  | .ok _ => false
  | .error e => e.isUsedUp

/-- The computation never fails with a refusal of a used code. -/
abbrev NotUsedUp {α : Type} (x : Except Failure α) : Prop := FailsIn (·.isUsedUp = false) x

/-- A redemption is refused as used for a code without uses, or for a copy that the fan holds. -/
theorem refusedAsUsed_iff : refusedAsUsed db userId codeValue acquisitionSource draws now ↔
    ∃ code, db.findCode codeValue = some code ∧ code.disabledAt = none ∧
      (code.usedCount < code.maxUses → db.ownsCardOf userId code.code) := by
  constructor
  · intro hrefused
    unfold refusedAsUsed at hrefused
    split at hrefused
    · cases hrefused
    · rename_i e he
      rcases bind_error.mp he with hmissing | ⟨code, hfound, he⟩
      · rw [← (orFail_error.mp hmissing).2] at hrefused
        exact absurd hrefused (by decide)
      rcases bind_error.mp he with hdisabled | ⟨_, henabled, he⟩
      · rw [← (ensure_error.mp hdisabled).2] at hrefused
        exact absurd hrefused (by decide)
      refine ⟨code, orFail_ok.mp hfound, ensure_ok.mp henabled, fun hleft => ?_⟩
      rcases bind_error.mp he with hused | ⟨_, -, he⟩
      · exact absurd hleft (ensure_error.mp hused).1
      rcases bind_error.mp he with howned | ⟨_, -, he⟩
      · simpa using (ensure_error.mp howned).1
      have hlater : e.isUsedUp = false := by
        refine (?_ : NotUsedUp _) e he
        refine .bind (.ensure rfl) fun _ => .bind (.orFail rfl) fun card => .bind (.ensure rfl)
          fun _ => .bind (.orFail rfl) fun drop => .bind (.ensure rfl) fun _ => .bind (.ensure rfl)
          fun _ => .bind (grantUserCard_failsIn (P := (·.isUsedUp = false)) (fun _ => rfl) rfl _ _)
          fun granted => ?_
        exact .bind (recordEngagementEvent_failsIn (P := (·.isUsedUp = false)) (fun _ => rfl)
          _ _ _ _ _ _ _) fun _ => .pure _
      rw [hlater] at hrefused
      cases hrefused
  · rintro ⟨code, hfound, henabled, howned⟩
    have hrefused : ∃ e, redeem db userId codeValue acquisitionSource draws now = .error e ∧
        e.isUsedUp = true := by
      by_cases hleft : code.usedCount < code.maxUses
      · exact ⟨_, bind_error.mpr (.inr ⟨code, orFail_ok.mpr hfound,
          bind_error.mpr (.inr ⟨(), ensure_ok.mpr henabled,
            bind_error.mpr (.inr ⟨(), ensure_ok.mpr hleft,
              bind_error.mpr (.inl (ensure_error.mpr ⟨by simp [howned hleft], rfl⟩))⟩)⟩)⟩), rfl⟩
      · refine ⟨_, bind_error.mpr (.inr ⟨code, orFail_ok.mpr hfound,
          bind_error.mpr (.inr ⟨(), ensure_ok.mpr henabled,
            bind_error.mpr (.inl (ensure_error.mpr ⟨hleft, rfl⟩))⟩)⟩), ?_⟩
        by_cases hnone : code.maxUses = 0 <;> simp [Failure.isUsedUp, hnone]
    obtain ⟨e, he, hused⟩ := hrefused
    rw [refusedAsUsed, he]
    exact hused

end Refusals

section Log

variable {Digest : Type} {db db' : CardDb Digest}

/-- The number of copies that were created through a code. -/
def CardDb.redeemedCopies (db : CardDb Digest) (code : CodeId) : Nat :=
  db.userCards.countP (fun row => row.redeemCodeId == some code)

/-- Every code counts its copies, within its uses. -/
def CodesCounted (db : CardDb Digest) : Prop :=
  ∀ code ∈ db.codes, code.usedCount = db.redeemedCopies code.code ∧ code.usedCount ≤ code.maxUses

instance : Decidable (CodesCounted db) := inferInstanceAs (Decidable (∀ code ∈ db.codes, _))

def CardDb.isExhausted (db : CardDb Digest) (codeValue : CodeId) : Prop :=
  ∃ code, db.findCode codeValue = some code ∧ code.maxUses ≤ code.usedCount

/-- One copy was created for the fan, and one use counted. -/
structure CreatedOne (db db' : CardDb Digest) (userId : UserId) (codeValue : CodeId) : Prop where
  copy : ∃ userCard, db'.userCards = db.userCards ++ [userCard] ∧ userCard.userId = userId ∧
    userCard.redeemCodeId = some codeValue
  use : ∃ code, db.findCode codeValue = some code ∧
    db'.findCode codeValue = some { code with usedCount := code.usedCount + 1 }

variable [RecordHash Digest]

/-- The redemption that a request completes. -/
def redemptionOf (db : CardDb Digest) : CardAction → Option (UserId × CodeId)
  | .redeem userId codeValue acquisitionSource draws now =>
    match redeem db userId codeValue acquisitionSource draws now with
    | .ok _ => some (userId, codeValue)
    | .error _ => none
  | _ => none

/-- The database with the log of the redemptions so far. -/
abbrev LoggedDb (Digest : Type) := CardDb Digest × List (UserId × CodeId)

def loggedStep (s : LoggedDb Digest) (a : CardAction) : LoggedDb Digest :=
  (cardStep s.1 a, s.2 ++ (redemptionOf s.1 a).toList)

/-- A redemption that succeeds creates one copy, and one that is refused as used was made
before or finds the code exhausted. -/
def RedeemLawful (s : LoggedDb Digest) : CardAction → Prop
  | .redeem userId codeValue acquisitionSource draws now =>
    (∀ db' result, redeem s.1 userId codeValue acquisitionSource draws now = .ok (db', result) →
      CreatedOne s.1 db' userId codeValue) ∧
    (refusedAsUsed s.1 userId codeValue acquisitionSource draws now ↔
      (userId, codeValue) ∈ s.2 ∨ s.1.isExhausted codeValue)
  | _ => True

/-- A redemption of a code with uses left comes from a fan who holds a copy of the code exactly
if the fan redeemed it before; one of a disabled code, from a fan who did not, and the code has
uses left. -/
def RedeemsAsHeld (s : LoggedDb Digest) : CardAction → Prop
  | .redeem userId codeValue _ _ _ => ∀ code ∈ s.1.findCode codeValue,
    if code.disabledAt = none then
      code.usedCount < code.maxUses →
        (s.1.ownsCardOf userId codeValue ↔ (userId, codeValue) ∈ s.2)
    else (userId, codeValue) ∉ s.2 ∧ code.usedCount < code.maxUses
  | _ => True

/-- What every run keeps: the log is the grants of redemptions, and codes stay known. -/
structure LogKept (s : LoggedDb Digest) : Prop where
  trades : s.1.TradesConsistent
  codeIds : (s.1.codes.map (·.code)).Nodup
  granted : ∀ row ∈ s.1.grants, ∃ origin ∈ s.1.origins, origin.1 = row.userCardId
  log : ∀ userId codeValue, (userId, codeValue) ∈ s.2 ↔
    ∃ row ∈ s.1.grants, row.isGrant userId "redeem_code" codeValue
  coded : ∀ origin ∈ s.1.origins, ∀ codeValue ∈ origin.2.2, codeValue ∈ s.1.codes.map (·.code)
  known : ∀ entry ∈ s.2, entry.2 ∈ s.1.codes.map (·.code)

omit [RecordHash Digest] in
theorem findCode_some {codeValue : CodeId} {code : RedeemCode}
    (h : db.findCode codeValue = some code) : code ∈ db.codes ∧ code.code = codeValue :=
  ⟨List.mem_of_find?_eq_some h, by simpa using List.find?_some h⟩

omit [RecordHash Digest] in
/-- A source was granted before exactly if the ledger says so. -/
theorem grantedCard_isNone
    (hgranted : ∀ row ∈ db.grants, ∃ origin ∈ db.origins, origin.1 = row.userCardId)
    {userId : UserId} {sourceType sourceId : String} :
    db.grantedCard userId sourceType sourceId = none ↔
      ¬∃ row ∈ db.grants, row.isGrant userId sourceType sourceId := by
  rw [grantedCard_eq]
  cases hfind : db.grants.find? (·.isGrant userId sourceType sourceId) with
  | none =>
    refine iff_of_true rfl ?_
    rintro ⟨row, hrow, hgrant⟩
    exact List.find?_eq_none.mp hfind row hrow hgrant
  | some row =>
    have hrow := List.mem_of_find?_eq_some hfind
    refine iff_of_false ?_ fun hnot => hnot ⟨row, hrow, by simpa using List.find?_some hfind⟩
    obtain ⟨origin, horigin, hid⟩ := hgranted row hrow
    obtain ⟨userCard, huserCard, rfl⟩ := List.mem_map.mp horigin
    intro hnone
    have hmissing := List.find?_eq_none.mp (show db.findUserCard row.userCardId = none from hnone)
      userCard huserCard
    exact hmissing (beq_iff_eq.mpr hid)

omit [RecordHash Digest] in
theorem LogKept.notGranted {s : LoggedDb Digest} (h : LogKept s) {userId : UserId}
    {codeValue : CodeId} :
    s.1.grantedCard userId "redeem_code" codeValue = none ↔ (userId, codeValue) ∉ s.2 := by
  rw [grantedCard_isNone h.granted, h.log]

/-- A redemption grants under its code; the other requests grant under no code. -/
theorem redemptionOf_cases (db : CardDb Digest) (a : CardAction) :
    (redemptionOf db a = none ∧
      ∀ request ∈ issuedBy db a, request.sourceType ≠ "redeem_code" ∧ request.redeemCodeId = none) ∨
    ∃ userId codeValue request, redemptionOf db a = some (userId, codeValue) ∧
      codeValue ∈ db.codes.map (·.code) ∧ issuedBy db a = db.newGrant (some request) ∧
      request.userId = userId ∧ request.sourceType = "redeem_code" ∧
      request.sourceId = codeValue ∧ request.redeemCodeId = some codeValue := by
  cases a with
  | redeem userId codeValue acquisitionSource draws now =>
    cases hok : redeem db userId codeValue acquisitionSource draws now with
    | error e => exact .inl (by simp [redemptionOf, issuedBy, hok])
    | ok result =>
      obtain ⟨code, granted, userCard, hredeemed⟩ := redeem_ok hok
      obtain ⟨card, drop, hcard, hdrop, -⟩ := hredeemed.grant
      obtain ⟨hmem, hid⟩ := findCode_some hredeemed.found
      refine .inr ⟨userId, codeValue, redeemGrant userId code card drop acquisitionSource, ?_,
        hid ▸ List.mem_map_of_mem hmem, ?_, rfl, rfl, hid, by rw [← hid]; rfl⟩
      · rw [redemptionOf, hok]
      · rw [issuedBy, hok, CardDb.redeemRequest, hredeemed.found]
        simp [hcard, hdrop]
  | combineCards userId request idempotencyKey order draws now =>
    refine .inl ⟨rfl, ?_⟩
    intro grant hgrant
    cases issuedFor_of_issuedBy hgrant
    exact ⟨by simp [combinationGrant], rfl⟩
  | openCardPack userId packId idempotencyKey draws now =>
    refine .inl ⟨rfl, ?_⟩
    intro grant hgrant
    cases issuedFor_of_issuedBy hgrant
    exact ⟨by simp [openingGrant], rfl⟩
  | _ => exact .inl ⟨rfl, by intro request h; cases h⟩

omit [RecordHash Digest] in
/-- Codes are only added, under new values. -/
theorem CodesStep.codeIds {a : CardAction} {codes : List RedeemCode} (h : CodesStep db a codes)
    (hids : (db.codes.map (·.code)).Nodup) :
    (codes.map (·.code)).Nodup ∧ ∀ codeValue ∈ db.codes.map (·.code),
      codeValue ∈ codes.map (·.code) := by
  cases h with
  | same => exact ⟨hids, fun _ h => h⟩
  | used code =>
    have hsame : (db.countUse code).codes.map (·.code) = db.codes.map (·.code) :=
      map_patch (by intro _; rfl) _
    rw [hsame]
    exact ⟨hids, fun _ h => h⟩
  | issued hnodup =>
    refine ⟨hnodup, fun codeValue hmem => ?_⟩
    rw [List.map_append]
    exact List.mem_append_left _ hmem
  | @updated codeId status now code =>
    have hsame : (patch (·.code == code) (status.update now) db.codes).map (·.code) =
        db.codes.map (·.code) := by
      refine map_patch ?_ _
      intro row
      cases status <;> rfl
    rw [hsame]
    exact ⟨hids, fun _ h => h⟩

/-- What a request does to the copies, the grants and the log together. -/
inductive LoggedEffect (s s' : LoggedDb Digest) : Prop
  | quiet (h : NoCopy s.1 s'.1) (hlog : ∀ entry, entry ∈ s'.2 ↔ entry ∈ s.2)
  | made {userCardId : UserCardId} {cardId : CardId} {row : CardOwnershipLedger Digest}
      (entry : Option (UserId × CodeId))
      (horigins : s'.1.origins = s.1.origins ++ [(userCardId, cardId, entry.map Prod.snd)])
      (hgrants : s'.1.grants = s.1.grants ++ [row]) (hid : row.userCardId = userCardId)
      (hrow : ∀ userId codeValue,
        row.isGrant userId "redeem_code" codeValue ↔ (userId, codeValue) ∈ entry)
      (hlog : s'.2 = s.2 ++ entry.toList)
      (hknown : ∀ e ∈ entry, e.2 ∈ s.1.codes.map (·.code))

theorem LogKept.effect {s : LoggedDb Digest} (h : LogKept s) (a : CardAction) :
    LoggedEffect s (loggedStep s a) := by
  have hcopying := (cardStep_effect h.trades a).copying
  rcases redemptionOf_cases s.1 a with ⟨hnone, hother⟩ |
    ⟨userId, codeValue, request, hredeemed, hknown, hissued, rfl, hsource, rfl, hcode⟩
  · generalize issuedBy s.1 a = issued at hcopying hother
    cases hcopying with
    | quiet hquiet => exact .quiet hquiet (by simp [loggedStep, hnone])
    | made hmade =>
      obtain ⟨hnotCode, hnoCode⟩ := hother _ rfl
      obtain ⟨userCardId, row, horigins, hgrants, hid, hgrant⟩ := hmade.made
      rw [hnoCode] at horigins
      refine .made none horigins hgrants hid ?_ (by simp [loggedStep, hnone]) (by simp)
      intro userId codeValue
      simp only [CardOwnershipLedger.isGrant, Bool.and_eq_true, beq_iff_eq] at hgrant
      simp [CardOwnershipLedger.isGrant, hgrant.1.2, hnotCode]
  · rw [hissued, CardDb.newGrant] at hcopying
    by_cases hgranted : s.1.grantedCard request.userId request.sourceType request.sourceId = none
    · rw [Option.filter_some_pos (by simp [hgranted])] at hcopying
      cases hcopying with
      | made hmade =>
        obtain ⟨userCardId, row, horigins, hgrants, hid, hgrant⟩ := hmade.made
        rw [hcode] at horigins
        refine .made (some (request.userId, request.sourceId)) horigins hgrants hid ?_
          (by simp [loggedStep, hredeemed]) (by simpa using hknown)
        intro userId codeValue
        simp only [CardOwnershipLedger.isGrant, Bool.and_eq_true, beq_iff_eq] at hgrant ⊢
        rw [hgrant.1.1.1, hgrant.1.1.2, hgrant.1.2, hgrant.2, hsource]
        simp [eq_comm]
    · obtain ⟨existing, hexisting⟩ := Option.ne_none_iff_exists'.mp hgranted
      rw [Option.filter_some_neg (by simp [hexisting])] at hcopying
      cases hcopying with
      | quiet hquiet =>
        rw [hsource, h.notGranted, not_not] at hgranted
        refine .quiet hquiet fun entry => ?_
        simp only [loggedStep, hredeemed, Option.toList_some, List.mem_append, List.mem_singleton]
        exact ⟨fun hentry => hentry.elim id fun heq => heq ▸ hgranted, .inl⟩

theorem LogKept.step {s : LoggedDb Digest} (h : LogKept s) (a : CardAction) :
    LogKept (loggedStep s a) := by
  have htrades : (loggedStep s a).1.TradesConsistent := h.trades.step a
  have hcodeIds := (cardStep_effect h.trades a).codes.codeIds h.codeIds
  have hids : ((loggedStep s a).1.codes.map (·.code)).Nodup := hcodeIds.1
  have hcodes : ∀ codeValue ∈ s.1.codes.map (·.code),
      codeValue ∈ (loggedStep s a).1.codes.map (·.code) := hcodeIds.2
  have heffect := h.effect a
  generalize loggedStep s a = s' at htrades hids hcodes heffect
  cases heffect with
  | quiet hquiet hlog =>
    refine ⟨htrades, hids, ?_, ?_, ?_, ?_⟩
    · rw [hquiet.grants, hquiet.origins]
      exact h.granted
    · intro userId codeValue
      rw [hlog, h.log, hquiet.grants]
    · rw [hquiet.origins]
      exact fun origin horigin codeValue hcode =>
        hcodes codeValue (h.coded origin horigin codeValue hcode)
    · exact fun entry hentry => hcodes entry.2 (h.known entry ((hlog entry).mp hentry))
  | made entry horigins hgrants hid hrow hlog hknown =>
    refine ⟨htrades, hids, ?_, ?_, ?_, ?_⟩
    · rw [hgrants, horigins]
      intro row' hrow'
      rcases List.mem_append.mp hrow' with hold | hnew
      · obtain ⟨origin, horigin, heq⟩ := h.granted row' hold
        exact ⟨origin, List.mem_append_left _ horigin, heq⟩
      · rw [List.mem_singleton.mp hnew]
        exact ⟨_, List.mem_append_right _ (List.mem_singleton_self _), hid.symm⟩
    · intro userId codeValue
      simp only [hlog, hgrants, List.mem_append, h.log, List.mem_singleton, or_and_right, exists_or,
        exists_eq_left, hrow, Option.mem_toList, Option.mem_def]
    · rw [horigins]
      intro origin horigin codeValue hcode
      rcases List.mem_append.mp horigin with hold | hnew
      · exact hcodes codeValue (h.coded origin hold codeValue hcode)
      · rw [List.mem_singleton.mp hnew] at hcode
        obtain ⟨e, he, rfl⟩ := Option.map_eq_some_iff.mp hcode
        exact hcodes e.2 (hknown e he)
    · intro e he
      rw [hlog] at he
      rcases List.mem_append.mp he with hold | hnew
      · exact hcodes e.2 (h.known e hold)
      · exact hcodes e.2 (hknown e (Option.mem_toList.mp hnew))

omit [RecordHash Digest] in
theorem redeemedCopies_eq (db : CardDb Digest) (code : CodeId) :
    db.redeemedCopies code = db.origins.countP (fun origin => origin.2.2 == some code) := by
  rw [CardDb.origins, List.countP_map]
  rfl

/-- A redemption that succeeds creates one copy unless it was made before. -/
theorem LogKept.createdOne_iff {s : LoggedDb Digest} (h : LogKept s) {userId : UserId}
    {codeValue : CodeId} {acquisitionSource : String} {draws : RedeemDraws} {now : Time}
    {result : Redemption}
    (hok : redeem s.1 userId codeValue acquisitionSource draws now = .ok (db', result)) :
    CreatedOne s.1 db' userId codeValue ↔ (userId, codeValue) ∉ s.2 := by
  obtain ⟨code, granted, userCard, hredeemed⟩ := redeem_ok hok
  obtain ⟨card, drop, hcard, hdrop, hgrant⟩ := hredeemed.grant
  obtain ⟨events, rfl⟩ := hredeemed.after
  obtain ⟨-, hid⟩ := findCode_some hredeemed.found
  rw [← h.notGranted]
  rcases grantUserCard_ok hgrant with ⟨rfl, hsome⟩ | hissued
  · have hgranted : s.1.grantedCard userId "redeem_code" codeValue = some userCard := by
      rw [← hid]
      exact hsome
    refine iff_of_false ?_ (by simp [hgranted])
    rintro ⟨⟨userCard', happend, -⟩, -⟩
    exact absurd (congrArg List.length happend) (by simp [CardDb.countUse])
  · have hnone : s.1.grantedCard userId "redeem_code" codeValue = none := by
      rw [← hid]
      exact hissued.notGranted
    refine iff_of_true ⟨⟨userCard, ?_, ?_, ?_⟩, code, hredeemed.found, ?_⟩ hnone
    · rw [hissued.after]
      rfl
    · rw [hissued.row]
      rfl
    · rw [hissued.row, ← hid]
      rfl
    · have hfound := hredeemed.found
      rw [CardDb.findCode] at hfound
      rw [hissued.after, CardDb.findCode]
      show (patch _ _ s.1.codes).find? _ = _
      rw [find_patch (by intro _; rfl), hfound]
      simp

/-- A redemption is lawful exactly if the fan holds a copy of the code just when it was made
before. -/
theorem LogKept.redeemLawful_iff {s : LoggedDb Digest} (h : LogKept s) (a : CardAction) :
    RedeemLawful s a ↔ RedeemsAsHeld s a := by
  cases a with
  | redeem userId codeValue acquisitionSource draws now =>
    have hcreated : (∀ db' result,
        redeem s.1 userId codeValue acquisitionSource draws now = .ok (db', result) →
          CreatedOne s.1 db' userId codeValue) ↔
        ∀ db' result, redeem s.1 userId codeValue acquisitionSource draws now = .ok (db', result) →
          (userId, codeValue) ∉ s.2 := by
      refine forall_congr' fun db' => forall_congr' fun result => ?_
      exact imp_congr_right fun hok => h.createdOne_iff hok
    simp only [RedeemLawful, RedeemsAsHeld, hcreated, refusedAsUsed_iff, CardDb.isExhausted]
    cases hfind : s.1.findCode codeValue with
    | none =>
      have hunknown : (userId, codeValue) ∉ s.2 := by
        intro hmem
        obtain ⟨code, hcode, hid⟩ := List.mem_map.mp (h.known _ hmem)
        exact List.find?_eq_none.mp hfind code hcode (beq_iff_eq.mpr hid)
      simp [hunknown]
    | some code =>
      obtain ⟨-, hid⟩ := findCode_some hfind
      have hok : ∀ db' result,
          redeem s.1 userId codeValue acquisitionSource draws now = .ok (db', result) →
          code.disabledAt = none ∧ code.usedCount < code.maxUses ∧
            s.1.ownsCardOf userId codeValue = false := by
        intro db' result hok
        obtain ⟨code', granted, userCard, hredeemed⟩ := redeem_ok hok
        obtain rfl := Option.some.inj (hfind.symm.trans hredeemed.found)
        exact ⟨hredeemed.enabled, hredeemed.left, by rw [← hid]; exact hredeemed.notOwned⟩
      simp only [Option.some.injEq, exists_eq_left', Option.mem_some, forall_eq', hid, ← not_lt]
      by_cases henabled : code.disabledAt = none <;>
        by_cases hleft : code.usedCount < code.maxUses <;>
          cases howns : s.1.ownsCardOf userId codeValue <;>
            simp_all
  | _ => exact iff_of_true trivial trivial

omit [RecordHash Digest] in
/-- A code that is not known has no copies. -/
theorem redeemedCopies_unknown
    (hcoded : ∀ origin ∈ db.origins, ∀ codeValue ∈ origin.2.2, codeValue ∈ db.codes.map (·.code))
    {codeValue : CodeId} (hunknown : codeValue ∉ db.codes.map (·.code)) :
    db.redeemedCopies codeValue = 0 := by
  rw [redeemedCopies_eq, List.countP_eq_zero]
  intro origin horigin heq
  exact hunknown (hcoded origin horigin codeValue (beq_iff_eq.mp heq))

omit [RecordHash Digest] in
/-- A request that redeems nothing counts no use, and new codes have no copies. -/
theorem CodesStep.counted {a : CardAction} {codes : List RedeemCode} (h : CodesStep db a codes)
    (hother : ∀ userId codeValue acquisitionSource draws now,
      a ≠ .redeem userId codeValue acquisitionSource draws now)
    (hcoded : ∀ origin ∈ db.origins, ∀ codeValue ∈ origin.2.2, codeValue ∈ db.codes.map (·.code))
    (hcounted : CodesCounted db) : ∀ code ∈ codes,
      code.usedCount = db.redeemedCopies code.code ∧ code.usedCount ≤ code.maxUses := by
  cases h with
  | same => exact hcounted
  | used => exact absurd rfl (hother _ _ _ _ _)
  | @issued payload _ draw expiresAt hnodup =>
    intro code hcode
    rcases List.mem_append.mp hcode with hold | hnew
    · exact hcounted code hold
    · rw [List.map_append, List.nodup_append] at hnodup
      have hunknown : code.code ∉ db.codes.map (·.code) :=
        fun hknown => hnodup.2.2 _ hknown _ (List.mem_map_of_mem hnew) rfl
      obtain ⟨i, -, rfl⟩ := List.mem_map.mp hnew
      rw [redeemedCopies_unknown hcoded hunknown]
      exact ⟨rfl, Nat.zero_le _⟩
  | updated =>
    intro code hcode
    obtain ⟨row, hrow, rfl⟩ := mem_patch.mp hcode
    split
    · rename_i status _ _ _
      cases status <;> exact hcounted row hrow
    · exact hcounted row hrow

omit [RecordHash Digest] in
theorem CreatedOne.redeemedCopies {userId : UserId} {codeValue : CodeId}
    (h : CreatedOne db db' userId codeValue) (code : CodeId) :
    db'.redeemedCopies code = db.redeemedCopies code + if codeValue = code then 1 else 0 := by
  obtain ⟨userCard, happend, -, hcode⟩ := h.copy
  rw [CardDb.redeemedCopies, happend, List.countP_append, List.countP_singleton, hcode,
    CardDb.redeemedCopies]
  simp

/-- A redemption that creates one copy keeps the counts. -/
theorem CodesCounted.redeemed {userId : UserId} {codeValue : CodeId} {acquisitionSource : String}
    {draws : RedeemDraws} {now : Time} {result : Redemption} (hcounted : CodesCounted db)
    (hids : (db.codes.map (·.code)).Nodup)
    (hok : redeem db userId codeValue acquisitionSource draws now = .ok (db', result))
    (hcreated : CreatedOne db db' userId codeValue) : CodesCounted db' := by
  obtain ⟨code, granted, userCard, hredeemed⟩ := redeem_ok hok
  obtain ⟨card, drop, -, -, hgrant⟩ := hredeemed.grant
  obtain ⟨events, hafter⟩ := hredeemed.after
  obtain ⟨hmem, rfl⟩ := findCode_some hredeemed.found
  have hcodes : db'.codes = (db.countUse code).codes := by
    rw [hafter]
    exact (grantUserCard_copying hgrant).2.2
  intro row hrow
  rw [hcodes] at hrow
  obtain ⟨row', hrow', rfl⟩ := mem_patch.mp hrow
  obtain ⟨hcount, hmax⟩ := hcounted row' hrow'
  by_cases hsame : row'.code = code.code
  · obtain rfl := eq_of_unique hids hrow' hmem hsame
    simpa [hcreated.redeemedCopies, ← hcount] using Nat.succ_le_of_lt hredeemed.left
  · simpa [hsame, hcreated.redeemedCopies, Ne.symm hsame] using ⟨hcount, hmax⟩

/-- A request that redeems nothing creates no copy under a code. -/
theorem otherRequest_redeemedCopies (htrades : db.TradesConsistent) {a : CardAction}
    (hother : ∀ userId codeValue acquisitionSource draws now,
      a ≠ .redeem userId codeValue acquisitionSource draws now) (code : CodeId) :
    (cardStep db a).redeemedCopies code = db.redeemedCopies code := by
  have hcopying := (cardStep_effect htrades a).copying
  have huncoded : ∀ request ∈ issuedBy db a, request.redeemCodeId = none := by
    rcases redemptionOf_cases db a with ⟨-, hrequest⟩ | ⟨_, _, _, hredeemed, -⟩
    · exact fun request hmem => (hrequest request hmem).2
    · cases a with
      | redeem => exact absurd rfl (hother _ _ _ _ _)
      | _ => cases hredeemed
  generalize issuedBy db a = issued at hcopying huncoded
  rw [redeemedCopies_eq, redeemedCopies_eq]
  cases hcopying with
  | quiet hquiet => rw [hquiet.origins]
  | made hmade =>
    obtain ⟨userCardId, row, horigins, -⟩ := hmade.made
    rw [horigins, List.countP_append, huncoded _ rfl]
    simp

theorem LogKept.counted {s : LoggedDb Digest} (h : LogKept s) (hcounted : CodesCounted s.1)
    {a : CardAction} (hlawful : RedeemLawful s a) : CodesCounted (loggedStep s a).1 := by
  show CodesCounted (cardStep s.1 a)
  by_cases hredeem : ∃ userId codeValue acquisitionSource draws now,
      a = .redeem userId codeValue acquisitionSource draws now
  · obtain ⟨userId, codeValue, acquisitionSource, draws, now, rfl⟩ := hredeem
    exact commitOr_keeps hcounted fun db' result hok =>
      hcounted.redeemed h.codeIds hok (hlawful.1 db' result hok)
  · simp only [not_exists] at hredeem
    intro code hcode
    rw [otherRequest_redeemedCopies h.trades hredeem]
    exact (cardStep_effect h.trades a).codes.counted hredeem h.coded hcounted code hcode

/-- A run redeems lawfully, and its codes count their copies, exactly when every redemption
comes from a fan who holds a copy of the code just when the fan redeemed it before. -/
theorem redemptions_lawful_iff (h : Genesis db) (acts : List CardAction) :
    (Always loggedStep RedeemLawful (db, []) acts ∧
      Throughout loggedStep (fun s => CodesCounted s.1) (db, []) acts) ↔
      Always loggedStep RedeemsAsHeld (db, []) acts := by
  have hkept : LogKept (db, []) := by
    refine ⟨h.tradesConsistent, h.codeIds, ?_, ?_, ?_, ?_⟩ <;>
      simp [CardDb.grants, CardDb.origins, h.ledger, h.userCards]
  have hcounted : CodesCounted db := by
    intro code hcode
    simp [h.unused code hcode, CardDb.redeemedCopies, h.userCards]
  have hlaw : Always loggedStep RedeemLawful (db, []) acts ↔
      Always loggedStep RedeemsAsHeld (db, []) acts :=
    always_congr_of_invariant hkept (fun s a hs => hs.redeemLawful_iff a)
      fun s a hs _ => hs.step a
  constructor
  · rintro ⟨hlawful, -⟩
    exact hlaw.mp hlawful
  · intro hheld
    refine ⟨hlaw.mpr hheld, ?_⟩
    have hthrough := (hlaw.mpr hheld).throughout
      (I := fun s : LoggedDb Digest => LogKept s ∧ CodesCounted s.1) ⟨hkept, hcounted⟩
      fun s a hs hlawful => ⟨hs.1.step a, hs.1.counted hs.2 hlawful⟩
    exact hthrough.imp fun s hs => hs.2

end Log

/-- A fan redeems a code, trades the copy away and redeems the code again. -/
def redeemedAgain : List CardAction :=
  [.redeem "fan_a" "CODE" "redeem_code" ⟨⟨"uc_a", "ledger_a"⟩, "evt_a"⟩ 1,
   .createTrade "fan_a" oneCardOffer tradeId 2,
   .acceptTrade tradeId "fan_b" []
     ⟨fun id => "transfer_" ++ id, "evt_proposer", "evt_recipient"⟩ 3,
   .redeem "fan_a" "CODE" "redeem_code" ⟨⟨"uc_b", "ledger_b"⟩, "evt_b"⟩ 4]

instance (s : LoggedDb SymbolicDigest) (a : CardAction) : Decidable (RedeemsAsHeld s a) := by
  cases a <;> unfold RedeemsAsHeld <;> infer_instance

theorem redemptions_lawful_offeredCard :
    Always loggedStep RedeemLawful (smallCatalogue, []) offeredCard ∧
      Throughout loggedStep (fun s => CodesCounted s.1) (smallCatalogue, []) offeredCard :=
  (redemptions_lawful_iff genesis_smallCatalogue offeredCard).mpr (by decide)

/-- The second redemption of the fan counts a use and creates no copy; the recipient of the
trade, who redeemed nothing, is refused as having used a code that has a use left. -/
theorem redemptions_unlawful_redeemedAgain : Genesis smallCatalogue ∧
    (run loggedStep (smallCatalogue, []) redeemedAgain).2 =
      [("fan_a", "CODE"), ("fan_a", "CODE")] ∧
    ((cardsAfter smallCatalogue redeemedAgain).findCode "CODE").map (·.usedCount) = some 2 ∧
    (cardsAfter smallCatalogue redeemedAgain).redeemedCopies "CODE" = 1 ∧
    ¬CodesCounted (cardsAfter smallCatalogue redeemedAgain) ∧
    refusedAsUsed (cardsAfter smallCatalogue redeemedAgain) "fan_b" "CODE" "redeem_code"
      ⟨⟨"uc_c", "ledger_c"⟩, "evt_c"⟩ 5 = true ∧
    ((cardsAfter smallCatalogue redeemedAgain).findCode "CODE").map (·.maxUses) = some 3 :=
  ⟨genesis_smallCatalogue, by decide, by decide, by decide, by decide, by decide, by decide⟩

end Fanfolio
