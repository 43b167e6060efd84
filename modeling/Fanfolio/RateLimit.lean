import Fanfolio.Framework.SlidingWindow
import Fanfolio.Framework.Run
import Fanfolio.Schema
import Mathlib.Algebra.Order.Floor.Ring
import Mathlib.Data.Rat.Floor
import Mathlib.Tactic.Linarith

/-!
# The limiter of a single process

The timestamps of the requests that were let through are kept for each key as long as they lie in
the window. A refused caller is told how many seconds to wait: the fraction of a second that is left
over is cut off, so that a caller who waits as told can be refused once more.
-/

namespace Fanfolio

open Framework

variable {T : Type*} [Field T] [LinearOrder T]

/-- `int` of a number: towards zero. -/
def truncated [FloorRing T] (t : T) : ℤ := if 0 ≤ t then ⌊t⌋ else ⌈t⌉

/-- `_windows`. -/
abbrev RateWindows (T : Type*) := String → List T

/-- What a call site asks for. -/
structure RateLimit where
  limit : ℕ
  windowSeconds : ℕ
deriving DecidableEq, Repr

/-- How the limiter answers: it returns, raises the `AppError`, or raises something else. -/
inductive RateAnswer where
  | accepted
  | limited (retryAfter : ℤ)
  | failed (exception : String)
deriving DecidableEq, Repr

/-- What is raised. -/
def RateAnswer.raised : RateAnswer → Option Failure
  | .accepted => none
  | .limited retryAfter => some (.app ⟨429, "RATE_LIMITED",
      "요청이 너무 많습니다. " ++ toString retryAfter ++ "초 후 다시 시도해 주세요."⟩)
  | .failed exception => some (.unhandled exception)

/-- `_enforce_memory_limit`. -/
def enforceMemoryLimit [FloorRing T] (windows : RateWindows T) (key : String)
    (limit windowSeconds : ℕ) (now : T) : RateAnswer × RateWindows T :=
  let timestamps := recent (windowSeconds : T) now (windows key)
  if limit ≤ timestamps.length then
    match timestamps with
    | [] => (.failed "IndexError", windows)
    | oldest :: newer =>
      (.limited (max 1 (truncated (oldest + windowSeconds - now))),
        Function.update windows key (oldest :: newer))
  else (.accepted, Function.update windows key (timestamps ++ [now]))

/-- A request, with the clock it reads. -/
structure RateRequest (T : Type*) where
  key : String
  now : T
deriving DecidableEq, Repr

section

variable [FloorRing T] (limits : String → RateLimit)

/-- The timestamps that a request finds in its window. -/
def RateRequest.found (windows : RateWindows T) (request : RateRequest T) : List T :=
  recent ((limits request.key).windowSeconds : T) request.now (windows request.key)

def rateStep (windows : RateWindows T) (request : RateRequest T) : RateWindows T :=
  (enforceMemoryLimit windows request.key (limits request.key).limit
    (limits request.key).windowSeconds request.now).2

def rateAnswer (windows : RateWindows T) (request : RateRequest T) : RateAnswer :=
  (enforceMemoryLimit windows request.key (limits request.key).limit
    (limits request.key).windowSeconds request.now).1

/-- The clock of each request for the key that is let through. -/
def acceptedTimes (key : String) : RateWindows T → List (RateRequest T) → List T
  | _, [] => []
  | windows, request :: requests =>
    (if request.key = key ∧ rateAnswer limits windows request = .accepted then [request.now]
      else []) ++ acceptedTimes key (rateStep limits windows request) requests

/-- Of the requests for a key, the limiter lets at most the limit through in any window. -/
def WithinLimit (key : String) (accepted : List T) : Prop :=
  ∀ a : T,
    (accepted.filter fun t => a ≤ t ∧ t < a + (limits key).windowSeconds).length
        ≤ (limits key).limit ∧
      (accepted.filter fun t => a < t ∧ t ≤ a + (limits key).windowSeconds).length
        ≤ (limits key).limit

/-- The window before a request holds as many accepted requests as the limit allows. -/
def WindowFull (request : RateRequest T) (accepted : List T) : Prop :=
  (accepted.filter fun t => request.now - (limits request.key).windowSeconds < t ∧
    t ≤ request.now).length = (limits request.key).limit

/-- A caller who is refused and waits as told is let through. -/
def RetryAccepted (windows : RateWindows T) (request : RateRequest T) : Prop :=
  ∀ retryAfter, rateAnswer limits windows request = .limited retryAfter →
    ∀ others : List (RateRequest T), (∀ other ∈ others, other.key ≠ request.key) →
      rateAnswer limits (run (rateStep limits) (rateStep limits windows request) others)
        { request with now := request.now + retryAfter } = .accepted

/-- Where the window is full, its oldest timestamp leaves it within a second, or after a whole
number of seconds. -/
def WholeWait (windows : RateWindows T) (request : RateRequest T) : Prop :=
  ∀ oldest newer, request.found limits windows = oldest :: newer →
    (limits request.key).limit ≤ newer.length + 1 →
      oldest + (limits request.key).windowSeconds - request.now ≤ 1 ∨
        ∃ seconds : ℤ, oldest + (limits request.key).windowSeconds - request.now = seconds

end

/-- The clock does not go back. -/
def ClockInOrder (requests : List (RateRequest T)) : Prop :=
  requests.Pairwise fun earlier later => earlier.now ≤ later.now

section

variable {rule : RateLimit} {clock now later : T} {kept accepted : List T}

/-- What is kept for a key stands for all requests that were let through: later requests find
the same of both in their window. -/
structure Kept (rule : RateLimit) (clock : T) (kept accepted : List T) : Prop where
  agrees : ∀ now, clock ≤ now →
    recent (rule.windowSeconds : T) now kept = recent (rule.windowSeconds : T) now accepted
  sorted : kept.Pairwise (· ≤ ·)
  past : ∀ t ∈ accepted, t ≤ clock
  spaced : Spaced rule.limit (rule.windowSeconds : T) accepted

namespace Kept

theorem nil : Kept rule clock [] [] := ⟨fun _ _ => rfl, .nil, by simp, spaced_nil⟩

theorem after (h : Kept rule clock kept accepted) (hlater : clock ≤ later) :
    Kept rule later kept accepted :=
  ⟨fun now hnow => h.agrees now (hlater.trans hnow), h.sorted,
    fun t ht => (h.past t ht).trans hlater, h.spaced⟩

theorem found_le (h : Kept rule clock kept accepted) (hnow : clock ≤ now) :
    ∀ t ∈ recent (rule.windowSeconds : T) now kept, t ≤ now := by
  intro t ht
  rw [h.agrees now hnow] at ht
  exact (h.past t (mem_recent.mp ht).1).trans hnow

/-- The window of a request, among all requests that were let through. -/
theorem found_eq (h : Kept rule clock kept accepted) (hnow : clock ≤ now) :
    recent (rule.windowSeconds : T) now kept =
      accepted.filter fun t => now - rule.windowSeconds < t ∧ t ≤ now := by
  rw [h.agrees now hnow]
  refine List.filter_congr fun t ht => ?_
  simp [(h.past t ht).trans hnow]

variable [IsStrictOrderedRing T]

theorem refuse (h : Kept rule clock kept accepted) (hnow : clock ≤ now) :
    Kept rule now (recent (rule.windowSeconds : T) now kept) accepted where
  agrees later hlater := by rw [recent_recent hlater, h.agrees later (hnow.trans hlater)]
  sorted := h.sorted.sublist recent_sublist
  past := (h.after hnow).past
  spaced := h.spaced

theorem accept (h : Kept rule clock kept accepted) (hnow : clock ≤ now)
    (hfew : (recent (rule.windowSeconds : T) now kept).length < rule.limit) :
    Kept rule now (recent (rule.windowSeconds : T) now kept ++ [now]) (accepted ++ [now]) where
  agrees later hlater := by
    rw [recent_append, recent_append, (h.refuse hnow).agrees later hlater]
  sorted := by
    refine List.pairwise_append.mpr ⟨(h.refuse hnow).sorted, List.pairwise_singleton _ now, ?_⟩
    intro t ht s hs
    rw [List.mem_singleton.mp hs]
    exact h.found_le hnow t ht
  past t ht := by
    rcases List.mem_append.mp ht with hold | hnew
    · exact (h.past t hold).trans hnow
    · exact (List.mem_singleton.mp hnew).le
  spaced := h.spaced.append (h.agrees now hnow ▸ hfew)

theorem found_length_le (h : Kept rule clock kept accepted) (hnow : clock ≤ now) :
    (recent (rule.windowSeconds : T) now kept).length ≤ rule.limit := by
  have hwindow := h.spaced.above_le (now - rule.windowSeconds)
  rwa [sub_add_cancel, ← h.found_eq hnow] at hwindow

end Kept

end

section

variable [FloorRing T] {limits : String → RateLimit} {windows : RateWindows T}
  {request : RateRequest T} {requests others : List (RateRequest T)} {key : String}

/-- What a request finds, what it is answered, and what it leaves. -/
theorem rateStep_cases (limits : String → RateLimit) (windows : RateWindows T)
    (request : RateRequest T) :
    ((request.found limits windows).length < (limits request.key).limit ∧
      rateAnswer limits windows request = .accepted ∧
      rateStep limits windows request =
        Function.update windows request.key (request.found limits windows ++ [request.now])) ∨
    (∃ oldest newer, request.found limits windows = oldest :: newer ∧
      (limits request.key).limit ≤ newer.length + 1 ∧
      rateAnswer limits windows request = .limited
        (max 1 (truncated (oldest + (limits request.key).windowSeconds - request.now))) ∧
      rateStep limits windows request = Function.update windows request.key (oldest :: newer)) ∨
    ((limits request.key).limit = 0 ∧
      rateAnswer limits windows request = .failed "IndexError" ∧
      rateStep limits windows request = windows) := by
  unfold rateAnswer rateStep enforceMemoryLimit RateRequest.found
  by_cases hfull : (limits request.key).limit ≤ (recent
      ((limits request.key).windowSeconds : T) request.now (windows request.key)).length
  · simp only [hfull, if_true]
    cases hfound : recent ((limits request.key).windowSeconds : T) request.now
        (windows request.key) with
    | nil =>
      rw [hfound] at hfull
      exact .inr (.inr ⟨Nat.le_zero.mp hfull, rfl, rfl⟩)
    | cons oldest newer =>
      rw [hfound] at hfull
      exact .inr (.inl ⟨oldest, newer, rfl, hfull, rfl, rfl⟩)
  · exact .inl ⟨not_le.mp hfull, by simp [hfull], by simp [hfull]⟩

theorem rateAnswer_accepted_iff : rateAnswer limits windows request = .accepted ↔
    (request.found limits windows).length < (limits request.key).limit := by
  obtain ⟨hfew, hanswer, -⟩ | ⟨oldest, newer, hfound, hfull, hanswer, -⟩ | ⟨hzero, hanswer, -⟩ :=
    rateStep_cases limits windows request
  · simp [hanswer, hfew]
  · simpa [hanswer, hfound] using hfull
  · simp [hanswer, hzero]

theorem rateStep_other (h : key ≠ request.key) :
    rateStep limits windows request key = windows key := by
  obtain ⟨-, -, hstep⟩ | ⟨oldest, newer, -, -, -, hstep⟩ | ⟨-, -, hstep⟩ :=
    rateStep_cases limits windows request
  · rw [hstep, Function.update_of_ne h]
  · rw [hstep, Function.update_of_ne h]
  · rw [hstep]

/-- Requests for other keys leave what is kept for a key. -/
theorem run_rateStep_others (h : ∀ other ∈ others, other.key ≠ key) :
    run (rateStep limits) windows others key = windows key := by
  induction others generalizing windows with
  | nil => rfl
  | cons other others ih =>
    obtain ⟨hother, hrest⟩ := List.forall_mem_cons.mp h
    rw [run_cons, ih hrest, rateStep_other hother.symm]

theorem acceptedTimes_append (pre post : List (RateRequest T)) :
    acceptedTimes limits key windows (pre ++ post) = acceptedTimes limits key windows pre ++
      acceptedTimes limits key (run (rateStep limits) windows pre) post := by
  induction pre generalizing windows with
  | nil => rfl
  | cons request pre ih => simp [acceptedTimes, ih]

/-- What a refused caller finds after any wait, whatever others asked for in the meantime. -/
theorem found_after_refusal {oldest wait : T} {newer : List T}
    (hstep : rateStep limits windows request =
      Function.update windows request.key (oldest :: newer))
    (hothers : ∀ other ∈ others, other.key ≠ request.key) :
    { request with now := request.now + wait }.found limits
        (run (rateStep limits) (rateStep limits windows request) others) =
      recent ((limits request.key).windowSeconds : T) (request.now + wait) (oldest :: newer) := by
  rw [RateRequest.found, run_rateStep_others hothers, hstep, Function.update_self]

variable [IsStrictOrderedRing T] {clock : T} {accepted : List T}

theorem Kept.step (h : Kept (limits key) clock (windows key) accepted)
    (hnow : clock ≤ request.now) :
    Kept (limits key) request.now (rateStep limits windows request key)
      (accepted ++ acceptedTimes limits key windows [request]) := by
  by_cases hkey : request.key = key
  · subst hkey
    have hrefuse := h.refuse hnow
    have haccept := h.accept hnow
    rw [← RateRequest.found] at hrefuse haccept
    obtain ⟨hfew, hanswer, hstep⟩ | ⟨oldest, newer, hfound, -, hanswer, hstep⟩ |
      ⟨-, hanswer, hstep⟩ := rateStep_cases limits windows request
    · simpa [acceptedTimes, hanswer, hstep] using haccept hfew
    · simpa [acceptedTimes, hanswer, hstep, ← hfound] using hrefuse
    · simpa [acceptedTimes, hanswer, hstep] using h.after hnow
  · simpa [acceptedTimes, hkey, rateStep_other (Ne.symm hkey)] using h.after hnow

/-- Requests whose clock does not go back leave for each key what stands for all of them. -/
theorem ClockInOrder.kept_run (h : ClockInOrder requests)
    (hclock : ∀ request ∈ requests, request.now ≤ clock) (key : String) :
    Kept (limits key) clock (run (rateStep limits) (fun _ => []) requests key)
      (acceptedTimes limits key (fun _ => []) requests) := by
  induction requests using List.reverseRecOn generalizing clock with
  | nil => exact Kept.nil
  | append_singleton requests request ih =>
    obtain ⟨hbefore, -, hlast⟩ := List.pairwise_append.mp h
    have hkept := ih hbefore fun earlier hearlier =>
      hlast earlier hearlier request List.mem_cons_self
    rw [run_append, acceptedTimes_append]
    exact (hkept.step le_rfl).after (hclock request (by simp))

theorem ClockInOrder.spaced (limits : String → RateLimit) (h : ClockInOrder requests)
    (key : String) :
    Spaced (limits key).limit ((limits key).windowSeconds : T)
      (acceptedTimes limits key (fun _ => []) requests) := by
  rcases List.eq_nil_or_concat' requests with rfl | ⟨pre, last, rfl⟩
  · exact spaced_nil
  · have hclock : ∀ request ∈ pre ++ [last], request.now ≤ last.now := by
      intro earlier hearlier
      rcases List.mem_append.mp hearlier with hpre | hlast
      · exact (List.pairwise_append.mp h).2.2 earlier hpre last List.mem_cons_self
      · rw [List.mem_singleton.mp hlast]
    exact (h.kept_run hclock key).spaced

theorem ClockInOrder.kept_before {pre post : List (RateRequest T)}
    (h : ClockInOrder (pre ++ request :: post)) :
    Kept (limits request.key) request.now (run (rateStep limits) (fun _ => []) pre request.key)
      (acceptedTimes limits request.key (fun _ => []) pre) := by
  obtain ⟨hbefore, -, hlast⟩ := List.pairwise_append.mp h
  refine ClockInOrder.kept_run hbefore ?_ request.key
  intro earlier hearlier
  exact hlast earlier hearlier request List.mem_cons_self

/-- A refusal says that the window holds the limit. -/
theorem Kept.windowFull
    (h : Kept (limits request.key) request.now (windows request.key) accepted)
    (hrefused : rateAnswer limits windows request ≠ .accepted) :
    WindowFull limits request accepted := by
  have hfull := mt rateAnswer_accepted_iff.mpr hrefused
  have hle := h.found_length_le le_rfl
  rw [WindowFull, ← h.found_eq le_rfl]
  exact le_antisymm hle (not_lt.mp hfull)

theorem one_le_truncated_iff {wait : T} (h : 0 < wait) :
    wait ≤ (max 1 (truncated wait) : ℤ) ↔ wait ≤ 1 ∨ ∃ seconds : ℤ, wait = seconds := by
  rw [truncated, if_pos h.le, Int.cast_max, Int.cast_one, le_max_iff]
  refine or_congr_right ⟨fun hle => ⟨⌊wait⌋, le_antisymm hle (Int.floor_le wait)⟩, ?_⟩
  rintro ⟨seconds, rfl⟩
  rw [Int.floor_intCast]

/-- A caller who waits as told is let through exactly when the wait is no longer than a second or
comes out whole. -/
theorem Kept.retryAccepted_iff
    (h : Kept (limits request.key) request.now (windows request.key) accepted) :
    RetryAccepted limits windows request ↔ WholeWait limits windows request := by
  have hfound_le : (request.found limits windows).length ≤ (limits request.key).limit :=
    h.found_length_le le_rfl
  obtain ⟨hfew, hanswer, -⟩ | ⟨oldest, newer, hfound, hfull, hanswer, hstep⟩ |
    ⟨hzero, hanswer, -⟩ := rateStep_cases limits windows request
  · refine iff_of_true ?_ ?_
    · intro retryAfter hlimited
      rw [hanswer] at hlimited
      cases hlimited
    · intro oldest newer hfound hfull
      rw [hfound, List.length_cons] at hfew
      exact absurd hfew (not_lt.mpr hfull)
  · set wait := oldest + ((limits request.key).windowSeconds : T) - request.now with hwait
    have hsorted : (oldest :: newer).Pairwise (· ≤ ·) := hfound ▸ (h.refuse le_rfl).sorted
    have hrecent : oldest ∈ request.found limits windows := hfound ▸ List.mem_cons_self
    have hpos : 0 < wait := by linarith [(mem_recent.mp hrecent).2]
    have hlength : (limits request.key).limit = (oldest :: newer).length :=
      le_antisymm hfull (hfound ▸ hfound_le)
    have hwhole : WholeWait limits windows request ↔
        wait ≤ 1 ∨ ∃ seconds : ℤ, wait = seconds := by
      constructor
      · intro hw
        exact hw oldest newer hfound hfull
      · intro hw oldest' newer' hfound' _
        obtain ⟨rfl, -⟩ := List.cons.inj (hfound.symm.trans hfound')
        exact hw
    have hretry (others : List (RateRequest T))
        (hothers : ∀ other ∈ others, other.key ≠ request.key) :
        rateAnswer limits (run (rateStep limits) (rateStep limits windows request) others)
          { request with now := request.now + (max 1 (truncated wait) : ℤ) } = .accepted ↔
        wait ≤ (max 1 (truncated wait) : ℤ) := by
      rw [rateAnswer_accepted_iff, found_after_refusal hstep hothers, hlength,
        length_recent_lt_iff hsorted, hwait]
      constructor <;> intro hle <;> linarith
    rw [hwhole, ← one_le_truncated_iff hpos]
    constructor
    · intro hr
      exact (hretry [] (by simp)).mp (hr _ hanswer [] (by simp))
    · intro hle retryAfter hlimited others hothers
      obtain rfl := RateAnswer.limited.inj (hanswer.symm.trans hlimited)
      exact (hretry others hothers).mpr hle
  · refine iff_of_true ?_ ?_
    · intro retryAfter hlimited
      rw [hanswer] at hlimited
      cases hlimited
    · intro oldest newer hfound _
      rw [hfound, hzero] at hfound_le
      cases hfound_le

/-- In any order of requests the limit holds in every window, a request is refused only where the
window is full, and those who wait as told are let through exactly when no wait is cut off. -/
theorem enforceMemoryLimit_limits (limits : String → RateLimit) (requests : List (RateRequest T))
    (h : ClockInOrder requests) :
    (∀ key, WithinLimit limits key (acceptedTimes limits key (fun _ => []) requests)) ∧
      (∀ pre request post, requests = pre ++ request :: post →
        rateAnswer limits (run (rateStep limits) (fun _ => []) pre) request ≠ .accepted →
          WindowFull limits request (acceptedTimes limits request.key (fun _ => []) pre)) ∧
      (Always (rateStep limits) (RetryAccepted limits) (fun _ => []) requests ↔
        Always (rateStep limits) (WholeWait limits) (fun _ => []) requests) := by
  refine ⟨?_, ?_, ?_⟩
  · intro key a
    have hspaced := h.spaced limits key
    exact ⟨hspaced.below_le a, hspaced.above_le a⟩
  · rintro pre request post rfl hrefused
    exact h.kept_before.windowFull hrefused
  · rw [always_iff_split, always_iff_split]
    refine forall_congr' fun pre => forall_congr' fun request => forall_congr' fun post => ?_
    refine forall_congr' fun hsplit => ?_
    subst hsplit
    exact h.kept_before.retryAccepted_iff

end

namespace RedemptionLimit

/-- What is asked for where codes are redeemed. -/
def limits (_ : String) : RateLimit := ⟨10, 60⟩

/-- Eleven requests, the last half a second after the others. -/
def requests : List (RateRequest ℚ) :=
  List.replicate 10 ⟨"redemption:fan:host", 0⟩ ++ [⟨"redemption:fan:host", 1 / 2⟩]

theorem requests_inOrder : ClockInOrder requests := by
  unfold ClockInOrder
  decide +kernel

end RedemptionLimit

open RedemptionLimit in
theorem enforceMemoryLimit_redemption :
    Always (rateStep limits) (RetryAccepted limits) (fun _ => []) requests ↔
      Always (rateStep limits) (WholeWait limits) (fun _ => []) requests :=
  (enforceMemoryLimit_limits limits requests requests_inOrder).2.2

open RedemptionLimit in
/-- The last caller is told to wait for 59 seconds, and refused again half a second early. -/
theorem enforceMemoryLimit_retry_refused : ClockInOrder requests ∧
    ¬Always (rateStep limits) (RetryAccepted limits) (fun _ => []) requests := by
  refine ⟨requests_inOrder, ?_⟩
  intro h
  have hlast := always_iff_split.mp h (List.replicate 10 ⟨"redemption:fan:host", 0⟩)
    ⟨"redemption:fan:host", 1 / 2⟩ [] rfl
  have hretry := hlast 59 (by decide +kernel) [] (by simp)
  revert hretry
  decide +kernel

end Fanfolio
