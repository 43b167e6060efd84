import Fanfolio.Framework.FixedWindow
import Fanfolio.RateLimit

/-!
# The limiter that processes share

A counter in Redis for each key: the first request sets when it expires, and every request adds to
it, the refused ones as well. What cannot be counted is refused.
-/

namespace Fanfolio

open Framework

variable {T : Type*} [Field T] [LinearOrder T]

/-- The value of a key, and when it expires. -/
structure Counter (T : Type*) where
  count : ℕ
  expiresAt : T
deriving DecidableEq, Repr

abbrev RedisCounters (T : Type*) := String → Option (Counter T)

/-- When a key is found expired: not before its time and always after it. -/
structure Expiry (T : Type*) [LT T] where
  expired : T → T → Bool
  before : ∀ expiresAt now, now < expiresAt → expired expiresAt now = false
  after : ∀ expiresAt now, expiresAt < now → expired expiresAt now = true

/-- What becomes of a call: the script is answered, and then `TTL` if it is asked for; or the
connection is lost, before or after the script has run. -/
inductive RedisLink where
  | answers (ttl : Option ℤ)
  | fails (counted : Bool)
deriving DecidableEq, Repr

inductive RedisAnswer where
  | accepted
  | limited (retryAfter : ℤ)
  | unavailable
deriving DecidableEq, Repr

/-- What is raised. -/
def RedisAnswer.raised : RedisAnswer → Option Failure
  | .accepted => none
  | .limited retryAfter => (RateAnswer.limited retryAfter).raised
  | .unavailable => some (.app ⟨503, "RATE_LIMITER_UNAVAILABLE",
      "요청 제한 서비스를 사용할 수 없습니다. 잠시 후 다시 시도해 주세요."⟩)

/-- A request, with the clock of Redis and what becomes of its call. -/
structure RedisRequest (T : Type*) where
  key : String
  now : T
  link : RedisLink := .answers (some 1)
deriving DecidableEq, Repr

section

variable (expiry : Expiry T) (limits : String → RateLimit)

/-- The counter that is found for a key. -/
def liveCounter (counters : RedisCounters T) (key : String) (now : T) : Option (Counter T) :=
  (counters key).filter fun counter => !expiry.expired counter.expiresAt now

/-- `_INCREMENT_SCRIPT`. -/
def incrementScript (counters : RedisCounters T) (key : String) (windowSeconds : ℕ) (now : T) :
    Counter T :=
  match liveCounter expiry counters key now with
  | none => ⟨1, now + windowSeconds⟩
  | some counter => { counter with count := counter.count + 1 }

/-- `_enforce_redis_limit`. -/
def enforceRedisLimit (counters : RedisCounters T) (request : RedisRequest T)
    (limit windowSeconds : ℕ) : RedisAnswer × RedisCounters T :=
  let counter := incrementScript expiry counters request.key windowSeconds request.now
  let counters' := Function.update counters request.key (some counter)
  match request.link with
  | .fails false => (.unavailable, counters)
  | .fails true => (.unavailable, counters')
  | .answers ttl =>
    if counter.count ≤ limit then (.accepted, counters')
    else
      match ttl with
      | none => (.unavailable, counters')
      | some ttl => (.limited (max 1 ttl), counters')

def redisStep (counters : RedisCounters T) (request : RedisRequest T) : RedisCounters T :=
  (enforceRedisLimit expiry counters request (limits request.key).limit
    (limits request.key).windowSeconds).2

def redisAnswer (counters : RedisCounters T) (request : RedisRequest T) : RedisAnswer :=
  (enforceRedisLimit expiry counters request (limits request.key).limit
    (limits request.key).windowSeconds).1

/-- The clock of each request for the key that is let through. -/
def redisAccepted (key : String) : RedisCounters T → List (RedisRequest T) → List T
  | _, [] => []
  | counters, request :: requests =>
    (if request.key = key ∧ redisAnswer expiry limits counters request = .accepted
      then [request.now] else []) ++
      redisAccepted key (redisStep expiry limits counters request) requests

end

/-- The clock of Redis does not go back. -/
def RedisInOrder (requests : List (RedisRequest T)) : Prop :=
  requests.Pairwise fun earlier later => earlier.now ≤ later.now

/-- The counter of a key stands for the window that opened last. -/
structure Counted (rule : RateLimit) (clock : T) (counter : Counter T)
    (past : List (FixedWindow T)) (current : FixedWindow T) : Prop where
  within : ∀ w ∈ past ++ [current], w.Within rule.limit (rule.windowSeconds : T)
  before : (past ++ [current]).Pairwise (FixedWindow.Before (rule.windowSeconds : T))
  expires : current.opening + rule.windowSeconds = counter.expiresAt
  opened : current.opening ≤ clock
  count : current.times.length ≤ counter.count
  opening : current.opening ∈ current.times ∨ current.times.length < counter.count

/-- What is kept for a key, and what was let through. -/
def Tracked (rule : RateLimit) (clock : T) (counter : Option (Counter T)) (accepted : List T) :
    Prop :=
  match counter with
  | none => accepted = []
  | some counter => ∃ past current, accepted = FixedWindow.admitted (past ++ [current]) ∧
      Counted rule clock counter past current

section

variable [IsStrictOrderedRing T] {rule : RateLimit} {clock now : T} {counter : Counter T}
  {past : List (FixedWindow T)} {current : FixedWindow T}

omit [IsStrictOrderedRing T] in
theorem Counted.after (h : Counted rule clock counter past current) (hnow : clock ≤ now) :
    Counted rule now counter past current :=
  { h with opened := h.opened.trans hnow }

/-- A window that opens when there is none. -/
theorem counted_first (rule : RateLimit) (now : T) {times : List T}
    (htimes : times = [] ∨ times = [now] ∧ 1 ≤ rule.limit) :
    Counted rule now ⟨1, now + rule.windowSeconds⟩ [] ⟨now, times⟩ where
  within w hw := by
    obtain rfl := List.mem_singleton.mp hw
    rcases htimes with rfl | ⟨rfl, hlimit⟩
    · exact ⟨Nat.zero_le _, fun hlimit hfull => absurd hfull hlimit.ne, by simp, by simp⟩
    · exact ⟨hlimit, fun _ _ => List.mem_cons_self, by simp, by simp⟩
  before := List.pairwise_singleton _ _
  expires := rfl
  opened := le_rfl
  count := by rcases htimes with rfl | ⟨rfl, -⟩ <;> simp
  opening := by rcases htimes with rfl | ⟨rfl, -⟩ <;> simp

/-- A window that opens when the last one is over. -/
theorem Counted.next (h : Counted rule clock counter past current) (hover : counter.expiresAt ≤ now)
    {times : List T} (htimes : times = [] ∨ times = [now] ∧ 1 ≤ rule.limit) :
    Counted rule now ⟨1, now + rule.windowSeconds⟩ (past ++ [current]) ⟨now, times⟩ := by
  have hfirst := counted_first rule now htimes
  have hended : current.opening + rule.windowSeconds ≤ now := h.expires.trans_le hover
  refine { hfirst with within := ?_, before := ?_ }
  · intro w hw
    rcases List.mem_append.mp hw with hold | hnew
    · exact h.within w hold
    · exact hfirst.within w hnew
  · rw [List.pairwise_append]
    refine ⟨h.before, List.pairwise_singleton _ _, ?_⟩
    intro w hw w' hw'
    obtain rfl := List.mem_singleton.mp hw'
    rcases List.mem_append.mp hw with hold | hlast
    · have hbefore := (List.pairwise_append.mp h.before).2.2 w hold current List.mem_cons_self
      have hwidth : (0 : T) ≤ rule.windowSeconds := Nat.cast_nonneg _
      exact (hbefore.trans (le_add_of_nonneg_right hwidth)).trans hended
    · obtain rfl := List.mem_singleton.mp hlast
      exact hended

omit [IsStrictOrderedRing T] in
/-- A request is counted while the window lasts. -/
theorem Counted.add (h : Counted rule clock counter past current) (hnow : clock ≤ now)
    (hlasts : now ≤ counter.expiresAt) {times : List T}
    (htimes : times = [] ∨ times = [now] ∧ counter.count + 1 ≤ rule.limit) :
    Counted rule now { counter with count := counter.count + 1 } past
      ⟨current.opening, current.times ++ times⟩ where
  within w hw := by
    rcases List.mem_append.mp hw with hold | hlast
    · exact h.within w (List.mem_append_left _ hold)
    obtain rfl := List.mem_singleton.mp hlast
    have hcurrent := h.within current (by simp)
    have hcount := h.count
    constructor
    · rcases htimes with rfl | ⟨rfl, hlimit⟩
      · simpa using hcurrent.few
      · simp only [List.length_append, List.length_singleton]
        omega
    · intro hpos hfull
      rcases htimes with rfl | ⟨rfl, hlimit⟩
      · simpa using hcurrent.full hpos (by simpa using hfull)
      · rcases h.opening with hopening | hless
        · exact List.mem_append_left _ hopening
        · simp only [List.length_append, List.length_singleton] at hfull
          omega
    · intro t ht
      rcases List.mem_append.mp ht with hold | hnew
      · exact hcurrent.since t hold
      · rcases htimes with rfl | ⟨rfl, -⟩
        · cases hnew
        · rw [List.mem_singleton.mp hnew]
          exact h.opened.trans hnow
    · intro t ht
      rcases List.mem_append.mp ht with hold | hnew
      · exact hcurrent.upTo t hold
      · rcases htimes with rfl | ⟨rfl, -⟩
        · cases hnew
        · rw [List.mem_singleton.mp hnew]
          exact hlasts.trans_eq h.expires.symm
  before := by
    have hbefore := List.pairwise_append.mp h.before
    refine List.pairwise_append.mpr ⟨hbefore.1, List.pairwise_singleton _ _, ?_⟩
    intro w hw w' hw'
    obtain rfl := List.mem_singleton.mp hw'
    exact hbefore.2.2 w hw current List.mem_cons_self
  expires := h.expires
  opened := h.opened.trans hnow
  count := by
    have hcount := h.count
    rcases htimes with rfl | ⟨rfl, -⟩
    · simp only [List.append_nil]
      omega
    · simp only [List.length_append, List.length_singleton]
      omega
  opening := by
    rcases h.opening with hopening | hless
    · exact .inl (List.mem_append_left _ hopening)
    · right
      rcases htimes with rfl | ⟨rfl, -⟩
      · simp only [List.append_nil]
        omega
      · simp only [List.length_append, List.length_singleton]
        omega

end

/-- So many requests at one time, none of which is lost. -/
def burst (key : String) (k : ℕ) (now : T) : List (RedisRequest T) :=
  List.replicate k ⟨key, now, .answers (some 1)⟩

omit [Field T] [LinearOrder T] in
theorem burst_succ (key : String) (k : ℕ) (now : T) :
    burst key (k + 1) now = ⟨key, now, .answers (some 1)⟩ :: burst key k now := rfl

section

variable {expiry : Expiry T} {limits : String → RateLimit} {counters : RedisCounters T}
  {request : RedisRequest T} {requests : List (RedisRequest T)} {key : String}

omit [Field T] in
theorem liveCounter_over {counter : Counter T} {now : T} (h : counters key = some counter)
    (hover : counter.expiresAt < now) : liveCounter expiry counters key now = none := by
  rw [liveCounter, h, Option.filter_eq_none_iff]
  intro found hfound
  obtain rfl := Option.some.inj hfound
  simp [expiry.after _ _ hover]

/-- What a request is answered, and what it leaves. -/
theorem redisStep_cases (expiry : Expiry T) (limits : String → RateLimit)
    (counters : RedisCounters T) (request : RedisRequest T) :
    (redisAnswer expiry limits counters request ≠ .accepted ∧
      redisStep expiry limits counters request = counters) ∨
    ∃ counter, counter = incrementScript expiry counters request.key
        (limits request.key).windowSeconds request.now ∧
      redisStep expiry limits counters request =
        Function.update counters request.key (some counter) ∧
      (redisAnswer expiry limits counters request = .accepted →
        counter.count ≤ (limits request.key).limit) := by
  unfold redisAnswer redisStep enforceRedisLimit
  dsimp only
  split
  · exact .inl ⟨by simp, rfl⟩
  · exact .inr ⟨_, rfl, rfl, by simp⟩
  · split
    · rename_i hfew
      exact .inr ⟨_, rfl, rfl, fun _ => hfew⟩
    · split
      · exact .inr ⟨_, rfl, rfl, by simp⟩
      · exact .inr ⟨_, rfl, rfl, by simp⟩

/-- What the script finds: a counter that lasts, or none that still does. -/
theorem incrementScript_cases (expiry : Expiry T) (counters : RedisCounters T) (key : String)
    (windowSeconds : ℕ) (now : T) :
    (incrementScript expiry counters key windowSeconds now = ⟨1, now + windowSeconds⟩ ∧
      ∀ counter, counters key = some counter → counter.expiresAt ≤ now) ∨
    ∃ counter, counters key = some counter ∧ now ≤ counter.expiresAt ∧
      incrementScript expiry counters key windowSeconds now =
        { counter with count := counter.count + 1 } := by
  unfold incrementScript
  cases hlive : liveCounter expiry counters key now with
  | none =>
    refine .inl ⟨rfl, fun counter hcounter => ?_⟩
    rw [liveCounter, hcounter, Option.filter_eq_none_iff] at hlive
    by_contra hlasts
    exact hlive counter rfl (by simp [expiry.before _ _ (not_le.mp hlasts)])
  | some counter =>
    obtain ⟨hcounter, hexpired⟩ := Option.filter_eq_some_iff.mp hlive
    refine .inr ⟨counter, hcounter, ?_, rfl⟩
    by_contra hover
    rw [expiry.after _ _ (not_le.mp hover)] at hexpired
    cases hexpired

theorem redisAccepted_singleton (h : request.key = key) :
    redisAccepted expiry limits key counters [request] =
      if redisAnswer expiry limits counters request = .accepted then [request.now] else [] := by
  simp [redisAccepted, h]

theorem redisStep_other (h : key ≠ request.key) :
    redisStep expiry limits counters request key = counters key := by
  obtain ⟨-, hstep⟩ | ⟨_, -, hstep, -⟩ := redisStep_cases expiry limits counters request
  · rw [hstep]
  · rw [hstep, Function.update_of_ne h]

theorem Tracked.after {rule : RateLimit} {clock now : T} {counter : Option (Counter T)}
    {accepted : List T} (h : Tracked rule clock counter accepted) (hnow : clock ≤ now) :
    Tracked rule now counter accepted := by
  cases counter with
  | none => exact h
  | some counter =>
    obtain ⟨past, current, haccepted, hcounted⟩ := h
    exact ⟨past, current, haccepted, hcounted.after hnow⟩

variable [IsStrictOrderedRing T]

theorem Tracked.step {clock : T} {accepted : List T}
    (h : Tracked (limits key) clock (counters key) accepted) (hnow : clock ≤ request.now) :
    Tracked (limits key) request.now (redisStep expiry limits counters request key)
      (accepted ++ redisAccepted expiry limits key counters [request]) := by
  by_cases hkey : request.key = key
  · subst hkey
    rw [redisAccepted_singleton rfl]
    obtain ⟨hrefused, hstep⟩ | ⟨counter, hcounter, hstep, hfew⟩ :=
      redisStep_cases expiry limits counters request
    · rw [if_neg hrefused, List.append_nil, hstep]
      exact h.after hnow
    rw [hstep, Function.update_self]
    obtain ⟨times, htimes⟩ : ∃ times,
        (if redisAnswer expiry limits counters request = .accepted then [request.now] else []) =
          times := ⟨_, rfl⟩
    have hadmits : times = [] ∨ times = [request.now] ∧
        counter.count ≤ (limits request.key).limit := by
      rw [← htimes]
      split
      · rename_i hok
        exact .inr ⟨rfl, hfew hok⟩
      · exact .inl rfl
    rw [htimes]
    obtain ⟨hscript, hover⟩ | ⟨old, hold, hlasts, hscript⟩ :=
      incrementScript_cases expiry counters request.key (limits request.key).windowSeconds
        request.now
    · rw [hscript] at hcounter
      rw [hcounter] at hadmits ⊢
      cases hcounters : counters request.key with
      | none =>
        rw [hcounters] at h
        refine ⟨[], ⟨request.now, times⟩, ?_, counted_first _ _ hadmits⟩
        rw [show accepted = [] from h]
        exact (List.append_nil times).symm
      | some old =>
        rw [hcounters] at h
        obtain ⟨past, current, haccepted, hcounted⟩ := h
        refine ⟨past ++ [current], ⟨request.now, times⟩, ?_,
          hcounted.next (hover old hcounters) hadmits⟩
        rw [haccepted, FixedWindow.admitted_append (past ++ [current]),
          FixedWindow.admitted_singleton]
    · rw [hscript] at hcounter
      rw [hcounter] at hadmits ⊢
      rw [hold] at h
      obtain ⟨past, current, haccepted, hcounted⟩ := h
      refine ⟨past, ⟨current.opening, current.times ++ times⟩, ?_,
        hcounted.add hnow hlasts hadmits⟩
      simp only [haccepted, FixedWindow.admitted_append, FixedWindow.admitted_singleton,
        List.append_assoc]
  · have hnone : redisAccepted expiry limits key counters [request] = [] := by
      simp [redisAccepted, hkey]
    rw [redisStep_other (Ne.symm hkey), hnone, List.append_nil]
    exact h.after hnow

omit [IsStrictOrderedRing T] in
theorem redisAccepted_append (pre post : List (RedisRequest T)) :
    redisAccepted expiry limits key counters (pre ++ post) =
      redisAccepted expiry limits key counters pre ++
        redisAccepted expiry limits key (run (redisStep expiry limits) counters pre) post := by
  induction pre generalizing counters with
  | nil => rfl
  | cons request pre ih => simp [redisAccepted, ih]

/-- Requests in order leave for each key a counter that stands for the window that opened last. -/
theorem RedisInOrder.tracked (expiry : Expiry T) (limits : String → RateLimit)
    (h : RedisInOrder requests) {clock : T}
    (hclock : ∀ request ∈ requests, request.now ≤ clock) (key : String) :
    Tracked (limits key) clock (run (redisStep expiry limits) (fun _ => none) requests key)
      (redisAccepted expiry limits key (fun _ => none) requests) := by
  induction requests using List.reverseRecOn generalizing clock with
  | nil => exact rfl
  | append_singleton requests request ih =>
    obtain ⟨hbefore, -, hlast⟩ := List.pairwise_append.mp h
    have htracked := ih hbefore fun earlier hearlier =>
      hlast earlier hearlier request List.mem_cons_self
    rw [run_append, redisAccepted_append]
    exact (htracked.step le_rfl).after (hclock request (by simp))

/-- What is let through for a key lies in windows one after the other. -/
theorem RedisInOrder.length_filter_le (expiry : Expiry T) (limits : String → RateLimit)
    (h : RedisInOrder requests) (key : String) {inside : T → Bool}
    (hinside : ∀ s t, inside s = true → inside t = true →
      t - ((limits key).windowSeconds : T) < s) :
    ((redisAccepted expiry limits key (fun _ => none) requests).filter inside).length ≤
      2 * (limits key).limit - 1 := by
  rcases List.eq_nil_or_concat' requests with rfl | ⟨pre, last, rfl⟩
  · exact Nat.zero_le _
  have hclock : ∀ request ∈ pre ++ [last], request.now ≤ last.now := by
    intro earlier hearlier
    rcases List.mem_append.mp hearlier with hpre | hlast
    · exact (List.pairwise_append.mp h).2.2 earlier hpre last List.mem_cons_self
    · rw [List.mem_singleton.mp hlast]
  have htracked := h.tracked expiry limits hclock key
  unfold Tracked at htracked
  split at htracked
  · rw [htracked]
    exact Nat.zero_le _
  · obtain ⟨past, current, haccepted, hcounted⟩ := htracked
    rw [haccepted]
    exact FixedWindow.length_filter_le hcounted.within hcounted.before hinside

omit [IsStrictOrderedRing T] in
/-- Requests for a key whose counter lasts and has so many uses left. -/
theorem redisAccepted_burst (expiry : Expiry T) (limits : String → RateLimit)
    {counter : Counter T} {now : T} {k : ℕ}
    (hcounter : counters key = some counter) (hlasts : now < counter.expiresAt)
    (hfew : counter.count + k ≤ (limits key).limit) :
    redisAccepted expiry limits key counters (burst key k now) = List.replicate k now ∧
      run (redisStep expiry limits) counters (burst key k now) key =
        some { counter with count := counter.count + k } := by
  induction k generalizing counters counter with
  | zero => exact ⟨rfl, hcounter⟩
  | succ k ih =>
    have hlive : liveCounter expiry counters key now = some counter := by
      rw [liveCounter, hcounter]
      exact Option.filter_some_pos (by simp [expiry.before _ _ hlasts])
    have hone : counter.count + 1 ≤ (limits key).limit := by omega
    have hanswer :
        redisAnswer expiry limits counters ⟨key, now, .answers (some 1)⟩ = .accepted := by
      simp [redisAnswer, enforceRedisLimit, incrementScript, hlive, hone]
    have hstep : redisStep expiry limits counters ⟨key, now, .answers (some 1)⟩ =
        Function.update counters key (some { counter with count := counter.count + 1 }) := by
      simp [redisStep, enforceRedisLimit, incrementScript, hlive, hone]
    have hnext : redisStep expiry limits counters ⟨key, now, .answers (some 1)⟩ key =
        some { counter with count := counter.count + 1 } := by rw [hstep, Function.update_self]
    obtain ⟨haccepted, hrun⟩ := ih hnext hlasts (by dsimp only; omega)
    rw [burst_succ, run_cons, hrun]
    refine ⟨?_, by simp only [Nat.add_assoc, Nat.add_comm 1 k]⟩
    simp only [redisAccepted, hanswer, and_self, if_true, haccepted, List.replicate_succ,
      List.singleton_append]

omit [IsStrictOrderedRing T] in
/-- Requests for a key that has no counter, or none that lasts. -/
theorem redisAccepted_fresh (limits : String → RateLimit) {now : T} {k : ℕ}
    (hlive : liveCounter expiry counters key now = none)
    (hwindow : now < now + ((limits key).windowSeconds : T)) (hfew : k + 1 ≤ (limits key).limit) :
    redisAccepted expiry limits key counters (burst key (k + 1) now) =
        List.replicate (k + 1) now ∧
      run (redisStep expiry limits) counters (burst key (k + 1) now) key =
        some ⟨k + 1, now + (limits key).windowSeconds⟩ := by
  have hone : 1 ≤ (limits key).limit := by omega
  have hanswer : redisAnswer expiry limits counters ⟨key, now, .answers (some 1)⟩ = .accepted := by
    simp [redisAnswer, enforceRedisLimit, incrementScript, hlive, hone]
  have hstep : redisStep expiry limits counters ⟨key, now, .answers (some 1)⟩ =
      Function.update counters key (some ⟨1, now + (limits key).windowSeconds⟩) := by
    simp [redisStep, enforceRedisLimit, incrementScript, hlive, hone]
  have hcounter : redisStep expiry limits counters ⟨key, now, .answers (some 1)⟩ key =
      some ⟨1, now + (limits key).windowSeconds⟩ := by rw [hstep, Function.update_self]
  have hrest : 1 + k ≤ (limits key).limit := by omega
  obtain ⟨haccepted, hrun⟩ := redisAccepted_burst expiry limits hcounter hwindow hrest
  rw [burst_succ, run_cons, hrun]
  refine ⟨?_, by rw [Nat.add_comm]⟩
  simp only [redisAccepted, hanswer, and_self, if_true, haccepted, List.replicate_succ,
    List.singleton_append]

/-- One request, the rest of its window late in the window, and a full window right after. -/
def doubleBurst (rule : RateLimit) (key : String) : List (RedisRequest T) :=
  burst key 1 (0 : T) ++ burst key (rule.limit - 1) (rule.windowSeconds * 3 / 4 : T) ++
    burst key rule.limit (rule.windowSeconds * 5 / 4 : T)

theorem doubleBurst_inOrder (rule : RateLimit) (key : String) :
    RedisInOrder (doubleBurst rule key : List (RedisRequest T)) := by
  have hwindow : (0 : T) ≤ rule.windowSeconds := Nat.cast_nonneg _
  have hburst (k : ℕ) (now : T) : RedisInOrder (burst key k now) := by
    rw [RedisInOrder, burst, List.pairwise_replicate]
    exact .inr le_rfl
  have hnow {k : ℕ} {now : T} : ∀ request ∈ burst key k now, request.now = now := by
    intro request hrequest
    rw [List.eq_of_mem_replicate hrequest]
  rw [RedisInOrder, doubleBurst, List.pairwise_append, List.pairwise_append]
  refine ⟨⟨hburst _ _, hburst _ _, ?_⟩, hburst _ _, ?_⟩
  · intro earlier hearlier later hlater
    rw [hnow earlier hearlier, hnow later hlater]
    positivity
  · intro earlier hearlier later hlater
    rw [hnow later hlater]
    rcases List.mem_append.mp hearlier with hfirst | hsecond
    · rw [hnow earlier hfirst]
      positivity
    · rw [hnow earlier hsecond]
      linarith

theorem doubleBurst_accepted (expiry : Expiry T) (hlimit : 1 ≤ (limits key).limit)
    (hwindow : 1 ≤ (limits key).windowSeconds) :
    redisAccepted expiry limits key (fun _ => none) (doubleBurst (limits key) key) =
      [0] ++ List.replicate ((limits key).limit - 1) ((limits key).windowSeconds * 3 / 4 : T) ++
        List.replicate (limits key).limit ((limits key).windowSeconds * 5 / 4 : T) := by
  have hpos : (0 : T) < (limits key).windowSeconds := Nat.cast_pos.mpr hwindow
  have hfresh : liveCounter expiry (fun _ => none) key 0 = none := rfl
  obtain ⟨hfirst, hopened⟩ := redisAccepted_fresh (k := 0) limits hfresh (by linarith) hlimit
  have hlate : ((limits key).windowSeconds * 3 / 4 : T) < 0 + (limits key).windowSeconds := by
    linarith
  have hrest : 0 + 1 + ((limits key).limit - 1) ≤ (limits key).limit := by omega
  obtain ⟨hsecond, hused⟩ := redisAccepted_burst expiry limits hopened hlate hrest
  have hover : (0 + (limits key).windowSeconds : T) < (limits key).windowSeconds * 5 / 4 := by
    linarith
  have hfull : (limits key).limit - 1 + 1 = (limits key).limit := by omega
  obtain ⟨hthird, -⟩ := redisAccepted_fresh limits (liveCounter_over hused hover) (by linarith)
    hfull.le
  rw [hfull] at hthird
  rw [doubleBurst, redisAccepted_append, redisAccepted_append, run_append, hsecond, hthird]
  exact congrArg (· ++ _ ++ _) hfirst

omit [Field T] [LinearOrder T] [IsStrictOrderedRing T] in
theorem length_filter_bursts {inside : T → Bool} {first second third : T} {k n : ℕ}
    (hfirst : inside first = false) (hsecond : inside second = true)
    (hthird : inside third = true) :
    (([first] ++ List.replicate k second ++ List.replicate n third).filter inside).length =
      k + n := by
  simp [List.filter_append, hfirst, hsecond, hthird]

/-- In any interval of the length of the window the limiter lets through at most twice the limit,
less one; and for every limit and window, there are requests that all reach Redis and get that many
through. -/
theorem enforceRedisLimit_limits (expiry : Expiry T) (limits : String → RateLimit) (key : String) :
    (∀ requests : List (RedisRequest T), RedisInOrder requests → ∀ a : T,
      ((redisAccepted expiry limits key (fun _ => none) requests).filter fun t =>
        a ≤ t ∧ t < a + (limits key).windowSeconds).length ≤ 2 * (limits key).limit - 1 ∧
      ((redisAccepted expiry limits key (fun _ => none) requests).filter fun t =>
        a < t ∧ t ≤ a + (limits key).windowSeconds).length ≤ 2 * (limits key).limit - 1) ∧
    (1 ≤ (limits key).limit → 1 ≤ (limits key).windowSeconds →
      ∃ (requests : List (RedisRequest T)) (a : T), RedisInOrder requests ∧
        (∀ request ∈ requests, request.link = .answers (some 1)) ∧
        ((redisAccepted expiry limits key (fun _ => none) requests).filter fun t =>
          a ≤ t ∧ t < a + (limits key).windowSeconds).length = 2 * (limits key).limit - 1) := by
  constructor
  · intro requests h a
    constructor
    · refine h.length_filter_le expiry limits key fun s t hs ht => ?_
      simp only [decide_eq_true_eq] at hs ht
      linarith
    · refine h.length_filter_le expiry limits key fun s t hs ht => ?_
      simp only [decide_eq_true_eq] at hs ht
      linarith
  · intro hlimit hwindow
    have hpos : (0 : T) < (limits key).windowSeconds := Nat.cast_pos.mpr hwindow
    refine ⟨doubleBurst (limits key) key, (limits key).windowSeconds * 3 / 4,
      doubleBurst_inOrder _ _, ?_, ?_⟩
    · intro request hrequest
      rcases List.mem_append.mp hrequest with hearlier | hlast
      · rcases List.mem_append.mp hearlier with hfirst | hsecond
        · rw [List.eq_of_mem_replicate hfirst]
        · rw [List.eq_of_mem_replicate hsecond]
      · rw [List.eq_of_mem_replicate hlast]
    · have hfirst : ¬((limits key).windowSeconds * 3 / 4 ≤ (0 : T) ∧
          (0 : T) < (limits key).windowSeconds * 3 / 4 + (limits key).windowSeconds) :=
        fun h => by linarith [h.1]
      have hsecond : (limits key).windowSeconds * 3 / 4 ≤
            ((limits key).windowSeconds * 3 / 4 : T) ∧
          ((limits key).windowSeconds * 3 / 4 : T) <
            (limits key).windowSeconds * 3 / 4 + (limits key).windowSeconds :=
        ⟨le_rfl, by linarith⟩
      have hthird : (limits key).windowSeconds * 3 / 4 ≤
            ((limits key).windowSeconds * 5 / 4 : T) ∧
          ((limits key).windowSeconds * 5 / 4 : T) <
            (limits key).windowSeconds * 3 / 4 + (limits key).windowSeconds :=
        ⟨by linarith, by linarith⟩
      rw [doubleBurst_accepted expiry hlimit hwindow]
      refine (length_filter_bursts ?_ ?_ ?_).trans (by omega)
      · exact decide_eq_false hfirst
      · exact decide_eq_true hsecond
      · exact decide_eq_true hthird

end

/-- A key is gone as soon as its time has come. -/
def promptExpiry : Expiry ℚ where
  expired expiresAt now := expiresAt ≤ now
  before _ _ h := decide_eq_false (not_le.mpr h)
  after _ _ h := decide_eq_true h.le

/-- Of the requests to redeem a code, as many as nineteen within a minute. -/
theorem enforceRedisLimit_redemption :
    ∃ (requests : List (RedisRequest ℚ)) (a : ℚ), RedisInOrder requests ∧
      (∀ request ∈ requests, request.link = .answers (some 1)) ∧
      ((redisAccepted promptExpiry RedemptionLimit.limits "redemption:fan:host" (fun _ => none)
        requests).filter fun t => a ≤ t ∧ t < a + (60 : ℕ)).length = 19 :=
  (enforceRedisLimit_limits promptExpiry RedemptionLimit.limits "redemption:fan:host").2
    (by decide) (by decide)

end Fanfolio
