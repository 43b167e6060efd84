import Fanfolio.Framework.Run
import Mathlib.Data.Set.Insert
import Mathlib.Logic.Function.Basic

/-!
# Credentials that are used once

A client holds one credential. It sends it to a server, which replaces it by a new one and takes
its second use for a theft. Requests and answers are under way for any time and may be lost; a
client has several lanes, which share the credential, and each waits for one answer at a time.
-/

namespace Framework.RotatingCredential

/-- A server that issues credentials, known to it by their digests. -/
structure Server (σ κ δ ω ν : Type*) where
  digest : κ → δ
  Valid : σ → Prop
  issued : σ → Set δ
  used : σ → Set δ
  /-- A client logs in. -/
  login : σ → ω → σ × Option κ
  /-- A credential is replaced, or refused. -/
  rotate : σ → κ → ν → σ × Option κ

variable {σ κ δ ω ν ι : Type*}

/-- A new credential is issued and what is spent for it is used up, or nothing happens. -/
def Server.Outcome (S : Server σ κ δ ω ν) (s : σ) (spent : Set δ) (r : σ × Option κ) : Prop :=
  S.Valid r.1 ∧
    match r.2 with
    | none => S.issued r.1 = S.issued s ∧ S.used r.1 = S.used s
    | some k => S.digest k ∉ S.issued s ∧ S.issued r.1 = insert (S.digest k) (S.issued s) ∧
        S.used r.1 = S.used s ∪ spent

/-- What the protocol asks of a server. -/
structure Server.Lawful (S : Server σ κ δ ω ν) : Prop where
  used_issued : ∀ s, S.Valid s → S.used s ⊆ S.issued s
  login : ∀ s w, S.Valid s → S.Outcome s ∅ (S.login s w)
  rotate : ∀ s k w, S.Valid s → S.digest k ∉ S.used s →
    S.Outcome s {S.digest k} (S.rotate s k w)

/-- What a login keeps, and the replacement of an unused credential. -/
structure Server.Keeps (S : Server σ κ δ ω ν) (P : σ → Prop) : Prop where
  login : ∀ d w, S.Valid d → P d → P (S.login d w).1
  rotate : ∀ d k w, S.Valid d → S.digest k ∉ S.used d → P d → P (S.rotate d k w).1

/-- A request, and the answer to it: `some none` refuses, `some (some k)` brings `k`. -/
structure Flight (ι κ : Type*) where
  client : ι
  lane : ℕ
  credential : κ
  heard : Bool := true
  reply : Option (Option κ) := none

structure System (σ ι κ : Type*) where
  server : σ
  holds : ι → Option κ
  flights : ℕ → Option (Flight ι κ)
  sent : ℕ
  lost : List (ι × κ)

inductive Action (ι ω ν : Type*) where
  | login (client : ι) (w : ω)
  /-- A lane needs an answer; it joins the request that it waits for. -/
  | send (client : ι) (lane : ℕ)
  | handle (flight : ℕ) (w : ν)
  | deliver (flight : ℕ)
  /-- The lane stops waiting. -/
  | timeout (flight : ℕ)
  /-- The request or the answer is lost. -/
  | lose (flight : ℕ)

namespace System

/-- Nobody has sent anything. -/
def start (server : σ) : System σ ι κ := ⟨server, fun _ => none, fun _ => none, 0, []⟩

/-- The client has sent the credential and has had no answer to it. -/
def Unanswered (s : System σ ι κ) (i : ι) (k : κ) : Prop :=
  (∃ n f, s.flights n = some f ∧ f.client = i ∧ f.credential = k) ∨ (i, k) ∈ s.lost

/-- The flight has ended without an answer. -/
def drop (s : System σ ι κ) (n : ℕ) (f : Flight ι κ) : System σ ι κ :=
  { s with
    flights := Function.update s.flights n none
    lost := (f.client, f.credential) :: s.lost }

structure Sound (S : Server σ κ δ ω ν) (s : System σ ι κ) : Prop where
  valid : S.Valid s.server
  held : ∀ i k, s.holds i = some k → S.digest k ∈ S.issued s.server
  sentIssued : ∀ i k, s.Unanswered i k → S.digest k ∈ S.issued s.server
  brought : ∀ n f k, s.flights n = some f → f.reply = some (some k) →
    S.digest k ∈ S.issued s.server ∧ S.digest k ∉ S.used s.server
  /-- A credential is held by one client only, and sent by the one that holds it. -/
  heldOnce : ∀ i i' k k', s.holds i = some k → s.holds i' = some k' →
    S.digest k = S.digest k' → i = i'
  sentOnce : ∀ m n f g, s.flights m = some f → s.flights n = some g →
    S.digest f.credential = S.digest g.credential → m = n
  heldSent : ∀ i i' k k', s.holds i = some k → s.Unanswered i' k' →
    S.digest k = S.digest k' → i = i'
  /-- A credential that is under way to a client is nowhere else. -/
  broughtOnce : ∀ m n f g k k', s.flights m = some f → s.flights n = some g →
    f.reply = some (some k) → g.reply = some (some k') → S.digest k = S.digest k' → m = n
  broughtHeld : ∀ n f k i k', s.flights n = some f → f.reply = some (some k) →
    s.holds i = some k' → S.digest k ≠ S.digest k'
  broughtSent : ∀ n f k i k', s.flights n = some f → f.reply = some (some k) →
    s.Unanswered i k' → S.digest k ≠ S.digest k'
  /-- What is sent is used up by its replacement only, what is held only if it was sent. -/
  sentUnused : ∀ n f, s.flights n = some f → (∀ k, f.reply ≠ some (some k)) →
    S.digest f.credential ∉ S.used s.server
  heldUnused : ∀ i k, s.holds i = some k →
    (∀ k', s.Unanswered i k' → S.digest k' ≠ S.digest k) → S.digest k ∉ S.used s.server
  fresh : ∀ n, s.sent ≤ n → s.flights n = none

section

variable {S : Server σ κ δ ω ν} {s s' : System σ ι κ} {n : ℕ} {f : Flight ι κ} {server : σ}
  {k : κ}

theorem update_some {flights : ℕ → Option (Flight ι κ)} {n m : ℕ} {o : Option (Flight ι κ)}
    {f : Flight ι κ} (h : Function.update flights n o m = some f) :
    m = n ∧ o = some f ∨ m ≠ n ∧ flights m = some f := by
  by_cases hm : m = n
  · subst hm
    exact .inl ⟨rfl, by rwa [Function.update_self] at h⟩
  · exact .inr ⟨hm, by rwa [Function.update_of_ne hm] at h⟩

theorem update_fresh {flights : ℕ → Option (Flight ι κ)} {n m : ℕ} {o : Option (Flight ι κ)}
    (hn : flights n ≠ none) (hm : flights m = none) : Function.update flights n o m = none := by
  have hne : m ≠ n := by
    rintro rfl
    exact hn hm
  rw [Function.update_of_ne hne, hm]

theorem Unanswered.of_flight (hf : s.flights n = some f) : s.Unanswered f.client f.credential :=
  .inl ⟨n, f, hf, rfl, rfl⟩

/-- The same requests of the same credentials, which bring the same ones. -/
structure SameFlights (S : Server σ κ δ ω ν) (s s' : System σ ι κ) : Prop where
  valid : S.Valid s'.server
  issued : S.issued s'.server = S.issued s.server
  used : S.used s'.server = S.used s.server
  holds : s'.holds = s.holds
  unanswered : ∀ i k, s'.Unanswered i k ↔ s.Unanswered i k
  flights : ∀ m g, s'.flights m = some g → ∃ f, s.flights m = some f ∧
    g.credential = f.credential ∧ ∀ k, g.reply = some (some k) ↔ f.reply = some (some k)
  fresh : ∀ m, s'.sent ≤ m → s.sent ≤ m ∧ (s.flights m = none → s'.flights m = none)

theorem Sound.of_sameFlights (h : Sound S s) (hs : SameFlights S s s') : Sound S s' where
  valid := hs.valid
  held := by
    rw [hs.issued, hs.holds]
    exact h.held
  sentIssued i k hik := by
    rw [hs.issued]
    exact h.sentIssued i k ((hs.unanswered i k).mp hik)
  brought m g k hg hk := by
    obtain ⟨f, hf, -, hreply⟩ := hs.flights m g hg
    rw [hs.issued, hs.used]
    exact h.brought m f k hf ((hreply k).mp hk)
  heldOnce := by
    rw [hs.holds]
    exact h.heldOnce
  sentOnce m n f g hf hg heq := by
    obtain ⟨f', hf', hcf, -⟩ := hs.flights m f hf
    obtain ⟨g', hg', hcg, -⟩ := hs.flights n g hg
    exact h.sentOnce m n f' g' hf' hg' (hcf ▸ hcg ▸ heq)
  heldSent i i' k k' hk hk' := by
    rw [hs.holds] at hk
    exact h.heldSent i i' k k' hk ((hs.unanswered i' k').mp hk')
  broughtOnce m n f g k k' hf hg hk hk' := by
    obtain ⟨f', hf', -, hrf⟩ := hs.flights m f hf
    obtain ⟨g', hg', -, hrg⟩ := hs.flights n g hg
    exact h.broughtOnce m n f' g' k k' hf' hg' ((hrf k).mp hk) ((hrg k').mp hk')
  broughtHeld m g k i k' hg hk hk' := by
    obtain ⟨f, hf, -, hreply⟩ := hs.flights m g hg
    rw [hs.holds] at hk'
    exact h.broughtHeld m f k i k' hf ((hreply k).mp hk) hk'
  broughtSent m g k i k' hg hk hk' := by
    obtain ⟨f, hf, -, hreply⟩ := hs.flights m g hg
    exact h.broughtSent m f k i k' hf ((hreply k).mp hk) ((hs.unanswered i k').mp hk')
  sentUnused m g hg hreply := by
    obtain ⟨f, hf, hcredential, hsame⟩ := hs.flights m g hg
    rw [hcredential, hs.used]
    exact h.sentUnused m f hf fun k hk => hreply k ((hsame k).mpr hk)
  heldUnused i k hk hall := by
    rw [hs.holds] at hk
    rw [hs.used]
    exact h.heldUnused i k hk fun k' hk' => hall k' ((hs.unanswered i k').mpr hk')
  fresh m hm := (hs.fresh m hm).2 (h.fresh m (hs.fresh m hm).1)

theorem Sound.drop (h : Sound S s) (hf : s.flights n = some f) : Sound S (s.drop n f) := by
  refine h.of_sameFlights ⟨h.valid, rfl, rfl, rfl, ?_, ?_, ?_⟩
  · intro i k
    constructor
    · rintro (⟨m, g, hg, rfl, rfl⟩ | hlost)
      · rcases update_some hg with ⟨-, hnone⟩ | ⟨-, hg⟩
        · cases hnone
        · exact .of_flight hg
      · rcases List.mem_cons.mp hlost with heq | hlost
        · obtain ⟨rfl, rfl⟩ := Prod.mk.inj heq
          exact .of_flight hf
        · exact .inr hlost
    · rintro (⟨m, g, hg, rfl, rfl⟩ | hlost)
      · by_cases hm : m = n
        · subst hm
          obtain rfl : f = g := Option.some.inj (hf.symm.trans hg)
          exact .inr List.mem_cons_self
        · refine .inl ⟨m, g, ?_, rfl, rfl⟩
          exact (Function.update_of_ne hm _ _).trans hg
      · exact .inr (List.mem_cons_of_mem _ hlost)
  · intro m g hg
    rcases update_some hg with ⟨-, hnone⟩ | ⟨-, hg⟩
    · cases hnone
    · exact ⟨g, hg, rfl, fun _ => Iff.rfl⟩
  · exact fun m hm => ⟨hm, update_fresh (by rw [hf]; exact Option.some_ne_none f)⟩

/-- A flight that is changed but for its client, its credential and what it brings. -/
theorem Sound.modify (h : Sound S s) (hf : s.flights n = some f) {f' : Flight ι κ}
    (hclient : f'.client = f.client) (hcredential : f'.credential = f.credential)
    (hreply : ∀ k, f'.reply = some (some k) ↔ f.reply = some (some k))
    (hvalid : S.Valid server) (hissued : S.issued server = S.issued s.server)
    (hused : S.used server = S.used s.server) :
    Sound S { s with server := server, flights := Function.update s.flights n (some f') } := by
  refine h.of_sameFlights ⟨hvalid, hissued, hused, rfl, ?_, ?_, ?_⟩
  · intro i k
    constructor
    · rintro (⟨m, g, hg, rfl, rfl⟩ | hlost)
      · rcases update_some hg with ⟨-, hsome⟩ | ⟨-, hg⟩
        · obtain rfl := Option.some.inj hsome
          rw [hclient, hcredential]
          exact .of_flight hf
        · exact .of_flight hg
      · exact .inr hlost
    · rintro (⟨m, g, hg, rfl, rfl⟩ | hlost)
      · by_cases hm : m = n
        · subst hm
          obtain rfl : f = g := Option.some.inj (hf.symm.trans hg)
          exact .inl ⟨m, f', Function.update_self .., hclient, hcredential⟩
        · refine .inl ⟨m, g, ?_, rfl, rfl⟩
          exact (Function.update_of_ne hm _ _).trans hg
      · exact .inr hlost
  · intro m g hg
    rcases update_some hg with ⟨rfl, hsome⟩ | ⟨-, hg⟩
    · obtain rfl := Option.some.inj hsome
      exact ⟨f, hf, hcredential, hreply⟩
    · exact ⟨g, hg, rfl, fun _ => Iff.rfl⟩
  · exact fun m hm => ⟨hm, update_fresh (by rw [hf]; exact Option.some_ne_none f)⟩

/-- A request is answered with a new credential. -/
theorem Sound.replaced (hS : S.Lawful) (h : Sound S s) (hf : s.flights n = some f)
    (hvalid : S.Valid server) (hk : S.digest k ∉ S.issued s.server)
    (hissued : S.issued server = insert (S.digest k) (S.issued s.server))
    (hused : S.used server = S.used s.server ∪ {S.digest f.credential}) :
    Sound S { s with
      server := server
      flights := Function.update s.flights n (some { f with reply := some (some k) }) } := by
  have hsent : S.digest f.credential ∈ S.issued s.server := h.sentIssued _ _ (.of_flight hf)
  have hunused : S.digest k ∉ S.used s.server := fun hmem =>
    hk (hS.used_issued _ h.valid hmem)
  have hnew : ∀ d, d ∈ S.issued s.server → S.digest k ≠ d := by
    rintro d hd rfl
    exact hk hd
  have hunanswered : ∀ i k', Unanswered { s with
      server := server
      flights := Function.update s.flights n (some { f with reply := some (some k) }) } i k' →
        s.Unanswered i k' := by
    rintro i k' (⟨m, g, hg, rfl, rfl⟩ | hlost)
    · rcases update_some hg with ⟨-, hsome⟩ | ⟨-, hg⟩
      · obtain rfl := Option.some.inj hsome
        exact Unanswered.of_flight (f := f) hf
      · exact .of_flight hg
    · exact .inr hlost
  refine { valid := hvalid, held := ?held, sentIssued := ?sentIssued, brought := ?brought,
           heldOnce := h.heldOnce, sentOnce := ?sentOnce, heldSent := ?heldSent,
           broughtOnce := ?broughtOnce, broughtHeld := ?broughtHeld, broughtSent := ?broughtSent,
           sentUnused := ?sentUnused, heldUnused := ?heldUnused, fresh := ?fresh }
  case held =>
    intro i k' hk'
    rw [hissued]
    exact Set.mem_insert_of_mem _ (h.held i k' hk')
  case sentIssued =>
    intro i k' hk'
    rw [hissued]
    exact Set.mem_insert_of_mem _ (h.sentIssued i k' (hunanswered i k' hk'))
  case brought =>
    intro m g k' hg hk'
    rw [hissued, hused, Set.mem_union, Set.mem_singleton_iff, not_or]
    rcases update_some hg with ⟨rfl, hsome⟩ | ⟨-, hg⟩
    · obtain rfl := Option.some.inj hsome
      obtain rfl : k = k' := Option.some.inj (Option.some.inj hk')
      exact ⟨Set.mem_insert _ _, hunused, hnew _ hsent⟩
    · obtain ⟨hmem, hfree⟩ := h.brought m g k' hg hk'
      exact ⟨Set.mem_insert_of_mem _ hmem, hfree, h.broughtSent m g k' _ _ hg hk' (.of_flight hf)⟩
  case sentOnce =>
    intro m m' g g' hg hg' heq
    rcases update_some hg with ⟨rfl, hsome⟩ | ⟨-, hold⟩ <;>
      rcases update_some hg' with ⟨rfl, hsome'⟩ | ⟨-, hold'⟩
    · rfl
    · obtain rfl := Option.some.inj hsome
      exact h.sentOnce _ _ _ _ hf hold' heq
    · obtain rfl := Option.some.inj hsome'
      exact h.sentOnce _ _ _ _ hold hf heq
    · exact h.sentOnce _ _ _ _ hold hold' heq
  case heldSent =>
    exact fun i i' k' k'' hk' hk'' => h.heldSent i i' k' k'' hk' (hunanswered i' k'' hk'')
  case broughtOnce =>
    intro m m' g g' k₁ k₂ hg hg' hk₁ hk₂ heq
    rcases update_some hg with ⟨rfl, hsome⟩ | ⟨-, hold⟩ <;>
      rcases update_some hg' with ⟨rfl, hsome'⟩ | ⟨-, hold'⟩
    · rfl
    · obtain rfl := Option.some.inj hsome
      obtain rfl : k = k₁ := Option.some.inj (Option.some.inj hk₁)
      exact absurd heq (hnew _ (h.brought _ _ _ hold' hk₂).1)
    · obtain rfl := Option.some.inj hsome'
      obtain rfl : k = k₂ := Option.some.inj (Option.some.inj hk₂)
      exact absurd heq.symm (hnew _ (h.brought _ _ _ hold hk₁).1)
    · exact h.broughtOnce _ _ _ _ _ _ hold hold' hk₁ hk₂ heq
  case broughtHeld =>
    intro m g k₁ i k₂ hg hk₁ hk₂
    rcases update_some hg with ⟨rfl, hsome⟩ | ⟨-, hg⟩
    · obtain rfl := Option.some.inj hsome
      obtain rfl : k = k₁ := Option.some.inj (Option.some.inj hk₁)
      exact hnew _ (h.held i k₂ hk₂)
    · exact h.broughtHeld m g k₁ i k₂ hg hk₁ hk₂
  case broughtSent =>
    intro m g k₁ i k₂ hg hk₁ hk₂
    rcases update_some hg with ⟨rfl, hsome⟩ | ⟨-, hg⟩
    · obtain rfl := Option.some.inj hsome
      obtain rfl : k = k₁ := Option.some.inj (Option.some.inj hk₁)
      exact hnew _ (h.sentIssued i k₂ (hunanswered i k₂ hk₂))
    · exact h.broughtSent m g k₁ i k₂ hg hk₁ (hunanswered i k₂ hk₂)
  case sentUnused =>
    intro m g hg hnone
    rw [hused, Set.mem_union, Set.mem_singleton_iff, not_or]
    rcases update_some hg with ⟨rfl, hsome⟩ | ⟨hm, hg⟩
    · obtain rfl := Option.some.inj hsome
      exact absurd rfl (hnone k)
    · exact ⟨h.sentUnused m g hg hnone, fun heq => hm (h.sentOnce _ _ _ _ hg hf heq)⟩
  case heldUnused =>
    intro i k' hk' hall
    have hall' : ∀ k'', s.Unanswered i k'' → S.digest k'' ≠ S.digest k' := by
      rintro k'' (⟨m, g, hg, rfl, rfl⟩ | hlost)
      · by_cases hm : m = n
        · subst hm
          obtain rfl : f = g := Option.some.inj (hf.symm.trans hg)
          exact hall _ (.inl ⟨m, _, Function.update_self .., rfl, rfl⟩)
        · exact hall _ (.inl ⟨m, g, (Function.update_of_ne hm _ _).trans hg, rfl, rfl⟩)
      · exact hall _ (.inr hlost)
    rw [hused, Set.mem_union, Set.mem_singleton_iff, not_or]
    refine ⟨h.heldUnused i k' hk' hall', fun heq => ?_⟩
    obtain rfl := h.heldSent i f.client k' f.credential hk' (.of_flight hf) heq
    exact hall' _ (.of_flight hf) heq.symm
  case fresh =>
    exact fun m hm => update_fresh (by rw [hf]; exact Option.some_ne_none f) (h.fresh m hm)

/-- The flight is over; its credential, if it is still held, was not used up. -/
theorem Sound.refused (h : Sound S s) (hf : s.flights n = some f)
    (hreply : ∀ k, f.reply ≠ some (some k)) :
    Sound S { s with flights := Function.update s.flights n none } := by
  have hold : ∀ {m g}, Function.update s.flights n none m = some g → s.flights m = some g := by
    intro m g hg
    rcases update_some hg with ⟨-, hnone⟩ | ⟨-, hg⟩
    · cases hnone
    · exact hg
  have hunanswered : ∀ i k, Unanswered
      { s with flights := Function.update s.flights n none } i k → s.Unanswered i k := by
    rintro i k (⟨m, g, hg, rfl, rfl⟩ | hlost)
    · exact .of_flight (hold hg)
    · exact .inr hlost
  refine { valid := h.valid, held := h.held, heldOnce := h.heldOnce, brought := ?brought,
           sentIssued := fun i k hk => h.sentIssued i k (hunanswered i k hk),
           heldSent := fun i i' k k' hk hk' => h.heldSent i i' k k' hk (hunanswered i' k' hk'),
           sentOnce := ?sentOnce, broughtOnce := ?broughtOnce, broughtHeld := ?broughtHeld,
           broughtSent := ?broughtSent, sentUnused := ?sentUnused, heldUnused := ?heldUnused,
           fresh := ?fresh }
  case brought =>
    exact fun m g k hg => h.brought m g k (hold hg)
  case sentOnce =>
    exact fun m m' g g' hg hg' => h.sentOnce m m' g g' (hold hg) (hold hg')
  case broughtOnce =>
    exact fun m m' g g' k k' hg hg' => h.broughtOnce m m' g g' k k' (hold hg) (hold hg')
  case broughtHeld =>
    exact fun m g k i k' hg => h.broughtHeld m g k i k' (hold hg)
  case broughtSent =>
    exact fun m g k i k' hg hk hk' => h.broughtSent m g k i k' (hold hg) hk (hunanswered i k' hk')
  case sentUnused =>
    exact fun m g hg => h.sentUnused m g (hold hg)
  case heldUnused =>
    intro i k hk hall
    by_cases heq : S.digest f.credential = S.digest k
    · rw [← heq]
      exact h.sentUnused n f hf hreply
    · refine h.heldUnused i k hk ?_
      rintro k' (⟨m, g, hg, rfl, rfl⟩ | hlost)
      · by_cases hm : m = n
        · subst hm
          obtain rfl : f = g := Option.some.inj (hf.symm.trans hg)
          exact heq
        · exact hall _ (.inl ⟨m, g, (Function.update_of_ne hm _ _).trans hg, rfl, rfl⟩)
      · exact hall _ (.inr hlost)
  case fresh =>
    exact fun m hm => update_fresh (by rw [hf]; exact Option.some_ne_none f) (h.fresh m hm)

theorem start_sound (hvalid : S.Valid server) : Sound S (start (ι := ι) server) where
  valid := hvalid
  held := by simp [start]
  sentIssued := by simp [start, Unanswered]
  brought := by simp [start]
  heldOnce := by simp [start]
  sentOnce := by simp [start]
  heldSent := by simp [start]
  broughtOnce := by simp [start]
  broughtHeld := by simp [start]
  broughtSent := by simp [start]
  sentUnused := by simp [start]
  heldUnused := by simp [start]
  fresh := by simp [start]

/-- A client sends the credential that it holds, and that none of its requests has carried. -/
theorem Sound.sends {i : ι} {lane : ℕ} (h : Sound S s) (hk : s.holds i = some k)
    (hanswered : ∀ k', s.Unanswered i k' → S.digest k' ≠ S.digest k) :
    Sound S { s with
      flights := Function.update s.flights s.sent (some ⟨i, lane, k, true, none⟩)
      sent := s.sent + 1 } := by
  have hunanswered : ∀ i' k', Unanswered { s with
      flights := Function.update s.flights s.sent (some ⟨i, lane, k, true, none⟩)
      sent := s.sent + 1 } i' k' → s.Unanswered i' k' ∨ i' = i ∧ k' = k := by
    rintro i' k' (⟨m, g, hg, rfl, rfl⟩ | hlost)
    · rcases update_some hg with ⟨-, hsome⟩ | ⟨-, hg⟩
      · obtain rfl := Option.some.inj hsome
        exact .inr ⟨rfl, rfl⟩
      · exact .inl (.of_flight hg)
    · exact .inl (.inr hlost)
  have hother : ∀ {m g}, s.flights m = some g → S.digest g.credential ≠ S.digest k := by
    intro m g hg heq
    obtain rfl := h.heldSent i g.client k g.credential hk (.of_flight hg) heq.symm
    exact hanswered _ (.of_flight hg) heq
  refine { valid := h.valid, held := h.held, heldOnce := h.heldOnce, sentIssued := ?sentIssued,
           brought := ?brought, heldSent := ?heldSent, sentOnce := ?sentOnce,
           broughtOnce := ?broughtOnce, broughtHeld := ?broughtHeld, broughtSent := ?broughtSent,
           sentUnused := ?sentUnused, heldUnused := ?heldUnused, fresh := ?fresh }
  case sentIssued =>
    intro i' k' hk'
    rcases hunanswered i' k' hk' with hk' | ⟨rfl, rfl⟩
    · exact h.sentIssued i' k' hk'
    · exact h.held i' k' hk
  case brought =>
    intro m g k' hg hk'
    rcases update_some hg with ⟨-, hsome⟩ | ⟨-, hg⟩
    · obtain rfl := Option.some.inj hsome
      cases hk'
    · exact h.brought m g k' hg hk'
  case heldSent =>
    intro i₁ i₂ k₁ k₂ hk₁ hk₂ heq
    rcases hunanswered i₂ k₂ hk₂ with hk₂ | ⟨rfl, rfl⟩
    · exact h.heldSent i₁ i₂ k₁ k₂ hk₁ hk₂ heq
    · exact h.heldOnce i₁ i₂ k₁ k₂ hk₁ hk heq
  case sentOnce =>
    intro m m' g g' hg hg' heq
    rcases update_some hg with ⟨rfl, hsome⟩ | ⟨-, hold⟩ <;>
      rcases update_some hg' with ⟨rfl, hsome'⟩ | ⟨-, hold'⟩
    · rfl
    · obtain rfl := Option.some.inj hsome
      exact absurd heq.symm (hother hold')
    · obtain rfl := Option.some.inj hsome'
      exact absurd heq (hother hold)
    · exact h.sentOnce m m' g g' hold hold' heq
  case broughtOnce =>
    intro m m' g g' k₁ k₂ hg hg' hk₁ hk₂ heq
    rcases update_some hg with ⟨rfl, hsome⟩ | ⟨-, hold⟩
    · obtain rfl := Option.some.inj hsome
      cases hk₁
    rcases update_some hg' with ⟨rfl, hsome'⟩ | ⟨-, hold'⟩
    · obtain rfl := Option.some.inj hsome'
      cases hk₂
    exact h.broughtOnce m m' g g' k₁ k₂ hold hold' hk₁ hk₂ heq
  case broughtHeld =>
    intro m g k₁ i' k₂ hg hk₁ hk₂
    rcases update_some hg with ⟨-, hsome⟩ | ⟨-, hg⟩
    · obtain rfl := Option.some.inj hsome
      cases hk₁
    · exact h.broughtHeld m g k₁ i' k₂ hg hk₁ hk₂
  case broughtSent =>
    intro m g k₁ i' k₂ hg hk₁ hk₂
    rcases update_some hg with ⟨-, hsome⟩ | ⟨-, hold⟩
    · obtain rfl := Option.some.inj hsome
      cases hk₁
    · rcases hunanswered i' k₂ hk₂ with hk₂ | ⟨rfl, rfl⟩
      · exact h.broughtSent m g k₁ i' k₂ hold hk₁ hk₂
      · exact h.broughtHeld m g k₁ i' k₂ hold hk₁ hk
  case sentUnused =>
    intro m g hg hnone
    rcases update_some hg with ⟨-, hsome⟩ | ⟨-, hg⟩
    · obtain rfl := Option.some.inj hsome
      exact h.heldUnused i k hk hanswered
    · exact h.sentUnused m g hg hnone
  case heldUnused =>
    intro i' k' hk' hall
    refine h.heldUnused i' k' hk' ?_
    rintro k'' (⟨m, g, hg, rfl, rfl⟩ | hlost)
    · have hm : m ≠ s.sent := by
        rintro rfl
        rw [h.fresh s.sent le_rfl] at hg
        cases hg
      exact hall _ (.inl ⟨m, g, (Function.update_of_ne hm _ _).trans hg, rfl, rfl⟩)
    · exact hall _ (.inr hlost)
  case fresh =>
    intro m hm
    have hne : m ≠ s.sent := Nat.ne_of_gt hm
    exact (Function.update_of_ne hne _ _).trans (h.fresh m (Nat.le_of_succ_le hm))

variable [DecidableEq ι]

/-- The client holds the credential that the flight has brought. -/
theorem Sound.delivered (h : Sound S s) (hf : s.flights n = some f)
    (hreply : f.reply = some (some k)) :
    Sound S { s with
      holds := Function.update s.holds f.client (some k)
      flights := Function.update s.flights n none } := by
  have hold : ∀ {m g}, Function.update s.flights n none m = some g →
      m ≠ n ∧ s.flights m = some g := by
    intro m g hg
    rcases update_some hg with ⟨-, hnone⟩ | hg
    · cases hnone
    · exact hg
  have hunanswered : ∀ i k', Unanswered { s with
      holds := Function.update s.holds f.client (some k)
      flights := Function.update s.flights n none } i k' → s.Unanswered i k' := by
    rintro i k' (⟨m, g, hg, rfl, rfl⟩ | hlost)
    · exact .of_flight (hold hg).2
    · exact .inr hlost
  have hholds : ∀ {i k'}, Function.update s.holds f.client (some k) i = some k' →
      i = f.client ∧ k = k' ∨ i ≠ f.client ∧ s.holds i = some k' := by
    intro i k' hk'
    by_cases hi : i = f.client
    · subst hi
      rw [Function.update_self] at hk'
      exact .inl ⟨rfl, Option.some.inj hk'⟩
    · rw [Function.update_of_ne hi] at hk'
      exact .inr ⟨hi, hk'⟩
  obtain ⟨hissued, hunused⟩ := h.brought n f k hf hreply
  refine { valid := h.valid, held := ?held, heldOnce := ?heldOnce, brought := ?brought,
           sentIssued := fun i k hk => h.sentIssued i k (hunanswered i k hk),
           heldSent := ?heldSent, sentOnce := ?sentOnce, broughtOnce := ?broughtOnce,
           broughtHeld := ?broughtHeld, broughtSent := ?broughtSent, sentUnused := ?sentUnused,
           heldUnused := ?heldUnused, fresh := ?fresh }
  case held =>
    intro i k' hk'
    rcases hholds hk' with ⟨rfl, rfl⟩ | ⟨-, hk'⟩
    · exact hissued
    · exact h.held i k' hk'
  case heldOnce =>
    intro i i' k₁ k₂ hk₁ hk₂ heq
    rcases hholds hk₁ with ⟨rfl, rfl⟩ | ⟨-, hold₁⟩ <;>
      rcases hholds hk₂ with ⟨rfl, rfl⟩ | ⟨-, hold₂⟩
    · rfl
    · exact absurd heq (h.broughtHeld n f _ _ _ hf hreply hold₂)
    · exact absurd heq.symm (h.broughtHeld n f _ _ _ hf hreply hold₁)
    · exact h.heldOnce i i' k₁ k₂ hold₁ hold₂ heq
  case brought =>
    exact fun m g k' hg => h.brought m g k' (hold hg).2
  case heldSent =>
    intro i i' k₁ k₂ hk₁ hk₂ heq
    rcases hholds hk₁ with ⟨rfl, rfl⟩ | ⟨-, hk₁⟩
    · exact absurd heq (h.broughtSent n f _ _ _ hf hreply (hunanswered i' k₂ hk₂))
    · exact h.heldSent i i' k₁ k₂ hk₁ (hunanswered i' k₂ hk₂) heq
  case sentOnce =>
    exact fun m m' g g' hg hg' => h.sentOnce m m' g g' (hold hg).2 (hold hg').2
  case broughtOnce =>
    exact fun m m' g g' k₁ k₂ hg hg' =>
      h.broughtOnce m m' g g' k₁ k₂ (hold hg).2 (hold hg').2
  case broughtHeld =>
    intro m g k₁ i k₂ hg hk₁ hk₂ heq
    rcases hholds hk₂ with ⟨rfl, rfl⟩ | ⟨-, hk₂⟩
    · exact (hold hg).1 (h.broughtOnce m n g f _ _ (hold hg).2 hf hk₁ hreply heq)
    · exact h.broughtHeld m g k₁ i k₂ (hold hg).2 hk₁ hk₂ heq
  case broughtSent =>
    exact fun m g k₁ i k₂ hg hk₁ hk₂ =>
      h.broughtSent m g k₁ i k₂ (hold hg).2 hk₁ (hunanswered i k₂ hk₂)
  case sentUnused =>
    exact fun m g hg => h.sentUnused m g (hold hg).2
  case heldUnused =>
    intro i k' hk' hall
    rcases hholds hk' with ⟨rfl, rfl⟩ | ⟨hi, hk'⟩
    · exact hunused
    · refine h.heldUnused i k' hk' ?_
      rintro k'' (⟨m, g, hg, rfl, rfl⟩ | hlost)
      · have hm : m ≠ n := by
          rintro rfl
          obtain rfl : f = g := Option.some.inj (hf.symm.trans hg)
          exact hi rfl
        exact hall _ (.inl ⟨m, g, (Function.update_of_ne hm _ _).trans hg, rfl, rfl⟩)
      · exact hall _ (.inr hlost)
  case fresh =>
    exact fun m hm => update_fresh (by rw [hf]; exact Option.some_ne_none f) (h.fresh m hm)

/-- The client holds the credential of a new session. -/
theorem Sound.loggedIn {i : ι} (hS : S.Lawful) (h : Sound S s) (hvalid : S.Valid server)
    (hk : S.digest k ∉ S.issued s.server)
    (hissued : S.issued server = insert (S.digest k) (S.issued s.server))
    (hused : S.used server = S.used s.server) :
    Sound S { s with server := server, holds := Function.update s.holds i (some k) } := by
  have hnew : ∀ d, d ∈ S.issued s.server → S.digest k ≠ d := by
    rintro d hd rfl
    exact hk hd
  have hholds : ∀ {i' k'}, Function.update s.holds i (some k) i' = some k' →
      i' = i ∧ k = k' ∨ i' ≠ i ∧ s.holds i' = some k' := by
    intro i' k' hk'
    by_cases hi : i' = i
    · subst hi
      rw [Function.update_self] at hk'
      exact .inl ⟨rfl, Option.some.inj hk'⟩
    · rw [Function.update_of_ne hi] at hk'
      exact .inr ⟨hi, hk'⟩
  refine { valid := hvalid, held := ?held, heldOnce := ?heldOnce, sentIssued := ?sentIssued,
           brought := ?brought, heldSent := ?heldSent, sentOnce := h.sentOnce,
           broughtOnce := h.broughtOnce, broughtHeld := ?broughtHeld, broughtSent := h.broughtSent,
           sentUnused := ?sentUnused, heldUnused := ?heldUnused, fresh := h.fresh }
  case held =>
    intro i' k' hk'
    rw [hissued]
    rcases hholds hk' with ⟨rfl, rfl⟩ | ⟨-, hk'⟩
    · exact Set.mem_insert _ _
    · exact Set.mem_insert_of_mem _ (h.held i' k' hk')
  case heldOnce =>
    intro i₁ i₂ k₁ k₂ hk₁ hk₂ heq
    rcases hholds hk₁ with ⟨rfl, rfl⟩ | ⟨-, hold₁⟩ <;>
      rcases hholds hk₂ with ⟨rfl, rfl⟩ | ⟨-, hold₂⟩
    · rfl
    · exact absurd heq (hnew _ (h.held _ _ hold₂))
    · exact absurd heq.symm (hnew _ (h.held _ _ hold₁))
    · exact h.heldOnce i₁ i₂ k₁ k₂ hold₁ hold₂ heq
  case sentIssued =>
    intro i' k' hk'
    rw [hissued]
    exact Set.mem_insert_of_mem _ (h.sentIssued i' k' hk')
  case brought =>
    intro m g k' hg hk'
    rw [hissued, hused]
    exact ⟨Set.mem_insert_of_mem _ (h.brought m g k' hg hk').1, (h.brought m g k' hg hk').2⟩
  case heldSent =>
    intro i₁ i₂ k₁ k₂ hk₁ hk₂ heq
    rcases hholds hk₁ with ⟨rfl, rfl⟩ | ⟨-, hk₁⟩
    · exact absurd heq (hnew _ (h.sentIssued _ _ hk₂))
    · exact h.heldSent i₁ i₂ k₁ k₂ hk₁ hk₂ heq
  case broughtHeld =>
    intro m g k₁ i' k₂ hg hk₁ hk₂
    rcases hholds hk₂ with ⟨rfl, rfl⟩ | ⟨-, hk₂⟩
    · exact (hnew _ (h.brought _ _ _ hg hk₁).1).symm
    · exact h.broughtHeld m g k₁ i' k₂ hg hk₁ hk₂
  case sentUnused =>
    rw [hused]
    exact h.sentUnused
  case heldUnused =>
    intro i' k' hk' hall
    rw [hused]
    rcases hholds hk' with ⟨rfl, rfl⟩ | ⟨-, hk'⟩
    · exact fun hmem => hk (hS.used_issued _ h.valid hmem)
    · exact h.heldUnused i' k' hk' hall

end

section Steps

variable [DecidableEq ι] (S : Server σ κ δ ω ν)

/-- The lane waits for an answer. -/
def busy (s : System σ ι κ) (client : ι) (lane : ℕ) : Bool :=
  (List.range s.sent).any fun n => (s.flights n).any fun f =>
    f.client = client && f.lane = lane && f.heard

def step (s : System σ ι κ) : Action ι ω ν → System σ ι κ
  | .login i w =>
    match S.login s.server w with
    | (server, some k) => { s with server := server, holds := Function.update s.holds i (some k) }
    | (server, none) => { s with server := server }
  | .send i lane =>
    match s.holds i with
    | some k =>
      if s.busy i lane then s
      else { s with
        flights := Function.update s.flights s.sent (some ⟨i, lane, k, true, none⟩)
        sent := s.sent + 1 }
    | none => s
  | .handle n w =>
    match s.flights n with
    | some f =>
      match f.reply with
      | none =>
        let (server, reply) := S.rotate s.server f.credential w
        { s with
          server := server
          flights := Function.update s.flights n (some { f with reply := some reply }) }
      | some _ => s
    | none => s
  | .deliver n =>
    match s.flights n with
    | some f =>
      match f.heard, f.reply with
      | true, some (some k) =>
        { s with
          holds := Function.update s.holds f.client (some k)
          flights := Function.update s.flights n none }
      | true, some none => { s with flights := Function.update s.flights n none }
      | false, some _ => s.drop n f
      | _, none => s
    | none => s
  | .timeout n =>
    match s.flights n with
    | some f => { s with flights := Function.update s.flights n (some { f with heard := false }) }
    | none => s
  | .lose n =>
    match s.flights n with
    | some f => s.drop n f
    | none => s

theorem step_handle {s : System σ ι κ} {n : ℕ} {f : Flight ι κ} (hf : s.flights n = some f)
    (hreply : f.reply = none) (w : ν) :
    s.step S (.handle n w) = { s with
      server := (S.rotate s.server f.credential w).1
      flights := Function.update s.flights n
        (some { f with reply := some (S.rotate s.server f.credential w).2 }) } := by
  simp only [step, hf, hreply]

/-- A lane sends only credentials that no request of the client has carried without an answer. -/
def SendsAnswered (s : System σ ι κ) : Action ι ω ν → Prop
  | .send i lane => s.busy i lane = false → ∀ k, s.holds i = some k →
      ∀ k', s.Unanswered i k' → S.digest k' ≠ S.digest k
  | _ => True

variable {S} {s : System σ ι κ} {a : Action ι ω ν} {acts : List (Action ι ω ν)}

theorem Sound.step (hS : S.Lawful) (h : Sound S s) (ha : SendsAnswered S s a) :
    Sound S (s.step S a) := by
  cases a with
  | login i w =>
    obtain ⟨hvalid, hout⟩ := hS.login s.server w h.valid
    rcases hr : S.login s.server w with ⟨server, _ | k⟩ <;> rw [hr] at hvalid hout <;>
      simp only [System.step, hr]
    · exact h.of_sameFlights ⟨hvalid, hout.1, hout.2, rfl, fun _ _ => Iff.rfl,
        fun m g hg => ⟨g, hg, rfl, fun _ => Iff.rfl⟩, fun m hm => ⟨hm, id⟩⟩
    · obtain ⟨hk, hissued, hused⟩ := hout
      rw [Set.union_empty] at hused
      exact h.loggedIn hS hvalid hk hissued hused
  | send i lane =>
    rcases hk : s.holds i with _ | k <;> simp only [System.step, hk]
    · exact h
    · split
      · exact h
      · rename_i hidle
        exact h.sends hk (ha (by simpa using hidle) k hk)
  | handle n w =>
    rcases hf : s.flights n with _ | f
    · simpa only [System.step, hf] using h
    · rcases hreply : f.reply with _ | reply
      · have hunused := h.sentUnused n f hf (by simp [hreply])
        obtain ⟨hvalid, hout⟩ := hS.rotate s.server f.credential w h.valid hunused
        rw [step_handle S hf hreply]
        rcases hr : S.rotate s.server f.credential w with ⟨server, _ | k⟩ <;>
          rw [hr] at hvalid hout
        · exact h.modify hf rfl rfl (by simp [hreply]) hvalid hout.1 hout.2
        · exact h.replaced hS hf hvalid hout.1 hout.2.1 hout.2.2
      · simpa only [System.step, hf, hreply] using h
  | deliver n =>
    rcases hf : s.flights n with _ | f <;> simp only [System.step, hf]
    · exact h
    · rcases hheard : f.heard with _ | _ <;> rcases hreply : f.reply with _ | _ | k
      · exact h
      · exact h.drop hf
      · exact h.drop hf
      · exact h
      · exact h.refused hf (by simp [hreply])
      · exact h.delivered hf hreply
  | timeout n =>
    rcases hf : s.flights n with _ | f <;> simp only [System.step, hf]
    · exact h
    · exact h.modify hf rfl rfl (fun _ => Iff.rfl) h.valid rfl rfl
  | lose n =>
    rcases hf : s.flights n with _ | f <;> simp only [System.step, hf]
    · exact h
    · exact h.drop hf

/-- The server moves only when a client logs in and when a request is handled. -/
theorem step_server (s : System σ ι κ) (a : Action ι ω ν) :
    (s.step S a).server = s.server ∨
      (∃ w, (s.step S a).server = (S.login s.server w).1) ∨
      ∃ n f w, s.flights n = some f ∧ f.reply = none ∧
        (s.step S a).server = (S.rotate s.server f.credential w).1 := by
  cases a with
  | login i w =>
    refine .inr (.inl ⟨w, ?_⟩)
    rcases hr : S.login s.server w with ⟨server, _ | k⟩ <;> simp only [System.step, hr]
  | send i lane =>
    refine .inl ?_
    rcases hk : s.holds i with _ | k <;> simp only [System.step, hk]
    split <;> rfl
  | handle n w =>
    rcases hf : s.flights n with _ | f
    · exact .inl (by simp only [System.step, hf])
    · rcases hreply : f.reply with _ | reply
      · exact .inr (.inr ⟨n, f, w, hf, hreply, by rw [step_handle S hf hreply]⟩)
      · exact .inl (by simp only [System.step, hf, hreply])
  | deliver n =>
    refine .inl ?_
    rcases hf : s.flights n with _ | f <;> simp only [System.step, hf]
    rcases f.heard with _ | _ <;> rcases f.reply with _ | _ | k <;> rfl
  | timeout n => exact .inl (by rcases hf : s.flights n with _ | f <;> simp only [System.step, hf])
  | lose n => exact .inl (by rcases hf : s.flights n with _ | f <;> simp only [System.step, hf, drop])

theorem Sound.server_keeps {P : σ → Prop} (hkeeps : S.Keeps P) (h : Sound S s)
    (hP : P s.server) : P (s.step S a).server := by
  rcases step_server s a with heq | ⟨w, heq⟩ | ⟨n, f, w, hf, hreply, heq⟩ <;> rw [heq]
  · exact hP
  · exact hkeeps.login s.server w h.valid hP
  · exact hkeeps.rotate s.server f.credential w h.valid
      (h.sentUnused n f hf (by simp [hreply])) hP

/-- What the server keeps as long as it sees no credential twice. -/
theorem server_throughout {P : σ → Prop} (hS : S.Lawful) (hkeeps : S.Keeps P)
    (h : Sound S s) (hP : P s.server) (hacts : Always (System.step S) (SendsAnswered S) s acts) :
    Throughout (System.step S) (fun s => P s.server) s acts :=
  (hacts.throughout (I := fun s => Sound S s ∧ P s.server) ⟨h, hP⟩
    fun _ _ h ha => ⟨h.1.step hS ha, h.1.server_keeps hkeeps h.2⟩).imp fun _ h => h.2

/-- Every client uses one lane, and every request is answered. -/
def Tidy (lane : ι → ℕ) : Action ι ω ν → Prop
  | .send i l => l = lane i
  | .timeout _ => False
  | .lose _ => False
  | _ => True

/-- Every request is still waited for, on the lane of its client. -/
structure Waiting (lane : ι → ℕ) (s : System σ ι κ) : Prop where
  lost : s.lost = []
  flights : ∀ n f, s.flights n = some f → f.heard = true ∧ f.lane = lane f.client ∧ n < s.sent

variable {lane : ι → ℕ}

/-- A client whose lane is free has nothing unanswered. -/
theorem Waiting.sendsAnswered (h : Waiting lane s) (ha : Tidy lane a) : SendsAnswered S s a := by
  cases a with
  | send i l =>
    obtain rfl : l = lane i := ha
    rintro hidle k hk k' (⟨n, f, hf, rfl, rfl⟩ | hlost)
    · obtain ⟨hheard, hlane, hlt⟩ := h.flights n f hf
      have hbusy : s.busy f.client (lane f.client) = true := by
        rw [busy, List.any_eq_true]
        exact ⟨n, List.mem_range.mpr hlt, by simp [hf, hheard, hlane]⟩
      rw [hidle] at hbusy
      cases hbusy
    · rw [h.lost] at hlost
      cases hlost
  | _ => trivial

omit [DecidableEq ι] in
theorem Waiting.update (h : Waiting lane s) {n : ℕ} {o : Option (Flight ι κ)} {server : σ}
    {holds : ι → Option κ} (ho : ∀ f, o = some f → f.heard = true ∧ f.lane = lane f.client ∧
      n < s.sent) :
    Waiting lane { s with
      server := server, holds := holds, flights := Function.update s.flights n o } := by
  refine ⟨h.lost, fun m f hf => ?_⟩
  rcases update_some hf with ⟨rfl, hsome⟩ | ⟨-, hold⟩
  · exact ho f hsome
  · exact h.flights m f hold

theorem Waiting.step (h : Waiting lane s) (ha : Tidy lane a) : Waiting lane (s.step S a) := by
  cases a with
  | login i w =>
    rcases hr : S.login s.server w with ⟨server, _ | k⟩ <;> simp only [System.step, hr]
    · exact ⟨h.lost, h.flights⟩
    · exact ⟨h.lost, h.flights⟩
  | send i l =>
    obtain rfl : l = lane i := ha
    rcases hk : s.holds i with _ | k <;> simp only [System.step, hk]
    · exact h
    · split
      · exact h
      · refine ⟨h.lost, fun m f hf => ?_⟩
        rcases update_some hf with ⟨rfl, hsome⟩ | ⟨-, hold⟩
        · obtain rfl := Option.some.inj hsome
          exact ⟨rfl, rfl, Nat.lt_succ_self _⟩
        · obtain ⟨hheard, hlane, hlt⟩ := h.flights m f hold
          exact ⟨hheard, hlane, Nat.lt_succ_of_lt hlt⟩
  | handle n w =>
    rcases hf : s.flights n with _ | f
    · simpa only [System.step, hf] using h
    · rcases hreply : f.reply with _ | reply <;> simp only [System.step, hf, hreply]
      · exact h.update fun f' hf' => Option.some.inj hf' ▸ h.flights n f hf
      · exact h
  | deliver n =>
    rcases hf : s.flights n with _ | f <;> simp only [System.step, hf]
    · exact h
    · obtain ⟨hheard, -⟩ := h.flights n f hf
      rw [hheard]
      rcases hreply : f.reply with _ | _ | k
      · exact h
      · exact h.update fun f' hf' => absurd hf' (by simp)
      · exact h.update fun f' hf' => absurd hf' (by simp)
  | timeout n => exact ha.elim
  | lose n => exact ha.elim

/-- A client that waits for its answers never sends a credential twice. -/
theorem sendsAnswered_of_tidy (h : Waiting lane s) (hacts : ∀ a ∈ acts, Tidy lane a) :
    Always (System.step S) (SendsAnswered S) s acts := by
  induction acts generalizing s with
  | nil => trivial
  | cons a acts ih =>
    obtain ⟨ha, hrest⟩ := List.forall_mem_cons.mp hacts
    exact ⟨h.sendsAnswered ha, ih (h.step ha) hrest⟩

omit [DecidableEq ι] in
theorem start_waiting (server : σ) : Waiting lane (start (ι := ι) (κ := κ) server) :=
  ⟨rfl, fun _ _ h => by cases h⟩

end Steps

end System

end Framework.RotatingCredential
