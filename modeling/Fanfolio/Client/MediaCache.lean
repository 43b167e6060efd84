import Fanfolio.Framework.Run
import Fanfolio.Framework.Table
import Mathlib.Data.List.Nodup
import Mathlib.Data.List.Perm.Subperm
import Mathlib.Order.Basic

/-!
# Object URLs of protected media

The fan's app keeps the object URL of each protected image, and the request of each that is under
way. A URL is revoked when it leaves the cache. Requests end in any order, between other calls.
-/

namespace Fanfolio.MediaCache

open Framework

def mediaCacheLimit : ℕ := 64

/-- `mediaUrlCache` in insertion order, `mediaRequestCache`, and the requests under way. Object URLs
are numbered; `live` are those that are not revoked. -/
structure MediaState where
  urls : List (String × ℕ) := []
  requests : List (String × ℕ) := []
  flights : List (ℕ × String) := []
  live : List ℕ := []
  created : ℕ := 0
  sent : ℕ := 0
deriving DecidableEq, Repr

inductive Answer where
  /-- The path is public, and is loaded without the cache. -/
  | direct (url : String)
  | cached (url : ℕ)
  /-- The caller waits for the request. -/
  | pending (request : ℕ)
deriving DecidableEq, Repr

def revoke (url : ℕ) (live : List ℕ) : List ℕ := live.filter (· ≠ url)

/-- `isPublicFanMediaPath`: `/api/cards/…/image`, `/api/rewards/…/image` and `/api/events/…/hero`,
up to a query. -/
def isPublicFanMediaPath (path : List Char) : Bool :=
  let endsIn (name rest : List Char) : Bool :=
    match rest.dropWhile (· ≠ '/') with
    | [] => false
    | _ :: file => rest.head? ≠ some '/' && name.isPrefixOf file &&
        (file.length = name.length || (file.drop name.length).head? = some '?')
  let under (folder : List Char) : Option (List Char) :=
    if folder.isPrefixOf path then some (path.drop folder.length) else none
  ((under "/api/cards/".toList).any (endsIn "image".toList)) ||
    ((under "/api/rewards/".toList).any (endsIn "image".toList)) ||
    (under "/api/events/".toList).any (endsIn "hero".toList)

/-- Entries in front leave the cache while it is too long; the loop stops at an empty key. -/
def evict : List (String × ℕ) → List (String × ℕ) × List ℕ
  | [] => ([], [])
  | (key, url) :: rest =>
    if mediaCacheLimit < rest.length + 1 ∧ key ≠ "" then
      let (kept, evicted) := evict rest
      (kept, url :: evicted)
    else ((key, url) :: rest, [])

/-- `Map.set`. -/
def setUrl (key : String) (url : ℕ) : List (String × ℕ) → List (String × ℕ)
  | [] => [(key, url)]
  | (key', url') :: rest =>
    if key' = key then (key, url) :: rest else (key', url') :: setUrl key url rest

/-- What `force` does first. -/
def forget (s : MediaState) (key : String) : MediaState :=
  match s.urls.lookup key with
  | some url =>
    { s with
      live := revoke url s.live
      urls := s.urls.filter fun entry => entry.1 ≠ key }
  | none => s

/-- The cached URL, the request that is under way, or a new one. -/
def ask (s : MediaState) (key : String) : MediaState × Answer :=
  match s.urls.lookup key, s.requests.lookup key with
  | some url, _ => (s, .cached url)
  | none, some request => (s, .pending request)
  | none, none =>
    ({ s with
      requests := s.requests ++ [(key, s.sent)]
      flights := s.flights ++ [(s.sent, key)]
      sent := s.sent + 1 }, .pending s.sent)

/-- `fetchAuthenticatedMedia`, up to its first wait; `resolve` is `resolveApiUrl`. -/
def fetchAuthenticatedMedia (resolve : String → String) (s : MediaState) (path : String)
    (force : Bool) : MediaState × Answer :=
  if isPublicFanMediaPath path.toList then (s, .direct (resolve path))
  else
    let key := resolve path
    ask (if force then forget s key else s) key

/-- The rest of a request: it has a new object URL, or it has failed. -/
def finish (s : MediaState) (request : ℕ) (ok : Bool) : MediaState :=
  match s.flights.lookup request with
  | none => s
  | some key =>
    let s := { s with
      requests := s.requests.filter fun entry => entry.1 ≠ key
      flights := s.flights.filter fun flight => flight.1 ≠ request }
    if ok then
      let (kept, evicted) := evict (setUrl key s.created s.urls)
      { s with
        urls := kept
        live := evicted.foldr revoke (s.live ++ [s.created])
        created := s.created + 1 }
    else s

inductive MediaAction where
  | fetch (path : String) (force : Bool)
  | finish (request : ℕ) (ok : Bool)
deriving DecidableEq, Repr

def step (resolve : String → String) (s : MediaState) : MediaAction → MediaState
  | .fetch path force => (fetchAuthenticatedMedia resolve s path force).1
  | .finish request ok => finish s request ok

/-- Exactly the cached object URLs are live, a key has one request under way at most, and none while
its URL is cached. -/
structure Sound (s : MediaState) : Prop where
  keys : (s.urls.map Prod.fst).Nodup
  values : (s.urls.map Prod.snd).Nodup
  live : ∀ url, url ∈ s.live ↔ url ∈ s.urls.map Prod.snd
  once : s.live.Nodup
  created : ∀ url ∈ s.live, url < s.created
  requestKeys : (s.requests.map Prod.fst).Nodup
  flights : ∀ request key, (request, key) ∈ s.flights ↔ (key, request) ∈ s.requests
  sent : ∀ flight ∈ s.flights, flight.1 < s.sent
  ids : (s.flights.map Prod.fst).Nodup
  apart : ∀ key ∈ s.requests.map Prod.fst, key ∉ s.urls.map Prod.fst

/-- No key is empty, and the cache has its size. -/
structure Bounded (s : MediaState) : Prop where
  urls : ∀ key ∈ s.urls.map Prod.fst, key ≠ ""
  requests : ∀ key ∈ s.requests.map Prod.fst, key ≠ ""
  size : s.urls.length ≤ mediaCacheLimit

section

variable {s : MediaState} {key : String} {url : ℕ} {urls : List (String × ℕ)}

theorem mem_revoke {live : List ℕ} {url' : ℕ} : url' ∈ revoke url live ↔ url' ∈ live ∧ url' ≠ url := by
  simp [revoke]

theorem mem_revokeAll {live evicted : List ℕ} :
    url ∈ evicted.foldr revoke live ↔ url ∈ live ∧ url ∉ evicted := by
  induction evicted with
  | nil => simp
  | cons u evicted ih => rw [List.foldr_cons, mem_revoke, ih, List.mem_cons, not_or]; tauto

theorem revokeAll_sublist (live evicted : List ℕ) : (evicted.foldr revoke live).Sublist live := by
  induction evicted with
  | nil => exact List.Sublist.refl live
  | cons u evicted ih => exact List.filter_sublist.trans ih

theorem setUrl_of_notMem (h : key ∉ urls.map Prod.fst) : setUrl key url urls = urls ++ [(key, url)] := by
  induction urls with
  | nil => rfl
  | cons entry urls ih =>
    rw [List.map_cons, List.mem_cons, not_or] at h
    rw [setUrl, if_neg (Ne.symm h.1), ih h.2, List.cons_append]

/-- Entries leave in front, and their URLs are revoked. -/
theorem evict_append (urls : List (String × ℕ)) :
    ∃ front, urls = front ++ (evict urls).1 ∧ (evict urls).2 = front.map Prod.snd := by
  fun_induction evict urls with
  | case1 => exact ⟨[], rfl, rfl⟩
  | case2 key url rest _ kept evicted hevict ih =>
    obtain ⟨front, hfront, hevicted⟩ := ih
    rw [hevict] at hfront hevicted
    exact ⟨(key, url) :: front, congrArg ((key, url) :: ·) hfront, congrArg (url :: ·) hevicted⟩
  | case3 => exact ⟨[], rfl, rfl⟩

theorem evict_size (h : ∀ key ∈ urls.map Prod.fst, key ≠ "") :
    (evict urls).1.length ≤ mediaCacheLimit := by
  fun_induction evict urls with
  | case1 => exact Nat.zero_le _
  | case2 key url rest _ kept evicted hevict ih =>
    have hkept := ih fun key' hkey' => h key' (List.mem_cons_of_mem _ hkey')
    simpa only [hevict] using hkept
  | case3 key url rest hstop =>
    have hkey : key ≠ "" := h key List.mem_cons_self
    rw [not_and, not_not] at hstop
    exact Nat.le_of_not_lt fun hlong => hkey (hstop hlong)

/-- The newest entry stays. -/
theorem evict_concat (urls : List (String × ℕ)) (entry : String × ℕ) :
    entry ∈ (evict (urls ++ [entry])).1 := by
  induction urls with
  | nil => exact List.mem_singleton_self entry
  | cons head urls ih =>
    rw [List.cons_append, evict]
    split
    · exact ih
    · exact List.mem_cons_of_mem _ (List.mem_append_right _ (List.mem_singleton_self entry))

theorem mem_of_lookup {α β : Type} [BEq α] [LawfulBEq α] {entries : List (α × β)} {k : α} {v : β}
    (h : entries.lookup k = some v) : (k, v) ∈ entries := by
  obtain ⟨before, after, rfl, -⟩ := List.lookup_eq_some_iff.mp h
  exact List.mem_append_right _ List.mem_cons_self

theorem notMem_of_lookup {α β : Type} [BEq α] [LawfulBEq α] {entries : List (α × β)} {k : α}
    (h : entries.lookup k = none) : k ∉ entries.map Prod.fst := by
  rintro hmem
  obtain ⟨entry, hentry, rfl⟩ := List.mem_map.mp hmem
  have hne := List.lookup_eq_none_iff.mp h entry hentry
  simp at hne

theorem Sound.forget (h : Sound s) (key : String) : Sound (forget s key) := by
  rw [MediaCache.forget]
  split
  · rename_i url hurl
    have hmem : (key, url) ∈ s.urls := mem_of_lookup hurl
    have hsub : (s.urls.filter fun entry => entry.1 ≠ key).Sublist s.urls := List.filter_sublist
    refine { h with keys := h.keys.sublist (hsub.map _), values := h.values.sublist (hsub.map _),
                    live := ?live, once := h.once.sublist List.filter_sublist,
                    created := ?created, apart := ?apart }
    case live =>
      intro url'
      rw [mem_revoke, h.live, List.mem_map, List.mem_map]
      constructor
      · rintro ⟨⟨entry, hentry, rfl⟩, hne⟩
        refine ⟨entry, List.mem_filter.mpr ⟨hentry, decide_eq_true ?_⟩, rfl⟩
        rintro rfl
        exact hne (congrArg Prod.snd (eq_of_unique h.keys hentry hmem rfl))
      · rintro ⟨entry, hentry, rfl⟩
        obtain ⟨hentry, hkey⟩ := List.mem_filter.mp hentry
        refine ⟨⟨entry, hentry, rfl⟩, fun heq => of_decide_eq_true hkey ?_⟩
        exact congrArg Prod.fst (eq_of_unique h.values hentry hmem heq)
    case created => exact fun url' hurl' => h.created url' (mem_revoke.mp hurl').1
    case apart => exact fun key' hkey' hmem' => h.apart key' hkey' ((hsub.map _).subset hmem')
  · exact h

/-- A request of a key that is neither cached nor under way. -/
theorem Sound.request (h : Sound s) (hurls : key ∉ s.urls.map Prod.fst)
    (hrequests : key ∉ s.requests.map Prod.fst) :
    Sound { s with
      requests := s.requests ++ [(key, s.sent)]
      flights := s.flights ++ [(s.sent, key)]
      sent := s.sent + 1 } where
  keys := h.keys
  values := h.values
  live := h.live
  once := h.once
  created := h.created
  requestKeys := nodup_insert h.requestKeys fun entry hentry heq =>
    hrequests (List.mem_map.mpr ⟨entry, hentry, heq⟩)
  flights request key' := by
    simp only [List.mem_append, List.mem_singleton, Prod.mk.injEq, h.flights, and_comm]
  sent flight hflight := by
    rcases List.mem_append.mp hflight with hflight | hflight
    · exact Nat.lt_succ_of_lt (h.sent flight hflight)
    · rw [List.mem_singleton.mp hflight]
      exact Nat.lt_succ_self _
  ids := nodup_insert h.ids fun flight hflight heq =>
    Nat.ne_of_lt (h.sent flight hflight) heq
  apart key' hkey' := by
    rw [List.map_append, List.mem_append] at hkey'
    rcases hkey' with hkey' | hkey'
    · exact h.apart key' hkey'
    · rw [List.mem_singleton.mp hkey']
      exact hurls

/-- A request that has ended. -/
theorem Sound.ended (h : Sound s) {request : ℕ} (hflight : (request, key) ∈ s.flights) :
    Sound { s with
      requests := s.requests.filter fun entry => entry.1 ≠ key
      flights := s.flights.filter fun flight => flight.1 ≠ request } := by
  have hentry : (key, request) ∈ s.requests := (h.flights request key).mp hflight
  have hrequests : (s.requests.filter fun entry => entry.1 ≠ key).Sublist s.requests :=
    List.filter_sublist
  have hflights : (s.flights.filter fun flight => flight.1 ≠ request).Sublist s.flights :=
    List.filter_sublist
  refine { h with requestKeys := h.requestKeys.sublist (hrequests.map _), flights := ?flights,
                  sent := fun flight hflight => h.sent flight (hflights.subset hflight),
                  ids := h.ids.sublist (hflights.map _),
                  apart := fun key' hkey' => h.apart key' ((hrequests.map _).subset hkey') }
  intro request' key'
  rw [List.mem_filter, List.mem_filter, h.flights]
  -- An id belongs to one key, and a key to one id.
  have hsame (hmem : (key', request') ∈ s.requests) : request' = request ↔ key' = key := by
    constructor
    · rintro rfl
      exact congrArg Prod.snd (eq_of_unique h.ids ((h.flights _ _).mpr hmem) hflight rfl)
    · rintro rfl
      exact congrArg Prod.snd (eq_of_unique h.requestKeys hmem hentry rfl)
  constructor
  · rintro ⟨hmem, hne⟩
    exact ⟨hmem, by simpa [hsame hmem] using hne⟩
  · rintro ⟨hmem, hne⟩
    exact ⟨hmem, by simpa [hsame hmem] using hne⟩

/-- A new object URL enters the cache, and others may leave it. -/
theorem Sound.cached (h : Sound s) (hurls : key ∉ s.urls.map Prod.fst)
    (hrequests : key ∉ s.requests.map Prod.fst) :
    Sound { s with
      urls := (evict (setUrl key s.created s.urls)).1
      live := (evict (setUrl key s.created s.urls)).2.foldr revoke (s.live ++ [s.created])
      created := s.created + 1 } := by
  rw [setUrl_of_notMem hurls]
  obtain ⟨front, hfront, hevicted⟩ := evict_append (s.urls ++ [(key, s.created)])
  have hkeys : ((s.urls ++ [(key, s.created)]).map Prod.fst).Nodup :=
    nodup_insert h.keys fun entry hentry heq => hurls (List.mem_map.mpr ⟨entry, hentry, heq⟩)
  have hfresh : s.created ∉ s.urls.map Prod.snd := fun hmem =>
    Nat.lt_irrefl _ (h.created _ ((h.live _).mpr hmem))
  have hvalues : ((s.urls ++ [(key, s.created)]).map Prod.snd).Nodup :=
    nodup_insert h.values fun entry hentry heq => hfresh (List.mem_map.mpr ⟨entry, hentry, heq⟩)
  have hsub : (evict (s.urls ++ [(key, s.created)])).1.Sublist (s.urls ++ [(key, s.created)]) := by
    nth_rewrite 2 [hfront]
    exact List.sublist_append_right _ _
  have hlive : ∀ url, url ∈ s.live ++ [s.created] ↔
      url ∈ (s.urls ++ [(key, s.created)]).map Prod.snd := by
    intro url
    rw [List.mem_append, h.live, List.map_append, List.mem_append]
    rfl
  refine { h with keys := hkeys.sublist (hsub.map _), values := hvalues.sublist (hsub.map _),
                  live := ?live, once := ?once, created := ?created, apart := ?apart }
  case once =>
    refine List.Nodup.sublist (revokeAll_sublist _ _) (List.nodup_append.mpr ⟨h.once, by simp, ?_⟩)
    intro url hurl url' hurl' heq
    rw [List.mem_singleton.mp hurl'] at heq
    exact Nat.ne_of_lt (h.created url hurl) heq
  case live =>
    intro url
    rw [mem_revokeAll, hlive, hevicted]
    rw [hfront, List.map_append, List.nodup_append] at hvalues
    nth_rewrite 1 [hfront]
    rw [List.map_append, List.mem_append]
    constructor
    · rintro ⟨hleft | hkept, hnot⟩
      · exact absurd hleft hnot
      · exact hkept
    · exact fun hkept => ⟨.inr hkept, fun hleft => hvalues.2.2 _ hleft _ hkept rfl⟩
  case created =>
    intro url hurl
    rcases List.mem_append.mp (mem_revokeAll.mp hurl).1 with hurl | hurl
    · exact Nat.lt_succ_of_lt (h.created url hurl)
    · rw [List.mem_singleton.mp hurl]
      exact Nat.lt_succ_self _
  case apart =>
    intro key' hkey' hmem
    have hmem := (hsub.map Prod.fst).subset hmem
    rw [List.map_append, List.mem_append] at hmem
    rcases hmem with hmem | hmem
    · exact h.apart key' hkey' hmem
    · obtain rfl : key' = key := List.mem_singleton.mp hmem
      exact hrequests hkey'

variable {resolve : String → String}

theorem Sound.ask (h : Sound s) (key : String) : Sound (MediaCache.ask s key).1 := by
  rw [MediaCache.ask]
  split
  · exact h
  · exact h
  · rename_i hurls hrequests
    exact h.request (notMem_of_lookup hurls) (notMem_of_lookup hrequests)

theorem Sound.fetch (h : Sound s) (path : String) (force : Bool) :
    Sound (fetchAuthenticatedMedia resolve s path force).1 := by
  rw [fetchAuthenticatedMedia]
  split
  · exact h
  · refine Sound.ask ?_ _
    split
    · exact h.forget _
    · exact h

/-- The key of a request that has ended is free. -/
theorem Sound.finish (h : Sound s) (request : ℕ) (ok : Bool) :
    Sound (MediaCache.finish s request ok) := by
  rw [MediaCache.finish]
  split
  · exact h
  · rename_i key hkey
    have hflight : (request, key) ∈ s.flights := mem_of_lookup hkey
    have hentry : key ∈ s.requests.map Prod.fst :=
      List.mem_map.mpr ⟨(key, request), (h.flights request key).mp hflight, rfl⟩
    have hended := h.ended hflight
    dsimp only
    split
    · exact hended.cached (h.apart key hentry) (by simp)
    · exact hended

theorem Sound.step (h : Sound s) (a : MediaAction) : Sound (MediaCache.step resolve s a) := by
  cases a with
  | fetch path force => exact h.fetch path force
  | finish request ok => exact h.finish request ok

/-- No path resolves to an empty key. -/
def Named (resolve : String → String) : MediaAction → Prop
  | .fetch path _ => resolve path ≠ ""
  | .finish _ _ => True

theorem Bounded.forget (h : Bounded s) (key : String) : Bounded (MediaCache.forget s key) := by
  rw [MediaCache.forget]
  split
  · have hsub : (s.urls.filter fun entry => entry.1 ≠ key).Sublist s.urls := List.filter_sublist
    exact ⟨fun key' hkey' => h.urls key' ((hsub.map _).subset hkey'), h.requests,
      Nat.le_trans hsub.length_le h.size⟩
  · exact h

theorem Bounded.ask (h : Bounded s) (hkey : key ≠ "") : Bounded (MediaCache.ask s key).1 := by
  rw [MediaCache.ask]
  split
  · exact h
  · exact h
  · refine ⟨h.urls, ?_, h.size⟩
    intro key' hkey'
    rw [List.map_append, List.mem_append] at hkey'
    rcases hkey' with hkey' | hkey'
    · exact h.requests key' hkey'
    · rw [List.mem_singleton.mp hkey']
      exact hkey

theorem Bounded.finish (hs : Sound s) (h : Bounded s) (request : ℕ) (ok : Bool) :
    Bounded (MediaCache.finish s request ok) := by
  rw [MediaCache.finish]
  split
  · exact h
  · rename_i key hkey
    have hentry : key ∈ s.requests.map Prod.fst :=
      List.mem_map.mpr ⟨(key, request), (hs.flights request key).mp (mem_of_lookup hkey), rfl⟩
    have hsub : (s.requests.filter fun entry => entry.1 ≠ key).Sublist s.requests :=
      List.filter_sublist
    have hrequests : ∀ key' ∈ (s.requests.filter fun entry => entry.1 ≠ key).map Prod.fst,
        key' ≠ "" := fun key' hkey' => h.requests key' ((hsub.map _).subset hkey')
    dsimp only
    split
    · have hkeys : ∀ key' ∈ (setUrl key s.created s.urls).map Prod.fst, key' ≠ "" := by
        rw [setUrl_of_notMem (hs.apart key hentry), List.map_append]
        intro key' hkey'
        rcases List.mem_append.mp hkey' with hkey' | hkey'
        · exact h.urls key' hkey'
        · rw [List.mem_singleton.mp hkey']
          exact h.requests key hentry
      obtain ⟨front, hfront, -⟩ := evict_append (setUrl key s.created s.urls)
      refine ⟨fun key' hkey' => hkeys key' ?_, hrequests, evict_size hkeys⟩
      rw [hfront, List.map_append]
      exact List.mem_append_right _ hkey'
    · exact ⟨h.urls, hrequests, h.size⟩

theorem Bounded.step (hs : Sound s) (h : Bounded s) {a : MediaAction} (ha : Named resolve a) :
    Bounded (MediaCache.step resolve s a) := by
  cases a with
  | fetch path force =>
    rw [MediaCache.step, fetchAuthenticatedMedia]
    split
    · exact h
    · refine Bounded.ask ?_ ha
      split
      · exact h.forget _
      · exact h
  | finish request ok => exact h.finish hs request ok

theorem start_sound : Sound {} := by
  constructor <;> simp

theorem sound_throughout (resolve : String → String) (acts : List MediaAction) :
    Throughout (MediaCache.step resolve) Sound {} acts :=
  throughout_of_step start_sound fun _ a h => h.step a

theorem bounded_throughout {acts : List MediaAction} (h : ∀ a ∈ acts, Named resolve a) :
    Throughout (MediaCache.step resolve) Bounded {} acts := by
  have hnamed : Always (MediaCache.step resolve) (fun _ a => Named resolve a) {} acts := by
    rw [always_iff_split]
    rintro pre a post rfl
    exact h a (by simp)
  have hboth := hnamed.throughout (I := fun s => Sound s ∧ Bounded s)
    ⟨start_sound, by constructor <;> simp⟩ fun s a hs ha => ⟨hs.1.step a, hs.2.step hs.1 ha⟩
  exact hboth.imp fun _ h => h.2

/-- A key has one request under way at most. -/
theorem Sound.flightKeys (h : Sound s) : (s.flights.map Prod.snd).Nodup := by
  refine List.Nodup.map_on ?_ h.ids.of_map
  rintro ⟨request, key⟩ hflight ⟨request', key'⟩ hflight' rfl
  exact Prod.ext (congrArg Prod.snd (eq_of_unique h.requestKeys
    ((h.flights _ _).mp hflight) ((h.flights _ _).mp hflight') rfl)) rfl

theorem Sound.live_length (h : Sound s) : s.live.length ≤ s.urls.length := by
  have hsub : s.live ⊆ s.urls.map Prod.snd := fun url hurl => (h.live url).mp hurl
  simpa using (h.once.subperm hsub).length_le

/-- Whatever is fetched and in whatever order requests end: no object URL outlives its entry, none
is revoked before, no image has two requests at a time, and no more URLs are alive than the cache
holds if no path resolves to an empty key. -/
theorem objectUrls_throughout (resolve : String → String) (acts : List MediaAction) :
    Throughout (MediaCache.step resolve)
      (fun s => (∀ url, url ∈ s.live ↔ url ∈ s.urls.map Prod.snd) ∧
        (s.flights.map Prod.snd).Nodup ∧
        ((∀ a ∈ acts, Named resolve a) → s.live.length ≤ mediaCacheLimit)) {} acts := by
  rw [throughout_iff_reached]
  intro pre hpre
  have hsound := throughout_iff_reached.mp (sound_throughout resolve acts) pre hpre
  refine ⟨hsound.live, hsound.flightKeys, fun hnamed => ?_⟩
  have hbounded := throughout_iff_reached.mp (bounded_throughout hnamed) pre hpre
  exact Nat.le_trans hsound.live_length hbounded.size

/-- The URL that a caller is given is alive: the cached one, and the one of a request that has just
ended, for all who wait for it. -/
theorem answers_live (resolve : String → String) (acts : List MediaAction) :
    let s := run (MediaCache.step resolve) {} acts
    (∀ path force url, (fetchAuthenticatedMedia resolve s path force).2 = .cached url →
        url ∈ (fetchAuthenticatedMedia resolve s path force).1.live) ∧
      ∀ request key, (request, key) ∈ s.flights →
        s.created ∈ (MediaCache.finish s request true).live ∧
          (key, s.created) ∈ (MediaCache.finish s request true).urls := by
  have hsound := (sound_throughout resolve acts).last
  generalize run (MediaCache.step resolve) {} acts = s at hsound
  refine ⟨fun path force url hanswer => ?_, fun request key hflight => ?_⟩
  · have hurl : url ∈ (fetchAuthenticatedMedia resolve s path force).1.urls.map Prod.snd := by
      revert hanswer
      rw [fetchAuthenticatedMedia]
      split
      · rintro ⟨⟩
      · rw [MediaCache.ask]
        split
        · rename_i url' _ hfound
          rintro ⟨⟩
          exact List.mem_map.mpr ⟨_, mem_of_lookup hfound, rfl⟩
        · rintro ⟨⟩
        · rintro ⟨⟩
    exact ((hsound.fetch path force).live url).mpr hurl
  · have hentry : key ∈ s.requests.map Prod.fst :=
      List.mem_map.mpr ⟨(key, request), (hsound.flights request key).mp hflight, rfl⟩
    have hlookup : s.flights.lookup request = some key := by
      rcases hfound : s.flights.lookup request with _ | key'
      · exact absurd (List.mem_map.mpr ⟨(request, key), hflight, rfl⟩) (notMem_of_lookup hfound)
      · exact congrArg (some ·.2) (eq_of_unique hsound.ids (mem_of_lookup hfound) hflight rfl)
    have hcached : (key, s.created) ∈ (MediaCache.finish s request true).urls := by
      simp only [MediaCache.finish, hlookup, if_true, setUrl_of_notMem (hsound.apart key hentry)]
      exact evict_concat _ _
    exact ⟨((hsound.finish request true).live _).mpr (List.mem_map.mpr ⟨_, hcached, rfl⟩), hcached⟩

end

end Fanfolio.MediaCache
