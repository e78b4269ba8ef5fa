import Mathlib.Algebra.GroupWithZero.Nat
import Mathlib.Data.List.TakeWhile
import Gateway.Proofs.Health

/-!
# The history of a pool

Handles to a pool share it, and each use of it is one event that no other comes between.  So
whatever is done through all of them, in whatever order they get to it, is one list of events, with
time passing between them.  A history is this list, the latest event first.

What is recorded for a URL goes to its home, the first backend that has it
(`getElem?_updateFirst`).  So what is known of that backend can be read off the history: its
failures are those since the last success, as far as they are counted, and it was seen when the last
outcome was recorded for its URL (`told_pool`, by induction on the history).  All else in a pool
stays as it was configured, but for the cursor, and that stays within it.
-/

namespace Gateway.Proxy

/-! ## Where records go -/

namespace Pool

/-- The index of the first backend that has a URL. -/
def home? (p : Pool) (url : Text) : Option Nat := p.backends.findIdx? fun b => b.url = url

/-- A URL is at home where a backend has it. -/
theorem exists_of_home? {p : Pool} {url : Text} {i : Nat} (h : p.home? url = some i) :
    ∃ b, p.backends[i]? = some b ∧ b.url = url := by
  obtain ⟨hi, hurl, -⟩ := List.findIdx?_eq_some_iff_getElem.mp h
  exact ⟨_, List.getElem?_eq_getElem hi, of_decide_eq_true hurl⟩

/-- No two URLs have the same home. -/
theorem home?_ne {p : Pool} {url other : Text} {i : Nat} (h : p.home? url = some i)
    (hne : other ≠ url) : p.home? other ≠ some i := by
  intro hother
  obtain ⟨b, hb, rfl⟩ := exists_of_home? h
  obtain ⟨c, hc, rfl⟩ := exists_of_home? hother
  rw [hb] at hc
  cases hc
  exact hne rfl

/-- An update for a URL changes its home, and nothing else. -/
theorem getElem?_updateFirst (url : Text) (f : Backend → Backend) (p : Pool) (i : Nat) :
    (updateFirst url f p.backends)[i]? =
      if p.home? url = some i then p.backends[i]?.map f else p.backends[i]? := by
  rw [home?]
  induction p.backends generalizing i with
  | nil => simp [updateFirst]
  | cons b bs ih =>
    by_cases hb : b.url = url
    · cases i <;> simp [updateFirst, List.findIdx?_cons, hb]
    · cases i with
      | zero => simp [updateFirst, List.findIdx?_cons, hb]
      | succ i => simp [updateFirst, List.findIdx?_cons, hb, ih]

/-- The home of a URL depends on the URLs alone. -/
theorem home?_congr {p q : Pool} (h : p.backends.map Backend.url = q.backends.map Backend.url)
    (url : Text) : p.home? url = q.home? url := by
  have hurls : ∀ r : Pool, r.home? url = (r.backends.map Backend.url).findIdx? (· = url) := by
    intro r
    rw [home?, List.findIdx?_map]
    rfl
  rw [hurls p, hurls q, h]

end Pool

/-! ## Events -/

/-- A use of a pool, or time that passes. -/
inductive Event where
  /-- The next backend is picked. -/
  | pick
  /-- A failed exchange with a URL is recorded. -/
  | failure (url : Text)
  /-- A good exchange with a URL is recorded. -/
  | success (url : Text)
  /-- So many nanoseconds pass. -/
  | wait (duration : Nat)
deriving DecidableEq, Repr

/-- The URL whose exchange is recorded. -/
def Event.url? : Event → Option Text
  | .failure url | .success url => some url
  | .pick | .wait _ => none

/-- What an event at a time does to the home of its URL. -/
def Event.effect (now : Instant) : Event → Backend → Backend
  | .failure _ => Backend.recordFailure now
  | .success _ => Backend.recordSuccess now
  | .pick | .wait _ => id

/-- The pool after an event at a time. -/
def Pool.after (now : Instant) (p : Pool) : Event → Pool
  | .pick => ((p.next? now).map Prod.snd).getD p
  | .failure url => p.recordFailure now url
  | .success url => p.recordSuccess now url
  | .wait _ => p

/-- The events that a pool has gone through, the latest first. -/
abbrev History := List Event

namespace Pool

variable (now : Instant) (p : Pool)

/-- A pick moves the cursor at most. -/
theorem backends_after_pick : (p.after now .pick).backends = p.backends := by
  rw [after]
  cases hnext : p.next? now with
  | none => rfl
  | some picked => exact backends_of_next? hnext

/-- An event has its effect on the home of the URL that it records. -/
theorem getElem?_after_home {e : Event} {url : Text} {i : Nat} (he : e.url? = some url)
    (hi : p.home? url = some i) :
    (p.after now e).backends[i]? = p.backends[i]?.map (e.effect now) := by
  cases e with
  | pick => cases he
  | failure u =>
    cases he
    exact (getElem?_updateFirst ..).trans (if_pos hi)
  | success u =>
    cases he
    exact (getElem?_updateFirst ..).trans (if_pos hi)
  | wait duration => cases he

/-- What is not the home of the URL that an event records stays as it is. -/
theorem getElem?_after {e : Event} {i : Nat}
    (h : ∀ url, e.url? = some url → p.home? url ≠ some i) :
    (p.after now e).backends[i]? = p.backends[i]? := by
  cases e with
  | pick => rw [backends_after_pick]
  | failure url => exact (getElem?_updateFirst ..).trans (if_neg (h url rfl))
  | success url => exact (getElem?_updateFirst ..).trans (if_neg (h url rfl))
  | wait duration => rfl

/-- No event changes what was configured. -/
theorem map_after {α : Type} {g : Backend → α}
    (hfailure : ∀ b, g (b.recordFailure now) = g b) (hsuccess : ∀ b, g (b.recordSuccess now) = g b)
    (e : Event) : (p.after now e).backends.map g = p.backends.map g := by
  cases e with
  | pick => rw [backends_after_pick]
  | failure url => exact map_updateFirst hfailure p.backends
  | success url => exact map_updateFirst hsuccess p.backends
  | wait duration => rfl

theorem home?_after (e : Event) (url : Text) : (p.after now e).home? url = p.home? url :=
  home?_congr (p.map_after now (fun _ => rfl) (fun _ => rfl) e) url

theorem length_after (e : Event) : (p.after now e).backends.length = p.backends.length := by
  have hurls := p.map_after now (g := Backend.url) (fun _ => rfl) (fun _ => rfl) e
  simpa using congrArg List.length hurls

/-- Whether the cursor is the index of a backend, or 0 if there is none. -/
def CursorWithin : Prop := p.cursor < p.backends.length ∨ p.backends = [] ∧ p.cursor = 0

/-- The cursor stays within the pool. -/
theorem CursorWithin.after {p : Pool} (h : p.CursorWithin) (now : Instant) (e : Event) :
    (p.after now e).CursorWithin := by
  have hlen := p.length_after now e
  have hsame : (p.after now e).cursor = p.cursor → (p.after now e).CursorWithin := by
    intro hcursor
    rcases h with hlt | ⟨hempty, hzero⟩
    · exact Or.inl (by rw [hcursor, hlen]; exact hlt)
    · rw [hempty] at hlen
      exact Or.inr ⟨List.eq_nil_of_length_eq_zero hlen, hcursor.trans hzero⟩
  cases e with
  | failure url => exact hsame rfl
  | success url => exact hsame rfl
  | wait duration => exact hsame rfl
  | pick =>
    cases hpick : p.pick? now with
    | none => exact hsame (by simp [Pool.after, next?_eq, hpick])
    | some i =>
      obtain ⟨b, hb⟩ := exists_of_pick? hpick
      have hpos : 0 < p.backends.length := Nat.zero_lt_of_lt (List.getElem?_eq_some_iff.mp hb).1
      have hpast : p.after now .pick = p.past i := by simp [Pool.after, next?_eq, hpick, hb]
      exact hpast ▸ Or.inl (Nat.mod_lt _ hpos)

end Pool

/-! ## Reading a history -/

namespace History

/-- The time after a history that begins at a time. -/
def clock (start : Instant) : History → Instant
  | [] => start
  | .wait duration :: past => clock start past + duration
  | _ :: past => clock start past

/-- The pool of sites after a history. -/
def pool (sites : List (Text × Option Text)) (start : Instant) : History → Pool
  | [] => .ofSites sites
  | e :: past => (pool sites start past).after (clock start past) e

/-- How many failures of a URL were recorded since its last success. -/
def failures (url : Text) (h : History) : Nat :=
  (h.takeWhile (· != .success url)).count (.failure url)

/-- When an outcome was last recorded for a URL, if one was. -/
def lastSeen? (start : Instant) (url : Text) : History → Option Instant
  | [] => none
  | e :: past => if e.url? = some url then some (clock start past) else lastSeen? start url past

variable {url : Text} {sites : List (Text × Option Text)} {start : Instant}

theorem failures_failure (past : History) :
    failures url (.failure url :: past) = failures url past + 1 := by
  simp [failures]

theorem failures_success (past : History) : failures url (.success url :: past) = 0 := by
  simp [failures]

/-- What is not recorded for a URL does not count for it. -/
theorem failures_of_ne {e : Event} (h : e.url? ≠ some url) (past : History) :
    failures url (e :: past) = failures url past := by
  have hsuccess : e ≠ .success url := by rintro rfl; exact h rfl
  have hfailure : e ≠ .failure url := by rintro rfl; exact h rfl
  simp [failures, hsuccess, hfailure]

/-- Where a URL never succeeded, all its failures count. -/
theorem failures_eq_count {h : History} (hnone : .success url ∉ h) :
    failures url h = h.count (.failure url) := by
  have hall : h.takeWhile (· != .success url) = h := by
    rw [List.takeWhile_eq_self_iff]
    intro e he
    simpa using fun heq : e = .success url => hnone (heq ▸ he)
  rw [failures, hall]

/-! ## The pool that a history leads to -/

theorem reachable_pool (h : History) : (pool sites start h).Reachable := by
  induction h with
  | nil => exact .start sites
  | cons e past ih =>
    cases e with
    | pick =>
      rw [pool, Pool.after]
      cases hnext : (pool sites start past).next? (clock start past) with
      | none => exact ih
      | some picked => exact .pick _ ih hnext
    | failure url => exact .failure _ url ih
    | success url => exact .success _ url ih
    | wait duration => exact ih

theorem sites_pool (h : History) :
    (pool sites start h).backends.map (fun b => (b.url, b.name)) = sites := by
  induction h with
  | nil => simp [pool, Pool.ofSites, Function.comp_def]
  | cons e past ih => rw [pool, Pool.map_after _ _ (fun _ => rfl) (fun _ => rfl), ih]

theorem cursorWithin_pool (h : History) : (pool sites start h).CursorWithin := by
  induction h with
  | nil =>
    cases sites with
    | nil => exact Or.inr ⟨rfl, rfl⟩
    | cons site sites => exact Or.inl (Nat.succ_pos _)
  | cons e past ih => exact ih.after _ e

/-- What is known of the home of a URL is what the history says. -/
theorem told_pool {h : History} {i : Nat} {b : Backend}
    (hi : (pool sites start h).home? url = some i)
    (hb : (pool sites start h).backends[i]? = some b) :
    b.failures = min (failures url h) Backend.maxFailures ∧ b.lastSeen = lastSeen? start url h := by
  induction h generalizing b with
  | nil =>
    obtain ⟨site, -, rfl⟩ := List.mem_map.mp (List.mem_of_getElem? hb)
    exact ⟨rfl, rfl⟩
  | cons e past ih =>
    rw [pool, Pool.home?_after] at hi
    rw [pool] at hb
    by_cases he : e.url? = some url
    · rw [Pool.getElem?_after_home _ _ he hi] at hb
      obtain ⟨c, hc, rfl⟩ := Option.map_eq_some_iff.mp hb
      obtain ⟨hfailures, -⟩ := ih hi hc
      rw [lastSeen?, if_pos he]
      cases e with
      | pick => cases he
      | failure u =>
        cases he
        refine ⟨?_, rfl⟩
        rw [failures_failure]
        show min (c.failures + 1) Backend.maxFailures = _
        omega
      | success u =>
        cases he
        rw [failures_success]
        exact ⟨rfl, rfl⟩
      | wait duration => cases he
    · have hother : ∀ u, e.url? = some u → (pool sites start past).home? u ≠ some i :=
        fun u hu => Pool.home?_ne hi fun hurl => he (hurl ▸ hu)
      rw [Pool.getElem?_after _ _ hother] at hb
      rw [failures_of_ne he, lastSeen?, if_neg he]
      exact ih hi hb

/-- What a history says of a pool. -/
structure Recorded (sites : List (Text × Option Text)) (start : Instant) (h : History) (p : Pool) :
    Prop where
  /-- The backends are those that were configured, in their order. -/
  configured : p.backends.map (fun b => (b.url, b.name)) = sites
  cursor : p.CursorWithin
  /-- A pick looks at indices of backends only. -/
  order : ∀ i ∈ p.order, i < p.backends.length
  /-- It finds a backend, if there is one. -/
  picks : ∀ now, p.backends ≠ [] → ∃ i b, p.backends[i]? = some b ∧ p.next? now = some (b, p.past i)
  unserved : ∀ now, p.backends = [] → p.next? now = none
  /-- A backend is down exactly if it failed too often. -/
  down_iff : ∀ b ∈ p.backends, b.health = .down ↔ Backend.failureThreshold ≤ b.failures
  /-- If it is down, it was seen. -/
  seen : ∀ b ∈ p.backends, b.health = .down → b.lastSeen ≠ none
  /-- The home of a URL has failed as often as was recorded since the last success … -/
  failures : ∀ url i b, p.home? url = some i → p.backends[i]? = some b →
    b.failures = min (failures url h) Backend.maxFailures
  /-- … and was seen when an outcome was last recorded. -/
  lastSeen : ∀ url i b, p.home? url = some i → p.backends[i]? = some b →
    b.lastSeen = lastSeen? start url h
  /-- One more event changes at most the home of the URL that it records. -/
  others : ∀ e i, (∀ url, e.url? = some url → p.home? url ≠ some i) →
    (pool sites start (e :: h)).backends[i]? = p.backends[i]?
  /-- In whatever order the events of several handles come, no failure is lost. -/
  interleaved : ∀ (handles : List History) url i b, h.Perm handles.flatten → .success url ∉ h →
    p.home? url = some i → p.backends[i]? = some b →
    b.failures = min (handles.map (List.count (.failure url))).sum Backend.maxFailures

/-- The pool that a history leads to is as the history says. -/
theorem recorded_pool (sites : List (Text × Option Text)) (start : Instant) (h : History) :
    Recorded sites start h (pool sites start h) where
  configured := sites_pool h
  cursor := cursorWithin_pool h
  order _ hi := Pool.mem_order.mp hi
  picks now hne := by
    cases hpick : (pool sites start h).pick? now with
    | none => exact absurd (Pool.pick?_eq_none_iff.mp hpick) hne
    | some i =>
      obtain ⟨b, hb⟩ := Pool.exists_of_pick? hpick
      exact ⟨i, b, hb, by rw [Pool.next?_eq, hpick, Option.bind_some, hb, Option.map_some]⟩
  unserved now hempty := by rw [Pool.next?_eq, Pool.pick?_eq_none_iff.mpr hempty, Option.bind_none]
  down_iff b hb := (Pool.sound_of_reachable (reachable_pool h) b hb).down_iff
  seen b hb hdown := by
    obtain ⟨t, ht⟩ := (Pool.sound_of_reachable (reachable_pool h) b hb).seen hdown
    rw [ht]
    exact Option.some_ne_none t
  failures _ _ _ hi hb := (told_pool hi hb).1
  lastSeen _ _ _ hi hb := (told_pool hi hb).2
  others _ _ hother := Pool.getElem?_after _ _ hother
  interleaved handles url i b hperm hnone hi hb := by
    rw [(told_pool hi hb).1, failures_eq_count hnone, hperm.count_eq, List.count_flatten]

end History

end Gateway.Proxy
