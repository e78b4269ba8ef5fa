import Gateway.Proofs.Exchange
import Gateway.Proofs.Health

/-!
# The course of a request

What a request tries is told by a log.  `logged` is `attempts` with a log of its tries
(`logged_snd`), and it follows a course along a list of indices (`course_of_leads`): each try is of
the next index, and it ends the course unless it is a fault of the backend.

What a course means for the answer and for the pool is proved by induction on it.
-/

namespace Gateway.Proxy

open Gateway.Http

/-! ## Tries -/

/-- One try of a request: the index of the backend, the network before the exchange, what the
exchange comes to, and the network after it. -/
structure Try (σ : Type) where
  index : Nat
  before : σ
  outcome : Except ProxyError Response
  after : σ

variable {σ : Type} {s : Settings} {net : Network σ} {r : Request}

namespace Try

/-- Whether the backend is at fault. -/
def IsFault (t : Try σ) : Prop := ∃ e, t.outcome = .error e ∧ e.isBackendFault = true

/-- Whether it failed, and the backend is not at fault. -/
def IsRefused (t : Try σ) : Prop := ∃ e, t.outcome = .error e ∧ e.isBackendFault = false

/-- The backend after the try. -/
def effect (net : Network σ) (t : Try σ) (b : Backend) : Backend :=
  match t.outcome with
  | .ok _ => b.recordSuccess (net.clock t.after)
  | .error e => if e.isBackendFault then b.recordFailure (net.clock t.after) else b

theorem effect_of_ok {t : Try σ} {response : Response} (h : t.outcome = .ok response)
    (b : Backend) : t.effect net b = b.recordSuccess (net.clock t.after) := by
  rw [effect, h]

theorem effect_of_isFault {t : Try σ} (h : t.IsFault) (b : Backend) :
    t.effect net b = b.recordFailure (net.clock t.after) := by
  obtain ⟨e, he, hfault⟩ := h
  rw [effect, he]
  exact if_pos hfault

theorem effect_of_isRefused {t : Try σ} (h : t.IsRefused) (b : Backend) : t.effect net b = b := by
  obtain ⟨e, he, hrefused⟩ := h
  rw [effect, he]
  exact if_neg (Bool.eq_false_iff.mp hrefused)

end Try

/-- Whether tries follow each other from one state of the network to another. -/
def Linked : σ → List (Try σ) → σ → Prop
  | world, [], world' => world = world'
  | world, t :: log, world' => t.before = world ∧ Linked t.after log world'

/-- Try at most so many picks, after a last failure, and log the tries. -/
def logged (s : Settings) (net : Network σ) (r : Request) :
    Nat → ProxyError → Pool → σ → List (Try σ) × Response × Pool × σ
  | 0, last, pool, world => ([], last.response, pool, world)
  | left + 1, last, pool, world =>
    match pool.pick? (net.clock world) with
    | none => ([], last.response, pool, world)
    | some i =>
      match pool.backends[i]? with
      | none => ([], last.response, pool, world)
      | some b =>
        match exchange s net b.url r world with
        | (.ok response, after) =>
          ([⟨i, world, .ok response, after⟩], response,
            (pool.past i).recordSuccess (net.clock after) b.url, after)
        | (.error e, after) =>
          if e.isBackendFault then
            let (log, result) :=
              logged s net r left e ((pool.past i).recordFailure (net.clock after) b.url) after
            (⟨i, world, .error e, after⟩ :: log, result)
          else ([⟨i, world, .error e, after⟩], e.response, pool.past i, after)

/-- Without the log, these are the attempts. -/
theorem logged_snd : ∀ (left : Nat) (last : ProxyError) (p : Pool) (world : σ),
    (logged s net r left last p world).2 = attempts s net r left last p world
  | 0, _, _, _ => rfl
  | left + 1, last, p, world => by
    rw [logged, attempts, Pool.next?_eq]
    cases p.pick? (net.clock world) with
    | none => rfl
    | some i =>
      dsimp only [Option.bind_some]
      cases p.backends[i]? with
      | none => rfl
      | some b =>
        dsimp only [Option.map_some]
        cases exchange s net b.url r world with
        | mk outcome after =>
          cases outcome with
          | ok response => rfl
          | error e =>
            dsimp only
            split
            · exact logged_snd left e _ after
            · rfl

/-! ## Time -/

theorem Reaches.clock_le
    (hconnect : ∀ address world, net.clock world ≤ net.clock (net.connect address world).2)
    {addresses : List Net.SocketAddress} {last : Fault} {world : σ}
    {outcome : Except Fault Net.SocketAddress × σ} (h : Reaches net addresses last world outcome) :
    net.clock world ≤ net.clock outcome.2 := by
  have hstep : ∀ {address world connecting after},
      net.connect address world = (connecting, after) → net.clock world ≤ net.clock after := by
    intro address world connecting after hconnected
    have hle := hconnect address world
    rwa [hconnected] at hle
  induction h with
  | exhausted => exact Nat.le_refl _
  | accepted _ _ hconnected => exact hstep hconnected
  | failed hconnected _ ih | timedOut hconnected _ ih => exact Nat.le_trans (hstep hconnected) ih

/-- Whether the clock of a network does not go back. -/
def Network.Monotone (net : Network σ) : Prop :=
  ∀ endpoint bytes world, net.clock world ≤ net.clock (net.dial endpoint bytes world).2

/-- A clock that goes back in no step of a dial does not go back. -/
theorem Network.Monotone.of_steps
    (hlookup : ∀ endpoint world, net.clock world ≤ net.clock (net.lookup endpoint world).2)
    (hconnect : ∀ address world, net.clock world ≤ net.clock (net.connect address world).2)
    (hconverse : ∀ address bytes world,
      net.clock world ≤ net.clock (net.converse address bytes world).2) : net.Monotone := by
  intro endpoint bytes world
  have hfound := hlookup endpoint world
  unfold Network.dial
  dsimp only
  split
  · exact hfound
  · next first others _ =>
    have htried := (reaches net (first :: others) (timedOut "connect")
      (net.lookup endpoint world).2).clock_le hconnect
    refine Nat.le_trans hfound ?_
    split
    · next hreach =>
      rw [hreach] at htried
      exact htried
    · next hreach =>
      rw [hreach] at htried
      exact Nat.le_trans htried (hconverse _ _ _)

theorem Network.Monotone.le_exchange (h : net.Monotone) (url : Text) (world : σ) :
    net.clock world ≤ net.clock (exchange s net url r world).2 := by
  unfold exchange
  cases prepare s net.readUrl url r with
  | error e => exact Nat.le_refl _
  | ok prepared => exact h prepared.1 prepared.2 world

theorem Network.Monotone.le_logged (h : net.Monotone) :
    ∀ (left : Nat) (last : ProxyError) (p : Pool) (world : σ),
      net.clock world ≤ net.clock (logged s net r left last p world).2.2.2
  | 0, _, _, _ => Nat.le_refl _
  | left + 1, last, p, world => by
    rw [logged]
    cases p.pick? (net.clock world) with
    | none => exact Nat.le_refl _
    | some i =>
      dsimp only
      cases p.backends[i]? with
      | none => exact Nat.le_refl _
      | some b =>
        have hle := h.le_exchange (s := s) (r := r) b.url world
        dsimp only
        cases hx : exchange s net b.url r world with
        | mk outcome after =>
          rw [hx] at hle
          cases outcome with
          | ok response => exact hle
          | error e =>
            dsimp only
            split
            · exact Nat.le_trans hle (h.le_logged left e _ after)
            · exact hle

/-! ## Courses -/

/-- The course of a request along a list of indices, after a last failure, from a pool and a
network: its log, the response, and the pool and the network at its end. -/
inductive Course (s : Settings) (net : Network σ) (r : Request) :
    List Nat → ProxyError → Pool → σ → List (Try σ) → Response → Pool → σ → Prop where
  | exhausted (last : ProxyError) (p : Pool) (world : σ) :
    Course s net r [] last p world [] last.response p world
  | success {i : Nat} {rest : List Nat} {last : ProxyError} {p : Pool} {b : Backend}
      {response : Response} {world after : σ} :
    p.backends[i]? = some b →
    exchange s net b.url r world = (.ok response, after) →
    Course s net r (i :: rest) last p world [⟨i, world, .ok response, after⟩] response
      ((p.past i).recordSuccess (net.clock after) b.url) after
  | refused {i : Nat} {rest : List Nat} {last : ProxyError} {p : Pool} {b : Backend}
      {e : ProxyError} {world after : σ} :
    p.backends[i]? = some b →
    exchange s net b.url r world = (.error e, after) →
    e.isBackendFault = false →
    Course s net r (i :: rest) last p world [⟨i, world, .error e, after⟩] e.response (p.past i)
      after
  | fault {i : Nat} {rest : List Nat} {last : ProxyError} {p p' : Pool} {b : Backend}
      {e : ProxyError} {world after world' : σ} {log : List (Try σ)} {response : Response} :
    p.backends[i]? = some b →
    exchange s net b.url r world = (.error e, after) →
    e.isBackendFault = true →
    Course s net r rest e ((p.past i).recordFailure (net.clock after) b.url) after log response p'
      world' →
    Course s net r (i :: rest) last p world (⟨i, world, .error e, after⟩ :: log) response p' world'

/-- Where the rotation leads along a list, a request with a try for each index follows it. -/
theorem course_of_leads {fair : Instant → Prop} (hmono : net.Monotone) :
    ∀ {todo : List Nat} {last : ProxyError} {p : Pool} {world : σ},
      p.Leads fair todo →
      (∀ t, net.clock world ≤ t →
        t ≤ net.clock (logged s net r todo.length last p world).2.2.2 → fair t) →
      Course s net r todo last p world (logged s net r todo.length last p world).1
        (logged s net r todo.length last p world).2.1
        (logged s net r todo.length last p world).2.2.1
        (logged s net r todo.length last p world).2.2.2
  | [], last, p, world, _, _ => .exhausted last p world
  | i :: todo, last, p, world, hleads, hfair => by
    obtain ⟨hpick, hnext⟩ := hleads
    have hstart := hmono.le_logged (s := s) (r := r) (i :: todo).length last p world
    have hi := hpick (net.clock world) (hfair _ (Nat.le_refl _) hstart)
    obtain ⟨b, hb⟩ := Pool.exists_of_pick? hi
    have hexchange := hmono.le_exchange (s := s) (r := r) b.url world
    rw [List.length_cons, logged, hi] at hfair ⊢
    dsimp only at hfair ⊢
    rw [hb] at hfair ⊢
    dsimp only at hfair ⊢
    cases hx : exchange s net b.url r world with
    | mk outcome after =>
      rw [hx] at hexchange hfair
      cases outcome with
      | ok response => exact .success hb hx
      | error e =>
        dsimp only at hfair ⊢
        by_cases he : e.isBackendFault = true
        · rw [if_pos he] at hfair ⊢
          refine .fault hb hx he (course_of_leads hmono (hnext b hb _) fun t ht ht' => ?_)
          exact hfair t (Nat.le_trans hexchange ht) ht'
        · rw [if_neg he]
          exact .refused hb hx (Bool.eq_false_iff.mpr he)

/-! ## What a course does -/

namespace Course

variable {todo : List Nat} {last : ProxyError} {p p' : Pool} {world world' : σ}
  {log : List (Try σ)} {response : Response}

theorem linked (h : Course s net r todo last p world log response p' world') :
    Linked world log world' := by
  induction h with
  | exhausted => rfl
  | success => exact ⟨rfl, rfl⟩
  | refused => exact ⟨rfl, rfl⟩
  | fault _ _ _ _ ih => exact ⟨rfl, ih⟩

/-- The tries are of the first indices of the list, in its order. -/
theorem isPrefix (h : Course s net r todo last p world log response p' world') :
    log.map Try.index <+: todo := by
  induction h with
  | exhausted => exact List.nil_prefix
  | success => exact ⟨_, rfl⟩
  | refused => exact ⟨_, rfl⟩
  | fault _ _ _ _ ih =>
    obtain ⟨more, hmore⟩ := ih
    exact ⟨more, congrArg (List.cons _) hmore⟩

/-- Only after a fault of the backend is there another try. -/
theorem isFault_of_mem (h : Course s net r todo last p world log response p' world') :
    ∀ t ∈ log.dropLast, t.IsFault := by
  induction h with
  | exhausted => intro t ht; cases ht
  | success => intro t ht; cases ht
  | refused => intro t ht; cases ht
  | @fault _ _ _ _ _ _ e _ _ _ log _ hb hx he h ih =>
    cases log with
    | nil => intro t ht; cases ht
    | cons u log =>
      intro t ht
      rcases List.mem_cons.mp ht with rfl | ht
      · exact ⟨e, rfl, he⟩
      · exact ih t ht

/-- The last try answers, or the page of its failure does.  If that is a fault of the backend, no
index is left. -/
theorem ends (h : Course s net r todo last p world log response p' world') :
    (todo = [] ∧ log = [] ∧ response = last.response) ∨
    ∃ t, log.getLast? = some t ∧ (t.outcome = .ok response ∨ ∃ e, t.outcome = .error e ∧
      response = e.response ∧ (e.isBackendFault = true → log.map Try.index = todo)) := by
  induction h with
  | exhausted => exact Or.inl ⟨rfl, rfl, rfl⟩
  | success => exact Or.inr ⟨_, rfl, Or.inl rfl⟩
  | @refused _ _ _ _ _ e _ _ _ _ he =>
    refine Or.inr ⟨_, rfl, Or.inr ⟨e, rfl, rfl, fun hfault => ?_⟩⟩
    rw [he] at hfault
    cases hfault
  | @fault i rest _ _ _ _ e _ _ _ log _ _ _ _ _ ih =>
    rcases ih with ⟨rfl, rfl, rfl⟩ | ⟨t, hlast, hend⟩
    · exact Or.inr ⟨_, rfl, Or.inr ⟨e, rfl, rfl, fun _ => rfl⟩⟩
    · refine Or.inr ⟨t, by rw [List.getLast?_cons, hlast]; rfl, ?_⟩
      rcases hend with hok | ⟨e', he', hpage, hall⟩
      · exact Or.inl hok
      · exact Or.inr ⟨e', he', hpage, fun hfault => congrArg (List.cons i) (hall hfault)⟩

/-- What was not tried is as before. -/
theorem getElem?_eq (h : Course s net r todo last p world log response p' world')
    (hurls : p.DistinctUrls) {j : Nat} (hj : j ∉ log.map Try.index) :
    p'.backends[j]? = p.backends[j]? := by
  induction h with
  | exhausted => rfl
  | success hb _ => exact hurls.getElem?_updateFirst hb (Ne.symm (List.ne_of_not_mem_cons hj)) _
  | refused => rfl
  | fault hb _ _ _ ih =>
    rw [ih (hurls.recordFailure _ _ _) (List.not_mem_of_not_mem_cons hj)]
    exact hurls.getElem?_updateFirst hb (Ne.symm (List.ne_of_not_mem_cons hj)) _

/-- Each try is an exchange with the backend at its index as it was before the request, and that
backend keeps what the try did to it. -/
theorem tried (h : Course s net r todo last p world log response p' world')
    (hurls : p.DistinctUrls) (hnodup : todo.Nodup) : ∀ t ∈ log, ∃ b,
      p.backends[t.index]? = some b ∧ exchange s net b.url r t.before = (t.outcome, t.after) ∧
      p'.backends[t.index]? = some (t.effect net b) := by
  induction h with
  | exhausted => intro t ht; cases ht
  | success hb hx =>
    intro t ht
    cases List.mem_singleton.mp ht
    exact ⟨_, hb, hx, hurls.getElem?_updateFirst_self hb _⟩
  | refused hb hx he =>
    intro t ht
    cases List.mem_singleton.mp ht
    refine ⟨_, hb, hx, ?_⟩
    rw [Try.effect_of_isRefused ⟨_, rfl, he⟩]
    exact hb
  | @fault i rest _ _ _ b e _ after _ log _ hb hx he h ih =>
    obtain ⟨hi, hrest⟩ := List.nodup_cons.mp hnodup
    have hurls' := hurls.recordFailure i (net.clock after) b.url
    have hlater : ∀ t ∈ log, t.index ≠ i := by
      rintro t ht rfl
      exact hi (h.isPrefix.subset (List.mem_map_of_mem ht))
    intro t ht
    rcases List.mem_cons.mp ht with rfl | ht
    · refine ⟨b, hb, hx, ?_⟩
      have hnot : i ∉ log.map Try.index := by
        intro hmem
        obtain ⟨t, ht, hti⟩ := List.mem_map.mp hmem
        exact hlater t ht hti
      rw [h.getElem?_eq hurls' hnot, Try.effect_of_isFault ⟨e, rfl, he⟩]
      exact hurls.getElem?_updateFirst_self hb _
    · obtain ⟨c, hc, hcx, hafter⟩ := ih hurls' hrest t ht
      refine ⟨c, ?_, hcx, hafter⟩
      rw [← hc]
      exact (hurls.getElem?_updateFirst hb (Ne.symm (hlater t ht)) _).symm

/-- The next pick starts behind the last try. -/
theorem cursor_eq (h : Course s net r todo last p world log response p' world') :
    p'.cursor = (log.getLast?.map fun t => (t.index + 1) % p.backends.length).getD p.cursor := by
  induction h with
  | exhausted => rfl
  | success => rfl
  | refused => rfl
  | @fault i _ _ p _ b _ _ after _ log _ _ _ _ _ ih =>
    rw [ih, p.length_recordFailure, List.getLast?_cons]
    cases log.getLast? with
    | none => rfl
    | some t => rfl

end Course

end Gateway.Proxy
