import Gateway.Server.Listen

/-!
# Permits

A permit is free, or the accept loop holds it, or a connection does.  An event hands one permit on
or none, and so there are always as many as the limit says (`permits_of_run?`, by induction on the
run from `Step.permits_eq`).

What the limit promises follows from the count.  The connections in flight are those that were
accepted and have not ended (`serving_of_run?`), and they are no more than the limit.  If that is
one, the loop holds the only permit when it accepts, and then no connection has one (`oneByOne`).
Nothing that has failed is felt later: from any state the loop comes to serve as many clients at
once as the limit says, and no connection has to end before (`refills`).
-/

namespace Gateway.Server

/-- Whether an event ends a connection. -/
def ServerEvent.isEnd : ServerEvent → Bool
  | .ended _ => true
  | _ => false

namespace Stage

@[simp] theorem holdsPermit_waiting : waiting.holdsPermit = false := rfl

@[simp] theorem holdsPermit_accepting : accepting.holdsPermit = true := rfl

@[simp] theorem holdsPermit_pausing : pausing.holdsPermit = true := rfl

end Stage

namespace Admission

variable {a a' : Admission} {e : ServerEvent} {events : List ServerEvent}

/-! ## One event -/

/-- What each event does, and to which permits it can happen. -/
inductive Step : Admission → ServerEvent → Admission → Prop where
  | permitted (free serving : Nat) :
    Step ⟨free + 1, .waiting, serving⟩ .permitted ⟨free, .accepting, serving⟩
  | accepted (free serving : Nat) :
    Step ⟨free, .accepting, serving⟩ .accepted ⟨free, .waiting, serving + 1⟩
  | forgotten (free serving : Nat) {fault : AcceptFault} : fault.pause? = none →
    Step ⟨free, .accepting, serving⟩ (.acceptFailed fault) ⟨free + 1, .waiting, serving⟩
  | paused (free serving : Nat) {fault : AcceptFault} {ms : Nat} : fault.pause? = some ms →
    Step ⟨free, .accepting, serving⟩ (.acceptFailed fault) ⟨free, .pausing, serving⟩
  | resumed (free serving : Nat) :
    Step ⟨free, .pausing, serving⟩ .resumed ⟨free + 1, .waiting, serving⟩
  | ended (free : Nat) (stage : Stage) (serving : Nat) (failed : Bool) :
    Step ⟨free, stage, serving + 1⟩ (.ended failed) ⟨free + 1, stage, serving⟩

/-- These are all the steps. -/
theorem step_of_step? (h : a.step? e = some a') : Step a e a' := by
  obtain ⟨free, stage, serving⟩ := a
  cases e with
  | permitted =>
    simp only [step?, Option.ite_none_right_eq_some, Option.some.injEq] at h
    obtain ⟨⟨rfl, hfree⟩, rfl⟩ := h
    obtain ⟨free, rfl⟩ := Nat.exists_eq_add_of_lt hfree
    rw [Nat.zero_add, Nat.add_sub_cancel]
    exact .permitted free serving
  | accepted =>
    simp only [step?, Option.ite_none_right_eq_some, Option.some.injEq] at h
    obtain ⟨rfl, rfl⟩ := h
    exact .accepted free serving
  | acceptFailed fault =>
    simp only [step?, Option.ite_none_right_eq_some] at h
    obtain ⟨rfl, h⟩ := h
    cases hpause : fault.pause? with
    | none =>
      simp only [hpause, Option.isSome_none, Bool.false_eq_true, if_false, Option.some.injEq] at h
      cases h
      exact .forgotten free serving hpause
    | some ms =>
      simp only [hpause, Option.isSome_some, if_true, Option.some.injEq] at h
      cases h
      exact .paused free serving hpause
  | resumed =>
    simp only [step?, Option.ite_none_right_eq_some, Option.some.injEq] at h
    obtain ⟨rfl, rfl⟩ := h
    exact .resumed free serving
  | ended failed =>
    simp only [step?, Option.ite_none_right_eq_some, Option.some.injEq] at h
    obtain ⟨hserving, rfl⟩ := h
    obtain ⟨serving, rfl⟩ := Nat.exists_eq_add_of_lt hserving
    rw [Nat.zero_add, Nat.add_sub_cancel]
    exact .ended free stage serving failed

namespace Step

/-- No event makes a permit or loses one. -/
theorem permits_eq (h : Step a e a') : a'.permits = a.permits := by
  cases h <;> simp [permits] <;> omega

/-- A connection is in flight from the event that accepts it to the one that ends it. -/
theorem serving_eq (h : Step a e a') :
    a'.serving + [e].countP ServerEvent.isEnd = a.serving + [e].count .accepted := by
  cases h <;> simp [ServerEvent.isEnd]

end Step

/-! ## Events in order -/

@[simp] theorem run?_nil (a : Admission) : a.run? [] = some a := rfl

theorem run?_cons (a : Admission) (e : ServerEvent) (events : List ServerEvent) :
    a.run? (e :: events) = (a.step? e).bind (run? · events) := by
  simp [run?]

theorem run?_append (a : Admission) (older newer : List ServerEvent) :
    a.run? (older ++ newer) = (a.run? older).bind (run? · newer) := by
  simp [run?, List.foldlM_append]

theorem permits_of_run? (h : a.run? events = some a') : a'.permits = a.permits := by
  induction events generalizing a with
  | nil =>
    cases h
    rfl
  | cons e events ih =>
    rw [run?_cons, Option.bind_eq_some_iff] at h
    obtain ⟨b, hstep, hrest⟩ := h
    rw [ih hrest, (step_of_step? hstep).permits_eq]

theorem serving_of_run? (h : a.run? events = some a') :
    a'.serving + events.countP ServerEvent.isEnd = a.serving + events.count .accepted := by
  induction events generalizing a with
  | nil =>
    cases h
    rfl
  | cons e events ih =>
    rw [run?_cons, Option.bind_eq_some_iff] at h
    obtain ⟨b, hstep, hrest⟩ := h
    have hfirst := (step_of_step? hstep).serving_eq
    have hlater := ih hrest
    rw [← List.singleton_append, List.countP_append, List.count_append]
    omega

/-- If there is one permit, a connection ends before the next is accepted. -/
theorem exists_end_between {older middle later : List ServerEvent} (hone : a.permits = 1)
    (h : a.run? (older ++ .accepted :: (middle ++ .accepted :: later)) = some a') :
    ∃ failed, .ended failed ∈ middle := by
  rw [run?_append, Option.bind_eq_some_iff] at h
  obtain ⟨b, hb, h⟩ := h
  rw [run?_cons, Option.bind_eq_some_iff] at h
  obtain ⟨c, hfirst, h⟩ := h
  rw [run?_append, Option.bind_eq_some_iff] at h
  obtain ⟨d, hd, h⟩ := h
  rw [run?_cons, Option.bind_eq_some_iff] at h
  obtain ⟨d', hsecond, -⟩ := h
  have hpermits : d.permits = 1 := by
    rw [permits_of_run? hd, (step_of_step? hfirst).permits_eq, permits_of_run? hb, hone]
  have hcount := serving_of_run? hd
  -- the second is accepted with the only permit, so the first has returned it
  have hstarted : 0 < c.serving := by
    cases step_of_step? hfirst with
    | accepted free serving => exact Nat.succ_pos serving
  have hreturned : d.serving = 0 := by
    cases step_of_step? hsecond with
    | accepted free serving =>
      simp only [permits, Stage.holdsPermit_accepting, Bool.toNat_true] at hpermits
      show serving = 0
      omega
  have hends : 0 < middle.countP ServerEvent.isEnd := by omega
  obtain ⟨e, he, hend⟩ := List.countP_pos_iff.mp hends
  cases e with
  | ended failed => exact ⟨failed, he⟩
  | _ => cases hend

/-! ## Serving as many as the limit says -/

/-- What happens while so many clients come one after the other and stay. -/
def clients : Nat → List ServerEvent
  | 0 => []
  | n + 1 => .permitted :: .accepted :: clients n

theorem run?_clients (n serving : Nat) :
    run? ⟨n, .waiting, serving⟩ (clients n) = some ⟨0, .waiting, serving + n⟩ := by
  induction n generalizing serving with
  | zero => rfl
  | succ n ih =>
    have hnext : run? ⟨n + 1, .waiting, serving⟩ (clients (n + 1))
        = run? ⟨n, .waiting, serving + 1⟩ (clients n) := by
      simp [clients, run?_cons, step?]
    rw [hnext, ih, Nat.add_assoc, Nat.add_comm 1 n]

theorem mem_clients {n : Nat} (h : e ∈ clients n) : e = .permitted ∨ e = .accepted := by
  induction n with
  | zero => cases h
  | succ n ih =>
    simp only [clients, List.mem_cons] at h
    rcases h with rfl | rfl | h
    · exact Or.inl rfl
    · exact Or.inr rfl
    · exact ih h

/-- As many clients as there are permits can be served at once, if they come and nothing fails. -/
theorem exists_refill (a : Admission) : ∃ more,
    (∀ e ∈ more, e = .permitted ∨ e = .accepted ∨ e = .resumed) ∧
      a.run? more = some { free := 0, stage := .waiting, serving := a.permits } := by
  have hclients : ∀ n, ∀ e ∈ clients n, e = .permitted ∨ e = .accepted ∨ e = .resumed := by
    intro n e he
    rcases mem_clients he with h | h
    · exact Or.inl h
    · exact Or.inr (Or.inl h)
  obtain ⟨free, stage, serving⟩ := a
  cases stage with
  | waiting =>
    refine ⟨clients free, hclients free, ?_⟩
    rw [run?_clients]
    simp [permits, Nat.add_comm]
  | accepting =>
    refine ⟨.accepted :: clients free, by simpa using hclients free, ?_⟩
    have hnext : run? ⟨free, .accepting, serving⟩ (.accepted :: clients free)
        = run? ⟨free, .waiting, serving + 1⟩ (clients free) := by
      simp [run?_cons, step?]
    rw [hnext, run?_clients]
    simp [permits]
    omega
  | pausing =>
    refine ⟨.resumed :: clients (free + 1), by simpa using hclients (free + 1), ?_⟩
    have hnext : run? ⟨free, .pausing, serving⟩ (.resumed :: clients (free + 1))
        = run? ⟨free + 1, .waiting, serving⟩ (clients (free + 1)) := by
      simp [run?_cons, step?]
    rw [hnext, run?_clients]
    simp [permits]
    omega

/-! ## What the limit promises -/

/-- What holds of a server with a limit, after some events. -/
structure Kept (limit : Nat) (events : List ServerEvent) (a : Admission) : Prop where
  /-- Each permit is free, or with the accept loop, or with a connection. -/
  permits : a.free + a.stage.holdsPermit.toNat + a.serving = limit
  /-- In flight is what was accepted and has not ended. -/
  inFlight : a.serving + events.countP ServerEvent.isEnd = events.count .accepted
  serving_le : a.serving ≤ limit
  /-- If the limit is one, a connection ends before the next is accepted. -/
  oneByOne : limit = 1 → ∀ older middle later,
    events = older ++ .accepted :: (middle ++ .accepted :: later) →
      ∃ failed, .ended failed ∈ middle
  /-- As many clients as the limit says can be served at once, if they come and nothing fails from
  now on. -/
  refills : ∃ more, (∀ e ∈ more, e = .permitted ∨ e = .accepted ∨ e = .resumed) ∧
    a.run? more = some { free := 0, stage := .waiting, serving := limit }

/-- In every run of a gateway, whatever is accepted, fails and ends, there are as many permits as
connections may be served at once. -/
theorem permits_conserved {c : Config} (h : (ofConfig c).run? events = some a) :
    Kept c.server.maxConnections events a := by
  have hstart : (ofConfig c).permits = c.server.maxConnections := by
    simp [ofConfig, start, permits]
  have hpermits : a.permits = c.server.maxConnections := (permits_of_run? h).trans hstart
  have hserving := serving_of_run? h
  refine ⟨hpermits, ?_, ?_, ?_, ?_⟩
  · simpa [ofConfig, start] using hserving
  · rw [← hpermits, Admission.permits]
    exact Nat.le_add_left _ _
  · rintro hone older middle later rfl
    exact exists_end_between (hstart.trans hone) h
  · rw [← hpermits]
    exact a.exists_refill

/-- A gateway that serves one connection at a time. -/
def single : Config where
  server := { maxConnections := 1 }

/-- Two connections, of which the first fails.  Before each of them accepting fails. -/
def mishaps : List ServerEvent :=
  [.permitted, .acceptFailed .exhausted, .resumed, .permitted, .accepted, .ended true, .permitted,
    .acceptFailed .aborted, .permitted, .accepted]

theorem permits_conserved_mishaps :
    (ofConfig single).run? mishaps = some { free := 0, serving := 1 } ∧
      Kept 1 mishaps { free := 0, serving := 1 } := by
  have hrun : (ofConfig single).run? mishaps = some { free := 0, serving := 1 } := rfl
  exact ⟨hrun, permits_conserved hrun⟩

end Admission

end Gateway.Server
