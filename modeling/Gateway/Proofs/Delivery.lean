import Gateway.Http.Delivery

/-!
# What a peer has taken

A delivery counts the bytes that the peer has taken, and it offers what comes after them.  So at
each end of a run the peer has taken the bytes of the wire form up to that count, each once and in
order (`run_spec`).  A run is done only if nothing is left.

A peer that takes something of every offer and can be flushed gets everything (`run_of_willing`).
-/

namespace Gateway

namespace Sink

/-! ## One write -/

theorem uptake_le {offered n : Nat} {late' : Bool} {rest : List Uptake} :
    ∀ {late : Bool} {us : List Uptake}, uptake offered late us = (.took n, late', rest) →
      n ≤ offered
  | _, [], h => by
    cases h
    exact Nat.le_refl _
  | _, .takes count :: _, h => by
    cases h
    exact Nat.min_le_right _ _
  | _, .failed _ :: _, h => by cases h
  | late, .later :: us, h => by
    cases late with
    | false =>
      have h' : uptake offered false us = (.took n, late', rest) := h
      have hafter := uptake_le h'
      exact hafter
    | true => cases h
  | late, .silence :: us, h => by
    cases late with
    | false =>
      have h' : uptake offered true us = (.took n, late', rest) := h
      have hafter := uptake_le h'
      exact hafter
    | true => cases h

/-- A write that takes bytes takes the first ones of the offer. -/
theorem write_eq_took {late late' : Bool} {bytes : Bytes} {s s' : Sink} {n : Nat}
    (h : s.write late bytes = (.took n, late', s')) :
    n ≤ bytes.length ∧ s'.taken = s.taken ++ bytes.take n := by
  unfold write at h
  split at h
  · next huptake =>
    cases h
    exact ⟨uptake_le huptake, rfl⟩
  · next hnot _ =>
    cases h
    exact absurd rfl (hnot n)

/-- Any other write takes nothing. -/
theorem write_ne_took {late late' : Bool} {bytes : Bytes} {s s' : Sink} {w : Writing}
    (h : s.write late bytes = (w, late', s')) (hw : ∀ n, w ≠ .took n) : s'.taken = s.taken := by
  unfold write at h
  split at h
  · cases h
    exact absurd rfl (hw _)
  · cases h
    rfl

theorem taken_flush (late : Bool) (s : Sink) : (s.flush late).2.taken = s.taken := by
  unfold flush
  split <;> rfl

/-! ## Willing peers -/

/-- Whether a peer takes something of every offer, maybe after a moment, and can be flushed. -/
structure Willing (s : Sink) : Prop where
  /-- No write takes nothing, fails or meets a silence. -/
  writes : ∀ u ∈ s.writes, u = .later ∨ ∃ n, 0 < n ∧ u = .takes n
  /-- No flush fails or meets a silence. -/
  flushes : s.flushes = []

theorem uptake_of_willing {offered : Nat} (hpos : 0 < offered) :
    ∀ {us : List Uptake}, (∀ u ∈ us, u = .later ∨ ∃ n, 0 < n ∧ u = .takes n) →
      ∃ n rest, uptake offered false us = (.took (n + 1), false, rest) ∧ rest ⊆ us
  | [], _ => by
    obtain ⟨n, rfl⟩ := Nat.exists_eq_add_of_lt hpos
    exact ⟨n, [], by rw [uptake, Nat.zero_add], List.Subset.refl []⟩
  | u :: us, h => by
    rcases h u List.mem_cons_self with rfl | ⟨n, hn, rfl⟩
    · obtain ⟨n, rest, htook, hrest⟩ :=
        uptake_of_willing hpos fun v hv => h v (List.mem_cons_of_mem _ hv)
      exact ⟨n, rest, htook, List.Subset.trans hrest (List.subset_cons_self _ _)⟩
    · obtain ⟨m, hm⟩ := Nat.exists_eq_add_of_lt (Nat.lt_min.mpr ⟨hn, hpos⟩)
      exact ⟨m, us, by rw [uptake, hm, Nat.zero_add], List.subset_cons_self _ _⟩

/-- A willing peer takes something and stays willing. -/
theorem Willing.write {s : Sink} (h : s.Willing) {bytes : Bytes} (hpos : 0 < bytes.length) :
    ∃ n s', s.write false bytes = (.took (n + 1), false, s') ∧ s'.Willing := by
  obtain ⟨n, rest, htook, hrest⟩ := uptake_of_willing hpos h.writes
  refine ⟨n, _, by rw [Sink.write, htook], ?_⟩
  exact ⟨fun u hu => h.writes u (hrest hu), h.flushes⟩

theorem Willing.flush {s : Sink} (h : s.Willing) : ∃ s', s.flush false = (.took 0, s') := by
  rw [Sink.flush, h.flushes]
  exact ⟨_, rfl⟩

end Sink

namespace Http.Delivery

/-! ## Runs -/

/-- What a run of a delivery comes to. -/
structure Ran (d : Delivery) (sink : Sink) (result : DeliveryEnd × Delivery × Sink) : Prop where
  /-- The bytes to deliver stay as they are. -/
  wire : result.2.1.wire = d.wire
  /-- The count does not fall. -/
  le : d.written ≤ result.2.1.written
  /-- The peer has taken the bytes between the counts. -/
  taken : result.2.2.taken
    = sink.taken ++ (d.wire.drop d.written).take (result.2.1.written - d.written)
  /-- The count stays within the bytes. -/
  le_length : d.written ≤ d.wire.length → result.2.1.written ≤ d.wire.length
  /-- If the run is done, nothing is left. -/
  done : result.1 = .done → d.wire.length ≤ result.2.1.written

/-- A run that takes nothing. -/
theorem Ran.of_stop {d : Delivery} {sink sink' : Sink} {ending : DeliveryEnd}
    (htaken : sink'.taken = sink.taken) (hdone : ending = .done → d.wire.length ≤ d.written) :
    Ran d sink (ending, d, sink') where
  wire := rfl
  le := Nat.le_refl _
  taken := by rw [Nat.sub_self, List.take_zero, List.append_nil, htaken]
  le_length := id
  done := hdone

/-- The invariant of a run, along its offers. -/
theorem run_spec (late : Bool) (d : Delivery) (sink : Sink) : Ran d sink (run late d sink) := by
  induction late, d, sink using run.induct with
  | case1 late d sink hleft late' sink' hwrite =>
    rw [run, dif_pos hleft, hwrite]
    refine .of_stop ?_ (by intro h; cases h)
    rw [(Sink.write_eq_took hwrite).2, List.take_zero, List.append_nil]
  | case2 late d sink hleft count late' sink' hwrite ih =>
    obtain ⟨hle, htaken⟩ := Sink.write_eq_took hwrite
    rw [remaining, List.length_drop] at hle
    have hih := ih.taken
    have hgrow := ih.le
    dsimp only at hih hgrow
    rw [run, dif_pos hleft, hwrite]
    show Ran d sink (run late' { d with written := d.written + (count + 1) } sink')
    refine ⟨ih.wire, by omega, ?_, fun _ => ih.le_length (by dsimp only; omega), ih.done⟩
    rw [hih, htaken, remaining, List.append_assoc, ← List.drop_drop, ← List.take_add]
    congr 2
    omega
  | case3 late d sink hleft fault late' sink' hwrite =>
    rw [run, dif_pos hleft, hwrite]
    refine .of_stop (Sink.write_ne_took hwrite ?_) (by intro h; cases h)
    intro n h
    cases h
  | case4 late d sink hleft late' sink' hwrite =>
    rw [run, dif_pos hleft, hwrite]
    refine .of_stop (Sink.write_ne_took hwrite ?_) (by intro h; cases h)
    intro n h
    cases h
  | case5 late d sink hleft count sink' hflush =>
    have htaken := Sink.taken_flush late sink
    rw [hflush] at htaken
    rw [run, dif_neg hleft, hflush]
    exact .of_stop htaken fun _ => Nat.le_of_not_lt hleft
  | case6 late d sink hleft fault sink' hflush =>
    have htaken := Sink.taken_flush late sink
    rw [hflush] at htaken
    rw [run, dif_neg hleft, hflush]
    exact .of_stop htaken (by intro h; cases h)
  | case7 late d sink hleft sink' hflush =>
    have htaken := Sink.taken_flush late sink
    rw [hflush] at htaken
    rw [run, dif_neg hleft, hflush]
    exact .of_stop htaken (by intro h; cases h)

/-- A willing peer is delivered everything. -/
theorem run_of_willing (d : Delivery) (sink : Sink) (h : sink.Willing) :
    (run false d sink).1 = .done := by
  rw [run]
  split
  · next hleft =>
    have hpos : 0 < d.remaining.length := by
      rw [remaining, List.length_drop]
      omega
    obtain ⟨n, sink', hwrite, hwilling⟩ := h.write hpos
    rw [hwrite]
    exact run_of_willing { d with written := d.written + (n + 1) } sink' hwilling
  · obtain ⟨sink', hflush⟩ := h.flush
    rw [hflush]
termination_by d.wire.length - d.written
decreasing_by omega

theorem eq_done_of_message {ending : DeliveryEnd} {d : Delivery} (h : ending.message d = none) :
    ending = .done := by
  cases ending with
  | done => rfl
  | stopped | failed | timedOut => cases h

/-- A peer takes a part of a response from its start, and all of it if nothing fails. -/
theorem run_ofResponse (response : Response) (sink : Sink) :
    let ran := (ofResponse response).run false sink
    ∃ written, ran.2.2.taken = sink.taken ++ written ∧ written <+: response.wire ∧
      (ran.1.message ran.2.1 = none → written = response.wire) := by
  intro ran
  have hran : Ran (ofResponse response) sink ran := run_spec false (ofResponse response) sink
  refine ⟨response.wire.take ran.2.1.written, ?_, List.take_prefix .., fun h => ?_⟩
  · simpa [ofResponse] using hran.taken
  · exact List.take_of_length_le (hran.done (eq_done_of_message h))

/-- A willing peer takes all bytes of a response, in order. -/
theorem taken_of_willing (r : Response) {sink : Sink} (h : sink.Willing) :
    (run false (ofResponse r) sink).2.2.taken = sink.taken ++ r.wire := by
  have hran := run_spec false (ofResponse r) sink
  have hall := hran.done (run_of_willing _ sink h)
  rw [hran.taken, List.take_of_length_le]
  · rfl
  · rw [List.length_drop]
    exact Nat.sub_le_sub_right hall _

end Http.Delivery

end Gateway
