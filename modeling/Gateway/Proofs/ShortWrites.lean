import Mathlib.Algebra.GroupWithZero.Nat
import Gateway.Proofs.Delivery

/-!
# Short writes

At any write a peer may take less than it is offered, take nothing, or fail.  A run is looked at
here between its writes.

*Moments.*  A `Moment` is how far a delivery is, with the peer as it then stands.  `Accepts` leads
from a moment to later ones through writes of which something was taken, and `Ends` says how a run
ends at a moment from which no such write leads on.  Every run goes through some of these writes and
then ends (`Moment.exists_ends`), and each moment that such writes lead to lies on the run
(`Moment.Accepts.run_eq`).

*What holds at a moment.*  The peer has taken the first bytes of the wire form, as many as the
delivery counts (`Underway`).  Each write of which something was taken keeps this, and so do runs
that are started again after they were interrupted (`Underway.of_begun`).

`run_accepts` puts the two together.
-/

namespace Gateway

namespace Sink

theorem flushed_write {late late' : Bool} {bytes : Bytes} {s s' : Sink} {w : Writing}
    (h : s.write late bytes = (w, late', s')) : s'.flushed = s.flushed := by
  unfold write at h
  split at h <;>
  · cases h
    rfl

theorem flushed_flush {late : Bool} {s s' : Sink} {n : Nat}
    (h : s.flush late = (.took n, s')) : s'.flushed = s.flushed + 1 := by
  unfold flush at h
  split at h
  · cases h
    rfl
  · next hnot _ =>
    cases h
    exact absurd rfl (hnot n)

end Sink

namespace Http.Delivery

/-! ## Moments of a run -/

/-- How far a run is between two writes. -/
structure Moment where
  /-- Whether the deadline has passed. -/
  late : Bool
  delivery : Delivery
  /-- The peer, with what it has taken. -/
  sink : Sink

namespace Moment

/-- What a run comes to that goes on from a moment. -/
def run (m : Moment) : DeliveryEnd × Delivery × Sink := m.delivery.run m.late m.sink

/-- Whether something is left to offer. -/
def Left (m : Moment) : Prop := m.delivery.written < m.delivery.wire.length

/-- The next write, which offers what remains. -/
def write (m : Moment) : Writing × Bool × Sink := m.sink.write m.late m.delivery.remaining

/-- The moment after a write of which `count` bytes were taken. -/
def after (m : Moment) (count : Nat) (late : Bool) (sink : Sink) : Moment where
  late := late
  delivery := { m.delivery with written := m.delivery.written + count }
  sink := sink

/-- From one moment, writes of which these counts were taken, none of them zero, lead to another. -/
inductive Accepts : Moment → List Nat → Moment → Prop where
  | here {m : Moment} : Accepts m [] m
  | write {m m' : Moment} {count : Nat} {counts : List Nat} {late : Bool} {sink : Sink} :
      m.Left → m.write = (.took (count + 1), late, sink) →
      Accepts (m.after (count + 1) late sink) counts m' → Accepts m ((count + 1) :: counts) m'

/-- How a run ends at a moment and leaves the peer: with a flush if nothing is left to offer, else
right after a write of which nothing was taken. -/
inductive Ends (m : Moment) : DeliveryEnd → Sink → Prop where
  | done {count : Nat} {sink : Sink} :
      ¬ m.Left → m.sink.flush m.late = (.took count, sink) → Ends m .done sink
  | flushFailed {fault : Fault} {sink : Sink} :
      ¬ m.Left → m.sink.flush m.late = (.failed fault, sink) → Ends m (.failed fault) sink
  | flushTimedOut {sink : Sink} :
      ¬ m.Left → m.sink.flush m.late = (.timedOut, sink) → Ends m .timedOut sink
  | stopped {late : Bool} {sink : Sink} :
      m.Left → m.write = (.took 0, late, sink) → Ends m .stopped sink
  | failed {fault : Fault} {late : Bool} {sink : Sink} :
      m.Left → m.write = (.failed fault, late, sink) → Ends m (.failed fault) sink
  | timedOut {late : Bool} {sink : Sink} :
      m.Left → m.write = (.timedOut, late, sink) → Ends m .timedOut sink

variable {m m' : Moment} {counts : List Nat}

theorem run_of_left (h : m.Left) :
    m.run = match m.write with
      | (.took 0, _, sink) => (.stopped, m.delivery, sink)
      | (.took (count + 1), late, sink) => (m.after (count + 1) late sink).run
      | (.failed fault, _, sink) => (.failed fault, m.delivery, sink)
      | (.timedOut, _, sink) => (.timedOut, m.delivery, sink) := by
  have hleft : m.delivery.written < m.delivery.wire.length := h
  rw [run, Delivery.run]
  exact dif_pos hleft

theorem run_of_not_left (h : ¬ m.Left) :
    m.run = match m.sink.flush m.late with
      | (.took _, sink) => (.done, m.delivery, sink)
      | (.failed fault, sink) => (.failed fault, m.delivery, sink)
      | (.timedOut, sink) => (.timedOut, m.delivery, sink) := by
  have hleft : ¬ m.delivery.written < m.delivery.wire.length := h
  rw [run, Delivery.run]
  exact dif_neg hleft

/-- A run goes through writes of which something was taken, and ends at the moment after them. -/
theorem exists_ends (m : Moment) :
    ∃ counts last ending sink, m.Accepts counts last ∧ last.Ends ending sink ∧
      m.run = (ending, last.delivery, sink) := by
  by_cases hleft : m.Left
  · rcases hwrite : m.write with ⟨_ | _ | _, late, sink⟩
    case took count =>
      cases count with
      | zero => exact ⟨[], m, _, _, .here, .stopped hleft hwrite, by rw [run_of_left hleft, hwrite]⟩
      | succ count =>
        obtain ⟨counts, last, ending, sink', haccepts, hends, hrun⟩ :=
          exists_ends (m.after (count + 1) late sink)
        refine ⟨_, last, ending, sink', .write hleft hwrite haccepts, hends, ?_⟩
        rw [run_of_left hleft, hwrite]
        exact hrun
    case failed fault =>
      exact ⟨[], m, _, _, .here, .failed hleft hwrite, by rw [run_of_left hleft, hwrite]⟩
    case timedOut =>
      exact ⟨[], m, _, _, .here, .timedOut hleft hwrite, by rw [run_of_left hleft, hwrite]⟩
  · rcases hflush : m.sink.flush m.late with ⟨_ | _ | _, sink⟩
    case took =>
      exact ⟨[], m, _, _, .here, .done hleft hflush, by rw [run_of_not_left hleft, hflush]⟩
    case failed =>
      exact ⟨[], m, _, _, .here, .flushFailed hleft hflush, by rw [run_of_not_left hleft, hflush]⟩
    case timedOut =>
      exact ⟨[], m, _, _, .here, .flushTimedOut hleft hflush, by rw [run_of_not_left hleft, hflush]⟩
termination_by m.delivery.wire.length - m.delivery.written
decreasing_by
  have hlt : m.delivery.written < m.delivery.wire.length := hleft
  dsimp only [after]
  omega

/-- A moment that such writes lead to lies on the run. -/
theorem Accepts.run_eq (h : m.Accepts counts m') : m.run = m'.run := by
  induction h with
  | here => rfl
  | write hleft hwrite _ ih =>
    rw [run_of_left hleft, hwrite]
    exact ih

/-- The count grows by what was taken. -/
theorem Accepts.written_eq (h : m.Accepts counts m') :
    m'.delivery.written = m.delivery.written + counts.sum := by
  induction h with
  | here => rfl
  | write _ _ _ ih => rw [ih, after, List.sum_cons, Nat.add_assoc]

/-- Something was taken at each write. -/
theorem Accepts.length_le_sum (h : m.Accepts counts m') : counts.length ≤ counts.sum := by
  induction h with
  | here => exact Nat.le_refl 0
  | write _ _ _ ih =>
    rw [List.length_cons, List.sum_cons]
    omega

theorem Accepts.flushed_eq (h : m.Accepts counts m') : m'.sink.flushed = m.sink.flushed := by
  induction h with
  | here => rfl
  | write _ hwrite _ ih => rw [ih, after, Sink.flushed_write hwrite]

/-- Nothing is taken at the end of a run. -/
theorem Ends.taken_eq {ending : DeliveryEnd} {sink : Sink} (h : m.Ends ending sink) :
    sink.taken = m.sink.taken := by
  have hflushed := Sink.taken_flush m.late m.sink
  cases h with
  | done _ hflush | flushFailed _ hflush | flushTimedOut _ hflush =>
    rw [hflush] at hflushed
    exact hflushed
  | stopped _ hwrite =>
    rw [(Sink.write_eq_took hwrite).2, List.take_zero, List.append_nil]
  | failed _ hwrite | timedOut _ hwrite =>
    exact Sink.write_ne_took hwrite fun n h => nomatch h

end Moment

/-! ## What holds at a moment -/

/-- Whether a peer that had taken some bytes before has now taken the first bytes of a wire form, as
many as the delivery counts. -/
structure Underway (wire before : Bytes) (d : Delivery) (sink : Sink) : Prop where
  wire_eq : d.wire = wire
  le_length : d.written ≤ wire.length
  taken : sink.taken = before ++ wire.take d.written

/-- What runs make of the delivery of a response and of the peer.  A run that was interrupted may be
followed by another. -/
inductive Begun (response : Response) (sink : Sink) : Delivery → Sink → Prop where
  | fresh : Begun response sink (ofResponse response) sink
  | again {d d' : Delivery} {sink' sink'' : Sink} {late : Bool} {ending : DeliveryEnd} :
      Begun response sink d sink' → d.run late sink' = (ending, d', sink'') →
      Begun response sink d' sink''

variable {wire before : Bytes}

/-- A write of which something was taken keeps it. -/
theorem Underway.after {m : Moment} (h : Underway wire before m.delivery m.sink) (hleft : m.Left)
    {count : Nat} {late : Bool} {sink : Sink} (hwrite : m.write = (.took count, late, sink)) :
    Underway wire before (m.after count late sink).delivery (m.after count late sink).sink := by
  obtain ⟨hle, htaken⟩ := Sink.write_eq_took hwrite
  rw [remaining, List.length_drop, h.wire_eq] at hle
  rw [Moment.Left, h.wire_eq] at hleft
  refine ⟨h.wire_eq, ?_, ?_⟩
  · show m.delivery.written + count ≤ wire.length
    omega
  · show sink.taken = before ++ wire.take (m.delivery.written + count)
    rw [htaken, h.taken, remaining, h.wire_eq, List.append_assoc, List.take_add]

theorem Moment.Accepts.underway {m m' : Moment} {counts : List Nat} (h : m.Accepts counts m')
    (hm : Underway wire before m.delivery m.sink) : Underway wire before m'.delivery m'.sink := by
  induction h with
  | here => exact hm
  | write hleft hwrite _ ih => exact ih (hm.after hleft hwrite)

/-- A run keeps it. -/
theorem Underway.run {d d' : Delivery} {sink sink' : Sink} (h : Underway wire before d sink)
    {late : Bool} {ending : DeliveryEnd} (hrun : d.run late sink = (ending, d', sink')) :
    Underway wire before d' sink' := by
  obtain ⟨counts, last, ending', sink'', haccepts, hends, hlast⟩ :=
    Moment.exists_ends ⟨late, d, sink⟩
  cases hlast.symm.trans hrun
  have hunderway := haccepts.underway h
  exact ⟨hunderway.wire_eq, hunderway.le_length, hends.taken_eq.trans hunderway.taken⟩

theorem Underway.of_begun {response : Response} {d : Delivery} {sink sink' : Sink}
    (h : Begun response sink d sink') : Underway response.wire sink.taken d sink' := by
  induction h with
  | fresh => exact ⟨rfl, Nat.zero_le _, (List.append_nil _).symm⟩
  | again _ hrun ih => exact ih.run hrun

/-- At every moment of a run the peer has taken the first bytes of the response, as many as the
delivery counts.  There are at most as many writes before it as bytes were left to deliver.  The run
ends right at the first write of which nothing is taken, with the count of what was taken by then,
and it is done only if everything was taken and could be flushed.  All this holds again for each run
of a delivery that was interrupted. -/
theorem run_accepts (response : Response) {sink sink' : Sink} {d : Delivery}
    (hbegun : Begun response sink d sink') (late : Bool) :
    let start : Moment := ⟨late, d, sink'⟩
    (∀ counts m, start.Accepts counts m →
        m.delivery.wire = response.wire ∧
        m.sink.taken = sink.taken ++ response.wire.take m.delivery.written ∧
        m.delivery.written = d.written + counts.sum ∧ m.delivery.written ≤ response.wire.length ∧
        counts.length ≤ response.wire.length - d.written ∧
        d.run late sink' = m.delivery.run m.late m.sink) ∧
      ∃ counts last ending sink'', start.Accepts counts last ∧
        d.run late sink' = (ending, last.delivery, sink'') ∧ last.Ends ending sink'' ∧
        sink''.taken = sink.taken ++ response.wire.take last.delivery.written ∧
        (ending = .done →
          last.delivery.written = response.wire.length ∧ sink''.flushed = sink'.flushed + 1) := by
  intro start
  have hstart : Underway response.wire sink.taken start.delivery start.sink := .of_begun hbegun
  constructor
  · intro counts m haccepts
    obtain ⟨hwire, hle, htaken⟩ := haccepts.underway hstart
    have hwritten : m.delivery.written = d.written + counts.sum := haccepts.written_eq
    have hlength := haccepts.length_le_sum
    exact ⟨hwire, htaken, hwritten, hle, by omega, haccepts.run_eq⟩
  · obtain ⟨counts, last, ending, sink'', haccepts, hends, hrun⟩ := start.exists_ends
    obtain ⟨hwire, hle, htaken⟩ := haccepts.underway hstart
    refine ⟨counts, last, ending, sink'', haccepts, hrun, hends, hends.taken_eq.trans htaken, ?_⟩
    rintro rfl
    cases hends with
    | done hleft hflush =>
      rw [Moment.Left, hwire] at hleft
      exact ⟨by omega, by rw [Sink.flushed_flush hflush, haccepts.flushed_eq]⟩

/-- A peer that takes three bytes, then nothing, then two bytes, and is gone. -/
def fickleSink : Sink :=
  { writes := [.takes 3, .takes 0, .takes 2, .failed ⟨"reset".toList⟩] }

/-- The peer when it has taken the three bytes and refused more. -/
def fickleSink' : Sink :=
  { writes := [.takes 2, .failed ⟨"reset".toList⟩], taken := Utf8.encode "HTT".toList }

/-- The first run stops after three bytes, and the second one goes on with the fourth. -/
theorem run_accepts_fickle :
    let d : Delivery := { wire := (Response.ok []).wire, written := 3 }
    Begun (.ok []) fickleSink d fickleSink' ∧
      ∃ sink, d.run false fickleSink' = (.failed ⟨"reset".toList⟩, { d with written := 5 }, sink) ∧
        sink.taken = Utf8.encode "HTTP/".toList := by
  intro d
  have hfirst : (ofResponse (.ok [])).run false fickleSink = (.stopped, d, fickleSink') := by
    decide +kernel
  have hsecond : (d.run false fickleSink').1 = .failed ⟨"reset".toList⟩ ∧
      (d.run false fickleSink').2.1 = { d with written := 5 } := by
    decide +kernel
  have hbegun : Begun (.ok []) fickleSink d fickleSink' := .again .fresh hfirst
  obtain ⟨-, counts, last, ending, sink, -, hrun, -, htaken, -⟩ := run_accepts (.ok []) hbegun false
  rw [hrun] at hsecond
  obtain ⟨rfl, hcount⟩ := hsecond
  have hlast : last.delivery = { d with written := 5 } := hcount
  refine ⟨hbegun, sink, by rw [hrun, hlast], ?_⟩
  rw [htaken, hlast]
  decide

end Http.Delivery

end Gateway
