import Gateway.Server.Connection
import Gateway.Proofs.Inlet
import Gateway.Proofs.Request

/-!
# What is read of a request

A client's bytes may be cut into reads in any way, and a read may bring bytes beyond the end of the
request.  What is captured is still determined as far as it matters.

The loop keeps its buffer a prefix of what the client sends and no longer than the limit, and it
stops for one of three reasons: the buffer is complete, the limit is reached, or the client sends no
more (`captureFrom_spec`, by induction along the loop).  Since completion is a threshold on
prefixes, the captured bytes are complete if any prefix within the limit is, and otherwise they are
all that the limit admits.  The two cases give `capture_segmentation`: beyond the end of a complete
message, captured bytes can only lengthen the body of a request that declares no length.
-/

namespace Gateway.Server

open Gateway.Http

/-! ## The loop -/

/-- What a capture has to do with the client that it was read from, starting with some bytes. -/
structure Capture.Of (limit : Nat) (buffer : Bytes) (inlet : Inlet) (c : Capture) : Prop where
  /-- It goes on with bytes that the client sends next. -/
  grows : ∃ x, c.buffer = buffer ++ x ∧ x <+: inlet.delivered
  /-- It does not go beyond the limit. -/
  le_limit : c.buffer.length ≤ max limit buffer.length
  /-- It stops at a whole message, at the limit or at the end of the client. -/
  stops : Framing.isComplete c.buffer = true ∨ limit ≤ c.buffer.length ∨
    c.buffer = buffer ++ inlet.delivered
  /-- It fails only where the client fails, and then it is no whole message. -/
  fault : ∀ f, c.fault = some f → inlet.ending = .failed f ∧ Framing.isComplete c.buffer = false

theorem wanted_le (limit : Nat) (buffer : Bytes) : wanted limit buffer ≤ limit - buffer.length := by
  unfold wanted
  split
  · exact Nat.zero_le _
  · exact Nat.min_le_left _ _

/-- Nothing is wanted of a whole message or at the limit. -/
theorem stops_of_wanted {limit : Nat} {buffer : Bytes} (h : ¬ 0 < wanted limit buffer) :
    Framing.isComplete buffer = true ∨ limit ≤ buffer.length := by
  by_cases hc : Framing.isComplete buffer = true
  · exact Or.inl hc
  · rw [wanted, if_neg hc, chunkSize] at h
    right
    omega

/-- What is wanted is not complete yet. -/
theorem isComplete_of_wanted {limit : Nat} {buffer : Bytes} (h : 0 < wanted limit buffer) :
    Framing.isComplete buffer = false := by
  cases hc : Framing.isComplete buffer with
  | false => rfl
  | true =>
    rw [wanted, if_pos hc] at h
    exact absurd h (Nat.lt_irrefl 0)

/-- One turn of the loop. -/
theorem captureFrom_eq (limit : Nat) (buffer : Bytes) (inlet : Inlet) :
    captureFrom limit buffer inlet =
      if 0 < wanted limit buffer then
        match inlet.read (wanted limit buffer) with
        | (.bytes got, rest) => captureFrom limit (buffer ++ got) rest
        | (.failed fault, _) => { buffer, fault := some fault }
        | (.ended, _) | (.timedOut, _) => { buffer, fault := none }
      else { buffer, fault := none } := by
  rw [captureFrom]
  split
  · split <;> next hread => rw [hread]
  · rfl

/-- A capture from a client that sends no more. -/
theorem Capture.Of.of_delivered_nil {limit : Nat} {buffer : Bytes} {inlet : Inlet}
    (hwant : 0 < wanted limit buffer) (hnone : inlet.delivered = []) {fault : Option Fault}
    (hfault : ∀ f, fault = some f → inlet.ending = .failed f) :
    Capture.Of limit buffer inlet { buffer, fault } where
  grows := ⟨[], (List.append_nil buffer).symm, List.nil_prefix⟩
  le_limit := Nat.le_max_right limit _
  stops := Or.inr (Or.inr (by rw [hnone, List.append_nil]))
  fault := fun f hf => ⟨hfault f hf, isComplete_of_wanted hwant⟩

/-- The invariant of the loop, along its reads. -/
theorem captureFrom_spec (limit : Nat) (buffer : Bytes) (inlet : Inlet) :
    Capture.Of limit buffer inlet (captureFrom limit buffer inlet) := by
  induction buffer, inlet using captureFrom.induct limit with
  | case1 buffer inlet hwant got rest hread ih =>
    obtain ⟨hbytes, hend⟩ := Inlet.read_eq_bytes hread
    have hgot := (Inlet.read_bytes hwant hread).2
    have hroom := wanted_le limit buffer
    obtain ⟨x, hx, hpart⟩ := ih.grows
    rw [captureFrom_eq, if_pos hwant, hread]
    show Capture.Of limit buffer inlet (captureFrom limit (buffer ++ got) rest)
    refine ⟨⟨got ++ x, ?_, ?_⟩, ?_, ?_, ?_⟩
    · rw [hx, List.append_assoc]
    · rw [hbytes]
      exact (List.prefix_append_right_inj got).mpr hpart
    · have hle := ih.le_limit
      rw [List.length_append] at hle
      omega
    · rw [hbytes, ← List.append_assoc]
      exact ih.stops
    · intro f hf
      rw [hend]
      exact ih.fault f hf
  | case2 buffer inlet hwant fault rest hread =>
    obtain ⟨hnone, hend⟩ := Inlet.read_eq_ending hread (by intro got h; cases h)
    rw [captureFrom_eq, if_pos hwant, hread]
    refine .of_delivered_nil hwant hnone fun f hf => ?_
    cases hf
    exact hend
  | case3 buffer inlet hwant rest hread =>
    obtain ⟨hnone, -⟩ := Inlet.read_eq_ending hread (by intro got h; cases h)
    rw [captureFrom_eq, if_pos hwant, hread]
    exact .of_delivered_nil hwant hnone fun f hf => nomatch hf
  | case4 buffer inlet hwant rest hread =>
    obtain ⟨hnone, -⟩ := Inlet.read_eq_ending hread (by intro got h; cases h)
    rw [captureFrom_eq, if_pos hwant, hread]
    exact .of_delivered_nil hwant hnone fun f hf => nomatch hf
  | case5 buffer inlet hwant =>
    rw [captureFrom_eq, if_neg hwant]
    refine ⟨⟨[], (List.append_nil buffer).symm, List.nil_prefix⟩, Nat.le_max_right limit _, ?_, ?_⟩
    · rcases stops_of_wanted hwant with h | h
      · exact Or.inl h
      · exact Or.inr (Or.inl h)
    · intro f hf
      cases hf

/-- What is captured is a prefix of what the client sends, within the limit. -/
theorem capture_isPrefix (limit : Nat) (inlet : Inlet) :
    (capture limit inlet).buffer <+: inlet.delivered ∧
      (capture limit inlet).buffer.length ≤ limit := by
  have h := captureFrom_spec limit [] inlet
  obtain ⟨x, hx, hpart⟩ := h.grows
  have hle := h.le_limit
  rw [List.length_nil, Nat.max_zero] at hle
  rw [List.nil_append] at hx
  exact ⟨hx ▸ hpart, hle⟩

/-- It is a prefix of all that the limit admits. -/
theorem capture_isPrefix_take (limit : Nat) (inlet : Inlet) :
    (capture limit inlet).buffer <+: inlet.delivered.take limit :=
  List.prefix_take_iff.mpr (capture_isPrefix limit inlet)

/-- It is complete, or all that the limit admits. -/
theorem isComplete_capture_or (limit : Nat) (inlet : Inlet) :
    Framing.isComplete (capture limit inlet).buffer = true ∨
      (capture limit inlet).buffer = inlet.delivered.take limit := by
  have hpart := capture_isPrefix_take limit inlet
  rcases (captureFrom_spec limit [] inlet).stops with h | h | h
  · exact Or.inl h
  · refine Or.inr (hpart.eq_of_length_le ?_)
    exact Nat.le_trans (List.length_take_le limit _) h
  · refine Or.inr (hpart.eq_of_length_le ?_)
    rw [List.nil_append] at h
    rw [List.length_take, capture, h]
    exact Nat.min_le_right _ _

/-- If a prefix within the limit is complete, what is captured is complete. -/
theorem isComplete_capture {limit : Nat} {inlet : Inlet} {p : Bytes} (hp : p <+: inlet.delivered)
    (hle : p.length ≤ limit) (hc : Framing.isComplete p = true) :
    Framing.isComplete (capture limit inlet).buffer = true := by
  rcases isComplete_capture_or limit inlet with h | h
  · exact h
  · rw [h]
    exact Framing.isComplete_of_isPrefix (List.prefix_take_iff.mpr ⟨hp, hle⟩) hc

/-! ## Independence of segmentation -/

/-- The part of some bytes at which a capture may stop. -/
structure Suffices (part whole : Bytes) : Prop where
  /-- The bytes go on after the part. -/
  isPrefix : part <+: whole
  /-- The part is complete, or there is no more. -/
  enough : Framing.isComplete part = true ∨ part = whole

theorem suffices_capture (limit : Nat) (inlet : Inlet) :
    Suffices (capture limit inlet).buffer (inlet.delivered.take limit) :=
  ⟨capture_isPrefix_take limit inlet, isComplete_capture_or limit inlet⟩

/-- The part has the head of the whole. -/
theorem Suffices.splitHead_eq {part whole : Bytes} (h : Suffices part whole) :
    (Framing.splitHead whole).1 = (Framing.splitHead part).1 := by
  obtain ⟨⟨more, rfl⟩, hc | hall⟩ := h
  · rw [Request.splitHead_append_of_isComplete hc]
  · rw [← hall]

theorem Suffices.map_bare_parse {part whole : Bytes} (h : Suffices part whole) :
    (Request.parse part).map Request.bare = (Request.parse whole).map Request.bare := by
  rw [Request.map_bare_parse, Request.map_bare_parse, h.splitHead_eq]

/-- If the head declares one length, the part is the same request. -/
theorem Suffices.parse_eq {part whole : Bytes} (h : Suffices part whole) {n : Nat}
    (hn : Request.Declares (Framing.splitHead whole).1 n)
    (hfits : (Framing.splitHead whole).1.length + 4 + n < Numeral.limit64) :
    Request.parse part = Request.parse whole := by
  rw [h.splitHead_eq] at hn hfits
  obtain ⟨⟨more, rfl⟩, hc | hall⟩ := h
  · exact (Request.parse_append hc hn hfits more).symm
  · rw [← hall]

/-- If the head declares no length, the part holds a part of the body. -/
theorem Suffices.body_isPrefix {part whole : Bytes} (h : Suffices part whole)
    (hnone : Request.lengthValues (Framing.splitHead whole).1 = []) {r q : Request}
    (hr : Request.parse part = .ok r) (hq : Request.parse whole = .ok q) :
    r.body <+: q.body ∧ r.truncated = false := by
  rw [h.splitHead_eq] at hnone
  refine ⟨?_, Request.truncated_eq_false hnone hr⟩
  obtain ⟨⟨more, rfl⟩, hc | hall⟩ := h
  · rw [Request.parse_append_of_lengthValues hc hnone, hr] at hq
    cases hq
    exact List.prefix_append r.body more
  · rw [← hall, hr] at hq
    cases hq
    exact List.prefix_rfl

/-- Of a client that starts with a whole message, which declares its length, this message is read,
whatever comes after it. -/
theorem capture_of_message {limit : Nat} {inlet : Inlet} {message : Bytes}
    (hpart : message <+: inlet.delivered) (hle : message.length ≤ limit)
    (hc : Framing.isComplete message = true) {n : Nat}
    (hn : Request.Declares (Framing.splitHead message).1 n)
    (hfits : (Framing.splitHead message).1.length + 4 + n < Numeral.limit64) :
    (capture limit inlet).fault = none ∧ (capture limit inlet).buffer ≠ [] ∧
      Request.parse (capture limit inlet).buffer = Request.parse message := by
  have hbuffer := isComplete_capture hpart hle hc
  refine ⟨?_, ?_, ?_⟩
  · cases hf : (capture limit inlet).fault with
    | none => rfl
    | some f =>
      have hnot := ((captureFrom_spec limit [] inlet).fault f hf).2
      exact absurd hbuffer (Bool.eq_false_iff.mp hnot)
  · intro hnil
    rw [hnil] at hbuffer
    cases hbuffer
  · have hmessage : Suffices message (inlet.delivered.take limit) :=
      ⟨List.prefix_take_iff.mpr ⟨hpart, hle⟩, Or.inl hc⟩
    rw [← hmessage.splitHead_eq] at hn hfits
    rw [(suffices_capture limit inlet).parse_eq hn hfits, hmessage.parse_eq hn hfits]

/-- However a client's bytes are cut into reads, what is captured of them is a prefix within the
limit, complete if any such prefix is and otherwise all that the limit admits.  It is read as the
first `limit` bytes of the client are: with the same head, with the same body too if that head
declares one length, within 64 bits, and with no more than a part of the body if it declares none.
The capture fails only if the client does. -/
theorem capture_segmentation (limit : Nat) (inlet : Inlet) :
    let s := inlet.delivered
    let b := (capture limit inlet).buffer
    let head := (Framing.splitHead (s.take limit)).1
    (∀ f, (capture limit inlet).fault = some f → inlet.ending = .failed f) ∧
      b <+: s ∧ b.length ≤ limit ∧
      ((∃ p, p <+: s ∧ p.length ≤ limit ∧ Framing.isComplete p = true) →
        Framing.isComplete b = true) ∧
      ((¬ ∃ p, p <+: s ∧ p.length ≤ limit ∧ Framing.isComplete p = true) →
        b = s.take (min limit s.length)) ∧
      (Request.parse b).map Request.bare = (Request.parse (s.take limit)).map Request.bare ∧
      (∀ n, Request.Declares head n → head.length + 4 + n < Numeral.limit64 →
        Request.parse b = Request.parse (s.take limit)) ∧
      (Request.lengthValues head = [] → ∀ r q, Request.parse b = .ok r →
        Request.parse (s.take limit) = .ok q → r.body <+: q.body ∧ r.truncated = false) := by
  intro s b head
  obtain ⟨hpart, hle⟩ := capture_isPrefix limit inlet
  have hsuff : Suffices b (s.take limit) := suffices_capture limit inlet
  refine ⟨?_, hpart, hle, ?_, ?_, hsuff.map_bare_parse, ?_, ?_⟩
  · intro f hf
    exact ((captureFrom_spec limit [] inlet).fault f hf).1
  · rintro ⟨p, hp, hple, hc⟩
    exact isComplete_capture hp hple hc
  · intro hnone
    rcases hsuff.enough with hc | hall
    · exact absurd ⟨b, hpart, hle, hc⟩ hnone
    · rw [← List.take_eq_take_min]
      exact hall
  · intro n hn hfits
    exact hsuff.parse_eq hn hfits
  · intro hnone r q hr hq
    exact hsuff.body_isPrefix hnone hr hq

end Gateway.Server
