import Gateway.Stream.Inlet

/-!
# What a peer sends in all

An inlet says how bytes arrive, and a reader sees them through reads of its own sizes.  Two things
do not depend on those sizes: `delivered`, the bytes that come before the peer closes, fails or
lets a read time out, and `ending`, which of the three it is.

A read takes its bytes off the front of what is delivered and leaves the ending as it is
(`read_eq_bytes`).  A read that brings no bytes shows that nothing is left, and how it ended
(`read_eq_ending`).  A loop over reads needs no more than these two.

A peer that closes may have cut its bytes into any pieces (`closes_map_data`).
-/

namespace Gateway.Inlet

/-- The bytes that a peer still sends before its end.  `late` says whether the deadline of the
present read has passed. -/
def deliveredFrom : Bool → Inlet → Bytes
  | _, [] => []
  | _, .data [] :: _ => []
  | _, .data (b :: bs) :: rest => b :: bs ++ deliveredFrom false rest
  | _, .closed :: _ => []
  | _, .failed _ :: _ => []
  | late, .later :: rest => if late then [] else deliveredFrom late rest
  | late, .silence :: rest => if late then [] else deliveredFrom true rest

/-- The bytes that a peer sends before it closes, fails or lets a read time out. -/
def delivered (inlet : Inlet) : Bytes := deliveredFrom false inlet

/-- How the peer ends, once it sends no more. -/
def endingFrom : Bool → Inlet → Reading
  | _, [] => .ended
  | _, .data [] :: _ => .ended
  | _, .data (_ :: _) :: rest => endingFrom false rest
  | _, .closed :: _ => .ended
  | _, .failed fault :: _ => .failed fault
  | late, .later :: rest => if late then .timedOut else endingFrom late rest
  | late, .silence :: rest => if late then .timedOut else endingFrom true rest

/-- Whether the peer closes, fails or lets a read time out. -/
def ending (inlet : Inlet) : Reading := endingFrom false inlet

/-! ## Reads -/

/-- The bytes of a read are the next ones of those delivered. -/
theorem readFrom_eq_bytes {want : Nat} {got : Bytes} {rest : Inlet} :
    ∀ {late : Bool} {inlet : Inlet}, readFrom want late inlet = (.bytes got, rest) →
      deliveredFrom late inlet = got ++ rest.delivered ∧ endingFrom late inlet = rest.ending
  | _, [], h => by cases h
  | _, .data [] :: _, h => by cases h
  | _, .data (b :: bs) :: after, h => by
    rw [readFrom, Prod.mk.injEq, Reading.bytes.injEq] at h
    obtain ⟨hgot, hrest⟩ := h
    have hall := List.take_append_drop want (b :: bs)
    rw [hgot] at hall
    split at hrest
    · next hle =>
      rw [List.take_of_length_le hle] at hgot
      cases hgot
      cases hrest
      exact ⟨rfl, rfl⟩
    · next hgt =>
      -- what the read left of the arrival comes first in the next one
      cases hd : (b :: bs).drop want with
      | nil => exact absurd (List.drop_eq_nil_iff.mp hd) hgt
      | cons c cs =>
        rw [hd] at hrest hall
        cases hrest
        refine ⟨?_, rfl⟩
        show b :: bs ++ deliveredFrom false after = got ++ (c :: cs ++ deliveredFrom false after)
        rw [← hall, List.append_assoc]
  | _, .closed :: _, h => by cases h
  | _, .failed _ :: _, h => by cases h
  | late, .later :: after, h => by
    cases late with
    | false =>
      have h' : readFrom want false after = (.bytes got, rest) := h
      have hafter := readFrom_eq_bytes h'
      exact hafter
    | true => cases h
  | late, .silence :: after, h => by
    cases late with
    | false =>
      have h' : readFrom want true after = (.bytes got, rest) := h
      have hafter := readFrom_eq_bytes h'
      exact hafter
    | true => cases h

/-- A read without bytes shows the end. -/
theorem readFrom_eq_ending {want : Nat} {r : Reading} {rest : Inlet}
    (hr : ∀ got, r ≠ .bytes got) :
    ∀ {late : Bool} {inlet : Inlet}, readFrom want late inlet = (r, rest) →
      deliveredFrom late inlet = [] ∧ endingFrom late inlet = r
  | _, [], h => by
    cases h
    exact ⟨rfl, rfl⟩
  | _, .data [] :: _, h => by
    cases h
    exact ⟨rfl, rfl⟩
  | _, .data (b :: bs) :: _, h => by
    cases h
    exact absurd rfl (hr _)
  | _, .closed :: _, h => by
    cases h
    exact ⟨rfl, rfl⟩
  | _, .failed _ :: _, h => by
    cases h
    exact ⟨rfl, rfl⟩
  | late, .later :: after, h => by
    cases late with
    | false =>
      have h' : readFrom want false after = (r, rest) := h
      have hafter := readFrom_eq_ending hr h'
      exact hafter
    | true =>
      cases h
      exact ⟨rfl, rfl⟩
  | late, .silence :: after, h => by
    cases late with
    | false =>
      have h' : readFrom want true after = (r, rest) := h
      have hafter := readFrom_eq_ending hr h'
      exact hafter
    | true =>
      cases h
      exact ⟨rfl, rfl⟩

theorem read_eq_bytes {want : Nat} {inlet rest : Inlet} {got : Bytes}
    (h : inlet.read want = (.bytes got, rest)) :
    inlet.delivered = got ++ rest.delivered ∧ inlet.ending = rest.ending :=
  readFrom_eq_bytes h

theorem read_eq_ending {want : Nat} {inlet rest : Inlet} {r : Reading}
    (h : inlet.read want = (r, rest)) (hr : ∀ got, r ≠ .bytes got) :
    inlet.delivered = [] ∧ inlet.ending = r :=
  readFrom_eq_ending hr h

theorem read_data_of_le {want : Nat} {piece : Bytes} (hne : piece ≠ []) (h : piece.length ≤ want)
    (rest : Inlet) : Inlet.read want (.data piece :: rest) = (.bytes piece, rest) := by
  obtain ⟨b, bs, rfl⟩ := List.exists_cons_of_ne_nil hne
  rw [read, readFrom, if_pos h, List.take_of_length_le h]

/-- A read brings the next bytes of a piece. -/
theorem exists_read_data (want : Nat) {piece : Bytes} (hne : piece ≠ []) (rest : Inlet) :
    ∃ left, Inlet.read want (.data piece :: rest) = (.bytes (piece.take want), left) := by
  obtain ⟨b, bs, rfl⟩ := List.exists_cons_of_ne_nil hne
  exact ⟨_, rfl⟩

/-! ## Peers that close -/

/-- Whether a peer sends some bytes, in whatever pieces, and closes after them. -/
structure Closes (inlet : Inlet) (whole : Bytes) : Prop where
  delivered : inlet.delivered = whole
  ending : inlet.ending = .ended

theorem Closes.nil : Closes [] [] := ⟨rfl, rfl⟩

theorem Closes.cons {piece : Bytes} {inlet : Inlet} {whole : Bytes} (hpiece : piece ≠ [])
    (h : Closes inlet whole) : Closes (.data piece :: inlet) (piece ++ whole) := by
  obtain ⟨b, bs, rfl⟩ := List.exists_cons_of_ne_nil hpiece
  refine ⟨?_, h.ending⟩
  rw [← h.delivered]
  rfl

/-- A peer may cut what it sends into any pieces that are not empty. -/
theorem closes_map_data : ∀ {pieces : List Bytes}, (∀ piece ∈ pieces, piece ≠ []) →
    Closes (pieces.map .data) pieces.flatten
  | [], _ => .nil
  | piece :: _, h =>
    .cons (h piece List.mem_cons_self) (closes_map_data fun p hp => h p (List.mem_cons_of_mem _ hp))

end Gateway.Inlet
