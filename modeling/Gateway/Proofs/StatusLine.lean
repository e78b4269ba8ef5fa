import Mathlib.Algebra.Group.Nat.Defs
import Mathlib.Data.Option.Basic
import Gateway.Http.StatusLine
import Gateway.Proofs.Wire

/-!
# Writing and reading the status line

The status line of a response is written with as many digits as its code has, and a reader takes a
code of three bytes only.  So the line is read again exactly if the code has three digits
(`parse?_wire`).

A reader takes more than what is written.  With a plus sign or leading zeros three bytes also name a
code below 100, and none above 999 (`code_le_of_parse?`).
-/

namespace Gateway

namespace Numeral

/-- Each further digit moves a value up by one place. -/
theorem digits?_lt : ∀ {t : Text} {n m : Nat}, digits? 10 n t = some m → m < (n + 1) * 10 ^ t.length
  | [], n, m, h => by
    cases h
    simp
  | c :: t, n, m, h => by
    rw [digits?] at h
    split at h
    · next d _ =>
      split at h
      · next hd =>
        have hm := digits?_lt h
        calc m < (n * 10 + d + 1) * 10 ^ t.length := hm
          _ ≤ ((n + 1) * 10) * 10 ^ t.length := Nat.mul_le_mul_right _ (by omega)
          _ = (n + 1) * 10 ^ (c :: t).length := by
            rw [List.length_cons, Nat.pow_succ', Nat.mul_assoc]
      · cases h
    · cases h

theorem bare?_lt {t : Text} {n : Nat} (h : bare? 10 t = some n) : n < 10 ^ t.length := by
  cases t with
  | nil => cases h
  | cons c t =>
    have hdigits := digits?_lt (show digits? 10 0 (c :: t) = some n from h)
    omega

/-- A numeral has no more digits than characters. -/
theorem read?_lt {limit : Nat} {t : Text} {n : Nat} (h : read? 10 limit t = some n) :
    n < 10 ^ t.length := by
  obtain ⟨hbare, -⟩ := Option.filter_eq_some_iff.mp h
  refine Nat.lt_of_lt_of_le (bare?_lt hbare) (Nat.pow_le_pow_right (by decide) ?_)
  split
  · rw [List.length_drop]
    exact Nat.sub_le _ _
  · exact Nat.le_refl _

/-- Which numbers have three digits. -/
theorem length_decimal_eq_three {n : Nat} :
    (decimal n).length = 3 ↔ 100 ≤ n ∧ n ≤ 999 := by
  have htwo := Nat.length_toDigits_le_iff (b := 10) (n := n) (k := 2) (by decide) (by decide)
  have hthree := Nat.length_toDigits_le_iff (b := 10) (n := n) (k := 3) (by decide) (by decide)
  rw [decimal]
  omega

end Numeral

namespace Utf8

/-- Each character has a byte. -/
theorem length_le_length_encode (t : Text) : t.length ≤ (encode t).length := by
  induction t with
  | nil => exact Nat.le_refl _
  | cons c t ih =>
    have hpos : 0 < (String.utf8EncodeChar c).length :=
      List.length_pos_iff.mpr String.utf8EncodeChar_ne_nil
    rw [encode_cons, List.length_append, List.length_cons]
    omega

/-- An ASCII text has as many bytes as characters. -/
theorem length_encode_ascii {t : Text} (h : ∀ c ∈ t, c.toNat < 0x80) :
    (encode t).length = t.length := by
  induction t with
  | nil => rfl
  | cons c t ih =>
    rw [encode_cons, utf8EncodeChar_ascii (h c List.mem_cons_self), List.length_append,
      ih fun d hd => h d (List.mem_cons_of_mem c hd), List.length_cons, Nat.add_comm]
    rfl

end Utf8

namespace Http

namespace StatusLine

theorem cutAtSpace_append {a : Text} (h : ' ' ∉ a) (b : Text) :
    cutAtSpace (a ++ ' ' :: b) = (a, some b) := by
  rw [cutAtSpace, Text.splitOnce?_append b h]

/-- The code of a status line has three digits at most. -/
theorem code_le_of_ofText? {t : Text} {line : StatusLine} (h : ofText? t = some line) :
    line.code.toNat ≤ 999 := by
  simp only [ofText?, Option.bind_eq_bind, Option.bind_eq_some_iff] at h
  obtain ⟨_, -, rest, -, _, hguard, n, hn, hline⟩ := h
  have hthree := (Option.guard_eq_some' _).mp hguard
  cases hline
  have hlen := Utf8.length_le_length_encode (cutAtSpace rest).1
  have hlt : n < 10 ^ 3 := Nat.lt_of_lt_of_le (Numeral.read?_lt hn)
    (Nat.pow_le_pow_right (by decide) (hthree ▸ hlen))
  show (UInt16.ofNat n).toNat ≤ 999
  rw [UInt16.toNat_ofNat']
  omega

theorem length_encode_decimal (n : Nat) :
    (Utf8.encode (Numeral.decimal n)).length = (Numeral.decimal n).length := by
  refine Utf8.length_encode_ascii fun c hc => ?_
  have hdigit := Numeral.isDigit_of_mem_decimal hc
  simp only [Char.isDigit, Bool.and_eq_true, decide_eq_true_eq] at hdigit
  have h9 : c.toNat ≤ 57 := hdigit.2
  omega

/-- A status line that was written is read exactly if its code has three digits. -/
theorem ofText?_statusText (status : Status) :
    ofText? (Response.statusText status) =
      if 100 ≤ status.code.toNat ∧ status.code.toNat ≤ 999
      then some ⟨status.code, status.reason⟩ else none := by
  have hversion : cutAtSpace (Response.statusText status) = ("HTTP/1.1".toList,
      some (Numeral.decimal status.code.toNat ++ ' ' :: status.reason)) := by
    have hstart : "HTTP/1.1 ".toList = "HTTP/1.1".toList ++ [' '] := by decide
    unfold Response.statusText
    simp only [hstart, List.append_assoc, List.singleton_append]
    exact cutAtSpace_append (show ' ' ∉ "HTTP/1.1".toList by decide) _
  have hcode : cutAtSpace (Numeral.decimal status.code.toNat ++ ' ' :: status.reason)
      = (Numeral.decimal status.code.toNat, some status.reason) :=
    cutAtSpace_append ((Numeral.solid_decimal _).not_mem (by decide)) _
  simp only [ofText?, hversion, hcode, Option.bind_eq_bind, Option.bind_some]
  rw [length_encode_decimal]
  by_cases hthree : 100 ≤ status.code.toNat ∧ status.code.toNat ≤ 999
  · rw [if_pos hthree, Numeral.length_decimal_eq_three.mpr hthree,
      Numeral.read?_decimal (show status.code.toNat < Numeral.limit16 from status.code.toNat_lt),
      Option.bind_some, UInt16.ofNat_toNat]
    rfl
  · have hlen := mt Numeral.length_decimal_eq_three.mp hthree
    simp [guard, hlen, hthree]

theorem code_le_of_parse? {bytes : Bytes} {line : StatusLine} (h : parse? bytes = some line) :
    line.code.toNat ≤ 999 := by
  obtain ⟨_, -, hline⟩ := Option.bind_eq_some_iff.mp h
  exact code_le_of_ofText? hline

/-- The status line of a message is its first line. -/
theorem parse?_message {l : Text} (h : Framing.IsLine l) (l' : Text) (ls : List Text)
    (body : Bytes) : parse? (Framing.message (l :: l' :: ls) body) = ofText? l := by
  have hfirst : (Framing.message (l :: l' :: ls) body).takeWhile (· != 10)
      = Utf8.encode (l ++ ['\r']) := by
    rw [Framing.message_cons_cons]
    exact Request.takeWhile_encode_lineEnd h _
  rw [parse?, hfirst, Utf8.decode?_encode]
  show ofText? (Text.dropEndWhile (· == '\r') (l ++ ['\r'])) = ofText? l
  rw [Text.dropEndWhile_carriageReturn h.cr]

/-- A reader finds the status of a response exactly if its code has three digits. -/
theorem parse?_wire (r : Response) :
    parse? r.wire =
      if 100 ≤ r.status.code.toNat ∧ r.status.code.toNat ≤ 999
      then some ⟨r.status.code, r.status.reason⟩ else none := by
  have hfields : r.wireFields.map Response.fieldLine ≠ [] := by
    rw [Response.wireFields, List.map_append]
    exact List.append_ne_nil_of_right_ne_nil _ (List.cons_ne_nil _ _)
  obtain ⟨l, ls, hls⟩ := List.exists_cons_of_ne_nil hfields
  rw [Response.wire_eq_message, Response.wireLines, hls,
    parse?_message (Response.isLine_statusText r.status), ofText?_statusText]

end StatusLine

end Http

end Gateway
