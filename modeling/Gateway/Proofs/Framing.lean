import Gateway.Http.Framing
import Gateway.Proofs.Text
import Gateway.Proofs.Utf8

/-!
# How long a message is

A head ends at its first blank line (`headEnd?_eq_some_iff`), and what follows cannot move that end:
the end, the declared length and with them the length of the whole message stay the same when more
bytes come (`headEnd?_append`, `declaredLength?_append`).  So `isComplete` is a threshold.  With
`messageLength?` as the length that the head asks for, the first `m` bytes are complete exactly if
`m` is that long (`isComplete_take_iff`).  `isComplete_threshold` says what is known of each part of
some bytes, those that hold no blank line included.

The length that a head asks for is that of head, blank line and declared body, as long as 64 bits
hold it (`InRange`).  Beyond that the sum wraps and the head asks for no more than itself.

The last part is about messages that were put together from lines and a body.  If no line is empty
or holds a part of a line end (`IsLine`), the blank line that was written is the first one, and the
lines that are read are those that were written.
-/

namespace Gateway.Http.Framing

/-! ## The first blank line -/

theorem headEnd?_cons_eq_zero_iff {b : UInt8} {rest : Bytes} :
    headEnd? (b :: rest) = some 0 ↔ blankLine <+: b :: rest := by
  rw [headEnd?, ← List.isPrefixOf_iff_prefix]
  split
  · next hb => exact iff_of_true rfl hb
  · next hb => simp [hb]

theorem headEnd?_cons_eq_succ_iff {b : UInt8} {rest : Bytes} {n : Nat} :
    headEnd? (b :: rest) = some (n + 1) ↔
      ¬ blankLine <+: b :: rest ∧ headEnd? rest = some n := by
  rw [headEnd?, ← List.isPrefixOf_iff_prefix]
  split
  · next hb => simp [hb]
  · next hb => simp [hb]

/-- The head ends where the first blank line starts. -/
theorem headEnd?_eq_some_iff : ∀ {xs : Bytes} {n : Nat},
    headEnd? xs = some n ↔ blankLine <+: xs.drop n ∧ ∀ k < n, ¬ blankLine <+: xs.drop k
  | [], n => by
    constructor
    · intro h
      cases h
    · rintro ⟨h, -⟩
      rw [List.drop_nil] at h
      exact absurd h.length_le (by decide)
  | b :: rest, 0 => by
    rw [headEnd?_cons_eq_zero_iff]
    exact ⟨fun h => ⟨h, fun k hk => absurd hk (Nat.not_lt_zero k)⟩, And.left⟩
  | b :: rest, n + 1 => by
    have ih : headEnd? rest = some n ↔ _ := headEnd?_eq_some_iff
    rw [headEnd?_cons_eq_succ_iff, ih]
    constructor
    · rintro ⟨hb, hblank, hfirst⟩
      refine ⟨hblank, fun k hk => ?_⟩
      cases k with
      | zero => exact hb
      | succ k => exact hfirst k (Nat.lt_of_succ_lt_succ hk)
    · rintro ⟨hblank, hfirst⟩
      exact ⟨hfirst 0 (Nat.succ_pos n), hblank, fun k hk => hfirst (k + 1) (Nat.succ_lt_succ hk)⟩

/-- Where a blank line stands, a head has ended. -/
theorem exists_headEnd? {xs : Bytes} {n : Nat} (h : blankLine <+: xs.drop n) :
    ∃ k ≤ n, headEnd? xs = some k := by
  induction n using Nat.strongRecOn with
  | ind n ih =>
    by_cases hfirst : ∃ k, k < n ∧ blankLine <+: xs.drop k
    · obtain ⟨k, hk, hblank⟩ := hfirst
      obtain ⟨j, hj, hend⟩ := ih k hk hblank
      exact ⟨j, Nat.le_trans hj (Nat.le_of_lt hk), hend⟩
    · exact ⟨n, Nat.le_refl n,
        headEnd?_eq_some_iff.mpr ⟨h, fun k hk hblank => hfirst ⟨k, hk, hblank⟩⟩⟩

/-- A head has ended if there is a blank line anywhere, and only then. -/
theorem exists_headEnd?_iff {xs : Bytes} : (∃ n, headEnd? xs = some n) ↔ blankLine <:+: xs := by
  constructor
  · rintro ⟨n, hn⟩
    exact (headEnd?_eq_some_iff.mp hn).1.isInfix.trans (List.drop_suffix n xs).isInfix
  · rintro ⟨front, back, rfl⟩
    have hblank : blankLine <+: (front ++ blankLine ++ back).drop front.length := by
      rw [List.append_assoc, List.drop_left]
      exact List.prefix_append blankLine back
    obtain ⟨n, -, hn⟩ := exists_headEnd? hblank
    exact ⟨n, hn⟩

/-- The blank line lies within the bytes. -/
theorem headEnd_add_le {xs : Bytes} {n : Nat} (h : headEnd? xs = some n) : n + 4 ≤ xs.length := by
  have hle := (headEnd?_eq_some_iff.mp h).1.length_le
  rw [List.length_drop] at hle
  have hfour : blankLine.length = 4 := rfl
  omega

/-- More bytes do not move the end of the head. -/
theorem headEnd?_append {xs : Bytes} {n : Nat} (h : headEnd? xs = some n) (ys : Bytes) :
    headEnd? (xs ++ ys) = some n := by
  have hlen := headEnd_add_le h
  obtain ⟨hblank, hfirst⟩ := headEnd?_eq_some_iff.mp h
  refine headEnd?_eq_some_iff.mpr ⟨?_, fun k hk hk' => hfirst k hk ?_⟩
  · rw [List.drop_append_of_le_length (by omega)]
    exact hblank.trans (List.prefix_append _ ys)
  · rw [List.drop_append_of_le_length (by omega)] at hk'
    refine List.prefix_of_prefix_length_le hk' (List.prefix_append _ ys) ?_
    rw [List.length_drop]
    show 4 ≤ _
    omega

theorem headEnd?_of_isPrefix {part xs : Bytes} {n : Nat} (hpart : part <+: xs)
    (h : headEnd? part = some n) : headEnd? xs = some n := by
  obtain ⟨more, rfl⟩ := hpart
  exact headEnd?_append h more

/-- Where no head has ended, none had ended before. -/
theorem headEnd?_eq_none_of_isPrefix {part xs : Bytes} (hpart : part <+: xs)
    (h : headEnd? xs = none) : headEnd? part = none := by
  cases hk : headEnd? part with
  | none => rfl
  | some k =>
    rw [headEnd?_of_isPrefix hpart hk] at h
    cases h

/-- The head is still there in a part that holds the blank line. -/
theorem headEnd?_take {xs : Bytes} {n m : Nat} (h : headEnd? xs = some n) (hm : n + 4 ≤ m) :
    headEnd? (xs.take m) = some n := by
  have hlen := headEnd_add_le h
  have hblank : blankLine <+: (xs.take m).drop n := by
    rw [List.drop_take]
    refine List.prefix_take_iff.mpr ⟨(headEnd?_eq_some_iff.mp h).1, ?_⟩
    show 4 ≤ _
    omega
  obtain ⟨k, -, hk⟩ := exists_headEnd? hblank
  rw [hk, ← headEnd?_of_isPrefix (List.take_prefix m xs) hk, h]

/-- The same of a part that is not given by its length. -/
theorem headEnd?_eq_of_isPrefix {part xs : Bytes} {n : Nat} (hpart : part <+: xs)
    (h : headEnd? xs = some n) (hle : n + 4 ≤ part.length) : headEnd? part = some n := by
  rw [List.prefix_iff_eq_take.mp hpart]
  exact headEnd?_take h hle

/-- A part that ends before the end of the blank line has no head. -/
theorem headEnd?_take_of_lt {xs : Bytes} {n m : Nat} (h : headEnd? xs = some n) (hm : m < n + 4) :
    headEnd? (xs.take m) = none := by
  cases hk : headEnd? (xs.take m) with
  | none => rfl
  | some k =>
    have hxs := headEnd?_of_isPrefix (List.take_prefix m xs) hk
    rw [h] at hxs
    have hlen := headEnd_add_le hk
    rw [List.length_take] at hlen
    cases hxs
    omega

theorem splitHead_eq {xs : Bytes} {n : Nat} (h : headEnd? xs = some n) :
    splitHead xs = (xs.take n, xs.drop (n + 4)) := by
  rw [splitHead, h]

theorem length_splitHead {xs : Bytes} {n : Nat} (h : headEnd? xs = some n) :
    (splitHead xs).1.length = n := by
  rw [splitHead_eq h, List.length_take]
  have hlen := headEnd_add_le h
  omega

/-- More bytes leave the head as it is and are added to what follows it. -/
theorem splitHead_append {xs : Bytes} {n : Nat} (h : headEnd? xs = some n) (ys : Bytes) :
    splitHead (xs ++ ys) = ((splitHead xs).1, (splitHead xs).2 ++ ys) := by
  have hlen := headEnd_add_le h
  rw [splitHead_eq (headEnd?_append h ys), splitHead_eq h, List.take_append_of_le_length (by omega),
    List.drop_append_of_le_length hlen]

/-! ## The declared length -/

/-- The lines of a head after the first, which hold its fields. -/
def fieldLines (head : Bytes) : List Text := (Text.lines (Utf8.decodeLossy head)).drop 1

theorem declaredLength?_eq {xs : Bytes} {n : Nat} (h : headEnd? xs = some n) :
    declaredLength? xs = (fieldLines (xs.take n)).findSome? lengthField? := by
  rw [declaredLength?, h]
  rfl

theorem declaredLength?_eq_none {xs : Bytes} (h : headEnd? xs = none) :
    declaredLength? xs = none := by
  rw [declaredLength?, h]
  rfl

/-- The declared length is read from the head alone. -/
theorem declaredLength?_eq_splitHead {xs : Bytes} {n : Nat} (h : headEnd? xs = some n) :
    declaredLength? xs = (fieldLines (splitHead xs).1).findSome? lengthField? := by
  rw [declaredLength?_eq h, splitHead_eq h]

/-- More bytes do not change the declared length. -/
theorem declaredLength?_append {xs : Bytes} {n : Nat} (h : headEnd? xs = some n) (ys : Bytes) :
    declaredLength? (xs ++ ys) = declaredLength? xs := by
  rw [declaredLength?_eq_splitHead (headEnd?_append h ys), declaredLength?_eq_splitHead h,
    splitHead_append h]

/-- A part that holds the blank line declares what the whole declares. -/
theorem declaredLength?_take {xs : Bytes} {n m : Nat} (h : headEnd? xs = some n)
    (hm : n + 4 ≤ m) : declaredLength? (xs.take m) = declaredLength? xs := by
  have hmore := declaredLength?_append (headEnd?_take h hm) (xs.drop m)
  rw [List.take_append_drop] at hmore
  exact hmore.symm

/-- A declared length is a number of 64 bits. -/
theorem declaredLength?_lt_limit {xs : Bytes} {d : Nat} (h : declaredLength? xs = some d) :
    d < Numeral.limit64 := by
  obtain ⟨n, hn, -⟩ := Option.bind_eq_some_iff.mp h
  rw [declaredLength?_eq hn] at h
  obtain ⟨line, -, hline⟩ := List.exists_of_findSome?_eq_some h
  obtain ⟨⟨name, value⟩, -, hvalue⟩ := Option.bind_eq_some_iff.mp hline
  dsimp only at hvalue
  split at hvalue
  · have hread := (Option.filter_eq_some_iff.mp hvalue).2
    simpa using hread
  · cases hvalue

theorem getD_declaredLength?_lt_limit (xs : Bytes) :
    (declaredLength? xs).getD 0 < Numeral.limit64 := by
  cases hd : declaredLength? xs with
  | none => decide
  | some d => exact declaredLength?_lt_limit hd

/-! ## The length of the whole message -/

/-- How long a message must be to be whole, after a head of length `n` that declares `d` bytes.  It
holds the blank line in any case. -/
def messageLength (n d : Nat) : Nat := max (n + 4) (endOf n d)

theorem le_messageLength (n d : Nat) : n + 4 ≤ messageLength n d := Nat.le_max_left _ _

theorem messageLength_le (n d : Nat) : messageLength n d ≤ n + 4 + d :=
  Nat.max_le.mpr ⟨Nat.le_add_right _ _, Nat.mod_le _ _⟩

theorem messageLength_of_lt {n d : Nat} (h : n + 4 + d < Numeral.limit64) :
    messageLength n d = n + 4 + d := by
  rw [messageLength, endOf, Nat.mod_eq_of_lt h]
  exact Nat.max_eq_right (Nat.le_add_right _ _)

/-- A sum that wraps asks for no body. -/
theorem messageLength_of_le {n d : Nat} (hd : d < Numeral.limit64)
    (h : Numeral.limit64 ≤ n + 4 + d) : messageLength n d = n + 4 := by
  refine Nat.max_eq_left ?_
  rw [endOf]
  by_cases hn : n + 4 < Numeral.limit64
  · rw [Nat.mod_eq_sub_mod h, Nat.mod_eq_of_lt (by omega)]
    omega
  · exact Nat.le_trans (Nat.le_of_lt (Nat.mod_lt _ (by decide))) (Nat.le_of_not_lt hn)

/-- Whether 64 bits hold the length of head, blank line and declared body. -/
def InRange (bytes : Bytes) : Prop :=
  ∀ n, headEnd? bytes = some n → n + 4 + (declaredLength? bytes).getD 0 < Numeral.limit64

instance (bytes : Bytes) : Decidable (InRange bytes) :=
  inferInstanceAs (Decidable (∀ n ∈ headEnd? bytes, _ < Numeral.limit64))

/-- How long the message is that the head announces, once the head is there. -/
def messageLength? (bytes : Bytes) : Option Nat :=
  (headEnd? bytes).map fun n => messageLength n ((declaredLength? bytes).getD 0)

theorem messageLength?_eq {xs : Bytes} {n : Nat} (h : headEnd? xs = some n) :
    messageLength? xs = some (messageLength n ((declaredLength? xs).getD 0)) := by
  rw [messageLength?, h]
  rfl

theorem messageLength?_eq_none {xs : Bytes} (h : headEnd? xs = none) :
    messageLength? xs = none := by
  rw [messageLength?, h]
  rfl

/-- Bytes are complete once they are as long as their head announces. -/
theorem isComplete_iff {xs : Bytes} :
    isComplete xs = true ↔ ∃ k, messageLength? xs = some k ∧ k ≤ xs.length := by
  rw [isComplete, messageLength?]
  cases hn : headEnd? xs with
  | none => simp
  | some n =>
    simp only [Option.map_some, Option.some.injEq, exists_eq_left', decide_eq_true_eq,
      messageLength, Nat.max_le, headEnd_add_le hn, true_and]

theorem exists_headEnd?_of_isComplete {xs : Bytes} (h : isComplete xs = true) :
    ∃ n, headEnd? xs = some n := by
  obtain ⟨k, hk, -⟩ := isComplete_iff.mp h
  obtain ⟨n, hn, -⟩ := Option.map_eq_some_iff.mp hk
  exact ⟨n, hn⟩

/-- A complete message holds as many bytes after its head as that declares. -/
theorem le_of_isComplete {xs : Bytes} (h : isComplete xs = true) (hrange : InRange xs) :
    (declaredLength? xs).getD 0 ≤ (splitHead xs).2.length := by
  obtain ⟨k, hk, hle⟩ := isComplete_iff.mp h
  obtain ⟨n, hn, rfl⟩ := Option.map_eq_some_iff.mp hk
  rw [messageLength_of_lt (hrange n hn)] at hle
  rw [splitHead_eq hn, List.length_drop]
  omega

/-- More bytes do not change the announced length. -/
theorem messageLength?_append {xs : Bytes} {k : Nat} (h : messageLength? xs = some k)
    (ys : Bytes) : messageLength? (xs ++ ys) = some k := by
  obtain ⟨n, hn, hk⟩ := Option.map_eq_some_iff.mp h
  rw [messageLength?_eq (headEnd?_append hn ys), declaredLength?_append hn, hk]

/-- What is complete stays complete. -/
theorem isComplete_append {xs : Bytes} (h : isComplete xs = true) (ys : Bytes) :
    isComplete (xs ++ ys) = true := by
  obtain ⟨k, hk, hle⟩ := isComplete_iff.mp h
  refine isComplete_iff.mpr ⟨k, messageLength?_append hk ys, ?_⟩
  rw [List.length_append]
  omega

theorem isComplete_of_isPrefix {xs ys : Bytes} (hp : xs <+: ys) (h : isComplete xs = true) :
    isComplete ys = true := by
  obtain ⟨zs, rfl⟩ := hp
  exact isComplete_append h zs

/-- The first `m` bytes are complete exactly if they are as many as the head announces. -/
theorem isComplete_take_iff {xs : Bytes} {k m : Nat} (h : messageLength? xs = some k)
    (hm : m ≤ xs.length) : isComplete (xs.take m) = true ↔ k ≤ m := by
  obtain ⟨n, hn, hk⟩ := Option.map_eq_some_iff.mp h
  have hlen : (xs.take m).length = m := by
    rw [List.length_take]
    omega
  by_cases hnm : n + 4 ≤ m
  · have hsame : messageLength? (xs.take m) = some k := by
      rw [messageLength?_eq (headEnd?_take hn hnm), declaredLength?_take hn hnm, hk]
    rw [isComplete_iff, hlen]
    constructor
    · rintro ⟨j, hj, hjm⟩
      rw [hsame] at hj
      cases hj
      exact hjm
    · intro hkm
      exact ⟨k, hsame, hkm⟩
  · rw [isComplete_iff, messageLength?_eq_none (headEnd?_take_of_lt hn (by omega))]
    have hle := le_messageLength n ((declaredLength? xs).getD 0)
    constructor
    · rintro ⟨j, hj, -⟩
      cases hj
    · intro hkm
      omega

theorem isComplete_eq_false {xs : Bytes} (h : headEnd? xs = none) : isComplete xs = false := by
  rw [isComplete, h]

/-- Bytes without a blank line have no complete part.  In bytes with one, a part that ends before
the first blank line does has neither a head nor a declared length, any longer part has those of the
whole, and a part is complete exactly if it holds as many bytes as the head announces, if those can
be counted in 64 bits, and else exactly if it holds the blank line.  So no bytes that follow change
what is known of a message. -/
theorem isComplete_threshold (xs : Bytes) :
    (¬ blankLine <:+: xs → ∀ m ≤ xs.length, isComplete (xs.take m) = false) ∧
    (blankLine <:+: xs → ∃ n, headEnd? xs = some n ∧ ∀ m ≤ xs.length,
      (m < n + 4 → headEnd? (xs.take m) = none ∧ declaredLength? (xs.take m) = none) ∧
      (n + 4 ≤ m → headEnd? (xs.take m) = some n ∧
        declaredLength? (xs.take m) = declaredLength? xs) ∧
      (n + 4 + (declaredLength? xs).getD 0 < Numeral.limit64 →
        (isComplete (xs.take m) = true ↔ n + 4 + (declaredLength? xs).getD 0 ≤ m)) ∧
      (Numeral.limit64 ≤ n + 4 + (declaredLength? xs).getD 0 →
        (isComplete (xs.take m) = true ↔ n + 4 ≤ m))) ∧
    ∀ more,
      (isComplete xs = true → isComplete (xs ++ more) = true) ∧
      (∀ n, headEnd? xs = some n → headEnd? (xs ++ more) = some n ∧
        declaredLength? (xs ++ more) = declaredLength? xs) ∧
      (∀ d, declaredLength? xs = some d → declaredLength? (xs ++ more) = some d) := by
  refine ⟨fun hblank m _ => ?none, fun hblank => ?some, fun more =>
    ⟨fun h => isComplete_append h more, fun n hn => ?head, fun d hd => ?declared⟩⟩
  case none =>
    have hnone : headEnd? xs = none :=
      Option.eq_none_iff_forall_ne_some.mpr fun n hn => hblank (exists_headEnd?_iff.mp ⟨n, hn⟩)
    exact isComplete_eq_false (headEnd?_eq_none_of_isPrefix (List.take_prefix m xs) hnone)
  case some =>
    obtain ⟨n, hn⟩ := exists_headEnd?_iff.mpr hblank
    refine ⟨n, hn, fun m hm => ⟨fun hlt => ?_, fun hle => ?_, fun hfits => ?_, fun hwraps => ?_⟩⟩
    · have hnone := headEnd?_take_of_lt hn hlt
      exact ⟨hnone, declaredLength?_eq_none hnone⟩
    · exact ⟨headEnd?_take hn hle, declaredLength?_take hn hle⟩
    · rw [isComplete_take_iff (messageLength?_eq hn) hm, messageLength_of_lt hfits]
    · rw [isComplete_take_iff (messageLength?_eq hn) hm,
        messageLength_of_le (getD_declaredLength?_lt_limit xs) hwraps]
  case head => exact ⟨headEnd?_append hn more, declaredLength?_append hn more⟩
  case declared =>
    obtain ⟨n, hn, -⟩ := Option.bind_eq_some_iff.mp hd
    rw [declaredLength?_append hn more, hd]

/-- A message whose blank line follows a part of one, whose head holds a byte that is no text, and
whose body looks like a head. -/
def overlappingEnds : Bytes :=
  0x47 :: 0xC3 :: Utf8.encode
    "\r\nContent-Length: 2\r\n\r\r\n\r\nContent-Length: 9\r\n\r\n".toList

/-- Its blank line is where it was meant to be, and it is complete two bytes after that. -/
theorem isComplete_threshold_overlappingEnds :
    headEnd? overlappingEnds = some 24 ∧ declaredLength? overlappingEnds = some 2 ∧
      ∀ m ≤ overlappingEnds.length, isComplete (overlappingEnds.take m) = true ↔ 30 ≤ m := by
  have hblank : blankLine <:+: overlappingEnds :=
    ⟨overlappingEnds.take 24, overlappingEnds.drop 28, by decide⟩
  have hend : headEnd? overlappingEnds = some 24 := by decide
  have hdeclared : declaredLength? overlappingEnds = some 2 := by decide
  obtain ⟨-, hwhole, -⟩ := isComplete_threshold overlappingEnds
  obtain ⟨n, hn, hparts⟩ := hwhole hblank
  rw [hend] at hn
  cases hn
  refine ⟨hend, hdeclared, fun m hm => ?_⟩
  obtain ⟨-, -, hiff, -⟩ := hparts m hm
  rw [hdeclared] at hiff
  exact hiff (by decide)

/-! ## The declared end -/

/-- Where a message ends whose head declares the length of its body, once the head is there. -/
def declaredEnd? (bytes : Bytes) : Option Nat :=
  (headEnd? bytes).bind fun n => (declaredLength? bytes).map fun d => messageLength n d

theorem declaredEnd?_eq_some_iff {xs : Bytes} {m : Nat} :
    declaredEnd? xs = some m ↔
      ∃ n d, headEnd? xs = some n ∧ declaredLength? xs = some d ∧ messageLength n d = m := by
  simp [declaredEnd?, Option.bind_eq_some_iff, Option.map_eq_some_iff]

/-- Within 64 bits that is where the declared body ends. -/
theorem InRange.declaredEnd?_eq {xs : Bytes} (h : InRange xs) :
    declaredEnd? xs = (headEnd? xs).bind fun n => (declaredLength? xs).map (n + 4 + ·) := by
  rw [declaredEnd?]
  cases hn : headEnd? xs with
  | none => rfl
  | some n =>
    have hfits := h n hn
    cases hd : declaredLength? xs with
    | none => rfl
    | some d =>
      rw [hd, Option.getD_some] at hfits
      exact congrArg some (messageLength_of_lt hfits)

/-- More bytes do not move the declared end. -/
theorem declaredEnd?_append {xs : Bytes} {m : Nat} (h : declaredEnd? xs = some m) (ys : Bytes) :
    declaredEnd? (xs ++ ys) = some m := by
  obtain ⟨n, d, hn, hd, rfl⟩ := declaredEnd?_eq_some_iff.mp h
  refine declaredEnd?_eq_some_iff.mpr ⟨n, d, headEnd?_append hn ys, ?_, rfl⟩
  rw [declaredLength?_append hn, hd]

/-- A part that reaches the declared end declares it. -/
theorem declaredEnd?_of_isPrefix {part xs : Bytes} {m : Nat} (hpart : part <+: xs)
    (h : declaredEnd? xs = some m) (hm : m ≤ part.length) : declaredEnd? part = some m := by
  obtain ⟨n, d, hn, hd, rfl⟩ := declaredEnd?_eq_some_iff.mp h
  have hhead : headEnd? part = some n :=
    headEnd?_eq_of_isPrefix hpart hn (Nat.le_trans (le_messageLength n d) hm)
  obtain ⟨rest, rfl⟩ := hpart
  rw [declaredLength?_append hhead] at hd
  exact declaredEnd?_eq_some_iff.mpr ⟨n, d, hhead, hd, rfl⟩

/-! ## Messages put together -/

/-- Whether a text can be a line of a head: it is not empty and holds no part of a line end. -/
structure IsLine (l : Text) : Prop where
  /-- An empty line would end the head. -/
  ne_nil : l ≠ []
  cr : '\r' ∉ l
  lf : '\n' ∉ l

theorem IsLine.of_solid {l : Text} (hne : l ≠ []) (h : Text.Solid l) : IsLine l :=
  ⟨hne, h.not_mem (by decide), h.not_mem (by decide)⟩

theorem IsLine.append {l t : Text} (h : IsLine l) (hcr : '\r' ∉ t) (hlf : '\n' ∉ t) :
    IsLine (l ++ t) where
  ne_nil := List.append_ne_nil_of_left_ne_nil h.ne_nil t
  cr := fun hm => (List.mem_append.mp hm).elim h.cr hcr
  lf := fun hm => (List.mem_append.mp hm).elim h.lf hlf

theorem IsLine.append_solid {l t : Text} (h : IsLine l) (ht : Text.Solid t) : IsLine (l ++ t) :=
  h.append (ht.not_mem (by decide)) (ht.not_mem (by decide))

/-- Lines with line ends between them. -/
def joinLines : List Text → Text
  | [] => []
  | [l] => l
  | l :: l' :: ls => l ++ '\r' :: '\n' :: joinLines (l' :: ls)

/-- The bytes of a head of some lines, the blank line and a body. -/
def message (ls : List Text) (body : Bytes) : Bytes :=
  Utf8.encode (joinLines ls) ++ (blankLine ++ body)

theorem length_body_le_message (ls : List Text) (body : Bytes) :
    body.length ≤ (message ls body).length := by
  rw [message, List.length_append, List.length_append]
  omega

/-- The lines of a head are read as they were written. -/
theorem lines_joinLines : ∀ {ls : List Text}, (∀ l ∈ ls, IsLine l) → Text.lines (joinLines ls) = ls
  | [], _ => rfl
  | [l], h =>
    have hl := h l List.mem_cons_self
    Text.lines_eq_singleton hl.ne_nil hl.lf
  | l :: l' :: ls, h => by
    rw [joinLines, Text.lines_append_lineEnd _ (h l List.mem_cons_self).lf,
      lines_joinLines fun x hx => h x (List.mem_cons_of_mem l hx)]

/-- Bytes without a carriage return only move the end of the head. -/
theorem headEnd?_append_left (t : Bytes) : ∀ {x : Bytes}, (13 : UInt8) ∉ x →
    headEnd? (x ++ t) = (headEnd? t).map (· + x.length)
  | [], _ => by
    rw [List.nil_append]
    cases headEnd? t <;> rfl
  | b :: x, h => by
    have hb : ¬ blankLine.isPrefixOf (b :: (x ++ t)) = true := by
      intro hp
      obtain ⟨r, hr⟩ := List.isPrefixOf_iff_prefix.mp hp
      exact h (List.mem_cons.mpr (Or.inl (List.cons.inj hr).1))
    rw [List.cons_append, headEnd?, if_neg hb,
      headEnd?_append_left t fun hx => h (List.mem_cons_of_mem b hx), Option.map_map]
    rfl

/-- So does a line end that no other one follows. -/
theorem headEnd?_lineEnd {t : Bytes} (h : t.head? ≠ some 13) :
    headEnd? (13 :: 10 :: t) = (headEnd? t).map (· + 2) := by
  have hfirst : ¬ blankLine.isPrefixOf (13 :: 10 :: t) = true := by
    intro hp
    obtain ⟨r, hr⟩ := List.isPrefixOf_iff_prefix.mp hp
    simp only [blankLine, List.cons_append, List.cons.injEq, true_and] at hr
    rw [← hr] at h
    exact h rfl
  have hskip : headEnd? (10 :: t) = (headEnd? t).map (· + 1) :=
    headEnd?_append_left (x := [10]) t (by decide)
  rw [headEnd?, if_neg hfirst, hskip, Option.map_map]
  rfl

theorem cr_not_mem_encode {l : Text} (h : '\r' ∉ l) : (13 : UInt8) ∉ Utf8.encode l :=
  fun hm => h (Utf8.mem_of_mem_encode hm (by decide))

theorem lf_not_mem_encode {l : Text} (h : '\n' ∉ l) : (10 : UInt8) ∉ Utf8.encode l :=
  fun hm => h (Utf8.mem_of_mem_encode hm (by decide))

/-- Line ends are written as their two bytes. -/
theorem encode_append_lineEnd (l t : Text) :
    Utf8.encode (l ++ '\r' :: '\n' :: t) = Utf8.encode l ++ 13 :: 10 :: Utf8.encode t := by
  rw [Utf8.encode_append, Utf8.encode_cons, Utf8.encode_cons]
  rfl

theorem message_cons_cons (l l' : Text) (ls : List Text) (body : Bytes) :
    message (l :: l' :: ls) body
      = Utf8.encode l ++ 13 :: 10 :: message (l' :: ls) body := by
  rw [message, joinLines, encode_append_lineEnd, List.append_assoc]
  rfl

/-- A message does not start with a carriage return. -/
theorem head?_message_ne {l : Text} (h : IsLine l) (ls : List Text) (body : Bytes) :
    (message (l :: ls) body).head? ≠ some 13 := by
  have hne : Utf8.encode l ≠ [] := by
    cases l with
    | nil => exact absurd rfl h.ne_nil
    | cons c l =>
      rw [Utf8.encode_cons]
      exact List.append_ne_nil_of_left_ne_nil String.utf8EncodeChar_ne_nil _
  have hstart : ∃ rest, message (l :: ls) body = Utf8.encode l ++ rest := by
    cases ls with
    | nil => exact ⟨blankLine ++ body, rfl⟩
    | cons l' ls => exact ⟨_, message_cons_cons l l' ls body⟩
  obtain ⟨rest, hrest⟩ := hstart
  obtain ⟨b, bs, hbs⟩ := List.exists_cons_of_ne_nil hne
  rw [hrest, hbs]
  intro he
  refine cr_not_mem_encode h.cr ?_
  rw [hbs, ← Option.some.inj he]
  exact List.mem_cons_self

/-- The blank line that was written is the first one. -/
theorem headEnd?_message (body : Bytes) :
    ∀ {ls : List Text}, ls ≠ [] → (∀ l ∈ ls, IsLine l) →
      headEnd? (message ls body) = some (Utf8.encode (joinLines ls)).length
  | [], hne, _ => absurd rfl hne
  | [l], _, h => by
    rw [message, joinLines, headEnd?_append_left _ (cr_not_mem_encode (h l List.mem_cons_self).cr)]
    simp [blankLine, headEnd?]
  | l :: l' :: ls, _, h => by
    have hl := h l List.mem_cons_self
    have hls : ∀ x ∈ l' :: ls, IsLine x := fun x hx => h x (List.mem_cons_of_mem l hx)
    have ih := headEnd?_message body (List.cons_ne_nil l' ls) hls
    rw [message_cons_cons, headEnd?_append_left _ (cr_not_mem_encode hl.cr),
      headEnd?_lineEnd (head?_message_ne (hls l' List.mem_cons_self) ls body), ih, joinLines,
      encode_append_lineEnd]
    simp only [Option.map_some, List.length_append, List.length_cons]
    congr 1
    omega

theorem splitHead_message {ls : List Text} (hne : ls ≠ []) (h : ∀ l ∈ ls, IsLine l)
    (body : Bytes) : splitHead (message ls body) = (Utf8.encode (joinLines ls), body) := by
  have hend := headEnd?_message body hne h
  rw [splitHead_eq hend]
  have htake : (message ls body).take (Utf8.encode (joinLines ls)).length
      = Utf8.encode (joinLines ls) := List.take_left
  have hdrop : (message ls body).drop ((Utf8.encode (joinLines ls)).length + 4) = body := by
    rw [← List.drop_drop, message, List.drop_left]
    rfl
  rw [htake, hdrop]

theorem fieldLines_encode_joinLines {ls : List Text} (h : ∀ l ∈ ls, IsLine l) :
    fieldLines (Utf8.encode (joinLines ls)) = ls.drop 1 := by
  rw [fieldLines, Utf8.decodeLossy_encode, lines_joinLines h]

/-- A message declares what its lines after the first declare. -/
theorem declaredLength?_message {ls : List Text} (hne : ls ≠ []) (h : ∀ l ∈ ls, IsLine l)
    (body : Bytes) :
    declaredLength? (message ls body) = (ls.drop 1).findSome? lengthField? := by
  rw [declaredLength?_eq_splitHead (headEnd?_message body hne h), splitHead_message hne h,
    fieldLines_encode_joinLines h]

/-- Whether bytes are one whole message: they are complete, and no shorter part of them is. -/
structure IsOneMessage (bytes : Bytes) : Prop where
  complete : isComplete bytes = true
  minimal : ∀ q, q <+: bytes → q ≠ bytes → isComplete q = false

/-- Bytes of the length that their head announces are one whole message. -/
theorem isOneMessage_of_messageLength? {xs : Bytes} (h : messageLength? xs = some xs.length) :
    IsOneMessage xs where
  complete := isComplete_iff.mpr ⟨_, h, Nat.le_refl _⟩
  minimal := by
    intro q hq hne
    rw [Bool.eq_false_iff]
    intro hc
    rw [List.prefix_iff_eq_take.mp hq, isComplete_take_iff h hq.length_le] at hc
    exact hne (hq.eq_of_length_le hc)

/-- A message that declares the length of its body is one whole message. -/
theorem isOneMessage_message {ls : List Text} {body : Bytes} (hne : ls ≠ [])
    (h : ∀ l ∈ ls, IsLine l) (hlen : (ls.drop 1).findSome? lengthField? = some body.length)
    (hsize : (message ls body).length < Numeral.limit64) : IsOneMessage (message ls body) := by
  have hsum : (message ls body).length = (Utf8.encode (joinLines ls)).length + 4 + body.length := by
    rw [message, List.length_append, List.length_append, Nat.add_assoc]
    rfl
  refine isOneMessage_of_messageLength? ?_
  rw [messageLength?_eq (headEnd?_message body hne h), declaredLength?_message hne h, hlen, hsum]
  exact congrArg some (messageLength_of_lt (hsum ▸ hsize))

end Gateway.Http.Framing
