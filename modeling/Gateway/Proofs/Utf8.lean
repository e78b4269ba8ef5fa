import Gateway.Text.Utf8

/-!
# UTF-8 read back

Both readers give back what `encode` wrote: `decode?_encode` and `decodeLossy_encode`.  The step is
`pieces_utf8EncodeChar`, one character at a time, with one case for each length.

The second half is about ASCII bytes in input that need not be UTF-8 at all.  Such a byte stands for
itself wherever it occurs, since it ends what is unfinished before it, so bytes may be cut at one
before or after they are read (`decodeLossy_append_ascii`).  And an ASCII character in the text that
was read comes from its byte (`mem_of_mem_decodeLossy`): an unfinished character has `State.least`
as a lower bound, which the ranges of the next byte keep above ASCII.
-/

namespace Gateway.Utf8

/-! ## Steps of the reader -/

/-- The reader takes its bytes one by one. -/
theorem pieces_cons (s : State) (b : UInt8) (rest : Bytes) :
    pieces s (b :: rest) = (step s b).1 ++ pieces (step s b).2 rest := by
  cases s <;> rfl

theorem start_ascii {b : UInt8} (h : b.toNat < 0x80) :
    start b = ([some (Char.ofNat b.toNat)], .boundary) := by
  simp only [start]
  rw [if_pos h]

/-- The last byte of a character completes it. -/
theorem step_inside_zero {value : Nat} {low high b : UInt8} (hlow : low.toNat ≤ b.toNat)
    (hhigh : b.toNat ≤ high.toNat) :
    step (.inside value 0 low high) b
      = ([some (Char.ofNat (value * 64 + (b.toNat - 0x80)))], .boundary) := by
  rw [step, if_pos ⟨UInt8.le_iff_toNat_le.mpr hlow, UInt8.le_iff_toNat_le.mpr hhigh⟩]

/-- Any byte before it makes the value longer. -/
theorem step_inside_succ {value owed : Nat} {low high b : UInt8} (hlow : low.toNat ≤ b.toNat)
    (hhigh : b.toNat ≤ high.toNat) :
    step (.inside value (owed + 1) low high) b
      = ([], .inside (value * 64 + (b.toNat - 0x80)) owed 0x80 0xBF) := by
  rw [step, if_pos ⟨UInt8.le_iff_toNat_le.mpr hlow, UInt8.le_iff_toNat_le.mpr hhigh⟩]

/-- A byte outside the range ends the unfinished character and is read from the start. -/
theorem step_inside_of_not {value owed : Nat} {low high b : UInt8} (h : ¬ (low ≤ b ∧ b ≤ high)) :
    step (.inside value owed low high) b = (none :: (start b).1, (start b).2) := by
  rw [step, if_neg h]

theorem toNat_ofNat_of_lt {n : Nat} (h : n < 256) : (UInt8.ofNat n).toNat = n := by
  rw [UInt8.toNat_ofNat']
  exact Nat.mod_eq_of_lt h

/-! ## Reading what was written -/

/-- Two bytes that continue a character. -/
theorem pieces_inside_one (low high : Nat) {value c : Nat} {b₁ b₂ : UInt8} {rest : Bytes}
    (hlow : low < 256) (hhigh : high < 256) (h₁ : low ≤ b₁.toNat) (h₁' : b₁.toNat ≤ high)
    (h₂ : 0x80 ≤ b₂.toNat) (h₂' : b₂.toNat ≤ 0xBF)
    (hc : (value * 64 + (b₁.toNat - 0x80)) * 64 + (b₂.toNat - 0x80) = c) :
    pieces (.inside value 1 (UInt8.ofNat low) (UInt8.ofNat high)) (b₁ :: b₂ :: rest)
      = some (Char.ofNat c) :: pieces .boundary rest := by
  have hnext : (0x80 : UInt8).toNat ≤ b₂.toNat ∧ b₂.toNat ≤ (0xBF : UInt8).toNat := ⟨h₂, h₂'⟩
  rw [pieces_cons, step_inside_succ (by rwa [toNat_ofNat_of_lt hlow])
    (by rwa [toNat_ofNat_of_lt hhigh]), pieces_cons, step_inside_zero hnext.1 hnext.2, hc]
  rfl

/-- Three bytes that continue a character. -/
theorem pieces_inside_two (low high : Nat) {value c : Nat} {b₁ b₂ b₃ : UInt8} {rest : Bytes}
    (hlow : low < 256) (hhigh : high < 256) (h₁ : low ≤ b₁.toNat) (h₁' : b₁.toNat ≤ high)
    (h₂ : 0x80 ≤ b₂.toNat) (h₂' : b₂.toNat ≤ 0xBF) (h₃ : 0x80 ≤ b₃.toNat) (h₃' : b₃.toNat ≤ 0xBF)
    (hc : ((value * 64 + (b₁.toNat - 0x80)) * 64 + (b₂.toNat - 0x80)) * 64 + (b₃.toNat - 0x80)
      = c) :
    pieces (.inside value 2 (UInt8.ofNat low) (UInt8.ofNat high)) (b₁ :: b₂ :: b₃ :: rest)
      = some (Char.ofNat c) :: pieces .boundary rest := by
  rw [pieces_cons, step_inside_succ (by rwa [toNat_ofNat_of_lt hlow])
    (by rwa [toNat_ofNat_of_lt hhigh])]
  exact pieces_inside_one _ _ (by decide) (by decide) h₂ h₂' h₃ h₃' hc

/-- The two bytes of a value are read as its character. -/
theorem pieces_two {v : Nat} (hlow : 0x7F < v) (hhigh : v ≤ 0x7FF) (rest : Bytes) :
    pieces .boundary (UInt8.ofNat (v / 64 % 0x20 + 0xC0) :: UInt8.ofNat (v % 0x40 + 0x80) :: rest)
      = some (Char.ofNat v) :: pieces .boundary rest := by
  have hb1 := toNat_ofNat_of_lt (show v / 64 % 0x20 + 0xC0 < 256 by omega)
  have hb2 := toNat_ofNat_of_lt (show v % 0x40 + 0x80 < 256 by omega)
  have hfrom : (0x80 : UInt8).toNat ≤ (UInt8.ofNat (v % 0x40 + 0x80)).toNat := by
    rw [hb2]
    exact Nat.le_add_left 0x80 _
  have hto : (UInt8.ofNat (v % 0x40 + 0x80)).toNat ≤ (0xBF : UInt8).toNat := by
    rw [hb2]
    show v % 0x40 + 0x80 ≤ 0xBF
    omega
  rw [pieces_cons, step]
  simp only [start, hb1]
  rw [if_neg (by omega), if_pos (by omega), pieces_cons, step_inside_zero hfrom hto, hb2,
    show (v / 64 % 0x20 + 0xC0 - 0xC0) * 64 + (v % 0x40 + 0x80 - 0x80) = v by omega]
  rfl

/-- The three bytes of a value are read as its character, unless it is a surrogate. -/
theorem pieces_three {v : Nat} (hlow : 0x7FF < v) (hhigh : v ≤ 0xFFFF)
    (hvalid : v < 0xD800 ∨ 0xDFFF < v) (rest : Bytes) :
    pieces .boundary (UInt8.ofNat (v / 4096 % 0x10 + 0xE0) :: UInt8.ofNat (v / 64 % 0x40 + 0x80)
      :: UInt8.ofNat (v % 0x40 + 0x80) :: rest)
      = some (Char.ofNat v) :: pieces .boundary rest := by
  have hb1 := toNat_ofNat_of_lt (show v / 4096 % 0x10 + 0xE0 < 256 by omega)
  have hb2 := toNat_ofNat_of_lt (show v / 64 % 0x40 + 0x80 < 256 by omega)
  have hb3 := toNat_ofNat_of_lt (show v % 0x40 + 0x80 < 256 by omega)
  rw [pieces_cons, step]
  simp only [start, hb1]
  rw [if_neg (by omega), if_neg (by omega)]
  -- the range of the second byte keeps out overlong forms after E0 and surrogates after ED
  split
  · exact pieces_inside_one 0xA0 0xBF (by decide) (by decide) (by omega)
      (by omega) (by omega) (by omega) (by omega)
  split
  · exact pieces_inside_one 0x80 0x9F (by decide) (by decide) (by omega)
      (by omega) (by omega) (by omega) (by omega)
  rw [if_pos (by omega)]
  exact pieces_inside_one 0x80 0xBF (by decide) (by decide) (by omega)
    (by omega) (by omega) (by omega) (by omega)

/-- The four bytes of a value are read as its character. -/
theorem pieces_four {v : Nat} (hlow : 0xFFFF < v) (hhigh : v < 0x110000) (rest : Bytes) :
    pieces .boundary (UInt8.ofNat (v / 262144 % 0x08 + 0xF0)
      :: UInt8.ofNat (v / 4096 % 0x40 + 0x80) :: UInt8.ofNat (v / 64 % 0x40 + 0x80)
      :: UInt8.ofNat (v % 0x40 + 0x80) :: rest)
      = some (Char.ofNat v) :: pieces .boundary rest := by
  have hb1 := toNat_ofNat_of_lt (show v / 262144 % 0x08 + 0xF0 < 256 by omega)
  have hb2 := toNat_ofNat_of_lt (show v / 4096 % 0x40 + 0x80 < 256 by omega)
  have hb3 := toNat_ofNat_of_lt (show v / 64 % 0x40 + 0x80 < 256 by omega)
  have hb4 := toNat_ofNat_of_lt (show v % 0x40 + 0x80 < 256 by omega)
  rw [pieces_cons, step]
  simp only [start, hb1]
  rw [if_neg (by omega), if_neg (by omega), if_neg (by omega), if_neg (by omega),
    if_neg (by omega)]
  -- the range of the second byte keeps out overlong forms after F0 and too large values after F4
  split
  · exact pieces_inside_two 0x90 0xBF (by decide) (by decide) (by omega)
      (by omega) (by omega) (by omega) (by omega) (by omega) (by omega)
  split
  · exact pieces_inside_two 0x80 0xBF (by decide) (by decide) (by omega)
      (by omega) (by omega) (by omega) (by omega) (by omega) (by omega)
  rw [if_pos (by omega)]
  exact pieces_inside_two 0x80 0x8F (by decide) (by decide) (by omega)
    (by omega) (by omega) (by omega) (by omega) (by omega) (by omega)

/-- The bytes of a character are read as that character. -/
theorem pieces_utf8EncodeChar (c : Char) (rest : Bytes) :
    pieces .boundary (String.utf8EncodeChar c ++ rest) = some c :: pieces .boundary rest := by
  have hchar : Char.ofNat c.val.toNat = c := Char.ofNat_toNat c
  have hvalid : c.val.toNat < 0xD800 ∨ 0xDFFF < c.val.toNat ∧ c.val.toNat < 0x110000 := c.valid
  unfold String.utf8EncodeChar
  generalize c.val.toNat = v at hchar hvalid ⊢
  rw [← hchar]
  simp only
  split
  · next h1 =>
    have hb : (UInt8.ofNat v).toNat = v := toNat_ofNat_of_lt (by omega)
    rw [List.singleton_append, pieces_cons, step, start_ascii (by omega), hb]
    rfl
  split
  · next h1 h2 => exact pieces_two (Nat.lt_of_not_le h1) h2 rest
  split
  · next h1 h2 h3 =>
    exact pieces_three (Nat.lt_of_not_le h2) h3 (hvalid.imp_right And.left) rest
  · next h1 h2 h3 =>
    have hlow := Nat.lt_of_not_le h3
    exact pieces_four hlow (by omega) rest

@[simp] theorem encode_nil : encode [] = [] := rfl

@[simp] theorem encode_cons (c : Char) (t : Text) :
    encode (c :: t) = String.utf8EncodeChar c ++ encode t := by
  rw [encode, List.flatMap_cons]
  rfl

@[simp] theorem encode_append (s t : Text) : encode (s ++ t) = encode s ++ encode t := by
  rw [encode, List.flatMap_append]
  rfl

/-- The bytes of a text are read as its characters. -/
theorem pieces_encode : ∀ t : Text, pieces .boundary (encode t) = t.map some
  | [] => rfl
  | c :: t => by
    rw [encode_cons, pieces_utf8EncodeChar, pieces_encode t]
    rfl

theorem mapM_id_map_some {α : Type} : ∀ l : List α, (l.map some).mapM id = some l
  | [] => rfl
  | a :: l => by
    rw [List.map_cons, List.mapM_cons, mapM_id_map_some l]
    rfl

theorem decode?_encode (t : Text) : decode? (encode t) = some t := by
  rw [decode?, pieces_encode, mapM_id_map_some]

theorem encode_injective : Function.Injective encode := by
  intro s t h
  simpa [decode?_encode] using congrArg decode? h

theorem decodeLossy_encode (t : Text) : decodeLossy (encode t) = t := by
  rw [decodeLossy, pieces_encode, List.map_map]
  exact List.map_id t

/-! ## ASCII bytes -/

theorem utf8EncodeChar_ascii {c : Char} (h : c.toNat < 0x80) :
    String.utf8EncodeChar c = [UInt8.ofNat c.toNat] := by
  have h' : c.val.toNat ≤ 0x7f := by
    show c.toNat ≤ 0x7f
    omega
  unfold String.utf8EncodeChar
  simp only
  rw [if_pos h']
  rfl

/-- An ASCII byte in the bytes of a character is the whole character. -/
theorem eq_of_mem_utf8EncodeChar {c : Char} {b : UInt8} (h : b ∈ String.utf8EncodeChar c)
    (hb : b.toNat < 0x80) : Char.ofNat b.toNat = c := by
  have hvalid : c.val.toNat < 0xD800 ∨ 0xDFFF < c.val.toNat ∧ c.val.toNat < 0x110000 := c.valid
  have above : ∀ n, 0x80 ≤ n → n < 256 → b ≠ UInt8.ofNat n := by
    intro n hn hlt he
    rw [he, toNat_ofNat_of_lt hlt] at hb
    omega
  by_cases hc : c.toNat < 0x80
  · rw [utf8EncodeChar_ascii hc, List.mem_singleton] at h
    rw [h, toNat_ofNat_of_lt (by omega)]
    exact Char.ofNat_toNat c
  · have hc' : ¬ c.val.toNat ≤ 0x7f := by
      show ¬ c.toNat ≤ 0x7f
      omega
    unfold String.utf8EncodeChar at h
    simp only at h
    rw [if_neg hc'] at h
    exfalso
    split at h
    · simp only [List.mem_cons, List.not_mem_nil, or_false] at h
      rcases h with h | h <;> exact above _ (by omega) (by omega) h
    · split at h <;> simp only [List.mem_cons, List.not_mem_nil, or_false] at h
      · rcases h with h | h | h <;> exact above _ (by omega) (by omega) h
      · rcases h with h | h | h | h <;> exact above _ (by omega) (by omega) h

/-- An ASCII byte in the bytes of a text is a character of it. -/
theorem mem_of_mem_encode {t : Text} {b : UInt8} (h : b ∈ encode t) (hb : b.toNat < 0x80) :
    Char.ofNat b.toNat ∈ t := by
  obtain ⟨c, hc, hbc⟩ := List.mem_flatMap.mp h
  rw [eq_of_mem_utf8EncodeChar hbc hb]
  exact hc

/-- No range of a next byte holds an ASCII byte. -/
def State.High : State → Prop
  | .boundary => True
  | .inside _ _ low _ => 0x80 ≤ low.toNat

theorem start_high (b : UInt8) : (start b).2.High := by
  simp only [start]
  repeat' split
  all_goals first | exact trivial | exact show 0x80 ≤ _ by decide

theorem step_high {s : State} (b : UInt8) : (step s b).2.High := by
  cases s with
  | boundary => exact start_high b
  | inside value owed low high =>
    by_cases hb : low ≤ b ∧ b ≤ high
    · rw [step, if_pos hb]
      cases owed with
      | zero => exact trivial
      | succ owed => exact show 0x80 ≤ _ by decide
    · rw [step_inside_of_not hb]
      exact start_high b

/-- What is read in front of an ASCII byte does not depend on it. -/
theorem pieces_append_ascii {b : UInt8} (hb : b.toNat < 0x80) (ys : Bytes) :
    ∀ (xs : Bytes) {s : State}, s.High →
      pieces s (xs ++ b :: ys)
        = pieces s xs ++ some (Char.ofNat b.toNat) :: pieces .boundary ys
  | [], .boundary, _ => by
    rw [List.nil_append, pieces_cons, step, start_ascii hb]
    rfl
  | [], .inside value owed low high, hs => by
    have hout : ¬ (low ≤ b ∧ b ≤ high) := by
      rintro ⟨hle, -⟩
      have hle' := UInt8.le_iff_toNat_le.mp hle
      have hlow : 0x80 ≤ low.toNat := hs
      omega
    rw [List.nil_append, pieces_cons, step_inside_of_not hout, start_ascii hb]
    rfl
  | x :: xs, s, _ => by
    rw [List.cons_append, pieces_cons, pieces_cons, pieces_append_ascii hb ys xs (step_high x),
      List.append_assoc]

/-- Bytes may be cut at an ASCII byte before they are read. -/
theorem decodeLossy_append_ascii {b : UInt8} (hb : b.toNat < 0x80) (xs ys : Bytes) :
    decodeLossy (xs ++ b :: ys) = decodeLossy xs ++ Char.ofNat b.toNat :: decodeLossy ys := by
  rw [decodeLossy, pieces_append_ascii hb ys xs (s := .boundary) trivial, List.map_append]
  rfl

/-! ## ASCII characters in what was read -/

/-- What a byte is worth that so many follow. -/
def weight : Nat → Nat
  | 0 => 1
  | owed + 1 => 64 * weight owed

/-- The least value that an unfinished character can still get. -/
def State.least : State → Nat
  | .boundary => 0x80
  | .inside value owed low _ => value * weight (owed + 1) + (low.toNat - 0x80) * weight owed

/-- An unfinished character is not going to be ASCII. -/
def State.Wide (s : State) : Prop := 0x80 ≤ s.least

theorem start_wide (b : UInt8) : (start b).2.Wide := by
  simp only [start, State.Wide]
  repeat' split
  all_goals
    simp only [State.least, weight, UInt8.reduceToNat]
    omega

theorem step_wide {s : State} (hs : s.Wide) (b : UInt8) : (step s b).2.Wide := by
  cases s with
  | boundary => exact start_wide b
  | inside value owed low high =>
    by_cases hb : low ≤ b ∧ b ≤ high
    · have hle := UInt8.le_iff_toNat_le.mp hb.1
      rw [step, if_pos hb]
      cases owed with
      | zero => exact Nat.le_refl _
      | succ owed =>
        -- the least value grows with every byte that fits
        have hmono :
            (low.toNat - 0x80) * weight (owed + 1) ≤ (b.toNat - 0x80) * weight (owed + 1) :=
          Nat.mul_le_mul_right _ (by omega)
        have hs' : 0x80 ≤ value * weight (owed + 1 + 1) + (low.toNat - 0x80) * weight (owed + 1) :=
          hs
        have hnext : value * weight (owed + 1 + 1) = value * 64 * weight (owed + 1) :=
          (Nat.mul_assoc value 64 _).symm
        show 0x80 ≤ (value * 64 + (b.toNat - 0x80)) * weight (owed + 1) + _
        rw [Nat.add_mul]
        omega
    · rw [step_inside_of_not hb]
      exact start_wide b

theorem ofNat_ne {c : Char} (hpos : 0 < c.toNat) {n : Nat} (h : n ≠ c.toNat) :
    Char.ofNat n ≠ c := by
  rintro rfl
  by_cases hv : n.isValidChar
  · have hn : (Char.ofNat n).toNat = n := by
      rw [Char.ofNat, dif_pos hv]
      rfl
    exact h hn.symm
  · rw [Char.ofNat, dif_neg hv] at hpos
    exact absurd hpos (by decide)

variable {c : Char}

theorem eq_of_mem_start (hpos : 0 < c.toNat) {b : UInt8} (h : some c ∈ (start b).1) :
    b.toNat = c.toNat := by
  by_cases hb : b.toNat < 0x80
  · rw [start_ascii hb, List.mem_singleton] at h
    refine Decidable.byContradiction fun hne => ?_
    exact ofNat_ne hpos hne (Option.some.inj h).symm
  · simp only [start, if_neg hb] at h
    repeat' split at h
    all_goals simp at h

/-- A byte completes no ASCII character but the one that it is. -/
theorem eq_of_mem_step (hpos : 0 < c.toNat) (hc : c.toNat < 0x80) {s : State} (hs : s.Wide)
    {b : UInt8} (h : some c ∈ (step s b).1) : b.toNat = c.toNat := by
  cases s with
  | boundary => exact eq_of_mem_start hpos h
  | inside value owed low high =>
    by_cases hb : low ≤ b ∧ b ≤ high
    · have hle := UInt8.le_iff_toNat_le.mp hb.1
      rw [step, if_pos hb] at h
      cases owed with
      | zero =>
        have hs' : 0x80 ≤ value * 64 ^ (0 + 1) + (low.toNat - 0x80) * 64 ^ 0 := hs
        exact absurd (Option.some.inj (List.mem_singleton.mp h)).symm
          (ofNat_ne hpos (by omega))
      | succ owed => simp at h
    · rw [step_inside_of_not hb] at h
      rcases List.mem_cons.mp h with h | h
      · cases h
      · exact eq_of_mem_start hpos h

theorem mem_of_mem_pieces (hpos : 0 < c.toNat) (hc : c.toNat < 0x80) :
    ∀ {xs : Bytes} {s : State}, s.Wide → some c ∈ pieces s xs → UInt8.ofNat c.toNat ∈ xs
  | [], .boundary, _, h => by cases h
  | [], .inside .., _, h => by simp [pieces] at h
  | x :: xs, s, hs, h => by
    rw [pieces_cons, List.mem_append] at h
    rcases h with h | h
    · rw [← eq_of_mem_step hpos hc hs h, UInt8.ofNat_toNat]
      exact List.mem_cons_self
    · exact List.mem_cons_of_mem x (mem_of_mem_pieces hpos hc (step_wide hs x) h)

/-- Text that was read holds an ASCII character only if its bytes do. -/
theorem mem_of_mem_decodeLossy (hpos : 0 < c.toNat) (hc : c.toNat < 0x80) {xs : Bytes}
    (h : c ∈ decodeLossy xs) : UInt8.ofNat c.toNat ∈ xs := by
  obtain ⟨p, hp, he⟩ := List.mem_map.mp h
  cases p with
  | none =>
    have hwide : c = '\uFFFD' := he.symm
    rw [hwide] at hc
    exact absurd hc (by decide)
  | some d =>
    have hd : d = c := he
    exact mem_of_mem_pieces hpos hc (s := .boundary) (Nat.le_refl _) (hd ▸ hp)

end Gateway.Utf8
