import Gateway.Proofs.Utf8

/-!
# The order of UTF-8

UTF-8 keeps order: texts compare as their bytes do (`encode_lt_encode_iff`).

Two characters of different length are told apart by the first byte, whose ranges rise with the
length.  Two of one length are compared digit by digit, the high ones first: where the bytes so far
agree, the later bytes decide (`ofNat_cons_lt`).  So the bytes of the smaller character are smaller
whatever follows them (`utf8EncodeChar_append_lt`), and no character's bytes start another's.
-/

namespace Gateway.Utf8

/-- Bytes compare at the first place where they differ. -/
theorem ofNat_cons_lt {m n : Nat} {xs ys : Bytes} (hm : m < 256) (hn : n < 256) (hle : m ≤ n)
    (hrest : m = n → xs < ys) : UInt8.ofNat m :: xs < UInt8.ofNat n :: ys := by
  rw [List.cons_lt_cons_iff]
  rcases Nat.lt_or_eq_of_le hle with hlt | rfl
  · left
    rwa [UInt8.lt_iff_toNat_lt, toNat_ofNat_of_lt hm, toNat_ofNat_of_lt hn]
  · exact .inr ⟨rfl, hrest rfl⟩

/-- The first byte decides. -/
theorem ofNat_cons_lt_of_lt {m n : Nat} {xs ys : Bytes} (hlt : m < n) (hn : n < 256) :
    UInt8.ofNat m :: xs < UInt8.ofNat n :: ys :=
  ofNat_cons_lt (Nat.lt_trans hlt hn) hn (Nat.le_of_lt hlt) fun h => absurd h (Nat.ne_of_lt hlt)

/-- The bytes of the smaller character are smaller, whatever follows them. -/
theorem utf8EncodeChar_append_lt {c d : Char} (h : c < d) (xs ys : Bytes) :
    String.utf8EncodeChar c ++ xs < String.utf8EncodeChar d ++ ys := by
  have hvalid : d.val.toNat < 0xD800 ∨ 0xDFFF < d.val.toNat ∧ d.val.toNat < 0x110000 := d.valid
  have hlt : c.val.toNat < d.val.toNat := UInt32.lt_iff_toNat_lt.mp (Char.lt_def.mp h)
  unfold String.utf8EncodeChar
  generalize c.val.toNat = v at hlt ⊢
  generalize d.val.toNat = w at hlt hvalid ⊢
  simp only
  split
  -- one byte against one or more
  · split
    · exact ofNat_cons_lt_of_lt hlt (by omega)
    split
    · exact ofNat_cons_lt_of_lt (by omega) (by omega)
    split <;> exact ofNat_cons_lt_of_lt (by omega) (by omega)
  rw [if_neg (by omega : ¬ w ≤ 0x7f)]
  split
  -- two bytes against two or more
  · split
    · exact ofNat_cons_lt (by omega) (by omega) (by omega) fun _ =>
        ofNat_cons_lt_of_lt (by omega) (by omega)
    split <;> exact ofNat_cons_lt_of_lt (by omega) (by omega)
  rw [if_neg (by omega : ¬ w ≤ 0x7ff)]
  split
  -- three bytes against three or four
  · split
    · exact ofNat_cons_lt (by omega) (by omega) (by omega) fun _ =>
        ofNat_cons_lt (by omega) (by omega) (by omega) fun _ =>
          ofNat_cons_lt_of_lt (by omega) (by omega)
    · exact ofNat_cons_lt_of_lt (by omega) (by omega)
  rw [if_neg (by omega : ¬ w ≤ 0xffff)]
  exact ofNat_cons_lt (by omega) (by omega) (by omega) fun _ =>
    ofNat_cons_lt (by omega) (by omega) (by omega) fun _ =>
      ofNat_cons_lt (by omega) (by omega) (by omega) fun _ =>
        ofNat_cons_lt_of_lt (by omega) (by omega)

theorem utf8EncodeChar_ne_nil (c : Char) : String.utf8EncodeChar c ≠ [] := by
  unfold String.utf8EncodeChar
  simp only
  repeat' split
  all_goals exact List.cons_ne_nil _ _

/-- The bytes of the smaller text are smaller. -/
theorem encode_lt_encode : ∀ {s t : Text}, s < t → encode s < encode t
  | s, [], h => absurd h (List.not_lt_nil s)
  | [], d :: t, _ => by
    obtain ⟨b, bs, hb⟩ := List.exists_cons_of_ne_nil (utf8EncodeChar_ne_nil d)
    rw [encode_nil, encode_cons, hb, List.cons_append]
    exact List.nil_lt_cons b _
  | c :: s, d :: t, h => by
    rw [encode_cons, encode_cons]
    rcases List.cons_lt_cons_iff.mp h with hc | ⟨rfl, hst⟩
    · exact utf8EncodeChar_append_lt hc _ _
    · exact List.append_left_lt (encode_lt_encode hst)

/-- Texts compare as their bytes do. -/
theorem encode_lt_encode_iff {s t : Text} : encode s < encode t ↔ s < t := by
  refine ⟨fun h => Decidable.byContradiction fun hst => ?_, encode_lt_encode⟩
  by_cases hts : t < s
  · exact List.lt_irrefl _ (List.lt_trans h (encode_lt_encode hts))
  · have heq : s = t := List.le_antisymm (List.not_lt.mp hts) (List.not_lt.mp hst)
    rw [heq] at h
    exact List.lt_irrefl _ h

end Gateway.Utf8
