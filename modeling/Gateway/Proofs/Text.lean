import Gateway.Text.Ascii
import Gateway.Text.Blank
import Gateway.Text.Lines
import Gateway.Text.Numeral

/-!
# Cutting text that was put together

Messages are text that is put together from words, fields and lines, and read by cutting it again.
Here are the facts that lead from one to the other: `words` gives back words with a blank behind
them, `lines` lines with their ends, `splitOnce?` what stood around a separator, `split` the parts
of what stood on both sides of it, `trim` what was padded, and `Numeral.read?` a number that was
written in decimal.

Each needs that a piece does not hold what it is cut at.  For blanks this is `Solid`, and every word
that `words` finds is solid.  Since a line feed and a carriage return are blanks, a solid text can
neither end a line nor start one.
-/

namespace Gateway.Text

/-! ## Solid text -/

/-- A text without blanks. -/
def Solid (t : Text) : Prop := ∀ c ∈ t, isBlank c = false

instance : DecidablePred Solid := List.decidableBAll fun c => isBlank c = false

theorem solid_nil : Solid [] := by
  intro c hc
  cases hc

theorem solid_cons {c : Char} {t : Text} : Solid (c :: t) ↔ isBlank c = false ∧ Solid t := by
  simp [Solid]

theorem solid_append {s t : Text} : Solid (s ++ t) ↔ Solid s ∧ Solid t := by
  simp only [Solid, List.mem_append]
  constructor
  · intro h
    exact ⟨fun c hc => h c (Or.inl hc), fun c hc => h c (Or.inr hc)⟩
  · rintro ⟨hs, ht⟩ c (hc | hc)
    · exact hs c hc
    · exact ht c hc

/-- A solid text does not hold a given blank. -/
theorem Solid.not_mem {t : Text} (h : Solid t) {b : Char} (hb : isBlank b = true) : b ∉ t := by
  intro hm
  rw [h b hm] at hb
  cases hb

/-! ## Words -/

theorem words_cons_blank {c : Char} (hc : isBlank c = true) (t : Text) :
    words (c :: t) = words t := by
  rw [words, if_pos hc]

/-- A character in front of a word belongs to it. -/
theorem words_cons_solid {c d : Char} (hc : isBlank c = false) (hd : isBlank d = false)
    {t w : Text} {ws : List Text} (h : words (d :: t) = w :: ws) :
    words (c :: d :: t) = (c :: w) :: ws := by
  rw [words, h, if_neg (by rw [hc]; exact Bool.false_ne_true), consWord,
    if_neg (by rw [hd]; exact Bool.false_ne_true)]

/-- A character in front of a blank is a word. -/
theorem words_cons_blank_cons {c b : Char} (hc : isBlank c = false) (hb : isBlank b = true)
    (t : Text) : words (c :: b :: t) = [c] :: words t := by
  rw [words, words_cons_blank hb, if_neg (by rw [hc]; exact Bool.false_ne_true)]
  cases words t with
  | nil => rfl
  | cons w ws => rw [consWord, if_pos hb]

/-- A solid text with a blank behind it is the first word. -/
theorem words_append_blank {b : Char} (hb : isBlank b = true) (t : Text) :
    ∀ {w : Text}, w ≠ [] → Solid w → words (w ++ b :: t) = w :: words t
  | [], hne, _ => absurd rfl hne
  | [c], _, hw => words_cons_blank_cons (solid_cons.mp hw).1 hb t
  | c :: d :: w, _, hw => by
    have hdw : Solid (d :: w) := (solid_cons.mp hw).2
    exact words_cons_solid (solid_cons.mp hw).1 (solid_cons.mp hdw).1
      (words_append_blank hb t (List.cons_ne_nil d w) hdw)

/-- The words of a longer text are solid if those of the text are. -/
theorem solid_of_mem_consWord {c : Char} (hc : isBlank c = false) {t : Text} :
    ∀ {ws : List Text}, (∀ w ∈ ws, w ≠ [] ∧ Solid w) → ∀ w ∈ consWord c t ws, w ≠ [] ∧ Solid w := by
  have single : [c] ≠ [] ∧ Solid [c] :=
    ⟨List.cons_ne_nil c [], solid_cons.mpr ⟨hc, solid_nil⟩⟩
  intro ws h w hw
  unfold consWord at hw
  split at hw
  · next d _ v vs =>
    split at hw
    · rcases List.mem_cons.mp hw with rfl | hw
      · exact single
      · exact h w hw
    · rcases List.mem_cons.mp hw with rfl | hw
      · exact ⟨List.cons_ne_nil c v, solid_cons.mpr ⟨hc, (h v List.mem_cons_self).2⟩⟩
      · exact h w (List.mem_cons_of_mem v hw)
  · rcases List.mem_cons.mp hw with rfl | hw
    · exact single
    · exact h w hw

/-- A word is not empty and holds no blank. -/
theorem solid_of_mem_words : ∀ {t : Text}, ∀ w ∈ words t, w ≠ [] ∧ Solid w
  | [], w, h => by cases h
  | c :: t, w, h => by
    cases hc : isBlank c with
    | true =>
      rw [words_cons_blank hc] at h
      exact solid_of_mem_words w h
    | false =>
      rw [words, if_neg (by rw [hc]; exact Bool.false_ne_true)] at h
      exact solid_of_mem_consWord hc (fun v hv => solid_of_mem_words v hv) w h

/-! ## The ends of a text -/

/-- Nothing is taken off the end of a text in which no character may go. -/
theorem dropEndWhile_eq_self {p : Char → Bool} {t : Text} (h : ∀ c ∈ t, p c = false) :
    dropEndWhile p t = t := by
  have hrev : t.reverse.dropWhile p = t.reverse := by
    cases hr : t.reverse with
    | nil => rfl
    | cons c r =>
      have hc : c ∈ t := List.mem_reverse.mp (hr ▸ List.mem_cons_self)
      rw [List.dropWhile_cons_of_neg]
      rw [h c hc]
      exact Bool.false_ne_true
  rw [dropEndWhile, hrev, List.reverse_reverse]

theorem dropEndWhile_concat {p : Char → Bool} {c : Char} (hc : p c = true) (t : Text) :
    dropEndWhile p (t ++ [c]) = dropEndWhile p t := by
  simp [dropEndWhile, hc]

/-- A carriage return at the end of a line is taken off, and nothing else. -/
theorem dropEndWhile_carriageReturn {l : Text} (h : '\r' ∉ l) :
    dropEndWhile (· == '\r') (l ++ ['\r']) = l := by
  rw [dropEndWhile_concat rfl]
  refine dropEndWhile_eq_self fun c hc => ?_
  rw [beq_eq_false_iff_ne]
  rintro rfl
  exact h hc

theorem trim_cons_blank {c : Char} (hc : isBlank c = true) (t : Text) :
    trim (c :: t) = trim t := by
  rw [trim, trim, List.dropWhile_cons_of_pos hc]

theorem trim_concat_blank {c : Char} (hc : isBlank c = true) (t : Text) :
    trim (t ++ [c]) = trim t := by
  rw [trim, trim, List.dropWhile_append]
  split
  · next hempty =>
    rw [List.isEmpty_iff.mp hempty, List.dropWhile_cons_of_pos hc, List.dropWhile_nil]
  · exact dropEndWhile_concat hc _

/-- A solid text has nothing to trim. -/
theorem Solid.trim_eq {t : Text} (h : Solid t) : trim t = t := by
  have hfront : t.dropWhile isBlank = t := by
    cases t with
    | nil => rfl
    | cons c t =>
      rw [List.dropWhile_cons_of_neg]
      rw [(solid_cons.mp h).1]
      exact Bool.false_ne_true
  rw [trim, hfront]
  exact dropEndWhile_eq_self h

/-! ## Lines and fields -/

/-- A line with its end is the first line. -/
theorem lines_append_lineEnd (t : Text) :
    ∀ {l : Text}, '\n' ∉ l → lines (l ++ '\r' :: '\n' :: t) = l :: lines t
  | [], _ => by simp [lines]
  | c :: l, h => by
    have hc : c ≠ '\n' := fun hc => h (hc ▸ List.mem_cons_self)
    have hl : '\n' ∉ l := fun hl => h (List.mem_cons_of_mem c hl)
    have ih := lines_append_lineEnd t hl
    have hnext : (l ++ '\r' :: '\n' :: t).head? ≠ some '\n' := by
      cases l with
      | nil => simp
      | cons d l =>
        intro hd
        exact hl (Option.some.inj hd ▸ List.mem_cons_self)
    rw [List.cons_append, lines, if_neg hc, if_neg (fun hr => hnext hr.2), ih]
    rfl

/-- A line feed ends the first line, and with it a carriage return right before it. -/
theorem exists_lines_append_newline (t : Text) : ∀ {l : Text}, '\n' ∉ l →
    ∃ first, lines (l ++ '\n' :: t) = first :: lines t ∧ (l = first ∨ l = first ++ ['\r'])
  | [], _ => ⟨[], by simp [lines], Or.inl rfl⟩
  | c :: l, h => by
    have hc : c ≠ '\n' := fun hc => h (hc ▸ List.mem_cons_self)
    have hl : '\n' ∉ l := fun hl => h (List.mem_cons_of_mem c hl)
    obtain ⟨first, hfirst, hends⟩ := exists_lines_append_newline t hl
    rw [List.cons_append, lines, if_neg hc, hfirst]
    split
    · next hreturn =>
      -- a carriage return is taken off only if nothing stands between it and the line feed
      cases l with
      | nil =>
        cases hends with
        | inl he => exact ⟨first, rfl, Or.inr (by rw [hreturn.1, ← he]; rfl)⟩
        | inr he => simp at he
      | cons d l => exact absurd (Option.some.inj hreturn.2 ▸ List.mem_cons_self) hl
    · refine ⟨c :: first, rfl, ?_⟩
      rcases hends with rfl | rfl
      · exact Or.inl rfl
      · exact Or.inr rfl

/-- What follows the first line feed are the lines after the first. -/
theorem drop_lines_append_newline (t : Text) {l : Text} (h : '\n' ∉ l) :
    (lines (l ++ '\n' :: t)).drop 1 = lines t := by
  obtain ⟨first, hfirst, -⟩ := exists_lines_append_newline t h
  rw [hfirst]
  rfl

/-- A text without a line feed has no second line. -/
theorem drop_lines_eq_nil : ∀ {l : Text}, '\n' ∉ l → (lines l).drop 1 = []
  | [], _ => rfl
  | c :: l, h => by
    have hc : c ≠ '\n' := fun hc => h (hc ▸ List.mem_cons_self)
    have ih := drop_lines_eq_nil fun hl => h (List.mem_cons_of_mem c hl)
    rw [lines, if_neg hc]
    split
    · exact ih
    · cases hls : lines l with
      | nil => rfl
      | cons first rest =>
        rw [hls] at ih
        exact ih

/-- A text without a line feed is one line. -/
theorem lines_eq_singleton : ∀ {l : Text}, l ≠ [] → '\n' ∉ l → lines l = [l]
  | [], hne, _ => absurd rfl hne
  | [c], _, h => by
    have hc : c ≠ '\n' := fun hc => h (hc ▸ List.mem_cons_self)
    simp [lines, hc, consLine]
  | c :: d :: l, _, h => by
    have hc : c ≠ '\n' := fun hc => h (hc ▸ List.mem_cons_self)
    have hdl : '\n' ∉ d :: l := fun hl => h (List.mem_cons_of_mem c hl)
    have hd : d ≠ '\n' := fun hd => hdl (hd ▸ List.mem_cons_self)
    have ih := lines_eq_singleton (List.cons_ne_nil d l) hdl
    rw [lines, if_neg hc, if_neg (fun hr => hd (Option.some.inj hr.2)), ih]
    rfl

/-- A separator is found right behind a text that does not hold it. -/
theorem splitOnce?_append {sep : Char} (b : Text) :
    ∀ {a : Text}, sep ∉ a → splitOnce? sep (a ++ sep :: b) = some (a, b)
  | [], _ => by simp [splitOnce?]
  | c :: a, h => by
    have hc : c ≠ sep := fun hc => h (hc ▸ List.mem_cons_self)
    rw [List.cons_append, splitOnce?, if_neg hc,
      splitOnce?_append b fun ha => h (List.mem_cons_of_mem c ha)]
    rfl

theorem splitOnce?_eq_none {sep : Char} : ∀ {t : Text}, sep ∉ t → splitOnce? sep t = none
  | [], _ => rfl
  | c :: t, h => by
    have hc : c ≠ sep := fun hc => h (hc ▸ List.mem_cons_self)
    rw [splitOnce?, if_neg hc, splitOnce?_eq_none fun ht => h (List.mem_cons_of_mem c ht)]
    rfl

theorem split_ne_nil (sep : Char) : ∀ t : Text, split sep t ≠ []
  | [] => by simp [split]
  | c :: t => by
    rw [split]
    split
    · simp
    · cases split sep t <;> simp [consLine]

/-- A separator ends a part. -/
theorem split_append_cons (sep : Char) (b : Text) :
    ∀ a : Text, split sep (a ++ sep :: b) = split sep a ++ split sep b
  | [] => by simp [split]
  | c :: a => by
    rw [List.cons_append, split, split, split_append_cons sep b a]
    split
    · rfl
    · cases hparts : split sep a with
      | nil => exact absurd hparts (split_ne_nil sep a)
      | cons part parts => rfl

end Gateway.Text

namespace Gateway.Numeral

/-! ## Numerals -/

theorem hexValue?_of_isDigit {c : Char} (h : c.isDigit = true) :
    Text.hexValue? c = some (c.toNat - 48) := by
  simp only [Char.isDigit, Bool.and_eq_true, decide_eq_true_eq] at h
  rw [Text.hexValue?, if_pos ⟨h.1, h.2⟩]

/-- Decimal digits have the value that place notation gives them. -/
theorem digits?_eq_ofDigitChars :
    ∀ {t : Text} (n : Nat), (∀ c ∈ t, c.isDigit = true) →
      digits? 10 n t = some (Nat.ofDigitChars 10 t n)
  | [], n, _ => by rw [digits?, Nat.ofDigitChars_nil]
  | c :: t, n, h => by
    have hc := h c List.mem_cons_self
    have hlt : c.toNat - 48 < 10 := by
      simp only [Char.isDigit, Bool.and_eq_true, decide_eq_true_eq] at hc
      have h9 : c.toNat ≤ 57 := hc.2
      omega
    rw [digits?, hexValue?_of_isDigit hc, Nat.ofDigitChars_cons]
    simp only [hlt, if_true]
    rw [digits?_eq_ofDigitChars _ fun d hd => h d (List.mem_cons_of_mem c hd), Nat.mul_comm]
    rfl

theorem isDigit_of_mem_decimal {n : Nat} {c : Char} (h : c ∈ decimal n) : c.isDigit = true :=
  Nat.isDigit_of_mem_toDigits (by decide) (by decide) h

/-- A number below the limit is read as it was written. -/
theorem read?_decimal {n limit : Nat} (h : n < limit) :
    read? 10 limit (decimal n) = some n := by
  have hdigits : digits? 10 0 (decimal n) = some n := by
    rw [digits?_eq_ofDigitChars 0 fun c hc => isDigit_of_mem_decimal hc, decimal,
      Nat.ofDigitChars_ten_toDigits]
  cases ht : decimal n with
  | nil => exact absurd ht Nat.toDigits_ne_nil
  | cons c t =>
    have hc : c.isDigit = true := isDigit_of_mem_decimal (ht ▸ List.mem_cons_self)
    have hplus : c ≠ '+' := by
      intro he
      rw [he] at hc
      exact absurd hc (by decide)
    have hhead : (c :: t).head? ≠ some '+' := fun he => hplus (Option.some.inj he)
    rw [ht] at hdigits
    rw [read?, if_neg hhead, bare?, hdigits, Option.filter_some, if_pos (decide_eq_true h)]
    exact List.cons_ne_nil c t

theorem isBlank_of_isDigit {c : Char} (h : c.isDigit = true) : Text.isBlank c = false := by
  simp only [Char.isDigit, Bool.and_eq_true, decide_eq_true_eq] at h
  have h0 : 48 ≤ c.toNat := h.1
  have h9 : c.toNat ≤ 57 := h.2
  simp only [Text.isBlank, Bool.or_eq_false_iff, Bool.and_eq_false_iff, decide_eq_false_iff_not,
    beq_eq_false_iff_ne]
  omega

theorem solid_decimal (n : Nat) : Text.Solid (decimal n) :=
  fun _ hc => isBlank_of_isDigit (isDigit_of_mem_decimal hc)

end Gateway.Numeral
