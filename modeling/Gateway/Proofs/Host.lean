import Gateway.Url.Parser
import Gateway.Proofs.Text

/-!
# The characters of a host

The host of a URL is visible ASCII: no control character, no space and nothing beyond ASCII
(`visible_of_parse`).  So it can stand in a header as it is, and that is all that is relied on where
URLs are read (`Reader.Lawful`).

An address consists of digits and separators, and a host of a scheme without rules has everything
else escaped.  What takes an argument is a domain name.  A label that is written in Punycode comes
out visible because digits are (`Punycode.visible_encode`).  A label that was in Punycode already is
not looked at itself.  But what it decodes to is, and it holds the ASCII characters of the label
apart from digits and hyphens (`Punycode.visible_or_mem_of_decode?`).
-/

namespace Gateway

namespace Text

/-! ## Visible characters -/

/-- Whether a character is ASCII and neither a space nor a control character. -/
def IsVisible (c : Char) : Prop := 0x20 < c.toNat ∧ c.toNat < 0x7F

instance : DecidablePred IsVisible := fun c =>
  inferInstanceAs (Decidable (0x20 < c.toNat ∧ c.toNat < 0x7F))

theorem isVisible_of_between {a b c : Char} (ha : IsVisible a) (hb : IsVisible b)
    (h : a ≤ c ∧ c ≤ b) : IsVisible c :=
  ⟨Nat.lt_of_lt_of_le ha.1 h.1, Nat.lt_of_le_of_lt h.2 hb.2⟩

/-- A text of visible characters. -/
def Visible (t : Text) : Prop := ∀ c ∈ t, IsVisible c

instance : DecidablePred Visible := List.decidableBAll IsVisible

theorem visible_nil : Visible [] := by
  intro c hc
  cases hc

theorem visible_cons {c : Char} {t : Text} : Visible (c :: t) ↔ IsVisible c ∧ Visible t :=
  List.forall_mem_cons

theorem visible_append {s t : Text} : Visible (s ++ t) ↔ Visible s ∧ Visible t :=
  List.forall_mem_append

theorem visible_reverse {t : Text} : Visible t.reverse ↔ Visible t := by
  simp [Visible]

/-- Visible text has no blanks. -/
theorem Visible.solid {t : Text} (h : Visible t) : Solid t := by
  intro c hc
  obtain ⟨hlow, hhigh⟩ := h c hc
  simp only [isBlank, Bool.or_eq_false_iff, Bool.and_eq_false_iff, decide_eq_false_iff_not,
    beq_eq_false_iff_ne]
  omega

theorem visible_intercalate {sep : Text} (hsep : Visible sep) :
    ∀ {ts : List Text}, (∀ t ∈ ts, Visible t) → Visible (sep.intercalate ts)
  | [], _ => visible_nil
  | [t], h => by
    have ht := h t List.mem_cons_self
    simpa [List.intercalate] using ht
  | t :: t' :: ts, h => by
    have ih := visible_intercalate hsep fun x hx => h x (List.mem_cons_of_mem t hx)
    have ht := h t List.mem_cons_self
    have hcons : sep.intercalate (t :: t' :: ts) = t ++ (sep ++ sep.intercalate (t' :: ts)) := by
      simp [List.intercalate]
    rw [hcons]
    exact visible_append.mpr ⟨ht, visible_append.mpr ⟨hsep, ih⟩⟩

theorem isVisible_digitChar : ∀ n < 16, IsVisible n.digitChar := by decide

/-- Numerals up to base 16 are visible. -/
theorem visible_toDigits {b : Nat} (hb : 1 < b) (hb16 : b ≤ 16) (n : Nat) :
    Visible (Nat.toDigits b n) := by
  induction n using Nat.strongRecOn with
  | ind n ih =>
    rw [Nat.toDigits_eq_if hb]
    split
    · next hlt => exact visible_cons.mpr ⟨isVisible_digitChar n (by omega), visible_nil⟩
    · next hge =>
      have hmod := Nat.mod_lt n (show 0 < b by omega)
      have hdiv : n / b < n := Nat.div_lt_self (by omega) hb
      exact visible_append.mpr ⟨ih _ hdiv,
        visible_cons.mpr ⟨isVisible_digitChar _ (by omega), visible_nil⟩⟩

end Text

open Text

namespace Net

/-! ## Addresses -/

theorem Ipv4.visible_text (ip : Ipv4) : Visible ip.text := by
  refine visible_intercalate (by decide) fun t ht => ?_
  obtain ⟨o, -, rfl⟩ := List.mem_map.mp ht
  exact visible_toDigits (by decide) (by decide) _

theorem Ipv6.visible_groupsText (gs : List UInt16) : Visible (groupsText gs) := by
  refine visible_intercalate (by decide) fun t ht => ?_
  obtain ⟨g, -, rfl⟩ := List.mem_map.mp ht
  exact visible_toDigits (by decide) (by decide) _

theorem Ipv6.visible_text (ip : Ipv6) : Visible ip.text := by
  unfold Ipv6.text
  dsimp only
  split
  · exact visible_groupsText _
  · exact visible_append.mpr
      ⟨visible_append.mpr ⟨visible_groupsText _, by decide⟩, visible_groupsText _⟩

end Net

namespace Url

namespace Percent

/-! ## Escapes -/

theorem visible_escape (b : UInt8) : Visible (escape b) := by
  have digit : ∀ n < 16,
      IsVisible (if n < 10 then Char.ofNat (48 + n) else Char.ofNat (55 + n)) := by decide
  have hb := b.toNat_lt
  refine visible_cons.mpr ⟨by decide, visible_cons.mpr ⟨digit _ (by omega), ?_⟩⟩
  exact visible_cons.mpr ⟨digit _ (by omega), visible_nil⟩

/-- A text is visible once spaces and a set with all controls are escaped. -/
theorem visible_encode {t : Text} (h : ' ' ∉ t) : Visible (encode controls t) := by
  intro c hc
  obtain ⟨d, hd, hcd⟩ := List.mem_flatMap.mp hc
  split at hcd
  · obtain ⟨b, -, hb⟩ := List.mem_flatMap.mp hcd
    exact visible_escape b c hb
  · next hset =>
    cases List.mem_singleton.mp hcd
    have hspace : c.toNat ≠ 0x20 := by
      intro he
      exact h (Char.toNat_inj.mp (he.trans (show 0x20 = ' '.toNat from rfl)) ▸ hd)
    simp only [controls, Bool.or_eq_true, decide_eq_true_eq, not_or] at hset
    exact ⟨by omega, by omega⟩

end Percent

namespace Punycode

/-! ## Punycode, written -/

theorem isVisible_digit : ∀ n < 36, IsVisible (digit n) := by decide

theorem visible_numeral (bias : Nat) : ∀ fuel k q : Nat, Visible (numeral bias fuel k q)
  | 0, _, _ => visible_nil
  | fuel + 1, k, q => by
    have hpos : 0 < threshold k bias ∧ threshold k bias ≤ 26 := by
      unfold threshold
      split <;> omega
    rw [numeral]
    split
    · exact visible_cons.mpr ⟨isVisible_digit q (by omega), visible_nil⟩
    · have hmod := Nat.mod_lt (q - threshold k bias) (show 0 < 36 - threshold k bias by omega)
      exact visible_cons.mpr ⟨isVisible_digit _ (by omega), visible_numeral bias fuel _ _⟩

theorem visible_pass {basic code : Nat} {w : Writer} (h : Visible w.out) (c : Char) :
    Visible (w.pass basic code c).out := by
  unfold Writer.pass
  split
  · exact h
  · split
    · exact visible_append.mpr ⟨visible_reverse.mpr (visible_numeral _ _ _ _), h⟩
    · exact h

theorem visible_codes (label : Text) (basic : Nat) :
    ∀ (ms : List Nat) (code : Nat) (w : Writer), Visible w.out →
      Visible (Writer.codes label basic ms code w).out
  | [], _, _, h => h
  | m :: ms, code, w, h => by
    rw [Writer.codes]
    refine visible_codes label basic ms _ _ ?_
    have hfold : ∀ (l : Text) (w : Writer), Visible w.out →
        Visible (l.foldl (Writer.pass basic m) w).out := by
      intro l
      induction l with
      | nil => exact fun w hw => hw
      | cons c l ih => exact fun w hw => ih _ (visible_pass hw c)
    exact hfold label _ h

/-- The written form is visible if the ASCII characters of the label are. -/
theorem visible_encode {label : Text} (h : ∀ c ∈ label, c.toNat < firstCode → IsVisible c) :
    Visible (encode label) := by
  rw [encode]
  refine visible_reverse.mpr (visible_codes _ _ _ _ _ ?_)
  refine visible_reverse.mpr (visible_append.mpr ⟨?_, ?_⟩)
  · intro c hc
    obtain ⟨hmem, hcode⟩ := List.mem_filter.mp hc
    exact h c hmem (of_decide_eq_true hcode)
  · split
    · exact visible_nil
    · decide

/-! ## Punycode, read -/

theorem isVisible_of_digitValue? {c : Char} {n : Nat} (h : digitValue? c = some n) :
    IsVisible c := by
  unfold digitValue? at h
  split at h
  · next hc => exact isVisible_of_between (by decide) (by decide) hc
  · split at h
    · next hc => exact isVisible_of_between (by decide) (by decide) hc
    · split at h
      · next hc => exact isVisible_of_between (by decide) (by decide) hc
      · cases h

/-- A numeral that is read is visible. -/
theorem visible_of_readNumeral {bias next : Nat} {rest : Text} :
    ∀ {t : Text} {k weight i : Nat}, readNumeral bias k weight i t = some (next, rest) →
      Visible rest → Visible t
  | [], _, _, _, h, _ => by cases h
  | c :: t, k, weight, i, h, hrest => by
    rw [readNumeral] at h
    obtain ⟨d, hd, h⟩ := Option.bind_eq_some_iff.mp h
    have hc := isVisible_of_digitValue? hd
    dsimp only at h
    split at h
    · cases h
    · split at h
      · cases h
        exact visible_cons.mpr ⟨hc, hrest⟩
      · exact visible_cons.mpr ⟨hc, visible_of_readNumeral h hrest⟩

theorem mem_insertAt {c d : Char} : ∀ {n : Nat} {t : Text}, d ∈ t → d ∈ insertAt c n t
  | 0, _, h => List.mem_cons_of_mem c h
  | _ + 1, [], h => by cases h
  | n + 1, e :: t, h => by
    rcases List.mem_cons.mp h with rfl | h
    · exact List.mem_cons_self
    · exact List.mem_cons_of_mem e (mem_insertAt h)

/-- The numerals that are read are visible, and no character of the label so far is lost. -/
theorem visible_of_readAll {label : Text} :
    ∀ {fuel code bias i : Nat} {out t : Text}, readAll fuel code bias i out t = some label →
      Visible t ∧ ∀ c ∈ out, c ∈ label
  | fuel, code, bias, i, out, [], h => by
    cases fuel <;>
    · rw [readAll] at h
      cases h
      exact ⟨visible_nil, fun c hc => hc⟩
  | 0, _, _, _, _, _ :: _, h => by
    rw [readAll] at h
    cases h
  | fuel + 1, code, bias, i, out, c :: t, h => by
    simp only [readAll] at h
    obtain ⟨⟨next, rest⟩, hread, h⟩ := Option.bind_eq_some_iff.mp h
    dsimp only at h
    split at h
    · obtain ⟨hrest, hmem⟩ := visible_of_readAll h
      exact ⟨visible_of_readNumeral hread hrest, fun c hc => hmem c (mem_insertAt hc)⟩
    · cases h

/-- A text is what stands in front of its last hyphen, the hyphen and the rest. -/
theorem mem_of_mem_split {t : Text} {c : Char} (h : c ∈ t) :
    let tail := (t.reverse.takeWhile (· != '-')).reverse
    c ∈ t.take (t.length - tail.length - 1) ∨ c = '-' ∨ c ∈ tail := by
  intro tail
  have hrev := List.takeWhile_append_dropWhile (p := (· != '-')) (l := t.reverse)
  cases hd : t.reverse.dropWhile (· != '-') with
  | nil =>
    rw [hd, List.append_nil] at hrev
    right; right
    rw [show tail = t by rw [← List.reverse_reverse t, ← hrev]]
    exact h
  | cons d ds =>
    have hdash : d = '-' := by
      have hne := List.head?_dropWhile_not (· != '-') t.reverse
      rw [hd] at hne
      simpa using hne
    have ht : t = ds.reverse ++ d :: tail := by
      rw [hd] at hrev
      rw [← List.reverse_reverse t, ← hrev]
      simp [tail]
    have hlen : t.length - tail.length - 1 = ds.reverse.length := by
      have := congrArg List.length ht
      rw [List.length_append, List.length_cons] at this
      omega
    rw [hlen]
    rw [ht] at h ⊢
    rw [List.take_left]
    rcases List.mem_append.mp h with h | h
    · exact Or.inl h
    · rcases List.mem_cons.mp h with rfl | h
      · exact Or.inr (Or.inl hdash)
      · exact Or.inr (Or.inr h)

/-- Each character of a written form is visible, or an ASCII character of the label. -/
theorem visible_or_mem_of_decode? {t label : Text} (h : decode? t = some label) {c : Char}
    (hc : c ∈ t) : IsVisible c ∨ (c ∈ label ∧ c.toNat < firstCode) := by
  rw [decode?] at h
  split at h
  · cases h
  · next hascii =>
    rw [not_or] at hascii
    obtain ⟨htail, hmem⟩ := visible_of_readAll h
    rcases mem_of_mem_split hc with hc | rfl | hc
    · right
      refine ⟨hmem c hc, ?_⟩
      have hany := hascii.2
      rw [Bool.not_eq_true, List.any_eq_false] at hany
      have hcode := hany c hc
      rw [decide_eq_true_eq] at hcode
      omega
    · left
      decide
    · exact Or.inl (htail c hc)

end Punycode

namespace Domain

/-! ## Domain names -/

theorem isVisible_of_isForbidden {c : Char} (h : isForbidden c = false) (hascii : c.toNat < 128) :
    IsVisible c := by
  simp only [isForbidden, Bool.or_eq_false_iff, decide_eq_false_iff_not] at h
  exact ⟨by omega, by omega⟩

/-- A label whose meaning holds no forbidden character is written visibly. -/
theorem visible_labelToAscii {label meaning : Text} (h : meaning? label = some meaning)
    (hallowed : meaning.any isForbidden = false) : Visible (labelToAscii label) := by
  have hmeaning : ∀ c ∈ meaning, c.toNat < 128 → IsVisible c := fun c hc hascii =>
    isVisible_of_isForbidden (Bool.eq_false_iff.mpr (List.any_eq_false.mp hallowed c hc)) hascii
  have hlabel : ∀ c ∈ label, c.toNat < 128 → IsVisible c := by
    intro c hc hascii
    unfold meaning? at h
    split at h
    · next hace =>
      obtain ⟨rest, rfl⟩ := List.isPrefixOf_iff_prefix.mp hace
      obtain ⟨hdecode, -⟩ := Option.filter_eq_some_iff.mp h
      rw [List.drop_left] at hdecode
      rcases List.mem_append.mp hc with hc | hc
      · have hpart : Visible acePart := by decide
        exact hpart c hc
      · rcases Punycode.visible_or_mem_of_decode? hdecode hc with hv | ⟨hmem, -⟩
        · exact hv
        · exact hmeaning c hmem hascii
    · cases h
      exact hmeaning c hc hascii
  unfold labelToAscii
  split
  · next hall =>
    intro c hc
    exact hlabel c hc (of_decide_eq_true (List.all_eq_true.mp hall c hc))
  · exact visible_append.mpr ⟨by decide, Punycode.visible_encode hlabel⟩

/-- Where all elements of a list have images, each has one that is allowed if all images are. -/
theorem exists_of_mapM {α β : Type} {f : α → Option β} {a : α} :
    ∀ {l : List α} {bs : List β}, l.mapM f = some bs → a ∈ l → ∃ b ∈ bs, f a = some b
  | [], _, _, ha => by cases ha
  | x :: l, bs, h, ha => by
    rw [List.mapM_cons] at h
    obtain ⟨b, hb, h⟩ := Option.bind_eq_some_iff.mp h
    obtain ⟨bs', hbs, h⟩ := Option.bind_eq_some_iff.mp h
    cases h
    rcases List.mem_cons.mp ha with rfl | ha
    · exact ⟨b, List.mem_cons_self, hb⟩
    · obtain ⟨b', hmem, hb'⟩ := exists_of_mapM hbs ha
      exact ⟨b', List.mem_cons_of_mem b hmem, hb'⟩

theorem visible_of_toAscii? {name out : Text} (h : toAscii? name = some out) : Visible out := by
  unfold toAscii? at h
  obtain ⟨mapped, -, h⟩ := Option.bind_eq_some_iff.mp h
  obtain ⟨meanings, hmeanings, h⟩ := Option.bind_eq_some_iff.mp h
  split at h
  · next hall =>
    cases h
    rw [Bool.and_eq_true, List.all_eq_true] at hall
    refine visible_intercalate (by decide) fun t ht => ?_
    obtain ⟨label, hlabel, rfl⟩ := List.mem_map.mp ht
    obtain ⟨meaning, hmem, hmeaning⟩ := exists_of_mapM hmeanings hlabel
    have hallowed := hall.1 meaning hmem
    simp only [Bool.and_eq_true, Bool.not_eq_true'] at hallowed
    exact visible_labelToAscii hmeaning hallowed.1.2
  · cases h

end Domain

/-! ## Hosts -/

namespace Host

theorem visible_bracketed {t : Text} {h : Host} (hr : bracketed t = .ok h) : Visible h.text := by
  unfold bracketed at hr
  split at hr
  · cases hr
    exact visible_cons.mpr
      ⟨by decide, visible_append.mpr ⟨Net.Ipv6.visible_text _, by decide⟩⟩
  · cases hr

theorem visible_special {t : Text} {h : Host} (hr : special t = .ok h) : Visible h.text := by
  unfold special at hr
  split at hr
  · exact visible_bracketed hr
  · split at hr
    · cases hr
    · cases hr
    · next name _ hname =>
      obtain ⟨decoded, -, hascii⟩ := Option.bind_eq_some_iff.mp hname
      split at hr
      · split at hr
        · cases hr
          exact Net.Ipv4.visible_text _
        · cases hr
      · cases hr
        exact Domain.visible_of_toAscii? hascii

theorem visible_general {t : Text} {h : Host} (hr : general t = .ok h) : Visible h.text := by
  unfold general at hr
  split at hr
  · cases hr
    exact visible_nil
  · exact visible_bracketed hr
  · split at hr
    · cases hr
    · next hforbidden =>
      cases hr
      refine Percent.visible_encode fun hspace => hforbidden ?_
      exact List.any_eq_true.mpr ⟨' ', hspace, by decide⟩

end Host

/-! ## The host of a URL that was read -/

/-- Whether a URL has a visible host, if it has one. -/
def HasVisibleHost (u : Url) : Prop := ∀ h, u.host = some h → Visible h.text

theorem exists_of_bind_eq_ok {ε α β : Type} {x : Except ε α} {f : α → Except ε β} {b : β}
    (h : x >>= f = .ok b) : ∃ a, x = .ok a ∧ f a = .ok b := by
  cases x with
  | error e => cases h
  | ok a => exact ⟨a, rfl, h⟩

theorem visible_authority {s : Scheme} {t rest : Text} {a : Authority}
    (h : authority s t = .ok (a, rest)) : Visible a.host.text := by
  simp only [authority] at h
  split at h
  · cases h
  · split at h
    · cases h
    · split at h
      · obtain ⟨host, hhost, h⟩ := exists_of_bind_eq_ok h
        split at h
        · cases h
        · obtain ⟨number, -, h⟩ := exists_of_bind_eq_ok h
          split at h
          · cases h
          · cases h
            exact Host.visible_special hhost
      · obtain ⟨host, hhost, h⟩ := exists_of_bind_eq_ok h
        split at h
        · cases h
        · obtain ⟨number, -, h⟩ := exists_of_bind_eq_ok h
          split at h
          · cases h
          · cases h
            exact Host.visible_general hhost

theorem hasVisibleHost_afterSlashes {s : Scheme} {t : Text} {u : Url}
    (h : afterSlashes s t = .ok u) : HasVisibleHost u := by
  obtain ⟨⟨a, rest⟩, ha, h⟩ := exists_of_bind_eq_ok h
  cases h
  intro host hhost
  cases hhost
  exact visible_authority ha

theorem visible_unless {host : Host} (h : Visible host.text) (p q : Prop) [Decidable p]
    [Decidable q] : Visible (if p then Host.empty else if q then Host.empty else host).text := by
  split
  · exact visible_nil
  · split
    · exact visible_nil
    · exact h

theorem hasVisibleHost_fileHost {s : Scheme} {t : Text} {u : Url}
    (h : fileHost s t = .ok u) : HasVisibleHost u := by
  simp only [fileHost] at h
  split at h
  · cases h
    intro host hhost
    cases hhost
    have hempty : Visible Host.empty.text := visible_nil
    exact visible_unless hempty _ _
  · obtain ⟨found, hfound, h⟩ := exists_of_bind_eq_ok h
    cases h
    intro host hhost
    cases hhost
    exact visible_unless (Host.visible_special hfound) _ _

/-- The host of a URL that was read is visible ASCII. -/
theorem visible_of_parse {t : Text} {u : Url} (h : parse t = .ok u) {host : Text}
    (hhost : u.hostText? = some host) : Visible host := by
  have hurl : HasVisibleHost u := by
    unfold parse at h
    split at h
    · cases h
    · split at h
      · unfold file at h
        dsimp only at h
        split at h
        · split at h
          · exact hasVisibleHost_fileHost h
          · cases h
            intro host hhost
            cases hhost
            exact visible_nil
        · cases h
          intro host hhost
          cases hhost
          exact visible_nil
      · split at h
        · exact hasVisibleHost_afterSlashes h
        · unfold general at h
          split at h
          · exact hasVisibleHost_afterSlashes h
          · cases h
            intro host hhost
            cases hhost
          · cases h
            intro host hhost
            cases hhost
  unfold hostText? at hhost
  split at hhost
  · cases hhost
  · cases hhost
  · next hfound =>
    cases hhost
    exact hurl _ hfound

/-- What is relied on where URLs are read: their hosts hold no blanks. -/
structure Reader.Lawful (readUrl : Reader) : Prop where
  solid_host : ∀ {t : Text} {u : Url} {host : Text}, readUrl t = .ok u →
    u.hostText? = some host → Text.Solid host

theorem lawful_parse : Reader.Lawful parse where
  solid_host h hhost := (visible_of_parse h hhost).solid

end Url

end Gateway
