import Gateway.Proofs.Request

/-!
# Head and body apart

Bytes after a head cannot be taken for a part of it, whatever they are: blank lines, request lines
or header lines.  If the first blank line stands where a head was ended, the head is read back as it
is (`splitHead_of_headEnd?`), so two readings of it give the same request but for the body
(`sameHead_parse`).

What a request keeps of the bytes after its head depends on the length that it declares and on
nothing else (`Keeps`, `exists_declaredLength?_eq`).  Bytes without a blank line are all head, so of
them it keeps nothing (`keeps_nil_of_parse`).
-/

namespace Gateway.Http

namespace Framing

/-- Where the first blank line is the one that was written, the head and what follows it are read
back. -/
theorem splitHead_of_headEnd? {head : Bytes} (h : headEnd? (head ++ blankLine) = some head.length)
    (rest : Bytes) : splitHead (head ++ blankLine ++ rest) = (head, rest) := by
  rw [splitHead_append h, splitHead_eq h, List.take_left, ← List.drop_drop, List.drop_left]
  rfl

end Framing

namespace Request

/-- What two readings of one head have in common: either both fail, or they give requests that
differ at most in their bodies. -/
inductive SameHead : Except RequestError Request → Except RequestError Request → Prop where
  | failed {e : RequestError} : SameHead (.error e) (.error e)
  | read {r q : Request} :
      r.method = q.method → r.target = q.target → r.version = q.version → r.headers = q.headers →
      SameHead (.ok r) (.ok q)

/-- What a request keeps of the bytes after its head. -/
structure Keeps (r : Request) (rest : Bytes) : Prop where
  /-- If a length is declared, at most so many bytes, and it is known whether some are missing. -/
  of_some : ∀ d, r.declaredLength? = some d →
    r.body = rest.take (min d rest.length) ∧ (r.truncated = true ↔ rest.length < d)
  /-- If none is, all of them. -/
  of_none : r.declaredLength? = none → r.body = rest ∧ r.truncated = false

theorem SameHead.fill (r : Request) (x y : Bytes) : SameHead (.ok (r.fill x)) (.ok (r.fill y)) :=
  .read rfl rfl rfl rfl

/-- The declared length is read from the headers, which the body leaves alone. -/
theorem declaredLength?_fill (r : Request) (rest : Bytes) :
    (r.fill rest).declaredLength? = r.declaredLength? := rfl

theorem Keeps.of_fill (r : Request) (rest : Bytes) : Keeps (r.fill rest) rest where
  of_some := by
    intro d hd
    rw [declaredLength?_fill] at hd
    by_cases hle : d ≤ rest.length
    · rw [fill_of_le hd hle, Nat.min_eq_left hle]
      simp [hle]
    · rw [fill, hd, cutBody, if_neg hle, Nat.min_eq_right (Nat.le_of_not_le hle), List.take_length]
      simp [Nat.lt_of_not_le hle]
  of_none := by
    intro hd
    rw [declaredLength?_fill] at hd
    rw [fill_of_none hd]
    exact ⟨rfl, rfl⟩

section

variable {head : Bytes}

/-- A head that ends at its first blank line is read first, and what follows it makes the body. -/
theorem parse_of_headEnd?
    (h : Framing.headEnd? (head ++ Framing.blankLine) = some head.length) (rest : Bytes) :
    parse (head ++ Framing.blankLine ++ rest) = (ofHead head).map (fill rest) := by
  rw [parse_eq, Framing.splitHead_of_headEnd? h]

/-- Such a head is read in the same way whatever follows it. -/
theorem sameHead_parse (h : Framing.headEnd? (head ++ Framing.blankLine) = some head.length)
    (x y : Bytes) : SameHead (parse (head ++ Framing.blankLine ++ x))
      (parse (head ++ Framing.blankLine ++ y)) := by
  rw [parse_of_headEnd? h, parse_of_headEnd? h]
  cases ofHead head with
  | error e => exact .failed
  | ok q => exact .fill q x y

/-- It declares one length, and the body is what the request keeps of the bytes that follow. -/
theorem exists_declaredLength?_eq
    (h : Framing.headEnd? (head ++ Framing.blankLine) = some head.length) :
    ∃ declared, ∀ x r, parse (head ++ Framing.blankLine ++ x) = .ok r →
      r.declaredLength? = declared ∧ r.Keeps x := by
  cases hq : ofHead head with
  | error e =>
    refine ⟨none, fun x r hr => ?_⟩
    rw [parse_of_headEnd? h, hq] at hr
    cases hr
  | ok q =>
    refine ⟨q.declaredLength?, fun x r hr => ?_⟩
    rw [parse_of_headEnd? h, hq] at hr
    cases hr
    exact ⟨q.declaredLength?_fill x, .of_fill q x⟩

end

/-- Of nothing, nothing is kept, and something is missing exactly if a length other than zero is
declared. -/
theorem Keeps.nil {r : Request} (h : r.Keeps []) :
    r.body = [] ∧ (r.truncated = true ↔ ∃ d, r.declaredLength? = some d ∧ 0 < d) := by
  cases hd : r.declaredLength? with
  | none =>
    obtain ⟨hbody, htruncated⟩ := h.of_none hd
    simp [hbody, htruncated]
  | some d =>
    obtain ⟨hbody, htruncated⟩ := h.of_some d hd
    refine ⟨by rw [hbody, List.take_nil], ?_⟩
    simpa using htruncated

/-- Bytes without a blank line are all head. -/
theorem parse_eq_ok_iff_of_headEnd?_eq_none {bytes : Bytes} (h : Framing.headEnd? bytes = none)
    {r : Request} : parse bytes = .ok r ↔ ∃ q, ofHead bytes = .ok q ∧ q.fill [] = r := by
  rw [parse_eq_ok_iff, Framing.splitHead, h]

/-- Nothing follows such a head. -/
theorem keeps_nil_of_parse {bytes : Bytes} (h : Framing.headEnd? bytes = none) {r : Request}
    (hr : parse bytes = .ok r) : r.Keeps [] := by
  obtain ⟨q, -, rfl⟩ := (parse_eq_ok_iff_of_headEnd?_eq_none h).mp hr
  exact .of_fill q []

/-- A head that ends at its first blank line is read in the same way whatever follows it, with one
declared length, and the body is what the request keeps of the bytes that follow.  Bytes without a
blank line are read with an empty body, and something is missing exactly if a length other than
zero is declared. -/
theorem body_apart :
    (∀ head, Framing.headEnd? (head ++ Framing.blankLine) = some head.length →
      (∀ x y, SameHead (parse (head ++ Framing.blankLine ++ x))
        (parse (head ++ Framing.blankLine ++ y))) ∧
      ∃ declared, ∀ x r, parse (head ++ Framing.blankLine ++ x) = .ok r →
        r.declaredLength? = declared ∧ r.Keeps x) ∧
    ∀ bytes r, Framing.headEnd? bytes = none → parse bytes = .ok r →
      r.body = [] ∧ (r.truncated = true ↔ ∃ d, r.declaredLength? = some d ∧ 0 < d) :=
  ⟨fun _ hhead => ⟨sameHead_parse hhead, exists_declaredLength?_eq hhead⟩,
    fun _ _ hnone hr => (keeps_nil_of_parse hnone hr).nil⟩

/-- A head that ends in a part of a blank line. -/
def raggedHead : Bytes :=
  Utf8.encode "PUT /api HTTP/1.1\r\nContent-Length: 3\r\nX-Tag: y\r\n\r".toList

/-- Its request, with some body. -/
def raggedRequest (body : Bytes) (truncated : Bool) : Request where
  method := .put
  target := "/api".toList
  version := "HTTP/1.1".toList
  headers := .ofList [("Content-Length".toList, "3".toList), ("X-Tag".toList, "y".toList)]
  body := body
  truncated := truncated

/-- A tail that looks like a head is cut to three bytes, and the short one is known to be short, as
it is if no blank line has come. -/
theorem body_apart_ragged :
    let tail := Utf8.encode "\r\n\r\nContent-Length: 9\r\n\r\n".toList
    let short := Utf8.encode "hi".toList
    Framing.headEnd? (raggedHead ++ Framing.blankLine) = some raggedHead.length ∧
      SameHead (parse (raggedHead ++ Framing.blankLine ++ tail))
        (parse (raggedHead ++ Framing.blankLine ++ short)) ∧
      (∃ r, parse (raggedHead ++ Framing.blankLine ++ tail) = .ok r ∧ r.Keeps tail ∧
        r.body = [13, 10, 13] ∧ r.truncated = false) ∧
      (∃ r, parse (raggedHead ++ Framing.blankLine ++ short) = .ok r ∧ r.Keeps short ∧
        r.body = short ∧ r.truncated = true) ∧
      Framing.headEnd? raggedHead = none ∧
      ∃ r, parse raggedHead = .ok r ∧ r.body = [] ∧ r.truncated = true := by
  intro tail short
  have hhead : Framing.headEnd? (raggedHead ++ Framing.blankLine) = some raggedHead.length := by
    decide +kernel
  have htail : parse (raggedHead ++ Framing.blankLine ++ tail)
      = .ok (raggedRequest [13, 10, 13] false) := by
    decide +kernel
  have hshort : parse (raggedHead ++ Framing.blankLine ++ short)
      = .ok (raggedRequest short true) := by
    decide +kernel
  have hnone : Framing.headEnd? raggedHead = none := by
    decide +kernel
  have hbare : parse raggedHead = .ok (raggedRequest [] true) := by
    decide +kernel
  obtain ⟨hheads, hbares⟩ := body_apart
  obtain ⟨hsame, declared, hkeeps⟩ := hheads raggedHead hhead
  obtain ⟨hbody, htruncated⟩ := hbares raggedHead _ hnone hbare
  exact ⟨hhead, hsame tail short, ⟨_, htail, (hkeeps _ _ htail).2, rfl, rfl⟩,
    ⟨_, hshort, (hkeeps _ _ hshort).2, rfl, rfl⟩, hnone,
    ⟨_, hbare, hbody, htruncated.mpr ⟨3, rfl, by decide⟩⟩⟩

end Request

end Gateway.Http
