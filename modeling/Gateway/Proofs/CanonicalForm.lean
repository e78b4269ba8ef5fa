import Mathlib.Data.List.Nodup
import Gateway.Proofs.Utf8Order
import Gateway.Proofs.Wire

/-!
# The wire form is canonical

A header map is enumerated in no order that anyone may rely on, so the lines of a response are
sorted before they are written, and the bytes depend on the map alone (`wire_canonical`).

The names of a map are distinct, so entries that rise weakly in any order that looks at the name
first rise strictly (`rising_of_distinct`), and there is one way only to write given entries in that
order (`eq_of_rising`).  Hence it does not matter how the map was enumerated, whether the sort is
stable, or whether the headers that are not repeated are left out before it or after
(`eq_repeated_of_arranged`).  The order itself is that of the bytes that are sent, since UTF-8 keeps
the order of texts (`encode_lt_encode_iff`).
-/

namespace Gateway.Http.Response

/-! ## What is said of the lines -/

/-- A name under which the wire form writes a line of its own, in some letter case. -/
def IsOwnName (name : Text) : Prop :=
  name.map Char.toLower = "content-length".toList ∨ name.map Char.toLower = "connection".toList

instance (name : Text) : Decidable (IsOwnName name) :=
  inferInstanceAs (Decidable (_ ∨ _))

/-- The entries that are repeated, in the order in which they are given. -/
def kept (es : List (Text × Text)) : List (Text × Text) := es.filter fun e => ¬ IsOwnName e.1

/-- The names rise strictly, as bytes. -/
def Rising (fields : List (Text × Text)) : Prop :=
  fields.Pairwise fun e f => Utf8.encode e.1 < Utf8.encode f.1

/-- The order of pairs, as bytes: by the name and, where the names agree, by the value. -/
def PairLe (e f : Text × Text) : Prop :=
  Utf8.encode e.1 < Utf8.encode f.1 ∨ e.1 = f.1 ∧ ¬ Utf8.encode f.2 < Utf8.encode e.2

/-- What some sort may make of the entries that are kept.  It need not be stable. -/
structure Arranged (es fields : List (Text × Text)) : Prop where
  perm : fields.Perm (kept es)
  sorted : fields.Pairwise PairLe

/-- The bytes of a response that repeats these headers. -/
def wireOf (status : Status) (fields : List (Text × Text)) (body : Bytes) : Bytes :=
  Utf8.encode (statusLine status ++ fields.flatMap (fun f => f.1 ++ ": ".toList ++ f.2 ++ lineEnd)
    ++ ("Content-Length: ".toList ++ Numeral.decimal body.length ++ lineEnd)
    ++ ("Connection: close".toList ++ lineEnd) ++ lineEnd) ++ body

/-- The lines of a response repeat these headers: each that is kept once, in the order of the
names. -/
structure Repeats (r : Response) (fields : List (Text × Text)) : Prop where
  perm : fields.Perm (kept r.headers.entries)
  rising : Rising fields
  wire_eq : r.wire = wireOf r.status fields r.body

/-! ## Names of framing headers -/

theorem isFramingHeader_iff (name : Text) : isFramingHeader name = true ↔ IsOwnName name := by
  have hlength : Framing.contentLength.map Char.toLower = "content-length".toList := by decide
  have hconnection : "Connection".toList.map Char.toLower = "connection".toList := by decide
  rw [isFramingHeader, Bool.or_eq_true, Text.sameIgnoringCase, Text.sameIgnoringCase, beq_iff_eq,
    beq_iff_eq, hlength, hconnection]
  rfl

theorem repeated_eq (r : Response) : r.repeated = kept r.headers.sorted := by
  refine List.filter_congr fun e _ => ?_
  rw [Bool.eq_iff_iff, decide_eq_true_eq, ← isFramingHeader_iff, Bool.not_eq_true',
    Bool.not_eq_true]

theorem kept_perm {es es' : List (Text × Text)} (h : es.Perm es') : (kept es).Perm (kept es') :=
  h.filter _

theorem mem_kept {es : List (Text × Text)} {e : Text × Text} :
    e ∈ kept es ↔ e ∈ es ∧ ¬ IsOwnName e.1 := by
  rw [kept, List.mem_filter, decide_eq_true_eq]

/-! ## One order -/

/-- Entries of different names that rise weakly rise strictly. -/
theorem rising_of_distinct {fields : List (Text × Text)} (hnames : (fields.map Prod.fst).Nodup)
    (hle : fields.Pairwise fun e f => ¬ Utf8.encode f.1 < Utf8.encode e.1) : Rising fields := by
  refine List.Pairwise.imp₂ (fun e f hne hef => ?_) (List.pairwise_map.mp hnames) hle
  refine Decidable.byContradiction fun hlt => hne (Utf8.encode_injective ?_)
  exact List.le_antisymm (List.not_lt.mp hef) (List.not_lt.mp hlt)

/-- There is one way to write entries so that the names rise. -/
theorem eq_of_rising {es fs : List (Text × Text)} (hes : Rising es) (hfs : Rising fs)
    (h : es.Perm fs) : es = fs :=
  List.Perm.eq_of_pairwise (fun _ _ _ _ hef hfe => absurd hfe (List.lt_asymm hef)) hes hfs h

theorem nodup_names_kept {es : List (Text × Text)} (h : (es.map Prod.fst).Nodup) :
    ((kept es).map Prod.fst).Nodup :=
  h.sublist (List.filter_sublist.map Prod.fst)

theorem nodup_kept {es : List (Text × Text)} (h : (es.map Prod.fst).Nodup) : (kept es).Nodup :=
  List.Nodup.of_map Prod.fst (nodup_names_kept h)

/-! ## The headers that are repeated -/

theorem perm_sorted (h : Headers) : h.sorted.Perm h.entries := List.mergeSort_perm _ _

theorem repeated_perm (r : Response) : r.repeated.Perm (kept r.headers.entries) := by
  rw [repeated_eq]
  exact kept_perm (perm_sorted r.headers)

/-- The names of the sorted entries rise. -/
theorem rising_sorted (h : Headers) : Rising h.sorted := by
  let le (e f : Text × Text) : Bool := !decide (f.1 < e.1)
  have hle : ∀ e f, le e f = true ↔ ¬ f.1 < e.1 := by
    intro e f
    rw [Bool.not_eq_true', decide_eq_false_iff_not]
  have htrans : ∀ e f g, le e f = true → le f g = true → le e g = true := by
    intro e f g hef hfg
    rw [hle, List.not_lt] at hef hfg ⊢
    exact List.le_trans hef hfg
  have htotal : ∀ e f, (le e f || le f e) = true := by
    intro e f
    rw [Bool.or_eq_true, hle, hle, List.not_lt, List.not_lt]
    exact List.le_total e.1 f.1
  refine rising_of_distinct (((perm_sorted h).map Prod.fst).nodup_iff.mpr h.nodup) ?_
  refine (List.pairwise_mergeSort htrans htotal h.entries).imp fun {e f} hef => ?_
  rw [Utf8.encode_lt_encode_iff]
  exact (hle e f).mp hef

theorem rising_repeated (r : Response) : Rising r.repeated := by
  rw [repeated_eq]
  exact (rising_sorted r.headers).filter _

/-- A sort of the entries has one result, however they were enumerated. -/
theorem eq_repeated_of_arranged {r : Response} {es fields : List (Text × Text)}
    (hes : es.Perm r.headers.entries) (h : Arranged es fields) : fields = r.repeated := by
  have hperm : fields.Perm (kept r.headers.entries) := h.perm.trans (kept_perm hes)
  have hnames : (fields.map Prod.fst).Nodup :=
    (hperm.map Prod.fst).nodup_iff.mpr (nodup_names_kept r.headers.nodup)
  refine eq_of_rising (rising_of_distinct hnames (h.sorted.imp ?_)) (rising_repeated r)
    (hperm.trans (repeated_perm r).symm)
  rintro e f (hlt | ⟨heq, -⟩)
  · exact List.lt_asymm hlt
  · rw [heq]
    exact List.lt_irrefl _

/-- The headers that are repeated are such a result. -/
theorem arranged_repeated {r : Response} {es : List (Text × Text)}
    (hes : es.Perm r.headers.entries) : Arranged es r.repeated where
  perm := (repeated_perm r).trans (kept_perm hes.symm)
  sorted := (rising_repeated r).imp Or.inl

/-! ## The bytes -/

theorem wire_eq_wireOf (r : Response) : r.wire = wireOf r.status r.repeated r.body := rfl

theorem repeats_repeated (r : Response) : Repeats r r.repeated where
  perm := repeated_perm r
  rising := rising_repeated r
  wire_eq := wire_eq_wireOf r

/-- Maps with the same entries to repeat have them repeated alike. -/
theorem repeated_congr {r r' : Response} (h : ∀ e, ¬ IsOwnName e.1 →
    (e ∈ r.headers.entries ↔ e ∈ r'.headers.entries)) : r.repeated = r'.repeated := by
  refine eq_of_rising (rising_repeated r) (rising_repeated r') ?_
  have hkept : (kept r.headers.entries).Perm (kept r'.headers.entries) := by
    rw [List.perm_ext_iff_of_nodup (nodup_kept r.headers.nodup) (nodup_kept r'.headers.nodup)]
    intro e
    rw [mem_kept, mem_kept]
    exact and_congr_left (h e)
  exact (repeated_perm r).trans (hkept.trans (repeated_perm r').symm)

/-- The bytes of a response are those of its headers in the one order of their names, whatever order
the map is enumerated in and however its entries are sorted.  They do not change with a header that
is not repeated. -/
theorem wire_canonical (r : Response) :
    (∀ es : List (Text × Text), es.Perm r.headers.entries →
      (∃ fields, Arranged es fields) ∧ ∀ fields, Arranged es fields → Repeats r fields)
    ∧ ∀ r' : Response, r'.status = r.status → r'.body = r.body →
      (∀ e, ¬ IsOwnName e.1 → (e ∈ r'.headers.entries ↔ e ∈ r.headers.entries)) →
        r'.wire = r.wire := by
  refine ⟨fun es hes => ⟨⟨_, arranged_repeated hes⟩, fun fields h => ?_⟩, ?_⟩
  · rw [eq_repeated_of_arranged hes h]
    exact repeats_repeated r
  · intro r' hstatus hbody h
    rw [wire_eq_wireOf, wire_eq_wireOf, hstatus, hbody, repeated_congr h]

/-- A response whose names do not stand in order. -/
def unordered : Response :=
  ⟨.ok, .ofList [("Vary".toList, "*".toList), ("Age".toList, "1".toList),
    ("CONNECTION".toList, "upgrade".toList)], Utf8.encode "hi".toList⟩

/-- The same headers set in the other order, beside a wrong length. -/
def reordered : Response :=
  ⟨.ok, .ofList [("content-length".toList, "7".toList), ("Age".toList, "1".toList),
    ("Vary".toList, "*".toList)], Utf8.encode "hi".toList⟩

theorem wire_canonical_reordered :
    Repeats unordered [("Age".toList, "1".toList), ("Vary".toList, "*".toList)]
      ∧ reordered.wire = unordered.wire := by
  obtain ⟨hsorts, hmaps⟩ := wire_canonical unordered
  refine ⟨(hsorts unordered.headers.entries.reverse (by decide)).2 _ ⟨by decide, ?_⟩,
    hmaps _ rfl rfl ?_⟩
  · exact List.pairwise_pair.mpr (.inl (by decide))
  · intro e he
    have hlength : e ≠ ("content-length".toList, "7".toList) := by
      rintro rfl
      exact he (.inl rfl)
    have hconnection : e ≠ ("CONNECTION".toList, "upgrade".toList) := by
      rintro rfl
      exact he (.inr rfl)
    show e ∈ [_, _, _] ↔ e ∈ [_, _, _]
    simp only [List.mem_cons, List.not_mem_nil, hlength, hconnection, or_false, false_or]
    exact or_comm

end Gateway.Http.Response
