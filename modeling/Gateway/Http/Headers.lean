import Gateway.Text.Ascii

/-!
# Header maps

A header map gives each name at most one value.  Names that differ in letter case are different
keys, and `set` replaces the value of its very key.  `lookup?` is how the gateway reads a header: it
ignores the case of ASCII letters and takes the oldest entry that matches.

The order of the entries is that in which the names were first set.  Nothing that leaves the
gateway depends on it, except where two names differ in case alone.
-/

namespace Gateway.Http

/-- Set the value of a name in a list of entries. -/
def Headers.setIn (name value : Text) : List (Text × Text) → List (Text × Text)
  | [] => [(name, value)]
  | e :: rest => if e.1 = name then (name, value) :: rest else e :: setIn name value rest

/-- The names after a `setIn` are the old ones and, if it is new, the one that was set. -/
theorem Headers.map_fst_setIn (name value : Text) (es : List (Text × Text)) :
    (setIn name value es).map Prod.fst
      = if name ∈ es.map Prod.fst then es.map Prod.fst else es.map Prod.fst ++ [name] := by
  induction es with
  | nil => simp [setIn]
  | cons e es ih =>
    by_cases h : e.1 = name
    · simp [setIn, h]
    · have h' : ¬ name = e.1 := fun hn => h hn.symm
      simp only [setIn, h, if_false, List.map_cons, ih, List.mem_cons, h', false_or]
      split <;> simp

/-- A header map. -/
structure Headers where
  /-- The entries, a name and its value each. -/
  entries : List (Text × Text) := []
  /-- No name occurs twice. -/
  nodup : (entries.map Prod.fst).Nodup := by simp
deriving DecidableEq, Repr

namespace Headers

/-- The map without entries. -/
def empty : Headers := {}

/-- Set the value of a name, in place of the value it had. -/
def set (h : Headers) (name value : Text) : Headers where
  entries := setIn name value h.entries
  nodup := by
    rw [map_fst_setIn]
    split
    · exact h.nodup
    · next hn =>
      rw [List.nodup_append]
      exact ⟨h.nodup, by simp, fun a ha b hb hab => hn (by simp_all)⟩

/-- The map that a list of pairs gives, set one after another. -/
def ofList (pairs : List (Text × Text)) : Headers :=
  pairs.foldl (fun h p => h.set p.1 p.2) empty

/-- The value of the oldest entry whose name is `name` in some letter case. -/
def lookup? (h : Headers) (name : Text) : Option Text :=
  (h.entries.find? fun e => Text.sameIgnoringCase e.1 name).map Prod.snd

/-- The entries in the order of their names. -/
def sorted (h : Headers) : List (Text × Text) :=
  h.entries.mergeSort fun a b => !decide (b.1 < a.1)

end Headers

end Gateway.Http
