import Mathlib.Data.List.Rotate

/-!
# Taking turns

Members of a list take turns: the first has its turn and goes to the end.  After `m` turns the list
has been rotated by `m`, so any stretch of turns is taken from a rotation of the list (`turns_add`),
and a stretch that is as long as the list has every member once, in cyclic order
(`drop_turns_length`).  Of two members, neither is ever more than one turn ahead (`count_turns_le`).

Two things in the gateway go in turns: the picks of a rotation, and the tries of backends that are
all down.
-/

namespace Gateway

variable {α : Type}

/-- The members that have the next `n` turns. -/
def turns : Nat → List α → List α
  | 0, _ => []
  | _ + 1, [] => []
  | n + 1, a :: rest => a :: turns n (rest ++ [a])

@[simp] theorem turns_zero (l : List α) : turns 0 l = [] := rfl

@[simp] theorem turns_nil (n : Nat) : turns n ([] : List α) = [] := by
  cases n <;> rfl

@[simp] theorem turns_succ_cons (n : Nat) (a : α) (rest : List α) :
    turns (n + 1) (a :: rest) = a :: turns n (rest ++ [a]) := rfl

/-- After some turns, the others are taken from the rotated list. -/
theorem turns_add (m n : Nat) (l : List α) :
    turns (m + n) l = turns m l ++ turns n (l.rotate m) := by
  induction m generalizing l with
  | zero => simp
  | succ m ih =>
    cases l with
    | nil => simp
    | cons a rest => rw [Nat.succ_add, turns_succ_cons, turns_succ_cons, ih, List.rotate_cons_succ,
        List.cons_append]

/-- A list with a member never runs out of turns. -/
theorem length_turns {l : List α} (h : l ≠ []) (n : Nat) : (turns n l).length = n := by
  induction n generalizing l with
  | zero => rfl
  | succ n ih =>
    cases l with
    | nil => exact absurd rfl h
    | cons a rest => rw [turns_succ_cons, List.length_cons, ih (by simp)]

theorem mem_of_mem_turns {l : List α} {a : α} {n : Nat} (h : a ∈ turns n l) : a ∈ l := by
  induction n generalizing l with
  | zero => cases h
  | succ n ih =>
    cases l with
    | nil => cases h
    | cons b rest =>
      rcases List.mem_cons.mp h with rfl | h
      · exact List.mem_cons_self
      · simpa [or_comm] using ih h

/-- The first turns are those of the first members. -/
theorem turns_length_append (l more : List α) : turns l.length (l ++ more) = l := by
  induction l generalizing more with
  | nil => rfl
  | cons a rest ih =>
    rw [List.length_cons, List.cons_append, turns_succ_cons, List.append_assoc, ih]

/-- As many turns as there are members are one of each, in order. -/
theorem turns_length (l : List α) : turns l.length l = l := by
  simpa using turns_length_append l []

theorem turns_of_le {l : List α} {n : Nat} (h : n ≤ l.length) : turns n l = l.take n := by
  have hfirst := turns_length_append (l.take n) (l.drop n)
  rwa [List.take_append_drop, List.length_take, Nat.min_eq_left h] at hfirst

/-- The turns after the first `m`. -/
theorem drop_turns (m n : Nat) (l : List α) : (turns (m + n) l).drop m = turns n (l.rotate m) := by
  cases l with
  | nil => simp
  | cons a rest =>
    rw [turns_add, List.drop_left' (length_turns (List.cons_ne_nil a rest) m)]

/-- After any turns, as many as there are members are one of each, in cyclic order. -/
theorem drop_turns_length (m : Nat) (l : List α) :
    (turns (m + l.length) l).drop m = l.rotate m := by
  rw [drop_turns, ← List.length_rotate l m, turns_length]

theorem take_turns {m n : Nat} (h : m ≤ n) (l : List α) : (turns n l).take m = turns m l := by
  cases l with
  | nil => simp
  | cons a rest =>
    have hsplit := turns_add m (n - m) (a :: rest)
    rw [Nat.add_sub_of_le h] at hsplit
    rw [hsplit, List.take_left' (length_turns (List.cons_ne_nil a rest) m)]

/-- The first of the next turns is that of the first member. -/
theorem head?_turns {n : Nat} (h : 0 < n) (l : List α) : (turns n l).head? = l.head? := by
  cases n with
  | zero => exact absurd h (Nat.lt_irrefl 0)
  | succ n => cases l <;> rfl

/-- Each member has its turn again after as many turns as there are members. -/
theorem getElem?_turns {l : List α} {n k : Nat} (h : k < n) :
    (turns n l)[k]? = l[k % l.length]? := by
  by_cases hne : l = []
  · simp [hne]
  have hlt := Nat.mod_lt k (List.length_pos_iff.mpr hne)
  calc (turns n l)[k]?
      = ((turns n l).drop k).head? := by rw [List.head?_drop]
    _ = (turns (n - k) (l.rotate k)).head? := by
        rw [← drop_turns, Nat.add_sub_of_le (Nat.le_of_lt h)]
    _ = (l.rotate (k % l.length)).head? := by
        rw [head?_turns (Nat.sub_pos_of_lt h), List.rotate_mod]
    _ = l[k % l.length]? := List.head?_rotate hlt

/-- Of two members, neither is ever more than one turn ahead. -/
theorem count_turns_le [DecidableEq α] {l : List α} (h : l.Nodup) {a b : α} (hb : b ∈ l) (n : Nat) :
    (turns n l).count a ≤ (turns n l).count b + 1 := by
  induction n using Nat.strongRecOn with
  | ind n ih =>
    rcases Nat.lt_or_ge n l.length with hlt | hge
    · -- in less than one round, none has two turns
      rw [turns_of_le (Nat.le_of_lt hlt)]
      have hone := List.nodup_iff_count_le_one.mp (h.sublist (List.take_sublist n l)) a
      omega
    · -- the first round has one turn of each
      have hpos := List.length_pos_of_mem hb
      have hrest := ih (n - l.length) (by omega)
      have hround : turns n l = l ++ turns (n - l.length) l := by
        have hsplit := turns_add l.length (n - l.length) l
        rwa [Nat.add_sub_of_le hge, turns_length, List.rotate_length] at hsplit
      have ha := List.nodup_iff_count_le_one.mp h a
      have hb' := List.count_eq_one_of_mem h hb
      rw [hround, List.count_append, List.count_append]
      omega

end Gateway
