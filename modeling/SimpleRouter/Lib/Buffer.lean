import Mathlib.Data.List.Basic
import Mathlib.Tactic

/-!
# Fixed-size buffers

A buffer is a list of cells over any type `α`; its length is the size it was allocated with, and
no operation changes it.

* `put b o s` — copy the cells `s` into `b` from offset `o` on (`memcpy` into an object); what
  falls past the end of `b` is not written, so `length_put` needs no hypothesis.
* `slice b o n` — the cells `[o, o + n)` of `b`, fewer if `b` ends before.
* `load b after o n` — exactly `n` cells from `o` on, where the cells past the end of `b` are read
  from `after`, whatever memory holds there (`load_eq_slice`: inside `b` it is `slice`).

The laws are the ones a proof about a sequence of writes needs: a read of a window a write does
not touch (`slice_put_of_disjoint`), of the window just written (`slice_put_same`), of a window
that contains the write (`slice_put_of_subset`), and the cell-by-cell reading (`getElem?_put`).
-/

namespace Buffer

variable {α : Type*}

/-- Copy `s` into `b` from offset `o` on; cells past the end of `b` are dropped. -/
def put : List α → ℕ → List α → List α
  | [], _, _ => []
  | b :: bs, 0, [] => b :: bs
  | _ :: bs, 0, s :: ss => s :: put bs 0 ss
  | b :: bs, o + 1, s => b :: put bs o s

/-- The cells `[o, o + n)` of `b`. -/
def slice (b : List α) (o n : ℕ) : List α := (b.drop o).take n

/-- `n` cells from `o` on; the cells past the end of `b` come from `after`. -/
def load (b : List α) (after : ℕ → α) (o n : ℕ) : List α :=
  (List.range' o n).map fun i => b.getD i (after i)

/-! ### Sizes -/

/-- Writing keeps the length. -/
@[simp] theorem length_put (b : List α) (o : ℕ) (s : List α) : (put b o s).length = b.length := by
  induction b, o, s using put.induct <;> simp_all [put]

/-- A window is cut off at the end of the buffer. -/
@[simp] theorem length_slice (b : List α) (o n : ℕ) :
    (slice b o n).length = min n (b.length - o) := by
  simp [slice]

/-- A read has its whole length, whatever is behind the buffer. -/
@[simp] theorem length_load (b : List α) (after : ℕ → α) (o n : ℕ) :
    (load b after o n).length = n := by
  simp [load]

/-! ### Cell by cell -/

/-- A cell after a write: the new content inside the written window, the old one elsewhere. -/
theorem getElem?_put (b : List α) (o : ℕ) (s : List α) (i : ℕ) :
    (put b o s)[i]? = if o ≤ i ∧ i < o + s.length ∧ i < b.length then s[i - o]? else b[i]? := by
  induction b, o, s using put.induct generalizing i with
  | case1 o s => simp [put]
  | case2 b bs => simp [put]
  | case3 b bs s ss ih =>
      cases i with
      | zero => simp [put]
      | succ i => simp [put, ih]
  | case4 b bs o s ih =>
      cases i with
      | zero => simp [put]
      | succ i =>
          simp only [put, List.getElem?_cons_succ, ih, List.length_cons]
          congr 1
          · simp only [eq_iff_iff]; omega
          · rw [Nat.add_sub_add_right]

/-- The elements of a window. -/
theorem getElem?_slice (b : List α) (o n i : ℕ) :
    (slice b o n)[i]? = if i < n then b[o + i]? else none := by
  simp [slice, List.getElem?_take, List.getElem?_drop]

/-- The first cell of a window. -/
theorem getElem?_slice_zero {b : List α} {o n : ℕ} (h : 0 < n) : (slice b o n)[0]? = b[o]? := by
  rw [getElem?_slice, if_pos h, Nat.add_zero]

/-- What is outside of a write stays. -/
theorem getElem?_put_of_outside {b s : List α} {o i : ℕ} (h : i < o ∨ o + s.length ≤ i) :
    (put b o s)[i]? = b[i]? := by
  rw [getElem?_put, if_neg (by omega)]

/-! ### Windows -/

/-- Buffers with the same cells in a window have the same window. -/
theorem slice_congr {a b : List α} {o n : ℕ} (h : ∀ i, o ≤ i → i < o + n → a[i]? = b[i]?) :
    slice a o n = slice b o n := by
  apply List.ext_getElem?
  intro j
  rw [getElem?_slice, getElem?_slice]
  split_ifs with hj
  · exact h (o + j) (Nat.le_add_right o j) (Nat.add_lt_add_left hj o)
  · rfl

/-- Buffers with the same cells from an offset on end in the same bytes. -/
theorem drop_congr {a b : List α} {o : ℕ} (h : ∀ i, o ≤ i → a[i]? = b[i]?) :
    a.drop o = b.drop o := by
  apply List.ext_getElem?
  intro j
  rw [List.getElem?_drop, List.getElem?_drop]
  exact h (o + j) (Nat.le_add_right o j)

/-- A write does not change a window it does not touch. -/
theorem slice_put_of_disjoint {b s : List α} {o i n : ℕ} (h : i + n ≤ o ∨ o + s.length ≤ i) :
    slice (put b o s) i n = slice b i n := by
  apply List.ext_getElem?
  intro j
  simp only [getElem?_slice]
  split_ifs with hj
  · exact getElem?_put_of_outside (by omega)
  · rfl

/-- Reading back the window just written. -/
theorem slice_put_same {b s : List α} {o n : ℕ} (hn : s.length = n) (h : o + n ≤ b.length) :
    slice (put b o s) o n = s := by
  subst hn
  apply List.ext_getElem?
  intro j
  rw [getElem?_slice, getElem?_put]
  split_ifs with hj hb
  · rw [Nat.add_sub_cancel_left]
  · omega
  · exact (List.getElem?_eq_none (by omega)).symm

/-- A window that contains the write is the old window with the write in it. -/
theorem slice_put_of_subset {b s : List α} {o i n : ℕ} (hi : i ≤ o) (hn : o + s.length ≤ i + n) :
    slice (put b o s) i n = put (slice b i n) (o - i) s := by
  apply List.ext_getElem?
  intro j
  simp only [getElem?_slice, getElem?_put, length_slice]
  by_cases hj : j < n
  · rw [if_pos hj, if_pos hj, show i + j - o = j - (o - i) by omega]
    refine if_congr ?_ rfl rfl
    omega
  · rw [if_neg hj, if_neg hj, if_neg (by omega)]

/-- A window of a window. -/
theorem slice_slice {b : List α} {o n i m : ℕ} (h : i + m ≤ n) :
    slice (slice b o n) i m = slice b (o + i) m := by
  apply List.ext_getElem?
  intro j
  rw [getElem?_slice, getElem?_slice, getElem?_slice]
  by_cases hj : j < m
  · rw [if_pos hj, if_pos hj, if_pos (by omega), Nat.add_assoc]
  · rw [if_neg hj, if_neg hj]

/-- Reading back a part of the window just written. -/
theorem slice_put_inside {b s : List α} {o i n : ℕ} (hi : o ≤ i) (hn : i + n ≤ o + s.length)
    (h : o + s.length ≤ b.length) : slice (put b o s) i n = slice s (i - o) n := by
  obtain ⟨k, rfl⟩ := Nat.exists_eq_add_of_le hi
  rw [Nat.add_sub_cancel_left, ← slice_slice (by omega : k + n ≤ s.length), slice_put_same rfl h]

/-- A second write over the same window wins. -/
theorem put_put_same {b s t : List α} {o : ℕ} (h : s.length = t.length) :
    put (put b o s) o t = put b o t := by
  apply List.ext_getElem?
  intro i
  simp only [getElem?_put, length_put, h]
  split_ifs <;> rfl

/-- Writes that do not overlap can be exchanged. -/
theorem put_put_comm {b s t : List α} {o u : ℕ} (h : o + s.length ≤ u ∨ u + t.length ≤ o) :
    put (put b o s) u t = put (put b u t) o s := by
  apply List.ext_getElem?
  intro i
  simp only [getElem?_put, length_put]
  split_ifs <;> first | rfl | omega

/-- Writing nothing. -/
@[simp] theorem put_nil (b : List α) (o : ℕ) : put b o [] = b := by
  apply List.ext_getElem?
  intro i
  rw [getElem?_put_of_outside (by simp; omega)]

/-- Two writes, the second where the first ends, are one. -/
theorem put_put_append {b s t : List α} {o : ℕ} :
    put (put b o s) (o + s.length) t = put b o (s ++ t) := by
  apply List.ext_getElem?
  intro i
  simp only [getElem?_put, length_put, List.length_append]
  by_cases hs : i < o + s.length
  · rw [if_neg (by omega)]
    split_ifs with h₁ h₂ h₂
    · rw [List.getElem?_append_left (by omega)]
    · omega
    · omega
    · rfl
  · rw [if_neg (c := o ≤ i ∧ i < o + s.length ∧ i < b.length) (by omega)]
    split_ifs with h₁ h₂ h₂
    · rw [List.getElem?_append_right (by omega), Nat.sub_sub]
    · omega
    · omega
    · rfl

/-- A write that fits splits the buffer in three. -/
theorem put_eq_append {b s : List α} {o : ℕ} (h : o + s.length ≤ b.length) :
    put b o s = b.take o ++ s ++ b.drop (o + s.length) := by
  apply List.ext_getElem?
  intro i
  have ho : (b.take o).length = o := by rw [List.length_take]; omega
  rw [getElem?_put, List.append_assoc]
  by_cases h₁ : i < o
  · rw [if_neg (by omega), List.getElem?_append_left (by omega), List.getElem?_take, if_pos h₁]
  · rw [List.getElem?_append_right (by omega), ho]
    by_cases h₂ : i < o + s.length
    · rw [if_pos (by omega), List.getElem?_append_left (by omega)]
    · rw [if_neg (by omega), List.getElem?_append_right (by omega), List.getElem?_drop]
      congr 1
      omega

/-- A write over the whole buffer replaces it. -/
theorem put_all {b s : List α} (h : s.length = b.length) : put b 0 s = s := by
  rw [put_eq_append (by omega), List.take_zero, List.drop_of_length_le (by omega), List.nil_append,
    List.append_nil]

/-- A write into the middle of three parts. -/
theorem put_append {a s t c : List α} (h : t.length = s.length) :
    put (a ++ s ++ c) a.length t = a ++ t ++ c := by
  rw [put_eq_append (by simp only [List.length_append]; omega)]
  congr 1
  · rw [List.append_assoc, List.take_left]
  · rw [h, ← List.length_append, List.drop_left]

/-- A write into the first of two parts. -/
theorem put_append_left {a c s : List α} {o : ℕ} (h : o + s.length ≤ a.length) :
    put (a ++ c) o s = put a o s ++ c := by
  rw [put_eq_append h, put_eq_append (by rw [List.length_append]; omega),
    List.take_append_of_le_length (by omega), List.drop_append_of_le_length h, List.append_assoc,
    List.append_assoc, List.append_assoc]

/-- A window of the first of two parts. -/
theorem slice_append_left {a c : List α} {o n : ℕ} (h : o + n ≤ a.length) :
    slice (a ++ c) o n = slice a o n := by
  rw [slice, slice, List.drop_append_of_le_length (by omega),
    List.take_append_of_le_length (by rw [List.length_drop]; omega)]

/-- Writing back what was read changes nothing. -/
theorem put_slice_self {b : List α} {o n : ℕ} : put b o (slice b o n) = b := by
  apply List.ext_getElem?
  intro i
  rw [getElem?_put, getElem?_slice, length_slice]
  split_ifs with hi hn
  · congr 1
    omega
  · omega
  · rfl

/-- Inside the buffer a `load` is a `slice`. -/
theorem load_eq_slice {b : List α} {after : ℕ → α} {o n : ℕ} (h : o + n ≤ b.length) :
    load b after o n = slice b o n := by
  apply List.ext_getElem?
  intro i
  rw [getElem?_slice]
  by_cases hi : i < n
  · have hb : o + i < b.length := by omega
    rw [if_pos hi, load, List.getElem?_map, List.getElem?_range' hi]
    simp [List.getElem?_eq_getElem hb]
  · rw [if_neg hi]
    exact List.getElem?_eq_none (by simpa using hi)

/-- A window of what was loaded. -/
theorem slice_load {b : List α} {after : ℕ → α} {k len o n : ℕ} (h : o + n ≤ len) :
    slice (load b after k len) o n = load b after (k + o) n := by
  apply List.ext_getElem?
  intro i
  rw [getElem?_slice]
  by_cases hi : i < n
  · have hlen : o + i < len := by omega
    rw [if_pos hi, load, load, List.getElem?_map, List.getElem?_map, List.getElem?_range' hlen,
      List.getElem?_range' hi, Nat.one_mul, Nat.one_mul, Nat.add_assoc]
  · rw [if_neg hi]
    exact (List.getElem?_eq_none (by simpa using hi)).symm

/-- A `load` of what the buffer is known to go on with. -/
theorem load_of_drop {b s t : List α} {after : ℕ → α} {o n : ℕ} (h : b.drop o = s ++ t)
    (hn : s.length = n) : load b after o n = s := by
  subst hn
  have hlen := congrArg List.length h
  rw [List.length_drop, List.length_append] at hlen
  rcases s with _ | ⟨a, s⟩
  · rfl
  · rw [load_eq_slice, slice, h, List.take_left]
    rw [List.length_cons] at hlen ⊢
    omega

/-- A `load` in two parts. -/
theorem load_add {b : List α} {after : ℕ → α} {o k n : ℕ} :
    load b after o (k + n) = load b after o k ++ load b after (o + k) n := by
  simp only [load, ← List.map_append]
  rw [List.range'_append_1]

/-- A `load` that starts in the buffer and goes up to its end or further. -/
theorem exists_load_eq_append {b : List α} {after : ℕ → α} {o n : ℕ} (ho : o ≤ b.length)
    (hn : b.length ≤ o + n) : ∃ tail, load b after o n = b.drop o ++ tail := by
  obtain ⟨k, rfl⟩ : ∃ k, n = b.length - o + k := ⟨o + n - b.length, by omega⟩
  refine ⟨load b after (o + (b.length - o)) k, load_add.trans ?_⟩
  rw [load_eq_slice (by omega), slice, ← List.length_drop, List.take_length]

/-! ### Pieces -/

/-- Windows of one size, side by side, are the front of the buffer. -/
theorem flatten_slices {b : List α} {k : ℕ} (n : ℕ) :
    ((List.range n).map fun i => slice b (i * k) k).flatten = b.take (n * k) := by
  induction n with
  | zero => simp
  | succ n ih =>
      rw [List.range_succ, List.map_append, List.flatten_append, ih, List.map_singleton,
        List.flatten_singleton, Nat.succ_mul, List.take_add, slice]

/-- Pieces of at most `k` cells hold no more than `k` times their number. -/
theorem length_flatten_le {k : ℕ} {pieces : List (List α)} (h : ∀ p ∈ pieces, p.length ≤ k) :
    pieces.flatten.length ≤ pieces.length * k := by
  induction pieces with
  | nil => simp
  | cons p pieces ih =>
      obtain ⟨hp, hpieces⟩ := List.forall_mem_cons.mp h
      rw [List.flatten_cons, List.length_append, List.length_cons, Nat.succ_mul, Nat.add_comm]
      exact Nat.add_le_add (ih hpieces) hp

end Buffer
