import Mathlib.Data.List.TakeDrop
import Mathlib.Tactic

/-!
# Files of records

A file is a list of records behind each other. A format says how one record is written, and how
the one in front is read; a part of a record is not read as one.

* `Format.readAll`, `Format.read` — reading to the end: the records, and what is left.
* `Format.whole` — the records that are whole in the first `k` bytes.
* `read_take` — **a file cut off anywhere is read as the records that are whole**.
-/

namespace Records

/-- A format of records. -/
structure Format (α ρ : Type) where
  /-- A record, written. -/
  enc : ρ → List α
  /-- The record in front, and what is behind it. -/
  next : List α → Option (ρ × List α)
  /-- The records there are. -/
  Ok : ρ → Prop
  /-- What is written is read. -/
  next_enc : ∀ {r}, Ok r → ∀ b, next (enc r ++ b) = some (r, b)
  /-- A part of a record is not one. -/
  next_part : ∀ {r}, Ok r → ∀ {k}, k < (enc r).length → next ((enc r).take k) = none
  /-- There is no record in an empty file. -/
  next_nil : next [] = none

namespace Format

variable {α ρ : Type} (F : Format α ρ)

/-- Read at most `n` records. -/
def readAll : ℕ → List α → List ρ × List α
  | 0, b => ([], b)
  | n + 1, b =>
      match F.next b with
      | none => ([], b)
      | some (r, rest) => (r :: (readAll n rest).1, (readAll n rest).2)

/-- Read all there is: no record is empty. -/
def read (b : List α) : List ρ × List α := F.readAll b.length b

/-- The records that are whole in the first `k` bytes. -/
def whole : ℕ → List ρ → List ρ
  | _, [] => []
  | k, r :: rs => if (F.enc r).length ≤ k then r :: whole (k - (F.enc r).length) rs else []

variable {F} {r : ρ} {rs : List ρ} {n k : ℕ}

/-- A record takes bytes. -/
theorem length_enc_pos (h : F.Ok r) : 0 < (F.enc r).length := by
  by_contra hzero
  have hnil : F.enc r = [] := List.length_eq_zero_iff.mp (Nat.eq_zero_of_not_pos hzero)
  have hnext := F.next_enc h []
  rw [hnil, List.append_nil, F.next_nil] at hnext
  cases hnext

/-- Enough bytes hold all records. -/
theorem whole_of_le (h : (rs.flatMap F.enc).length ≤ k) : F.whole k rs = rs := by
  induction rs generalizing k with
  | nil => rfl
  | cons r rs ih =>
      rw [List.flatMap_cons, List.length_append] at h
      rw [whole, if_pos (by omega), ih (by omega)]

/-- There are no more whole records than bytes. -/
theorem length_whole_le (h : ∀ r ∈ rs, F.Ok r) :
    (F.whole k rs).length ≤ ((rs.flatMap F.enc).take k).length := by
  induction rs generalizing k with
  | nil => exact Nat.zero_le _
  | cons r rs ih =>
      obtain ⟨hr, hrs⟩ := List.forall_mem_cons.mp h
      have hpos := length_enc_pos hr
      unfold whole
      split_ifs with hk
      · have hrest := ih (k := k - (F.enc r).length) hrs
        simp only [List.length_take, List.flatMap_cons, List.length_append, List.length_cons] at *
        omega
      · exact Nat.zero_le _

/-- **A file cut off anywhere**: the records that are whole are read, and the part behind them is
left. -/
theorem readAll_take (h : ∀ r ∈ rs, F.Ok r) (hn : (F.whole k rs).length ≤ n) :
    F.readAll n ((rs.flatMap F.enc).take k) =
      (F.whole k rs, ((rs.flatMap F.enc).take k).drop ((F.whole k rs).flatMap F.enc).length) := by
  induction rs generalizing n k with
  | nil =>
      cases n with
      | zero => simp [readAll, whole]
      | succ n => simp [readAll, whole, F.next_nil]
  | cons r rs ih =>
      obtain ⟨hr, hrs⟩ := List.forall_mem_cons.mp h
      rw [List.flatMap_cons]
      by_cases hk : (F.enc r).length ≤ k
      · rw [whole, if_pos hk] at hn ⊢
        obtain ⟨n, rfl⟩ := Nat.exists_eq_succ_of_ne_zero (Nat.ne_zero_of_lt hn)
        rw [List.take_append, List.take_of_length_le hk, readAll, F.next_enc hr]
        dsimp only
        rw [ih hrs (Nat.le_of_succ_le_succ hn), List.flatMap_cons, List.length_append,
          ← List.drop_drop, List.drop_left]
      · rw [whole, if_neg hk]
        have hpart : (F.enc r ++ rs.flatMap F.enc).take k = (F.enc r).take k :=
          List.take_append_of_le_length (not_le.mp hk).le
        rw [hpart]
        cases n with
        | zero => rfl
        | succ n =>
            rw [readAll, F.next_part hr (not_le.mp hk)]
            rfl

/-- Of records that are cut off, those that are whole are read, and the torn one is left. -/
theorem read_take (h : ∀ r ∈ rs, F.Ok r) (k : ℕ) :
    F.read ((rs.flatMap F.enc).take k) =
      (F.whole k rs, ((rs.flatMap F.enc).take k).drop ((F.whole k rs).flatMap F.enc).length) :=
  readAll_take h (length_whole_le h)

end Format

end Records
