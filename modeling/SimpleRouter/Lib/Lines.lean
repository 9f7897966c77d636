import Mathlib.Tactic

/-!
# Lines and words

A text is a list of cells over any type `α`; some cells end a line (`isEnd`), some separate words
(`isSep`).

* `lines` — the lines, each with the cell that ends it; the last one may have none.
* `readLine n` — one read into a buffer of `n` cells: up to and including the end of the line, at
  most `n` cells. `reads n` — what reading again and again returns.
* `words` — the maximal runs without a separator.

No line is cut if each fits into the buffer (`reads_eq_lines`).
-/

namespace Lines

variable {α : Type*}

/-! ### Lines -/

/-- A cell before the first of some pieces. -/
def glue (c : α) : List (List α) → List (List α)
  | [] => [[c]]
  | l :: ls => (c :: l) :: ls

/-- The lines of a text, each with its end. -/
def lines (isEnd : α → Bool) : List α → List (List α)
  | [] => []
  | c :: s => if isEnd c then [c] :: lines isEnd s else glue c (lines isEnd s)

/-- What one read of at most `n` cells returns, and what it leaves. -/
def readLine (isEnd : α → Bool) : ℕ → List α → List α × List α
  | 0, s => ([], s)
  | _ + 1, [] => ([], [])
  | n + 1, c :: s =>
      if isEnd c then ([c], s) else (c :: (readLine isEnd n s).1, (readLine isEnd n s).2)

variable {isEnd : α → Bool} {n : ℕ}

/-- A read takes nothing back. -/
theorem length_readLine_le (s : List α) : (readLine isEnd n s).2.length ≤ s.length := by
  induction s generalizing n with
  | nil => cases n <;> rfl
  | cons c s ih =>
      cases n with
      | zero => rfl
      | succ n =>
          rw [readLine]
          split
          · exact Nat.le_succ _
          · exact (ih (n := n)).trans (Nat.le_succ _)

/-- A read of a text that is not at its end takes something. -/
theorem length_readLine_lt (c : α) (s : List α) :
    (readLine isEnd (n + 1) (c :: s)).2.length < (c :: s).length := by
  rw [readLine]
  split
  · exact Nat.lt_succ_self _
  · exact Nat.lt_succ_of_le (length_readLine_le s)

/-- The reads of at most `n + 1` cells up to the end of the text. -/
def reads (isEnd : α → Bool) (n : ℕ) : List α → List (List α)
  | [] => []
  | c :: s =>
      (readLine isEnd (n + 1) (c :: s)).1 :: reads isEnd n (readLine isEnd (n + 1) (c :: s)).2
termination_by s => s.length
decreasing_by exact length_readLine_lt c s

theorem flatten_glue (c : α) (ls : List (List α)) : (glue c ls).flatten = c :: ls.flatten := by
  cases ls <;> rfl

/-- The lines are the text. -/
@[simp] theorem flatten_lines (isEnd : α → Bool) (s : List α) : (lines isEnd s).flatten = s := by
  induction s with
  | nil => rfl
  | cons c s ih =>
      rw [lines]
      split
      · rw [List.flatten_cons, ih, List.singleton_append]
      · rw [flatten_glue, ih]

/-- What a line holds is in the text. -/
theorem mem_of_mem_lines {s l : List α} {c : α} (hl : l ∈ lines isEnd s) (hc : c ∈ l) : c ∈ s := by
  rw [← flatten_lines isEnd s]
  exact List.mem_flatten.mpr ⟨l, hl, hc⟩

/-- The first line starts with the first cell. -/
theorem lines_cons (isEnd : α → Bool) (c : α) (s : List α) :
    ∃ l ls, lines isEnd (c :: s) = (c :: l) :: ls := by
  rw [lines]
  split
  · exact ⟨[], _, rfl⟩
  · cases lines isEnd s with
    | nil => exact ⟨[], [], rfl⟩
    | cons l ls => exact ⟨l, ls, rfl⟩

/-- A read returns the first line if there is room for it. -/
theorem lines_eq_readLine {s : List α} (hs : s ≠ [])
    (hroom : ∀ l ∈ (lines isEnd s).head?, l.length ≤ n) :
    lines isEnd s = (readLine isEnd n s).1 :: lines isEnd (readLine isEnd n s).2 := by
  induction s generalizing n with
  | nil => exact absurd rfl hs
  | cons c s ih =>
      cases n with
      | zero =>
          -- the first line has a cell
          obtain ⟨l, ls, hcons⟩ := lines_cons isEnd c s
          rw [hcons] at hroom
          exact absurd (hroom (c :: l) rfl) (Nat.not_succ_le_zero _)
      | succ n =>
          rw [lines] at hroom ⊢
          cases hc : isEnd c with
          | true => rw [if_pos rfl, readLine, hc, if_pos rfl]
          | false =>
              rw [hc, if_neg Bool.false_ne_true] at hroom
              rw [if_neg Bool.false_ne_true, readLine, hc, if_neg Bool.false_ne_true]
              cases s with
              | nil => cases n <;> rfl
              | cons d s =>
                  obtain ⟨l, ls, hcons⟩ := lines_cons isEnd d s
                  rw [hcons] at hroom
                  have hfirst : ∀ l' ∈ (lines isEnd (d :: s)).head?, l'.length ≤ n := by
                    rintro l' hl'
                    rw [hcons, List.head?_cons, Option.mem_some_iff] at hl'
                    obtain rfl := hl'
                    exact Nat.le_of_succ_le_succ (hroom _ rfl)
                  rw [ih (List.cons_ne_nil d s) hfirst, glue]

/-- **No line is cut** if each fits into the buffer. -/
theorem reads_eq_lines {s : List α} (h : ∀ l ∈ lines isEnd s, l.length ≤ n + 1) :
    reads isEnd n s = lines isEnd s := by
  induction s using reads.induct isEnd n with
  | case1 => rw [reads, lines]
  | case2 c s ih =>
      have hsplit := lines_eq_readLine (List.cons_ne_nil c s)
        fun l hl => h l (List.mem_of_mem_head? hl)
      rw [hsplit, List.forall_mem_cons] at h
      rw [reads, ih h.2, ← hsplit]

/-! ### Words -/

/-- The words of a line. -/
def words (isSep : α → Bool) (l : List α) : List (List α) :=
  (l.splitOnP isSep).filter fun w => !w.isEmpty

/-- What a word holds is in the line. -/
theorem mem_of_mem_words {isSep : α → Bool} {l w : List α} {c : α} (hw : w ∈ words isSep l)
    (hc : c ∈ w) : c ∈ l := by
  replace hw := (List.mem_filter.mp hw).1
  induction l generalizing w with
  | nil =>
      rw [List.splitOnP_nil, List.mem_singleton] at hw
      exact absurd (hw ▸ hc) List.not_mem_nil
  | cons a l ih =>
      rw [List.splitOnP_cons_eq_if_modifyHead] at hw
      split at hw
      · rcases List.mem_cons.mp hw with rfl | hw
        · exact absurd hc List.not_mem_nil
        · exact List.mem_cons_of_mem _ (ih hc hw)
      · cases hparts : l.splitOnP isSep with
        | nil => exact absurd hparts (List.splitOnP_ne_nil isSep l)
        | cons part parts =>
            rw [hparts, List.modifyHead_cons] at hw
            rcases List.mem_cons.mp hw with rfl | hw
            · rcases List.mem_cons.mp hc with rfl | hc
              · exact List.mem_cons_self
              · exact List.mem_cons_of_mem _ (ih hc (hparts ▸ List.mem_cons_self))
            · exact List.mem_cons_of_mem _ (ih hc (hparts ▸ List.mem_cons_of_mem _ hw))

end Lines
