import SimpleRouter.Lib.Buffer

/-!
# Ones' complement sums of 16-bit words

The arithmetic of the Internet checksum, apart from any program that computes it.

* `words b` — the big-endian 16-bit words of a byte string, an odd last byte padded by zero.
* `add`, `sum` — addition with end-around carry, and the sum of a list of words under it.
* `residue n` — the residue of `n` modulo `0xffff` in `{1, …, 0xffff}`, except that `0` stays `0`:
  ones' complement has two zeros, and a sum is the positive one only if every term is.
  `sum_eq_residue` says that a list of words adds up to the `residue` of its plain sum, and
  `residue_carry` that folding the carries of a wide accumulator does not change `residue`.
* `Valid b` — the words of `b`, the checksum field among them, add up to `0xffff`.
* `check n` — the field that completes a plain sum `n` to a valid one: the complement, with `0`
  replaced by `0xffff` (`valid_put_check`).
-/

namespace OnesComplement

open Buffer

/-- The big-endian 16-bit words of a byte string. -/
def words : List UInt8 → List ℕ
  | hi :: lo :: rest => (hi.toNat * 256 + lo.toNat) :: words rest
  | [hi] => [hi.toNat * 256]
  | [] => []

/-- Addition with end-around carry. -/
def add (a b : ℕ) : ℕ := if a + b < 65536 then a + b else a + b - 65535

/-- The ones' complement sum of a list of words. -/
def sum (ws : List ℕ) : ℕ := ws.foldl add 0

/-- The representative of `n` modulo `0xffff` in `{1, …, 0xffff}`; `0` stays `0`. -/
def residue (n : ℕ) : ℕ := if n = 0 then 0 else (n - 1) % 65535 + 1

/-- The value of a checksum field that completes the plain sum `n`. -/
def check (n : ℕ) : ℕ := if residue n = 65535 then 65535 else 65535 - residue n

/-- The words of `b`, checksum field included, add up to `0xffff`. -/
def Valid (b : List UInt8) : Prop := sum (words b) = 65535

instance (b : List UInt8) : Decidable (Valid b) := inferInstanceAs (Decidable (_ = _))

/-! ### The residue -/

/-- A residue is a word. -/
theorem residue_lt (n : ℕ) : residue n < 65536 := by
  unfold residue
  split_ifs <;> omega

/-- A word is its own residue. -/
theorem residue_of_lt {n : ℕ} (h : n < 65536) : residue n = n := by
  unfold residue
  split_ifs <;> omega

/-- The end-around sum is the residue of the sum. -/
theorem add_residue (n : ℕ) {w : ℕ} (hw : w < 65536) : add (residue n) w = residue (n + w) := by
  unfold add residue
  split_ifs <;> omega

/-- Folding the carries of an accumulator into its low half keeps the residue. -/
theorem residue_carry (n : ℕ) : residue (n / 65536 + n % 65536) = residue n := by
  unfold residue
  split_ifs <;> omega

/-- The residue is all ones exactly for the positive multiples of `65535`. -/
theorem residue_eq_iff {n : ℕ} : residue n = 65535 ↔ 0 < n ∧ n % 65535 = 0 := by
  unfold residue
  split_ifs with h
  · subst h
    simp
  · constructor
    · intro hn
      omega
    · rintro ⟨_, hn⟩
      omega

/-- `check n` completes `n`. -/
theorem residue_add_check (n : ℕ) : residue (n + check n) = 65535 := by
  rw [residue_eq_iff]
  unfold check residue
  split_ifs <;> omega

/-- The completing value depends on the residue modulo `0xffff` alone. -/
theorem check_eq_check_iff {m n : ℕ} : check m = check n ↔ m % 65535 = n % 65535 := by
  unfold check residue
  split_ifs <;> omega

/-- A word completes `n` exactly if it is `check n`, or zero where nothing is missing. -/
theorem residue_add_iff {n w : ℕ} (hw : w < 65536) :
    residue (n + w) = 65535 ↔ w = check n ∨ (w = 0 ∧ residue n = 65535) := by
  have hlt := residue_lt n
  have hsum := add_residue n hw
  unfold add at hsum
  unfold check
  by_cases hr : residue n = 65535
  · rw [if_pos hr]
    split_ifs at hsum <;> omega
  · rw [if_neg hr]
    split_ifs at hsum <;> omega

/-- The completing value is not zero. -/
theorem check_ne_zero (n : ℕ) : check n ≠ 0 := by
  have hlt := residue_lt n
  unfold check
  split_ifs <;> omega

/-- A word that completes `n` is the completing value of `n + s` exactly if it is not zero and `s`
adds nothing modulo `0xffff`. -/
theorem eq_check_add_iff {n w : ℕ} (hw : w < 65536) (h : residue (n + w) = 65535) (s : ℕ) :
    w = check (n + s) ↔ w ≠ 0 ∧ s % 65535 = 0 := by
  rcases (residue_add_iff hw).mp h with rfl | ⟨rfl, -⟩
  · rw [check_eq_check_iff, and_iff_right (check_ne_zero n)]
    omega
  · exact iff_of_false (check_ne_zero (n + s)).symm fun h => h.1 rfl

/-! ### Sums of words -/

/-- The words of a byte string are words. -/
theorem words_lt : ∀ (b : List UInt8), ∀ w ∈ words b, w < 65536
  | hi :: lo :: rest, w, h => by
      rcases List.mem_cons.mp h with rfl | h'
      · have := hi.toNat_lt
        have := lo.toNat_lt
        omega
      · exact words_lt rest w h'
  | [hi], w, h => by
      have := hi.toNat_lt
      simp only [words, List.mem_singleton] at h
      omega
  | [], w, h => by simp [words] at h

/-- From any residue on, adding words with end-around carry is adding them plainly. -/
theorem foldl_add_residue (ws : List ℕ) (h : ∀ w ∈ ws, w < 65536) (n : ℕ) :
    ws.foldl add (residue n) = residue (n + ws.sum) := by
  induction ws generalizing n with
  | nil => simp
  | cons w ws ih =>
      rw [List.foldl_cons, add_residue n (h w List.mem_cons_self),
        ih (fun v hv => h v (List.mem_cons_of_mem _ hv)), List.sum_cons, Nat.add_assoc]

/-- The one's complement sum is the residue of the sum of the words. -/
theorem sum_eq_residue (b : List UInt8) : sum (words b) = residue (words b).sum := by
  have h := foldl_add_residue (words b) (words_lt b) 0
  simpa [sum, residue] using h

/-- A string is valid exactly if that residue is all ones. -/
theorem valid_iff (b : List UInt8) : Valid b ↔ residue (words b).sum = 65535 := by
  rw [Valid, sum_eq_residue]

/-- The plain sum is below `0xffff` per started word. -/
theorem sum_words_le : ∀ b : List UInt8, (words b).sum ≤ 65535 * ((b.length + 1) / 2)
  | hi :: lo :: rest => by
      have := sum_words_le rest
      have := hi.toNat_lt
      have := lo.toNat_lt
      simp only [words, List.sum_cons, List.length_cons]
      omega
  | [hi] => by
      have := hi.toNat_lt
      simp only [words, List.sum_cons, List.sum_nil, List.length_singleton]
      omega
  | [] => by simp [words]

/-- After an even number of bytes the words of the rest are the same. -/
theorem words_append : ∀ {a : List UInt8} (b : List UInt8), a.length % 2 = 0 →
    words (a ++ b) = words a ++ words b
  | [], _, _ => by simp [words]
  | [_], _, h => by simp at h
  | hi :: lo :: rest, b, h => by
      have hr : rest.length % 2 = 0 := by simp only [List.length_cons] at h; omega
      simp [words, words_append b hr]

/-- The plain sum of two parts: behind an odd number of bytes the second begins with a low byte. -/
theorem sum_words_append : ∀ a b : List UInt8,
    (words (a ++ b)).sum = (words a).sum + (words (if a.length % 2 = 0 then b else 0 :: b)).sum
  | [], b => by simp [words]
  | [x], [] => by simp [words]
  | [x], y :: b => by simp [words]; omega
  | x :: y :: a, b => by
      have hlen : (x :: y :: a).length % 2 = a.length % 2 := by
        simp only [List.length_cons]
        omega
      rw [hlen, List.cons_append, List.cons_append, words, words, List.sum_cons, List.sum_cons,
        sum_words_append a b, ← Nat.add_assoc]

/-- Overwriting a zero word at an even offset adds the new word to the plain sum. -/
theorem sum_words_put {b : List UInt8} {o : ℕ} (hi lo : UInt8) (heven : o % 2 = 0)
    (ho : o + 2 ≤ b.length) :
    (words (put b o [hi, lo])).sum =
      (words (put b o [0, 0])).sum + (hi.toNat * 256 + lo.toNat) := by
  have hlen : (b.take o).length % 2 = 0 := by rw [List.length_take]; omega
  rw [put_eq_append (by simpa using ho), put_eq_append (by simpa using ho), List.append_assoc,
    List.append_assoc, words_append _ hlen, words_append _ hlen]
  simp only [List.cons_append, List.nil_append, words, List.sum_append, List.sum_cons,
    UInt8.toNat_ofNat, List.length_cons, List.length_nil]
  omega

/-- Replacing a word at an even offset replaces its share of the plain sum. -/
theorem sum_words_replace {b : List UInt8} {o : ℕ} {a c : UInt8} (hi lo : UInt8)
    (heven : o % 2 = 0) (ho : o + 2 ≤ b.length) (h : slice b o 2 = [a, c]) :
    (words (put b o [hi, lo])).sum + (a.toNat * 256 + c.toNat) =
      (words b).sum + (hi.toNat * 256 + lo.toNat) := by
  have hself : (words b).sum =
      (words (put b o [0, 0])).sum + (a.toNat * 256 + c.toNat) := by
    rw [← sum_words_put a c heven ho, ← h, put_slice_self]
  rw [sum_words_put hi lo heven ho, hself]
  omega

/-- The plain sum of a window: that of the window with a zero word in it, and the word. -/
theorem sum_words_slice {b : List UInt8} {i n o : ℕ} {hi lo : UInt8} (hio : i ≤ o)
    (heven : (o - i) % 2 = 0) (hn : o + 2 ≤ i + n) (hb : o + 2 ≤ b.length)
    (h : slice b o 2 = [hi, lo]) :
    (words (slice b i n)).sum =
      (words (slice (put b o [0, 0]) i n)).sum + (hi.toNat * 256 + lo.toNat) := by
  have hzero : slice (put b o [0, 0]) i n = put (slice b i n) (o - i) [0, 0] :=
    slice_put_of_subset hio (by rw [List.length_cons, List.length_singleton]; omega)
  have hword : slice (slice b i n) (o - i) 2 = [hi, lo] := by
    rw [slice_slice (by omega), Nat.add_sub_cancel' hio, h]
  have hself : put (slice b i n) (o - i) [hi, lo] = slice b i n := by
    rw [← hword]
    exact put_slice_self
  calc (words (slice b i n)).sum = (words (put (slice b i n) (o - i) [hi, lo])).sum := by rw [hself]
    _ = _ := by
      rw [hzero]
      exact sum_words_put hi lo heven (by rw [length_slice]; omega)

/-- **Storing the completing field makes a byte string valid.** `b` with zero in the field at
`o`, then with the field set to the two bytes of `check`. -/
theorem valid_put_check {b : List UInt8} {o : ℕ} {hi lo : UInt8} (heven : o % 2 = 0)
    (ho : o + 2 ≤ b.length)
    (h : hi.toNat * 256 + lo.toNat = check (words (put b o [0, 0])).sum) :
    Valid (put b o [hi, lo]) := by
  rw [valid_iff, sum_words_put hi lo heven ho, h]
  exact residue_add_check _

end OnesComplement
