import Mathlib.Tactic

/-!
# Fixed-width fields

The two kinds of field of a message layout: an unsigned number in big-endian byte order, and a
byte string padded with NUL to a width. `pack` and `unpack` are those of a list of field codes, as
of a format string without alignment.

* `be w n`, `beNat b` — the `w` bytes of `n`, high byte first, and the number bytes denote.
* `pad n s` — `s` cut or padded to `n` bytes; `strip s` is `s` without its NULs, and undoes `pad`
  on strings without NUL that fit (`strip_pad`).
* `pack`, `unpack`, `calcsize` — **a format**: what is packed has the size of the format
  (`length_pack`), and unpacks to the values packed, strings padded (`unpack_pack`).
-/

namespace Wire

/-! ### Numbers -/

/-- The `w` low bytes of `n`, high byte first. -/
def be : ℕ → ℕ → List UInt8
  | 0, _ => []
  | w + 1, n => UInt8.ofNat (n / 256 ^ w) :: be w n

/-- The number bytes denote, high byte first. -/
def beNat (b : List UInt8) : ℕ := b.foldl (fun n x => n * 256 + x.toNat) 0

/-- A number is written in as many bytes as it is given. -/
@[simp] theorem length_be (w n : ℕ) : (be w n).length = w := by
  induction w with
  | zero => rfl
  | succ w ih => simp [be, ih]

/-- What is read behind bytes already read. -/
theorem foldl_be (w n m : ℕ) :
    (be w n).foldl (fun n x => n * 256 + x.toNat) m = m * 256 ^ w + n % 256 ^ w := by
  induction w generalizing m with
  | zero => simp [be, Nat.mod_one]
  | succ w ih =>
      have hsplit : n % (256 ^ w * 256) = n % 256 ^ w + 256 ^ w * (n / 256 ^ w % 256) :=
        Nat.mod_mul
      have hbyte : (UInt8.ofNat (n / 256 ^ w)).toNat = n / 256 ^ w % 256 := UInt8.toNat_ofNat'
      rw [be, List.foldl_cons, ih, hbyte, pow_succ, hsplit]
      ring

/-- A number that fits is read back. -/
theorem beNat_be {w n : ℕ} (h : n < 256 ^ w) : beNat (be w n) = n := by
  rw [beNat, foldl_be, zero_mul, zero_add, Nat.mod_eq_of_lt h]

/-- What is above the `w` low bytes does not matter. -/
theorem be_mul_add (w m n : ℕ) : be w (m * 256 ^ w + n) = be w n := by
  induction w generalizing m with
  | zero => rfl
  | succ w ih =>
      have hlow : m * 256 ^ (w + 1) + n = m * 256 * 256 ^ w + n := by
        rw [pow_succ]
        ring
      have hdiv : (m * 256 * 256 ^ w + n) / 256 ^ w = n / 256 ^ w + m * 256 := by
        rw [Nat.add_comm, Nat.add_mul_div_right _ _ (by positivity)]
      rw [hlow, be, be, ih, hdiv]
      congr 1
      rw [← UInt8.toNat_inj, UInt8.toNat_ofNat', UInt8.toNat_ofNat']
      omega

/-- The high bytes come first. -/
theorem be_add (w w' n : ℕ) : be (w + w') n = be w (n / 256 ^ w') ++ be w' n := by
  induction w with
  | zero => rw [Nat.zero_add, be, List.nil_append]
  | succ w ih => rw [Nat.succ_add, be, be, ih, Nat.div_div_eq_div_mul, ← pow_add, Nat.add_comm w',
      List.cons_append]

/-! ### Strings -/

/-- Cut or pad to `n` bytes. -/
def pad (n : ℕ) (s : List UInt8) : List UInt8 := s.take n ++ List.replicate (n - s.length) 0

/-- Without the NULs. -/
def strip (s : List UInt8) : List UInt8 := s.filter (· ≠ 0)

/-- A padded field has its size. -/
@[simp] theorem length_pad (n : ℕ) (s : List UInt8) : (pad n s).length = n := by
  simp only [pad, List.length_append, List.length_take, List.length_replicate]
  omega

/-- A string that fits is followed by zeros. -/
theorem pad_of_le {n : ℕ} {s : List UInt8} (h : s.length ≤ n) :
    pad n s = s ++ List.replicate (n - s.length) 0 := by
  rw [pad, List.take_of_length_le h]

/-- A string shorter than its field has a NUL behind it. -/
theorem pad_of_lt {n : ℕ} {s : List UInt8} (h : s.length < n) :
    pad n s = s ++ 0 :: List.replicate (n - s.length - 1) 0 := by
  rw [pad_of_le h.le, ← List.replicate_succ, Nat.sub_add_cancel (Nat.sub_pos_of_lt h)]

/-- A string without zeros is left as it is. -/
theorem strip_eq_self {s : List UInt8} (h : 0 ∉ s) : strip s = s := by
  refine List.filter_eq_self.mpr fun a ha => ?_
  simp only [decide_not, Bool.not_eq_eq_eq_not, Bool.not_true, decide_eq_false_iff_not]
  rintro rfl
  exact h ha

/-- Padding is what stripping removes. -/
theorem strip_pad {n : ℕ} {s : List UInt8} (h : 0 ∉ s) (hlen : s.length ≤ n) :
    strip (pad n s) = s := by
  rw [pad_of_le hlen, strip, List.filter_append]
  rw [show s.filter (· ≠ 0) = s from strip_eq_self h]
  simp

/-! ### Formats -/

/-- A field of a format. -/
inductive Code where
  /-- An unsigned number of `w` bytes. -/
  | num (w : ℕ)
  /-- A string of `n` bytes. -/
  | str (n : ℕ)

/-- A value for a field. -/
inductive Value where
  /-- A number. -/
  | num (n : ℤ)
  /-- A string. -/
  | str (s : List UInt8)
deriving DecidableEq

/-- The width of a field. -/
def Code.size : Code → ℕ
  | .num w => w
  | .str n => n

/-- The size of a format. -/
def calcsize (fmt : List Code) : ℕ := (fmt.map Code.size).sum

/-- The bytes of one field; a number that does not fit is an error, a string is cut or padded. -/
def packField : Code → Value → Option (List UInt8)
  | .num w, .num n => if 0 ≤ n ∧ n < 256 ^ w then some (be w n.toNat) else none
  | .str n, .str s => some (pad n s)
  | _, _ => none

/-- The bytes of a list of values; there is one for each field. -/
def pack : List Code → List Value → Option (List UInt8)
  | [], [] => some []
  | c :: fmt, v :: vs => do
      let b ← packField c v
      let bs ← pack fmt vs
      some (b ++ bs)
  | _, _ => none

/-- The value in a field. -/
def unpackField : Code → List UInt8 → Value
  | .num _, b => .num (beNat b)
  | .str _, b => .str b

/-- The values in the fields, one after the other. -/
def unpackFields : List Code → List UInt8 → List Value
  | [], _ => []
  | c :: fmt, b => unpackField c (b.take c.size) :: unpackFields fmt (b.drop c.size)

/-- The values of a byte string of the size of the format. -/
def unpack (fmt : List Code) (b : List UInt8) : Option (List Value) :=
  if b.length = calcsize fmt then some (unpackFields fmt b) else none

/-- What a value is unpacked to: a string comes back padded. -/
def Value.padded : Code → Value → Value
  | .str n, .str s => .str (pad n s)
  | _, v => v

/-- A field takes as many bytes as its code says. -/
theorem length_packField {c : Code} {v : Value} {b : List UInt8} (h : packField c v = some b) :
    b.length = c.size := by
  cases c with
  | num w =>
      cases v with
      | num n =>
          simp only [packField, Option.ite_none_right_eq_some, Option.some.injEq] at h
          rw [← h.2, length_be]
          rfl
      | str s => cases h
  | str n =>
      cases v with
      | num n => cases h
      | str s =>
          rw [← Option.some.inj h, length_pad]
          rfl

/-- A field is read back as it is padded. -/
theorem unpackField_packField {c : Code} {v : Value} {b : List UInt8}
    (h : packField c v = some b) : unpackField c b = v.padded c := by
  cases c with
  | num w =>
      cases v with
      | num n =>
          simp only [packField, Option.ite_none_right_eq_some, Option.some.injEq] at h
          obtain ⟨⟨hn, hlt⟩, rfl⟩ := h
          have hfit : n.toNat < 256 ^ w := by
            zify
            rw [Int.toNat_of_nonneg hn]
            exact_mod_cast hlt
          show Value.num (beNat (be w n.toNat) : ℕ) = .num n
          rw [beNat_be hfit, Int.toNat_of_nonneg hn]
      | str s => cases h
  | str n =>
      cases v with
      | num n => cases h
      | str s =>
          rw [← Option.some.inj h]
          rfl

/-- A packed list starts with its first field. -/
theorem pack_cons_iff {c : Code} {fmt : List Code} {v : Value} {vs : List Value}
    {b : List UInt8} : pack (c :: fmt) (v :: vs) = some b ↔
      ∃ b₁ b₂, packField c v = some b₁ ∧ pack fmt vs = some b₂ ∧ b = b₁ ++ b₂ := by
  simp only [pack, Option.bind_eq_bind, Option.bind_eq_some_iff, Option.some.injEq]
  constructor
  · rintro ⟨b₁, h₁, b₂, h₂, rfl⟩
    exact ⟨b₁, b₂, h₁, h₂, rfl⟩
  · rintro ⟨b₁, b₂, h₁, h₂, rfl⟩
    exact ⟨b₁, h₁, b₂, h₂, rfl⟩

/-- What is packed has the size of the format. -/
theorem length_pack {fmt : List Code} {vs : List Value} {b : List UInt8}
    (h : pack fmt vs = some b) : b.length = calcsize fmt := by
  induction fmt generalizing vs b with
  | nil =>
      cases vs with
      | nil =>
          rw [← Option.some.inj h]
          rfl
      | cons v vs => cases h
  | cons c fmt ih =>
      cases vs with
      | nil => cases h
      | cons v vs =>
          obtain ⟨b₁, b₂, h₁, h₂, rfl⟩ := pack_cons_iff.mp h
          rw [List.length_append, length_packField h₁, ih h₂]
          rfl

/-- What is packed unpacks to the values, strings padded. -/
theorem unpackFields_pack {fmt : List Code} {vs : List Value} {b : List UInt8}
    (h : pack fmt vs = some b) : unpackFields fmt b = List.zipWith Value.padded fmt vs := by
  induction fmt generalizing vs b with
  | nil =>
      cases vs with
      | nil => rfl
      | cons v vs => cases h
  | cons c fmt ih =>
      cases vs with
      | nil => cases h
      | cons v vs =>
          obtain ⟨b₁, b₂, h₁, h₂, rfl⟩ := pack_cons_iff.mp h
          have hlen := length_packField h₁
          rw [unpackFields, List.take_left' hlen, List.drop_left' hlen, unpackField_packField h₁,
            ih h₂]
          rfl

/-- **A format round trip.** -/
theorem unpack_pack {fmt : List Code} {vs : List Value} {b : List UInt8}
    (h : pack fmt vs = some b) : unpack fmt b = some (List.zipWith Value.padded fmt vs) := by
  rw [unpack, if_pos (length_pack h), unpackFields_pack h]

/-- A value that its field takes. -/
def Takes : Code → Value → Prop
  | .num w, .num n => 0 ≤ n ∧ n < 256 ^ w
  | .str _, .str _ => True
  | _, _ => False

/-- Values that their fields take are packed. -/
theorem exists_pack {fmt : List Code} {vs : List Value} (h : List.Forall₂ Takes fmt vs) :
    ∃ b, pack fmt vs = some b := by
  induction h with
  | nil => exact ⟨[], rfl⟩
  | @cons c v fmt vs hv _ ih =>
      obtain ⟨bs, hbs⟩ := ih
      have hfield : ∃ b, packField c v = some b := by
        cases c with
        | num w =>
            cases v with
            | num n => exact ⟨_, if_pos hv⟩
            | str s => exact hv.elim
        | str n =>
            cases v with
            | num n => exact hv.elim
            | str s => exact ⟨_, rfl⟩
      obtain ⟨b, hb⟩ := hfield
      exact ⟨b ++ bs, pack_cons_iff.mpr ⟨b, bs, hb, hbs, rfl⟩⟩

/-! ### Records of one size -/

section records

variable {α β : Type}

/-- A list is mapped iff each item is. -/
theorem mapM_eq_some_iff {f : α → Option β} {l : List α} {bs : List β} :
    l.mapM f = some bs ↔ List.Forall₂ (fun a b => f a = some b) l bs := by
  induction l generalizing bs with
  | nil =>
      rw [List.mapM_nil, List.forall₂_nil_left_iff]
      exact ⟨fun h => (Option.some.inj h).symm, fun h => congrArg some h.symm⟩
  | cons a l ih =>
      rw [List.mapM_cons, List.forall₂_cons_left_iff]
      simp only [Option.bind_eq_bind, Option.bind_eq_some_iff, Option.pure_def, Option.some.injEq]
      constructor
      · rintro ⟨b, hb, bs', hbs', rfl⟩
        exact ⟨b, bs', hb, ih.mp hbs', rfl⟩
      · rintro ⟨b, bs', hb, hbs', rfl⟩
        exact ⟨b, hb, bs', ih.mpr hbs', rfl⟩

/-- The size of records one after the other. -/
theorem length_flatten_of_forall {k : ℕ} {bs : List (List β)} (h : ∀ b ∈ bs, b.length = k) :
    bs.flatten.length = bs.length * k := by
  induction bs with
  | nil => simp
  | cons b bs ih =>
      rw [List.flatten_cons, List.length_append, List.length_cons, h b List.mem_cons_self,
        ih fun b' hb' => h b' (List.mem_cons_of_mem b hb')]
      ring

/-- The `i`-th of records one after the other. -/
theorem take_drop_flatten {k : ℕ} {bs : List (List β)} (h : ∀ b ∈ bs, b.length = k) {i : ℕ}
    (hi : i < bs.length) : (bs.flatten.drop (i * k)).take k = bs[i] := by
  induction bs generalizing i with
  | nil => cases hi
  | cons b bs ih =>
      have hb := h b List.mem_cons_self
      cases i with
      | zero => simp [List.take_left' hb]
      | succ i =>
          have hskip : (i + 1) * k = b.length + i * k := by
            rw [hb]
            ring
          rw [List.flatten_cons, hskip, List.drop_length_add_append]
          exact ih (fun b' hb' => h b' (List.mem_cons_of_mem b hb')) (Nat.lt_of_succ_lt_succ hi)

end records

end Wire
