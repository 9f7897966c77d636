import SimpleRouter.Protocol
import SimpleRouter.Lib.OnesComplement

/-!
# `cksum` and the Internet checksum (`sr_utils.c`)

`cksum` adds the big-endian words of a buffer in a 32-bit accumulator, folds the carries until the
value fits 16 bits, complements, and swaps the bytes, so that the result can be assigned to a
header field as it is; a result of `0` is replaced by `0xffff`.

* `toNat_cksumLoop_zero` — up to 131074 bytes the accumulator does not wrap.
* `toNat_foldCarry` — the fold ends with the residue `OnesComplement.residue` of what it started
  from.
* `cksum_bytes` — the two bytes stored are those of `OnesComplement.check`.
* `valid_put_cksum` — **what the builders rely on**: zeroing a 16-bit field at an even offset and
  storing `cksum` of the buffer there makes the buffer valid.
* `cksum_eq_reference` — **`cksum` is the Internet checksum** of every buffer of that length.
-/

namespace SimpleRouter

open Buffer OnesComplement

/-- The word loop and the odd last byte.
Source: `sr_utils.c`, `cksum`, the `for` loop and the `if (len > 0)` after it -/
def cksumLoop : List UInt8 → UInt32 → UInt32
  | a :: b :: rest, sum => cksumLoop rest (sum + (a.toUInt32 <<< 8 ||| b.toUInt32))
  | [a], sum => sum + (a.toUInt32 <<< 8)
  | [], sum => sum

/-- `while (sum > 0xffff) sum = (sum >> 16) + (sum & 0xffff)`, for at most `fuel` rounds.
Source: `sr_utils.c`, `cksum` -/
def foldCarry : ℕ → UInt32 → UInt32
  | 0, sum => sum
  | fuel + 1, sum =>
      if sum > 0xffff then foldCarry fuel ((sum >>> 16) + (sum &&& 0xffff)) else sum

/-- The checksum of a buffer. Every round of the fold makes the sum smaller, so the sum itself is
enough fuel (`toNat_foldCarry`).
Source: `sr_utils.c`, `cksum` -/
def cksum (data : List UInt8) : UInt16 :=
  let sum := cksumLoop data 0
  let sum := foldCarry sum.toNat sum
  let sum := htons (~~~sum).toUInt16
  if sum ≠ 0 then sum else 0xffff

/-! ### The two loops -/

/-- `data[0] << 8 | data[1]` is the big-endian word. -/
theorem toNat_word (a b : UInt8) :
    (a.toUInt32 <<< 8 ||| b.toUInt32).toNat = a.toNat * 256 + b.toNat := by
  have ha := a.toNat_lt
  have hb := b.toNat_lt
  have hor : a.toNat * 256 ||| b.toNat = a.toNat * 256 + b.toNat := by
    have h := Nat.shiftLeft_add_eq_or_of_lt (i := 8) (b := b.toNat) (by omega) a.toNat
    rw [Nat.shiftLeft_eq] at h
    exact h.symm
  have hmod : a.toNat * 256 % 4294967296 = a.toNat * 256 := Nat.mod_eq_of_lt (by omega)
  simp [Nat.shiftLeft_eq, hmod, hor]

/-- `data[0] << 8` for the odd last byte. -/
theorem toNat_lastByte (a : UInt8) : (a.toUInt32 <<< 8).toNat = a.toNat * 256 := by
  have ha := a.toNat_lt
  have hmod : a.toNat * 256 % 4294967296 = a.toNat * 256 := Nat.mod_eq_of_lt (by omega)
  simp [Nat.shiftLeft_eq, hmod]

/-- While it fits 32 bits, the accumulator is the plain sum of the words. -/
theorem toNat_cksumLoop : ∀ (data : List UInt8) (sum : UInt32),
    sum.toNat + (words data).sum < 2 ^ 32 →
      (cksumLoop data sum).toNat = sum.toNat + (words data).sum
  | a :: b :: rest, sum, h => by
      simp only [words, List.sum_cons] at h
      have hacc : (sum + (a.toUInt32 <<< 8 ||| b.toUInt32)).toNat =
          sum.toNat + (a.toNat * 256 + b.toNat) := by
        rw [UInt32.toNat_add, toNat_word]
        omega
      rw [cksumLoop, toNat_cksumLoop rest _ (by rw [hacc]; omega), hacc]
      simp only [words, List.sum_cons]
      omega
  | [a], sum, h => by
      simp only [words, List.sum_cons, List.sum_nil] at h
      rw [cksumLoop, UInt32.toNat_add, toNat_lastByte]
      simp only [words, List.sum_cons, List.sum_nil]
      omega
  | [], sum, _ => by simp [cksumLoop, words]

/-- The loop goes on behind an even number of bytes with the sum so far. -/
theorem cksumLoop_append : ∀ (a b : List UInt8) (sum : UInt32), a.length % 2 = 0 →
    cksumLoop (a ++ b) sum = cksumLoop b (cksumLoop a sum)
  | [], _, _, _ => rfl
  | [_], _, _, h => by simp at h
  | x :: y :: a, b, sum, h => by
      have ha : a.length % 2 = 0 := by
        simp only [List.length_cons] at h
        omega
      exact cksumLoop_append a b _ ha

/-- Up to 131074 bytes the accumulator is the plain sum of the words. -/
theorem toNat_cksumLoop_zero {data : List UInt8} (hlen : data.length ≤ 131074) :
    (cksumLoop data 0).toNat = (words data).sum := by
  have hle := sum_words_le data
  rw [toNat_cksumLoop data 0 (by rw [UInt32.toNat_zero]; omega), UInt32.toNat_zero, Nat.zero_add]

/-- One round of the fold, on naturals. -/
theorem toNat_carry (sum : UInt32) :
    ((sum >>> 16) + (sum &&& 0xffff)).toNat = sum.toNat / 65536 + sum.toNat % 65536 := by
  have hs := sum.toNat_lt
  have hand : sum.toNat &&& 65535 = sum.toNat % 65536 := Nat.and_two_pow_sub_one_eq_mod _ 16
  have hshift : (sum >>> 16).toNat = sum.toNat / 65536 := by
    simp [Nat.shiftRight_eq_div_pow]
  rw [UInt32.toNat_add, hshift, UInt32.toNat_and, show (0xffff : UInt32).toNat = 65535 from rfl,
    hand]
  omega

/-- With the sum as fuel the fold ends below `0x10000`, with the residue of the sum. -/
theorem toNat_foldCarry (fuel : ℕ) (sum : UInt32) (h : sum.toNat ≤ fuel) :
    (foldCarry fuel sum).toNat = residue sum.toNat := by
  induction fuel generalizing sum with
  | zero =>
      have h₀ : sum.toNat = 0 := by omega
      simp [foldCarry, h₀, residue]
  | succ fuel ih =>
      rw [foldCarry]
      split_ifs with hgt
      · have hgt' : 65535 < sum.toNat := by simpa [UInt32.lt_iff_toNat_lt] using hgt
        have hc := toNat_carry sum
        rw [ih _ (by rw [hc]; omega), hc, residue_carry]
      · have hle : sum.toNat ≤ 65535 := by simpa [UInt32.lt_iff_toNat_lt] using hgt
        exact (residue_of_lt (by omega)).symm

/-! ### The stored field -/

/-- The complement of a folded sum, byte-swapped. -/
theorem toNat_htons_not {sum : UInt32} (h : sum.toNat < 65536) :
    (htons (~~~sum).toUInt16).toNat =
      (65535 - sum.toNat) % 256 * 256 + (65535 - sum.toNat) / 256 := by
  have hnot : (~~~sum).toUInt16.toNat = 65535 - sum.toNat := by
    rw [UInt32.toNat_toUInt16, UInt32.toNat_not]
    simp only [UInt32.size]
    omega
  rw [htons, hnot, UInt16.toNat_ofNat']
  omega

/-- Swapping the bytes twice: the two stored bytes of a swapped value, high byte first. -/
theorem swapped_bytes {m : ℕ} (h : m < 65536) :
    (m % 256 * 256 + m / 256) % 256 * 256 + (m % 256 * 256 + m / 256) / 256 % 256 = m := by
  have hlow : (m % 256 * 256 + m / 256) % 256 = m / 256 := by omega
  have hhigh : (m % 256 * 256 + m / 256) / 256 = m % 256 := by omega
  rw [hlow, hhigh]
  omega

/-- **What `cksum` stores.** Up to 131074 bytes, assigning `cksum(data)` to a field writes the
high and the low byte of the completing value. -/
theorem cksum_bytes {data : List UInt8} (hlen : data.length ≤ 131074) :
    ∃ hi lo : UInt8, u16Bytes (cksum data) = [hi, lo] ∧
      hi.toNat * 256 + lo.toNat = check (words data).sum := by
  have hfold : (foldCarry (cksumLoop data 0).toNat (cksumLoop data 0)).toNat =
      residue (words data).sum := by
    rw [toNat_foldCarry _ _ le_rfl, toNat_cksumLoop_zero hlen]
  have hlt := residue_lt (words data).sum
  have hnot := toNat_htons_not (hfold ▸ hlt)
  rw [hfold] at hnot
  refine ⟨_, _, rfl, ?_⟩
  simp only [UInt8.toNat_ofNat', cksum, check]
  generalize htons (~~~foldCarry (cksumLoop data 0).toNat (cksumLoop data 0)).toUInt16 = sum at hnot
  generalize residue (words data).sum = r at hlt hnot
  by_cases hr : r = 65535
  · -- the complement is 0, and 0xffff is stored in its place
    have hz : sum = 0 := by
      apply UInt16.toNat_inj.mp
      rw [hnot, hr]
      rfl
    rw [if_neg (by simpa using hz), if_pos hr]
    rfl
  · have hz : sum ≠ 0 := by
      rintro rfl
      rw [UInt16.toNat_zero] at hnot
      omega
    rw [if_pos hz, if_neg hr, hnot]
    exact swapped_bytes (by omega)

/-- Two bytes as a word. -/
theorem bytes_eq_iff {a c hi lo : UInt8} : [a, c] = [hi, lo] ↔
    a.toNat * 256 + c.toNat = hi.toNat * 256 + lo.toNat := by
  have ha := a.toNat_lt
  have hc := c.toNat_lt
  have hhi := hi.toNat_lt
  have hlo := lo.toNat_lt
  simp only [List.cons.injEq, and_true, ← UInt8.toNat_inj]
  omega

/-- A field equals `cksum(data)` exactly if it is the completing value. -/
theorem u16_eq_cksum_iff {data : List UInt8} {hi lo : UInt8} (hlen : data.length ≤ 131074) :
    u16 [hi, lo] = cksum data ↔ hi.toNat * 256 + lo.toNat = check (words data).sum := by
  obtain ⟨hi', lo', hbytes, hval⟩ := cksum_bytes hlen
  rw [u16_eq_iff, hbytes, bytes_eq_iff, hval]

/-- Behind bytes a field completes, it equals `cksum` of them and of what follows exactly if the
field is not zero and what follows adds nothing. -/
theorem u16_eq_cksum_append_iff {data tail : List UInt8} {hi lo : UInt8}
    (hlen : (data ++ tail).length ≤ 131074)
    (hvalid : residue ((words data).sum + (hi.toNat * 256 + lo.toNat)) = 65535) :
    u16 [hi, lo] = cksum (data ++ tail) ↔ u16 [hi, lo] ≠ 0 ∧
      (words (if data.length % 2 = 0 then tail else 0 :: tail)).sum % 65535 = 0 := by
  have hhi := hi.toNat_lt
  have hlo := lo.toNat_lt
  have hzero : u16 [hi, lo] ≠ 0 ↔ hi.toNat * 256 + lo.toNat ≠ 0 := by
    rw [ne_eq, u16_eq_iff, show u16Bytes 0 = [0, 0] from rfl, bytes_eq_iff]
    rfl
  rw [u16_eq_cksum_iff hlen, sum_words_append, hzero]
  exact eq_check_add_iff (by omega) hvalid _

/-- `cksum` never returns zero. -/
theorem cksum_ne_zero (data : List UInt8) : cksum data ≠ 0 := by
  unfold cksum
  dsimp only
  split_ifs with hsum
  · exact hsum
  · decide

/-- **Zero, then store.** Writing `cksum` of the buffer with a zero field into that field, at an
even offset, makes the buffer valid. -/
theorem valid_put_cksum {b : List UInt8} {o : ℕ} (heven : o % 2 = 0) (ho : o + 2 ≤ b.length)
    (hlen : b.length ≤ 131074) :
    Valid (put b o (u16Bytes (cksum (put b o (u16Bytes 0))))) := by
  have hlen' : (put b o (u16Bytes 0)).length ≤ 131074 := by simpa using hlen
  obtain ⟨hi, lo, hbytes, hval⟩ := cksum_bytes hlen'
  rw [hbytes]
  exact valid_put_check heven ho hval

/-- **`cksum` of the buffer is its Internet checksum.** -/
structure CksumExact (data : List UInt8) : Prop where
  /-- Wherever the word loop stands, the accumulator has not wrapped. -/
  accumulator : ∀ a b, data = a ++ b → a.length % 2 = 0 →
    ∃ sum, cksumLoop data 0 = cksumLoop b sum ∧ sum.toNat = (words a).sum
  /-- Nor has it at the end, with an odd last byte padded by zero. -/
  total : (cksumLoop data 0).toNat = (words data).sum
  /-- The fold comes to an end. -/
  fold : ∀ fuel ≥ (cksumLoop data 0).toNat, foldCarry fuel (cksumLoop data 0) ≤ 0xffff
  /-- What is stored is the complement of the ones' complement sum, high byte first, with `0xffff`
  in the place of `0`. -/
  field : ∃ hi lo, u16Bytes (cksum data) = [hi, lo] ∧ hi.toNat * 256 + lo.toNat =
    if OnesComplement.sum (words data) = 0xffff then 0xffff
    else 0xffff - OnesComplement.sum (words data)
  /-- It is not zero. -/
  ne_zero : cksum data ≠ 0

/-- **Up to 131074 bytes `cksum` is the Internet checksum.** -/
theorem cksum_eq_reference {data : List UInt8} (hlen : data.length ≤ 131074) : CksumExact data := by
  constructor
  case accumulator =>
    rintro a b rfl heven
    refine ⟨cksumLoop a 0, cksumLoop_append a b 0 heven, toNat_cksumLoop_zero ?_⟩
    rw [List.length_append] at hlen
    omega
  case total => exact toNat_cksumLoop_zero hlen
  case fold =>
    intro fuel hfuel
    have hlt := residue_lt (cksumLoop data 0).toNat
    rw [UInt32.le_iff_toNat_le, toNat_foldCarry fuel _ hfuel]
    exact Nat.le_of_lt_succ hlt
  case field =>
    rw [sum_eq_residue]
    exact cksum_bytes hlen
  case ne_zero => exact cksum_ne_zero data

/-- Three bytes: the words `0xfffe` and `0x2100`. -/
theorem cksum_eq_reference_odd : CksumExact [0xff, 0xfe, 0x21] := cksum_eq_reference (by decide)

end SimpleRouter
