import SimpleRouter.Transit

/-!
# The header check against the Internet checksum rule

`handle_ip_packet` accepts a header whose checksum field equals `cksum` of the header with the
field zeroed. The rule of the Internet checksum is that the ten words, field included, add up to
`0xffff`. Ones' complement has two zeros, and a word that completes the other nine to `0xffff` is
unique but for them: where the nine words add up to `0xffff` by themselves both `0x0000` and
`0xffff` complete them. `cksum` never returns `0x0000`, so the check accepts only `0xffff` there.

* `headerOk_iff_field` — the check compares the field with the completing value `check`.
* `accepts_iff_valid` — **when the check is the rule**: for every header but those with field
  `0x0000` whose other nine words add up to `0xffff`. These are valid and rejected
  (`zero_checksum_rejected`).
* `corruption_detected` — **a header taken is no longer taken with one word replaced**, except for
  a word other than the field that was one of the two zeros and is replaced by the other.
-/

namespace SimpleRouter

open Buffer OnesComplement

variable {buf : List UInt8}

/-- The frame with its checksum field zeroed, as the check hands it to `cksum`. -/
def clearSum (buf : List UInt8) : List UInt8 := put buf 24 (u16Bytes 0)

/-- `handle_ip_packet` takes the header: there is a router on which it does not drop the frame. -/
def AcceptsHeader (buf : List UInt8) : Prop := ∃ sr, ipPacketVerdict sr buf ≠ .ok .drop

/-- The two bytes of the checksum field. -/
theorem exists_sumField (h : 34 ≤ buf.length) : ∃ hi lo, slice buf 24 2 = [hi, lo] := by
  have hlen : (slice buf 24 2).length = 2 := by
    rw [length_slice]
    omega
  exact List.length_eq_two.mp hlen

/-- The plain sum of the header: that of the cleared header, and the field. -/
theorem sum_words_ipHdr {hi lo : UInt8} (h : 34 ≤ buf.length) (hsum : slice buf 24 2 = [hi, lo]) :
    (words (ipHdr buf)).sum =
      (words (ipHdr (clearSum buf))).sum + (hi.toNat * 256 + lo.toNat) :=
  sum_words_slice (by omega) (by omega) (by omega) (by omega) hsum

/-- The check compares the field with the value that completes the other words. -/
theorem headerOk_iff_field {hi lo : UInt8} (hsum : slice buf 24 2 = [hi, lo]) :
    HeaderOk buf ↔ hi.toNat * 256 + lo.toNat = check (words (ipHdr (clearSum buf))).sum := by
  have hlen : (ipHdr (clearSum buf)).length ≤ 131074 := by
    rw [ipHdr, length_slice]
    omega
  rw [← u16_eq_cksum_iff hlen, HeaderOk, ipSum, hsum, clearSum]

/-- A header is taken exactly if it passes the check. -/
theorem acceptsHeader_iff (h : 34 ≤ buf.length) : AcceptsHeader buf ↔ HeaderOk buf := by
  constructor
  · rintro ⟨sr, hverdict⟩
    by_contra hbad
    apply hverdict
    unfold ipPacketVerdict
    rw [if_neg (by omega)]
    exact if_pos hbad
  · intro hok
    have ht : IsTransit ⟨[], [], srArpcacheInit⟩ buf := ⟨h, hok, rfl⟩
    refine ⟨⟨[], [], srArpcacheInit⟩, ?_⟩
    rw [verdict_of_transit ht]
    rcases transitVerdict_cases ⟨[], [], srArpcacheInit⟩ buf with ⟨-, hv⟩ | ⟨-, -, hv⟩ |
      ⟨_, _, -, -, -, hv⟩ | ⟨_, -, -, -, hv⟩ <;> rw [hv] <;> simp

/-- A frame whose header is taken has one. -/
theorem AcceptsHeader.length (h : AcceptsHeader buf) : 34 ≤ buf.length := by
  obtain ⟨sr, hverdict⟩ := h
  by_contra hshort
  apply hverdict
  unfold ipPacketVerdict
  exact if_pos (by omega)

/-- **When the check is the checksum rule.** `handle_ip_packet` takes a header exactly if its ten
words add up to `0xffff`, for every header except those whose field is zero while the other nine
words add up to `0xffff`. -/
theorem accepts_iff_valid (h : 34 ≤ buf.length) :
    (AcceptsHeader buf ↔ Valid (ipHdr buf)) ↔
      ¬ (slice buf 24 2 = [0, 0] ∧ Valid (ipHdr (clearSum buf))) := by
  obtain ⟨hi, lo, hsum⟩ := exists_sumField h
  have hlt : hi.toNat * 256 + lo.toNat < 65536 := by
    have hhi := hi.toNat_lt
    have hlo := lo.toNat_lt
    omega
  have hzero : slice buf 24 2 = [0, 0] ↔ hi.toNat * 256 + lo.toNat = 0 := by
    rw [hsum]
    constructor
    · intro heq
      rw [List.cons.injEq, List.cons.injEq] at heq
      rw [heq.1, heq.2.1]
      rfl
    · intro heq
      rw [UInt8.toNat_inj.mp (show hi.toNat = (0 : UInt8).toNat by simp; omega),
        UInt8.toNat_inj.mp (show lo.toNat = (0 : UInt8).toNat by simp; omega)]
  rw [acceptsHeader_iff h, headerOk_iff_field hsum, hzero, valid_iff, valid_iff,
    sum_words_ipHdr h hsum, residue_add_iff hlt]
  constructor
  · rintro hiff ⟨hfield, hnine⟩
    have hcheck := hiff.mpr (.inr ⟨hfield, hnine⟩)
    rw [hfield, check, if_pos hnine] at hcheck
    cases hcheck
  · intro hne
    constructor
    · exact .inl
    · rintro (hcheck | hboth)
      · exact hcheck
      · exact absurd hboth hne

/-- `udpFrame` has a checksum that is not zero, and passes. -/
theorem accepts_udpFrame : AcceptsHeader (udpFrame 2 9 64) ↔ Valid (ipHdr (udpFrame 2 9 64)) :=
  (accepts_iff_valid (by decide +kernel)).mpr (by decide +kernel)

/-- A UDP packet from `10.0.1.9` to `10.0.2.9` whose identification makes the nine words add up to
`0xffff`, sent with the checksum `0x0000`. -/
def zeroSumFrame : List UInt8 :=
  [2, 0, 0, 0, 0, 1] ++ [2, 0, 0, 0, 1, 9] ++ [8, 0] ++
    [0x45, 0, 0, 28, 0x63, 0xc0, 0, 0, 64, 17, 0, 0, 10, 0, 1, 9, 10, 0, 2, 9] ++
    [0, 7, 0, 7, 0, 8, 0, 0]

/-- Its header is valid, and every router drops it. -/
theorem zero_checksum_rejected : Valid (ipHdr zeroSumFrame) ∧
    ∀ sr, ipPacketVerdict sr zeroSumFrame = .ok .drop := by
  refine ⟨by decide +kernel, ?_⟩
  intro sr
  unfold ipPacketVerdict
  rw [if_neg (by decide), if_pos (by decide +kernel)]

/-! ### Corruption -/

section corruption

variable {k : ℕ} {a c hi lo : UInt8}

/-- Another value in the checksum field is not the one that passes. -/
theorem headerOk_replace_sum (hok : HeaderOk buf) (h : 34 ≤ buf.length)
    (hold : slice buf 24 2 = [a, c]) (hne : [a, c] ≠ [hi, lo]) :
    ¬ HeaderOk (put buf 24 [hi, lo]) := by
  have hsum : slice (put buf 24 [hi, lo]) 24 2 = [hi, lo] := slice_put_same rfl (by omega)
  have hclear : clearSum (put buf 24 [hi, lo]) = clearSum buf := put_put_same rfl
  rw [headerOk_iff_field hold] at hok
  rw [headerOk_iff_field hsum, hclear, ← hok]
  exact fun heq => hne (bytes_eq_iff.mpr heq.symm)

/-- Another value in a different word passes exactly if the two agree modulo `0xffff`. -/
theorem headerOk_replace_word (hok : HeaderOk buf) (h : 34 ≤ buf.length) (hk : k < 10)
    (hsum : k ≠ 5) (hold : slice buf (14 + 2 * k) 2 = [a, c]) :
    HeaderOk (put buf (14 + 2 * k) [hi, lo]) ↔
      (hi.toNat * 256 + lo.toNat) % 65535 = (a.toNat * 256 + c.toNat) % 65535 := by
  obtain ⟨x, y, hfield⟩ := exists_sumField h
  have hfield' : slice (put buf (14 + 2 * k) [hi, lo]) 24 2 = [x, y] := by
    rw [slice_put_of_disjoint (by simp only [List.length_cons, List.length_nil]; omega), hfield]
  have hclear : clearSum (put buf (14 + 2 * k) [hi, lo]) =
      put (clearSum buf) (14 + 2 * k) [hi, lo] := by
    unfold clearSum
    rw [put_put_comm (by simp only [List.length_cons, List.length_nil, length_u16Bytes]; omega)]
  have hhdr : ipHdr (put (clearSum buf) (14 + 2 * k) [hi, lo]) =
      put (ipHdr (clearSum buf)) (2 * k) [hi, lo] := by
    unfold ipHdr
    rw [slice_put_of_subset (by omega) (by simp only [List.length_cons, List.length_nil]; omega),
      Nat.add_sub_cancel_left]
  have hword : slice (ipHdr (clearSum buf)) (2 * k) 2 = [a, c] := by
    unfold ipHdr clearSum
    rw [slice_slice (by omega), slice_put_of_disjoint (by rw [length_u16Bytes]; omega), hold]
  have hlen : (ipHdr (clearSum buf)).length = 20 := by
    rw [ipHdr, length_slice, clearSum, length_put]
    omega
  have hreplace := sum_words_replace hi lo (by omega) (by omega) hword
  rw [headerOk_iff_field hfield] at hok
  rw [headerOk_iff_field hfield', hclear, hhdr, hok, check_eq_check_iff]
  omega

/-- **Corruption of one word is detected**, unless a word other than the checksum is one of the two
zeros of ones' complement and becomes the other. -/
theorem corruption_detected (h : AcceptsHeader buf) (hk : k < 10)
    (hne : slice buf (14 + 2 * k) 2 ≠ [hi, lo]) :
    AcceptsHeader (put buf (14 + 2 * k) [hi, lo]) ↔
      k ≠ 5 ∧ (slice buf (14 + 2 * k) 2 = [0, 0] ∧ [hi, lo] = [0xff, 0xff] ∨
        slice buf (14 + 2 * k) 2 = [0xff, 0xff] ∧ [hi, lo] = [0, 0]) := by
  have hlen := h.length
  have hok := (acceptsHeader_iff hlen).mp h
  obtain ⟨a, c, hold⟩ : ∃ a c, slice buf (14 + 2 * k) 2 = [a, c] := by
    refine List.length_eq_two.mp ?_
    rw [length_slice]
    omega
  rw [hold] at hne ⊢
  rw [acceptsHeader_iff (by rw [length_put]; exact hlen)]
  by_cases hsum : k = 5
  · subst hsum
    exact iff_of_false (headerOk_replace_sum hok hlen hold hne) fun h => h.1 rfl
  · rw [headerOk_replace_word hok hlen hk hsum hold, and_iff_right hsum]
    simp only [bytes_eq_iff, ne_eq] at hne ⊢
    have ha := a.toNat_lt
    have hc := c.toNat_lt
    have hhi := hi.toNat_lt
    have hlo := lo.toNat_lt
    simp only [UInt8.toNat_ofNat]
    omega

end corruption

/-- The identification of a packet is changed from zero to one. -/
theorem corruption_detected_udpFrame :
    AcceptsHeader (put (udpFrame 2 9 64) 18 [0, 1]) ↔
      (2 : ℕ) ≠ 5 ∧ (slice (udpFrame 2 9 64) 18 2 = [0, 0] ∧ [(0 : UInt8), 1] = [0xff, 0xff] ∨
        slice (udpFrame 2 9 64) 18 2 = [0xff, 0xff] ∧ [(0 : UInt8), 1] = [0, 0]) :=
  corruption_detected (k := 2) ((acceptsHeader_iff (by decide +kernel)).mpr (by decide +kernel))
    (by omega) (by decide +kernel)

end SimpleRouter
