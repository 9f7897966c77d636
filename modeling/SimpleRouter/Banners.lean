import SimpleRouter.VnsRoundTrip

/-!
# Splitting a text into messages

`get_banners` and `get_banners_and_close` cut a text into `len / 255 + 1` windows of 255 bytes.
Nothing is lost and every window leaves room for the NUL that ends the string the client prints.
The number is the least one except where 255 divides the length: there the last window is empty,
and one message too many is sent.

`getBanners_minimal_iff` — **the split is minimal except at the positive multiples of 255.**
-/

namespace SimpleRouter

open Buffer Wire

/-! ### The two functions -/

/-- The number of messages.
Source: `VNSProtocol.py`, `n = len(msg)/255 + 1` -/
def numBanners (msg : List UInt8) : ℕ := msg.length / 255 + 1

/-- The text of the `i`-th message.
Source: `VNSProtocol.py`, `msg[i*255:(i+1)*255]` -/
def bannerText (msg : List UInt8) (i : ℕ) : List UInt8 := slice msg (i * 255) 255

/-- Source: `VNSProtocol.py`, `VNSBanner.get_banners` -/
def getBanners (msg : List UInt8) : List VnsMessage :=
  (List.range (numBanners msg)).map fun i => .banner (bannerText msg i)

/-- Source: `VNSProtocol.py`, `VNSClose.get_banners_and_close` -/
def getBannersAndClose (msg : List UInt8) : List VnsMessage :=
  (List.range (numBanners msg)).map fun i =>
    if i + 1 < numBanners msg then .banner (bannerText msg i) else .close (bannerText msg i)

/-! ### What a split is for -/

/-- `msg` of a banner or a close. -/
def VnsMessage.text : VnsMessage → List UInt8
  | .banner msg => msg
  | .close msg => msg
  | _ => []

/-- **The messages carry the text**, in as few of them as there can be. -/
structure Splits (msg : List UInt8) (msgs : List VnsMessage) : Prop where
  /-- Each has at most 255 bytes. -/
  short : ∀ m ∈ msgs, m.text.length ≤ 255
  /-- The field it is packed into ends the string the client prints. -/
  terminated : ∀ m ∈ msgs, ∃ body, m.pack = some body ∧ body.length = 256 ∧ 0 ∈ body ∧
    body.takeWhile (· ≠ 0) = m.text
  /-- Nothing is lost. -/
  lossless : (msgs.map VnsMessage.text).flatten = msg
  /-- There are as many as needed. -/
  count : msgs.length = max 1 ((msg.length + 254) / 255)
  /-- There cannot be fewer. -/
  fewest : ∀ texts : List (List UInt8), texts ≠ [] → (∀ t ∈ texts, t.length ≤ 255) →
    texts.flatten = msg → msgs.length ≤ texts.length

/-- **Both functions split the text**, and the second ends with the only close. -/
structure BannersSplit (msg : List UInt8) : Prop where
  /-- The banners carry the text. -/
  banners : Splits msg (getBanners msg)
  /-- They are banners. -/
  bannersOnly : ∃ texts : List (List UInt8), getBanners msg = texts.map .banner
  /-- So do the banners and the close. -/
  close : Splits msg (getBannersAndClose msg)
  /-- The close is the last of them. -/
  closeLast : ∃ (texts : List (List UInt8)) (t : List UInt8),
    getBannersAndClose msg = texts.map .banner ++ [.close t]

section splits

variable {msg : List UInt8} {msgs : List VnsMessage}

/-! ### The texts -/

/-- A text is no longer than its field. -/
theorem length_bannerText_le (msg : List UInt8) (i : ℕ) :
    (bannerText msg i).length ≤ 255 := by
  rw [bannerText, length_slice]
  exact min_le_left ..

/-- The windows are the text: the last one ends at or behind its end. -/
theorem flatten_bannerText (msg : List UInt8) :
    ((List.range (numBanners msg)).map (bannerText msg)).flatten = msg := by
  have hend : msg.length ≤ numBanners msg * 255 := by
    rw [numBanners]
    omega
  calc ((List.range (numBanners msg)).map (bannerText msg)).flatten
      = msg.take (numBanners msg * 255) := flatten_slices (numBanners msg)
    _ = msg := List.take_of_length_le hend

/-- A text that leaves room for a NUL is read back from its field. -/
theorem packed_text {s : List UInt8} (hnul : 0 ∉ s) (hlen : s.length ≤ 255) :
    ∃ body, Wire.pack textFormat [.str s] = some body ∧ body.length = 256 ∧ 0 ∈ body ∧
      body.takeWhile (· ≠ 0) = s := by
  have hpad := pad_of_lt (Nat.lt_succ_of_le hlen)
  refine ⟨pad 256 s, congrArg some (List.append_nil _), length_pad 256 s, ?_, ?_⟩
  · rw [hpad]
    exact List.mem_append_right _ List.mem_cons_self
  · rw [hpad]
    exact takeWhile_append_nul hnul _

/-! ### How many -/

/-- The count is one too many exactly where 255 divides the length. -/
theorem numBanners_eq_iff (msg : List UInt8) :
    numBanners msg = max 1 ((msg.length + 254) / 255) ↔ msg = [] ∨ msg.length % 255 ≠ 0 := by
  rw [numBanners, ← List.length_eq_zero_iff]
  omega

/-- Texts of at most 255 bytes, one at least, are as many as `count` says or more. -/
theorem count_le_length {texts : List (List UInt8)} (hne : texts ≠ [])
    (hshort : ∀ t ∈ texts, t.length ≤ 255) :
    max 1 ((texts.flatten.length + 254) / 255) ≤ texts.length := by
  have hpos : 0 < texts.length := List.length_pos_iff.mpr hne
  have hlen : texts.flatten.length ≤ texts.length * 255 := length_flatten_le hshort
  omega

/-! ### Messages of these texts -/

/-- Banners and closes of the windows split the text if the count is right; the rest holds at
every length. -/
theorem splits_of_texts (hnul : 0 ∉ msg) {f : ℕ → VnsMessage}
    (hf : ∀ i, f i = .banner (bannerText msg i) ∨ f i = .close (bannerText msg i))
    (hcount : numBanners msg = max 1 ((msg.length + 254) / 255)) :
    Splits msg ((List.range (numBanners msg)).map f) := by
  have htext : ∀ i, (f i).text = bannerText msg i := fun i => by
    rcases hf i with h | h <;> rw [h, VnsMessage.text]
  have hpack : ∀ i, (f i).pack = Wire.pack textFormat [.str (bannerText msg i)] := fun i => by
    rcases hf i with h | h <;> rw [h, VnsMessage.pack]
  have hlength : ((List.range (numBanners msg)).map f).length = numBanners msg := by
    rw [List.length_map, List.length_range]
  refine ⟨?_, ?_, ?_, hlength.trans hcount, ?_⟩
  · intro m hm
    obtain ⟨i, -, rfl⟩ := List.mem_map.mp hm
    rw [htext]
    exact length_bannerText_le msg i
  · intro m hm
    obtain ⟨i, -, rfl⟩ := List.mem_map.mp hm
    rw [htext, hpack]
    have hsub : bannerText msg i ⊆ msg :=
      List.Subset.trans (List.take_subset _ _) (List.drop_subset _ _)
    exact packed_text (fun h => hnul (hsub h)) (length_bannerText_le msg i)
  · have hmap : VnsMessage.text ∘ f = bannerText msg := funext htext
    rw [List.map_map, hmap]
    exact flatten_bannerText msg
  · rintro texts hne hshort rfl
    rw [hlength, hcount]
    exact count_le_length hne hshort

/-- The last message is the close. -/
theorem getBannersAndClose_eq (msg : List UInt8) :
    getBannersAndClose msg = ((List.range (msg.length / 255)).map (bannerText msg)).map .banner ++
      [.close (bannerText msg (msg.length / 255))] := by
  rw [getBannersAndClose, numBanners, List.range_succ, List.map_append, List.map_map,
    List.map_singleton, if_neg (lt_irrefl _)]
  congr 1
  refine List.map_congr_left fun i hi => ?_
  rw [if_pos (Nat.succ_lt_succ (List.mem_range.mp hi)), Function.comp_apply]

end splits

/-- **The split of a text without NUL is minimal exactly if the text is empty or 255 does not
divide its length.** -/
theorem getBanners_minimal_iff {msg : List UInt8} (hnul : 0 ∉ msg) :
    BannersSplit msg ↔ msg = [] ∨ msg.length % 255 ≠ 0 := by
  constructor
  · intro h
    have hcount : (getBanners msg).length = numBanners msg := by
      rw [getBanners, List.length_map, List.length_range]
    exact (numBanners_eq_iff msg).mp (hcount.symm.trans h.banners.count)
  · intro h
    have hcount := (numBanners_eq_iff msg).mpr h
    refine ⟨splits_of_texts hnul (fun i => .inl rfl) hcount, ?_,
      splits_of_texts hnul (fun i => ?_) hcount, ?_⟩
    · exact ⟨(List.range (numBanners msg)).map (bannerText msg), by
        rw [getBanners, List.map_map]; rfl⟩
    · exact ite_eq_or_eq ..
    · exact ⟨_, _, getBannersAndClose_eq msg⟩

/-- Three hundred letters. -/
theorem getBanners_minimal_three_hundred :
    0 ∉ List.replicate 300 (65 : UInt8) ∧ BannersSplit (List.replicate 300 65) := by
  have hnul : 0 ∉ List.replicate 300 (65 : UInt8) := fun h =>
    absurd (List.eq_of_mem_replicate h) (by decide)
  exact ⟨hnul, (getBanners_minimal_iff hnul).mpr (.inr (by rw [List.length_replicate]; decide))⟩

/-- A text of 255 letters fits into one message, and two are made of it: the second is empty. -/
theorem getBanners_full_field :
    0 ∉ List.replicate 255 (65 : UInt8) ∧
      getBanners (List.replicate 255 65) = [.banner (List.replicate 255 65), .banner []] ∧
      getBannersAndClose (List.replicate 255 65) =
        [.banner (List.replicate 255 65), .close []] ∧
      ¬ BannersSplit (List.replicate 255 65) := by
  have hnum : numBanners (List.replicate 255 65) = 2 := by
    rw [numBanners, List.length_replicate]
  have hfirst : bannerText (List.replicate 255 65) 0 = List.replicate 255 65 :=
    List.take_of_length_le (by rw [List.drop_replicate, List.length_replicate])
  have hsecond : bannerText (List.replicate 255 65) 1 = [] := by
    rw [bannerText, slice, List.drop_replicate, List.replicate_zero, List.take_nil]
  have hbanners : getBanners (List.replicate 255 65) =
      [.banner (List.replicate 255 65), .banner []] := by
    rw [getBanners, hnum, List.range_succ, List.range_one, List.singleton_append, List.map_cons,
      List.map_singleton, hfirst, hsecond]
  refine ⟨fun h => absurd (List.eq_of_mem_replicate h) (by decide), hbanners, ?_, fun h => ?_⟩
  · rw [getBannersAndClose_eq, List.length_replicate, hsecond, List.range_one,
      List.map_singleton, hfirst, List.map_singleton, List.singleton_append]
  · have hcount := h.banners.count
    rw [hbanners, List.length_replicate] at hcount
    exact absurd hcount (by decide)

end SimpleRouter
