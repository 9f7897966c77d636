import SimpleRouter.Receive
import SimpleRouter.Step

/-!
# Which messages are parsed inside their buffer

The length of a message is checked against an upper bound only. `Fits` says what each handler
needs besides: the header of its message type, a NUL where it reads a string, and, since the
interface name of a packet is compared over 32 characters, that no interface name goes on where
the message ends.

Each handler has one lemma, `ForAll` of its log; `inside_iff_fits` puts them together. **Every
access and every length computed stays in the buffer exactly if the message fits**, and
`shortPacket` is one that does not.
-/

namespace SimpleRouter

open Buffer Stream Logged Wire

/-- What a message needs so that it is parsed inside its buffer. -/
def Fits (env : VnsEnv) (s : Session) (expected : Option VnsCommand) (m : Message) : Prop :=
  8 ≤ m.len ∧ (¬ Unexpected expected m.command →
    match VnsCommand.handled m.command with
    | some .packet => 24 ≤ m.len ∧
        (40 ≤ m.len ∨ ∀ iface ∈ s.sr.ifList, ¬ m.payload <+: iface.name.chars)
    | some .close => 0 ∈ m.payload
    | some .banner => 0 ∈ m.payload
    | some .rtable => 0 ∈ m.payload ∧ (env.rtableOpen = true → 40 ≤ m.len)
    | some .authStatus => m.payload ≠ [] ∧ (m.payload.headD 0 ≠ 0 ∨ 0 ∈ m.payload.tail)
    | _ => True)

/-! ### Lengths -/

/-- A length minus the size of a header wraps below the size. -/
theorem toNat_len_sub {n : ℕ} {k : UInt32} (hn : n ≤ 10000) :
    (UInt32.ofNat n - k).toNat = if k.toNat ≤ n then n - k.toNat else 2 ^ 32 + n - k.toNat := by
  have hk := k.toNat_lt
  rw [UInt32.toNat_sub, UInt32.toNat_ofNat']
  split_ifs <;> omega

/-- The two constants in the length of a frame are the size of the packet header. -/
theorem len_sub_add (n : UInt32) : n - 38 + 14 = n - 24 := by
  rw [UInt32.sub_eq_add_neg, UInt32.add_assoc, UInt32.sub_eq_add_neg]
  rfl

/-! ### Strings -/

/-- The bytes in front of a zero are fewer exactly if there is one. -/
theorem length_takeWhile_lt_iff {l : List UInt8} :
    (l.takeWhile (· ≠ 0)).length < l.length ↔ 0 ∈ l := by
  induction l with
  | nil => simp
  | cons a l ih =>
      by_cases ha : a = 0
      · simp [ha]
      · rw [List.takeWhile_cons_of_pos (by simpa using ha), List.length_cons, List.length_cons,
          Nat.add_lt_add_iff_right, ih, List.mem_cons]
        simp [Ne.symm ha]

/-- A string is read inside the buffer if it ends there. -/
theorem readString_within {buf : List UInt8} {off : ℕ} :
    (readString buf off).Within buf.length ↔ 0 ∈ buf.drop off := by
  show off + (((buf.drop off).takeWhile (· ≠ 0)).length + 1) ≤ buf.length ↔ _
  rw [← length_takeWhile_lt_iff, List.length_drop]
  omega

/-- `strncmp` looks at no more bytes than it is told. -/
theorem strncmpSpan_le (k : ℕ) (chars mem : List UInt8) : strncmpSpan k chars mem ≤ k := by
  induction k, chars, mem using strncmpSpan.induct with
  | case1 chars mem => simp [strncmpSpan]
  | case2 k a as bs ih => simpa [strncmpSpan] using ih
  | case3 k a as b bs hab => simp [strncmpSpan, hab]
  | case4 k chars mem hcons => simp [strncmpSpan]

/-- A name is compared inside `s` unless it goes on where `s` ends. -/
theorem strncmpSpan_append_le_iff {k : ℕ} {chars s : List UInt8} (tail : List UInt8)
    (h : s.length < k) :
    strncmpSpan k chars (s ++ tail) ≤ s.length ↔ ¬ s <+: chars := by
  induction s generalizing k chars with
  | nil =>
      obtain ⟨k, rfl⟩ : ∃ j, k = j + 1 := ⟨k - 1, by rw [List.length_nil] at h; omega⟩
      cases chars with
      | nil => simp [strncmpSpan]
      | cons a as =>
          cases tail with
          | nil => simp [strncmpSpan]
          | cons b bs =>
              simp only [strncmpSpan, List.nil_append, List.length_nil]
              split_ifs <;> simp
  | cons b s ih =>
      rw [List.length_cons] at h ⊢
      obtain ⟨k, rfl⟩ : ∃ j, k = j + 1 := ⟨k - 1, by omega⟩
      cases chars with
      | nil => simp [strncmpSpan]
      | cons a as =>
          rw [List.cons_append, strncmpSpan, List.cons_prefix_cons]
          split_ifs with hab
          · rw [Nat.add_le_add_iff_right, ih (by omega)]
            simp [hab]
          · simp [Ne.symm hab]

/-- A string without NUL starts the name read from it and what follows. -/
theorem prefix_ofChars {s tail : List UInt8} (h : 0 ∉ s) (hlen : s.length ≤ 32) :
    s <+: (IfaceName.ofChars (s ++ tail)).chars := by
  show s <+: ((s ++ tail).takeWhile (· ≠ 0)).take 32
  rw [takeWhile_append_string h, List.take_append, List.take_of_length_le hlen]
  exact List.prefix_append _ _

/-! ### The handlers -/

section handlers

variable {m : Message} {env : VnsEnv}

/-- An interface name that ends in the payload is no prefix of a name. -/
theorem not_prefix_of_mem {s : List UInt8} (h : 0 ∈ s) (name : IfaceName) : ¬ s <+: name.chars :=
  fun hp => name.nul_notMem (hp.subset h)

/-- The name of the interface is compared inside the message, unless the message is short and agrees
with a name up to its end. -/
theorem nameReads_inside (hlen : 8 ≤ m.len) (ifs : List SrIf) :
    (∀ e ∈ nameReads (load m.arrived env.heap 8 32) ifs, e.Within m.len) ↔
      40 ≤ m.len ∨ ∀ iface ∈ ifs, ¬ m.payload <+: iface.name.chars := by
  by_cases hlong : 40 ≤ m.len
  · refine iff_of_true ?_ (.inl hlong)
    generalize load m.arrived env.heap 8 32 = mem
    induction ifs with
    | nil => rintro _ ⟨⟩
    | cons iface ifs ih =>
        intro e he
        rcases List.mem_cons.mp he with rfl | he
        · have := strncmpSpan_le 32 iface.name.chars mem
          show 8 + _ ≤ m.len
          omega
        · split_ifs at he
          · cases he
          · exact ih e he
  · have harr := m.length_arrived hlen
    obtain ⟨tail, htail⟩ : ∃ tail, load m.arrived env.heap 8 32 = m.arrived.drop 8 ++ tail :=
      exists_load_eq_append (harr ▸ hlen) (by omega)
    have hpay := m.length_payload
    rw [m.drop_arrived] at htail
    rw [htail, or_iff_right hlong]
    induction ifs with
    | nil => exact iff_of_true (by rintro _ ⟨⟩) (by rintro _ ⟨⟩)
    | cons iface ifs ih =>
        have hfirst :
            Io.Within m.len (.read 8 (strncmpSpan 32 iface.name.chars (m.payload ++ tail))) ↔
              ¬ m.payload <+: iface.name.chars := by
          rw [← strncmpSpan_append_le_iff (k := 32) tail (by omega), hpay]
          show 8 + _ ≤ m.len ↔ _
          omega
        rw [nameReads, List.forall_mem_cons, List.forall_mem_cons, hfirst]
        refine and_congr_right fun hnot => ?_
        split_ifs with hname
        -- the search stops here, so the name ends in the message
        · have hnul : 0 ∈ m.payload := by
            by_contra hnul
            rw [hname] at hnot
            exact hnot (prefix_ofChars hnul (by omega))
          exact iff_of_true (by rintro _ ⟨⟩) fun i _ => not_prefix_of_mem hnul i.name
        · exact ih

/-- After the name, the check for other routers' requests reads inside the frame. -/
theorem srArpReqNotForUs_inside {sr : SrInstance} {len : ℕ} {name : List UInt8}
    (hlen : 24 + len ≤ m.len) :
    ForAll (Io.Within m.len) (srArpReqNotForUs env sr m.arrived len name) ↔
      ∀ e ∈ nameReads name sr.ifList, e.Within m.len := by
  rw [srArpReqNotForUs, forAll_bind, forAll_tells]
  refine and_iff_left fun _ _ => ?_
  by_cases hshort : len < 42
  · rw [if_pos hshort]
    exact forAll_pure _
  rw [if_neg hshort]
  have h₁ : Io.Within m.len (.read 36 2) := show 36 + 2 ≤ m.len by omega
  have h₂ : Io.Within m.len (.read 44 2) := show 44 + 2 ≤ m.len by omega
  have h₃ : Io.Within m.len (.read 62 4) := show 62 + 4 ≤ m.len by omega
  cases srGetInterface sr (IfaceName.ofChars name) with
  | none => exact forAll_stop _
  | some iface =>
      refine forAll_tell_bind.mpr ⟨h₁, ?_⟩
      by_cases htype : u16 (load m.arrived env.heap 36 2) ≠ htons 0x0806
      · rw [if_pos htype]
        exact forAll_pure _
      rw [if_neg htype]
      refine forAll_tell_bind.mpr ⟨h₂, ?_⟩
      by_cases hop : u16 (load m.arrived env.heap 44 2) ≠ htons 1
      · rw [if_pos hop]
        exact forAll_pure _
      rw [if_neg hop]
      exact forAll_tell_bind.mpr ⟨h₃, forAll_pure _⟩

/-- A packet inside of the message is logged inside. -/
theorem srLogPacket_inside {logfile : Bool} {len : UInt32} (hlen : 24 + len.toNat ≤ m.len) :
    ∀ e ∈ srLogPacket logfile len, e.Within m.len := by
  have hle := m.len_le
  have hint : len.toBitVec.toInt = len.toNat :=
    BitVec.toInt_eq_toNat_of_lt (show 2 * len.toNat < 2 ^ 32 by omega)
  have hread : Io.Within m.len (.read 24 (min 1024 len.toBitVec.toInt % 2 ^ 32).toNat) := by
    show 24 + _ ≤ m.len
    rw [hint]
    omega
  unfold srLogPacket
  split_ifs
  · rintro e he
    rcases List.mem_cons.mp he with rfl | he
    · exact hlen
    · obtain rfl := List.mem_singleton.mp he
      exact hread
  · rintro e he
    obtain rfl := List.mem_singleton.mp he
    exact hlen

/-- A packet needs its header, and a name that ends in it or 32 bytes from the name on. -/
theorem handleVnspacket_inside {s : Session} (hlen : 8 ≤ m.len) :
    ForAll (Io.Within m.len) (handleVnspacket env s m.arrived) ↔ 24 ≤ m.len ∧
      (40 ≤ m.len ∨ ∀ iface ∈ s.sr.ifList, ¬ m.payload <+: iface.name.chars) := by
  have hle := m.len_le
  have harr := m.length_arrived hlen
  have h24 : (24 : UInt32).toNat = 24 := rfl
  have hregion : Io.Within m.len (.region 24 (UInt32.ofNat m.len - 24).toNat) ↔ 24 ≤ m.len := by
    show 24 + (UInt32.ofNat m.len - 24).toNat ≤ m.len ↔ _
    rw [toNat_len_sub hle, h24]
    split_ifs <;> omega
  rw [handleVnspacket, forAll_tell_bind, harr, len_sub_add,
    hregion]
  refine and_congr_right fun hheader => ?_
  have hlog : (UInt32.ofNat m.len - 24).toNat = m.len - 24 := by
    rw [toNat_len_sub hle, h24, if_pos hheader]
  rw [hlog, forAll_bind, srArpReqNotForUs_inside (by omega), nameReads_inside hlen]
  refine and_iff_left fun drop _ => ?_
  split_ifs
  · exact forAll_pure _
  have h₁ : Io.Within m.len (.read 0 4) := show 0 + 4 ≤ m.len by omega
  refine forAll_tell_bind.mpr ⟨h₁, ?_⟩
  refine forAll_bind.mpr ⟨?_, fun _ _ => ?_⟩
  · rw [forAll_tells, m.netWord_len]
    exact srLogPacket_inside (by omega)
  refine forAll_tell_bind.mpr ⟨trivial, ?_⟩
  split
  · refine forAll_bind.mpr ⟨(forAll_tells _).mpr ?_, fun _ _ => forAll_pure _⟩
    intro e he
    obtain ⟨o, -, rfl⟩ := List.mem_map.mp he
    trivial
  · exact forAll_stop _

/-- The number of entries of a message, which is that of the whole ones in its payload. -/
theorem numEntries_ofNat {n : ℕ} (hlo : 8 ≤ n) (hhi : n ≤ 10000) :
    numEntries (UInt32.ofNat n) = ((n - 8) / 36 : ℕ) := by
  have hq : (((UInt32.ofNat n).toUInt64 - 8) / 36).toUInt32.toNat = (n - 8) / 36 := by
    have h8 : (8 : UInt64).toNat = 8 := rfl
    have h36 : (36 : UInt64).toNat = 36 := rfl
    rw [UInt64.toNat_toUInt32, UInt64.toNat_div, UInt64.toNat_sub, UInt32.toNat_toUInt64,
      UInt32.toNat_ofNat', h8, h36]
    omega
  rw [numEntries, BitVec.toInt_eq_toNat_of_lt]
  · exact congrArg Nat.cast hq
  · show 2 * (((UInt32.ofNat n).toUInt64 - 8) / 36).toUInt32.toNat < 2 ^ 32
    omega

/-- An entry is read inside itself. -/
theorem hwinfoEntry_inside {buf : List UInt8} {n i : ℕ} {ifs : List SrIf}
    (hn : 8 + 36 * (i + 1) ≤ n) : ForAll (Io.Within n) (hwinfoEntry env buf i ifs) := by
  have hread : ∀ k ≤ 32, Io.Within n (.read (8 + 36 * i + 4) k) := by
    intro k hk
    show 8 + 36 * i + 4 + k ≤ n
    omega
  have hkey : Io.Within n (.read (8 + 36 * i) 4) := by
    show 8 + 36 * i + 4 ≤ n
    omega
  refine forAll_tell_bind.mpr ⟨hkey, ?_⟩
  split
  · exact forAll_tell_bind.mpr ⟨(hread _ (by omega)), forAll_pure _⟩
  · by_cases hnil : ifs = []
    · rw [if_pos hnil]
      exact forAll_stop _
    · rw [if_neg hnil]
      exact forAll_tell_bind.mpr ⟨(hread 6 (by omega)), forAll_pure _⟩
  · refine forAll_tell_bind.mpr ⟨(hread 4 (by omega)), ?_⟩
    split_ifs
    · exact forAll_stop _
    · exact forAll_pure _
  · exact forAll_pure _

/-- Entries inside of the message are read inside. -/
theorem hwinfoLoop_inside {buf : List UInt8} {n i k : ℕ} {ifs : List SrIf}
    (hn : 8 + 36 * (i + k) ≤ n) : ForAll (Io.Within n) (hwinfoLoop env buf i k ifs) := by
  induction k generalizing i ifs with
  | zero => exact forAll_pure _
  | succ k ih =>
      rw [hwinfoLoop, forAll_bind]
      exact ⟨hwinfoEntry_inside (by omega), fun ifs' _ => ih (by omega)⟩

/-- The entries of a message lie in it. -/
theorem srHandleHwinfo_inside {sr : SrInstance} (hlen : 8 ≤ m.len) :
    ForAll (Io.Within m.len) (srHandleHwinfo env sr m.arrived) := by
  have hword : Io.Within m.len (.read 0 4) := show 0 + 4 ≤ m.len by omega
  have hdiv := Nat.div_mul_le_self (m.len - 8) 36
  refine forAll_tell_bind.mpr ⟨hword, ?_⟩
  simp only [m.netWord_len, numEntries_ofNat hlen m.len_le, Int.toNat_natCast]
  have hregion : Io.Within m.len (.region 8 (36 * ((m.len - 8) / 36))) := by
    show 8 + 36 * ((m.len - 8) / 36) ≤ m.len
    omega
  refine forAll_tell_bind.mpr ⟨hregion, ?_⟩
  exact forAll_bind.mpr ⟨hwinfoLoop_inside (by omega), fun _ _ => forAll_pure _⟩

/-- A routing table needs the NUL of the host name, and its header if it is written to a file. -/
theorem srHandleRtable_inside (hlen : 8 ≤ m.len) :
    ForAll (Io.Within m.len) (srHandleRtable env m.arrived) ↔
      0 ∈ m.payload ∧ (env.rtableOpen = true → 40 ≤ m.len) := by
  have hle := m.len_le
  have harr := m.length_arrived hlen
  have hword : Io.Within m.len (.read 0 4) := show 0 + 4 ≤ m.len by omega
  have hname : Io.Within m.len (readString m.arrived 8) ↔ 0 ∈ m.payload := by
    rw [← harr, readString_within, m.drop_arrived]
  rw [srHandleRtable, forAll_tell_bind, hname]
  refine and_congr_right fun hnul => ?_
  have hregion : Io.Within m.len (.region 40 (UInt32.ofNat m.len - 8 - 32).toNat) ↔
      40 ≤ m.len := by
    have h40 : (40 : UInt32).toNat = 40 := rfl
    have hsub : UInt32.ofNat m.len - 8 - 32 = UInt32.ofNat m.len - 40 := by
      rw [UInt32.sub_eq_add_neg, UInt32.sub_eq_add_neg, UInt32.add_assoc, UInt32.sub_eq_add_neg]
      rfl
    show 40 + (UInt32.ofNat m.len - 8 - 32).toNat ≤ m.len ↔ _
    rw [hsub, toNat_len_sub hle, h40]
    split_ifs <;> omega
  by_cases hlong : 32 < (tableHost env m.arrived).length
  · rw [if_pos hlong]
    refine iff_of_true (forAll_stop _) fun _ => ?_
    -- the name is longer than its field, and ends in the message
    by_contra hshort
    obtain ⟨tail, htail⟩ : ∃ tail, load m.arrived env.heap 8 33 = m.arrived.drop 8 ++ tail :=
      exists_load_eq_append (harr ▸ hlen) (by omega)
    have hmem : (0 : UInt8) ∈ load m.arrived env.heap 8 33 := by
      rw [htail, m.drop_arrived]
      exact List.mem_append_left tail hnul
    have hlt : (tableHost env m.arrived).length < (load m.arrived env.heap 8 33).length :=
      length_takeWhile_lt_iff.mpr hmem
    rw [length_load] at hlt
    omega
  · rw [if_neg hlong]
    cases hopen : env.rtableOpen with
    | false => exact iff_of_true (forAll_pure _) (by rintro ⟨⟩)
    | true =>
        rw [if_pos rfl, forAll_tell_bind, m.netWord_len,
          forAll_tell_bind, hregion, forAll_tell_bind]
        refine ⟨fun h _ => h.2.1, fun h => ⟨hword, h rfl, trivial, forAll_pure _⟩⟩

/-- A salt lies in its message. -/
theorem srHandleAuthRequest_inside {user : CStr 32} (hlen : 8 ≤ m.len) :
    ForAll (Io.Within m.len) (srHandleAuthRequest env user m.arrived) := by
  have hword : Io.Within m.len (.read 0 4) := show 0 + 4 ≤ m.len by omega
  unfold srHandleAuthRequest
  split
  · exact forAll_pure _
  · refine forAll_tell_bind.mpr ⟨hword, ?_⟩
    refine forAll_tell_bind.mpr ⟨?_, ?_⟩
    · have h8 : (8 : UInt32).toNat = 8 := rfl
      show 8 + (netWord env m.arrived 0 - 8).toNat ≤ m.len
      rw [m.netWord_len, toNat_len_sub m.len_le, h8, if_pos hlen]
      omega
    · split
      · exact forAll_pure _
      · exact forAll_tell_bind.mpr ⟨trivial, forAll_pure _⟩

/-- A status needs its `auth_ok`, and the NUL of its message if that is printed. -/
theorem srHandleAuthStatus_inside (hlen : 8 ≤ m.len) :
    ForAll (Io.Within m.len) (srHandleAuthStatus env m.arrived) ↔
      m.payload ≠ [] ∧ (m.payload.headD 0 ≠ 0 ∨ 0 ∈ m.payload.tail) := by
  have harr := m.length_arrived hlen
  have hpay := m.length_payload
  have hok : Io.Within m.len (.read 8 1) ↔ m.payload ≠ [] := by
    rw [← List.length_pos_iff]
    show 8 + 1 ≤ m.len ↔ _
    omega
  have hmsg : Io.Within m.len (readString m.arrived 9) ↔ 0 ∈ m.payload.tail := by
    rw [← harr, readString_within, ← m.drop_arrived, List.tail_drop]
  rw [srHandleAuthStatus, forAll_tell_bind, hok]
  refine and_congr_right fun hne => ?_
  have hhead : authOk env m.arrived = m.payload.headD 0 := by
    have h9 : 8 + 1 ≤ m.arrived.length := by
      have := hok.mpr hne
      rw [harr]
      exact this
    rw [authOk, load_eq_slice h9, slice, m.drop_arrived]
    cases m.payload <;> rfl
  rw [hhead]
  split_ifs with hzero
  · exact iff_of_true (forAll_pure _) (.inl hzero)
  · rw [forAll_tell_bind, hmsg, or_iff_right hzero]
    exact and_iff_left (forAll_pure _)

end handlers

/-! ### The whole call -/

section call

variable {m : Message} {env : VnsEnv} {s : Session} {expected : Option VnsCommand}

/-- A message with both words stays in its buffer exactly if it fits. -/
theorem dispatch_inside (hlen : 8 ≤ m.len) :
    ForAll (Io.Within m.len) (dispatch env s expected m.command m.arrived) ↔
      Fits env s expected m := by
  have hstring : Io.Within m.len (readString m.arrived 8) ↔ 0 ∈ m.payload := by
    rw [← m.length_arrived hlen, readString_within, m.drop_arrived]
  rw [dispatch, forAll_tell_bind, Fits, and_iff_right hlen]
  refine (and_iff_right trivial).trans ?_
  by_cases hun : Unexpected expected m.command
  · rw [if_pos hun]
    exact iff_of_true (forAll_pure _) fun h => absurd hun h
  rw [if_neg hun, forall_prop_of_true hun, handleCommand]
  cases VnsCommand.handled m.command with
  | none => exact iff_of_true (forAll_pure _) trivial
  | some c =>
      cases c with
      | packet => exact handleVnspacket_inside hlen
      | close =>
          refine (forAll_bind_of_val rfl).trans ?_
          rw [forAll_tell, hstring]
          exact and_iff_left (forAll_pure _)
      | banner =>
          refine (forAll_bind_of_val rfl).trans ?_
          rw [forAll_tell, hstring]
          exact and_iff_left (forAll_pure _)
      | hwinfo =>
          exact iff_of_true
            (forAll_bind.mpr ⟨srHandleHwinfo_inside hlen, fun _ _ => forAll_pure _⟩) trivial
      | rtable =>
          refine forAll_bind.trans ?_
          rw [srHandleRtable_inside hlen]
          exact and_iff_left fun _ _ => forAll_pure _
      | authRequest =>
          exact iff_of_true
            (forAll_bind.mpr ⟨srHandleAuthRequest_inside hlen, fun _ _ => forAll_pure _⟩) trivial
      | authStatus =>
          refine forAll_bind.trans ?_
          rw [srHandleAuthStatus_inside hlen]
          exact and_iff_left fun _ _ => forAll_pure _
      | openTopo => exact iff_of_true (forAll_pure _) trivial
      | openTemplate => exact iff_of_true (forAll_pure _) trivial
      | authReply => exact iff_of_true (forAll_pure _) trivial

/-- A message without both words is written past its end. -/
theorem readBody_outside {sock : Socket} {rest : List UInt8} {fuel : ℕ} (hfuel : fuel ≥ 10000)
    (hshort : m.len < 8) (harrive : arriving sock = m.body ++ rest) :
    ¬ ForAll (Io.Within m.len) (readBody fuel env (be 4 m.len) m.len sock) := by
  intro h
  rw [readBody, forAll_tell_bind] at h
  obtain ⟨hlen, h⟩ := h
  have h4 : 4 ≤ m.len := by
    have : 0 + 4 ≤ m.len := hlen
    omega
  obtain ⟨sock', -, -, hloop⟩ := readBody_loop h4 harrive
  rw [if_neg (by omega)] at h
  rw [forAll_bind_of_val (hloop fuel hfuel env)] at h
  have htype : Io.Within m.len (.read 4 4) := by
    have := h.2
    simp only [forAll_tell_bind] at this
    exact this.1
  have : 4 + 4 ≤ m.len := htype
  omega

/-- **A message is parsed inside its buffer exactly if it fits.** -/
theorem inside_iff_fits {sock : Socket} (hsock : NoError sock) {rest : List UInt8}
    (hbytes : bytes sock = m.bytes ++ rest) {fuel : ℕ} (hfuel : fuel ≥ 10000) :
    (∀ e ∈ (srReadFromServerExpect fuel env s expected sock).log, e.Within m.len) ↔
      Fits env s expected m := by
  by_cases hlen : 8 ≤ m.len
  · obtain ⟨sock', -, -, hcall⟩ := srReadFromServerExpect_eq hlen hsock hbytes
    obtain ⟨log, hlog, hread⟩ := hcall fuel hfuel env s expected
    rw [hread]
    refine (forAll_bind_of_val rfl).trans ?_
    rw [forAll_tells, and_iff_right fun e he => (hlog e he).2, forAll_bind,
      dispatch_inside hlen]
    exact and_iff_left fun _ _ => forAll_pure _
  · refine iff_of_false ?_ fun h => hlen h.1
    rw [← arriving_of_noError hsock] at hbytes
    obtain ⟨sock', harrive, -, hstart⟩ := readCommand_start hbytes
    obtain ⟨log, -, hread⟩ := hstart fuel hfuel env
    intro h
    have houtside : ¬ ForAll (Io.Within m.len) (readBody fuel env (be 4 m.len) m.len sock') :=
      readBody_outside hfuel (by omega) harrive
    refine houtside fun e he => ?_
    refine (forAll_bind.mp h).1 e ?_
    rw [hread]
    exact List.mem_append_right log he

end call

/-- Nothing is known of memory, the clock stands still, and nothing is sent. -/
def quietEnv : VnsEnv where
  stack _ := 0
  heap _ := 0
  router := ⟨0, fun _ => 0, fun _ => 0, fun _ _ => 0, some 0⟩
  fresh _ := (⟨[0, 0, 0, 0, 0, 0], rfl⟩, 0)
  rtableOpen := false
  authKey := none
  sha1 _ := none
  sent := -1

/-- A client that knows no interface and no route. -/
def bareSession : Session where
  sr := srInit [] []
  user := ⟨[], by decide, by decide⟩
  host := ⟨[], by decide, by decide⟩
  template := ⟨[], by decide, by decide⟩
  topoId := 0
  logfile := false

/-- A banner of one letter, cut in pieces, stays in its ten bytes. -/
theorem inside_choppy :
    ForAll (Io.Within 10) (srReadFromServerExpect 10000 quietEnv bareSession none choppy) := by
  have hsock : NoError choppy := by simp [NoError, choppy]
  have hbytes : bytes choppy =
      (Message.mk 10 (by decide) [0, 0, 0, 8, 65, 0] rfl).bytes ++ [0, 0, 0, 8, 0, 0, 0, 9] := by
    decide
  refine (inside_iff_fits hsock hbytes (le_refl 10000)).mpr ⟨by decide, fun _ => ?_⟩
  show (0 : UInt8) ∈ [65, 0]
  decide

/-- A packet that ends inside its header. -/
def shortPacket : Message :=
  ⟨20, by decide, [0, 0, 0, 4, 101, 116, 104, 48, 0, 0, 0, 0, 0, 0, 0, 0], rfl⟩

/-- It is handed on as a frame of `20 - 38 + 14` bytes, in `uint32_t`, from byte 24 on. -/
theorem shortPacket_outside :
    Io.region 24 4294967292 ∈ (srReadFromServerExpect 10000 quietEnv bareSession none
      [.segment shortPacket.bytes (by decide)]).log ∧
    ¬ Io.Within shortPacket.len (.region 24 4294967292) := by
  have hsock : NoError [.segment shortPacket.bytes (by decide)] := by simp [NoError]
  have hbytes : bytes [.segment shortPacket.bytes (by decide)] = shortPacket.bytes ++ [] := rfl
  obtain ⟨sock', -, -, hcall⟩ := srReadFromServerExpect_eq (by decide) hsock hbytes
  obtain ⟨log, -, hread⟩ := hcall 10000 le_rfl quietEnv bareSession none
  have hcase : VnsCommand.handled shortPacket.command = some .packet := by decide
  have hout : ¬ 24 + 4294967292 ≤ shortPacket.len := by decide
  refine ⟨?_, hout⟩
  have hpacket : Io.region 24 4294967292 ∈
      (handleVnspacket quietEnv bareSession shortPacket.arrived).log := by
    rw [handleVnspacket, tell_bind]
    exact List.mem_cons_self
  have hdispatch : Io.region 24 4294967292 ∈
      (dispatch quietEnv bareSession none shortPacket.command shortPacket.arrived).log := by
    rw [dispatch, if_neg (by decide), handleCommand, hcase, tell_bind]
    exact List.mem_cons_of_mem _ hpacket
  rw [hread]
  exact mem_log_bind_right rfl (mem_log_bind_left hdispatch)

end SimpleRouter
