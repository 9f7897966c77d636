import Mathlib.Data.List.TakeWhile
import SimpleRouter.Lib.Buffer

/-!
# Frames, byte order and names (`sr_protocol.h`, `sr_if.h`)

A frame is the list of its bytes. The router runs on a little-endian host and reads header fields
through packed structures, so a field is `u16` or `u32` of a slice, an assignment to it is a
`Buffer.put` of `u16Bytes` or `u32Bytes`, and `htons` swaps two bytes. The offsets of the fields
in a frame, as the packed structures of `sr_protocol.h` lay them out:

| header                  | fields                                                             |
|-------------------------|--------------------------------------------------------------------|
| `sr_ethernet_hdr` at 0  | `ether_dhost` 0, `ether_shost` 6, `ether_type` 12                   |
| `sr_ip_hdr` at 14       | `ip_hl`/`ip_v` 14, `ip_tos` 15, `ip_len` 16, `ip_id` 18, `ip_off` 20, `ip_ttl` 22, `ip_p` 23, `ip_sum` 24, `ip_src` 26, `ip_dst` 30 |
| `sr_icmp_hdr` at 34     | `icmp_type` 34, `icmp_code` 35, `icmp_sum` 36                       |
| `sr_icmp_t3_hdr` at 34  | the same, then `unused` 38, `next_mtu` 40, `data` 42 (28 bytes)     |
| `sr_arp_hdr` at 14      | `ar_hrd` 14, `ar_pro` 16, `ar_hln` 18, `ar_pln` 19, `ar_op` 20, `ar_sha` 22, `ar_sip` 28, `ar_tha` 32, `ar_tip` 38 |

An IP address is the `uint32_t` the host loads, that is, in network byte order as the source's
comments call it; the code only compares and masks addresses.
-/

namespace SimpleRouter

open Buffer

/-! ### Byte order -/

/-- The `uint16_t` a little-endian host loads from two bytes. -/
def u16 (s : List UInt8) : UInt16 :=
  UInt16.ofNat ((s.getD 0 0).toNat + 256 * (s.getD 1 0).toNat)

/-- The `uint32_t` a little-endian host loads from four bytes. -/
def u32 (s : List UInt8) : UInt32 :=
  UInt32.ofNat ((s.getD 0 0).toNat + 256 * (s.getD 1 0).toNat + 65536 * (s.getD 2 0).toNat +
    16777216 * (s.getD 3 0).toNat)

/-- The two bytes a `uint16_t` is stored as. -/
def u16Bytes (v : UInt16) : List UInt8 := [UInt8.ofNat v.toNat, UInt8.ofNat (v.toNat / 256)]

/-- The four bytes a `uint32_t` is stored as. -/
def u32Bytes (v : UInt32) : List UInt8 :=
  [UInt8.ofNat v.toNat, UInt8.ofNat (v.toNat / 256), UInt8.ofNat (v.toNat / 65536),
    UInt8.ofNat (v.toNat / 16777216)]

/-- `htons`, and `ntohs`: exchange the two bytes. -/
def htons (v : UInt16) : UInt16 := UInt16.ofNat (v.toNat % 256 * 256 + v.toNat / 256)

/-- `htonl`, and `ntohl`: reverse the four bytes. -/
def htonl (v : UInt32) : UInt32 := u32 (u32Bytes v).reverse

/-- A short word has two bytes. -/
@[simp] theorem length_u16Bytes (v : UInt16) : (u16Bytes v).length = 2 := by simp [u16Bytes]

/-- A word has four bytes. -/
@[simp] theorem length_u32Bytes (v : UInt32) : (u32Bytes v).length = 4 := by simp [u32Bytes]

/-- A short word is read back. -/
@[simp] theorem u16_u16Bytes (v : UInt16) : u16 (u16Bytes v) = v := by
  have hv := v.toNat_lt
  apply UInt16.toNat_inj.mp
  simp only [u16, u16Bytes, List.getD_cons_zero, List.getD_cons_succ, UInt8.toNat_ofNat',
    UInt16.toNat_ofNat']
  omega

/-- Swapping twice. -/
@[simp] theorem htons_htons (v : UInt16) : htons (htons v) = v := by
  have hv := v.toNat_lt
  have hsplit := Nat.div_add_mod v.toNat 256
  have hlo := Nat.mod_lt v.toNat (show 0 < 256 by omega)
  apply UInt16.toNat_inj.mp
  rw [htons, htons, UInt16.toNat_ofNat', UInt16.toNat_ofNat']
  generalize v.toNat / 256 = hi at *
  generalize v.toNat % 256 = lo at *
  rw [Nat.mod_eq_of_lt (show lo * 256 + hi < 2 ^ 16 by omega),
    show (lo * 256 + hi) % 256 = hi by omega, show (lo * 256 + hi) / 256 = lo by omega]
  omega

/-- A stored address is loaded back. -/
@[simp] theorem u32_u32Bytes (v : UInt32) : u32 (u32Bytes v) = v := by
  have hv := v.toNat_lt
  apply UInt32.toNat_inj.mp
  simp only [u32, u32Bytes, List.getD_cons_zero, List.getD_cons_succ, UInt8.toNat_ofNat',
    UInt32.toNat_ofNat']
  omega

/-- Four bytes are stored back as they were loaded. -/
theorem u32Bytes_u32 {s : List UInt8} (h : s.length = 4) : u32Bytes (u32 s) = s := by
  obtain ⟨a, b, c, d, rfl⟩ : ∃ a b c d, s = [a, b, c, d] := by
    match s, h with
    | [a, b, c, d], _ => exact ⟨a, b, c, d, rfl⟩
  have ha := a.toNat_lt
  have hb := b.toNat_lt
  have hc := c.toNat_lt
  have hd := d.toNat_lt
  simp only [u32, u32Bytes, List.getD_cons_zero, List.getD_cons_succ, UInt32.toNat_ofNat',
    List.cons.injEq, and_true, ← UInt8.toNat_inj, UInt8.toNat_ofNat']
  omega

/-- Swapping twice. -/
@[simp] theorem htonl_htonl (v : UInt32) : htonl (htonl v) = v := by
  have hlen : (u32Bytes v).reverse.length = 4 := by rw [List.length_reverse, length_u32Bytes]
  unfold htonl
  rw [u32Bytes_u32 hlen, List.reverse_reverse, u32_u32Bytes]

/-- A field holds a value exactly if its bytes are those the value is stored as. -/
theorem u16_eq_iff {a b : UInt8} {v : UInt16} : u16 [a, b] = v ↔ [a, b] = u16Bytes v := by
  have ha := a.toNat_lt
  have hb := b.toNat_lt
  have hv := v.toNat_lt
  constructor
  · rintro rfl
    simp only [u16, u16Bytes, List.getD_cons_zero, List.getD_cons_succ, UInt16.toNat_ofNat']
    rw [List.cons.injEq, List.cons.injEq]
    refine ⟨?_, ?_, rfl⟩
    · apply UInt8.toNat_inj.mp
      rw [UInt8.toNat_ofNat']
      omega
    · apply UInt8.toNat_inj.mp
      rw [UInt8.toNat_ofNat']
      omega
  · intro h
    apply UInt16.toNat_inj.mp
    rw [h]
    simp only [u16, u16Bytes, List.getD_cons_zero, List.getD_cons_succ, UInt8.toNat_ofNat',
      UInt16.toNat_ofNat']
    omega

/-! ### Hardware addresses and interface names -/

/-- An Ethernet address: `unsigned char[ETHER_ADDR_LEN]`.
Source: `sr_protocol.h`, `ETHER_ADDR_LEN` -/
@[ext] structure EtherAddr where
  /-- The six bytes. -/
  bytes : List UInt8
  /-- There are six of them. -/
  length_eq : bytes.length = 6
deriving DecidableEq

attribute [simp] EtherAddr.length_eq

/-- The six bytes at offset `o`, whatever memory holds past the end of the frame. -/
def EtherAddr.load (b : List UInt8) (after : ℕ → UInt8) (o : ℕ) : EtherAddr :=
  ⟨Buffer.load b after o 6, length_load b after o 6⟩

/-- What is read of memory as a C string begins with a text that has no NUL. -/
theorem takeWhile_append_string {s : List UInt8} (h : 0 ∉ s) (tail : List UInt8) :
    (s ++ tail).takeWhile (· ≠ 0) = s ++ tail.takeWhile (· ≠ 0) :=
  List.takeWhile_append_of_pos fun _ hc => decide_eq_true fun h0 => h (h0 ▸ hc)

/-- A C string is read up to the NUL behind it. -/
theorem takeWhile_append_nul {s : List UInt8} (h : 0 ∉ s) (tail : List UInt8) :
    (s ++ 0 :: tail).takeWhile (· ≠ 0) = s := by
  rw [takeWhile_append_string h, List.takeWhile_cons_of_neg (by decide), List.append_nil]

/-- A text without NUL is a C string. -/
theorem takeWhile_ne_zero {s : List UInt8} (h : 0 ∉ s) : s.takeWhile (· ≠ 0) = s := by
  have happend := takeWhile_append_string h []
  rwa [List.takeWhile_nil, List.append_nil] at happend

/-- The content of a `char[sr_IFACE_NAMELEN]` field: at most 32 characters before the first NUL.
`strncpy` into such a field and `strncmp` over 32 characters see nothing else, so
`strncmp(a, b, sr_IFACE_NAMELEN) == 0` is equality of names and a copy of a name is the name.
Source: `sr_protocol.h`, `sr_IFACE_NAMELEN` -/
structure IfaceName where
  /-- The characters. -/
  chars : List UInt8
  /-- None of them is NUL. -/
  nul_notMem : 0 ∉ chars
  /-- They fit the field. -/
  length_le : chars.length ≤ 32
deriving DecidableEq

/-- The name a C string denotes in a 32-character field.
Source: `strncpy(dst, src, sr_IFACE_NAMELEN)` -/
def IfaceName.ofChars (s : List UInt8) : IfaceName where
  chars := (s.takeWhile (· ≠ 0)).take 32
  nul_notMem h := by
    have := List.mem_takeWhile_imp (List.mem_of_mem_take h)
    simp at this
  length_le := by rw [List.length_take]; omega

/-! ### Header fields -/

/-- `ip_ttl` of a frame. -/
def ipTtl (p : List UInt8) : UInt8 := p.getD 22 0

/-- `ip_p` of a frame. -/
def ipP (p : List UInt8) : UInt8 := p.getD 23 0

/-- `ip_sum` of a frame. -/
def ipSum (p : List UInt8) : UInt16 := u16 (slice p 24 2)

/-- `ip_src` of a frame. -/
def ipSrc (p : List UInt8) : UInt32 := u32 (slice p 26 4)

/-- `ip_dst` of a frame. -/
def ipDst (p : List UInt8) : UInt32 := u32 (slice p 30 4)

/-- `icmp_type` of a frame. -/
def icmpType (p : List UInt8) : UInt8 := p.getD 34 0

/-- `icmp_code` of a frame. -/
def icmpCode (p : List UInt8) : UInt8 := p.getD 35 0

/-- The 20 bytes `cksum(ip_hdr, sizeof(sr_ip_hdr_t))` runs over. -/
def ipHdr (p : List UInt8) : List UInt8 := slice p 14 20

/-- The bytes of a frame from the ICMP header on. -/
def icmpPart (p : List UInt8) : List UInt8 := slice p 34 (p.length - 34)

/-- `ether_dhost` of a frame. -/
def etherDhost (p : List UInt8) : List UInt8 := slice p 0 6

/-- `ether_shost` of a frame. -/
def etherShost (p : List UInt8) : List UInt8 := slice p 6 6

end SimpleRouter
