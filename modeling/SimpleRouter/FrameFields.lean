import SimpleRouter.Router

/-!
# What the frames hold

The fields of the frames built by `Frames.lean`, read back, and the checksums in them. A frame is a
sequence of writes at constant offsets, so each reading skips the writes that miss its window and
ends at the one that made it.

* `createArpRequest`, `arpReplyFrame` — source address and Ethernet type.
* `icmpT3Frame` — addresses of both layers, and both checksums
  (`valid_ipHdr_icmpT3Frame`, `valid_icmpPart_icmpT3Frame`).
* `icmpResponseFrame` — source address, type and code, length, and both checksums
  (`valid_ipHdr_icmpResponseFrame`, `valid_icmpPart_icmpResponseFrame`);
  `slice_icmpResponseFrame_inherited` — the part of the IP header that is the packet's.
-/

namespace SimpleRouter

open Buffer OnesComplement

/-- The Ethernet type of a frame that has one. -/
theorem ethertype_eq {p : List UInt8} (h : 14 ≤ p.length) (after : ℕ → UInt8) :
    ethertype p after = htons (u16 (slice p 12 2)) := by
  rw [ethertype, load_eq_slice h]

/-! ### ARP -/

section arp

variable {iface : SrIf} {ip : UInt32} {packet : List UInt8}

/-- A request has 42 bytes. -/
@[simp] theorem length_createArpRequest : (createArpRequest iface ip).length = 42 := by
  simp [createArpRequest]

/-- A reply is as long as the request it answers. -/
@[simp] theorem length_arpReplyFrame : (arpReplyFrame iface packet).length = packet.length := by
  simp [arpReplyFrame]

/-- A request comes from its interface. -/
theorem etherShost_createArpRequest :
    etherShost (createArpRequest iface ip) = iface.addr.bytes := by
  unfold etherShost createArpRequest
  simp (disch := simp) only [slice_put_of_disjoint, slice_put_same]

/-- A request is an ARP frame. -/
theorem ethertype_createArpRequest (after : ℕ → UInt8) :
    ethertype (createArpRequest iface ip) after = 0x0806 := by
  rw [ethertype_eq (by simp)]
  unfold createArpRequest
  simp (disch := simp) only [slice_put_of_disjoint, slice_put_same]
  decide

/-- A sender has six bytes. -/
theorem length_etherShost (h : 12 ≤ packet.length) : (etherShost packet).length = 6 := by
  rw [etherShost, length_slice]
  omega

/-- A reply comes from its interface. -/
theorem etherShost_arpReplyFrame (h : 42 ≤ packet.length) :
    etherShost (arpReplyFrame iface packet) = iface.addr.bytes := by
  have hshost : (etherShost packet).length = 6 := length_etherShost (by omega)
  rw [etherShost, arpReplyFrame]
  simp (disch := simp [hshost]) only [slice_put_of_disjoint]
  refine slice_put_same iface.addr.length_eq ?_
  rw [List.length_replicate]
  omega

/-- A reply is an ARP frame. -/
theorem ethertype_arpReplyFrame (h : 42 ≤ packet.length) (after : ℕ → UInt8) :
    ethertype (arpReplyFrame iface packet) after = 0x0806 := by
  rw [ethertype_eq (by rw [length_arpReplyFrame]; omega), arpReplyFrame]
  simp (disch := simp) only [slice_put_of_disjoint]
  rw [slice_put_same (length_u16Bytes _) (by simp only [length_put, List.length_replicate]; omega)]
  decide

end arp

/-! ### ICMP -/

/-- The type and the code of an error are the ones asked for. -/
theorem icmpType_putIcmpT3 {p quoted : List UInt8} {type code : UInt8} (hp : 36 ≤ p.length) :
    icmpType (putIcmpT3 p type code quoted) = type ∧
      icmpCode (putIcmpT3 p type code quoted) = code := by
  unfold icmpType icmpCode putIcmpT3
  dsimp only
  simp only [List.getD_eq_getElem?_getD]
  constructor <;>
    rw [getElem?_putCksum_of_outside (by omega), getElem?_put_of_outside (by omega),
      getElem?_put_of_outside (by omega), getElem?_put_of_outside (by omega), getElem?_put]
  · rw [if_neg (by simp), getElem?_put, if_pos (by simp; omega)]
    rfl
  · rw [if_pos (by simp; omega)]
    rfl

/-- What a type 3 message quotes. -/
theorem slice_putIcmpT3_quoted {p quoted : List UInt8} {type code : UInt8}
    (hq : quoted.length = 28) (hp : 70 ≤ p.length) :
    slice (putIcmpT3 p type code quoted) 42 28 = quoted := by
  unfold putIcmpT3
  dsimp only
  rw [slice_putCksum_of_disjoint (by omega)]
  exact slice_put_same hq (by simpa using hp)

section icmpEcho

variable {p packet : List UInt8} {type code : UInt8}

/-- What an echo reply keeps of the request. -/
theorem getElem?_putIcmpEcho (hp : p.length = packet.length) {k : ℕ} (hk : 38 ≤ k) :
    (putIcmpEcho p type code packet)[k]? = packet[k]? := by
  have hlen : (icmpPart packet).length = packet.length - 34 := by
    rw [icmpPart, length_slice]
    omega
  unfold putIcmpEcho
  dsimp only
  rw [getElem?_putCksum_of_outside (by omega), getElem?_put_of_outside (by simp; omega),
    getElem?_put_of_outside (by simp; omega), getElem?_put]
  by_cases hin : k < packet.length
  · rw [if_pos (by omega), icmpPart, getElem?_slice, if_pos (by omega),
      show 34 + (k - 34) = k by omega]
  · rw [if_neg (by omega), List.getElem?_eq_none (by omega), List.getElem?_eq_none (by omega)]

/-- The type and the code of an echo reply are the ones asked for. -/
theorem icmpType_putIcmpEcho (hp : 36 ≤ p.length) :
    icmpType (putIcmpEcho p type code packet) = type ∧
      icmpCode (putIcmpEcho p type code packet) = code := by
  unfold icmpType icmpCode putIcmpEcho
  dsimp only
  simp only [List.getD_eq_getElem?_getD]
  constructor <;> rw [getElem?_putCksum_of_outside (by omega), getElem?_put]
  · rw [if_neg (by simp), getElem?_put, if_pos (by simp; omega)]
    rfl
  · rw [if_pos (by simp; omega)]
    rfl

end icmpEcho

section icmpT3

variable {iface : SrIf} {packet : List UInt8} {after : ℕ → UInt8} {type code : UInt8}

/-- An error has 70 bytes. -/
@[simp] theorem length_icmpT3Frame : (icmpT3Frame iface packet after type code).length = 70 := by
  simp [icmpT3Frame, putIcmpT3]

/-- An error goes to where the packet came from. -/
theorem etherDhost_icmpT3Frame :
    etherDhost (icmpT3Frame iface packet after type code) = load packet after 6 6 := by
  unfold etherDhost icmpT3Frame putIcmpT3
  simp (disch := simp) only [slice_put_of_disjoint, slice_putCksum_of_disjoint, slice_put_same]

/-- An error comes from its interface. -/
theorem etherShost_icmpT3Frame :
    etherShost (icmpT3Frame iface packet after type code) = iface.addr.bytes := by
  unfold etherShost icmpT3Frame putIcmpT3
  simp (disch := simp) only [slice_put_of_disjoint, slice_putCksum_of_disjoint, slice_put_same]

/-- Its source is the address of the interface. -/
theorem ipSrc_icmpT3Frame : ipSrc (icmpT3Frame iface packet after type code) = iface.ip := by
  unfold ipSrc icmpT3Frame putIcmpT3
  simp (disch := simp) only [slice_put_of_disjoint, slice_putCksum_of_disjoint, slice_put_same]
  exact u32_u32Bytes iface.ip

/-- Its destination is the source of the packet. -/
theorem ipDst_icmpT3Frame :
    ipDst (icmpT3Frame iface packet after type code) = u32 (load packet after 26 4) := by
  unfold ipDst icmpT3Frame putIcmpT3
  simp (disch := simp) only [slice_put_of_disjoint, slice_putCksum_of_disjoint, slice_put_same]

/-- It quotes the IP header of the packet and eight bytes more. -/
theorem slice_icmpT3Frame_quoted :
    slice (icmpT3Frame iface packet after type code) 42 28 = load packet after 14 28 := by
  unfold icmpT3Frame
  exact slice_putIcmpT3_quoted (length_load _ _ _ _) (by simp)

/-- Its header has a valid checksum. -/
theorem valid_ipHdr_icmpT3Frame : Valid (ipHdr (icmpT3Frame iface packet after type code)) := by
  unfold ipHdr icmpT3Frame putIcmpT3
  simp (disch := simp) only [slice_put_of_disjoint, slice_putCksum_of_disjoint]
  refine valid_putCksum ?_ ?_ ?_ ?_ ?_ <;> simp

/-- Its ICMP part has a valid checksum. -/
theorem valid_icmpPart_icmpT3Frame :
    Valid (icmpPart (icmpT3Frame iface packet after type code)) := by
  rw [icmpPart, length_icmpT3Frame]
  unfold icmpT3Frame putIcmpT3
  refine valid_putCksum ?_ ?_ ?_ ?_ ?_ <;> simp

end icmpT3

section icmpResponse

variable {outInterface : SrIf} {ip : UInt32} {packet : List UInt8} {after : ℕ → UInt8}
  {type code : UInt8}

/-- An echo reply is as long as its request, and every other answer has 70 bytes. -/
@[simp] theorem length_icmpResponseFrame :
    (icmpResponseFrame outInterface ip packet after type code).length =
      if type = 0 then packet.length else 70 := by
  unfold icmpResponseFrame
  split_ifs <;> simp [putIcmpEcho, putIcmpT3]

/-- The frame with its ICMP part filled in has room for the headers. -/
theorem le_length_icmp (h : 34 ≤ packet.length) (after : ℕ → UInt8) (type code : UInt8) :
    34 ≤ (if type = 0 then
        putIcmpEcho (List.replicate (if type = 0 then packet.length else 70) 0) type code packet
      else putIcmpT3 (List.replicate (if type = 0 then packet.length else 70) 0) type code
        (load packet after 14 28)).length := by
  split_ifs
  · simpa [putIcmpEcho] using h
  · simp [putIcmpT3]

/-- An answer comes from the interface it leaves on. -/
theorem etherShost_icmpResponseFrame (h : 34 ≤ packet.length) :
    etherShost (icmpResponseFrame outInterface ip packet after type code) =
      outInterface.addr.bytes := by
  have hshost : (etherShost packet).length = 6 := length_etherShost (by omega)
  have hicmp := le_length_icmp h after type code
  rw [etherShost, icmpResponseFrame]
  simp (disch := simp [hshost]) only [slice_put_of_disjoint]
  refine slice_put_same outInterface.addr.length_eq ?_
  simp only [length_put, length_putCksum]
  omega

/-- Its source is the address it is given. -/
theorem ipSrc_icmpResponseFrame (h : 34 ≤ packet.length) :
    ipSrc (icmpResponseFrame outInterface ip packet after type code) = ip := by
  have hshost : (etherShost packet).length = 6 := length_etherShost (by omega)
  have hicmp := le_length_icmp h after type code
  unfold ipSrc icmpResponseFrame
  simp (disch := simp [hshost]) only [slice_put_of_disjoint, slice_putCksum_of_disjoint]
  rw [slice_put_same (length_u32Bytes ip) (by simp only [length_put]; omega), u32_u32Bytes]

/-- Its destination is the source of the packet. -/
theorem ipDst_icmpResponseFrame (h : 34 ≤ packet.length) :
    ipDst (icmpResponseFrame outInterface ip packet after type code) = ipSrc packet := by
  have hshost : (etherShost packet).length = 6 := length_etherShost (by omega)
  have hicmp := le_length_icmp h after type code
  unfold ipDst icmpResponseFrame
  simp (disch := simp [hshost]) only [slice_put_of_disjoint, slice_putCksum_of_disjoint]
  rw [slice_put_same (length_u32Bytes _) (by simp only [length_put]; omega), u32_u32Bytes]

/-- It sets out with a time to live of 255. -/
theorem ipTtl_icmpResponseFrame (h : 34 ≤ packet.length) :
    ipTtl (icmpResponseFrame outInterface ip packet after type code) = 255 := by
  have hshost : (etherShost packet).length = 6 := length_etherShost (by omega)
  have hicmp := le_length_icmp h after type code
  have hcell : slice (icmpResponseFrame outInterface ip packet after type code) 22 1 = [255] := by
    unfold icmpResponseFrame
    simp (disch := simp [hshost]) only [slice_put_of_disjoint, slice_putCksum_of_disjoint]
    exact slice_put_same rfl (by simp only [length_put]; omega)
  rw [ipTtl, List.getD_eq_getElem?_getD, ← getElem?_slice_zero Nat.one_pos, hcell]
  rfl

/-- It goes to where the packet came from. -/
theorem etherDhost_icmpResponseFrame (h : 34 ≤ packet.length) :
    etherDhost (icmpResponseFrame outInterface ip packet after type code) = etherShost packet := by
  have hshost : (etherShost packet).length = 6 := length_etherShost (by omega)
  have hicmp := le_length_icmp h after type code
  unfold etherDhost icmpResponseFrame
  simp (disch := simp [hshost]) only [slice_put_of_disjoint]
  exact slice_put_same hshost (by simp only [length_put, length_putCksum]; omega)

/-- Its header has a valid checksum. -/
theorem valid_ipHdr_icmpResponseFrame (h : 34 ≤ packet.length) :
    Valid (ipHdr (icmpResponseFrame outInterface ip packet after type code)) := by
  have hshost : (etherShost packet).length = 6 := length_etherShost (by omega)
  have hicmp := le_length_icmp h after type code
  rw [ipHdr, icmpResponseFrame]
  simp (disch := simp [hshost]) only [slice_put_of_disjoint]
  exact valid_putCksum (by omega) (by omega) (by simpa only [length_put] using hicmp) (by omega)
    (by omega)

/-- A window of the IP header no field assigned lies in comes from the packet. -/
theorem slice_icmpResponseFrame_inherited (h : 34 ≤ packet.length) {i n : ℕ}
    (hi : (14 ≤ i ∧ i + n ≤ 16) ∨ (18 ≤ i ∧ i + n ≤ 22)) :
    slice (icmpResponseFrame outInterface ip packet after type code) i n = slice packet i n := by
  have hshost : (etherShost packet).length = 6 := length_etherShost (by omega)
  have hhdr : (ipHdr packet).length = 20 := by
    rw [ipHdr, length_slice]
    omega
  have haddr := outInterface.addr.length_eq
  unfold icmpResponseFrame
  dsimp only
  rw [slice_put_of_disjoint (by simp; omega), slice_put_of_disjoint (by omega),
    slice_put_of_disjoint (by omega), slice_putCksum_of_disjoint (by omega),
    slice_put_of_disjoint (by simp; omega), slice_put_of_disjoint (by simp; omega),
    slice_put_of_disjoint (by simp; omega), slice_put_of_disjoint (by simp; omega),
    slice_put_of_disjoint (by simp; omega), slice_put_inside (by omega) (by omega), ipHdr,
    slice_slice (by omega), show 14 + (i - 14) = i by omega]
  rw [hhdr]
  exact le_length_icmp h after type code

/-- The length field of an answer. -/
theorem u16_ipLen_icmpResponseFrame (h : 34 ≤ packet.length) :
    u16 (slice (icmpResponseFrame outInterface ip packet after type code) 16 2) =
      htons (UInt16.ofNat
        ((icmpResponseFrame outInterface ip packet after type code).length - 14)) := by
  have hshost : (etherShost packet).length = 6 := length_etherShost (by omega)
  rw [length_icmpResponseFrame]
  unfold icmpResponseFrame
  dsimp only
  rw [slice_put_of_disjoint (by simp), slice_put_of_disjoint (by omega),
    slice_put_of_disjoint (by simp), slice_putCksum_of_disjoint (by omega),
    slice_put_same (length_u16Bytes _), u16_u16Bytes]
  simp only [length_put]
  have hicmp := le_length_icmp h after type code
  omega

/-- The headers in front do not reach the ICMP part. -/
theorem getElem?_icmpResponseFrame {k : ℕ} (hk : 34 ≤ k) :
    (icmpResponseFrame outInterface ip packet after type code)[k]? =
      (if type = 0 then putIcmpEcho (List.replicate packet.length 0) type code packet
        else putIcmpT3 (List.replicate 70 0) type code (load packet after 14 28))[k]? := by
  have hhdr : (ipHdr packet).length ≤ 20 := by
    rw [ipHdr, length_slice]
    omega
  have haddr := outInterface.addr.length_eq
  have hshost : (etherShost packet).length ≤ 6 := by
    rw [etherShost, length_slice]
    omega
  unfold icmpResponseFrame
  dsimp only
  rw [getElem?_put_of_outside (by simp; omega), getElem?_put_of_outside (by omega),
    getElem?_put_of_outside (by omega), getElem?_putCksum_of_outside (by omega),
    getElem?_put_of_outside (by simp; omega), getElem?_put_of_outside (by simp; omega),
    getElem?_put_of_outside (by simp; omega), getElem?_put_of_outside (by simp; omega),
    getElem?_put_of_outside (by simp; omega), getElem?_put_of_outside (by omega)]
  split_ifs <;> rfl

/-- What a message that is no echo reply quotes. -/
theorem slice_icmpResponseFrame_quoted (h : type ≠ 0) :
    slice (icmpResponseFrame outInterface ip packet after type code) 42 28 =
      load packet after 14 28 := by
  have hquoted : slice (putIcmpT3 (List.replicate 70 0) type code (load packet after 14 28)) 42 28 =
      load packet after 14 28 :=
    slice_putIcmpT3_quoted (length_load _ _ _ _) (List.length_replicate ..).ge
  rw [← hquoted]
  apply List.ext_getElem?
  intro k
  rw [getElem?_slice, getElem?_slice, getElem?_icmpResponseFrame (by omega), if_neg h]

/-- A message that is no echo reply has the type and the code asked for. -/
theorem icmpType_icmpResponseFrame (h : type ≠ 0) :
    icmpType (icmpResponseFrame outInterface ip packet after type code) = type ∧
      icmpCode (icmpResponseFrame outInterface ip packet after type code) = code := by
  have hp : 36 ≤ (List.replicate 70 (0 : UInt8)).length := by simp
  rw [icmpType, icmpCode, List.getD_eq_getElem?_getD, List.getD_eq_getElem?_getD,
    getElem?_icmpResponseFrame (by omega), getElem?_icmpResponseFrame (by omega), if_neg h,
    ← List.getD_eq_getElem?_getD, ← List.getD_eq_getElem?_getD]
  exact icmpType_putIcmpT3 hp

/-- An echo reply has type zero, and from its identifier on it is the request. -/
theorem icmpType_echoReply (h : 36 ≤ packet.length) :
    icmpType (icmpResponseFrame outInterface ip packet after 0 code) = 0 ∧
      icmpCode (icmpResponseFrame outInterface ip packet after 0 code) = code := by
  have hp : 36 ≤ (List.replicate packet.length (0 : UInt8)).length := by simpa using h
  rw [icmpType, icmpCode, List.getD_eq_getElem?_getD, List.getD_eq_getElem?_getD,
    getElem?_icmpResponseFrame (by omega), getElem?_icmpResponseFrame (by omega), if_pos rfl,
    ← List.getD_eq_getElem?_getD, ← List.getD_eq_getElem?_getD]
  exact icmpType_putIcmpEcho hp

/-- An echo reply gives back what follows the checksum of its request. -/
theorem drop_echoReply :
    (icmpResponseFrame outInterface ip packet after 0 code).drop 38 = packet.drop 38 := by
  apply List.ext_getElem?
  intro k
  rw [List.getElem?_drop, List.getElem?_drop, getElem?_icmpResponseFrame (by omega), if_pos rfl,
    getElem?_putIcmpEcho (List.length_replicate ..) (by omega)]

/-- The ICMP part of an answer is written on zeros. -/
theorem icmpPart_icmpResponseFrame :
    icmpPart (icmpResponseFrame outInterface ip packet after type code) =
      icmpPart (if type = 0 then putIcmpEcho (List.replicate packet.length 0) type code packet
        else putIcmpT3 (List.replicate 70 0) type code (load packet after 14 28)) := by
  have hlen : (icmpResponseFrame outInterface ip packet after type code).length =
      (if type = 0 then putIcmpEcho (List.replicate packet.length 0) type code packet
        else putIcmpT3 (List.replicate 70 0) type code (load packet after 14 28)).length := by
    rw [length_icmpResponseFrame]
    split_ifs <;> simp [putIcmpEcho, putIcmpT3]
  rw [icmpPart, icmpPart, hlen]
  apply List.ext_getElem?
  intro k
  rw [getElem?_slice, getElem?_slice, getElem?_icmpResponseFrame (Nat.le_add_right 34 k)]

/-- Its ICMP part has a valid checksum. -/
theorem valid_icmpPart_icmpResponseFrame (h : 38 ≤ packet.length)
    (hle : packet.length ≤ 131108) :
    Valid (icmpPart (icmpResponseFrame outInterface ip packet after type code)) := by
  rw [icmpPart_icmpResponseFrame]
  split_ifs
  · rw [icmpPart, putIcmpEcho]
    simp only [length_putCksum, length_put, List.length_replicate]
    exact valid_putCksum (by omega) (by omega) (by simp; omega) (by omega) (by omega)
  · rw [icmpPart, putIcmpT3]
    simp only [length_putCksum, length_put, List.length_replicate]
    exact valid_putCksum (by omega) (by omega) (by simp) (by omega) (by omega)

end icmpResponse

end SimpleRouter
