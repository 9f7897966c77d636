import SimpleRouter.Instance
import SimpleRouter.Cksum

/-!
# The frames the router builds

One definition for each place of the source that fills a buffer, written as its assignments in
order. A buffer from `calloc` starts as zeros; so does one from `malloc` here, where the source
goes on to assign every byte of it.

* `putCksum` — the idiom `h->sum = 0; h->sum = cksum(h, n)` all builders share, with what it does
  to the window it checks (`valid_putCksum`) and to the others (`slice_putCksum_of_disjoint`).
* `createArpRequest`, `arpReplyFrame`, `icmpT3Frame`, `icmpResponseFrame` — the four frames built
  from scratch.
* `rewriteTransit` — what forwarding changes in the IP header; `rewriteEther` — the addresses the
  forwarding and the flush path put in front of it.
-/

namespace SimpleRouter

open Buffer OnesComplement

/-- Zero the 16-bit field at `o`, then store in it `cksum` of the `n` bytes from `start`.
Source: `sr_router.c`, `send_icmp_response`: `h->sum = 0; h->sum = cksum(h, n)` -/
def putCksum (p : List UInt8) (o start n : ℕ) : List UInt8 :=
  let p := put p o (u16Bytes 0)
  put p o (u16Bytes (cksum (slice p start n)))

/-- Writing a checksum keeps the length. -/
@[simp] theorem length_putCksum (p : List UInt8) (o start n : ℕ) :
    (putCksum p o start n).length = p.length := by
  simp [putCksum]

/-- A window beside the checksum stays. -/
theorem slice_putCksum_of_disjoint {p : List UInt8} {o start n i m : ℕ}
    (h : i + m ≤ o ∨ o + 2 ≤ i) : slice (putCksum p o start n) i m = slice p i m := by
  rw [putCksum, slice_put_of_disjoint (by simpa using h), slice_put_of_disjoint (by simpa using h)]

/-- A byte beside the checksum stays. -/
theorem getElem?_putCksum_of_outside {p : List UInt8} {o start n i : ℕ} (h : i < o ∨ o + 2 ≤ i) :
    (putCksum p o start n)[i]? = p[i]? := by
  rw [putCksum, getElem?_put_of_outside (by simpa using h),
    getElem?_put_of_outside (by simpa using h)]

/-- **The checked window is valid.** -/
theorem valid_putCksum {p : List UInt8} {o start n : ℕ} (hstart : start ≤ o)
    (ho : o + 2 ≤ start + n) (hn : start + n ≤ p.length) (heven : (o - start) % 2 = 0)
    (hle : n ≤ 131074) : Valid (slice (putCksum p o start n) start n) := by
  have hlen : (slice p start n).length = n := by rw [length_slice]; omega
  rw [putCksum, slice_put_of_subset hstart (by simpa using ho),
    slice_put_of_subset hstart (by simpa using ho), put_put_same (by simp)]
  exact valid_put_cksum heven (by omega) (by omega)

/-! ### Forwarding -/

/-- The transit branch: decrement the TTL and recompute the header checksum.
Source: `sr_router.c`, `handle_ip_packet`, from `ip_hdr->ip_ttl--` to `cksum` -/
def rewriteTransit (packet : List UInt8) : List UInt8 :=
  let packet := put packet 22 [ipTtl packet - 1]
  putCksum packet 24 14 20

/-- Put the two hardware addresses in front of a frame.
Source: `sr_router.c`, `handle_ip_packet` and the flush loop of `handle_arp_packet` -/
def rewriteEther (packet : List UInt8) (shost dhost : EtherAddr) : List UInt8 :=
  put (put packet 6 shost.bytes) 0 dhost.bytes

/-! ### ARP -/

/-- A broadcast ARP request for `ip` out of `iface`.
Source: `sr_arpcache.c`, `create_arp_request` -/
def createArpRequest (iface : SrIf) (ip : UInt32) : List UInt8 :=
  let p := List.replicate 42 0
  let p := put p 0 (List.replicate 6 0xff)
  let p := put p 6 iface.addr.bytes
  let p := put p 12 (u16Bytes (htons 0x0806))
  let p := put p 14 (u16Bytes (htons 1))
  let p := put p 16 (u16Bytes (htons 0x0800))
  let p := put p 18 [6]
  let p := put p 19 [4]
  let p := put p 20 (u16Bytes (htons 1))
  let p := put p 22 iface.addr.bytes
  let p := put p 28 (u32Bytes iface.ip)
  let p := put p 32 (List.replicate 6 0)
  put p 38 (u32Bytes ip)

/-- The reply to an ARP request, as long as the request.
Source: `sr_router.c`, `handle_arp_packet`, the `arp_op_request` branch -/
def arpReplyFrame (iface : SrIf) (packet : List UInt8) : List UInt8 :=
  let p := List.replicate packet.length 0
  let p := put p 6 iface.addr.bytes
  let p := put p 0 (etherShost packet)
  let p := put p 12 (u16Bytes (htons 0x0806))
  let p := put p 14 (slice packet 14 28)
  let p := put p 20 (u16Bytes (htons 2))
  let p := put p 32 (slice packet 22 6)
  let p := put p 22 iface.addr.bytes
  let p := put p 28 (u32Bytes iface.ip)
  put p 38 (slice packet 28 4)

/-! ### ICMP -/

/-- Fill the type 3 ICMP header with its 28 quoted bytes.
Source: `sr_router.c`, `send_icmp_response`, the second ICMP branch, and `sr_send_icmp_t3` -/
def putIcmpT3 (p : List UInt8) (type code : UInt8) (quoted : List UInt8) : List UInt8 :=
  let p := put p 34 [type]
  let p := put p 35 [code]
  let p := put p 38 (u16Bytes 0)
  let p := put p 40 (u16Bytes 0)
  let p := put p 42 quoted
  putCksum p 36 34 36

/-- Fill the ICMP part of an echo reply with the request's.
Source: `sr_router.c`, `send_icmp_response`, the `type == 0` ICMP branch -/
def putIcmpEcho (p : List UInt8) (type code : UInt8) (packet : List UInt8) : List UInt8 :=
  let p := put p 34 (icmpPart packet)
  let p := put p 34 [type]
  let p := put p 35 [code]
  putCksum p 36 34 (packet.length - 34)

/-- The host unreachable message for a queued packet. It reads the packet through its headers
whatever its length; `after` is the memory past its end.
Source: `sr_arpcache.c`, `sr_send_icmp_t3` -/
def icmpT3Frame (iface : SrIf) (packet : List UInt8) (after : ℕ → UInt8) (type code : UInt8) :
    List UInt8 :=
  let p := List.replicate 70 0
  let p := put p 0 (load packet after 6 6)
  let p := put p 6 iface.addr.bytes
  let p := put p 12 (u16Bytes (htons 0x0800))
  let p := put p 14 [0x45]
  let p := put p 15 [0]
  let p := put p 16 (u16Bytes (htons 56))
  let p := put p 18 (u16Bytes 0)
  let p := put p 20 (u16Bytes (htons 0x4000))
  let p := put p 22 [64]
  let p := put p 23 [1]
  let p := put p 26 (u32Bytes iface.ip)
  let p := put p 30 (load packet after 26 4)
  let p := putCksum p 24 14 20
  putIcmpT3 p type code (load packet after 14 28)

/-- The answer to a received packet: an echo reply as long as the packet, or a type 3 message that
quotes 28 bytes of it.
Source: `sr_router.c`, `send_icmp_response` -/
def icmpResponseFrame (outInterface : SrIf) (ip : UInt32) (packet : List UInt8)
    (after : ℕ → UInt8) (type code : UInt8) : List UInt8 :=
  let responseLen := if type = 0 then packet.length else 70
  let p := List.replicate responseLen 0
  -- ICMP
  let p := if type = 0 then putIcmpEcho p type code packet
    else putIcmpT3 p type code (load packet after 14 28)
  -- IP
  let p := put p 14 (ipHdr packet)
  let p := put p 22 [255]
  let p := put p 23 [1]
  let p := put p 26 (u32Bytes ip)
  let p := put p 30 (u32Bytes (ipSrc packet))
  let p := put p 16 (u16Bytes (htons (UInt16.ofNat (responseLen - 14))))
  let p := putCksum p 24 14 20
  -- Ethernet
  let p := put p 6 outInterface.addr.bytes
  let p := put p 0 (etherShost packet)
  put p 12 (u16Bytes (htons 0x0800))

end SimpleRouter
