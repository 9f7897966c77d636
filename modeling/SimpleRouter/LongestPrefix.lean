import SimpleRouter.Transit
import SimpleRouter.Lib.FirstMax

/-!
# Longest-prefix match

`sr_longest_prefix_match` compares masks as the `uint32_t` a little-endian host loads, not prefix
lengths. For the masks of prefixes the two orders agree: the ones of a longer prefix fill the bytes
from the low-order end of the loaded number (`netmask_lt_iff`, and `mask_lt_iff` for the masks of a
table).

* `longestPrefixMatch_eq_scan` — the search is a running maximum of the masks of the entries that
  match, from `0`.
* `longestPrefixMatch_firstLongest` — **it finds the first longest match** whenever an entry of
  length at least one matches.
* `netUnreachable_iff` — **when it finds nothing exactly if nothing matches**, and the sender is
  told so: a mask of `0.0.0.0` is not larger than the initial best, so a default route alone is
  never found (`defaultRoute_unreachable`), and the answer needs a pointer that is never assigned.
* `longestPrefixMatch_perm` — **the order of the table does not matter** where mask and network tell
  its entries apart.
-/

namespace SimpleRouter

open Buffer

variable {sr sr' : SrInstance} {destIp : UInt32}

/-! ### Masks -/

/-- The mask of prefix length `n` in network byte order: `n` ones, then zeros. -/
def netmask (n : ℕ) : UInt32 := htonl (UInt32.ofNat (2 ^ 32 - 2 ^ (32 - n)))

/-- The number of leading ones of a mask in network byte order. -/
def prefixLen (mask : UInt32) : ℕ :=
  ((List.range 32).takeWhile fun i => (htonl mask).toNat.testBit (31 - i)).length

/-- A mask without a one after a zero. -/
def Contiguous (mask : UInt32) : Prop := ∃ n ≤ 32, mask = netmask n

/-- The length of the prefix of a mask. -/
theorem prefixLen_netmask {n : ℕ} (h : n ≤ 32) : prefixLen (netmask n) = n := by
  have hall : (List.range 33).all (fun n => prefixLen (netmask n) = n) = true := by
    decide +kernel
  exact of_decide_eq_true (List.all_eq_true.mp hall n (List.mem_range.mpr (by omega)))

/-- One more leading one makes the loaded number larger, inside a byte and across two. -/
theorem netmask_lt_succ {n : ℕ} (h : n < 32) : netmask n < netmask (n + 1) := by
  have hall : (List.range 32).all (fun n => netmask n < netmask (n + 1)) = true := by
    decide +kernel
  exact of_decide_eq_true (List.all_eq_true.mp hall n (List.mem_range.mpr h))

/-- A longer prefix has the larger mask. -/
theorem netmask_lt {m n : ℕ} (hmn : m < n) (hn : n ≤ 32) : netmask m < netmask n := by
  induction n, hmn using Nat.le_induction with
  | base => exact netmask_lt_succ hn
  | succ n _ ih => exact Std.lt_trans (ih (by omega)) (netmask_lt_succ hn)

/-- **Byte swapping keeps prefix masks ordered.** -/
theorem netmask_lt_iff {m n : ℕ} (hm : m ≤ 32) (hn : n ≤ 32) : netmask m < netmask n ↔ m < n := by
  constructor
  · intro h
    by_contra hle
    rcases Nat.lt_or_eq_of_le (not_lt.mp hle) with hlt | rfl
    · exact Std.lt_irrefl (Std.lt_trans h (netmask_lt hlt hm))
    · exact Std.lt_irrefl h
  · exact fun h => netmask_lt h hn

/-- Contiguous masks compare, as the words the code loads, as the lengths of their prefixes. -/
theorem mask_lt_iff {m n : UInt32} (hm : Contiguous m) (hn : Contiguous n) :
    m < n ↔ prefixLen m < prefixLen n := by
  obtain ⟨i, hi, rfl⟩ := hm
  obtain ⟨j, hj, rfl⟩ := hn
  rw [prefixLen_netmask hi, prefixLen_netmask hj, netmask_lt_iff hi hj]

/-- The same, not strictly. -/
theorem mask_le_iff {m n : UInt32} (hm : Contiguous m) (hn : Contiguous n) :
    m ≤ n ↔ prefixLen m ≤ prefixLen n := by
  rw [← Std.not_lt, mask_lt_iff hn hm, not_lt]

/-! ### The search -/

/-- The entry covers the address: `(dest_ip & mask) == (dest & mask)`. -/
def SrRt.Matches (rt : SrRt) (destIp : UInt32) : Prop := destIp &&& rt.mask = rt.dest &&& rt.mask

instance (rt : SrRt) (destIp : UInt32) : Decidable (rt.Matches destIp) :=
  inferInstanceAs (Decidable (_ = _))

/-- The search is a running maximum of the masks. -/
theorem longestPrefixMatch_eq_scan (sr : SrInstance) (destIp : UInt32) :
    srLongestPrefixMatch sr destIp =
      (FirstMax.scan (fun rt => rt.Matches destIp) SrRt.mask 0 sr.routingTable).1 := rfl

/-- What the search returns is the first match with the largest mask. -/
theorem isFirstMax_of_match {rt : SrRt} (h : srLongestPrefixMatch sr destIp = some rt) :
    FirstMax.IsFirstMax (fun rt => rt.Matches destIp) SrRt.mask sr.routingTable rt := by
  rw [longestPrefixMatch_eq_scan] at h
  exact (FirstMax.isFirstMax_of_scan h).1

/-- The search returns nothing if the entries that match all have the mask `0`. -/
theorem longestPrefixMatch_eq_none_iff :
    srLongestPrefixMatch sr destIp = none ↔
      ∀ rt ∈ sr.routingTable, rt.Matches destIp → rt.mask = 0 := by
  have hzero : ∀ mask : UInt32, mask ≤ 0 ↔ mask = 0 := by
    intro mask
    rw [UInt32.le_iff_toNat_le, ← UInt32.toNat_inj, UInt32.toNat_zero, Nat.le_zero]
  rw [longestPrefixMatch_eq_scan, FirstMax.scan_eq_none_iff]
  simp only [hzero]

/-- **The first longest match is found.** In a table of prefix masks, if an entry of prefix length
at least one matches, the search returns an entry that matches, that no matching entry is longer
than, and that those before it are shorter than. -/
theorem longestPrefixMatch_firstLongest (hmask : ∀ rt ∈ sr.routingTable, Contiguous rt.mask)
    (hmatch : ∃ rt ∈ sr.routingTable, 1 ≤ prefixLen rt.mask ∧ rt.Matches destIp) :
    ∃ before best after, sr.routingTable = before ++ best :: after ∧
      srLongestPrefixMatch sr destIp = some best ∧ best.Matches destIp ∧
      (∀ rt ∈ sr.routingTable, rt.Matches destIp → prefixLen rt.mask ≤ prefixLen best.mask) ∧
      ∀ rt ∈ before, rt.Matches destIp → prefixLen rt.mask < prefixLen best.mask := by
  have hfound : srLongestPrefixMatch sr destIp ≠ none := by
    rw [Ne, longestPrefixMatch_eq_none_iff]
    intro hnone
    obtain ⟨rt, hrt, hlen, hrtMatches⟩ := hmatch
    rw [hnone rt hrt hrtMatches, show (0 : UInt32) = netmask 0 by decide +kernel,
      prefixLen_netmask (by omega)] at hlen
    omega
  obtain ⟨best, hbest⟩ := Option.ne_none_iff_exists'.mp hfound
  have hmax := isFirstMax_of_match hbest
  have hbestMask := hmask best hmax.mem
  have hlongest : ∀ rt ∈ sr.routingTable, rt.Matches destIp →
      prefixLen rt.mask ≤ prefixLen best.mask := by
    intro rt hrt hrtMatches
    exact (mask_le_iff (hmask rt hrt) hbestMask).mp (hmax.le hrt hrtMatches)
  obtain ⟨before, after, hsplit, hbestMatches, hbefore, -⟩ := hmax
  refine ⟨before, best, after, hsplit, hbest, hbestMatches, hlongest, fun rt hrt hrtMatches => ?_⟩
  have hrtTable : rt ∈ sr.routingTable := hsplit ▸ List.mem_append_left _ hrt
  exact (mask_lt_iff (hmask rt hrtTable) hbestMask).mp (hbefore rt hrt hrtMatches)

/-- The entry `10.0.0.0/n` through `10.0.2.2` on `eth`*i*. -/
def tenRoute (n : ℕ) (i : UInt8) : SrRt := ⟨netAddr 0 0, netAddr 2 2, netmask n, ethName i⟩

/-- A router with five of them. -/
def tenRouter : SrInstance :=
  srInit [ethIf 1] [tenRoute 0 1, tenRoute 8 1, tenRoute 14 1, tenRoute 14 2, tenRoute 23 3]

/-- For `10.2.2.9` it finds one of the two of length 14. -/
theorem longestPrefixMatch_tenRouter :
    ∃ before best after, tenRouter.routingTable = before ++ best :: after ∧
      srLongestPrefixMatch tenRouter (u32 [10, 2, 2, 9]) = some best ∧
      best.Matches (u32 [10, 2, 2, 9]) ∧
      (∀ rt ∈ tenRouter.routingTable, rt.Matches (u32 [10, 2, 2, 9]) →
        prefixLen rt.mask ≤ prefixLen best.mask) ∧
      ∀ rt ∈ before, rt.Matches (u32 [10, 2, 2, 9]) →
        prefixLen rt.mask < prefixLen best.mask := by
  have hmask : ∀ rt ∈ tenRouter.routingTable, Contiguous rt.mask := by
    intro rt hrt
    obtain rfl | rfl | rfl | rfl | rfl : rt = tenRoute 0 1 ∨ rt = tenRoute 8 1 ∨
        rt = tenRoute 14 1 ∨ rt = tenRoute 14 2 ∨ rt = tenRoute 23 3 := by
      simpa [tenRouter, srInit] using hrt
    all_goals exact ⟨_, by decide, rfl⟩
  exact longestPrefixMatch_firstLongest hmask
    ⟨tenRoute 8 1, by decide +kernel, by decide +kernel, by decide +kernel⟩

/-! ### No route -/

/-- **Net unreachable only when there is no route**: the search for an address returns nothing
exactly if no entry matches, and a transit packet for the address is answered with net unreachable
exactly if its time is not up and no entry matches. -/
def NetUnreachableIffNoRoute (sr : SrInstance) (env : Env) (destIp : UInt32) : Prop :=
  (srLongestPrefixMatch sr destIp = none ↔ ∀ rt ∈ sr.routingTable, ¬ rt.Matches destIp) ∧
  ∀ buf interface, IsTransit sr buf → ipDst buf = destIp →
    (srGetInterface sr interface).isSome →
    ((∃ p, handleIpPacket sr env buf interface =
        .ok (sr, [.send (.icmpResponse 3 0) p interface])) ↔
      ipTtl buf - 1 ≠ 0 ∧ ∀ rt ∈ sr.routingTable, ¬ rt.Matches destIp)

/-- A transit packet is answered with net unreachable exactly if its time is not up, the search
finds nothing, and the stray pointer can be read. -/
theorem handleIpPacket_netUnreachable_iff {env : Env} {buf : List UInt8} {interface : IfaceName}
    (ht : IsTransit sr buf) (hif : (srGetInterface sr interface).isSome) :
    (∃ p, handleIpPacket sr env buf interface =
        .ok (sr, [.send (.icmpResponse 3 0) p interface])) ↔
      ipTtl buf - 1 ≠ 0 ∧ srLongestPrefixMatch sr (ipDst buf) = none ∧ env.strayHdr.isSome := by
  constructor
  · rintro ⟨p, h⟩
    rcases handleIpPacket_effects h (List.mem_singleton_self _) with
      ⟨packet, type, code, ipInterface, _, he, hverdict, hstray, -⟩ | ⟨_, _, _, _, _, he, -⟩ |
      ⟨_, _, he, -⟩ | ⟨_, _, _, _, he⟩ | ⟨_, _, _, _, he⟩ <;> cases he
    rw [verdict_of_transit ht] at hverdict
    rcases transitVerdict_cases sr buf with ⟨-, hv⟩ | ⟨httl, hrt, -⟩ | ⟨_, _, -, -, -, hv⟩ |
      ⟨_, -, -, -, hv⟩
    · rw [hv] at hverdict
      cases hverdict
    · exact ⟨httl, hrt, hstray⟩
    all_goals
      rw [hv] at hverdict
      cases hverdict
  · rintro ⟨httl, hrt, hstray⟩
    obtain ⟨outInterface, hout⟩ := Option.isSome_iff_exists.mp hif
    have hverdict : transitVerdict sr (put buf 24 (u16Bytes 0)) =
        .respond (transitCopy buf) 3 0 none := by
      rcases transitVerdict_cases sr buf with ⟨h, -⟩ | ⟨-, -, hv⟩ | ⟨_, _, -, h, -, -⟩ |
        ⟨_, -, h, -, -⟩
      · exact absurd h httl
      · exact hv
      all_goals
        rw [h] at hrt
        cases hrt
    have hlen : 34 ≤ (transitCopy buf).length := by
      rw [length_transitCopy]
      exact ht.1
    refine ⟨icmpResponseFrame outInterface outInterface.ip (transitCopy buf) env.after 3 0, ?_⟩
    unfold handleIpPacket
    rw [verdict_of_transit ht, hverdict]
    simp only [bind, Except.bind, sendIcmpResponse_eq hlen hstray hout, Option.getD_none]

/-- The search finds nothing exactly if nothing matches, where an entry with mask `0.0.0.0` comes
with an entry that matches by another mask. -/
theorem longestPrefixMatch_none_iff :
    (srLongestPrefixMatch sr destIp = none ↔ ∀ rt ∈ sr.routingTable, ¬ rt.Matches destIp) ↔
      ((∃ rt ∈ sr.routingTable, rt.mask = 0) →
        ∃ rt ∈ sr.routingTable, rt.mask ≠ 0 ∧ rt.Matches destIp) := by
  rw [longestPrefixMatch_eq_none_iff]
  constructor
  · rintro hnone ⟨rt₀, hrt₀, hmask₀⟩
    by_contra hother
    have hmatches₀ : rt₀.Matches destIp := by
      rw [SrRt.Matches, hmask₀, UInt32.and_zero, UInt32.and_zero]
    refine hnone.mp (fun rt hrt hm => ?_) rt₀ hrt₀ hmatches₀
    by_contra hmask
    exact hother ⟨rt, hrt, hmask, hm⟩
  · intro hcover
    constructor
    · intro hzero rt hrt hm
      obtain ⟨rt', hrt', hmask', hm'⟩ := hcover ⟨rt, hrt, hzero rt hrt hm⟩
      exact hmask' (hzero rt' hrt' hm')
    · exact fun hno rt hrt hm => absurd hm (hno rt hrt)

/-- A packet for an address can be in transit: the router has an interface to receive it on, and
none with that address. -/
def Elsewhere (sr : SrInstance) (destIp : UInt32) : Prop :=
  sr.ifList ≠ [] ∧ ∀ iface ∈ sr.ifList, iface.ip ≠ destIp

/-- A UDP packet for an address, with its time not up. -/
def udpTo (destIp : UInt32) : List UInt8 :=
  putCksum ([2, 0, 0, 0, 0, 1] ++ [2, 0, 0, 0, 1, 9] ++ [8, 0] ++
    [0x45, 0, 0, 20, 0, 0, 0, 0, 64, 17, 0, 0, 10, 0, 1, 9] ++ u32Bytes destIp) 24 14 20

/-- A frame of the two headers. -/
theorem length_udpTo : (udpTo destIp).length = 34 := by
  rw [udpTo, length_putCksum, List.length_append, length_u32Bytes]
  rfl

/-- Its TTL. -/
theorem ipTtl_udpTo : ipTtl (udpTo destIp) = 64 := by
  unfold udpTo putCksum
  dsimp only
  rw [ipTtl, List.getD_eq_getElem?_getD, getElem?_put_of_outside (by rw [length_u16Bytes]; omega),
    getElem?_put_of_outside (by rw [length_u16Bytes]; omega)]
  rfl

/-- Its destination. -/
theorem ipDst_udpTo : ipDst (udpTo destIp) = destIp := by
  unfold udpTo putCksum ipDst
  dsimp only
  rw [slice_put_of_disjoint (.inr (by rw [length_u16Bytes]; omega)),
    slice_put_of_disjoint (.inr (by rw [length_u16Bytes]; omega))]
  exact u32_u32Bytes destIp

/-- Such a packet is in transit. -/
theorem isTransit_udpTo (h : ∀ iface ∈ sr.ifList, iface.ip ≠ destIp) :
    IsTransit sr (udpTo destIp) ∧ ipTtl (udpTo destIp) - 1 ≠ 0 := by
  have hlen : (udpTo destIp).length = 34 := length_udpTo
  refine ⟨⟨hlen.ge, headerOk_putCksum ?_, ?_⟩, ?_⟩
  · rw [udpTo, length_putCksum] at hlen
    exact hlen.ge.trans' (by decide)
  · rw [getDstInterface, ipDst_udpTo, List.find?_eq_none]
    exact fun iface hmem => by simpa using h iface hmem
  · rw [ipTtl_udpTo]
    decide

/-- **When net unreachable means no route**: exactly if

* where the table has an entry with mask `0.0.0.0`, an entry with another mask matches, and
* where no entry matches and packets for the address can be in transit, the pointer
  `send_icmp_response` prints through can be read. -/
theorem netUnreachable_iff {env : Env} :
    NetUnreachableIffNoRoute sr env destIp ↔
      ((∃ rt ∈ sr.routingTable, rt.mask = 0) →
        ∃ rt ∈ sr.routingTable, rt.mask ≠ 0 ∧ rt.Matches destIp) ∧
      (Elsewhere sr destIp → (∀ rt ∈ sr.routingTable, ¬ rt.Matches destIp) →
        env.strayHdr.isSome) := by
  rw [NetUnreachableIffNoRoute, longestPrefixMatch_none_iff]
  refine and_congr_right fun hcover => ?_
  have hnone := longestPrefixMatch_none_iff.mpr hcover
  constructor
  · rintro hanswers ⟨hifs, helse⟩ hno
    -- a packet for the address, received on the first interface
    obtain ⟨iface, hmem⟩ := List.exists_mem_of_ne_nil _ hifs
    obtain ⟨ht, httl⟩ := isTransit_udpTo helse
    have hif : (srGetInterface sr iface.name).isSome :=
      Option.isSome_iff_ne_none.mpr
        (srGetInterface_ne_none_iff.mpr (List.mem_map_of_mem hmem))
    exact ((handleIpPacket_netUnreachable_iff ht hif).mp
      ((hanswers _ _ ht ipDst_udpTo hif).mpr ⟨httl, hno⟩)).2.2
  · intro hstray buf interface ht hdst hif
    subst hdst
    rw [handleIpPacket_netUnreachable_iff ht hif, hnone]
    refine and_congr_right fun _ => and_iff_left_of_imp fun hno => hstray ⟨?_, ?_⟩ hno
    · intro hnil
      rw [srGetInterface, hnil] at hif
      cases hif
    · have hdst := List.find?_eq_none.mp ht.2.2
      exact fun iface hmem heq => hdst iface hmem (decide_eq_true heq)

/-- The routing table of the example in `INSTRUCTIONS`. -/
def exampleTable : List SrRt :=
  [⟨0, u32 [10, 0, 1, 1], 0, ethName 3⟩,
    ⟨u32 [107, 21, 41, 195], u32 [107, 21, 41, 195], u32 [255, 255, 255, 255], ethName 1⟩,
    ⟨u32 [107, 21, 17, 29], u32 [107, 21, 17, 29], u32 [255, 255, 255, 255], ethName 2⟩]

/-- A router with that table. -/
def exampleRouter : SrInstance :=
  srInit [⟨ethName 3, mac 3, u32 [10, 0, 1, 11]⟩, ⟨ethName 2, mac 2, u32 [107, 21, 14, 129]⟩,
    ⟨ethName 1, mac 1, u32 [107, 23, 34, 64]⟩] exampleTable

/-- Its default route is never found: a packet for `10.0.2.9` is answered with net unreachable,
although the stray pointer can be read. -/
theorem defaultRoute_unreachable :
    (∃ rt ∈ exampleTable, rt.Matches (netAddr 2 9)) ∧
    srLongestPrefixMatch exampleRouter (netAddr 2 9) = none ∧
    IsTransit exampleRouter (udpFrame 2 9 64) ∧
    (∃ p, handleIpPacket exampleRouter (stillEnv 1) (udpFrame 2 9 64) (ethName 3) =
      .ok (exampleRouter, [.send (.icmpResponse 3 0) p (ethName 3)])) ∧
    ¬ NetUnreachableIffNoRoute exampleRouter (stillEnv 1) (netAddr 2 9) := by
  have hroute : ∃ rt ∈ exampleTable, rt.Matches (netAddr 2 9) := by decide +kernel
  have hnone : srLongestPrefixMatch exampleRouter (netAddr 2 9) = none := by decide +kernel
  have ht : IsTransit exampleRouter (udpFrame 2 9 64) := by decide +kernel
  refine ⟨hroute, hnone, ht, ?_, fun h => ?_⟩
  · exact (handleIpPacket_netUnreachable_iff ht (by decide +kernel)).mpr (by decide +kernel)
  · obtain ⟨rt, hrt, hm⟩ := hroute
    exact h.1.mp hnone rt hrt hm

/-! ### The order of the table -/

/-- The mask of an entry, and the network it stands for: `dest & mask`. -/
def SrRt.network (rt : SrRt) : UInt32 × UInt32 := (rt.mask, rt.dest &&& rt.mask)

/-- **Routing does not depend on the order of the table**, whatever the masks are, if no two entries
have the same mask and network. -/
theorem longestPrefixMatch_perm (hperm : sr.routingTable.Perm sr'.routingTable)
    (hnd : (sr.routingTable.map SrRt.network).Nodup) (destIp : UInt32) :
    srLongestPrefixMatch sr destIp = srLongestPrefixMatch sr' destIp := by
  rw [longestPrefixMatch_eq_scan, longestPrefixMatch_eq_scan]
  refine FirstMax.scan_perm hperm fun a ha b hb hma hmb hmask => ?_
  have hnet : a.network = b.network := by
    unfold SrRt.Matches at hma hmb
    rw [SrRt.network, SrRt.network, ← hma, ← hmb, hmask]
  exact List.inj_on_of_nodup_map hnd ha hb hnet

/-- The table of the example, reversed. -/
theorem longestPrefixMatch_reverse :
    srLongestPrefixMatch exampleRouter (u32 [107, 21, 17, 29]) =
      srLongestPrefixMatch (srInit exampleRouter.ifList exampleTable.reverse)
        (u32 [107, 21, 17, 29]) :=
  longestPrefixMatch_perm (List.reverse_perm _).symm (by decide +kernel) _

end SimpleRouter
