import SimpleRouter.Protocol

/-!
# The router instance (`sr_router.h`, `sr_if.h`, `sr_rt.h`, `sr_arpcache.h`)

The state of one virtual router: its interfaces, its routing table and its ARP cache. Linked lists
are lists in the order of their `next` pointers. The nodes of the request queue and of its packet
lists are freed and compared by address, so each carries the number of its allocation, `id`, in
the place of its address; `reqSeq` and `pktSeq` are the numbers the next nodes get.

Left out are the fields no packet handling reads: `speed` of an interface, and `sockfd`, `sr_addr`
and `attr` of the instance; `user`, `host`, `template`, `topo_id` and `logfile` are those of a
`Session`.
-/

namespace SimpleRouter

/-- An interface of the router.
Source: `sr_if.h`, `struct sr_if` -/
structure SrIf where
  /-- `name`. -/
  name : IfaceName
  /-- `addr`. -/
  addr : EtherAddr
  /-- `ip`, in network byte order. -/
  ip : UInt32
deriving DecidableEq

/-- An entry of the routing table.
Source: `sr_rt.h`, `struct sr_rt` -/
structure SrRt where
  /-- `dest`. -/
  dest : UInt32
  /-- `gw`. -/
  gw : UInt32
  /-- `mask`. -/
  mask : UInt32
  /-- `interface`. -/
  interface : IfaceName
deriving DecidableEq

/-- A packet waiting for an ARP reply; `len` is the length of `buf`.
Source: `sr_arpcache.h`, `struct sr_packet` -/
structure SrPacket where
  /-- The node's address. -/
  id : ℕ
  /-- `buf`: a raw Ethernet frame. -/
  buf : List UInt8
  /-- `iface`: the outgoing interface. -/
  iface : IfaceName
deriving DecidableEq

/-- An entry of the ARP table.
Source: `sr_arpcache.h`, `struct sr_arpentry` -/
structure SrArpentry where
  /-- `mac`. -/
  mac : EtherAddr
  /-- `ip`. -/
  ip : UInt32
  /-- `added`. -/
  added : ℤ
  /-- `valid`. -/
  valid : Bool
deriving DecidableEq

/-- An outstanding ARP request.
Source: `sr_arpcache.h`, `struct sr_arpreq` -/
structure SrArpreq where
  /-- The node's address. -/
  id : ℕ
  /-- `ip`. -/
  ip : UInt32
  /-- `sent`: the last time the request was sent, `0` if never. -/
  sent : ℤ
  /-- `times_sent`. -/
  timesSent : ℕ
  /-- `packets`: the packets waiting, the newest first. -/
  packets : List SrPacket
deriving DecidableEq

/-- The ARP table and the request queue.
Source: `sr_arpcache.h`, `struct sr_arpcache` -/
structure SrArpcache where
  /-- `entries`. -/
  entries : List SrArpentry
  /-- The table has `SR_ARPCACHE_SZ` slots. -/
  entries_length : entries.length = 100
  /-- `requests`, the newest first. -/
  requests : List SrArpreq
  /-- The number of the next `sr_arpreq` node. -/
  reqSeq : ℕ
  /-- The number of the next `sr_packet` node. -/
  pktSeq : ℕ
deriving DecidableEq

/-- A virtual router.
Source: `sr_router.h`, `struct sr_instance` -/
structure SrInstance where
  /-- `if_list`. -/
  ifList : List SrIf
  /-- `routing_table`. -/
  routingTable : List SrRt
  /-- `cache`. -/
  cache : SrArpcache
deriving DecidableEq

/-! ### Interfaces and routes -/

/-- The first interface of that name.
Source: `sr_if.c`, `sr_get_interface` -/
def srGetInterface (sr : SrInstance) (name : IfaceName) : Option SrIf :=
  sr.ifList.find? fun iface => iface.name = name

/-- The first interface with the packet's destination address.
Source: `sr_router.c`, `get_dst_interface` -/
def getDstInterface (sr : SrInstance) (packet : List UInt8) : Option SrIf :=
  sr.ifList.find? fun iface => iface.ip = ipDst packet

/-- One round of the search: an entry that matches under a mask larger than the best so far
becomes the best.
Source: `sr_rt.c`, `sr_longest_prefix_match`, the loop body -/
def longestPrefixMatchRound (destIp : UInt32) (best : Option SrRt × UInt32) (rt : SrRt) :
    Option SrRt × UInt32 :=
  if destIp &&& rt.mask = rt.dest &&& rt.mask ∧ rt.mask > best.2 then (some rt, rt.mask) else best

/-- The entry with the largest mask among those that match; masks are compared as the host's
`uint32_t`.
Source: `sr_rt.c`, `sr_longest_prefix_match` -/
def srLongestPrefixMatch (sr : SrInstance) (destIp : UInt32) : Option SrRt :=
  (sr.routingTable.foldl (longestPrefixMatchRound destIp) (none, 0)).1

/-- What the search returns is an entry of the table. -/
theorem mem_of_longestPrefixMatch {sr : SrInstance} {destIp : UInt32} {rt : SrRt}
    (h : srLongestPrefixMatch sr destIp = some rt) : rt ∈ sr.routingTable := by
  have hfold : ∀ (l : List SrRt) (best : Option SrRt × UInt32),
      (l.foldl (longestPrefixMatchRound destIp) best).1 = some rt → best.1 = some rt ∨ rt ∈ l := by
    intro l
    induction l with
    | nil => exact fun _ => .inl
    | cons c l ih =>
        intro best hbest
        rcases ih _ hbest with hc | hl
        · unfold longestPrefixMatchRound at hc
          split_ifs at hc
          · exact .inr (Option.some.inj hc ▸ List.mem_cons_self)
          · exact .inl hc
        · exact .inr (List.mem_cons_of_mem _ hl)
  rcases hfold _ _ h with h | h
  · cases h
  · exact h

/-- A name resolves iff an interface has it. -/
theorem srGetInterface_ne_none_iff {sr : SrInstance} {name : IfaceName} :
    srGetInterface sr name ≠ none ↔ name ∈ sr.ifList.map SrIf.name := by
  rw [srGetInterface, Ne, List.find?_eq_none, List.mem_map]
  simp

end SimpleRouter
