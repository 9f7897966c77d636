import SimpleRouter.Instance
import SimpleRouter.Lib.Keyed
import SimpleRouter.Lib.Slots

/-!
# The ARP cache operations (`sr_arpcache.c`)

The operations on the table and the request queue, without the lock that makes each of them
atomic, and what they do, for the callers: a lookup returns a valid entry of that address
(`mem_of_lookup`) and misses only if there is none (`lookup_eq_none_iff`); the table after an
insertion holds old entries and the new one (`mem_fillSlot`); queueing changes one request
or adds one in front (`queuereq_found`, `queuereq_new`).
-/

namespace SimpleRouter

/-- An empty cache. `memset` leaves every slot invalid.
Source: `sr_arpcache.c`, `sr_arpcache_init` -/
def srArpcacheInit : SrArpcache where
  entries := List.replicate 100 ⟨⟨List.replicate 6 0, rfl⟩, 0, 0, false⟩
  entries_length := by simp
  requests := []
  reqSeq := 0
  pktSeq := 0

/-- The last valid entry of that address, copied.
Source: `sr_arpcache.c`, `sr_arpcache_lookup` -/
def srArpcacheLookup (cache : SrArpcache) (ip : UInt32) : Option SrArpentry :=
  cache.entries.foldl (fun entry e => if e.valid ∧ e.ip = ip then some e else entry) none

/-- The packet node `sr_arpcache_queuereq` allocates.
Source: `sr_arpcache.c`, `sr_arpcache_queuereq` -/
def SrArpcache.newPacket (cache : SrArpcache) (packet : List UInt8) (iface : IfaceName) :
    SrPacket :=
  ⟨cache.pktSeq, packet, iface⟩

/-- Put a packet at the head of a request's list.
Source: `sr_arpcache.c`, `sr_arpcache_queuereq` -/
def SrArpreq.push (pkt : SrPacket) (req : SrArpreq) : SrArpreq :=
  { req with packets := pkt :: req.packets }

/-- The same, unless the packet is empty: `if (packet && packet_len && iface)`.
Source: `sr_arpcache.c`, `sr_arpcache_queuereq` -/
def SrArpreq.addPacket (pkt : SrPacket) (req : SrArpreq) : SrArpreq :=
  if pkt.buf.length ≠ 0 then req.push pkt else req

/-- Queue a packet on the request for `ip`, a new one if there is none; returns the address of the
request.
Source: `sr_arpcache.c`, `sr_arpcache_queuereq` -/
def srArpcacheQueuereq (cache : SrArpcache) (ip : UInt32) (packet : List UInt8)
    (iface : IfaceName) : SrArpcache × ℕ :=
  let pkt := cache.newPacket packet iface
  match Keyed.find SrArpreq.ip ip cache.requests with
  | some req =>
      ({ cache with
          requests := Keyed.modify SrArpreq.id req.id (SrArpreq.addPacket pkt) cache.requests
          pktSeq := cache.pktSeq + 1 }, req.id)
  | none =>
      -- `calloc`: never sent, no packets
      let req : SrArpreq := ⟨cache.reqSeq, ip, 0, 0, []⟩
      ({ cache with
          requests := req.addPacket pkt :: cache.requests
          reqSeq := cache.reqSeq + 1
          pktSeq := cache.pktSeq + 1 }, req.id)

/-- Overwrite the first invalid slot, if there is one.
Source: `sr_arpcache.c`, `sr_arpcache_insert`, the second loop -/
def fillSlot (entries : List SrArpentry) (entry : SrArpentry) : List SrArpentry :=
  match entries.findIdx? fun e => !e.valid with
  | some i => entries.set i entry
  | none => entries

/-- Unlink the request for `ip` and return it, and put the mapping in the table.
Source: `sr_arpcache.c`, `sr_arpcache_insert` -/
def srArpcacheInsert (cache : SrArpcache) (mac : EtherAddr) (ip : UInt32) (now : ℤ) :
    SrArpcache × Option SrArpreq :=
  ({ cache with
      entries := fillSlot cache.entries ⟨mac, ip, now, true⟩
      entries_length := by
        unfold fillSlot
        split <;> simp [cache.entries_length]
      requests := Keyed.erase SrArpreq.ip ip cache.requests },
    Keyed.find SrArpreq.ip ip cache.requests)

/-- Unlink the request from the queue, if it is there, and free it with its packets.
Source: `sr_arpcache.c`, `sr_arpreq_destroy` -/
def srArpreqDestroy (cache : SrArpcache) (entry : ℕ) : SrArpcache :=
  { cache with requests := Keyed.erase SrArpreq.id entry cache.requests }

/-- Invalidate a valid entry added more than `SR_ARPCACHE_TO` seconds ago.
Source: `sr_arpcache.c`, `sr_arpcache_timeout`, the loop body -/
def SrArpentry.expire (curtime : ℤ) (e : SrArpentry) : SrArpentry :=
  if e.valid ∧ curtime - e.added > 15 then { e with valid := false } else e

/-- The expiry loop of the timer thread.
Source: `sr_arpcache.c`, `sr_arpcache_timeout` -/
def SrArpcache.expire (cache : SrArpcache) (curtime : ℤ) : SrArpcache :=
  { cache with
    entries := cache.entries.map (SrArpentry.expire curtime)
    entries_length := by simp [cache.entries_length] }

/-! ### The table -/

/-- A lookup is a search for the last valid entry of the address. -/
theorem lookup_eq_findLast (cache : SrArpcache) (ip : UInt32) :
    srArpcacheLookup cache ip = Slots.findLast (fun e => e.valid ∧ e.ip = ip) cache.entries := rfl

/-- An insertion fills the first slot that is not valid. -/
theorem fillSlot_eq_fillFirst (entries : List SrArpentry) (entry : SrArpentry) :
    fillSlot entries entry = Slots.fillFirst SrArpentry.valid entries entry := rfl

/-- A lookup misses iff no valid entry has the address. -/
theorem lookup_eq_none_iff {cache : SrArpcache} {ip : UInt32} :
    srArpcacheLookup cache ip = none ↔ ∀ e ∈ cache.entries, e.valid → e.ip ≠ ip := by
  rw [lookup_eq_findLast, Slots.findLast_eq_none_iff]
  simp only [not_and, ne_eq]

/-- A lookup hits a valid entry of the address. -/
theorem mem_of_lookup {cache : SrArpcache} {ip : UInt32} {e : SrArpentry}
    (h : srArpcacheLookup cache ip = some e) : e ∈ cache.entries ∧ e.valid ∧ e.ip = ip :=
  Slots.mem_of_findLast h

/-- After a slot is filled, an entry is an old one or the new one. -/
theorem mem_fillSlot {entries : List SrArpentry} {entry e : SrArpentry}
    (h : e ∈ fillSlot entries entry) : e ∈ entries ∨ e = entry := by
  unfold fillSlot at h
  split at h
  · exact List.mem_or_eq_of_mem_set h
  · exact .inl h

/-- A valid entry after an expiry pass was valid before it. -/
theorem mem_of_mem_expire {cache : SrArpcache} {curtime : ℤ} {e : SrArpentry}
    (h : e ∈ (cache.expire curtime).entries) (hv : e.valid) : e ∈ cache.entries := by
  obtain ⟨e', he', rfl⟩ := List.mem_map.mp h
  by_cases hc : e'.valid ∧ curtime - e'.added > 15
  · rw [SrArpentry.expire, if_pos hc] at hv
    cases hv
  · rwa [SrArpentry.expire, if_neg hc]

/-- An insertion takes the request for its address off the queue. -/
@[simp] theorem insert_requests (cache : SrArpcache) (mac : EtherAddr) (ip : UInt32) (now : ℤ) :
    (srArpcacheInsert cache mac ip now).1.requests = Keyed.erase SrArpreq.ip ip cache.requests :=
  rfl

/-- Destroying takes one request off the queue. -/
@[simp] theorem destroy_requests (cache : SrArpcache) (id : ℕ) :
    (srArpreqDestroy cache id).requests = Keyed.erase SrArpreq.id id cache.requests := rfl

/-! ### Queueing -/

section queuereq

variable {cache : SrArpcache} {ip : UInt32} {packet : List UInt8} {iface : IfaceName}

/-- Adding a packet touches neither the identity nor the schedule of a request. -/
theorem addPacket_fields (pkt : SrPacket) (req : SrArpreq) :
    (req.addPacket pkt).id = req.id ∧ (req.addPacket pkt).ip = req.ip ∧
      (req.addPacket pkt).sent = req.sent ∧ (req.addPacket pkt).timesSent = req.timesSent := by
  unfold SrArpreq.addPacket
  split_ifs <;> exact ⟨rfl, rfl, rfl, rfl⟩

/-- A packet that is not empty is put in front. -/
theorem addPacket_of_ne (hp : packet ≠ []) :
    SrArpreq.addPacket (cache.newPacket packet iface) =
      SrArpreq.push (cache.newPacket packet iface) := by
  funext req
  exact if_pos (by simpa [SrArpcache.newPacket] using hp)

/-- Queueing on a request that exists. -/
theorem queuereq_some {req : SrArpreq}
    (h : Keyed.find SrArpreq.ip ip cache.requests = some req) :
    srArpcacheQueuereq cache ip packet iface =
      ({ cache with
          requests := Keyed.modify SrArpreq.id req.id
            (SrArpreq.addPacket (cache.newPacket packet iface)) cache.requests
          pktSeq := cache.pktSeq + 1 }, req.id) := by
  simp only [srArpcacheQueuereq, h]

/-- Queueing on a new request. -/
theorem queuereq_none (h : Keyed.find SrArpreq.ip ip cache.requests = none) :
    srArpcacheQueuereq cache ip packet iface =
      ({ cache with
          requests := SrArpreq.addPacket (cache.newPacket packet iface)
            ⟨cache.reqSeq, ip, 0, 0, []⟩ :: cache.requests
          reqSeq := cache.reqSeq + 1
          pktSeq := cache.pktSeq + 1 }, cache.reqSeq) := by
  simp only [srArpcacheQueuereq, h]

/-- Queueing a packet on a request that exists. -/
theorem queuereq_found {req : SrArpreq} (hp : packet ≠ [])
    (h : Keyed.find SrArpreq.ip ip cache.requests = some req) :
    srArpcacheQueuereq cache ip packet iface =
      ({ cache with
          requests := Keyed.modify SrArpreq.id req.id
            (SrArpreq.push (cache.newPacket packet iface)) cache.requests
          pktSeq := cache.pktSeq + 1 }, req.id) := by
  rw [queuereq_some h, addPacket_of_ne hp]

/-- Queueing a packet on a new request. -/
theorem queuereq_new (hp : packet ≠ []) (h : Keyed.find SrArpreq.ip ip cache.requests = none) :
    srArpcacheQueuereq cache ip packet iface =
      ({ cache with
          requests := ⟨cache.reqSeq, ip, 0, 0, [cache.newPacket packet iface]⟩ :: cache.requests
          reqSeq := cache.reqSeq + 1
          pktSeq := cache.pktSeq + 1 }, cache.reqSeq) := by
  rw [queuereq_none h, addPacket_of_ne hp]
  rfl

/-- Queueing leaves the table alone. -/
@[simp] theorem queuereq_entries :
    (srArpcacheQueuereq cache ip packet iface).1.entries = cache.entries := by
  unfold srArpcacheQueuereq
  dsimp only
  split <;> rfl

end queuereq

end SimpleRouter
