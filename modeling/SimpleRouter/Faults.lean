import SimpleRouter.EchoReply
import SimpleRouter.Resolve
import SimpleRouter.Threads

/-!
# What makes the router crash

The handlers have many accesses that could go wrong: names that may not resolve, lists that may be
empty, requests that may be gone. In a router whose routes name its interfaces, hardly any of them
ever does.

* `handleArpreq_error_iff`, `srArpcacheTimeout_ok` — `handle_arpreq` faults on a request that is not
  on the queue, and an iteration of the timer thread never does.
* `Overruns` — the frames whose handler writes past the end of an object: an ICMP packet for the
  router without room for a checksum, and an ARP request for it without room for a reply.
* `Strays` — the frames that are to be answered with ICMP (`Answered`) at a moment when the pointer
  `send_icmp_response` never assigns leads nowhere.
* `srHandlepacket_error_iff` — every other frame is handled.
* `survives_iff` — **the router survives a sequence of frames and timer iterations exactly if none
  of the frames overruns or strays**, whatever the order and the clock readings.
-/

namespace SimpleRouter

open Buffer Machine

/-! ### Requests and timers -/

section requests

variable {sr sr' : SrInstance} {env : Env} {out : List Effect} {f : Fault}

/-- Of a request on the queue nothing but a null pointer can be missing. -/
theorem handleArpreq_error_cases {req : ℕ} (h : handleArpreq sr env req = .error f) :
    f = .nullDeref ∨ (f = .useAfterFree ∧ ∀ r ∈ sr.cache.requests, r.id ≠ req) := by
  unfold handleArpreq at h
  cases hfind : Keyed.find SrArpreq.id req sr.cache.requests with
  | none =>
      rw [hfind] at h
      exact .inr ⟨(Except.error.inj h).symm, Keyed.find_eq_none_iff.mp hfind⟩
  | some node =>
      simp only [hfind] at h
      left
      split_ifs at h
      · rcases error_bind_iff.mp h with h | ⟨out, -, h⟩
        · obtain ⟨pkt, -, h⟩ := exists_of_mapM_error h
          rcases error_bind_iff.mp h with h | ⟨iface, -, h⟩
          · exact (deref_error_iff.mp h).2
          · cases h
        · cases h
      · rcases error_bind_iff.mp h with h | ⟨pkt, -, h⟩
        · exact (deref_error_iff.mp h).2
        · rcases error_bind_iff.mp h with h | ⟨iface, -, h⟩
          · exact (deref_error_iff.mp h).2
          · cases h

/-- **When `handle_arpreq` faults.** -/
theorem handleArpreq_error_iff (hQ : QueueInv sr) (hR : RoutesResolve sr) {req : ℕ} :
    handleArpreq sr env req = .error f ↔
      f = .useAfterFree ∧ ∀ r ∈ sr.cache.requests, r.id ≠ req := by
  constructor
  · intro h
    rcases handleArpreq_error_cases h with rfl | hfreed
    · exact absurd h (handleArpreq_ne_nullDeref hQ hR req)
    · exact hfreed
  · rintro ⟨rfl, hgone⟩
    unfold handleArpreq
    rw [Keyed.find_eq_none_iff.mpr hgone]

/-- A sweep over requests of the queue does not fault: none of them is given up before its turn. -/
theorem sweepLoop_ok (hQ : QueueInv sr) (hR : RoutesResolve sr) {ids : List ℕ} (hids : ids.Nodup)
    (hmem : ∀ id ∈ ids, ∃ r ∈ sr.cache.requests, r.id = id) : sweepLoop env ids sr ≠ .error f := by
  induction ids generalizing sr with
  | nil => rintro ⟨⟩
  | cons id ids ih =>
      obtain ⟨hnot, hids⟩ := List.nodup_cons.mp hids
      obtain ⟨⟨r, hr, hid⟩, hmem⟩ := List.forall_mem_cons.mp hmem
      intro h
      rcases error_bind_iff.mp h with h | ⟨⟨sr₁, out⟩, hstep, h⟩
      · exact ((handleArpreq_error_iff hQ hR).mp h).2 r hr hid
      · obtain ⟨hQ₁, hR₁⟩ := keep_of_path (handleArpreq_path (i := ⟨env, .timer⟩) hstep) hQ
        rcases error_bind_iff.mp h with h | ⟨_, -, h⟩
        · refine ih hQ₁ (hR₁ hR) hids ?_ h
          intro id' hid'
          obtain ⟨r', hr', rfl⟩ := hmem id' hid'
          have hne : r'.id ≠ id := fun heq => hnot (heq ▸ hid')
          exact ⟨r', (handleArpreq_frame hstep hQ.cache.id_nodup hne).mpr hr', rfl⟩
        · cases h

/-- **An iteration of the timer thread does not fault.** -/
theorem srArpcacheTimeout_ok (hQ : QueueInv sr) (hR : RoutesResolve sr) :
    srArpcacheTimeout sr env ≠ .error f := by
  have hexpire : Action ⟨env, .timer⟩ sr [] { sr with cache := sr.cache.expire env.now } :=
    .expire rfl
  refine sweepLoop_ok (hQ.action hexpire) (hR.action hexpire) hQ.cache.id_nodup ?_
  intro id hid
  obtain ⟨r, hr, heq⟩ := List.mem_map.mp hid
  exact ⟨r, hr, heq⟩

end requests

/-! ### Frames -/

/-- A frame whose handler writes past the end of an object: `icmp_hdr->icmp_sum = 0` in a frame
that ends before the checksum, or an ARP reply in the place of a request that is shorter. -/
def Overruns (sr : SrInstance) (env : Env) (buf : List UInt8) (interface : IfaceName) : Prop :=
  (ethertype buf env.after = 0x0800 ∧ 34 ≤ buf.length ∧ buf.length < 38 ∧ HeaderOk buf ∧
      (getDstInterface sr buf).isSome ∧ ipP buf = 1) ∨
    (ethertype buf env.after = 0x0806 ∧ arOp buf env.after = 1 ∧
      (srGetInterface sr interface).map SrIf.ip = some (arTip buf env.after) ∧ buf.length < 42)

instance (sr : SrInstance) (env : Env) (buf : List UInt8) (interface : IfaceName) :
    Decidable (Overruns sr env buf interface) := inferInstanceAs (Decidable (_ ∨ _))

/-- `handle_ip_packet` answers the packet with ICMP: to us, an echo request, TCP or UDP; in transit,
a packet whose time is up or that has no route. -/
def Answered (sr : SrInstance) (buf : List UInt8) : Prop :=
  34 ≤ buf.length ∧ HeaderOk buf ∧
    if (getDstInterface sr buf).isSome then
      (ipP buf = 1 ∧ 38 ≤ buf.length ∧ IcmpOk buf ∧ icmpType buf = 8) ∨ ipP buf = 6 ∨ ipP buf = 17
    else ipTtl buf - 1 = 0 ∨ srLongestPrefixMatch sr (ipDst buf) = none

instance (sr : SrInstance) (buf : List UInt8) : Decidable (Answered sr buf) :=
  inferInstanceAs (Decidable (_ ∧ _ ∧ _))

/-- A frame that is to be answered while the pointer `response_icmp_hdr` leads nowhere. -/
def Strays (sr : SrInstance) (env : Env) (buf : List UInt8) : Prop :=
  ethertype buf env.after = 0x0800 ∧ Answered sr buf ∧ env.strayHdr = none

instance (sr : SrInstance) (env : Env) (buf : List UInt8) : Decidable (Strays sr env buf) :=
  inferInstanceAs (Decidable (_ ∧ _ ∧ _))

section frames

variable {sr sr' : SrInstance} {env : Env} {buf : List UInt8} {interface : IfaceName} {f : Fault}

/-- A packet to us is answered if it is an echo request, TCP or UDP. -/
theorem localVerdict_respond_iff {addressed : SrIf} (hlen : 34 ≤ buf.length) (hok : HeaderOk buf)
    (hdst : getDstInterface sr buf = some addressed) :
    (∃ packet type code ipInterface,
        ipPacketVerdict sr buf = .ok (.respond packet type code ipInterface)) ↔
      (ipP buf = 1 ∧ 38 ≤ buf.length ∧ IcmpOk buf ∧ icmpType buf = 8) ∨
        ipP buf = 6 ∨ ipP buf = 17 := by
  by_cases hicmp : ipP buf = 1
  · have hother : ¬ (ipP buf = 6 ∨ ipP buf = 17) := by
      rw [hicmp]
      decide
    rw [or_iff_left hother, and_iff_right hicmp]
    by_cases h38 : 38 ≤ buf.length
    · rw [verdict_of_icmp h38 hok hdst hicmp, and_iff_right h38]
      split_ifs with hecho
      · exact iff_of_true ⟨_, _, _, _, rfl⟩ hecho
      · exact iff_of_false (by simp) hecho
    · rw [verdict_of_local hlen hok hdst, localVerdict, ipP_clearSum, if_pos hicmp,
        if_pos (by rw [length_put]; omega)]
      exact iff_of_false (by simp) fun h => h38 h.1
  · rw [verdict_of_local hlen hok hdst, localVerdict, ipP_clearSum, if_neg hicmp]
    split_ifs with htransport
    · exact iff_of_true ⟨_, _, _, _, rfl⟩ (.inr htransport)
    · refine iff_of_false (by simp) ?_
      rintro (h | h)
      · exact hicmp h.1
      · exact htransport h

/-- **Which packets are answered.** -/
theorem respond_iff_answered :
    (∃ packet type code ipInterface,
        ipPacketVerdict sr buf = .ok (.respond packet type code ipInterface)) ↔
      Answered sr buf := by
  unfold Answered
  by_cases hlen : 34 ≤ buf.length
  case neg =>
    rw [ipPacketVerdict, if_pos (by omega)]
    exact iff_of_false (by simp) fun h => hlen h.1
  by_cases hok : HeaderOk buf
  case neg =>
    rw [ipPacketVerdict, if_neg (by omega), if_pos (by simpa [HeaderOk] using hok)]
    exact iff_of_false (by simp) fun h => hok h.2.1
  rw [and_iff_right hlen, and_iff_right hok]
  cases hdst : getDstInterface sr buf with
  | some addressed => exact localVerdict_respond_iff hlen hok hdst
  | none =>
      rw [verdict_of_transit ⟨hlen, hok, hdst⟩]
      show _ ↔ ipTtl buf - 1 = 0 ∨ srLongestPrefixMatch sr (ipDst buf) = none
      rcases transitVerdict_cases sr buf with ⟨httl, hv⟩ | ⟨-, hrt, hv⟩ |
        ⟨rt, _, httl, hrt, -, hv⟩ | ⟨rt, httl, hrt, -, hv⟩ <;> rw [hv]
      · exact iff_of_true ⟨_, _, _, _, rfl⟩ (.inl httl)
      · exact iff_of_true ⟨_, _, _, _, rfl⟩ (.inr hrt)
      all_goals
        refine iff_of_false (by simp) ?_
        rintro (h | h)
        · exact httl h
        · rw [h] at hrt
          cases hrt

/-- When the decision on an IP packet faults. -/
theorem ipPacketVerdict_error_iff : ipPacketVerdict sr buf = .error f ↔
    f = .outOfBounds ∧ 34 ≤ buf.length ∧ buf.length < 38 ∧ HeaderOk buf ∧
      (getDstInterface sr buf).isSome ∧ ipP buf = 1 := by
  constructor
  · intro h
    have hlen : 34 ≤ buf.length := by
      by_contra hlt
      rw [ipPacketVerdict, if_pos (not_le.mp hlt)] at h
      cases h
    have hok : HeaderOk buf := by
      by_contra hbad
      rw [ipPacketVerdict, if_neg (by omega), if_pos (by simpa [HeaderOk] using hbad)] at h
      cases h
    cases hdst : getDstInterface sr buf with
    | none =>
        rw [verdict_of_transit ⟨hlen, hok, hdst⟩] at h
        cases h
    | some iface =>
        rw [verdict_of_local hlen hok hdst] at h
        unfold localVerdict at h
        rw [ipP_clearSum, length_put] at h
        dsimp only at h
        split_ifs at h with hicmp hshort
        exact ⟨(Except.error.inj h).symm, hlen, hshort, hok, rfl, hicmp⟩
  · rintro ⟨rfl, hlen, hshort, hok, hdst, hicmp⟩
    obtain ⟨iface, hdst⟩ := Option.isSome_iff_exists.mp hdst
    rw [verdict_of_local hlen hok hdst]
    unfold localVerdict
    rw [ipP_clearSum, if_pos hicmp, length_put]
    exact if_pos hshort

/-- When `handle_ip_packet` faults: in its decision, or on its way to an answer. -/
theorem handleIpPacket_error_iff (hQ : QueueInv sr) (hR : RoutesResolve sr)
    (hin : srGetInterface sr interface ≠ none) (htype : ethertype buf env.after = 0x0800) :
    handleIpPacket sr env buf interface = .error f ↔ ipPacketVerdict sr buf = .error f ∨
      f = .strayRead ∧ Answered sr buf ∧ env.strayHdr = none := by
  constructor
  · intro h
    have hnull : f ≠ .nullDeref := by
      rintro rfl
      exact handleIpPacket_ne_nullDeref hQ hR hin htype h
    rcases error_bind_iff.mp h with h | ⟨verdict, hverdict, h⟩
    · exact .inl h
    cases verdict with
    | drop => cases h
    | respond packet type code ipInterface =>
        rcases error_bind_iff.mp h with h | ⟨out, -, h⟩
        · unfold sendIcmpResponse at h
          split_ifs at h
          rcases error_bind_iff.mp h with h | ⟨icmpSum, -, h⟩
          · obtain ⟨hstray, rfl⟩ := readStray_error_iff.mp h
            exact .inr ⟨rfl, respond_iff_answered.mp ⟨_, _, _, _, hverdict⟩, hstray⟩
          rcases error_bind_iff.mp h with h | ⟨iface, -, h⟩
          · exact absurd (deref_error_iff.mp h).2 hnull
          · cases h
        · cases h
    | forward packet rt entry =>
        rcases error_bind_iff.mp h with h | ⟨iface, -, h⟩
        · exact absurd (deref_error_iff.mp h).2 hnull
        · cases h
    | queue packet rt =>
        -- the request `sr_arpcache_queuereq` returns is on the queue
        have hqueue : Action ⟨env, .packet buf interface⟩ sr _ _ := .queue rfl htype hverdict
        rcases error_bind_iff.mp h with h | ⟨r, -, h⟩
        · obtain ⟨r, hr, hid⟩ := queuereq_live (queued_ne_nil hverdict)
          exact absurd hid
            (((handleArpreq_error_iff (hQ.action hqueue) (hR.action hqueue)).mp h).2 r hr)
        · cases h
  · rintro (h | ⟨rfl, hanswered, hstray⟩)
    · exact error_bind_iff.mpr (.inl h)
    · obtain ⟨packet, type, code, ipInterface, hverdict⟩ := respond_iff_answered.mpr hanswered
      obtain ⟨hlen, hmin⟩ := length_of_respond hverdict
      refine error_bind_iff.mpr (.inr ⟨_, hverdict, ?_⟩)
      exact error_bind_iff.mpr (.inl (sendIcmpResponse_stray (hlen ▸ hmin) hstray))

/-- When `handle_arp_packet` faults. -/
theorem handleArpPacket_error_iff (hin : srGetInterface sr interface ≠ none) :
    handleArpPacket sr env buf interface = .error f ↔ f = .outOfBounds ∧
      arOp buf env.after = 1 ∧
      (srGetInterface sr interface).map SrIf.ip = some (arTip buf env.after) ∧
      buf.length < 42 := by
  obtain ⟨iface, hiface⟩ := Option.ne_none_iff_exists'.mp hin
  rw [hiface, Option.map_some, Option.some.injEq]
  by_cases hrequest : arOp buf env.after = 1
  · unfold handleArpPacket
    rw [if_pos hrequest, hiface]
    simp only [deref, bind, Except.bind]
    split_ifs with htip hlen
    · simp [hrequest, htip, hlen, eq_comm]
    · simp [hlen]
    · simp [Ne.symm htip]
  · refine iff_of_false (fun h => ?_) fun h => hrequest h.2.1
    have hnull : f ≠ .nullDeref := by
      rintro rfl
      exact handleArpPacket_ne_nullDeref hin h
    unfold handleArpPacket at h
    rw [if_neg hrequest] at h
    by_cases hreply : arOp buf env.after = 2
    · rw [if_pos hreply] at h
      dsimp only at h
      split at h
      · cases h
      · rcases error_bind_iff.mp h with h | ⟨out, -, h⟩
        · obtain ⟨pkt, -, h⟩ := exists_of_mapM_error h
          rcases error_bind_iff.mp h with h | ⟨iface, -, h⟩
          · exact hnull (deref_error_iff.mp h).2
          · cases h
        · cases h
    · rw [if_neg hreply] at h
      cases h

/-- **When handling a frame faults.** -/
theorem srHandlepacket_error_iff (hQ : QueueInv sr) (hR : RoutesResolve sr)
    (hin : srGetInterface sr interface ≠ none) :
    srHandlepacket sr env buf interface = .error f ↔
      f = .outOfBounds ∧ Overruns sr env buf interface ∨ f = .strayRead ∧ Strays sr env buf := by
  unfold srHandlepacket Overruns Strays
  by_cases hip : ethertype buf env.after = 0x0800
  · rw [if_pos hip, handleIpPacket_error_iff hQ hR hin hip, ipPacketVerdict_error_iff]
    simp [hip]
  · rw [if_neg hip]
    by_cases harp : ethertype buf env.after = 0x0806
    · rw [if_pos harp, handleArpPacket_error_iff hin]
      simp [harp]
    · rw [if_neg harp]
      simp [hip, harp]

end frames

/-! ### Runs -/

/-- What the main loop and the timer thread do: frames come in on interfaces of the router. -/
def Input.External (sr₀ : SrInstance) (i : Input) : Prop :=
  match i.event with
  | .packet _ interface => srGetInterface sr₀ interface ≠ none
  | .arpreq _ => False
  | .timer => True

/-- The input is a frame that overruns. -/
def Input.Overruns (sr₀ : SrInstance) (i : Input) : Prop :=
  match i.event with
  | .packet buf interface => SimpleRouter.Overruns sr₀ i.env buf interface
  | _ => False

/-- The input is a frame that is to be answered while the stray pointer leads nowhere. -/
def Input.Strays (sr₀ : SrInstance) (i : Input) : Prop :=
  match i.event with
  | .packet buf _ => SimpleRouter.Strays sr₀ i.env buf
  | _ => False

instance (sr₀ : SrInstance) (i : Input) : Decidable (i.External sr₀) := by
  unfold Input.External
  split <;> infer_instance

instance (sr₀ : SrInstance) (i : Input) : Decidable (i.Overruns sr₀) := by
  unfold Input.Overruns
  split <;> infer_instance

instance (sr₀ : SrInstance) (i : Input) : Decidable (i.Strays sr₀) := by
  unfold Input.Strays
  split <;> infer_instance

section runs

variable {sr₀ sr : SrInstance} {i : Input}

/-- Whether a frame overruns depends on the interfaces. -/
theorem overruns_congr (hif : sr.ifList = sr₀.ifList) {env : Env} {buf : List UInt8}
    {interface : IfaceName} : Overruns sr env buf interface ↔ Overruns sr₀ env buf interface := by
  unfold Overruns getDstInterface srGetInterface
  rw [hif]

/-- Whether a frame strays depends on the interfaces and the routes. -/
theorem strays_congr (hif : sr.ifList = sr₀.ifList) (hrt : sr.routingTable = sr₀.routingTable)
    {env : Env} {buf : List UInt8} : Strays sr env buf ↔ Strays sr₀ env buf := by
  unfold Strays Answered getDstInterface srLongestPrefixMatch
  rw [hif, hrt]

/-- A step leaves the interfaces and the routes alone. -/
theorem frame_of_step {sr' : SrInstance} {out : List Effect} (h : step sr i = .ok (sr', out)) :
    sr'.ifList = sr.ifList ∧ sr'.routingTable = sr.routingTable :=
  Path.preserves (P := fun _ s => s.ifList = sr.ifList ∧ s.routingTable = sr.routingTable)
    (fun _ _ _ _ hs ha => ⟨ha.frame.1.trans hs.1, ha.frame.2.trans hs.2⟩) ⟨rfl, rfl⟩
    (step_refines _ _ _ _ h)

/-- One step, in any state with the interfaces and routes of the start. -/
theorem step_ok_iff (hQ : QueueInv sr) (hR : RoutesResolve sr) (hif : sr.ifList = sr₀.ifList)
    (hrt : sr.routingTable = sr₀.routingTable) (hi : i.External sr₀) :
    (∃ r, step sr i = .ok r) ↔ ¬ i.Overruns sr₀ ∧ ¬ i.Strays sr₀ := by
  rw [← not_or]
  have herror : (∃ f, step sr i = .error f) ↔ i.Overruns sr₀ ∨ i.Strays sr₀ := by
    unfold Input.External at hi
    unfold step Input.Overruns Input.Strays
    cases hevent : i.event with
    | packet buf interface =>
        rw [hevent] at hi
        have hin : srGetInterface sr interface ≠ none := by
          unfold srGetInterface
          rw [hif]
          exact hi
        simp only [srHandlepacket_error_iff hQ hR hin, overruns_congr hif, strays_congr hif hrt]
        constructor
        · rintro ⟨f, ⟨-, h⟩ | ⟨-, h⟩⟩
          · exact .inl h
          · exact .inr h
        · rintro (h | h)
          · exact ⟨_, .inl ⟨rfl, h⟩⟩
          · exact ⟨_, .inr ⟨rfl, h⟩⟩
    | arpreq req =>
        rw [hevent] at hi
        exact hi.elim
    | timer =>
        exact ⟨fun ⟨f, h⟩ => absurd h (srArpcacheTimeout_ok hQ hR),
          fun h => (or_self_iff.mp h).elim⟩
  rw [← herror]
  cases step sr i with
  | ok r => simp
  | error f => simp

/-- The states of a run are those a step starts from. -/
theorem exec_ok_iff {is : List Input} (hQ : QueueInv sr) (hR : RoutesResolve sr)
    (hif : sr.ifList = sr₀.ifList) (hrt : sr.routingTable = sr₀.routingTable)
    (his : ∀ i ∈ is, i.External sr₀) :
    (∃ r, exec step sr is = .ok r) ↔ ∀ i ∈ is, ¬ i.Overruns sr₀ ∧ ¬ i.Strays sr₀ := by
  induction is generalizing sr with
  | nil => simp [exec]
  | cons i is ih =>
      obtain ⟨hi, his⟩ := List.forall_mem_cons.mp his
      rw [List.forall_mem_cons, ← step_ok_iff hQ hR hif hrt hi]
      constructor
      · rintro ⟨r, h⟩
        obtain ⟨⟨sr₁, out⟩, hs, h⟩ := ok_bind_iff.mp h
        obtain ⟨r₁, he, -⟩ := ok_bind_iff.mp h
        obtain ⟨hQ₁, hR₁⟩ := keep_of_path (step_refines _ _ _ _ hs) hQ
        obtain ⟨hif₁, hrt₁⟩ := frame_of_step hs
        exact ⟨⟨_, hs⟩, (ih hQ₁ (hR₁ hR) (hif₁.trans hif) (hrt₁.trans hrt) his).mp ⟨_, he⟩⟩
      · rintro ⟨⟨⟨sr₁, out⟩, hs⟩, hrest⟩
        obtain ⟨hQ₁, hR₁⟩ := keep_of_path (step_refines _ _ _ _ hs) hQ
        obtain ⟨hif₁, hrt₁⟩ := frame_of_step hs
        obtain ⟨r₁, he⟩ := (ih hQ₁ (hR₁ hR) (hif₁.trans hif) (hrt₁.trans hrt) his).mpr hrest
        exact ⟨_, ok_bind_iff.mpr ⟨_, hs, ok_bind_iff.mpr ⟨r₁, he, rfl⟩⟩⟩

/-- **What the router survives.** Started with routes that name its interfaces, it gets through a
sequence of frames and timer iterations, at any clock readings, exactly if no frame overruns, and
none is to be answered while the stray pointer leads nowhere. -/
theorem survives_iff {ifList : List SrIf} {routingTable : List SrRt} {is : List Input}
    (hR : RoutesResolve (srInit ifList routingTable))
    (his : ∀ i ∈ is, i.External (srInit ifList routingTable)) :
    (∃ r, exec step (srInit ifList routingTable) is = .ok r) ↔
      ∀ i ∈ is, ¬ i.Overruns (srInit ifList routingTable) ∧
        ¬ i.Strays (srInit ifList routingTable) :=
  exec_ok_iff (QueueInv.init ifList routingTable) hR rfl rfl his

end runs

/-- The routes of the router with two ports name its interfaces. -/
theorem routesResolve_twoPort : RoutesResolve twoPort := by
  intro rt hrt
  rw [List.mem_singleton.mp hrt]
  decide

/-- An ICMP packet for the router that ends with its IP header. -/
def bareIcmp : List UInt8 :=
  putCksum ((udpFrame 1 1 64).take 23 ++ [1] ++ ((udpFrame 1 1 64).drop 24).take 10) 24 14 20

/-- A packet, a UDP packet for the router and six iterations of the timer thread are survived; with
an ICMP packet without an ICMP header in between they are not, nor with the UDP packet while the
stray pointer leads nowhere. -/
theorem survives_twoPort :
    (∃ r, exec step twoPort
        (firstArrival :: ⟨stillEnv 1, .packet (udpFrame 1 1 64) (ethName 1)⟩ :: fiveTimers) =
          .ok r) ∧
      (¬ ∃ r, exec step twoPort
        (firstArrival :: ⟨stillEnv 1, .packet bareIcmp (ethName 1)⟩ :: fiveTimers) = .ok r) ∧
      ¬ ∃ r, exec step twoPort
        (firstArrival :: ⟨strayEnv 1, .packet (udpFrame 1 1 64) (ethName 1)⟩ :: fiveTimers) =
          .ok r := by
  refine ⟨?_, fun hsurvives => ?_, fun hsurvives => ?_⟩
  · exact (survives_iff routesResolve_twoPort (by decide +kernel)).mpr (by decide +kernel)
  all_goals
    exact absurd ((survives_iff routesResolve_twoPort (by decide +kernel)).mp hsurvives)
      (by decide +kernel)

end SimpleRouter
