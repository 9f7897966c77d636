import SimpleRouter.Forwarding
import SimpleRouter.HwInfo

/-!
# Interface names resolve (`sr_main.c`)

Routes and queued packets name interfaces, and the handlers that look the names up do not check
the result. `sr_verify_routing_table` checks the names of the routes, each time the server has
announced hardware. What it has found stays true: the main loop changes no route, a packet is
queued under the interface of a route (`QueueInv`), and interfaces are only added to the list.

* `mainStep_cases` — what a message or an iteration of the timer thread does to the instance.
* `interfaces_resolve` — **after hardware has been accepted every name resolves**, whatever is
  received then, and no handler dereferences the null pointer of a name that does not
  (`NullFree`).
-/

namespace SimpleRouter

open Buffer Stream Logged Machine Wire

/-! ### The main loop -/

/-- What the client reacts to once the session is open. -/
inductive MainInput where
  /-- A message that has been read: its type and the buffer, and what its handler learns from
  outside. -/
  | message (env : VnsEnv) (command : UInt32) (buf : List UInt8)
  /-- An iteration of `sr_arpcache_timeout`. -/
  | timer (env : Env)

/-- Why the client goes no further. -/
inductive MainEnd where
  /-- `sr_read_from_server` has not returned 1. -/
  | returned (ret : ℤ)
  /-- It does not return. -/
  | stopped (e : Stop)

/-- One step of the client: the main loop goes on as long as `sr_read_from_server` returns 1.
Source: `sr_main.c`, `main`; `sr_arpcache.c`, `sr_arpcache_timeout` -/
def mainStep (s : Session) : MainInput → Except MainEnd (Session × List Io)
  | .message env command buf =>
      match (handleCommand env s command buf).val with
      | .ok (ret, sr) =>
          if ret = 1 then .ok ({ s with sr := sr }, (handleCommand env s command buf).log)
          else .error (.returned ret)
      | .error e => .error (.stopped e)
  | .timer env =>
      match srArpcacheTimeout s.sr env with
      | .ok (sr, out) => .ok ({ s with sr := sr }, out.map Io.effect)
      | .error f => .error (.stopped (.fault f))

/-- Hardware is announced. -/
def MainInput.IsHwinfo : MainInput → Prop
  | .message _ command _ => command = VnsCommand.hwinfo.code
  | .timer _ => False

/-- A call of `sr_read_from_server` that returns 1 is a step on the message it has read. -/
theorem mainStep_of_read {fuel : ℕ} {env : VnsEnv} {s : Session} {sr : SrInstance}
    {sock sock' : Socket}
    (h : (srReadFromServerExpect fuel env s none sock).val = .ok ((1, sr), sock')) :
    ∃ command buf out, mainStep s (.message env command buf) = .ok ({ s with sr := sr }, out) := by
  rw [srReadFromServerExpect, val_bind] at h
  obtain ⟨⟨message, sock₁⟩, -, h⟩ := ok_bind_iff.mp h
  cases message with
  | none => cases h
  | some message =>
      obtain ⟨command, buf⟩ := message
      have h : (dispatch env s none command buf >>= fun r => (pure (r, sock₁) : Vns _)).val =
        .ok ((1, sr), sock') := h
      rw [val_bind] at h
      obtain ⟨r, hr, h⟩ := ok_bind_iff.mp h
      obtain ⟨rfl, -⟩ := Prod.mk.inj (Except.ok.inj h)
      rw [dispatch, tell_bind, if_neg not_unexpected_none] at hr
      have hr : (handleCommand env s command buf).val = .ok (1, sr) := hr
      exact ⟨command, buf, _, by rw [mainStep, hr]; rfl⟩

/-! ### Hardware -/

section hardware

variable {env : VnsEnv} {buf : List UInt8} {i n : ℕ} {ifs ifs' : List SrIf}

/-- Setting an address of the last interface renames none. -/
theorem names_modifyLast {f : SrIf → SrIf} (hf : ∀ iface, (f iface).name = iface.name) :
    ifs.map SrIf.name ⊆ (ifs.modifyLast f).map SrIf.name := by
  rcases List.eq_nil_or_concat ifs with rfl | ⟨l, iface, rfl⟩
  · exact List.Subset.refl _
  · rw [List.concat_eq_append, List.modifyLast_concat, List.map_append, List.map_append,
      List.map_singleton, List.map_singleton, hf]
    exact List.Subset.refl _

/-- An entry takes no interface away. -/
theorem hwinfoEntry_names (h : (hwinfoEntry env buf i ifs).val = .ok ifs') :
    ifs.map SrIf.name ⊆ ifs'.map SrIf.name := by
  unfold hwinfoEntry at h
  simp only [tell_bind] at h
  split at h
  · obtain rfl := Except.ok.inj h
    rw [List.map_append]
    exact List.subset_append_left _ _
  · split_ifs at h
    · cases h
    · obtain rfl := Except.ok.inj h
      exact names_modifyLast fun _ => rfl
  · split_ifs at h
    · cases h
    · obtain rfl := Except.ok.inj h
      exact names_modifyLast fun _ => rfl
  · obtain rfl := Except.ok.inj h
    exact List.Subset.refl _

/-- The loop renames no interface. -/
theorem hwinfoLoop_names (h : (hwinfoLoop env buf i n ifs).val = .ok ifs') :
    ifs.map SrIf.name ⊆ ifs'.map SrIf.name := by
  induction n generalizing i ifs with
  | zero =>
      obtain rfl := Except.ok.inj h
      exact List.Subset.refl _
  | succ n ih =>
      rw [hwinfoLoop, val_bind] at h
      obtain ⟨ifs₁, h₁, h⟩ := ok_bind_iff.mp h
      exact List.Subset.trans (hwinfoEntry_names h₁) (ih h)

/-- A message changes the interfaces only, and takes none away. -/
theorem srHandleHwinfo_cases {sr sr' : SrInstance} {ret : ℤ}
    (h : (srHandleHwinfo env sr buf).val = .ok (ret, sr')) :
    ∃ ifs, sr.ifList.map SrIf.name ⊆ ifs.map SrIf.name ∧ sr' = { sr with ifList := ifs } := by
  unfold srHandleHwinfo at h
  simp only [tell_bind, val_bind] at h
  obtain ⟨ifs, hifs, h⟩ := ok_bind_iff.mp h
  obtain ⟨-, rfl⟩ := Prod.mk.inj (Except.ok.inj h)
  exact ⟨ifs, hwinfoLoop_names hifs, rfl⟩

/-- Every route names an interface. -/
def RoutesResolve (sr : SrInstance) : Prop :=
  ∀ rt ∈ sr.routingTable, srGetInterface sr rt.interface ≠ none

/-- The comparison of the two lists agrees with the lookup. -/
theorem routesResolve_of_verify {sr : SrInstance} (h : srVerifyRoutingTable sr = 0) :
    RoutesResolve sr := by
  unfold srVerifyRoutingTable at h
  split_ifs at h
  intro rt hrt
  have hcount := List.countP_eq_zero.mp h rt hrt
  rw [srGetInterface_ne_none_iff, List.mem_map]
  simpa using hcount

/-- More interfaces resolve more names. -/
theorem RoutesResolve.mono {sr : SrInstance} (h : RoutesResolve sr)
    (hnames : sr.ifList.map SrIf.name ⊆ ifs.map SrIf.name) :
    RoutesResolve { sr with ifList := ifs } := fun rt hrt =>
  srGetInterface_ne_none_iff.mpr (hnames (srGetInterface_ne_none_iff.mp (h rt hrt)))

end hardware

/-! ### What a step can do -/

/-- **What a step can do to the instance.** -/
inductive Change (sr : SrInstance) : SrInstance → Prop
  /-- Nothing. -/
  | idle : Change sr sr
  /-- Packet handling, or an iteration of the timer thread. -/
  | handled {i : Input} {sr' : SrInstance} {out : List Effect} (h : step sr i = .ok (sr', out)) :
      Change sr sr'
  /-- Interfaces are added, and the routes are checked. -/
  | hardware {ifs : List SrIf} (hnames : sr.ifList.map SrIf.name ⊆ ifs.map SrIf.name)
      (hverify : srVerifyRoutingTable { sr with ifList := ifs } = 0) :
      Change sr { sr with ifList := ifs }

section change

variable {env : VnsEnv} {s s' : Session} {buf : List UInt8} {sr : SrInstance} {ret : ℤ}

/-- A packet is dropped, or handled. -/
theorem handleVnspacket_change (h : (handleVnspacket env s buf).val = .ok (ret, sr)) :
    Change s.sr sr := by
  unfold handleVnspacket at h
  simp only [tell_bind, val_bind] at h
  obtain ⟨drop, -, h⟩ := ok_bind_iff.mp h
  cases drop with
  | true =>
      obtain ⟨-, rfl⟩ := Prod.mk.inj (Except.ok.inj h)
      exact .idle
  | false =>
      simp only [Bool.false_eq_true, if_false, tells_bind] at h
      split at h
      next sr' out hstep =>
        obtain ⟨-, rfl⟩ := Prod.mk.inj (Except.ok.inj h)
        exact .handled (i := ⟨_, .packet _ _⟩) hstep
      next => cases h

/-- A handler that leaves the instance alone. -/
theorem sr_of_bind_pure {α : Type} {x : Vns α} {f : α → ℤ}
    (h : (x >>= fun a => (pure (f a, s.sr) : Vns _)).val = .ok (ret, sr)) : sr = s.sr := by
  rw [val_bind] at h
  obtain ⟨a, -, h⟩ := ok_bind_iff.mp h
  exact (Prod.mk.inj (Except.ok.inj h)).2.symm

/-- An accepted announcement of hardware. -/
theorem hwinfo_change (h : (handleCommand env s VnsCommand.hwinfo.code buf).val = .ok (1, sr)) :
    Change s.sr sr ∧ RoutesResolve sr := by
  have hcase : VnsCommand.handled VnsCommand.hwinfo.code = some .hwinfo := rfl
  rw [handleCommand, hcase] at h
  simp only [val_bind] at h
  obtain ⟨⟨n, sr'⟩, hsr, h⟩ := ok_bind_iff.mp h
  obtain ⟨hret, rfl⟩ := Prod.mk.inj (Except.ok.inj h)
  obtain ⟨ifs, hnames, rfl⟩ := srHandleHwinfo_cases hsr
  have hverify : srVerifyRoutingTable { s.sr with ifList := ifs } = 0 := by
    by_contra hne
    rw [if_pos hne] at hret
    cases hret
  exact ⟨.hardware hnames hverify, routesResolve_of_verify hverify⟩

/-- A message that is answered with 1. -/
theorem handleCommand_change {command : UInt32}
    (h : (handleCommand env s command buf).val = .ok (1, sr)) : Change s.sr sr := by
  by_cases hhw : command = VnsCommand.hwinfo.code
  · subst hhw
    exact (hwinfo_change h).1
  unfold handleCommand at h
  split at h
  · exact handleVnspacket_change h
  · exact sr_of_bind_pure (f := fun _ => 0) h ▸ .idle
  · exact sr_of_bind_pure (f := fun _ => 1) h ▸ .idle
  · next hcase =>
      refine absurd ?_ hhw
      have hcode := List.find?_some hcase
      exact (of_decide_eq_true hcode).symm
  · exact sr_of_bind_pure (f := fun ok : Bool => if ok then 1 else -1) h ▸ .idle
  · exact sr_of_bind_pure (f := fun ok : Bool => if ok then 1 else -1) h ▸ .idle
  · exact sr_of_bind_pure (f := fun ok : Bool => if ok then 1 else -1) h ▸ .idle
  · obtain ⟨-, rfl⟩ := Prod.mk.inj (Except.ok.inj h)
    exact .idle

/-- **One step of the client.** -/
theorem mainStep_change {i : MainInput} {out : List Io} (h : mainStep s i = .ok (s', out)) :
    Change s.sr s'.sr ∧ (i.IsHwinfo → RoutesResolve s'.sr) := by
  cases i with
  | message env command buf =>
      simp only [mainStep] at h
      split at h
      next ret sr hval =>
        split_ifs at h with hret
        subst hret
        obtain ⟨rfl, -⟩ := Prod.mk.inj (Except.ok.inj h)
        refine ⟨handleCommand_change hval, fun hhw => ?_⟩
        obtain rfl : command = VnsCommand.hwinfo.code := hhw
        exact (hwinfo_change hval).2
      next => cases h
  | timer env =>
      simp only [mainStep] at h
      split at h
      next sr out' hstep =>
        obtain ⟨rfl, -⟩ := Prod.mk.inj (Except.ok.inj h)
        exact ⟨.handled (i := ⟨env, .timer⟩) hstep, False.elim⟩
      next => cases h

end change

/-! ### What every change keeps -/

/-- The cache invariant, and every waiting packet is queued under the interface of a route. -/
structure QueueInv (sr : SrInstance) : Prop where
  cache : CacheInv sr.cache
  routed : ∀ x ∈ waiting sr.cache, ∃ rt ∈ sr.routingTable, x.2.iface = rt.interface

section keep

variable {i : Input} {sr sr' : SrInstance} {out : List Effect}

/-- It holds in the beginning. -/
theorem QueueInv.init (ifList : List SrIf) (routingTable : List SrRt) :
    QueueInv (srInit ifList routingTable) where
  cache := CacheInv.init
  routed := by simp [waiting, srInit, srArpcacheInit]

/-- An action keeps it. -/
theorem QueueInv.action (hQ : QueueInv sr) (h : Action i sr out sr') : QueueInv sr' where
  cache := hQ.cache.action h
  routed := by
    rintro ⟨ip, pkt⟩ hx
    rw [h.frame.2]
    rcases h.mem_waiting hQ.cache hx with hx | hx
    · exact hQ.routed _ hx
    · obtain ⟨_, _, rt, -, -, -, -, hrt, -, -, hiface⟩ := h.origin (mem_enqueued_iff.mp hx)
      exact ⟨rt, mem_of_longestPrefixMatch hrt, hiface⟩

/-- Actions change neither the interfaces nor the routes. -/
theorem RoutesResolve.action (hR : RoutesResolve sr) (h : Action i sr out sr') :
    RoutesResolve sr' := by
  intro rt hrt
  rw [h.frame.2] at hrt
  rw [srGetInterface, h.frame.1]
  exact hR rt hrt

/-- Both are kept along a path of actions. -/
theorem keep_of_path (hpath : Path (Action i) sr out sr') (hQ : QueueInv sr) :
    QueueInv sr' ∧ (RoutesResolve sr → RoutesResolve sr') :=
  Path.preserves (P := fun _ sr' => QueueInv sr' ∧ (RoutesResolve sr → RoutesResolve sr'))
    (fun _ _ _ _ hP h => ⟨hP.1.action h, fun hR => (hP.2 hR).action h⟩) ⟨hQ, id⟩ hpath

/-- **A change keeps the queue in order and resolves no fewer names.** -/
theorem Change.keep (h : Change sr sr') (hQ : QueueInv sr) :
    QueueInv sr' ∧ (RoutesResolve sr → RoutesResolve sr') := by
  cases h with
  | idle => exact ⟨hQ, id⟩
  | handled hstep => exact keep_of_path (step_refines _ _ _ _ hstep) hQ
  | hardware hnames hverify => exact ⟨⟨hQ.cache, hQ.routed⟩, fun hR => hR.mono hnames⟩

end keep

/-! ### Null pointers -/

section nullFree

variable {env : Env} {sr : SrInstance}

/-- A waiting packet is queued under a name that resolves. -/
theorem QueueInv.resolves (hQ : QueueInv sr) (hR : RoutesResolve sr) {req : SrArpreq}
    (hreq : req ∈ sr.cache.requests) {pkt : SrPacket} (hpkt : pkt ∈ req.packets) :
    srGetInterface sr pkt.iface ≠ none := by
  obtain ⟨rt, hrt, hiface⟩ := hQ.routed (req.ip, pkt) (mem_waiting_iff.mpr ⟨req, hreq, rfl, hpkt⟩)
  rw [hiface]
  exact hR rt hrt

/-- `create_arp_request` and `sr_send_icmp_t3` are given interfaces. -/
theorem handleArpreq_ne_nullDeref (hQ : QueueInv sr) (hR : RoutesResolve sr) (req : ℕ) :
    handleArpreq sr env req ≠ .error .nullDeref := by
  intro h
  unfold handleArpreq at h
  cases hfind : Keyed.find SrArpreq.id req sr.cache.requests with
  | none =>
      rw [hfind] at h
      cases h
  | some node =>
      have hnode := Keyed.mem_of_find hfind
      simp only [hfind] at h
      split_ifs at h
      · rcases error_bind_iff.mp h with h | ⟨out, -, h⟩
        · obtain ⟨pkt, hpkt, h⟩ := exists_of_mapM_error h
          rcases error_bind_iff.mp h with h | ⟨iface, -, h⟩
          · exact hQ.resolves hR hnode hpkt (deref_error_iff.mp h).1
          · cases h
        · cases h
      · rcases error_bind_iff.mp h with h | ⟨pkt, hpkt, h⟩
        · exact hQ.cache.packets_ne node hnode (List.head?_eq_none_iff.mp (deref_error_iff.mp h).1)
        · have hpkt := List.mem_of_mem_head? (deref_ok_iff.mp hpkt)
          rcases error_bind_iff.mp h with h | ⟨iface, -, h⟩
          · exact hQ.resolves hR hnode hpkt (deref_error_iff.mp h).1
          · cases h

/-- Nor does the sweep need one that is missing: each call leaves the queue in order. -/
theorem sweepLoop_ne_nullDeref (hQ : QueueInv sr) (hR : RoutesResolve sr) (reqs : List ℕ) :
    sweepLoop env reqs sr ≠ .error .nullDeref := by
  induction reqs generalizing sr with
  | nil => rintro ⟨⟩
  | cons req reqs ih =>
      intro h
      rcases error_bind_iff.mp h with h | ⟨⟨sr₁, out⟩, hstep, h⟩
      · exact handleArpreq_ne_nullDeref hQ hR req h
      · obtain ⟨hQ₁, hR₁⟩ := keep_of_path (handleArpreq_path (i := ⟨env, .timer⟩) hstep) hQ
        rcases error_bind_iff.mp h with h | ⟨r, -, h⟩
        · exact ih hQ₁ (hR₁ hR) h
        · cases h

/-- A timer iteration finds the interfaces it looks for. -/
theorem srArpcacheTimeout_ne_nullDeref (hQ : QueueInv sr) (hR : RoutesResolve sr) :
    srArpcacheTimeout sr env ≠ .error .nullDeref := by
  have hexpire : Action ⟨env, .timer⟩ sr [] { sr with cache := sr.cache.expire env.now } :=
    .expire rfl
  exact sweepLoop_ne_nullDeref (hQ.action hexpire) (hR.action hexpire) _

/-- Deciding about a packet looks for none. -/
theorem ipPacketVerdict_ne_nullDeref {packet : List UInt8} :
    ipPacketVerdict sr packet ≠ .error .nullDeref := by
  intro h
  unfold ipPacketVerdict at h
  split_ifs at h
  dsimp only at h
  split at h
  · unfold localVerdict at h
    dsimp only at h
    split_ifs at h
    cases h
  · cases h

/-- `handle_ip_packet` is given the interface of the route it has found. -/
theorem handleIpPacket_ne_nullDeref (hQ : QueueInv sr) (hR : RoutesResolve sr)
    {packet : List UInt8} {interface : IfaceName} (hin : srGetInterface sr interface ≠ none)
    (htype : ethertype packet env.after = 0x0800) :
    handleIpPacket sr env packet interface ≠ .error .nullDeref := by
  intro h
  rcases error_bind_iff.mp h with h | ⟨verdict, hverdict, h⟩
  · exact ipPacketVerdict_ne_nullDeref h
  cases verdict with
  | drop => cases h
  | respond packet' type code ipInterface =>
      rcases error_bind_iff.mp h with h | ⟨out, -, h⟩
      · unfold sendIcmpResponse at h
        split_ifs at h
        rcases error_bind_iff.mp h with h | ⟨icmpSum, -, h⟩
        · cases (readStray_error_iff.mp h).2
        rcases error_bind_iff.mp h with h | ⟨iface, -, h⟩
        · exact hin (deref_error_iff.mp h).1
        · cases h
      · cases h
  | forward packet' rt entry =>
      rcases error_bind_iff.mp h with h | ⟨iface, -, h⟩
      · obtain ⟨-, -, hrt, -, -⟩ := verdict_forward_iff.mp hverdict
        exact hR rt (mem_of_longestPrefixMatch hrt) (deref_error_iff.mp h).1
      · cases h
  | queue packet' rt =>
      have hqueue : Action ⟨env, .packet packet interface⟩ sr _ _ := .queue rfl htype hverdict
      rcases error_bind_iff.mp h with h | ⟨r, -, h⟩
      · exact handleArpreq_ne_nullDeref (hQ.action hqueue) (hR.action hqueue) _ h
      · cases h

/-- `handle_arp_packet` looks up the interface the packet came in on only. -/
theorem handleArpPacket_ne_nullDeref {packet : List UInt8} {interface : IfaceName}
    (hin : srGetInterface sr interface ≠ none) :
    handleArpPacket sr env packet interface ≠ .error .nullDeref := by
  intro h
  unfold handleArpPacket at h
  by_cases hrequest : arOp packet env.after = 1
  · rw [if_pos hrequest] at h
    rcases error_bind_iff.mp h with h | ⟨iface, -, h⟩
    · exact hin (deref_error_iff.mp h).1
    · split_ifs at h
      cases h
  rw [if_neg hrequest] at h
  by_cases hreply : arOp packet env.after = 2
  · rw [if_pos hreply] at h
    dsimp only at h
    split at h
    · cases h
    · rcases error_bind_iff.mp h with h | ⟨out, -, h⟩
      · obtain ⟨pkt, -, h⟩ := exists_of_mapM_error h
        rcases error_bind_iff.mp h with h | ⟨iface, -, h⟩
        · exact hin (deref_error_iff.mp h).1
        · cases h
      · cases h
  · rw [if_neg hreply] at h
    cases h

/-- A frame finds the interfaces it looks for, if it has come in on one. -/
theorem srHandlepacket_ne_nullDeref (hQ : QueueInv sr) (hR : RoutesResolve sr)
    {packet : List UInt8} {interface : IfaceName} (hin : srGetInterface sr interface ≠ none) :
    srHandlepacket sr env packet interface ≠ .error .nullDeref := by
  unfold srHandlepacket
  split_ifs with hip harp
  · exact handleIpPacket_ne_nullDeref hQ hR hin hip
  · exact handleArpPacket_ne_nullDeref hin
  · rintro ⟨⟩

end nullFree

/-! ### Runs -/

/-- Every name that is held by a route or a queued packet resolves. -/
structure Resolves (sr : SrInstance) : Prop where
  route : ∀ rt ∈ sr.routingTable, srGetInterface sr rt.interface ≠ none
  queued : ∀ req ∈ sr.cache.requests, ∀ pkt ∈ req.packets, srGetInterface sr pkt.iface ≠ none

/-- The null pointer of a name that does not resolve is not dereferenced, if the interface a packet
came in on exists. -/
structure NullFree (sr : SrInstance) : Prop where
  packet : ∀ env packet interface, srGetInterface sr interface ≠ none →
    srHandlepacket sr env packet interface ≠ .error .nullDeref
  arpreq : ∀ env req, handleArpreq sr env req ≠ .error .nullDeref
  timer : ∀ env, srArpcacheTimeout sr env ≠ .error .nullDeref

section run

variable {s s' : Session} {tr : List (MainInput × List Io)}

/-- What a run keeps, and what it establishes if hardware is announced in it. -/
theorem keep_of_run (h : Run mainStep s tr s') (hQ : QueueInv s.sr) :
    QueueInv s'.sr ∧ ((∃ i ∈ tr.map Prod.fst, i.IsHwinfo) → RoutesResolve s'.sr) := by
  induction h with
  | nil => exact ⟨hQ, by rintro ⟨i, ⟨⟩, -⟩⟩
  | snoc _ hstep ih =>
      obtain ⟨hchange, hhw⟩ := mainStep_change hstep
      obtain ⟨hQ', hR'⟩ := hchange.keep ih.1
      refine ⟨hQ', ?_⟩
      rintro ⟨i, hi, his⟩
      rw [List.map_append, List.mem_append] at hi
      rcases hi with hi | hi
      · exact hR' (ih.2 ⟨i, hi, his⟩)
      · obtain rfl := List.mem_singleton.mp hi
        exact hhw his

/-- **Interface names resolve.** In every state that the client reaches with hardware announced on
the way, whatever else it receives, the interface of every route and of every queued packet exists,
and no handler dereferences the null pointer of one that does not. -/
theorem interfaces_resolve {ifList : List SrIf} {routingTable : List SrRt}
    (hinit : s.sr = srInit ifList routingTable) (hrun : Run mainStep s tr s')
    (hhw : ∃ i ∈ tr.map Prod.fst, i.IsHwinfo) : Resolves s'.sr ∧ NullFree s'.sr := by
  obtain ⟨hQ, hR⟩ := keep_of_run hrun (hinit ▸ QueueInv.init ifList routingTable)
  have hR := hR hhw
  refine ⟨⟨hR, fun _ hreq _ hpkt => hQ.resolves hR hreq hpkt⟩, ?_, ?_, ?_⟩
  · exact fun _ _ _ hin => srHandlepacket_ne_nullDeref hQ hR hin
  · exact fun _ req => handleArpreq_ne_nullDeref hQ hR req
  · exact fun _ => srArpcacheTimeout_ne_nullDeref hQ hR

end run

/-- A client with a route out of `eth2` that has not heard of its interfaces. -/
def newSession : Session := { bareSession with sr := srInit [] [netRoute] }

/-- Both interfaces are announced, and a packet for elsewhere arrives on the first. -/
def announceThenArrive : List MainInput :=
  [.message quietEnv VnsCommand.hwinfo.code
      (be 4 440 ++ u32Bytes VnsCommand.hwinfo.code ++ twoInterfaces.flatMap hwRecords),
    .message { quietEnv with router := stillEnv 1 } VnsCommand.packet.code
      (be 4 66 ++ u32Bytes VnsCommand.packet.code ++ pad 16 [101, 116, 104, 49] ++
        udpFrame 2 9 64)]

/-- The packet waits under the name `eth2`, and that resolves. -/
theorem interfaces_resolve_announced : ∃ tr s', Run mainStep newSession tr s' ∧
    (waiting s'.sr.cache).map (fun x => x.2.iface) = [ethName 2] ∧
    Resolves s'.sr ∧ NullFree s'.sr := by
  obtain ⟨tr, s', hrun, hinputs, htest⟩ := exists_run mainStep newSession announceThenArrive
    (fun s' _ => (waiting s'.sr.cache).map (fun x => x.2.iface) = [ethName 2]) (by decide +kernel)
  refine ⟨tr, s', hrun, of_decide_eq_true htest, interfaces_resolve rfl hrun ?_⟩
  rw [hinputs]
  exact ⟨_, List.mem_cons_self, rfl⟩

end SimpleRouter
