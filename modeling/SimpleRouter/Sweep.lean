import SimpleRouter.Threads
import SimpleRouter.Lib.Linked

/-!
# The request sweep over nodes

`sr_arpcache_sweepreqs` advances with `req = req->next` after `handle_arpreq` may have freed `req`.
Here the queue is a linked list in a store of nodes: `sr_arpreq_destroy` walks to the node, unlinks
it and takes it out of the store, and a read of a node that is not in the store is
`Fault.useAfterFree`.

* `ReqStore.destroy`, `.handleArpreq`, `.sweepreqs` — the three functions over nodes.
* `Holds.handleArpreq`, `sweepreqs_refines` — **they do on the nodes what the functions of the
  router do on the queue**, as long as no freed node is read.
* `sweep_complete_iff` — **when a sweep is complete and safe**: exactly if it gives no request up,
  and every other request that is due can be sent. A sweep that gives a request up reads it after
  it has been freed, and a request behind it is never handled (`sweep_reads_freed`).
-/

namespace SimpleRouter

open Machine

/-- Why a walk over the nodes does not come to its end. -/
inductive WalkStop where
  /-- The C program has no meaning from here on. -/
  | fault (f : Fault)
  /-- There are more nodes on the way than have been allocated. -/
  | unfinished

/-- The request queue in memory. -/
structure ReqStore where
  /-- `cache->requests`. -/
  requests : Option ℕ
  /-- The nodes that have been allocated and not freed. -/
  nodes : Linked.Store SrArpreq
  /-- How many nodes have been allocated. -/
  size : ℕ

namespace ReqStore

/-- Read a node. -/
def read (st : ReqStore) (req : ℕ) : Except WalkStop (Linked.Cell SrArpreq) :=
  match st.nodes req with
  | some cell => .ok cell
  | none => .error (.fault .useAfterFree)

/-- Write a node. -/
def write (st : ReqStore) (req : ℕ) (cell : Linked.Cell SrArpreq) : ReqStore :=
  { st with nodes := Function.update st.nodes req (some cell) }

/-- Unlink a request and free it.
Source: `sr_arpcache.c`, `sr_arpreq_destroy` -/
def destroy (st : ReqStore) (entry : ℕ) : Except WalkStop ReqStore :=
  match Linked.unlink entry st.nodes st.requests st.size none st.requests with
  | none => .error .unfinished
  | some (nodes, requests) =>
      .ok { st with requests := requests, nodes := Function.update nodes entry none }

/-- Source: `sr_arpcache.c`, `handle_arpreq` -/
def handleArpreq (sr : SrInstance) (env : Env) (st : ReqStore) (req : ℕ) :
    Except WalkStop (ReqStore × List Effect) := do
  let cell ← st.read req
  if env.clock req - cell.val.sent ≥ 1 then
    if cell.val.timesSent ≥ 5 then do
      let out ← (cell.val.packets.mapM (srSendIcmpT3 sr env cell.val)).mapError .fault
      let st' ← st.destroy req
      .ok (st', out)
    else do
      let pkt ← (deref cell.val.packets.head?).mapError .fault
      let iface ← (deref (srGetInterface sr pkt.iface)).mapError .fault
      .ok (st.write req { cell with val := cell.val.resend (env.clock req) },
        [.send (.arpRequest req (env.clock req)) (createArpRequest iface cell.val.ip) pkt.iface])
  else .ok (st, [])

/-- The sweep from the pointer `req` on, with the calls of `handle_arpreq` and their effects.
Source: `sr_arpcache.c`, `sr_arpcache_sweepreqs`, the loop -/
def sweepFrom (sr : SrInstance) (env : Env) :
    ℕ → ReqStore → Option ℕ → Except WalkStop (ReqStore × List (ℕ × List Effect))
  | _, st, none => .ok (st, [])
  | 0, _, some _ => .error .unfinished
  | n + 1, st, some req => do
      let (st₁, out) ← st.handleArpreq sr env req
      -- `req = req->next`
      let cell ← st₁.read req
      let (st₂, calls) ← sweepFrom sr env n st₁ cell.next
      .ok (st₂, (req, out) :: calls)

/-- Source: `sr_arpcache.c`, `sr_arpcache_sweepreqs` -/
def sweepreqs (sr : SrInstance) (env : Env) (st : ReqStore) :
    Except WalkStop (ReqStore × List (ℕ × List Effect)) :=
  sweepFrom sr env st.size st st.requests

/-- The nodes are the queue `reqs`. -/
structure Holds (st : ReqStore) (reqs : List SrArpreq) : Prop where
  /-- They are linked in its order. -/
  seg : Linked.Seg SrArpreq.id st.nodes st.requests reqs none
  /-- They are different nodes. -/
  nodup : (reqs.map SrArpreq.id).Nodup
  /-- They have been allocated. -/
  length_le : reqs.length ≤ st.size

variable {sr sr' : SrInstance} {env : Env} {st st' : ReqStore} {reqs : List SrArpreq}
  {req : SrArpreq} {cell : Linked.Cell SrArpreq} {next : Option ℕ} {id : ℕ} {out : List Effect}

/-- A node is read if it is allocated. -/
theorem read_ok_iff : st.read id = .ok cell ↔ st.nodes id = some cell := by
  unfold read
  cases st.nodes id <;> simp

/-- What is destroyed is not allocated any more. -/
theorem nodes_of_destroy {st₁ : ReqStore} (h : st.destroy id = .ok st₁) : st₁.nodes id = none := by
  unfold destroy at h
  split at h
  · cases h
  · obtain rfl := Except.ok.inj h
    exact Function.update_self ..

/-! ### A sweep that gives nothing up -/

/-- The pass leaves the request on the queue: it is not given up, and can be sent if it is due. -/
def Sweepable (sr : SrInstance) (env : Env) (req : SrArpreq) : Prop :=
  ¬ req.Expired env ∧ (env.clock req.id - req.sent ≥ 1 →
    ∃ pkt iface, req.packets.head? = some pkt ∧ srGetInterface sr pkt.iface = some iface)

/-- What `handle_arpreq` does to the node of such a request. -/
theorem handleArpreq_of_sweepable (hreq : Sweepable sr env req)
    (hcell : st.nodes req.id = some ⟨req, next⟩) :
    ∃ req' out, req'.id = req.id ∧
      st.handleArpreq sr env req.id = .ok (st.write req.id ⟨req', next⟩, out) := by
  obtain ⟨halive, hsend⟩ := hreq
  unfold handleArpreq
  rw [read_ok_iff.mpr hcell]
  by_cases hdue : env.clock req.id - req.sent ≥ 1
  · obtain ⟨pkt, iface, hpkt, hiface⟩ := hsend hdue
    have htimes : ¬ req.timesSent ≥ 5 := fun h => halive ⟨h, hdue⟩
    refine ⟨req.resend (env.clock req.id), [.send (.arpRequest req.id (env.clock req.id))
      (createArpRequest iface req.ip) pkt.iface], rfl, ?_⟩
    simp only [bind, Except.bind, if_pos hdue, if_neg htimes, hpkt, deref, Except.mapError, hiface]
  · refine ⟨req, [], rfl, ?_⟩
    have hself : st.write req.id ⟨req, next⟩ = st := by
      rw [write, ← hcell, Function.update_eq_self]
    rw [hself]
    simp only [bind, Except.bind, if_neg hdue]

/-- After any other the pass stops: `handle_arpreq` faults, or has freed the node. -/
theorem sweepable_of_read {st₁ : ReqStore} (hcell : st.nodes req.id = some ⟨req, next⟩)
    (h : st.handleArpreq sr env req.id = .ok (st₁, out)) (hread : st₁.read req.id = .ok cell) :
    Sweepable sr env req := by
  obtain ⟨cell', hcell', h⟩ := ok_bind_iff.mp h
  obtain rfl := Option.some.inj (hcell.symm.trans (read_ok_iff.mp hcell'))
  split_ifs at h with hdue htimes
  · obtain ⟨_, -, h⟩ := ok_bind_iff.mp h
    obtain ⟨st', hdestroy, h⟩ := ok_bind_iff.mp h
    obtain ⟨rfl, -⟩ := Prod.mk.inj (Except.ok.inj h)
    rw [read_ok_iff, nodes_of_destroy hdestroy] at hread
    cases hread
  · obtain ⟨pkt, hpkt, h⟩ := ok_bind_iff.mp h
    obtain ⟨iface, hiface, -⟩ := ok_bind_iff.mp h
    have hhead := deref_ok_iff.mp (mapError_ok_iff.mp hpkt)
    have hfound := deref_ok_iff.mp (mapError_ok_iff.mp hiface)
    exact ⟨fun hexp => htimes hexp.1, fun _ => ⟨pkt, iface, hhead, hfound⟩⟩
  · exact ⟨fun hexp => hdue hexp.2, fun h => absurd h hdue⟩

/-- What has been written is read. -/
theorem read_write (st : ReqStore) (id : ℕ) (cell : Linked.Cell SrArpreq) :
    (st.write id cell).read id = .ok cell :=
  read_ok_iff.mpr (Function.update_self ..)

/-- A request that was left is what is read behind `handle_arpreq`, its pointer as before. -/
theorem written_of_read {st₁ : ReqStore} (hcell : st.nodes req.id = some ⟨req, next⟩)
    (h : st.handleArpreq sr env req.id = .ok (st₁, out)) (hread : st₁.read req.id = .ok cell) :
    st₁ = st.write req.id cell ∧ cell.next = next := by
  obtain ⟨req', out', -, h'⟩ :=
    handleArpreq_of_sweepable (sweepable_of_read hcell h hread) hcell
  obtain ⟨rfl, -⟩ := Prod.mk.inj (Except.ok.inj (h.symm.trans h'))
  rw [read_write] at hread
  obtain rfl := Except.ok.inj hread
  exact ⟨rfl, rfl⟩

/-- A sweep over a list of requests all of which it leaves. -/
theorem sweepFrom_of_sweepable {n : ℕ} {p : Option ℕ}
    (hseg : Linked.Seg SrArpreq.id st.nodes p reqs none) (hnd : (reqs.map SrArpreq.id).Nodup)
    (hn : reqs.length ≤ n) (hall : ∀ req ∈ reqs, Sweepable sr env req) :
    ∃ st' calls, sweepFrom sr env n st p = .ok (st', calls) ∧
      calls.map Prod.fst = reqs.map SrArpreq.id := by
  induction reqs generalizing st p n with
  | nil =>
      obtain rfl := hseg
      exact ⟨st, [], by rw [sweepFrom], rfl⟩
  | cons req reqs ih =>
      obtain ⟨rfl, next, hcell, hseg⟩ := hseg
      obtain ⟨n, rfl⟩ := Nat.exists_eq_succ_of_ne_zero (Nat.ne_zero_of_lt hn)
      obtain ⟨hne, hnd⟩ := Keyed.nodup_map_cons.mp hnd
      obtain ⟨hreq, hall⟩ := List.forall_mem_cons.mp hall
      obtain ⟨req', out, -, hhandle⟩ := handleArpreq_of_sweepable hreq hcell
      have hrest : Linked.Seg SrArpreq.id (st.write req.id ⟨req', next⟩).nodes next reqs none :=
        hseg.update_of_ne hne _
      obtain ⟨st', calls, hsweep, hcalls⟩ := ih hrest hnd (by simpa using hn) hall
      refine ⟨st', (req.id, out) :: calls, ?_, by rw [List.map_cons, hcalls, List.map_cons]⟩
      rw [sweepFrom, hhandle]
      simp only [bind, Except.bind, read_write, hsweep]

/-- A sweep that comes to its end has left every request. -/
theorem sweepable_of_sweepFrom {n : ℕ} {p : Option ℕ} {calls : List (ℕ × List Effect)}
    (hseg : Linked.Seg SrArpreq.id st.nodes p reqs none) (hnd : (reqs.map SrArpreq.id).Nodup)
    (h : sweepFrom sr env n st p = .ok (st', calls)) : ∀ req ∈ reqs, Sweepable sr env req := by
  induction reqs generalizing st st' p n calls with
  | nil => simp
  | cons req reqs ih =>
      obtain ⟨rfl, next, hcell, hseg⟩ := hseg
      obtain ⟨hne, hnd⟩ := Keyed.nodup_map_cons.mp hnd
      cases n with
      | zero => cases h
      | succ n =>
          obtain ⟨⟨st₁, out⟩, hhandle, h⟩ := ok_bind_iff.mp h
          obtain ⟨cell, hread, h⟩ := ok_bind_iff.mp h
          obtain ⟨⟨st₂, calls'⟩, hsweep, -⟩ := ok_bind_iff.mp h
          have hreq := sweepable_of_read hcell hhandle hread
          refine List.forall_mem_cons.mpr ⟨hreq, ?_⟩
          obtain ⟨rfl, rfl⟩ := written_of_read hcell hhandle hread
          exact ih (hseg.update_of_ne hne _) hnd hsweep

/-- **A sweep is complete and safe**: it comes to its end without reading a freed node, and has
called `handle_arpreq` exactly once on every request that was on the queue. -/
def SweepOk (sr : SrInstance) (env : Env) (st : ReqStore) (reqs : List SrArpreq) : Prop :=
  ∃ st' calls, st.sweepreqs sr env = .ok (st', calls) ∧
    ∀ req ∈ reqs, (calls.map Prod.fst).count req.id = 1

/-- **When a sweep is complete and safe.** -/
theorem sweep_complete_iff (hst : st.Holds reqs) :
    SweepOk sr env st reqs ↔ ∀ req ∈ reqs, ¬ req.Expired env ∧
      (env.clock req.id - req.sent ≥ 1 →
        ∃ pkt iface, req.packets.head? = some pkt ∧ srGetInterface sr pkt.iface = some iface) := by
  constructor
  · rintro ⟨st', calls, h, -⟩
    exact sweepable_of_sweepFrom hst.seg hst.nodup h
  · intro hall
    obtain ⟨st', calls, h, hcalls⟩ :=
      sweepFrom_of_sweepable hst.seg hst.nodup hst.length_le hall
    refine ⟨st', calls, h, fun req hreq => ?_⟩
    rw [hcalls]
    exact List.count_eq_one_of_mem hst.nodup (List.mem_map_of_mem hreq)

/-! ### The same as on the queue -/

/-- Destroying a request of the store. -/
theorem Holds.destroy (hst : st.Holds reqs) (id : ℕ) :
    ∃ st₁, st.destroy id = .ok st₁ ∧ st₁.Holds (Keyed.erase SrArpreq.id id reqs) := by
  obtain ⟨nodes, requests, hunlink, hseg⟩ :=
    Linked.unlink_spec id hst.seg hst.nodup hst.length_le
  refine ⟨⟨requests, Function.update nodes id none, st.size⟩, ?_, ?_⟩
  · unfold ReqStore.destroy
    rw [hunlink]
  · constructor
    case seg =>
      exact hseg.update_of_ne (fun r hr => ((Keyed.mem_erase_iff hst.nodup).mp hr).2) none
    case nodup => exact Keyed.map_erase_nodup hst.nodup
    case length_le => exact Keyed.erase_sublist.length_le.trans hst.length_le

/-- Counting a transmission of a request of the store. -/
theorem Holds.resend (hst : st.Holds reqs) (hcell : st.nodes id = some cell) (now : ℤ) :
    (st.write id { cell with val := cell.val.resend now }).Holds
      (Keyed.modify SrArpreq.id id (SrArpreq.resend now) reqs) where
  seg := hst.seg.modify (f := SrArpreq.resend now) hst.nodup (fun _ => rfl) hcell
  nodup := by
    have hids : (Keyed.modify SrArpreq.id id (SrArpreq.resend now) reqs).map SrArpreq.id =
        reqs.map SrArpreq.id := Keyed.map_modify fun _ => rfl
    exact hids.symm ▸ hst.nodup
  length_le := by
    rw [Keyed.modify, List.length_map]
    exact hst.length_le

/-- **`handle_arpreq` on a node is `handle_arpreq` on the queue.** -/
theorem Holds.handleArpreq (hst : st.Holds sr.cache.requests) (env : Env)
    (hreq : req ∈ sr.cache.requests) :
    (∃ sr' st' out, SimpleRouter.handleArpreq sr env req.id = .ok (sr', out) ∧
        st.handleArpreq sr env req.id = .ok (st', out) ∧ st'.Holds sr'.cache.requests) ∨
      ∃ f, SimpleRouter.handleArpreq sr env req.id = .error f ∧
        st.handleArpreq sr env req.id = .error (.fault f) := by
  obtain ⟨next, hcell⟩ := hst.seg.cell_of_mem hreq
  have hfind : Keyed.find SrArpreq.id req.id sr.cache.requests = some req :=
    (Keyed.find_eq_some_iff hst.nodup).mpr ⟨hreq, rfl⟩
  unfold SimpleRouter.handleArpreq ReqStore.handleArpreq
  rw [read_ok_iff.mpr hcell, hfind]
  simp only [bind, Except.bind]
  split_ifs with hdue htimes
  · cases hout : req.packets.mapM (srSendIcmpT3 sr env req) with
    | error f => exact .inr ⟨f, rfl, rfl⟩
    | ok out =>
        obtain ⟨st₁, hdestroy, hst₁⟩ := hst.destroy req.id
        refine .inl ⟨_, st₁, out, rfl, ?_, hst₁⟩
        simp only [Except.mapError, hdestroy]
  · cases hpkt : deref req.packets.head? with
    | error f => exact .inr ⟨f, rfl, rfl⟩
    | ok pkt =>
        cases hiface : deref (srGetInterface sr pkt.iface) with
        | error f =>
            refine .inr ⟨f, ?_, ?_⟩
            · simp only [hiface]
            · simp only [Except.mapError, hiface]
        | ok iface =>
            refine .inl ⟨{ sr with cache := resendCache sr.cache req.id (env.clock req.id) },
              st.write req.id ⟨req.resend (env.clock req.id), next⟩,
              [.send (.arpRequest req.id (env.clock req.id)) (createArpRequest iface req.ip)
                pkt.iface], ?_, ?_,
              hst.resend hcell (env.clock req.id)⟩
            · simp only [hiface]
              rfl
            · simp only [Except.mapError, hiface]
  · exact .inl ⟨sr, st, [], rfl, rfl, hst⟩

/-- Of the instance, `handle_arpreq` on a node reads the interfaces only. -/
theorem handleArpreq_congr (hif : sr'.ifList = sr.ifList) :
    st.handleArpreq sr' env id = st.handleArpreq sr env id := by
  have hget : srGetInterface sr' = srGetInterface sr := by
    funext name
    rw [srGetInterface, srGetInterface, hif]
  have hsend : srSendIcmpT3 sr' = srSendIcmpT3 sr := by
    funext env req pkt
    rw [srSendIcmpT3, srSendIcmpT3, hget]
  unfold handleArpreq
  rw [hget, hsend]

/-- A sweep that comes to its end, from a request of the queue on. -/
theorem Holds.sweepFrom {sr₀ : SrInstance} {n : ℕ} {p : Option ℕ} {calls : List (ℕ × List Effect)}
    (hst : st.Holds sr.cache.requests) (hif : sr₀.ifList = sr.ifList)
    (hseg : Linked.Seg SrArpreq.id st.nodes p reqs none) (hnd : (reqs.map SrArpreq.id).Nodup)
    (hsub : ∀ r ∈ reqs, r ∈ sr.cache.requests)
    (h : ReqStore.sweepFrom sr₀ env n st p = .ok (st', calls)) :
    ∃ sr', sweepLoop env (reqs.map SrArpreq.id) sr = .ok (sr', calls.flatMap Prod.snd) ∧
      st'.Holds sr'.cache.requests := by
  induction reqs generalizing sr st p n calls with
  | nil =>
      obtain rfl := hseg
      obtain ⟨rfl, rfl⟩ := Prod.mk.inj (Except.ok.inj (by simpa only [ReqStore.sweepFrom] using h))
      exact ⟨sr, rfl, hst⟩
  | cons req reqs ih =>
      obtain ⟨rfl, next, hcell, hseg⟩ := hseg
      obtain ⟨hne, hnd⟩ := Keyed.nodup_map_cons.mp hnd
      obtain ⟨hreq, hsub⟩ := List.forall_mem_cons.mp hsub
      cases n with
      | zero => cases h
      | succ n =>
          obtain ⟨⟨st₁, out⟩, hhandle, h⟩ := ok_bind_iff.mp h
          obtain ⟨cell, hread, h⟩ := ok_bind_iff.mp h
          obtain ⟨⟨st₂, calls'⟩, hsweep, h⟩ := ok_bind_iff.mp h
          obtain ⟨rfl, rfl⟩ := Prod.mk.inj (Except.ok.inj h)
          rw [handleArpreq_congr hif] at hhandle
          have hsweepable := sweepable_of_read hcell hhandle hread
          -- the request stays, so the queue behind it is where its node points
          obtain ⟨rfl, rfl⟩ := written_of_read hcell hhandle hread
          obtain ⟨sr₁, st₁, o, hqueue, hnode, hst₁⟩ | ⟨f, -, hnode⟩ := hst.handleArpreq env hreq
          · obtain ⟨rfl, rfl⟩ := Prod.mk.inj (Except.ok.inj (hhandle.symm.trans hnode))
            have hif₁ : sr₁.ifList = sr.ifList := by
              obtain ⟨_, -, ⟨-, rfl, -⟩ | ⟨-, -, -, rfl⟩ | ⟨-, -, _, _, -, -, -, rfl⟩⟩ :=
                handleArpreq_cases hqueue <;> rfl
            have hlive : ∃ r ∈ sr₁.cache.requests, r.id = req.id :=
              (handleArpreq_live_iff hqueue hst.nodup hreq).mpr hsweepable.1
            obtain ⟨sr', hloop, hst'⟩ := ih hst₁ (hif.trans hif₁.symm) (hseg.update_of_ne hne _)
              hnd (fun r hr => (handleArpreq_frame hqueue hst.nodup (hne r hr)).mpr (hsub r hr))
              hsweep
            refine ⟨sr', ?_, hst'⟩
            rw [List.map_cons, sweepLoop, hqueue]
            simp only [bind, Except.bind, if_pos hlive, hloop, List.append_nil, List.flatMap_cons]
          · rw [hnode] at hhandle
            cases hhandle

/-- **A sweep of the nodes that comes to its end is a sweep of the queue**, with the same effects,
none of them a read of a freed request. -/
theorem sweepreqs_refines {calls : List (ℕ × List Effect)} (hst : st.Holds sr.cache.requests)
    (h : st.sweepreqs sr env = .ok (st', calls)) :
    ∃ sr', srArpcacheSweepreqs sr env = .ok (sr', calls.flatMap Prod.snd) ∧
      st'.Holds sr'.cache.requests :=
  hst.sweepFrom rfl hst.seg hst.nodup (fun _ hr => hr) h

/-! ### A queue with requests to give up -/

/-- The queue `reqs`, as a linked list. -/
def ofList (reqs : List SrArpreq) : ReqStore where
  requests := reqs.head?.map SrArpreq.id
  nodes := fun a =>
    match reqs.dropWhile fun r => r.id ≠ a with
    | [] => none
    | r :: rest => some ⟨r, rest.head?.map SrArpreq.id⟩
  size := reqs.length

/-- A store is made of any queue of distinct requests. -/
theorem holds_ofList (hnd : (reqs.map SrArpreq.id).Nodup) : (ofList reqs).Holds reqs := by
  have hseg : ∀ rest done, done ++ rest = reqs →
      Linked.Seg SrArpreq.id (ofList reqs).nodes (rest.head?.map SrArpreq.id) rest none := by
    intro rest
    induction rest with
    | nil => exact fun _ _ => rfl
    | cons r rest ih =>
        intro done hsplit
        refine ⟨rfl, rest.head?.map SrArpreq.id, ?_, ih (done ++ [r]) (by simpa using hsplit)⟩
        have hdone : ∀ u ∈ done, (decide (u.id ≠ r.id)) = true := by
          intro u hu
          rw [← hsplit, List.map_append, List.nodup_append] at hnd
          exact decide_eq_true
            (hnd.2.2 _ (List.mem_map_of_mem hu) _ (List.mem_map_of_mem List.mem_cons_self))
        have hdrop : (reqs.dropWhile fun u => u.id ≠ r.id) = r :: rest := by
          rw [← hsplit, List.dropWhile_append_of_pos hdone, List.dropWhile_cons_of_neg (by simp)]
        simp only [ofList, hdrop]
  exact ⟨hseg reqs [] rfl, hnd, Nat.le_refl _⟩

/-- A queue of two requests, a second after both have been sent once: both are sent again. -/
theorem sweepOk_two : SweepOk twoPort (stillEnv 2)
    (ofList [firstReq, { firstReq with id := 1, ip := netAddr 2 3 }])
    [firstReq, { firstReq with id := 1, ip := netAddr 2 3 }] := by
  have hifaces : ∀ req ∈ [firstReq, { firstReq with id := 1, ip := netAddr 2 3 }],
      req.timesSent < 5 ∧ req.packets.head? = some firstPkt := by
    decide +kernel
  refine (sweep_complete_iff (holds_ofList (by decide))).mpr fun req hreq => ?_
  obtain ⟨htimes, hpkt⟩ := hifaces req hreq
  exact ⟨fun hexp => absurd hexp.1 (by omega), fun _ => ⟨firstPkt, ethIf 2, hpkt, by decide⟩⟩

/-- The pass has read a node that is not in the store. -/
def readsFreed {α : Type} : Except WalkStop α → Bool
  | .error (.fault .useAfterFree) => true
  | _ => false

/-- `twoPort` with a second route, through `10.0.2.3`. -/
def twoRoutes : SrInstance :=
  srInit [ethIf 1, ethIf 2] [netRoute, { netRoute with dest := netAddr 3 0, gw := netAddr 2 3 }]

/-- A packet for each route arrives at time 1, and nobody replies. -/
def silentInputs : List Input :=
  [firstArrival, ⟨stillEnv 1, .packet (udpFrame 3 9 64) (ethName 1)⟩] ++ fiveTimers.take 4

/-- At time 6 both requests have been sent five times. The sweep frees the first and reads it, and
does not get to the second. -/
theorem sweep_reads_freed :
    ∃ tr sr, Run step twoRoutes tr sr ∧ tr.map Prod.fst = silentInputs ∧
      sr.cache.requests.length = 2 ∧ (ofList sr.cache.requests).Holds sr.cache.requests ∧
      (ofList sr.cache.requests).sweepreqs sr (stillEnv 6) = .error (.fault .useAfterFree) ∧
      ¬ SweepOk sr (stillEnv 6) (ofList sr.cache.requests) sr.cache.requests := by
  obtain ⟨tr, sr, hrun, hinputs, htest⟩ := exists_run step twoRoutes silentInputs (fun sr _ =>
    sr.cache.requests.length = 2 ∧ (sr.cache.requests.map SrArpreq.id).Nodup ∧
      readsFreed ((ofList sr.cache.requests).sweepreqs sr (stillEnv 6))) (by decide +kernel)
  obtain ⟨hlen, hnd, hfreed⟩ := of_decide_eq_true htest
  have herror : (ofList sr.cache.requests).sweepreqs sr (stillEnv 6) =
      .error (.fault .useAfterFree) := by
    unfold readsFreed at hfreed
    split at hfreed
    · assumption
    · cases hfreed
  refine ⟨tr, sr, hrun, hinputs, hlen, holds_ofList hnd, herror, ?_⟩
  rintro ⟨st', calls, h, -⟩
  rw [herror] at h
  cases h

end ReqStore

end SimpleRouter
