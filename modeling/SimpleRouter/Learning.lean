import SimpleRouter.Invariant

/-!
# What a lookup sees of an insertion

`sr_arpcache_insert` writes into the first invalid slot and `sr_arpcache_lookup` returns the last
valid match, and neither looks for an older mapping of the address. Two mappings of one address can
thus be in the table at once, with the newer one in front, and a full table takes no mapping at
all.

* `lookup_insert_of_ne` — the lookups of other addresses are unchanged.
* `lookup_insert_of_slot`, `lookup_insert_of_full` — the lookup of the address itself.
* `insertVisible_iff` — **when an insertion is visible**: exactly if there is an invalid slot with
  no mapping of the address behind it, or the mapping found anyway has the same hardware address.
* `reply_visible_iff` — the same of a router that receives an ARP reply.
* `staleMapping_wins` — a run after which an insertion is not visible.
-/

namespace SimpleRouter

open Buffer Machine

section insert

variable {cache : SrArpcache} {mac : EtherAddr} {ip : UInt32} {now : ℤ}

/-- **An insertion is visible**: a lookup of the address returns the hardware address inserted,
and every other lookup returns what it returned before. -/
def InsertVisible (cache : SrArpcache) (mac : EtherAddr) (ip : UInt32) (now : ℤ) : Prop :=
  (∃ e, srArpcacheLookup (srArpcacheInsert cache mac ip now).1 ip = some e ∧ e.mac = mac) ∧
  ∀ ip' ≠ ip, srArpcacheLookup (srArpcacheInsert cache mac ip now).1 ip' =
    srArpcacheLookup cache ip'

/-- There is an invalid slot, and behind the first one no mapping of the address. -/
def HasRoom (cache : SrArpcache) (ip : UInt32) : Prop :=
  ∃ slot after, cache.entries.dropWhile SrArpentry.valid = slot :: after ∧
    ∀ e ∈ after, e.valid → e.ip ≠ ip

/-- The last mapping of the address is to this hardware address. -/
def LastMaps (cache : SrArpcache) (mac : EtherAddr) (ip : UInt32) : Prop :=
  ∃ before e after, cache.entries = before ++ e :: after ∧ e.valid ∧ e.ip = ip ∧ e.mac = mac ∧
    ∀ e' ∈ after, e'.valid → e'.ip ≠ ip

/-! ### The table after an insertion -/

/-- The first slot that is not valid. -/
theorem entries_of_dropWhile {slot : SrArpentry} {after : List SrArpentry}
    (h : cache.entries.dropWhile SrArpentry.valid = slot :: after) :
    cache.entries = cache.entries.takeWhile SrArpentry.valid ++ slot :: after ∧
      slot.valid = false := by
  constructor
  · rw [← h, List.takeWhile_append_dropWhile]
  · have hhead := List.head?_dropWhile_not SrArpentry.valid cache.entries
    rw [h] at hhead
    simpa using hhead

/-- A lookup behind an insertion that has found a slot. -/
theorem lookup_insert_of_slot {slot : SrArpentry} {after : List SrArpentry}
    (h : cache.entries.dropWhile SrArpentry.valid = slot :: after) (ip' : UInt32) :
    srArpcacheLookup (srArpcacheInsert cache mac ip now).1 ip' =
      Slots.findLast (fun e => e.valid ∧ e.ip = ip')
        (cache.entries.takeWhile SrArpentry.valid ++ ⟨mac, ip, now, true⟩ :: after) := by
  rw [lookup_eq_findLast, ← Slots.fillFirst_of_dropWhile h]
  rfl

/-- A full table does not take the mapping. -/
theorem lookup_insert_of_full (h : cache.entries.dropWhile SrArpentry.valid = []) (ip' : UInt32) :
    srArpcacheLookup (srArpcacheInsert cache mac ip now).1 ip' = srArpcacheLookup cache ip' := by
  have hentries : (srArpcacheInsert cache mac ip now).1.entries = cache.entries :=
    Slots.fillFirst_of_full h
  rw [lookup_eq_findLast, hentries, lookup_eq_findLast]

/-- The lookups of other addresses are unchanged. -/
theorem lookup_insert_of_ne {ip' : UInt32} (h : ip' ≠ ip) :
    srArpcacheLookup (srArpcacheInsert cache mac ip now).1 ip' = srArpcacheLookup cache ip' := by
  cases hslots : cache.entries.dropWhile SrArpentry.valid with
  | nil => exact lookup_insert_of_full hslots ip'
  | cons slot after =>
      obtain ⟨hentries, hslot⟩ := entries_of_dropWhile hslots
      rw [lookup_insert_of_slot hslots, lookup_eq_findLast]
      conv_rhs => rw [hentries]
      apply Slots.findLast_overwrite
      · simp [hslot]
      · exact fun hnew => h hnew.2.symm

/-- The last mapping of an address is the one that a lookup finds. -/
theorem lastMaps_iff : LastMaps cache mac ip ↔
    ∃ e, srArpcacheLookup cache ip = some e ∧ e.mac = mac := by
  simp only [lookup_eq_findLast, Slots.findLast_eq_some_iff]
  constructor
  · rintro ⟨before, e, after, hentries, hv, hip, hmac, hafter⟩
    exact ⟨e, ⟨before, after, hentries, ⟨hv, hip⟩, fun b hb hbp => hafter b hb hbp.1 hbp.2⟩, hmac⟩
  · rintro ⟨e, ⟨before, after, hentries, ⟨hv, hip⟩, hafter⟩, hmac⟩
    exact ⟨before, e, after, hentries, hv, hip, hmac, fun b hb hbv hbip => hafter b hb ⟨hbv, hbip⟩⟩

/-- **When an insertion is visible.** -/
theorem insertVisible_iff :
    InsertVisible cache mac ip now ↔ HasRoom cache ip ∨ LastMaps cache mac ip := by
  have hothers : ∀ ip' ≠ ip, srArpcacheLookup (srArpcacheInsert cache mac ip now).1 ip' =
      srArpcacheLookup cache ip' := fun ip' h => lookup_insert_of_ne h
  rw [lastMaps_iff, InsertVisible, and_iff_left hothers]
  cases hslots : cache.entries.dropWhile SrArpentry.valid with
  | nil =>
      have hroom : ¬ HasRoom cache ip := by
        rintro ⟨slot, after, h, -⟩
        rw [hslots] at h
        cases h
      rw [lookup_insert_of_full hslots, or_iff_right hroom]
  | cons slot after =>
      have hroom : HasRoom cache ip ↔
          Slots.findLast (fun e : SrArpentry => e.valid ∧ e.ip = ip) after = none := by
        rw [Slots.findLast_eq_none_iff]
        constructor
        · rintro ⟨slot', after', h, hafter⟩ e he ⟨hv, hip⟩
          rw [hslots] at h
          obtain ⟨-, rfl⟩ := List.cons.inj h
          exact hafter e he hv hip
        · exact fun h => ⟨slot, after, hslots, fun e he hv hip => h e he ⟨hv, hip⟩⟩
      obtain ⟨hentries, hslot⟩ := entries_of_dropWhile hslots
      rw [hroom, lookup_insert_of_slot hslots, Slots.findLast_overwrite_hit (by simp)]
      cases hafter : Slots.findLast (fun e : SrArpentry => e.valid ∧ e.ip = ip) after with
      | none => simp
      | some e =>
          -- the mapping behind the slot hides the new one, as it is the last one before and after
          have hold : srArpcacheLookup cache ip = some e := by
            rw [lookup_eq_findLast, hentries, Slots.findLast_append, Slots.findLast_cons, hafter]
            rfl
          rw [hold]
          simp

/-- **What a router sees of a reply**: after an ARP reply, the lookup of its sender returns the
sender's hardware address exactly if there was room for it. -/
theorem reply_visible_iff {sr sr' : SrInstance} {i : Input} {out : List Effect}
    {interface : IfaceName} (hreply : i.IsReply interface ip mac)
    (h : step sr i = .ok (sr', out)) :
    ((∃ e, srArpcacheLookup sr'.cache ip = some e ∧ e.mac = mac) ∧
      ∀ ip' ≠ ip, srArpcacheLookup sr'.cache ip' = srArpcacheLookup sr.cache ip') ↔
      HasRoom sr.cache ip ∨ LastMaps sr.cache mac ip := by
  obtain ⟨buf, hevent, htype, hop, rfl, rfl⟩ := hreply
  have hentries : sr'.cache.entries = (learnCache sr i.env buf).entries := by
    rw [step, hevent] at h
    have harp : handleArpPacket sr i.env buf interface = .ok (sr', out) := by
      simpa only [srHandlepacket, htype, show (0x0806 : UInt16) ≠ 0x0800 by decide, if_false,
        if_true] using h
    rcases handleArpPacket_reply hop harp with ⟨-, -, rfl⟩ | ⟨req, -, -, rfl⟩ <;> rfl
  have hlookup : ∀ ip', srArpcacheLookup sr'.cache ip' =
      srArpcacheLookup (learnCache sr i.env buf) ip' := by
    intro ip'
    rw [lookup_eq_findLast, hentries, lookup_eq_findLast]
  simp only [hlookup]
  exact insertVisible_iff

end insert

/-! ### A stale mapping -/

/-- The owner of an address replies on `eth2`. -/
def replyAt (now : ℤ) (sha : EtherAddr) (sip : UInt32) : Input :=
  ⟨stillEnv now, .packet (replyFrame sha sip) (ethName 2)⟩

/-- `10.0.2.3` replies at time 0 and `10.0.2.2` at time 10; at time 16 the first mapping has
expired and the second has not. -/
def staleInputs : List Input :=
  [replyAt 0 (mac 21) (netAddr 2 3), replyAt 10 (mac 22) (netAddr 2 2),
    ⟨stillEnv 16, .timer⟩]

/-- A new mapping of `10.0.2.2` goes into the slot in front, and the lookup returns the old one. -/
theorem staleMapping_wins :
    ∃ tr sr, Run step twoPort tr sr ∧ tr.map Prod.fst = staleInputs ∧
      (∃ e, srArpcacheLookup (srArpcacheInsert sr.cache (mac 23) (netAddr 2 2) 17).1
        (netAddr 2 2) = some e ∧ e.mac = mac 22) ∧
      ¬ InsertVisible sr.cache (mac 23) (netAddr 2 2) 17 := by
  obtain ⟨tr, sr, hrun, hinputs, htest⟩ := exists_run step twoPort staleInputs (fun sr _ =>
    (srArpcacheLookup (srArpcacheInsert sr.cache (mac 23) (netAddr 2 2) 17).1
      (netAddr 2 2)).map SrArpentry.mac = some (mac 22)) (by decide +kernel)
  obtain ⟨e, he, hmac⟩ := Option.map_eq_some_iff.mp (of_decide_eq_true htest)
  refine ⟨tr, sr, hrun, hinputs, ⟨e, he, hmac⟩, fun hvisible => ?_⟩
  obtain ⟨e', he', hmac'⟩ := hvisible.1
  obtain rfl := Option.some.inj (he.symm.trans he')
  exact absurd (hmac.symm.trans hmac') (by decide)

end SimpleRouter
