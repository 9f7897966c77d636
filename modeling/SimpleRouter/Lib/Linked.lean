import SimpleRouter.Lib.Keyed
import Mathlib.Logic.Function.Basic

/-!
# Linked lists in a store

A store holds the nodes that are allocated, each with its content and the address of the next one;
a node that has been freed is not in it. `addr : ν → ℕ` is the address a content belongs at.

* `Seg addr h p l q` — from the pointer `p` the `next` fields lead through nodes with the contents
  `l` to the pointer `q`. A whole list is a segment that ends in the null pointer.
* `Seg.cell_of_mem` — the contents of a segment are in the store.
* `Seg.congr`, `Seg.update_of_ne`, `Seg.modify` — stores that hold the same segment, or the one
  with a content changed.
* `unlink` — the walk that takes a node out of a list, with a pointer to the node before;
  `unlink_spec` — **what it leaves is the list without the node**.
* `Owns addr h l` — the nodes that are allocated are those of `l`, and no others; `Owns.alloc`,
  `.free`, `.freeSome`, `.modify` — what allocating, freeing and changing nodes does to it.
* `search`, `contents`, `freeAll`, `unlinkFirst` — the walks that look for a node, read a list, free
  a list, and unlink the first node with a property; `search_spec`, `contents_spec`,
  `freeAll_spec`, `unlinkFirst_spec` — what they return on a whole list.
-/

namespace Linked

variable {ν : Type}

/-- A node. -/
structure Cell (ν : Type) where
  /-- The content. -/
  val : ν
  /-- The next node, if there is one. -/
  next : Option ℕ

/-- The nodes that are allocated, by address. -/
abbrev Store (ν : Type) := ℕ → Option (Cell ν)

variable {addr : ν → ℕ} {h h' : Store ν} {p q r : Option ℕ} {l l' : List ν} {v : ν} {a : ℕ}

/-- The `next` fields lead from `p` through `l` to `q`. -/
def Seg (addr : ν → ℕ) (h : Store ν) : Option ℕ → List ν → Option ℕ → Prop
  | p, [], q => p = q
  | p, v :: l, q => p = some (addr v) ∧ ∃ next, h (addr v) = some ⟨v, next⟩ ∧ Seg addr h next l q

/-- Two segments, one behind the other. -/
theorem Seg.append (h₁ : Seg addr h p l q) (h₂ : Seg addr h q l' r) :
    Seg addr h p (l ++ l') r := by
  induction l generalizing p with
  | nil =>
      obtain rfl := h₁
      exact h₂
  | cons v l ih =>
      obtain ⟨rfl, next, hv, hl⟩ := h₁
      exact ⟨rfl, next, hv, ih hl⟩

/-- A segment in two parts. -/
theorem Seg.split (hs : Seg addr h p (l ++ l') r) :
    ∃ q, Seg addr h p l q ∧ Seg addr h q l' r := by
  induction l generalizing p with
  | nil => exact ⟨p, rfl, hs⟩
  | cons v l ih =>
      obtain ⟨rfl, next, hv, hl⟩ := hs
      obtain ⟨q, h₁, h₂⟩ := ih hl
      exact ⟨q, ⟨rfl, next, hv, h₁⟩, h₂⟩

/-- The last node of a segment points where the segment ends. -/
theorem Seg.last (hs : Seg addr h p (l ++ [v]) q) :
    Seg addr h p l (some (addr v)) ∧ h (addr v) = some ⟨v, q⟩ := by
  obtain ⟨r, h₁, rfl, next, hv, rfl⟩ := hs.split
  exact ⟨h₁, hv⟩

/-- A segment lies in the nodes it visits. -/
theorem Seg.congr (hs : Seg addr h p l q) (heq : ∀ v ∈ l, h' (addr v) = h (addr v)) :
    Seg addr h' p l q := by
  induction l generalizing p with
  | nil => exact hs
  | cons v l ih =>
      obtain ⟨rfl, next, hv, hl⟩ := hs
      refine ⟨rfl, next, ?_, ih hl fun u hu => heq u (List.mem_cons_of_mem _ hu)⟩
      rw [heq v List.mem_cons_self, hv]

/-- A content of the list is in the store. -/
theorem Seg.cell_of_mem (hs : Seg addr h p l q) (hv : v ∈ l) :
    ∃ next, h (addr v) = some ⟨v, next⟩ := by
  obtain ⟨l₁, l₂, rfl⟩ := List.append_of_mem hv
  obtain ⟨r, -, -, next, hcell, -⟩ := hs.split
  exact ⟨next, hcell⟩

/-- A write elsewhere keeps a segment. -/
theorem Seg.update_of_ne (hs : Seg addr h p l q) (hne : ∀ v ∈ l, addr v ≠ a)
    (c : Option (Cell ν)) : Seg addr (Function.update h a c) p l q :=
  hs.congr fun v hv => Function.update_of_ne (hne v hv) _ _

/-- Letting the last node of a segment point elsewhere. -/
theorem Seg.redirect (hs : Seg addr h p (l ++ [v]) q) (hnd : ((l ++ [v]).map addr).Nodup) :
    Seg addr (Function.update h (addr v) (some ⟨v, r⟩)) p (l ++ [v]) r := by
  rw [List.map_append, List.nodup_append] at hnd
  have hne : ∀ u ∈ l, addr u ≠ addr v := fun u hu =>
    hnd.2.2 _ (List.mem_map_of_mem hu) _ (List.mem_singleton_self _)
  exact (hs.last.1.update_of_ne hne _).append ⟨rfl, r, Function.update_self .., rfl⟩

/-- Changing the content of a node. -/
theorem Seg.modify {f : ν → ν} (hs : Seg addr h p l q) (hnd : (l.map addr).Nodup)
    (hf : ∀ v, addr (f v) = addr v) {c : Cell ν} (hc : h a = some c) :
    Seg addr (Function.update h a (some { c with val := f c.val })) p
      (Keyed.modify addr a f l) q := by
  induction l generalizing p with
  | nil => exact hs
  | cons v l ih =>
      obtain ⟨rfl, next, hv, hl⟩ := hs
      obtain ⟨hne, hnd⟩ := Keyed.nodup_map_cons.mp hnd
      have hcons : Keyed.modify addr a f (v :: l) =
          (if addr v = a then f v else v) :: Keyed.modify addr a f l := rfl
      rw [hcons]
      by_cases heq : addr v = a
      · subst heq
        obtain rfl := Option.some.inj (hc.symm.trans hv)
        rw [if_pos rfl, Keyed.modify_eq_self hne]
        refine ⟨by rw [hf], next, ?_, hl.update_of_ne hne _⟩
        rw [hf, Function.update_self]
      · rw [if_neg heq]
        exact ⟨rfl, next, by rw [Function.update_of_ne heq, hv], ih hl hnd⟩

/-- No more nodes are on a list than there are addresses. -/
theorem length_le {n : ℕ} (hnd : (l.map addr).Nodup) (hlt : ∀ v ∈ l, addr v < n) :
    l.length ≤ n := by
  have hsub : l.map addr ⊆ List.range n := by
    intro a ha
    obtain ⟨v, hv, rfl⟩ := List.mem_map.mp ha
    exact List.mem_range.mpr (hlt v hv)
  simpa using (List.subperm_of_subset hnd hsub).length_le

/-! ### Taking a node out -/

/-- The walk from the pointer `req` on, where `prev` is the node before, if any; `head` is the
pointer the list starts at. It returns the store and the start of the list without `entry`, and
nothing if it reads a node that is not allocated. `n` bounds the number of nodes visited. -/
def unlink (entry : ℕ) (h : Store ν) (head : Option ℕ) :
    ℕ → Option ℕ → Option ℕ → Option (Store ν × Option ℕ)
  | _, _, none => some (h, head)
  | 0, _, some _ => none
  | n + 1, prev, some req =>
      match h req with
      | none => none
      | some cell =>
          if req = entry then
            match prev with
            | none => some (h, cell.next)
            | some p =>
                match h p with
                | none => none
                | some before =>
                    some (Function.update h p (some { before with next := cell.next }), head)
          else unlink entry h head n (some req) cell.next

/-- The walk at a list of which it has passed `l`. -/
theorem unlink_from {head : Option ℕ} {entry n : ℕ} (h₁ : Seg addr h head l p)
    (h₂ : Seg addr h p l' none) (hnd : ((l ++ l').map addr).Nodup) (hn : l'.length ≤ n)
    (hentry : ∀ v ∈ l, addr v ≠ entry) :
    ∃ h' head', unlink entry h head n (l.getLast?.map addr) p = some (h', head') ∧
      Seg addr h' head' (Keyed.erase addr entry (l ++ l')) none := by
  induction l' generalizing l p n with
  | nil =>
      obtain rfl := h₂
      refine ⟨h, head, by rw [unlink], ?_⟩
      rw [List.append_nil, Keyed.erase_eq_self hentry]
      exact h₁
  | cons v l' ih =>
      obtain ⟨rfl, next, hv, hl'⟩ := h₂
      obtain ⟨n, rfl⟩ := Nat.exists_eq_succ_of_ne_zero (Nat.ne_zero_of_lt hn)
      rw [unlink, hv]
      dsimp only
      by_cases heq : addr v = entry
      · rw [if_pos heq]
        have herase : Keyed.erase addr entry (l ++ v :: l') = l ++ l' := by
          rw [Keyed.erase, List.eraseP_append_right _ (by simpa using hentry),
            List.eraseP_cons_of_pos (by simpa using heq)]
        rw [herase]
        rcases List.eq_nil_or_concat l with rfl | ⟨l, u, rfl⟩
        · exact ⟨h, next, rfl, hl'⟩
        · -- the node before is the last one passed
          rw [List.concat_eq_append] at *
          have hnd' : ((l ++ [u]).map addr).Nodup := hnd.sublist (List.Sublist.map _ (by simp))
          have hne : ∀ w ∈ l', addr w ≠ addr u := by
            intro w hw hwu
            rw [List.map_append, List.nodup_append] at hnd
            exact hnd.2.2 (addr u) (List.mem_map_of_mem (by simp)) (addr w)
              (List.mem_map_of_mem (List.mem_cons_of_mem _ hw)) hwu.symm
          refine ⟨Function.update h (addr u) (some ⟨u, next⟩), head, ?_,
            (h₁.redirect hnd').append (hl'.update_of_ne hne _)⟩
          rw [List.getLast?_concat, Option.map_some]
          simp only [h₁.last.2]
      · rw [if_neg heq]
        have hpass : Seg addr h head (l ++ [v]) next := h₁.append ⟨rfl, next, hv, rfl⟩
        have hentry' : ∀ u ∈ l ++ [v], addr u ≠ entry := by
          intro u hu
          rcases List.mem_append.mp hu with hu | hu
          · exact hentry u hu
          · exact List.mem_singleton.mp hu ▸ heq
        have hstep := ih (l := l ++ [v]) (n := n) hpass hl' (by simpa using hnd)
          (by simpa using hn) hentry'
        rwa [List.getLast?_concat, Option.map_some, List.append_assoc,
          List.singleton_append] at hstep

/-- **What is left is the list without the node.** -/
theorem unlink_spec {n : ℕ} (entry : ℕ) (hs : Seg addr h p l none) (hnd : (l.map addr).Nodup)
    (hn : l.length ≤ n) :
    ∃ h' p', unlink entry h p n none p = some (h', p') ∧
      Seg addr h' p' (Keyed.erase addr entry l) none :=
  unlink_from (l := []) rfl hs hnd hn (by simp)

/-! ### What the nodes hold -/

/-- The content of a node that is allocated. -/
def val (h : Store ν) (a : ℕ) : Option ν := (h a).map Cell.val

/-- The nodes that are allocated are those of the contents `l`, and no others. -/
def Owns (addr : ν → ℕ) (h : Store ν) (l : List ν) : Prop :=
  ∀ a v, val h a = some v ↔ v ∈ l ∧ addr v = a

/-- The values after a write. -/
theorem val_update (h : Store ν) (a b : ℕ) (c : Option (Cell ν)) :
    val (Function.update h a c) b = if b = a then c.map Cell.val else val h b := by
  unfold val
  by_cases hb : b = a
  · rw [if_pos hb, hb, Function.update_self]
  · rw [if_neg hb, Function.update_of_ne hb]

/-- Letting a node point elsewhere leaves what it holds. -/
theorem val_redirect {c : Cell ν} (hc : h a = some c) (q : Option ℕ) (b : ℕ) :
    val (Function.update h a (some { c with next := q })) b = val h b := by
  rw [val_update]
  split_ifs with hb
  · rw [hb, val, hc]
    rfl
  · rfl

/-- An empty store. -/
theorem owns_nil : Owns addr (fun _ => none) [] := by
  intro a v
  simp [val]

/-- Owning depends on the values of the store only. -/
theorem Owns.congr (hO : Owns addr h l) (hval : ∀ a, val h' a = val h a) : Owns addr h' l := by
  intro a v
  rw [hval]
  exact hO a v

/-- Owning depends on the members of the list only. -/
theorem Owns.mem_congr (hO : Owns addr h l) (hmem : ∀ v, v ∈ l' ↔ v ∈ l) : Owns addr h l' := by
  intro a v
  rw [hmem]
  exact hO a v

/-- What is owned stands at its address. -/
theorem Owns.val_of_mem (hO : Owns addr h l) (hv : v ∈ l) : val h (addr v) = some v :=
  (hO _ _).mpr ⟨hv, rfl⟩

/-- An address that no content has is not allocated. -/
theorem Owns.free_of (hO : Owns addr h l) (ha : ∀ v ∈ l, addr v ≠ a) : h a = none := by
  by_contra hne
  obtain ⟨c, hc⟩ := Option.ne_none_iff_exists'.mp hne
  have hval : val h a = some c.val := by rw [val, hc, Option.map_some]
  obtain ⟨hmem, haddr⟩ := (hO _ _).mp hval
  exact ha _ hmem haddr

/-- Allocating a node. -/
theorem Owns.alloc (hO : Owns addr h l) (hv : ∀ u ∈ l, addr u ≠ addr v) (q : Option ℕ) :
    Owns addr (Function.update h (addr v) (some ⟨v, q⟩)) (v :: l) := by
  intro a u
  rw [val_update]
  by_cases ha : a = addr v
  · subst ha
    rw [if_pos rfl, Option.map_some, Option.some.injEq, List.mem_cons]
    constructor
    · rintro rfl
      exact ⟨.inl rfl, rfl⟩
    · rintro ⟨rfl | hu, haddr⟩
      · rfl
      · exact absurd haddr (hv u hu)
  · rw [if_neg ha, hO a u, List.mem_cons]
    constructor
    · rintro ⟨hu, haddr⟩
      exact ⟨.inr hu, haddr⟩
    · rintro ⟨rfl | hu, haddr⟩
      · exact absurd haddr.symm ha
      · exact ⟨hu, haddr⟩

/-- Freeing a node. -/
theorem Owns.free (hO : Owns addr h l) (hnd : (l.map addr).Nodup) (a : ℕ) :
    Owns addr (Function.update h a none) (Keyed.erase addr a l) := by
  intro b v
  rw [val_update, Keyed.mem_erase_iff hnd]
  split_ifs with hb
  · constructor
    · rintro ⟨⟩
    · rintro ⟨⟨-, hne⟩, haddr⟩
      exact absurd (haddr.trans hb) hne
  · rw [hO b v]
    constructor
    · rintro ⟨hv, haddr⟩
      exact ⟨⟨hv, fun heq => hb (haddr.symm.trans heq)⟩, haddr⟩
    · rintro ⟨⟨hv, -⟩, haddr⟩
      exact ⟨hv, haddr⟩

/-- Changing what a node holds. -/
theorem Owns.modify {f : ν → ν} (hO : Owns addr h l) (hnd : (l.map addr).Nodup)
    (hf : ∀ v, addr (f v) = addr v) {c : Cell ν} (hc : h a = some c) :
    Owns addr (Function.update h a (some { c with val := f c.val }))
      (Keyed.modify addr a f l) := by
  have hval : val h a = some c.val := by rw [val, hc, Option.map_some]
  obtain ⟨hmem, haddr⟩ := (hO _ _).mp hval
  intro b v
  rw [val_update, Keyed.mem_modify_iff hnd ((Keyed.find_eq_some_iff hnd).mpr ⟨hmem, haddr⟩)]
  split_ifs with hb
  · rw [Option.map_some, Option.some.injEq]
    constructor
    · rintro rfl
      exact ⟨.inl rfl, (hf _).trans (haddr.trans hb.symm)⟩
    · rintro ⟨rfl | ⟨-, hne⟩, hv⟩
      · rfl
      · exact absurd (hv.trans hb) hne
  · rw [hO b v]
    constructor
    · rintro ⟨hv, hvb⟩
      exact ⟨.inr ⟨hv, fun heq => hb (hvb.symm.trans heq)⟩, hvb⟩
    · rintro ⟨rfl | ⟨hv, -⟩, hvb⟩
      · exact absurd (hvb.symm.trans ((hf _).trans haddr)) hb
      · exact ⟨hv, hvb⟩

/-- Freeing some of the nodes. -/
theorem Owns.freeSome (hO : Owns addr h (l ++ l')) (hnd : ((l ++ l').map addr).Nodup)
    (hfree : ∀ a, h' a = if a ∈ l.map addr then none else h a) : Owns addr h' l' := by
  rw [List.map_append, List.nodup_append] at hnd
  intro a v
  have hval : val h' a = if a ∈ l.map addr then none else val h a := by
    unfold val
    rw [hfree]
    split_ifs <;> rfl
  rw [hval]
  split_ifs with ha
  · constructor
    · rintro ⟨⟩
    · rintro ⟨hv, rfl⟩
      exact absurd rfl (hnd.2.2 _ ha _ (List.mem_map_of_mem hv))
  · rw [hO a v, List.mem_append]
    constructor
    · rintro ⟨hv | hv, rfl⟩
      · exact absurd (List.mem_map_of_mem hv) ha
      · exact ⟨hv, rfl⟩
    · rintro ⟨hv, haddr⟩
      exact ⟨.inr hv, haddr⟩

/-- Unlinking changes no value. -/
theorem val_unlink {entry n : ℕ} {head head' prev : Option ℕ}
    (hu : unlink entry h head n prev p = some (h', head')) (a : ℕ) : val h' a = val h a := by
  induction n generalizing prev p with
  | zero =>
      cases p with
      | none =>
          rw [unlink] at hu
          obtain ⟨rfl, -⟩ := Prod.mk.inj (Option.some.inj hu)
          rfl
      | some req => cases hu
  | succ n ih =>
      cases p with
      | none =>
          rw [unlink] at hu
          obtain ⟨rfl, -⟩ := Prod.mk.inj (Option.some.inj hu)
          rfl
      | some req =>
          rw [unlink] at hu
          split at hu
          · cases hu
          · split_ifs at hu
            · split at hu
              · obtain ⟨rfl, -⟩ := Prod.mk.inj (Option.some.inj hu)
                rfl
              · split at hu
                · cases hu
                · rename_i before hbefore
                  obtain ⟨rfl, -⟩ := Prod.mk.inj (Option.some.inj hu)
                  exact val_redirect hbefore _ a
            · exact ih hu

/-! ### Other walks -/

/-- The address of the first node that `stop` accepts, if there is one. `n` bounds the number of
nodes visited, and nothing is returned by a walk that reads a node that is not allocated. -/
def search (stop : ν → Bool) (h : Store ν) : ℕ → Option ℕ → Option (Option ℕ)
  | _, none => some none
  | 0, some _ => none
  | n + 1, some a =>
      match h a with
      | none => none
      | some cell => if stop cell.val then some (some a) else search stop h n cell.next

/-- The contents from a pointer on. -/
def contents (h : Store ν) : ℕ → Option ℕ → Option (List ν)
  | _, none => some []
  | 0, some _ => none
  | n + 1, some a =>
      match h a with
      | none => none
      | some cell => (contents h n cell.next).map (cell.val :: ·)

/-- The store once the nodes from a pointer on have been freed, each after its `next` field has
been read. -/
def freeAll (h : Store ν) : ℕ → Option ℕ → Option (Store ν)
  | _, none => some h
  | 0, some _ => none
  | n + 1, some a =>
      match h a with
      | none => none
      | some cell => freeAll (Function.update h a none) n cell.next

/-- The walk that unlinks the first node that `stop` accepts, and returns its address. -/
def unlinkFirst (stop : ν → Bool) (h : Store ν) (head : Option ℕ) :
    ℕ → Option ℕ → Option ℕ → Option (Store ν × Option ℕ × Option ℕ)
  | _, _, none => some (h, head, none)
  | 0, _, some _ => none
  | n + 1, prev, some req =>
      match h req with
      | none => none
      | some cell =>
          if stop cell.val then
            match prev with
            | none => some (h, cell.next, some req)
            | some p =>
                match h p with
                | none => none
                | some before =>
                    some (Function.update h p (some { before with next := cell.next }), head,
                      some req)
          else unlinkFirst stop h head n (some req) cell.next

section walks

variable {stop : ν → Bool} {n : ℕ}

/-- A search walks to the first node it looks for. -/
theorem search_spec (stop : ν → Bool) (hs : Seg addr h p l none) (hn : l.length ≤ n) :
    search stop h n p = some ((l.find? stop).map addr) := by
  induction l generalizing p n with
  | nil =>
      obtain rfl := hs
      rw [search]
      rfl
  | cons v l ih =>
      obtain ⟨rfl, next, hv, hl⟩ := hs
      obtain ⟨n, rfl⟩ := Nat.exists_eq_succ_of_ne_zero (Nat.ne_zero_of_lt hn)
      rw [search, hv]
      dsimp only
      by_cases hstop : stop v
      · rw [if_pos hstop, List.find?_cons_of_pos hstop]
        rfl
      · rw [if_neg hstop, List.find?_cons_of_neg hstop, ih hl (Nat.le_of_succ_le_succ hn)]

/-- Walking a list reads it. -/
theorem contents_spec (hs : Seg addr h p l none) (hn : l.length ≤ n) :
    contents h n p = some l := by
  induction l generalizing p n with
  | nil =>
      obtain rfl := hs
      rw [contents]
  | cons v l ih =>
      obtain ⟨rfl, next, hv, hl⟩ := hs
      obtain ⟨n, rfl⟩ := Nat.exists_eq_succ_of_ne_zero (Nat.ne_zero_of_lt hn)
      rw [contents, hv]
      dsimp only
      rw [ih hl (Nat.le_of_succ_le_succ hn), Option.map_some]

/-- Freeing a list frees its nodes, and no others. -/
theorem freeAll_spec (hs : Seg addr h p l none) (hnd : (l.map addr).Nodup) (hn : l.length ≤ n) :
    ∃ h', freeAll h n p = some h' ∧ ∀ a, h' a = if a ∈ l.map addr then none else h a := by
  induction l generalizing h p n with
  | nil =>
      obtain rfl := hs
      exact ⟨h, by rw [freeAll], fun a => (if_neg List.not_mem_nil).symm⟩
  | cons v l ih =>
      obtain ⟨rfl, next, hv, hl⟩ := hs
      obtain ⟨n, rfl⟩ := Nat.exists_eq_succ_of_ne_zero (Nat.ne_zero_of_lt hn)
      obtain ⟨hne, hnd⟩ := Keyed.nodup_map_cons.mp hnd
      obtain ⟨h', hfree, hh'⟩ := ih (hl.update_of_ne hne none) hnd (Nat.le_of_succ_le_succ hn)
      refine ⟨h', by rw [freeAll, hv]; exact hfree, fun a => ?_⟩
      rw [hh' a, List.map_cons]
      by_cases ha : a = addr v
      · subst ha
        rw [if_pos List.mem_cons_self, Function.update_self, ite_self]
      · rw [Function.update_of_ne ha]
        simp only [List.mem_cons, ha, false_or]

/-- Finding the node and unlinking it, in one walk. -/
theorem unlinkFirst_from {head : Option ℕ} {prev : Option ℕ} (hs : Seg addr h p l none)
    (hnd : (l.map addr).Nodup) (hn : l.length ≤ n) :
    unlinkFirst stop h head n prev p =
      match l.find? stop with
      | none => some (h, head, none)
      | some v => (unlink (addr v) h head n prev p).map fun (h', head') =>
          (h', head', some (addr v)) := by
  induction l generalizing p n prev with
  | nil =>
      obtain rfl := hs
      rw [unlinkFirst]
      rfl
  | cons v l ih =>
      obtain ⟨rfl, next, hv, hl⟩ := hs
      obtain ⟨n, rfl⟩ := Nat.exists_eq_succ_of_ne_zero (Nat.ne_zero_of_lt hn)
      obtain ⟨hne, hnd⟩ := Keyed.nodup_map_cons.mp hnd
      rw [unlinkFirst, hv]
      dsimp only
      by_cases hstop : stop v
      · rw [if_pos hstop, List.find?_cons_of_pos hstop]
        dsimp only
        rw [unlink, hv]
        dsimp only
        rw [if_pos rfl]
        cases prev with
        | none => rfl
        | some prev =>
            dsimp only
            cases h prev <;> rfl
      · rw [if_neg hstop, List.find?_cons_of_neg hstop, ih hl hnd (Nat.le_of_succ_le_succ hn)]
        cases hfind : l.find? stop with
        | none => rfl
        | some u =>
            dsimp only
            have hu : addr v ≠ addr u := (hne u (List.mem_of_find?_eq_some hfind)).symm
            rw [unlink, hv]
            dsimp only
            rw [if_neg hu]

/-- **The list without the first node that is accepted**; the nodes hold what they held. -/
theorem unlinkFirst_spec (stop : ν → Bool) (hs : Seg addr h p l none)
    (hnd : (l.map addr).Nodup) (hn : l.length ≤ n) :
    ∃ h' p', unlinkFirst stop h p n none p = some (h', p', (l.find? stop).map addr) ∧
      Seg addr h' p' (l.eraseP stop) none ∧ ∀ a, val h' a = val h a := by
  rw [unlinkFirst_from hs hnd hn]
  cases hfind : l.find? stop with
  | none =>
      refine ⟨h, p, rfl, ?_, fun _ => rfl⟩
      rw [List.eraseP_of_forall_not (by simpa using hfind)]
      exact hs
  | some v =>
      obtain ⟨h', p', hunlink, hseg⟩ := unlink_spec (addr v) hs hnd hn
      refine ⟨h', p', ?_, ?_, val_unlink hunlink⟩
      · dsimp only
        rw [hunlink]
        rfl
      rwa [Keyed.erase_eq_eraseP hnd hfind] at hseg

end walks

end Linked
