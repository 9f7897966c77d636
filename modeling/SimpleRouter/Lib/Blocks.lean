import SimpleRouter.Lib.Buffer
import SimpleRouter.Lib.Wire

/-!
# Iterated hashing

A message is cut into blocks of one size and a compression function is folded over them, from a
start value. The last blocks are padded: what is put behind a message depends on its length only,
fills its last block, and ends in a mark of that length.

* `blocks n l`, `residue n l` — the whole blocks of a list and what is left behind them; a list is
  cut in one way only (`blocks_flatten_append`, `residue_flatten_append`).
* `push n f` — a machine that takes one item at a time and keeps the block begun; `foldl_push` —
  **it is at the fold over the whole blocks, with the residue**, however the items arrive.
* `Padding`, `Padding.hash` — the padding and the hash function it gives.
* `Padding.hash_eq_or_collides` — **two messages with the same hash are equal, or the compression
  function collides on the way along their blocks**, as long as the mark tells their lengths apart.
-/

namespace Blocks

open Buffer

variable {α σ : Type} {n : ℕ} {f : σ → List α → σ} {s t : σ} {l r b c : List α}
  {bs cs : List (List α)}

/-! ### Cutting a list -/

/-- The whole blocks. -/
def blocks (n : ℕ) (l : List α) : List (List α) :=
  (List.range (l.length / n)).map fun i => slice l (i * n) n

/-- What is left behind the whole blocks. -/
def residue (n : ℕ) (l : List α) : List α := l.drop (l.length / n * n)

/-- There are no blocks of nothing. -/
@[simp] theorem blocks_nil : blocks n ([] : List α) = [] := by
  rw [blocks, List.length_nil, Nat.zero_div]
  rfl

/-- Nothing is left of nothing. -/
@[simp] theorem residue_nil : residue n ([] : List α) = [] := List.drop_nil

/-- What is left is the remainder of the length. -/
@[simp] theorem length_residue : (residue n l).length = l.length % n := by
  rw [residue, List.length_drop, Nat.mod_eq_sub_div_mul]

/-- All blocks have the size. -/
theorem length_of_mem_blocks (h : b ∈ blocks n l) : b.length = n := by
  obtain ⟨i, hi, rfl⟩ := List.mem_map.mp h
  have hblock : (i + 1) * n ≤ l.length / n * n :=
    Nat.mul_le_mul_right n (List.mem_range.mp hi)
  have hlen := Nat.div_mul_le_self l.length n
  rw [Nat.succ_mul] at hblock
  rw [length_slice]
  omega

/-- The list is its blocks and the residue. -/
theorem flatten_blocks_append : (blocks n l).flatten ++ residue n l = l := by
  rw [blocks, flatten_slices, residue, List.take_append_drop]

/-- Blocks of the size with less than a block behind them are the blocks of the whole. -/
theorem blocks_flatten_append (hbs : ∀ b ∈ bs, b.length = n) (hr : r.length < n) :
    blocks n (bs.flatten ++ r) = bs := by
  have hlen : (bs.flatten ++ r).length / n = bs.length := by
    rw [List.length_append, Wire.length_flatten_of_forall hbs, Nat.add_comm,
      Nat.add_mul_div_right _ _ (Nat.zero_lt_of_lt hr), Nat.div_eq_of_lt hr, Nat.zero_add]
  refine List.ext_getElem ?_ fun i hi hi' => ?_
  · rw [blocks, List.length_map, List.length_range, hlen]
  · have hin : i * n + n ≤ bs.flatten.length := by
      rw [Wire.length_flatten_of_forall hbs, ← Nat.succ_mul]
      exact Nat.mul_le_mul_right n hi'
    simp only [blocks, List.getElem_map, List.getElem_range]
    rw [slice_append_left hin]
    exact Wire.take_drop_flatten hbs hi'

/-- What stands behind whole blocks is left. -/
theorem residue_flatten_append (hbs : ∀ b ∈ bs, b.length = n) (hr : r.length < n) :
    residue n (bs.flatten ++ r) = r := by
  have hcut := flatten_blocks_append (n := n) (l := bs.flatten ++ r)
  rw [blocks_flatten_append hbs hr] at hcut
  exact List.append_cancel_left hcut

/-- Whole blocks are the blocks of what they make up. -/
theorem blocks_flatten (hn : 0 < n) (hbs : ∀ b ∈ bs, b.length = n) : blocks n bs.flatten = bs := by
  simpa using blocks_flatten_append hbs (r := []) hn

/-- A list of whole blocks is its blocks. -/
theorem flatten_blocks (h : n ∣ l.length) : (blocks n l).flatten = l := by
  have hrest : residue n l = [] := by
    rw [← List.length_eq_zero_iff, length_residue]
    exact Nat.mod_eq_zero_of_dvd h
  simpa [hrest] using flatten_blocks_append (n := n) (l := l)

/-! ### One item at a time -/

/-- Take an item: a block that is full goes through the compression function. -/
def push (n : ℕ) (f : σ → List α → σ) (x : σ × List α) (a : α) : σ × List α :=
  if x.2.length + 1 = n then (f x.1 (x.2 ++ [a]), []) else (x.1, x.2 ++ [a])

/-- The cut of a list with one item more. -/
theorem blocks_concat (hn : 0 < n) (a : α) :
    (blocks n (l ++ [a]), residue n (l ++ [a])) =
      if (residue n l).length + 1 = n then (blocks n l ++ [residue n l ++ [a]], [])
      else (blocks n l, residue n l ++ [a]) := by
  have hblock : ∀ b ∈ blocks n l, b.length = n := fun b => length_of_mem_blocks
  have hlt : (residue n l).length < n := length_residue ▸ Nat.mod_lt _ hn
  split_ifs with hfull
  · have hcut : l ++ [a] = (blocks n l ++ [residue n l ++ [a]]).flatten ++ [] := by
      conv_lhs => rw [← flatten_blocks_append (n := n) (l := l)]
      simp
    have hsize : ∀ b ∈ blocks n l ++ [residue n l ++ [a]], b.length = n := by
      intro b hb
      rcases List.mem_append.mp hb with hb | hb
      · exact hblock b hb
      · rw [List.mem_singleton.mp hb, List.length_append]
        exact hfull
    rw [hcut, blocks_flatten_append (r := []) hsize hn, residue_flatten_append (r := []) hsize hn]
  · have hcut : l ++ [a] = (blocks n l).flatten ++ (residue n l ++ [a]) := by
      rw [← List.append_assoc, flatten_blocks_append]
    have hrest : (residue n l ++ [a]).length < n := by
      rw [List.length_append, List.length_singleton]
      omega
    rw [hcut, blocks_flatten_append hblock hrest, residue_flatten_append hblock hrest]

/-- **After any items the machine is at the fold over the whole blocks, with the residue.** -/
theorem foldl_push (hn : 0 < n) :
    l.foldl (push n f) (s, []) = ((blocks n l).foldl f s, residue n l) := by
  induction l using List.reverseRecOn with
  | nil => simp
  | append_singleton l a ih =>
      have hcut := blocks_concat (l := l) hn a
      rw [List.foldl_append, ih, List.foldl_cons, List.foldl_nil, push]
      split_ifs at hcut ⊢
      · obtain ⟨hb, hr⟩ := Prod.mk.inj hcut
        rw [hb, hr, List.foldl_append]
        rfl
      · obtain ⟨hb, hr⟩ := Prod.mk.inj hcut
        rw [hb, hr]

/-! ### Collisions -/

/-- On the way along the blocks `bs` from `s` and along `cs` from `t` the compression function has
the same value on two different inputs. -/
def Collides (f : σ → List α → σ) (s t : σ) (bs cs : List (List α)) : Prop :=
  ∃ bs' b cs' c, bs' ++ [b] <+: bs ∧ cs' ++ [c] <+: cs ∧
    ¬ (bs'.foldl f s = cs'.foldl f t ∧ b = c) ∧
    f (bs'.foldl f s) b = f (cs'.foldl f t) c

/-- A collision on the way to an earlier block. -/
theorem Collides.mono {bs' cs' : List (List α)} (h : Collides f s t bs cs) (hbs : bs <+: bs')
    (hcs : cs <+: cs') : Collides f s t bs' cs' := by
  obtain ⟨bs₁, b, cs₁, c, hb, hc, hne, heq⟩ := h
  exact ⟨bs₁, b, cs₁, c, hb.trans hbs, hc.trans hcs, hne, heq⟩

/-- Folds that end alike: the last inputs agree, or collide. -/
theorem last_eq_or_collides (h : (bs ++ [b]).foldl f s = (cs ++ [c]).foldl f t) :
    (bs.foldl f s = cs.foldl f t ∧ b = c) ∨ Collides f s t (bs ++ [b]) (cs ++ [c]) := by
  rw [List.foldl_append, List.foldl_append] at h
  by_cases hlast : bs.foldl f s = cs.foldl f t ∧ b = c
  · exact .inl hlast
  · exact .inr ⟨bs, b, cs, c, List.prefix_rfl, List.prefix_rfl, hlast, h⟩

/-- Folds over as many blocks that end alike: all blocks agree, or two inputs collide. -/
theorem blocks_eq_or_collides (hlen : bs.length = cs.length)
    (h : bs.foldl f s = cs.foldl f t) : bs = cs ∨ Collides f s t bs cs := by
  induction bs using List.reverseRecOn generalizing cs with
  | nil => exact .inl (List.length_eq_zero_iff.mp hlen.symm).symm
  | append_singleton bs b ih =>
      obtain ⟨cs, c, rfl⟩ : ∃ cs' c, cs = cs' ++ [c] := by
        rcases List.eq_nil_or_concat cs with rfl | ⟨cs', c, rfl⟩
        · simp at hlen
        · exact ⟨cs', c, List.concat_eq_append⟩
      rcases last_eq_or_collides h with ⟨hrest, rfl⟩ | hcoll
      · have hlen' : bs.length = cs.length := by simpa using hlen
        rcases ih hlen' hrest with rfl | hcoll
        · exact .inl rfl
        · exact .inr (hcoll.mono (List.prefix_append _ _) (List.prefix_append _ _))
      · exact .inr hcoll

/-! ### Padding -/

/-- What is put behind a message of a length. -/
structure Padding (α : Type) (n : ℕ) where
  /-- The part that fills the block. -/
  fill : ℕ → List α
  /-- The part that tells the length. -/
  mark : ℕ → List α
  /-- The size of the latter. -/
  size : ℕ
  length_mark : ∀ len, (mark len).length = size
  size_pos : 0 < size
  size_le : size ≤ n
  /-- The last block is full. -/
  fills : ∀ len, n ∣ len + (fill len).length + size

namespace Padding

variable (p : Padding α n) {m m' : List α} {limit : ℕ}

/-- A message with its padding. -/
def pad (m : List α) : List α := m ++ p.fill m.length ++ p.mark m.length

/-- The hash function of a compression function and a start value. -/
def hash (f : σ → List α → σ) (s : σ) (m : List α) : σ := (blocks n (p.pad m)).foldl f s

/-- The parts of a padded message. -/
theorem length_pad : (p.pad m).length = m.length + (p.fill m.length).length + p.size := by
  rw [pad, List.length_append, List.length_append, p.length_mark]

include p in

/-- A block is not empty. -/
theorem pos : 0 < n := p.size_pos.trans_le p.size_le

/-- A padded message is made of whole blocks. -/
theorem dvd_length_pad : n ∣ (p.pad m).length := p.length_pad ▸ p.fills m.length

/-- The hash of a message whose padded blocks are known. -/
theorem hash_eq (bs : List (List α)) (hbs : ∀ b ∈ bs, b.length = n) (h : p.pad m = bs.flatten) :
    p.hash f s m = bs.foldl f s := by
  rw [hash, h, blocks_flatten p.pos hbs]

/-- Messages of one length with the same padded blocks are the same. -/
theorem eq_of_pad_eq (hlen : m.length = m'.length) (h : p.pad m = p.pad m') : m = m' := by
  rw [pad, pad, List.append_assoc, List.append_assoc] at h
  exact (List.append_inj h hlen).1

/-- The last block of a padded message ends in the mark. -/
theorem exists_last : ∃ bs b, blocks n (p.pad m) = bs ++ [b] ∧
    b.drop (n - p.size) = p.mark m.length := by
  have hflat := flatten_blocks (p.dvd_length_pad (m := m))
  rcases List.eq_nil_or_concat (blocks n (p.pad m)) with hnil | ⟨bs, b, hcut⟩
  · have hlen := p.length_pad (m := m)
    rw [← hflat, hnil] at hlen
    have hpos := p.size_pos
    simp only [List.flatten_nil, List.length_nil] at hlen
    omega
  · rw [List.concat_eq_append] at hcut
    refine ⟨bs, b, hcut, ?_⟩
    have hb : b.length = n := length_of_mem_blocks (l := p.pad m) (by rw [hcut]; simp)
    have hmark : (p.pad m).drop ((p.pad m).length - p.size) = p.mark m.length := by
      refine List.drop_left' ?_
      rw [p.length_pad, List.length_append, Nat.add_sub_cancel]
    rw [← hmark, ← hflat, hcut, List.flatten_append, List.flatten_singleton]
    have hsize := p.size_le
    have hcount : (bs.flatten ++ b).length - p.size = bs.flatten.length + (n - p.size) := by
      rw [List.length_append, hb]
      omega
    rw [hcount, List.drop_length_add_append]

/-- **Two messages with the same hash are equal, or the compression function collides on the way
along their blocks.** -/
theorem hash_eq_or_collides (hmark : Set.InjOn p.mark {len | len < limit})
    (hm : m.length < limit) (hm' : m'.length < limit) (h : p.hash f s m = p.hash f s m') :
    m = m' ∨ Collides f s s (blocks n (p.pad m)) (blocks n (p.pad m')) := by
  by_cases hlen : m.length = m'.length
  · -- as many blocks: they agree all the way, or collide
    have hcount : (blocks n (p.pad m)).length = (blocks n (p.pad m')).length := by
      simp only [blocks, List.length_map, List.length_range, p.length_pad, hlen]
    rcases blocks_eq_or_collides hcount h with heq | hcoll
    · refine .inl (p.eq_of_pad_eq hlen ?_)
      rw [← flatten_blocks p.dvd_length_pad, heq, flatten_blocks p.dvd_length_pad]
    · exact .inr hcoll
  · -- the marks differ, so the last blocks do
    obtain ⟨bs, b, hcut, hb⟩ := p.exists_last (m := m)
    obtain ⟨cs, c, hcut', hc⟩ := p.exists_last (m := m')
    rw [hash, hash, hcut, hcut'] at h
    rw [hcut, hcut']
    rcases last_eq_or_collides h with ⟨-, rfl⟩ | hcoll
    · exact absurd (hmark hm hm' (hb.symm.trans hc)) hlen
    · exact .inr hcoll

end Padding

end Blocks
