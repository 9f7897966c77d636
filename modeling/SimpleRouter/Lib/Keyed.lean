import Mathlib.Data.List.Nodup
import Mathlib.Algebra.BigOperators.Group.List.Basic
import Mathlib.Tactic

/-!
# Lists of records under a key

A list whose records are found, changed and removed through a key `key : α → κ`: a linked list
walked to the first node with a given field, or the nodes of a store under their addresses.

* `find key k l`, `modify key k f l`, `erase key k l` — the first record with key `k`; the records
  with key `k` changed by `f`; the first record with key `k` taken out.
* With distinct keys, `(l.map key).Nodup`, the three speak about one record:
  `find_eq_some_iff`, `mem_modify_iff`, `mem_erase_iff`.
* `flatMap_modify_perm`, `flatMap_erase_perm` — where each record holds a list of items, what all
  records hold changes by what the one record does; `modify_perm`, `perm_cons_erase` are about the
  records themselves, and `sum_modify`, `sum_erase` about the sum of their weights.
-/

namespace Keyed

variable {α κ β : Type} [DecidableEq κ] (key : α → κ)

/-- The first record with key `k`. -/
def find (k : κ) (l : List α) : Option α := l.find? fun a => key a = k

/-- Change the records with key `k`. -/
def modify (k : κ) (f : α → α) (l : List α) : List α := l.map fun a => if key a = k then f a else a

/-- Take out the first record with key `k`. -/
def erase (k : κ) (l : List α) : List α := l.eraseP fun a => key a = k

variable {key} {l : List α} {a b : α} {k : κ} {f : α → α}

/-! ### Looking up -/

/-- What is found is there. -/
theorem mem_of_find (h : find key k l = some a) : a ∈ l := List.mem_of_find?_eq_some h

/-- What is found has the key. -/
theorem key_of_find (h : find key k l = some a) : key a = k := by
  simpa using List.find?_some h

/-- None is found exactly if none has the key. -/
theorem find_eq_none_iff : find key k l = none ↔ ∀ a ∈ l, key a ≠ k := by
  simp [find, List.find?_eq_none]

/-- With distinct keys a record is the one found under its key. -/
theorem find_eq_some_iff (hnd : (l.map key).Nodup) :
    find key k l = some a ↔ a ∈ l ∧ key a = k := by
  constructor
  · intro h
    exact ⟨mem_of_find h, key_of_find h⟩
  · rintro ⟨ha, hk⟩
    cases hf : find key k l with
    | none => exact absurd hk (find_eq_none_iff.mp hf a ha)
    | some b =>
        have hb : key b = key a := (key_of_find hf).trans hk.symm
        rw [List.inj_on_of_nodup_map hnd (mem_of_find hf) ha hb]

/-! ### Changing a record -/

/-- With distinct keys, changing the record found changes that one and leaves the others. -/
theorem mem_modify_iff (hnd : (l.map key).Nodup) (h : find key k l = some a) :
    b ∈ modify key k f l ↔ b = f a ∨ (b ∈ l ∧ key b ≠ k) := by
  rw [modify, List.mem_map]
  constructor
  · rintro ⟨c, hc, rfl⟩
    by_cases hk : key c = k
    · obtain rfl := Option.some.inj (((find_eq_some_iff hnd).mpr ⟨hc, hk⟩).symm.trans h)
      exact .inl (if_pos hk)
    · rw [if_neg hk]
      exact .inr ⟨hc, hk⟩
  · rintro (rfl | ⟨hb, hk⟩)
    · exact ⟨a, mem_of_find h, if_pos (key_of_find h)⟩
    · exact ⟨b, hb, if_neg hk⟩

/-- A field the change keeps is the same all along the list. -/
theorem map_modify {g : α → β} (hf : ∀ a, g (f a) = g a) : (modify key k f l).map g = l.map g := by
  rw [modify, List.map_map]
  apply List.map_congr_left
  intro a _
  simp only [Function.comp_apply]
  split_ifs
  · exact hf a
  · rfl

/-! ### Removing a record -/

/-- Erasing keeps the order. -/
theorem erase_sublist : (erase key k l).Sublist l := List.eraseP_sublist

/-- What is left was there. -/
theorem mem_of_mem_erase (h : a ∈ erase key k l) : a ∈ l := erase_sublist.subset h

/-- Erasing keeps what is distinct distinct. -/
theorem map_erase_nodup {g : α → β} (h : (l.map g).Nodup) : ((erase key k l).map g).Nodup :=
  h.sublist (erase_sublist.map g)

omit [DecidableEq κ] in
/-- Distinct keys: those behind a record have other keys. -/
theorem nodup_map_cons : ((a :: l).map key).Nodup ↔
    (∀ b ∈ l, key b ≠ key a) ∧ (l.map key).Nodup := by
  rw [List.map_cons, List.nodup_cons]
  refine and_congr_left' ⟨fun hnot b hb hkey => ?_, fun hne hmem => ?_⟩
  · exact hnot (List.mem_map.mpr ⟨b, hb, hkey⟩)
  · obtain ⟨b, hb, hkey⟩ := List.mem_map.mp hmem
    exact hne b hb hkey

/-- With distinct keys, what is left is what has another key. -/
theorem mem_erase_iff (hnd : (l.map key).Nodup) : a ∈ erase key k l ↔ a ∈ l ∧ key a ≠ k := by
  induction l with
  | nil => simp [erase]
  | cons c l ih =>
      obtain ⟨hne, hnd⟩ := nodup_map_cons.mp hnd
      by_cases hc : key c = k
      · have hl : ∀ b ∈ l, key b ≠ k := hc ▸ hne
        rw [erase, List.eraseP_cons_of_pos (by simpa using hc)]
        constructor
        · intro ha
          exact ⟨List.mem_cons_of_mem _ ha, hl a ha⟩
        · rintro ⟨ha, hk⟩
          rcases List.mem_cons.mp ha with rfl | ha
          · exact absurd hc hk
          · exact ha
      · rw [erase, List.eraseP_cons_of_neg (by simpa using hc), List.mem_cons, List.mem_cons]
        rw [show List.eraseP (fun a => decide (key a = k)) l = erase key k l from rfl, ih hnd]
        constructor
        · rintro (rfl | ⟨ha, hk⟩)
          · exact ⟨.inl rfl, hc⟩
          · exact ⟨.inr ha, hk⟩
        · rintro ⟨rfl | ha, hk⟩
          · exact .inl rfl
          · exact .inr ⟨ha, hk⟩

/-- Nothing to take out. -/
theorem erase_eq_self (h : ∀ a ∈ l, key a ≠ k) : erase key k l = l :=
  List.eraseP_of_forall_not (by simpa using h)

/-- With distinct keys, taking out the first record with a property is taking it out by its key. -/
theorem erase_eq_eraseP {p : α → Bool} (hnd : (l.map key).Nodup) (h : l.find? p = some a) :
    erase key (key a) l = l.eraseP p := by
  obtain ⟨ha, before, after, rfl, hbefore⟩ := List.find?_eq_some_iff_append.mp h
  have hne : ∀ b ∈ before, key b ≠ key a := by
    rw [List.map_append, List.nodup_append] at hnd
    exact fun b hb => hnd.2.2 _ (List.mem_map_of_mem hb) _
      (List.mem_map_of_mem List.mem_cons_self)
  rw [erase, List.eraseP_append_right _ (by simpa using hne), List.eraseP_cons_of_pos (by simp),
    List.eraseP_append_right _ (by simpa using hbefore), List.eraseP_cons_of_pos ha]

/-- Something to take out. -/
theorem length_erase_lt (h : find key k l = some a) : (erase key k l).length < l.length := by
  have hpos : 0 < l.length := List.length_pos_of_mem (mem_of_find h)
  rw [erase, List.length_eraseP_of_mem (mem_of_find h) (by simpa using key_of_find h)]
  omega

/-! ### Images

Records that are the images of others, under the same keys. -/

section images

variable {γ : Type} {key' : γ → κ} {g : α → γ}

/-- Erasing commutes with a map that keeps the keys. -/
theorem erase_map (hg : ∀ a, key' (g a) = key a) :
    erase key' k (l.map g) = (erase key k l).map g := by
  have hkey : (fun c => decide (key' c = k)) ∘ g = fun a => decide (key a = k) := by
    funext a
    simp only [Function.comp_apply, hg]
  rw [erase, List.eraseP_map, hkey, erase]

/-- So does modifying, if the map commutes with the change. -/
theorem modify_map {f' : γ → γ} (hg : ∀ a, key' (g a) = key a) (hf : ∀ a, g (f a) = f' (g a)) :
    modify key' k f' (l.map g) = (modify key k f l).map g := by
  rw [modify, modify, List.map_map, List.map_map]
  apply List.map_congr_left
  intro a _
  simp only [Function.comp_apply, hg]
  split_ifs
  · exact (hf a).symm
  · rfl

end images

/-! ### Contents

Each record holds a list of items; what the whole list of records holds changes by what one record
does. -/

/-- Taking out the record found takes out its items. -/
theorem flatMap_erase_perm (g : α → List β) (h : find key k l = some a) :
    (l.flatMap g).Perm (g a ++ (erase key k l).flatMap g) := by
  induction l with
  | nil => cases h
  | cons c l ih =>
      by_cases hc : key c = k
      · rw [find, List.find?_cons_of_pos (by simpa using hc)] at h
        obtain rfl := Option.some.inj h
        rw [erase, List.eraseP_cons_of_pos (by simpa using hc), List.flatMap_cons]
      · rw [find, List.find?_cons_of_neg (by simpa using hc)] at h
        rw [erase, List.eraseP_cons_of_neg (by simpa using hc), List.flatMap_cons,
          List.flatMap_cons]
        exact ((ih h).append_left (g c)).trans (List.perm_append_comm_assoc ..)

/-- The record found and those left, up to order. -/
theorem perm_cons_erase (h : find key k l = some a) : l.Perm (a :: erase key k l) := by
  simpa using flatMap_erase_perm (fun a => [a]) h

/-- Without the key there is nothing to change. -/
theorem modify_eq_self (h : ∀ a ∈ l, key a ≠ k) : modify key k f l = l := by
  conv_rhs => rw [← List.map_id l]
  exact List.map_congr_left fun a ha => if_neg (h a ha)

/-- The record changed and those left as they were, up to order. -/
theorem modify_perm (hnd : (l.map key).Nodup) (h : find key k l = some a) :
    (modify key k f l).Perm (f a :: erase key k l) := by
  induction l with
  | nil => cases h
  | cons c l ih =>
      obtain ⟨hne, hnd⟩ := nodup_map_cons.mp hnd
      by_cases hc : key c = k
      · rw [find, List.find?_cons_of_pos (by simpa using hc)] at h
        obtain rfl := Option.some.inj h
        have htail : modify key k f l = l := modify_eq_self (hc ▸ hne)
        rw [show modify key k f (c :: l) = f c :: modify key k f l by simp [modify, hc], htail,
          erase, List.eraseP_cons_of_pos (by simpa using hc)]
      · rw [find, List.find?_cons_of_neg (by simpa using hc)] at h
        rw [show modify key k f (c :: l) = c :: modify key k f l by simp [modify, hc], erase,
          List.eraseP_cons_of_neg (by simpa using hc)]
        exact ((ih hnd h).cons c).trans (List.Perm.swap ..)

/-- Taking out the record found takes out its weight. -/
theorem sum_erase (w : α → ℕ) (h : find key k l = some a) :
    w a + ((erase key k l).map w).sum = (l.map w).sum := by
  rw [((perm_cons_erase h).map w).sum_eq, List.map_cons, List.sum_cons]

/-- Changing the record found changes its weight. -/
theorem sum_modify (w : α → ℕ) (hnd : (l.map key).Nodup) (h : find key k l = some a) :
    ((modify key k f l).map w).sum + w a = (l.map w).sum + w (f a) := by
  rw [((modify_perm hnd h).map w).sum_eq, ← sum_erase w h, List.map_cons, List.sum_cons]
  omega

/-- Putting items in front of those of the record found adds them to the whole. -/
theorem flatMap_modify_perm {g : α → List β} (items : List β) (hnd : (l.map key).Nodup)
    (h : find key k l = some a) (hg : g (f a) = items ++ g a) :
    ((modify key k f l).flatMap g).Perm (items ++ l.flatMap g) := by
  induction l with
  | nil => cases h
  | cons c l ih =>
      obtain ⟨hne, hnd⟩ := nodup_map_cons.mp hnd
      by_cases hc : key c = k
      · rw [find, List.find?_cons_of_pos (by simpa using hc)] at h
        obtain rfl := Option.some.inj h
        have htail : modify key k f l = l := modify_eq_self (hc ▸ hne)
        rw [show modify key k f (c :: l) = f c :: modify key k f l by simp [modify, hc], htail,
          List.flatMap_cons, List.flatMap_cons, hg, List.append_assoc]
      · rw [find, List.find?_cons_of_neg (by simpa using hc)] at h
        rw [show modify key k f (c :: l) = c :: modify key k f l by simp [modify, hc],
          List.flatMap_cons, List.flatMap_cons]
        exact ((ih hnd h).append_left (g c)).trans (List.perm_append_comm_assoc ..)

end Keyed
