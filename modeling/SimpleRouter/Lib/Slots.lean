import Mathlib.Data.List.Basic
import Mathlib.Tactic

/-!
# A table of slots

A list of slots some of which are busy. A search runs over all slots and keeps the last one with a
property; an insertion overwrites the first slot that is not busy, and does nothing if there is
none.

* `findLast p l`, `fillFirst busy l a` — the search and the insertion.
* `findLast_eq_some_iff`, `findLast_eq_none_iff` — what the search finds.
* `fillFirst_of_dropWhile`, `fillFirst_of_full` — the slots after an insertion: the busy ones in
  front of the slot taken, the new content, the rest; `fillFirst_eq_self_iff` — when nothing
  changes.
* `findLast_overwrite` — a search does not see an insertion of something it does not look for;
  `findLast_overwrite_hit` — one it looks for is found exactly if nothing behind it is.
-/

namespace Slots

variable {α : Type*} {p : α → Prop} [DecidablePred p] {busy : α → Bool} {l before after : List α}
  {a slot : α}

/-! ### The search -/

/-- The last slot with the property. -/
def findLast (p : α → Prop) [DecidablePred p] (l : List α) : Option α :=
  l.foldl (fun found a => if p a then some a else found) none

/-- There is no last element of the empty list. -/
@[simp] theorem findLast_nil : findLast p [] = none := rfl

/-- A last element that satisfies the test is the one found. -/
theorem findLast_concat : findLast p (l ++ [a]) = if p a then some a else findLast p l := by
  rw [findLast, List.foldl_append]
  rfl

/-- A search goes on behind what it has found. -/
theorem findLast_append :
    findLast p (before ++ after) = (findLast p after).or (findLast p before) := by
  induction after using List.reverseRecOn with
  | nil => rw [List.append_nil, findLast_nil, Option.none_or]
  | append_singleton after a ih =>
      rw [← List.append_assoc, findLast_concat, findLast_concat, ih]
      split_ifs
      · rfl
      · rfl

/-- A first element is found only if no later one is. -/
theorem findLast_cons :
    findLast p (a :: l) = (findLast p l).or (if p a then some a else none) := by
  rw [← List.singleton_append, findLast_append]
  rfl

/-- None is found exactly if none satisfies the test. -/
theorem findLast_eq_none_iff : findLast p l = none ↔ ∀ a ∈ l, ¬ p a := by
  induction l with
  | nil => simp
  | cons a l ih =>
      rw [findLast_cons, Option.or_eq_none_iff, ih, List.forall_mem_cons]
      split_ifs with ha
      · simp [ha]
      · simp [ha]

/-- **What the search finds.** -/
theorem findLast_eq_some_iff :
    findLast p l = some a ↔
      ∃ before after, l = before ++ a :: after ∧ p a ∧ ∀ b ∈ after, ¬ p b := by
  constructor
  · intro h
    induction l using List.reverseRecOn with
    | nil => cases h
    | append_singleton l x ih =>
        rw [findLast_concat] at h
        split_ifs at h with hx
        · obtain rfl := Option.some.inj h
          exact ⟨l, [], rfl, hx, by simp⟩
        · obtain ⟨before, after, rfl, ha, hafter⟩ := ih h
          refine ⟨before, after ++ [x], by simp, ha, fun b hb => ?_⟩
          rcases List.mem_append.mp hb with hb | hb
          · exact hafter b hb
          · exact List.mem_singleton.mp hb ▸ hx
  · rintro ⟨before, after, rfl, ha, hafter⟩
    rw [findLast_append, findLast_cons, findLast_eq_none_iff.mpr hafter, if_pos ha]
    rfl

/-- What is found is there, and satisfies the test. -/
theorem mem_of_findLast (h : findLast p l = some a) : a ∈ l ∧ p a := by
  obtain ⟨before, after, rfl, ha, -⟩ := findLast_eq_some_iff.mp h
  exact ⟨List.mem_append_right _ List.mem_cons_self, ha⟩

/-! ### The insertion -/

/-- Overwrite the first slot that is not busy. -/
def fillFirst (busy : α → Bool) (l : List α) (a : α) : List α :=
  match l.findIdx? fun slot => !busy slot with
  | some i => l.set i a
  | none => l

/-- A busy slot is passed over, a free one is filled. -/
theorem fillFirst_cons (busy : α → Bool) (slot : α) (l : List α) (a : α) :
    fillFirst busy (slot :: l) a =
      if busy slot then slot :: fillFirst busy l a else a :: l := by
  unfold fillFirst
  rw [List.findIdx?_cons]
  cases hslot : busy slot with
  | false => simp
  | true =>
      simp only [Bool.not_true, Bool.false_eq_true, if_false, if_true]
      cases l.findIdx? fun slot => !busy slot with
      | none => rfl
      | some i => rfl

/-- The slots after an insertion. -/
theorem fillFirst_of_dropWhile (h : l.dropWhile busy = slot :: after) :
    fillFirst busy l a = l.takeWhile busy ++ a :: after := by
  induction l with
  | nil => cases h
  | cons b l ih =>
      rw [fillFirst_cons]
      cases hb : busy b with
      | true =>
          rw [List.dropWhile_cons_of_pos hb] at h
          rw [if_pos rfl, ih h, List.takeWhile_cons_of_pos hb, List.cons_append]
      | false =>
          rw [List.dropWhile_cons_of_neg (by simp [hb])] at h
          obtain ⟨-, rfl⟩ := List.cons.inj h
          rw [if_neg Bool.false_ne_true, List.takeWhile_cons_of_neg (by simp [hb]), List.nil_append]

/-- An insertion into a full table. -/
theorem fillFirst_of_full (h : l.dropWhile busy = []) : fillFirst busy l a = l := by
  induction l with
  | nil => rfl
  | cons b l ih =>
      cases hb : busy b with
      | true =>
          rw [List.dropWhile_cons_of_pos hb] at h
          rw [fillFirst_cons, if_pos hb, ih h]
      | false =>
          rw [List.dropWhile_cons_of_neg (by simp [hb])] at h
          cases h

/-- An insertion of something busy changes the table unless it is full. -/
theorem fillFirst_eq_self_iff (ha : busy a = true) : fillFirst busy l a = l ↔ ∀ b ∈ l, busy b := by
  induction l with
  | nil => simp [fillFirst]
  | cons b l ih =>
      rw [fillFirst_cons, List.forall_mem_cons]
      cases hb : busy b with
      | true =>
          rw [if_pos rfl, List.cons_inj_right, ih]
          exact (and_iff_right rfl).symm
      | false =>
          rw [if_neg Bool.false_ne_true]
          refine iff_of_false (fun h => ?_) fun h => Bool.false_ne_true h.1
          rw [(List.cons.inj h).1, hb] at ha
          exact Bool.false_ne_true ha

/-! ### Searching after an insertion -/

/-- A search sees neither a slot it does not look for nor what takes its place. -/
theorem findLast_overwrite (hslot : ¬ p slot) (ha : ¬ p a) :
    findLast p (before ++ a :: after) = findLast p (before ++ slot :: after) := by
  rw [findLast_append, findLast_append, findLast_cons, findLast_cons, if_neg hslot, if_neg ha]

/-- What a search finds after an insertion of something it looks for. -/
theorem findLast_overwrite_hit (ha : p a) :
    findLast p (before ++ a :: after) = (findLast p after).or (some a) := by
  rw [findLast_append, findLast_cons, if_pos ha]
  cases findLast p after <;> rfl

end Slots
