import Mathlib.Data.List.Basic
import Mathlib.Tactic

/-!
# A running maximum

One pass over a list that keeps the best candidate so far: an element is a candidate if it
satisfies `p`, and replaces the best one if its weight is strictly larger. The pass starts from a
weight `k` that belongs to no element.

* `round`, `scan` — the step and the pass.
* `IsFirstMax p w l a` — `a` is a candidate of greatest weight in `l`, and no candidate before it
  weighs as much.
* `scan_eq_some_iff` — the pass returns the first maximum, if that weighs more than `k`;
  `scan_eq_none_iff` — it returns nothing exactly if no candidate weighs more than `k`.
* `scan_perm` — the order of the list does not matter if the weight tells candidates apart.
-/

namespace FirstMax

variable {α κ : Type*} [LE κ] [LT κ] {p : α → Prop} {w : α → κ} {k : κ} {l l' : List α} {a b : α}

/-! ### First maxima -/

/-- `a` is the first candidate of greatest weight. -/
def IsFirstMax (p : α → Prop) (w : α → κ) (l : List α) (a : α) : Prop :=
  ∃ before after, l = before ++ a :: after ∧ p a ∧
    (∀ b ∈ before, p b → w b < w a) ∧ ∀ b ∈ after, p b → w b ≤ w a

/-- The first maximum is in the list. -/
theorem IsFirstMax.mem (h : IsFirstMax p w l a) : a ∈ l := by
  obtain ⟨before, after, rfl, -⟩ := h
  exact List.mem_append_right _ List.mem_cons_self

/-- It is a candidate. -/
theorem IsFirstMax.candidate (h : IsFirstMax p w l a) : p a := by
  obtain ⟨before, after, -, hp, -⟩ := h
  exact hp

variable [Std.IsLinearOrder κ] [Std.LawfulOrderLT κ]

/-- No candidate is heavier. -/
theorem IsFirstMax.le (h : IsFirstMax p w l a) (hb : b ∈ l) (hp : p b) : w b ≤ w a := by
  obtain ⟨before, after, rfl, -, hbefore, hafter⟩ := h
  rcases List.mem_append.mp hb with hb | hb
  · exact Std.le_of_lt (hbefore b hb hp)
  rcases List.mem_cons.mp hb with rfl | hb
  · exact Std.le_refl _
  · exact hafter b hb hp

/-! ### The pass -/

variable [DecidableLT κ] [DecidablePred p]

/-- One round: a candidate heavier than the best so far becomes the best. -/
def round (p : α → Prop) [DecidablePred p] (w : α → κ) (best : Option α × κ) (a : α) :
    Option α × κ :=
  if p a ∧ w a > best.2 then (some a, w a) else best

/-- The pass, from the weight `k`. -/
def scan (p : α → Prop) [DecidablePred p] (w : α → κ) (k : κ) (l : List α) : Option α × κ :=
  l.foldl (round p w) (none, k)

/-- What the pass has found: nothing heavier than `k`, or the first maximum. -/
theorem scan_cases (p : α → Prop) [DecidablePred p] (w : α → κ) (k : κ) (l : List α) :
    (scan p w k l = (none, k) ∧ ∀ b ∈ l, p b → w b ≤ k) ∨
      ∃ a, scan p w k l = (some a, w a) ∧ k < w a ∧ IsFirstMax p w l a := by
  induction l using List.reverseRecOn with
  | nil => exact .inl ⟨rfl, by simp⟩
  | append_singleton l x ih =>
      have hlast : scan p w k (l ++ [x]) = round p w (scan p w k l) x := by
        rw [scan, List.foldl_append, List.foldl_cons, List.foldl_nil, scan]
      have hle : ∀ v, (∀ b ∈ l, p b → w b ≤ v) → ¬ (p x ∧ w x > v) →
          ∀ b ∈ l ++ [x], p b → w b ≤ v := by
        intro v hl hx b hb hp
        rcases List.mem_append.mp hb with hb | hb
        · exact hl b hb hp
        · obtain rfl := List.mem_singleton.mp hb
          exact Std.not_lt.mp fun hv => hx ⟨hp, hv⟩
      rw [hlast]
      rcases ih with ⟨hscan, hl⟩ | ⟨a, hscan, hk, ha⟩ <;> rw [hscan, round]
      · by_cases hx : p x ∧ w x > k
        · rw [if_pos hx]
          refine .inr ⟨x, rfl, hx.2, l, [], rfl, hx.1, fun b hb hp => ?_, by simp⟩
          exact Std.lt_of_le_of_lt (hl b hb hp) hx.2
        · rw [if_neg hx]
          exact .inl ⟨rfl, hle k hl hx⟩
      · by_cases hx : p x ∧ w x > w a
        · rw [if_pos hx]
          refine .inr ⟨x, rfl, Std.lt_trans hk hx.2, l, [], rfl, hx.1, fun b hb hp => ?_, by simp⟩
          exact Std.lt_of_le_of_lt (ha.le hb hp) hx.2
        · rw [if_neg hx]
          refine .inr ⟨a, rfl, hk, ?_⟩
          have hafter := hle (w a) (fun b => ha.le) hx
          obtain ⟨before, after, rfl, hp, hbefore, -⟩ := ha
          refine ⟨before, after ++ [x], by simp, hp, hbefore, fun b hb => hafter b ?_⟩
          rw [List.append_assoc, List.cons_append]
          exact List.mem_append_right _ (List.mem_cons_of_mem _ hb)

/-- **The pass returns the first maximum**, if it is heavier than `k`. -/
theorem isFirstMax_of_scan (h : (scan p w k l).1 = some a) : IsFirstMax p w l a ∧ k < w a := by
  rcases scan_cases p w k l with ⟨hscan, -⟩ | ⟨a', hscan, hk, ha⟩
  · rw [hscan] at h
    cases h
  · rw [hscan] at h
    obtain rfl := Option.some.inj h
    exact ⟨ha, hk⟩

/-- **When the pass returns nothing.** -/
theorem scan_eq_none_iff : (scan p w k l).1 = none ↔ ∀ b ∈ l, p b → w b ≤ k := by
  rcases scan_cases p w k l with ⟨hscan, hl⟩ | ⟨a, hscan, hk, ha⟩
  · rw [hscan]
    exact iff_of_true rfl hl
  · rw [hscan]
    refine iff_of_false (by simp) fun hl => ?_
    exact Std.not_lt.mpr (hl a ha.mem ha.candidate) hk

/-- **The pass does not depend on the order**, if candidates of equal weight are equal. -/
theorem scan_perm (hperm : l.Perm l')
    (huniq : ∀ a ∈ l, ∀ b ∈ l, p a → p b → w a = w b → a = b) :
    (scan p w k l).1 = (scan p w k l').1 := by
  cases hl : (scan p w k l).1 with
  | none =>
      rw [scan_eq_none_iff] at hl
      symm
      rw [scan_eq_none_iff]
      intro b hb
      exact hl b (hperm.mem_iff.mpr hb)
  | some a =>
      obtain ⟨ha, hk⟩ := isFirstMax_of_scan hl
      cases hl' : (scan p w k l').1 with
      | none =>
          rw [scan_eq_none_iff] at hl'
          exact absurd hk (Std.not_lt.mpr (hl' a (hperm.mem_iff.mp ha.mem) ha.candidate))
      | some b =>
          obtain ⟨hb, -⟩ := isFirstMax_of_scan hl'
          have hbl : b ∈ l := hperm.mem_iff.mpr hb.mem
          have hle : w b ≤ w a := ha.le hbl hb.candidate
          have hge : w a ≤ w b := hb.le (hperm.mem_iff.mp ha.mem) ha.candidate
          rw [huniq a ha.mem b hbl ha.candidate hb.candidate (Std.le_antisymm hge hle)]

end FirstMax
