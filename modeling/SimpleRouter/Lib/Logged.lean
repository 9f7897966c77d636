import Mathlib.Tactic

/-!
# Computations that log what they do

`Logged ω ε α` is a computation that logs events of type `ω`, in order, and then returns an `α` or
stops with an `ε`. The log is kept when it stops, so a statement about everything a program did is
one about its log, whether the program came to its end or not.

* `val_bind` — the value of a sequence is the sequence of the values: where the log does not matter
  a proof runs the computation in `Except`.
* `forAll_bind` — **the rule of sequence** for a property of all events: it holds of the first part,
  and of the second on every value the first can return.
* `bind_of_val` — a first part that is known to return.
-/

/-- A computation that logs events and returns or stops. -/
structure Logged (ω ε α : Type) where
  /-- What it did. -/
  log : List ω
  /-- What it returned, or why it stopped. -/
  val : Except ε α

namespace Logged

variable {ω ε ε' α β : Type}

/-- First `x`, then `f` on its value, unless `x` stopped. -/
def andThen (x : Logged ω ε α) (f : α → Logged ω ε β) : Logged ω ε β :=
  match x.val with
  | .ok a => ⟨x.log ++ (f a).log, (f a).val⟩
  | .error e => ⟨x.log, .error e⟩

instance : Monad (Logged ω ε) where
  pure a := ⟨[], .ok a⟩
  bind := andThen

/-- Log an event. -/
def tell (e : ω) : Logged ω ε Unit := ⟨[e], .ok ()⟩

/-- Log events. -/
def tells (es : List ω) : Logged ω ε Unit := ⟨es, .ok ()⟩

/-- Stop. -/
def stop (e : ε) : Logged ω ε α := ⟨[], .error e⟩

/-- The same computation, with another reason to stop. -/
def mapError (f : ε → ε') (x : Logged ω ε α) : Logged ω ε' α := ⟨x.log, x.val.mapError f⟩

/-! ### Values -/

/-- A value is returned. -/
@[simp] theorem val_pure (a : α) : (pure a : Logged ω ε α).val = .ok a := rfl

/-- An event returns nothing of interest. -/
@[simp] theorem val_tell (e : ω) : (tell e : Logged ω ε Unit).val = .ok () := rfl

/-- Nor do several events. -/
@[simp] theorem val_tells (es : List ω) : (tells es : Logged ω ε Unit).val = .ok () := rfl

/-- A stop is the error it is made of. -/
@[simp] theorem val_stop (e : ε) : (stop e : Logged ω ε α).val = .error e := rfl

/-- The value of a sequence is that of its last part, unless the first one stops. -/
@[simp] theorem val_bind (x : Logged ω ε α) (f : α → Logged ω ε β) :
    (x >>= f).val = x.val >>= fun a => (f a).val := by
  show (andThen x f).val = _
  unfold andThen
  cases x.val <;> rfl

/-- Only an error is renamed. -/
@[simp] theorem val_mapError (f : ε → ε') (x : Logged ω ε α) :
    (x.mapError f).val = x.val.mapError f := rfl

/-! ### Logs -/

/-- A value logs nothing. -/
@[simp] theorem log_pure (a : α) : (pure a : Logged ω ε α).log = [] := rfl

/-- An event logs itself. -/
@[simp] theorem log_tell (e : ω) : (tell e : Logged ω ε Unit).log = [e] := rfl

/-- Several events log themselves. -/
@[simp] theorem log_tells (es : List ω) : (tells es : Logged ω ε Unit).log = es := rfl

/-- A stop logs nothing. -/
@[simp] theorem log_stop (e : ε) : (stop e : Logged ω ε α).log = [] := rfl

/-- A first part that returns. -/
theorem bind_of_val {x : Logged ω ε α} {a : α} (h : x.val = .ok a) (f : α → Logged ω ε β) :
    x >>= f = ⟨x.log ++ (f a).log, (f a).val⟩ := by
  show andThen x f = _
  unfold andThen
  rw [h]

/-- The value of a sequence whose first part returns. -/
theorem val_bind_of_val {x : Logged ω ε α} {a : α} (h : x.val = .ok a) (f : α → Logged ω ε β) :
    (x >>= f).val = (f a).val := by
  rw [bind_of_val h]

/-- A value goes into what follows it. -/
@[simp] theorem bind_pure_val (a : α) (f : α → Logged ω ε β) : pure a >>= f = f a :=
  bind_of_val rfl f

/-- An event goes in front of what follows it. -/
theorem tell_bind (e : ω) (f : Unit → Logged ω ε β) :
    tell e >>= f = ⟨e :: (f ()).log, (f ()).val⟩ := rfl

/-- Several events go in front of what follows them. -/
theorem tells_bind (es : List ω) (f : Unit → Logged ω ε β) :
    tells es >>= f = ⟨es ++ (f ()).log, (f ()).val⟩ := rfl

/-- Another result, and the same log. -/
theorem map_eq (p : α → β) (x : Logged ω ε α) : p <$> x = ⟨x.log, x.val.map p⟩ := by
  show andThen x _ = _
  unfold andThen
  cases hx : x.val with
  | error e => rfl
  | ok a => exact congrArg₂ mk (List.append_nil x.log) rfl

/-- Two sequences that begin alike, and of which the one returns less in the end. -/
theorem bind_eq_map_bind {γ : Type} {f : α → Logged ω ε β} {g : α → Logged ω ε γ} {p : γ → β}
    (x : Logged ω ε α) (h : ∀ a, f a = p <$> g a) : x >>= f = p <$> (x >>= g) := by
  rw [map_eq]
  show andThen x f = ⟨(andThen x g).log, (andThen x g).val.map p⟩
  unfold andThen
  cases x.val with
  | error e => rfl
  | ok a => simp only [h, map_eq]

/-- A last part that only returns. -/
theorem log_bind_pure (x : Logged ω ε α) (f : α → β) : (x >>= fun a => pure (f a)).log = x.log := by
  show (andThen x _).log = _
  unfold andThen
  cases x.val with
  | error e => rfl
  | ok a => exact List.append_nil x.log

/-- What the first part logs. -/
theorem mem_log_bind_left {x : Logged ω ε α} {f : α → Logged ω ε β} {e : ω} (h : e ∈ x.log) :
    e ∈ (x >>= f).log := by
  show e ∈ (andThen x f).log
  unfold andThen
  cases x.val with
  | error s => exact h
  | ok a => exact List.mem_append_left _ h

/-- What the second part logs. -/
theorem mem_log_bind_right {x : Logged ω ε α} {f : α → Logged ω ε β} {a : α} {e : ω}
    (hx : x.val = .ok a) (h : e ∈ (f a).log) : e ∈ (x >>= f).log := by
  rw [bind_of_val hx]
  exact List.mem_append_right _ h

/-! ### Properties of all events -/

/-- Everything `x` logs has the property `P`. -/
def ForAll (P : ω → Prop) (x : Logged ω ε α) : Prop := ∀ e ∈ x.log, P e

variable {P : ω → Prop}

/-- A value has no events. -/
@[simp] theorem forAll_pure (a : α) : ForAll P (pure a : Logged ω ε α) := by
  rintro _ ⟨⟩

/-- A stop has no events. -/
@[simp] theorem forAll_stop (e : ε) : ForAll P (stop e : Logged ω ε α) := by
  rintro _ ⟨⟩

/-- The events of an event. -/
@[simp] theorem forAll_tell (e : ω) : ForAll P (tell e : Logged ω ε Unit) ↔ P e := by
  simp [ForAll]

/-- Renaming an error changes no event. -/
@[simp] theorem forAll_mapError (f : ε → ε') (x : Logged ω ε α) :
    ForAll P (x.mapError f) ↔ ForAll P x := Iff.rfl

/-- The events of several events. -/
@[simp] theorem forAll_tells (es : List ω) :
    ForAll P (tells es : Logged ω ε Unit) ↔ ∀ e ∈ es, P e := Iff.rfl

/-- A sequence has the property if its first part has it, and its second on whatever the first
returns. -/
theorem forAll_bind {x : Logged ω ε α} {f : α → Logged ω ε β} :
    ForAll P (x >>= f) ↔ ForAll P x ∧ ∀ a, x.val = .ok a → ForAll P (f a) := by
  show ForAll P (andThen x f) ↔ _
  unfold andThen ForAll
  cases hx : x.val with
  | error e => simp
  | ok a => simp [or_imp, forall_and]

/-- The same, for a first part that returns. -/
theorem forAll_bind_of_val {x : Logged ω ε α} {f : α → Logged ω ε β} {a : α}
    (h : x.val = .ok a) : ForAll P (x >>= f) ↔ ForAll P x ∧ ForAll P (f a) := by
  rw [forAll_bind, h]
  simp

/-- An event, and what follows it. -/
theorem forAll_tell_bind {e : ω} {f : Unit → Logged ω ε β} :
    ForAll P (tell e >>= f) ↔ P e ∧ ForAll P (f ()) := by
  rw [forAll_bind_of_val (val_tell e), forAll_tell]

end Logged
