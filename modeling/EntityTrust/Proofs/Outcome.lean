/-!
# Steps that may fail

When a composition of steps succeeds, for plain outcomes, for outcomes in a pure monad and for
outcomes of steps with a state.
-/

namespace EntityTrust
namespace Outcome

variable {ε α β : Type}

theorem bind_eq_ok {x : Except ε α} {f : α → Except ε β} {b : β} :
    (x >>= f) = .ok b ↔ ∃ a, x = .ok a ∧ f a = .ok b := by
  cases x <;> simp [bind, Except.bind]

theorem bind_eq_error {x : Except ε α} {f : α → Except ε β} {e : ε} :
    (x >>= f) = .error e ↔ x = .error e ∨ ∃ a, x = .ok a ∧ f a = .error e := by
  cases x <;> simp [bind, Except.bind]

theorem ok_bind (a : α) (f : α → Except ε β) : (Except.ok a >>= f) = f a := rfl

theorem ite_bind {c : Prop} [Decidable c] {x y : Except ε α} {f : α → Except ε β} :
    (if c then x >>= f else y >>= f) = (if c then x else y) >>= f := by
  split <;> rfl

theorem map_eq_ok {f : α → β} {x : Except ε α} {b : β} :
    x.map f = .ok b ↔ ∃ a, x = .ok a ∧ f a = b := by
  cases x <;> simp [Except.map]

theorem toOption_eq_some {x : Except ε α} {a : α} : x.toOption = some a ↔ x = .ok a := by
  cases x <;> simp [Except.toOption]

/-- A pure computation that may fail, as its plain outcome. -/
def of (x : ExceptT ε Id α) : Except ε α :=
  x.run

theorem of_bind (x : ExceptT ε Id α) (f : α → ExceptT ε Id β) :
    of (x >>= f) = of x >>= fun a => of (f a) := by
  cases hx : of x with
  | error e =>
      simp only [of, ExceptT.run_bind] at hx ⊢
      rw [hx]
      rfl
  | ok a =>
      simp only [of, ExceptT.run_bind] at hx ⊢
      rw [hx]
      rfl

theorem of_bind_eq_ok {x : ExceptT ε Id α} {f : α → ExceptT ε Id β} {b : β} :
    of (x >>= f) = .ok b ↔ ∃ a, of x = .ok a ∧ of (f a) = .ok b := by
  rw [of_bind, bind_eq_ok]

@[simp] theorem of_pure (a : α) : of (pure a : ExceptT ε Id α) = .ok a := rfl

@[simp] theorem of_throw (e : ε) : of (throw e : ExceptT ε Id α) = .error e := rfl

@[simp] theorem of_throw_bind (e : ε) (f : α → ExceptT ε Id β) :
    of ((throw e : ExceptT ε Id α) >>= f) = .error e := rfl

section State

variable {σ : Type} {s t : σ}

theorem run_bind_of_run {x : StateM σ α} {f : α → StateM σ β} {a : α} (h : x.run s = (a, t)) :
    (x >>= f).run s = (f a).run t := by
  rw [StateT.run_bind, h]
  rfl

/-- What fallible steps come to from a state on, with the state at their end. -/
def runFrom (x : ExceptT ε (StateM σ) α) (s : σ) : Except ε α × σ :=
  x.run.run s

theorem runFrom_bind (x : ExceptT ε (StateM σ) α) (f : α → ExceptT ε (StateM σ) β) (s : σ) :
    runFrom (x >>= f) s =
      match runFrom x s with
      | (.ok a, t) => runFrom (f a) t
      | (.error e, t) => (.error e, t) := by
  rcases hx : runFrom x s with ⟨e | a, t⟩
  · simp only [runFrom, ExceptT.run_bind] at hx ⊢
    rw [StateT.run_bind, hx]
    rfl
  · simp only [runFrom, ExceptT.run_bind] at hx ⊢
    rw [StateT.run_bind, hx]
    rfl

theorem runFrom_bind_eq_ok {x : ExceptT ε (StateM σ) α} {f : α → ExceptT ε (StateM σ) β} {b : β} :
    runFrom (x >>= f) s = (.ok b, t) ↔
      ∃ a u, runFrom x s = (.ok a, u) ∧ runFrom (f a) u = (.ok b, t) := by
  rw [runFrom_bind]
  rcases runFrom x s with ⟨e | a, u⟩
  · simp
  · simp [and_assoc]

theorem runFrom_pure_eq_ok {a b : α} :
    runFrom (pure a : ExceptT ε (StateM σ) α) s = (.ok b, t) ↔ a = b ∧ s = t := by
  show ((Except.ok a, s) : Except ε α × σ) = (.ok b, t) ↔ a = b ∧ s = t
  simp

/-- A condition as a step. -/
theorem runFrom_guard_eq_ok {p : Prop} [Decidable p] {e : ε} {u : Unit} :
    runFrom (if p then pure () else throw e : ExceptT ε (StateM σ) Unit) s = (.ok u, t) ↔
      p ∧ s = t := by
  by_cases hp : p
  · simp only [hp, if_true, true_and, runFrom_pure_eq_ok]
  · simp only [hp, if_false, false_and, iff_false]
    intro h
    cases congrArg Prod.fst h

theorem runFrom_guard_bind_eq_ok {p : Prop} [Decidable p] {e : ε} {x : ExceptT ε (StateM σ) β}
    {f : α → ExceptT ε (StateM σ) β} {b : β} :
    runFrom (if p then x else throw e >>= f) s = (.ok b, t) ↔ p ∧ runFrom x s = (.ok b, t) := by
  by_cases hp : p
  · simp only [hp, if_true, true_and]
  · simp only [hp, if_false, false_and, iff_false]
    intro h
    cases congrArg Prod.fst h

theorem runFrom_throw_ne_ok {e : ε} {b : α} :
    runFrom (throw e : ExceptT ε (StateM σ) α) s ≠ (.ok b, t) :=
  fun h => nomatch congrArg Prod.fst h

end State

end Outcome
end EntityTrust
