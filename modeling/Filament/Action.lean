/-!
Operations on a state that may fail. The state is there after a failure too, since what was done
before it stays done.

`run` is the view of an operation: its result, and the state after it. The lemmas say what `run`
does on each way to build one.
-/

namespace Filament

abbrev Action (σ ε γ : Type) := ExceptT ε (StateM σ) γ

namespace Action

variable {σ τ ε γ δ : Type}

/-- The result and the state after it. -/
def run (x : Action σ ε γ) (s : σ) : Except ε γ × σ := StateT.run (ExceptT.run x) s

def ofFun (f : σ → Except ε γ × σ) : Action σ ε γ := ExceptT.mk f

/-- An operation on a part of the state. -/
def on (part : σ → τ) (put : τ → σ → σ) (x : Action τ ε γ) : Action σ ε γ :=
  ofFun fun s =>
    let (result, t) := x.run (part s)
    (result, put t s)

@[simp] theorem run_ofFun (f : σ → Except ε γ × σ) (s : σ) : (ofFun f).run s = f s := rfl

@[simp] theorem run_pure (a : γ) (s : σ) : run (pure a : Action σ ε γ) s = (.ok a, s) := rfl

@[simp] theorem run_throw (e : ε) (s : σ) : run (throw e : Action σ ε γ) s = (.error e, s) := rfl

@[simp] theorem run_get (s : σ) : run (get : Action σ ε σ) s = (.ok s, s) := rfl

@[simp] theorem run_set (s t : σ) : run (set t : Action σ ε PUnit) s = (.ok ⟨⟩, t) := rfl

@[simp] theorem run_modify (f : σ → σ) (s : σ) :
    run (modify f : Action σ ε PUnit) s = (.ok ⟨⟩, f s) := rfl

@[simp] theorem run_modifyGet (f : σ → γ × σ) (s : σ) :
    run (modifyGet f : Action σ ε γ) s = (.ok (f s).1, (f s).2) := rfl

@[simp] theorem run_liftExcept (x : Except ε γ) (s : σ) :
    run (liftM x : Action σ ε γ) s = (x, s) := rfl

/-- An operation that cannot fail. -/
theorem run_lift (x : StateM σ γ) (s : σ) :
    run (liftM x : Action σ ε γ) s = (.ok (x s).1, (x s).2) := rfl

theorem run_on (part : σ → τ) (put : τ → σ → σ) (x : Action τ ε γ) (s : σ) :
    (x.on part put).run s = ((x.run (part s)).1, put (x.run (part s)).2 s) := rfl

/-- What follows a failure is not run. -/
theorem run_bind (x : Action σ ε γ) (f : γ → Action σ ε δ) (s : σ) :
    run (x >>= f) s =
      match run x s with
      | (.ok a, t) => run (f a) t
      | (.error e, t) => (.error e, t) := by
  simp only [run, ExceptT.run_bind, StateT.run_bind]
  change StateT.run _ _ = _
  cases h : StateT.run (ExceptT.run x) s with
  | mk r t =>
    cases r with
    | ok a => simp_all
    | error e => simp_all; rfl

theorem run_map (f : γ → δ) (x : Action σ ε γ) (s : σ) :
    run (f <$> x) s = ((run x s).1.map f, (run x s).2) := by
  rw [map_eq_pure_bind, run_bind]
  cases h : run x s with
  | mk r t => cases r <;> rfl

end Action
end Filament
