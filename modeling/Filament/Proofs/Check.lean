import Filament.Settings.Basic

/-!
Computations that may fail, and the checks among them.

A computation succeeds only if all its parts do, and a check passes only if no guard in it holds;
`Spool.check_eq_ok_iff` lists what that comes to for a spool.
-/

namespace Filament

section

variable {ε γ δ : Type}

/-- A computation that may fail succeeds only if its first part does. -/
theorem bind_eq_ok {x : Except ε γ} {f : γ → Except ε δ} {b : δ} :
    (x >>= f) = .ok b ↔ ∃ a, x = .ok a ∧ f a = .ok b := by
  cases x with
  | error e => simp [bind, Except.bind]
  | ok a => simp [bind, Except.bind]

theorem bind_unit_eq_ok {x : Except ε Unit} {f : Unit → Except ε δ} {b : δ} :
    (x >>= f) = .ok b ↔ x = .ok () ∧ f () = .ok b := by
  rw [bind_eq_ok]
  constructor
  · rintro ⟨⟨⟩, hx, hf⟩
    exact ⟨hx, hf⟩
  · rintro ⟨hx, hf⟩
    exact ⟨(), hx, hf⟩

/-- What follows a guard is reached only if the guard does not hold. -/
theorem guard_eq_ok {c : Bool} {e : ε} {f : PUnit → Except ε γ} {x : Except ε γ} {b : γ} :
    (if c = true then (throw e : Except ε PUnit) >>= f else x) = .ok b ↔ c = false ∧ x = .ok b := by
  cases c with
  | false => simp
  | true => simp [throw, throwThe, MonadExceptOf.throw, bind, Except.bind]

theorem last_guard_eq_ok {c : Bool} {e : ε} :
    (if c = true then (throw e : Except ε PUnit) else pure ()) = .ok ⟨⟩ ↔ c = false := by
  cases c with
  | false => simp [pure, Except.pure]
  | true => simp [throw, throwThe, MonadExceptOf.throw]

theorem eq_ok_of_toBool {x : Except ε Unit} (h : x.toBool = true) : x = .ok () := by
  cases x with
  | error e => cases h
  | ok u => rfl

theorem eq_error_of_toBool {x : Except ε γ} (h : x.toBool = false) : ∃ e, x = .error e := by
  cases x with
  | error e => exact ⟨e, rfl⟩
  | ok a => cases h

theorem mapError_eq_ok {f : ε → γ} {x : Except ε δ} {b : δ} :
    x.mapError f = .ok b ↔ x = .ok b := by
  cases x with
  | error e =>
    constructor
    · rintro ⟨⟩
    · rintro ⟨⟩
  | ok a =>
    constructor
    · rintro ⟨⟩
      rfl
    · rintro ⟨⟩
      rfl

end

variable {α : Type} [Scalar α] {s : Spool α}

/-- All that a spool has to satisfy. -/
theorem Spool.check_eq_ok_iff :
    s.check = .ok () ↔
      (checkName "name" s.name : Except (Invalid α) Unit) = .ok () ∧
      s.profile.id.isSome = true ∧
      checkPositive "diameter" s.profile.diameter = .ok () ∧
      checkPositive "density" s.profile.density = .ok () ∧
      isAmount s.cost = true ∧ isAmount s.weight = true ∧
      isAmount s.used = true ∧ Scalar.lt s.weight s.used = false ∧
      Scalar.isFinite s.tempOffset = true := by
  simp only [check, bind_unit_eq_ok, guard_eq_ok, last_guard_eq_ok]
  simp [and_assoc]

theorem Profile.measures_of_accept {p : Profile α} (h : p.accept = .ok ()) :
    checkPositive "density" p.density = .ok () ∧ checkPositive "diameter" p.diameter = .ok () := by
  have hcheck : p.check = .ok () := mapError_eq_ok.mp h
  simp only [Profile.check, bind_unit_eq_ok] at hcheck
  exact hcheck.2.2

theorem Spool.accept_eq_ok_iff : s.accept = .ok () ↔ s.check = .ok () := mapError_eq_ok

namespace Settings

/-- A value that may be kept in reserve. -/
def IsReserve (value : α) : Prop :=
  Scalar.isFinite value = true ∧ Scalar.le Scalar.zero value = true ∧
    Scalar.le value (Scalar.ofNat maxReserve) = true

instance (value : α) : Decidable (IsReserve value) :=
  inferInstanceAs (Decidable (Scalar.isFinite value = true ∧ Scalar.le Scalar.zero value = true ∧
    Scalar.le value (Scalar.ofNat maxReserve) = true))

theorem checkReserve_eq_ok_iff {value reserve : α} :
    checkReserve value = .ok reserve ↔ IsReserve value ∧ value = reserve := by
  unfold checkReserve IsReserve
  split
  · simp_all
  · simp_all

omit [Scalar α] in
theorem checkSymbol_eq_ok_iff {symbol : String} :
    (checkSymbol symbol : Except (Error α) Unit) = .ok () ↔ symbol.length ≤ maxSymbolLength := by
  unfold checkSymbol
  split
  · simp_all
  · simp_all

/-- All that settings have to satisfy. -/
theorem check_eq_ok_iff {s : Settings α} :
    s.check = .ok () ↔ IsReserve s.pauseThreshold ∧ s.currencySymbol.length ≤ maxSymbolLength := by
  unfold check
  simp only [bind_eq_ok, checkReserve_eq_ok_iff, checkSymbol_eq_ok_iff]
  simp

end Settings
end Filament
