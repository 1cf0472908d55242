import Filament.Watch

/-!
Doubles that compare equal.

Two doubles that compare equal are the same double or both zeros, since the two zeros compare equal.
The sign of a zero is lost in comparisons, and the operations that a shortage is computed with carry
it into nothing but zeros. Snapshots that compare equal therefore agree on being short
(`Snapshot.isShort_eq_of_beq`).
-/

namespace Filament

open Float.Model (Format UnpackedFloat)
open Float.Model.UnpackedFloat (Sign)

/-- The same unpacked value, or both zeros. -/
inductive AlikeUnpacked : UnpackedFloat → UnpackedFloat → Prop where
  | same (x : UnpackedFloat) : AlikeUnpacked x x
  | zeros (s t : Sign) : AlikeUnpacked (.zero s) (.zero t)

namespace AlikeUnpacked

variable {spec : Format} {x x' y y' : UnpackedFloat}

theorem of_compare (h : x.compare y = some .eq) : AlikeUnpacked x y := by
  cases x with
  | notANumber => cases h
  | infinity s =>
    cases y with
    | infinity t => cases s <;> cases t <;> first | exact same _ | cases h
    | _ => cases s <;> cases h
  | zero s =>
    cases y with
    | zero t => exact zeros s t
    | notANumber => cases h
    | infinity t => cases t <;> cases h
    | finite t n f hn => cases t <;> cases h
  | finite s m e hm =>
    cases y with
    | notANumber => cases s <;> cases h
    | infinity t => cases s <;> cases t <;> cases h
    | zero t => cases s <;> cases h
    | finite t n f hn =>
      have heq : s = t ∧ (compare e f).then (compare m n) = .eq := by
        cases s with
        | negative =>
          cases t with
          | negative => exact ⟨rfl, Ordering.swap_eq_eq.mp (Option.some.inj h)⟩
          | positive => cases h
        | positive =>
          cases t with
          | negative => cases h
          | positive => exact ⟨rfl, Option.some.inj h⟩
      obtain ⟨rfl, hthen⟩ := heq
      rw [Ordering.then_eq_eq, Int.compare_eq_eq, Nat.compare_eq_eq] at hthen
      obtain ⟨rfl, rfl⟩ := hthen
      exact same _

theorem compare_congr (hx : AlikeUnpacked x x') (hy : AlikeUnpacked y y') :
    x.compare y = x'.compare y' := by
  cases hx with
  | same x =>
    cases hy with
    | same y => rfl
    | zeros s t =>
      cases x with
      | infinity u => cases u <;> rfl
      | notANumber => rfl
      | zero u => rfl
      | finite u m e hm => cases u <;> rfl
  | zeros s t =>
    cases hy with
    | same y =>
      cases y with
      | infinity u => cases u <;> rfl
      | notANumber => rfl
      | zero u => rfl
      | finite u m e hm => cases u <;> rfl
    | zeros s t => rfl

theorem mul (hx : AlikeUnpacked x x') (hy : AlikeUnpacked y y') :
    AlikeUnpacked (.mul spec x y) (.mul spec x' y') := by
  cases hx with
  | same x =>
    cases hy with
    | same y => exact same _
    | zeros s t => cases x <;> first | exact zeros _ _ | exact same _
  | zeros s t =>
    cases hy with
    | same y => cases y <;> first | exact zeros _ _ | exact same _
    | zeros s t => exact zeros _ _

theorem div (hx : AlikeUnpacked x x') (y : UnpackedFloat) :
    AlikeUnpacked (.div spec x y) (.div spec x' y) := by
  cases hx with
  | same x => exact same _
  | zeros s t => cases y <;> first | exact zeros _ _ | exact same _

theorem sub_zeros (spec : Format) (s t : Sign) :
    ∃ u, UnpackedFloat.sub spec (.zero s) (.zero t) = .zero u := by
  show ∃ u, (if s == -t then UnpackedFloat.zero s else .zero .positive) = .zero u
  by_cases hsign : (s == -t) = true
  · exact ⟨s, if_pos hsign⟩
  · exact ⟨.positive, if_neg hsign⟩

theorem sub (hx : AlikeUnpacked x x') (hy : AlikeUnpacked y y') :
    AlikeUnpacked (.sub spec x y) (.sub spec x' y') := by
  have hzeros : ∀ s t s' t', AlikeUnpacked (.sub spec (.zero s) (.zero t))
      (.sub spec (.zero s') (.zero t')) := by
    intro s t s' t'
    obtain ⟨u, hu⟩ := sub_zeros spec s t
    obtain ⟨u', hu'⟩ := sub_zeros spec s' t'
    rw [hu, hu']
    exact zeros u u'
  cases hx with
  | same x =>
    cases hy with
    | same y => exact same _
    | zeros s t =>
      cases x with
      | zero u => exact hzeros u s u t
      | _ => exact same _
  | zeros s t =>
    cases hy with
    | same y =>
      cases y with
      | zero u => exact hzeros s u t u
      | _ => exact same _
    | zeros s' t' => exact hzeros s s' t t'

/-- Packing loses nothing of a zero. -/
theorem unpack_pack_zero (s : Sign) : (Float.Model.pack (.zero s)).unpack = .zero s := by
  cases s <;> rfl

theorem pack (h : AlikeUnpacked x x') :
    AlikeUnpacked (Float.Model.pack x).unpack (Float.Model.pack x').unpack := by
  cases h with
  | same x => exact same _
  | zeros s t =>
    rw [unpack_pack_zero, unpack_pack_zero]
    exact zeros s t

end AlikeUnpacked

/-- The same double, or both zeros. -/
def Alike (x y : Float) : Prop := AlikeUnpacked x.toModel.unpack y.toModel.unpack

namespace Alike

variable {x x' y y' : Float}

theorem refl (x : Float) : Alike x x := .same _

theorem of_beq (h : (x == y) = true) : Alike x y :=
  AlikeUnpacked.of_compare (eq_of_beq h)

theorem mul (hx : Alike x x') (hy : Alike y y') : Alike (x * y) (x' * y') :=
  (AlikeUnpacked.mul hx hy).pack

theorem sub (hx : Alike x x') (hy : Alike y y') : Alike (x - y) (x' - y') :=
  (AlikeUnpacked.sub hx hy).pack

theorem div (hx : Alike x x') (y : Float) : Alike (x / y) (x' / y) :=
  (AlikeUnpacked.div hx y.toModel.unpack).pack

theorem lt_congr (hx : Alike x x') (hy : Alike y y') : Float.lt x y = Float.lt x' y' := by
  have hlt : ∀ a b : Float, Float.lt a b = a.toModel.unpack.lt b.toModel.unpack := fun a b =>
    Bool.decide_eq_true
  rw [hlt, hlt, UnpackedFloat.lt, UnpackedFloat.lt, AlikeUnpacked.compare_congr hx hy]

end Alike

/-! ## Spools and snapshots that compare equal -/

theorem Profile.alike_of_beq {p q : Profile Float} (h : (p == q) = true) :
    Alike p.density q.density ∧ Alike p.diameter q.diameter := by
  have hfields : (p.id == q.id && p.vendor == q.vendor && p.material == q.material &&
      p.density == q.density && p.diameter == q.diameter) = true := h
  simp only [Bool.and_eq_true] at hfields
  obtain ⟨⟨-, hdensity⟩, hdiameter⟩ := hfields
  exact ⟨Alike.of_beq hdensity, Alike.of_beq hdiameter⟩

theorem Profile.mass_alike {p q : Profile Float} (h : (p == q) = true) {x y : Float}
    (hlength : Alike x y) : Alike (p.mass x) (q.mass y) := by
  obtain ⟨hdensity, hdiameter⟩ := alike_of_beq h
  have hradius := hdiameter.div (Scalar.ofNat 2)
  have hvolume := ((hlength.mul (Alike.refl Scalar.pi)).mul hradius).mul hradius
  exact (hvolume.div (Scalar.ofNat 1000)).mul hdensity

theorem Spool.alike_of_beq {s t : Spool Float} (h : (s == t) = true) :
    (s.profile == t.profile) = true ∧ Alike s.remaining t.remaining := by
  have hfields : (s.id == t.id && s.name == t.name && s.profile == t.profile && s.cost == t.cost &&
      s.weight == t.weight && s.used == t.used && s.tempOffset == t.tempOffset) = true := h
  simp only [Bool.and_eq_true] at hfields
  obtain ⟨⟨⟨⟨⟨-, hprofile⟩, -⟩, hweight⟩, hused⟩, -⟩ := hfields
  exact ⟨hprofile, (Alike.of_beq hweight).sub (Alike.of_beq hused)⟩

/-- Snapshots that compare equal agree on being short. -/
theorem Snapshot.isShort_eq_of_beq {s t : Snapshot Float} (h : (s == t) = true) :
    s.isShort = t.isShort := by
  obtain ⟨spool, length⟩ := s
  obtain ⟨spool', length'⟩ := t
  have hfields : (spool == spool' && length == length') = true := h
  rw [Bool.and_eq_true] at hfields
  obtain ⟨hspool, hlength⟩ := hfields
  cases spool with
  | none =>
    cases spool' with
    | none => rfl
    | some new => cases hspool
  | some old =>
    cases spool' with
    | none => cases hspool
    | some new =>
      obtain ⟨hprofile, hremaining⟩ := Spool.alike_of_beq (s := old) (t := new) hspool
      exact Alike.lt_congr hremaining (Profile.mass_alike hprofile (Alike.of_beq hlength))

end Filament
