import Filament.Proofs.Alike
import Filament.Proofs.Booking
import Filament.Proofs.Double
import Filament.Proofs.PrintHistory
import Filament.Proofs.Run

/-!
What a print books on valid spools.

Booking on a valid spool always comes to something, and a store that has the spool takes it if the
mass is a number (`Usage.sendable_of_book?`). The odometer counts nothing but numbers, so every mass
is a number unless half of a diameter is zero, as it is of the least double
(`Accounting.bookedMasses_of_wide`).
-/

namespace Filament

/-! ## Masses -/

/-- Half of the diameter is finite and not zero. -/
def Profile.IsWide (p : Profile Float) : Prop :=
  Double.isFactor (p.diameter / Scalar.ofNat 2) = true

theorem Profile.isWide_of_beq {p q : Profile Float} (hp : p.IsWide) (h : (q == p) = true) :
    q.IsWide := by
  obtain ⟨-, hdiameter⟩ := alike_of_beq h
  have hradius : Alike (q.diameter / Scalar.ofNat 2) (p.diameter / Scalar.ofNat 2) :=
    hdiameter.div (Scalar.ofNat 2)
  obtain ⟨s, m, e, hm, hfinite⟩ := Double.isFactor_iff.mp hp
  unfold Alike at hradius
  rw [hfinite] at hradius
  generalize hq : (q.diameter / Scalar.ofNat 2).toModel.unpack = x at hradius
  cases hradius
  exact Double.isFactor_iff.mpr ⟨s, m, e, hm, hq⟩

theorem Profile.isNaN_mass {p : Profile Float} (hwide : p.IsWide)
    (hdensity : Double.isFactor p.density = true) {length : Float}
    (hlength : length.isNaN = false) :
    (p.mass length).isNaN = false := by
  have hpi : Double.isFactor Scalar.pi = true := by decide +kernel
  have hthousand : Double.isFactor (Scalar.ofNat 1000) = true := by decide +kernel
  have hvolume := Double.isNaN_mul (Double.isNaN_mul (Double.isNaN_mul hlength hpi) hwide) hwide
  exact Double.isNaN_mul (Double.isNaN_div hvolume hthousand) hdensity

namespace Odometer

/-- What the odometer counts is a number, whatever the program says. -/
theorem isNaN_extrusionFor (g90Influences : Bool) (lines : List String) (tool : Nat) :
    (((start g90Influences : Odometer Float).feedLines lines).extrusionFor tool).isNaN = false := by
  induction lines using List.reverseRecOn with
  | nil =>
    rw [extrusionFor_eq, feedLines, List.foldl_nil, extruder_start]
    rfl
  | append_singleton lines line ih =>
    rw [extrusionFor_eq] at ih ⊢
    rw [feedLines_snoc, extruder_feedLine (inRange_feedLines g90Influences lines)]
    split
    · unfold drive
      split
      · exact Double.isNaN_larger ih _
      · exact ih
      · exact ih
    · exact ih

end Odometer

/-! ## Booking on valid spools -/

theorem exists_mapM_eq_some {β γ : Type} {f : β → Option γ} {xs : List β}
    (h : ∀ x ∈ xs, ∃ y, f x = some y) : ∃ ys, xs.mapM f = some ys := by
  induction xs with
  | nil => exact ⟨[], rfl⟩
  | cons x rest ih =>
    obtain ⟨y, hy⟩ := h x List.mem_cons_self
    obtain ⟨ys, hys⟩ := ih fun z hz => h z (List.mem_cons_of_mem x hz)
    refine ⟨y :: ys, ?_⟩
    rw [List.mapM_cons, hy, hys]
    rfl

theorem exists_of_mapM_eq_some {β γ : Type} {f : β → Option γ} {xs : List β} {ys : List γ}
    (h : xs.mapM f = some ys) : ∀ y ∈ ys, ∃ x ∈ xs, f x = some y := by
  induction xs generalizing ys with
  | nil =>
    obtain rfl : [] = ys := Option.some.inj h
    exact List.forall_mem_nil _
  | cons x rest ih =>
    rw [List.mapM_cons, Option.bind_eq_bind, Option.bind_eq_some_iff] at h
    obtain ⟨y, hy, hrest⟩ := h
    obtain ⟨tail, htail, hys⟩ := Option.bind_eq_some_iff.mp hrest
    obtain rfl := Option.some.inj hys
    rw [List.forall_mem_cons]
    refine ⟨⟨x, List.mem_cons_self, hy⟩, fun z hz => ?_⟩
    obtain ⟨w, hw, hfw⟩ := ih htail z hz
    exact ⟨w, List.mem_cons_of_mem x hw, hfw⟩

theorem Spool.check_used_double {spool : Spool Float} (h : spool.check = .ok ()) {used : Float}
    (hused : isAmount used = true) (hwithin : Scalar.lt spool.weight used = false) :
    ({ spool with used } : Spool Float).check = .ok () := by
  rw [check_eq_ok_iff] at h ⊢
  obtain ⟨hname, hprofile, hdiameter, hdensity, hcost, hweight, -, -, hoffset⟩ := h
  exact ⟨hname, hprofile, hdiameter, hdensity, hcost, hweight, hused, hwithin, hoffset⟩

namespace Usage

theorem book?_of_check {spool : Spool Float} (h : spool.check = .ok ()) (tool : Nat)
    (length : Float) : ∃ u, book? tool spool length = some u := by
  obtain ⟨-, -, -, -, -, hweight, -, -, -⟩ := Spool.check_eq_ok_iff.mp h
  unfold book? clamp?
  rw [if_pos (Double.zero_le_of_isAmount hweight)]
  exact ⟨_, rfl⟩

theorem profile_of_book? {tool : Nat} {spool : Spool Float} {length : Float} {u : Usage Float}
    (h : book? tool spool length = some u) : u.spool.profile = spool.profile := by
  obtain ⟨used, -, hu⟩ := Option.bind_eq_some_iff.mp h
  obtain rfl := Option.some.inj hu
  rfl

/-- What is booked is booked on the spools on the tools. -/
theorem mem_bookAll? {α : Type} [Scalar α] {slots : List (Option (Spool α))} {extrusion : List α}
    {usage : List (Usage α)} (h : bookAll? slots extrusion = some usage) :
    ∀ u ∈ usage, ∃ m ∈ mounted slots extrusion, book? m.1 m.2.1 m.2.2 = some u :=
  exists_of_mapM_eq_some h

theorem bookAll?_of_check {slots : List (Option (Spool Float))}
    (h : ∀ spool, some spool ∈ slots → spool.check = .ok ()) (extrusion : List Float) :
    ∃ usage, bookAll? slots extrusion = some usage ∧
      ∀ u ∈ usage, ∃ m ∈ mounted slots extrusion, book? m.1 m.2.1 m.2.2 = some u := by
  have hall : ∀ m ∈ mounted slots extrusion, ∃ u, book? m.1 m.2.1 m.2.2 = some u := fun m hm =>
    book?_of_check (h m.2.1 (mem_mounted hm).1) m.1 m.2.2
  obtain ⟨usage, hbook⟩ := exists_mapM_eq_some hall
  exact ⟨usage, hbook, mem_bookAll? hbook⟩

/-- A valid spool is valid after a mass that is a number was booked on it. -/
theorem check_of_book? {spool : Spool Float} (hcheck : spool.check = .ok ()) {tool : Nat}
    {length : Float} (hmass : (spool.profile.mass length).isNaN = false) {u : Usage Float}
    (h : book? tool spool length = some u) : u.spool.check = .ok () ∧ u.spool.id = spool.id := by
  obtain ⟨-, -, -, -, -, hweight, hused, -, -⟩ := Spool.check_eq_ok_iff.mp hcheck
  have hfinite : spool.used.isFinite = true := ((Bool.and_eq_true _ _).mp hused).1
  obtain ⟨used, hclamp, hamount, hwithin⟩ :=
    clamp?_eq_some hweight (Double.isNaN_add hfinite hmass)
  have hbook : book? tool spool length =
      some { tool, length, mass := used - spool.used, spool := { spool with used } } := by
    unfold book?
    rw [hclamp]
    rfl
  obtain rfl := Option.some.inj (hbook.symm.trans h)
  exact ⟨Spool.check_used_double hcheck hamount hwithin, rfl⟩

/-- What is booked with a mass that is a number is taken by a store that has the spool. -/
theorem sendable_of_book? {spool : Spool Float} (hcheck : spool.check = .ok ())
    {store : Store Float}
    {id : Nat} (hid : spool.id = some id) (hstored : store.spools.contains id = true) {tool : Nat}
    {length : Float} (hmass : (spool.profile.mass length).isNaN = false) {u : Usage Float}
    (h : book? tool spool length = some u) : u.Sendable store := by
  obtain ⟨hvalid, hsame⟩ := check_of_book? hcheck hmass h
  exact ⟨Spool.accept_eq_ok_iff.mpr hvalid, id, hsame.trans hid, hstored⟩

end Usage

/-! ## Printing -/

namespace Accounting

variable {α ν : Type} [Scalar α]

/-- The masses that finishing the print computes, one a tool with a spool. -/
def bookedMasses (a : Accounting α ν) : List α :=
  if (a.print.printing && a.print.counting) = true then
    (mounted a.registry.slots a.print.odometer.extrusion).map fun m => m.2.1.profile.mass m.2.2
  else []

variable [Notifier ν]

theorem call_frame (a : Accounting α ν) {c : Call α} (h : ∀ event, c ≠ .dispatch event) :
    (a.call c).registry = a.registry ∧ (a.call c).watch = a.watch := by
  cases c with
  | subscribe l => exact ⟨rfl, rfl⟩
  | dispatch event => exact absurd rfl (h event)
  | startPrint => exact ⟨rfl, rfl⟩
  | feedLine line => exact ⟨rfl, rfl⟩
  | finishPrint => exact ⟨rfl, rfl⟩

theorem after_frame {calls : List (Call α)} (h : ∀ c ∈ calls, ∀ event, c ≠ .dispatch event)
    (a : Accounting α ν) :
    (a.after calls).registry = a.registry ∧ (a.after calls).watch = a.watch := by
  refine after_induction_of_mem (P := fun b => b.registry = a.registry ∧ b.watch = a.watch)
    (fun c hc b hb => ?_) ⟨rfl, rfl⟩
  obtain ⟨hregistry, hwatch⟩ := b.call_frame (h c hc)
  exact ⟨hregistry.trans hb.1, hwatch.trans hb.2⟩

/-- The accounting when a program has been printed and is not finished yet. -/
def printed (a : Accounting α ν) (program : String) : Accounting α ν :=
  a.after (.startPrint :: (Text.lines program).map .feedLine)

theorem printed_frame (a : Accounting α ν) (program : String) :
    (a.printed program).registry = a.registry ∧ (a.printed program).watch = a.watch := by
  refine after_frame (fun c hc event hevent => ?_) a
  rcases List.mem_cons.mp hc with rfl | hline
  · cases hevent
  · obtain ⟨line, -, rfl⟩ := List.mem_map.mp hline
    cases hevent

/-- Lines do no more to a print than feed its odometer. -/
theorem print_after_lines (a : Accounting α ν) (lines : List String) :
    ∃ fed, (a.after (lines.map .feedLine)).print =
      { a.print with odometer := a.print.odometer.feedLines fed } := by
  induction lines generalizing a with
  | nil => exact ⟨[], rfl⟩
  | cons line rest ih =>
    obtain ⟨fed, hfed⟩ := ih (a.call (.feedLine line))
    have hline : (a.call (.feedLine line)).print = (a.print.feedLine line).2 := rfl
    rw [hline, Print.feedLine_snd] at hfed
    split at hfed
    · exact ⟨line :: fed, hfed⟩
    · exact ⟨fed, hfed⟩

theorem print_printed (a : Accounting α ν) (program : String) :
    ∃ fed, (a.printed program).print =
      { Print.start a.settings a.registry.selections with
        odometer := (Odometer.start a.settings.g90InfluencesExtruder).feedLines fed } :=
  a.startPrint.print_after_lines (Text.lines program)

theorem bookedMasses_of_wide {ν : Type} [Notifier ν] {a : Accounting Float ν}
    (h : ∀ spool, some spool ∈ a.registry.slots → spool.check = .ok () ∧ spool.profile.IsWide)
    (program : String) : ∀ mass ∈ (a.printed program).bookedMasses, mass.isNaN = false := by
  intro mass hmass
  unfold bookedMasses at hmass
  split at hmass
  · obtain ⟨m, hm, rfl⟩ := List.mem_map.mp hmass
    obtain ⟨hslot, hlength⟩ := mem_mounted_iff.mp hm
    rw [(a.printed_frame program).1] at hslot
    obtain ⟨hcheck, hwide⟩ := h m.2.1 (List.mem_of_getElem? hslot)
    obtain ⟨-, -, -, hdensity, -⟩ := Spool.check_eq_ok_iff.mp hcheck
    refine Profile.isNaN_mass hwide (isFactor_of_checkPositive hdensity) ?_
    obtain ⟨fed, hfed⟩ := a.print_printed program
    rw [Odometer.extrusion_getElem? hlength, hfed]
    exact Odometer.isNaN_extrusionFor _ fed m.1
  · cases hmass

end Accounting
end Filament
