import Mathlib.Tactic.FieldSimp
import Mathlib.Tactic.Linarith
import Filament.Proofs.Booking
import Filament.Proofs.PrintHistory
import Filament.Proofs.Run
import Filament.Proofs.Travel

/-!
The reserve on a spool.

A print that is never asked to pause uses up no spool. Only the active tool is looked at after a
line, but no line extrudes with any other (`extrusionFor_feedLine_of_ne`), so every tool that
extruded is below its threshold (`Unreached`). The threshold is a length and what is booked is a
mass; that the two formulas are inverse turns the one bound into the other
(`reserve_kept_without_pause`). Numbers are those of exact arithmetic.
-/

namespace Filament

/-! ## Thresholds of a registry -/

section

variable {α : Type}

theorem Registry.selections_snoc (slots : List (Option (Spool α))) (spool : Option (Spool α))
    (revision : Nat) :
    Registry.selections { slots := slots ++ [spool], revision } =
      Registry.selections { slots, revision } ++ [{ tool := slots.length, spool }] := by
  unfold Registry.selections
  rw [List.zipIdx_append, List.map_append]
  simp

variable [Scalar α]

namespace Thresholds

theorem getElem?_addSelection (reserve : α) (m : Std.TreeMap Nat α) (s : Selection α) (tool : Nat) :
    (addSelection reserve m s)[tool]? =
      (if s.tool = tool then (s.spool.bind Spool.remainingLength?).map (· - reserve)
        else none).or m[tool]? := by
  unfold addSelection
  cases s.spool.bind Spool.remainingLength? with
  | none => simp
  | some length =>
    by_cases htool : s.tool = tool
    · simp [htool]
    · simp [htool, Std.TreeMap.getElem?_insert]

/-- A tool's threshold is the length left on its spool less the reserve. -/
theorem get?_compute (r : Registry α) (reserve : α) (tool : Nat) :
    (compute r.selections reserve).get? tool =
      (r.slots[tool]?.join.bind Spool.remainingLength?).map (· - reserve) := by
  obtain ⟨slots, revision⟩ := r
  unfold get? compute
  induction slots using List.reverseRecOn with
  | nil => rfl
  | append_singleton slots spool ih =>
    rw [Registry.selections_snoc, List.foldl_append, List.foldl_cons, List.foldl_nil,
      getElem?_addSelection, ih]
    dsimp only
    by_cases htool : slots.length = tool
    · subst htool
      simp
    · rw [if_neg htool, Option.none_or]
      rcases Nat.lt_or_gt_of_ne htool with hlt | hgt
      · have hbeyond : (slots ++ [spool]).length ≤ tool := by
          rw [List.length_append]
          exact hlt
        rw [List.getElem?_eq_none hlt.le, List.getElem?_eq_none hbeyond]
      · rw [List.getElem?_append_left hgt]

end Thresholds

end

/-! ## Calls during a print -/

/-- Lines, new listeners, and events that bear on neither the selections nor the settings. -/
def Call.Undisturbing {α : Type} : Call α → Prop
  | .feedLine _ => True
  | .subscribe _ => True
  | .dispatch event =>
    event.concernsSelections = false ∧ ∀ settings, event ≠ .settingsChanged settings
  | _ => False

namespace Accounting

variable {α ν : Type} [Scalar α] [Notifier ν]

/-- Such an event leaves the selections and the print alone. -/
theorem dispatch_of_undisturbing {event : Event α} (h : (Call.dispatch event).Undisturbing)
    (a : Accounting α ν) :
    ((dispatch event).run a).2.registry = a.registry ∧ ((dispatch event).run a).2.print =
    a.print := by
  obtain ⟨hselections, hsettings⟩ := h
  have hnoted : ∀ b : Accounting α ν, b.noted event = b.tell (.event event) := by
    intro b
    rw [noted, hselections]
    rfl
  rcases dispatch_cases a event with ⟨e, -, hd⟩ | ⟨b, hb, hd⟩ | ⟨b, hb, hd⟩
  · rw [hd]
    exact ⟨rfl, rfl⟩
  · rw [hd]
    rcases take_false hb with rfl | ⟨id, -, rfl⟩ | ⟨settings, rfl, -, -⟩
    · exact ⟨rfl, rfl⟩
    · exact ⟨rfl, rfl⟩
    · exact absurd rfl (hsettings settings)
  · obtain ⟨-, hprint, -, hregistry⟩ := take_true hb
    rw [hd, hnoted]
    exact ⟨hregistry hselections, hprint⟩

end Accounting

/-! ## Tools below their thresholds -/

variable {K : Type} [Field K] [LinearOrder K] [CircleRatio K]

namespace Accounting

variable {ν : Type}

/-- During a print that was never asked to pause: the print follows the spools and the reserve from
its start, and each tool that has a threshold extruded nothing or stayed below it. -/
structure Unreached (a b : Accounting K ν) : Prop where
  registry : b.registry = a.registry
  thresholds :
    b.print.thresholds = Thresholds.compute a.registry.selections a.settings.pauseThreshold
  followed : b.print.printing = true ∧ b.print.counting = true ∧ b.print.pausing = true
  fed : ∃ lines, b.print.odometer =
    (Odometer.start a.settings.g90InfluencesExtruder).feedLines lines
  below : ∀ tool threshold, b.print.thresholds.get? tool = some threshold →
    b.print.odometer.extrusionFor tool = 0 ∨ b.print.odometer.extrusionFor tool < threshold

variable {a b : Accounting K ν}

theorem unreached_startPrint (hcounting : a.settings.enableOdometer = true)
    (hpausing : a.settings.autoPause = true) : Unreached a a.startPrint where
  registry := rfl
  thresholds := rfl
  followed := ⟨rfl, hcounting, hpausing⟩
  fed := ⟨[], rfl⟩
  below := by
    intro tool threshold _
    left
    show (Odometer.start a.settings.g90InfluencesExtruder : Odometer K).extrusionFor tool = 0
    rw [Odometer.extrusionFor_eq, Odometer.extruder_start]
    exact Exact.zero_eq

theorem unreached_feedLine (h : Unreached a b) {line : String}
    (hproceed : (b.feedLine line).1 = .proceed) : Unreached a (b.feedLine line).2 := by
  obtain ⟨lines, hfed⟩ := h.fed
  obtain ⟨hprinting, hcounting, hpausing⟩ := h.followed
  have hprint : (b.feedLine line).2.print =
      { b.print with odometer := b.print.odometer.feedLine line } :=
    Print.feedLine_snd_of_counted hprinting hcounting line
  have hrange : b.print.odometer.InRange := by
    rw [hfed]
    exact Odometer.inRange_feedLines _ _
  refine ⟨h.registry, ?_, ?_, ⟨lines ++ [line], ?_⟩, ?_⟩
  · rw [hprint]
    exact h.thresholds
  · rw [hprint]
    exact h.followed
  · rw [hprint, Odometer.feedLines_snoc, ← hfed]
  · rw [hprint]
    intro tool threshold hthreshold
    by_cases hactive : tool = (b.print.odometer.feedLine line).tool
    · -- The active tool was looked at and no pause was asked for.
      right
      by_contra hreached
      have hpause : (b.print.feedLine line).1 = .pause tool :=
        (Print.pause_iff b.print line tool).mpr ⟨hprinting, hcounting, hpausing, hactive, threshold,
          hthreshold, Exact.le_iff.mpr (not_lt.mp hreached)⟩
      have hanswer : (b.print.feedLine line).1 = .proceed := hproceed
      rw [hpause] at hanswer
      cases hanswer
    · show (b.print.odometer.feedLine line).extrusionFor tool = 0 ∨
        (b.print.odometer.feedLine line).extrusionFor tool < threshold
      rw [Odometer.extrusionFor_feedLine_of_ne hrange hactive]
      exact h.below tool threshold hthreshold

variable [Notifier ν]

/-- No pause was asked for. -/
def Proceeds : Turn K ν → Prop
  | ⟨b, .feedLine line⟩ => (b.feedLine line).1 = .proceed
  | _ => True

instance decidableProceeds : ∀ t : Turn K ν, Decidable (Proceeds t)
  | ⟨b, .feedLine line⟩ => inferInstanceAs (Decidable ((b.feedLine line).1 = .proceed))
  | ⟨_, .subscribe _⟩ => .isTrue trivial
  | ⟨_, .dispatch _⟩ => .isTrue trivial
  | ⟨_, .startPrint⟩ => .isTrue trivial
  | ⟨_, .finishPrint⟩ => .isTrue trivial

theorem unreached_call (h : Unreached a b) {c : Call K} (hc : c.Undisturbing)
    (hproceed : Proceeds ⟨b, c⟩) : Unreached a (b.call c) := by
  cases c with
  | subscribe l => exact ⟨h.registry, h.thresholds, h.followed, h.fed, h.below⟩
  | dispatch event =>
    obtain ⟨hregistry, hprint⟩ := dispatch_of_undisturbing hc b
    show Unreached a ((dispatch event).run b).2
    refine ⟨hregistry.trans h.registry, ?_, ?_, ?_, ?_⟩
    · rw [hprint]
      exact h.thresholds
    · rw [hprint]
      exact h.followed
    · rw [hprint]
      exact h.fed
    · rw [hprint]
      exact h.below
  | feedLine line => exact unreached_feedLine h hproceed
  | startPrint => cases hc
  | finishPrint => cases hc

theorem unreached_after {between : List (Call K)} (h : Unreached a b)
    (hbetween : ∀ c ∈ between, c.Undisturbing) (hproceed : ∀ t ∈ b.turns between, Proceeds t) :
    Unreached a (b.after between) := by
  induction between generalizing b with
  | nil => exact h
  | cons c rest ih =>
    obtain ⟨hfirst, hrest⟩ := List.forall_mem_cons.mp hproceed
    have hcall : Unreached a (b.call c) := unreached_call h (hbetween c List.mem_cons_self) hfirst
    exact ih hcall (fun c' hc' => hbetween c' (List.mem_cons_of_mem c hc')) hrest

end Accounting

/-! ## Masses and lengths -/

variable [IsStrictOrderedRing K]

theorem Strand.mass_length? {diameter density : K} (hdiameter : 0 < diameter)
    (hdensity : 0 < density) (m : K) :
    ∃ length, length? m diameter density = some length ∧ mass length diameter density = m := by
  have hpi := CircleRatio.ratio_pos (K := K)
  have hsection : (0 : K) < CircleRatio.ratio * (diameter / (2 : ℕ)) * (diameter / (2 : ℕ)) := by
    positivity
  have hlength : length? m diameter density = some (m / density * (1000 : ℕ) /
      (CircleRatio.ratio * (diameter / (2 : ℕ)) * (diameter / (2 : ℕ)))) := by
    have hreal : (density == Scalar.zero || CircleRatio.ratio * (diameter / (2 : ℕ)) *
        (diameter / (2 : ℕ)) == Scalar.zero) = false := by
      rw [Bool.or_eq_false_iff, beq_eq_false_iff_ne, beq_eq_false_iff_ne, Exact.zero_eq]
      exact ⟨hdensity.ne', hsection.ne'⟩
    show (if (density == Scalar.zero || CircleRatio.ratio * (diameter / (2 : ℕ)) *
      (diameter / (2 : ℕ)) == Scalar.zero) = true then none else some _) = _
    rw [hreal]
    rfl
  refine ⟨_, hlength, ?_⟩
  show m / density * (1000 : ℕ) /
    (CircleRatio.ratio * (diameter / (2 : ℕ)) * (diameter / (2 : ℕ))) *
    CircleRatio.ratio * (diameter / (2 : ℕ)) * (diameter / (2 : ℕ)) / (1000 : ℕ) * density = m
  have hratio := hpi.ne'
  field_simp

/-- A tool that stays below its threshold leaves more on its spool than the reserve. -/
theorem Spool.reserve_lt_remaining {spool : Spool K} (hcheck : spool.check = .ok ()) {left reserve
    length : K} (hleft : spool.remainingLength? = some left) (h : length < left - reserve) :
    spool.profile.mass reserve < spool.weight - (spool.used + spool.profile.mass length) := by
  obtain ⟨hdiameter, hdensity, -, -⟩ := spool.bounds_of_check hcheck
  obtain ⟨left', hleft', hmass⟩ := Strand.mass_length? hdiameter hdensity spool.remaining
  obtain rfl : left = left' := Option.some.inj (hleft.symm.trans hleft')
  obtain ⟨c, hc, hmul⟩ := Strand.mass_eq_mul hdiameter hdensity
  have hscaled : (length + reserve) * c < left * c :=
    mul_lt_mul_of_pos_right (lt_sub_iff_add_lt.mp h) hc
  have hremaining : left * c = spool.weight - spool.used := by
    rw [← hmul, hmass]
    rfl
  rw [add_mul, hremaining] at hscaled
  rw [Profile.mass, Profile.mass, hmul, hmul]
  linarith

/-! ## The finish -/

namespace Accounting

variable {ν : Type} {a b : Accounting K ν}

/-- What an unreached tool extruded fits on its spool, with the reserve to spare if it extruded
anything. -/
theorem reserve_left (h : Unreached a b) {tool : Nat} {spool : Spool K}
    (hslot : a.registry.slots[tool]? = some (some spool)) (hcheck : spool.check = .ok ())
    (hpos : 0 < b.print.odometer.extrusionFor tool) :
    spool.profile.mass a.settings.pauseThreshold <
      spool.weight - (spool.used + spool.profile.mass (b.print.odometer.extrusionFor tool)) := by
  obtain ⟨hdiameter, hdensity, -, -⟩ := spool.bounds_of_check hcheck
  obtain ⟨left, hleft, -⟩ := Strand.mass_length? hdiameter hdensity spool.remaining
  have hthreshold : b.print.thresholds.get? tool = some (left - a.settings.pauseThreshold) := by
    have hremaining : spool.remainingLength? = some left := hleft
    rw [h.thresholds, Thresholds.get?_compute, hslot]
    show (Spool.remainingLength? spool).map _ = _
    rw [hremaining]
    rfl
  have hlt : b.print.odometer.extrusionFor tool < left - a.settings.pauseThreshold :=
    (h.below tool _ hthreshold).resolve_left hpos.ne'
  exact Spool.reserve_lt_remaining hcheck hleft hlt

/-- Such a spool holds all that is booked on it. -/
theorem used_le_weight (h : Unreached a b) (hreserve : 0 ≤ a.settings.pauseThreshold) {tool : Nat}
    {spool : Spool K} (hslot : a.registry.slots[tool]? = some (some spool))
    (hcheck : spool.check = .ok ()) :
    spool.used + spool.profile.mass (b.print.odometer.extrusionFor tool) ≤ spool.weight := by
  obtain ⟨hdiameter, hdensity, -, hused⟩ := spool.bounds_of_check hcheck
  obtain ⟨lines, hfed⟩ := h.fed
  have hnonneg : 0 ≤ b.print.odometer.extrusionFor tool := by
    rw [hfed]
    exact extrusionFor_nonneg _ lines tool
  rcases hnonneg.eq_or_lt with hzero | hpos
  · have hmass : spool.profile.mass (b.print.odometer.extrusionFor tool) = 0 :=
      (Strand.mass_eq_zero_iff hdiameter hdensity).mpr hzero.symm
    rw [hmass, add_zero]
    exact hused
  · have hleft := reserve_left h hslot hcheck hpos
    have hkept : 0 ≤ spool.profile.mass a.settings.pauseThreshold :=
      Profile.mass_nonneg hcheck hreserve
    exact (sub_pos.mp (hkept.trans_lt hleft)).le

/-- If the host was never asked to pause, the print is booked in full and the reserve is kept. Every
tool with a spool that extruded is booked; each entry adds just the mass of what its tool extruded,
and leaves more than the mass of the reserve on the spool of a tool that extruded anything. -/
theorem reserve_kept_without_pause [Notifier ν] (a : Accounting K ν) (between : List (Call K))
    (hcounting : a.settings.enableOdometer = true) (hpausing : a.settings.autoPause = true)
    (hreserve : 0 ≤ a.settings.pauseThreshold)
    (hspools : ∀ spool, some spool ∈ a.registry.slots → spool.check = .ok ())
    (hbetween : ∀ c ∈ between, c.Undisturbing)
    (hproceed : ∀ t ∈ a.startPrint.turns between, Proceeds t) :
    let b := a.startPrint.after between
    ∃ usage, b.finishPrint.1 = some usage ∧
      (∀ u ∈ usage, ∃ spool, a.registry.slots[u.tool]? = some (some spool) ∧
        u.length = b.print.odometer.extrusionFor u.tool ∧
        u.mass = spool.profile.mass u.length ∧
        u.spool = { spool with used := spool.used + spool.profile.mass u.length } ∧
        (0 < u.length → spool.profile.mass a.settings.pauseThreshold < u.spool.remaining)) ∧
      ∀ tool spool, a.registry.slots[tool]? = some (some spool) →
        0 < b.print.odometer.extrusionFor tool → ∃ u ∈ usage, u.tool = tool := by
  intro b
  have h : Unreached a b :=
    unreached_after (unreached_startPrint hcounting hpausing) hbetween hproceed
  have hnonneg : ∀ length ∈ b.print.odometer.extrusion, 0 ≤ length := by
    intro length hlength
    obtain ⟨tool, htool⟩ := List.mem_iff_getElem?.mp hlength
    obtain ⟨lines, hfed⟩ := h.fed
    rw [Odometer.extrusion_getElem? htool, hfed]
    exact extrusionFor_nonneg _ lines tool
  have hfinish : b.finishPrint.1 = some
      ((mounted a.registry.slots b.print.odometer.extrusion).map fun m =>
        Usage.booked m.1 m.2.1 m.2.2) := by
    show (b.print.finish b.registry).1 = _
    obtain ⟨hprinting, hcounted, -⟩ := h.followed
    rw [Print.finish_fst, if_pos (by rw [hprinting, hcounted]; rfl), h.registry]
    exact Usage.bookAll?_eq hspools hnonneg
  refine ⟨_, hfinish, ?_, ?_⟩
  · intro u hu
    obtain ⟨⟨tool, spool, length⟩, hmounted, rfl⟩ := List.mem_map.mp hu
    obtain ⟨hslot, hlength⟩ := mem_mounted_iff.mp hmounted
    obtain rfl := Odometer.extrusion_getElem? hlength
    have hcheck : spool.check = .ok () := hspools spool (List.mem_of_getElem? hslot)
    have hused := used_le_weight h hreserve hslot hcheck
    have hbooked : spool.booked (b.print.odometer.extrusionFor tool) =
        { spool with
          used := spool.used + spool.profile.mass (b.print.odometer.extrusionFor tool) } := by
      rw [Spool.booked, min_eq_right hused]
    refine ⟨spool, hslot, rfl, ?_, hbooked, ?_⟩
    · show (spool.booked _).used - spool.used = _
      rw [hbooked]
      exact add_sub_cancel_left _ _
    · intro hpos
      show _ < (spool.booked _).remaining
      rw [hbooked]
      exact reserve_left h hslot hcheck hpos
  · intro tool spool hslot hpos
    have hlength : b.print.odometer.extrusion[tool]? =
        some (b.print.odometer.extrusionFor tool) := by
      apply Odometer.extrusion_getElem?_of_ne_zero
      rw [Exact.zero_eq]
      exact hpos.ne'
    exact ⟨_, List.mem_map_of_mem (mem_mounted_iff.mpr ⟨hslot, hlength⟩), rfl⟩

/-- A printer with two rolls that asks for pauses. -/
def twoRolls : Accounting ℚ NoticeLog :=
  { start NoticeLog.empty { Settings.standard with autoPause := true } with
    registry := { slots := [some roll, some roll], revision := 0 } }

/-- A print with both rolls uses up neither. -/
theorem reserve_kept_two_rolls :
    let between : List (Call ℚ) :=
      [.feedLine "M83", .feedLine "G1 E1000", .dispatch (.fileChanged (some "cube")),
        .feedLine "T1", .feedLine "G1 E2000"]
    let b := twoRolls.startPrint.after between
    twoRolls.settings.enableOdometer = true ∧ twoRolls.settings.autoPause = true ∧
    0 ≤ twoRolls.settings.pauseThreshold ∧
    (∀ spool, some spool ∈ twoRolls.registry.slots → spool.check = .ok ()) ∧
    (∀ c ∈ between, c.Undisturbing) ∧ (∀ t ∈ twoRolls.startPrint.turns between, Proceeds t) ∧
    ∃ usage, b.finishPrint.1 = some usage ∧
      ∃ u ∈ usage, u.tool = 1 ∧ u.length = 2000 ∧ roll.profile.mass 100 < u.spool.remaining := by
  intro between b
  have hspools : ∀ spool, some spool ∈ twoRolls.registry.slots → spool.check = .ok () := by
    intro spool hspool
    obtain rfl : spool = roll := by simpa [twoRolls] using hspool
    exact roll_check
  have hreserve : 0 ≤ twoRolls.settings.pauseThreshold := by decide +kernel
  have hbetween : ∀ c ∈ between, c.Undisturbing := by
    simp [between, Call.Undisturbing, Event.concernsSelections]
  have hproceed : ∀ t ∈ twoRolls.startPrint.turns between, Proceeds t := by decide +kernel
  have hextruded : b.print.odometer.extrusionFor 1 = 2000 := by decide +kernel
  obtain ⟨usage, hfinish, hkept, hbooked⟩ :=
    reserve_kept_without_pause twoRolls between rfl rfl hreserve hspools hbetween hproceed
  have hpos : 0 < b.print.odometer.extrusionFor 1 := by
    rw [hextruded]
    norm_num
  obtain ⟨u, hu, htool⟩ := hbooked 1 roll rfl hpos
  obtain ⟨spool, hslot, hlength, -, -, hremaining⟩ := hkept u hu
  rw [htool] at hslot hlength
  obtain rfl : roll = spool := Option.some.inj (Option.some.inj hslot)
  refine ⟨rfl, rfl, hreserve, hspools, hbetween, hproceed, usage, hfinish, u, hu, htool, ?_, ?_⟩
  · exact hlength.trans hextruded
  · apply hremaining
    rw [hlength]
    exact hpos

end Accounting

end Filament
