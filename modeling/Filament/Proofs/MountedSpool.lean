import Filament.Proofs.Derived
import Filament.Proofs.Reserve

/-!
Pauses after a spool was put on in mid-print.

The threshold of a tool follows the spool that is on it now, but what the tool has extruded is
counted from the start of the print. The answer to a line compares the two
(`pause_iff_reached_since_start`), so a spool that was put on after the tool had extruded something
is charged with that too. In exact arithmetic the pause then comes too early, never too late
(`pause_early_iff`).
-/

namespace Filament

variable {α ν : Type}

namespace Call

/-- A line of the print, or a spool put on a tool. -/
def MidPrint : Call α → Prop
  | .feedLine _ => True
  | .dispatch (.selectionChanged _ (some _)) => True
  | _ => False

def mounts (tool : Nat) : Call α → Bool
  | .dispatch (.selectionChanged other _) => other == tool
  | _ => false

end Call

namespace Accounting

variable [Scalar α]

/-- The spool on the tool has no more left than the reserve once this length is taken from it. -/
def DownToReserve (a : Accounting α ν) (tool : Nat) (extruded : α) : Prop :=
  ∃ spool length, a.registry.slots[tool]? = some (some spool) ∧
    spool.remainingLength? = some length ∧
    Scalar.le (length - a.settings.pauseThreshold) extruded = true

theorem downToReserve_iff {a : Accounting α ν} {tool : Nat} {spool : Spool α} {length : α}
    (hslot : a.registry.slots[tool]? = some (some spool))
    (hlength : spool.remainingLength? = some length) (extruded : α) :
    a.DownToReserve tool extruded ↔
      Scalar.le (length - a.settings.pauseThreshold) extruded = true := by
  constructor
  · rintro ⟨spool', length', hslot', hlength', hle⟩
    obtain rfl : spool = spool' := Option.some.inj (Option.some.inj (hslot.symm.trans hslot'))
    obtain rfl : length = length' := Option.some.inj (hlength.symm.trans hlength')
    exact hle
  · intro hle
    exact ⟨spool, length, hslot, hlength, hle⟩

variable [Notifier ν]

/-- What a tool had extruded when its spool was put on, from the start of the print: the count then
if that was during the calls, else the count before them. -/
def extrudedAtMount (a : Accounting α ν) (calls : List (Call α)) (tool : Nat) : α :=
  match ((a.turns calls).filter fun t => t.call.mounts tool).getLast? with
  | some t => t.before.print.odometer.extrusionFor tool
  | none => a.print.odometer.extrusionFor tool

/-- What a tool has extruded from its spool when a line has followed the calls. -/
def extrudedSinceMount (a : Accounting α ν) (calls : List (Call α)) (line : String) (tool : Nat) :
    α :=
  ((a.after calls).feedLine line).2.print.odometer.extrusionFor tool - a.extrudedAtMount calls tool

/-! ## The print goes on -/

/-- The print that was started with the settings of `a` goes on, with the thresholds of the spools
that are on the tools now. -/
structure Followed (a b : Accounting α ν) : Prop where
  settings : b.settings = a.settings
  running : b.print.printing = true ∧ b.print.counting = true ∧ b.print.pausing = true
  thresholds :
    b.print.thresholds = Thresholds.compute b.registry.selections b.settings.pauseThreshold
  fed : ∃ lines, b.print.odometer =
    (Odometer.start a.settings.g90InfluencesExtruder).feedLines lines

variable {a b : Accounting α ν}

omit [Notifier ν] in
theorem followed_startPrint (hcounting : a.settings.enableOdometer = true)
    (hpausing : a.settings.autoPause = true) : Followed a a.startPrint where
  settings := rfl
  running := ⟨rfl, hcounting, hpausing⟩
  thresholds := rfl
  fed := ⟨[], rfl⟩

omit [Notifier ν] in
theorem print_feedLine (h : Followed a b) (line : String) :
    (b.feedLine line).2.print = { b.print with odometer := b.print.odometer.feedLine line } := by
  obtain ⟨hprinting, hcounting, -⟩ := h.running
  exact Print.feedLine_snd_of_counted hprinting hcounting line

omit [Notifier ν] in
theorem followed_feedLine (h : Followed a b) (line : String) : Followed a (b.feedLine line).2 := by
  have hprint := print_feedLine h line
  obtain ⟨lines, hfed⟩ := h.fed
  refine ⟨h.settings, ?_, ?_, lines ++ [line], ?_⟩
  · rw [hprint]
    exact h.running
  · rw [hprint]
    exact h.thresholds
  · rw [hprint, Odometer.feedLines_snoc, ← hfed]

theorem followed_mount (h : Followed a b) (tool : Nat) (spool : Option (Spool α)) :
    Followed a ((dispatch (.selectionChanged tool spool)).run b).2 := by
  rcases dispatch_cases b (.selectionChanged tool spool) with ⟨e, -, hd⟩ | ⟨c, hc, hd⟩ | ⟨c, hc, hd⟩
  · rw [hd]
    exact h
  · rw [hd]
    rcases take_false hc with rfl | ⟨id, hevent, -⟩ | ⟨settings, hevent, -, -⟩
    · exact ⟨h.settings, h.running, h.thresholds, h.fed⟩
    · cases hevent
    · cases hevent
  · obtain ⟨hwatch, hprint, -, -⟩ := take_true hc
    have hsettings : (c.noted (.selectionChanged tool spool)).recompute.2.settings =
        b.settings := by
      show (Watch.recompute _ _ _).2.settings = b.watch.settings
      rw [Watch.recompute_settings, noted_watch, hwatch]
    rw [hd]
    refine ⟨hsettings.trans h.settings, ?_, ?_, ?_⟩
    · show c.print.printing = true ∧ c.print.counting = true ∧ c.print.pausing = true
      rw [hprint]
      exact h.running
    · show Thresholds.compute c.registry.selections c.watch.settings.pauseThreshold =
        Thresholds.compute c.registry.selections
          (c.noted (.selectionChanged tool spool)).recompute.2.settings.pauseThreshold
      rw [hsettings, hwatch]
      rfl
    · show ∃ lines, c.print.odometer = _
      rw [hprint]
      exact h.fed

theorem followed_call (h : Followed a b) {c : Call α} (hc : c.MidPrint) :
    Followed a (b.call c) := by
  cases c with
  | feedLine line => exact followed_feedLine h line
  | subscribe l => cases hc
  | startPrint => cases hc
  | finishPrint => cases hc
  | dispatch event =>
    cases event with
    | selectionChanged tool spool => exact followed_mount h tool spool
    | _ => cases hc

theorem followed_turns {calls : List (Call α)} (h : Followed a b)
    (hcalls : ∀ c ∈ calls, c.MidPrint) : ∀ t ∈ b.turns calls, Followed a t.before := by
  induction calls generalizing b with
  | nil => exact List.forall_mem_nil _
  | cons c rest ih =>
    have hnext := ih (followed_call h (hcalls c List.mem_cons_self)) fun d hd =>
      hcalls d (List.mem_cons_of_mem c hd)
    exact List.forall_mem_cons.mpr ⟨h, hnext⟩

theorem followed_after {calls : List (Call α)} (h : Followed a b)
    (hcalls : ∀ c ∈ calls, c.MidPrint) : Followed a (b.after calls) :=
  after_induction_of_mem (P := Followed a) (fun c hc _ hb => followed_call hb (hcalls c hc)) h

/-! ## The answer to a line -/

omit [Notifier ν] in
theorem downToReserve_iff_threshold (h : Followed a b) (tool : Nat) (extruded : α) :
    b.DownToReserve tool extruded ↔
      ∃ threshold, b.print.thresholds.get? tool = some threshold ∧
        Scalar.le threshold extruded = true := by
  rw [h.thresholds, Thresholds.get?_compute]
  constructor
  · rintro ⟨spool, length, hslot, hlength, hle⟩
    refine ⟨_, ?_, hle⟩
    rw [hslot, Option.join_some, Option.bind_some, hlength, Option.map_some]
  · rintro ⟨threshold, hthreshold, hle⟩
    obtain ⟨length, hmounted, rfl⟩ := Option.map_eq_some_iff.mp hthreshold
    obtain ⟨spool, hslot, hlength⟩ := Option.bind_eq_some_iff.mp hmounted
    exact ⟨spool, length, Option.join_eq_some_iff.mp hslot, hlength, hle⟩

omit [Notifier ν] in
theorem pause_iff_of_followed (h : Followed a b) (line : String) (tool : Nat) :
    (b.feedLine line).1 = .pause tool ↔
      tool = (b.feedLine line).2.print.odometer.tool ∧
      b.DownToReserve tool ((b.feedLine line).2.print.odometer.extrusionFor tool) := by
  obtain ⟨hprinting, hcounting, hpausing⟩ := h.running
  have hanswer := Print.pause_iff b.print line tool
  rw [print_feedLine h, downToReserve_iff_threshold h]
  constructor
  · intro hpause
    obtain ⟨-, -, -, hreached⟩ := hanswer.mp hpause
    exact hreached
  · intro hreached
    exact hanswer.mpr ⟨hprinting, hcounting, hpausing, hreached⟩

/-- In a print with pauses on, with lines and spools put on in any order, a line is answered with a
pause exactly if the active tool has extruded since the start of the print what its spool has left
less the reserve. Counting from when the spool was put on instead gives the same answer exactly if
that does not decide whether the threshold of the spool is reached. -/
theorem pause_iff_reached_since_start (a : Accounting α ν)
    (hcounting : a.settings.enableOdometer = true) (hpausing : a.settings.autoPause = true)
    (calls : List (Call α)) (hcalls : ∀ c ∈ calls, c.MidPrint) (line : String) (tool : Nat) :
    let b := a.startPrint.after calls
    let o := (b.feedLine line).2.print.odometer
    let sinceMount := a.startPrint.extrudedSinceMount calls line tool
    ((b.feedLine line).1 = .pause tool ↔
      tool = o.tool ∧ b.DownToReserve tool (o.extrusionFor tool)) ∧
    (((b.feedLine line).1 = .pause tool ↔ tool = o.tool ∧ b.DownToReserve tool sinceMount) ↔
      (tool = o.tool → ∀ spool length, b.registry.slots[tool]? = some (some spool) →
        spool.remainingLength? = some length →
        Scalar.le (length - a.settings.pauseThreshold) (o.extrusionFor tool) =
          Scalar.le (length - a.settings.pauseThreshold) sinceMount)) := by
  intro b o sinceMount
  have hb : Followed a b := followed_after (followed_startPrint hcounting hpausing) hcalls
  have hanswer : (b.feedLine line).1 = .pause tool ↔
      tool = o.tool ∧ b.DownToReserve tool (o.extrusionFor tool) :=
        pause_iff_of_followed hb line tool
  refine ⟨hanswer, ?_⟩
  rw [hanswer, and_congr_right_iff]
  refine forall_congr' fun _ => ⟨fun h spool length hslot hlength => ?_, fun h => ?_⟩
  · rw [downToReserve_iff hslot hlength, downToReserve_iff hslot hlength, hb.settings] at h
    exact Bool.eq_iff_iff.mpr h
  · constructor
    · rintro ⟨spool, length, hslot, hlength, hle⟩
      rw [hb.settings, h spool length hslot hlength, ← hb.settings] at hle
      exact ⟨spool, length, hslot, hlength, hle⟩
    · rintro ⟨spool, length, hslot, hlength, hle⟩
      rw [hb.settings, ← h spool length hslot hlength, ← hb.settings] at hle
      exact ⟨spool, length, hslot, hlength, hle⟩

/-! ## Exact arithmetic -/

section

variable {K : Type} [Field K] [LinearOrder K] [CircleRatio K]

theorem extrudedAtMount_nonneg {a b : Accounting K ν} (h : Followed a b) {calls : List (Call K)}
    (hcalls : ∀ c ∈ calls, c.MidPrint) (tool : Nat) : 0 ≤ b.extrudedAtMount calls tool := by
  have hcount : ∀ {c : Accounting K ν}, Followed a c → 0 ≤ c.print.odometer.extrusionFor tool := by
    intro c hc
    obtain ⟨lines, hfed⟩ := hc.fed
    rw [hfed]
    exact extrusionFor_nonneg _ lines tool
  unfold extrudedAtMount
  cases hlast : ((b.turns calls).filter fun t => t.call.mounts tool).getLast? with
  | none => exact hcount h
  | some t =>
    have hmem : t ∈ b.turns calls := List.mem_of_mem_filter (List.mem_of_getLast? hlast)
    exact hcount (followed_turns h hcalls t hmem)

variable [IsStrictOrderedRing K]

/-- No pause comes later than when counting from when the spool was put on; it comes earlier exactly
while only the count from the start of the print has reached the threshold. -/
theorem pause_early_iff (a : Accounting K ν) (hcounting : a.settings.enableOdometer = true)
    (hpausing : a.settings.autoPause = true) (calls : List (Call K))
    (hcalls : ∀ c ∈ calls, c.MidPrint) (line : String) (tool : Nat) :
    let b := a.startPrint.after calls
    let o := (b.feedLine line).2.print.odometer
    let sinceMount := a.startPrint.extrudedSinceMount calls line tool
    (tool = o.tool ∧ b.DownToReserve tool sinceMount → (b.feedLine line).1 = .pause tool) ∧
    ((b.feedLine line).1 = .pause tool ∧ ¬b.DownToReserve tool sinceMount ↔
      tool = o.tool ∧ ∃ threshold, b.print.thresholds.get? tool = some threshold ∧
        sinceMount < threshold ∧ threshold ≤ o.extrusionFor tool) := by
  intro b o sinceMount
  have hstart : Followed a a.startPrint := followed_startPrint hcounting hpausing
  have hb : Followed a b := followed_after hstart hcalls
  have hanswer : (b.feedLine line).1 = .pause tool ↔
      tool = o.tool ∧ b.DownToReserve tool (o.extrusionFor tool) :=
        pause_iff_of_followed hb line tool
  have hle : sinceMount ≤ o.extrusionFor tool :=
    sub_le_self _ (extrudedAtMount_nonneg hstart hcalls tool)
  rw [hanswer, downToReserve_iff_threshold hb, downToReserve_iff_threshold hb]
  refine ⟨?_, ?_⟩
  · rintro ⟨htool, threshold, hthreshold, hreached⟩
    rw [Exact.le_iff] at hreached
    exact ⟨htool, threshold, hthreshold, Exact.le_iff.mpr (hreached.trans hle)⟩
  · constructor
    · rintro ⟨⟨htool, threshold, hthreshold, hreached⟩, hnot⟩
      refine ⟨htool, threshold, hthreshold, lt_of_not_ge fun hdown => ?_, Exact.le_iff.mp hreached⟩
      exact hnot ⟨threshold, hthreshold, Exact.le_iff.mpr hdown⟩
    · rintro ⟨htool, threshold, hthreshold, hlt, hreached⟩
      refine ⟨⟨htool, threshold, hthreshold, Exact.le_iff.mpr hreached⟩, ?_⟩
      rintro ⟨threshold', hthreshold', hdown⟩
      obtain rfl : threshold = threshold' := Option.some.inj (hthreshold.symm.trans hthreshold')
      exact hlt.not_ge (Exact.le_iff.mp hdown)

end

/-! ## A spool put on in mid-print -/

def fullRoll : Spool Float where
  id := some 1
  name := "Black"
  profile :=
    { id := some 1, vendor := "Acme", material := "PLA", density := 1.25, diameter := 1.75 }
  cost := 20
  weight := 1000
  used := 0
  tempOffset := 0

/-- Another roll, with filament for some 499 mm left on it. -/
def nearlyEmptyRoll : Spool Float := { fullRoll with id := some 2, name := "White", used := 998.5 }

def withoutReserve : Settings Float :=
  { (Settings.standard : Settings Float) with autoPause := true, pauseThreshold := 0 }

/-- A printer with a full roll that asks for pauses and keeps no reserve. -/
def pausingPrinter : Accounting Float NoticeLog :=
  { start NoticeLog.empty withoutReserve with
    registry := { slots := [some fullRoll], revision := 0 } }

/-- After 600 mm the roll is changed for the one that is nearly empty. -/
def rollChanged : List (Call Float) :=
  [.feedLine "M83", .feedLine "G1 E600", .dispatch (.selectionChanged 0 (some nearlyEmptyRoll))]

theorem rollChanged_midPrint : ∀ c ∈ rollChanged, c.MidPrint := by
  intro c hc
  simp only [rollChanged, List.mem_cons, List.not_mem_nil, or_false] at hc
  rcases hc with rfl | rfl | rfl <;> exact trivial

/-- One more millimetre after the change is answered with a pause, since 601 mm were extruded in
all. -/
theorem pause_iff_reached_roll_changed :
    let b := pausingPrinter.startPrint.after rollChanged
    pausingPrinter.settings.enableOdometer = true ∧ pausingPrinter.settings.autoPause = true ∧
    (∀ c ∈ rollChanged, c.MidPrint) ∧ (b.feedLine "G1 E1").1 = .pause 0 := by
  intro b
  refine ⟨rfl, rfl, rollChanged_midPrint, ?_⟩
  obtain ⟨hanswer, -⟩ :=
    pause_iff_reached_since_start pausingPrinter rfl rfl rollChanged rollChanged_midPrint "G1 E1" 0
  have hb : b = pausingPrinter.startPrint.after rollChanged := rfl
  rw [← hb] at hanswer
  have hreached : ((b.registry.slots[0]?.join.bind Spool.remainingLength?).any fun length =>
      Scalar.le (length - b.settings.pauseThreshold)
        ((b.feedLine "G1 E1").2.print.odometer.extrusionFor 0)) = true := by
    decide +kernel
  obtain ⟨length, hmounted, hle⟩ := (Option.any_eq_true _ _).mp hreached
  obtain ⟨spool, hslot, hlength⟩ := Option.bind_eq_some_iff.mp hmounted
  have hdown : b.DownToReserve 0 ((b.feedLine "G1 E1").2.print.odometer.extrusionFor 0) :=
    ⟨spool, length, Option.join_eq_some_iff.mp hslot, hlength, hle⟩
  exact hanswer.mpr ⟨by decide +kernel, hdown⟩

/-- Only the one millimetre came from the roll that is on the tool, which has some 499 left. -/
theorem pause_before_roll_is_used :
    let b := pausingPrinter.startPrint.after rollChanged
    let o := (b.feedLine "G1 E1").2.print.odometer
    let sinceMount := pausingPrinter.startPrint.extrudedSinceMount rollChanged "G1 E1" 0
    pausingPrinter.settings.enableOdometer = true ∧ pausingPrinter.settings.autoPause = true ∧
    (∀ c ∈ rollChanged, c.MidPrint) ∧ fullRoll.id ≠ nearlyEmptyRoll.id ∧
    ¬((b.feedLine "G1 E1").1 = .pause 0 ↔ 0 = o.tool ∧ b.DownToReserve 0 sinceMount) := by
  intro b o sinceMount
  refine ⟨rfl, rfl, rollChanged_midPrint, by decide +kernel, fun hclaim => ?_⟩
  have hpause : (b.feedLine "G1 E1").1 = .pause 0 := by decide +kernel
  obtain ⟨-, spool, length, hslot, hlength, hle⟩ := hclaim.mp hpause
  have hleft : ((b.registry.slots[0]?.join.bind Spool.remainingLength?).any fun length =>
      Scalar.le (length - b.settings.pauseThreshold) sinceMount) = false := by
    decide +kernel
  rw [hslot, Option.join_some, Option.bind_some, hlength, Option.any_some, hle] at hleft
  cases hleft

end Accounting
end Filament
