import Filament.Proofs.DoubleOrder
import Filament.Proofs.MountedSpool

/-!
Pauses that stay due.

A host may go on printing when it was asked to pause. No line takes anything back from the length
that a tool has extruded, and the threshold is the same until the selections or the settings change.
So a tool that has reached its threshold is past it for good (`Due`), and the host is asked again
after every line that leaves the tool active (`pause_asked_again`).
-/

namespace Filament

/-! ## One line -/

namespace Print

/-- The print is followed, pauses are asked for, and the tool has extruded up to its threshold. -/
structure Due (tool : Nat) (p : Print Float) : Prop where
  followed : p.printing = true ∧ p.counting = true ∧ p.pausing = true
  reached : ∃ threshold, p.thresholds.get? tool = some threshold ∧
    Scalar.le threshold (p.odometer.extrusionFor tool) = true

variable {p : Print Float} {tool : Nat}

theorem due_of_pause {line : String} (h : (p.feedLine line).1 = .pause tool) :
    Due tool (p.feedLine line).2 := by
  obtain ⟨hprinting, hcounting, hpausing, -, hreached⟩ := (pause_iff p line tool).mp h
  rw [feedLine_snd_of_counted hprinting hcounting]
  exact ⟨⟨hprinting, hcounting, hpausing⟩, hreached⟩

theorem due_feedLine (h : Due tool p) (line : String) : Due tool (p.feedLine line).2 := by
  obtain ⟨⟨hprinting, hcounting, hpausing⟩, threshold, hthreshold, hle⟩ := h
  rw [feedLine_snd_of_counted hprinting hcounting]
  refine ⟨⟨hprinting, hcounting, hpausing⟩, threshold, hthreshold, ?_⟩
  show Scalar.le threshold ((p.odometer.feedLine line).extrusionFor tool) = true
  rcases p.odometer.extrusionFor_feedLine line tool with hkept | ⟨total, hlarger⟩
  · rw [hkept]
    exact hle
  · rw [hlarger]
    exact Double.le_larger hle total

/-- While a pause is due it is asked for after each line with the tool active. -/
theorem pause_iff_of_due (h : Due tool p) (line : String) :
    (p.feedLine line).1 = .pause tool ↔ (p.feedLine line).2.odometer.tool = tool := by
  have hreached := (due_feedLine h line).reached
  obtain ⟨hprinting, hcounting, hpausing⟩ := h.followed
  rw [pause_iff]
  rw [feedLine_snd_of_counted hprinting hcounting] at hreached ⊢
  constructor
  · rintro ⟨-, -, -, hactive, -⟩
    exact hactive.symm
  · intro hactive
    exact ⟨hprinting, hcounting, hpausing, hactive.symm, hreached⟩

end Print

/-! ## Calls during a print -/

namespace Accounting

variable {ν : Type} [Notifier ν] {a : Accounting Float ν} {tool : Nat}

theorem due_call (h : a.print.Due tool) {c : Call Float} (hc : c.Undisturbing) :
    (a.call c).print.Due tool := by
  cases c with
  | subscribe l => exact h
  | dispatch event =>
    obtain ⟨-, hprint⟩ := dispatch_of_undisturbing hc a
    show ((Accounting.dispatch event).run a).2.print.Due tool
    rw [hprint]
    exact h
  | feedLine line => exact Print.due_feedLine h line
  | startPrint => cases hc
  | finishPrint => cases hc

theorem due_after (h : a.print.Due tool) {between : List (Call Float)}
    (hbetween : ∀ c ∈ between, c.Undisturbing) : (a.after between).print.Due tool :=
  after_induction_of_mem (P := fun b => b.print.Due tool)
    (fun c hc _ hb => due_call hb (hbetween c hc)) h

/-- Once a line was answered with a pause for a tool, a later line is answered with the same pause
exactly if the tool is active after it, until a print starts or finishes or an event concerns the
selections or the settings. -/
theorem pause_asked_again (a : Accounting Float ν) {line : String} {tool : Nat}
    (h : (a.feedLine line).1 = .pause tool) {between : List (Call Float)}
    (hbetween : ∀ c ∈ between, c.Undisturbing) (later : String) :
    let b := (a.feedLine line).2.after between
    (b.feedLine later).1 = .pause tool ↔ (b.feedLine later).2.print.odometer.tool = tool := by
  intro b
  have hdue : (a.feedLine line).2.print.Due tool := Print.due_of_pause h
  have hstill : b.print.Due tool := due_after hdue hbetween
  exact Print.pause_iff_of_due hstill later

/-- The host prints on: it retracts, names the position anew, and prints with another tool. -/
def printedOn : List (Call Float) :=
  [.feedLine "G1 E-700", .feedLine "G92 E0", .feedLine "T3", .dispatch (.fileChanged none),
    .feedLine "G1 E25", .feedLine "T0"]

theorem printedOn_undisturbing : ∀ c ∈ printedOn, c.Undisturbing := by
  intro c hc
  simp only [printedOn, List.mem_cons, List.not_mem_nil, or_false] at hc
  rcases hc with rfl | rfl | rfl | rfl | rfl | rfl
  case inr.inr.inr.inl => exact ⟨rfl, nofun⟩
  all_goals exact trivial

theorem pause_asked_again_printed_on :
    let a := pausingPrinter.startPrint.after rollChanged
    let b := (a.feedLine "G1 E1").2.after printedOn
    (a.feedLine "G1 E1").1 = .pause 0 ∧ (∀ c ∈ printedOn, c.Undisturbing) ∧
      (b.feedLine "M82").1 = .pause 0 := by
  have hpause : ((pausingPrinter.startPrint.after rollChanged).feedLine "G1 E1").1 = .pause 0 := by
    decide +kernel
  refine ⟨hpause, printedOn_undisturbing,
    (pause_asked_again _ hpause printedOn_undisturbing "M82").mpr ?_⟩
  decide +kernel

end Accounting
end Filament
