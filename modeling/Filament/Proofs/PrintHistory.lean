import Mathlib.Data.List.TakeWhile
import Filament.Print
import Filament.Proofs.Odometer

/-!
A print by its calls.

Starts, lines, new thresholds and finishes come in any order. What a print holds follows from the
latest start: the lines counted are those from there up to the first finish, and the thresholds are
those set last, running or not. `SinceStart` says so of the state and every call keeps it; what the
next line and the next finish answer is read off it in `print_follows_latest_start`.
-/

namespace Filament
namespace Print

variable {α : Type}

/-- What a host asks of a print. -/
inductive Call (α : Type) where
  | start (settings : Settings α) (selections : List (Selection α))
  | feedLine (line : String)
  | updateThresholds (settings : Settings α) (selections : List (Selection α))
  | finish (registry : Registry α)

namespace Call

def isStart : Call α → Bool
  | .start _ _ => true
  | _ => false

def isFinish : Call α → Bool
  | .finish _ => true
  | _ => false

def line? : Call α → Option String
  | .feedLine line => some line
  | _ => Option.none

def thresholds? [Scalar α] : Call α → Option (Thresholds α)
  | .start settings selections => some (Thresholds.compute selections settings.pauseThreshold)
  | .updateThresholds settings selections =>
    some (Thresholds.compute selections settings.pauseThreshold)
  | _ => Option.none

end Call

/-- The lines up to the first finish. -/
def printedLines (calls : List (Call α)) : List String :=
  (calls.takeWhile fun c => !c.isFinish).filterMap Call.line?

def Ended (calls : List (Call α)) : Prop := ∃ c ∈ calls, c.isFinish = true

theorem ended_snoc {calls : List (Call α)} {c : Call α} :
    Ended (calls ++ [c]) ↔ Ended calls ∨ c.isFinish = true := by
  simp [Ended, or_and_right, exists_or]

theorem ended_snoc_of_isFinish_eq_false {calls : List (Call α)} {c : Call α}
    (h : c.isFinish = false) : Ended (calls ++ [c]) ↔ Ended calls := by
  rw [ended_snoc, h]
  exact or_iff_left Bool.false_ne_true

theorem printedLines_snoc_of_ended {calls : List (Call α)} (h : Ended calls) (c : Call α) :
    printedLines (calls ++ [c]) = printedLines calls := by
  have htaken : (calls ++ [c]).takeWhile (fun c => !c.isFinish) =
      calls.takeWhile fun c => !c.isFinish := by
    induction calls with
    | nil =>
      obtain ⟨first, hfirst, -⟩ := h
      cases hfirst
    | cons first rest ih =>
      cases hfirst : first.isFinish with
      | true => simp [hfirst]
      | false =>
        have hrest : Ended rest := by simpa [Ended, hfirst] using h
        simp [hfirst, ih hrest]
  unfold printedLines
  rw [htaken]

theorem printedLines_snoc_of_not_ended {calls : List (Call α)} (h : ¬Ended calls) (c : Call α) :
    printedLines (calls ++ [c]) = printedLines calls ++ c.line?.toList := by
  have hall : ∀ c ∈ calls, (!c.isFinish) = true := by simpa [Ended] using h
  have htaken : calls.takeWhile (fun c => !c.isFinish) = calls :=
    List.takeWhile_eq_self_iff.mpr hall
  unfold printedLines
  rw [List.takeWhile_append_of_pos hall, List.filterMap_append, htaken]
  cases c <;> rfl

/-- The lines that count for a print: those up to its first finish, none if lines are not
counted. -/
def countedLines (settings : Settings α) (later : List (Call α)) : List String :=
  if settings.enableOdometer then printedLines later else []

theorem countedLines_snoc_of_line?_eq_none {c : Call α} {settings : Settings α}
    {later : List (Call α)} (h : c.line? = Option.none) :
    countedLines settings (later ++ [c]) = countedLines settings later := by
  have hprinted : printedLines (later ++ [c]) = printedLines later := by
    by_cases hended : Ended later
    · exact printedLines_snoc_of_ended hended c
    · rw [printedLines_snoc_of_not_ended hended, h]
      exact List.append_nil _
  unfold countedLines
  rw [hprinted]

variable [Scalar α]

def call (p : Print α) : Call α → Print α
  | .start settings selections => .start settings selections
  | .feedLine line => (p.feedLine line).2
  | .updateThresholds settings selections => p.updateThresholds settings selections
  | .finish registry => (p.finish registry).2

def after (p : Print α) (calls : List (Call α)) : Print α := calls.foldl call p

theorem after_snoc (p : Print α) (calls : List (Call α)) (c : Call α) :
    p.after (calls ++ [c]) = (p.after calls).call c := by
  unfold after
  rw [List.foldl_append]
  rfl

/-- A start forgets what was before it. -/
theorem after_start (p : Print α) (before later : List (Call α)) (settings : Settings α)
    (selections : List (Selection α)) :
    p.after (before ++ .start settings selections :: later) =
      (start settings selections).after later := by
  unfold after
  rw [List.foldl_append]
  rfl

/-! ## One call -/

theorem feedLine_fst (p : Print α) (line : String) :
    (p.feedLine line).1 =
      if (p.printing && p.counting) = true ∧
          (p.pausing && p.thresholds.shouldPause (p.odometer.feedLine line)) = true then
        .pause (p.odometer.feedLine line).tool
      else .proceed := by
  unfold feedLine
  by_cases hcounted : (p.printing && p.counting) = true
  · by_cases hpause : (p.pausing && p.thresholds.shouldPause (p.odometer.feedLine line)) = true
    · simp [hcounted, hpause]
    · simp [hcounted, hpause]
  · simp [hcounted]

theorem feedLine_snd (p : Print α) (line : String) :
    (p.feedLine line).2 =
      if (p.printing && p.counting) = true then { p with odometer := p.odometer.feedLine line }
      else p := by
  unfold feedLine
  by_cases hcounted : (p.printing && p.counting) = true
  · rw [if_pos hcounted, if_pos hcounted]
    dsimp only
    split <;> rfl
  · rw [if_neg hcounted, if_neg hcounted]

theorem feedLine_snd_of_counted {p : Print α} (hprinting : p.printing = true)
    (hcounting : p.counting = true) (line : String) :
    (p.feedLine line).2 = { p with odometer := p.odometer.feedLine line } := by
  rw [feedLine_snd, if_pos]
  rw [hprinting, hcounting]
  rfl

theorem finish_fst (p : Print α) (registry : Registry α) :
    (p.finish registry).1 =
      if (p.printing && p.counting) = true then
        Usage.bookAll? registry.slots p.odometer.extrusion
      else some [] := by
  unfold finish
  cases p.printing with
  | false => rfl
  | true => cases p.counting <;> rfl

theorem finish_snd (p : Print α) (registry : Registry α) :
    (p.finish registry).2 = { p with printing := false } := by
  unfold finish
  obtain ⟨odometer, thresholds, counting, pausing, printing⟩ := p
  cases printing with
  | false => rfl
  | true => cases counting <;> rfl

/-! ## Calls since a start -/

/-- The print as its start and the calls since made it. -/
structure SinceStart (settings : Settings α) (later : List (Call α)) (p : Print α) : Prop where
  odometer : p.odometer =
    (Odometer.start settings.g90InfluencesExtruder).feedLines (countedLines settings later)
  counting : p.counting = settings.enableOdometer
  pausing : p.pausing = settings.autoPause
  printing : p.printing = true ↔ ¬Ended later

variable {settings : Settings α} {later : List (Call α)} {p : Print α}

theorem sinceStart_start (selections : List (Selection α)) :
    SinceStart settings [] (start settings selections) where
  odometer := by
    have hcounted : countedLines settings ([] : List (Call α)) = [] := ite_self _
    rw [hcounted]
    rfl
  counting := rfl
  pausing := rfl
  printing := by simp [Ended, start]

theorem sinceStart_feedLine (h : SinceStart settings later p) (line : String) :
    SinceStart settings (later ++ [.feedLine line]) (p.feedLine line).2 := by
  have hended : Ended (later ++ [Call.feedLine line]) ↔ Ended later :=
    ended_snoc_of_isFinish_eq_false rfl
  rw [feedLine_snd]
  by_cases hcounted : (p.printing && p.counting) = true
  · rw [if_pos hcounted]
    rw [Bool.and_eq_true, h.printing, h.counting] at hcounted
    obtain ⟨hrunning, hon⟩ := hcounted
    refine ⟨?_, h.counting, h.pausing, h.printing.trans (not_congr hended).symm⟩
    show p.odometer.feedLine line = _
    rw [h.odometer, ← Odometer.feedLines_snoc, countedLines, countedLines, if_pos hon, if_pos hon,
      printedLines_snoc_of_not_ended hrunning]
    rfl
  · rw [if_neg hcounted]
    rw [Bool.and_eq_true, h.printing, h.counting] at hcounted
    refine ⟨?_, h.counting, h.pausing, h.printing.trans (not_congr hended).symm⟩
    rw [h.odometer, countedLines, countedLines]
    by_cases hon : settings.enableOdometer = true
    · have hdone : Ended later := by
        by_contra hrunning
        exact hcounted ⟨hrunning, hon⟩
      rw [if_pos hon, if_pos hon, printedLines_snoc_of_ended hdone]
    · rw [if_neg hon, if_neg hon]

theorem sinceStart_call (h : SinceStart settings later p) {c : Call α} (hc : c.isStart = false) :
    SinceStart settings (later ++ [c]) (p.call c) := by
  cases c with
  | start settings' selections => cases hc
  | feedLine line => exact sinceStart_feedLine h line
  | updateThresholds settings' selections =>
    refine ⟨?_, h.counting, h.pausing, ?_⟩
    · rw [countedLines_snoc_of_line?_eq_none rfl]
      exact h.odometer
    · rw [ended_snoc_of_isFinish_eq_false rfl]
      exact h.printing
  | finish registry =>
    show SinceStart settings (later ++ [.finish registry]) (p.finish registry).2
    rw [finish_snd]
    refine ⟨?_, h.counting, h.pausing, ?_⟩
    · rw [countedLines_snoc_of_line?_eq_none rfl]
      exact h.odometer
    · rw [ended_snoc]
      simp [Call.isFinish]

theorem sinceStart_after (selections : List (Selection α))
    (hlater : ∀ c ∈ later, c.isStart = false) :
    SinceStart settings later ((start settings selections).after later) := by
  induction later using List.reverseRecOn with
  | nil => exact sinceStart_start selections
  | append_singleton later c ih =>
    rw [List.forall_mem_append] at hlater
    rw [after_snoc]
    exact sinceStart_call (ih hlater.1) (hlater.2 c List.mem_cons_self)

/-! ## Thresholds -/

theorem call_thresholds (p : Print α) (c : Call α) :
    (p.call c).thresholds = c.thresholds?.getD p.thresholds := by
  cases c with
  | start settings selections => rfl
  | feedLine line =>
    show (p.feedLine line).2.thresholds = p.thresholds
    rw [feedLine_snd]
    split <;> rfl
  | updateThresholds settings selections => rfl
  | finish registry =>
    show (p.finish registry).2.thresholds = p.thresholds
    rw [finish_snd]

theorem thresholds_after (p : Print α) (calls : List (Call α)) :
    (p.after calls).thresholds = (calls.filterMap Call.thresholds?).getLast?.getD p.thresholds := by
  induction calls using List.reverseRecOn with
  | nil => rfl
  | append_singleton calls c ih =>
    rw [after_snoc, call_thresholds, ih, List.filterMap_append, List.getLast?_append]
    cases h : c.thresholds? <;> simp [h]

/-- Once a print was started, its thresholds are those set last. -/
theorem getLast?_thresholds (p : Print α) {calls : List (Call α)}
    (h : ∃ c ∈ calls, c.isStart = true) :
    (calls.filterMap Call.thresholds?).getLast? = some (p.after calls).thresholds := by
  cases hlast : (calls.filterMap Call.thresholds?).getLast? with
  | none =>
    obtain ⟨c, hmem, hc⟩ := h
    have hnone := List.filterMap_eq_nil_iff.mp (List.getLast?_eq_none_iff.mp hlast) c hmem
    cases c with
    | start settings selections => cases hnone
    | _ => cases hc
  | some thresholds =>
    have hafter := thresholds_after p calls
    rw [hlast] at hafter
    exact congrArg some hafter.symm

/-! ## Answers -/

theorem pause_iff (p : Print α) (line : String) (tool : Nat) :
    (p.feedLine line).1 = .pause tool ↔
      p.printing = true ∧ p.counting = true ∧ p.pausing = true ∧
        tool = (p.odometer.feedLine line).tool ∧
        ∃ threshold, p.thresholds.get? tool = some threshold ∧
          Scalar.le threshold ((p.odometer.feedLine line).extrusionFor tool) = true := by
  rw [feedLine_fst]
  constructor
  · intro h
    split at h
    · rename_i hpause
      simp only [Bool.and_eq_true] at hpause
      obtain ⟨⟨hprinting, hcounting⟩, hpausing, hreached⟩ := hpause
      obtain rfl := PrintAction.pause.inj h
      obtain ⟨threshold, hthreshold, hle⟩ := (Option.any_eq_true _ _).mp hreached
      exact ⟨hprinting, hcounting, hpausing, rfl, threshold, hthreshold, hle⟩
    · cases h
  · rintro ⟨hprinting, hcounting, hpausing, rfl, threshold, hthreshold, hle⟩
    have hreached : p.thresholds.shouldPause (p.odometer.feedLine line) = true :=
      (Option.any_eq_true _ _).mpr ⟨threshold, hthreshold, hle⟩
    rw [if_pos]
    simp [hprinting, hcounting, hpausing, hreached]

/-- Without a start nothing is followed. -/
theorem after_of_no_start {calls : List (Call α)} (h : ∀ c ∈ calls, c.isStart = false) :
    (none.after calls).printing = false ∧ (none.after calls).odometer = Odometer.start true := by
  induction calls using List.reverseRecOn with
  | nil => exact ⟨rfl, rfl⟩
  | append_singleton calls c ih =>
    rw [List.forall_mem_append] at h
    obtain ⟨hprinting, hodometer⟩ := ih h.1
    have hc : c.isStart = false := h.2 c List.mem_cons_self
    rw [after_snoc]
    cases c with
    | start settings selections => cases hc
    | feedLine line =>
      have hcall : (none.after calls).call (.feedLine line) = none.after calls := by
        show ((none.after calls).feedLine line).2 = _
        rw [feedLine_snd, hprinting]
        rfl
      rw [hcall]
      exact ⟨hprinting, hodometer⟩
    | updateThresholds settings selections => exact ⟨hprinting, hodometer⟩
    | finish registry =>
      show ((none.after calls).finish registry).2.printing = false ∧
        ((none.after calls).finish registry).2.odometer = Odometer.start true
      rw [finish_snd]
      exact ⟨rfl, hodometer⟩

/-- After any calls, all that a print holds and answers follows from the latest start. Its odometer
was fed the lines from there up to the first finish, or none if lines are not counted. A finish
books that if it is the first one since and lines are counted, and books nothing otherwise. A line
asks for a pause exactly if no finish came since, lines are counted, pauses are on, and the tool
that is active after the line has reached its threshold, as it was set last. Before any start
nothing is counted, paused or booked. -/
theorem print_follows_latest_start (calls : List (Call α)) :
    let p := none.after calls
    ((∀ c ∈ calls, c.isStart = false) →
      p.odometer = Odometer.start true ∧ (∀ line, (p.feedLine line).1 = .proceed) ∧
        ∀ registry, (p.finish registry).1 = some []) ∧
    ∀ before settings selections later,
      calls = before ++ .start settings selections :: later →
      (∀ c ∈ later, c.isStart = false) →
      p.odometer = (Odometer.start settings.g90InfluencesExtruder).feedLines
        (if settings.enableOdometer then printedLines later else []) ∧
      (∀ registry,
        (¬Ended later ∧ settings.enableOdometer = true →
          (p.finish registry).1 = Usage.bookAll? registry.slots p.odometer.extrusion) ∧
        (¬(¬Ended later ∧ settings.enableOdometer = true) → (p.finish registry).1 = some [])) ∧
      ∀ line tool, (p.feedLine line).1 = .pause tool ↔
        ¬Ended later ∧ settings.enableOdometer = true ∧ settings.autoPause = true ∧
          tool = (p.odometer.feedLine line).tool ∧
          ∃ thresholds, (calls.filterMap Call.thresholds?).getLast? = some thresholds ∧
            ∃ threshold, thresholds.get? tool = some threshold ∧
              Scalar.le threshold ((p.odometer.feedLine line).extrusionFor tool) = true := by
  intro p
  refine ⟨?_, ?_⟩
  · intro hnone
    obtain ⟨hprinting, hodometer⟩ := after_of_no_start hnone
    have hidle : ¬(p.printing && p.counting) = true := by
      rw [hprinting]
      exact Bool.false_ne_true
    refine ⟨hodometer, fun line => ?_, fun registry => ?_⟩
    · rw [feedLine_fst, if_neg fun h => hidle h.1]
    · rw [finish_fst, if_neg hidle]
  · intro before settings selections later hcalls hlater
    have hp : p = (start settings selections).after later := by
      rw [← after_start none before later settings selections, ← hcalls]
    have hsince : SinceStart settings later p := by
      rw [hp]
      exact sinceStart_after selections hlater
    have hcounted : (p.printing && p.counting) = true ↔
        ¬Ended later ∧ settings.enableOdometer = true := by
      rw [Bool.and_eq_true, hsince.printing, hsince.counting]
    refine ⟨hsince.odometer, fun registry => ⟨fun h => ?_, fun h => ?_⟩, fun line tool => ?_⟩
    · rw [finish_fst, if_pos (hcounted.mpr h)]
    · rw [finish_fst, if_neg (mt hcounted.mp h)]
    · have hstart : ∃ c ∈ calls, c.isStart = true := by
        refine ⟨.start settings selections, ?_, rfl⟩
        rw [hcalls]
        exact List.mem_append_right before List.mem_cons_self
      have hlatest : (calls.filterMap Call.thresholds?).getLast? = some p.thresholds :=
        getLast?_thresholds none hstart
      rw [pause_iff, hsince.printing, hsince.counting, hsince.pausing]
      simp [hlatest]

end Print
end Filament
