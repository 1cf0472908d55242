import Filament.Replay

/-!
What a confirmation confirms.

A user is asked for the spool of every tool that the job names, in the order of the reports, and the
answers are taken by their places (`getElem?_answered`). The selection is confirmed exactly if at
every place the printer has the tool and the answer is the spool selected for it
(`confirmed_iff_every_answer`).
-/

namespace Filament

variable {α : Type}

namespace Confirmation

theorem matchesSelection_iff {r : Registry α} {c : Confirmation} :
    matchesSelection r c = true ↔
      c.tool < r.toolCount ∧ c.spool = r.slots[c.tool]?.join.bind Spool.id := by
  unfold matchesSelection Registry.get Registry.toolCount
  cases hslot : r.slots[c.tool]? with
  | none =>
    have hbeyond : r.slots.length ≤ c.tool := List.getElem?_eq_none_iff.mp hslot
    exact iff_of_false Bool.false_ne_true fun h => Nat.not_lt.mpr hbeyond h.1
  | some spool =>
    have hlt : c.tool < r.slots.length := (List.getElem?_eq_some_iff.mp hslot).1
    show (spool.bind Spool.id == c.spool) = true ↔ _
    rw [beq_iff_eq, eq_comm]
    exact (and_iff_right hlt).symm

/-- The confirmations for a job when the answers have been filled in. -/
def answered (j : Job α) (answers : List (Option Nat)) : List Confirmation :=
  ((slots j).zip answers).map (fun e => { e.1 with spool := e.2 }) ++ (slots j).drop answers.length

/-- The answer at the place of a tool counts, and beyond the last answer a tool stays open. -/
theorem getElem?_answered (j : Job α) (answers : List (Option Nat)) (i : Nat) :
    (answered j answers)[i]? = j.tools[i]?.map fun tool => { tool, spool := answers[i]?.join } := by
  unfold answered slots
  generalize j.tools = tools
  induction tools generalizing answers i with
  | nil => simp
  | cons tool rest ih =>
    cases answers with
    | nil =>
      rw [List.zip_nil_right, List.map_nil, List.nil_append, List.length_nil, List.drop_zero,
        List.getElem?_map]
      rfl
    | cons answer more =>
      cases i with
      | zero => simp
      | succ i => simpa using ih more i

/-- Answers beyond the tools of the job are passed over. -/
theorem answered_take (j : Job α) (answers : List (Option Nat)) :
    answered j (answers.take j.tools.length) = answered j answers := by
  refine List.ext_getElem? fun i => ?_
  rw [getElem?_answered, getElem?_answered]
  by_cases hi : i < j.tools.length
  · rw [List.getElem?_take_of_lt hi]
  · rw [List.getElem?_eq_none (Nat.not_lt.mp hi)]
    rfl

theorem allMatch_answered_iff {r : Registry α} {j : Job α} {answers : List (Option Nat)} :
    allMatch r (answered j answers) = true ↔
      ∀ (i tool : Nat), j.tools[i]? = some tool →
        tool < r.toolCount ∧ answers[i]?.join = r.slots[tool]?.join.bind Spool.id := by
  unfold allMatch
  rw [List.all_eq_true]
  constructor
  · intro h i tool htool
    have hplace : (answered j answers)[i]? = some { tool, spool := answers[i]?.join } := by
      rw [getElem?_answered, htool]
      rfl
    exact matchesSelection_iff.mp (h _ (List.mem_of_getElem? hplace))
  · intro h c hc
    obtain ⟨i, hi⟩ := List.mem_iff_getElem?.mp hc
    rw [getElem?_answered] at hi
    obtain ⟨tool, htool, rfl⟩ := Option.map_eq_some_iff.mp hi
    exact matchesSelection_iff.mpr (h i tool htool)

end Confirmation

namespace Replay

theorem confirmationResult_eq (s : State Float) (answers : List (Option Nat)) :
    confirmationResult s answers =
      if Confirmation.isRequired s.accounting.settings then
        if Confirmation.allMatch s.accounting.registry
            (Confirmation.answered s.accounting.job answers) then .confirmed
        else .mismatch
      else .notRequired := rfl

theorem confirmationResult_take (s : State Float) (answers : List (Option Nat)) :
    confirmationResult s (answers.take s.accounting.job.tools.length) =
      confirmationResult s answers := by
  rw [confirmationResult_eq, confirmationResult_eq, Confirmation.answered_take]

/-- The report on a confirmation. -/
def confirmReport (s : State Float) (number : Nat) (answers : List (Option Nat)) :
    Report Float where
  step := number
  name := (Step.confirm answers : Step Float).name
  consumption := []
  notice := none
  dismissed := none
  details := [.confirmation (confirmationResult s answers)]

theorem run_confirm (s : State Float) (number : Nat) (answers : List (Option Nat)) :
    (runStep number (.confirm answers)).run s = (.ok (confirmReport s number answers), s) := rfl

/-- The report says that the selection is confirmed. -/
def Confirms (r : Report Float) : Prop :=
  r.details.map Detail.text = ["spool selection confirmed"]

theorem confirms_iff {s : State Float} {answers : List (Option Nat)} (number : Nat) :
    Confirms (confirmReport s number answers) ↔ confirmationResult s answers = .confirmed := by
  show [(confirmationResult s answers).text] = ["spool selection confirmed"] ↔ _
  cases confirmationResult s answers <;> decide

/-- If confirmation is asked for, the step confirms the selection exactly if at every place of the
tools that the job names the printer has the tool, and the answer is the id of the spool that is
selected for it. So a selected spool with an id is confirmed by nothing but that id, at each place
of its tool, and answers beyond the tools have no effect. -/
theorem confirmed_iff_every_answer (s : State Float) (number : Nat) (answers : List (Option Nat))
    (hrequired : s.accounting.settings.confirmSpoolSelection = true) :
    let tools := s.accounting.job.filament.filterMap Telemetry.tool?
    let slots := s.accounting.registry.slots
    ∃ report, (runStep number (.confirm answers)).run s = (.ok report, s) ∧
      (Confirms report ↔ ∀ (i tool : Nat), tools[i]? = some tool →
        tool < slots.length ∧ answers[i]?.join = slots[tool]?.join.bind Spool.id) ∧
      (¬Confirms report → report.details.map Detail.text = ["spool selection does not match"]) ∧
      (Confirms report → ∀ (i tool id : Nat) (spool : Spool Float), tools[i]? = some tool →
        slots[tool]? = some (some spool) → spool.id = some id → answers[i]? = some (some id)) ∧
      (runStep number (.confirm (answers.take tools.length))).run s = (.ok report, s) := by
  intro tools slots
  have hresult : confirmationResult s answers =
      if Confirmation.allMatch s.accounting.registry
        (Confirmation.answered s.accounting.job answers) then .confirmed else .mismatch := by
    rw [confirmationResult_eq, Confirmation.isRequired, if_pos hrequired]
  have hconfirms : Confirms (confirmReport s number answers) ↔
      ∀ (i tool : Nat), tools[i]? = some tool →
        tool < slots.length ∧ answers[i]?.join = slots[tool]?.join.bind Spool.id := by
    rw [confirms_iff, hresult]
    refine Iff.trans ?_ Confirmation.allMatch_answered_iff
    split
    · rename_i hall
      exact iff_of_true rfl hall
    · rename_i hall
      exact iff_of_false nofun hall
  refine ⟨confirmReport s number answers, run_confirm s number answers, hconfirms, ?_, ?_, ?_⟩
  · intro hnot
    rw [confirms_iff, hresult] at hnot
    show [(confirmationResult s answers).text] = _
    rw [hresult, if_neg fun hall => hnot (if_pos hall)]
    rfl
  · intro h i tool id spool htool hslot hid
    obtain ⟨-, hanswer⟩ := hconfirms.mp h i tool htool
    rw [hslot, Option.join_some, Option.bind_some, hid] at hanswer
    exact Option.join_eq_some_iff.mp hanswer
  · have hreport : confirmReport s number (answers.take tools.length) =
        confirmReport s number answers := by
      unfold confirmReport
      rw [show confirmationResult s (answers.take tools.length) = confirmationResult s answers from
        confirmationResult_take s answers]
      rfl
    rw [run_confirm, hreport]

/-- A printer with a spool on tool 1 only. The job names that tool twice, a tool by no number, and
one by a number that no tool has. -/
def awaitingAnswers : State Float where
  accounting :=
    { Accounting.start NoticeLog.empty
        { (Settings.standard : Settings Float) with confirmSpoolSelection := true } with
      registry := {
        slots := [none, some { (Spool.standard : Spool Float) with id := some 4 }]
        revision := 0 }
      job := {
        file := some "gear.gcode"
        filament := [{ label := "tool1", length := 5 },
          { label := "T99999999999999999999", length := 5 },
          { label := "extruder", length := 5 }, { label := "Tool 1", length := 5 }] } }
  backend := Store.empty

theorem confirmed_iff_every_answer_awaiting :
    let answers := [some 4, none, some 4, some 9]
    awaitingAnswers.accounting.settings.confirmSpoolSelection = true ∧
      ∃ report, (runStep 1 (.confirm answers)).run awaitingAnswers = (.ok report, awaitingAnswers) ∧
        Confirms report := by
  intro answers
  obtain ⟨report, hrun, hconfirms, -⟩ := confirmed_iff_every_answer awaitingAnswers 1 answers rfl
  have htools : awaitingAnswers.accounting.job.filament.filterMap Telemetry.tool? = [1, 0, 1] := by
    decide +kernel
  refine ⟨rfl, report, hrun, hconfirms.mpr ?_⟩
  rw [htools]
  intro i tool htool
  match i with
  | 0 | 1 | 2 =>
    obtain rfl := Option.some.inj htool
    exact ⟨by decide, rfl⟩

end Replay
end Filament
