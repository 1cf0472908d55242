import Filament.Event
import Filament.Proofs.Check
import Filament.Proofs.Encoded
import Filament.Scenario.Basic

/-!
Recorded sessions and events are read as they were written.

The text of a scenario that passes its checks is parsed to the scenario, and the text of an event is
read as the event, in both layouts and for every kind of step and event
(`sessions_read_as_written`). The parts of a step or event are buffered before its tag is known,
which they always may be.
-/

namespace Filament

open Json

/-! ## Steps -/

def Step.Writable : Step Float → Prop
  | .toolCount count => count ≤ Text.maxWord
  | .select tool spool => tool ≤ Text.maxWord ∧ ∀ id ∈ spool, id ≤ Text.maxWord
  | .file _ | .print _ => True
  | .telemetry filament => ∀ t ∈ filament, t.Writable
  | .closeNotice id => id ≤ Text.maxWord
  | .confirm spools => ∀ spool ∈ spools, ∀ id ∈ spool, id ≤ Text.maxWord

/-- The name of a step says which fields it has, and these are read as they were written. -/
theorem Step.read_fields {s : Step Float} (h : s.Writable) :
    (∀ f ∈ s.fields, IsClean 2 f.2) ∧ ofParts? float? s.name (ofFields s.fields) = some s := by
  cases s with
  | toolCount count =>
    have hcount := encodes_ofNat h 2
    refine ⟨List.forall_mem_singleton.mpr hcount.toIsClean, ?_⟩
    simp only [ofParts?, name, fields]
    exact read_required "count" hcount toolCount
  | select tool spool =>
    have htool := encodes_ofNat h.1 2
    have hspool := encodes_ofOption rfl fun id hid => encodes_ofNat (h.2 id hid) 2
    refine ⟨List.forall_mem_cons.mpr
      ⟨htool.toIsClean, List.forall_mem_singleton.mpr hspool.toIsClean⟩, ?_⟩
    simp only [ofParts?, name, fields]
    exact read_required_nullable "tool" "spool" (by decide) htool hspool select
  | file name =>
    have hname := encodes_ofOption (o := name) rfl fun s _ => encodes_ofString s 2
    refine ⟨List.forall_mem_singleton.mpr hname.toIsClean, ?_⟩
    simp only [ofParts?, Step.name, fields]
    exact read_nullable "name" hname file
  | telemetry filament =>
    have hfilament := encodes_ofList fun t ht => Telemetry.encodes (h t ht)
    refine ⟨List.forall_mem_singleton.mpr hfilament.toIsClean, ?_⟩
    simp only [ofParts?, name, fields]
    exact read_required "filament" hfilament telemetry
  | closeNotice id =>
    have hid := encodes_ofNat h 2
    refine ⟨List.forall_mem_singleton.mpr hid.toIsClean, ?_⟩
    simp only [ofParts?, name, fields]
    exact read_required "id" hid closeNotice
  | confirm spools =>
    have hspools := encodes_ofList fun spool hspool =>
      encodes_ofOption rfl fun id hid => encodes_ofNat (h spool hspool id hid) 1
    refine ⟨List.forall_mem_singleton.mpr hspools.toIsClean, ?_⟩
    simp only [ofParts?, name, fields]
    exact read_required "spools" hspools confirm
  | print program =>
    have hprogram := encodes_ofString program 2
    refine ⟨List.forall_mem_singleton.mpr hprogram.toIsClean, ?_⟩
    simp only [ofParts?, name, fields]
    exact read_required "gcode" hprogram print

theorem Step.encodes {s : Step Float} (h : s.Writable) :
    Encodes (Step.ofJson? float? 2) 3 s.toJson s := by
  obtain ⟨hclean, hparts⟩ := Step.read_fields h
  apply encodes_tagged hclean (by decide) _ hparts
  cases s <;> simp [fields]

/-! ## Events -/

def Event.Writable : Event Float → Prop
  | .toolCountChanged count => count ≤ Text.maxWord
  | .selectionChanged tool spool => tool ≤ Text.maxWord ∧ ∀ s ∈ spool, s.Writable
  | .backendSelections selections => ∀ s ∈ selections, s.Writable
  | .telemetryChanged filament => ∀ t ∈ filament, t.Writable
  | .fileChanged _ => True
  | .noticeClosed id => id ≤ Text.maxWord
  | .settingsChanged settings => settings.Writable

/-- The name of an event says which fields it has, and these are read as they were written. -/
theorem Event.read_fields {e : Event Float} (h : e.Writable) :
    (∀ f ∈ e.fields, IsClean 4 f.2) ∧ ofParts? float? e.name (ofFields e.fields) = some e := by
  cases e with
  | toolCountChanged count =>
    have hcount := encodes_ofNat h 4
    refine ⟨List.forall_mem_singleton.mpr hcount.toIsClean, ?_⟩
    simp only [ofParts?, name, fields]
    exact read_required "count" hcount toolCountChanged
  | selectionChanged tool spool =>
    have htool := encodes_ofNat h.1 4
    have hspool := (encodes_spool h.2).mono (by decide : 2 ≤ 4)
    refine ⟨List.forall_mem_cons.mpr
      ⟨htool.toIsClean, List.forall_mem_singleton.mpr hspool.toIsClean⟩, ?_⟩
    simp only [ofParts?, name, fields]
    exact read_required_nullable "tool" "spool" (by decide) htool hspool selectionChanged
  | backendSelections selections =>
    have hselections := encodes_ofList fun s hs => Selection.encodes (h s hs)
    refine ⟨List.forall_mem_singleton.mpr hselections.toIsClean, ?_⟩
    simp only [ofParts?, name, fields]
    exact read_required "selections" hselections backendSelections
  | telemetryChanged filament =>
    have hfilament :=
      (encodes_ofList fun t ht => Telemetry.encodes (h t ht)).mono (by decide : 2 ≤ 4)
    refine ⟨List.forall_mem_singleton.mpr hfilament.toIsClean, ?_⟩
    simp only [ofParts?, name, fields]
    exact read_required "filament" hfilament telemetryChanged
  | fileChanged file =>
    have hfile := encodes_ofOption (o := file) rfl fun s _ => encodes_ofString s 4
    refine ⟨List.forall_mem_singleton.mpr hfile.toIsClean, ?_⟩
    simp only [ofParts?, name, fields]
    exact read_nullable "filename" hfile fileChanged
  | noticeClosed id =>
    have hid := encodes_ofNat h 4
    refine ⟨List.forall_mem_singleton.mpr hid.toIsClean, ?_⟩
    simp only [ofParts?, name, fields]
    exact read_required "id" hid noticeClosed
  | settingsChanged settings =>
    have hsettings := (Settings.encodes h).mono (by decide : 1 ≤ 4)
    refine ⟨List.forall_mem_singleton.mpr hsettings.toIsClean, ?_⟩
    simp only [ofParts?, name, fields]
    exact read_required "settings" hsettings settingsChanged

theorem Event.encodes {e : Event Float} (h : e.Writable) :
    Encodes (Event.ofJson? float?) 5 e.toJson e := by
  obtain ⟨hclean, hparts⟩ := Event.read_fields h
  apply encodes_tagged hclean (by decide) _ hparts
  cases e <;> simp [fields]

/-! ## Scenarios -/

namespace Scenario

structure Writable (s : Scenario Float) : Prop where
  settings : s.settings.Writable
  profiles : ∀ p ∈ s.profiles, p.Writable
  spools : ∀ spool ∈ s.spools, spool.Writable
  steps : ∀ step ∈ s.steps, step.Writable

theorem encodes {s : Scenario Float} (h : s.Writable) :
    Encodes (Scenario.ofJson? float?) 5 s.toJson s := by
  have hsettings := (Settings.encodes h.settings).mono (by decide : 1 ≤ 4)
  have hprofiles := (encodes_ofList fun p hp => Profile.encodes (h.profiles p hp)).mono
    (by decide : 2 ≤ 4)
  have hspools :=
    (encodes_ofList fun s hs => Spool.encodes (h.spools s hs)).mono (by decide : 3 ≤ 4)
  have hsteps := encodes_ofList fun s hs => Step.encodes (h.steps s hs)
  apply encodes_ofFields
  · simp only [List.forall_mem_cons]
    exact ⟨hsettings.toIsClean, hprofiles.toIsClean, hspools.toIsClean, hsteps.toIsClean,
      fun f hf => absurd hf List.not_mem_nil⟩
  · exact Fields.ofJsonExact?_ofFields (List.Sublist.refl _) (by decide)
  · rw [Fields.withDefault_eq _ rfl hsettings, Fields.withDefault_eq _ rfl hprofiles,
      Fields.withDefault_eq _ rfl hspools, Fields.required_eq rfl hsteps]
    rfl

theorem parse_of_parse? {s : Scenario Float} {text : String} (h : s.Writable)
    (hcheck : s.check = .ok ())
    (htext : parse? text = some s.toJson) : Scenario.parse text = .ok s := by
  unfold Scenario.parse
  rw [htext, Option.bind_some, (encodes h).read_eq]
  dsimp only
  rw [hcheck]
  rfl

end Scenario

/-- A scenario that passes its checks and an event of any kind are read from their texts as they
were written, if each of their doubles is. -/
theorem sessions_read_as_written :
    (∀ s : Scenario Float, s.Writable → s.check = .ok () →
      Scenario.parse s.toJson.compact = .ok s ∧ Scenario.parse s.toJson.indented = .ok s) ∧
    ∀ e : Event Float, e.Writable →
      (parse? e.toJson.compact).bind (Event.ofJson? float?) = some e ∧
      (parse? e.toJson.indented).bind (Event.ofJson? float?) = some e := by
  constructor
  · intro s h hcheck
    have hlegible := (Scenario.encodes h).legible
    exact ⟨Scenario.parse_of_parse? h hcheck (parse?_compact hlegible),
      Scenario.parse_of_parse? h hcheck (parse?_indented hlegible)⟩
  · intro e h
    have hencodes := Event.encodes h
    rw [parse?_compact hencodes.legible, parse?_indented hencodes.legible]
    exact ⟨hencodes.read_eq, hencodes.read_eq⟩

/-- A session with every kind of step, and with texts that have to be escaped. -/
def everyStep : Scenario Float where
  settings := { Settings.standard with currencySymbol := "\x07€" }
  profiles := [petg]
  spools := [scrap]
  steps := [.toolCount 2, .select 0 (some 0), .select 1 none, .file (some "a/b.gcode"), .file none,
    .telemetry [{ label := "tool0", length := 123456789.5 }], .closeNotice Text.maxWord,
    .confirm [some 0, none], .print "M83\nG1 E1"]

theorem everyStep_writable : everyStep.Writable where
  settings := by
    show ReadsBack (Settings.standard : Settings Float).pauseThreshold
    decide +kernel
  profiles := List.forall_mem_singleton.mpr petg_writable
  spools := List.forall_mem_singleton.mpr scrap_writable
  steps := by
    have htelemetry : ∀ t ∈ [{ label := "tool0", length := (123456789.5 : Float) }],
        Telemetry.Writable t := by
      rw [List.forall_mem_singleton]
      show ReadsBack 123456789.5
      decide +kernel
    have hone : ∀ id ∈ some 0, id ≤ Text.maxWord := by decide
    have hnone : ∀ id ∈ (none : Option Nat), id ≤ Text.maxWord := nofun
    have hanswers : ∀ spool ∈ [some 0, none], ∀ id ∈ spool, id ≤ Text.maxWord :=
      List.forall_mem_cons.mpr ⟨hone, List.forall_mem_singleton.mpr hnone⟩
    simp only [everyStep, List.forall_mem_cons]
    exact ⟨(by decide : 2 ≤ Text.maxWord), ⟨Nat.zero_le _, hone⟩,
      ⟨(by decide : 1 ≤ Text.maxWord), hnone⟩,
      trivial, trivial, htelemetry, Nat.le_refl _, hanswers, trivial, fun s hs =>
        absurd hs List.not_mem_nil⟩

theorem everyStep_check : everyStep.check = .ok () :=
  eq_ok_of_toBool (by decide +kernel)

/-- A session with every kind of step, and a spool put on a tool. -/
theorem sessions_read_as_written_every_step :
    everyStep.Writable ∧ everyStep.check = .ok () ∧
      Scenario.parse everyStep.toJson.compact = .ok everyStep ∧
      Scenario.parse everyStep.toJson.indented = .ok everyStep ∧
      (Event.selectionChanged 1 (some scrap)).Writable ∧
      (parse? (Event.selectionChanged 1 (some scrap)).toJson.compact).bind (Event.ofJson? float?) =
        some (.selectionChanged 1 (some scrap)) := by
  have hevent : (Event.selectionChanged 1 (some scrap)).Writable := by
    refine ⟨by decide, fun s hs => ?_⟩
    cases hs
    exact scrap_writable
  obtain ⟨hcompact, hindented⟩ :=
    sessions_read_as_written.1 everyStep everyStep_writable everyStep_check
  exact ⟨everyStep_writable, everyStep_check, hcompact, hindented, hevent,
    (sessions_read_as_written.2 _ hevent).1⟩

end Filament
