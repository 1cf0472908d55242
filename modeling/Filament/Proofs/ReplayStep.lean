import Filament.Proofs.Agreement
import Filament.Proofs.BookedMass
import Filament.Proofs.Refusal

/-!
One step of a replay.

A step of a settled session either succeeds, and the session is settled again and has shown the
notice on its report, or it is refused for a cause that `Replay.Refused` lists
(`Replay.perform_cases`). A print is refused only over a mass that is no number. No step changes
what the spools are made of.
-/

namespace Filament

namespace Replay

variable {γ : Type}

theorem run_fallible (x : Action (State Float) (Error Float) γ) (s : State Float) :
    Action.run (fallible x) s = ((x.run s).1.mapError StepError.error, (x.run s).2) := rfl

theorem run_onBackend (x : Action (Store Float) (Error Float) γ) (s : State Float) :
    (Session.onBackend x : Action (State Float) (Error Float) γ).run s =
      ((x.run s.backend).1, { s with backend := (x.run s.backend).2 }) := rfl

theorem run_feedLines (lines : List String) (s : State Float) :
    ∃ actions, (lines.mapM feedLine : StateM (State Float) _) s =
      (actions, { s with accounting := s.accounting.after (lines.map .feedLine) }) := by
  induction lines generalizing s with
  | nil => exact ⟨[], rfl⟩
  | cons line rest ih =>
    obtain ⟨actions, hrest⟩ := ih { s with accounting := (s.accounting.feedLine line).2 }
    refine ⟨(s.accounting.feedLine line).1 :: actions, ?_⟩
    have hcons : ((line :: rest).mapM feedLine : StateM (State Float) _) s =
        ((s.accounting.feedLine line).1 ::
            ((rest.mapM feedLine : StateM (State Float) _)
              { s with accounting := (s.accounting.feedLine line).2 }).1,
          ((rest.mapM feedLine : StateM (State Float) _)
            { s with accounting := (s.accounting.feedLine line).2 }).2) := by
      rw [List.mapM_cons]
      rfl
    rw [hcons, hrest]
    rfl

theorem run_finishPrint (s : State Float) {usage : List (Usage Float)}
    (h : s.accounting.finishPrint.1 = some usage) :
    finishPrint.run s = (.ok usage, { s with accounting := s.accounting.finishPrint.2 }) := by
  unfold finishPrint
  rw [Action.run_ofFun]
  dsimp only
  rw [h]

section

variable {s : State Float} {program : String} {usage : List (Usage Float)}

/-- The session when a program has been printed, and its usage has been sent. -/
def sent (s : State Float) (program : String) (store : Store Float) : State Float where
  accounting := (s.accounting.printed program).finishPrint.2
  backend := store

theorem sent_frame (s : State Float) (program : String) (store : Store Float) :
    (sent s program store).accounting.registry = s.accounting.registry ∧
      (sent s program store).accounting.watch = s.accounting.watch :=
  s.accounting.printed_frame program

theorem run_feedProgram (s : State Float) (program : String) :
    ∃ actions, Action.run (liftM ((Text.lines program).mapM feedLine : StateM (State Float) _) :
      Action (State Float) (StepError Float) _) { s with accounting := s.accounting.startPrint } =
        (.ok actions, { s with accounting := s.accounting.printed program }) := by
  obtain ⟨actions, hfeed⟩ := run_feedLines (Text.lines program)
    { s with accounting := s.accounting.startPrint }
  refine ⟨actions, ?_⟩
  rw [Action.run_lift, hfeed]
  rfl

theorem run_runPrint (h : (s.accounting.printed program).finishPrint.1 = some usage) :
    ∃ details, (runPrint program).run s =
      (do
        let _ ← fallible (Session.onBackend (Usage.sendAll usage))
        let messages ← modifyGet fun s =>
          let (messages, backend) := s.backend.drain
          (messages, { s with backend })
        let outcome ← fallible (handleAll messages)
        return (outcome, details) : Action (State Float) (StepError Float) _).run
        (sent s program s.backend) := by
  obtain ⟨actions, hlines⟩ := run_feedProgram s program
  refine ⟨(firstPause? actions).toList ++ usage.map .booked, ?_⟩
  unfold runPrint
  rw [Action.run_bind, Action.run_modify]
  dsimp only
  rw [Action.run_bind, hlines]
  dsimp only
  rw [Action.run_bind, run_finishPrint { s with accounting := s.accounting.printed program } h]
  rfl

/-- A print whose usage cannot be booked ends there. -/
theorem run_runPrint_unbookable (h : (s.accounting.printed program).finishPrint.1 = none) :
    (runPrint program).run s = (.error .unbookable, sent s program s.backend) := by
  obtain ⟨actions, hlines⟩ := run_feedProgram s program
  have hfinish : finishPrint.run { s with accounting := s.accounting.printed program } =
      (.error .unbookable, sent s program s.backend) := by
    unfold finishPrint
    rw [Action.run_ofFun]
    dsimp only
    rw [h]
    rfl
  unfold runPrint
  rw [Action.run_bind, Action.run_modify]
  dsimp only
  rw [Action.run_bind, hlines]
  dsimp only
  rw [Action.run_bind, hfinish]

theorem run_sendAll_sent {answer : Except (Error Float) (List (Spool Float))} {store : Store Float}
    (hsend : (Usage.sendAll usage).run s.backend = (answer, store)) :
    Action.run (fallible (Session.onBackend (Usage.sendAll usage))) (sent s program s.backend) =
      (answer.mapError StepError.error, sent s program store) := by
  have hbackend : (sent s program s.backend).backend = s.backend := rfl
  rw [run_fallible, run_onBackend, hbackend, hsend]
  rfl

theorem run_runPrint_ok (h : (s.accounting.printed program).finishPrint.1 = some usage)
    {saved : List (Spool Float)} {store : Store Float} {outcome : Option (Outcome Float)}
    {t : State Float} (hsend : (Usage.sendAll usage).run s.backend = (.ok saved, store))
    (hfollow : (handleAll store.outbox).run (sent s program store.drain.2) = (.ok outcome, t)) :
    ∃ details, (runPrint program).run s = (.ok (outcome, details), t) := by
  obtain ⟨details, hrun⟩ := run_runPrint h
  refine ⟨details, ?_⟩
  rw [hrun, Action.run_bind, run_sendAll_sent hsend]
  dsimp only [Except.mapError]
  rw [Action.run_bind, Action.run_modifyGet]
  dsimp only
  rw [Action.run_bind, run_fallible]
  have hfollow' : (handleAll (sent s program store).backend.drain.1).run
      { sent s program store with backend := (sent s program store).backend.drain.2 } =
        (.ok outcome, t) := hfollow
  rw [hfollow']
  rfl

theorem run_runPrint_error (h : (s.accounting.printed program).finishPrint.1 = some usage)
    {e : Error Float} {store : Store Float}
    (hsend : (Usage.sendAll usage).run s.backend = (.error e, store)) :
    (runPrint program).run s = (.error (.error e), sent s program store) := by
  obtain ⟨details, hrun⟩ := run_runPrint h
  rw [hrun, Action.run_bind, run_sendAll_sent hsend]
  rfl

end

/-! ## One step -/

end Replay

/-- The tools that a printer has after a step, if it had `count` tools before. -/
def Step.countAfter {α : Type} (count : Nat) : Step α → Nat
  | .toolCount count => count
  | _ => count

/-- What is wrong with a step on a printer with `count` tools: more tools than a printer may have,
or a spool for a tool that it does not have. -/
def Step.offence? {α : Type} (count : Nat) : Step α → Option (Error α)
  | .toolCount tools => if maxToolCount < tools then some (.config (.tooManyTools tools)) else none
  | .select tool _ => if tool < count then none else some (.outOfRange tool count)
  | _ => none

namespace Replay

/-- A step succeeded: the session is settled again, has shown the notice that is reported, and still
stores what it stored. -/
structure Done (s : State Float) (step : Step Float) (outcome : Option (Outcome Float))
    (t : State Float) : Prop extends Reported s outcome t where
  allowed : step.offence? s.accounting.registry.toolCount = none
  toolCount : t.accounting.registry.toolCount =
    step.countAfter s.accounting.registry.toolCount
  stored : ∀ id, s.backend.spools.contains id = true → t.backend.spools.contains id = true
  wide : s.backend.Holds Profile.IsWide → t.backend.Holds Profile.IsWide

/-- All that a step can be refused for. -/
inductive Refused (s : State Float) : Step Float → StepError Float → Prop where
  | offence (step : Step Float) (e : Error Float)
      (h : step.offence? s.accounting.registry.toolCount = some e) : Refused s step (.error e)
  | unknownSpool (tool id : Nat) (hlt : tool < s.accounting.registry.toolCount)
      (h : s.backend.spools.contains id = false) :
      Refused s (.select tool (some id)) (.error (.backend (.noSpool id)))
  | noMass (program : String) (e : StepError Float)
      (h : ∃ mass ∈ (s.accounting.printed program).bookedMasses, mass.isNaN = true) :
      Refused s (.print program) e

/-- A step that only reports an event is done if the event is taken and leaves spools that agree. -/
theorem done_of_take {s : State Float} (hs : Settled s) (event : Event Float) (step : Step Float)
    {changed : Bool} {b : Accounting Float NoticeLog}
    (htake : (Accounting.take event).run s.accounting = (.ok changed, b))
    (hfits : Fits s.backend b.registry.slots)
    (hallowed : step.offence? s.accounting.registry.toolCount = none)
    (hcount : b.registry.toolCount = step.countAfter s.accounting.registry.toolCount) :
    ∃ outcome t, (perform.report (Session.dispatch event)).run s = (.ok (outcome, []), t) ∧
      Done s step outcome t := by
  obtain ⟨outcome, t, hrun, hreported, hbackend, hregistry⟩ :=
    run_dispatch_of_take hs.sound hs.quiet hs.counted htake hfits
  refine ⟨outcome, t, ?_, ⟨hreported, hallowed, ?_, ?_, ?_⟩⟩
  · unfold perform.report
    rw [Action.run_bind, run_fallible, hrun]
    rfl
  · rw [hregistry]
    exact hcount
  · rw [hbackend]
    exact fun id hid => hid
  · rw [hbackend]
    exact id

theorem fits_select {s : State Float} (hs : Settled s) (tool : Nat) (id : Option Nat) :
    Fits { s.backend with selections := s.backend.selections.insert tool id }
      (s.accounting.registry.slots.set tool (s.backend.resolve id)) := by
  intro other spool hslot
  by_cases hother : tool = other
  · subst hother
    have hlt : tool < s.accounting.registry.slots.length := by
      have hbound := (List.getElem?_eq_some_iff.mp hslot).1
      rwa [List.length_set] at hbound
    rw [List.getElem?_set_self hlt] at hslot
    have hspool : s.backend.resolve id = some spool := Option.some.inj hslot
    have hlisted : { tool, spool := s.backend.resolve id } ∈
        { s.backend with selections := s.backend.selections.insert tool id }.listed :=
      Store.mem_listed_iff.mpr ⟨id, Std.TreeMap.getElem?_insert_self, rfl⟩
    have hsound : Store.Sound { s.backend with
        selections := s.backend.selections.insert tool id } := hs.sound
    have hcheck := check_of_listed hsound hlisted hspool
    exact ⟨hcheck, agrees_of_listed hsound hlisted hspool (Spool.beq_self_of_check hcheck)⟩
  · rw [List.getElem?_set_ne hother] at hslot
    obtain ⟨hcheck, own, stored, hown, hselected, hstored, hsame⟩ := hs.fits other spool hslot
    refine ⟨hcheck, own, stored, hown, ?_, hstored, hsame⟩
    show (s.backend.selections.insert tool id)[other]? = some (some own)
    rw [Std.TreeMap.getElem?_insert, if_neg (Nat.compare_eq_eq.not.mpr hother)]
    exact hselected

/-- What asking for a spool on a tool comes to. -/
inductive Asked (s : State Float) (tool : Nat) (id : Option Nat) : Prop where
  | stored (hlt : tool < s.accounting.registry.toolCount)
      (hknown : ∀ i, id = some i → s.backend.spools.contains i = true)
      (hrun : (Session.select tool id : Action (State Float) _ _).run s =
        (Session.dispatch (.selectionChanged tool (s.backend.resolve id))).run
          { s with
            backend := { s.backend with selections := s.backend.selections.insert tool id } })
  | unknownSpool (i : Nat) (hlt : tool < s.accounting.registry.toolCount) (hid : id = some i)
      (hmissing : s.backend.spools.contains i = false)
      (hrun : (Session.select tool id : Action (State Float) _ _).run s =
        (.error (.backend (.noSpool i)), s))
  | unknownTool (hlt : ¬tool < s.accounting.registry.toolCount)
      (hrun : (Session.select tool id : Action (State Float) _ _).run s =
        (.error (.outOfRange tool s.accounting.registry.toolCount), s))

theorem run_select (s : State Float) (tool : Nat) (id : Option Nat) : Asked s tool id := by
  by_cases hlt : tool < s.accounting.registry.toolCount
  · have hselect := Session.run_select_of_lt hlt id
    rw [Action.run_bind, run_onBackend] at hselect
    by_cases hknown : ∀ i, id = some i → s.backend.spools.contains i = true
    · have hupdate : (Backend.updateSelection tool id : Action (Store Float) _ _).run s.backend =
          (.ok { tool, spool := s.backend.resolve id },
            { s.backend with selections := s.backend.selections.insert tool id }) :=
        Store.run_updateSelection hknown tool
      rw [hupdate] at hselect
      exact .stored hlt hknown hselect
    · obtain ⟨i, hi⟩ := not_forall.mp hknown
      obtain ⟨rfl, hmissing⟩ := Classical.not_imp.mp hi
      rw [Bool.not_eq_true] at hmissing
      have hupdate : (Backend.updateSelection tool (some i) : Action (Store Float) _ _).run
          s.backend = (.error (.backend (.noSpool i)), s.backend) :=
        Store.run_updateSelection_error hmissing tool
      rw [hupdate] at hselect
      exact .unknownSpool i hlt rfl hmissing hselect
  · exact .unknownTool hlt (Session.run_select_of_le (Nat.not_lt.mp hlt) id)

/-- A stored spool, or none, is taken over with the answer of the store. -/
theorem run_select_of_stored {s : State Float} {tool : Nat} {id : Option Nat}
    (hlt : tool < s.accounting.registry.toolCount)
    (hrun : (Session.select tool id : Action (State Float) _ _).run s =
      (Session.dispatch (.selectionChanged tool (s.backend.resolve id))).run
        { s with
          backend := { s.backend with selections := s.backend.selections.insert tool id } }) :
    ∃ outcome after, (Session.select tool id : Action (State Float) _ _).run s =
        (.ok outcome, {
          accounting := after
          backend := { s.backend with selections := s.backend.selections.insert tool id } }) ∧
      after.registry.slots = s.accounting.registry.slots.set tool (s.backend.resolve id) := by
  have htake := Accounting.run_take_selectionChanged_of_lt hlt (s.backend.resolve id)
  obtain ⟨outcome, after, hdispatch, hregistry, -⟩ := Accounting.dispatch_of_take htake
  rw [run_dispatch, hdispatch] at hrun
  exact ⟨outcome, after, hrun, congrArg Registry.slots hregistry⟩

theorem run_perform_select {s t : State Float} {tool : Nat} {id : Option Nat}
    {r : Except (Error Float) (Option (Outcome Float))}
    (h : (Session.select tool id : Action (State Float) _ _).run s = (r, t)) :
    (perform (.select tool id)).run s =
      ((r.mapError StepError.error).map fun outcome =>
        (outcome, [.offsets t.accounting.registry.temperatureOffsets]), t) := by
  unfold perform
  rw [Action.run_bind, run_fallible, h]
  cases r <;> rfl

theorem select_cases {s : State Float} (hs : Settled s) (tool : Nat) (id : Option Nat) :
    (∃ outcome details t, (perform (.select tool id)).run s = (.ok (outcome, details), t) ∧
      Done s (.select tool id) outcome t) ∨
    ∃ e t, (perform (.select tool id)).run s = (.error e, t) ∧ Refused s (.select tool id) e := by
  cases run_select s tool id with
  | stored hlt hknown hselect =>
    left
    obtain ⟨outcome, t, hrun, hreported, hbackend, hregistry⟩ :=
      run_dispatch_of_take
        (s := { s with
          backend := { s.backend with selections := s.backend.selections.insert tool id } })
        hs.sound hs.quiet hs.counted
        (Accounting.run_take_selectionChanged_of_lt hlt (s.backend.resolve id))
        (fits_select hs tool id)
    refine ⟨outcome, _, t, run_perform_select (hselect.trans hrun), ⟨⟨hreported.settled,
      hreported.shown⟩, if_pos hlt, ?_, ?_, ?_⟩⟩
    · rw [hregistry]
      exact List.length_set
    · rw [hbackend]
      exact fun i hi => hi
    · rw [hbackend]
      exact fun hwide => hwide
  | unknownSpool i hlt hid hmissing hselect =>
    right
    subst hid
    exact ⟨_, _, run_perform_select hselect, .unknownSpool tool i hlt hmissing⟩
  | unknownTool hlt hselect =>
    exact Or.inr ⟨_, _, run_perform_select hselect, .offence _ _ (if_neg hlt)⟩

/-- A spool on a tool is made of what the stored one is made of. -/
theorem wide_of_fits {store : Store Float} {slots : List (Option (Spool Float))}
    (h : Fits store slots) (hwide : store.Holds Profile.IsWide) :
    ∀ spool, some spool ∈ slots → spool.check = .ok () ∧ spool.profile.IsWide := by
  intro spool hspool
  obtain ⟨tool, hslot⟩ := List.mem_iff_getElem?.mp hspool
  obtain ⟨hcheck, id, stored, -, -, hstored, hsame⟩ := h tool spool hslot
  obtain ⟨hprofile, -⟩ := Spool.alike_of_beq hsame
  exact ⟨hcheck, Profile.isWide_of_beq (hwide id stored hstored) hprofile⟩

theorem finishPrint_printed {s : State Float} (hs : Settled s) (program : String) :
    ∃ usage, (s.accounting.printed program).finishPrint.1 = some usage ∧
      ((∀ mass ∈ (s.accounting.printed program).bookedMasses, mass.isNaN = false) →
        ∀ u ∈ usage, u.Sendable s.backend) ∧
      (s.backend.Holds Profile.IsWide → ∀ u ∈ usage, u.spool.profile.IsWide) := by
  obtain ⟨hregistry, -⟩ := s.accounting.printed_frame program
  have hfits : Fits s.backend (s.accounting.printed program).registry.slots := by
    rw [hregistry]
    exact hs.fits
  have hvalid : ∀ spool, some spool ∈ (s.accounting.printed program).registry.slots →
      spool.check = .ok () := by
    intro spool hspool
    obtain ⟨tool, hslot⟩ := List.mem_iff_getElem?.mp hspool
    exact (hfits tool spool hslot).1
  have hfinish : (s.accounting.printed program).finishPrint.1 = _ :=
    Print.finish_fst (s.accounting.printed program).print (s.accounting.printed program).registry
  rw [hfinish]
  by_cases hcounted : ((s.accounting.printed program).print.printing &&
      (s.accounting.printed program).print.counting) = true
  · obtain ⟨usage, hbook, hfrom⟩ := Usage.bookAll?_of_check hvalid
      (s.accounting.printed program).print.odometer.extrusion
    refine ⟨usage, (if_pos hcounted).trans hbook, fun hmasses u hu => ?_, fun hwide u hu => ?_⟩
    · obtain ⟨m, hm, hu⟩ := hfrom u hu
      obtain ⟨hslot, -⟩ := mem_mounted_iff.mp hm
      obtain ⟨hcheck, id, stored, hid, -, hstored, -⟩ := hfits m.1 m.2.1 hslot
      refine Usage.sendable_of_book? hcheck hid ?_ (hmasses _ ?_) hu
      · rw [Std.TreeMap.contains_eq_isSome_getElem?, hstored]
        rfl
      · unfold Accounting.bookedMasses
        rw [if_pos hcounted]
        exact List.mem_map.mpr ⟨m, hm, rfl⟩
    · obtain ⟨m, hm, hu⟩ := hfrom u hu
      rw [Usage.profile_of_book? hu]
      exact (wide_of_fits hfits hwide m.2.1 (mem_mounted hm).1).2
  · exact ⟨[], if_neg hcounted, fun _ => List.forall_mem_nil _, fun _ => List.forall_mem_nil _⟩

theorem print_cases {s : State Float} (hs : Settled s) (program : String) :
    (∃ outcome details t, (perform (.print program)).run s = (.ok (outcome, details), t) ∧
      Done s (.print program) outcome t) ∨
    ∃ e t, (perform (.print program)).run s = (.error e, t) ∧ Refused s (.print program) e := by
  obtain ⟨usage, hfinish, hsendable, hmaterials⟩ := finishPrint_printed hs program
  obtain ⟨hregistry, hwatch⟩ := sent_frame s program s.backend
  have hannounced : s.backend.Announced ((Usage.sendAll usage).run s.backend).2 :=
    Usage.announced_sendAll (Store.announced_refl hs.sound hs.quiet) usage
  have hcontains : ∀ id, s.backend.spools.contains id = true →
      ((Usage.sendAll usage).run s.backend).2.spools.contains id = true := fun id hid =>
    Usage.contains_sendAll hid usage
  have hholds : s.backend.Holds Profile.IsWide →
      ((Usage.sendAll usage).run s.backend).2.Holds Profile.IsWide := fun hwide =>
    Usage.holds_sendAll hwide (hmaterials hwide)
  cases hsend : (Usage.sendAll usage).run s.backend with
  | mk answer store =>
    rw [hsend] at hannounced hcontains hholds
    cases answer with
    | error e =>
      right
      refine ⟨_, _, run_runPrint_error hfinish hsend, .noMass program _ ?_⟩
      -- Had every mass been a number, all spools would have been taken.
      by_contra hnone
      have hmasses : ∀ mass ∈ (s.accounting.printed program).bookedMasses, mass.isNaN = false := by
        intro mass hmass
        exact Bool.eq_false_iff.mpr fun hnan => hnone ⟨mass, hmass, hnan⟩
      obtain ⟨after, hok, -⟩ := Usage.run_sendAll (hsendable hmasses)
      rw [hsend] at hok
      cases hok
    | ok saved =>
      left
      have hsettled : Settled (sent s program s.backend) := by
        refine ⟨hs.sound, hs.quiet, ?_, ?_⟩
        · rw [hwatch]
          exact hs.counted
        · rw [hregistry]
          exact hs.fits
      obtain ⟨outcome, t, hfollow, hreported, hbackend, hcount⟩ := run_handleAll hsettled hannounced
      obtain ⟨details, hrun⟩ := run_runPrint_ok hfinish hsend hfollow
      refine ⟨outcome, details, t, hrun, ⟨⟨hreported.settled, ?_⟩, rfl, ?_, ?_, ?_⟩⟩
      · rw [hreported.shown, hwatch]
      · rw [hcount, hregistry]
        rfl
      · rw [hbackend]
        exact hcontains
      · rw [hbackend]
        exact hholds

/-- A step of a settled session is done or refused. -/
theorem perform_cases {s : State Float} (hs : Settled s) (step : Step Float) :
    (∃ outcome details t, (perform step).run s = (.ok (outcome, details), t) ∧
      Done s step outcome t) ∨
    ∃ e t, (perform step).run s = (.error e, t) ∧ Refused s step e := by
  cases step with
  | toolCount count =>
    by_cases hmax : maxToolCount < count
    · right
      have htake := Accounting.run_take_toolCountChanged_of_lt (a := s.accounting) hmax
      have hdispatch := run_dispatch s (.toolCountChanged count)
      rw [Accounting.dispatch_error htake] at hdispatch
      refine ⟨_, s, ?_, .offence _ _ (if_pos hmax)⟩
      show (perform.report (Session.dispatch (.toolCountChanged count))).run s = _
      unfold perform.report
      rw [Action.run_bind, run_fallible, hdispatch]
      rfl
    · left
      obtain ⟨outcome, t, hrun, hdone⟩ := done_of_take hs _ (.toolCount count)
        (Accounting.run_take_toolCountChanged_of_le (Nat.not_lt.mp hmax))
        (fun tool spool hslot => hs.fits tool spool (Registry.resize_slots hslot)) (if_neg hmax)
        (Registry.toolCount_resize _ count)
      exact ⟨outcome, [], t, hrun, hdone⟩
  | select tool id => exact select_cases hs tool id
  | file name =>
    left
    obtain ⟨outcome, t, hrun, hdone⟩ :=
      done_of_take hs (.fileChanged name) (.file name) rfl hs.fits rfl rfl
    exact ⟨outcome, [], t, hrun, hdone⟩
  | telemetry filament =>
    left
    obtain ⟨outcome, t, hrun, hdone⟩ :=
      done_of_take hs (.telemetryChanged filament) (.telemetry filament) rfl hs.fits rfl rfl
    exact ⟨outcome, [], t, hrun, hdone⟩
  | closeNotice id =>
    left
    obtain ⟨outcome, t, hrun, hdone⟩ :=
      done_of_take hs (.noticeClosed id) (.closeNotice id) rfl hs.fits rfl rfl
    exact ⟨outcome, [], t, hrun, hdone⟩
  | confirm answers =>
    exact Or.inl ⟨none, _, s, rfl, ⟨hs, (List.append_nil _).symm⟩, rfl, rfl,
      fun id hid => hid, id⟩
  | print program => exact print_cases hs program

end Replay
end Filament
