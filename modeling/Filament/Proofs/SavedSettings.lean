import Filament.Proofs.Faulty
import Filament.Proofs.TextSize

/-!
Settings that are saved.

Settings that were saved are read as they were if their reserve is read from what is written for it,
and a change that fails leaves the file as it was, wherever it fails (`saved_or_kept`). What
settings are read as otherwise is told by `parse_text_eq_iff`.
-/

namespace Filament

namespace Disk

variable {d e f : Disk} {path : String}

/-- What the file at a place holds, none if there is no file. -/
def file? (d : Disk) (place : List String) : Option ByteArray :=
  match d.node? place with
  | some (.file content) => some content
  | _ => none

/-- A path still leads to the same place, and the file there is the same, or there is none as
before. The path may lead somewhere now that led nowhere, if directories on the way have been
made. -/
structure KeepsFile (d e : Disk) (path : String) : Prop where
  resolve : ∀ goal, d.resolve path = .ok goal → e.resolve path = .ok goal
  file : ∀ goal, e.resolve path = .ok goal → e.file? goal.names = d.file? goal.names

theorem Grows.file? (h : Grows d e) (place : List String) : e.file? place = d.file? place := by
  unfold Disk.file?
  rcases h place with heq | ⟨hnone, hnew⟩
  · rw [heq]
  · rw [hnone, hnew]

theorem keepsFile_of_grows (h : Grows d e) (h' : Leaves e f path) : KeepsFile d f path where
  resolve goal hgoal :=
    h'.directories.resolve.mp (resolve_of_directories (fun _ => h.directory) hgoal)
  file goal hgoal := by
    have hthere := h'.node goal (h'.directories.resolve.mpr hgoal)
    rw [← h.file? goal.names]
    unfold Disk.file?
    rw [hthere]

end Disk

variable {f g : Faulty} {s : Settings Float} {path : String} {error : Error Float}

namespace Settings

/-! ## Reading what was written -/

/-- Settings are read with the reserve that is read, if that is accepted. -/
theorem parse_text_as {reserve : Float} (hfinite : s.pauseThreshold.isFinite = true)
    (hreserve : Json.float? (.ofFloat s.pauseThreshold) = some reserve)
    (h : { s with pauseThreshold := reserve }.check = .ok ()) :
    parse s.text = .ok { s with pauseThreshold := reserve } := by
  have hencodes := encodes_as hfinite hreserve
  have hread : (Json.parse? s.text).bind (ofJson? Json.float?) =
      some { s with pauseThreshold := reserve } := by
    unfold text
    rw [Json.parse?_indented hencodes.legible, Option.bind_some, hencodes.read_eq]
  unfold parse
  rw [hread]
  dsimp only
  rw [h]
  rfl

theorem parse_text (h : s.check = .ok ()) (hreserve : Json.ReadsBack s.pauseThreshold) :
    parse s.text = .ok s :=
  parse_text_as hreserve.isFinite hreserve h

/-- What is read as settings from a text has the reserve that is read from it. -/
theorem float?_of_parse_text {t : Settings Float} (h : s.check = .ok ())
    (hparse : parse s.text = .ok t) :
    Json.float? (.ofFloat s.pauseThreshold) = some t.pauseThreshold := by
  have hfinite := (check_eq_ok_iff.mp h).1.1
  unfold parse text at hparse
  rw [Json.parse?_indented (legible_toJson hfinite), Option.bind_some] at hparse
  cases hreserve : Json.float? (.ofFloat s.pauseThreshold) with
  | none =>
    rw [ofJson?_eq_none hreserve] at hparse
    cases hparse
  | some reserve =>
    rw [(encodes_as hfinite hreserve).read_eq] at hparse
    obtain ⟨-, ht⟩ := bind_unit_eq_ok.mp hparse
    cases ht
    rfl

/-- The settings are read from their text exactly if their reserve is. -/
theorem parse_text_eq_iff (h : s.check = .ok ()) :
    parse s.text = .ok s ↔ Json.ReadsBack s.pauseThreshold :=
  ⟨float?_of_parse_text h, parse_text h⟩

/-- The bytes of a text are that text. -/
theorem fromUTF8?_bytes (text : String) : String.fromUTF8? text.toUTF8 = some text :=
  dif_pos text.isValidUTF8

/-- A saved file is not too large to be read. -/
theorem ofFound_text (path : String) (h : s.check = .ok ()) :
    ofFound path (.ok (.file s.text.toUTF8)) = parse s.text := by
  have hsize : ¬maxFileSize < s.text.toUTF8.size := Nat.not_lt.mpr (utf8ByteSize_text_le h)
  unfold ofFound
  dsimp only
  rw [if_neg hsize, fromUTF8?_bytes]

/-- What settings are read as once they are saved, or the standard settings if they are not read. -/
def reread (s : Settings Float) : Settings Float :=
  match parse s.text with
  | .ok t => t
  | .error _ => standard

theorem reread_eq_iff (h : s.check = .ok ()) :
    s.reread = s ↔ Json.ReadsBack s.pauseThreshold := by
  have hstandard : Json.ReadsBack (standard : Settings Float).pauseThreshold := by decide +kernel
  rw [← parse_text_eq_iff h]
  unfold reread
  cases hparse : parse s.text with
  | ok t => exact Except.ok.injEq t s ▸ Iff.rfl
  | error e =>
    refine ⟨fun hs => ?_, nofun⟩
    dsimp only at hs
    subst hs
    rw [parse_text h hstandard] at hparse
    cases hparse

/-! ## Saving -/

theorem run_saveTo (path : String) (s : Settings Float) (f : Faulty) :
    Action.run (saveTo path s) f =
      match s.check with
      | .error e => (.error e, f)
      | .ok () => Action.run (Files.replace path s.text) f := by
  unfold saveTo
  rw [Action.run_bind, Action.run_liftExcept]
  cases s.check <;> rfl

theorem saveTo_ok (h : Action.run (saveTo path s) f = (.ok (), g)) :
    s.check = .ok () ∧ Action.run (Files.replace path s.text) f = (.ok (), g) := by
  rw [run_saveTo] at h
  cases hcheck : s.check with
  | error e =>
    rw [hcheck] at h
    cases h
  | ok u =>
    rw [hcheck] at h
    exact ⟨rfl, h⟩

/-- Saving fails before anything is changed, or after something was written beside the place. -/
theorem saveTo_error (h : Action.run (saveTo path s) f = (.error error, g)) :
    Faulty.Later f g ∧
      (g.disk = f.disk ∨ ∃ content, f.disk.write (Path.beside path) content = .ok g.disk) := by
  rw [run_saveTo] at h
  cases hcheck : s.check with
  | error e =>
    rw [hcheck] at h
    cases h
    exact ⟨Faulty.Later.refl f, Or.inl rfl⟩
  | ok u =>
    rw [hcheck] at h
    exact Files.replace_error h

theorem find_of_saveTo (h : Action.run (saveTo path s) f = (.ok (), g)) :
    g.disk.find path = .ok (.file s.text.toUTF8) := by
  obtain ⟨-, hreplace⟩ := saveTo_ok h
  obtain ⟨-, e, hwrite, hmove⟩ := Files.replace_ok hreplace
  exact Disk.find_of_move_beside hwrite hmove

theorem leaves_of_saveTo (h : Action.run (saveTo path s) f = (.error error, g)) :
    Disk.Leaves f.disk g.disk path := by
  obtain ⟨-, hsame | ⟨content, hwrite⟩⟩ := saveTo_error h
  · rw [hsame]
    exact Disk.Leaves.refl _ _
  · exact Disk.leaves_of_write_beside hwrite

/-! ## The directory -/

theorem run_load (f : Faulty) :
    Action.run load f =
      match Action.run filePath f with
      | (.ok path, g) => Action.run (loadFrom path) g
      | (.error e, g) => (.error e, g) := by
  unfold load
  rw [Action.run_bind]
  obtain ⟨result, g⟩ := Action.run filePath f
  cases result <;> rfl

theorem grows_load {result : Except (Error Float) (Settings Float)}
    (h : Action.run load f = (result, g)) : Faulty.Later f g ∧ Disk.Grows f.disk g.disk := by
  rw [run_load] at h
  split at h
  · rename_i path after hpath
    obtain ⟨hlater, hgrows⟩ := grows_filePath hpath
    have hasks := onlyAsks_loadFrom path after
    rw [h] at hasks
    exact ⟨hlater.trans hasks.1, hasks.2 ▸ hgrows⟩
  · rename_i e after hpath
    cases h
    exact grows_filePath hpath

/-- Settings are saved in the user's directory, or there is no such directory. -/
theorem run_saveInDirectory (s : Settings Float) (f : Faulty) :
    Action.run (do saveTo (← filePath) s) f =
      match Action.run filePath f with
      | (.ok path, g) => Action.run (saveTo path s) g
      | (.error e, g) => (.error e, g) := by
  rw [Action.run_bind]
  obtain ⟨result, g⟩ := Action.run filePath f
  cases result <;> rfl

/-- The file stays if it cannot be replaced, whether for the directory, for the settings or for the
disk. -/
theorem keepsFile_of_saveInDirectory {d : Disk} {directory : String} (hd : Disk.Grows d f.disk)
    (hdirectory : f.directory? = some directory)
    (h : Action.run (do saveTo (← filePath) s) f = (.error error, g)) :
    Disk.KeepsFile d g.disk (fileIn directory) := by
  rw [run_saveInDirectory] at h
  split at h
  · rename_i path after hpath
    obtain ⟨own, hown, rfl⟩ := filePath_ok hpath
    cases hdirectory.symm.trans hown
    exact Disk.keepsFile_of_grows (hd.trans (grows_filePath hpath).2) (leaves_of_saveTo h)
  · rename_i e after hpath
    cases h
    exact Disk.keepsFile_of_grows (hd.trans (grows_filePath hpath).2) (Disk.Leaves.refl _ _)

end Settings

/-! ## The process -/

/-- A process: the settings that it remembers, and the machine that it runs on. -/
structure Process where
  cache : Option (Settings Float)
  machine : Faulty

namespace Process

variable {γ δ : Type}

/-- An operation of the process: its result, and the process after it. -/
def run (x : Settings.Cached (StateM Faulty) γ) (p : Process) : γ × Process :=
  let ((a, cache), machine) := x p.cache p.machine
  (a, { cache, machine })

/-- One that may fail. -/
def attempt (x : ExceptT (Error Float) (Settings.Cached (StateM Faulty)) γ) (p : Process) :
    Except (Error Float) γ × Process :=
  run x.run p

theorem run_bind (x : Settings.Cached (StateM Faulty) γ)
    (next : γ → Settings.Cached (StateM Faulty) δ)
    (p : Process) : run (x >>= next) p = run (next (run x p).1) (run x p).2 := rfl

theorem attempt_bind (x : ExceptT (Error Float) (Settings.Cached (StateM Faulty)) γ)
    (next : γ → ExceptT (Error Float) (Settings.Cached (StateM Faulty)) δ) (p : Process) :
    attempt (x >>= next) p =
      match attempt x p with
      | (.ok a, q) => attempt (next a) q
      | (.error e, q) => (.error e, q) := by
  show run (x.run >>= ExceptT.bindCont next) p = _
  rw [run_bind]
  show run (ExceptT.bindCont next (attempt x p).1) (attempt x p).2 = _
  obtain ⟨result, q⟩ := attempt x p
  cases result <;> rfl

theorem attempt_uncached (x : Action Faulty (Error Float) γ) (p : Process) :
    attempt (Settings.uncached x) p =
      ((x.run p.machine).1, { p with machine := (x.run p.machine).2 }) := rfl

theorem attempt_liftExcept (x : Except (Error Float) γ) (p : Process) :
    attempt (liftM x : ExceptT (Error Float) (Settings.Cached (StateM Faulty)) γ) p = (x, p) := rfl

theorem attempt_save (s : Settings Float) (p : Process) :
    attempt (Settings.save s) p =
      match Action.run (do Settings.saveTo (← Settings.filePath) s) p.machine with
      | (.ok (), g) => (.ok (), { cache := some s, machine := g })
      | (.error e, g) => (.error e, { p with machine := g }) := by
  unfold Settings.save
  rw [attempt_bind, attempt_uncached]
  obtain ⟨result, g⟩ := Action.run (do Settings.saveTo (← Settings.filePath) s) p.machine
  cases result <;> rfl

variable {p q : Process}

theorem save_ok (h : attempt (Settings.save s) p = (.ok (), q)) :
    Action.run (do Settings.saveTo (← Settings.filePath) s) p.machine = (.ok (), q.machine) ∧
      q.cache = some s := by
  rw [attempt_save] at h
  split at h
  · rename_i g hsaved
    cases h
    exact ⟨hsaved, rfl⟩
  · cases h

theorem save_error (h : attempt (Settings.save s) p = (.error error, q)) :
    Action.run (do Settings.saveTo (← Settings.filePath) s) p.machine = (.error error, q.machine) ∧
      q.cache = p.cache := by
  rw [attempt_save] at h
  split at h
  · cases h
  · rename_i e g hfailed
    cases h
    exact ⟨hfailed, rfl⟩

theorem attempt_update (change : Action (Settings Float) (Error Float) Unit) (p : Process) :
    attempt (Settings.update change) p =
      match Action.run Settings.load p.machine with
      | (.error e, g) => (.error e, { p with machine := g })
      | (.ok s, g) =>
        match change.run s with
        | (.error e, _) => (.error e, { p with machine := g })
        | (.ok (), t) =>
          match attempt (Settings.save t) { p with machine := g } with
          | (.ok (), q) => (.ok t, q)
          | (.error e, q) => (.error e, q) := by
  unfold Settings.update
  rw [attempt_bind, attempt_uncached]
  obtain ⟨result, g⟩ := Action.run Settings.load p.machine
  cases result with
  | error e => rfl
  | ok s =>
    dsimp only
    obtain ⟨changed, t⟩ := change.run s
    rw [attempt_bind, attempt_liftExcept]
    cases changed with
    | error e => rfl
    | ok u =>
      dsimp only
      rw [attempt_bind]
      obtain ⟨saved, q⟩ := attempt (Settings.save t) { p with machine := g }
      cases saved <;> rfl

/-- A change that fails leaves the file as it was, whether the settings cannot be read, changed or
saved. -/
theorem keepsFile_of_update {change : Action (Settings Float) (Error Float) Unit}
    {directory : String} (hdirectory : p.machine.directory? = some directory)
    (h : attempt (Settings.update change) p = (.error error, q)) :
    Disk.KeepsFile p.machine.disk q.machine.disk (Settings.fileIn directory) := by
  rw [attempt_update] at h
  split at h
  · rename_i e g hload
    cases h
    exact Disk.keepsFile_of_grows (Settings.grows_load hload).2 (Disk.Leaves.refl _ _)
  · rename_i s g hload
    obtain ⟨hlater, hgrows⟩ := Settings.grows_load hload
    split at h
    · cases h
      exact Disk.keepsFile_of_grows hgrows (Disk.Leaves.refl _ _)
    · split at h
      · cases h
      · rename_i e after hsave
        cases h
        exact Settings.keepsFile_of_saveInDirectory hgrows (hlater.directory?.trans hdirectory)
          (save_error hsave).1

/-- Accepted settings that were saved are read as they were, if the reserve is read from what is
written for it. A save that fails leaves what is found at the path as it was, and so does a change
to the user's settings that fails. -/
theorem saved_or_kept (f : Faulty) (path : String) (s : Settings Float) (p : Process)
    (change : Action (Settings Float) (Error Float) Unit) :
    (s.check = .ok () → Json.ReadsBack s.pauseThreshold →
      ∀ g reader : Faulty, Action.run (Settings.saveTo path s) f = (.ok (), g) →
        reader.disk = g.disk → reader.misreads = [] →
        Action.run (Settings.loadFrom path) reader = (.ok s, reader)) ∧
    (∀ error g, Action.run (Settings.saveTo path s) f = (.error error, g) →
      ∀ node, g.disk.find path = .ok node ↔ f.disk.find path = .ok node) ∧
    (∀ error q directory, p.machine.directory? = some directory →
      attempt (Settings.update change) p = (.error error, q) →
      Disk.KeepsFile p.machine.disk q.machine.disk (Settings.fileIn directory)) := by
  refine ⟨fun hcheck hreserve g reader hsaved hdisk hnil => ?_, fun error g hfailed node => ?_,
    fun error q directory hdirectory hfailed => ?_⟩
  · rw [Settings.run_loadFrom hnil, hdisk, Settings.find_of_saveTo hsaved,
      Settings.ofFound_text path hcheck, Settings.parse_text hcheck hreserve]
  · exact (Settings.leaves_of_saveTo hfailed).find
  · exact keepsFile_of_update hdirectory hfailed

end Process

/-- Settings with a reserve that no binary fraction is, and a symbol that has to be escaped. -/
def Settings.frugal : Settings Float :=
  { (Settings.standard : Settings Float) with pauseThreshold := 0.1, currencySymbol := "\t☃\"" }

namespace Faulty

/-- An empty disk, on which all goes well. -/
def tidy : Faulty where
  machine :=
    { disk := .empty, valueOf? := fun _ => some "config", platformDirectory? := none
      milliseconds := 0 }
  misreads := []
  mishaps := []

/-- A disk with settings in the working directory. The next change to it goes well, and the one
after that does not. -/
def unlucky : Faulty :=
  { tidy.withDisk (Disk.empty.put ["settings.json"] (some (.file Settings.frugal.text.toUTF8))) with
    mishaps := [none, some { fault := .other "No space left on device", left := none }] }

end Faulty

namespace Process

open Faulty Settings

/-- On an empty disk settings are saved and read. Where the disk fails, the settings in the working
directory stay, and the user still has none. -/
theorem saved_or_kept_frugal :
    (∃ g, Action.run (saveTo "settings.json" frugal) tidy = (.ok (), g) ∧
      Action.run (loadFrom "settings.json") g = (.ok frugal, g)) ∧
    (∃ error g, Action.run (saveTo "settings.json" standard) unlucky = (.error error, g) ∧
      ∀ node, g.disk.find "settings.json" = .ok node ↔
        unlucky.disk.find "settings.json" = .ok node) ∧
    ∃ error q, attempt (update (set "autoPause" "true")) { cache := none, machine := unlucky } =
        (.error error, q) ∧
      Disk.KeepsFile unlucky.disk q.machine.disk (fileIn "config/filamentmanager") := by
  obtain ⟨g, hsaved⟩ : ∃ g, Action.run (saveTo "settings.json" frugal) tidy = (.ok (), g) :=
    ⟨_, Prod.ext (eq_ok_of_toBool (by decide +kernel)) rfl⟩
  obtain ⟨saveError, hsave⟩ : ∃ e,
      (Action.run (saveTo "settings.json" standard) unlucky).1 = .error e :=
    eq_error_of_toBool (by decide +kernel)
  obtain ⟨updateError, hupdate⟩ :
      ∃ e, (attempt (update (set "autoPause" "true")) { cache := none, machine := unlucky }).1 =
        .error e :=
    eq_error_of_toBool (by decide +kernel)
  have hmisreads := (Files.replace_ok (saveTo_ok hsaved).2).1.misreads rfl
  have hreserve : Json.ReadsBack frugal.pauseThreshold := by decide +kernel
  obtain ⟨hload, -, -⟩ := saved_or_kept tidy "settings.json" frugal
    { cache := none, machine := tidy } (set "autoPause" "true")
  obtain ⟨-, hkept, hkeeps⟩ := saved_or_kept unlucky "settings.json" standard
    { cache := none, machine := unlucky } (set "autoPause" "true")
  exact ⟨⟨g, hsaved, hload rfl hreserve g g hsaved rfl hmisreads⟩,
    ⟨saveError, _, Prod.ext hsave rfl, hkept saveError _ (Prod.ext hsave rfl)⟩,
    ⟨updateError, _, Prod.ext hupdate rfl,
      hkeeps updateError _ _ (by decide +kernel) (Prod.ext hupdate rfl)⟩⟩

end Process
end Filament
