import Filament.Proofs.UserDirectory

/-!
The settings that a process remembers.

A process asks for its settings, saves some and changes them, and any of this may fail. It remembers
what it has read, and it remembers what it has saved without reading it again (`follows_call`). So
it is given what it would read at the time, after any number of calls, exactly if the reserve that
was saved last is read from what is written for it (`remembered_as_read_iff`).
-/

namespace Filament

variable {f g : Faulty} {s : Settings Float} {error : Error Float}

namespace Faulty

/-- What would be read now, or the standard settings if reading would fail. -/
def settings (f : Faulty) : Settings Float :=
  match (Action.run Settings.load f).1 with
  | .ok s => s
  | .error _ => Settings.standard

/-- All questions about files are answered, and the disk has its directories. Where the user's
directory is missing, no settings come to light when it is made, as they might on a path like
`missing/../there`. -/
structure Sound (f : Faulty) : Prop where
  misreads : f.misreads = []
  rooted : f.disk.Rooted
  unmade : ∀ directory, f.directory? = some directory → f.disk.contains directory = false →
    f.disk.settingsIn directory = Settings.standard

theorem Sound.of_later (hf : f.Sound) (hlater : Later f g) (hrooted : g.disk.Rooted)
    (hunmade : ∀ directory, f.directory? = some directory → g.disk.contains directory = false →
      g.disk.settingsIn directory = Settings.standard) : g.Sound where
  misreads := hlater.misreads hf.misreads
  rooted := hrooted
  unmade directory h := hunmade directory (hlater.directory?.symm.trans h)

theorem Sound.of_disk (hf : f.Sound) (hlater : Later f g) (hdisk : g.disk = f.disk) : g.Sound :=
  hf.of_later hlater (hdisk ▸ hf.rooted) (hdisk ▸ hf.unmade)

theorem endsOpen_directory {directory : String} (h : f.directory? = some directory) :
    Path.EndsOpen directory := by
  obtain ⟨base, -, rfl⟩ := Option.map_eq_some_iff.mp h
  exact Path.endsOpen_join base

end Faulty

namespace Settings

/-- Without a directory for the user, the settings are the standard ones. -/
theorem run_filePath_none (h : f.directory? = none) :
    Action.run filePath f = (.error (.config .noDirectory), f) := by
  rw [run_filePath, h]

variable {directory : String}

theorem run_filePath_there (hnil : f.misreads = []) (h : f.directory? = some directory)
    (hthere : f.disk.contains directory = true) :
    Action.run filePath f = (.ok (fileIn directory), f) := by
  have hexists : (Files.pathExists directory : StateM Faulty Bool) f = (true, f) :=
    (Faulty.ask_eq hnil _ _).trans (congrArg (·, f) hthere)
  rw [run_filePath, h]
  dsimp only
  rw [hexists]

/-- A directory that is missing is made, which may fail for the disk or by a mishap. -/
theorem filePath_missing {result : Except (Error Float) String} (hnil : f.misreads = [])
    (h : f.directory? = some directory) (hmissing : f.disk.contains directory = false)
    (hrun : Action.run filePath f = (result, g)) :
    (∃ e, result = .error e ∧ g = f.past f.disk) ∨
      ∃ d, g = f.past d ∧
        (f.disk.makeDirectories directory = (.ok (), d) ∧ result = .ok (fileIn directory) ∨
          ∃ fault e, f.disk.makeDirectories directory = (.error fault, d) ∧ result = .error e) := by
  have hexists : (Files.pathExists directory : StateM Faulty Bool) f = (false, f) :=
    (Faulty.ask_eq hnil _ _).trans (congrArg (·, f) hmissing)
  rw [run_filePath, h] at hrun
  dsimp only at hrun
  rw [hexists] at hrun
  dsimp only at hrun
  obtain ⟨made, after, hmake⟩ : ∃ made after, Faulty.make directory f = (made, after) := ⟨_, _, rfl⟩
  rw [hmake] at hrun
  rcases Faulty.make_cases hmake with ⟨fault, rfl, rfl⟩ | ⟨d, hd, rfl⟩
  · cases hrun
    exact Or.inl ⟨_, rfl, rfl⟩
  · refine Or.inr ⟨d, ?_⟩
    cases made with
    | ok u =>
      cases hrun
      exact ⟨rfl, Or.inl ⟨hd, rfl⟩⟩
    | error fault =>
      cases hrun
      exact ⟨rfl, Or.inr ⟨_, _, hd, rfl⟩⟩

end Settings

namespace Faulty

/-- What would be read are the settings in the user's directory. -/
theorem settings_some {directory : String} (hf : f.Sound) (h : f.directory? = some directory) :
    f.settings = f.disk.settingsIn directory := by
  unfold settings
  rw [Settings.run_load]
  cases hthere : f.disk.contains directory with
  | true =>
    rw [Settings.run_filePath_there hf.misreads h hthere, Disk.settingsIn_of_contains hthere]
    dsimp only
    rw [Settings.run_loadFrom hf.misreads]
    rfl
  | false =>
    obtain ⟨result, g, hrun⟩ : ∃ result g, Action.run Settings.filePath f = (result, g) :=
      ⟨_, _, rfl⟩
    rw [hrun]
    rcases Settings.filePath_missing hf.misreads h hthere hrun with
      ⟨e, rfl, rfl⟩ | ⟨d, rfl, ⟨hmake, rfl⟩ | ⟨fault, e, hmake, rfl⟩⟩
    · exact (hf.unmade directory h hthere).symm
    · rw [Disk.settingsIn_of_made hthere hmake]
      dsimp only
      rw [Settings.run_loadFrom (f := f.past d) hf.misreads]
      rfl
    · exact (Disk.settingsIn_of_failed hthere hmake).symm

/-- Without a directory for the user, or where it is not made, nothing about the settings
changes. -/
theorem settings_of_disk (hf : f.Sound) (hlater : Later f g) (hdisk : g.disk = f.disk)
    {directory : String} (h : f.directory? = some directory) : g.settings = f.settings := by
  rw [settings_some hf h, settings_some (hf.of_disk hlater hdisk) (hlater.directory?.trans h),
    hdisk]

/-- Looking for the directory, and making it, changes nothing about the settings. -/
theorem settings_filePath (hf : f.Sound) {result : Except (Error Float) String}
    (h : Action.run Settings.filePath f = (result, g)) : g.Sound ∧ g.settings = f.settings := by
  cases hdirectory : f.directory? with
  | none =>
    rw [Settings.run_filePath_none hdirectory] at h
    cases h
    exact ⟨hf, rfl⟩
  | some directory =>
    cases hthere : f.disk.contains directory with
    | true =>
      rw [Settings.run_filePath_there hf.misreads hdirectory hthere] at h
      cases h
      exact ⟨hf, rfl⟩
    | false =>
      have hmade : ∀ {made d}, f.disk.makeDirectories directory = (made, d) →
          (f.past d).Sound ∧ (f.past d).settings = f.settings := by
        intro made d hmake
        have hrooted := Disk.rooted_makeDirectories hf.rooted directory
        rw [hmake] at hrooted
        have hsame :=
          Disk.settingsIn_makeDirectories hf.rooted (endsOpen_directory hdirectory) hthere hmake
        have hsound : (f.past d).Sound := by
          refine hf.of_later (later_past f d) hrooted fun other hother _ => ?_
          cases hdirectory.symm.trans hother
          exact hsame.trans (hf.unmade directory hdirectory hthere)
        exact ⟨hsound, (settings_some hsound hdirectory).trans
          (hsame.trans (settings_some hf hdirectory).symm)⟩
      rcases Settings.filePath_missing hf.misreads hdirectory hthere h with
        ⟨e, -, rfl⟩ | ⟨d, rfl, ⟨hmake, -⟩ | ⟨fault, e, hmake, -⟩⟩
      · exact ⟨hf.of_disk (later_past f _) rfl, settings_of_disk hf (later_past f _) rfl hdirectory⟩
      · exact hmade hmake
      · exact hmade hmake

theorem settings_load (hf : f.Sound) {result : Except (Error Float) (Settings Float)}
    (h : Action.run Settings.load f = (result, g)) : g.Sound ∧ g.settings = f.settings := by
  rw [Settings.run_load] at h
  split at h
  · rename_i path after hpath
    obtain ⟨hsound, hsettings⟩ := settings_filePath hf hpath
    rw [Settings.run_loadFrom hsound.misreads] at h
    cases h
    exact ⟨hsound, hsettings⟩
  · rename_i e after hpath
    cases h
    exact settings_filePath hf hpath

/-- The settings stay if they cannot be replaced. -/
theorem settings_of_save_error (hf : f.Sound)
    (h : Action.run (do Settings.saveTo (← Settings.filePath) s) f = (.error error, g)) :
    g.Sound ∧ g.settings = f.settings := by
  rw [Settings.run_saveInDirectory] at h
  split at h
  · rename_i path after hpath
    obtain ⟨directory, hdirectory, rfl⟩ := Settings.filePath_ok hpath
    obtain ⟨hsound, hsettings⟩ := settings_filePath hf hpath
    have hafter := (Settings.grows_filePath hpath).1.directory?.trans hdirectory
    obtain ⟨hlater, hdisk⟩ := Settings.saveTo_error h
    rw [← hsettings]
    rcases hdisk with hdisk | ⟨content, hwrite⟩
    · exact ⟨hsound.of_disk hlater hdisk, settings_of_disk hsound hlater hdisk hafter⟩
    · have hopen := endsOpen_directory hdirectory
      have hsame := Disk.settingsIn_of_write_beside hsound.rooted hopen hwrite
      have hthere := Disk.contains_of_find (Disk.find_of_write_beside hsound.rooted hopen hwrite)
      have hdirectories := Disk.sameDirectories_of_write hwrite
      have hg : g.Sound := by
        refine hsound.of_later hlater (hdirectories.rooted hsound.rooted)
          fun other hother hmissing => ?_
        cases hafter.symm.trans hother
        have hfind := hdirectories.find (Disk.find_of_write_beside hsound.rooted hopen hwrite)
        cases hmissing.symm.trans (Disk.contains_of_find hfind)
      exact ⟨hg, (settings_some hg (hlater.directory?.trans hafter)).trans
        (hsame.trans (settings_some hsound hafter).symm)⟩
  · rename_i e after hpath
    cases h
    exact settings_filePath hf hpath

/-- Saved settings are what their text is read as. -/
theorem settings_of_save_ok (hf : f.Sound)
    (h : Action.run (do Settings.saveTo (← Settings.filePath) s) f = (.ok (), g)) :
    g.Sound ∧ s.check = .ok () ∧ g.settings = s.reread := by
  rw [Settings.run_saveInDirectory] at h
  split at h
  · rename_i path after hpath
    obtain ⟨directory, hdirectory, rfl⟩ := Settings.filePath_ok hpath
    obtain ⟨hsound, -⟩ := settings_filePath hf hpath
    have hafter := (Settings.grows_filePath hpath).1.directory?.trans hdirectory
    have hopen := endsOpen_directory hdirectory
    obtain ⟨hcheck, hreplace⟩ := Settings.saveTo_ok h
    obtain ⟨hlater, e, hwrite, hmove⟩ := Files.replace_ok hreplace
    have hsame := (Disk.sameDirectories_of_write hwrite).trans (Disk.sameDirectories_of_move hmove)
    have hfind := hsame.find (Disk.find_of_write_beside hsound.rooted hopen hwrite)
    have hg : g.Sound := by
      refine hsound.of_later hlater (hsame.rooted hsound.rooted) fun other hother hmissing => ?_
      cases hafter.symm.trans hother
      cases hmissing.symm.trans (Disk.contains_of_find hfind)
    rw [settings_some hg (hlater.directory?.trans hafter)]
    exact ⟨hg, hcheck, Disk.settingsIn_of_replace hsound.rooted hopen hcheck hwrite hmove⟩
  · cases h

end Faulty

namespace Process

/-- What a process does with its settings. -/
inductive Call where
  | cached
  | save (s : Settings Float)
  | update (change : Action (Settings Float) (Error Float) Unit)
  | forget

/-- The process after a call, whatever came of it. -/
def call (p : Process) : Call → Process
  | .cached => (run Settings.cached p).2
  | .save s => (attempt (Settings.save s) p).2
  | .update change => (attempt (Settings.update change) p).2
  | .forget => (run Settings.forget p).2

/-- The settings that were saved last and are still remembered, if a call comes after those that
have saved `saved`. -/
def savedBy (p : Process) (saved : Option (Settings Float)) : Call → Option (Settings Float)
  | .cached => saved
  | .save s =>
    match (attempt (Settings.save s) p).1 with
    | .ok () => some s
    | .error _ => saved
  | .update change =>
    match (attempt (Settings.update change) p).1 with
    | .ok s => some s
    | .error _ => saved
  | .forget => none

def lastSaved (p : Process) (saved : Option (Settings Float)) : List Call → Option (Settings Float)
  | [] => saved
  | c :: calls => lastSaved (p.call c) (p.savedBy saved c) calls

/-- What the process remembers is what it has saved, or else what it would read. -/
structure Follows (p : Process) (saved : Option (Settings Float)) : Prop where
  sound : p.machine.Sound
  kept : ∀ s ∈ saved, s.check = .ok () ∧ p.cache = some s ∧ p.machine.settings = s.reread
  unsaved : saved = none → ∀ s ∈ p.cache, s = p.machine.settings

variable {p q : Process} {saved : Option (Settings Float)}

/-- The settings are what they were, and so is what is remembered. -/
theorem Follows.of_same (h : p.Follows saved) (hsound : q.machine.Sound)
    (hsettings : q.machine.settings = p.machine.settings) (hcache : q.cache = p.cache) :
    q.Follows saved where
  sound := hsound
  kept s hs := by
    rw [hsettings, hcache]
    exact h.kept s hs
  unsaved hnone := by
    rw [hsettings, hcache]
    exact h.unsaved hnone

theorem run_cached (p : Process) :
    run Settings.cached p =
      match p.cache with
      | some s => (s, p)
      | none => (p.machine.settings,
          { cache := some p.machine.settings
            machine := (Action.run Settings.load p.machine).2 }) := by
  obtain ⟨cache, machine⟩ := p
  cases cache with
  | some s => rfl
  | none =>
    have hget : run (get : Settings.Cached (StateM Faulty) _) { cache := none, machine } =
      (none, { cache := none, machine }) := rfl
    have hload : run (StateT.lift (Settings.load : Action Faulty (Error Float) _).run)
        { cache := none, machine } =
      ((Action.run Settings.load machine).1,
        { cache := none, machine := (Action.run Settings.load machine).2 }) := rfl
    unfold Settings.cached Faulty.settings
    rw [run_bind, hget]
    dsimp only
    rw [run_bind, hload]
    dsimp only
    obtain ⟨result, g⟩ := Action.run Settings.load machine
    cases result <;> rfl

theorem follows_cached (h : p.Follows saved) : (run Settings.cached p).2.Follows saved := by
  rw [run_cached]
  cases hcache : p.cache with
  | some s => exact h
  | none =>
    obtain ⟨hsound, hsettings⟩ :=
      Faulty.settings_load h.sound (rfl : Action.run Settings.load p.machine = (_, _))
    refine ⟨hsound, fun s hs => ?_, fun _ s hs => (Option.some.inj hs).symm.trans hsettings.symm⟩
    cases hcache.symm.trans (h.kept s hs).2.1

theorem follows_save_ok (h : p.Follows saved) (hsave : attempt (Settings.save s) p = (.ok (), q)) :
    q.Follows (some s) := by
  obtain ⟨hsaved, hcache⟩ := save_ok hsave
  obtain ⟨hsound, hcheck, hsettings⟩ := Faulty.settings_of_save_ok h.sound hsaved
  refine ⟨hsound, fun t ht => ?_, nofun⟩
  cases ht
  exact ⟨hcheck, hcache, hsettings⟩

theorem follows_save_error (h : p.Follows saved)
    (hsave : attempt (Settings.save s) p = (.error error, q)) : q.Follows saved := by
  obtain ⟨hfailed, hcache⟩ := save_error hsave
  obtain ⟨hsound, hsettings⟩ := Faulty.settings_of_save_error h.sound hfailed
  exact h.of_same hsound hsettings hcache

theorem follows_update {change : Action (Settings Float) (Error Float) Unit}
    {result : Except (Error Float) (Settings Float)} (h : p.Follows saved)
    (hupdate : attempt (Settings.update change) p = (result, q)) :
    (∀ s, result = .ok s → q.Follows (some s)) ∧ ∀ e, result = .error e → q.Follows saved := by
  have hread : ∀ {read g}, Action.run Settings.load p.machine = (read, g) →
      Follows { p with machine := g } saved := by
    intro read g hload
    obtain ⟨hsound, hsettings⟩ := Faulty.settings_load h.sound hload
    exact h.of_same hsound hsettings rfl
  rw [attempt_update] at hupdate
  split at hupdate
  · rename_i e g hload
    cases hupdate
    exact ⟨nofun, fun _ _ => hread hload⟩
  · rename_i s g hload
    split at hupdate
    · cases hupdate
      exact ⟨nofun, fun _ _ => hread hload⟩
    · split at hupdate
      · rename_i q hsaved
        cases hupdate
        refine ⟨fun s hs => ?_, nofun⟩
        cases hs
        exact follows_save_ok (hread hload) hsaved
      · rename_i e q hfailed
        cases hupdate
        exact ⟨nofun, fun _ _ => follows_save_error (hread hload) hfailed⟩

/-- One call: a save that succeeds is remembered, and no failure changes what would be read. -/
theorem follows_call (h : p.Follows saved) (c : Call) : (p.call c).Follows (p.savedBy saved c) := by
  cases c with
  | cached => exact follows_cached h
  | save s =>
    obtain ⟨result, q, hsave⟩ : ∃ result q, attempt (Settings.save s) p = (result, q) := ⟨_, _, rfl⟩
    unfold call savedBy
    dsimp only
    rw [hsave]
    cases result with
    | ok u => exact follows_save_ok h hsave
    | error e => exact follows_save_error h hsave
  | update change =>
    obtain ⟨result, q, hupdate⟩ : ∃ result q, attempt (Settings.update change) p = (result, q) :=
      ⟨_, _, rfl⟩
    have hfollows := follows_update h hupdate
    unfold call savedBy
    dsimp only
    rw [hupdate]
    cases result with
    | ok s => exact hfollows.1 s rfl
    | error e => exact hfollows.2 e rfl
  | forget => exact ⟨h.sound, nofun, fun _ => nofun⟩

theorem follows_calls (h : p.Follows saved) (calls : List Call) :
    (calls.foldl call p).Follows (lastSaved p saved calls) := by
  induction calls generalizing p saved with
  | nil => exact h
  | cons c calls ih => exact ih (follows_call h c)

/-- After any calls, failed ones among them, a process that asks for its settings is given what it
would read at that time, or the standard settings if reading would fail, exactly if the reserve that
it has saved last and not forgotten is read from what is written for it. -/
theorem remembered_as_read_iff (machine : Faulty) (hsound : machine.Sound) (calls : List Call) :
    (run Settings.cached (calls.foldl call { cache := none, machine })).1 =
        (calls.foldl call { cache := none, machine }).machine.settings ↔
      ∀ s ∈ lastSaved { cache := none, machine } none calls, Json.ReadsBack s.pauseThreshold := by
  have hstart : Follows { cache := none, machine } none := ⟨hsound, nofun, fun _ => nofun⟩
  have hfollows := follows_calls hstart calls
  generalize calls.foldl call { cache := none, machine } = p at hfollows
  generalize lastSaved { cache := none, machine } none calls = saved at hfollows
  rw [run_cached]
  cases saved with
  | none =>
    refine iff_of_true ?_ nofun
    cases hcache : p.cache with
    | some s => exact hfollows.unsaved rfl s hcache
    | none => rfl
  | some s =>
    obtain ⟨hcheck, hcache, hsettings⟩ := hfollows.kept s rfl
    rw [hcache, hsettings]
    refine eq_comm.trans ((Settings.reread_eq_iff hcheck).trans ?_)
    exact ⟨fun h t ht => Option.some.inj ht ▸ h, fun h => h s rfl⟩

/-- The settings are not remembered at first. A change to them is lost with the disk, then some are
saved whose reserve is read as it was, and others are refused. -/
theorem remembered_as_read_iff_unlucky :
    Faulty.unlucky.Sound ∧
      let calls := [Call.cached, .update (Settings.set "autoPause" "true"), .save .frugal,
        .save { (Settings.standard : Settings Float) with pauseThreshold := -1 }]
      let p := calls.foldl call { cache := none, machine := .unlucky }
      (∀ s ∈ lastSaved { cache := none, machine := .unlucky } none calls,
        Json.ReadsBack s.pauseThreshold) ∧
      (run Settings.cached p).1 = p.machine.settings := by
  have hnone : Disk.empty.node? ["settings.json"] ≠ some .directory := by
    simp [Disk.directory_empty]
  have hfile : some (Node.file Settings.frugal.text.toUTF8) ≠ some .directory := by simp
  have hsound : Faulty.unlucky.Sound := by
    refine ⟨rfl, (Disk.sameDirectories_put hnone hfile).rooted Disk.rooted_empty, ?_⟩
    intro directory h hmissing
    cases h
    exact Disk.settingsIn_of_not_contains hmissing (by decide +kernel)
  refine ⟨hsound, ?_⟩
  intro calls
  have hreserve : ∀ s ∈ lastSaved { cache := none, machine := .unlucky } none calls,
      Json.ReadsBack s.pauseThreshold := by
    decide +kernel
  exact ⟨hreserve, (remembered_as_read_iff .unlucky hsound calls).mpr hreserve⟩

/-- Settings that are accepted, with a reserve of seventeen digits. -/
def fine : Settings Float :=
  { (Settings.standard : Settings Float) with pauseThreshold := 51.248178375505404 }

/-- All goes well, and the reserve that is remembered is not the one that is read from the file. -/
theorem remembered_beside_read :
    let p := [Call.save fine].foldl call { cache := none, machine := .tidy }
    Faulty.tidy.Sound ∧ (run Settings.cached p).1.pauseThreshold = 51.248178375505404 ∧
      p.machine.settings.pauseThreshold = 51.24817837550541 ∧
      (run Settings.cached p).1 ≠ p.machine.settings := by
  have hsound : Faulty.tidy.Sound := by
    refine ⟨rfl, Disk.rooted_empty, fun directory h hmissing => ?_⟩
    cases h
    exact Disk.settingsIn_of_not_contains hmissing (by decide +kernel)
  have hsave : (attempt (Settings.save fine) { cache := none, machine := .tidy }).1 = .ok () :=
    eq_ok_of_toBool (by decide +kernel)
  have hparse : Settings.parse fine.text = .ok { fine with pauseThreshold := 51.24817837550541 } :=
    Settings.parse_text_as (by decide +kernel) (by decide +kernel)
      (eq_ok_of_toBool (by decide +kernel))
  intro p
  obtain ⟨hsaved, hcache⟩ := save_ok (q := p) (Prod.ext hsave rfl)
  have hremembered : (run Settings.cached p).1 = fine := by
    rw [run_cached, hcache]
  have hread : p.machine.settings = { fine with pauseThreshold := 51.24817837550541 } := by
    rw [(Faulty.settings_of_save_ok hsound hsaved).2.2, Settings.reread, hparse]
  rw [hremembered, hread]
  refine ⟨hsound, rfl, rfl, fun h => ?_⟩
  exact absurd (congrArg Settings.pauseThreshold h) (by decide +kernel)

end Process
end Filament
