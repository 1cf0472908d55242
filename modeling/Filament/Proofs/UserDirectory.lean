import Filament.Proofs.SavedSettings

/-!
The directory of the user's settings, and what settings a disk holds for the user.

The settings lie in the directory under a name of their own, so they can be found or written only if
the directory is one (`Disk.find_of_resolve_below`). The settings that are found there
(`Disk.settingsIn`) are the same after the directory has been made or could not be made, and after a
text has been written beside them; they are what the saved text is read as once that is moved to its
place.
-/

namespace Filament
namespace Path

/-- The path has a last character, which is no slash. -/
def EndsOpen (path : String) : Prop := ∃ front c, path.toList = front ++ [c] ∧ c ≠ '/'

theorem EndsOpen.isEmpty {path : String} (h : EndsOpen path) : path.isEmpty = false := by
  obtain ⟨front, c, heq, -⟩ := h
  rw [Bool.eq_false_iff]
  intro hempty
  rw [String.isEmpty_iff.mp hempty] at heq
  simp at heq

theorem EndsOpen.join_eq {directory : String} (h : EndsOpen directory) (name : String) :
    join directory name = directory ++ "/" ++ name := by
  have hslash : directory.endsWith "/" = false := by
    rw [Bool.eq_false_iff, ← String.endsWith_toSlice, Ne, String.Slice.endsWith_string_iff]
    obtain ⟨front, c, heq, hc⟩ := h
    rintro ⟨before, hbefore⟩
    simp [heq] at hbefore
    exact hc hbefore.2.symm
  unfold join
  rw [h.isEmpty, hslash]
  rfl

theorem endsOpen_join (base : String) : EndsOpen (join base "filamentmanager") := by
  unfold join
  split
  · exact ⟨base.toList ++ "filamentmanage".toList, 'r', by simp, by decide⟩
  · exact ⟨base.toList ++ "/filamentmanage".toList, 'r', by simp, by decide⟩

theorem names_below {name : String} (hname : IsName name.toList) (directory : String) :
    names (directory ++ "/" ++ name).toList = names directory.toList ++ [name.toList] := by
  rw [String.toList_append, String.toList_append, List.append_assoc]
  show names (directory.toList ++ '/' :: name.toList) = _
  rw [names_append_slash, names_of_noSlash hname.noSlash hname.ne_nil]

theorem beside_settings (directory : String) :
    beside (directory ++ "/" ++ "settings.json") = directory ++ "/" ++ "settings.json.tmp" := by
  have hsplit : splitName? (directory ++ "/" ++ "settings.json").toList =
      some (directory.toList ++ ['/'], "settings.json".toList, []) := by
    unfold splitName?
    simp [dropEnd]
  have hstem : stem "settings.json".toList = "settings".toList := by decide
  unfold beside withExtension
  rw [hsplit]
  dsimp only
  rw [hstem, if_neg (by decide)]
  apply String.toList_injective
  simp

theorem isName_settings : IsName "settings.json".toList where
  noSlash := by decide
  ne_nil := by decide
  ne_dot := by decide
  ne_dots := by decide

theorem isName_settingsBeside : IsName "settings.json.tmp".toList where
  noSlash := by decide
  ne_nil := by decide
  ne_dot := by decide
  ne_dots := by decide

end Path

/-- The directory of a path is a path. -/
theorem Route.ofPath_of_below {directory name : String} {route : Route}
    (hdirectory : directory.isEmpty = false)
    (h : Route.ofPath (directory ++ "/" ++ name) = .ok route) :
    ∃ above, Route.ofPath directory = .ok above := by
  unfold Route.ofPath at h ⊢
  split at h
  · cases h
  · rename_i hnul
    split at h
    · cases h
    · split at h
      · cases h
      · rename_i hlong
        rw [String.toList_append, String.toList_append, List.append_assoc] at hnul
        rw [String.utf8ByteSize_append, String.utf8ByteSize_append] at hlong
        rw [if_neg (by simp at hnul ⊢; exact hnul.1), hdirectory, if_neg Bool.false_ne_true,
          if_neg (by omega)]
        exact ⟨_, rfl⟩

namespace Disk

open Settings (fileIn ofFound)

variable {d e : Disk} {directory name path : String} {goal : Place}

/-- A path leads somewhere only if its directory is one. -/
theorem find_of_resolve_below (hd : d.Rooted) (hdirectory : directory.isEmpty = false)
    (hname : Path.IsName name.toList) (h : d.resolve (directory ++ "/" ++ name) = .ok goal) :
    d.find directory = .ok .directory := by
  have hnone : ∀ n ∈ ([] : List (List Char)), n = ['.'] := by simp
  obtain ⟨inside, hinside, -⟩ := names_of_resolve (Path.names_below hname directory) hname hnone h
  obtain ⟨route, hroute, -⟩ := resolve_eq_ok.mp h
  obtain ⟨above, habove⟩ := Route.ofPath_of_below hdirectory hroute
  refine (find_eq_directory hd habove).mpr ⟨inside, ?_⟩
  obtain ⟨hnames, hstart⟩ := Route.ofPath_eq_ok habove
  have hhead : (directory ++ "/" ++ name).toList.head? = directory.toList.head? := by
    rw [String.toList_append, String.toList_append, List.append_assoc]
    cases hchars : directory.toList with
    | nil =>
      rw [String.toList_eq_nil_iff.mp hchars] at hdirectory
      exact absurd hdirectory (by decide)
    | cons c cs => rfl
  rw [hnames, hstart, ← hhead]
  exact hinside

theorem find_of_resolve_fileIn (hd : d.Rooted) (hdirectory : Path.EndsOpen directory)
    (h : d.resolve (fileIn directory) = .ok goal) : d.find directory = .ok .directory := by
  unfold fileIn at h
  rw [hdirectory.join_eq] at h
  exact find_of_resolve_below hd hdirectory.isEmpty Path.isName_settings h

/-- A text can be written beside the settings only in a directory. -/
theorem find_of_write_beside {content : ByteArray} (hd : d.Rooted)
    (hdirectory : Path.EndsOpen directory)
    (h : d.write (Path.beside (fileIn directory)) content = .ok e) :
    d.find directory = .ok .directory := by
  obtain ⟨place, old, htarget, -⟩ := write_eq_ok h
  obtain ⟨goal, hgoal, -⟩ := target_eq_ok htarget
  unfold fileIn at hgoal
  rw [hdirectory.join_eq, Path.beside_settings] at hgoal
  exact find_of_resolve_below hd hdirectory.isEmpty Path.isName_settingsBeside hgoal

theorem contains_of_find {node : Node} (h : d.find path = .ok node) : d.contains path = true := by
  unfold contains
  rw [h]
  rfl

theorem SameDirectories.find (h : SameDirectories d e) (hfind : d.find path = .ok .directory) :
    e.find path = .ok .directory := by
  obtain ⟨goal, hgoal, hnode, hending⟩ := find_eq_ok.mp hfind
  exact find_eq_ok.mpr ⟨goal, h.resolve.mp hgoal, (h _).mp hnode, hending⟩

/-! ## What a disk holds for the user -/

/-- The settings at a path, or the standard ones if what is there cannot be used. -/
def settingsAt (d : Disk) (path : String) : Settings Float :=
  match ofFound path (d.find path) with
  | .ok s => s
  | .error _ => Settings.standard

/-- The settings in a directory, which is made if it is missing. -/
def settingsIn (d : Disk) (directory : String) : Settings Float :=
  if d.contains directory then d.settingsAt (fileIn directory)
  else
    match d.makeDirectories directory with
    | (.ok (), made) => made.settingsAt (fileIn directory)
    | (.error _, _) => Settings.standard

theorem settingsIn_of_contains (h : d.contains directory = true) :
    d.settingsIn directory = d.settingsAt (fileIn directory) := by
  unfold settingsIn
  rw [h, if_pos rfl]

theorem settingsIn_of_made (hmissing : d.contains directory = false)
    (h : d.makeDirectories directory = (.ok (), e)) :
    d.settingsIn directory = e.settingsAt (fileIn directory) := by
  unfold settingsIn
  rw [hmissing, if_neg Bool.false_ne_true, h]

theorem settingsIn_of_failed {fault : FileFault} (hmissing : d.contains directory = false)
    (h : d.makeDirectories directory = (.error fault, e)) :
    d.settingsIn directory = Settings.standard := by
  unfold settingsIn
  rw [hmissing, if_neg Bool.false_ne_true, h]

theorem settingsAt_of_error {fault : FileFault} (h : d.find path = .error fault) :
    d.settingsAt path = Settings.standard := by
  unfold settingsAt
  rw [h]
  rfl

theorem Leaves.settingsAt (h : Leaves d e path) : e.settingsAt path = d.settingsAt path := by
  cases hfound : d.find path with
  | ok node =>
    unfold Disk.settingsAt
    rw [hfound, h.find.mpr hfound]
  | error fault =>
    rw [settingsAt_of_error hfound]
    cases hfound' : e.find path with
    | ok node => cases hfound.symm.trans (h.find.mp hfound')
    | error fault' => exact settingsAt_of_error hfound'

/-- No settings come to light when the directory is made. -/
theorem settingsIn_of_not_contains (hmissing : d.contains directory = false)
    (h : (d.makeDirectories directory).2.contains (fileIn directory) = false) :
    d.settingsIn directory = Settings.standard := by
  obtain ⟨made, e, hmake⟩ : ∃ made e, d.makeDirectories directory = (made, e) := ⟨_, _, rfl⟩
  rw [hmake] at h
  cases made with
  | error fault => exact settingsIn_of_failed hmissing hmake
  | ok u =>
    rw [settingsIn_of_made hmissing hmake]
    cases hfound : e.find (fileIn directory) with
    | error fault => exact settingsAt_of_error hfound
    | ok node => cases h.symm.trans (contains_of_find hfound)

/-- In a directory that is none there are no settings. -/
theorem settingsAt_of_ne_directory (hd : d.Rooted) (hdirectory : Path.EndsOpen directory)
    (h : d.find directory ≠ .ok .directory) :
    d.settingsAt (fileIn directory) = Settings.standard := by
  cases hfound : d.find (fileIn directory) with
  | error fault => exact settingsAt_of_error hfound
  | ok node =>
    obtain ⟨goal, hgoal, -⟩ := find_eq_ok.mp hfound
    exact absurd (find_of_resolve_fileIn hd hdirectory hgoal) h

/-- Whether the directory could be made or not, the settings are what they were. -/
theorem settingsIn_makeDirectories (hd : d.Rooted) (hdirectory : Path.EndsOpen directory)
    {result : Except FileFault Unit} (hmissing : d.contains directory = false)
    (h : d.makeDirectories directory = (result, e)) :
    e.settingsIn directory = d.settingsIn directory := by
  have hrooted := rooted_makeDirectories hd directory
  rw [h] at hrooted
  cases result with
  | ok u =>
    have hfind := find_of_makeDirectories hd hdirectory.isEmpty h
    rw [settingsIn_of_made hmissing h, settingsIn_of_contains (contains_of_find hfind)]
  | error fault =>
    obtain ⟨hnone, cause, hagain⟩ := blocked_of_makeDirectories hd hdirectory.isEmpty h
    rw [settingsIn_of_failed hmissing h]
    cases hthere : e.contains directory with
    | true =>
      rw [settingsIn_of_contains hthere]
      exact settingsAt_of_ne_directory hrooted hdirectory hnone
    | false => exact settingsIn_of_failed hthere hagain

/-- Nor does a text that is written beside them change the settings. -/
theorem settingsIn_of_write_beside {content : ByteArray} (hd : d.Rooted)
    (hdirectory : Path.EndsOpen directory)
    (h : d.write (Path.beside (fileIn directory)) content = .ok e) :
    e.settingsIn directory = d.settingsIn directory := by
  have hfind := find_of_write_beside hd hdirectory h
  have hsame := sameDirectories_of_write h
  rw [settingsIn_of_contains (contains_of_find hfind),
    settingsIn_of_contains (contains_of_find (hsame.find hfind)),
      (leaves_of_write_beside h).settingsAt]

/-- Saved settings are read from their text. -/
theorem settingsIn_of_replace {f : Disk} {s : Settings Float} (hd : d.Rooted)
    (hdirectory : Path.EndsOpen directory) (hcheck : s.check = .ok ())
    (hwrite : d.write (Path.beside (fileIn directory)) s.text.toUTF8 = .ok e)
    (hmove : e.move (Path.beside (fileIn directory)) (fileIn directory) = .ok f) :
    f.settingsIn directory = s.reread := by
  have hfind := find_of_write_beside hd hdirectory hwrite
  have hsame := (sameDirectories_of_write hwrite).trans (sameDirectories_of_move hmove)
  rw [settingsIn_of_contains (contains_of_find (hsame.find hfind))]
  unfold settingsAt
  rw [find_of_move_beside hwrite hmove, Settings.ofFound_text _ hcheck]
  rfl

end Disk
end Filament
