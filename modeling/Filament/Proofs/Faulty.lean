import Filament.Action
import Filament.Files.Machine
import Filament.Proofs.Directories
import Filament.Settings.File

/-!
A machine whose disk fails now and then.

A question about a file may go without an answer. A write that fails may leave a part of the text,
or anything else, in the file that was written, and a move that fails leaves everything where it
was, as does a directory that cannot be made. A text that is written beside its place and moved
there is found at its place if all went well (`Files.replace_ok`), and otherwise nothing but the
file beside was touched (`Files.replace_error`).
-/

namespace Filament

/-- What goes wrong with a change to the disk, and what a write leaves in its file. -/
structure Mishap where
  fault : FileFault
  left : Option ByteArray

/-- A machine, and what will go wrong: first with the next questions about files, then with the next
changes to files and directories. Once there is nothing left in a list, all goes well. -/
structure Faulty where
  machine : Machine
  misreads : List (Option FileFault)
  mishaps : List (Option Mishap)

namespace Faulty

def disk (f : Faulty) : Disk := f.machine.disk

def withDisk (f : Faulty) (disk : Disk) : Faulty := { f with machine := { f.machine with disk } }

/-- A question about the disk, and the answer to it if it goes wrong. -/
def ask {γ : Type} (wrong : FileFault → γ) (answer : Disk → γ) : StateM Faulty γ := fun f =>
  ((f.misreads.head?.join.map wrong).getD (answer f.disk), { f with misreads := f.misreads.tail })

/-- The machine once the next change has gone as it was to. -/
def past (f : Faulty) (disk : Disk) : Faulty := { f.withDisk disk with mishaps := f.mishaps.tail }

/-- Directories are made, unless that goes wrong before any is. -/
def make (path : String) : StateM Faulty (Except FileFault Unit) := fun f =>
  match f.mishaps.head?.join with
  | some mishap => (.error mishap.fault, f.past f.disk)
  | none => ((f.disk.makeDirectories path).1, f.past (f.disk.makeDirectories path).2)

/-- A change to a file, and what a mishap makes of the disk instead. -/
def change (spoil : Mishap → Disk → Disk) (go : Disk → Except FileFault Disk) :
    StateM Faulty (Except FileFault Unit) := fun f =>
  match f.mishaps.head?.join with
  | some mishap => (.error mishap.fault, f.past (spoil mishap f.disk))
  | none =>
    match go f.disk with
    | .ok disk => (.ok (), f.past disk)
    | .error fault => (.error fault, f.past f.disk)

/-- A write that fails may still have made the file, and written to it. -/
def spoilWrite (write : ByteArray → Disk → Except FileFault Disk) (mishap : Mishap) (d : Disk) :
    Disk :=
  match mishap.left with
  | some content => (write content d).toOption.getD d
  | none => d

instance : Files (StateM Faulty) where
  pathExists path := ask (fun _ => false) (·.contains path)
  size path := ask .error (·.size path)
  read path := ask .error (·.read path)
  makeDirectories path := make path
  write path text :=
    change (spoilWrite fun content d => d.write path content) (·.write path text.toUTF8)
  append path text :=
    change (spoilWrite fun content d => d.append path content) (·.append path text.toUTF8)
  move source target := change (fun _ d => d) (·.move source target)

instance : Environment (StateM Faulty) where
  valueOf? name := return (← get).machine.valueOf? name
  platformDirectory? := return (← get).machine.platformDirectory?
  milliseconds := return (← get).machine.milliseconds

/-- The directory above that of the user's settings. -/
def base? (f : Faulty) : Option String :=
  match f.machine.valueOf? "XDG_CONFIG_HOME" with
  | some base => some base
  | none =>
    match f.machine.valueOf? "HOME" with
    | some home => some (Path.join home ".config")
    | none => f.machine.platformDirectory?

/-- The directory of the user's settings, as the environment or the platform names it. -/
def directory? (f : Faulty) : Option String := f.base?.map (Path.join · "filamentmanager")

/-- The same machine, later. -/
structure Later (f g : Faulty) : Prop where
  directory? : g.directory? = f.directory?
  misreads : f.misreads = [] → g.misreads = []

variable {f g h : Faulty} {γ : Type}

theorem Later.refl (f : Faulty) : Later f f := ⟨rfl, id⟩

theorem Later.trans (hfg : Later f g) (hgh : Later g h) : Later f h :=
  ⟨hgh.directory?.trans hfg.directory?, fun hnil => hgh.misreads (hfg.misreads hnil)⟩

theorem later_past (f : Faulty) (d : Disk) : Later f (f.past d) := ⟨rfl, id⟩

theorem ask_eq (hnil : f.misreads = []) (wrong : FileFault → γ) (answer : Disk → γ) :
    ask wrong answer f = (answer f.disk, f) := by
  obtain ⟨machine, misreads, mishaps⟩ := f
  cases hnil
  rfl

theorem later_ask (wrong : FileFault → γ) (answer : Disk → γ) (f : Faulty) :
    Later f (ask wrong answer f).2 ∧ (ask wrong answer f).2.disk = f.disk :=
  ⟨⟨rfl, fun hnil => congrArg List.tail hnil⟩, rfl⟩

/-- A mishap keeps the directories from being made, or it is the disk that decides. -/
theorem make_cases {path : String} {made : Except FileFault Unit} (h : make path f = (made, g)) :
    (∃ fault, made = .error fault ∧ g = f.past f.disk) ∨
      ∃ d, f.disk.makeDirectories path = (made, d) ∧ g = f.past d := by
  unfold make at h
  split at h
  · cases h
    exact Or.inl ⟨_, rfl, rfl⟩
  · cases h
    exact Or.inr ⟨_, rfl, rfl⟩

theorem grows_make {path : String} {made : Except FileFault Unit} (h : make path f = (made, g)) :
    Later f g ∧ f.disk.Grows g.disk := by
  rcases make_cases h with ⟨_, -, rfl⟩ | ⟨d, hd, rfl⟩
  · exact ⟨later_past f _, Disk.Grows.refl _⟩
  · have hgrows := Disk.grows_makeDirectories f.disk path
    rw [hd] at hgrows
    exact ⟨later_past f d, hgrows⟩

theorem change_ok {spoil : Mishap → Disk → Disk} {go : Disk → Except FileFault Disk}
    (h : change spoil go f = (.ok (), g)) : ∃ d, go f.disk = .ok d ∧ g = f.past d := by
  unfold change at h
  split at h
  · cases h
  · split at h
    · rename_i d hd
      cases h
      exact ⟨d, hd, rfl⟩
    · cases h

theorem change_error {spoil : Mishap → Disk → Disk} {go : Disk → Except FileFault Disk}
    {fault : FileFault} (h : change spoil go f = (.error fault, g)) :
    g = f.past f.disk ∨ ∃ mishap, g = f.past (spoil mishap f.disk) := by
  unfold change at h
  split at h
  · rename_i mishap _
    cases h
    exact Or.inr ⟨mishap, rfl⟩
  · split at h
    · cases h
    · cases h
      exact Or.inl rfl

/-- What a mishap leaves behind is there only if it could be written. -/
theorem spoilWrite_cases (write : ByteArray → Disk → Except FileFault Disk) (mishap : Mishap)
    (d : Disk) :
    spoilWrite write mishap d = d ∨ ∃ content,
      write content d = .ok (spoilWrite write mishap d) := by
  unfold spoilWrite
  cases mishap.left with
  | none => exact Or.inl rfl
  | some content =>
    dsimp only
    cases hwrite : write content d with
    | error fault => exact Or.inl rfl
    | ok e => exact Or.inr ⟨content, hwrite⟩

end Faulty

variable {f g : Faulty} {path text : String} {error : Error Float}

namespace Files

open Faulty

theorem write_ok (h : (Files.write path text : StateM Faulty _) f = (.ok (), g)) :
    ∃ d, f.disk.write path text.toUTF8 = .ok d ∧ g = f.past d :=
  change_ok h

theorem move_ok {source target : String}
    (h : (Files.move source target : StateM Faulty _) f = (.ok (), g)) :
    ∃ d, f.disk.move source target = .ok d ∧ g = f.past d :=
  change_ok h

theorem write_error {fault : FileFault}
    (h : (Files.write path text : StateM Faulty _) f = (.error fault, g)) :
    Later f g ∧ (g.disk = f.disk ∨ ∃ content, f.disk.write path content = .ok g.disk) := by
  have hchange : change (spoilWrite fun content d => d.write path content)
      (·.write path text.toUTF8) f = (.error fault, g) := h
  rcases change_error hchange with rfl | ⟨mishap, rfl⟩
  · exact ⟨later_past _ _, Or.inl rfl⟩
  · exact ⟨later_past _ _, spoilWrite_cases (fun content d => d.write path content) mishap f.disk⟩

theorem move_error {source target : String} {fault : FileFault}
    (h : (Files.move source target : StateM Faulty _) f = (.error fault, g)) :
    Later f g ∧ g.disk = f.disk := by
  have hchange : change (fun _ d => d) (·.move source target) f = (.error fault, g) := h
  rcases change_error hchange with rfl | ⟨mishap, rfl⟩
  · exact ⟨later_past _ _, rfl⟩
  · exact ⟨later_past _ _, rfl⟩

/-- A text is written beside its place and then moved there. -/
theorem run_replace (path text : String) (f : Faulty) :
    Action.run (Files.replace path text) f =
      match (Files.write (Path.beside path) text : StateM Faulty _) f with
      | (.error fault, g) => (.error (.fileWrite (Path.beside path) fault), g)
      | (.ok (), g) =>
        match (Files.move (Path.beside path) path : StateM Faulty _) g with
        | (.error fault, h) => (.error (.fileWrite path fault), h)
        | (.ok (), h) => (.ok (), h) := by
  unfold Files.replace Path.beside
  rw [Action.run_bind]
  dsimp only
  rw [Action.run_lift]
  dsimp only
  obtain ⟨written, g⟩ := (Files.write (Path.withExtension path "json.tmp") text : StateM Faulty _) f
  cases written with
  | error fault => rfl
  | ok u =>
    dsimp only
    rw [Action.run_bind, Action.run_lift]
    dsimp only
    obtain ⟨moved, h⟩ := (Files.move (Path.withExtension path "json.tmp") path : StateM Faulty _) g
    cases moved <;> rfl

/-- If all goes well, what was written beside is moved to its place. -/
theorem replace_ok (h : Action.run (Files.replace path text) f = (.ok (), g)) :
    Later f g ∧ ∃ e, f.disk.write (Path.beside path) text.toUTF8 = .ok e ∧
      e.move (Path.beside path) path = .ok g.disk := by
  rw [run_replace] at h
  split at h
  · cases h
  · rename_i written hwrite
    split at h
    · cases h
    · rename_i moved hmove
      cases h
      obtain ⟨e, he, rfl⟩ := write_ok hwrite
      obtain ⟨d, hd, rfl⟩ := move_ok hmove
      exact ⟨(later_past f e).trans (later_past _ d), e, he, hd⟩

/-- Otherwise nothing was changed, or something was written beside. -/
theorem replace_error (h : Action.run (Files.replace path text) f = (.error error, g)) :
    Later f g ∧
      (g.disk = f.disk ∨ ∃ content, f.disk.write (Path.beside path) content = .ok g.disk) := by
  rw [run_replace] at h
  split at h
  · rename_i fault spoilt hwrite
    cases h
    exact write_error hwrite
  · rename_i written hwrite
    obtain ⟨e, he, rfl⟩ := write_ok hwrite
    split at h
    · rename_i fault after hmove
      cases h
      obtain ⟨hlater, hdisk⟩ := move_error hmove
      rw [hdisk]
      exact ⟨(later_past f e).trans hlater, Or.inr ⟨_, he⟩⟩
    · cases h

end Files

/-! ## Reading -/

/-- Nothing is changed by an operation that only asks. -/
def OnlyAsks {ε γ : Type} (x : Action Faulty ε γ) : Prop :=
  ∀ f, Faulty.Later f (x.run f).2 ∧ (x.run f).2.disk = f.disk

section

variable {ε γ δ : Type}

theorem onlyAsks_ask (wrong : FileFault → γ) (answer : Disk → γ) :
    OnlyAsks (liftM (Faulty.ask wrong answer) : ExceptT ε (StateM Faulty) γ) :=
  Faulty.later_ask wrong answer

theorem onlyAsks_of_run {x : Action Faulty ε γ} {result : Except ε γ}
    (h : ∀ f, x.run f = (result, f)) : OnlyAsks x := by
  intro f
  rw [h]
  exact ⟨Faulty.Later.refl f, rfl⟩

theorem OnlyAsks.bind {x : Action Faulty ε γ} {next : γ → Action Faulty ε δ} (hx : OnlyAsks x)
    (hnext : ∀ a, OnlyAsks (next a)) : OnlyAsks (x >>= next) := by
  intro f
  obtain ⟨hlater, hdisk⟩ := hx f
  rw [Action.run_bind]
  split
  · rename_i a g hrun
    rw [hrun] at hlater hdisk
    exact ⟨hlater.trans (hnext a g).1, (hnext a g).2.trans hdisk⟩
  · rename_i e g hrun
    rw [hrun] at hlater hdisk
    exact ⟨hlater, hdisk⟩

end

namespace Files

theorem run_checkSize (hnil : f.misreads = []) (path : String) :
    Action.run (Files.checkSize path) f =
      (match f.disk.size path with
        | .ok size => if maxFileSize < size then .error (.config (.fileTooLarge path)) else .ok ()
        | .error fault => .error (.fileRead path fault), f) := by
  have hsize : (Files.size path : StateM Faulty _) f = (f.disk.size path, f) :=
    Faulty.ask_eq hnil _ _
  unfold Files.checkSize
  rw [Action.run_bind, Action.run_lift, hsize]
  dsimp only
  cases f.disk.size path with
  | error fault => rfl
  | ok size =>
    dsimp only
    split <;> rfl

theorem run_readText (hnil : f.misreads = []) (path : String) :
    Action.run (Files.readText path) f = ((f.disk.read path).mapError (.fileRead path), f) := by
  have hread : (Files.read path : StateM Faulty _) f = (f.disk.read path, f) :=
    Faulty.ask_eq hnil _ _
  unfold Files.readText
  rw [Action.run_bind, Action.run_lift, hread]
  dsimp only
  cases f.disk.read path <;> rfl

theorem onlyAsks_checkSize (path : String) :
    OnlyAsks (Files.checkSize (m := StateM Faulty) path) := by
  refine (onlyAsks_ask _ _).bind fun answer => ?_
  cases answer with
  | error fault => exact onlyAsks_of_run fun _ => rfl
  | ok size =>
    dsimp only
    split
    · exact onlyAsks_of_run fun _ => rfl
    · exact onlyAsks_of_run fun _ => rfl

theorem onlyAsks_readText (path : String) :
    OnlyAsks (Files.readText (m := StateM Faulty) path) := by
  refine (onlyAsks_ask _ _).bind fun answer => ?_
  cases answer with
  | error fault => exact onlyAsks_of_run fun _ => rfl
  | ok text => exact onlyAsks_of_run fun _ => rfl

end Files

namespace Settings

/-- The settings in what is found at a path. -/
def ofFound (path : String) : Except FileFault Node → Except (Error Float) (Settings Float)
  | .error _ => .ok standard
  | .ok .directory => .error (.fileRead path .isADirectory)
  | .ok (.file content) =>
    if maxFileSize < content.size then .error (.config (.fileTooLarge path))
    else
      match String.fromUTF8? content with
      | some text => parse text
      | none => .error (.fileRead path .notText)

theorem run_loadFrom (hnil : f.misreads = []) (path : String) :
    Action.run (loadFrom path) f = (ofFound path (f.disk.find path), f) := by
  have hexists : (Files.pathExists path : StateM Faulty Bool) f = ((f.disk.find path).isOk, f) :=
    Faulty.ask_eq hnil _ _
  unfold loadFrom
  rw [Action.run_bind, Action.run_lift, hexists]
  dsimp only
  cases hfound : f.disk.find path with
  | error fault => rfl
  | ok node =>
    have hok : (Except.ok node : Except FileFault Node).isOk = true := rfl
    rw [hok, if_pos rfl, Action.run_bind, Files.run_checkSize hnil]
    cases node with
    | directory =>
      rw [Disk.size_of_directory hfound]
      dsimp only
      rw [if_neg (Nat.not_lt_zero _)]
      dsimp only
      rw [Action.run_bind, Files.run_readText hnil, Disk.read_of_directory hfound]
      rfl
    | file content =>
      rw [Disk.size_of_file hfound]
      unfold ofFound
      dsimp only
      by_cases hlarge : maxFileSize < content.size
      · rw [if_pos hlarge, if_pos hlarge]
      · rw [if_neg hlarge, if_neg hlarge]
        dsimp only
        rw [Action.run_bind, Files.run_readText hnil, Disk.read_of_file hfound]
        cases String.fromUTF8? content <;> rfl

theorem onlyAsks_loadFrom (path : String) : OnlyAsks (loadFrom (m := StateM Faulty) path) := by
  refine (onlyAsks_ask _ _).bind fun answer => ?_
  cases answer with
  | false => exact onlyAsks_of_run fun _ => rfl
  | true =>
    refine (Files.onlyAsks_checkSize path).bind fun _ => ?_
    exact (Files.onlyAsks_readText path).bind fun text => onlyAsks_of_run fun _ => rfl

theorem run_directory? (f : Faulty) :
    (UserFiles.directory? : StateM Faulty _) f = (f.directory?, f) := by
  have hvalue : ∀ name, (Environment.valueOf? name : StateM Faulty _) f =
      (f.machine.valueOf? name, f) :=
    fun _ => rfl
  have hbind : ∀ {γ δ : Type} (x : StateM Faulty γ) (k : γ → StateM Faulty δ),
      (x >>= k) f = k (x f).1 (x f).2 :=
    fun _ _ => rfl
  have hbase : (UserFiles.base? : StateM Faulty _) f = (f.base?, f) := by
    unfold UserFiles.base? Faulty.base?
    rw [hbind, hvalue]
    dsimp only
    cases f.machine.valueOf? "XDG_CONFIG_HOME" with
    | some base => rfl
    | none =>
      dsimp only
      rw [hbind, hvalue]
      dsimp only
      cases f.machine.valueOf? "HOME" <;> rfl
  unfold UserFiles.directory? Faulty.directory?
  rw [hbind, hbase]
  rfl

/-- The path of the settings in the user's directory. -/
def fileIn (directory : String) : String := Path.join directory "settings.json"

/-- The directory is made if nothing is seen there. -/
theorem run_filePath (f : Faulty) :
    Action.run filePath f =
      match f.directory? with
      | none => (.error (.config .noDirectory), f)
      | some directory =>
        match (Files.pathExists directory : StateM Faulty Bool) f with
        | (true, g) => (.ok (fileIn directory), g)
        | (false, g) =>
          match Faulty.make directory g with
          | (.ok (), h) => (.ok (fileIn directory), h)
          | (.error fault, h) => (.error (.config (.cannotCreateDirectory fault)), h) := by
  unfold filePath
  rw [Action.run_bind, Action.run_lift, run_directory?]
  dsimp only
  cases f.directory? with
  | none => rfl
  | some directory =>
    dsimp only
    rw [Action.run_bind, Action.run_lift]
    dsimp only
    obtain ⟨answer, g⟩ := (Files.pathExists directory : StateM Faulty Bool) f
    cases answer with
    | true => rfl
    | false =>
      have hmake : (Files.makeDirectories directory : StateM Faulty _) g =
        Faulty.make directory g := rfl
      dsimp only
      rw [Bool.not_false, if_pos rfl, Action.run_bind, Action.run_lift, hmake]
      dsimp only
      obtain ⟨made, h⟩ := Faulty.make directory g
      cases made <;> rfl

theorem later_pathExists {answer : Bool}
    (h : (Files.pathExists path : StateM Faulty Bool) f = (answer, g)) :
    Faulty.Later f g ∧ g.disk = f.disk := by
  have hask := Faulty.later_ask (fun _ => false) (·.contains path) f
  have heq : (Files.pathExists path : StateM Faulty Bool) = Faulty.ask (fun _ => false)
    (·.contains path) := rfl
  rw [← heq, h] at hask
  exact hask

/-- Whatever comes of it, no file is touched. -/
theorem grows_filePath {result : Except (Error Float) String}
    (h : Action.run filePath f = (result, g)) : Faulty.Later f g ∧ Disk.Grows f.disk g.disk := by
  rw [run_filePath] at h
  split at h
  · cases h
    exact ⟨Faulty.Later.refl f, Disk.Grows.refl _⟩
  · rename_i directory hdirectory
    split at h
    · rename_i after hanswer
      cases h
      obtain ⟨hlater, hdisk⟩ := later_pathExists hanswer
      exact ⟨hlater, hdisk ▸ Disk.Grows.refl _⟩
    · rename_i after hanswer
      obtain ⟨hlater, hdisk⟩ := later_pathExists hanswer
      have hmade : ∀ {made}, Faulty.make directory after = (made, g) →
          Faulty.Later f g ∧ f.disk.Grows g.disk := by
        intro made hmake
        obtain ⟨hthen, hgrows⟩ := Faulty.grows_make hmake
        exact ⟨hlater.trans hthen, hdisk ▸ hgrows⟩
      split at h
      · rename_i made hmake
        cases h
        exact hmade hmake
      · rename_i fault spoilt hmake
        cases h
        exact hmade hmake

theorem filePath_ok (h : Action.run filePath f = (.ok path, g)) :
    ∃ directory, f.directory? = some directory ∧ path = fileIn directory := by
  rw [run_filePath] at h
  split at h
  · cases h
  · rename_i directory hdirectory
    refine ⟨directory, hdirectory, ?_⟩
    split at h
    · cases h
      rfl
    · split at h
      · cases h
        rfl
      · cases h

end Settings
end Filament
