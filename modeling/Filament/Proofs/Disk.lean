import Filament.Files.Disk
import Filament.Proofs.Check
import Filament.Proofs.Paths

/-!
Where paths lead, and what an operation on a disk leaves alone.

A path leads through directories to its last name (`follow_append`), so it leads to the same place
on every disk with the same directories. Writing a file and moving it change no directory
(`sameDirectories_of_write`, `sameDirectories_of_move`). A path and the path beside it lead to
different places (`ne_of_target_beside`), so that what stands at a path is left alone while a text
is written beside it (`leaves_of_write_beside`).
-/

namespace Filament
namespace Disk

variable {d e : Disk} {slash : Bool} {place : List String} {names : List String} {goal : Place}
    {path : String}

/-! ## Following names -/

/-- The place that names lead to if all of them are directories. -/
def enter (d : Disk) (place : List String) : List String → Except FileFault (List String)
  | [] => .ok place
  | name :: rest =>
    if name = "." then enter d place rest
    else if name = ".." then enter d (above place) rest
    else if maxNameSize < name.utf8ByteSize then .error .nameTooLong
    else
      match d.node? (place ++ [name]) with
      | some .directory => enter d (place ++ [name]) rest
      | some (.file _) => .error .notADirectory
      | none => .error .notFound

/-- All names but the last ones have to be directories. -/
theorem follow_append (d : Disk) (slash : Bool) (place : List String) (front : List String)
    {more : List String} (hmore : more ≠ []) :
    d.follow slash place (front ++ more) = (d.enter place front).bind (d.follow slash · more) := by
  have hrest : ∀ rest : List String, (rest ++ more).isEmpty = false := by simp [hmore]
  fun_induction enter d place front with
  | case1 place => rfl
  | case2 place rest ih => rw [List.cons_append, follow, if_pos rfl, ih]
  | case3 place rest hdot ih => rw [List.cons_append, follow, if_neg hdot, if_pos rfl, ih]
  | case4 place name rest hdot hup hlong =>
    rw [List.cons_append, follow, if_neg hdot, if_neg hup, if_pos hlong]
    rfl
  | case5 place name rest hdot hup hlong hthere ih =>
    rw [List.cons_append, follow, if_neg hdot, if_neg hup, if_neg hlong, hrest,
      if_neg Bool.false_ne_true, hthere]
    exact ih
  | case6 place name rest hdot hup hlong content hthere =>
    rw [List.cons_append, follow, if_neg hdot, if_neg hup, if_neg hlong, hrest,
      if_neg Bool.false_ne_true, hthere]
    rfl
  | case7 place name rest hdot hup hlong hthere =>
    rw [List.cons_append, follow, if_neg hdot, if_neg hup, if_neg hlong, hrest,
      if_neg Bool.false_ne_true, hthere]
    rfl

theorem follow_dots {dots : List String} (h : ∀ n ∈ dots, n = ".") :
    d.follow slash place dots = .ok { names := place, ending := .noName } := by
  induction dots with
  | nil => rfl
  | cons n dots ih =>
    rw [List.forall_mem_cons] at h
    rw [follow, if_pos h.1, ih h.2]

/-- Single dots behind a name change nothing about where it leads. -/
theorem names_of_follow_cons {name : String} {dots : List String} (hdot : name ≠ ".")
    (hup : name ≠ "..")
    (hdots : ∀ n ∈ dots, n = ".") (h : d.follow slash place (name :: dots) = .ok goal) :
    goal.names = place ++ [name] := by
  rw [follow, if_neg hdot, if_neg hup] at h
  split at h
  · cases h
  · split at h
    · cases h
      rfl
    · rw [follow_dots hdots] at h
      split at h <;> cases h
      rfl

/-- A path leads where it led if the directories on the way are still there. -/
theorem follow_of_directories
    (hdir : ∀ p, d.node? p = some .directory → e.node? p = some .directory)
    (h : d.follow slash place names = .ok goal) : e.follow slash place names = .ok goal := by
  fun_induction follow d slash place names with
  | case1 place => exact h
  | case2 place rest ih => exact ih h
  | case3 place rest hdot ih => exact ih h
  | case4 => cases h
  | case5 place name rest hdot hup hlong hlast =>
    simpa only [follow, hdot, hup, hlong, hlast, if_false, if_true] using h
  | case6 place name rest hdot hup hlong hlast hthere ih =>
    simp only [follow, hdot, hup, hlong, hlast, hdir _ hthere, if_false]
    exact ih h
  | case7 => cases h
  | case8 => cases h

/-! ## Paths -/

theorem map_ofList_dots {dots : List (List Char)} (h : ∀ n ∈ dots, n = ['.']) :
    ∀ n ∈ dots.map String.ofList, n = "." := by
  rw [List.forall_mem_map]
  intro n hn
  rw [h n hn]

theorem ending_of_follow {ns : List (List Char)} (hends : Path.EndsInNoName ns)
    (h : d.follow slash place (ns.map String.ofList) = .ok goal) : goal.ending = .noName := by
  obtain ⟨front, dots, rfl, hfront, hdots⟩ := hends
  have hdots' := map_ofList_dots hdots
  rcases hfront with rfl | ⟨up, rfl⟩
  · rw [List.nil_append, follow_dots hdots'] at h
    cases h
    rfl
  · have hup : String.ofList ['.', '.'] = ".." := rfl
    rw [List.append_assoc, List.map_append, follow_append _ _ _ _ (by simp)] at h
    obtain ⟨p, _, hp⟩ := bind_eq_ok.mp h
    rw [List.singleton_append, List.map_cons, hup, follow, if_neg (by decide), if_pos rfl,
      follow_dots hdots'] at hp
    cases hp
    rfl

end Disk

theorem Route.ofPath_eq_ok {path : String} {route : Route} (h : Route.ofPath path = .ok route) :
    route.names = (Path.names path.toList).map String.ofList ∧
      route.start = if path.toList.head? = some '/' then ["/"] else [] := by
  unfold Route.ofPath at h
  split at h
  · cases h
  · split at h
    · cases h
    · split at h
      · cases h
      · cases h
        refine ⟨rfl, ?_⟩
        have hstart : path.startsWith "/" = true ↔ path.toList.head? = some '/' := by
          rw [String.startsWith_string_iff]
          cases path.toList with
          | nil => simp
          | cons c cs => simp [eq_comm]
        simp only [hstart]

namespace Disk

variable {d e : Disk} {place : List String} {goal : Place} {path : String}

theorem resolve_eq_ok :
    d.resolve path = .ok goal ↔
      ∃ route, Route.ofPath path = .ok route ∧
        d.follow route.slash route.start route.names = .ok goal :=
  bind_eq_ok

theorem resolve_of_directories
    (hdir : ∀ p, d.node? p = some .directory → e.node? p = some .directory)
    (h : d.resolve path = .ok goal) : e.resolve path = .ok goal := by
  obtain ⟨route, hroute, hgoal⟩ := resolve_eq_ok.mp h
  exact resolve_eq_ok.mpr ⟨route, hroute, follow_of_directories hdir hgoal⟩

theorem find_eq_ok {node : Node} :
    d.find path = .ok node ↔ ∃ goal, d.resolve path = .ok goal ∧ d.node? goal.names = some node ∧
      (node = .directory ∨ goal.ending ≠ .slash) := by
  unfold find
  rw [bind_eq_ok]
  refine exists_congr fun goal => and_congr_right fun _ => ?_
  cases d.node? goal.names with
  | none => simp [throw, throwThe, MonadExceptOf.throw]
  | some there =>
    cases there with
    | directory => cases goal.ending <;> cases node <;> simp [pure, Except.pure]
    | file content =>
      cases goal.ending <;> cases node <;> simp [pure, Except.pure, throw, throwThe,
        MonadExceptOf.throw]

theorem size_of_directory (h : d.find path = .ok .directory) : d.size path = .ok 0 := by
  unfold size
  rw [h]
  rfl

theorem size_of_file {content : ByteArray} (h : d.find path = .ok (.file content)) :
    d.size path = .ok content.size := by
  unfold size
  rw [h]
  rfl

theorem read_of_directory (h : d.find path = .ok .directory) :
    d.read path = .error .isADirectory := by
  unfold read
  rw [h]
  rfl

theorem read_of_file {content : ByteArray} (h : d.find path = .ok (.file content)) :
    d.read path =
      match String.fromUTF8? content with
      | some text => .ok text
      | none => .error .notText := by
  unfold read
  rw [h]
  show (match String.fromUTF8? content with
    | some text => pure text
    | none => throw FileFault.notText) = _
  cases String.fromUTF8? content <;> rfl

/-! ## Writing and moving -/

/-- The same places are directories. -/
def SameDirectories (d e : Disk) : Prop := ∀ p, d.node? p = some .directory ↔
    e.node? p = some .directory

theorem SameDirectories.trans {f : Disk} (h : SameDirectories d e) (h' : SameDirectories e f) :
    SameDirectories d f :=
  fun p => (h p).trans (h' p)

theorem SameDirectories.resolve (h : SameDirectories d e) :
    d.resolve path = .ok goal ↔ e.resolve path = .ok goal :=
  ⟨resolve_of_directories fun p => (h p).mp, resolve_of_directories fun p => (h p).mpr⟩

theorem node?_put (d : Disk) (place p : List String) (node : Option Node) :
    (d.put place node).node? p = if p = place then node else d.node? p := rfl

theorem sameDirectories_put {node : Option Node} (hold : d.node? place ≠ some .directory)
    (hnew : node ≠ some .directory) : SameDirectories d (d.put place node) := by
  intro p
  rw [node?_put]
  split
  · rename_i hp
    rw [hp]
    exact iff_of_false hold hnew
  · exact Iff.rfl

theorem target_eq_ok {old : ByteArray} (h : d.target path = .ok (place, old)) :
    ∃ goal, d.resolve path = .ok goal ∧ goal.names = place ∧ goal.ending = .name ∧
      d.node? place ≠ some .directory := by
  obtain ⟨goal, hgoal, htarget⟩ := bind_eq_ok.mp h
  refine ⟨goal, hgoal, ?_⟩
  split at htarget
  · rename_i hending hnode
    cases htarget
    exact ⟨rfl, hending, by simp [hnode]⟩
  · rename_i hending hnode
    cases htarget
    exact ⟨rfl, hending, by simp [hnode]⟩
  · cases htarget

theorem write_eq_ok {content : ByteArray} (h : d.write path content = .ok e) :
    ∃ place old, d.target path = .ok (place, old) ∧ e = d.put place (some (.file content)) := by
  obtain ⟨⟨place, old⟩, htarget, hput⟩ := bind_eq_ok.mp h
  cases hput
  exact ⟨place, old, htarget, rfl⟩

theorem sameDirectories_of_write {content : ByteArray} (h : d.write path content = .ok e) :
    SameDirectories d e := by
  obtain ⟨place, old, htarget, rfl⟩ := write_eq_ok h
  obtain ⟨_, _, _, _, hnode⟩ := target_eq_ok htarget
  exact sameDirectories_put hnode (by simp)

/-- A file is moved from a place to one where no directory stands. -/
theorem move_eq_ok {source target : String} (h : d.move source target = .ok e) :
    ∃ origin goal content, d.resolve source = .ok origin ∧ d.resolve target = .ok goal ∧
      d.node? origin.names = some (.file content) ∧ d.node? goal.names ≠ some .directory ∧
      goal.ending ≠ .slash ∧ e = (d.put origin.names none).put goal.names
        (some (.file content)) := by
  obtain ⟨origin, horigin, h⟩ := bind_eq_ok.mp h
  obtain ⟨goal, hgoal, h⟩ := bind_eq_ok.mp h
  refine ⟨origin, goal, ?_⟩
  dsimp only at h
  split at h
  · cases h
  · split at h
    · cases h
    · cases h
    · rename_i content hfile
      split at h
      · cases h
      · rename_i hslash
        rw [not_or] at hslash
        split at h
        · cases h
        · rename_i hthere
          cases h
          refine ⟨content, horigin, hgoal, hfile, fun hdir => hthere ?_, hslash.2, rfl⟩
          rw [hdir]
          rfl

theorem sameDirectories_of_move {source target : String} (h : d.move source target = .ok e) :
    SameDirectories d e := by
  obtain ⟨origin, goal, content, _, _, hfile, hgoal, _, rfl⟩ := move_eq_ok h
  have hfirst : SameDirectories d (d.put origin.names none) :=
    sameDirectories_put (by simp [hfile]) (by simp)
  exact hfirst.trans (sameDirectories_put (fun hdir => hgoal ((hfirst _).mpr hdir)) (by simp))

/-! ## The path beside -/

theorem ofList_ne {a b : List Char} (h : a ≠ b) : String.ofList a ≠ String.ofList b :=
  fun heq => h (String.ofList_injective heq)

/-- A path that ends in a name, and single dots, leads to that name in a directory. -/
theorem names_of_resolve {front dots : List (List Char)} {name : List Char}
    (hnames : Path.names path.toList = front ++ name :: dots) (hname : Path.IsName name)
    (hdots : ∀ n ∈ dots, n = ['.']) (h : d.resolve path = .ok goal) :
    ∃ inside, d.enter (if path.toList.head? = some '/' then ["/"] else [])
      (front.map String.ofList) = .ok inside ∧ goal.names = inside ++ [String.ofList name] := by
  obtain ⟨route, hroute, hgoal⟩ := resolve_eq_ok.mp h
  obtain ⟨hparts, hstart⟩ := Route.ofPath_eq_ok hroute
  rw [hparts, hnames, List.map_append, List.map_cons, follow_append _ _ _ _ (List.cons_ne_nil _ _),
    hstart] at hgoal
  obtain ⟨inside, hinside, hgoal⟩ := bind_eq_ok.mp hgoal
  refine ⟨inside, hinside, ?_⟩
  exact names_of_follow_cons (ofList_ne hname.ne_dot) (ofList_ne hname.ne_dots)
    (map_ofList_dots hdots) hgoal

/-- The path beside leads to another place. -/
theorem ne_of_target_beside {old : ByteArray} (h : d.target (Path.beside path) = .ok (place, old))
    (hgoal : d.resolve path = .ok goal) : goal.names ≠ place := by
  obtain ⟨there, hthere, rfl, hending, _⟩ := target_eq_ok h
  rcases Path.beside_cases path with hends | ⟨front, name, other, dots, hpath, hdots, hbeside,
    hname, hother, hne, hstart⟩
  · obtain ⟨route, hroute, hfollow⟩ := resolve_eq_ok.mp hthere
    rw [(Route.ofPath_eq_ok hroute).1] at hfollow
    rw [ending_of_follow hends hfollow] at hending
    cases hending
  · obtain ⟨inside, hinside, hplace⟩ := names_of_resolve hpath hname hdots hgoal
    obtain ⟨inside', hinside', hplace'⟩ := names_of_resolve hbeside hother (by simp) hthere
    simp only [Path.StartAlike] at hstart
    simp only [hstart, hinside', Except.ok.injEq] at hinside
    rw [hplace, hplace', hinside]
    exact fun heq => ofList_ne hne (List.singleton_inj.mp (List.append_cancel_left heq))

/-- A change that keeps all directories and what the path leads to. -/
structure Leaves (d e : Disk) (path : String) : Prop where
  directories : SameDirectories d e
  node : ∀ goal, d.resolve path = .ok goal → e.node? goal.names = d.node? goal.names

theorem Leaves.refl (d : Disk) (path : String) : Leaves d d path :=
    ⟨fun _ => Iff.rfl, fun _ _ => rfl⟩

theorem Leaves.find (h : Leaves d e path) {node : Node} :
    e.find path = .ok node ↔ d.find path = .ok node := by
  rw [find_eq_ok, find_eq_ok]
  refine exists_congr fun goal => ?_
  rw [h.directories.resolve]
  refine and_congr_right fun hgoal => ?_
  rw [h.node goal (h.directories.resolve.mpr hgoal)]

theorem leaves_of_write_beside {content : ByteArray}
    (h : d.write (Path.beside path) content = .ok e) : Leaves d e path where
  directories := sameDirectories_of_write h
  node goal hgoal := by
    obtain ⟨place, old, htarget, rfl⟩ := write_eq_ok h
    rw [node?_put, if_neg (ne_of_target_beside htarget hgoal)]

/-- What was written beside is found at the path once it is moved there. -/
theorem find_of_move_beside {f : Disk} {content : ByteArray}
    (hwrite : d.write (Path.beside path) content = .ok e)
    (hmove : e.move (Path.beside path) path = .ok f) : f.find path = .ok (.file content) := by
  obtain ⟨place, old, htarget, rfl⟩ := write_eq_ok hwrite
  obtain ⟨there, hthere, rfl, -, -⟩ := target_eq_ok htarget
  obtain ⟨origin, goal, moved, horigin, hgoal, hfile, -, hending, heq⟩ := move_eq_ok hmove
  rw [← (sameDirectories_of_write hwrite).resolve, hthere] at horigin
  cases horigin
  rw [node?_put, if_pos rfl] at hfile
  cases hfile
  refine find_eq_ok.mpr ⟨goal, (sameDirectories_of_move hmove).resolve.mp hgoal, ?_, Or.inr hending⟩
  rw [heq, node?_put, if_pos rfl]

end Disk
end Filament
