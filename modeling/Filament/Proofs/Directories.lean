import Filament.Proofs.Disk

/-!
Making directories.

What is there stays as it is (`Grows`). A directory that was made is there afterwards, and one that
could not be made cannot be made on a second try either, which finds nothing left to make on the way
(`outcome_makeAll`).
-/

namespace Filament
namespace Disk

variable {d e : Disk} {slash : Bool} {start place inside : List String} {names rest : List String}
  {name : String} {goal : Place} {fault : FileFault}

/-- Every place that a path or a way up can start from is a directory. -/
structure Rooted (d : Disk) : Prop where
  working : d.node? [] = some .directory
  root : d.node? ["/"] = some .directory
  above : ∀ p, d.node? p = some .directory → d.node? (Disk.above p) = some .directory

theorem SameDirectories.rooted (h : SameDirectories d e) (hd : d.Rooted) : e.Rooted where
  working := (h _).mp hd.working
  root := (h _).mp hd.root
  above p hp := (h _).mp (hd.above p ((h p).mpr hp))

theorem directory_empty :
    empty.node? place = some .directory ↔ ∀ name ∈ place, name = ".." ∨ name = "/" := by
  unfold empty
  simp only [List.all_eq_true, decide_eq_true_eq]
  split
  · rename_i h
    exact iff_of_true rfl h
  · rename_i h
    exact iff_of_false nofun h

theorem rooted_empty : empty.Rooted where
  working := directory_empty.mpr (by simp)
  root := directory_empty.mpr (by simp)
  above p hp := by
    rw [directory_empty] at hp ⊢
    unfold Disk.above
    split
    · exact List.forall_mem_append.mpr ⟨hp, by simp⟩
    · exact List.forall_mem_append.mpr ⟨hp, by simp⟩
    · exact hp
    · exact fun name hname => hp name (List.dropLast_subset p hname)

/-- All that is new is directories. -/
def Grows (d e : Disk) : Prop :=
  ∀ p, e.node? p = d.node? p ∨ d.node? p = none ∧ e.node? p = some .directory

theorem Grows.refl (d : Disk) : Grows d d := fun _ => Or.inl rfl

theorem Grows.directory (h : Grows d e) {p : List String} (hp : d.node? p = some .directory) :
    e.node? p = some .directory := by
  rcases h p with heq | ⟨_, hnew⟩
  · rw [heq, hp]
  · exact hnew

theorem Grows.trans {f : Disk} (h : Grows d e) (h' : Grows e f) : Grows d f := by
  intro p
  rcases h' p with heq | ⟨hnone, hnew⟩
  · rw [heq]
    exact h p
  · rcases h p with heq | ⟨hnone', _⟩
    · exact Or.inr ⟨heq ▸ hnone, hnew⟩
    · exact Or.inr ⟨hnone', hnew⟩

theorem grows_put (hnode : d.node? place = none) : Grows d (d.put place (some .directory)) := by
  intro p
  rw [node?_put]
  split
  · rename_i hp
    exact Or.inr ⟨hp ▸ hnode, rfl⟩
  · exact Or.inl rfl

/-! ## Directories on the way -/

theorem directory_of_enter (hd : d.Rooted) (hplace : d.node? place = some .directory)
    (h : d.enter place names = .ok inside) : d.node? inside = some .directory := by
  fun_induction enter d place names with
  | case1 place =>
    cases h
    exact hplace
  | case2 place rest ih => exact ih hplace h
  | case3 place rest hdot ih => exact ih (hd.above _ hplace) h
  | case4 => cases h
  | case5 place name rest hdot hup hlong hthere ih => exact ih hthere h
  | case6 => cases h
  | case7 => cases h

theorem follow_of_enter (slash : Bool) (h : d.enter place names = .ok inside) :
    ∃ ending, d.follow slash place names = .ok { names := inside, ending } := by
  fun_induction enter d place names with
  | case1 place =>
    cases h
    exact ⟨_, rfl⟩
  | case2 place rest ih => exact ih h
  | case3 place rest hdot ih => exact ih h
  | case4 => cases h
  | case5 place name rest hdot hup hlong hthere ih =>
    simp only [follow, hdot, hup, hlong, hthere, if_false]
    split
    · rename_i hlast
      rw [List.isEmpty_iff.mp hlast, enter, Except.ok.injEq] at h
      exact ⟨_, by rw [h]⟩
    · exact ih h
  | case6 => cases h
  | case7 => cases h

theorem enter_of_follow (h : d.follow slash place names = .ok goal)
    (hnode : d.node? goal.names = some .directory) : d.enter place names = .ok goal.names := by
  fun_induction follow d slash place names with
  | case1 place =>
    cases h
    rfl
  | case2 place rest ih => exact ih h
  | case3 place rest hdot ih => exact ih h
  | case4 => cases h
  | case5 place name rest hdot hup hlong hlast =>
    cases h
    simp only [enter, hdot, hup, hlong, hnode, if_false, List.isEmpty_iff.mp hlast]
  | case6 place name rest hdot hup hlong hlast hthere ih =>
    simp only [enter, hdot, hup, hlong, hthere, if_false]
    exact ih h
  | case7 => cases h
  | case8 => cases h

theorem isDirectory_iff (hd : d.Rooted) (hstart : d.node? start = some .directory) :
    d.isDirectory start names = true ↔ ∃ inside, d.enter start names = .ok inside := by
  unfold isDirectory
  constructor
  · intro h
    split at h
    · rename_i goal hgoal
      have hnode : d.node? goal.names = some .directory := by
        cases hthere : d.node? goal.names with
        | none => simp [hthere] at h
        | some node => cases node <;> simp_all [Node.isDirectory]
      exact ⟨_, enter_of_follow hgoal hnode⟩
    · cases h
  · rintro ⟨inside, hinside⟩
    obtain ⟨ending, hgoal⟩ := follow_of_enter false hinside
    rw [hgoal]
    dsimp only
    rw [directory_of_enter hd hstart hinside]
    rfl

/-- A path leads to a directory that is there, or to a name in one. -/
theorem inside_of_follow (hd : d.Rooted) (hplace : d.node? place = some .directory)
    (h : d.follow slash place names = .ok goal) :
    d.node? goal.names = some .directory ∨
      ∃ inside name, goal.names = inside ++ [name] ∧ d.node? inside = some .directory ∧
        name ≠ ".." := by
  fun_induction follow d slash place names with
  | case1 place =>
    cases h
    exact Or.inl hplace
  | case2 place rest ih => exact ih hplace h
  | case3 place rest hdot ih => exact ih (hd.above _ hplace) h
  | case4 => cases h
  | case5 place name rest hdot hup hlong hlast =>
    cases h
    exact Or.inr ⟨place, name, rfl, hplace, hup⟩
  | case6 place name rest hdot hup hlong hlast hthere ih => exact ih hthere h
  | case7 => cases h
  | case8 => cases h

theorem above_append (hname : name ≠ "..") :
    above (inside ++ [name]) = inside ∨ above (inside ++ [name]) = inside ++ [name] := by
  unfold above
  rw [List.getLast?_concat]
  split
  · rename_i h
    cases h
  · rename_i h
    exact absurd (Option.some.inj h) hname
  · exact Or.inr rfl
  · exact Or.inl List.dropLast_concat

/-! ## Making one directory -/

theorem makeDirectory_eq_ok (h : d.makeDirectory start names = .ok e) :
    ∃ goal, d.follow false start names = .ok goal ∧ d.node? goal.names = none ∧
      e = d.put goal.names (some .directory) := by
  obtain ⟨goal, hgoal, h⟩ := bind_eq_ok.mp h
  refine ⟨goal, hgoal, ?_⟩
  split at h
  · cases h
  · cases h
  · rename_i hnode hending
    cases h
    exact ⟨hnode, rfl⟩

theorem follow_of_makeDirectory (h : d.makeDirectory start names = .error .notFound) :
    d.follow false start names = .error .notFound := by
  cases hgoal : d.follow false start names with
  | error fault =>
    simp only [makeDirectory, hgoal, bind, Except.bind, Except.error.injEq] at h
    rw [h]
  | ok goal =>
    simp only [makeDirectory, hgoal, bind, Except.bind] at h
    split at h <;> cases h

theorem rooted_makeDirectory (hd : d.Rooted) (hstart : d.node? start = some .directory)
    (h : d.makeDirectory start names = .ok e) : e.Rooted := by
  obtain ⟨goal, hgoal, hnone, rfl⟩ := makeDirectory_eq_ok h
  have hgrows := grows_put hnone
  refine ⟨hgrows.directory hd.working, hgrows.directory hd.root, fun p hp => ?_⟩
  by_cases hnew : p = goal.names
  · rcases inside_of_follow hd hstart hgoal with hdir | ⟨inside, name, hsplit, hinside, hname⟩
    · rw [hnone] at hdir
      cases hdir
    · have habove : Disk.above p = inside ∨ Disk.above p = p := by
        rw [hnew, hsplit]
        exact above_append hname
      rcases habove with habove | habove
      · rw [habove]
        exact hgrows.directory hinside
      · rw [habove]
        exact hp
  · rw [node?_put, if_neg hnew] at hp
    exact hgrows.directory (hd.above p hp)

theorem isDirectory_makeDirectory (h : d.makeDirectory start names = .ok e) :
    e.isDirectory start names = true := by
  obtain ⟨goal, hgoal, hnone, rfl⟩ := makeDirectory_eq_ok h
  have hfollow := follow_of_directories (fun p hp => (grows_put hnone).directory hp) hgoal
  unfold isDirectory
  rw [hfollow]
  dsimp only
  rw [node?_put, if_pos rfl]
  rfl

/-! ## Making a directory and those above it -/

/-- A directory, given by its names backwards, is missing and cannot be made. A try changes
nothing. -/
structure Blocked (d : Disk) (start names : List String) : Prop where
  missing : d.isDirectory start names.reverse = false
  again : ∃ fault, d.makeAll start names = (.error fault, d)

/-- What making a directory comes to: the result, and the disk after it. -/
structure Outcome (start names : List String) (out : Except FileFault Unit × Disk) : Prop where
  rooted : out.2.Rooted
  made : out.1 = .ok () → out.2.isDirectory start names.reverse = true
  blocked : ∀ fault, out.1 = .error fault → Blocked out.2 start names

theorem grows_settle (d : Disk) (start names : List String) :
    Grows d (d.settle start names (d.makeDirectory start names)).2 := by
  cases hmake : d.makeDirectory start names with
  | ok e =>
    obtain ⟨goal, -, hnone, rfl⟩ := makeDirectory_eq_ok hmake
    exact grows_put hnone
  | error fault => exact Grows.refl d

theorem makeAll_of_ne (h : d.makeDirectory start (name :: rest).reverse ≠ .error .notFound) :
    d.makeAll start (name :: rest) =
      d.settle start (name :: rest).reverse (d.makeDirectory start (name :: rest).reverse) := by
  rw [makeAll]
  split
  · rename_i hmake
    exact absurd hmake h
  · rfl

theorem makeAll_of_notFound (h : d.makeDirectory start (name :: rest).reverse = .error .notFound) :
    d.makeAll start (name :: rest) =
      match d.makeAll start rest with
      | (.ok (), e) => e.settle start (name :: rest).reverse
        (e.makeDirectory start (name :: rest).reverse)
      | failed => failed := by
  cases hrest : d.makeAll start rest with
  | mk result e => cases result <;> simp only [makeAll, h, hrest]

theorem grows_makeAll (d : Disk) (start names : List String) :
    Grows d (d.makeAll start names).2 := by
  induction names with
  | nil => exact Grows.refl d
  | cons name rest ih =>
    by_cases hmake : d.makeDirectory start (name :: rest).reverse = .error .notFound
    · rw [makeAll_of_notFound hmake]
      split
      · rename_i e hrest
        rw [hrest] at ih
        exact ih.trans (grows_settle e start _)
      · exact ih
    · rw [makeAll_of_ne hmake]
      exact grows_settle d start _

/-- One try settles it if nothing above is missing, or if that is not what fails. -/
theorem outcome_settle (hd : d.Rooted) (hstart : d.node? start = some .directory)
    (h : d.makeDirectory start (name :: rest).reverse ≠ .error .notFound) :
    Outcome start (name :: rest)
      (d.settle start (name :: rest).reverse (d.makeDirectory start (name :: rest).reverse)) := by
  have hagain := makeAll_of_ne h
  cases hmake : d.makeDirectory start (name :: rest).reverse with
  | ok e =>
    exact ⟨rooted_makeDirectory hd hstart hmake, fun _ => isDirectory_makeDirectory hmake, nofun⟩
  | error fault =>
    rw [hmake] at hagain
    simp only [settle] at hagain ⊢
    by_cases hdir : d.isDirectory start (name :: rest).reverse = true
    · rw [if_pos hdir]
      exact ⟨hd, fun _ => hdir, nofun⟩
    · rw [if_neg hdir] at hagain ⊢
      exact ⟨hd, nofun, fun _ _ => ⟨eq_false_of_ne_true hdir, fault, hagain⟩⟩

theorem follow_single_ne (slash : Bool) (inside : List String) (name : String) :
    d.follow slash inside [name] ≠ .error .notFound := by
  simp only [follow]
  split
  · simp
  · split
    · simp
    · split <;> simp

/-- Below a directory that is there, nothing is missing on the way to a name. -/
theorem makeDirectory_ne_notFound (name : String) (hd : d.Rooted)
    (hstart : d.node? start = some .directory) (h : d.isDirectory start rest.reverse = true) :
    d.makeDirectory start (name :: rest).reverse ≠ .error .notFound := by
  intro hmake
  obtain ⟨inside, hinside⟩ := (isDirectory_iff hd hstart).mp h
  have hfollow := follow_of_makeDirectory hmake
  rw [List.reverse_cons, follow_append _ _ _ _ (List.cons_ne_nil _ _), hinside] at hfollow
  exact follow_single_ne _ _ _ hfollow

/-- Below a directory that is missing and cannot be made, none can be made either. -/
theorem blocked_cons (name : String) (hd : d.Rooted) (hstart : d.node? start = some .directory)
    (h : Blocked d start rest) : Blocked d start (name :: rest) := by
  have hmissing : ∀ inside, d.enter start rest.reverse ≠ .ok inside := fun inside hinside =>
    Bool.false_ne_true (h.missing.symm.trans ((isDirectory_iff hd hstart).mpr ⟨inside, hinside⟩))
  obtain ⟨fault, hfault⟩ : ∃ fault, d.follow false start (name :: rest).reverse = .error fault := by
    rw [List.reverse_cons, follow_append _ _ _ _ (List.cons_ne_nil _ _)]
    cases henter : d.enter start rest.reverse with
    | ok inside => exact absurd henter (hmissing inside)
    | error fault => exact ⟨fault, rfl⟩
  have hdir : d.isDirectory start (name :: rest).reverse = false := by
    unfold isDirectory
    rw [hfault]
  have hmake : d.makeDirectory start (name :: rest).reverse = .error fault := by
    unfold makeDirectory
    rw [hfault]
    rfl
  refine ⟨hdir, ?_⟩
  by_cases hnot : fault = .notFound
  · obtain ⟨cause, hcause⟩ := h.again
    rw [makeAll_of_notFound (hnot ▸ hmake), hcause]
    exact ⟨cause, rfl⟩
  · rw [makeAll_of_ne fun heq => hnot (Except.error.inj (hmake.symm.trans heq)), hmake]
    simp only [settle, hdir]
    exact ⟨fault, rfl⟩

theorem outcome_makeAll (hd : d.Rooted) (hstart : d.node? start = some .directory)
    (names : List String) : Outcome start names (d.makeAll start names) := by
  induction names with
  | nil => exact ⟨hd, fun _ => (isDirectory_iff hd hstart).mpr ⟨start, rfl⟩, nofun⟩
  | cons name rest ih =>
    by_cases hmake : d.makeDirectory start (name :: rest).reverse = .error .notFound
    · have hstart' := (grows_makeAll d start rest).directory hstart
      rw [makeAll_of_notFound hmake]
      cases hrest : d.makeAll start rest with
      | mk result e =>
        rw [hrest] at ih hstart'
        cases result with
        | ok u =>
          exact outcome_settle ih.rooted hstart'
            (makeDirectory_ne_notFound name ih.rooted hstart' (ih.made rfl))
        | error fault =>
          exact ⟨ih.rooted, nofun, fun cause hcause =>
            blocked_cons name ih.rooted hstart' (ih.blocked cause hcause)⟩
    · rw [makeAll_of_ne hmake]
      exact outcome_settle hd hstart hmake

/-! ## Directories by path -/

variable {path : String}

theorem directory_start (hd : d.Rooted) {route : Route} (h : Route.ofPath path = .ok route) :
    d.node? route.start = some .directory := by
  rw [(Route.ofPath_eq_ok h).2]
  split
  · exact hd.root
  · exact hd.working

theorem find_eq_directory (hd : d.Rooted) {route : Route} (h : Route.ofPath path = .ok route) :
    d.find path = .ok .directory ↔ ∃ inside, d.enter route.start route.names = .ok inside := by
  rw [find_eq_ok]
  constructor
  · rintro ⟨goal, hgoal, hnode, -⟩
    obtain ⟨route', hroute, hfollow⟩ := resolve_eq_ok.mp hgoal
    cases h.symm.trans hroute
    exact ⟨_, enter_of_follow hfollow hnode⟩
  · rintro ⟨inside, hinside⟩
    obtain ⟨ending, hfollow⟩ := follow_of_enter route.slash hinside
    have hnode := directory_of_enter hd (directory_start hd h) hinside
    exact ⟨_, resolve_eq_ok.mpr ⟨route, h, hfollow⟩, hnode, Or.inl rfl⟩

theorem grows_makeDirectories (d : Disk) (path : String) : Grows d (d.makeDirectories path).2 := by
  unfold makeDirectories
  split
  · exact Grows.refl d
  · split
    · exact grows_makeAll d _ _
    · exact Grows.refl d

theorem rooted_makeDirectories (hd : d.Rooted) (path : String) :
    (d.makeDirectories path).2.Rooted := by
  unfold makeDirectories
  split
  · exact hd
  · split
    · rename_i route hroute
      exact (outcome_makeAll hd (directory_start hd hroute) _).rooted
    · exact hd

theorem makeDirectories_of_route {route : Route} (hpath : path.isEmpty = false)
    (h : Route.ofPath path = .ok route) :
    d.makeDirectories path = d.makeAll route.start route.names.reverse := by
  unfold makeDirectories
  rw [hpath, h]
  rfl

theorem makeDirectories_of_error (hpath : path.isEmpty = false)
    (h : Route.ofPath path = .error fault) : d.makeDirectories path = (.error fault, d) := by
  unfold makeDirectories
  rw [hpath, h]
  rfl

theorem find_of_makeDirectories (hd : d.Rooted) (hpath : path.isEmpty = false)
    (h : d.makeDirectories path = (.ok (), e)) : e.find path = .ok .directory := by
  cases hroute : Route.ofPath path with
  | error fault =>
    rw [makeDirectories_of_error hpath hroute] at h
    cases h
  | ok route =>
    rw [makeDirectories_of_route hpath hroute] at h
    have hstart := directory_start hd hroute
    have hout := outcome_makeAll hd hstart route.names.reverse
    have hgrows := grows_makeAll d route.start route.names.reverse
    rw [h] at hout hgrows
    have hmade := hout.made rfl
    rw [List.reverse_reverse] at hmade
    exact (find_eq_directory hout.rooted hroute).mpr
      ((isDirectory_iff hout.rooted (hgrows.directory hstart)).mp hmade)

/-- A directory that could not be made is missing, and a second try changes nothing. -/
theorem blocked_of_makeDirectories (hd : d.Rooted) (hpath : path.isEmpty = false)
    (h : d.makeDirectories path = (.error fault, e)) :
    e.find path ≠ .ok .directory ∧ ∃ cause, e.makeDirectories path = (.error cause, e) := by
  cases hroute : Route.ofPath path with
  | error cause =>
    refine ⟨fun hfind => ?_, cause, makeDirectories_of_error hpath hroute⟩
    obtain ⟨goal, hgoal, -⟩ := find_eq_ok.mp hfind
    obtain ⟨route, hok, -⟩ := resolve_eq_ok.mp hgoal
    cases hroute.symm.trans hok
  | ok route =>
    rw [makeDirectories_of_route hpath hroute] at h ⊢
    have hstart := directory_start hd hroute
    have hout := outcome_makeAll hd hstart route.names.reverse
    have hgrows := grows_makeAll d route.start route.names.reverse
    rw [h] at hout hgrows
    have hblocked := hout.blocked fault rfl
    refine ⟨fun hfind => ?_, hblocked.again⟩
    have hdir := (isDirectory_iff hout.rooted (hgrows.directory hstart)).mpr
      ((find_eq_directory hout.rooted hroute).mp hfind)
    have hmissing := hblocked.missing
    rw [List.reverse_reverse] at hmissing
    exact Bool.false_ne_true (hmissing.symm.trans hdir)

end Disk
end Filament
