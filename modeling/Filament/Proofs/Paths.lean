import Filament.Files.Route

/-!
The names in a path.

A file is written beside its place before it is moved there, under a path with another extension.
That path leads through the same names up to the last one, and there to a different name, or else it
ends in no name, where nothing can be written (`beside_cases`). Slashes and single dots at the end
of the path it was made from change nothing about this.
-/

namespace Filament
namespace Path

/-- The names that a path leads through, in order. -/
def names (cs : List Char) : List (List Char) := (parts cs).filter (!·.isEmpty)

theorem parts_ne_nil (cs : List Char) : parts cs ≠ [] := by
  fun_cases parts cs <;> simp

theorem parts_append_slash (a b : List Char) : parts (a ++ '/' :: b) = parts a ++ parts b := by
  induction a with
  | nil => simp [parts]
  | cons c a ih =>
    rw [List.cons_append, parts, parts, ih]
    split
    · rfl
    · cases hparts : parts a with
      | nil => exact absurd hparts (parts_ne_nil a)
      | cons p ps => rfl

theorem parts_of_noSlash {cs : List Char} (h : '/' ∉ cs) : parts cs = [cs] := by
  induction cs with
  | nil => rfl
  | cons c cs ih =>
    rw [List.mem_cons, not_or] at h
    rw [parts, if_neg (Ne.symm h.1), ih h.2]

theorem names_nil : names [] = [] := rfl

theorem names_append_slash (a b : List Char) : names (a ++ '/' :: b) = names a ++ names b := by
  unfold names
  rw [parts_append_slash, List.filter_append]

theorem names_of_noSlash {cs : List Char} (h : '/' ∉ cs) (hne : cs ≠ []) : names cs = [cs] := by
  unfold names
  rw [parts_of_noSlash h]
  simp [hne]

/-! ## The parts of a path -/

/-- What stands before a name. -/
def IsBefore (cs : List Char) : Prop := cs = [] ∨ ∃ b, cs = b ++ ['/']

/-- What stands behind a name: slashes, and single dots after them. -/
structure IsBehind (cs : List Char) : Prop where
  start : cs = [] ∨ ∃ rest, cs = '/' :: rest
  dots : ∀ n ∈ names cs, n = ['.']

structure IsName (cs : List Char) : Prop where
  noSlash : '/' ∉ cs
  ne_nil : cs ≠ []
  ne_dot : cs ≠ ['.']
  ne_dots : cs ≠ ['.', '.']

theorem names_append {before : List Char} (h : IsBefore before) (cs : List Char) :
    names (before ++ cs) = names before ++ names cs := by
  rcases h with rfl | ⟨b, rfl⟩
  · rfl
  · rw [List.append_assoc, List.singleton_append, names_append_slash, names_append_slash, names_nil,
      List.append_nil]

theorem names_append_behind {name behind : List Char} (hname : '/' ∉ name) (hne : name ≠ [])
    (h : IsBehind behind) : names (name ++ behind) = name :: names behind := by
  rcases h.start with rfl | ⟨rest, rfl⟩
  · rw [List.append_nil, names_of_noSlash hname hne, names_nil]
  · have hrest : names ('/' :: rest) = names rest := names_append_slash [] rest
    rw [names_append_slash, names_of_noSlash hname hne, hrest, List.singleton_append]

theorem isBehind_nil : IsBehind [] := ⟨Or.inl rfl, fun _ hn => absurd hn List.not_mem_nil⟩

theorem IsBehind.append_slash {cs : List Char} (h : IsBehind cs) {more : List Char}
    (hmore : ∀ n ∈ names more, n = ['.']) : IsBehind (cs ++ '/' :: more) where
  start := by
    rcases h.start with rfl | ⟨rest, rfl⟩
    · exact Or.inr ⟨more, rfl⟩
    · exact Or.inr ⟨rest ++ '/' :: more, rfl⟩
  dots n hn := by
    rw [names_append_slash, List.mem_append] at hn
    exact hn.elim (h.dots n) (hmore n)

theorem exists_dropEnd (cs : List Char) :
    ∃ dropped, cs = dropped ++ dropEnd cs ∧ IsBehind dropped.reverse := by
  fun_induction dropEnd cs with
  | case1 c rest ih =>
    obtain ⟨dropped, heq, hbehind⟩ := ih
    refine ⟨'/' :: dropped, by rw [List.cons_append, ← heq], ?_⟩
    rw [List.reverse_cons]
    exact hbehind.append_slash fun n hn => absurd hn List.not_mem_nil
  | case2 c rest ih =>
    obtain ⟨dropped, heq, hbehind⟩ := ih
    refine ⟨'.' :: '/' :: dropped, by rw [List.cons_append, List.cons_append, ← heq], ?_⟩
    rw [List.reverse_cons, List.reverse_cons, List.append_assoc]
    exact hbehind.append_slash fun n hn => List.mem_singleton.mp hn
  | case3 cs => exact ⟨[], rfl, isBehind_nil⟩

/-- No more can be dropped than was. -/
theorem dropEnd_ne (cs : List Char) :
    (∀ c rest, dropEnd cs ≠ '/' :: c :: rest) ∧ ∀ c rest, dropEnd cs ≠ '.' :: '/' :: c :: rest := by
  fun_induction dropEnd cs with
  | case1 c rest ih => exact ih
  | case2 c rest ih => exact ih
  | case3 cs hslash hdot => exact ⟨fun c rest h => hslash c rest h, fun c rest h => hdot c rest h⟩

theorem isBefore_reverse_dropWhile (cs : List Char) :
    IsBefore (cs.dropWhile (· != '/')).reverse := by
  cases hdrop : cs.dropWhile (· != '/') with
  | nil => exact Or.inl rfl
  | cons c rest =>
    have hc := List.head?_dropWhile_not (· != '/') cs
    rw [hdrop] at hc
    have hslash : c = '/' := by simpa using hc
    exact Or.inr ⟨rest.reverse, by rw [List.reverse_cons, hslash]⟩

theorem noSlash_reverse_takeWhile (cs : List Char) : '/' ∉ (cs.takeWhile (· != '/')).reverse := by
  intro h
  have hall := List.all_eq_true.mp List.all_takeWhile '/' (List.mem_reverse.mp h)
  exact absurd hall (by decide)

/-- A path ends in a name if anything but single dots comes after the last way up, which is two
dots. -/
def EndsInNoName (ns : List (List Char)) : Prop :=
  ∃ front dots, ns = front ++ dots ∧ (front = [] ∨ ∃ up, front = up ++ [['.', '.']]) ∧
    ∀ n ∈ dots, n = ['.']

theorem endsInNoName_of_dots {ns : List (List Char)} (h : ∀ n ∈ ns, n = ['.']) : EndsInNoName ns :=
  ⟨[], ns, rfl, Or.inl rfl, h⟩

theorem endsInNoName_of_up (up : List (List Char)) {dots : List (List Char)}
    (h : ∀ n ∈ dots, n = ['.']) : EndsInNoName (up ++ ['.', '.'] :: dots) :=
  ⟨up ++ [['.', '.']], dots, by rw [List.append_assoc, List.singleton_append], Or.inr ⟨up, rfl⟩, h⟩

/-- A last part that would be dropped if it could be stands at the root or at the start. -/
theorem names_eq_nil_of_ne {before last : List Char} (h : IsBefore before)
    (hne : ∀ c rest, last ++ before.reverse ≠ last ++ '/' :: c :: rest) : names before = [] := by
  rcases h with rfl | ⟨b, rfl⟩
  · rfl
  · rw [List.reverse_append, List.reverse_singleton, List.singleton_append] at hne
    cases hb : b.reverse with
    | nil =>
      rw [List.reverse_eq_nil_iff.mp hb]
      rfl
    | cons c rest => exact absurd (by rw [hb]) (hne c rest)

/-- A path ends in what `dropEnd` drops. What is left ends in the part that may be a name. -/
theorem exists_split (path : List Char) :
    ∃ before name behind, path = before ++ name ++ behind ∧ IsBefore before ∧ '/' ∉ name ∧
      IsBehind behind ∧ dropEnd path.reverse = name.reverse ++ before.reverse ∧
      splitName? path =
        if name.isEmpty || name == ['.'] || name == ['.', '.'] then none
        else some (before, name, behind) := by
  obtain ⟨dropped, hpath, hbehind⟩ := exists_dropEnd path.reverse
  unfold splitName?
  generalize dropEnd path.reverse = backwards at hpath
  have hbefore := isBefore_reverse_dropWhile backwards
  have hname := noSlash_reverse_takeWhile backwards
  have hends : (backwards.dropWhile (· != '/')).reverse ++
      (backwards.takeWhile (· != '/')).reverse = backwards.reverse := by
    rw [← List.reverse_append, List.takeWhile_append_dropWhile]
  dsimp only
  generalize (backwards.dropWhile (· != '/')).reverse = before at hbefore hends
  generalize (backwards.takeWhile (· != '/')).reverse = name at hname hends
  have hsplit : path = before ++ name ++ dropped.reverse := by
    rw [hends, ← List.reverse_append, ← hpath, List.reverse_reverse]
  have hdrop : path.drop backwards.length = dropped.reverse := by
    rw [hsplit, hends, ← List.length_reverse, List.drop_left]
  rw [hdrop]
  refine ⟨before, name, dropped.reverse, hsplit, hbefore, hname, hbehind, ?_, rfl⟩
  rw [← List.reverse_append, hends, List.reverse_reverse]

/-- The name that a path ends in is split off, and none if it ends in no name. -/
theorem splitName?_cases (path : List Char) :
    (∃ before name behind, splitName? path = some (before, name, behind) ∧
      path = before ++ name ++ behind ∧ IsBefore before ∧ IsName name ∧ IsBehind behind) ∨
    (splitName? path = none ∧ EndsInNoName (names path)) := by
  obtain ⟨before, name, behind, hpath, hbefore, hname, hbehind, hleft, hsplit⟩ := exists_split path
  obtain ⟨hslash, hdot⟩ := dropEnd_ne path.reverse
  rw [hleft] at hslash hdot
  by_cases hempty : name = []
  · refine Or.inr ⟨by simp [hsplit, hempty], ?_⟩
    rw [hempty] at hslash
    have hroot : names before = [] := names_eq_nil_of_ne hbefore hslash
    rw [hpath, hempty, List.append_nil, names_append hbefore, hroot]
    exact endsInNoName_of_dots hbehind.dots
  · have hnames : names path = names before ++ name :: names behind := by
      rw [hpath, List.append_assoc, names_append hbefore, names_append_behind hname hempty hbehind]
    by_cases hone : name = ['.']
    · refine Or.inr ⟨by simp [hsplit, hone], ?_⟩
      rw [hone] at hdot
      have hroot : names before = [] := names_eq_nil_of_ne hbefore hdot
      rw [hnames, hroot, hone]
      exact endsInNoName_of_dots (List.forall_mem_cons.mpr ⟨rfl, hbehind.dots⟩)
    · by_cases htwo : name = ['.', '.']
      · refine Or.inr ⟨by simp [hsplit, htwo], ?_⟩
        rw [hnames, htwo]
        exact endsInNoName_of_up (names before) hbehind.dots
      · have hsome : splitName? path = some (before, name, behind) := by
          simp [hsplit, hempty, hone, htwo]
        exact Or.inl ⟨before, name, behind, hsome, hpath, hbefore,
          ⟨hname, hempty, hone, htwo⟩, hbehind⟩

/-! ## Extensions -/

/-- A stem is the whole name, or what stands before its last dot. -/
theorem stem_cases (name : List Char) :
    stem name = name ∨ ∃ old, name = stem name ++ '.' :: old ∧ '.' ∉ old := by
  unfold stem
  split
  · rename_i head c rest hdrop
    right
    have hc := List.head?_dropWhile_not (· != '.') name.reverse
    rw [hdrop] at hc
    have hdot : head = '.' := by simpa using hc
    have hends := List.takeWhile_append_dropWhile (p := (· != '.')) (l := name.reverse)
    have hall := List.all_eq_true.mp (List.all_takeWhile (p := (· != '.')) (l := name.reverse))
    generalize name.reverse.takeWhile (· != '.') = run at hends hall
    refine ⟨run.reverse, ?_, fun hrun => ?_⟩
    · rw [hdrop, hdot, ← List.reverse_eq_iff] at hends
      rw [← hends]
      simp
    · exact absurd (hall '.' (List.mem_reverse.mp hrun)) (by decide)
  · exact Or.inl rfl

theorem mem_of_mem_stem {name : List Char} {c : Char} (h : c ∈ stem name) : c ∈ name := by
  rcases stem_cases name with hstem | ⟨old, hname, _⟩
  · rwa [hstem] at h
  · rw [hname]
    exact List.mem_append_left _ h

/-- An extension with a dot in it is not the one that it replaces. -/
theorem stem_append_ne {name extension : List Char} (h : '.' ∈ extension) :
    stem name ++ '.' :: extension ≠ name := by
  intro heq
  rcases stem_cases name with hstem | ⟨old, hname, hold⟩
  · rw [hstem] at heq
    exact List.cons_ne_nil _ _ (List.append_right_eq_self.mp heq)
  · have hext := List.append_cancel_left (heq.trans hname)
    exact hold (List.tail_eq_of_cons_eq hext ▸ h)

/-! ## The path beside -/

/-- The path that a text is written under before it is moved to its place. -/
def beside (path : String) : String := withExtension path "json.tmp"

theorem isName_beside {name : List Char} (h : '/' ∉ name) :
    IsName (stem name ++ ".json.tmp".toList) where
  noSlash hslash := by
    rcases List.mem_append.mp hslash with hstem | hext
    · exact h (mem_of_mem_stem hstem)
    · revert hext
      decide
  ne_nil := by simp
  ne_dot heq := by simpa using congrArg List.length heq
  ne_dots heq := by simpa using congrArg List.length heq

/-- Both paths start at the same place. -/
def StartAlike (p q : List Char) : Prop := p.head? = some '/' ↔ q.head? = some '/'

theorem startAlike_append {before name other : List Char} (h : IsName name) (hother : IsName other)
    (rest : List Char) : StartAlike (before ++ name ++ rest) (before ++ other) := by
  unfold StartAlike
  cases before with
  | nil =>
    have hhead : ∀ {cs : List Char}, IsName cs → ∀ more, ¬(cs ++ more).head? = some '/' := by
      intro cs hcs more hmore
      cases cs with
      | nil => exact hcs.ne_nil rfl
      | cons c cs => exact hcs.noSlash (Option.some.inj hmore ▸ List.mem_cons_self)
    have := hhead hother []
    rw [List.append_nil] at this
    exact iff_of_false (hhead h rest) this
  | cons c before => exact Iff.rfl

/-- The path beside ends in no name, or it leads through the same names to another last one. -/
theorem beside_cases (path : String) :
    EndsInNoName (names (beside path).toList) ∨
    ∃ front name other dots, names path.toList = front ++ name :: dots ∧ (∀ n ∈ dots, n = ['.']) ∧
      names (beside path).toList = front ++ [other] ∧ IsName name ∧ IsName other ∧ name ≠ other ∧
      StartAlike path.toList (beside path).toList := by
  unfold beside withExtension
  rcases splitName?_cases path.toList with ⟨before, name, behind, hsome, hpath, hbefore, hname,
    hbehind⟩ | ⟨hnone, hends⟩
  · rw [hsome]
    dsimp only
    split
    · left
      rw [String.toList_ofList, names_append hbefore]
      exact endsInNoName_of_up (names before) fun n hn => absurd hn List.not_mem_nil
    · right
      have hother := isName_beside hname.noSlash
      have hnames : names (String.ofList (before ++ stem name ++ '.' :: "json.tmp".toList)).toList =
          names before ++ [stem name ++ ".json.tmp".toList] := by
        rw [String.toList_ofList, List.append_assoc, names_append hbefore]
        exact congrArg _ (names_of_noSlash hother.noSlash hother.ne_nil)
      refine ⟨names before, name, _, names behind, ?_, hbehind.dots, hnames, hname, hother, ?_, ?_⟩
      · rw [hpath, List.append_assoc, names_append hbefore,
          names_append_behind hname.noSlash hname.ne_nil hbehind]
      · exact (stem_append_ne (by decide)).symm
      · rw [hpath, String.toList_ofList, List.append_assoc before (stem name)]
        exact startAlike_append hname hother behind
  · rw [hnone]
    exact Or.inl hends

end Path
end Filament
