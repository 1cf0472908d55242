import Filament.Json.Fields
import Filament.Proofs.JsonText
import Filament.Proofs.ShortestDecimal

/-!
Values that are written and read again.

`Encodes read height v a` says that `v` stands for `a`: it is read as `a`, its texts are read as
`v`, and it may be buffered within the given height. There is one lemma for each way to write a
part, and records come from their parts: by their fields (`encodes_ofFields`), or by a tag and the
fields that it calls for (`encodes_tagged`).
-/

namespace Filament
namespace Json

/-! ## Parts that may be buffered -/

/-- The texts of the value are read as it, and it may be buffered. -/
structure IsClean (height : Nat) (v : Json) : Prop where
  legible : v.IsLegible
  sound : v.isSound = true
  height_le : v.height ≤ height

variable {k n : Nat} {v : Json}

theorem IsClean.mono (h : IsClean k v) (hle : k ≤ n) : IsClean n v where
  legible := h.legible
  sound := h.sound
  height_le := h.height_le.trans hle

/-- A value of a single token. -/
theorem IsClean.of_token (t : Token) (htokens : tokens v = [t]) (hlegible : t.IsLegible)
    (hsound : v.isSound = true) (hheight : v.height = 0) (k : Nat) : IsClean k v where
  legible := by
    intro u hu
    rw [htokens, List.mem_singleton] at hu
    exact hu ▸ hlegible
  sound := hsound
  height_le := hheight ▸ Nat.zero_le k

theorem legible_moreItems {items : List Json} (h : ∀ v ∈ items, v.IsLegible) :
    ∀ t ∈ moreItems items, t.IsLegible := by
  induction items with
  | nil => exact fun t ht => absurd ht List.not_mem_nil
  | cons v items ih =>
    rw [List.forall_mem_cons] at h
    rw [moreItems, List.cons_append, List.forall_mem_cons, List.forall_mem_append]
    exact ⟨trivial, h.1, ih h.2⟩

theorem legible_array {items : List Json} (h : ∀ v ∈ items, v.IsLegible) :
    (array items).IsLegible := by
  unfold IsLegible
  rw [tokens, List.cons_append, List.forall_mem_cons, List.forall_mem_append,
    List.forall_mem_singleton]
  refine ⟨trivial, ?_, trivial⟩
  cases items with
  | nil => exact fun t ht => absurd ht List.not_mem_nil
  | cons v items =>
    rw [List.forall_mem_cons] at h
    rw [itemTokens, List.forall_mem_append]
    exact ⟨h.1, legible_moreItems h.2⟩

theorem isClean_array {items : List Json} (h : ∀ v ∈ items, IsClean k v) :
    IsClean (k + 1) (array items) where
  legible := legible_array fun v hv => (h v hv).legible
  sound := by
    show areSoundItems items = true
    induction items with
    | nil => rfl
    | cons v items ih =>
      rw [List.forall_mem_cons] at h
      rw [areSoundItems, h.1.sound, ih h.2]
      rfl
  height_le := by
    apply Nat.succ_le_succ
    show heightItems items ≤ k
    induction items with
    | nil => exact Nat.zero_le k
    | cons v items ih =>
      rw [List.forall_mem_cons] at h
      exact Nat.max_le.mpr ⟨h.1.height_le, ih h.2⟩

theorem legible_moreFields {fields : List (Option String × Json)}
    (h : ∀ f ∈ fields, f.2.IsLegible) : ∀ t ∈ moreFields fields, t.IsLegible := by
  induction fields with
  | nil => exact fun t ht => absurd ht List.not_mem_nil
  | cons f fields ih =>
    rw [List.forall_mem_cons] at h
    rw [moreFields, List.cons_append, List.forall_mem_cons, List.cons_append, List.forall_mem_cons,
      List.cons_append, List.forall_mem_cons, List.forall_mem_append]
    exact ⟨trivial, trivial, trivial, h.1, ih h.2⟩

theorem legible_object {fields : List (Option String × Json)} (h : ∀ f ∈ fields, f.2.IsLegible) :
    (object fields).IsLegible := by
  unfold IsLegible
  rw [tokens, List.cons_append, List.forall_mem_cons, List.forall_mem_append,
    List.forall_mem_singleton]
  refine ⟨trivial, ?_, trivial⟩
  cases fields with
  | nil => exact fun t ht => absurd ht List.not_mem_nil
  | cons f fields =>
    rw [List.forall_mem_cons] at h
    rw [fieldTokens, List.cons_append, List.forall_mem_cons, List.cons_append, List.forall_mem_cons,
      List.forall_mem_append]
    exact ⟨trivial, trivial, h.1, legible_moreFields h.2⟩

theorem isClean_ofFields {fields : List (String × Json)} (h : ∀ f ∈ fields, IsClean k f.2) :
    IsClean (k + 1) (ofFields fields) where
  legible := legible_object (List.forall_mem_map.mpr fun f hf => (h f hf).legible)
  sound := by
    show areSoundFields (fields.map fun f => (some f.1, f.2)) = true
    induction fields with
    | nil => rfl
    | cons f fields ih =>
      rw [List.forall_mem_cons] at h
      rw [List.map_cons, areSoundFields, h.1.sound, ih h.2]
      rfl
  height_le := by
    apply Nat.succ_le_succ
    show heightFields (fields.map fun f => (some f.1, f.2)) ≤ k
    induction fields with
    | nil => exact Nat.zero_le k
    | cons f fields ih =>
      rw [List.forall_mem_cons] at h
      exact Nat.max_le.mpr ⟨h.1.height_le, ih h.2⟩

/-! ## Values that stand for others -/

/-- `v` is read as `a`. -/
structure Encodes {α : Type} (read : Json → Option α) (height : Nat) (v : Json) (a : α) : Prop
    extends IsClean height v where
  read_eq : read v = some a

variable {α : Type} {read : Json → Option α} {a : α}

theorem Encodes.mono (h : Encodes read k v a) (hle : k ≤ n) : Encodes read n v a where
  toIsClean := h.toIsClean.mono hle
  read_eq := h.read_eq

theorem encodes_ofNat (hn : n ≤ Text.maxWord) (k : Nat) : Encodes natural? k (ofNat n) n := by
  have hfloat : float? (ofNat n) =
      some (Decimal.toFloat { negative := false, digits := n, exponent := 0 }) :=
    if_pos hn
  have hsound : (ofNat n).isSound = true := congrArg Option.isSome hfloat
  exact { toIsClean := .of_token (.scalar (ofNat n)) rfl trivial hsound rfl k,
          read_eq := if_pos hn }

theorem encodes_bool (b : Bool) (k : Nat) : Encodes bool? k (bool b) b where
  toIsClean := .of_token (.scalar (bool b)) rfl trivial rfl rfl k
  read_eq := rfl

theorem encodes_ofString (s : String) (k : Nat) : Encodes string? k (ofString s) s where
  toIsClean := .of_token (.text (some s)) rfl trivial rfl rfl k
  read_eq := rfl

theorem isFinite_of_ofFloat {x : Float} (h : ofFloat x ≠ .null) : x.isFinite = true := by
  by_contra hinfinite
  unfold ofFloat Decimal.shortest? at h
  rw [if_neg hinfinite] at h
  exact h rfl

/-- A finite double is written as the numeral of its shortest decimal. -/
theorem exists_ofFloat {x : Float} (hx : x.isFinite = true) :
    ∃ d : Decimal, ofFloat x = .decimal (numberStyle.numeral d) ∧ d.normalize = d ∧
      d.toFloat = x := by
  obtain ⟨d, hshortest, hnormal, hread⟩ := Decimal.exists_shortest? numberStyle.tie hx
  refine ⟨d, ?_, hnormal, hread⟩
  unfold ofFloat
  rw [hshortest]

/-- The double is read from what is written for it. A reader that rounds more than once may end up
beside it, but not if there are few digits (`readsBack_of_short`). -/
def ReadsBack (x : Float) : Prop := float? (ofFloat x) = some x

instance (x : Float) : Decidable (ReadsBack x) := inferInstanceAs (Decidable (_ = _))

theorem ReadsBack.isFinite {x : Float} (h : ReadsBack x) : x.isFinite = true := by
  refine isFinite_of_ofFloat fun hnull => ?_
  unfold ReadsBack at h
  rw [hnull] at h
  cases h

theorem legible_ofFloat {x : Float} (hx : x.isFinite = true) : (ofFloat x).IsLegible := by
  obtain ⟨d, hwritten, hnormal, -⟩ := exists_ofFloat hx
  rw [hwritten]
  exact List.forall_mem_singleton.mpr (isNumeral_numeral hnormal)

/-- A finite double, and the one that is read from what is written for it. -/
theorem encodes_ofFloat_as {x y : Float} (hx : x.isFinite = true)
    (h : float? (ofFloat x) = some y) (k : Nat) : Encodes float? k (ofFloat x) y := by
  obtain ⟨d, hwritten, hnormal, -⟩ := exists_ofFloat hx
  rw [hwritten] at h ⊢
  have hsound : (decimal (numberStyle.numeral d)).isSound = true := congrArg Option.isSome h
  exact
    { toIsClean := .of_token (.scalar (.decimal _)) rfl (isNumeral_numeral hnormal) hsound rfl k
      read_eq := h }

theorem encodes_ofFloat {x : Float} (hx : ReadsBack x) (k : Nat) : Encodes float? k (ofFloat x) x :=
  encodes_ofFloat_as hx.isFinite hx k

/-- Null stands for no value, so it has to stand for nothing else. -/
theorem encodes_ofOption {write : α → Json} {o : Option α} (hnull : read null = none)
    (h : ∀ a ∈ o, Encodes read k (write a) a) : Encodes (option? read) k (ofOption write o) o := by
  cases o with
  | none => exact { toIsClean := .of_token (.scalar null) rfl trivial rfl rfl k, read_eq := rfl }
  | some a =>
    obtain ⟨hclean, hread⟩ := h a rfl
    refine ⟨hclean, ?_⟩
    show option? read (write a) = some (some a)
    unfold option?
    split
    · rename_i hwritten
      rw [hwritten, hnull] at hread
      cases hread
    · rw [hread]
      rfl

theorem encodes_ofList {write : α → Json} {l : List α} (h : ∀ a ∈ l, Encodes read k (write a) a) :
    Encodes (list? read) (k + 1) (ofList write l) l where
  toIsClean := isClean_array (List.forall_mem_map.mpr fun a ha => (h a ha).toIsClean)
  read_eq := by
    show (l.map write).mapM read = some l
    induction l with
    | nil => rfl
    | cons a l ih =>
      rw [List.forall_mem_cons] at h
      rw [List.map_cons, List.mapM_cons, h.1.read_eq, ih h.2]
      rfl

/-! ## The fields of a record -/

theorem lookup_some (f : List (String × Json)) (k : String) :
    (f.map fun p => (some p.1, p.2)).lookup (some k) = f.lookup k := by
  induction f with
  | nil => rfl
  | cons p f ih =>
    rw [List.map_cons, List.lookup_cons, List.lookup_cons, ih]
    rfl

theorem field?_ofFields (f : List (String × Json)) (name : String) :
    (ofFields f).field? name = f.lookup name := lookup_some f name

namespace Fields

variable {names : List String} {fields : List (String × Json)}

theorem lookup_eq_none (name : String) (h : name ∉ fields.map Prod.fst) :
    fields.lookup name = none := by
  induction fields with
  | nil => rfl
  | cons f fields ih =>
    rw [List.map_cons, List.mem_cons, not_or] at h
    rw [List.lookup_cons, beq_eq_false_iff_ne.mpr h.1, ih h.2]

theorem named?_of_nodup (hknown : ∀ f ∈ fields, f.1 ∈ names)
    (hnodup : (fields.map Prod.fst).Nodup) :
    named? names (fields.map fun f => (some f.1, f.2)) = some fields := by
  induction fields with
  | nil => rfl
  | cons f fields ih =>
    rw [List.forall_mem_cons] at hknown
    rw [List.map_cons, List.nodup_cons] at hnodup
    rw [List.map_cons, named?, ih hknown.2 hnodup.2, Option.bind_eq_bind, Option.bind_some,
      if_pos (List.contains_iff_mem.mpr hknown.1), lookup_eq_none f.1 hnodup.1]
    rfl

/-- The fields of an object are those that were written, if they are known and none comes twice. -/
theorem ofJson?_ofFields (hnames : (fields.map Prod.fst).Sublist names) (hnodup : names.Nodup) :
    ofJson? names (ofFields fields) = some { positional := false, entries := fields } := by
  have hknown : ∀ f ∈ fields, f.1 ∈ names := fun f hf => hnames.subset (List.mem_map_of_mem hf)
  show (named? names (fields.map fun f => (some f.1, f.2))).map _ = _
  rw [named?_of_nodup hknown (hnames.nodup hnodup)]
  rfl

theorem ofJsonExact?_ofFields (hnames : (fields.map Prod.fst).Sublist names)
    (hnodup : names.Nodup) :
    ofJsonExact? names (ofFields fields) = some { positional := false, entries := fields } := by
  have hall :
      (fields.map fun f => (some f.1, f.2)).all (fun f => f.1.any names.contains) = true := by
    rw [List.all_eq_true, List.forall_mem_map]
    exact fun f hf => List.contains_iff_mem.mpr (hnames.subset (List.mem_map_of_mem hf))
  show (if (fields.map fun f => (some f.1, f.2)).all (fun f => f.1.any names.contains) then
    ofJson? names (ofFields fields) else none) = _
  rw [if_pos hall, ofJson?_ofFields hnames hnodup]

end Fields

section

variable {fields : List (String × Json)} {name : String}

/-- A record by its fields. -/
theorem encodes_ofFields {take? : Json → Option Fields} {body : Fields → Option α}
    (hclean : ∀ f ∈ fields, IsClean k f.2)
    (htake : take? (ofFields fields) = some { positional := false, entries := fields })
    (hbody : body { positional := false, entries := fields } = some a) :
    Encodes (fun v => (take? v).bind body) (k + 1) (ofFields fields) a where
  toIsClean := isClean_ofFields hclean
  read_eq := by
    rw [htake]
    exact hbody

variable {f : Fields}

theorem Fields.required_eq (hget : f.get? name = some v) (h : Encodes read k v a) :
    f.required name read = some a := by
  unfold required
  rw [hget, Option.bind_some, h.read_eq]

theorem Fields.withDefault_of_get? (default : α) (hget : f.get? name = some v) :
    f.withDefault name default read = read v := by
  unfold withDefault
  rw [hget]

theorem Fields.withDefault_eq (default : α) (hget : f.get? name = some v) (h : Encodes read k v a) :
    f.withDefault name default read = some a :=
  (withDefault_of_get? default hget).trans h.read_eq

theorem Fields.nullable_eq {o : Option α} (hget : f.get? name = some v)
    (h : Encodes (option? read) k v o) : f.nullable name read = some o := by
  unfold nullable
  rw [hget]
  exact h.read_eq

end

/-! ### Records of one or two fields -/

section

variable {β γ : Type} {names : List String} {fields : List (String × Json)}

theorem ofJson?_fields (hnames : fields.map Prod.fst = names) (hnodup : names.Nodup) :
    Fields.ofJson? names (ofFields fields) = some { positional := false, entries := fields } :=
  Fields.ofJson?_ofFields (hnames ▸ List.Sublist.refl _) hnodup

theorem ofJson?_single (name : String) (v : Json) :
    Fields.ofJson? [name] (ofFields [(name, v)]) =
      some { positional := false, entries := [(name, v)] } :=
  ofJson?_fields rfl (List.pairwise_singleton _ name)

theorem get?_single (name : String) (v : Json) :
    Fields.get? { positional := false, entries := [(name, v)] } name = some v :=
  List.lookup_cons_self

theorem read_required (name : String) (h : Encodes read k v a) (make : α → β) :
    (do
      let f ← Fields.ofJson? [name] (ofFields [(name, v)])
      return make (← f.required name read)) = some (make a) := by
  rw [ofJson?_single, Option.bind_eq_bind, Option.bind_some,
    Fields.required_eq (get?_single name v) h]
  rfl

theorem read_nullable {o : Option α} (name : String) (h : Encodes (option? read) k v o)
    (make : Option α → β) :
    (do
      let f ← Fields.ofJson? [name] (ofFields [(name, v)])
      return make (← f.nullable name read)) = some (make o) := by
  rw [ofJson?_single, Option.bind_eq_bind, Option.bind_some,
    Fields.nullable_eq (get?_single name v) h]
  rfl

/-- A part that has to be there, and one that may be null. -/
theorem read_required_nullable (first second : String) {w : Json} {readSecond : Json → Option γ}
    {o : Option γ} (hne : first ≠ second) (hfirst : Encodes read k v a)
    (hsecond : Encodes (option? readSecond) k w o) (make : α → Option γ → β) :
    (do
      let f ← Fields.ofJson? [first, second] (ofFields [(first, v), (second, w)])
      return make (← f.required first read) (← f.nullable second readSecond)) =
        some (make a o) := by
  have hfields : Fields.ofJson? [first, second] (ofFields [(first, v), (second, w)]) = _ :=
    ofJson?_fields rfl (by simpa using hne)
  have hv : Fields.get? { positional := false, entries := [(first, v), (second, w)] } first =
      some v :=
    List.lookup_cons_self
  have hw : Fields.get? { positional := false, entries := [(first, v), (second, w)] } second =
      some w := by
    unfold Fields.get?
    rw [List.lookup_cons, beq_eq_false_iff_ne.mpr hne.symm]
    exact get?_single second w
  rw [hfields, Option.bind_eq_bind, Option.bind_some, Fields.required_eq hv hfirst,
    Fields.nullable_eq hw hsecond]
  rfl

end

/-! ## Tagged records -/

section

variable {tag : String} {fields : List (String × Json)}

theorem filter_eq_tag (v : Json) (h : tag ∉ fields.map Prod.fst) :
    ((some tag, v) :: fields.map fun f => (some f.1, f.2)).filter (fun f => f.1 == some tag) =
      [(some tag, v)] := by
  have hrest : (fields.map fun f => (some f.1, f.2)).filter (fun f => f.1 == some tag) = [] := by
    rw [List.filter_eq_nil_iff, List.forall_mem_map]
    intro f hf heq
    apply h
    rw [← Option.some_inj.mp (beq_iff_eq.mp heq)]
    exact List.mem_map_of_mem hf
  rw [List.filter_cons, if_pos (beq_self_eq_true _), hrest]

theorem filter_ne_tag (v : Json) (h : tag ∉ fields.map Prod.fst) :
    ((some tag, v) :: fields.map fun f => (some f.1, f.2)).filter (fun f => f.1 != some tag) =
      fields.map fun f => (some f.1, f.2) := by
  have hrest : (fields.map fun f => (some f.1, f.2)).filter (fun f => f.1 != some tag) =
      fields.map fun f => (some f.1, f.2) := by
    rw [List.filter_eq_self, List.forall_mem_map]
    intro f hf
    rw [bne_iff_ne]
    intro heq
    apply h
    rw [← Option.some_inj.mp heq]
    exact List.mem_map_of_mem hf
  rw [List.filter_cons, if_neg (by simp), hrest]

/-- A tagged record falls into its tag and its other fields. -/
theorem tagged?_ofFields {name : String} {depth : Nat} (hclean : ∀ f ∈ fields, IsClean k f.2)
    (hdepth : k + 1 + depth ≤ maxHeight) (htag : tag ∉ fields.map Prod.fst) :
    tagged? tag depth (ofFields ((tag, ofString name) :: fields)) =
      some (name, ofFields fields) := by
  have hall : IsClean (k + 1) (ofFields ((tag, ofString name) :: fields)) :=
    isClean_ofFields (List.forall_mem_cons.mpr ⟨(encodes_ofString name k).toIsClean, hclean⟩)
  have hfits : (ofFields ((tag, ofString name) :: fields)).height + depth ≤ maxHeight :=
    (Nat.add_le_add_right hall.height_le depth).trans hdepth
  unfold tagged?
  rw [hall.sound, decide_eq_true hfits, Bool.and_self, if_pos rfl]
  unfold ofFields
  rw [List.map_cons]
  dsimp only
  rw [filter_eq_tag _ htag, filter_ne_tag _ htag]
  rfl

/-- A record by its tag and its other fields, which lies no deeper than the reader allows. -/
theorem encodes_tagged {name : String} {depth : Nat} {ofParts? : String → Json → Option α}
    (hclean : ∀ f ∈ fields, IsClean k f.2) (hdepth : k + 1 + depth ≤ maxHeight)
    (htag : tag ∉ fields.map Prod.fst) (hparts : ofParts? name (ofFields fields) = some a) :
    Encodes (fun v => (tagged? tag depth v).bind fun p => ofParts? p.1 p.2) (k + 1)
      (ofFields ((tag, ofString name) :: fields)) a where
  toIsClean :=
    isClean_ofFields (List.forall_mem_cons.mpr ⟨(encodes_ofString name k).toIsClean, hclean⟩)
  read_eq := by
    rw [tagged?_ofFields hclean hdepth htag]
    exact hparts

end

end Json
end Filament
