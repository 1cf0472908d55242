import Filament.Proofs.Check
import Filament.Proofs.Double
import Filament.Proofs.Encoded
import Filament.Request

/-!
Requests that are the same on the wire are the same request.

The path of a request names a table and perhaps an entry of it, and can be read in one way only,
since no table has a slash in its name (`address_of_path`). With the method it tells the kind of the
request and the id, and the query tells the rest where there is no body. A body holds a material, a
spool or a selection with all of its fields, and a double that is finite, as those of a checked
request are, is written as no other double is. So two requests that are fit to be sent and agree in
method, path, query and body are the same (`requests_told_apart`). This holds of bodies that are
written alike, and also of bodies of the same content, whose fields may come in any order and whose
zeros may differ in their signs.
-/

namespace Filament

/-! ## Paths -/

namespace Request

variable {α : Type}

/-- The table that a request is about, and the entry if it is about a single one. -/
def address : Request α → String × Option Nat
  | .listProfiles _ | .addProfile _ => ("profiles", none)
  | .getProfile id | .updateProfile id _ | .deleteProfile id => ("profiles", some id)
  | .listSpools _ | .addSpool _ => ("spools", none)
  | .getSpool id | .updateSpool id _ | .deleteSpool id => ("spools", some id)
  | .listSelections => ("selections", none)
  | .updateSelection tool _ => ("selections", some tool)

/-- What follows the name of the table in a path. -/
def entryChars : Option Nat → List Char
  | none => []
  | some id => '/' :: Nat.toDigits 10 id

theorem entryChars_injective {m n : Option Nat} (h : entryChars m = entryChars n) : m = n := by
  cases m with
  | none =>
    cases n with
    | none => rfl
    | some n => cases h
  | some m =>
    cases n with
    | none => cases h
    | some n =>
      have hread := congrArg Text.natural? (List.tail_eq_of_cons_eq h)
      rwa [Text.natural?_toDigits, Text.natural?_toDigits] at hread

theorem toList_path (r : Request α) :
    r.path.toList = (root ++ "/").toList ++ (r.address.1.toList ++ entryChars r.address.2) := by
  cases r <;> simp [path, address, tablePath, entryPath, entryChars, Text.ofNat]

/-- No table has a slash in its name. -/
theorem notSlash_of_mem_table (r : Request α) : ∀ c ∈ r.address.1.toList, (c != '/') = true := by
  have htable : r.address.1 ∈ ["profiles", "spools", "selections"] := by
    cases r <;> simp [address]
  have hslash : ∀ table ∈ ["profiles", "spools", "selections"],
      table.toList.all (· != '/') = true := by
    decide
  exact List.all_eq_true.mp (hslash r.address.1 htable)

theorem stops_entryChars (entry : Option Nat) : Text.Stops (· != '/') (entryChars entry) := by
  cases entry <;> rfl

theorem address_of_path {r s : Request α} (h : r.path = s.path) : r.address = s.address := by
  have hchars := congrArg String.toList h
  rw [toList_path, toList_path] at hchars
  replace hchars := List.append_cancel_left hchars
  have htable := congrArg (List.takeWhile (· != '/')) hchars
  have hentry := congrArg (List.dropWhile (· != '/')) hchars
  rw [Text.takeWhile_append (notSlash_of_mem_table r) (stops_entryChars _),
    Text.takeWhile_append (notSlash_of_mem_table s) (stops_entryChars _)] at htable
  rw [Text.dropWhile_append (notSlash_of_mem_table r) (stops_entryChars _),
    Text.dropWhile_append (notSlash_of_mem_table s) (stops_entryChars _)] at hentry
  exact Prod.ext (String.toList_inj.mp htable) (entryChars_injective hentry)

end Request

/-! ## Values of the same content -/

namespace Json

/-- The same content, where `same` says which doubles are. The fields of an object may come in any
order. -/
inductive Agrees (same : Float → Float → Prop) : Json → Json → Prop where
  | null : Agrees same .null .null
  | bool (b : Bool) : Agrees same (.bool b) (.bool b)
  | integer (negative : Bool) (n : Nat) : Agrees same (.integer negative n) (.integer negative n)
  | decimal {m n : Decimal.Numeral} (h : same m.decimal.toFloat n.decimal.toFloat) :
    Agrees same (.decimal m) (.decimal n)
  | string (s : Option String) : Agrees same (.string s) (.string s)
  | array {l m : List Json} (h : List.Forall₂ (Agrees same) l m) : Agrees same (.array l) (.array m)
  | object {f g : List (Option String × Json)}
    (hnames : ∀ k, (f.lookup k).isSome = (g.lookup k).isSome)
    (h : ∀ k v w, f.lookup k = some v → g.lookup k = some w → Agrees same v w) :
    Agrees same (.object f) (.object g)

variable {same : Float → Float → Prop}

theorem sizeOf_lookup {f : List (Option String × Json)} {k : Option String} {v : Json}
    (h : f.lookup k = some v) : sizeOf v < sizeOf f := by
  induction f with
  | nil => cases h
  | cons p f ih =>
    obtain ⟨l, w⟩ := p
    rw [List.lookup_cons] at h
    split at h
    · cases h
      simp only [List.cons.sizeOf_spec, Prod.mk.sizeOf_spec]
      omega
    · have := ih h
      simp only [List.cons.sizeOf_spec]
      omega

theorem agrees_refl (hsame : ∀ x, same x x) : ∀ v, Agrees same v v
  | .null => .null
  | .bool b => .bool b
  | .integer negative n => .integer negative n
  | .decimal n => .decimal (hsame n.decimal.toFloat)
  | .string s => .string s
  | .array items => .array (List.forall₂_same.mpr fun v _ => agrees_refl hsame v)
  | .object fields => .object (fun _ => rfl) fun _ v w hv hw => by
    obtain rfl : v = w := Option.some.inj (hv.symm.trans hw)
    have := sizeOf_lookup hv
    exact agrees_refl hsame v

section

variable {f g : List (String × Json)} {v w : Json} {name : String}

/-- Fields of the same name agree. -/
theorem Agrees.field (h : Agrees same (ofFields f) (ofFields g)) (name : String)
    (hv : f.lookup name = some v) (hw : g.lookup name = some w) : Agrees same v w := by
  unfold ofFields at h
  cases h with
  | object _ h =>
    exact h (some name) v w ((lookup_some f name).trans hv) ((lookup_some g name).trans hw)

theorem Agrees.isSome_field (h : Agrees same (ofFields f) (ofFields g)) (name : String) :
    (f.lookup name).isSome = (g.lookup name).isSome := by
  unfold ofFields at h
  cases h with
  | object hnames _ =>
    have hname := hnames (some name)
    rwa [lookup_some, lookup_some] at hname

/-! ### Parts of records -/

/-- The number that is written for a double is nearest to it. -/
theorem exists_decimal_ofFloat {x : Float} (hx : x.isFinite = true) :
    ∃ n : Decimal.Numeral, ofFloat x = .decimal n ∧ n.decimal.toFloat = x := by
  obtain ⟨d, hd, hnormal, hfloat⟩ := exists_ofFloat hx
  refine ⟨_, hd, ?_⟩
  rw [← Decimal.toFloat_normalize, normalize_numeral hnormal, hfloat]

theorem agrees_ofFloat {x y : Float} (hx : x.isFinite = true) (hy : y.isFinite = true)
    (h : Agrees same (ofFloat x) (ofFloat y)) : same x y := by
  obtain ⟨m, hm, rfl⟩ := exists_decimal_ofFloat hx
  obtain ⟨n, hn, rfl⟩ := exists_decimal_ofFloat hy
  rw [hm, hn] at h
  cases h with
  | decimal h => exact h

theorem agrees_ofString {s t : String} (h : Agrees same (ofString s) (ofString t)) : s = t := by
  unfold ofString at h
  cases h
  rfl

theorem agrees_ofNat {m n : Nat} (h : Agrees same (ofNat m) (ofNat n)) : m = n := by
  unfold ofNat at h
  cases h
  rfl

theorem agrees_ofOption {m n : Option Nat} (h : Agrees same (ofOption ofNat m) (ofOption ofNat n)) :
    m = n := by
  cases m with
  | none =>
    cases n with
    | none => rfl
    | some n => cases h
  | some m =>
    cases n with
    | none => cases h
    | some n => rw [agrees_ofNat h]

variable {i j : Option Nat}

theorem lookup_id (hrest : f.lookup "id" = none) : (idField i ++ f).lookup "id" = i.map ofNat := by
  cases i with
  | none => exact hrest
  | some i => rfl

/-- Ids agree, also if there is none. -/
theorem agrees_idField (h : Agrees same (ofFields (idField i ++ f)) (ofFields (idField j ++ g)))
    (hf : f.lookup "id" = none) (hg : g.lookup "id" = none) : i = j := by
  have hsome := h.isSome_field "id"
  rw [lookup_id hf, lookup_id hg, Option.isSome_map, Option.isSome_map] at hsome
  cases i with
  | none =>
    cases j with
    | none => rfl
    | some j => cases hsome
  | some i =>
    cases j with
    | none => cases hsome
    | some j => rw [agrees_ofNat (h.field "id" (lookup_id hf) (lookup_id hg))]

theorem Agrees.entry (h : Agrees same (ofFields (idField i ++ f)) (ofFields (idField j ++ g)))
    (name : String) (hname : name ≠ "id") (hv : f.lookup name = some v)
    (hw : g.lookup name = some w) :
    Agrees same v w :=
  h.field name (get?_idField hname hv) (get?_idField hname hw)

end

end Json

/-! ## Requests of the same content -/

section

variable (same : Float → Float → Prop)

structure Profile.Agrees (p q : Profile Float) : Prop where
  id : p.id = q.id
  vendor : p.vendor = q.vendor
  material : p.material = q.material
  density : same p.density q.density
  diameter : same p.diameter q.diameter

structure Spool.Agrees (s t : Spool Float) : Prop where
  id : s.id = t.id
  name : s.name = t.name
  profile : s.profile.Agrees same t.profile
  cost : same s.cost t.cost
  weight : same s.weight t.weight
  used : same s.used t.used
  tempOffset : same s.tempOffset t.tempOffset

/-- The same request, where `same` says which doubles are. -/
def Request.Agrees : Request Float → Request Float → Prop
  | .listProfiles force, .listProfiles force' | .listSpools force, .listSpools force' =>
    force = force'
  | .getProfile id, .getProfile id' | .deleteProfile id, .deleteProfile id'
  | .getSpool id, .getSpool id' | .deleteSpool id, .deleteSpool id' => id = id'
  | .addProfile p, .addProfile q => p.Agrees same q
  | .updateProfile id p, .updateProfile id' q => id = id' ∧ p.Agrees same q
  | .addSpool s, .addSpool t => s.Agrees same t
  | .updateSpool id s, .updateSpool id' t => id = id' ∧ s.Agrees same t
  | .listSelections, .listSelections => True
  | .updateSelection tool spool, .updateSelection tool' spool' => tool = tool' ∧ spool = spool'
  | _, _ => False

end

variable {same : Float → Float → Prop}

/-- All doubles of the material are finite, as they are if it is fit to be sent. -/
structure Profile.IsFinite (p : Profile Float) : Prop where
  density : p.density.isFinite = true
  diameter : p.diameter.isFinite = true

structure Spool.IsFinite (s : Spool Float) : Prop where
  profile : s.profile.IsFinite
  cost : s.cost.isFinite = true
  weight : s.weight.isFinite = true
  used : s.used.isFinite = true
  tempOffset : s.tempOffset.isFinite = true

theorem Profile.isFinite_of_check {p : Profile Float} (h : p.check = .ok ()) : p.IsFinite := by
  have hmeasures := measures_of_accept (mapError_eq_ok.mpr h)
  exact ⟨isFinite_of_checkPositive hmeasures.1, isFinite_of_checkPositive hmeasures.2⟩

theorem isFinite_of_isAmount {x : Float} (h : isAmount x = true) : x.isFinite = true :=
  ((Bool.and_eq_true _ _).mp h).1

theorem Spool.isFinite_of_check {s : Spool Float} (h : s.check = .ok ()) : s.IsFinite := by
  obtain ⟨_, _, hdiameter, hdensity, hcost, hweight, hused, _, hoffset⟩ := check_eq_ok_iff.mp h
  exact {
    profile := ⟨isFinite_of_checkPositive hdensity, isFinite_of_checkPositive hdiameter⟩
    cost := isFinite_of_isAmount hcost
    weight := isFinite_of_isAmount hweight
    used := isFinite_of_isAmount hused
    tempOffset := hoffset }

theorem Profile.agrees_of_toJson {p q : Profile Float} (hp : p.IsFinite) (hq : q.IsFinite)
    (h : Json.Agrees same p.toJson q.toJson) : p.Agrees same q where
  id := Json.agrees_idField h rfl rfl
  vendor := Json.agrees_ofString (h.entry "vendor" (by decide) rfl rfl)
  material := Json.agrees_ofString (h.entry "material" (by decide) rfl rfl)
  density := Json.agrees_ofFloat hp.density hq.density (h.entry "density" (by decide) rfl rfl)
  diameter := Json.agrees_ofFloat hp.diameter hq.diameter (h.entry "diameter" (by decide) rfl rfl)

theorem Spool.agrees_of_toJson {s t : Spool Float} (hs : s.IsFinite) (ht : t.IsFinite)
    (h : Json.Agrees same s.toJson t.toJson) : s.Agrees same t where
  id := Json.agrees_idField h rfl rfl
  name := Json.agrees_ofString (h.entry "name" (by decide) rfl rfl)
  profile := Profile.agrees_of_toJson hs.profile ht.profile (h.entry "profile" (by decide) rfl rfl)
  cost := Json.agrees_ofFloat hs.cost ht.cost (h.entry "cost" (by decide) rfl rfl)
  weight := Json.agrees_ofFloat hs.weight ht.weight (h.entry "weight" (by decide) rfl rfl)
  used := Json.agrees_ofFloat hs.used ht.used (h.entry "used" (by decide) rfl rfl)
  tempOffset :=
    Json.agrees_ofFloat hs.tempOffset ht.tempOffset (h.entry "temp_offset" (by decide) rfl rfl)

theorem SelectionUpdate.eq_of_toJson {u v : SelectionUpdate}
    (h : Json.Agrees same u.toJson v.toJson) : u = v := by
  obtain ⟨tool, ⟨id⟩⟩ := u
  obtain ⟨tool', ⟨id'⟩⟩ := v
  have htool : tool = tool' := Json.agrees_ofNat (h.field "tool" rfl rfl)
  have hspool : Json.Agrees same (SpoolRef.toJson ⟨id⟩) (SpoolRef.toJson ⟨id'⟩) :=
    h.field "spool" rfl rfl
  have hid : id = id' := Json.agrees_ofOption (hspool.field "id" rfl rfl)
  rw [htool, hid]

/-! ## The wire -/

namespace Request

variable {r s : Request Float}

/-- The one field of a body. -/
theorem agrees_body {name : String} {v w : Json}
    (h : Option.Rel (Json.Agrees same) (some (.ofFields [(name, v)]))
    (some (.ofFields [(name, w)]))) :
    Json.Agrees same v w := by
  cases h with
  | some h => exact h.field name List.lookup_cons_self List.lookup_cons_self

theorem profile_check_of_update {id : Nat} {p : Profile Float}
    (h : (updateProfile id p).check = .ok ()) : p.check = .ok () :=
  (bind_unit_eq_ok.mp h).2

theorem spool_check_of_update {id : Nat} {spool : Spool Float}
    (h : (updateSpool id spool).check = .ok ()) : spool.check = .ok () :=
  (bind_unit_eq_ok.mp h).2

/-- Method and address tell the kind of a request, query and body the rest. -/
theorem agrees_of_wire (hr : r.check = .ok ()) (hs : s.check = .ok ())
    (hmethod : r.method = s.method) (haddress : r.address = s.address) (hquery : r.query = s.query)
    (hbody : Option.Rel (Json.Agrees same) r.body? s.body?) : r.Agrees same s := by
  cases r <;> cases s <;> simp [method, address] at hmethod haddress
  case listProfiles.listProfiles force force' | listSpools.listSpools force force' =>
    show force = force'
    cases force <;> cases force' <;> first | rfl | cases hquery
  case getProfile.getProfile | deleteProfile.deleteProfile | getSpool.getSpool
    | deleteSpool.deleteSpool =>
    exact haddress
  case addProfile.addProfile p q =>
    exact Profile.agrees_of_toJson (Profile.isFinite_of_check hr) (Profile.isFinite_of_check hs)
      (agrees_body hbody)
  case updateProfile.updateProfile id p id' q =>
    have hp := Profile.isFinite_of_check (profile_check_of_update hr)
    have hq := Profile.isFinite_of_check (profile_check_of_update hs)
    exact ⟨haddress, Profile.agrees_of_toJson hp hq (agrees_body hbody)⟩
  case addSpool.addSpool spool spool' =>
    exact Spool.agrees_of_toJson (Spool.isFinite_of_check hr) (Spool.isFinite_of_check hs)
      (agrees_body hbody)
  case updateSpool.updateSpool id spool id' spool' =>
    have hspool := Spool.isFinite_of_check (spool_check_of_update hr)
    have hspool' := Spool.isFinite_of_check (spool_check_of_update hs)
    exact ⟨haddress, Spool.agrees_of_toJson hspool hspool' (agrees_body hbody)⟩
  case listSelections.listSelections => trivial
  case updateSelection.updateSelection tool spool tool' spool' =>
    have hupdate := SelectionUpdate.eq_of_toJson (agrees_body hbody)
    exact ⟨haddress, congrArg (fun u => u.spool.id) hupdate⟩

end Request

theorem Profile.agrees_eq_iff {p q : Profile Float} : p.Agrees Eq q ↔ p = q := by
  constructor
  · rintro ⟨hid, hvendor, hmaterial, hdensity, hdiameter⟩
    cases p
    cases q
    simp_all
  · rintro rfl
    exact ⟨rfl, rfl, rfl, rfl, rfl⟩

theorem Spool.agrees_eq_iff {s t : Spool Float} : s.Agrees Eq t ↔ s = t := by
  constructor
  · rintro ⟨hid, hname, hprofile, hcost, hweight, hused, hoffset⟩
    rw [Profile.agrees_eq_iff] at hprofile
    cases s
    cases t
    simp_all
  · rintro rfl
    exact ⟨rfl, rfl, Profile.agrees_eq_iff.mpr rfl, rfl, rfl, rfl, rfl⟩

namespace Request

theorem eq_of_agrees {r s : Request Float} (h : r.Agrees Eq s) : r = s := by
  cases r <;> cases s <;> simp_all [Agrees, Profile.agrees_eq_iff, Spool.agrees_eq_iff]

/-- Checked requests with the same method, path and query are the same if their bodies are. Bodies
that hold the same content, with doubles that compare equal, belong to requests of the same
content. -/
theorem requests_told_apart {r s : Request Float} (hr : r.check = .ok ()) (hs : s.check = .ok ())
    (hmethod : r.method = s.method) (hpath : r.path = s.path) (hquery : r.query = s.query) :
    (r.body? = s.body? → r = s) ∧
      (Option.Rel (Json.Agrees fun x y => (x == y) = true) r.body? s.body? →
        r.Agrees (fun x y => (x == y) = true) s) := by
  have haddress := address_of_path hpath
  refine ⟨fun hbody => ?_, agrees_of_wire hr hs hmethod haddress hquery⟩
  have hrefl : Option.Rel (Json.Agrees Eq) r.body? s.body? := by
    rw [hbody]
    cases s.body? with
    | none => exact .none
    | some v => exact .some (Json.agrees_refl (fun _ => rfl) v)
  exact eq_of_agrees (agrees_of_wire hr hs hmethod haddress hquery hrefl)

/-- A spool that is sent with its id, and one that is sent without. -/
theorem requests_told_apart_id :
    let r : Request Float := .updateSpool 0 scrap
    let s : Request Float := .updateSpool 0 { scrap with id := none }
    (r.check = .ok () ∧ s.check = .ok () ∧ r.method = s.method ∧ r.path = s.path ∧
      r.query = s.query) ∧ r.body? ≠ s.body? := by
  intro r s
  have hr : r.check = .ok () := eq_ok_of_toBool (by decide +kernel)
  have hs : s.check = .ok () := eq_ok_of_toBool (by decide +kernel)
  refine ⟨⟨hr, hs, rfl, rfl, rfl⟩, fun hbody => ?_⟩
  have heq : r = s := (requests_told_apart hr hs rfl rfl rfl).1 hbody
  injection heq with _ hspool
  exact absurd (congrArg Spool.id hspool) (by decide)

end Request
end Filament
