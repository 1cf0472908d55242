import Filament.Job
import Filament.Proofs.JsonRecords
import Filament.Settings.Record
import Filament.Spool.Record

/-!
Records that are read as they were written.

A record is writable if its whole numbers fit machine words and its doubles are read from what is
written for them. Every writable record is read back from its JSON with all of its fields.
-/

namespace Filament

open Json

/-! ## Materials, spools and selections -/

structure Profile.Writable (p : Profile Float) : Prop where
  id : ∀ n ∈ p.id, n ≤ Text.maxWord
  density : ReadsBack p.density
  diameter : ReadsBack p.diameter

structure Spool.Writable (s : Spool Float) : Prop where
  id : ∀ n ∈ s.id, n ≤ Text.maxWord
  profile : s.profile.Writable
  cost : ReadsBack s.cost
  weight : ReadsBack s.weight
  used : ReadsBack s.used
  tempOffset : ReadsBack s.tempOffset

structure Selection.Writable (s : Selection Float) : Prop where
  tool : s.tool ≤ Text.maxWord
  spool : ∀ spool ∈ s.spool, spool.Writable

section

variable {id : Option Nat} {rest : List (String × Json)}

theorem isClean_idField {k : Nat} (h : ∀ n ∈ id, n ≤ Text.maxWord)
    (hrest : ∀ f ∈ rest, IsClean k f.2) : ∀ f ∈ idField id ++ rest, IsClean k f.2 := by
  rw [List.forall_mem_append]
  refine ⟨?_, hrest⟩
  cases id with
  | none => exact fun f hf => absurd hf List.not_mem_nil
  | some n => exact List.forall_mem_singleton.mpr (encodes_ofNat (h n rfl) k).toIsClean

theorem sublist_idField {names : List String} (h : (rest.map Prod.fst).Sublist names) :
    ((idField id ++ rest).map Prod.fst).Sublist ("id" :: names) := by
  cases id with
  | none => exact h.cons "id"
  | some n => exact h.cons_cons "id"

theorem get?_idField {name : String} {v : Json} (hne : name ≠ "id")
    (h : rest.lookup name = some v) :
    Fields.get? { positional := false, entries := idField id ++ rest } name = some v := by
  unfold Fields.get?
  cases id with
  | none => exact h
  | some n =>
    show List.lookup name (("id", ofNat n) :: rest) = some v
    rw [List.lookup_cons, beq_eq_false_iff_ne.mpr hne]
    exact h

/-- An id is read as it is, and no id where there is no field. -/
theorem withDefault_idField (h : ∀ n ∈ id, n ≤ Text.maxWord) (hrest : rest.lookup "id" = none) :
    Fields.withDefault { positional := false, entries := idField id ++ rest } "id" none
      (option? natural?) = some id := by
  cases id with
  | none =>
    have hget : Fields.get? { positional := false, entries := idField none ++ rest } "id" = none :=
      hrest
    unfold Fields.withDefault
    rw [hget]
  | some n =>
    exact (encodes_ofOption (o := some n) rfl fun m hm => encodes_ofNat (h m hm) 0).read_eq

end

theorem Profile.encodes {p : Profile Float} (h : p.Writable) :
    Encodes (Profile.ofJson? float?) 1 p.toJson p := by
  have hvendor := encodes_ofString p.vendor 0
  have hmaterial := encodes_ofString p.material 0
  have hdensity := encodes_ofFloat h.density 0
  have hdiameter := encodes_ofFloat h.diameter 0
  apply encodes_ofFields
  · apply isClean_idField h.id
    simp only [List.forall_mem_cons]
    exact ⟨hvendor.toIsClean, hmaterial.toIsClean, hdensity.toIsClean, hdiameter.toIsClean,
      fun f hf => absurd hf List.not_mem_nil⟩
  · exact Fields.ofJson?_ofFields (sublist_idField (List.Sublist.refl _)) (by decide)
  · rw [withDefault_idField h.id rfl, Fields.withDefault_eq _ (get?_idField (by decide) rfl)
      hvendor, Fields.withDefault_eq _ (get?_idField (by decide) rfl) hmaterial,
      Fields.required_eq (get?_idField (by decide) rfl) hdensity,
      Fields.required_eq (get?_idField (by decide) rfl) hdiameter]
    rfl

theorem Spool.encodes {s : Spool Float} (h : s.Writable) :
    Encodes (Spool.ofJson? float?) 2 s.toJson s := by
  have hname := encodes_ofString s.name 1
  have hprofile := Profile.encodes h.profile
  have hcost := encodes_ofFloat h.cost 1
  have hweight := encodes_ofFloat h.weight 1
  have hused := encodes_ofFloat h.used 1
  have htempOffset := encodes_ofFloat h.tempOffset 1
  apply encodes_ofFields
  · apply isClean_idField h.id
    simp only [List.forall_mem_cons]
    exact ⟨hname.toIsClean, hprofile.toIsClean, hcost.toIsClean, hweight.toIsClean, hused.toIsClean,
      htempOffset.toIsClean, fun f hf => absurd hf List.not_mem_nil⟩
  · exact Fields.ofJson?_ofFields (sublist_idField (List.Sublist.refl _)) (by decide)
  · rw [withDefault_idField h.id rfl, Fields.required_eq (get?_idField (by decide) rfl) hname,
      Fields.required_eq (get?_idField (by decide) rfl) hprofile,
      Fields.withDefault_eq _ (get?_idField (by decide) rfl) hcost,
      Fields.required_eq (get?_idField (by decide) rfl) hweight,
      Fields.withDefault_eq _ (get?_idField (by decide) rfl) hused,
      Fields.withDefault_eq _ (get?_idField (by decide) rfl) htempOffset]
    rfl

/-- A spool that may be missing, as selections and events name it. -/
theorem encodes_spool {spool : Option (Spool Float)} (h : ∀ s ∈ spool, s.Writable) :
    Encodes (option? (Spool.ofJson? float?)) 2 (ofOption Spool.toJson spool) spool :=
  encodes_ofOption rfl fun s hs => Spool.encodes (h s hs)

theorem Selection.encodes {s : Selection Float} (h : s.Writable) :
    Encodes (Selection.ofJson? float?) 3 s.toJson s := by
  have htool := encodes_ofNat h.tool 2
  have hspool := encodes_spool h.spool
  apply encodes_ofFields
  · simp only [List.forall_mem_cons]
    exact ⟨htool.toIsClean, hspool.toIsClean, fun f hf => absurd hf List.not_mem_nil⟩
  · exact ofJson?_fields rfl (by decide)
  · rw [Fields.required_eq rfl htool, Fields.nullable_eq rfl hspool]
    rfl

/-! ## The report on a job, and the settings -/

def Telemetry.Writable (t : Telemetry Float) : Prop := ReadsBack t.length

def Settings.Writable (s : Settings Float) : Prop := ReadsBack s.pauseThreshold

theorem Telemetry.encodes {t : Telemetry Float} (h : t.Writable) :
    Encodes (Telemetry.ofJson? float?) 1 t.toJson t := by
  have hlabel := encodes_ofString t.label 0
  have hlength := encodes_ofFloat h 0
  apply encodes_ofFields
  · simp only [List.forall_mem_cons]
    exact ⟨hlabel.toIsClean, hlength.toIsClean, fun f hf => absurd hf List.not_mem_nil⟩
  · exact ofJson?_fields rfl (by decide)
  · rw [Fields.required_eq rfl hlabel, Fields.withDefault_eq _ rfl hlength]
    rfl

/-- Whatever the reserve is read as, the other settings are read as they were written. -/
theorem Settings.encodes_as {s : Settings Float} {reserve : Float}
    (hfinite : s.pauseThreshold.isFinite = true)
    (hreserve : float? (ofFloat s.pauseThreshold) = some reserve) :
    Encodes (Settings.ofJson? float?) 1 s.toJson { s with pauseThreshold := reserve } := by
  have hthreshold := encodes_ofFloat_as hfinite hreserve 0
  have hsymbol := encodes_ofString s.currencySymbol 0
  have hflag := fun b => encodes_bool b 0
  apply encodes_ofFields
  · simp only [List.forall_mem_cons]
    exact ⟨(hflag _).toIsClean, (hflag _).toIsClean, (hflag _).toIsClean, hthreshold.toIsClean,
      hsymbol.toIsClean, (hflag _).toIsClean, (hflag _).toIsClean, (hflag _).toIsClean,
      fun f hf => absurd hf List.not_mem_nil⟩
  · exact ofJson?_fields rfl (by decide)
  · dsimp only
    rw [Fields.withDefault_eq _ rfl (hflag s.enableOdometer),
      Fields.withDefault_eq _ rfl (hflag s.enableWarning),
        Fields.withDefault_eq _ rfl (hflag s.autoPause),
      Fields.withDefault_eq _ rfl hthreshold, Fields.withDefault_eq _ rfl hsymbol,
      Fields.withDefault_eq _ rfl (hflag s.confirmSpoolSelection),
      Fields.withDefault_eq _ rfl (hflag s.dismissResolvedWarning),
      Fields.withDefault_eq _ rfl (hflag s.g90InfluencesExtruder)]
    rfl

theorem Settings.encodes {s : Settings Float} (h : s.Writable) :
    Encodes (Settings.ofJson? float?) 1 s.toJson s :=
  Settings.encodes_as h.isFinite h

theorem Settings.legible_toJson {s : Settings Float} (h : s.pauseThreshold.isFinite = true) :
    s.toJson.IsLegible := by
  have hflag := fun b => (encodes_bool b 0).legible
  refine legible_object (List.forall_mem_map.mpr ?_)
  simp only [List.forall_mem_cons]
  exact ⟨hflag _, hflag _, hflag _, legible_ofFloat h, (encodes_ofString _ 0).legible, hflag _,
    hflag _, hflag _, fun f hf => absurd hf List.not_mem_nil⟩

/-- Settings whose reserve is not read are not read either. -/
theorem Settings.ofJson?_eq_none {s : Settings Float}
    (h : float? (ofFloat s.pauseThreshold) = none) : Settings.ofJson? float? s.toJson = none := by
  have hflag := fun b => encodes_bool b 0
  have hfields : Fields.ofJson? keys s.toJson = _ := ofJson?_fields rfl (by decide)
  have hreserve : ∀ {f : Fields}, f.get? "pauseThreshold" = some (ofFloat s.pauseThreshold) →
      f.withDefault "pauseThreshold" (standard : Settings Float).pauseThreshold float? = none :=
    fun hget => (Fields.withDefault_of_get? _ hget).trans h
  unfold Settings.ofJson?
  rw [hfields, Option.bind_eq_bind, Option.bind_some]
  dsimp only
  rw [Fields.withDefault_eq _ rfl (hflag s.enableOdometer),
    Fields.withDefault_eq _ rfl (hflag s.enableWarning),
    Fields.withDefault_eq _ rfl (hflag s.autoPause),
    hreserve rfl]
  rfl

/-! ## A spool with texts that have to be escaped -/

/-- A material under the last id that may be given out. -/
def petg : Profile Float where
  id := some (Text.maxWord - 1)
  vendor := "Acme"
  material := "PETG \"clear\""
  density := 1.27
  diameter := 1.75

def scrap : Spool Float where
  id := some 0
  name := "\t\\ ☃"
  profile := petg
  cost := 23.99
  weight := 1000
  used := 1e-7
  tempOffset := -5.5

theorem petg_writable : petg.Writable where
  id n hn := by
    cases hn
    decide
  density := by decide +kernel
  diameter := by decide +kernel

theorem scrap_writable : scrap.Writable where
  id n hn := by
    cases hn
    decide
  profile := petg_writable
  cost := by decide +kernel
  weight := by decide +kernel
  used := by decide +kernel
  tempOffset := by decide +kernel

end Filament
