import Filament.Proofs.DoubleOrder
import Filament.Proofs.Odometer

/-!
An odometer kept in arrays.

A host may keep the parts of the extruders in three arrays that are indexed by the active tool and
grow when a tool is selected. `Odometer.Arrays` is the odometer kept so. Its steps have no result
where an index lies outside of an array, and no call leads there: whatever is fed, the arrays hold
the columns of the extruders (`run?_ofOdometer`). So they are equally long, and what a line leaves
of a furthest extrusion is a number that is not below the one before, even where sums are infinite
or no number (`arrays_stay_sound`).
-/

namespace Filament
namespace Odometer

open Gcode

variable {α : Type} [Scalar α]

/-- What is asked of an odometer. -/
inductive Call where
  | feedLine (line : String)
  | feedProgram (program : String)
  | reset
  | setG90Influences (value : Bool)
deriving DecidableEq

def call (o : Odometer α) : Call → Odometer α
  | .feedLine line => o.feedLine line
  | .feedProgram program => o.feedProgram program
  | .reset => o.reset
  | .setG90Influences value => o.setG90Influences value

def after (o : Odometer α) (calls : List Call) : Odometer α := calls.foldl call o

/-! ## Arrays -/

/-- The odometer with an array for each part of the extruders. -/
structure Arrays (α : Type) where
  g90Influences : Bool
  relativeMode : Bool
  relativeExtrusion : Bool
  tool : Nat
  positions : List α
  totals : List α
  furthest : List α

namespace Arrays

def start (g90Influences : Bool) : Arrays α where
  g90Influences := g90Influences
  relativeMode := false
  relativeExtrusion := false
  tool := 0
  positions := [Scalar.zero]
  totals := [Scalar.zero]
  furthest := [Scalar.zero]

/-- Writes to a place that the array has. -/
def put? (l : List α) (i : Nat) (x : α) : Option (List α) :=
  if i < l.length then some (l.set i x) else none

/-- Cuts the array off, or fills it up with zeros. -/
def resize (l : List α) (count : Nat) : List α :=
  l.take count ++ List.replicate (count - l.length) Scalar.zero

def absoluteExtrusion (a : Arrays α) : Bool :=
  if a.g90Influences then !a.relativeExtrusion else !a.relativeMode && !a.relativeExtrusion

def extrude? (a : Arrays α) (e : α) : Option (Arrays α) := do
  let position ← a.positions[a.tool]?
  let delta := if a.absoluteExtrusion then e - position else e
  let total ← a.totals[a.tool]?
  let totals ← put? a.totals a.tool (total + delta)
  let positions ← put? a.positions a.tool (position + delta)
  let furthest ← a.furthest[a.tool]?
  let furthest ← put? a.furthest a.tool (Scalar.larger furthest (total + delta))
  return { a with positions, totals, furthest }

/-- Only the array of the positions is asked whether the tool is a new one. -/
def select (a : Arrays α) (tool : Nat) : Arrays α :=
  if a.positions.length ≤ tool then
    { a with
      tool
      positions := resize a.positions (tool + 1)
      totals := resize a.totals (tool + 1)
      furthest := resize a.furthest (tool + 1) }
  else { a with tool }

def step? (a : Arrays α) : Command → Option (Arrays α)
  | .extrude e => a.extrude? (Scalar.ofDecimal e)
  | .position e => do
    return { a with positions := ← put? a.positions a.tool (Scalar.ofDecimal e) }
  | .absoluteMode =>
    some { a with
      relativeMode := false
      relativeExtrusion := if a.g90Influences then false else a.relativeExtrusion }
  | .relativeMode =>
    some { a with
      relativeMode := true
      relativeExtrusion := if a.g90Influences then true else a.relativeExtrusion }
  | .absoluteExtrusion => some { a with relativeExtrusion := false }
  | .relativeExtrusion => some { a with relativeExtrusion := true }
  | .select tool => some (a.select tool)

def feedLine? (a : Arrays α) (line : String) : Option (Arrays α) :=
  match ofLine? line with
  | some command => a.step? command
  | none => some a

def call? (a : Arrays α) : Call → Option (Arrays α)
  | .feedLine line => a.feedLine? line
  | .feedProgram program => (Text.lines program).foldlM feedLine? a
  | .reset => some (start a.g90Influences)
  | .setG90Influences value => some { a with g90Influences := value }

def run? (a : Arrays α) (calls : List Call) : Option (Arrays α) := calls.foldlM call? a

/-- The columns of the extruders. -/
def ofOdometer (o : Odometer α) : Arrays α where
  g90Influences := o.g90Influences
  relativeMode := o.relativeMode
  relativeExtrusion := o.relativeExtrusion
  tool := o.tool
  positions := o.extruders.map Extruder.position
  totals := o.extruders.map Extruder.total
  furthest := o.extruders.map Extruder.furthest

/-! ## No index lies outside -/

variable {o : Odometer α}

section

variable {x : Extruder α} {f : Extruder α → α} {change : Extruder α → Extruder α}

omit [Scalar α] in
theorem put?_map {y : α} (hx : o.extruders[o.tool]? = some x) (hy : f (change x) = y) :
    put? (o.extruders.map f) o.tool y = some ((o.modifyActive change).extruders.map f) := by
  obtain ⟨hlt, rfl⟩ := List.getElem?_eq_some_iff.mp hx
  unfold put? modifyActive
  rw [List.length_map, if_pos hlt]
  congr 1
  apply List.ext_getElem?
  intro i
  rw [List.getElem?_map, List.getElem?_modify, List.getElem?_set, List.getElem?_map,
    List.length_map]
  by_cases hi : o.tool = i
  · subst hi
    simp [hlt, hy]
  · simp [hi]

omit [Scalar α] in
theorem map_modifyActive (h : ∀ x, f (change x) = f x) :
    (o.modifyActive change).extruders.map f = o.extruders.map f := by
  unfold modifyActive
  apply List.ext_getElem?
  intro i
  rw [List.getElem?_map, List.getElem?_modify, List.getElem?_map]
  by_cases hi : o.tool = i
  · cases o.extruders[i]? <;> simp [hi, h]
  · simp [hi]

end

theorem extrude?_ofOdometer (ho : o.InRange) (e : α) :
    (ofOdometer o).extrude? e =
      some (ofOdometer (o.modifyActive fun x => x.feed o.absoluteExtrusion e)) := by
  have hx : o.extruders[o.tool]? = some o.extruders[o.tool] := List.getElem?_eq_getElem ho
  generalize o.extruders[o.tool] = x at hx
  generalize hdelta : (if o.absoluteExtrusion then e - x.position else e) = delta
  have hmoved : x.feed o.absoluteExtrusion e = x.move delta := by rw [Extruder.feed, hdelta]
  generalize hchange : (fun x : Extruder α => x.feed o.absoluteExtrusion e) = change
  have hactive : change x = x.move delta := by
    rw [← hchange]
    exact hmoved
  have htotals : put? (o.extruders.map Extruder.total) o.tool (x.total + delta) =
      some ((o.modifyActive change).extruders.map Extruder.total) :=
    put?_map hx (congrArg Extruder.total hactive)
  have hpositions : put? (o.extruders.map Extruder.position) o.tool (x.position + delta) =
      some ((o.modifyActive change).extruders.map Extruder.position) :=
    put?_map hx (congrArg Extruder.position hactive)
  have hfurthest : put? (o.extruders.map Extruder.furthest) o.tool
      (Scalar.larger x.furthest (x.total + delta)) =
      some ((o.modifyActive change).extruders.map Extruder.furthest) :=
    put?_map hx (congrArg Extruder.furthest hactive)
  have habsolute : (ofOdometer o).absoluteExtrusion = o.absoluteExtrusion := rfl
  unfold extrude?
  rw [habsolute]
  simp only [ofOdometer, List.getElem?_map, hx, Option.map_some, Option.bind_eq_bind,
    Option.bind_some, hdelta, htotals, hpositions, hfurthest]
  rfl

theorem position?_ofOdometer (ho : o.InRange) (e : Decimal) :
    (ofOdometer o).step? (.position e) = some (ofOdometer (o.step (.position e))) := by
  have hpositions : put? (ofOdometer o).positions o.tool (Scalar.ofDecimal e) =
      some (ofOdometer (o.step (.position e))).positions :=
    put?_map (List.getElem?_eq_getElem ho) rfl
  have htotals : (ofOdometer (o.step (.position e))).totals = (ofOdometer o).totals :=
    map_modifyActive fun _ => rfl
  have hfurthest : (ofOdometer (o.step (.position e))).furthest = (ofOdometer o).furthest :=
    map_modifyActive fun _ => rfl
  show (put? (ofOdometer o).positions o.tool (Scalar.ofDecimal e)).bind
    (fun positions => some { ofOdometer o with positions }) = _
  rw [hpositions, Option.bind_some]
  dsimp only
  rw [← htotals, ← hfurthest]
  rfl

theorem resize_map {f : Extruder α → α} (hf : f Extruder.rest = Scalar.zero) {tool : Nat}
    (h : o.extruders.length ≤ tool) :
    resize (o.extruders.map f) (tool + 1) = (o.select tool).extruders.map f := by
  unfold resize Odometer.select
  rw [List.take_of_length_le (by rw [List.length_map]; omega), List.length_map, List.map_append,
    List.map_replicate, hf]

theorem select_ofOdometer (o : Odometer α) (tool : Nat) :
    (ofOdometer o).select tool = ofOdometer (o.select tool) := by
  have hlength : (ofOdometer o).positions.length = o.extruders.length := List.length_map _
  unfold Arrays.select
  by_cases hnew : o.extruders.length ≤ tool
  · rw [hlength, if_pos hnew]
    simp only [ofOdometer, resize_map (f := Extruder.position) rfl hnew,
      resize_map (f := Extruder.total) rfl hnew, resize_map (f := Extruder.furthest) rfl hnew]
    rfl
  · have hsame : (o.select tool).extruders = o.extruders := by
      show o.extruders ++ List.replicate (tool + 1 - o.extruders.length) Extruder.rest = _
      rw [show tool + 1 - o.extruders.length = 0 by omega]
      exact List.append_nil _
    rw [hlength, if_neg hnew]
    simp only [ofOdometer, hsame]
    rfl

theorem step?_ofOdometer (ho : o.InRange) (c : Command) :
    (ofOdometer o).step? c = some (ofOdometer (o.step c)) := by
  cases c with
  | extrude e => exact extrude?_ofOdometer ho _
  | position e => exact position?_ofOdometer ho e
  | select tool => exact congrArg some (select_ofOdometer o tool)
  | _ => rfl

theorem feedLine?_ofOdometer (ho : o.InRange) (line : String) :
    (ofOdometer o).feedLine? line = some (ofOdometer (o.feedLine line)) := by
  unfold feedLine? feedLine
  cases ofLine? line with
  | none => rfl
  | some c => exact step?_ofOdometer ho c

omit [Scalar α] in
/-- Steps that keep the active tool followed and stay inside of the arrays do so one after
another. -/
theorem foldlM_ofOdometer {β : Type} {f? : Arrays α → β → Option (Arrays α)}
    {f : Odometer α → β → Odometer α}
    (hstep : ∀ (o : Odometer α) (b : β), o.InRange →
      f? (ofOdometer o) b = some (ofOdometer (f o b)) ∧ (f o b).InRange)
    (bs : List β) (ho : o.InRange) :
    bs.foldlM f? (ofOdometer o) = some (ofOdometer (bs.foldl f o)) ∧ (bs.foldl f o).InRange := by
  induction bs generalizing o with
  | nil => exact ⟨rfl, ho⟩
  | cons b rest ih =>
    obtain ⟨hfirst, hrange⟩ := hstep o b ho
    obtain ⟨hrest, hend⟩ := ih hrange
    rw [List.foldlM_cons, hfirst]
    exact ⟨hrest, hend⟩

theorem call?_ofOdometer (ho : o.InRange) (c : Call) :
    (ofOdometer o).call? c = some (ofOdometer (o.call c)) ∧ (o.call c).InRange := by
  have hline : ∀ (o : Odometer α) (line : String), o.InRange →
      (ofOdometer o).feedLine? line = some (ofOdometer (o.feedLine line)) ∧
      (o.feedLine line).InRange :=
    fun o line ho => ⟨feedLine?_ofOdometer ho line, inRange_feedLine ho line⟩
  cases c with
  | feedLine line => exact hline o line ho
  | feedProgram program => exact foldlM_ofOdometer hline (Text.lines program) ho
  | reset => exact ⟨rfl, inRange_start o.g90Influences⟩
  | setG90Influences value => exact ⟨rfl, ho⟩

/-- Whatever is asked of the odometer, no index lies outside of the arrays. -/
theorem run?_ofOdometer (ho : o.InRange) (calls : List Call) :
    (ofOdometer o).run? calls = some (ofOdometer (o.after calls)) ∧ (o.after calls).InRange :=
  foldlM_ofOdometer (fun _ c ho => call?_ofOdometer ho c) calls ho

end Arrays

/-! ## What every line keeps -/

theorem lt_of_selected? {line : String} {tool : Nat} (h : selected? line = some tool) :
    tool < 64 := by
  obtain ⟨c, -, hselected⟩ := Option.bind_eq_some_iff.mp h
  by_cases hc : c.1 = 'T' ∧ c.2 < 64
  · rw [if_pos hc] at hselected
    obtain rfl := Option.some.inj hselected
    exact hc.2
  · rw [if_neg hc] at hselected
    cases hselected

/-- Only a selection makes the odometer follow more tools, and none makes it follow fewer. -/
theorem length_feedLine (o : Odometer α) (line : String) :
    (o.feedLine line).extruders.length =
      max o.extruders.length (((selected? line).map (· + 1)).getD 0) := by
  obtain ⟨c, hline, hstep⟩ := o.feedLine_reads line
  rw [hstep]
  cases hline with
  | select tool hmode hselected =>
    rw [hselected]
    show (o.extruders ++ List.replicate (tool + 1 - o.extruders.length) Extruder.rest).length =
      max o.extruders.length (tool + 1)
    rw [List.length_append, List.length_replicate]
    omega
  | _ => simp_all [step, modifyActive]

theorem extrusion_getElem?_of_lt {o : Odometer α} {tool : Nat} (h : tool < o.extruders.length) :
    o.extrusion[tool]? = some (o.extrusionFor tool) := by
  unfold extrusion extrusionFor
  rw [List.getElem?_map, List.getElem?_eq_getElem h]
  rfl

/-- What every line keeps is kept by every call that does not start anew. -/
theorem call_induction {P : Odometer α → Prop} (hline : ∀ o line, P o → P (o.feedLine line))
    (hset : ∀ o value, P o → P (o.setG90Influences value)) {o : Odometer α} (ho : P o) {c : Call}
    (hc : c ≠ .reset) : P (o.call c) := by
  cases c with
  | feedLine line => exact hline o line ho
  | feedProgram program =>
    exact List.foldlRecOn (Text.lines program) feedLine ho fun o ho line _ => hline o line ho
  | reset => exact absurd rfl hc
  | setG90Influences value => exact hset o value ho

variable {o b : Odometer Float}

/-- The tools that are followed, and how far they came. -/
structure Sound (o : Odometer Float) : Prop where
  inRange : o.InRange
  length_le : o.extruders.length ≤ 64
  zero_le : ∀ tool, Scalar.le Scalar.zero (o.extrusionFor tool) = true

theorem sound_start (g90Influences : Bool) : Sound (start g90Influences) where
  inRange := inRange_start g90Influences
  length_le := by
    show 1 ≤ 64
    omega
  zero_le tool := by
    rw [extrusionFor_eq, extruder_start]
    exact Double.le_iff.mpr ⟨rfl, rfl, Double.lt_self Scalar.zero⟩

theorem sound_feedLine (ho : o.Sound) (line : String) : (o.feedLine line).Sound where
  inRange := inRange_feedLine ho.inRange line
  length_le := by
    have hlength := ho.length_le
    rw [length_feedLine]
    cases hselected : selected? line with
    | none => simpa using hlength
    | some tool =>
      have := lt_of_selected? hselected
      simp only [Option.map_some, Option.getD_some]
      omega
  zero_le tool := by
    rcases o.extrusionFor_feedLine line tool with hkept | ⟨total, hlarger⟩
    · rw [hkept]
      exact ho.zero_le tool
    · rw [hlarger]
      exact Double.le_larger (ho.zero_le tool) total

theorem sound_call (ho : o.Sound) (c : Call) : (o.call c).Sound := by
  by_cases hc : c = .reset
  · rw [hc]
    exact sound_start o.g90Influences
  · exact call_induction (P := Sound) (fun _ line ho => sound_feedLine ho line)
      (fun _ _ ho => ⟨ho.inRange, ho.length_le, ho.zero_le⟩) ho hc

theorem sound_after (ho : o.Sound) (calls : List Call) : (o.after calls).Sound :=
  List.foldlRecOn calls call ho fun _ ho c _ => sound_call ho c

/-- More tools may be followed, and none has come less far. -/
structure Grown (o b : Odometer Float) : Prop where
  length_le : o.extruders.length ≤ b.extruders.length
  le : ∀ tool, Scalar.le (o.extrusionFor tool) (b.extrusionFor tool) = true

theorem Sound.grown (ho : o.Sound) : Grown o o where
  length_le := Nat.le_refl _
  le tool := by
    obtain ⟨-, hnumber, -⟩ := Double.le_iff.mp (ho.zero_le tool)
    exact Double.le_iff.mpr ⟨hnumber, hnumber, Double.lt_self _⟩

theorem grown_feedLine (h : Grown o b) (line : String) : Grown o (b.feedLine line) where
  length_le := by
    have hlength := h.length_le
    rw [length_feedLine]
    omega
  le tool := by
    rcases b.extrusionFor_feedLine line tool with hkept | ⟨total, hlarger⟩
    · rw [hkept]
      exact h.le tool
    · rw [hlarger]
      exact Double.le_larger (h.le tool) total

theorem grown_after (ho : o.Sound) {calls : List Call} (hcalls : Call.reset ∉ calls) :
    Grown o (o.after calls) := by
  apply List.foldlRecOn calls call ho.grown
  intro b hb c hc
  have hgoesOn : c ≠ .reset := by
    intro hreset
    rw [hreset] at hc
    exact hcalls hc
  exact call_induction (P := Grown o) (fun _ line hb => grown_feedLine hb line)
    (fun _ _ hb => ⟨hb.length_le, hb.le⟩) hb hgoesOn

namespace Arrays

/-- Whatever is asked of it, an odometer kept in three arrays never looks for a place that an array
does not have, and it holds what the odometer holds. The arrays are equally long, one place to 64,
and the active tool has a place. Every furthest extrusion is a number that is not below zero. As
long as nothing starts anew the arrays do not shrink and no furthest extrusion decreases. -/
theorem arrays_stay_sound (g90Influences : Bool) (calls : List Call) {more : List Call}
    (hmore : Call.reset ∉ more) :
    let o := (Odometer.start g90Influences : Odometer Float).after calls
    ∃ a b : Arrays Float,
      (start g90Influences).run? calls = some a ∧ a = ofOdometer o ∧
      a.run? more = some b ∧ b = ofOdometer (o.after more) ∧
      (a.totals.length = a.positions.length ∧ a.furthest.length = a.positions.length) ∧
      (1 ≤ a.positions.length ∧ a.positions.length ≤ 64) ∧
      a.tool < a.positions.length ∧
      (∀ x ∈ a.furthest, x.isNaN = false ∧ Scalar.lt x Scalar.zero = false) ∧
      a.positions.length ≤ b.positions.length ∧
      ∀ (i : Nat) (x : Float), a.furthest[i]? = some x →
        ∃ y, b.furthest[i]? = some y ∧ Scalar.le x y = true := by
  intro o
  have ho : o.Sound := sound_after (sound_start g90Influences) calls
  have hgrown : Grown o (o.after more) := grown_after ho hmore
  have hlength : (ofOdometer o).positions.length = o.extruders.length := List.length_map _
  have htool : o.tool < o.extruders.length := ho.inRange
  refine ⟨ofOdometer o, ofOdometer (o.after more), (run?_ofOdometer (inRange_start _) calls).1, rfl,
    (run?_ofOdometer ho.inRange more).1, rfl, ?_, ?_, ?_, ?_, ?_, ?_⟩
  · exact ⟨(List.length_map _).trans hlength.symm, (List.length_map _).trans hlength.symm⟩
  · rw [hlength]
    exact ⟨by omega, ho.length_le⟩
  · rw [hlength]
    exact htool
  · intro x hx
    obtain ⟨tool, htool⟩ := List.mem_iff_getElem?.mp hx
    rw [extrusion_getElem? htool]
    obtain ⟨-, hnumber, hlow⟩ := Double.le_iff.mp (ho.zero_le tool)
    exact ⟨hnumber, hlow⟩
  · rw [hlength]
    exact hgrown.length_le.trans_eq (List.length_map _).symm
  · intro i x hx
    have hfurthest : (ofOdometer o).furthest.length = o.extruders.length := List.length_map _
    obtain ⟨hi, -⟩ := List.getElem?_eq_some_iff.mp hx
    rw [hfurthest] at hi
    refine ⟨(o.after more).extrusionFor i,
      extrusion_getElem?_of_lt (Nat.lt_of_lt_of_le hi hgrown.length_le), ?_⟩
    rw [extrusion_getElem? hx]
    exact hgrown.le i

/-- A move of more than the largest double. -/
def boundless (sign : String) : Call :=
  .feedLine ("G1 E" ++ sign ++ String.ofList (List.replicate 310 '9'))

/-- The sum of the moves is infinite and then no number, and selections of the last tool and of none
follow. -/
def hostile : List Call :=
  [.feedLine "M83", boundless "", boundless "-", .feedProgram "T63\nT64\nT99999999999999999999",
    .setG90Influences false, .feedLine "G92 E5"]

theorem arrays_stay_sound_hostile :
    Call.reset ∉ hostile ∧ ∃ a b : Arrays Float,
      (start true).run? (hostile ++ [.reset]) = some a ∧ a.run? hostile = some b ∧
      a.tool < a.positions.length ∧ a.positions.length ≤ b.positions.length := by
  have hgoesOn : Call.reset ∉ hostile := by
    simp only [hostile, boundless, List.mem_cons, List.not_mem_nil, reduceCtorEq, or_false,
      not_false_eq_true]
  obtain ⟨a, b, ha, -, hb, -, -, -, htool, -, hlength, -⟩ :=
    arrays_stay_sound true (hostile ++ [.reset]) hgoesOn
  exact ⟨hgoesOn, a, b, ha, hb, htool, hlength⟩

end Arrays
end Odometer
end Filament
