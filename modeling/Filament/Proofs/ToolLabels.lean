import Mathlib.Data.List.Nodup
import Filament.Host
import Filament.Proofs.Characters

/-!
Labels and the tools that they name.

The number in a label is its first run of digits, whatever stands around the run, and it is read as
it is written, with zeros in front or without (`ofLabel?_of_digits`). So no two tools share a label,
and none of the temperature offsets is lost when they are filed by label (`toList_offsetMap`). Every
one of them is filed under a label that names its tool (`labels_name_tools`).
-/

namespace Filament

open Text (Stops stops_cons stops_nil takeWhile_append dropWhile_append)

/-! ## The first run of digits -/

namespace Text

variable {before run after rest : List Char}

/-- No digit of any script. -/
def Digitless (cs : List Char) : Prop := ∀ c ∈ cs, isDigit c = false

theorem Digitless.dropWhile_append (h : Digitless before) (hrest : Stops (!isDigit ·) rest) :
    (before ++ rest).dropWhile (!isDigit ·) = rest := by
  apply Text.dropWhile_append _ hrest
  intro c hc
  rw [h c hc]
  rfl

theorem firstDigits_append (hbefore : Digitless before) (hne : run ≠ [])
    (hrun : ∀ c ∈ run, isDigit c = true) (hafter : Stops isDigit after) :
    firstDigits (before ++ (run ++ after)) = run := by
  have hfound : Stops (!isDigit ·) (run ++ after) := by
    obtain ⟨c, cs, rfl⟩ := List.exists_cons_of_ne_nil hne
    apply stops_cons
    rw [hrun c List.mem_cons_self]
    rfl
  unfold firstDigits
  rw [hbefore.dropWhile_append hfound, takeWhile_append hrun hafter]

theorem firstDigits_of_digitless (h : Digitless before) : firstDigits before = [] := by
  have hskipped := h.dropWhile_append stops_nil
  rw [List.append_nil] at hskipped
  unfold firstDigits
  rw [hskipped, List.takeWhile_nil]

/-- Zeros in front of a number change nothing. -/
theorem ofDigitChars_zeros (zeros n : Nat) :
    Nat.ofDigitChars 10 (List.replicate zeros '0' ++ Nat.toDigits 10 n) 0 = n := by
  rw [Nat.ofDigitChars_append, Nat.ofDigitChars_replicate_zero, Nat.mul_zero,
    Nat.ofDigitChars_ten_toDigits]

end Text

/-! ## Labels -/

namespace Tool

open Text (Digitless)

theorem ofLabel?_of_digits {before run after : List Char} (hbefore : Digitless before)
    (hne : run ≠ []) (hrun : ∀ c ∈ run, c.isDigit = true) (hafter : Stops Text.isDigit after) :
    ofLabel? (String.ofList (before ++ (run ++ after))) =
      if Nat.ofDigitChars 10 run 0 ≤ Text.maxWord then some (Nat.ofDigitChars 10 run 0)
        else none := by
  have hdigits : Text.firstDigits (before ++ (run ++ after)) = run :=
    Text.firstDigits_append hbefore hne (fun c hc => Text.isDigit_of_isDigit (hrun c hc)) hafter
  unfold ofLabel?
  rw [String.toList_ofList, hdigits]
  dsimp only
  rw [List.isEmpty_eq_false_iff.mpr hne, if_neg Bool.false_ne_true]
  by_cases hle : Nat.ofDigitChars 10 run 0 ≤ Text.maxWord
  · rw [if_pos hle, Text.word?_of_isDigit hrun hne hle]
  · rw [if_neg hle, Text.word?_of_isDigit_of_lt hrun hne (by omega)]

theorem ofLabel?_of_digitless {label : String} (h : Digitless label.toList) :
    ofLabel? label = some 0 := by
  unfold ofLabel?
  rw [Text.firstDigits_of_digitless h]
  rfl

section

variable {before after : String}

/-- Zeros in front of a number are not read. -/
theorem ofLabel?_of_number (hbefore : Digitless before.toList)
    (hafter : Stops Text.isDigit after.toList) (zeros : Nat) {n : Nat} (hn : n ≤ Text.maxWord) :
    ofLabel? (before ++ String.ofList (List.replicate zeros '0') ++ Text.ofNat n ++ after) =
      some n := by
  have hne : List.replicate zeros '0' ++ Nat.toDigits 10 n ≠ [] :=
    List.append_ne_nil_of_right_ne_nil _ Nat.toDigits_ne_nil
  have hdigits : ∀ c ∈ List.replicate zeros '0' ++ Nat.toDigits 10 n, c.isDigit = true := by
    intro c hc
    rcases List.mem_append.mp hc with hzero | hdigit
    · rw [List.eq_of_mem_replicate hzero]
      rfl
    · exact Text.isDigit_of_mem_toDigits c hdigit
  have hread := ofLabel?_of_digits hbefore hne hdigits hafter
  rw [Text.ofDigitChars_zeros, if_pos hn] at hread
  rw [← hread]
  simp [String.ofList_append, Text.ofNat, String.append_assoc]

theorem ofLabel?_of_large (hbefore : Digitless before.toList)
    (hafter : Stops Text.isDigit after.toList)
    {run : List Char} (hrun : ∀ c ∈ run, c.isDigit = true)
    (hlarge : Text.maxWord < Nat.ofDigitChars 10 run 0) :
    ofLabel? (before ++ String.ofList run ++ after) = none := by
  have hne : run ≠ [] := by
    intro hnil
    rw [hnil, Nat.ofDigitChars_nil] at hlarge
    omega
  have hread := ofLabel?_of_digits hbefore hne hrun hafter
  rw [if_neg (by omega)] at hread
  rw [← hread]
  simp [String.ofList_append, String.append_assoc]

end

theorem ofLabel?_label {tool : Nat} (h : tool ≤ Text.maxWord) :
    ofLabel? (label tool) = some tool := by
  have hbefore : Digitless "tool".toList := Text.forall_mem_of_all (by decide)
  have hafter : Stops Text.isDigit "".toList := stops_nil
  have hread := ofLabel?_of_number hbefore hafter 0 h
  rw [List.replicate_zero, String.ofList_nil, String.append_empty, String.append_empty] at hread
  exact hread

theorem label_injective : Function.Injective label := by
  intro a b h
  have hdigits : Nat.toDigits 10 a = Nat.toDigits 10 b :=
    String.ofList_injective ((String.append_right_inj "tool").mp h)
  rw [← Nat.ofDigitChars_ten_toDigits (n := a), hdigits, Nat.ofDigitChars_ten_toDigits]

end Tool

/-! ## Offsets -/

theorem compare_eq_lt_iff {a b : String} : compare a b = .lt ↔ a < b := compareOfLessAndEq_eq_lt

/-- Of entries under different keys none is lost in a map. -/
theorem mem_toList_ofList {β : Type} {entries : List (String × β)}
    (hnodup : (entries.map Prod.fst).Nodup)
    (entry : String × β) : entry ∈ (Std.TreeMap.ofList entries).toList ↔ entry ∈ entries := by
  have hdistinct : entries.Pairwise fun a b => ¬compare a.1 b.1 = .eq := by
    rw [List.Nodup, List.pairwise_map] at hnodup
    exact hnodup.imp fun hne heq => hne (Std.compare_eq_iff_eq.mp heq)
  have hfiled : ∀ key value, (key, value) ∈ entries →
      (Std.TreeMap.ofList entries)[key]? = some value := fun key value hentry =>
    Std.TreeMap.getElem?_ofList_of_mem Std.ReflCmp.compare_self hdistinct hentry
  obtain ⟨key, value⟩ := entry
  rw [Std.TreeMap.mem_toList_iff_getElem?_eq_some]
  refine ⟨fun h => ?_, hfiled key value⟩
  have hkey : key ∈ Std.TreeMap.ofList entries :=
    Std.TreeMap.mem_iff_isSome_getElem?.mpr (Option.isSome_of_eq_some h)
  rw [Std.TreeMap.mem_ofList, List.contains_iff_mem, List.mem_map] at hkey
  obtain ⟨⟨key, other⟩, hentry, rfl⟩ := hkey
  rw [hfiled key other hentry] at h
  obtain rfl := Option.some.inj h
  exact hentry

namespace Registry

variable {α : Type} [Scalar α]

/-- The label and the offset of every tool, tool by tool. -/
def offsets (r : Registry α) : List (String × α) :=
  r.slots.zipIdx.map fun s => (Tool.label s.2, (s.1.map Spool.tempOffset).getD Scalar.zero)

/-- The offsets filed one after another. A label that came again would replace what stands under
it. -/
def offsetMap (r : Registry α) : Std.TreeMap String α := Std.TreeMap.ofList r.offsets

theorem temperatureOffsets_perm (r : Registry α) : r.temperatureOffsets.Perm r.offsets :=
  List.mergeSort_perm _ _

theorem mem_temperatureOffsets (r : Registry α) (entry : String × α) :
    entry ∈ r.temperatureOffsets ↔
      ∃ tool spool, r.slots[tool]? = some spool ∧
        entry = (Tool.label tool, (spool.map Spool.tempOffset).getD Scalar.zero) := by
  rw [r.temperatureOffsets_perm.mem_iff, offsets, List.mem_map]
  constructor
  · intro ⟨⟨spool, tool⟩, hslot, hentry⟩
    exact ⟨tool, spool, List.mem_zipIdx_iff_getElem?.mp hslot, hentry.symm⟩
  · intro ⟨tool, spool, hslot, hentry⟩
    exact ⟨(spool, tool), List.mem_zipIdx_iff_getElem?.mpr hslot, hentry.symm⟩

theorem length_temperatureOffsets (r : Registry α) : r.temperatureOffsets.length = r.toolCount := by
  rw [r.temperatureOffsets_perm.length_eq, offsets, List.length_map, List.length_zipIdx, toolCount]

theorem nodup_labels (r : Registry α) : (r.offsets.map Prod.fst).Nodup := by
  have hlabels : r.offsets.map Prod.fst = (List.range' 0 r.toolCount).map Tool.label := by
    unfold offsets
    rw [toolCount, ← List.zipIdx_map_snd, List.map_map, List.map_map]
    rfl
  rw [hlabels]
  exact (List.nodup_range' 1).map Tool.label_injective

/-- The offsets are in the order of the labels, and no label comes twice. -/
theorem labels_ascend (r : Registry α) : r.temperatureOffsets.Pairwise fun a b => a.1 < b.1 := by
  have hdistinct : r.temperatureOffsets.Pairwise fun a b => a.1 ≠ b.1 := by
    rw [← List.pairwise_map (f := Prod.fst) (R := (· ≠ ·))]
    exact (r.temperatureOffsets_perm.map Prod.fst).nodup_iff.mpr r.nodup_labels
  have hsorted : r.temperatureOffsets.Pairwise fun a b => decide (a.1 ≤ b.1) = true := by
    apply List.pairwise_mergeSort
    · intro a b c hab hbc
      exact decide_eq_true (String.le_trans (of_decide_eq_true hab) (of_decide_eq_true hbc))
    · intro a b
      rw [Bool.or_eq_true, decide_eq_true_iff, decide_eq_true_iff]
      exact String.le_total a.1 b.1
  refine hsorted.imp₂ (fun a b hle hne => ?_) hdistinct
  apply String.not_le.mp
  intro hge
  exact hne (String.le_antisymm (of_decide_eq_true hle) hge)

omit [Scalar α] in
theorem nodup_of_ascend {l : List (String × α)} (h : l.Pairwise fun a b => a.1 < b.1) :
    l.Nodup := by
  refine h.imp fun {a b} hlt heq => ?_
  rw [heq] at hlt
  exact String.lt_irrefl b.1 hlt

/-- The map keeps all offsets: both lists ascend, and the same offsets are in them. -/
theorem toList_offsetMap (r : Registry α) : r.offsetMap.toList = r.temperatureOffsets := by
  have hascend : r.offsetMap.toList.Pairwise fun a b => a.1 < b.1 :=
    Std.TreeMap.ordered_keys_toList.imp compare_eq_lt_iff.mp
  have hperm : r.offsetMap.toList.Perm r.temperatureOffsets := by
    rw [List.perm_ext_iff_of_nodup (nodup_of_ascend hascend) (nodup_of_ascend r.labels_ascend)]
    intro entry
    exact (mem_toList_ofList r.nodup_labels entry).trans r.temperatureOffsets_perm.mem_iff.symm
  refine hperm.eq_of_pairwise ?_ hascend r.labels_ascend
  intro a b _ _ hab hba
  exact absurd hba (String.lt_asymm hab)

/-- A machine word is read from a label, with any zeros in front of it, if no digit stands before it
or right behind it. A larger number names no tool, and a label without digits names tool zero. So
none of the offsets replaces another one when they are filed by label: there is one for each tool,
and each is under a label that names the tool on which the spool with this offset is selected;
without a spool the offset is zero. -/
theorem labels_name_tools (r : Registry α) (hcount : r.toolCount ≤ Text.maxWord)
    {before after : String} (hbefore : Text.Digitless before.toList)
    (hafter : Stops Text.isDigit after.toList) :
    (∀ zeros n : Nat, n ≤ Text.maxWord →
      Tool.ofLabel? (before ++ String.ofList (List.replicate zeros '0') ++ Text.ofNat n ++ after) =
        some n) ∧
    (∀ run : List Char, (∀ c ∈ run, c.isDigit = true) →
      Text.maxWord < Nat.ofDigitChars 10 run 0 →
      Tool.ofLabel? (before ++ String.ofList run ++ after) = none) ∧
    Tool.ofLabel? before = some 0 ∧
    r.offsetMap.toList = r.temperatureOffsets ∧ r.temperatureOffsets.length = r.toolCount ∧
    (r.temperatureOffsets.Pairwise fun a b => a.1 < b.1) ∧
    (∀ entry ∈ r.temperatureOffsets, ∃ tool spool, r.slots[tool]? = some spool ∧
      Tool.ofLabel? entry.1 = some tool ∧
      entry.2 = (spool.map Spool.tempOffset).getD Scalar.zero) ∧
    ∀ tool spool, r.slots[tool]? = some spool → ∃ entry ∈ r.temperatureOffsets,
      Tool.ofLabel? entry.1 = some tool ∧
      entry.2 = (spool.map Spool.tempOffset).getD Scalar.zero := by
  have hlabel : ∀ tool spool, r.slots[tool]? = some spool →
      Tool.ofLabel? (Tool.label tool) = some tool := by
    intro tool spool hslot
    have hlt : tool < r.toolCount := (List.getElem?_eq_some_iff.mp hslot).1
    exact Tool.ofLabel?_label (by omega)
  refine ⟨fun zeros n hn => Tool.ofLabel?_of_number hbefore hafter zeros hn,
    fun run hrun hlarge => Tool.ofLabel?_of_large hbefore hafter hrun hlarge,
    Tool.ofLabel?_of_digitless hbefore, r.toList_offsetMap, r.length_temperatureOffsets,
      r.labels_ascend,
    ?_, ?_⟩
  · intro entry hentry
    obtain ⟨tool, spool, hslot, rfl⟩ := (r.mem_temperatureOffsets entry).mp hentry
    exact ⟨tool, spool, hslot, hlabel tool spool hslot, rfl⟩
  · intro tool spool hslot
    exact ⟨_, (r.mem_temperatureOffsets _).mpr ⟨tool, spool, hslot, rfl⟩,
      hlabel tool spool hslot, rfl⟩

/-- A printer with a warm spool on its second tool. -/
def warm : Registry Float where
  slots := [none, some { (Spool.standard : Spool Float) with tempOffset := 5 }]
  revision := 1

theorem labels_name_tools_warm :
    warm.toolCount ≤ Text.maxWord ∧ Text.Digitless "Tool ".toList ∧
      Stops Text.isDigit " (left)".toList ∧
      Tool.ofLabel? "Tool 0012 (left)" = some 12 ∧
      Tool.ofLabel? "Tool 18446744073709551616 (left)" = none ∧
      ∃ entry ∈ warm.temperatureOffsets, Tool.ofLabel? entry.1 = some 1 ∧ entry.2 = 5 := by
  have hcount : warm.toolCount ≤ Text.maxWord := by decide
  have hbefore : Text.Digitless "Tool ".toList := Text.forall_mem_of_all (by decide)
  have hafter : Stops Text.isDigit " (left)".toList := rfl
  obtain ⟨hread, hlarge, -, -, -, -, -, hfiled⟩ := labels_name_tools warm hcount hbefore hafter
  have hdigits : ∀ c ∈ "18446744073709551616".toList, c.isDigit = true :=
    Text.forall_mem_of_all (by decide)
  have hnumber := hread 2 12 (by decide)
  have hlabel : "Tool " ++ String.ofList (List.replicate 2 '0') ++ Text.ofNat 12 ++ " (left)" =
      "Tool 0012 (left)" := by decide
  rw [hlabel] at hnumber
  have hnone := hlarge "18446744073709551616".toList hdigits (by decide)
  rw [String.ofList_toList] at hnone
  exact ⟨hcount, hbefore, hafter, hnumber, hnone, hfiled 1 _ rfl⟩

end Registry
end Filament
