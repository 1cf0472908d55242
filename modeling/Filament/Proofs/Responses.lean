import Filament.Proofs.Encoded
import Filament.Response

/-!
Responses are read as they were written.

The text of a response begins and ends with a brace, so no blank of it is taken off with the blanks
around it, and it holds a field, so it is not the text that stands for no response. Hence it is
parsed to the response in both layouts, whatever blanks stand around it, and the payload can be
taken from the response as what its kind says and as nothing else (`responses_read_as_written`).
-/

namespace Filament

open Json

/-! ## Objects as texts -/

namespace Json

theorem ofChars?_braces : ofChars? ['\x7b', '\x7d'] = some (.object []) :=
  ofChars?_of_lays (.token .openObject trivial nofun (.token .closeObject trivial nofun .nil))

theorem head?_compactChars (fields : List (Option String × Json)) :
    (compactChars (.object fields)).head? = some '\x7b' := rfl

theorem getLast?_compactChars (fields : List (Option String × Json)) :
    (compactChars (.object fields)).getLast? = some '\x7d' := by
  have hchars : Token.closeObject.chars = ['\x7d'] := rfl
  simp [compactChars, tokens, hchars]

theorem head?_indentedChars (fields : List (Option String × Json)) :
    (indentedChars (.object fields)).head? = some '\x7b' := by
  cases fields with
  | nil => rfl
  | cons f fields => rfl

/-- The last token, if it is not the first. -/
theorem getLast?_tail {t last : Token} {ts : List Token} (h : (t :: ts).getLast? = some last)
    (hne : t ≠ last) : ts.getLast? = some last := by
  cases ts with
  | nil => exact absurd (Option.some.inj h) hne
  | cons u ts => rwa [List.getLast?_cons_cons] at h

theorem getLast?_layout {ts : List Token} (depth : Nat) (h : ts.getLast? = some .closeObject) :
    (layout depth ts).getLast? = some '\x7d' := by
  fun_induction layout depth ts with
  | case1 => cases h
  | case2 depth ts ih =>
    have hrest := ih (getLast?_tail (getLast?_tail h (by simp)) (by simp))
    simp [List.getLast?_cons, hrest]
  | case3 depth ts ih =>
    cases ts with
    | nil => rfl
    | cons t ts => simp [List.getLast?_cons, ih h]
  | case7 depth ts ih =>
    cases ts with
    | nil => simp [layout]
    | cons t ts => simp [List.getLast?_cons, List.getLast?_append, ih h]
  | case10 depth t ts _ _ _ _ _ hclose _ _ ih =>
    simp [List.getLast?_append, ih (getLast?_tail h hclose)]
  | case4 depth ts _ ih | case5 depth ts _ ih | case6 depth ts ih | case8 depth ts ih
  | case9 depth ts ih =>
    have hrest := ih (getLast?_tail h (by simp))
    simp [List.getLast?_cons, List.getLast?_append, hrest]

theorem getLast?_indentedChars (fields : List (Option String × Json)) :
    (indentedChars (.object fields)).getLast? = some '\x7d' := by
  apply getLast?_layout
  simp [tokens, List.getLast?_cons]

end Json

/-! ## Responses -/

namespace Response

def Writable : Response Float → Prop
  | .profiles l => ∀ p ∈ l, p.Writable
  | .profile p => p.Writable
  | .spools l => ∀ s ∈ l, s.Writable
  | .spool s => s.Writable
  | .selections l => ∀ s ∈ l, s.Writable
  | .selection s => s.Writable

variable {r : Response Float}

/-- The kind of a response says what its payload is read as. -/
theorem read_payload (h : r.Writable) :
    IsClean 4 r.payload ∧ ofPayload? float? r.kind r.payload = some r := by
  cases r with
  | profiles l =>
    have hl := (encodes_ofList fun p hp => Profile.encodes (h p hp)).mono (by decide : 2 ≤ 4)
    exact ⟨hl.toIsClean, congrArg (Option.map profiles) hl.read_eq⟩
  | profile p =>
    have hp := (Profile.encodes h).mono (by decide : 1 ≤ 4)
    exact ⟨hp.toIsClean, congrArg (Option.map profile) hp.read_eq⟩
  | spools l =>
    have hl := (encodes_ofList fun s hs => Spool.encodes (h s hs)).mono (by decide : 3 ≤ 4)
    exact ⟨hl.toIsClean, congrArg (Option.map spools) hl.read_eq⟩
  | spool s =>
    have hs := (Spool.encodes h).mono (by decide : 2 ≤ 4)
    exact ⟨hs.toIsClean, congrArg (Option.map spool) hs.read_eq⟩
  | selections l =>
    have hl := encodes_ofList fun s hs => Selection.encodes (h s hs)
    exact ⟨hl.toIsClean, congrArg (Option.map selections) hl.read_eq⟩
  | selection s =>
    have hs := (Selection.encodes h).mono (by decide : 3 ≤ 4)
    exact ⟨hs.toIsClean, congrArg (Option.map selection) hs.read_eq⟩

theorem encodes (h : r.Writable) : Encodes (ofJson? float?) 5 r.toJson r := by
  obtain ⟨hclean, hread⟩ := read_payload h
  exact { toIsClean := isClean_ofFields (List.forall_mem_singleton.mpr hclean), read_eq := hread }

/-- A text that is none of those that stand for no response. -/
theorem ofTrimmed_of_ne {cs : List Char} (hempty : cs ≠ []) (hbraces : cs ≠ ['\x7b', '\x7d']) :
    ofTrimmed cs =
      ((ofChars? cs).bind (ofJson? float?)).elim (.error .malformed) fun r => .ok (some r) := by
  unfold ofTrimmed
  rw [List.isEmpty_eq_false_iff.mpr hempty, beq_eq_false_iff_ne.mpr hbraces, Bool.or_self,
    if_neg Bool.false_ne_true]
  cases (ofChars? cs).bind (ofJson? float?) <;> rfl

/-- A text that holds a response is none of them. -/
theorem ofTrimmed_of_read {cs : List Char} (h : r.Writable) (hread : ofChars? cs = some r.toJson) :
    ofTrimmed cs = .ok (some r) := by
  have hempty : cs ≠ [] := by
    rintro rfl
    rw [ofChars?, Token.scan_of_lays .nil] at hread
    cases hread
  have hbraces : cs ≠ ['\x7b', '\x7d'] := by
    rintro rfl
    rw [ofChars?_braces] at hread
    cases hread
  rw [ofTrimmed_of_ne hempty hbraces, hread, Option.bind_some, (encodes h).read_eq,
    Option.elim_some]

theorem parse_of_read {cs : List Char} (h : r.Writable) (hread : ofChars? cs = some r.toJson)
    (hhead : cs.head? = some '\x7b') (hend : cs.getLast? = some '\x7d') {before after : String}
    (hbefore : ∀ c ∈ before.toList, Text.isBlank c = true)
    (hafter : ∀ c ∈ after.toList, Text.isBlank c = true) :
    parse (before ++ String.ofList cs ++ after) = .ok (some r) := by
  have hne : cs ≠ [] := by
    rintro rfl
    cases hhead
  have hstart : Text.Stops Text.isBlank cs := by
    rw [Text.Stops, hhead]
    rfl
  have hstop : Text.Stops Text.isBlank cs.reverse := by
    rw [Text.Stops, List.head?_reverse, hend]
    rfl
  unfold parse
  rw [String.toList_append, String.toList_append, String.toList_ofList,
    Text.trimChars_append hbefore hafter hne hstart hstop, ofTrimmed_of_read h hread]

theorem parse_compact (h : r.Writable) : parse r.toJson.compact = .ok (some r) := by
  have hread := ofChars?_compactChars (encodes h).legible
  have hparse : parse ("" ++ r.toJson.compact ++ "") = .ok (some r) :=
    parse_of_read h hread (head?_compactChars _) (getLast?_compactChars _) nofun nofun
  rwa [String.empty_append, String.append_empty] at hparse

/-- A response is parsed from its text in either layout, whatever blanks stand around it. The text
holds one field, which is named for the kind of the response, and the payload can be taken as what
the kind says and as nothing else. -/
theorem responses_read_as_written (h : r.Writable) {before after : String}
    (hbefore : ∀ c ∈ before.toList, Text.isBlank c = true)
    (hafter : ∀ c ∈ after.toList, Text.isBlank c = true) :
    (parse (before ++ r.toJson.compact ++ after) = .ok (some r) ∧
      parse (before ++ r.toJson.indented ++ after) = .ok (some r)) ∧
    (parse? r.toJson.compact = some (.object [(some r.kind, r.payload)]) ∧
      parse? r.toJson.indented = some (.object [(some r.kind, r.payload)])) ∧
    (∀ l, r.toProfiles = .ok l ↔ r = .profiles l) ∧ (∀ p, r.toProfile = .ok p ↔ r = .profile p) ∧
    (∀ l, r.toSpools = .ok l ↔ r = .spools l) ∧ (∀ s, r.toSpool = .ok s ↔ r = .spool s) ∧
    (∀ l, r.toSelections = .ok l ↔ r = .selections l) ∧
    (∀ s, r.toSelection = .ok s ↔ r = .selection s) := by
  have hlegible := (encodes h).legible
  refine ⟨⟨?_, ?_⟩, ⟨parse?_compact hlegible, parse?_indented hlegible⟩, ?_⟩
  · exact parse_of_read h (ofChars?_compactChars hlegible) (head?_compactChars _)
      (getLast?_compactChars _) hbefore hafter
  · exact parse_of_read h (ofChars?_indentedChars hlegible) (head?_indentedChars _)
      (getLast?_indentedChars _) hbefore hafter
  · cases r <;> simp [toProfiles, toProfile, toSpools, toSpool, toSelections, toSelection]

/-- A printer with a spool on one of its tools, between blanks of which some are none of the
format. -/
theorem responses_read_as_written_selections :
    let r : Response Float :=
      .selections [{ tool := 0, spool := some scrap }, { tool := 1, spool := none }]
    (r.Writable ∧ (∀ c ∈ "\u00a0\n".toList, Text.isBlank c = true) ∧
      ∀ c ∈ "\u3000".toList, Text.isBlank c = true) ∧
    parse ("\u00a0\n" ++ r.toJson.compact ++ "\u3000") = .ok (some r) ∧
    parse ("\u00a0\n" ++ r.toJson.indented ++ "\u3000") = .ok (some r) ∧
    parse? r.toJson.compact = some (.object [(some "selections", r.payload)]) ∧
    (∀ l, r.toSpools ≠ .ok l) ∧
    r.toSelections = .ok [{ tool := 0, spool := some scrap }, { tool := 1, spool := none }] := by
  intro r
  have hwritable : r.Writable := by
    have hmounted : ∀ s ∈ some scrap, s.Writable := by
      rintro s ⟨⟩
      exact scrap_writable
    have hempty : ∀ s ∈ (none : Option (Spool Float)), s.Writable := nofun
    have hone : 1 ≤ Text.maxWord := by decide
    exact List.forall_mem_cons.mpr
      ⟨⟨Nat.zero_le _, hmounted⟩, List.forall_mem_singleton.mpr ⟨hone, hempty⟩⟩
  have hbefore : ∀ c ∈ "\u00a0\n".toList, Text.isBlank c = true := List.all_eq_true.mp (by decide)
  have hafter : ∀ c ∈ "\u3000".toList, Text.isBlank c = true := List.all_eq_true.mp (by decide)
  obtain ⟨⟨hcompact, hindented⟩, ⟨hkey, _⟩, _, _, hspools, _, hselections, _⟩ :=
    responses_read_as_written hwritable hbefore hafter
  refine ⟨⟨hwritable, hbefore, hafter⟩, hcompact, hindented, hkey, fun l hl => ?_, ?_⟩
  · have hkind : r.kind = "spools" := congrArg kind ((hspools l).mp hl)
    exact absurd hkind (by decide)
  · exact (hselections _).mpr rfl

end Response
end Filament
