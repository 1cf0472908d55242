import Filament.Json.Reader
import Filament.Proofs.JsonTokens

/-!
JSON text is read as the value that it was written for.

The reader puts the tokens of a value together to that value (`ofTokens?_tokens`), and both layouts
lay out these tokens.
-/

namespace Filament
namespace Json

open Token (Lays Breaks)

/-! ## The reader -/

/-- A value does not begin with the end of an array. -/
theorem tokens_eq_cons (v : Json) : ∃ t ts, tokens v = t :: ts ∧ t ≠ .closeArray := by
  cases v with
  | null | bool | integer | decimal => exact ⟨_, [], rfl, Token.noConfusion⟩
  | string s => exact ⟨_, [], rfl, Token.noConfusion⟩
  | array items => exact ⟨_, _, rfl, Token.noConfusion⟩
  | object fields => exact ⟨_, _, rfl, Token.noConfusion⟩

theorem assemble?_openArray (v : Json) (stack : List Frame) (rest : List Token) :
    assemble? none stack (.openArray :: (tokens v ++ rest)) =
      assemble? none (.array [] :: stack) (tokens v ++ rest) := by
  obtain ⟨t, ts, htokens, hne⟩ := tokens_eq_cons v
  rw [htokens, List.cons_append, assemble?]
  rintro rest h
  exact hne (List.head_eq_of_cons_eq h)

theorem tokens_array_cons (v : Json) (items : List Json) (rest : List Token) :
    tokens (.array (v :: items)) ++ rest =
      .openArray :: (tokens v ++ (moreItems items ++ .closeArray :: rest)) := by
  rw [tokens, itemTokens]
  simp only [List.cons_append, List.append_assoc, List.nil_append]

theorem tokens_object_cons (k : Option String) (v : Json) (fields : List (Option String × Json))
    (rest : List Token) :
    tokens (.object ((k, v) :: fields)) ++ rest =
      .openObject :: .text k :: .colon ::
        (tokens v ++ (moreFields fields ++ .closeObject :: rest)) := by
  rw [tokens, fieldTokens]
  simp only [List.cons_append, List.append_assoc, List.nil_append]

mutual

/-- The reader completes a value when it has taken its tokens. -/
theorem assemble?_tokens (v : Json) (stack : List Frame) (rest : List Token) :
    assemble? none stack (tokens v ++ rest) = assemble? (some v) stack rest := by
  cases v with
  | null | bool | integer | decimal => rfl
  | string s => rfl
  | array items =>
    cases items with
    | nil => rfl
    | cons w items =>
      rw [tokens_array_cons, assemble?_openArray, assemble?_tokens w, assemble?_moreItems w items]
      rfl
  | object fields =>
    cases fields with
    | nil => rfl
    | cons f fields =>
      obtain ⟨k, w⟩ := f
      rw [tokens_object_cons, assemble?, assemble?_tokens w, assemble?_moreFields k w fields]
      rfl

/-- The reader completes an array that is open when it has taken the rest of its parts. -/
theorem assemble?_moreItems (v : Json) (items done : List Json) (stack : List Frame)
    (rest : List Token) :
    assemble? (some v) (.array done :: stack) (moreItems items ++ .closeArray :: rest) =
      assemble? (some (.array (done.reverse ++ v :: items))) stack rest := by
  cases items with
  | nil => rw [moreItems, List.nil_append, assemble?, List.reverse_cons]
  | cons w items =>
    rw [moreItems, List.append_assoc, List.cons_append, assemble?, assemble?_tokens w,
      assemble?_moreItems w items, List.reverse_cons, List.append_assoc, List.singleton_append]

/-- The reader completes an object that is open when it has taken the rest of its fields. -/
theorem assemble?_moreFields (k : Option String) (v : Json)
    (fields done : List (Option String × Json)) (stack : List Frame) (rest : List Token) :
    assemble? (some v) (.object done k :: stack) (moreFields fields ++ .closeObject :: rest) =
      assemble? (some (.object (done.reverse ++ (k, v) :: fields))) stack rest := by
  cases fields with
  | nil => rw [moreFields, List.nil_append, assemble?, List.reverse_cons]
  | cons f fields =>
    obtain ⟨l, w⟩ := f
    rw [moreFields, List.append_assoc, List.cons_append, List.cons_append, List.cons_append,
      assemble?,
      assemble?_tokens w, assemble?_moreFields l w fields, List.reverse_cons, List.append_assoc,
      List.singleton_append]

end

theorem ofTokens?_tokens (v : Json) : ofTokens? (tokens v) = some v := by
  have h := assemble?_tokens v [] []
  rw [List.append_nil] at h
  exact h

/-! ## Layouts -/

/-- The tokens do not begin with a scalar. -/
def OpensApart (ts : List Token) : Prop := ts.head?.all (!·.isScalar) = true

/-- No two scalars stand side by side. -/
def Apart : List Token → Prop
  | [] => True
  | t :: rest => (t.isScalar = true → OpensApart rest) ∧ Apart rest

theorem apart_cons {t : Token} {ts : List Token} (ht : t.isScalar = false) (hts : Apart ts) :
    Apart (t :: ts) :=
  ⟨fun h => absurd (ht.symm.trans h) Bool.false_ne_true, hts⟩

theorem opensApart_moreItems (items : List Json) (rest : List Token) :
    OpensApart (moreItems items ++ .closeArray :: rest) := by
  cases items <;> rfl

theorem opensApart_moreFields (fields : List (Option String × Json)) (rest : List Token) :
    OpensApart (moreFields fields ++ .closeObject :: rest) := by
  cases fields <;> rfl

mutual

theorem apart_tokens (v : Json) {rest : List Token} (hopens : OpensApart rest) (h : Apart rest) :
    Apart (tokens v ++ rest) := by
  cases v with
  | null | bool | integer | decimal => exact ⟨fun _ => hopens, h⟩
  | string s => exact apart_cons rfl h
  | array items =>
    cases items with
    | nil => exact apart_cons rfl (apart_cons rfl h)
    | cons w items =>
      rw [tokens_array_cons]
      exact apart_cons rfl (apart_tokens w (opensApart_moreItems items rest)
        (apart_moreItems items (apart_cons rfl h)))
  | object fields =>
    cases fields with
    | nil => exact apart_cons rfl (apart_cons rfl h)
    | cons f fields =>
      obtain ⟨k, w⟩ := f
      rw [tokens_object_cons]
      exact apart_cons rfl
        (apart_cons rfl (apart_cons rfl (apart_tokens w (opensApart_moreFields fields rest)
        (apart_moreFields fields (apart_cons rfl h)))))

theorem apart_moreItems (items : List Json) {rest : List Token} (h : Apart (.closeArray :: rest)) :
    Apart (moreItems items ++ .closeArray :: rest) := by
  cases items with
  | nil => exact h
  | cons w items =>
    rw [moreItems, List.append_assoc, List.cons_append]
    exact apart_cons rfl
      (apart_tokens w (opensApart_moreItems items rest) (apart_moreItems items h))

theorem apart_moreFields (fields : List (Option String × Json)) {rest : List Token}
    (h : Apart (.closeObject :: rest)) : Apart (moreFields fields ++ .closeObject :: rest) := by
  cases fields with
  | nil => exact h
  | cons f fields =>
    obtain ⟨k, w⟩ := f
    rw [moreFields, List.append_assoc, List.cons_append, List.cons_append, List.cons_append]
    exact apart_cons rfl
      (apart_cons rfl (apart_cons rfl (apart_tokens w (opensApart_moreFields fields rest)
      (apart_moreFields fields h))))

end

variable {ts : List Token} {cs : List Char}

theorem breaks_nil : Breaks [] := ⟨rfl, rfl⟩

theorem breaks_chars {t : Token} (h : t.isScalar = false) (cs : List Char) :
    Breaks (t.chars ++ cs) := by
  cases t with
  | scalar v => cases h
  | text s => cases s <;> exact ⟨rfl, rfl⟩
  | openArray | closeArray | openObject | closeObject | comma | colon => exact ⟨rfl, rfl⟩

/-- Without blanks. -/
theorem lays_chars (hapart : Apart ts) (hlegible : ∀ t ∈ ts, t.IsLegible) :
    Lays ts (ts.flatMap Token.chars) := by
  induction ts with
  | nil => exact .nil
  | cons t ts ih =>
    rw [List.forall_mem_cons] at hlegible
    refine .token t hlegible.1 (fun hscalar => ?_) (ih hapart.2 hlegible.2)
    have hopens := hapart.1 hscalar
    cases ts with
    | nil => exact breaks_nil
    | cons u ts => exact breaks_chars (by simpa [OpensApart] using hopens) _

theorem lays_newLine (depth : Nat) (h : Lays ts cs) : Lays ts (newLine depth ++ cs) := by
  refine .blank rfl ?_
  induction 2 * depth with
  | zero => exact h
  | succ k ih => exact .blank rfl ih

theorem breaks_layout (h : OpensApart ts) (depth : Nat) : Breaks (layout depth ts) := by
  fun_cases layout depth ts with
  | case1 => exact breaks_nil
  | case10 depth t ts => exact breaks_chars (by simpa [OpensApart] using h) _
  | _ => exact ⟨rfl, rfl⟩

/-- With a new line for each part of an array or object. -/
theorem lays_layout (hapart : Apart ts) (hlegible : ∀ t ∈ ts, t.IsLegible) (depth : Nat) :
    Lays ts (layout depth ts) := by
  fun_induction layout depth ts with
  | case1 => exact .nil
  | case2 depth ts ih =>
    rw [List.forall_mem_cons, List.forall_mem_cons] at hlegible
    exact .token .openArray trivial nofun
      (.token .closeArray trivial nofun (ih hapart.2.2 hlegible.2.2))
  | case3 depth ts ih =>
    rw [List.forall_mem_cons, List.forall_mem_cons] at hlegible
    exact .token .openObject trivial nofun
      (.token .closeObject trivial nofun (ih hapart.2.2 hlegible.2.2))
  | case4 depth ts hempty ih =>
    rw [List.forall_mem_cons] at hlegible
    exact .token .openArray trivial nofun (lays_newLine _ (ih hapart.2 hlegible.2))
  | case5 depth ts hempty ih =>
    rw [List.forall_mem_cons] at hlegible
    exact .token .openObject trivial nofun (lays_newLine _ (ih hapart.2 hlegible.2))
  | case6 depth ts ih =>
    rw [List.forall_mem_cons] at hlegible
    exact lays_newLine _ (.token .closeArray trivial nofun (ih hapart.2 hlegible.2))
  | case7 depth ts ih =>
    rw [List.forall_mem_cons] at hlegible
    exact lays_newLine _ (.token .closeObject trivial nofun (ih hapart.2 hlegible.2))
  | case8 depth ts ih =>
    rw [List.forall_mem_cons] at hlegible
    exact .token .comma trivial nofun (lays_newLine _ (ih hapart.2 hlegible.2))
  | case9 depth ts ih =>
    rw [List.forall_mem_cons] at hlegible
    exact .token .colon trivial nofun (.blank rfl (ih hapart.2 hlegible.2))
  | case10 depth t ts _ _ _ _ _ _ _ _ ih =>
    rw [List.forall_mem_cons] at hlegible
    exact .token t hlegible.1 (fun hscalar => breaks_layout (hapart.1 hscalar) depth)
      (ih hapart.2 hlegible.2)

/-! ## Values that are read as they are written -/

/-- Every numeral in the value is told from an integer. -/
def IsLegible (v : Json) : Prop := ∀ t ∈ tokens v, t.IsLegible

theorem ofChars?_of_lays {v : Json} (h : Lays (tokens v) cs) : ofChars? cs = some v := by
  unfold ofChars?
  rw [Token.scan_of_lays h, Option.bind_some, ofTokens?_tokens]

theorem apart_tokens_nil (v : Json) : Apart (tokens v) := by
  have h : Apart (tokens v ++ []) := apart_tokens v rfl trivial
  rw [List.append_nil] at h
  exact h

theorem ofChars?_compactChars {v : Json} (h : v.IsLegible) : ofChars? (compactChars v) = some v :=
  ofChars?_of_lays (lays_chars (apart_tokens_nil v) h)

theorem ofChars?_indentedChars {v : Json} (h : v.IsLegible) : ofChars? (indentedChars v) = some v :=
  ofChars?_of_lays (lays_layout (apart_tokens_nil v) h 0)

theorem parse?_compact {v : Json} (h : v.IsLegible) : parse? v.compact = some v := by
  unfold parse? compact
  rw [String.toList_ofList, ofChars?_compactChars h]

theorem parse?_indented {v : Json} (h : v.IsLegible) : parse? v.indented = some v := by
  unfold parse? indented
  rw [String.toList_ofList, ofChars?_indentedChars h]

end Json
end Filament
