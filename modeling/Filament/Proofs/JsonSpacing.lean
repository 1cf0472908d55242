import Mathlib.Data.List.DropRight
import Filament.Proofs.Characters
import Filament.Proofs.ClientCalls

/-!
Blanks around the tokens of JSON text.

A text is taken apart into lexemes, the characters of its tokens, without asking what they stand for
(`Spaced`), and every text that holds a value can be taken apart so (`exists_spaced_of_parse?`).
Blanks before, between and behind the lexemes leave no trace in the scan, and neither do those that
are trimmed off beforehand. So a body of a response says the same in every layout, with one
exception: two braces hold no response only if nothing stands between them, and with a blank between
them the body is malformed (`layouts_parsed_alike_iff`).
-/

namespace Filament
namespace Json
namespace Token

open Text (Stops stops_cons stops_append_left stops_dropWhile stops_of_forall stops_of_isPrefix
  dropWhile_eq_self)

/-! ## Lexemes -/

/-- What stands between the quotes of a text. -/
inductive Quoted : List Char → Prop where
  | nil : Quoted []
  | char {c : Char} {cs : List Char} (hquote : c ≠ '"') (hslash : c ≠ '\\')
    (hcontrol : ¬c.toNat < 0x20) (h : Quoted cs) : Quoted (c :: cs)
  | escape {c : Char} {cs : List Char} (hc : (unescape? c).isSome = true) (h : Quoted cs) :
    Quoted ('\\' :: c :: cs)
  | code {a b c d : Char} {cs : List Char} (hcode : (hexCode? a b c d).isSome = true)
    (h : Quoted cs) : Quoted ('\\' :: 'u' :: a :: b :: c :: d :: cs)

/-- The characters that are tokens of their own. -/
def marks : List Char := ['[', ']', '\x7b', '\x7d', ',', ':']

/-- The characters of a token, and those with which it would go on. -/
inductive Lexeme : List Char → (Char → Bool) → Prop where
  | mark {c : Char} (hc : c ∈ marks) : Lexeme [c] fun _ => false
  | text {cs : List Char} (hcs : Quoted cs) : Lexeme ('"' :: (cs ++ ['"'])) fun _ => false
  | word {c : Char} {cs : List Char} (hc : isLetter c = true) (hcs : ∀ d ∈ cs, isLetter d = true) :
    Lexeme (c :: cs) isLetter
  | numeral {c : Char} {cs : List Char} (hletter : isLetter c = false) (hc : isNumeral c = true)
    (hcs : ∀ d ∈ cs, isNumeral d = true) : Lexeme (c :: cs) isNumeral

/-- The text has these lexemes, one after another, with blanks before, between and behind them. -/
inductive Spaced : List (List Char) → List Char → Prop where
  | nil : Spaced [] []
  | blank {ls : List (List Char)} {c : Char} {cs : List Char} (hc : isBlank c = true)
    (h : Spaced ls cs) : Spaced ls (c :: cs)
  | lexeme {ls : List (List Char)} {l cs : List Char} {more : Char → Bool} (hl : Lexeme l more)
    (hends : Stops more cs) (h : Spaced ls cs) : Spaced (l :: ls) (l ++ cs)

variable {ls : List (List Char)} {l cs : List Char} {more : Char → Bool}

theorem quoted_of_forall (h : ∀ c ∈ cs, c ≠ '"' ∧ c ≠ '\\' ∧ ¬c.toNat < 0x20) : Quoted cs := by
  induction cs with
  | nil => exact .nil
  | cons c cs ih =>
    obtain ⟨⟨hquote, hslash, hcontrol⟩, hcs⟩ := List.forall_mem_cons.mp h
    exact .char hquote hslash hcontrol (ih hcs)

theorem Spaced.mark {c : Char} (hc : c ∈ marks) (h : Spaced ls cs) : Spaced ([c] :: ls) (c :: cs) :=
  .lexeme (.mark hc) (stops_of_forall fun _ _ => rfl) h

theorem Spaced.text {body : List Char} (hbody : Quoted body) (h : Spaced ls cs) :
    Spaced (('"' :: (body ++ ['"'])) :: ls) ('"' :: (body ++ '"' :: cs)) := by
  have hspaced : Spaced (('"' :: (body ++ ['"'])) :: ls) ('"' :: (body ++ ['"']) ++ cs) :=
    .lexeme (.text hbody) (stops_of_forall fun _ _ => rfl) h
  rwa [List.cons_append, List.append_assoc] at hspaced

/-! ## The scan of spaced lexemes -/

theorem units?_unescaped {c e : Char} (h : unescape? c = some e) (acc : List Unit16)
    (rest : List Char) : units? acc ('\\' :: c :: rest) = units? (.char e :: acc) rest := by
  unfold unescape? at h
  split at h <;> cases h <;> rfl

/-- Units are read from quoted characters up to the quote behind them, whatever follows it. -/
theorem exists_units (h : Quoted cs) : ∃ units, ∀ acc rest,
    units? acc (cs ++ '"' :: rest) = some (acc.reverse ++ units, rest) := by
  induction h with
  | nil => exact ⟨[], fun acc rest => by rw [List.nil_append, units?, List.append_nil]⟩
  | @char c cs hquote hslash hcontrol h ih =>
    obtain ⟨units, hunits⟩ := ih
    refine ⟨.char c :: units, fun acc rest => ?_⟩
    rw [List.cons_append, units?_char hquote hslash hcontrol, hunits, List.reverse_cons,
      List.append_assoc]
    rfl
  | @escape c cs hc h ih =>
    obtain ⟨units, hunits⟩ := ih
    obtain ⟨e, he⟩ := Option.isSome_iff_exists.mp hc
    refine ⟨.char e :: units, fun acc rest => ?_⟩
    simp only [List.cons_append]
    rw [units?_unescaped he, hunits, List.reverse_cons, List.append_assoc]
    rfl
  | @code a b c d cs hcode h ih =>
    obtain ⟨units, hunits⟩ := ih
    obtain ⟨code, hcode⟩ := Option.isSome_iff_exists.mp hcode
    refine ⟨unitOfCode code :: units, fun acc rest => ?_⟩
    simp only [List.cons_append]
    rw [units?, hcode]
    dsimp only
    rw [hunits, List.reverse_cons, List.append_assoc]
    rfl

/-- A lexeme is read as one token, or is none, whatever follows it. -/
theorem exists_token (h : Lexeme l more) : ∃ token : Option Token, ∀ acc rest, Stops more rest →
    scanFrom acc (l ++ rest) = token.bind fun t => scanFrom (t :: acc) rest := by
  cases h with
  | @mark c hc =>
    have hmark : ∃ t, punctuation? c = some t := by
      simp only [marks, List.mem_cons, List.not_mem_nil, or_false] at hc
      rcases hc with rfl | rfl | rfl | rfl | rfl | rfl <;> exact ⟨_, rfl⟩
    obtain ⟨t, ht⟩ := hmark
    exact ⟨some t, fun acc rest _ => scanFrom_punctuation ht⟩
  | @text cs hcs =>
    obtain ⟨units, hunits⟩ := exists_units hcs
    refine ⟨some (.text ((joinUnits? units).map String.ofList)), fun acc rest _ => ?_⟩
    rw [List.cons_append, List.append_assoc]
    exact scanFrom_quote (hunits [] rest)
  | @word c cs hc hcs =>
    refine ⟨(word? (c :: cs)).map .scalar, fun acc rest hrest => ?_⟩
    rw [scanFrom_letters hc hcs hrest, Option.bind_map]
    rfl
  | @numeral c cs hletter hc hcs =>
    refine ⟨(numeral? (c :: cs)).map .scalar, fun acc rest hrest => ?_⟩
    rw [scanFrom_numerals hletter hc hcs hrest, Option.bind_map]
    rfl

/-- No lexeme goes on with a blank. -/
theorem Lexeme.ends_at_blank (h : Lexeme l more) : more ' ' = false := by
  cases h <;> rfl

/-- One blank behind every lexeme. -/
def evenly (ls : List (List Char)) : List Char := ls.flatMap fun l => l ++ [' ']

/-- Where blanks stand, and how many, makes no difference to the scan. -/
theorem scanFrom_of_spaced (h : Spaced ls cs) (acc : List Token) :
    scanFrom acc cs = scanFrom acc (evenly ls) := by
  induction h generalizing acc with
  | nil => rfl
  | blank hc h ih => rw [scanFrom_blank hc, ih]
  | @lexeme ls l cs more hl hends h ih =>
    -- The lexeme ends before `cs` as it ends before a blank, so it is the same token there, or none
    -- in both.
    obtain ⟨token, htoken⟩ := exists_token hl
    have heven : evenly (l :: ls) = l ++ ' ' :: evenly ls := by
      unfold evenly
      rw [List.flatMap_cons, List.append_assoc, List.singleton_append]
    rw [heven, htoken acc cs hends, htoken acc _ (stops_cons hl.ends_at_blank)]
    congr 1
    funext t
    rw [ih, scanFrom_blank rfl]

theorem scan_eq_of_spaced {cs' : List Char} (h : Spaced ls cs) (h' : Spaced ls cs') :
    scan cs = scan cs' :=
  (scanFrom_of_spaced h []).trans (scanFrom_of_spaced h' []).symm

/-! ## Trimming -/

theorem isBlank_of_blank {c : Char} (h : isBlank c = true) : Text.isBlank c = true := by
  simp only [isBlank, Bool.or_eq_true, beq_iff_eq] at h
  rcases h with ((rfl | rfl) | rfl) | rfl <;> decide

theorem isBlank_of_scalar {c : Char} (h : isLetter c = true ∨ isNumeral c = true) :
    Text.isBlank c = false := by
  rcases h with hletter | hnumeral
  · rw [isLetter, Bool.and_eq_true, decide_eq_true_iff, decide_eq_true_iff] at hletter
    have hlow : 97 ≤ c.toNat := hletter.1
    have hhigh : c.toNat ≤ 122 := hletter.2
    exact Text.isBlank_eq_false (by omega) (by omega)
  · simp only [isNumeral, Bool.or_eq_true, beq_iff_eq] at hnumeral
    rcases hnumeral with ((((hdigit | rfl) | rfl) | rfl) | rfl) | rfl
    · rw [Decimal.isAsciiDigit_eq_isDigit] at hdigit
      exact Text.isBlank_of_isDigit hdigit
    all_goals decide

/-- A lexeme neither begins nor ends with a blank. -/
theorem Lexeme.apart (h : Lexeme l more) :
    Stops Text.isBlank l ∧ Stops Text.isBlank l.reverse := by
  have hrun : ∀ run : List Char, (∀ d ∈ run, isLetter d = true ∨ isNumeral d = true) →
      Stops Text.isBlank run ∧ Stops Text.isBlank run.reverse := by
    intro run hrun
    refine ⟨stops_of_forall fun d hd => isBlank_of_scalar (hrun d hd),
      stops_of_forall fun d hd => isBlank_of_scalar (hrun d (List.mem_reverse.mp hd))⟩
  cases h with
  | @mark c hc =>
    have hmarks : ∀ d ∈ marks, Text.isBlank d = false := Text.forall_mem_of_all (by decide)
    have hblank := hmarks c hc
    exact ⟨stops_cons hblank, stops_cons hblank⟩
  | @text cs hcs =>
    refine ⟨rfl, ?_⟩
    rw [List.reverse_cons, List.reverse_append]
    rfl
  | word hc hcs =>
    exact hrun _ (List.forall_mem_cons.mpr ⟨Or.inl hc, fun d hd => Or.inl (hcs d hd)⟩)
  | numeral hletter hc hcs =>
    exact hrun _ (List.forall_mem_cons.mpr ⟨Or.inr hc, fun d hd => Or.inr (hcs d hd)⟩)

theorem Lexeme.ne_nil (h : Lexeme l more) : l ≠ [] := by
  cases h <;> exact List.cons_ne_nil _ _

theorem rdropWhile_append {p : Char → Bool} (hl : Stops p l.reverse) (cs : List Char) :
    (l ++ cs).rdropWhile p = l ++ cs.rdropWhile p := by
  unfold List.rdropWhile
  rw [List.reverse_append, List.dropWhile_append, dropWhile_eq_self hl]
  by_cases hempty : cs.reverse.dropWhile p = []
  · simp [hempty]
  · simp [hempty]

theorem rdropWhile_cons {p : Char → Bool} {c : Char} (hc : p c = true) (cs : List Char) :
    (c :: cs).rdropWhile p = if cs.rdropWhile p = [] then [] else c :: cs.rdropWhile p := by
  unfold List.rdropWhile
  rw [List.reverse_cons, List.dropWhile_append]
  by_cases hempty : cs.reverse.dropWhile p = []
  · simp [hempty, hc]
  · simp [hempty]

theorem spaced_dropWhile (h : Spaced ls cs) : Spaced ls (cs.dropWhile Text.isBlank) := by
  induction h with
  | nil => exact .nil
  | blank hc h ih =>
    rw [List.dropWhile_cons, isBlank_of_blank hc, if_pos rfl]
    exact ih
  | @lexeme ls l cs more hl hends h ih =>
    have hstart : Stops Text.isBlank (l ++ cs) := stops_append_left hl.ne_nil hl.apart.1
    rw [dropWhile_eq_self hstart]
    exact .lexeme hl hends h

theorem spaced_rdropWhile (h : Spaced ls cs) : Spaced ls (cs.rdropWhile Text.isBlank) := by
  induction h with
  | nil => exact .nil
  | @blank ls c cs hc h ih =>
    rw [rdropWhile_cons (isBlank_of_blank hc)]
    -- A blank is trimmed off if nothing but blanks stands behind it, and then no lexeme does.
    split
    · rename_i hempty
      rwa [hempty] at ih
    · exact .blank hc ih
  | @lexeme ls l cs more hl hends h ih =>
    rw [rdropWhile_append hl.apart.2]
    have hfront := List.rdropWhile_prefix Text.isBlank cs
    exact .lexeme hl (stops_of_isPrefix hfront hends) ih

/-- Blanks that are trimmed off stand around the lexemes. -/
theorem spaced_trimChars (h : Spaced ls cs) : Spaced ls (Text.trimChars cs) :=
  spaced_rdropWhile (spaced_dropWhile h)

/-! ## Every scanned text -/

theorem exists_quoted {acc units : List Unit16} {rest : List Char}
    (h : units? acc cs = some (units, rest)) : ∃ body, Quoted body ∧ cs = body ++ '"' :: rest := by
  fun_induction units? acc cs with
  | case2 acc cs =>
    cases h
    exact ⟨[], .nil, rfl⟩
  | case3 acc a b c d cs code hcode ih =>
    obtain ⟨body, hbody, rfl⟩ := ih h
    exact ⟨_, .code (Option.isSome_iff_exists.mpr ⟨code, hcode⟩) hbody, rfl⟩
  | case5 acc e cs _ c hc ih =>
    obtain ⟨body, hbody, rfl⟩ := ih h
    exact ⟨_, .escape (Option.isSome_iff_exists.mpr ⟨c, hc⟩) hbody, rfl⟩
  | case8 acc c cs hquote _ _ hc ih =>
    obtain ⟨body, hbody, rfl⟩ := ih h
    obtain ⟨hslash, hcontrol⟩ := not_or.mp hc
    exact ⟨c :: body, .char hquote hslash hcontrol hbody, rfl⟩
  | case1 | case4 | case6 | case7 => cases h

/-- A run as far as it goes, and what follows it. -/
theorem spaced_run {p : Char → Bool} {c : Char} (hl : Lexeme (c :: cs.takeWhile p) p)
    (h : Spaced ls (cs.dropWhile p)) : Spaced ((c :: cs.takeWhile p) :: ls) (c :: cs) := by
  have hrun : c :: cs = c :: cs.takeWhile p ++ cs.dropWhile p := by
    rw [List.cons_append, List.takeWhile_append_dropWhile]
  rw [hrun]
  exact .lexeme hl (stops_dropWhile p cs) h

theorem mem_marks {c : Char} {t : Token} (h : punctuation? c = some t) : c ∈ marks := by
  unfold punctuation? at h
  split at h
  case h_7 => cases h
  all_goals simp [marks]

/-- Only a text that has lexemes is scanned. -/
theorem exists_spaced {acc ts : List Token} (h : scanFrom acc cs = some ts) :
    ∃ ls, Spaced ls cs := by
  fun_induction scanFrom acc cs with
  | case1 => exact ⟨[], .nil⟩
  | case2 acc c cs hblank ih =>
    obtain ⟨ls, hls⟩ := ih h
    exact ⟨ls, .blank hblank hls⟩
  | case3 acc cs units rest hunits _ _ ih =>
    obtain ⟨ls, hls⟩ := ih h
    obtain ⟨body, hbody, rfl⟩ := exists_quoted hunits
    exact ⟨_, .text hbody hls⟩
  | case5 acc c cs _ _ hletter v _ _ ih =>
    obtain ⟨ls, hls⟩ := ih h
    exact ⟨_, spaced_run (.word hletter fun d hd => List.mem_takeWhile_imp hd) hls⟩
  | case7 acc c cs _ _ hletter hnumeral v _ _ ih =>
    obtain ⟨ls, hls⟩ := ih h
    have hother : isLetter c = false := Bool.eq_false_iff.mpr hletter
    exact ⟨_, spaced_run (.numeral hother hnumeral fun d hd => List.mem_takeWhile_imp hd) hls⟩
  | case9 acc c cs _ _ _ _ t hmark ih =>
    obtain ⟨ls, hls⟩ := ih h
    exact ⟨[c] :: ls, .mark (mem_marks hmark) hls⟩
  | case4 | case6 | case8 | case10 => cases h

/-! ## The lexemes of a few texts -/

/-- The lexemes of the empty object. -/
def braces : List (List Char) := [['\x7b'], ['\x7d']]

theorem eq_nil_of_spaced (h : Spaced ls []) : ls = [] := by
  generalize hcs : ([] : List Char) = cs at h
  cases h with
  | nil => rfl
  | blank hc h => cases hcs
  | lexeme hl hends h => exact absurd (List.append_eq_nil_iff.mp hcs.symm).1 hl.ne_nil

/-- A mark in front is the first lexeme. -/
theorem exists_of_spaced_mark {c : Char} (hc : c ∈ marks) (h : Spaced ls (c :: cs)) :
    ∃ rest, ls = [c] :: rest ∧ Spaced rest cs := by
  have hmarks : ∀ d ∈ marks,
      isBlank d = false ∧ d ≠ '"' ∧ isLetter d = false ∧ isNumeral d = false :=
    Text.forall_mem_of_all (by decide)
  obtain ⟨hblank, hquote, hletter, hnumeral⟩ := hmarks c hc
  -- `l ++ cs` is no constructor, so the text has to be a variable for the cases.
  generalize htext : c :: cs = text at h
  cases h with
  | nil => cases htext
  | blank hd h =>
    cases htext
    exact absurd hd (Bool.eq_false_iff.mp hblank)
  | lexeme hl hends h =>
    cases hl with
    | mark hd =>
      cases htext
      exact ⟨_, rfl, h⟩
    | text hcs =>
      cases htext
      exact absurd rfl hquote
    | word hd hcs =>
      cases htext
      exact absurd hd (Bool.eq_false_iff.mp hletter)
    | numeral hother hd hcs =>
      cases htext
      exact absurd hd (Bool.eq_false_iff.mp hnumeral)

theorem eq_braces_of_spaced (h : Spaced ls ['\x7b', '\x7d']) : ls = braces := by
  obtain ⟨rest, rfl, hrest⟩ := exists_of_spaced_mark (by decide) h
  obtain ⟨last, rfl, hlast⟩ := exists_of_spaced_mark (by decide) hrest
  obtain rfl := eq_nil_of_spaced hlast
  rfl

theorem spaced_braces : Spaced braces ['\x7b', '\x7d'] := .mark (by decide) (.mark (by decide) .nil)

theorem blank_of_spaced_nil (h : Spaced [] cs) : ∀ c ∈ cs, isBlank c = true := by
  generalize hls : ([] : List (List Char)) = ls at h
  induction h with
  | nil => exact List.forall_mem_nil _
  | blank hc h ih => exact List.forall_mem_cons.mpr ⟨hc, ih hls⟩
  | lexeme hl hends h ih => cases hls

theorem trimChars_eq_nil_iff (h : Spaced ls cs) : Text.trimChars cs = [] ↔ ls = [] := by
  constructor
  · intro hnil
    have htrimmed := spaced_trimChars h
    rw [hnil] at htrimmed
    exact eq_nil_of_spaced htrimmed
  · rintro rfl
    have hall : cs.dropWhile Text.isBlank = [] :=
      List.dropWhile_eq_nil_iff.mpr fun c hc => isBlank_of_blank (blank_of_spaced_nil h c hc)
    unfold Text.trimChars
    rw [hall]
    rfl

end Token

open Token (Spaced braces)

theorem ofChars?_of_spaced {ls : List (List Char)} {b c : List Char} (hb : Spaced ls b)
    (hc : Spaced ls c) : ofChars? b = ofChars? c := by
  unfold ofChars?
  rw [Token.scan_eq_of_spaced hb hc]

/-- A text that holds a value has lexemes. -/
theorem exists_spaced_of_parse? {text : String} {v : Json} (h : parse? text = some v) :
    ∃ ls, Spaced ls text.toList := by
  obtain ⟨ts, hscan, -⟩ := Option.bind_eq_some_iff.mp h
  exact Token.exists_spaced hscan

theorem ofChars?_of_braces {cs : List Char} (h : Spaced braces cs) :
    ofChars? cs = some (.object []) := by
  rw [ofChars?_of_spaced h Token.spaced_braces, ofChars?_braces]

end Json

/-! ## Responses -/

namespace Response

open Json.Token (Spaced braces)

variable {ls : List (List Char)} {b c : String}

theorem trim_eq_braces_iff (body : String) :
    Text.trim body = "\x7b\x7d" ↔ Text.trimChars body.toList = ['\x7b', '\x7d'] :=
  String.ofList_inj

/-- Only an empty object is written as two braces. -/
theorem eq_braces_of_trim (hb : Spaced ls b.toList) (h : Text.trim b = "\x7b\x7d") :
    ls = braces := by
  have htrimmed := Json.Token.spaced_trimChars hb
  rw [(trim_eq_braces_iff b).mp h] at htrimmed
  exact Json.Token.eq_braces_of_spaced htrimmed

/-- An empty object holds no response if its braces stand together. -/
theorem parse_of_braces (h : Spaced braces b.toList) :
    parse b = if Text.trim b = "\x7b\x7d" then .ok none else .error .malformed := by
  have htrimmed := Json.Token.spaced_trimChars h
  have hempty : Text.trimChars b.toList ≠ [] := fun hnil =>
    List.cons_ne_nil _ _ ((Json.Token.trimChars_eq_nil_iff h).mp hnil)
  unfold parse
  by_cases htrim : Text.trim b = "\x7b\x7d"
  · rw [if_pos htrim, (trim_eq_braces_iff b).mp htrim]
    rfl
  · rw [if_neg htrim, ofTrimmed_of_ne hempty fun h => htrim ((trim_eq_braces_iff b).mpr h),
      Json.ofChars?_of_braces htrimmed]
    rfl

theorem parse_eq_of_trim (hb : Spaced ls b.toList) (hc : Spaced ls c.toList)
    (htrim : Text.trim b = "\x7b\x7d" ↔ Text.trim c = "\x7b\x7d") : parse b = parse c := by
  have hread :=
    Json.ofChars?_of_spaced (Json.Token.spaced_trimChars hb) (Json.Token.spaced_trimChars hc)
  have hempty : Text.trimChars b.toList = [] ↔ Text.trimChars c.toList = [] :=
    (Json.Token.trimChars_eq_nil_iff hb).trans (Json.Token.trimChars_eq_nil_iff hc).symm
  rw [trim_eq_braces_iff, trim_eq_braces_iff] at htrim
  unfold parse ofTrimmed
  rw [hread]
  simp only [Bool.or_eq_true, List.isEmpty_iff, beq_iff_eq, hempty, htrim]

/-- Only the two braces are parsed like the two braces. -/
theorem trim_of_parse_eq (hb : Spaced ls b.toList) (hc : Spaced ls c.toList) (h : parse b = parse c)
    (htrim : Text.trim b = "\x7b\x7d") : Text.trim c = "\x7b\x7d" := by
  obtain rfl := eq_braces_of_trim hb htrim
  rw [parse_of_braces hb, parse_of_braces hc, if_pos htrim] at h
  by_contra hne
  rw [if_neg hne] at h
  cases h

/-- An order that is answered by an empty object takes it in one layout only. -/
theorem order_of_braces {τ : Type} [Transport τ] {request : Request Float} {client : Client τ}
    {t : τ} (h : Spaced braces b.toList) (hcheck : request.check = .ok ())
    (hexchange : (Transport.exchange request).run client.transport = (.ok b, t)) :
    ((Client.order request).run client).1 =
      if Text.trim b = "\x7b\x7d" then .ok () else .error (.backendResponse .malformed) := by
  rw [(Client.sends_order request).sent hcheck client, hexchange]
  dsimp only
  rw [parse_of_braces h]
  split <;> rfl

/-- Two layouts of the same lexemes hold the same value. They are parsed alike unless this is the
empty object, and then if both or neither of them are two braces between blanks. An order to delete
that is answered by an empty object is done if its braces stand together, and fails otherwise. Every
text that holds a value is such a layout. -/
theorem layouts_parsed_alike_iff (hb : Spaced ls b.toList) (hc : Spaced ls c.toList) :
    Json.parse? b = Json.parse? c ∧ (ls ≠ braces → parse b = parse c) ∧
    (parse b = parse c ↔ (Text.trim b = "\x7b\x7d" ↔ Text.trim c = "\x7b\x7d")) ∧
    (ls = braces → Json.parse? b = some (.object []) ∧
      (parse b = if Text.trim b = "\x7b\x7d" then .ok none else .error .malformed) ∧
      ∀ (τ : Type) [Transport τ] (request : Request Float) (client : Client τ) (t : τ),
        request.check = .ok () → (Transport.exchange request).run client.transport = (.ok b, t) →
        ((Client.order request).run client).1 =
          if Text.trim b = "\x7b\x7d" then .ok () else .error (.backendResponse .malformed)) ∧
    ∀ text v, Json.parse? text = some v → ∃ ls, Spaced ls text.toList := by
  refine ⟨Json.ofChars?_of_spaced hb hc, fun hls => parse_eq_of_trim hb hc ?_, ?_, ?_, ?_⟩
  · exact iff_of_false (fun h => hls (eq_braces_of_trim hb h)) fun h => hls (eq_braces_of_trim hc h)
  · exact ⟨fun h => ⟨trim_of_parse_eq hb hc h, trim_of_parse_eq hc hb h.symm⟩,
      parse_eq_of_trim hb hc⟩
  · rintro rfl
    refine ⟨Json.ofChars?_of_braces hb, parse_of_braces hb, ?_⟩
    intro τ _ request client t hcheck hexchange
    exact order_of_braces hb hcheck hexchange
  · exact fun text v h => Json.exists_spaced_of_parse? h

/-- A list of spools, close together and with a blank of each kind, and an order to delete. -/
theorem layouts_parsed_alike_iff_spools :
    let ls := [['\x7b'], "\"spools\"".toList, [':'], ['['], [']'], ['\x7d']]
    let close := "\x7b\"spools\":[]\x7d"
    let wide := "\r\n\x7b\t\"spools\" : [ ]\n\x7d "
    (Spaced ls close.toList ∧ Spaced ls wide.toList ∧ ls ≠ braces ∧
      parse close = .ok (some (.spools [])) ∧ parse wide = .ok (some (.spools []))) ∧
    (∃ v, Json.parse? wide = some v ∧ ∃ ls, Spaced ls wide.toList) ∧
    (Spaced braces " \x7b\x7d\n".toList ∧ (Request.deleteSpool 7 : Request Float).check = .ok () ∧
      ((Client.order (.deleteSpool 7)).run
        ({ transport := { answer := .ok " \x7b\x7d\n" } } : Client Canned)).1 = .ok ()) := by
  intro ls close wide
  have hname : Json.Token.Quoted "spools".toList :=
    Json.Token.quoted_of_forall (Text.forall_mem_of_all (by decide))
  have hclose : Spaced ls "\x7b\"spools\":[]\x7d".toList :=
    .mark (by decide) (.text hname (.mark (by decide) (.mark (by decide) (.mark (by decide)
      (.mark (by decide) .nil)))))
  have hwide : Spaced ls "\r\n\x7b\t\"spools\" : [ ]\n\x7d ".toList :=
    .blank rfl
      (.blank rfl (.mark (by decide) (.blank rfl (.text hname (.blank rfl (.mark (by decide)
      (.blank rfl (.mark (by decide) (.blank rfl (.mark (by decide) (.blank rfl (.mark (by decide)
        (.blank rfl .nil)))))))))))))
  have hbraces : Spaced braces " \x7b\x7d\n".toList :=
    .blank rfl (.mark (by decide) (.mark (by decide) (.blank rfl .nil)))
  have hne : ls ≠ braces := by decide
  have hwritable : (Response.spools []).Writable := nofun
  have hcompact : (Response.spools []).toJson.compact = close := rfl
  have hparse : parse close = .ok (some (.spools [])) := by
    rw [← hcompact]
    exact parse_compact hwritable
  have hread : Json.parse? close = some (Response.spools []).toJson := by
    rw [← hcompact]
    exact Json.parse?_compact (encodes hwritable).legible
  obtain ⟨hvalue, hsame, -, -, hlexemes⟩ := layouts_parsed_alike_iff hclose hwide
  obtain ⟨-, -, -, hempty, -⟩ := layouts_parsed_alike_iff hbraces hbraces
  obtain ⟨-, -, horder⟩ := hempty rfl
  have htrimmed : Text.trim " \x7b\x7d\n" = "\x7b\x7d" := by decide
  refine ⟨⟨hclose, hwide, hne, hparse, (hsame hne).symm.trans hparse⟩, ?_, hbraces, rfl, ?_⟩
  · exact ⟨_, hvalue.symm.trans hread, hlexemes _ _ (hvalue.symm.trans hread)⟩
  · exact (horder _ _ _ _ rfl rfl).trans (if_pos htrimmed)

/-- A blank between the braces of an empty object, and an order to delete that it is the answer to
fails. -/
theorem braces_apart_refused :
    (Spaced braces "\x7b\x7d".toList ∧ Spaced braces "\x7b \x7d".toList) ∧
    (parse "\x7b\x7d" = .ok none ∧ parse "\x7b \x7d" = .error .malformed) ∧
    ((Client.order (.deleteSpool 7)).run
      ({ transport := { answer := .ok "\x7b\x7d" } } : Client Canned)).1 = .ok () ∧
    ((Client.order (.deleteSpool 7)).run
      ({ transport := { answer := .ok "\x7b \x7d" } } : Client Canned)).1 =
        .error (.backendResponse .malformed) := by
  have htogether : Spaced braces "\x7b\x7d".toList := Json.Token.spaced_braces
  have hapart : Spaced braces "\x7b \x7d".toList :=
    .mark (by decide) (.blank rfl (.mark (by decide) .nil))
  have htrimmed : Text.trim "\x7b\x7d" = "\x7b\x7d" := by decide
  have hkept : Text.trim "\x7b \x7d" ≠ "\x7b\x7d" := by decide
  refine ⟨⟨htogether, hapart⟩, ⟨?_, ?_⟩, ?_, ?_⟩
  · rw [parse_of_braces htogether, if_pos htrimmed]
  · rw [parse_of_braces hapart, if_neg hkept]
  · exact (order_of_braces htogether rfl rfl).trans (if_pos htrimmed)
  · exact (order_of_braces hapart rfl rfl).trans (if_neg hkept)

end Response
end Filament
