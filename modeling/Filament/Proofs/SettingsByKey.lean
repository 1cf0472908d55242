import Filament.Proofs.Check
import Filament.Proofs.JsonRecords
import Filament.Settings.Entry
import Filament.Settings.File

/-!
Single settings by key.

What a setting holds is its content, and a text denotes a content under a key or none. Setting a
value succeeds exactly if the text denotes one, and then that setting alone holds it and accepted
settings stay accepted. A failure names the key and leaves the settings as they were (`set_by_key`).
-/

namespace Filament
namespace Settings

/-! ## Contents -/

/-- What a setting holds. -/
inductive Content where
  | flag (b : Bool)
  | reserve (length : Float)
  | symbol (text : String)

def Content.toJson : Content → Json
  | .flag b => .bool b
  | .reserve length => .ofFloat length
  | .symbol text => .ofString text

/-- The content of the setting with a key. -/
def content? (s : Settings Float) (key : String) : Option Content :=
  match key with
  | "enableOdometer" => some (.flag s.enableOdometer)
  | "enableWarning" => some (.flag s.enableWarning)
  | "autoPause" => some (.flag s.autoPause)
  | "pauseThreshold" => some (.reserve s.pauseThreshold)
  | "currencySymbol" => some (.symbol s.currencySymbol)
  | "confirmSpoolSelection" => some (.flag s.confirmSpoolSelection)
  | "dismissResolvedWarning" => some (.flag s.dismissResolvedWarning)
  | "g90InfluencesExtruder" => some (.flag s.g90InfluencesExtruder)
  | _ => none

variable {s t : Settings Float} {key text : String}

theorem exists_content?_iff : (∃ c, s.content? key = some c) ↔ key ∈ keys := by
  unfold content? keys
  split <;> simp_all

/-- The name of a field in JSON is the key of its setting. -/
theorem field?_toJson (s : Settings Float) (key : String) :
    s.toJson.field? key = (s.content? key).map Content.toJson := by
  unfold toJson
  rw [Json.field?_ofFields]
  unfold content?
  split
  case h_9 => exact Json.Fields.lookup_eq_none key (by simp_all)
  all_goals rfl

theorem value_eq_ok_iff {v : Json} :
    s.value key = .ok v ↔ ∃ c, s.content? key = some c ∧ c.toJson = v := by
  unfold value
  rw [field?_toJson]
  cases s.content? key <;> simp

/-! ## Texts -/

/-- The keys of the settings that are on or off. -/
def flagKeys : List String :=
  ["enableOdometer", "enableWarning", "autoPause", "confirmSpoolSelection",
    "dismissResolvedWarning", "g90InfluencesExtruder"]

/-- A text denotes a content under a key: `true` or `false`, a length that may be kept in reserve,
both with any blanks around them, or a short symbol, blanks included. -/
inductive Denotes (text key : String) : Content → Prop where
  | flag {b : Bool} (hkey : key ∈ flagKeys)
      (htext : Text.trim text = if b then "true" else "false") : Denotes text key (.flag b)
  | reserve {length : Float} (hkey : key = "pauseThreshold")
      (htext : Decimal.float? (Text.trim text) = some length) (hrange : IsReserve length) :
      Denotes text key (.reserve length)
  | symbol (hkey : key = "currencySymbol") (hlength : text.length ≤ maxSymbolLength) :
      Denotes text key (.symbol text)

/-- What setting a value comes to: the settings with what the text denotes under the key and with
all other settings as they were, or a failure that names the key and leaves all settings as they
were, if the text denotes nothing. -/
inductive Sets (s : Settings Float) (key text : String) :
    Except (Error Float) Unit × Settings Float → Prop where
  | changed {t : Settings Float} {c : Content} (hc : Denotes text key c)
      (hkey : t.content? key = some c)
      (hothers : ∀ other, other ≠ key → t.content? other = s.content? other) :
      Sets s key text (.ok (), t)
  | refused {cause : SettingFault} (hnone : ∀ c, ¬Denotes text key c) :
      Sets s key text (.error (.invalidSetting key cause), s)

theorem flag?_eq_some_iff {b : Bool} :
    flag? text = some b ↔ text = if b then "true" else "false" := by
  unfold flag?
  cases b <;> grind

theorem run_readAs {β : Type} (read : String → Option β) (key text : String)
    (next : β → Action (Settings Float) (Error Float) Unit) (s : Settings Float) :
    (do next (← readAs read key text) : Action (Settings Float) (Error Float) Unit).run s =
      match read (Text.trim text) with
      | some b => (next b).run s
      | none => (.error (.invalidSetting key (.unreadable text)), s) := by
  rw [Action.run_bind, Action.run_liftExcept]
  unfold readAs
  cases read (Text.trim text) <;> rfl

theorem sets_flag (hkey : key ∈ flagKeys) {put : Bool → Settings Float → Settings Float}
    (hput : ∀ b, (put b s).content? key = some (.flag b))
    (hothers : ∀ b other, other ≠ key → (put b s).content? other = s.content? other) :
    Sets s key text ((setFlag put key text).run s) := by
  unfold setFlag
  rw [run_readAs]
  cases hread : flag? (Text.trim text) with
  | some b => exact .changed (.flag hkey (flag?_eq_some_iff.mp hread)) (hput b) (hothers b)
  | none =>
    refine .refused fun c hc => ?_
    cases hc with
    | flag _ htext => cases hread.symm.trans (flag?_eq_some_iff.mpr htext)
    | reserve hother => exact absurd (hother ▸ hkey) (by decide)
    | symbol hother => exact absurd (hother ▸ hkey) (by decide)

theorem sets_reserve :
    Sets s "pauseThreshold" text ((setReserve "pauseThreshold" text).run s) := by
  have hrefused : ∀ {cause},
      (∀ length, Decimal.float? (Text.trim text) = some length → ¬IsReserve length) →
      Sets s "pauseThreshold" text (.error (.invalidSetting "pauseThreshold" cause), s) := by
    refine fun h => .refused fun c hc => ?_
    cases hc with
    | flag hkey => exact absurd hkey (by decide)
    | reserve _ htext hrange => exact h _ htext hrange
    | symbol hkey => exact absurd hkey (by decide)
  unfold setReserve
  rw [run_readAs Decimal.float? "pauseThreshold" text fun length => do
    let reserve ← checkReserve length
    modify fun s => { s with pauseThreshold := reserve }]
  cases hread : Decimal.float? (Text.trim text) with
  | none => exact hrefused fun length hlength => nomatch hread.symm.trans hlength
  | some length =>
    dsimp only
    rw [Action.run_bind, Action.run_liftExcept]
    by_cases hrange : IsReserve length
    · rw [checkReserve_eq_ok_iff.mpr ⟨hrange, rfl⟩]
      refine .changed (.reserve rfl hread hrange) rfl fun other hother => ?_
      unfold content?
      split <;> first | rfl | exact absurd rfl hother
    · have hcheck : checkReserve length =
          .error (.invalidSetting "pauseThreshold" .reserveOutside) := by
        unfold checkReserve
        rw [if_neg]
        simpa [IsReserve] using hrange
      rw [hcheck]
      refine hrefused fun other hother => ?_
      cases hread.symm.trans hother
      exact hrange

theorem sets_symbol : Sets s "currencySymbol" text ((setSymbol text).run s) := by
  unfold setSymbol checkSymbol
  rw [Action.run_bind, Action.run_liftExcept]
  by_cases hlong : maxSymbolLength < text.length
  · rw [if_pos hlong]
    refine .refused fun c hc => ?_
    cases hc with
    | flag hkey => exact absurd hkey (by decide)
    | reserve hkey => exact absurd hkey (by decide)
    | symbol _ hlength => exact absurd hlong (Nat.not_lt.mpr hlength)
  · rw [if_neg hlong]
    refine .changed (.symbol rfl (Nat.not_lt.mp hlong)) rfl fun other hother => ?_
    unfold content?
    split <;> first | rfl | exact absurd rfl hother

/-- A value is read and checked before its setting is touched, under every key. -/
theorem sets_set (s : Settings Float) (key text : String) :
    Sets s key text ((set key text).run s) := by
  unfold set
  split
  case h_4 => exact sets_reserve
  case h_5 => exact sets_symbol
  case h_9 =>
    refine .refused fun c hc => ?_
    cases hc with
    | flag hkey => simp_all [flagKeys]
    | reserve hkey => exact ‹key = "pauseThreshold" → False› hkey
    | symbol hkey => exact ‹key = "currencySymbol" → False› hkey
  all_goals
    refine sets_flag (by decide) (fun b => rfl) fun b other hother => ?_
    unfold content?
    split <;> first | rfl | exact absurd rfl hother

/-! ## Setting a value -/

/-- A text denotes at most one content. -/
theorem Denotes.unique {c d : Content} (hc : Denotes text key c) (hd : Denotes text key d) :
    c = d := by
  cases hc with
  | flag hkey htext =>
    cases hd with
    | flag _ htext' =>
      rw [Option.some.inj ((flag?_eq_some_iff.mpr htext).symm.trans (flag?_eq_some_iff.mpr htext'))]
    | reserve hother => exact absurd (hother ▸ hkey) (by decide)
    | symbol hother => exact absurd (hother ▸ hkey) (by decide)
  | reserve hkey htext =>
    cases hd with
    | flag hother => exact absurd (hkey ▸ hother) (by decide)
    | reserve _ htext' => rw [Option.some.inj (htext.symm.trans htext')]
    | symbol hother => exact absurd (hkey.symm.trans hother) (by decide)
  | symbol hkey =>
    cases hd with
    | flag hother => exact absurd (hkey ▸ hother) (by decide)
    | reserve hother => exact absurd (hkey.symm.trans hother) (by decide)
    | symbol => rfl

/-- Accepted settings are accepted with another value of one of them. -/
theorem check_of_sets (h : Sets s key text (.ok (), t)) (hcheck : s.check = .ok ()) :
    t.check = .ok () := by
  obtain ⟨hreserve, hsymbol⟩ := check_eq_ok_iff.mp hcheck
  cases h with
  | changed hc hkey hothers =>
    refine check_eq_ok_iff.mpr ⟨?_, ?_⟩
    · by_cases hown : "pauseThreshold" = key
      · subst hown
        cases hc with
        | flag hflag => exact absurd hflag (by decide)
        | symbol hother => exact absurd hother (by decide)
        | reserve _ _ hrange =>
          cases hkey
          exact hrange
      · have hsame := hothers _ hown
        simp only [content?, Option.some.injEq, Content.reserve.injEq] at hsame
        rwa [hsame]
    · by_cases hown : "currencySymbol" = key
      · subst hown
        cases hc with
        | flag hflag => exact absurd hflag (by decide)
        | reserve hother => exact absurd hother (by decide)
        | symbol _ hlength =>
          cases hkey
          exact hlength
      · have hsame := hothers _ hown
        simp only [content?, Option.some.injEq, Content.symbol.injEq] at hsame
        rwa [hsame]

/-- Accepted settings are written, whatever the files are. -/
theorem saveTo_eq_replace {m : Type → Type} [Monad m] [LawfulMonad m] [Files m]
    (h : s.check = .ok ()) (path : String) :
    (saveTo path s : ExceptT (Error Float) m Unit) = Files.replace path s.text := by
  unfold saveTo
  rw [h]
  exact pure_bind () _

/-- Values can be read under the keys of the settings and no others. A value that is set is set
under such a key: that setting then holds and shows what the text denotes, the others hold what they
held, and settings that were accepted still are and can be saved. Otherwise the text denotes nothing
under the key, which the error names, and the settings stay as they are. -/
theorem set_by_key (s : Settings Float) (key text : String) :
    ((∃ v, s.value key = .ok v) ↔ key ∈ keys) ∧
    ((∃ t, (set key text).run s = (.ok (), t) ∧ key ∈ keys ∧
        (∃ c, (∀ d, Denotes text key d ↔ d = c) ∧ t.content? key = some c ∧
          t.value key = .ok c.toJson) ∧
        (∀ other, other ≠ key → t.content? other = s.content? other) ∧
        (s.check = .ok () → t.check = .ok () ∧
          ∀ (m : Type → Type) [Monad m] [LawfulMonad m] [Files m] (path : String),
            (saveTo path t : ExceptT (Error Float) m Unit) = Files.replace path t.text)) ∨
      (∃ cause, (set key text).run s = (.error (.invalidSetting key cause), s) ∧
        ∀ c, ¬Denotes text key c)) := by
  refine ⟨?_, ?_⟩
  · simp only [value_eq_ok_iff]
    rw [exists_comm, ← exists_content?_iff (s := s)]
    simp
  · have hsets := sets_set s key text
    generalize (set key text).run s = result at hsets
    cases hsets with
    | @changed t c hc hkey hothers =>
      refine Or.inl ⟨t, rfl, exists_content?_iff.mp ⟨c, hkey⟩,
        ⟨c, fun d => ⟨fun hd => hd.unique hc, fun hd => hd ▸ hc⟩, hkey,
          value_eq_ok_iff.mpr ⟨c, hkey, rfl⟩⟩, hothers, fun hcheck => ?_⟩
      have haccepted := check_of_sets (.changed hc hkey hothers) hcheck
      exact ⟨haccepted, fun m _ _ _ path => saveTo_eq_replace haccepted path⟩
    | refused hnone => exact Or.inr ⟨_, rfl, hnone⟩

/-- A reserve with blanks around it is taken into the standard settings, and what is no number is
not. -/
theorem set_by_key_reserve :
    let s : Settings Float := standard
    s.check = .ok () ∧
      (∃ t, (set "pauseThreshold" "\t2.5e2 ").run s = (.ok (), t) ∧ t.check = .ok () ∧
        t.value "pauseThreshold" = .ok (.ofFloat 250) ∧
        t.content? "autoPause" = some (.flag false)) ∧
      ∃ cause, (set "pauseThreshold" "NaN").run s =
        (.error (.invalidSetting "pauseThreshold" cause), s) := by
  intro s
  have hcheck : s.check = .ok () := eq_ok_of_toBool (by decide +kernel)
  have hdenotes : Denotes "\t2.5e2 " "pauseThreshold" (.reserve 250) :=
    .reserve rfl (by decide +kernel) (by decide +kernel)
  refine ⟨hcheck, ?_, ?_⟩
  · rcases (set_by_key s "pauseThreshold" "\t2.5e2 ").2 with
      ⟨t, hset, -, ⟨c, hunique, -, hvalue⟩, hothers, haccepted⟩ | ⟨cause, -, hnone⟩
    · obtain rfl := (hunique _).mp hdenotes
      exact ⟨t, hset, (haccepted hcheck).1, hvalue, hothers "autoPause" (by decide)⟩
    · exact absurd hdenotes (hnone _)
  · rcases (set_by_key s "pauseThreshold" "NaN").2 with ⟨t, hset, -⟩ | ⟨cause, hset, -⟩
    · have hrefused : ((set "pauseThreshold" "NaN").run s).1.toBool = false := by decide +kernel
      rw [hset] at hrefused
      cases hrefused
    · exact ⟨cause, hset⟩

end Settings
end Filament
