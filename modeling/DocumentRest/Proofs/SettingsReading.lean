import DocumentRest.Config
import DocumentRest.Proofs.Json.WantedTexts
import Mathlib

namespace DocumentRest

open Json

section Tables

def LogSettings.columns : List (Column LogSettings) := [
  ⟨"log_dir", StringText, (·.directory), "./logs"⟩,
  ⟨"filter", StringText, (·.filter),
    "orientdb_console=info,orientdb_rs=debug,orientdb_core=debug"⟩]

def QuerySettings.columns : List (Column QuerySettings) := [
  ⟨"default_limit", Optionally StringText, (·.limit), none⟩,
  ⟨"default_fetch_plan", Optionally StringText, (·.fetchPlan), none⟩]

def Config.columns : List (Column Config) := [
  ⟨"database_path", StringText, (·.databasePath), "http://localhost:2480/demo"⟩,
  ⟨"username", Optionally StringText, (·.username), none⟩,
  ⟨"password", Optionally StringText, (·.password), none⟩,
  ⟨"structured_responses", BoolText, (·.structured), true⟩,
  ⟨"timeout_secs", Optionally UInt64Text, (·.timeout), none⟩,
  ⟨"logging", RecordText LogSettings.columns, (·.log), ⟨"./logs",
    "orientdb_console=info,orientdb_rs=debug,orientdb_core=debug"⟩⟩,
  ⟨"console", RecordText QuerySettings.columns, (·.query), ⟨none, none⟩⟩]

end Tables

section Laws

theorem readsAs_optionalString :
    ReadsAs (readOptional readString) (Optionally StringText) IsJson :=
  readsAs_readString.optional (fun _ _ => StringText.isJson) fun _ => StringText.ne_null

theorem readsAs_optionalUInt64 :
    ReadsAs (readOptional readUInt64) (Optionally UInt64Text) IsJson :=
  readsAs_readUInt64.optional (fun _ _ => UInt64Text.isJson) fun _ => UInt64Text.ne_null

theorem LogSettings.tabulates : Tabulates columns (fun _ => IsJson) schema where
  nodup := by decide
  optional := rfl
  blank := by simp [columns, schema]
  fields :=
    .cons (readsAs_readString.fieldLaw (fun _ => id) (fun _ _ => rfl) (by simp [columns])) <|
      .cons (readsAs_readString.fieldLaw (fun _ => id) (fun _ _ => rfl) (by simp [columns])) .nil
  ext a b h := by
    cases a
    cases b
    simpa [columns] using h

theorem QuerySettings.tabulates : Tabulates columns (fun _ => IsJson) schema where
  nodup := by decide
  optional := rfl
  blank := by simp [columns, schema]
  fields :=
    .cons (readsAs_optionalString.fieldLaw (fun _ => id) (fun _ _ => rfl) (by simp [columns])) <|
      .cons (readsAs_optionalString.fieldLaw (fun _ => id) (fun _ _ => rfl) (by simp [columns])) .nil
  ext a b h := by
    cases a
    cases b
    simpa [columns] using h

/-- The values that are considered: any JSON, and objects for the settings that are records. -/
def Config.Considers (name : String) (t : List Char) : Prop :=
  IsJson t ∧ (name = "logging" ∨ name = "console" → ∃ ms, HoldsTexts t ms)

theorem Config.tabulates : Tabulates columns Considers schema where
  nodup := by decide
  optional := rfl
  blank := by simp [columns, schema]
  fields :=
    .cons (readsAs_readString.fieldLaw (fun _ h => h.1) (fun _ _ => rfl) (by simp [columns])) <|
    .cons (readsAs_optionalString.fieldLaw (fun _ h => h.1) (fun _ _ => rfl) (by simp [columns])) <|
    .cons (readsAs_optionalString.fieldLaw (fun _ h => h.1) (fun _ _ => rfl) (by simp [columns])) <|
    .cons (readsAs_readBool.fieldLaw (fun _ h => h.1) (fun _ _ => rfl) (by simp [columns])) <|
    .cons (readsAs_optionalUInt64.fieldLaw (fun _ h => h.1) (fun _ _ => rfl) (by simp [columns])) <|
    .cons (LogSettings.tabulates.readsAs.fieldLaw (fun _ h => h.2 (.inl rfl)) (fun _ _ => rfl)
      (by simp [columns])) <|
    .cons (QuerySettings.tabulates.readsAs.fieldLaw (fun _ h => h.2 (.inr rfl)) (fun _ _ => rfl)
      (by simp [columns])) .nil
  ext a b h := by
    cases a
    cases b
    simpa [columns] using h

end Laws

section Reading

def HoldsSettings (text : String) (ms : List (String × List Char)) : Prop :=
  IsDocument (ObjectText StringText Eq · ms) text.toList ∧ ∀ m ∈ ms, Config.Considers m.1 m.2

variable {text text' : String} {ms ms' : List (String × List Char)}

theorem comesTo_config {t : List Char} (ht : ObjectText StringText Eq t ms)
    (hms : ∀ m ∈ ms, Config.Considers m.1 m.2) :
    (∃ c, Reads Config.schema.read t c ∧ Fitting Config.columns ms ∧
        ∀ col ∈ Config.columns, col.Takes ms c) ∨
      ComesTo Config.schema.read t none ∧ ¬ Fitting Config.columns ms :=
  Config.tabulates.comesTo_read ht (fun m hm _ => hms m hm) fun m hm _ => (hms m hm).1

theorem ofJson_of_fitting (h : HoldsSettings text ms) (hfit : Fitting Config.columns ms) :
    ∃ c, Config.ofJson text = .ok c ∧ ∀ c', (∀ col ∈ Config.columns, col.Takes ms c') ↔ c' = c := by
  obtain ⟨⟨w, t, w', hw, hw', htext, ht⟩, hms⟩ := h
  rcases comesTo_config ht hms with ⟨c, hreads, _, htakes⟩ | ⟨_, hunfit⟩
  · refine ⟨c, hreads.readText_eq ignoresSpace_schema hw hw' htext, fun c' => ⟨fun h => ?_, ?_⟩⟩
    · exact Config.tabulates.eq_of_takes h htakes
    · rintro rfl
      exact htakes
  · exact absurd hfit hunfit

theorem ofJson_of_not_fitting (h : HoldsSettings text ms) (hunfit : ¬ Fitting Config.columns ms) :
    ∃ e, Config.ofJson text = .error e := by
  obtain ⟨⟨w, t, w', hw, hw', htext, ht⟩, hms⟩ := h
  rcases comesTo_config ht hms with ⟨c, _, hfit, _⟩ | ⟨hnone, _⟩
  · exact absurd hfit hunfit
  · exact exists_readText_eq_error hnone ignoresSpace_schema hw hw' htext

theorem ofJson_of_perm (h : HoldsSettings text ms) (h' : HoldsSettings text' ms')
    (hfit : Fitting Config.columns ms)
    (hperm : (knownMembers Config.columns ms).Perm (knownMembers Config.columns ms')) :
    Config.ofJson text' = Config.ofJson text := by
  obtain ⟨c, hc, hunique⟩ := ofJson_of_fitting h hfit
  obtain ⟨c', hc', hunique'⟩ := ofJson_of_fitting h' (hfit.of_perm hperm)
  have htakes : ∀ col ∈ Config.columns, col.Takes ms' c := fun col hcol =>
    ((hunique c).mpr rfl col hcol).congr (mem_of_perm hperm hcol) rfl
  rw [hc, hc', (hunique' c).mp htakes]

/-- A configuration is read just if each setting is named at most once and written as one of its
values. Then it has the value of each setting that is named, and the default of each that is not. -/
theorem settings_from_members :
    (∀ text ms, HoldsSettings text ms → Fitting Config.columns ms → ∃ c,
      Config.ofJson text = .ok c ∧ ∀ c', (∀ col ∈ Config.columns, col.Takes ms c') ↔ c' = c) ∧
    (∀ text ms, HoldsSettings text ms → ¬ Fitting Config.columns ms → ∃ e,
      Config.ofJson text = .error e) ∧
    ∀ text text' ms ms', HoldsSettings text ms → HoldsSettings text' ms' →
      Fitting Config.columns ms →
      (knownMembers Config.columns ms).Perm (knownMembers Config.columns ms') →
      Config.ofJson text' = Config.ofJson text :=
  ⟨fun _ _ => ofJson_of_fitting, fun _ _ => ofJson_of_not_fitting,
    fun _ _ _ _ => ofJson_of_perm⟩

theorem settings_from_members_mixed :
    let text := "\x7b\"y\":[],\"logging\":\x7b\"filter\":\"f\"\x7d,\"y\":1, " ++
      "\"timeout_secs\":18446744073709551615\x7d"
    let c : Config := { timeout := some 18446744073709551615, log := ⟨"./logs", "f"⟩ }
    Config.ofJson text = .ok c ∧ ∃ e, Config.ofJson "\x7b\"timeout_secs\":-0\x7d" = .error e := by
  intro text c
  have hmember {t : List Char} {k : String}
      (hk : ∀ c ∈ k.toList, 0x20 ≤ c.toNat ∧ c ≠ '"' ∧ c ≠ '\\') :=
    MemberText.mk (P := Eq) (stringText_plain k hk) isSpaceText_nil isSpaceText_nil (Eq.refl t)
  have hplain {t : List Char} {k : String} (hk : ¬ (k = "logging" ∨ k = "console"))
      (h : IsJson t) : Config.Considers k t := ⟨h, fun hk' => absurd hk' hk⟩
  let nested := "\x7b\"filter\":\"f\"\x7d".toList
  let ms := [("y", "[]".toList), ("logging", nested), ("y", "1".toList),
    ("timeout_secs", "18446744073709551615".toList)]
  have hfilter : StringText "\"f\"".toList "f" := stringText_plain "f" (by simp)
  have hnested : HoldsTexts nested [("filter", "\"f\"".toList)] :=
    ⟨⟨_, by decide, .cons isSpaceText_nil (hmember (by simp)) (.nil isSpaceText_nil)⟩,
      List.forall_mem_singleton.mpr hfilter.isJson⟩
  have hlog : RecordText LogSettings.columns nested c.log := by
    have htakes : ∀ col ∈ LogSettings.columns, col.Takes [("filter", "\"f\"".toList)] c.log := by
      simpa [LogSettings.columns, Column.Takes, c] using hfilter
    exact ⟨_, hnested, .of_takes (by decide) htakes, htakes⟩
  have htimeout : UInt64Text "18446744073709551615".toList 18446744073709551615 := by
    have hdigits : Nat.toDigits 10 (18446744073709551615 : UInt64).toNat =
        "18446744073709551615".toList := by cbv
    exact hdigits ▸ .mk _
  have htakes : ∀ col ∈ Config.columns, col.Takes ms c := by
    simpa [Config.columns, Column.Takes, c, ms] using And.intro (Optionally.some htimeout) hlog
  have hholds : HoldsSettings text ms := by
    have harray : IsJson "[]".toList :=
      ⟨1, .array ⟨[], rfl, .nil isSpaceText_nil⟩ (List.forall_mem_nil _)⟩
    have hone : IsJson "1".toList := (UInt64Text.mk 1).isJson
    have hlist : ListText (MemberText StringText Eq) _ ms :=
      .cons isSpaceText_nil (hmember (by simp)) <|
      .cons isSpaceText_nil isSpaceText_nil (hmember (by simp)) <|
      .cons isSpaceText_nil isSpaceText_nil (hmember (by simp)) <|
      .cons isSpaceText_nil (show IsSpaceText [' '] by decide) (hmember (by simp))
        (.nil isSpaceText_nil)
    refine ⟨⟨[], _, [], isSpaceText_nil, isSpaceText_nil, by decide, _, rfl, hlist⟩, ?_⟩
    simp only [ms, List.forall_mem_cons]
    exact ⟨hplain (by decide) harray, ⟨hnested.isJson, fun _ => ⟨_, hnested⟩⟩,
      hplain (by decide) hone, hplain (by decide) htimeout.isJson, List.forall_mem_nil _⟩
  have hzero : HoldsSettings "\x7b\"timeout_secs\":-0\x7d" [("timeout_secs", "-0".toList)] := by
    have hminus : NumeralText "-0".toList := .negative (.mk (.inl rfl) .none .none)
    refine ⟨⟨[], _, [], isSpaceText_nil, isSpaceText_nil, by decide, _, rfl, .cons isSpaceText_nil
      (hmember (t := "-0".toList) (k := "timeout_secs") (by simp)) (.nil isSpaceText_nil)⟩, ?_⟩
    exact List.forall_mem_singleton.mpr (hplain (by decide) ⟨0, .scalar (.number hminus)⟩)
  have hunfit : ¬ Fitting Config.columns [("timeout_secs", "-0".toList)] := by
    intro hfit
    obtain ⟨o, ho⟩ : ∃ o, Optionally UInt64Text "-0".toList o := by
      simpa [Config.columns] using hfit.spells
    cases ho with
    | some h =>
      have hstart := h.startsWithDigit
      cases hstart
  obtain ⟨hread, hfail, _⟩ := settings_from_members
  obtain ⟨c', hc', hunique⟩ := hread text ms hholds (.of_takes (by decide) htakes)
  rw [(hunique c).mp htakes]
  exact ⟨hc', hfail _ _ hzero hunfit⟩

end Reading

end DocumentRest
