import CoopCpu.Config
import CoopCpu.Proofs.Numerals
/-!
# Proofs.Overrides — settings that are overridden, all or none

The overrides set what the settings spell and nothing else (`Config.override_eq`, `base_override`), and fail only for a base
offset that is no 16-bit number.  Made in place, one after another, they come to the same (`overrideInPlace_eq`): the only one
that can be refused comes first, so that a refusal leaves all settings as they were (`overridden_inPlace`).
-/
namespace CoopCpu
namespace Config

variable {c c' : Config} {setting : String → Option String} {value : String}

/-! ## The base offset that a setting spells -/

theorem base?_eq_some_iff {base : Address} : base? value = some base ↔ Numeral.parse value = .ok base.toNat := by
  unfold base?
  cases parsed : Numeral.parse value with
  | error flaw => exact ⟨nofun, nofun⟩
  | ok n =>
    by_cases small : n < 65536
    · have same : (UInt16.ofNat n).toNat = n := UInt16.toNat_ofNat_of_lt' small
      simp only [if_pos small, Option.some.injEq, Except.ok.injEq]
      exact ⟨fun h => h ▸ same.symm, fun h => UInt16.toNat_inj.1 (same.trans h)⟩
    · simp only [if_neg small, Except.ok.injEq]
      refine ⟨nofun, fun h => ?_⟩
      exact absurd (h ▸ base.toNat_lt) small

theorem base?_eq_none_iff : base? value = none ↔ ¬ ∃ n ≤ 65535, Numeral.parse value = .ok n := by
  rw [Option.eq_none_iff_forall_ne_some]
  constructor
  · rintro none ⟨n, small, parsed⟩
    have same : (UInt16.ofNat n).toNat = n := UInt16.toNat_ofNat_of_lt' (Nat.lt_succ_of_le small)
    exact none (UInt16.ofNat n) (base?_eq_some_iff.2 (same.symm ▸ parsed))
  · exact fun none base h => none ⟨base.toNat, Nat.le_of_lt_succ base.toNat_lt, base?_eq_some_iff.1 h⟩

/-! ## What the overrides come to -/

theorem override_eq (h : c.override setting = .ok c') : ∃ base, c.overriddenBase setting = .ok base ∧
    c' = { c with base, tablePath := (setting tableKey).or c.tablePath, dumpPath := (setting dumpKey).or c.dumpPath } := by
  unfold override at h
  cases hbase : c.overriddenBase setting with
  | error e => simp only [hbase] at h; cases h
  | ok base =>
    simp only [hbase] at h
    exact ⟨base, rfl, (Except.ok.inj h).symm⟩

/-- **The base offset after the overrides** is what the setting spells, if there is one. -/
theorem base_override (h : c.override setting = .ok c') :
    (setting baseKey = none ∧ c'.base = c.base) ∨ ∃ text, setting baseKey = some text ∧ base? text = some c'.base := by
  obtain ⟨base, hbase, rfl⟩ := override_eq h
  unfold overriddenBase at hbase
  cases given : setting baseKey with
  | none =>
    rw [given] at hbase
    exact .inl ⟨rfl, (Except.ok.inj hbase).symm⟩
  | some text =>
    rw [given] at hbase
    cases spelled : base? text with
    | none => simp only [spelled] at hbase; cases hbase
    | some base' =>
      simp only [spelled] at hbase
      cases hbase
      exact .inr ⟨text, rfl, spelled⟩

theorem memorySize_override (h : c.override setting = .ok c') : c'.memorySize = c.memorySize := by
  obtain ⟨base, -, rfl⟩ := override_eq h
  rfl

/-- **The overrides fail** for a base offset that is none, and for nothing else. -/
theorem override_eq_error_iff {e : SetupError} : c.override setting = .error e ↔
    ∃ value, setting baseKey = some value ∧ base? value = none ∧ e = .invalidSetting baseKey value := by
  unfold override overriddenBase
  cases given : setting baseKey with
  | none => exact ⟨nofun, nofun⟩
  | some value =>
    cases spelled : base? value with
    | none =>
      simp only [spelled]
      constructor
      · intro h
        exact ⟨value, rfl, spelled, (Except.error.inj h).symm⟩
      · rintro ⟨_, same, -, rfl⟩
        cases same
        rfl
    | some base =>
      simp only [spelled]
      refine ⟨nofun, ?_⟩
      rintro ⟨_, same, none, -⟩
      cases same
      rw [spelled] at none
      cases none

/-- **In place the overrides come to the same**: a refusal changes nothing. -/
theorem overrideInPlace_eq (c : Config) (setting : String → Option String) : c.overrideInPlace setting =
    match c.override setting with
    | .ok c' => (.ok (), c')
    | .error e => (.error e, c) := by
  unfold overrideInPlace overriding override overriddenBase
  cases setting baseKey with
  | none => cases setting tableKey <;> cases setting dumpKey <;> rfl
  | some value =>
    cases spelled : base? value with
    | none =>
      simp only [spelled]
      rfl
    | some base =>
      simp only [spelled]
      cases setting tableKey <;> cases setting dumpKey <;> rfl

/-- Settings as they are overridden: what is wrong is a base offset that is no 16-bit number, and then all settings are as
before; otherwise those that are given have their new values, and the others are as before. -/
structure Overridden (c : Config) (setting : String → Option String) (outcome : Except SetupError Unit) (c' : Config) :
    Prop where
  refused : (∃ e, outcome = .error e) ↔
    ∃ value, setting baseKey = some value ∧ ¬ ∃ n ≤ 65535, Numeral.parse value = .ok n
  reason : ∀ e, outcome = .error e → ∃ value, setting baseKey = some value ∧ e = .invalidSetting baseKey value
  unchanged : ∀ e, outcome = .error e → c' = c
  base : outcome = .ok () → setting baseKey = none ∧ c'.base = c.base ∨
    ∃ value, setting baseKey = some value ∧ Numeral.parse value = .ok c'.base.toNat
  tablePath : outcome = .ok () → c'.tablePath = (setting tableKey).or c.tablePath
  dumpPath : outcome = .ok () → c'.dumpPath = (setting dumpKey).or c.dumpPath
  memorySize : c'.memorySize = c.memorySize

/-- **The overrides set what is given, or nothing.** -/
theorem overridden_inPlace (c : Config) (setting : String → Option String) :
    c.Overridden setting (c.overrideInPlace setting).1 (c.overrideInPlace setting).2 := by
  rw [overrideInPlace_eq]
  cases h : c.override setting with
  | error e =>
    obtain ⟨value, given, none, rfl⟩ := override_eq_error_iff.1 h
    refine ⟨⟨fun _ => ⟨value, given, base?_eq_none_iff.1 none⟩, fun _ => ⟨_, rfl⟩⟩, ?_, fun _ _ => rfl, nofun, nofun, nofun,
      rfl⟩
    rintro _ ⟨⟩
    exact ⟨value, given, rfl⟩
  | ok c' =>
    obtain ⟨base, -, hc'⟩ := override_eq h
    refine ⟨⟨nofun, ?_⟩, nofun, nofun, fun _ => ?_, fun _ => ?_, fun _ => ?_, memorySize_override h⟩
    · rintro ⟨value, given, none⟩
      rw [override_eq_error_iff.2 ⟨value, given, base?_eq_none_iff.2 none, rfl⟩] at h
      cases h
    · exact (base_override h).imp_right fun ⟨value, given, spelled⟩ => ⟨value, given, base?_eq_some_iff.1 spelled⟩
    · rw [hc']
    · rw [hc']

/-- **Numbers in settings are read by their grammar, and settings are overridden as a whole or not at all.**  Any text is
trimmed, and what is left is read as the grammar has it.  A number below the limit, written in one of the usual ways and with
blanks around it, is read back.  Overriding settings in place, one after another, fails only for a base offset that is no
16-bit number, and then leaves all of them as they were; otherwise it changes those that are given.  It comes to the same as
overriding them at once. -/
theorem settings_by_grammar (text : String) (c : Config) (setting : String → Option String) :
    (Text.Trims text.toList (Text.trim text.toList) ∧ Numeral.Reads (Text.trim text.toList) (Numeral.parse text)) ∧
    (∀ v < Numeral.limit, ∀ cs, Numeral.Renders v cs → ∀ before after, (∀ ch ∈ before ++ after, Text.isBlank ch = true) →
      Numeral.parse (String.ofList (before ++ cs ++ after)) = .ok v) ∧
    c.Overridden setting (c.overrideInPlace setting).1 (c.overrideInPlace setting).2 ∧
    c.override setting = (c.overrideInPlace setting).1.map fun _ => (c.overrideInPlace setting).2 := by
  refine ⟨⟨Text.trims_trim _, Numeral.reads_parse text⟩, fun v small cs rendered before after blank => ?_,
    c.overridden_inPlace setting, ?_⟩
  · exact Numeral.parse_of_spells (Numeral.spells_of_renders rendered) small blank
  · rw [overrideInPlace_eq]
    cases c.override setting <;> rfl

/-- A base offset that is too large, and two files. -/
def oversizedSetting (key : String) : Option String := if key = baseKey then some "70000" else some "other.json"

theorem oversizedSetting_by_grammar : Numeral.parse " 0x00fe\n" = .ok 0xFE ∧
    (standard.overrideInPlace oversizedSetting).2 = standard := by
  obtain ⟨-, written, overridden, -⟩ := settings_by_grammar "70000" standard oversizedSetting
  constructor
  · have rendered : Numeral.Renders 0xFE (['0', 'x'] ++ Hex.fixed Hex.lowerDigit 4 0xFE) :=
      .hexadecimal .small (.inl rfl) (by decide) (by decide)
    have blank : ∀ ch ∈ [' '] ++ ['\n'], Text.isBlank ch = true := by
      intro ch h
      rcases List.mem_pair.1 h with rfl | rfl <;> rfl
    exact written 0xFE (by decide) _ rendered [' '] ['\n'] blank
  · have large : Numeral.parse "70000" = .ok 70000 := by decide
    have none : ¬ ∃ n ≤ 65535, Numeral.parse "70000" = .ok n := by
      rintro ⟨n, small, h⟩
      cases large.symm.trans h
      exact absurd small (by decide)
    obtain ⟨e, refused⟩ := overridden.refused.2 ⟨"70000", rfl, none⟩
    exact overridden.unchanged e refused

end Config
end CoopCpu
