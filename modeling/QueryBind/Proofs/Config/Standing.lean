import QueryBind.Config.Environment
import QueryBind.Proofs.Binding.Histories

/-! # Accepted configurations

A configuration is checked once, when it is made from an environment or from overrides. Caches check
their bound again and bound queries check the encoding that they fall back on. Each of these checks
passes on what the first one let through (`Config.Checked.stands`), so a configuration is refused
where it is made or nowhere (`Config.made_stands`).
-/

namespace QueryBind

namespace Number

/-- An integer is at least zero in the order of numbers exactly if it is one in its own order. -/
theorem zero_le_iff {n : Number} {value : Int} (integer : n.toInt? = some value) :
    (int 0).le n = true ↔ 0 ≤ value := by
  cases n with
  | int m =>
      rw [← Option.some.inj integer]
      exact le_int 0 m
  | negativeZero =>
      cases integer
      decide
  | wide bits =>
      change (Reading.finite false 0 0).le (readBits bits) = true ↔ 0 ≤ value
      unfold toInt? at integer
      cases read : readBits bits with
      | notANumber => simp [read] at integer
      | infinite negative => simp [read] at integer
      | finite negative significand exponent =>
          simp only [read] at integer
          split at integer
          · cases integer
          · cases integer
            simp [Reading.le, Reading.scaled]

end Number

namespace Config

/-- What the check of a configuration has let through. -/
structure Checked (config : Config) : Prop where
  capacity : checkLimit (some maxCapacity) (.number config.cacheCapacity) = .ok config.cacheCapacity
  length : checkLimit none (.number config.maxStatementLength) = .ok config.maxStatementLength
  params : checkLimit none (.number config.maxStatementParams) = .ok config.maxStatementParams
  encoding : checkEncoding (.text config.encoding) = .ok config.encoding

/-- A configuration that nothing refuses that is given it. -/
structure Stands (config : Config) : Prop where
  /-- Overriding the standard configuration by it gives it back. -/
  override : override (.record config.toFields) = .ok config
  /-- Its capacity is the bound of a cache. -/
  cache (κ ν : Type) : (Lru.ofCapacity (.number config.cacheCapacity) : Except Fault (Lru κ ν)) =
    .ok ⟨config.cacheCapacity, [], 0, 0, 0⟩
  /-- A converter is made with it, whatever caches and context it is given. -/
  converter (server : Option (Lru String ServerQuery)) (client : Option (Lru String ClientQuery))
    (context : Fields) : ∃ converter,
      Converter.ofConfig config server client context = .ok converter ∧ converter.config = config
  /-- A converter is made from its fields. -/
  make : ∃ converter, Converter.make (.record config.toFields) = .ok converter ∧
    converter.config = config
  /-- Under it a bound query is made over every transformer that names no encoding. -/
  bound (family : Family) (under : family.converter.config = config) (number : Nat)
    (dumper : Dumper) (held : family.dumpers[number]? = some dumper)
    (unnamed : dumper.transformer.encoding = none) (variant : Variant) :
    (family.add variant number).1 = .ok family.members.length

/-! ## The first check -/

/-- A limit that was accepted is accepted again. -/
theorem checkLimit_again {bound : Option Nat} {value : Value} {n : Number}
    (success : checkLimit bound value = .ok n) : checkLimit bound (.number n) = .ok n := by
  obtain ⟨rfl, _⟩ := checkLimit_eq_ok success
  exact success

/-- An encoding that was accepted is accepted again. -/
theorem checkEncoding_again {value : Value} {name : String}
    (success : checkEncoding value = .ok name) : checkEncoding (.text name) = .ok name := by
  cases value with
  | text given =>
      have again := success
      simp only [checkEncoding] at success
      split at success
      · cases success
        exact again
      · simp at success
  | _ => simp [checkEncoding] at success

/-- Fields are a configuration that was checked, or are refused as a configuration. -/
theorem ofFields_cases (fields : Fields) :
    (∃ config, ofFields fields = .ok config ∧ config.Checked) ∨
      ∃ detail, ofFields fields = .error (.configuration detail) := by
  unfold ofFields
  dsimp only
  split
  · next capacity length params encoding =>
      exact .inl ⟨_, rfl, checkLimit_again capacity, checkLimit_again length,
        checkLimit_again params, checkEncoding_again encoding⟩
  · exact .inr ⟨_, rfl⟩

/-- An override is accepted with a checked configuration or refused as one. -/
theorem override_cases (overrides : Value) :
    (∃ config, override overrides = .ok config ∧ config.Checked) ∨
      ∃ detail, override overrides = .error (.configuration detail) := by
  unfold override ofValue
  split
  · exact ofFields_cases _
  · exact .inr ⟨_, rfl⟩

/-- A variable that holds no integer is refused as a configuration. -/
theorem integerOf_failsOnly (environment : Environment) (variableName : String) :
    Outcome.FailsOnly (fun error => ∃ detail, error = .configuration detail)
      (integerOf environment variableName) := by
  unfold integerOf
  split
  · exact Outcome.failsOnly_ok _
  split
  · exact Outcome.failsOnly_ok _
  split
  · exact Outcome.failsOnly_ok _
  · exact Outcome.failsOnly_error ⟨_, rfl⟩

/-- What an environment comes to was made by overriding. -/
theorem ofEnvironment_cases (environment : Environment) :
    (∃ overrides, ofEnvironment environment = override overrides) ∨
      ∃ detail, ofEnvironment environment = .error (.configuration detail) := by
  unfold ofEnvironment
  cases capacity : integerOf environment "PGQUERY_CACHE_CAPACITY" with
  | error error =>
      obtain ⟨detail, rfl⟩ := integerOf_failsOnly _ _ error capacity
      exact .inr ⟨detail, rfl⟩
  | ok first =>
  cases length : integerOf environment "PGQUERY_MAX_CACHED_LENGTH" with
  | error error =>
      obtain ⟨detail, rfl⟩ := integerOf_failsOnly _ _ error length
      exact .inr ⟨detail, rfl⟩
  | ok second =>
  cases params : integerOf environment "PGQUERY_MAX_CACHED_PARAMS" with
  | error error =>
      obtain ⟨detail, rfl⟩ := integerOf_failsOnly _ _ error params
      exact .inr ⟨detail, rfl⟩
  | ok third => exact .inl ⟨_, rfl⟩

/-! ## The later checks -/

namespace Checked

variable {config : Config} (checked : config.Checked)

include checked

/-- A checked configuration is accepted as fields. -/
theorem ofFields_toFields : ofFields config.toFields = .ok config := by
  have fields : Fields.get? config.toFields "cacheCapacity" = some (.number config.cacheCapacity) ∧
      Fields.get? config.toFields "maxCachedStatementLength" =
        some (.number config.maxStatementLength) ∧
      Fields.get? config.toFields "maxCachedStatementParams" =
        some (.number config.maxStatementParams) ∧
      Fields.get? config.toFields "encoding" = some (.text config.encoding) :=
    ⟨rfl, rfl, rfl, rfl⟩
  obtain ⟨capacity, length, params, encoding⟩ := fields
  simp only [ofFields, capacity, length, params, encoding, Option.getD_some, checked.capacity,
    checked.length, checked.params, checked.encoding]

/-- The fields of a configuration take the places of the standard ones. -/
theorem override_toFields : override (.record config.toFields) = .ok config := by
  have merged : Fields.merge standard.toFields config.toFields = config.toFields := rfl
  have object : typeName (.record config.toFields) = "object" := rfl
  simp only [override, Value.ownFields, merged, ofValue, object, if_true]
  exact checked.ofFields_toFields

/-- A limit that was let through is an integer, and not negative. -/
theorem capacityOf_capacity :
    Lru.capacityOf (.number config.cacheCapacity) = .ok config.cacheCapacity := by
  obtain ⟨_, _, flawless⟩ := checkLimit_eq_ok checked.capacity
  simp only [limitFlaws, List.append_eq_nil_iff, ite_eq_left_iff, reduceCtorEq, imp_false,
    Decidable.not_not] at flawless
  obtain ⟨⟨whole, atLeast⟩, _⟩ := flawless
  obtain ⟨value, integer⟩ := Option.isSome_iff_exists.mp whole
  simp [Lru.capacityOf, integer, (Number.zero_le_iff integer).mp atLeast]

private theorem ofCapacity_capacity (κ ν : Type) :
    (Lru.ofCapacity (.number config.cacheCapacity) : Except Fault (Lru κ ν)) =
      .ok ⟨config.cacheCapacity, [], 0, 0, 0⟩ := by
  rw [Lru.ofCapacity, checked.capacityOf_capacity]
  rfl

/-- A converter is made with a checked configuration. -/
theorem ofConfig (server : Option (Lru String ServerQuery))
    (client : Option (Lru String ClientQuery)) (context : Fields) : ∃ converter,
      Converter.ofConfig config server client context = .ok converter ∧
        converter.config = config := by
  cases server <;> cases client <;>
    simp only [Converter.ofConfig, checked.ofCapacity_capacity] <;> exact ⟨_, rfl, rfl⟩

private theorem codec : ∃ codec, Encoding.codec config.encoding = .ok codec :=
  Encoding.codec_of_isSupported (isSupported_of_checkEncoding checked.encoding)

/-- **A configuration that was checked stands.** -/
theorem stands : config.Stands where
  override := checked.override_toFields
  cache := checked.ofCapacity_capacity
  converter := checked.ofConfig
  make := by
    unfold Converter.make
    rw [checked.override_toFields]
    exact checked.ofConfig none none []
  bound := by
    intro family under number dumper held unnamed variant
    obtain ⟨codec, selected⟩ := checked.codec
    have settled : Ground.encoding ⟨family.converter, dumper⟩ = config.encoding := by
      rw [Ground.encoding, unnamed, ← under]
      rfl
    have agreed : Ground.checkedEncoding ⟨family.converter, dumper⟩ = .ok config.encoding := by
      rw [Ground.checkedEncoding, settled, selected]
      rfl
    rw [Family.add_of_checked held agreed]

end Checked

/-- **An accepted configuration is accepted everywhere.** Overrides of any kind and any environment
are refused as a configuration, and not otherwise, or come to a configuration that stands:
overriding by it gives it back, and no cache, converter or bound query refuses it. -/
theorem made_stands :
    (∀ overrides, (∃ config, override overrides = .ok config ∧ config.Stands) ∨
        ∃ detail, override overrides = .error (.configuration detail)) ∧
      ∀ environment, (∃ config, ofEnvironment environment = .ok config ∧ config.Stands) ∨
        ∃ detail, ofEnvironment environment = .error (.configuration detail) := by
  have overriding : ∀ overrides, (∃ config, override overrides = .ok config ∧ config.Stands) ∨
      ∃ detail, override overrides = .error (.configuration detail) := by
    intro overrides
    refine (override_cases overrides).imp_left ?_
    rintro ⟨config, made, checked⟩
    exact ⟨config, made, checked.stands⟩
  refine ⟨overriding, fun environment => ?_⟩
  rcases ofEnvironment_cases environment with ⟨overrides, made⟩ | refused
  · rw [made]
    exact overriding overrides
  · exact .inr refused

/-- A hexadecimal capacity with blanks around it, and an encoding in capitals. -/
example :
    let environment := [("PGQUERY_CACHE_CAPACITY", " 0x10 "), ("PGCLIENTENCODING", "LATIN1")]
    (ofEnvironment environment).toOption = some ⟨.int 16, .int 4096, .int 50, "LATIN1"⟩ := by
  decide +kernel

end Config

end QueryBind
