import Mathlib.Data.List.Nodup
import QueryKernel.Settings.Environment

/-!
Contract: every environment variable decides its own setting and no other.

Ten variables are read one after the other into two nested records. What can go wrong is that one of
them is read into the setting of another, so every statement is about all pairs of variables.

Owns:
- the values of settings, and replacing one of them;
- the texts that spell a value, and that exactly these are read;
- what one variable does, and from it what all of them do;
- the main statement: the settings of an environment, and the warnings about it.

Does not own: which settings an executor accepts.
-/

namespace QueryKernel.Settings

/-! ### Single settings -/

/-- What a setting can be. -/
inductive Kind where
  | flag
  | size
  | backend
deriving DecidableEq, Repr

inductive Value where
  | flag (on : Bool)
  | size (count : Nat)
  | backend (chosen : Option Task.Backend)
deriving DecidableEq, Repr

def Value.kind : Value → Kind
  | .flag _ => .flag
  | .size _ => .size
  | .backend _ => .backend

def Variable.kind : Variable → Kind
  | .hoisting | .cpuOnly | .bumpAllocator | .traceCode | .modernPool => .flag
  | .gpus | .firstGpu | .cacheSize | .arenaWidth => .size
  | .backend => .backend

def valueOf (settings : Settings) : Variable → Value
  | .hoisting => .flag settings.hoisting
  | .cpuOnly => .flag settings.cpuOnly
  | .gpus => .size settings.gpus
  | .firstGpu => .size settings.firstGpu
  | .bumpAllocator => .flag settings.bumpAllocator
  | .traceCode => .flag settings.traceCode
  | .cacheSize => .size settings.cacheSize
  | .modernPool => .flag settings.dispatch.modernPool
  | .arenaWidth => .size settings.dispatch.arenaWidth
  | .backend => .backend settings.dispatch.backend

/-- The settings with one of them replaced. A value of another kind is not taken. -/
def put (settings : Settings) : Variable → Value → Settings
  | .hoisting, .flag hoisting => { settings with hoisting }
  | .cpuOnly, .flag cpuOnly => { settings with cpuOnly }
  | .gpus, .size gpus => { settings with gpus }
  | .firstGpu, .size firstGpu => { settings with firstGpu }
  | .bumpAllocator, .flag bumpAllocator => { settings with bumpAllocator }
  | .traceCode, .flag traceCode => { settings with traceCode }
  | .cacheSize, .size cacheSize => { settings with cacheSize }
  | .modernPool, .flag modernPool =>
      { settings with dispatch := { settings.dispatch with modernPool } }
  | .arenaWidth, .size arenaWidth =>
      { settings with dispatch := { settings.dispatch with arenaWidth } }
  | .backend, .backend backend =>
      { settings with dispatch := { settings.dispatch with backend } }
  | _, _ => settings

/-- The settings are nothing but the settings of the variables. -/
theorem ext_valueOf {left right : Settings}
    (same : ∀ source, left.valueOf source = right.valueOf source) : left = right := by
  rcases left with ⟨_, _, _, _, _, _, _, ⟨_, _, _⟩⟩
  rcases right with ⟨_, _, _, _, _, _, _, ⟨_, _, _⟩⟩
  simp only [Settings.mk.injEq, DispatchSettings.mk.injEq]
  exact ⟨Value.flag.inj (same .hoisting), Value.flag.inj (same .cpuOnly),
    Value.size.inj (same .gpus), Value.size.inj (same .firstGpu),
    Value.flag.inj (same .bumpAllocator), Value.flag.inj (same .traceCode),
    Value.size.inj (same .cacheSize), Value.flag.inj (same .modernPool),
    Value.size.inj (same .arenaWidth), Value.backend.inj (same .backend)⟩

/-- Replacing one setting gives it the value, and leaves every other as it is. -/
theorem valueOf_put (settings : Settings) {source : Variable} {value : Value}
    (suits : value.kind = source.kind) (other : Variable) :
    (settings.put source value).valueOf other =
      if other = source then value else settings.valueOf other := by
  cases source <;> cases value <;> first | contradiction | (cases other <;> rfl)

theorem name_injective : Function.Injective Variable.name := by
  intro source other same
  cases source <;> cases other <;> first | rfl | exact absurd same (by decide)

/-! ### Spelling -/

/-- The text spells the value. Flags and backends are words. A size is a number below `2 ^ 64`, in
one or more decimal digits behind an optional plus sign. -/
inductive Spells : String → Value → Prop where
  | on : Spells "true" (.flag true)
  | off : Spells "false" (.flag false)
  | size {raw : String} (sign digits : List Char) (written : raw.toList = sign ++ digits)
      (signed : sign = [] ∨ sign = ['+']) (nonempty : digits ≠ [])
      (decimal : ∀ digit ∈ digits, digit.isDigit) (fits : Nat.ofDigitChars 10 digits 0 < 2 ^ 64) :
      Spells raw (.size (Nat.ofDigitChars 10 digits 0))
  | futures : Spells "futures" (.backend (some .futures))
  | workStealing : Spells "work_stealing" (.backend (some .workStealing))
  | inline : Spells "inline" (.backend (some .inline))

theorem flag?_eq_some_iff {raw : String} {on : Bool} :
    flag? raw = some on ↔ Spells raw (.flag on) := by
  constructor
  · intro read
    unfold flag? at read
    split_ifs at read with isTrue isFalse
    · cases read
      exact isTrue ▸ .on
    · cases read
      exact isFalse ▸ .off
  · intro spells
    cases spells with
    | on => rfl
    | off => rfl

theorem backend?_eq_some_iff {raw : String} {backend : Task.Backend} :
    backend? raw = some backend ↔ Spells raw (.backend (some backend)) := by
  constructor
  · intro read
    unfold backend? at read
    split_ifs at read with isFutures isWorkStealing isInline
    · cases read
      exact isFutures ▸ .futures
    · cases read
      exact isWorkStealing ▸ .workStealing
    · cases read
      exact isInline ▸ .inline
  · intro spells
    cases spells with
    | futures => rfl
    | workStealing => rfl
    | inline => rfl

/-- The digits behind an optional plus sign. -/
def unsigned : List Char → List Char
  | '+' :: rest => rest
  | chars => chars

theorem unsigned_eq (chars : List Char) :
    ∃ sign, (sign = [] ∨ sign = ['+']) ∧ chars = sign ++ unsigned chars := by
  unfold unsigned
  split
  · exact ⟨['+'], .inr rfl, rfl⟩
  · exact ⟨[], .inl rfl, rfl⟩

/-- A sign in front of digits is told from them. -/
theorem unsigned_append {sign digits : List Char} (signed : sign = [] ∨ sign = ['+'])
    (decimal : ∀ digit ∈ digits, digit.isDigit) : unsigned (sign ++ digits) = digits := by
  rcases signed with rfl | rfl
  · rw [List.nil_append]
    unfold unsigned
    split
    · have plus := decimal '+' List.mem_cons_self
      contradiction
    · rfl
  · rfl

theorem size?_eq_some_iff {raw : String} {count : Nat} :
    size? raw = some count ↔ Spells raw (.size count) := by
  have reading : size? raw =
      if (unsigned raw.toList).isEmpty || !(unsigned raw.toList).all Char.isDigit then none
      else if Nat.ofDigitChars 10 (unsigned raw.toList) 0 < 2 ^ 64 then
        some (Nat.ofDigitChars 10 (unsigned raw.toList) 0)
      else none := rfl
  constructor
  · intro read
    rw [reading] at read
    split_ifs at read with bad fits
    cases read
    rcases unsigned_eq raw.toList with ⟨sign, signed, written⟩
    simp only [Bool.or_eq_true, List.isEmpty_iff, Bool.not_eq_true', not_or, Bool.not_eq_false,
      List.all_eq_true] at bad
    exact .size sign _ written signed bad.1 bad.2 fits
  · intro spells
    cases spells with
    | size sign digits written signed nonempty decimal fits =>
        rw [reading, written, unsigned_append signed decimal, if_neg, if_pos fits]
        simp only [Bool.or_eq_true, List.isEmpty_iff, Bool.not_eq_true', not_or, Bool.not_eq_false,
          List.all_eq_true]
        exact ⟨nonempty, decimal⟩

/-- The value of a text, for a setting of the kind. -/
def Kind.read? (kind : Kind) (raw : String) : Option Value :=
  match kind with
  | .flag => (flag? raw).map .flag
  | .size => (size? raw).map .size
  | .backend => (backend? raw).map fun backend => .backend (some backend)

/-- The text spells a value that the setting of the variable can have. -/
structure Reads (source : Variable) (raw : String) (value : Value) : Prop where
  suits : value.kind = source.kind
  spelled : Spells raw value

theorem Kind.read?_eq_some_iff {kind : Kind} {raw : String} {value : Value} :
    kind.read? raw = some value ↔ value.kind = kind ∧ Spells raw value := by
  constructor
  · intro read
    cases kind with
    | flag =>
        rcases Option.map_eq_some_iff.mp read with ⟨on, found, rfl⟩
        exact ⟨rfl, flag?_eq_some_iff.mp found⟩
    | size =>
        rcases Option.map_eq_some_iff.mp read with ⟨count, found, rfl⟩
        exact ⟨rfl, size?_eq_some_iff.mp found⟩
    | backend =>
        rcases Option.map_eq_some_iff.mp read with ⟨backend, found, rfl⟩
        exact ⟨rfl, backend?_eq_some_iff.mp found⟩
  · rintro ⟨rfl, spelled⟩
    cases value with
    | flag on => exact Option.map_eq_some_iff.mpr ⟨on, flag?_eq_some_iff.mpr spelled, rfl⟩
    | size count => exact Option.map_eq_some_iff.mpr ⟨count, size?_eq_some_iff.mpr spelled, rfl⟩
    | backend chosen => cases spelled <;> rfl

theorem read?_eq_some_iff {source : Variable} {raw : String} {value : Value} :
    source.kind.read? raw = some value ↔ Reads source raw value := by
  rw [Kind.read?_eq_some_iff]
  exact ⟨fun read => ⟨read.1, read.2⟩, fun reads => ⟨reads.suits, reads.spelled⟩⟩

theorem read?_eq_none_iff {source : Variable} {raw : String} :
    source.kind.read? raw = none ↔ ∀ value, ¬ Reads source raw value := by
  rw [Option.eq_none_iff_forall_ne_some]
  exact forall_congr' fun value => not_congr read?_eq_some_iff

/-- Assignment reads the text as the kind of the setting, and replaces that setting. -/
theorem assign?_eq (settings : Settings) (raw : String) (source : Variable) :
    settings.assign? raw source = (source.kind.read? raw).map (settings.put source) := by
  cases source <;> simp only [assign?, Kind.read?, Variable.kind, Option.map_map] <;> rfl

/-! ### One variable -/

section Variables

variable (environment : String → Option String)

/-- The value that a variable gives, if it is set and can be read. -/
def given? (source : Variable) : Option Value :=
  (environment source.name).bind source.kind.read?

/-- The warning about a variable, if it is set and cannot be read. -/
def warning? (source : Variable) : Option Warning :=
  (environment source.name).bind fun raw =>
    if (source.kind.read? raw).isNone then some ⟨source, raw⟩ else none

/-- A variable replaces its setting or adds its warning, or does nothing. -/
theorem applyVariable_eq (settings : Settings) (warnings : List Warning) (source : Variable) :
    applyVariable environment (settings, warnings) source =
      (((given? environment source).map (settings.put source)).getD settings,
        warnings ++ (warning? environment source).toList) := by
  unfold applyVariable given? warning?
  cases environment source.name with
  | none => simp
  | some raw =>
      simp only [Option.bind_some, assign?_eq]
      cases source.kind.read? raw <;> simp

theorem given?_suits {source : Variable} {value : Value}
    (given : given? environment source = some value) : value.kind = source.kind := by
  rcases Option.bind_eq_some_iff.mp given with ⟨raw, -, read⟩
  exact (read?_eq_some_iff.mp read).suits

/-- One variable leaves every setting but its own as it is. -/
theorem valueOf_applyVariable (settings : Settings) (warnings : List Warning)
    (source other : Variable) :
    (applyVariable environment (settings, warnings) source).1.valueOf other =
      if other = source then (given? environment source).getD (settings.valueOf source)
      else settings.valueOf other := by
  rw [applyVariable_eq]
  cases given : given? environment source with
  | none =>
      split_ifs with own
      · rw [own]
        rfl
      · rfl
  | some value => exact valueOf_put settings (given?_suits environment given) other

/-! ### All variables -/

/-- Variables that are applied one after the other, each of them once. -/
theorem foldl_applyVariable {sources : List Variable} (distinct : sources.Nodup)
    (settings : Settings) (warnings : List Warning) :
    (∀ source, (sources.foldl (applyVariable environment) (settings, warnings)).1.valueOf source =
      if source ∈ sources then (given? environment source).getD (settings.valueOf source)
      else settings.valueOf source) ∧
    (sources.foldl (applyVariable environment) (settings, warnings)).2 =
      warnings ++ sources.filterMap (warning? environment) := by
  induction sources generalizing settings warnings with
  | nil => simp
  | cons first rest inductionHypothesis =>
      rcases List.nodup_cons.mp distinct with ⟨absent, restDistinct⟩
      have next := inductionHypothesis restDistinct
        (applyVariable environment (settings, warnings) first).1
        (applyVariable environment (settings, warnings) first).2
      rw [List.foldl_cons]
      refine ⟨fun source => ?_, ?_⟩
      · rw [next.1 source, valueOf_applyVariable]
        by_cases own : source = first
        · -- The first variable is not applied again.
          subst own
          rw [if_neg absent, if_pos rfl, if_pos List.mem_cons_self]
        · simp only [List.mem_cons, own, false_or, if_false]
      · rw [next.2, applyVariable_eq, List.append_assoc]
        congr 1
        cases found : warning? environment first with
        | none => rw [List.filterMap_cons_none found, Option.toList_none, List.nil_append]
        | some warning =>
            rw [List.filterMap_cons_some found, Option.toList_some, List.singleton_append]

/-! ### Environments -/

/-- The variable is set to a text that spells no value of its setting. -/
def Ignored (source : Variable) (raw : String) : Prop :=
  environment source.name = some raw ∧ ∀ value, ¬ Reads source raw value

/-- The value that the environment gives to the setting of a variable: what the variable spells, and
the default where it is not set or is ignored. -/
inductive Governs (source : Variable) : Value → Prop where
  | given {raw : String} {value : Value} (present : environment source.name = some raw)
      (reads : Reads source raw value) : Governs source value
  | unset (absent : environment source.name = none) : Governs source (valueOf {} source)
  | ignored {raw : String} (ignored : Ignored environment source raw) :
      Governs source (valueOf {} source)

theorem warning?_eq_some_iff {source : Variable} {warning : Warning} :
    warning? environment source = some warning ↔
      warning.source = source ∧ Ignored environment source warning.raw := by
  rw [warning?, Option.bind_eq_some_iff]
  constructor
  · rintro ⟨raw, present, warned⟩
    split_ifs at warned with unread
    cases warned
    exact ⟨rfl, present, read?_eq_none_iff.mp (Option.isNone_iff_eq_none.mp unread)⟩
  · rintro ⟨rfl, present, unread⟩
    refine ⟨warning.raw, present, ?_⟩
    rw [if_pos (Option.isNone_iff_eq_none.mpr (read?_eq_none_iff.mpr unread))]

theorem governs_iff {source : Variable} {value : Value} :
    Governs environment source value ↔
      value = (given? environment source).getD (valueOf {} source) := by
  unfold given?
  constructor
  · intro governs
    cases governs with
    | given present reads => rw [present, Option.bind_some, read?_eq_some_iff.mpr reads]; rfl
    | unset absent => rw [absent]; rfl
    | ignored ignored =>
        rw [ignored.1, Option.bind_some, read?_eq_none_iff.mpr ignored.2]; rfl
  · rintro rfl
    cases present : environment source.name with
    | none => exact .unset present
    | some raw =>
        cases read : source.kind.read? raw with
        | none =>
            rw [Option.bind_some, read]
            exact .ignored ⟨present, read?_eq_none_iff.mp read⟩
        | some value =>
            rw [Option.bind_some, read]
            exact .given present (read?_eq_some_iff.mp read)

theorem ofEnvironment_valueOf (source : Variable) :
    (ofEnvironment environment).1.valueOf source =
      (given? environment source).getD (valueOf {} source) := by
  have listed : source ∈ Variable.all := by cases source <;> decide
  have distinct : Variable.all.Nodup := by decide
  exact ((foldl_applyVariable environment distinct {} []).1 source).trans (if_pos listed)

theorem ofEnvironment_warnings :
    (ofEnvironment environment).2 = Variable.all.filterMap (warning? environment) :=
  (foldl_applyVariable environment (by decide : Variable.all.Nodup) {} []).2

theorem warnings_sublist (sources : List Variable) :
    ((sources.filterMap (warning? environment)).map Warning.source).Sublist sources := by
  induction sources with
  | nil => exact .slnil
  | cons first rest inductionHypothesis =>
      cases found : warning? environment first with
      | none =>
          rw [List.filterMap_cons_none found]
          exact inductionHypothesis.cons first
      | some warning =>
          rw [List.filterMap_cons_some found, List.map_cons,
            ((warning?_eq_some_iff environment).mp found).1]
          exact inductionHypothesis.cons_cons first

/-- Environments that agree on a variable agree on its setting. -/
theorem ofEnvironment_congr {other : String → Option String} {source : Variable}
    (same : other source.name = environment source.name) :
    (ofEnvironment other).1.valueOf source = (ofEnvironment environment).1.valueOf source := by
  rw [ofEnvironment_valueOf, ofEnvironment_valueOf, given?, given?, same]

/-- The settings of an environment are the ones that it governs: each has the value that its own
variable spells, and the default where that variable is not set or spells no value. So a setting is
the same in all environments that agree on its variable, and an environment that differs in one
variable gives all other settings the same values. There is one warning for each variable that is
set and spells no value, in the order of the variables, and no other warning. -/
theorem environment_governs_each_setting :
    (∀ settings : Settings, (∀ source, Governs environment source (settings.valueOf source)) ↔
      settings = (ofEnvironment environment).1) ∧
    (∀ (other : String → Option String) (source : Variable),
      other source.name = environment source.name →
        (ofEnvironment other).1.valueOf source = (ofEnvironment environment).1.valueOf source) ∧
    (∀ (other : String → Option String) (changed : Variable),
      (∀ name ≠ changed.name, other name = environment name) → ∀ source ≠ changed,
        (ofEnvironment other).1.valueOf source = (ofEnvironment environment).1.valueOf source) ∧
    (∀ source raw, ⟨source, raw⟩ ∈ (ofEnvironment environment).2 ↔
      Ignored environment source raw) ∧
    ((ofEnvironment environment).2.map Warning.source).Sublist Variable.all := by
  refine ⟨fun settings => ?_, fun other source same => ofEnvironment_congr environment same,
    fun other changed same source different => ?_, fun source raw => ?_, ?_⟩
  · constructor
    · intro governs
      refine ext_valueOf fun source => ?_
      rw [ofEnvironment_valueOf]
      exact (governs_iff environment).mp (governs source)
    · rintro rfl source
      exact (governs_iff environment).mpr (ofEnvironment_valueOf environment source)
  · refine ofEnvironment_congr environment (same source.name fun equal => different ?_)
    exact name_injective equal
  · rw [ofEnvironment_warnings, List.mem_filterMap]
    constructor
    · rintro ⟨place, -, found⟩
      rcases (warning?_eq_some_iff environment).mp found with ⟨rfl, ignored⟩
      exact ignored
    · intro ignored
      exact ⟨source, by cases source <;> decide,
        (warning?_eq_some_iff environment).mpr ⟨rfl, ignored⟩⟩
  · rw [ofEnvironment_warnings]
    exact warnings_sublist environment Variable.all

end Variables

/-- A sign and leading zeros belong to a size. A number that is too large, and a word with a space
in front, are reported. -/
example :
    ofEnvironment (List.lookup · [("LODESTAR_THREAD_POOL_BACKEND", "inline"),
      ("LODESTAR_CODE_CACHE_SIZE", "18446744073709551616"), ("LODESTAR_NUM_GPUS", "+007"),
      ("LODESTAR_CPU_ONLY", " true")]) =
    ({ gpus := 7, dispatch := { backend := some .inline } },
      [⟨.cpuOnly, " true"⟩, ⟨.cacheSize, "18446744073709551616"⟩]) := by
  decide

end QueryKernel.Settings
