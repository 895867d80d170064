import QueryKernel.Proofs.Kernel.Origin
import QueryKernel.Proofs.Kernel.Running

/-!
Contract: when the ids in a kernel name the right strings.

A kernel holds the ids that its strings had when it was built. It is handed out by the description
of a step, which names dictionaries by their ids, while an id can be bound to another dictionary
in the meantime.

Owns:
- string constants that are encoded against a dictionary, and their literals;
- the strings of such constants in steps of one description;
- kernels whose ids decode to the strings of a step;
- the main statement: after any events the id of a string is right if and only if the dictionary
  that is bound now gave the string the id that the one bound at the origin of the kernel gave it;
- two ways to a wrong id: a dictionary that was replaced, and a string with a quote inside.

Does not own: which kernel a step gets.
-/

namespace QueryKernel

open QueryKernel.Plan (QueryStep)
open QueryKernel.Sql (Constant Datum DataType)
open QueryKernel.Dictionary (Registry)

/-! ### Encoded strings -/

/-- A string constant with a payload, encoded against the dictionary of its type. -/
structure Sql.Constant.Encodes (constant : Constant) (value : String) : Prop where
  isString : constant.type.isString = true
  encoding : constant.type.encoding = .dictionary
  datum : constant.datum = .text value

/-- An encoded string becomes the id that its dictionary has for it. -/
theorem Sql.Constant.Encodes.literal {constant : Constant} {value : String}
    (encodes : constant.Encodes value) {registry : Registry} (valid : registry.Valid)
    {literal : Literal} (becomes : constant.Becomes registry literal) :
    ∃ number, registry.issued? constant.type.parameter value = some number ∧
      literal = .int32 number := by
  have storage : constant.type.storage.isString = true := by
    rw [← Session.isString_eq_storage]
    exact encodes.isString
  have made : stringLiteral constant ⟨constant.type.encoding, constant.type.parameter⟩ registry =
      .ok (literal, registry) := by
    rw [← Session.literalOf_of_isString storage]
    exact becomes
  have given : constant.isNull = false := by
    rw [Constant.isNull, encodes.datum]
    rfl
  have text := Constant.stringValue_eq_ok_iff.mpr encodes.datum
  simp only [stringLiteral, encodes.encoding, given, text] at made
  rcases bind_eq_ok.mp made with ⟨handle, found, rest⟩
  rcases Prod.mk.inj (Except.ok.inj rest) with ⟨number, unchanged⟩
  exact ⟨_, valid.issued?_of_idOf found unchanged, number.symm⟩

/-- Only a string has the text of a string. -/
theorem Sql.Datum.text_of_render {datum : Datum} {value : String}
    (same : datum.render = (Datum.text value).render) : datum = .text value := by
  have family : datum.family = .text := by
    rw [← Datum.readFamily_render, same, Datum.readFamily_render]
    rfl
  cases datum with
  | text other =>
      have texts := congrArg String.toList same
      rw [Datum.toList_render_text, Datum.toList_render_text] at texts
      rw [String.toList_inj.mp (List.append_cancel_right (List.cons.inj texts).2)]
  | _ => contradiction

/-- In steps of one description, strings without quotes are encoded in the same places, against
dictionaries of the same ids. -/
theorem Plan.QueryStep.IsQuoteFree.encodes {step other : QueryStep} (free : step.IsQuoteFree)
    (otherFree : other.IsQuoteFree) (same : other.cacheDescription = step.cacheDescription)
    {place : Nat} {constant : Constant} (listed : step.constants[place]? = some constant)
    {value : String} (encodes : constant.Encodes value) :
    ∃ found, other.constants[place]? = some found ∧ found.Encodes value ∧
      found.type.parameter = constant.type.parameter := by
  have texts := other.constants_outline
  rw [Plan.outline_of_cacheDescription otherFree free same, step.constants_outline] at texts
  have atPlace := congrArg (·[place]?) texts
  simp only [List.getElem?_map, listed, Option.map_some] at atPlace
  rcases Option.map_eq_some_iff.mp atPlace.symm with ⟨found, foundEq, shown⟩
  rcases Prod.mk.inj shown with ⟨payloads, types⟩
  have alike := DataType.alike_of_render types
  refine ⟨found, foundEq, ⟨?_, ?_, ?_⟩, ?_⟩
  · rw [DataType.isString, alike.kind]
    exact encodes.isString
  · rw [alike.encoding]
    exact encodes.encoding
  · rw [encodes.datum] at payloads
    exact Datum.text_of_render payloads
  · exact alike.dictionary (alike.encoding.trans encodes.encoding)

/-! ### Current kernels -/

namespace Kernel

/-- On every device the entry at the place is the number. -/
def Answers (kernel : Kernel) (place : Nat) (number : Int32) : Prop :=
  ∀ device < kernel.devices, ∃ output, kernel.run device = .ok output ∧
    output[place]? = some [.int 32 number.toInt64]

/-- On every device the entry at the place is an id that decodes to the string, in the dictionary
that is bound to the id of the dictionary now. -/
def IsCurrent (kernel : Kernel) (registry : Registry) (place : Nat) (dictionary : Int32)
    (value : String) : Prop :=
  ∀ device < kernel.devices, ∃ output number, kernel.run device = .ok output ∧
    output[place]? = some [.int 32 number.toInt64] ∧
    registry.string? dictionary number = some value

section Answers

variable {kernel : Kernel} {place : Nat} {number : Int32} (answers : kernel.Answers place number)

include answers

/-- A number is current if and only if it decodes to the string. -/
theorem Answers.isCurrent_iff (inhabited : 0 < kernel.devices) {registry : Registry}
    {dictionary : Int32} {value : String} :
    kernel.IsCurrent registry place dictionary value ↔
      registry.string? dictionary number = some value := by
  constructor
  · intro current
    rcases current 0 inhabited with ⟨output, found, ran, entry, decoded⟩
    rcases answers 0 inhabited with ⟨again, ranAgain, answered⟩
    rw [ran] at ranAgain
    cases ranAgain
    rw [entry] at answered
    have same : found.toInt64 = number.toInt64 :=
      (Ir.RuntimeValue.int.inj (List.cons.inj (Option.some.inj answered)).1).2
    have number : found = number := by
      apply Int32.toInt_inj.mp
      rw [← Int32.toInt_toInt64, same, Int32.toInt_toInt64]
    rw [number] at decoded
    exact decoded
  · intro decoded device inside
    rcases answers device inside with ⟨output, ran, entry⟩
    exact ⟨output, number, ran, entry, decoded⟩

end Answers

/-- A kernel that runs as literals answers with an id where one of them is the id. -/
theorem RunsAs.answers {kernel : Kernel} {literals : List Literal} (runs : kernel.RunsAs literals)
    {place : Nat} {number : Int32} (listed : literals[place]? = some (.int32 number)) :
    kernel.Answers place number := by
  intro device inside
  rcases runs device inside with ⟨image, output, -, ran, readBy⟩
  rcases exists_at_place readBy listed with ⟨values, entry, reads⟩
  have scalar : values = [.int 32 number.toInt64] := reads (by simp [Literal.nullByte])
  exact ⟨output, ran, scalar ▸ entry⟩

end Kernel

namespace Executor

/-- A kernel that was built answers, where a string is encoded, with the id of the string. -/
theorem build_answers [Hash.Digest] {settings : Settings} {registry after : Registry}
    {step : QueryStep} {options : CompileOptions} {kernel : Kernel} (valid : after.Valid)
    (built : build settings registry step options = (.ok kernel, after)) {place : Nat}
    {constant : Constant} (listed : step.constants[place]? = some constant) {value : String}
    (encodes : constant.Encodes value) :
    ∃ number, after.issued? constant.type.parameter value = some number ∧
      kernel.Answers place number := by
  rcases build_runs built with ⟨-, literals, become, runs⟩
  rcases exists_at_place become listed with ⟨literal, literalAt, becomes⟩
  rcases encodes.literal valid becomes with ⟨number, known, rfl⟩
  exact ⟨number, known, runs.answers literalAt⟩

/-- A kernel answers with the ids that strings had at its origin, also for another step of its
description if no string of the two has a quote inside. -/
theorem Origin.Of.answers [Hash.Digest] {origin : Origin} {executor : Executor}
    {history : List Event} {kernel : Kernel} (stems : origin.Of executor history kernel)
    (valid : executor.registry.Valid) {step : QueryStep}
    (same : origin.step.cacheDescription = step.cacheDescription)
    (readable : origin.step = step ∨ step.IsQuoteFree ∧ origin.step.IsQuoteFree) {place : Nat}
    {constant : Constant} (listed : step.constants[place]? = some constant) {value : String}
    (encodes : constant.Encodes value) :
    ∃ number, (executor.after origin.past).registry.issued? constant.type.parameter value =
      some number ∧ kernel.Answers place number := by
  have validThen := after_valid valid origin.past
  rcases readable with rfl | ⟨free, originFree⟩
  · exact build_answers validThen stems.built listed encodes
  · rcases free.encodes originFree same listed encodes with
      ⟨found, foundAt, foundEncodes, parameter⟩
    rw [← parameter]
    exact build_answers validThen stems.built foundAt foundEncodes

/-- After any events, unless keys of different descriptions collide: the kernel that a step gets was
built for a request of the description, at its origin. If that was for the step itself, or if no
string of the two steps has a quote inside, then the id of an encoded string is current if and only
if the dictionary that is bound to its id now has the same id for the string as the one that was
bound at the origin, and so it is if they are one dictionary. -/
theorem ids_are_current_iff [Hash.Digest] {executor : Executor}
    (empty : executor.cache.entries = []) (valid : executor.registry.Valid) (events : List Event)
    {step : QueryStep} {requested : CompileOptions}
    (distinct : executor.Uncollided events step requested)
    {issued : Issued} (success : ((executor.after events).compile step requested).1 = .ok issued)
    (few : ∀ handle, (((executor.after events).compile step requested).2.registry.dictionary
      handle).size ≤ 2 ^ 31) :
    let now := ((executor.after events).compile step requested).2.registry
    ∃ origin : Origin,
      origin.Of executor (events ++ [.compile step requested]) issued.kernel ∧
      origin.step.cacheDescription = step.cacheDescription ∧
      let built := (executor.after origin.past).registry
      (origin.step = step ∨ step.IsQuoteFree ∧ origin.step.IsQuoteFree →
        ∀ place constant value, step.constants[place]? = some constant →
          constant.Encodes value →
          (issued.kernel.IsCurrent now place constant.type.parameter value ↔
            now.issued? constant.type.parameter value =
              built.issued? constant.type.parameter value) ∧
          (now.handle? constant.type.parameter = built.handle? constant.type.parameter →
            issued.kernel.IsCurrent now place constant.type.parameter value)) := by
  intro now
  rcases exists_origin_of_success empty distinct success with ⟨origin, stems, description, -⟩
  refine ⟨origin, stems, description, ?_⟩
  intro built readable place constant value listed encodes
  have reached : now = (executor.after (events ++ [.compile step requested])).registry := by
    rw [after_compile]
  have validNow : now.Valid := by
    rw [reached]
    exact after_valid valid _
  obtain ⟨number, known, answers⟩ : ∃ number,
      built.issued? constant.type.parameter value = some number ∧
        issued.kernel.Answers place number :=
    stems.answers valid description readable listed encodes
  have current := @answers.isCurrent_iff _ _ _ (build_runs stems.built).1 now
    constant.type.parameter value
  rw [← validNow.issued?_iff few, ← known] at current
  refine ⟨current, fun bound => ?_⟩
  have evolves : built.Evolves now := by
    rw [reached]
    exact stems.evolves
  rw [current, known]
  exact evolves.issued? bound known

theorem ids_are_current_iff_registered :
    let executor : Executor := { settings := {}, registry := {}, cache := { capacity := 2 } }
    let events : List Event := [.register 1 ["a"]]
    let step : QueryStep := { targets := [.constant (.encodedText "b" 1)] }
    ∃ issued, ((executor.after events).compile step {}).1 = .ok issued ∧
      issued.kernel.IsCurrent ((executor.after events).compile step {}).2.registry 0 1 "b" := by
  intro executor events step
  have missed : (executor.after events).cache.get
      (cacheKey step ((executor.after events).effectiveOptions step {})) = none :=
    get_of_empty rfl _
  obtain ⟨kernel, success⟩ : ∃ kernel,
      ((executor.after events).compile step {}).1 = .ok ⟨0, kernel⟩ :=
    exists_compiled_of_build rfl (by decide +kernel)
  have registry : ((executor.after events).compile step {}).2.registry =
      ⟨#[⟨#["a", "b"]⟩], [(1, 0)]⟩ := by
    rw [compile_registry_of_miss missed]
    decide +kernel
  have few : ∀ handle, (((executor.after events).compile step {}).2.registry.dictionary
      handle).size ≤ 2 ^ 31 := by
    rw [registry]
    intro handle
    cases handle with
    | zero => decide
    | succ next => simp [Registry.dictionary, Dictionary.size]
  have distinct : executor.Uncollided events step {} := by
    intro other wanted asked
    cases List.mem_singleton.mp asked
  rcases ids_are_current_iff rfl Registry.Valid.empty events distinct success few
    with ⟨origin, stems, -, current⟩
  -- The kernel was built for the only request there is.
  have itself : origin.step = step := by
    rcases List.mem_append.mp stems.asked with earlier | last
    · cases List.mem_singleton.mp earlier
    · exact (compile_mem_singleton.mp last).1
  refine ⟨_, success, (current (.inl itself) 0 _ "b" rfl ⟨rfl, rfl, rfl⟩).2 ?_⟩
  have sole : origin.past = events ++ [.compile step {}] := by
    have split := stems.split
    rcases origin with ⟨front, other, wanted, back⟩
    rcases front with _ | ⟨first, _ | ⟨second, rest⟩⟩
    · cases (List.cons.inj split).1
    · have ended : [] = back := (List.cons.inj (List.cons.inj split).2).2
      rw [← ended, List.append_nil] at split
      exact split.symm
    · have lengths := congrArg List.length split
      simp [events, Origin.past] at lengths
  rw [sole]
  rfl

/-- Where a string with a quote inside looks like others in a description, a step gets the kernel
of another, with ids of strings that are not its own. No dictionary is replaced and no key
collides. -/
theorem ids_are_not_always_current :
    ∃ (executor : Executor) (events : List Event) (step : QueryStep) (issued : Issued)
      (constant : Constant),
      executor.cache.entries = [] ∧ executor.registry.Valid ∧ executor.Lasting events ∧
      (∀ other wanted, .compile other wanted ∈ events →
        keyDescription other (executor.effectiveOptions other wanted) =
          keyDescription step (executor.effectiveOptions step {})) ∧
      ((executor.after events).compile step {}).1 = .ok issued ∧
      step.constants[0]? = some constant ∧ constant.Encodes "a" ∧
      ¬ issued.kernel.IsCurrent ((executor.after events).compile step {}).2.registry 0
        constant.type.parameter "a" := by
  let executor : Executor :=
    { settings := {}, registry := ({} : Registry).register 1 {}, cache := { capacity := 2 } }
  let one : QueryStep := { targets := [
    .constant (.encodedText "a' TEXT ENCODING DICT(1)), (Const 'b" 1),
    .constant (.encodedText "c" 1)] }
  let two : QueryStep := { targets := [
    .constant (.encodedText "a" 1),
    .constant (.encodedText "b' TEXT ENCODING DICT(1)), (Const 'c" 1)] }
  have description : one.cacheDescription = two.cacheDescription :=
    Plan.cacheDescription_congr_targets {} (by decide +kernel)
  obtain ⟨kernel, built⟩ : ∃ kernel,
      (build executor.settings executor.registry one {}).1 = .ok kernel :=
    exists_of_toBool (by decide +kernel)
  have strings : (build executor.settings executor.registry one {}).2 =
      ⟨#[⟨#["a' TEXT ENCODING DICT(1)), (Const 'b", "c"]⟩], [(1, 0)]⟩ := by decide +kernel
  have whole : build executor.settings executor.registry one {} = (.ok kernel, _) :=
    Prod.ext built strings
  rcases @compile_of_built _ executor rfl one two {} description rfl kernel _ whole with
    ⟨success, registry⟩
  refine ⟨executor, [.compile one {}], two, ⟨0, kernel⟩, .encodedText "a" 1, rfl,
    Registry.Valid.empty.register 1 (Dictionary.ofList_distinct []), ⟨id, trivial⟩,
    keyDescription_of_mem_singleton description rfl, success, rfl, ⟨rfl, rfl, rfl⟩, ?_⟩
  intro current
  rcases current 0 (build_runs whole).1 with ⟨-, number, -, -, decoded⟩
  rw [registry] at decoded
  have inOther : Dictionary.string? ⟨#["a' TEXT ENCODING DICT(1)), (Const 'b", "c"]⟩ number =
      some "a" := decoded
  rcases Dictionary.string?_eq_some_iff.mp inOther with ⟨place, -, -, stands⟩
  exact absurd (Array.mem_of_getElem? stands) (by simp)

/-- Where a dictionary is replaced by an empty one, a step gets the kernel that it got before, and
no id in it is current. -/
theorem replaced_dictionaries_leave_stale_ids [Hash.Digest] {executor : Executor}
    (empty : executor.cache.entries = []) (events : List Event) {step : QueryStep}
    {requested : CompileOptions} {issued : Issued}
    (success : ((executor.after events).compile step requested).1 = .ok issued)
    (dictionary : Int32) :
    let replaced := executor.after
      (events ++ [.compile step requested, .register dictionary []])
    (replaced.compile step requested).1 = .ok issued ∧
      ∀ place value, ¬ issued.kernel.IsCurrent (replaced.compile step requested).2.registry place
        dictionary value := by
  intro replaced
  rcases get_of_compile success with ⟨later, found⟩
  have state : replaced = (executor.after (events ++ [.compile step requested])).undergo
      (.register dictionary []) := by
    rw [← after_concat, List.append_assoc]
    rfl
  have hit : replaced.compile step requested = (.ok issued, { replaced with cache := later }) := by
    apply compile_of_hit
    rw [effectiveOptions_after] at found ⊢
    rw [state, after_compile]
    exact found
  rw [hit]
  refine ⟨rfl, fun place value current => ?_⟩
  have inhabited : 0 < issued.kernel.devices := by
    have cached := CodeCache.mem_of_get found
    rw [← after_compile] at cached
    rcases exists_origin empty _ cached with ⟨-, origin, stems⟩
    exact (build_runs stems.built).1
  rcases current 0 inhabited with ⟨-, number, -, -, decoded⟩
  have unknown : replaced.registry.string? dictionary number = none := by
    rw [state]
    show ((executor.after _).registry.register dictionary (.ofList [])).string? _ _ = none
    rw [Registry.string?, Registry.handle?_register, if_pos rfl, Option.bind_some,
      Registry.dictionary_register, if_pos rfl]
    simp [Dictionary.ofList, Dictionary.string?]
  rw [unknown] at decoded
  contradiction

end Executor

end QueryKernel
