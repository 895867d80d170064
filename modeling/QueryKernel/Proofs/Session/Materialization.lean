import QueryKernel.Proofs.Session.Decoding
import QueryKernel.Proofs.Session.Registration

/-!
Contract: decoding a registered literal once and reloading its globals.

Owns:
- the literal of a constant fits the code that is emitted for its type;
- materialization under new names, and reloading of a known offset, as equations;
- operands that load globals, and their values in a solution of the code.

Does not own: why the names of a new literal are new.
-/

namespace QueryKernel

open QueryKernel.Ir (Module Operand Frame RuntimeValue Ty)
open QueryKernel.Sql (Constant DataType)
open QueryKernel.Dictionary (Registry)

/-! ### Literals and types -/

/-- A null of a boolean type without nulls. -/
def Sql.Constant.isNullTruth (constant : Constant) : Bool :=
  constant.type.isBoolean && constant.type.notNull && constant.isNull

namespace Session

/-- Whether constants of a type become unencoded strings. -/
def isUnencoded (type : DataType) (encoding : StringEncoding) : Bool :=
  type.isString && encoding.encoding != .dictionary

/-- A type is a string type exactly when it is stored as one. -/
theorem isString_eq_storage (type : DataType) : type.isString = type.storage.isString := by
  by_cases decimal : type.isDecimal
  · have kind : type.kind = .decimal := by simpa [DataType.isDecimal] using decimal
    rw [DataType.isString, kind, DataType.storage, if_pos decimal, DataType.decimalStorage]
    split
    · rfl
    · split <;> rfl
  · rw [DataType.storage, if_neg decimal]
    rfl

theorem stringLiteral_fits {constant : Constant} {encoding : StringEncoding}
    {registry after : Registry} {literal : Literal} (isString : constant.type.isString = true)
    (made : stringLiteral constant encoding registry = .ok (literal, after)) :
    Fits constant.type literal (isUnencoded constant.type encoding) := by
  have storage := isString_eq_storage constant.type
  rw [isString] at storage
  have width : constant.type.bitWidth = .ok 32 := by
    unfold DataType.bitWidth
    cases kind : constant.type.storage <;> first | rfl | (rw [kind] at storage; contradiction)
  have scalar : scalarType constant.type 32 = .int 32 := by
    unfold scalarType
    cases kind : constant.type.storage <;> first | rfl | (rw [kind] at storage; contradiction)
  have word : ∀ id : Int32, Fits constant.type (.int32 id) false :=
    fun id => .scalar width rfl scalar.symm
  unfold stringLiteral at made
  cases mode : encoding.encoding with
  | dictionary =>
      have encoded : isUnencoded constant.type encoding = false := by
        rw [isUnencoded, isString, mode]
        rfl
      rw [encoded]
      simp only [mode] at made
      split at made
      · cases made
        exact word _
      · obtain ⟨handle, -, rest⟩ := bind_eq_ok.mp made
        obtain ⟨value, -, same⟩ := bind_eq_ok.mp rest
        cases same
        exact word _
  | plain =>
      have unencoded : isUnencoded constant.type encoding = true := by
        rw [isUnencoded, isString, mode]
        rfl
      rw [unencoded]
      simp only [mode] at made
      split at made
      · cases made
        exact .text ""
      · obtain ⟨value, -, rest⟩ := bind_eq_ok.mp made
        split at rest
        · contradiction
        · cases rest
          exact .text value

theorem literalOf_of_isString {constant : Constant}
    (string : constant.type.storage.isString = true) (encoding : StringEncoding)
    (registry : Registry) :
    literalOf constant encoding registry = stringLiteral constant encoding registry := by
  unfold literalOf
  cases kind : constant.type.storage <;> first | rfl | (rw [kind] at string; contradiction)

/-- The literal of a constant fits the code for its type. -/
theorem literalOf_fits {constant : Constant} {encoding : StringEncoding}
    {registry after : Registry} {literal : Literal}
    (made : literalOf constant encoding registry = .ok (literal, after)) :
    Fits constant.type literal (isUnencoded constant.type encoding) := by
  have isString := isString_eq_storage constant.type
  by_cases string : constant.type.storage.isString
  · rw [string] at isString
    rw [literalOf_of_isString string] at made
    exact stringLiteral_fits isString made
  · have encoded : isUnencoded constant.type encoding = false := by
      rw [isUnencoded, isString, Bool.eq_false_iff.mpr string]
      rfl
    rw [encoded]
    unfold literalOf at made
    cases kind : constant.type.storage
    case char | varchar | text => rw [kind] at string; exact absurd rfl string
    all_goals
      simp only [kind] at made
    case array | point | decimal => contradiction
    case boolean =>
      obtain ⟨found, foundEq, same⟩ := bind_eq_ok.mp made
      cases same
      have width : constant.type.bitWidth = .ok 8 := by rw [DataType.bitWidth, kind]
      have scalar : scalarType constant.type 8 = .int 8 := by rw [scalarType, kind]
      unfold booleanLiteral at foundEq
      split at foundEq
      · obtain ⟨value, -, same⟩ := bind_eq_ok.mp foundEq
        cases same
        exact .scalar width rfl scalar.symm
      · obtain ⟨value, -, same⟩ := bind_eq_ok.mp foundEq
        split at same
        · cases same
          exact .scalar width rfl scalar.symm
        · cases same
          exact .scalar width rfl scalar.symm
    case float | double =>
      split at made
      all_goals
        obtain ⟨found, -, same⟩ := bind_eq_ok.mp made
        cases same
        refine .scalar (by rw [DataType.bitWidth, kind]) rfl ?_
        rw [scalarType, kind]
        rfl
    all_goals
      obtain ⟨found, -, same⟩ := bind_eq_ok.mp made
      cases same
      refine .scalar (by rw [DataType.bitWidth, kind]) rfl ?_
      rw [scalarType, kind]
      rfl

/-- Only a boolean is stored in eight bits. -/
theorem isBoolean_of_width {type : DataType} (width : type.bitWidth = .ok 8) :
    type.isBoolean = true := by
  have storage : type.storage = .boolean := by
    unfold DataType.bitWidth at width
    split at width
    · assumption
    all_goals simp at width
  by_cases decimal : type.isDecimal
  · rw [DataType.storage, if_pos decimal, DataType.decimalStorage] at storage
    split at storage
    · contradiction
    · split at storage <;> contradiction
  · rw [DataType.storage, if_neg decimal] at storage
    rw [DataType.isBoolean, storage]
    rfl

/-- Apart from a null of a boolean type without nulls, the code for the type of a constant
decodes its literal to the literal's own type. -/
theorem literalOf_ownTypes {constant : Constant} {encoding : StringEncoding}
    {registry after : Registry} {literal : Literal} (regular : constant.isNullTruth = false)
    (made : literalOf constant encoding registry = .ok (literal, after)) :
    decodedTypes constant.type (isUnencoded constant.type encoding) = literal.ownTypes := by
  have fits := literalOf_fits made
  generalize isUnencoded constant.type encoding = isText at fits
  cases fits with
  | text value => rfl
  | scalar width loaded sameType =>
      rename_i bits value
      have types : decodedTypes constant.type false = [decodedType constant.type bits] := by
        rw [decodedTypes, width]
        rfl
      rw [types, decodedType_of_bitWidth width, ← sameType]
      by_cases isBoolean : constant.type.isBoolean
      · -- The literal of a boolean is a truth value just if its type has no nulls.
        have storage := storage_of_isBoolean isBoolean
        simp only [literalOf, storage] at made
        obtain ⟨found, foundEq, same⟩ := bind_eq_ok.mp made
        cases same
        unfold booleanLiteral at foundEq
        split at foundEq
        · rename_i isNull
          have nullable : constant.type.notNull = false := by
            simpa [Constant.isNullTruth, isBoolean, isNull] using regular
          obtain ⟨null, -, same⟩ := bind_eq_ok.mp foundEq
          cases same
          cases loaded
          rw [nullable, Bool.and_false]
          rfl
        · obtain ⟨truth, -, same⟩ := bind_eq_ok.mp foundEq
          split at same
          · rename_i notNull
            cases same
            rw [isBoolean, notNull]
            rfl
          · rename_i nullable
            cases same
            cases loaded
            rw [Bool.eq_false_iff.mpr nullable, Bool.and_false]
            rfl
      · rw [Bool.eq_false_iff.mpr isBoolean, Bool.false_and, if_neg (by decide)]
        cases literal with
        | bool truth =>
            cases loaded
            have eight : bits = 8 := by
              change Ty.int 8 = scalarType constant.type bits at sameType
              unfold scalarType at sameType
              split at sameType
              · cases sameType
              · cases sameType
              · exact (Ty.int.inj sameType).symm
            exact absurd (isBoolean_of_width (eight ▸ width)) isBoolean
        | text value => contradiction
        | _ =>
            cases loaded
            rfl

end Session

/-! ### Loads of globals -/

namespace Ir.Module

def loadAll (code : Module) : List Nat → List Operand × Module
  | [] => ([], code)
  | global :: rest =>
      let (value, code) := code.loadGlobal .body global
      let (others, code) := code.loadAll rest
      (value :: others, code)

/-- Operands that are body loads of globals. -/
def Loads (code : Module) (operands : List Operand) (globals : List Nat) : Prop :=
  List.Forall₂
    (fun operand global => ∃ line type, operand = .result line type ∧
      code.recorded line = some (.body, .loadGlobal global)) operands globals

theorem Loads.mono {before after : Module} (grows : Extends before after)
    {operands : List Operand} {globals : List Nat} (loads : before.Loads operands globals) :
    after.Loads operands globals :=
  loads.imp fun _ _ ⟨line, type, same, atLine⟩ => ⟨line, type, same, grows.lines line _ atLine⟩

@[simp] theorem loadAll_globals (code : Module) (globals : List Nat) :
    (code.loadAll globals).2.globals = code.globals := by
  induction globals generalizing code with
  | nil => rfl
  | cons global rest inductionHypothesis =>
      exact inductionHypothesis (code.loadGlobal .body global).2

/-- Loads have the types of the globals. -/
theorem loadAll_types (code : Module) (globals : List Nat) :
    (code.loadAll globals).1.map Operand.type = globals.map code.globalType := by
  induction globals generalizing code with
  | nil => rfl
  | cons global rest inductionHypothesis =>
      exact congrArg (code.globalType global :: ·)
        (inductionHypothesis (code.loadGlobal .body global).2)

theorem loadAll_loads {code : Module} {globals : List Nat}
    (stored : ∀ global ∈ globals, code.Stores global) :
    Lengthened code (code.loadAll globals).2 ∧
      (code.loadAll globals).2.Loads (code.loadAll globals).1 globals := by
  induction globals generalizing code with
  | nil => exact ⟨.refl code, .nil⟩
  | cons global rest inductionHypothesis =>
      have admits : code.Admits .body (.loadGlobal global) := by
        refine ⟨by simp [Instruction.operands], fun other same => ?_, by simp⟩
        cases same
        exact ⟨rfl, stored global List.mem_cons_self⟩
      have line : Lengthened code (code.loadGlobal .body global).2 :=
        .push (code.globalType global) admits
      obtain ⟨others, loads⟩ := @inductionHypothesis (code.loadGlobal .body global).2
        fun other member => (stored other (List.mem_cons_of_mem _ member)).mono line.grows
      refine ⟨line.trans others, .cons ?_ loads⟩
      refine ⟨code.lines.size, code.globalType global, rfl, others.grows.lines _ _ ?_⟩
      exact (push_recorded code .body _ _ _).trans (if_pos rfl)

end Ir.Module

namespace Ir.Frame

theorem loadAll_solves {frame : Frame} {code : Module} {image : Array UInt8}
    (solves : frame.Solves code image) {globals : List Nat}
    (filled : ∀ global ∈ globals, ∃ value, frame.globals[global]? = some (some value)) :
    ∃ next, frame.Continues next (code.loadAll globals).2 image := by
  induction globals generalizing frame code with
  | nil => exact ⟨frame, .refl frame, solves, rfl⟩
  | cons global rest inductionHypothesis =>
      obtain ⟨value, atGlobal⟩ := filled global List.mem_cons_self
      obtain ⟨partway, first, -⟩ := solves.pushed .body (code.globalType global)
        (compute_loadGlobal atGlobal) (by simp)
      obtain ⟨next, others⟩ := inductionHypothesis first.solves fun other member => by
        rw [first.globals]
        exact filled other (List.mem_cons_of_mem _ member)
      exact ⟨next, first.trans others⟩

/-- In a solution, operands that load globals have the values of the globals. -/
theorem Solves.resolve_loads {frame : Frame} {code : Module} {image : Array UInt8}
    (solves : frame.Solves code image) {operands : List Operand} {globals : List Nat}
    (loads : code.Loads operands globals) {contents : List RuntimeValue}
    (filled : List.Forall₂ (fun global content => frame.globals[global]? = some (some content))
      globals contents) :
    operands.mapM frame.resolve = .ok contents := by
  rw [mapM_eq_ok]
  induction loads generalizing contents with
  | nil =>
      cases filled
      exact .nil
  | cons load _ inductionHypothesis =>
      cases filled with
      | cons atGlobal rest =>
          obtain ⟨line, type, rfl, atLine⟩ := load
          refine .cons ?_ (inductionHypothesis rest)
          obtain ⟨result, computed, atResult⟩ := (solves.satisfies line _ _ atLine).result
          rw [compute_loadGlobal atGlobal] at computed
          cases computed
          simp only [resolve, atResult]

end Ir.Frame

/-! ### The table of decoded literals -/

namespace Session

/-- The table with one more literal. -/
def MaterializedTable.extended (table : MaterializedTable) (offset : Nat)
    (globals : Materialized) : MaterializedTable :=
  ⟨table.entries ++ [(offset, globals)]⟩

theorem MaterializedTable.get?_extended {table : MaterializedTable} {offset : Nat}
    (unknown : table.get? offset = none) (globals : Materialized) (sought : Nat) :
    (table.extended offset globals).get? sought =
      if sought = offset then some globals else table.get? sought := by
  unfold extended get? at *
  rw [List.lookup_append]
  by_cases same : sought = offset
  · simp [same, unknown]
  · have differs : (sought == offset) = false := beq_false_of_ne same
    rw [if_neg same, List.lookup_cons, differs]
    simp

/-- Materialization extends the table where decoding succeeds. -/
theorem materialize_of_decode {session : Session} {type : DataType} {offset : Nat} {isText : Bool}
    (unknown : session.table.get? offset = none) {globals : Materialized} {code : Module}
    (success : (if isText then decodeString session.code offset
      else decodeScalar session.code type offset) = (.ok globals, code)) :
    session.materialize type offset isText =
      (.ok (), { session with code, table := session.table.extended offset globals }) := by
  unfold materialize
  rw [success]
  simp only [MaterializedTable.insert, unknown]
  rfl

/-- Materialization under new names. -/
theorem materialize_eq {session : Session} {type : DataType} {offset : Nat} {isText : Bool}
    (unknown : session.table.get? offset = none) (fresh : Fresh session.code offset isText)
    {literal : Literal} (fits : Fits type literal isText) :
    ∃ globals code,
      session.materialize type offset isText =
        (.ok (), { session with code, table := session.table.extended offset globals }) ∧
      Decoded type offset isText session.code code globals (decodedTypes type isText) := by
  obtain ⟨globals, code, success, decoded⟩ := decode_decoded fresh fits
  exact ⟨globals, code, materialize_of_decode unknown success, decoded⟩

/-- Reloading the literal of a known offset, in its own shape. -/
theorem reload_eq {session : Session} {offset : Nat} {globals : Materialized}
    (known : session.table.get? offset = some globals) :
    session.reload offset globals.isText =
      .ok ((session.code.loadAll globals.globals).1,
        { session with code := (session.code.loadAll globals.globals).2 }) := by
  unfold reload
  rw [known]
  cases globals <;> rfl

/-- A reload that succeeds finds the literal in the wanted shape. -/
theorem reload_eq_ok {session after : Session} {offset : Nat} {isText : Bool}
    {operands : List Operand} (reloaded : session.reload offset isText = .ok (operands, after)) :
    ∃ globals, session.table.get? offset = some globals ∧ globals.isText = isText ∧
      operands = (session.code.loadAll globals.globals).1 ∧
      after = { session with code := (session.code.loadAll globals.globals).2 } := by
  cases known : session.table.get? offset with
  | none =>
      unfold reload at reloaded
      rw [known] at reloaded
      contradiction
  | some globals =>
      by_cases shape : globals.isText = isText
      · subst shape
        rw [reload_eq known] at reloaded
        cases reloaded
        exact ⟨globals, rfl, rfl, rfl, rfl⟩
      · unfold reload at reloaded
        rw [known] at reloaded
        cases globals <;> cases isText <;> simp [Materialized.isText] at shape reloaded

end Session

end QueryKernel
