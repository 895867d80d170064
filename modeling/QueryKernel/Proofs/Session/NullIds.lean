import QueryKernel.Proofs.Dictionary.Numbering
import QueryKernel.Proofs.Session.Carrying
import QueryKernel.Proofs.Text.Tokens

/-!
Contract: which strings of a dictionary can be told from a null.

The id of a string is its place in the dictionary, cast to 32 bits with a sign, and a null has the
least of these numbers as its id. The first 2 ^ 31 places are cast to ids that are not negative and
decode to their strings. The place behind them is cast to the id of the nulls.

Owns:
- the place of a string in the dictionary that is bound to an id, and when its id decodes to it;
- the literal of a string in a dictionary encoding, and that of a null;
- operands that yield an id on every device, whatever is generated behind them;
- the main statement: a string is told from a null, and decoded, if and only if its place is one of
  the first 2 ^ 31.

Does not own: the order in which strings get their places.
-/

namespace QueryKernel

open QueryKernel.Ir (Module Operand)
open QueryKernel.Sql (Constant)
open QueryKernel.Dictionary (Registry)

/-! ### Places and ids -/

namespace Dictionary

/-- Among the places, every 2 ^ 32nd has the id of the nulls. -/
theorem ofNat_eq_nullId_iff (place : Nat) :
    Int32.ofNat place = Sql.nullId ↔ place % 2 ^ 32 = 2 ^ 31 := by
  have least : Sql.nullId.toInt = -2 ^ 31 := by decide
  have words : ((Int32.size : Nat) : Int) = 2 ^ 32 := rfl
  rw [← Int32.toInt_inj, least, Int32.toInt_ofNat', Int.bmod_def, words]
  omega

theorem ofNat_ne_nullId {place : Nat} (small : place < 2 ^ 31) :
    Int32.ofNat place ≠ Sql.nullId := by
  rw [Ne, ofNat_eq_nullId_iff]
  omega

/-- A string is decoded from its id if its place is small enough, and from no id otherwise. -/
theorem Distinct.string?_of_place? {dictionary : Dictionary} (distinct : dictionary.Distinct)
    {value : String} {place : Nat} (placed : dictionary.place? value = some place) :
    dictionary.string? (Int32.ofNat place) = some value ↔ place < 2 ^ 31 := by
  constructor
  · intro decoded
    rcases string?_eq_some_iff.mp decoded with ⟨other, small, -, stands⟩
    rw [distinct.place?_eq_some_iff.mpr stands] at placed
    exact Option.some.inj placed ▸ small
  · intro small
    rw [string?_ofNat small]
    exact getElem?_of_place? placed

/-- A string behind others, all of them different, has their number as its place. -/
theorem idOf_ofList_of_new {values : List String} (nodup : values.Nodup) {value : String}
    (new : value ∉ values) : ((ofList values).idOf value).1 = Int32.ofNat values.length := by
  have strings : (ofList values).strings.toList = values := by
    rw [strings_ofList, firsts, List.dedup_eq_self.mpr (List.nodup_reverse.mpr nodup),
      List.reverse_reverse]
  have unplaced : (ofList values).place? value = none := by
    rw [place?_eq_none_iff, ← Array.mem_toList_iff, strings]
    exact new
  rw [idOf_of_unplaced unplaced, size, ← Array.length_toList, strings]

/-- Behind the numerals up to 2 ^ 31, the next one has the id of the nulls. -/
theorem numerals_reach_nullId :
    ((ofList ((List.range (2 ^ 31)).map toString)).idOf (toString (2 ^ 31))).1 = Sql.nullId := by
  have injective : Function.Injective (toString : Nat → String) := fun left right same =>
    Text.toString_nat_injective (congrArg String.toList same)
  have new : toString (2 ^ 31) ∉ (List.range (2 ^ 31)).map toString := by
    rw [List.mem_map_of_injective injective, List.mem_range]
    exact Nat.lt_irrefl _
  rw [idOf_ofList_of_new (List.nodup_range.map injective) new, List.length_map, List.length_range]
  exact (ofNat_eq_nullId_iff _).mpr rfl

namespace Registry

/-- The place of a string in the dictionary bound to an id. -/
def place? (registry : Registry) (id : Int32) (value : String) : Option Nat :=
  (registry.handle? id).bind fun handle => (registry.dictionary handle).place? value

/-- Behind its insertion a string has a place, for which its id stands. -/
theorem Valid.exists_place {registry : Registry} (valid : registry.Valid) {id : Int32}
    {handle : Nat} (found : registry.find id = .ok handle) (value : String) :
    ∃ place, (registry.idOf handle value).2.place? id value = some place ∧
      (registry.idOf handle value).1 = Int32.ofNat place := by
  have held := valid.bound id handle (find_eq_ok.mp found)
  have bound := (idOf_grows registry handle value).keeps id handle (find_eq_ok.mp found)
  rcases (registry.dictionary handle).exists_place value with ⟨place, placed, issued⟩
  refine ⟨place, ?_, issued⟩
  rw [Registry.place?, bound, Option.bind_some, idOf_dictionary held]
  exact placed

/-- Whether the id of a string decodes to it is settled once it has its place. -/
theorem Valid.string?_of_place? {before after : Registry} (valid : before.Valid)
    (evolves : before.Evolves after) (keeps : before.Keeps after) {id : Int32} {value : String}
    {place : Nat} (placed : before.place? id value = some place) :
    after.string? id (Int32.ofNat place) = some value ↔ place < 2 ^ 31 := by
  rcases Option.bind_eq_some_iff.mp placed with ⟨handle, bound, stands⟩
  have grows := evolves.dictionary handle
  rw [Registry.string?, keeps id handle bound, Option.bind_some]
  exact (grows.distinct (valid.distinct handle)).string?_of_place? (grows.place? stands)

end Registry

end Dictionary

namespace Session

/-! ### The literal of an encoded string -/

/-- A call for a string, or for a null, in a dictionary encoding. -/
structure Call.Encoded (call : Call) : Prop where
  string : call.constant.type.storage.isString = true
  mode : call.encoding.encoding = .dictionary

section Encoded

variable {call : Call} (encoded : call.Encoded)

include encoded

/-- A null needs no dictionary. -/
theorem Call.Encoded.literalOf_null (isNull : call.constant.isNull = true) :
    literalOf call.constant call.encoding call.registry =
      .ok (.int32 Sql.nullId, call.registry) := by
  rw [literalOf_of_isString encoded.string, stringLiteral, encoded.mode]
  simp only [isNull, if_true, Registry.nullId_eq]
  rfl

theorem Call.Encoded.literalOf_text {value : String} {handle : Nat} {id : Int32} {known : Registry}
    (datum : call.constant.datum = .text value)
    (found : call.registry.find call.encoding.dictionary = .ok handle)
    (inserted : call.registry.idOf handle value = (id, known)) :
    literalOf call.constant call.encoding call.registry = .ok (.int32 id, known) := by
  have given : call.constant.isNull = false := by rw [Constant.isNull, datum]; rfl
  have read : call.constant.stringValue = .ok value := Constant.stringValue_eq_ok_iff.mpr datum
  rw [literalOf_of_isString encoded.string, stringLiteral, encoded.mode]
  simp only [given, found, read, inserted, bind, Except.bind]
  rfl

theorem Call.Encoded.immediate_of_literal {id : Int32} {known : Registry}
    (made : literalOf call.constant call.encoding call.registry = .ok (.int32 id, known))
    (session : Session) :
    immediate ⟨session, call.registry⟩ call.constant call.encoding =
      .ok ([.ofInt 32 id.toInt64], ⟨session, known⟩) := by
  rw [literalOf_of_isString encoded.string, stringLiteral, encoded.mode] at made
  rw [immediate_of_isString encoded.string, immediateString, encoded.mode]
  dsimp only at made ⊢
  split at made
  · rename_i isNull
    cases made
    rw [if_pos isNull]
    rfl
  · rename_i given
    rcases bind_eq_ok.mp made with ⟨handle, found, rest⟩
    rcases bind_eq_ok.mp rest with ⟨value, read, same⟩
    cases same
    rw [if_neg given, found, read]
    rfl

end Encoded

/-! ### Calls that yield an id -/

/-- Whenever the buffers serialize, operands evaluate to an id on every device. -/
def Yields (session : Session) (devices : Nat) (operands : List Operand) (id : Int32) : Prop :=
  ∀ images, session.serialize = .ok images → ∀ device < devices, ∃ image,
    images[device]? = some image ∧
      session.code.evaluate image operands = .ok [.int 32 id.toInt64]

section Shared

variable {session : Session} {count : Nat} {first? : Option Bool}
  (shared : session.Shared (count + 1) first?)

include shared

theorem Shared.yields {operands : List Operand} {id : Int32}
    (carries : session.Carries operands (.int32 id)) :
    session.Yields (count + 1) operands id := by
  intro images serialized device inside
  rcases shared.frame serialized inside with ⟨held, image, frame, imageAt, sound⟩
  rcases shared.resolve held sound carries with ⟨values, resolved, reads⟩
  have read : values = [.int 32 id.toInt64] := reads (by simp [Literal.nullByte])
  rw [read] at resolved
  exact ⟨image, imageAt,
    Module.evaluate_eq_ok sound.solves shared.coherent.ordered resolved⟩

/-- A call whose constant has an id as its literal succeeds, hoisting or not, and its operands yield
the id after any further calls. -/
theorem Shared.call_yields {call : Call} {id : Int32} {known : Registry}
    (made : literalOf call.constant call.encoding call.registry = .ok (.int32 id, known))
    (back : List Call) :
    ∃ operands next, session.call call = (.ok operands, ⟨next, known⟩) ∧
      (next.afterCalls back).Yields (count + 1) operands id := by
  rcases shared.generate_accepted made with ⟨hoisted, embedded, first, second, hoists, embeds⟩
  have success : ∃ operands next, session.call call = (.ok operands, ⟨next, known⟩) := by
    rw [Session.call]
    cases call.hoisting with
    | true => exact ⟨hoisted, first, hoists⟩
    | false => exact ⟨embedded, second, embeds⟩
  rcases success with ⟨operands, next, success⟩
  rcases shared.generate success with ⟨literal, next?, again, -, nextShared, carries⟩
  rw [made] at again
  cases again
  refine ⟨operands, next, success, ?_⟩
  exact (nextShared.afterCalls back).yields (carries.leads (nextShared.afterCalls_leads back))

/-- Of a string and its dictionary, the code of a call depends on the id alone. -/
theorem Shared.call_congr {left right : Call} (leftEncoded : left.Encoded)
    (rightEncoded : right.Encoded) (sameType : left.constant.type = right.constant.type)
    (sameEncoding : left.encoding = right.encoding) (sameMode : left.hoisting = right.hoisting)
    {id : Int32} {known other : Registry}
    (leftMade : literalOf left.constant left.encoding left.registry = .ok (.int32 id, known))
    (rightMade : literalOf right.constant right.encoding right.registry = .ok (.int32 id, other)) :
    session.call left = ((session.call right).1, ⟨(session.call right).2.session, known⟩) := by
  rcases shared.lockstep with ⟨buffer, lockstep, -⟩
  simp only [Session.call, Workspace.generate, sameMode]
  cases right.hoisting with
  | true =>
      have leftHoisted := lockstep.hoist_eq leftMade
      rw [sameEncoding, sameType] at leftHoisted
      simp only [if_true, lockstep.devices_eq, sameEncoding, leftHoisted,
        lockstep.hoist_eq rightMade]
  | false =>
      simp only [Bool.false_eq_true, if_false, leftEncoded.immediate_of_literal leftMade,
        rightEncoded.immediate_of_literal rightMade]

end Shared

/-! ### The main statement -/

/-- In any history of calls, hoisting or not: a null in a dictionary encoding succeeds and yields
the id of the nulls. A string under an id that is bound to a dictionary succeeds and yields the
32-bit cast of its place there. This is another id than that of the nulls, and decodes to the string
in this and in every later state of the dictionary, if and only if the place is below 2 ^ 31. It is
the id of the nulls at the place 2 ^ 31 and, from there on, at every 2 ^ 32nd. -/
theorem strings_are_told_from_null_ids_iff {name : String} {devices : Nat} {session : Session}
    (started : Session.start name devices = .ok session) (front back : List Call) {call : Call}
    (encoded : call.Encoded) :
    (call.constant.isNull = true → ∃ operands next,
      (session.afterCalls front).call call = (.ok operands, ⟨next, call.registry⟩) ∧
      (next.afterCalls back).Yields devices operands Sql.nullId) ∧
    ∀ value handle, call.constant.datum = .text value → call.registry.Valid →
      call.registry.find call.encoding.dictionary = .ok handle →
      ∃ operands next known place,
        (session.afterCalls front).call call = (.ok operands, ⟨next, known⟩) ∧
        known.place? call.encoding.dictionary value = some place ∧
        (next.afterCalls back).Yields devices operands (Int32.ofNat place) ∧
        (∀ later, known.Evolves later → known.Keeps later →
          (Int32.ofNat place ≠ Sql.nullId ∧
            later.string? call.encoding.dictionary (Int32.ofNat place) = some value ↔
            place < 2 ^ 31)) ∧
        (Int32.ofNat place = Sql.nullId ↔ place % 2 ^ 32 = 2 ^ 31) := by
  rcases afterCalls_shared started front with ⟨count, rfl, shared⟩
  constructor
  · intro isNull
    exact shared.call_yields (encoded.literalOf_null isNull) back
  · intro value handle datum valid found
    rcases valid.exists_place found value with ⟨place, placed, issued⟩
    have made := encoded.literalOf_text datum found (Prod.ext issued rfl)
    rcases shared.call_yields made back with ⟨operands, next, success, yields⟩
    refine ⟨operands, next, _, place, success, placed, yields, ?_,
      Dictionary.ofNat_eq_nullId_iff place⟩
    intro later evolves keeps
    have known := (Registry.idOf_grows call.registry handle value).valid valid
    rw [known.string?_of_place? evolves keeps placed]
    exact ⟨And.right, fun small => ⟨Dictionary.ofNat_ne_nullId small, small⟩⟩

/-- The second string of a dictionary is hoisted between a null and a further string. -/
theorem strings_are_told_from_null_ids_iff_second :
    let first : Session := { code := { name := "kernel" }, buffers := [{}, {}] }
    let dictionary : Registry := Registry.register {} 1 (.ofList ["one"])
    let null : Call := ⟨.null (.ofKind .text), ⟨.dictionary, 1⟩, true, dictionary⟩
    let call : Call := ⟨.ofString "two", ⟨.dictionary, 1⟩, true, dictionary⟩
    let outcome := (first.afterCalls [null]).call call
    let further : Call := ⟨.ofString "three", ⟨.dictionary, 1⟩, false, outcome.2.registry⟩
    ∃ operands, outcome.1 = .ok operands ∧
      (outcome.2.session.afterCalls [further]).Yields 2 operands 1 ∧
      (1 : Int32) ≠ Sql.nullId ∧ outcome.2.registry.string? 1 1 = some "two" := by
  intro first dictionary null call outcome further
  have encoded : call.Encoded := ⟨rfl, rfl⟩
  have valid : dictionary.Valid :=
    Registry.Valid.empty.register 1 (Dictionary.ofList_distinct ["one"])
  have second : outcome.2.registry.place? 1 "two" = some 1 := by decide +kernel
  have made : (first.afterCalls [null]).call call = outcome := rfl
  clear_value outcome
  rcases (@strings_are_told_from_null_ids_iff "kernel" 2 first rfl [null] [further] call encoded).2
    "two" 0 rfl valid rfl with ⟨operands, next, known, place, success, placed, yields, told, -⟩
  rw [made] at success
  subst success
  change known.place? 1 "two" = some 1 at second
  change known.place? 1 "two" = some place at placed
  rw [second] at placed
  cases placed
  exact ⟨operands, rfl, yields, (told known (.refl known) (.refl known)).mpr (by decide)⟩

/-- Behind 2 ^ 31 other strings, a string has the id of the nulls, which decodes to nothing. -/
theorem string_takes_the_null_id :
    let first : Session := { code := { name := "kernel" }, buffers := [{}] }
    let dictionary : Registry :=
      Registry.register {} 1 (.ofList ((List.range (2 ^ 31)).map toString))
    let string : Bool → Call := fun hoisting =>
      ⟨.ofString (toString (2 ^ 31)), ⟨.dictionary, 1⟩, hoisting, dictionary⟩
    let null : Bool → Registry → Call := fun hoisting known =>
      ⟨.null (.ofKind .text), ⟨.dictionary, 1⟩, hoisting, known⟩
    let hoisted := first.call (string true)
    let both := hoisted.2.session.call (null true hoisted.2.registry)
    let embedded := first.call (string false)
    Session.start "kernel" 1 = .ok first ∧
      hoisted.1 = .ok [.result 3 (.int 32)] ∧ both.1 = .ok [.result 4 (.int 32)] ∧
      both.2.session.serialize = .ok [#[0, 0, 0, 128]] ∧
      both.2.session.code.evaluate #[0, 0, 0, 128] [.result 3 (.int 32)] =
        .ok [.int 32 Sql.nullId.toInt64] ∧
      both.2.session.code.evaluate #[0, 0, 0, 128] [.result 4 (.int 32)] =
        .ok [.int 32 Sql.nullId.toInt64] ∧
      hoisted.2.registry.string? 1 Sql.nullId = none ∧
      embedded.1 = .ok [.ofInt 32 Sql.nullId.toInt64] ∧
      (first.call (null false embedded.2.registry)).1 = .ok [.ofInt 32 Sql.nullId.toInt64] ∧
      embedded.2.registry.string? 1 Sql.nullId = none := by
  intro first dictionary string null hoisted both embedded
  -- Nothing may be computed with the strings, so that they are left out as soon as possible.
  have issues : ∀ inner value, (Dictionary.idOf inner value).1 = Sql.nullId →
      (Registry.register {} 1 inner).find 1 = .ok 0 ∧
        ∃ known, (Registry.register {} 1 inner).idOf 0 value = (Sql.nullId, known) :=
    fun _ _ issued => ⟨rfl, _, Prod.ext issued rfl⟩
  have taken : dictionary.find 1 = .ok 0 ∧
      ∃ known, dictionary.idOf 0 (toString (2 ^ 31)) = (Sql.nullId, known) :=
    issues _ _ Dictionary.numerals_reach_nullId
  clear_value dictionary
  rcases taken with ⟨found, known, inserted⟩
  have encoded : ∀ hoisting, (string hoisting).Encoded := fun _ => ⟨rfl, rfl⟩
  have made := fun hoisting => (encoded hoisting).literalOf_text rfl found inserted
  have nullEncoded : ∀ hoisting registry, (null hoisting registry).Encoded := fun _ _ => ⟨rfl, rfl⟩
  have nullMade := fun hoisting registry => (nullEncoded hoisting registry).literalOf_null rfl
  -- All calls do what they do for a null without dictionaries.
  have shared : first.Shared 1 none := Shared.start "kernel" 1
  have hoistedAlike : hoisted = _ := shared.call_congr (encoded true) (nullEncoded true {}) rfl rfl
    rfl (made true) (nullMade true {})
  have embeddedAlike : embedded = _ := shared.call_congr (encoded false) (nullEncoded false {}) rfl
    rfl rfl (made false) (nullMade false {})
  have bothAlike := (shared.call (null true {})).call_congr (nullEncoded true known)
    (nullEncoded true {}) rfl rfl rfl (nullMade true known) (nullMade true {})
  have nullAlike := shared.call_congr (nullEncoded false known) (nullEncoded false {}) rfl rfl rfl
    (nullMade false known) (nullMade false {})
  have undecoded : known.string? 1 Sql.nullId = none := by
    rw [Registry.string?]
    cases known.handle? 1 with
    | none => rfl
    | some handle => exact Dictionary.string?_of_negative (by decide)
  simp only [both, hoistedAlike, embeddedAlike, bothAlike, nullAlike]
  exact ⟨rfl, by decide +kernel, by decide +kernel, by decide +kernel, by decide +kernel,
    by decide +kernel, undecoded, rfl, rfl, undecoded⟩

end Session

end QueryKernel
