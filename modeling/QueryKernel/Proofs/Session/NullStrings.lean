import QueryKernel.Proofs.Literal.Serialization
import QueryKernel.Proofs.Session.Unpacking

/-!
Contract: which strings can be told from a null.

An embedded null has the null address, as no string has. Hoisting stores a null as the empty string,
so that a hoisted null has the address of an empty payload, which it shares with the hoisted empty
string.

Owns:
- the place of a payload in the image of a device, and the bytes that stand there;
- the literal and the immediates of an unencoded string;
- calls among a history, and the address that the operands of such a call evaluate to;
- the main statement: a null and a string evaluate alike if and only if both are hoisted and the
  string is empty.

Does not own: strings of a dictionary.
-/

namespace QueryKernel

open QueryKernel.Ir (Address Module Operand Frame RuntimeValue)
open QueryKernel.Number
open QueryKernel.Sql (Constant)
open QueryKernel.Dictionary (Registry)

/-- Where the payload of a literal begins in the image of a buffer: behind the region, and behind
the payloads of the literals that are registered before it. -/
def Literal.Buffer.PayloadAt (buffer : Literal.Buffer) (literal : Literal) (cursor : Nat) : Prop :=
  ∃ front back, buffer.literals = front ++ literal :: back ∧
    cursor = buffer.watermark + Literal.payloadsSize front

/-- A buffer with each literal once has one payload of a literal. -/
theorem Literal.Buffer.PayloadAt.unique {buffer : Literal.Buffer} (wellFormed : buffer.WellFormed)
    {literal : Literal} {cursor other : Nat} (payload : buffer.PayloadAt literal cursor)
    (again : buffer.PayloadAt literal other) : cursor = other := by
  rcases payload with ⟨front, back, split, rfl⟩
  rcases again with ⟨otherFront, otherBack, otherSplit, rfl⟩
  have once : ∀ {earlier later : List Literal}, buffer.literals = earlier ++ literal :: later →
      literal ∉ earlier := by
    intro earlier later whole member
    have distinct := wellFormed.distinct
    rw [whole] at distinct
    exact List.disjoint_of_nodup_append distinct member List.mem_cons_self
  rcases Literal.split_cases split otherSplit with ⟨rfl, -⟩ | ⟨middle, rfl⟩ | ⟨middle, rfl⟩
  · rfl
  · exact absurd (by simp) (once otherSplit)
  · exact absurd (by simp) (once split)

/-- A payload begins inside the image. -/
theorem Literal.Buffer.PayloadAt.le_size {buffer : Literal.Buffer} (wellFormed : buffer.WellFormed)
    {image : Array UInt8} (serialized : buffer.serialize = .ok image) {literal : Literal}
    {cursor : Nat} (payload : buffer.PayloadAt literal cursor) : cursor ≤ image.size := by
  rcases payload with ⟨front, back, split, rfl⟩
  rw [(Literal.Buffer.decodes_of_serialize wellFormed serialized).size, split,
    Literal.payloadsSize_append, ← Nat.add_assoc]
  exact Nat.le_add_right _ _

namespace Sql.Constant

/-- The string of a constant, empty for a null. -/
def payload (constant : Constant) : String :=
  match constant.datum with
  | .text value => value
  | _ => ""

/-- The values of an unencoded string: its start, its address and its length. -/
def valuesAt (constant : Constant) (address : Address) : List RuntimeValue :=
  [.int 64 0, .pointer address, .int 32 (Int64.ofNat constant.payload.utf8ByteSize)]

/-- Where the address of an unencoded string points: to nothing or into the pool of the code if it
is embedded, and to its payload in the image of a buffer if it is hoisted. -/
inductive PointsTo (constant : Constant) (code : Module) (buffer : Literal.Buffer) :
    Bool → Address → Prop where
  | null (isNull : constant.isNull = true) : PointsTo constant code buffer false .null
  | pool {index : Nat} (given : constant.isNull = false)
      (found : code.pool[index]? = some constant.payload) :
      PointsTo constant code buffer false (.poolString index 0)
  | literals {cursor : Nat} (payload : buffer.PayloadAt (.text constant.payload) cursor) :
      PointsTo constant code buffer true (.literals cursor)

theorem payload_of_isNull {constant : Constant} (isNull : constant.isNull = true) :
    constant.payload = "" := by
  rw [payload, isNull_iff.mp isNull]

theorem payload_of_text {constant : Constant} {value : String}
    (datum : constant.datum = .text value) :
    constant.payload = value ∧ constant.isNull = false := by
  rw [payload, isNull, datum]
  exact ⟨rfl, rfl⟩

theorem payload_of_stringValue {constant : Constant} {value : String}
    (read : constant.stringValue = .ok value) : constant.payload = value :=
  (payload_of_text (stringValue_eq_ok_iff.mp read)).1

section Addresses

variable {null constant : Constant} {code : Module} {buffer : Literal.Buffer}
  {nullHoisting hoisting : Bool} {address : Address}

theorem PointsTo.mono {after : Module} (extends' : code.Extends after)
    (points : constant.PointsTo code buffer hoisting address) :
    constant.PointsTo after buffer hoisting address := by
  cases points with
  | null isNull => exact .null isNull
  | pool given found => exact .pool given (extends'.pool _ _ found)
  | literals payload => exact .literals payload

theorem PointsTo.of_null (points : null.PointsTo code buffer hoisting address)
    (isNull : null.isNull = true) :
    (hoisting = false → address = .null) ∧
      (hoisting = true → ∃ cursor, address = .literals cursor ∧
        buffer.PayloadAt (.text "") cursor) := by
  cases points with
  | null => exact ⟨fun _ => rfl, fun impossible => by contradiction⟩
  | pool given =>
      rw [isNull] at given
      contradiction
  | literals payload =>
      rw [payload_of_isNull isNull] at payload
      exact ⟨fun impossible => by contradiction, fun _ => ⟨_, rfl, payload⟩⟩

theorem PointsTo.of_given (points : constant.PointsTo code buffer hoisting address)
    (given : constant.isNull = false) : address ≠ .null ∧
      (hoisting = true → ∃ cursor, address = .literals cursor ∧
        buffer.PayloadAt (.text constant.payload) cursor) := by
  cases points with
  | null isNull =>
      rw [given] at isNull
      contradiction
  | pool => exact ⟨by simp, fun impossible => by contradiction⟩
  | literals payload => exact ⟨by simp, fun _ => ⟨_, rfl, payload⟩⟩

/-- Only in the literals can a null and a string have one address. -/
theorem PointsTo.shared (nullPoints : null.PointsTo code buffer nullHoisting address)
    (points : constant.PointsTo code buffer hoisting address) (isNull : null.isNull = true)
    (given : constant.isNull = false) : nullHoisting = true ∧ hoisting = true := by
  cases nullPoints with
  | null => exact absurd rfl (points.of_given given).1
  | pool nullGiven =>
      rw [isNull] at nullGiven
      contradiction
  | literals =>
      cases points
      exact ⟨rfl, rfl⟩

/-- Behind the address stand the bytes of the string. -/
theorem PointsTo.readBytes (points : constant.PointsTo code buffer hoisting address)
    (wellFormed : buffer.WellFormed) {image : Array UInt8}
    (serialized : buffer.serialize = .ok image) :
    code.readBytes image address constant.payload.utf8ByteSize =
      .ok constant.payload.toUTF8.data.toList := by
  cases points with
  | null isNull =>
      rw [payload_of_isNull isNull]
      rfl
  | pool given found =>
      simp only [Module.readBytes, found]
      exact Literal.slice_eq_of_occursAt ⟨[], [], by simp, rfl⟩
        (Literal.payload_length (.text constant.payload))
  | literals payload =>
      rcases payload with ⟨front, back, split, rfl⟩
      rcases Literal.Buffer.header_of_split wellFormed serialized split with ⟨-, -, -, -, behind⟩
      exact Literal.slice_eq_of_occursAt behind (Literal.payload_length (.text constant.payload))

/-- Values tell the address, and a string that is as long as a null is empty. -/
theorem eq_of_valuesAt {other : Address} (isNull : null.isNull = true)
    (short : constant.payload.utf8ByteSize ≤ maximalStringField)
    (alike : null.valuesAt address = constant.valuesAt other) :
    address = other ∧ constant.payload = "" := by
  simp only [valuesAt, payload_of_isNull isNull, List.cons.injEq, RuntimeValue.pointer.injEq,
    RuntimeValue.int.injEq, true_and, and_true] at alike
  rcases alike with ⟨same, lengths⟩
  refine ⟨same, String.utf8ByteSize_eq_zero_iff.mp ?_⟩
  have numbers := congrArg Int64.toInt lengths
  unfold maximalStringField at short
  rw [Int64.toInt_ofNat_of_lt (by decide), Int64.toInt_ofNat_of_lt (by omega)] at numbers
  exact (Int.ofNat.inj numbers).symm

/-- On one device the values of a null and of a string are the same if and only if both were hoisted
and the string is empty. -/
theorem valuesAt_eq_iff {other : Address} (wellFormed : buffer.WellFormed)
    (nullPoints : null.PointsTo code buffer nullHoisting address)
    (points : constant.PointsTo code buffer hoisting other) (isNull : null.isNull = true)
    (given : constant.isNull = false)
    (short : constant.payload.utf8ByteSize ≤ maximalStringField) :
    null.valuesAt address = constant.valuesAt other ↔
      nullHoisting = true ∧ hoisting = true ∧ constant.payload = "" := by
  constructor
  · intro alike
    rcases eq_of_valuesAt isNull short alike with ⟨rfl, empty⟩
    rcases nullPoints.shared points isNull given with ⟨nullHoisted, hoisted⟩
    exact ⟨nullHoisted, hoisted, empty⟩
  · rintro ⟨nullHoisted, hoisted, empty⟩
    -- A buffer has the literal once, and so its payload.
    rcases (nullPoints.of_null isNull).2 nullHoisted with ⟨cursor, rfl, place⟩
    rcases (points.of_given given).2 hoisted with ⟨again, rfl, otherPlace⟩
    rw [empty] at otherPlace
    rw [place.unique wellFormed otherPlace, valuesAt, valuesAt, empty, payload_of_isNull isNull]

end Addresses

end Sql.Constant

namespace Session

/-! ### One unencoded string -/

section Unencoded

variable {constant : Constant} {encoding : StringEncoding}
  (unencoded : isUnencoded constant.type encoding = true)

include unencoded

theorem plain_of_unencoded :
    constant.type.storage.isString = true ∧ encoding.encoding = .plain := by
  rcases Bool.and_eq_true_iff.mp unencoded with ⟨string, other⟩
  rw [isString_eq_storage] at string
  refine ⟨string, ?_⟩
  cases mode : encoding.encoding with
  | plain => rfl
  | dictionary =>
      rw [mode] at other
      contradiction

/-- Null or not, an unencoded string becomes the literal of its bytes, which are few enough. -/
theorem literalOf_unencoded {registry after : Registry} {literal : Literal}
    (made : literalOf constant encoding registry = .ok (literal, after)) :
    literal = .text constant.payload ∧ constant.payload.utf8ByteSize ≤ maximalStringField := by
  rcases plain_of_unencoded unencoded with ⟨string, plain⟩
  rw [literalOf_of_isString string] at made
  unfold stringLiteral at made
  simp only [plain] at made
  split at made
  · rename_i isNull
    cases made
    rw [Constant.payload_of_isNull isNull]
    exact ⟨rfl, Nat.zero_le _⟩
  · rcases bind_eq_ok.mp made with ⟨value, read, rest⟩
    split at rest
    · contradiction
    · rename_i short
      cases rest
      rw [Constant.payload_of_stringValue read]
      exact ⟨rfl, Nat.le_of_not_lt short⟩

/-- The immediates of a null have the null address, and those of a string an address in the pool. -/
theorem immediate_unencoded {workspace after : Workspace} {operands : List Operand}
    (made : immediate workspace constant encoding = .ok (operands, after)) :
    ∃ address, (∀ buffer, constant.PointsTo after.session.code buffer false address) ∧
      ∀ frame : Frame, operands.mapM frame.resolve = .ok (constant.valuesAt address) := by
  rcases plain_of_unencoded unencoded with ⟨string, plain⟩
  rw [immediate_of_isString string] at made
  unfold immediateString at made
  simp only [plain] at made
  split at made
  · rename_i isNull
    cases made
    refine ⟨.null, fun buffer => .null isNull, fun frame => ?_⟩
    rw [Constant.valuesAt, Constant.payload_of_isNull isNull]
    rfl
  · rename_i given
    rcases bind_eq_ok.mp made with ⟨value, read, rest⟩
    split at rest
    · contradiction
    · rename_i short
      cases rest
      rcases workspace.session.code.addString_eq value with ⟨index, operand, found, -⟩
      rw [← Constant.payload_of_stringValue read] at found
      refine ⟨.poolString index 0, fun buffer => .pool (by simpa using given) ?_, fun frame => ?_⟩
      · rw [Constant.payload_of_stringValue read] at found ⊢
        exact found
      have length : signExtend 32 (Int64.ofNat value.utf8ByteSize) =
          Int64.ofNat value.utf8ByteSize := by
        apply signExtend_ofNat (by decide) (by decide)
        simp only [maximalStringField] at short
        omega
      rw [Constant.valuesAt, Constant.payload_of_stringValue read, operand]
      refine mapM_eq_ok.mpr (.cons rfl (.cons rfl (.cons ?_ .nil)))
      rw [Frame.resolve_ofInt, length]

end Unencoded

/-! ### Calls of a history -/

/-- One of some calls on a session succeeded with operands. -/
def Gave (session : Session) (calls : List Call) (call : Call) (operands : List Operand) : Prop :=
  ∃ front back, calls = front ++ call :: back ∧
    ((session.afterCalls front).call call).1 = .ok operands

def Call.isUnencoded (call : Call) : Bool :=
  Session.isUnencoded call.constant.type call.encoding

/-- Operands of an unencoded string: loads of its literal, or immediates with its address. -/
inductive Presents (session : Session) (constant : Constant) (operands : List Operand) :
    Bool → Prop where
  | hoisted {offset : Nat} (available : session.Available offset operands)
      (held : ∀ device < session.devices, session.Holds device offset (.text constant.payload)) :
      Presents session constant operands true
  | embedded {address : Address}
      (points : ∀ buffer, constant.PointsTo session.code buffer false address)
      (resolved : ∀ frame : Frame, operands.mapM frame.resolve = .ok (constant.valuesAt address)) :
      Presents session constant operands false

theorem Presents.leads {before after : Session} (leads : before.Leads after) {constant : Constant}
    {operands : List Operand} {hoisting : Bool}
    (presents : before.Presents constant operands hoisting) :
    after.Presents constant operands hoisting := by
  cases presents with
  | hoisted available held =>
      refine .hoisted (available.leads leads) fun device inside => ?_
      exact leads.holds device _ _ (held device (leads.devices ▸ inside))
  | embedded points resolved =>
      exact .embedded (fun buffer => (points buffer).mono leads.grows) resolved

section Shared

variable {session : Session} {count : Nat} {first? : Option Bool}
  (shared : session.Shared (count + 1) first?)

include shared

theorem Shared.call_presents {call : Call} {operands : List Operand}
    (unencoded : call.isUnencoded = true) (succeeded : (session.call call).1 = .ok operands) :
    (session.call call).2.session.Presents call.constant operands call.hoisting := by
  have leads := shared.call_leads call
  have nextShared := shared.call call
  generalize outcome : session.call call = result at succeeded leads nextShared
  rcases result with ⟨result, after⟩
  cases succeeded
  rcases call with ⟨constant, encoding, hoisting, registry⟩
  change Workspace.generate ⟨session, registry⟩ constant encoding hoisting = _ at outcome
  cases hoisting with
  | true =>
      rcases shared.hoisted outcome with ⟨literal, made, -, -, offset, available, held⟩
      rw [(literalOf_unencoded unencoded made).1] at held
      refine .hoisted available fun device inside => ?_
      rcases nextShared.lockstep with ⟨buffer, lockstep, -⟩
      rw [lockstep.devices_eq] at inside
      exact held device inside
  | false =>
      rw [Workspace.generate, if_neg (by decide)] at outcome
      cases made : Session.immediate ⟨session, registry⟩ constant encoding with
      | error failure =>
          rw [made] at outcome
          cases outcome
      | ok result =>
          rw [made] at outcome
          cases outcome
          rcases immediate_unencoded unencoded made with ⟨address, points, resolved⟩
          exact .embedded points resolved

/-- Where the buffers serialize, each device has an image, which has room for the slots. -/
theorem Shared.image_spans {images : List (Array UInt8)}
    (serialized : session.serialize = .ok images) {device : Nat} (inside : device < count + 1) :
    ∃ image buffer, images[device]? = some image ∧ session.buffers[device]? = some buffer ∧
      buffer.WellFormed ∧ buffer.serialize = .ok image ∧ session.Spans image := by
  rcases shared.lockstep with ⟨buffer, lockstep, -⟩
  have bufferAt := lockstep.buffer_at inside
  have wellFormed := lockstep.wellFormed shared.coherent
  rcases List.forall₂_iff_get.mp (mapM_eq_ok.mp serialized) with ⟨lengths, written⟩
  obtain ⟨bufferInside, found⟩ := List.getElem?_eq_some_iff.mp bufferAt
  have imageInside : device < images.length := lengths ▸ bufferInside
  have own := written device bufferInside imageInside
  simp only [List.get_eq_getElem, found] at own
  refine ⟨images[device], buffer, List.getElem?_eq_getElem imageInside, bufferAt, wellFormed, own,
    ?_, fun other member => ?_⟩
  · rw [(Literal.Buffer.decodes_of_serialize wellFormed own).size]
    exact (Literal.Buffer.serialize_cases own).1
  · rw [lockstep.buffers] at member
    rw [List.eq_of_mem_replicate member,
      (Literal.Buffer.decodes_of_serialize wellFormed own).size]
    exact Nat.le_add_right _ _

/-- On the image of its device an unencoded string evaluates to its address and its length. -/
theorem Shared.evaluate_string (runs : session.Runs) {device : Nat} {buffer : Literal.Buffer}
    (bufferAt : session.buffers[device]? = some buffer) (wellFormed : buffer.WellFormed)
    {image : Array UInt8} (serialized : buffer.serialize = .ok image) (spans : session.Spans image)
    {constant : Constant} {operands : List Operand} {hoisting : Bool}
    (presents : session.Presents constant operands hoisting) :
    ∃ address, constant.PointsTo session.code buffer hoisting address ∧
      session.code.evaluate image operands = .ok (constant.valuesAt address) := by
  cases presents with
  | embedded points resolved =>
      rcases runs image spans with ⟨frame, fills⟩
      refine ⟨_, points buffer, ?_⟩
      exact Module.evaluate_eq_ok fills.solves shared.coherent.ordered (resolved frame)
  | hoisted available held =>
      -- The header in the slot tells where the payload is.
      have inside : device < session.devices := (List.getElem?_eq_some_iff.mp bufferAt).1
      rcases held device inside with ⟨own, ownAt, member⟩
      rw [bufferAt] at ownAt
      cases ownAt
      rcases Literal.mem_place_iff.mp member with ⟨front, back, split, rfl⟩
      rcases Literal.Buffer.header_of_split wellFormed serialized split with
        ⟨header, inSlot, beginning, length, -⟩
      have read := Literal.slice_eq_of_occursAt inSlot (littleEndian_length 4 _)
      have first := held 0 (Nat.lt_of_le_of_lt (Nat.zero_le device) inside)
      refine ⟨.literals _, .literals ⟨front, back, split, rfl⟩, ?_⟩
      rw [shared.evaluate_parts runs available first spans read, Literal.partsOf, beginning, length]
      rfl

end Shared

theorem Gave.presents {name : String} {devices : Nat} {session : Session}
    (started : Session.start name devices = .ok session) {calls : List Call} {call : Call}
    {operands : List Operand} (gave : session.Gave calls call operands)
    (unencoded : call.isUnencoded = true) :
    (session.afterCalls calls).Presents call.constant operands call.hoisting := by
  rcases gave with ⟨front, back, rfl, succeeded⟩
  rcases afterCalls_shared started front with ⟨count, -, shared⟩
  rw [afterCalls_append]
  show (((session.afterCalls front).call call).2.session.afterCalls back).Presents _ _ _
  apply Presents.leads ((shared.call call).afterCalls_leads back)
  exact shared.call_presents unencoded succeeded

/-- No string that a call succeeded for is longer than a header allows. -/
theorem Gave.short {name : String} {devices : Nat} {session : Session}
    (started : Session.start name devices = .ok session) {calls : List Call} {call : Call}
    {operands : List Operand} (gave : session.Gave calls call operands)
    (unencoded : call.isUnencoded = true) :
    call.constant.payload.utf8ByteSize ≤ maximalStringField := by
  rcases gave with ⟨front, back, -, succeeded⟩
  rcases afterCalls_shared started front with ⟨count, -, shared⟩
  rcases shared.generate (Prod.ext succeeded rfl) with ⟨literal, next?, made, -⟩
  exact (literalOf_unencoded unencoded made).2

/-! ### The main statement -/

/-- After any calls whose buffers serialize, on every device: an unencoded null evaluates to zero,
an address behind which nothing stands and length zero, where the address is null if it was
embedded, and the place of an empty payload in the literals if it was hoisted; an unencoded string
evaluates to zero, an address that is not null, behind which its bytes stand, and its length. The
two evaluate alike if and only if both were hoisted and the string is empty. -/
theorem nulls_are_told_apart_iff {name : String} {devices : Nat} {session : Session}
    (started : Session.start name devices = .ok session) (calls : List Call)
    {images : List (Array UInt8)} (serialized : (session.afterCalls calls).serialize = .ok images)
    {device : Nat} (inside : device < devices) :
    let last := session.afterCalls calls
    ∃ image buffer, images[device]? = some image ∧ last.buffers[device]? = some buffer ∧
      (∀ null operands, session.Gave calls null operands → null.isUnencoded = true →
        null.constant.isNull = true → ∃ address,
          last.code.evaluate image operands = .ok [.int 64 0, .pointer address, .int 32 0] ∧
          last.code.readBytes image address 0 = .ok [] ∧
          (null.hoisting = false → address = .null) ∧
          (null.hoisting = true → ∃ cursor, address = .literals cursor ∧ cursor ≤ image.size ∧
            buffer.PayloadAt (.text "") cursor)) ∧
      (∀ call operands value, session.Gave calls call operands → call.isUnencoded = true →
        call.constant.datum = .text value → ∃ address, address ≠ .null ∧
          last.code.evaluate image operands =
            .ok [.int 64 0, .pointer address, .int 32 (Int64.ofNat value.utf8ByteSize)] ∧
          last.code.readBytes image address value.utf8ByteSize = .ok value.toUTF8.data.toList ∧
          (call.hoisting = true → ∃ cursor, address = .literals cursor ∧
            buffer.PayloadAt (.text value) cursor)) ∧
      ∀ null nullOperands call operands value,
        session.Gave calls null nullOperands → null.isUnencoded = true →
        null.constant.isNull = true → session.Gave calls call operands →
        call.isUnencoded = true → call.constant.datum = .text value →
        (last.code.evaluate image nullOperands = last.code.evaluate image operands ↔
          null.hoisting = true ∧ call.hoisting = true ∧ value = "") := by
  intro last
  have runs : last.Runs := afterCalls_runs started calls
  rcases afterCalls_shared started calls with ⟨count, rfl, shared⟩
  rcases shared.image_spans serialized inside with
    ⟨image, buffer, imageAt, bufferAt, wellFormed, written, spans⟩
  have evaluates : ∀ {call : Call} {operands : List Operand}, session.Gave calls call operands →
      call.isUnencoded = true → ∃ address,
        call.constant.PointsTo last.code buffer call.hoisting address ∧
        last.code.evaluate image operands = .ok (call.constant.valuesAt address) := by
    intro call operands gave given
    exact shared.evaluate_string runs bufferAt wellFormed written spans
      (gave.presents started given)
  refine ⟨image, buffer, imageAt, bufferAt, ?_, ?_, ?_⟩
  · intro null operands gave unencoded isNull
    rcases evaluates gave unencoded with ⟨address, points, evaluated⟩
    have nothing := points.readBytes wellFormed written
    rw [Constant.valuesAt, Constant.payload_of_isNull isNull] at evaluated
    rw [Constant.payload_of_isNull isNull] at nothing
    refine ⟨address, evaluated, nothing, (points.of_null isNull).1, fun hoisted => ?_⟩
    rcases (points.of_null isNull).2 hoisted with ⟨cursor, same, place⟩
    exact ⟨cursor, same, place.le_size wellFormed written, place⟩
  · intro call operands value gave unencoded datum
    rcases Constant.payload_of_text datum with ⟨bytes, given⟩
    rcases evaluates gave unencoded with ⟨address, points, evaluated⟩
    have stands := points.readBytes wellFormed written
    have known := points.of_given given
    rw [Constant.valuesAt, bytes] at evaluated
    rw [bytes] at stands known
    exact ⟨address, known.1, evaluated, stands, known.2⟩
  · intro null nullOperands call operands value nullGave nullUnencoded isNull gave unencoded datum
    rcases Constant.payload_of_text datum with ⟨bytes, given⟩
    rcases evaluates nullGave nullUnencoded with ⟨nullAddress, nullPoints, nullEvaluated⟩
    rcases evaluates gave unencoded with ⟨address, points, evaluated⟩
    have short := gave.short started unencoded
    rw [nullEvaluated, evaluated, Except.ok.injEq, ← bytes]
    exact Constant.valuesAt_eq_iff wellFormed nullPoints points isNull given short

/-- An embedded null is not the hoisted empty string. -/
theorem nulls_are_told_apart_iff_embedded :
    let first : Session := { code := { name := "kernel" }, buffers := [{}] }
    let null : Call := ⟨.null (.ofKind .text), {}, false, {}⟩
    let empty : Call := ⟨.ofString "", {}, true, {}⟩
    let last := first.afterCalls [null, empty]
    let ofNull : List Operand := [.ofInt 64 0, .null, .ofInt 32 0]
    let ofEmpty : List Operand := [.result 9 (.int 64), .result 10 .pointer, .result 11 (.int 32)]
    (first.call null).1 = .ok ofNull ∧ ((first.afterCalls [null]).call empty).1 = .ok ofEmpty ∧
      last.serialize = .ok [#[0, 0, 4, 0]] ∧
      last.code.evaluate #[0, 0, 4, 0] ofNull ≠ last.code.evaluate #[0, 0, 4, 0] ofEmpty := by
  intro first null empty last ofNull ofEmpty
  have nullMade : (first.call null).1 = .ok ofNull := by decide +kernel
  have emptyMade : ((first.afterCalls [null]).call empty).1 = .ok ofEmpty := by decide +kernel
  have serialized : last.serialize = .ok [#[0, 0, 4, 0]] := by decide +kernel
  refine ⟨nullMade, emptyMade, serialized, ?_⟩
  rcases @nulls_are_told_apart_iff "kernel" 1 first rfl [null, empty] _ serialized 0 Nat.one_pos
    with ⟨image, buffer, imageAt, -, -, -, told⟩
  cases imageAt
  intro alike
  have both := (told null ofNull empty ofEmpty "" ⟨[], [empty], rfl, nullMade⟩ rfl rfl
    ⟨[null], [], rfl, emptyMade⟩ rfl rfl).mp alike
  exact absurd both.1 (by decide)

/-- A hoisted null of an unencoded string has the address and the length of the empty string, and
not the null address. -/
theorem hoisted_null_is_an_empty_string :
    let first : Session := { code := { name := "kernel" }, buffers := [{}] }
    let null : Call := ⟨.null (.ofKind .text), {}, true, {}⟩
    let empty : Call := ⟨.ofString "", {}, true, {}⟩
    let last := first.afterCalls [null, empty]
    let ofNull : List Operand := [.result 9 (.int 64), .result 10 .pointer, .result 11 (.int 32)]
    let ofEmpty : List Operand := [.result 12 (.int 64), .result 13 .pointer, .result 14 (.int 32)]
    Session.start "kernel" 1 = .ok first ∧ (first.call null).1 = .ok ofNull ∧
      ((first.afterCalls [null]).call empty).1 = .ok ofEmpty ∧
      last.serialize = .ok [#[0, 0, 4, 0]] ∧
      last.code.evaluate #[0, 0, 4, 0] ofNull =
        .ok [.int 64 0, .pointer (.literals 4), .int 32 0] ∧
      last.code.evaluate #[0, 0, 4, 0] ofEmpty =
        .ok [.int 64 0, .pointer (.literals 4), .int 32 0] := by
  intro first null empty last ofNull ofEmpty
  exact ⟨rfl, by decide +kernel, by decide +kernel, by decide +kernel, by decide +kernel,
    by decide +kernel⟩

end Session

end QueryKernel
