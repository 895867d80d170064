import QueryKernel.Proofs.Ir.Definition
import QueryKernel.Proofs.Literal.Image
import QueryKernel.Proofs.Text.Tokens
import QueryKernel.Session.Hoist

/-!
Contract: the entry code that decodes a literal.

Owns:
- the names of the globals that hold a decoded literal, which belong to one offset;
- the values of those globals, for a literal that is stored in an image;
- the main statements: decoding succeeds when the names are new, and a solution of the
  code before becomes a solution of the code behind, with the decoded values in the new
  globals.

Does not own: which literals are decoded.
-/

namespace QueryKernel

open QueryKernel.Ir (Module Operand Frame RuntimeValue Ty)
open QueryKernel.Number
open QueryKernel.Sql (DataType)

/-! ### Names -/

namespace Session

def globalNames (offset : Nat) (isText : Bool) : List String :=
  let name := "global_" ++ literalName offset
  if isText then [name ++ "_start", name ++ "_start_address", name ++ "_length"] else [name]

theorem globalNames_form {name : String} {offset : Nat} {isText : Bool}
    (member : name ∈ globalNames offset isText) :
    ∃ rest, Text.Stops Char.isDigit rest ∧
      name.toList = "global_literal_".toList ++ ((toString offset).toList ++ rest) := by
  have split : ("global_" ++ literalName offset).toList =
      "global_literal_".toList ++ (toString offset).toList := by
    simp only [literalName, String.toList_append]
    rfl
  cases isText with
  | false =>
      rw [globalNames, if_neg (by decide), List.mem_singleton] at member
      exact ⟨[], Text.stops_nil _, by rw [member, split, List.append_nil]⟩
  | true =>
      rw [globalNames, if_pos rfl] at member
      simp only [List.mem_cons, List.not_mem_nil, or_false] at member
      rcases member with rfl | rfl | rfl
      · exact ⟨_, Text.stops_cons "start".toList (by decide : '_'.isDigit = false), by
          rw [String.toList_append, split, List.append_assoc]; rfl⟩
      · exact ⟨_, Text.stops_cons "start_address".toList (by decide : '_'.isDigit = false), by
          rw [String.toList_append, split, List.append_assoc]; rfl⟩
      · exact ⟨_, Text.stops_cons "length".toList (by decide : '_'.isDigit = false), by
          rw [String.toList_append, split, List.append_assoc]; rfl⟩

/-- A name belongs to one offset. -/
theorem globalNames_unique {name : String} {left right : Nat} {leftText rightText : Bool}
    (leftMember : name ∈ globalNames left leftText)
    (rightMember : name ∈ globalNames right rightText) : left = right := by
  obtain ⟨leftRest, leftStops, leftForm⟩ := globalNames_form leftMember
  obtain ⟨rightRest, rightStops, rightForm⟩ := globalNames_form rightMember
  rw [leftForm] at rightForm
  exact (Text.numeral_unique leftStops rightStops (List.append_cancel_left rightForm)).1

theorem globalNames_nodup (offset : Nat) (isText : Bool) : (globalNames offset isText).Nodup := by
  have differ : ∀ (base : String) {left right : String}, left ≠ right →
      base ++ left ≠ base ++ right := by
    intro base left right different same
    have lists := congrArg String.toList same
    rw [String.toList_append, String.toList_append] at lists
    exact different (String.toList_inj.mp (List.append_cancel_left lists))
  cases isText with
  | false => exact List.nodup_singleton _
  | true =>
      rw [globalNames, if_pos rfl]
      simp only [List.nodup_cons, List.mem_cons, List.not_mem_nil, or_false, not_or,
        List.nodup_nil, and_true, not_false_eq_true]
      exact ⟨⟨differ _ (by decide), differ _ (by decide)⟩, differ _ (by decide)⟩

end Session

/-! ### Decoded values -/

namespace Literal

/-- The value of a scalar literal, as kernel code loads it. -/
def loaded? : Literal → Option RuntimeValue
  | .bool value => some (.int 8 (if value then 1 else 0))
  | .int8 value => some (.int 8 value.toInt64)
  | .int16 value => some (.int 16 value.toInt64)
  | .int32 value => some (.int 32 value.toInt64)
  | .int64 value => some (.int 64 value)
  | .float value => some (.float value)
  | .double value => some (.double value)
  | .text _ => none

/-- The value of a scalar literal that is decoded to a type: the loaded value, or as a truth
value whether it is positive. -/
def decoded? (literal : Literal) (type : Ty) : Option RuntimeValue :=
  match literal.loaded?, type with
  | some (.int 8 word), .int 1 => some (.int 1 (wordGreater word 0))
  | some value, type => if value.type = type then some value else none
  | none, _ => none

/-- The types that a literal is decoded to by itself. -/
def ownTypes : Literal → List Ty
  | .bool _ => [.int 1]
  | .text _ => [.int 64, .pointer, .int 32]
  | literal => literal.loaded?.toList.map RuntimeValue.type

def isText : Literal → Bool
  | .text _ => true
  | _ => false

/-- The types and the values of the globals of a literal that is stored in an image. -/
inductive Decodes (image : Array UInt8) : Literal → List Ty → List RuntimeValue → Prop where
  | scalar {literal : Literal} {type : Ty} {value : RuntimeValue}
      (decoded : literal.decoded? type = some value) : Decodes image literal [type] [value]
  | text {value : String} {cursor : Nat}
      (behind : OccursAt image.toList cursor (Literal.text value).payload) :
      Decodes image (.text value) [.int 64, .pointer, .int 32]
        [.int 64 0, .pointer (.literals cursor), .int 32 (Int64.ofNat value.utf8ByteSize)]

theorem Decodes.length_eq {image : Array UInt8} {literal : Literal} {types : List Ty}
    {contents : List RuntimeValue} (decodes : literal.Decodes image types contents) :
    contents.length = types.length := by
  cases decodes <;> rfl

theorem decoded?_of_loaded {literal : Literal} {value : RuntimeValue}
    (loaded : literal.loaded? = some value) : literal.decoded? value.type = some value := by
  cases literal <;> cases loaded <;> rfl

theorem decoded?_truth {literal : Literal} {word : Int64}
    (loaded : literal.loaded? = some (.int 8 word)) :
    literal.decoded? (.int 1) = some (.int 1 (wordGreater word 0)) := by
  simp only [decoded?, loaded]

/-- A word of whole bytes is loaded with its sign. -/
theorem loadValue_word {code : Module} {image : Array UInt8} {address : Ir.Address}
    {bits pattern : Nat} (supported : bits = 8 ∨ bits = 16 ∨ bits = 32 ∨ bits = 64)
    (fits : pattern < 256 ^ (bits / 8))
    (read : code.readBytes image address (bits / 8) = .ok (littleEndian (bits / 8) pattern)) :
    code.loadValue image address (.int bits) =
      .ok (.int bits (signExtend bits (Int64.ofNat pattern))) := by
  have whole : bits % 8 = 0 := by omega
  rw [Module.loadValue, if_pos whole]
  refine bind_eq_ok.mpr ⟨_, read, ?_⟩
  rw [Ir.loadedInteger, if_pos supported, ofLittleEndian_littleEndian_of_lt fits]

/-- Kernel code loads the value of a stored scalar. -/
theorem StoredAt.loadValue {image : Array UInt8} {offset : Nat} {literal : Literal}
    (stored : StoredAt image offset literal) {value : RuntimeValue}
    (loaded : literal.loaded? = some value) (code : Module) :
    code.loadValue image (.literals offset) value.type = .ok value := by
  obtain ⟨cursor, slot, slotEq, read, -⟩ := stored.slice_slot
  cases literal with
  | text value => contradiction
  | bool truth =>
      cases loaded
      cases slotEq
      refine bind_eq_ok.mpr ⟨_, read, ?_⟩
      cases truth <;> rfl
  | int8 word =>
      cases loaded
      cases slotEq
      rw [← signExtend_int8]
      exact loadValue_word (by decide) word.toUInt8.toNat_lt read
  | int16 word =>
      cases loaded
      cases slotEq
      rw [← signExtend_int16]
      exact loadValue_word (by decide) word.toUInt16.toNat_lt read
  | int32 word =>
      cases loaded
      cases slotEq
      rw [← signExtend_int32]
      exact loadValue_word (by decide) word.toUInt32.toNat_lt read
  | int64 word =>
      cases loaded
      cases slotEq
      rw [← signExtend_int64 word]
      exact loadValue_word (by decide) word.toUInt64.toNat_lt read
  | float value =>
      cases loaded
      cases slotEq
      have fits : value.bits.toNat < 256 ^ 4 := value.bits.toNat_lt
      refine bind_eq_ok.mpr ⟨_, read, ?_⟩
      rw [ofLittleEndian_littleEndian_of_lt fits, UInt32.ofNat_toNat]
      rfl
  | double value =>
      cases loaded
      cases slotEq
      have fits : value.bits.toNat < 256 ^ 8 := value.bits.toNat_lt
      refine bind_eq_ok.mpr ⟨_, read, ?_⟩
      rw [ofLittleEndian_littleEndian_of_lt fits, UInt64.ofNat_toNat]
      rfl

end Literal

/-! ### Strings -/

/-- The parts that the header of a string names: its start, its address and its length. -/
def Literal.partsOf (header : UInt32) : List RuntimeValue :=
  [.int 64 0, .pointer (.literals (unpackHeader header).1.toNat),
    .int 32 (Int64.ofNat (unpackHeader header).2.toNat)]

namespace Session

/-- The parts of a string are computed by entry lines that leave globals and pool alone. -/
theorem locateString_lengthened (code : Module) (offset : Nat) :
    Module.Lengthened code (locateString code offset).2.2 ∧
      (locateString code offset).2.2.Ready .entry (locateString code offset).1 ∧
      (locateString code offset).2.2.Ready .entry (locateString code offset).2.1 := by
  have slot := Module.computed_offset (code.ready_argument 0)
    (code.ready_ofInt 64 (Int64.ofNat offset))
  have header := Module.computed_load slot.ready (.int 32)
  have masked := Module.computed_and header.ready
    (Module.ready_ofInt _ 32 (Int64.ofNat Literal.offsetMask.toNat))
  have distance := Module.computed_shiftRight masked.ready
    (Module.ready_ofInt _ 32 (Int64.ofNat Literal.offsetShift.toNat))
  have length := Module.computed_and
    ((header.ready.mono masked.lengthened.grows).mono distance.lengthened.grows)
    (Module.ready_ofInt _ 32 (Int64.ofNat Literal.lengthMask.toNat))
  have address := Module.computed_offset (Module.ready_argument _ 0)
    (distance.ready.mono length.lengthened.grows)
  have lines := slot.lengthened.trans (header.lengthened.trans (masked.lengthened.trans
    (distance.lengthened.trans (length.lengthened.trans address.lengthened))))
  exact ⟨lines, address.ready, length.ready.mono address.lengthened.grows⟩

/-- On every header word, the code finds the address and the length that the word was
packed from. -/
theorem locateString_solves {frame : Frame} {code : Module} {image : Array UInt8} {offset : Nat}
    (solves : frame.Solves code image) (small : offset < 2 ^ 63) {header : UInt32}
    (read : Ir.slice image offset 4 = .ok (littleEndian 4 header.toNat)) :
    ∃ next, frame.Continues next (locateString code offset).2.2 image ∧
      next.resolve (locateString code offset).1 =
        .ok (.pointer (.literals (Literal.unpackHeader header).1.toNat)) ∧
      next.resolve (locateString code offset).2.1 =
        .ok (.int 32 (Int64.ofNat (Literal.unpackHeader header).2.toNat)) := by
  have wide : frame.resolve (.ofInt 64 (Int64.ofNat offset)) =
      .ok (.int 64 (Int64.ofNat offset)) := by
    rw [Frame.resolve_ofInt, signExtend_ofNat (by decide) (by decide) (by simpa using small)]
  have near : (Literal.unpackHeader header).1.toNat < 2 ^ 63 :=
    Nat.lt_trans (UInt16.toNat_lt _) (by decide)
  obtain ⟨slotFrame, slot, slotEq⟩ := solves.pushed .entry .pointer
    (Frame.compute_offset_argument wide small) (by simp)
  have loaded : ∀ code : Module, code.loadValue image (.literals offset) (.int 32) =
      .ok (.int 32 (signExtend 32 (Int64.ofNat header.toNat))) :=
    fun code => Literal.loadValue_word (by decide) header.toNat_lt read
  obtain ⟨headerFrame, header', headerEq⟩ := slot.solves.pushed .entry (.int 32)
    (Frame.compute_load slotEq (loaded _)) (by simp)
  obtain ⟨maskedFrame, masked, maskedEq⟩ := header'.solves.pushed .entry (.int 32)
    (Frame.compute_and headerEq (Frame.resolve_ofInt 32 (Int64.ofNat Literal.offsetMask.toNat)))
    (by simp)
  obtain ⟨distanceFrame, distance, distanceEq⟩ := masked.solves.pushed .entry (.int 32)
    (Frame.compute_shiftRight maskedEq
      (Frame.resolve_ofInt 32 (Int64.ofNat Literal.offsetShift.toNat))) (by simp)
  have headerKept := Frame.resolve_mono distance.grows (Frame.resolve_mono masked.grows headerEq)
  obtain ⟨lengthFrame, length, lengthEq⟩ := distance.solves.pushed .entry (.int 32)
    (Frame.compute_and headerKept (Frame.resolve_ofInt 32 (Int64.ofNat Literal.lengthMask.toNat)))
    (by simp)
  have distanceKept := Frame.resolve_mono length.grows distanceEq
  have unpacked := Literal.header_distance header
  rw [Literal.loadedHeader] at unpacked
  rw [unpacked] at distanceKept
  obtain ⟨addressFrame, address, addressEq⟩ := length.solves.pushed .entry .pointer
    (Frame.compute_offset_argument distanceKept near) (by simp)
  have lengthKept := Frame.resolve_mono address.grows lengthEq
  have unpackedLength := Literal.header_length header
  rw [Literal.loadedHeader] at unpackedLength
  rw [unpackedLength] at lengthKept
  have continues := slot.trans (header'.trans (masked.trans (distance.trans
    (length.trans address))))
  exact ⟨addressFrame, continues, addressEq, lengthKept⟩

/-! ### Decoding -/

def Materialized.globals : Materialized → List Nat
  | .scalar value => [value]
  | .string start address length => [start, address, length]

def Materialized.isText : Materialized → Bool
  | .scalar _ => false
  | .string _ _ _ => true

/-- A literal that code for constants of a type can decode. -/
inductive Fits (type : DataType) : Literal → Bool → Prop where
  | text (value : String) : Fits type (.text value) true
  | scalar {literal : Literal} {bits : Nat} {value : RuntimeValue}
      (width : type.bitWidth = .ok bits) (loaded : literal.loaded? = some value)
      (sameType : value.type = scalarType type bits) : Fits type literal false

theorem Fits.isText_eq {type : DataType} {literal : Literal} {isText : Bool}
    (fits : Fits type literal isText) : literal.isText = isText := by
  cases fits with
  | text value => rfl
  | scalar width loaded sameType => cases literal <;> first | rfl | cases loaded

/-- What decoding a literal adds to code: globals of the names that belong to the offset,
and their contents for every literal that fits and is stored there. -/
structure Decoded (type : DataType) (offset : Nat) (isText : Bool) (before after : Module)
    (globals : Materialized) (types : List Ty) : Prop where
  shape : globals.isText = isText
  places : globals.globals = List.range' before.globals.size types.length
  defines : Module.Defines before after
    (List.zipWith Ir.Global.mk (globalNames offset isText) types)
  length : types.length = (globalNames offset isText).length
  solves : ∀ {frame : Frame} {image : Array UInt8} {literal : Literal},
    frame.Solves before image → Fits type literal isText → literal.StoredAt image offset →
    offset < 2 ^ 63 → ∃ (next : Frame) (contents : List RuntimeValue),
      next.Solves after image ∧ literal.Decodes image types contents ∧
      next.globals.toList = frame.globals.toList ++ contents.map some

/-- The names of a literal are new to some code. -/
def Fresh (code : Module) (offset : Nat) (isText : Bool) : Prop :=
  ∀ name ∈ globalNames offset isText, ∀ global ∈ code.globals, global.name ≠ name

theorem storeScalar_eq {code : Module} {offset : Nat} (fresh : Fresh code offset false)
    (value : Operand) :
    storeScalar code (literalName offset) value =
      (.ok (.scalar code.globals.size), code.define (globalNames offset false) [value]) := by
  rw [storeScalar, Module.addGlobal_of_fresh (fresh _ List.mem_cons_self)]
  rfl

theorem storeString_eq {code : Module} {offset : Nat} (fresh : Fresh code offset true)
    (start address length : Operand) :
    storeString code (literalName offset) start address length =
      (.ok (.string code.globals.size (code.globals.size + 1) (code.globals.size + 2)),
        code.define (globalNames offset true) [start, address, length]) := by
  obtain ⟨startFresh, addressFresh, lengthFresh⟩ :
      (∀ global ∈ code.globals, global.name ≠ "global_" ++ literalName offset ++ "_start") ∧
      (∀ global ∈ code.globals,
        global.name ≠ "global_" ++ literalName offset ++ "_start_address") ∧
      ∀ global ∈ code.globals, global.name ≠ "global_" ++ literalName offset ++ "_length" := by
    have member := fresh
    simp only [Fresh, globalNames, if_true, List.forall_mem_cons] at member
    exact ⟨member.1, member.2.1, member.2.2.1⟩
  have distinct := globalNames_nodup offset true
  simp only [globalNames, if_true, List.nodup_cons, List.mem_cons, List.not_mem_nil, or_false,
    not_or] at distinct
  have addressNext := Module.fresh_withGlobal addressFresh start.type distinct.1.1
  have lengthNext := Module.fresh_withGlobal
    (Module.fresh_withGlobal lengthFresh start.type distinct.1.2) address.type distinct.2.1
  rw [storeString, Module.addGlobal_of_fresh startFresh]
  dsimp only
  rw [Module.addGlobal_of_fresh addressNext]
  dsimp only
  rw [Module.addGlobal_of_fresh lengthNext]
  simp only [Module.withGlobals_append, Module.withGlobals_size]
  rfl

/-- The parts of a string, and the lines that compute and name them. -/
def stringParts (code : Module) (offset : Nat) : List Operand × Module :=
  let located := locateString code offset
  let named := located.2.2.setName located.1 (literalName offset ++ "_start_address")
  ([.ofInt 64 0, located.1, located.2.1],
    named.setName located.2.1 (literalName offset ++ "_length"))

theorem stringParts_lengthened (code : Module) (offset : Nat) :
    Module.Lengthened code (stringParts code offset).2 ∧
      ∀ value ∈ (stringParts code offset).1, (stringParts code offset).2.Ready .entry value := by
  obtain ⟨located, addressReady, lengthReady⟩ := locateString_lengthened code offset
  have naming : Module.Lengthened (locateString code offset).2.2 (stringParts code offset).2 :=
    (Module.Lengthened.setName _ (locateString code offset).1 _).trans
      (Module.Lengthened.setName _ (locateString code offset).2.1 _)
  refine ⟨located.trans naming, ?_⟩
  simp only [stringParts, List.forall_mem_cons, List.not_mem_nil, false_implies, implies_true,
    and_true]
  exact ⟨Module.ready_ofInt _ 64 0, addressReady.mono naming.grows, lengthReady.mono naming.grows⟩

theorem Fresh.lengthened {before after : Module} {offset : Nat} {isText : Bool}
    (fresh : Fresh before offset isText) (lines : Module.Lengthened before after) :
    Fresh after offset isText := by
  unfold Fresh
  rw [lines.globals]
  exact fresh

/-- Decoding a string under new names defines its globals by its parts. -/
theorem decodeString_eq {code : Module} {offset : Nat} (fresh : Fresh code offset true) :
    decodeString code offset =
      (.ok (.string code.globals.size (code.globals.size + 1) (code.globals.size + 2)),
        (stringParts code offset).2.define (globalNames offset true)
          (stringParts code offset).1) := by
  have lines := (stringParts_lengthened code offset).1
  rw [← lines.globals]
  exact storeString_eq (fresh.lengthened lines) _ _ _

/-- On every header word, the globals of a string hold the address and the length that the word was
packed from. -/
theorem stringParts_solves {frame : Frame} {code : Module} {image : Array UInt8} {offset : Nat}
    (solves : frame.Solves code image) (small : offset < 2 ^ 63) {header : UInt32}
    (read : Ir.slice image offset 4 = .ok (littleEndian 4 header.toNat)) :
    ∃ next : Frame,
      next.Solves ((stringParts code offset).2.define (globalNames offset true)
        (stringParts code offset).1) image ∧
      next.globals.toList = frame.globals.toList ++ (Literal.partsOf header).map some := by
  obtain ⟨partway, continues, addressEq, lengthEq⟩ := locateString_solves solves small read
  have resolved : List.Forall₂ (fun value content => partway.resolve value = .ok content)
      (stringParts code offset).1 (Literal.partsOf header) :=
    .cons (Frame.resolve_ofInt 64 0) (.cons addressEq (.cons lengthEq .nil))
  have named := (continues.solves.setName (locateString code offset).1
    (literalName offset ++ "_start_address")).setName (locateString code offset).2.1
      (literalName offset ++ "_length")
  obtain ⟨next, nextSolves, contents⟩ := @Module.define_solves partway (stringParts code offset).2
    image named (globalNames offset true) _ _ rfl resolved
  rw [continues.globals] at contents
  exact ⟨next, nextSolves, contents⟩

theorem decodeString_decoded {code : Module} {offset : Nat} (fresh : Fresh code offset true)
    (type : DataType) :
    ∃ globals after, decodeString code offset = (.ok globals, after) ∧
      Decoded type offset true code after globals [.int 64, .pointer, .int 32] := by
  obtain ⟨lines, ready⟩ := stringParts_lengthened code offset
  have defines := lines.defines
    (@Module.define_defines _ (globalNames offset true) (stringParts code offset).1 rfl ready)
  refine ⟨_, _, decodeString_eq fresh, rfl, rfl, defines, rfl, ?_⟩
  intro frame image literal solves fits stored small
  cases fits with
  | text value =>
      obtain ⟨cursor, slot, slotEq, inRegion, behind⟩ := stored
      obtain ⟨header, packed, written⟩ := bind_eq_ok.mp slotEq
      cases written
      have read := Literal.slice_eq_of_occursAt inRegion (littleEndian_length 4 _)
      obtain ⟨next, nextSolves, contents⟩ := stringParts_solves solves small read
      obtain ⟨cursorEq, sizeEq⟩ := Literal.unpackHeader_packHeader packed
      rw [Literal.partsOf, cursorEq, sizeEq] at contents
      exact ⟨next, _, nextSolves, .text behind, contents⟩

def decodedType (type : DataType) (bits : Nat) : Ty :=
  if type.isBoolean && type.notNull && 1 < bits then .int 1 else scalarType type bits

/-- Every storage width is one of whole bytes, so that no scalar is refused for its width. -/
theorem whole_of_bitWidth {type : DataType} {bits : Nat} (width : type.bitWidth = .ok bits) :
    1 < bits ∧ bits % 8 = 0 := by
  unfold DataType.bitWidth at width
  split at width <;> cases width <;> decide

theorem decodedType_of_bitWidth {type : DataType} {bits : Nat} (width : type.bitWidth = .ok bits) :
    decodedType type bits =
      if type.isBoolean && type.notNull then .int 1 else scalarType type bits := by
  rw [decodedType, decide_eq_true (whole_of_bitWidth width).1, Bool.and_true]

theorem loadScalar_computed {code : Module} {slot : Operand} (ready : code.Ready .entry slot)
    (type : DataType) (bits : Nat) :
    Module.Computed code (loadScalar code type bits slot) ∧
      (loadScalar code type bits slot).1.type = decodedType type bits := by
  have loaded := Module.computed_load ready (scalarType type bits)
  unfold loadScalar decodedType
  by_cases truth : type.isBoolean && type.notNull && 1 < bits
  · have compared := Module.computed_greater loaded.ready (Module.ready_ofInt _ bits 0)
    simp only [truth, if_true]
    exact ⟨⟨loaded.lengthened.trans compared.lengthened, compared.ready⟩, rfl⟩
  · simp only [truth]
    exact ⟨loaded, rfl⟩

theorem storage_of_isBoolean {type : DataType} (isBoolean : type.isBoolean = true) :
    type.storage = .boolean := by
  have kind : type.kind = .boolean := by simpa [DataType.isBoolean] using isBoolean
  simp [DataType.storage, DataType.isDecimal, kind]

theorem loadScalar_solves {frame : Frame} {code : Module} {image : Array UInt8}
    {type : DataType} {bits offset : Nat} {slot : Operand} {value : RuntimeValue}
    (solves : frame.Solves code image)
    (slotEq : frame.resolve slot = .ok (.pointer (.literals offset)))
    (width : type.bitWidth = .ok bits)
    (read : code.loadValue image (.literals offset) (scalarType type bits) = .ok value)
    (sameType : value.type = scalarType type bits) :
    ∃ next decoded, frame.Continues next (loadScalar code type bits slot).2 image ∧
      next.resolve (loadScalar code type bits slot).1 = .ok decoded ∧
      ∀ literal : Literal, literal.loaded? = some value →
        literal.decoded? (decodedType type bits) = some decoded := by
  obtain ⟨partway, continues, loadedEq⟩ := solves.pushed .entry (scalarType type bits)
    (Frame.compute_load slotEq read) (by simp)
  unfold loadScalar decodedType
  by_cases truth : type.isBoolean && type.notNull && 1 < bits
  · -- A stored boolean is a word of eight bits.
    have isBoolean := (Bool.and_eq_true_iff.mp (Bool.and_eq_true_iff.mp truth).1).1
    have storage := storage_of_isBoolean isBoolean
    have eight : bits = 8 := by
      simp only [DataType.bitWidth, storage] at width
      exact (Except.ok.inj width).symm
    obtain ⟨word, rfl⟩ : ∃ word, value = .int 8 word := by
      simp only [scalarType, storage, eight] at sameType
      cases value <;> cases sameType
      exact ⟨_, rfl⟩
    obtain ⟨next, compares, comparedEq⟩ := continues.solves.pushed .entry (.int 1)
      (Frame.compute_greater loadedEq (Frame.resolve_ofInt bits 0)) (by simp)
    simp only [truth, if_true]
    refine ⟨next, _, continues.trans compares, comparedEq, fun literal loaded => ?_⟩
    rw [Literal.decoded?_truth loaded, eight]
    rfl
  · simp only [truth]
    refine ⟨partway, value, continues, loadedEq, fun literal loaded => ?_⟩
    rw [← sameType]
    exact Literal.decoded?_of_loaded loaded

/-- A scalar, and the lines that load and name it. -/
def scalarPart (code : Module) (type : DataType) (bits offset : Nat) : Operand × Module :=
  let slot := code.offset .entry (.argument 0) (.ofInt 64 (Int64.ofNat offset))
  let loaded := loadScalar slot.2 type bits slot.1
  (loaded.1, loaded.2.setName loaded.1 (literalName offset))

theorem scalarPart_computed (code : Module) (type : DataType) (bits offset : Nat) :
    Module.Computed code (scalarPart code type bits offset) ∧
      (scalarPart code type bits offset).1.type = decodedType type bits := by
  let slot := code.offset .entry (.argument 0) (.ofInt 64 (Int64.ofNat offset))
  have slotLine : Module.Computed code slot :=
    Module.computed_offset (code.ready_argument 0) (code.ready_ofInt 64 _)
  obtain ⟨loaded, loadedType⟩ := loadScalar_computed slotLine.ready type bits
  have naming := Module.Lengthened.setName (loadScalar slot.2 type bits slot.1).2
    (loadScalar slot.2 type bits slot.1).1 (literalName offset)
  exact ⟨⟨slotLine.lengthened.trans (loaded.lengthened.trans naming),
    loaded.ready.mono naming.grows⟩, loadedType⟩

/-- Decoding a scalar under a new name defines its global. -/
theorem decodeScalar_eq {code : Module} {offset bits : Nat} (fresh : Fresh code offset false)
    {type : DataType} (width : type.bitWidth = .ok bits) :
    decodeScalar code type offset =
      (.ok (.scalar code.globals.size), (scalarPart code type bits offset).2.define
        (globalNames offset false) [(scalarPart code type bits offset).1]) := by
  have lines := (scalarPart_computed code type bits offset).1.lengthened
  rw [← lines.globals]
  unfold decodeScalar
  simp only [width, (whole_of_bitWidth width).2, if_true]
  exact storeScalar_eq (fresh.lengthened lines) _

/-- Whatever is read from its slot, the global of a scalar holds a value. It is the decoded value of
every literal that is loaded so. -/
theorem scalarPart_solves {frame : Frame} {code : Module} {image : Array UInt8} {offset : Nat}
    (solves : frame.Solves code image) (small : offset < 2 ^ 63) {type : DataType} {bits : Nat}
    (width : type.bitWidth = .ok bits) {value : RuntimeValue}
    (read : ∀ code : Module,
      code.loadValue image (.literals offset) (scalarType type bits) = .ok value)
    (sameType : value.type = scalarType type bits) :
    ∃ (next : Frame) (decoded : RuntimeValue),
      next.Solves ((scalarPart code type bits offset).2.define (globalNames offset false)
        [(scalarPart code type bits offset).1]) image ∧
      next.globals.toList = frame.globals.toList ++ [some decoded] ∧
      ∀ literal : Literal, literal.loaded? = some value →
        literal.decoded? (decodedType type bits) = some decoded := by
  have wide : frame.resolve (.ofInt 64 (Int64.ofNat offset)) =
      .ok (.int 64 (Int64.ofNat offset)) := by
    rw [Frame.resolve_ofInt, signExtend_ofNat (by decide) (by decide) (by simpa using small)]
  obtain ⟨slotFrame, slot, slotEq⟩ := solves.pushed .entry .pointer
    (Frame.compute_offset_argument wide small) (by simp)
  obtain ⟨partway, decoded, continues, decodedEq, isDecoded⟩ :=
    loadScalar_solves slot.solves slotEq width (read _) sameType
  obtain ⟨next, nextSolves, contents⟩ := @Module.define_solves partway
    (scalarPart code type bits offset).2 image (continues.solves.setName _ _)
    (globalNames offset false) _ _ rfl (.cons decodedEq .nil)
  rw [continues.globals, slot.globals] at contents
  exact ⟨next, decoded, nextSolves, contents, isDecoded⟩

theorem decodeScalar_decoded {code : Module} {offset bits : Nat} (fresh : Fresh code offset false)
    {type : DataType} (width : type.bitWidth = .ok bits) :
    ∃ globals after, decodeScalar code type offset = (.ok globals, after) ∧
      Decoded type offset false code after globals [decodedType type bits] := by
  obtain ⟨⟨lines, ready⟩, typed⟩ := scalarPart_computed code type bits offset
  have defines := lines.defines (@Module.define_defines _ (globalNames offset false)
    [(scalarPart code type bits offset).1] rfl (List.forall_mem_singleton.mpr ready))
  refine ⟨_, _, decodeScalar_eq fresh width, rfl, rfl, ?_, rfl, ?_⟩
  · rw [← typed]
    exact defines
  · intro frame image literal solves fits stored small
    cases fits with
    | scalar otherWidth loaded sameType =>
        rename_i otherBits value
        obtain rfl : bits = otherBits := Except.ok.inj (width.symm.trans otherWidth)
        obtain ⟨next, decoded, nextSolves, contents, isDecoded⟩ := scalarPart_solves solves small
          width (fun code => sameType ▸ stored.loadValue loaded code) sameType
        exact ⟨next, _, nextSolves, .scalar (isDecoded literal loaded), contents⟩

/-- The types of the globals of a decoded literal. -/
def decodedTypes (type : DataType) (isText : Bool) : List Ty :=
  if isText then [.int 64, .pointer, .int 32]
  else
    match type.bitWidth with
    | .ok bits => [decodedType type bits]
    | .error _ => []

/-- Decoding a literal succeeds when the names are new. -/
theorem decode_decoded {code : Module} {type : DataType} {offset : Nat} {isText : Bool}
    (fresh : Fresh code offset isText) {literal : Literal} (fits : Fits type literal isText) :
    ∃ globals after,
      (if isText then decodeString code offset else decodeScalar code type offset) =
        (.ok globals, after) ∧
      Decoded type offset isText code after globals (decodedTypes type isText) := by
  cases fits with
  | text value => exact decodeString_decoded fresh type
  | scalar width loaded sameType =>
      rw [decodedTypes, width]
      exact decodeScalar_decoded fresh width

end Session

end QueryKernel
