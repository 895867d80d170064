import QueryKernel.Number.Word

/-!
Contract: the 64-bit XXH3 digest of a byte string, with seed zero and the
standard secret.

Owns: the five length classes (up to 16 bytes, up to 128, up to 240, and long
inputs in stripes of 64 bytes and blocks of 1024) and the mixing they share.

All words are little-endian and all arithmetic is modulo `2 ^ 64`. The digest of a
text is the one in use, but nothing outside depends on which it is.
-/

namespace QueryKernel.Hash.Xxh3

def prime32First : UInt64 := 0x9E3779B1
def prime32Second : UInt64 := 0x85EBCA77
def prime32Third : UInt64 := 0xC2B2AE3D
def prime64First : UInt64 := 0x9E3779B185EBCA87
def prime64Second : UInt64 := 0xC2B2AE3D27D4EB4F
def prime64Third : UInt64 := 0x165667B19E3779F9
def prime64Fourth : UInt64 := 0x85EBCA77C2B2AE63
def prime64Fifth : UInt64 := 0x27D4EB2F165667C5
def mixFirst : UInt64 := 0x165667919E3779F9
def mixSecond : UInt64 := 0x9FB21C651E98DF25

/-- The standard secret of 192 bytes. -/
def secret : ByteArray := ⟨#[
  0xb8, 0xfe, 0x6c, 0x39, 0x23, 0xa4, 0x4b, 0xbe, 0x7c, 0x01, 0x81, 0x2c, 0xf7, 0x21, 0xad, 0x1c,
  0xde, 0xd4, 0x6d, 0xe9, 0x83, 0x90, 0x97, 0xdb, 0x72, 0x40, 0xa4, 0xa4, 0xb7, 0xb3, 0x67, 0x1f,
  0xcb, 0x79, 0xe6, 0x4e, 0xcc, 0xc0, 0xe5, 0x78, 0x82, 0x5a, 0xd0, 0x7d, 0xcc, 0xff, 0x72, 0x21,
  0xb8, 0x08, 0x46, 0x74, 0xf7, 0x43, 0x24, 0x8e, 0xe0, 0x35, 0x90, 0xe6, 0x81, 0x3a, 0x26, 0x4c,
  0x3c, 0x28, 0x52, 0xbb, 0x91, 0xc3, 0x00, 0xcb, 0x88, 0xd0, 0x65, 0x8b, 0x1b, 0x53, 0x2e, 0xa3,
  0x71, 0x64, 0x48, 0x97, 0xa2, 0x0d, 0xf9, 0x4e, 0x38, 0x19, 0xef, 0x46, 0xa9, 0xde, 0xac, 0xd8,
  0xa8, 0xfa, 0x76, 0x3f, 0xe3, 0x9c, 0x34, 0x3f, 0xf9, 0xdc, 0xbb, 0xc7, 0xc7, 0x0b, 0x4f, 0x1d,
  0x8a, 0x51, 0xe0, 0x4b, 0xcd, 0xb4, 0x59, 0x31, 0xc8, 0x9f, 0x7e, 0xc9, 0xd9, 0x78, 0x73, 0x64,
  0xea, 0xc5, 0xac, 0x83, 0x34, 0xd3, 0xeb, 0xc3, 0xc5, 0x81, 0xa0, 0xff, 0xfa, 0x13, 0x63, 0xeb,
  0x17, 0x0d, 0xdd, 0x51, 0xb7, 0xf0, 0xda, 0x49, 0xd3, 0x16, 0x55, 0x26, 0x29, 0xd4, 0x68, 0x9e,
  0x2b, 0x16, 0xbe, 0x58, 0x7d, 0x47, 0xa1, 0xfc, 0x8f, 0xf8, 0xb8, 0xd1, 0x7a, 0xd0, 0x31, 0xce,
  0x45, 0xcb, 0x3a, 0x8f, 0x95, 0x16, 0x04, 0x28, 0xaf, 0xd7, 0xfb, 0xca, 0xbb, 0x4b, 0x40, 0x7e]⟩

/-- The byte at a place, zero past the end. -/
def byteAt (data : ByteArray) (place : Nat) : UInt64 :=
  (data[place]?.getD 0).toUInt64

def word32 (data : ByteArray) (place : Nat) : UInt64 :=
  byteAt data place ||| byteAt data (place + 1) <<< 8 |||
    byteAt data (place + 2) <<< 16 ||| byteAt data (place + 3) <<< 24

def word64 (data : ByteArray) (place : Nat) : UInt64 :=
  word32 data place ||| word32 data (place + 4) <<< 32

/-- The exclusive or of the halves of the 128-bit product. -/
def foldedProduct (left right : UInt64) : UInt64 :=
  let product := left.toNat * right.toNat
  UInt64.ofNat product ^^^ UInt64.ofNat (product / 2 ^ 64)

def reverseBytes (word : UInt64) : UInt64 :=
  (List.range 8).foldl
    (fun acc place => acc <<< 8 ||| (word >>> (8 * place).toUInt64 &&& 0xff)) 0

def rotateLeft (word : UInt64) (amount : UInt64) : UInt64 :=
  word <<< amount ||| word >>> (64 - amount)

/-- Final mixing of the shortest inputs. -/
def avalancheShort (hash : UInt64) : UInt64 :=
  let hash := (hash ^^^ hash >>> 33) * prime64Second
  let hash := (hash ^^^ hash >>> 29) * prime64Third
  hash ^^^ hash >>> 32

def avalanche (hash : UInt64) : UInt64 :=
  let hash := (hash ^^^ hash >>> 37) * mixFirst
  hash ^^^ hash >>> 32

/-- Final mixing of inputs of four to eight bytes. -/
def avalancheWord (hash length : UInt64) : UInt64 :=
  let hash := (hash ^^^ rotateLeft hash 49 ^^^ rotateLeft hash 24) * mixSecond
  let hash := (hash ^^^ (hash >>> 35 + length)) * mixSecond
  hash ^^^ hash >>> 28

/-- Sixteen bytes of the input against sixteen bytes of the secret. -/
def mixLane (data : ByteArray) (place secretPlace : Nat) : UInt64 :=
  foldedProduct (word64 data place ^^^ word64 secret secretPlace)
    (word64 data (place + 8) ^^^ word64 secret (secretPlace + 8))

/-- Inputs of at most 16 bytes. -/
def digestTiny (data : ByteArray) : UInt64 :=
  let length := data.size
  if length = 0 then
    avalancheShort (word64 secret 56 ^^^ word64 secret 64)
  else if length ≤ 3 then
    let combined := byteAt data 0 <<< 16 ||| byteAt data (length / 2) <<< 24 |||
      byteAt data (length - 1) ||| length.toUInt64 <<< 8
    avalancheShort (combined ^^^ (word32 secret 0 ^^^ word32 secret 4))
  else if length ≤ 8 then
    let combined := word32 data (length - 4) + word32 data 0 <<< 32
    avalancheWord (combined ^^^ (word64 secret 8 ^^^ word64 secret 16)) length.toUInt64
  else
    let low := word64 data 0 ^^^ (word64 secret 24 ^^^ word64 secret 32)
    let high := word64 data (length - 8) ^^^ (word64 secret 40 ^^^ word64 secret 48)
    avalanche (length.toUInt64 + reverseBytes low + high + foldedProduct low high)

/-- Inputs of 17 to 128 bytes: pairs of lanes from both ends towards the middle. -/
def digestShort (data : ByteArray) : UInt64 :=
  let length := data.size
  let pairs := (length - 1) / 32 + 1
  let lanes := (List.range pairs).map fun pair =>
    mixLane data (16 * pair) (32 * pair) +
      mixLane data (length - 16 * (pair + 1)) (32 * pair + 16)
  avalanche (lanes.foldl (· + ·) (length.toUInt64 * prime64First))

/-- Inputs of 129 to 240 bytes. -/
def digestMedium (data : ByteArray) : UInt64 :=
  let length := data.size
  let first := (List.range 8).map fun lane => mixLane data (16 * lane) (16 * lane)
  let head := avalanche (first.foldl (· + ·) (length.toUInt64 * prime64First))
  let rest := (List.range (length / 16 - 8)).map fun lane =>
    mixLane data (16 * (lane + 8)) (16 * lane + 3)
  avalanche (rest.foldl (· + ·) head + mixLane data (length - 16) 119)

/-- The eight accumulators of long inputs before the first stripe. -/
def initialLanes : Array UInt64 := #[
  prime32Third, prime64First, prime64Second, prime64Third,
  prime64Fourth, prime32Second, prime64Fifth, prime32First]

/-- Absorb one stripe of 64 bytes. Each data word also goes, as it is, to the
neighbour of its lane. -/
def absorbStripe (data : ByteArray) (place secretPlace : Nat) (lanes : Array UInt64) :
    Array UInt64 :=
  lanes.mapIdx fun lane (value : UInt64) =>
    let word := word64 data (place + 8 * lane)
    let neighbour := if lane % 2 = 0 then lane + 1 else lane - 1
    let key : UInt64 := word ^^^ word64 secret (secretPlace + 8 * lane)
    value + word64 data (place + 8 * neighbour) +
      (key &&& (0xFFFFFFFF : UInt64)) * (key >>> (32 : UInt64))

/-- Absorb the stripes of a block, the first `stripes` of them. -/
def absorbBlock (data : ByteArray) (place stripes : Nat) (lanes : Array UInt64) : Array UInt64 :=
  (List.range stripes).foldl
    (fun acc stripe => absorbStripe data (place + 64 * stripe) (8 * stripe) acc) lanes

def scramble (lanes : Array UInt64) : Array UInt64 :=
  lanes.mapIdx fun lane (value : UInt64) =>
    (value ^^^ value >>> 47 ^^^ word64 secret (128 + 8 * lane)) * prime32First

def mergeLanes (lanes : Array UInt64) (start : UInt64) : UInt64 :=
  let products := (List.range 4).map fun pair =>
    foldedProduct ((lanes[2 * pair]?.getD 0) ^^^ word64 secret (11 + 16 * pair))
      ((lanes[2 * pair + 1]?.getD 0) ^^^ word64 secret (19 + 16 * pair))
  avalanche (products.foldl (· + ·) start)

/-- Inputs of more than 240 bytes. -/
def digestLong (data : ByteArray) : UInt64 :=
  let length := data.size
  let blocks := (length - 1) / 1024
  let full := (List.range blocks).foldl
    (fun lanes block => scramble (absorbBlock data (1024 * block) 16 lanes)) initialLanes
  let stripes := (length - 1 - 1024 * blocks) / 64
  let partly := absorbBlock data (1024 * blocks) stripes full
  let final := absorbStripe data (length - 64) 121 partly
  mergeLanes final (length.toUInt64 * prime64First)

def digest (data : ByteArray) : UInt64 :=
  if data.size ≤ 16 then digestTiny data
  else if data.size ≤ 128 then digestShort data
  else if data.size ≤ 240 then digestMedium data
  else digestLong data

/-- The digest of the UTF-8 bytes of a text. -/
def digestText (text : String) : UInt64 :=
  digest text.toUTF8

end QueryKernel.Hash.Xxh3

namespace QueryKernel.Hash

/-- A digest of texts. The code cache relies on no property of it. -/
class Digest where
  text : String → UInt64

instance : Digest := ⟨Xxh3.digestText⟩

end QueryKernel.Hash
