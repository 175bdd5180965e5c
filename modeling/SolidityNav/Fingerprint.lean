/-
# Fingerprint -- a 64-bit fingerprint of a byte string

XXH3 with seed 0, 64 bits.  Short inputs are mixed in one piece, with one formula for each of the lengths 0, 1 to 3,
4 to 8, 9 to 16, 17 to 128 and 129 to 240.  Longer ones pass in stripes of 64 bytes through eight lanes, which
are scrambled after every 16 stripes and merged at the end.
-/

namespace SolidityNav.Fingerprint

set_option autoImplicit false

/-! ## Constants -/

def prime32A : UInt64 := 0x9E3779B1
def prime32B : UInt64 := 0x85EBCA77
def prime32C : UInt64 := 0xC2B2AE3D
def prime64A : UInt64 := 0x9E3779B185EBCA87
def prime64B : UInt64 := 0xC2B2AE3D27D4EB4F
def prime64C : UInt64 := 0x165667B19E3779F9
def prime64D : UInt64 := 0x85EBCA77C2B2AE63
def prime64E : UInt64 := 0x27D4EB2F165667C5
def primeMixA : UInt64 := 0x165667919E3779F9
def primeMixB : UInt64 := 0x9FB21C651E98DF25

/-- The bytes that are mixed into the input. -/
def secret : ByteArray := ⟨#[
  0xb8, 0xfe, 0x6c, 0x39, 0x23, 0xa4, 0x4b, 0xbe, 0x7c, 0x01, 0x81, 0x2c, 0xf7, 0x21, 0xad, 0x1c,
  0xde, 0xd4, 0x6d, 0xe9, 0x83, 0x90, 0x97, 0xdb, 0x72, 0x40, 0xa4, 0xa4, 0xb7, 0xb3, 0x67, 0x1f,
  0xcb, 0x79, 0xe6, 0x4e, 0xcc, 0xc0, 0xe5, 0x78, 0x82, 0x5a, 0xd0, 0x7d, 0xcc, 0xff, 0x72, 0x21,
  0xb8, 0x08, 0x46, 0x74, 0xf7, 0x43, 0x24, 0x8e, 0xe0, 0x35, 0x90, 0xe6, 0x81, 0x3a, 0x26, 0x4c,
  0x3c, 0x28, 0x52, 0xbb, 0x91, 0xc3, 0x00, 0xcb, 0x88, 0xd0, 0x65, 0x8b, 0x1b, 0x53, 0x2e, 0xa3,
  0x71, 0x64, 0x48, 0x97, 0xa2, 0x0d, 0xf9, 0x4e, 0x38, 0x19, 0xef, 0x46, 0xa9, 0xde, 0xac, 0xd8,
  0xa8, 0xfa, 0x76, 0x3f, 0xe3, 0x9c, 0x34, 0x3f, 0xf9, 0xdc, 0xbb, 0xc7, 0xc7, 0x0b, 0x4f, 0x1d,
  0x8a, 0x51, 0xe0, 0x4b, 0xcd, 0xb4, 0x59, 0x31, 0xc8, 0x9f, 0x7e, 0xc9, 0xd9, 0x78, 0x73, 0x64,
  0xea, 0xc5, 0xac, 0x83, 0x34, 0xd3, 0xeb, 0xc3, 0xc5, 0x81, 0xa0, 0xff, 0xfa, 0x13, 0x63, 0xeb,
  0x17, 0x0d, 0xdd, 0x51, 0xb7, 0xf0, 0xda, 0x49, 0xd3, 0x16, 0x55, 0x26, 0x29, 0xd4, 0x68, 0x9e,
  0x2b, 0x16, 0xbe, 0x58, 0x7d, 0x47, 0xa1, 0xfc, 0x8f, 0xf8, 0xb8, 0xd1, 0x7a, 0xd0, 0x31, 0xce,
  0x45, 0xcb, 0x3a, 0x8f, 0x95, 0x16, 0x04, 0x28, 0xaf, 0xd7, 0xfb, 0xca, 0xbb, 0x4b, 0x40, 0x7e]⟩

/-! ## Words -/

def byteAt (bytes : ByteArray) (i : Nat) : UInt64 :=
  if h : i < bytes.size then (bytes.get i h).toUInt64 else 0

/-- The little-endian number in `width` bytes from `i` on. -/
def word (bytes : ByteArray) (i : Nat) : Nat → UInt64
  | 0 => 0
  | width + 1 => byteAt bytes i ||| (word bytes (i + 1) width <<< 8)

def word32 (bytes : ByteArray) (i : Nat) : UInt64 :=
  word bytes i 4

def word64 (bytes : ByteArray) (i : Nat) : UInt64 :=
  word bytes i 8

def rotateLeft (x : UInt64) (k : UInt64) : UInt64 :=
  (x <<< k) ||| (x >>> (64 - k))

/-- The bytes of a word in reverse order. -/
def reverseBytes (x : UInt64) : UInt64 :=
  (List.range 8).foldl (fun y i => (y <<< 8) ||| ((x >>> (UInt64.ofNat (8 * i))) &&& 0xFF)) 0

/-- The exclusive or of the two halves of the 128-bit product. -/
def foldedProduct (x y : UInt64) : UInt64 :=
  let product := x.toNat * y.toNat
  UInt64.ofNat (product % UInt64.size) ^^^ UInt64.ofNat (product / UInt64.size)

def shiftXor (x : UInt64) (k : UInt64) : UInt64 :=
  x ^^^ (x >>> k)

/-- The closing mix of lengths 9 and up. -/
def avalanche (x : UInt64) : UInt64 :=
  shiftXor (shiftXor x 37 * primeMixA) 32

/-- The closing mix of lengths up to 3. -/
def shortAvalanche (x : UInt64) : UInt64 :=
  shiftXor (shiftXor (shiftXor x 33 * prime64B) 29 * prime64C) 32

/-! ## Short inputs -/

def upTo3 (bytes : ByteArray) : UInt64 :=
  let length := bytes.size
  let first := byteAt bytes 0
  let middle := byteAt bytes (length / 2)
  let last := byteAt bytes (length - 1)
  let combined := (first <<< 16) ||| (middle <<< 24) ||| last ||| (UInt64.ofNat length <<< 8)
  shortAvalanche (combined ^^^ (word32 secret 0 ^^^ word32 secret 4))

def upTo8 (bytes : ByteArray) : UInt64 :=
  let length := bytes.size
  let input := word32 bytes (length - 4) + (word32 bytes 0 <<< 32)
  let keyed := input ^^^ (word64 secret 8 ^^^ word64 secret 16)
  let mixed := (keyed ^^^ rotateLeft keyed 49 ^^^ rotateLeft keyed 24) * primeMixB
  let mixed := (mixed ^^^ ((mixed >>> 35) + UInt64.ofNat length)) * primeMixB
  shiftXor mixed 28

def upTo16 (bytes : ByteArray) : UInt64 :=
  let length := bytes.size
  let low := word64 bytes 0 ^^^ (word64 secret 24 ^^^ word64 secret 32)
  let high := word64 bytes (length - 8) ^^^ (word64 secret 40 ^^^ word64 secret 48)
  avalanche (UInt64.ofNat length + reverseBytes low + high + foldedProduct low high)

/-- Mixes 16 bytes of the input with 16 bytes of the secret. -/
def mix16 (bytes : ByteArray) (i s : Nat) : UInt64 :=
  foldedProduct (word64 bytes i ^^^ word64 secret s) (word64 bytes (i + 8) ^^^ word64 secret (s + 8))

/-- The sum of 16-byte mixes at the given places of the input and the secret. -/
def mixAll (bytes : ByteArray) (places : List (Nat × Nat)) : UInt64 :=
  places.foldl (fun sum (i, s) => sum + mix16 bytes i s) 0

/-- Pairs of 16-byte pieces from both ends towards the middle. -/
def upTo128 (bytes : ByteArray) : UInt64 :=
  let length := bytes.size
  let pairs := (length - 1) / 32 + 1
  let places := (List.range pairs).flatMap fun k =>
    [(16 * k, 32 * k), (length - 16 * (k + 1), 32 * k + 16)]
  avalanche (UInt64.ofNat length * prime64A + mixAll bytes places)

def upTo240 (bytes : ByteArray) : UInt64 :=
  let length := bytes.size
  let head := (List.range 8).map fun k => (16 * k, 16 * k)
  let rest := (List.range (length / 16 - 8)).map fun k => (16 * (k + 8), 16 * k + 3)
  let start := avalanche (UInt64.ofNat length * prime64A + mixAll bytes head)
  avalanche (start + mixAll bytes (rest ++ [(length - 16, 119)]))

/-! ## Long inputs -/

/-- The eight lanes before the first stripe. -/
def lanes : List UInt64 :=
  [prime32C, prime64A, prime64B, prime64C, prime64D, prime32B, prime64E, prime32A]

/-- Takes the 64 bytes from `i` on into the lanes; each lane also gets its neighbour's input. -/
def stripe (bytes : ByteArray) (i s : Nat) (lanes : List UInt64) : List UInt64 :=
  lanes.mapIdx fun k lane =>
    let neighbour := if k % 2 = 0 then k + 1 else k - 1
    let keyed : UInt64 := word64 bytes (i + 8 * k) ^^^ word64 secret (s + 8 * k)
    lane + word64 bytes (i + 8 * neighbour) + (keyed &&& (0xFFFFFFFF : UInt64)) * (keyed >>> 32)

/-- Takes `count` stripes from `i` on. -/
def stripes (bytes : ByteArray) (i count : Nat) (lanes : List UInt64) : List UInt64 :=
  (List.range count).foldl (fun lanes k => stripe bytes (i + 64 * k) (8 * k) lanes) lanes

def scramble (lanes : List UInt64) : List UInt64 :=
  lanes.mapIdx fun k lane => (shiftXor lane 47 ^^^ word64 secret (128 + 8 * k)) * prime32A

/-- Folds the lanes pairwise into one word. -/
def merge (s : Nat) : List UInt64 → UInt64
  | a :: b :: rest =>
      foldedProduct (a ^^^ word64 secret s) (b ^^^ word64 secret (s + 8)) + merge (s + 16) rest
  | _ => 0

def long (bytes : ByteArray) : UInt64 :=
  let length := bytes.size
  let blocks := (length - 1) / 1024
  let whole := (List.range blocks).foldl
    (fun lanes k => scramble (stripes bytes (1024 * k) 16 lanes)) lanes
  let part := stripes bytes (1024 * blocks) ((length - 1 - 1024 * blocks) / 64) whole
  let final := stripe bytes (length - 64) 121 part
  avalanche (UInt64.ofNat length * prime64A + merge 11 final)

/-- The fingerprint of a byte string. -/
def ofBytes (bytes : ByteArray) : UInt64 :=
  let length := bytes.size
  if length = 0 then shortAvalanche (word64 secret 56 ^^^ word64 secret 64)
  else if length ≤ 3 then upTo3 bytes
  else if length ≤ 8 then upTo8 bytes
  else if length ≤ 16 then upTo16 bytes
  else if length ≤ 128 then upTo128 bytes
  else if length ≤ 240 then upTo240 bytes
  else long bytes

/-- The fingerprint of the UTF-8 form of a text. -/
def ofText (text : String) : UInt64 :=
  ofBytes text.toUTF8

end SolidityNav.Fingerprint
