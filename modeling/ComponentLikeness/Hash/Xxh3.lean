/-!
# XXH3

The 64-bit hash XXH3 with seed 0. Short inputs of up to 240 bytes are mixed
directly, in ways that depend on their length; longer ones are folded stripe
by stripe into eight accumulators.
-/

namespace ComponentLikeness.Hash.Xxh3

/-- The bytes that are mixed with the input. -/
def secret : ByteArray := ⟨#[
  0xb8, 0xfe, 0x6c, 0x39, 0x23, 0xa4, 0x4b, 0xbe, 0x7c, 0x01, 0x81, 0x2c, 0xf7, 0x21, 0xad, 0x1c,
  0xde, 0xd4, 0x6d, 0xe9, 0x83, 0x90, 0x97, 0xdb, 0x72, 0x40, 0xa4, 0xa4, 0xb7, 0xb3, 0x67, 0x1f,
  0xcb, 0x79, 0xe6, 0x4e, 0xcc, 0xc0, 0xe5, 0x78, 0x82, 0x5a, 0xd0, 0x7d, 0xcc, 0xff, 0x72, 0x21,
  0xb8, 0x08, 0x46, 0x74, 0xf7, 0x43, 0x24, 0x8e, 0xe0, 0x35, 0x90, 0xe6, 0x81, 0x3a, 0x26, 0x4c,
  0x3c, 0x28, 0x52, 0xbb, 0x91, 0xc3, 0x00, 0xcb, 0x88, 0xd0, 0x65, 0x8b, 0x1b, 0x53, 0x2e, 0xa3,
  0x71, 0x64, 0x48, 0x97, 0xa2, 0x0d, 0xf9, 0x4e, 0x38, 0x19, 0xef, 0x46, 0xa9, 0xde, 0xac, 0xd8,
  0xa8, 0xfa, 0x76, 0x3f, 0xe3, 0x9c, 0x34, 0x3f, 0xf9, 0xdc, 0xbb, 0xc7, 0xc7, 0x0b, 0x4f, 0x1d,
  0x8a, 0x51, 0xe0, 0x4b, 0xcd, 0xb4, 0x59, 0x31, 0xc8, 0x9f, 0x7e, 0xc9, 0xd9, 0x78, 0x73, 0x64,
  0xea, 0xc5, 0xac, 0x83, 0x34, 0xd3, 0xeb, 0xc3, 0xc5, 0x81, 0xa0, 0xff, 0xfa, 0x13, 0x63, 0xeb,
  0x17, 0x0d, 0xdd, 0x51, 0xb7, 0xf0, 0xda, 0x49, 0xd3, 0x16, 0x55, 0x26, 0x29, 0xd4, 0x68, 0x9e,
  0x2b, 0x16, 0xbe, 0x58, 0x7d, 0x47, 0xa1, 0xfc, 0x8f, 0xf8, 0xb8, 0xd1, 0x7a, 0xd0, 0x31, 0xce,
  0x45, 0xcb, 0x3a, 0x8f, 0x95, 0x16, 0x04, 0x28, 0xaf, 0xd7, 0xfb, 0xca, 0xbb, 0x4b, 0x40, 0x7e]⟩

/-! ## Constants -/

/-- The first 32-bit prime. -/
def prime32a : UInt64 := 0x9E3779B1
/-- The second 32-bit prime. -/
def prime32b : UInt64 := 0x85EBCA77
/-- The third 32-bit prime. -/
def prime32c : UInt64 := 0xC2B2AE3D
/-- The first 64-bit prime. -/
def prime64a : UInt64 := 0x9E3779B185EBCA87
/-- The second 64-bit prime. -/
def prime64b : UInt64 := 0xC2B2AE3D27D4EB4F
/-- The third 64-bit prime. -/
def prime64c : UInt64 := 0x165667B19E3779F9
/-- The fourth 64-bit prime. -/
def prime64d : UInt64 := 0x85EBCA77C2B2AE63
/-- The fifth 64-bit prime. -/
def prime64e : UInt64 := 0x27D4EB2F165667C5
/-- The multiplier of the last mixing step. -/
def mixerA : UInt64 := 0x165667919E3779F9
/-- The multiplier for inputs of four to eight bytes. -/
def mixerB : UInt64 := 0x9FB21C651E98DF25

/-! ## Words and mixing -/

/-- The byte at an offset, as a word. -/
def byteAt (bytes : ByteArray) (i : Nat) : UInt64 := (bytes.data[i]?.getD 0).toUInt64

/-- The first `count` bytes from an offset as a little-endian number. -/
def readBytes (bytes : ByteArray) (i : Nat) : Nat → UInt64
  | 0 => 0
  | count + 1 => byteAt bytes i ||| (readBytes bytes (i + 1) count <<< 8)

/-- Four bytes as a little-endian number. -/
def read32 (bytes : ByteArray) (i : Nat) : UInt64 := readBytes bytes i 4

/-- Eight bytes as a little-endian number. -/
def read64 (bytes : ByteArray) (i : Nat) : UInt64 := readBytes bytes i 8

/-- Shift right and combine with the old value. -/
def xorShift (h : UInt64) (n : UInt64) : UInt64 := h ^^^ (h >>> n)

/-- Rotate to the left. -/
def rotate (h : UInt64) (n : UInt64) : UInt64 := (h <<< n) ||| (h >>> (64 - n))

/-- The bytes in reverse order. -/
def swapBytes (h : UInt64) : UInt64 :=
  (List.range 8).foldl
    (fun (acc : UInt64) i => (acc <<< 8) ||| ((h >>> (8 * UInt64.ofNat i)) &&& 0xFF)) 0

/-- The two halves of the 128-bit product, combined. -/
def foldProduct (a b : UInt64) : UInt64 :=
  let product := a.toNat * b.toNat
  product.toUInt64 ^^^ (product >>> 64).toUInt64

/-- The closing mix for inputs of at most three bytes. -/
def avalancheShort (h : UInt64) : UInt64 :=
  xorShift (xorShift (xorShift h 33 * prime64b) 29 * prime64c) 32

/-- The closing mix for longer inputs. -/
def avalanche (h : UInt64) : UInt64 := xorShift (xorShift h 37 * mixerA) 32

/-- Mix sixteen bytes of input with sixteen bytes of the secret. -/
def mix16 (bytes : ByteArray) (i s : Nat) : UInt64 :=
  foldProduct (read64 bytes i ^^^ read64 secret s)
    (read64 bytes (i + 8) ^^^ read64 secret (s + 8))

/-! ## Short inputs -/

/-- One to three bytes. -/
def upTo3 (bytes : ByteArray) : UInt64 :=
  let n := bytes.size
  let combined := (byteAt bytes 0 <<< 16) ||| (byteAt bytes (n / 2) <<< 24) |||
    byteAt bytes (n - 1) ||| (n.toUInt64 <<< 8)
  avalancheShort (combined ^^^ (read32 secret 0 ^^^ read32 secret 4))

/-- Four to eight bytes. -/
def upTo8 (bytes : ByteArray) : UInt64 :=
  let n := bytes.size
  let input := read32 bytes (n - 4) + (read32 bytes 0 <<< 32)
  let h := input ^^^ (read64 secret 8 ^^^ read64 secret 16)
  let h := (h ^^^ rotate h 49 ^^^ rotate h 24) * mixerB
  let h := (h ^^^ ((h >>> 35) + n.toUInt64)) * mixerB
  xorShift h 28

/-- Nine to sixteen bytes. -/
def upTo16 (bytes : ByteArray) : UInt64 :=
  let n := bytes.size
  let low := read64 bytes 0 ^^^ (read64 secret 24 ^^^ read64 secret 32)
  let high := read64 bytes (n - 8) ^^^ (read64 secret 40 ^^^ read64 secret 48)
  avalanche (n.toUInt64 + swapBytes low + high + foldProduct low high)

/-- Seventeen to 128 bytes: pairs of blocks from both ends. -/
def upTo128 (bytes : ByteArray) : UInt64 :=
  let n := bytes.size
  let pairs := (n - 1) / 32 + 1
  avalanche ((List.range pairs).foldl (fun acc k =>
    acc + mix16 bytes (16 * k) (32 * k) + mix16 bytes (n - 16 * (k + 1)) (32 * k + 16))
    (n.toUInt64 * prime64a))

/-- 129 to 240 bytes. -/
def upTo240 (bytes : ByteArray) : UInt64 :=
  let n := bytes.size
  let first := avalanche ((List.range 8).foldl
    (fun acc k => acc + mix16 bytes (16 * k) (16 * k)) (n.toUInt64 * prime64a))
  let further := (List.range (n / 16 - 8)).foldl
    (fun acc k => acc + mix16 bytes (16 * (k + 8)) (16 * k + 3)) first
  avalanche (further + mix16 bytes (n - 16) (136 - 17))

/-! ## Long inputs -/

/-- The accumulators before the first stripe. -/
def initial : Array UInt64 :=
  #[prime32c, prime64a, prime64b, prime64c, prime64d, prime32b, prime64e, prime32a]

/-- Take in a stripe of 64 bytes. -/
def takeStripe (bytes : ByteArray) (acc : Array UInt64) (i s : Nat) : Array UInt64 :=
  (List.range 8).foldl (fun acc k =>
    let value : UInt64 := read64 bytes (i + 8 * k)
    let key : UInt64 := value ^^^ read64 secret (s + 8 * k)
    let low : UInt64 := key &&& 0xFFFFFFFF
    let high : UInt64 := key >>> 32
    let other := if k % 2 = 0 then k + 1 else k - 1
    (acc.modify other (· + value)).modify k (· + low * high)) acc

/-- Take in `count` stripes from an offset on. -/
def takeStripes (bytes : ByteArray) (acc : Array UInt64) (i count : Nat) : Array UInt64 :=
  (List.range count).foldl (fun acc k => takeStripe bytes acc (i + 64 * k) (8 * k)) acc

/-- Stir the accumulators at the end of a block. -/
def scramble (acc : Array UInt64) : Array UInt64 :=
  acc.mapIdx fun k h => (xorShift h 47 ^^^ read64 secret (128 + 8 * k)) * prime32a

/-- More than 240 bytes. -/
def long (bytes : ByteArray) : UInt64 :=
  let n := bytes.size
  let blocks := (n - 1) / 1024
  let acc := (List.range blocks).foldl
    (fun acc b => scramble (takeStripes bytes acc (1024 * b) 16)) initial
  let acc := takeStripes bytes acc (1024 * blocks) ((n - 1 - 1024 * blocks) / 64)
  let acc := takeStripe bytes acc (n - 64) 121
  avalanche ((List.range 4).foldl (fun h k =>
    h + foldProduct (acc.getD (2 * k) 0 ^^^ read64 secret (11 + 16 * k))
      (acc.getD (2 * k + 1) 0 ^^^ read64 secret (11 + 16 * k + 8)))
    (n.toUInt64 * prime64a))

/-- The hash of some bytes. -/
def hashBytes (bytes : ByteArray) : UInt64 :=
  let n := bytes.size
  if n = 0 then avalancheShort (read64 secret 56 ^^^ read64 secret 64)
  else if n ≤ 3 then upTo3 bytes
  else if n ≤ 8 then upTo8 bytes
  else if n ≤ 16 then upTo16 bytes
  else if n ≤ 128 then upTo128 bytes
  else if n ≤ 240 then upTo240 bytes
  else long bytes

/-- The hash of the UTF-8 bytes of a text. -/
def hashText (text : String) : UInt64 := hashBytes text.toUTF8

/-- A word as sixteen hexadecimal digits in lower case. -/
def hex (h : UInt64) : String :=
  let digits := Nat.toDigits 16 h.toNat
  String.ofList (List.replicate (16 - digits.length) '0' ++ digits)

end ComponentLikeness.Hash.Xxh3
