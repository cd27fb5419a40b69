/-!
# SHA-256

The digest of a byte sequence by the Secure Hash Algorithm with 256 bits, and its text in
lower-case hexadecimal.

## Main definitions

* `Digest.sha256` — the eight words of the digest.
* `Digest.hexOf` — the digest of a string's UTF-8 bytes, in 64 hexadecimal digits.
-/

namespace ModelSchema.Digest

/-- The first 32 bits of the fractional parts of the cube roots of the first 64 primes. -/
def roundWords : Array UInt32 := #[
  0x428a2f98, 0x71374491, 0xb5c0fbcf, 0xe9b5dba5, 0x3956c25b, 0x59f111f1, 0x923f82a4, 0xab1c5ed5,
  0xd807aa98, 0x12835b01, 0x243185be, 0x550c7dc3, 0x72be5d74, 0x80deb1fe, 0x9bdc06a7, 0xc19bf174,
  0xe49b69c1, 0xefbe4786, 0x0fc19dc6, 0x240ca1cc, 0x2de92c6f, 0x4a7484aa, 0x5cb0a9dc, 0x76f988da,
  0x983e5152, 0xa831c66d, 0xb00327c8, 0xbf597fc7, 0xc6e00bf3, 0xd5a79147, 0x06ca6351, 0x14292967,
  0x27b70a85, 0x2e1b2138, 0x4d2c6dfc, 0x53380d13, 0x650a7354, 0x766a0abb, 0x81c2c92e, 0x92722c85,
  0xa2bfe8a1, 0xa81a664b, 0xc24b8b70, 0xc76c51a3, 0xd192e819, 0xd6990624, 0xf40e3585, 0x106aa070,
  0x19a4c116, 0x1e376c08, 0x2748774c, 0x34b0bcb5, 0x391c0cb3, 0x4ed8aa4a, 0x5b9cca4f, 0x682e6ff3,
  0x748f82ee, 0x78a5636f, 0x84c87814, 0x8cc70208, 0x90befffa, 0xa4506ceb, 0xbef9a3f7, 0xc67178f2]

/-- The eight working words. -/
structure State where
  a : UInt32
  b : UInt32
  c : UInt32
  d : UInt32
  e : UInt32
  f : UInt32
  g : UInt32
  h : UInt32

/-- The first 32 bits of the fractional parts of the square roots of the first eight primes. -/
def State.start : State :=
  ⟨0x6a09e667, 0xbb67ae85, 0x3c6ef372, 0xa54ff53a, 0x510e527f, 0x9b05688c, 0x1f83d9ab, 0x5be0cd19⟩

def State.toList (s : State) : List UInt32 := [s.a, s.b, s.c, s.d, s.e, s.f, s.g, s.h]

def State.add (s t : State) : State :=
  ⟨s.a + t.a, s.b + t.b, s.c + t.c, s.d + t.d, s.e + t.e, s.f + t.f, s.g + t.g, s.h + t.h⟩

/-- Rotation to the right by `n` bits. -/
def rotateRight (x n : UInt32) : UInt32 := (x >>> n) ||| (x <<< (32 - n))

/-- The message with a one bit, zero bits up to eight bytes short of a full block, and its length
in bits. -/
def pad (message : ByteArray) : ByteArray :=
  let n := message.size
  let zeros := (55 + 64 - n % 64) % 64
  let marked := (List.replicate zeros (0 : UInt8)).foldl ByteArray.push (message.push 0x80)
  (List.range 8).foldl (fun bs i => bs.push (UInt8.ofNat ((8 * n) >>> (8 * (7 - i))))) marked

/-- The word of four bytes at `i`, the first byte highest. -/
def wordAt (bytes : ByteArray) (i : Nat) : UInt32 :=
  (List.range 4).foldl (fun w k => (w <<< 8) ||| (bytes.get! (i + k)).toUInt32) 0

/-- The 64 words that the rounds of a block use: its own sixteen, and 48 mixed from them. -/
def schedule (bytes : ByteArray) (offset : Nat) : Array UInt32 :=
  let own := ((List.range 16).map fun i => wordAt bytes (offset + 4 * i)).toArray
  (List.range 48).foldl (fun w k =>
    let x := w[k + 1]!
    let y := w[k + 14]!
    let s0 := rotateRight x 7 ^^^ rotateRight x 18 ^^^ (x >>> 3)
    let s1 := rotateRight y 17 ^^^ rotateRight y 19 ^^^ (y >>> 10)
    w.push (w[k]! + s0 + w[k + 9]! + s1)) own

/-- One round with round word `k` and message word `w`. -/
def State.round (s : State) (k w : UInt32) : State :=
  let s1 := rotateRight s.e 6 ^^^ rotateRight s.e 11 ^^^ rotateRight s.e 25
  let choice := (s.e &&& s.f) ^^^ ((~~~ s.e) &&& s.g)
  let t1 := s.h + s1 + choice + k + w
  let s0 := rotateRight s.a 2 ^^^ rotateRight s.a 13 ^^^ rotateRight s.a 22
  let majority := (s.a &&& s.b) ^^^ (s.a &&& s.c) ^^^ (s.b &&& s.c)
  ⟨t1 + (s0 + majority), s.a, s.b, s.c, s.d + t1, s.e, s.f, s.g⟩

/-- The state after the block at `offset`. -/
def State.block (s : State) (bytes : ByteArray) (offset : Nat) : State :=
  let words := schedule bytes offset
  s.add ((List.range 64).foldl (fun t i => t.round roundWords[i]! words[i]!) s)

/-- The digest of a message. -/
def sha256 (message : ByteArray) : State :=
  let bytes := pad message
  (List.range (bytes.size / 64)).foldl (fun s i => s.block bytes (64 * i)) State.start

/-- A word in eight hexadecimal digits. -/
def hexWord (w : UInt32) : List Char :=
  (List.range 8).map fun i => Nat.digitChar ((w.toNat >>> (4 * (7 - i))) % 16)

/-- The digest of the UTF-8 bytes of `s` in lower-case hexadecimal. -/
def hexOf (s : String) : String :=
  String.ofList ((sha256 s.toUTF8).toList.flatMap hexWord)

end ModelSchema.Digest
