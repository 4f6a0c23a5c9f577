/-! # SHA-256

The digest of FIPS 180-4: the message is padded to blocks of 64 bytes, and each block is compressed
into a state of eight words.
-/

namespace RpcScaffold.Sha256

structure State where
  a : UInt32
  b : UInt32
  c : UInt32
  d : UInt32
  e : UInt32
  f : UInt32
  g : UInt32
  h : UInt32
  deriving Repr, DecidableEq

def initial : State where
  a := 0x6a09e667
  b := 0xbb67ae85
  c := 0x3c6ef372
  d := 0xa54ff53a
  e := 0x510e527f
  f := 0x9b05688c
  g := 0x1f83d9ab
  h := 0x5be0cd19

def roundConstants : Array UInt32 := #[
  0x428a2f98, 0x71374491, 0xb5c0fbcf, 0xe9b5dba5, 0x3956c25b, 0x59f111f1, 0x923f82a4, 0xab1c5ed5,
  0xd807aa98, 0x12835b01, 0x243185be, 0x550c7dc3, 0x72be5d74, 0x80deb1fe, 0x9bdc06a7, 0xc19bf174,
  0xe49b69c1, 0xefbe4786, 0x0fc19dc6, 0x240ca1cc, 0x2de92c6f, 0x4a7484aa, 0x5cb0a9dc, 0x76f988da,
  0x983e5152, 0xa831c66d, 0xb00327c8, 0xbf597fc7, 0xc6e00bf3, 0xd5a79147, 0x06ca6351, 0x14292967,
  0x27b70a85, 0x2e1b2138, 0x4d2c6dfc, 0x53380d13, 0x650a7354, 0x766a0abb, 0x81c2c92e, 0x92722c85,
  0xa2bfe8a1, 0xa81a664b, 0xc24b8b70, 0xc76c51a3, 0xd192e819, 0xd6990624, 0xf40e3585, 0x106aa070,
  0x19a4c116, 0x1e376c08, 0x2748774c, 0x34b0bcb5, 0x391c0cb3, 0x4ed8aa4a, 0x5b9cca4f, 0x682e6ff3,
  0x748f82ee, 0x78a5636f, 0x84c87814, 0x8cc70208, 0x90befffa, 0xa4506ceb, 0xbef9a3f7, 0xc67178f2]

/-! ## Words -/

def rotate (x : UInt32) (n : UInt32) : UInt32 := (x >>> n) ||| (x <<< (32 - n))

def bigSigma0 (x : UInt32) : UInt32 := rotate x 2 ^^^ rotate x 13 ^^^ rotate x 22

def bigSigma1 (x : UInt32) : UInt32 := rotate x 6 ^^^ rotate x 11 ^^^ rotate x 25

def smallSigma0 (x : UInt32) : UInt32 := rotate x 7 ^^^ rotate x 18 ^^^ (x >>> 3)

def smallSigma1 (x : UInt32) : UInt32 := rotate x 17 ^^^ rotate x 19 ^^^ (x >>> 10)

def choose (x y z : UInt32) : UInt32 := (x &&& y) ^^^ (~~~x &&& z)

def majority (x y z : UInt32) : UInt32 := (x &&& y) ^^^ (x &&& z) ^^^ (y &&& z)

/-! ## Padding -/

/-- The number in eight bytes, the highest first. -/
def lengthBytes (n : Nat) : ByteArray :=
  ⟨(Array.range 8).map fun i => UInt8.ofNat (n >>> (8 * (7 - i)))⟩

def zeros (n : Nat) : ByteArray := ⟨Array.replicate n 0⟩

/-- A one bit, zeros up to eight bytes before the end of a block, and the length in bits. -/
def pad (message : ByteArray) : ByteArray :=
  message.push 0x80 ++ zeros ((119 - message.size % 64) % 64) ++ lengthBytes (8 * message.size)

/-! ## Compression -/

def byteAt (bytes : ByteArray) (i : Nat) : UInt32 := (bytes[i]?.getD 0).toUInt32

def wordAt (bytes : ByteArray) (i : Nat) : UInt32 :=
  (byteAt bytes i <<< 24) ||| (byteAt bytes (i + 1) <<< 16) ||| (byteAt bytes (i + 2) <<< 8)
    ||| byteAt bytes (i + 3)

/-- The word after the words `w`, for the block that starts at `start`. -/
def nextWord (bytes : ByteArray) (start : Nat) (w : Array UInt32) : UInt32 :=
  let t := w.size
  if t < 16 then wordAt bytes (start + 4 * t)
  else
    smallSigma1 (w.getD (t - 2) 0) + w.getD (t - 7) 0 + smallSigma0 (w.getD (t - 15) 0)
      + w.getD (t - 16) 0

/-- One word for each of the 64 rounds. -/
def schedule (bytes : ByteArray) (start : Nat) : Array UInt32 :=
  (List.range 64).foldl (fun w _ => w.push (nextWord bytes start w)) #[]

def round (s : State) (constant word : UInt32) : State :=
  let t1 := s.h + bigSigma1 s.e + choose s.e s.f s.g + constant + word
  let t2 := bigSigma0 s.a + majority s.a s.b s.c
  ⟨t1 + t2, s.a, s.b, s.c, s.d + t1, s.e, s.f, s.g⟩

def State.add (s t : State) : State :=
  ⟨s.a + t.a, s.b + t.b, s.c + t.c, s.d + t.d, s.e + t.e, s.f + t.f, s.g + t.g, s.h + t.h⟩

def compress (bytes : ByteArray) (s : State) (start : Nat) : State :=
  let w := schedule bytes start
  s.add ((List.range 64).foldl (fun s t => round s (roundConstants.getD t 0) (w.getD t 0)) s)

def hash (message : ByteArray) : State :=
  let padded := pad message
  (List.range (padded.size / 64)).foldl (fun s i => compress padded s (64 * i)) initial

/-! ## Text -/

/-- Eight lower-case hexadecimal digits. -/
def wordText (x : UInt32) : List Char :=
  (List.range 8).map fun i => Nat.digitChar (x.toNat >>> (4 * (7 - i)) % 16)

def State.text (s : State) : String :=
  String.ofList ([s.a, s.b, s.c, s.d, s.e, s.f, s.g, s.h].flatMap wordText)

def digest (text : String) : String := (hash text.toUTF8).text

end RpcScaffold.Sha256
