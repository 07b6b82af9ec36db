import Mathlib.Algebra.GroupWithZero.Nat
import Mathlib.Data.List.Basic

/-! SHA-256 of a byte string, as 64 hexadecimal digits. -/
namespace Sha256

abbrev Word := BitVec 32

/-- The working variables. -/
structure State where
  a : Word
  b : Word
  c : Word
  d : Word
  e : Word
  f : Word
  g : Word
  h : Word

def initial : State :=
  ⟨0x6a09e667#32, 0xbb67ae85#32, 0x3c6ef372#32, 0xa54ff53a#32,
    0x510e527f#32, 0x9b05688c#32, 0x1f83d9ab#32, 0x5be0cd19#32⟩

/-- The round constants. -/
def constants : List Word := [
    0x428a2f98#32, 0x71374491#32, 0xb5c0fbcf#32, 0xe9b5dba5#32, 0x3956c25b#32, 0x59f111f1#32,
    0x923f82a4#32, 0xab1c5ed5#32, 0xd807aa98#32, 0x12835b01#32, 0x243185be#32, 0x550c7dc3#32,
    0x72be5d74#32, 0x80deb1fe#32, 0x9bdc06a7#32, 0xc19bf174#32, 0xe49b69c1#32, 0xefbe4786#32,
    0x0fc19dc6#32, 0x240ca1cc#32, 0x2de92c6f#32, 0x4a7484aa#32, 0x5cb0a9dc#32, 0x76f988da#32,
    0x983e5152#32, 0xa831c66d#32, 0xb00327c8#32, 0xbf597fc7#32, 0xc6e00bf3#32, 0xd5a79147#32,
    0x06ca6351#32, 0x14292967#32, 0x27b70a85#32, 0x2e1b2138#32, 0x4d2c6dfc#32, 0x53380d13#32,
    0x650a7354#32, 0x766a0abb#32, 0x81c2c92e#32, 0x92722c85#32, 0xa2bfe8a1#32, 0xa81a664b#32,
    0xc24b8b70#32, 0xc76c51a3#32, 0xd192e819#32, 0xd6990624#32, 0xf40e3585#32, 0x106aa070#32,
    0x19a4c116#32, 0x1e376c08#32, 0x2748774c#32, 0x34b0bcb5#32, 0x391c0cb3#32, 0x4ed8aa4a#32,
    0x5b9cca4f#32, 0x682e6ff3#32, 0x748f82ee#32, 0x78a5636f#32, 0x84c87814#32, 0x8cc70208#32,
    0x90befffa#32, 0xa4506ceb#32, 0xbef9a3f7#32, 0xc67178f2#32]

def smallSigma0 (x : Word) : Word := x.rotateRight 7 ^^^ x.rotateRight 18 ^^^ x >>> 3

def smallSigma1 (x : Word) : Word := x.rotateRight 17 ^^^ x.rotateRight 19 ^^^ x >>> 10

def bigSigma0 (x : Word) : Word := x.rotateRight 2 ^^^ x.rotateRight 13 ^^^ x.rotateRight 22

def bigSigma1 (x : Word) : Word := x.rotateRight 6 ^^^ x.rotateRight 11 ^^^ x.rotateRight 25

def choose (x y z : Word) : Word := (x &&& y) ^^^ (~~~x &&& z)

def majority (x y z : Word) : Word := (x &&& y) ^^^ (x &&& z) ^^^ (y &&& z)

def State.round (s : State) (k w : Word) : State :=
  let t1 := s.h + bigSigma1 s.e + choose s.e s.f s.g + k + w
  let t2 := bigSigma0 s.a + majority s.a s.b s.c
  ⟨t1 + t2, s.a, s.b, s.c, s.d + t1, s.e, s.f, s.g⟩

def State.add (s t : State) : State :=
  ⟨s.a + t.a, s.b + t.b, s.c + t.c, s.d + t.d, s.e + t.e, s.f + t.f, s.g + t.g, s.h + t.h⟩

/-- The rounds of one block. The window holds the next sixteen words of the schedule. -/
def rounds : List Word → List Word → State → State
  | [], _, s => s
  | k :: ks, window, s =>
    let w := window.getD 0 0
    let next := smallSigma1 (window.getD 14 0) + window.getD 9 0 +
      smallSigma0 (window.getD 1 0) + w
    rounds ks (window.drop 1 ++ [next]) (s.round k w)

def compress (s : State) (block : List Word) : State := s.add (rounds constants block s)

def wordOfBytes (bytes : List Nat) : Word :=
  BitVec.ofNat 32 (bytes.foldl (fun acc b => 256 * acc + b) 0)

/-- Cut a list into pieces of a given length. -/
def pieces (n : Nat) : Nat → List Nat → List (List Nat)
  | 0, _ => []
  | count + 1, xs => xs.take n :: pieces n count (xs.drop n)

/-- The big-endian bytes of the message length in bits. -/
def lengthBytes (n : Nat) : List Nat :=
  [56, 48, 40, 32, 24, 16, 8, 0].map fun shift => 8 * n / 2 ^ shift % 256

def padded (bytes : List Nat) : List Nat :=
  bytes ++ 0x80 :: (List.replicate ((119 - bytes.length % 64) % 64) 0 ++ lengthBytes bytes.length)

def blocks (bytes : List Nat) : List (List Word) :=
  (pieces 64 ((padded bytes).length / 64) (padded bytes)).map fun piece =>
    (pieces 4 16 piece).map wordOfBytes

def digest (bytes : List Nat) : State := (blocks bytes).foldl compress initial

def hexDigit (n : Nat) : Char := "0123456789abcdef".toList.getD n '0'

def hexWord (w : Word) : List Char :=
  [7, 6, 5, 4, 3, 2, 1, 0].map fun i => hexDigit (w.toNat / 16 ^ i % 16)

def State.hex (s : State) : List Char :=
  [s.a, s.b, s.c, s.d, s.e, s.f, s.g, s.h].flatMap hexWord

def hexdigest (text : String) : String :=
  String.ofList (digest (text.toUTF8.data.toList.map UInt8.toNat)).hex

theorem isLowerHex_hexDigit : ∀ n, n < 16 →
    (hexDigit n).isDigit = true ∨ ('a' ≤ hexDigit n ∧ hexDigit n ≤ 'f') := by
  decide

theorem hex_length (s : State) : s.hex.length = 64 := by
  simp [State.hex, hexWord]

theorem mem_hex {s : State} {c : Char} (h : c ∈ s.hex) : c.isDigit = true ∨ ('a' ≤ c ∧ c ≤ 'f') := by
  simp only [State.hex, List.mem_flatMap, hexWord, List.mem_map] at h
  obtain ⟨w, _, i, _, rfl⟩ := h
  exact isLowerHex_hexDigit _ (Nat.mod_lt _ (by decide))

end Sha256

/-! HMAC with SHA-256, as 64 hexadecimal digits. -/
namespace Hmac

def blockSize : Nat := 64

def bytesOfWord (w : Sha256.Word) : List Nat :=
  [24, 16, 8, 0].map fun shift => w.toNat / 2 ^ shift % 256

/-- The raw digest. -/
def digest (bytes : List Nat) : List Nat :=
  let s := Sha256.digest bytes
  [s.a, s.b, s.c, s.d, s.e, s.f, s.g, s.h].flatMap bytesOfWord

/-- The key filled with zeros to a block; a longer key is hashed first. -/
def blockKey (key : List Nat) : List Nat :=
  let key := if blockSize < key.length then digest key else key
  key ++ List.replicate (blockSize - key.length) 0

def padded (key : List Nat) (pad : Nat) : List Nat := (blockKey key).map (· ^^^ pad)

/-- `hmac.new(key, message, hashlib.sha256).hexdigest()` -/
def hexdigest (key message : List Nat) : List Char :=
  (Sha256.digest (padded key 0x5c ++ digest (padded key 0x36 ++ message))).hex

/-- Its characters are ASCII, and none of them is a point. -/
theorem mem_hexdigest {key message : List Nat} {c : Char} (h : c ∈ hexdigest key message) :
    c.toNat < 128 ∧ c ≠ '.' := by
  rcases Sha256.mem_hex h with hdigit | ⟨hlow, hhigh⟩
  · refine ⟨?_, ?_⟩
    · simp only [Char.isDigit, Bool.and_eq_true, decide_eq_true_eq] at hdigit
      exact Nat.lt_of_le_of_lt (UInt32.le_iff_toNat_le.mp hdigit.2) (by decide)
    · rintro rfl
      exact absurd hdigit (by decide)
  · refine ⟨?_, ?_⟩
    · exact Nat.lt_of_le_of_lt (UInt32.le_iff_toNat_le.mp hhigh) (by decide)
    · rintro rfl
      exact absurd hlow (by decide)

end Hmac
