/-!
# Fingerprints of texts

`fingerprint s` is the 64-bit xxHash, with seed 0, of the UTF-8 bytes of `s`.

* `XxHash.stripe`   one round over four words of eight bytes;
* `XxHash.tail`     what is left below 32 bytes: words of eight bytes, one of four, single bytes;
* `XxHash.hash`     the hash of bytes.
-/

namespace Blocklist.XxHash

def prime1 : UInt64 := 0x9E3779B185EBCA87
def prime2 : UInt64 := 0xC2B2AE3D27D4EB4F
def prime3 : UInt64 := 0x165667B19E3779F9
def prime4 : UInt64 := 0x85EBCA77C2B2AE63
def prime5 : UInt64 := 0x27D4EB2F165667C5

def rotate (x : UInt64) (n : UInt64) : UInt64 := (x <<< n) ||| (x >>> (64 - n))

/-- `size` bytes from `i` on as a number, the last one counting most -/
def word (bytes : ByteArray) (i size : Nat) : UInt64 :=
  (List.range size).foldr (fun k n => (n <<< 8) ||| (bytes[i + k]?.getD 0).toUInt64) 0

def mix (acc input : UInt64) : UInt64 := rotate (acc + input * prime2) 31 * prime1

/-! ## stripes -/

structure Lanes where
  a : UInt64
  b : UInt64
  c : UInt64
  d : UInt64

def Lanes.init : Lanes := ⟨prime1 + prime2, prime2, 0, 0 - prime1⟩

def stripe (bytes : ByteArray) (i : Nat) (l : Lanes) : Lanes :=
  ⟨mix l.a (word bytes i 8), mix l.b (word bytes (i + 8) 8), mix l.c (word bytes (i + 16) 8),
   mix l.d (word bytes (i + 24) 8)⟩

def fold (h lane : UInt64) : UInt64 := (h ^^^ mix 0 lane) * prime1 + prime4

def Lanes.merge (l : Lanes) : UInt64 :=
  let h := rotate l.a 1 + rotate l.b 7 + rotate l.c 12 + rotate l.d 18
  fold (fold (fold (fold h l.a) l.b) l.c) l.d

/-- the hash after all whole stripes of 32 bytes -/
def stripes (bytes : ByteArray) : UInt64 :=
  if bytes.size < 32 then prime5
  else ((List.range (bytes.size / 32)).foldl (fun l k => stripe bytes (32 * k) l) .init).merge

/-! ## the rest -/

def mix8 (h word : UInt64) : UInt64 := rotate (h ^^^ mix 0 word) 27 * prime1 + prime4
def mix4 (h word : UInt64) : UInt64 := rotate (h ^^^ (word * prime1)) 23 * prime2 + prime3
def mix1 (h byte : UInt64) : UInt64 := rotate (h ^^^ (byte * prime5)) 11 * prime1

def tail (bytes : ByteArray) (h : UInt64) : UInt64 :=
  let i := bytes.size / 32 * 32
  let eights := (bytes.size - i) / 8
  let h := (List.range eights).foldl (fun h k => mix8 h (word bytes (i + 8 * k) 8)) h
  let i := i + 8 * eights
  let fours := (bytes.size - i) / 4
  let h := (List.range fours).foldl (fun h k => mix4 h (word bytes (i + 4 * k) 4)) h
  let i := i + 4 * fours
  (List.range (bytes.size - i)).foldl (fun h k => mix1 h (word bytes (i + k) 1)) h

def avalanche (h : UInt64) : UInt64 :=
  let h := (h ^^^ (h >>> 33)) * prime2
  let h := (h ^^^ (h >>> 29)) * prime3
  h ^^^ (h >>> 32)

def hash (bytes : ByteArray) : UInt64 :=
  avalanche (tail bytes (stripes bytes + bytes.size.toUInt64))

end Blocklist.XxHash

namespace Blocklist

def fingerprint (text : String) : UInt64 := XxHash.hash text.toUTF8

end Blocklist
