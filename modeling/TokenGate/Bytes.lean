/-! Octet strings and the unsigned integers they denote, most significant octet first. -/

set_option autoImplicit false

namespace TokenGate

abbrev Bytes := List UInt8

namespace Bytes

def toNat (bytes : Bytes) : Nat := bytes.foldl (fun n b => 256 * n + b.toNat) 0

def ofNat : Nat → Nat → Bytes
  | 0, _ => []
  | size + 1, n => UInt8.ofNat (n / Nat.pow 256 size % 256) :: ofNat size n

def ofWord (w : UInt32) : Bytes :=
  [(w >>> 24).toUInt8, (w >>> 16).toUInt8, (w >>> 8).toUInt8, w.toUInt8]

def ofWord64 (w : UInt64) : Bytes :=
  [(w >>> 56).toUInt8, (w >>> 48).toUInt8, (w >>> 40).toUInt8, (w >>> 32).toUInt8,
   (w >>> 24).toUInt8, (w >>> 16).toUInt8, (w >>> 8).toUInt8, w.toUInt8]

def xor (a b : Bytes) : Bytes := List.zipWith (· ^^^ ·) a b

/-- Two hexadecimal digits an octet, with the given letters for ten to fifteen. -/
def hexPair (letter : Nat → Char) (b : UInt8) : List Char :=
  [letter (b.toNat / 16), letter (b.toNat % 16)]

/-- Cut into blocks of `size` octets, the last one possibly shorter. -/
def blocks (size : Nat) (bytes : Bytes) : List Bytes :=
  go (bytes.length + 1) bytes
where
  go : Nat → Bytes → List Bytes
    | 0, _ => []
    | fuel + 1, bytes =>
      if bytes.isEmpty then [] else bytes.take size :: go fuel (bytes.drop size)

end Bytes

end TokenGate
