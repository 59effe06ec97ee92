import TokenGate.Crypto.Md5
import TokenGate.Crypto.Sha1
import TokenGate.Crypto.Sha2

/-! Hash functions by name. -/

set_option autoImplicit false

namespace TokenGate

inductive Hash where
  | md5
  | sha1
  | sha224
  | sha256
  | sha384
  | sha512
  deriving Repr, DecidableEq

namespace Hash

def blockSize : Hash → Nat
  | md5 | sha1 | sha224 | sha256 => 64
  | sha384 | sha512 => 128

def size : Hash → Nat
  | md5 => 16
  | sha1 => 20
  | sha224 => 28
  | sha256 => 32
  | sha384 => 48
  | sha512 => 64

def run : Hash → Bytes → Bytes
  | md5, bytes => Md5.hash bytes
  | sha1, bytes => Sha1.hash bytes
  | sha224, bytes => (Sha2.family32.hash Sha2.start224 bytes).take 28
  | sha256, bytes => Sha2.family32.hash Sha2.start256 bytes
  | sha384, bytes => (Sha2.family64.hash Sha2.start384 bytes).take 48
  | sha512, bytes => Sha2.family64.hash Sha2.start512 bytes

end Hash

end TokenGate
