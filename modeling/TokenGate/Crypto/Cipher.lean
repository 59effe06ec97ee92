import TokenGate.Crypto.Aes
import TokenGate.Crypto.Des
import TokenGate.Crypto.Padding
import TokenGate.Crypto.Rc2

/-! Ciphers on blocks, and texts of chained blocks whose last one is padded. -/

set_option autoImplicit false

namespace TokenGate

inductive Cipher where
  | aes128
  | aes192
  | aes256
  | des
  | tripleDes
  /-- A key of 128 bits, all of which count. -/
  | rc2
  /-- A key of forty bits. -/
  | rc2Short
  deriving Repr, DecidableEq

namespace Cipher

def keySize : Cipher → Nat
  | aes128 | rc2 => 16
  | aes192 | tripleDes => 24
  | aes256 => 32
  | des => 8
  | rc2Short => 5

def blockSize : Cipher → Nat
  | aes128 | aes192 | aes256 => 16
  | des | tripleDes | rc2 | rc2Short => 8

inductive Schedule where
  | aes (keys : List Bytes)
  | des (keys : List UInt64)
  /-- Three keys; the one in the middle was used the other way round. -/
  | tripleDes (first second third : List UInt64)
  | rc2 (words : Array UInt16)

def schedule (c : Cipher) (key : Bytes) : Schedule :=
  match c with
  | aes128 | aes192 | aes256 => .aes (Aes.roundKeys key)
  | des => .des (Des.openingKeys key)
  | tripleDes =>
    .tripleDes (Des.openingKeys (key.take 8)) (Des.openingKeys ((key.drop 8).take 8))
      (Des.openingKeys (key.drop 16))
  | rc2 => .rc2 (Rc2.expand 128 key)
  | rc2Short => .rc2 (Rc2.expand 40 key)

def Schedule.opened (s : Schedule) (block : Bytes) : Bytes :=
  match s with
  | .aes keys => Aes.decryptBlock keys block
  | .des keys => Des.decryptBlock keys block
  | .tripleDes first second third =>
    Des.decryptBlock first (Des.decryptBlock second.reverse (Des.decryptBlock third block))
  | .rc2 words => Rc2.decryptBlock words block

/-- Open blocks, each of which was mixed with the one before it. -/
def Schedule.openedChain (s : Schedule) : Bytes → List Bytes → Bytes
  | _, [] => []
  | last, block :: rest => Bytes.xor (s.opened block) last ++ s.openedChain block rest

def decrypt? (c : Cipher) (key start text : Bytes) : Option Bytes :=
  if text.isEmpty || text.length % c.blockSize != 0 || start.length != c.blockSize then none
  else Padding.removed? c.blockSize ((c.schedule key).openedChain start (text.blocks c.blockSize))

end Cipher

end TokenGate
