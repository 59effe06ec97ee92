import TokenGate.Crypto.Mac
import TokenGate.Text.Wide

/-! Keys from passwords, by repeated hashing of several kinds. -/

set_option autoImplicit false

namespace TokenGate.Hash

/-- Fold `count` further rounds of hashing into a block. -/
def stretchFrom (h : Hash) (password : Bytes) : Nat → Bytes → Bytes → Bytes
  | 0, _, block => block
  | count + 1, last, block =>
    let next := h.mac password last
    stretchFrom h password count next (Bytes.xor block next)

def stretchBlock (h : Hash) (password salt : Bytes) (rounds index : Nat) : Bytes :=
  let first := h.mac password (salt ++ Bytes.ofNat 4 index)
  stretchFrom h password (rounds - 1) first first

def stretch (h : Hash) (password salt : Bytes) (rounds size : Nat) : Bytes :=
  let count := (size + h.size - 1) / h.size
  ((List.range count).flatMap fun i => stretchBlock h password salt rounds (i + 1)).take size

def chainFrom (h : Hash) (password salt : Bytes) : Nat → Bytes → Bytes
  | 0, _ => []
  | count + 1, last =>
    let next := h.run (last ++ password ++ salt)
    next ++ chainFrom h password salt count next

def chain (h : Hash) (password salt : Bytes) (size : Nat) : Bytes :=
  (chainFrom h password salt ((size + h.size - 1) / h.size) []).take size

def repeated (h : Hash) : Nat → Bytes → Bytes
  | 0, bytes => bytes
  | rounds + 1, bytes => repeated h rounds (h.run bytes)

/-- Octets over and over, up to whole blocks. -/
def cycled (h : Hash) (bytes : Bytes) : Bytes :=
  let size := h.blockSize * ((bytes.length + h.blockSize - 1) / h.blockSize)
  ((List.replicate size bytes).flatten).take size

/-- Add a block and one to each block of a text, without carry beyond it. -/
def advance (h : Hash) (block text : Bytes) : Bytes :=
  (text.blocks h.blockSize).flatMap fun part =>
    Bytes.ofNat h.blockSize (part.toNat + block.toNat + 1)

def diversifyFrom (h : Hash) (mark : Bytes) (rounds : Nat) : Nat → Bytes → Bytes
  | 0, _ => []
  | count + 1, text =>
    let next := h.repeated rounds (mark ++ text)
    next ++ diversifyFrom h mark rounds count
      (h.advance ((List.replicate h.blockSize next).flatten.take h.blockSize) text)

/-- A key of `size` octets for a purpose. The password counts in UTF-16 with a zero behind it. -/
def diversify (h : Hash) (purpose : UInt8) (password : List Char) (salt : Bytes)
    (rounds size : Nat) : Bytes :=
  let password := Wide.encode16 password ++ [0, 0]
  let mark := List.replicate h.blockSize purpose
  (diversifyFrom h mark (max rounds 1) ((size + h.size - 1) / h.size)
    (h.cycled salt ++ h.cycled password)).take size

end TokenGate.Hash
