import TokenGate.Crypto.Hash

/-! Keyed hashing. -/

set_option autoImplicit false

namespace TokenGate.Hash

/-- A key filled up to one block; a longer one is hashed first. -/
def blockKey (h : Hash) (key : Bytes) : Bytes :=
  let key := if h.blockSize < key.length then h.run key else key
  key ++ List.replicate (h.blockSize - key.length) 0

def mac (h : Hash) (key message : Bytes) : Bytes :=
  let key := h.blockKey key
  h.run (key.map (· ^^^ 0x5c) ++ h.run (key.map (· ^^^ 0x36) ++ message))

end TokenGate.Hash
