import TokenGate.Certificate.Usage

/-! Signed timestamps of logs that a certificate was entered in. They are not in elements: each
part has its length in two octets in front. -/

set_option autoImplicit false

namespace TokenGate.Certificate

def takeExactly? (size : Nat) (bytes : Bytes) : Option (Bytes × Bytes) :=
  if bytes.length < size then none else some (bytes.take size, bytes.drop size)

def counted? (bytes : Bytes) : Option (Bytes × Bytes) := do
  let (size, rest) ← takeExactly? 2 bytes
  takeExactly? size.toNat rest

def knownHashes : List UInt8 := [1, 2, 3, 4, 5, 6]

def knownSignatures : List UInt8 := [1, 2, 3]

/-- Whether octets are a timestamp: version, log, time, further data, codes and signature. -/
def isTimestamp (bytes : Bytes) : Bool :=
  (do
    let (version, rest) ← takeExactly? 1 bytes
    let (_, rest) ← takeExactly? 32 rest
    let (_, rest) ← takeExactly? 8 rest
    let (_, rest) ← counted? rest
    let (hash, rest) ← takeExactly? 1 rest
    let (signature, rest) ← takeExactly? 1 rest
    let _ ← counted? rest
    some (version == [0] && hash.all knownHashes.contains &&
      signature.all knownSignatures.contains)).getD false

/-- Each part takes two octets at least, which bounds the first argument. -/
def timestampsFrom : Nat → Bytes → Option (List Bytes)
  | _, [] => some []
  | 0, _ => none
  | fuel + 1, bytes => do
    let (part, rest) ← counted? bytes
    let parts ← timestampsFrom fuel rest
    some (part :: parts)

def readTimestamps (e : Der.Element) : Except Kind Unit := do
  let bytes ← formed e.octets?
  let (list, _) ← formed (counted? bytes)
  let parts ← formed (timestampsFrom list.length list)
  require (parts.all isTimestamp)

end TokenGate.Certificate
