import TokenGate.Bytes

/-! Texts filled up to whole blocks: with their length behind them where a hash is taken, with
octets that tell their own number where a text is encrypted. -/

set_option autoImplicit false

namespace TokenGate.Padding

/-- A one bit, zeros, and the length in bits, which takes `size` octets, up to whole blocks of
eight times that size. -/
def closed (size : Nat) (written : Nat → Bytes) (bytes : Bytes) : Bytes :=
  let used := (bytes.length + 1 + size) % (8 * size)
  let zeros := if used = 0 then 0 else 8 * size - used
  bytes ++ [0x80] ++ List.replicate zeros 0 ++ written (8 * bytes.length)

/-- Take the padding of a last block off: its last octet tells its length, and all its octets are
that one. -/
def removed? (size : Nat) (bytes : Bytes) : Option Bytes :=
  match bytes.getLast? with
  | none => none
  | some last =>
    let n := last.toNat
    if n = 0 ∨ size < n ∨ bytes.length < n then none
    else if (bytes.drop (bytes.length - n)).all (· == last) then
      some (bytes.take (bytes.length - n))
    else none

end TokenGate.Padding
