import TokenGate.Bytes

/-! Decryption of blocks with AES. Octets are polynomials over two elements, modulo
`x^8 + x^4 + x^3 + x + 1`; the substitution is an inverse followed by an affine map. -/

set_option autoImplicit false

namespace TokenGate.Aes

def double (a : UInt8) : UInt8 := (a <<< 1) ^^^ (if a < 0x80 then 0 else 0x1b)

def times (a b : UInt8) : UInt8 :=
  go 8 a b 0
where
  go : Nat → UInt8 → UInt8 → UInt8 → UInt8
    | 0, _, _, acc => acc
    | n + 1, a, b, acc =>
      go n (a >>> 1) (double b) (if a &&& 1 = 1 then acc ^^^ b else acc)

/-- The inverse of an octet, its power 254; zero stays. -/
def inverse (a : UInt8) : UInt8 :=
  let a2 := times a a
  let a4 := times a2 a2
  let a8 := times a4 a4
  let a16 := times a8 a8
  let a32 := times a16 a16
  let a64 := times a32 a32
  let a128 := times a64 a64
  times a128 (times a64 (times a32 (times a16 (times a8 (times a4 a2)))))

def rotateLeft (n : UInt8) (a : UInt8) : UInt8 := (a <<< n) ||| (a >>> (8 - n))

def substitute (a : UInt8) : UInt8 :=
  let b := inverse a
  b ^^^ rotateLeft 1 b ^^^ rotateLeft 2 b ^^^ rotateLeft 3 b ^^^ rotateLeft 4 b ^^^ 0x63

def octets : List UInt8 := (List.range 256).map UInt8.ofNat

def substitution : Array UInt8 := (octets.map substitute).toArray

/-- Where each octet comes from under the substitution. -/
def restoration : Array UInt8 :=
  (octets.map fun b => (octets.find? fun a => substitute a == b).getD 0).toArray

def restore (a : UInt8) : UInt8 := restoration.getD a.toNat 0

def productTable (a : UInt8) : Array UInt8 := (octets.map (times a)).toArray

def by9 : Array UInt8 := productTable 9

def by11 : Array UInt8 := productTable 11

def by13 : Array UInt8 := productTable 13

def by14 : Array UInt8 := productTable 14

def look (table : Array UInt8) (a : UInt8) : UInt8 := table.getD a.toNat 0

def unmixColumn : Bytes → Bytes
  | [a, b, c, d] =>
    [look by14 a ^^^ look by11 b ^^^ look by13 c ^^^ look by9 d,
     look by9 a ^^^ look by14 b ^^^ look by11 c ^^^ look by13 d,
     look by13 a ^^^ look by9 b ^^^ look by14 c ^^^ look by11 d,
     look by11 a ^^^ look by13 b ^^^ look by9 c ^^^ look by14 d]
  | column => column

def unmix (block : Bytes) : Bytes := (block.blocks 4).flatMap unmixColumn

def unshift : Bytes → Bytes
  | [a0, a1, a2, a3, b0, b1, b2, b3, c0, c1, c2, c3, d0, d1, d2, d3] =>
    [a0, d1, c2, b3, b0, a1, d2, c3, c0, b1, a2, d3, d0, c1, b2, a3]
  | block => block

/-- Next column of a key schedule from the last column and the one a key's length before. -/
def nextColumn (length index : Nat) (power : UInt8) (last before : Bytes) : Bytes :=
  let sub (bs : Bytes) : Bytes := bs.map (look substitution)
  let turned : Bytes :=
    if index % length = 0 then
      match sub last with
      | [a, b, c, d] => [b ^^^ power, c, d, a]
      | bs => bs
    else if 6 < length ∧ index % length = 4 then sub last
    else last
  Bytes.xor before turned

/-- Columns of a key schedule, newest first. -/
def extendKey (length : Nat) : Nat → Nat → UInt8 → List Bytes → List Bytes
  | 0, _, _, columns => columns
  | count + 1, index, power, columns =>
    let column := nextColumn length index power (columns.headD []) (columns.getD (length - 1) [])
    extendKey length count (index + 1) (if index % length = 0 then double power else power)
      (column :: columns)

def roundKeys (key : Bytes) : List Bytes :=
  let length := key.length / 4
  let columns := extendKey length (4 * (length + 7) - length) length 1 (key.blocks 4).reverse
  (Bytes.blocks 16 columns.reverse.flatten).reverse

def unround (block key : Bytes) : Bytes := unmix (Bytes.xor ((unshift block).map restore) key)

def decryptRounds : List Bytes → Bytes → Bytes
  | [], block => block
  | [last], block => Bytes.xor ((unshift block).map restore) last
  | key :: rest, block => decryptRounds rest (unround block key)

def decryptBlock (keys : List Bytes) (block : Bytes) : Bytes :=
  match keys with
  | [] => block
  | first :: rest => decryptRounds rest (Bytes.xor block first)

end TokenGate.Aes
