import TokenGate.Crypto.Rsa
import TokenGate.Crypto.Curve
import TokenGate.Crypto.Edwards
import TokenGate.Crypto.Mac

/-! Keys that tokens are verified with, and the algorithms that tokens name. -/

set_option autoImplicit false

namespace TokenGate

inductive Key where
  | rsaPublic (k : Rsa.PublicKey)
  | rsaPrivate (k : Rsa.PrivateKey)
  | curvePublic (c : Curve) (p : Curve.Point)
  | curvePrivate (c : Curve) (p : Curve.Point) (d : Nat)
  | edwardsPublic (c : Edwards) (point : Bytes)
  | edwardsPrivate (c : Edwards) (seed : Bytes)
  | secret (bytes : Bytes)
  deriving Repr, DecidableEq

inductive Algorithm where
  | unsigned
  | mac (h : Hash)
  | rsa (h : Hash)
  /-- RSA with a salt. -/
  | salted (h : Hash)
  | curve (c : Curve) (h : Hash)
  | edwards
  deriving Repr, DecidableEq

namespace Algorithm

def names : List (String × Algorithm) :=
  [("none", .unsigned),
   ("HS256", .mac .sha256), ("HS384", .mac .sha384), ("HS512", .mac .sha512),
   ("RS256", .rsa .sha256), ("RS384", .rsa .sha384), ("RS512", .rsa .sha512),
   ("PS256", .salted .sha256), ("PS384", .salted .sha384), ("PS512", .salted .sha512),
   ("ES256", .curve .p256 .sha256), ("ES256K", .curve .koblitz256 .sha256),
   ("ES384", .curve .p384 .sha384), ("ES512", .curve .p521 .sha512),
   ("ES521", .curve .p521 .sha512), ("EdDSA", .edwards)]

def ofName? (name : String) : Option Algorithm := names.lookup name

end Algorithm

end TokenGate
