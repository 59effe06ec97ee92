import TokenGate.Json.Reader
import TokenGate.Text.Wide

/-! JSON in octets whose encoding is not told. A mark at the start decides; otherwise the
places of the zero octets among the first four do, because a JSON text starts with an ASCII
character. -/

set_option autoImplicit false

namespace TokenGate.Json

/-- The code points of octets in the encoding that their start shows; none if they are not
well-formed in it, apart from halves of pairs that stand alone. -/
def points? (bytes : Bytes) : Option (List CodePoint) :=
  match bytes with
  | 0xef :: 0xbb :: 0xbf :: rest => Utf8.decodePassing? rest
  | 0xff :: 0xfe :: 0 :: 0 :: rest => Wide.passing32? .little rest
  | 0 :: 0 :: 0xfe :: 0xff :: rest => Wide.passing32? .big rest
  | 0xff :: 0xfe :: rest => Wide.passing16? .little rest
  | 0xfe :: 0xff :: rest => Wide.passing16? .big rest
  | a :: b :: c :: d :: _ =>
    if a = 0 then
      if b = 0 then Wide.passing32? .big bytes else Wide.passing16? .big bytes
    else if b = 0 then
      if c ≠ 0 || d ≠ 0 then Wide.passing16? .little bytes
      else Wide.passing32? .little bytes
    else Utf8.decodePassing? bytes
  | [a, b] =>
    if a = 0 then Wide.passing16? .big bytes
    else if b = 0 then Wide.passing16? .little bytes
    else Utf8.decodePassing? bytes
  | _ => Utf8.decodePassing? bytes

def readBytes (dialect : Dialect) (bytes : Bytes) : Except Error Value :=
  match points? bytes with
  | none => .error .malformed
  | some points => read dialect points

end TokenGate.Json
