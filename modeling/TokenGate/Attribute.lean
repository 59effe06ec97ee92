import TokenGate.Value.Basic

/-! The connector's token in the shape that message headers carry. -/

set_option autoImplicit false

namespace TokenGate

structure AttributeToken where
  value : Text
  format : String
  deriving Repr, DecidableEq

namespace AttributeToken

def defaultFormat : String := "JWT"

def toValue (t : AttributeToken) : Value :=
  .object
    [("@type", .str "ids:DynamicAttributeToken"),
     ("ids:tokenFormat", .object [("@id", .str ("idsc:" ++ t.format))]),
     ("ids:tokenValue", .str t.value)]

end AttributeToken

end TokenGate
