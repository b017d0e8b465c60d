import ObjectStore.Text.Base64
import ObjectStore.Yaml.Numeral
import ObjectStore.Yaml.Spot

/-! # Scalars

The value of a text as a scalar of some kind. A text that only its tag makes one of a kind need not
have a value of that kind.

* `Scalar.value`: the value of a scalar. -/

namespace ObjectStore.Yaml.Scalar

/-- The truth value of a word, in letters of any case. -/
def truth (text : String) : Except Failure Bool :=
  let word := text.map Char.toLower
  if ["yes", "true", "on"].contains word then .ok true
  else if ["no", "false", "off"].contains word then .ok false
  else .error .unknownWord

/-- The date or the reading that a text writes; a line feed at its end does not count. -/
def timestamp (text : String) : Except Failure Value :=
  (Timestamp.read? (Form.withoutLineFeed text.toList)).getD (.error .missingAttribute)

/-- The bytes that a text in ASCII writes. -/
def binary (text : String) : Except Failure Value :=
  if text.toList.all fun c => c.toNat < 0x80 then
    match Text.Base64.decode? text.toList with
    | some bs => .ok (.bytes bs)
    | none => malformed
  else malformed

/-- The value of a text as a scalar of a kind. -/
def value (kind : Kind) (text : String) : Except Failure Value :=
  match kind with
  | .null => .ok .null
  | .bool => (truth text).map .bool
  | .int => (Numeral.whole text).map .int
  | .float => (Numeral.double text).map .double
  | .timestamp => timestamp text
  | .binary => binary text
  | .str => .ok (.text text)
  | _ => malformed

end ObjectStore.Yaml.Scalar
