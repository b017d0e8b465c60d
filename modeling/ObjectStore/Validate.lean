import ObjectStore.Failure.Basic
import ObjectStore.Text.Blank

/-! # Checks of names, tenants, limits and literals

Each check returns its argument, in the form in which the rest of the library holds it, or the
objection to it. -/

namespace ObjectStore.Validate

/-- The greatest number of characters of a collection's name. -/
def maxNameLength : Nat := 256

/-- The greatest limit of a query. -/
def maxLimit : Nat := 100000

/-- Whether `c` may begin a name: an ASCII letter or an underscore. -/
def isNameStart (c : Char) : Bool := c.isAlpha || c == '_'

/-- Whether `c` may stand in a name: an ASCII letter or digit or an underscore. -/
def isNameChar (c : Char) : Bool := c.isAlphanum || c == '_'

/-- Whether a text is a name of the query language. -/
def isName : List Char → Bool
  | [] => false
  | c :: cs => isNameStart c && cs.all isNameChar

/-- The text `cs` without one line feed at its end. -/
def dropFinalLineFeed (cs : List Char) : List Char :=
  if cs.getLast? = some '\n' then cs.dropLast else cs

/-- A collection's name: a name of the query language of bounded length. One line feed at the end
is let through. -/
def collectionName : Value → Except Invalid String
  | .text name =>
    if name.isEmpty then .error .collectionEmpty
    else if maxNameLength < name.length then .error (.collectionTooLong name.length maxNameLength)
    else if isName (dropFinalLineFeed name.toList) then .ok name
    else .error (.collectionMalformed name)
  | v => .error (.collectionNotText v.typeName)

/-- A property's name: any text that is not blank. -/
def propertyName : Value → Except Invalid String
  | .text name => if Text.allBlank name.toList then .error .propertyBlank else .ok name
  | v => .error (.propertyNotText v.typeName)

/-- A tenant's name, or none. -/
def tenant : Value → Except Invalid (Option String)
  | .null => .ok none
  | .text name => if name.isEmpty then .error .badTenant else .ok (some name)
  | _ => .error .badTenant

/-- A limit: a whole number from one to `greatest`. -/
def limitUpTo (greatest : Value) : Value → Except Failure Int
  | .int n =>
    if n < 1 then .error (.rejected (.int n) (.limitTooSmall n))
    else
      match greatest.number? with
      | none => .error (.misuse (.unordered ">" "int" greatest.qualifiedTypeName))
      | some m =>
        if m.lt (.int n) then
          .error (.rejected (.tuple [.int n, greatest]) (.limitTooLarge n greatest))
        else .ok n
  | v => .error (.invalid (.limitNotWhole v.typeName))

/-- A limit of a query, up to `maxLimit`. -/
def limit (v : Value) : Except Failure Int := limitUpTo (.int maxLimit) v

/-- The literal that `v` is: a value of a kind that filters compare with, and finite if it is a
double. An objection names the `place` at which it is given. -/
def literal (place : String) (v : Value) : Except Invalid Literal :=
  match v with
  | .null => .error (.literalNull place)
  | _ =>
    match v.literal? with
    | none => .error (.literalKind place v.typeName)
    | some (.double x) => if x.isFinite then .ok (.double x) else .error (.literalNotFinite place x)
    | some l => .ok l

end ObjectStore.Validate
