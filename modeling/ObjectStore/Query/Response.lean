import ObjectStore.Query.Fields
import ObjectStore.Value.Shown

/-! # Responses

The answer to a query is an envelope: a mapping with the objects found below the entries `data`,
`Get` and the collection's name, or with errors. Each object's block of additions is replaced by the
identifier that it holds.

* `Response.records`: the objects of an envelope. -/

namespace ObjectStore.Response

/-- An answer without the expected structure at `segment`. -/
def malformed {α : Type} (message segment : String) : Except Failure α :=
  .error (Failure.parseError (.text message) (.text segment) [])

/-- What is told of a reported error: its message if it is a mapping, its own text if not and if it
can be written. -/
def reportOf : Value → Except Failure Value
  | .dict es => .ok ((Entries.getText? "message" es).getD (.text "Unknown error"))
  | v => if v.isWritable then .ok (.text v.written) else .error (.badValue .numberTooLong)

/-- The text that is told of an error; a message need not be one. -/
def reportText : Value → Except Failure String
  | .text s => .ok s
  | v => .error (.misuse (.notText v.typeName))

/-- The failure by which `errors` of the store are reported. What is told of them is gathered before
any of it is looked at. -/
def reported {α : Type} (errors : Value) : Except Failure α :=
  match errors.items? with
  | none => .error (.misuse (.notIterable errors.typeName))
  | some items => do
    let reports ← items.mapM reportOf
    let texts ← reports.mapM reportText
    let m := "GraphQL query failed: " ++ ", ".intercalate texts
    .error (Failure.queryError (.text m) items [])

/-- The mapping below the entry `segment` of `es`. -/
def below (segment : String) (es : Entries) : Except Failure Entries :=
  match Entries.getText? segment es with
  | some (.dict inner) => .ok inner
  | _ => malformed ("Query response is missing the '" ++ segment ++ "' object") segment

/-- The object of the item `es`: its block of additions is replaced by the identifier in it. -/
def record (es : Entries) : Entries :=
  let rest := Entries.eraseText Fields.metadataKey es
  match Entries.getText? Fields.metadataKey es with
  | some (.dict additions) =>
    match Entries.getText? "id" additions with
    | some id => rest.putText "id" id
    | none => rest
  | _ => rest

/-- The objects of the items of a result of `collection`, the first of which has an index. -/
def recordsFrom (collection : String) : Nat → List Value → Except Failure (List Entries)
  | _, [] => .ok []
  | index, .dict es :: items => (recordsFrom collection (index + 1) items).map (record es :: ·)
  | index, _ :: _ =>
    malformed ("Result " ++ toString index ++ " for '" ++ collection ++ "' is not an object")
      (collection ++ "[" ++ toString index ++ "]")

/-- The objects found for a collection, below `Get`. -/
def resultsOf (collection : String) (es : Entries) : Except Failure (List Entries) :=
  match Entries.getText? collection es with
  | none => malformed ("Query response has no results for '" ++ collection ++ "'") collection
  | some (.list items) => recordsFrom collection 0 items
  | some v =>
    malformed ("Results for '" ++ collection ++ "' must be a list, got " ++ v.typeName) collection

/-- The objects of `collection` in an envelope. -/
def records (collection : String) : Value → Except Failure (List Entries)
  | .dict es => do
    let errors := (Entries.getText? "errors" es).getD .null
    if errors.truthy then reported errors
    else
      let data ← below "data" es
      let got ← below "Get" data
      resultsOf collection got
  | v => malformed ("Query response must be an object, got " ++ v.typeName) "<root>"

end ObjectStore.Response
