import ObjectStore.Value.Equality

/-! # Mappings

Operations on the entries of a mapping. Writing to a key that is there keeps its place and the key
as it was first written; a new key goes last. -/

namespace ObjectStore.Entries

/-- The value of `key`, if it is there. -/
def get? (key : Value) : Entries → Option Value
  | [] => none
  | (k, v) :: es => if k.same key then some v else get? key es

/-- The entries with `key` set to `value`. -/
def put (key value : Value) : Entries → Entries
  | [] => [(key, value)]
  | (k, v) :: es => if k.same key then (k, value) :: es else (k, v) :: put key value es

/-- The entries `es` without those of `key`. -/
def erase (key : Value) (es : Entries) : Entries := es.filter fun e => !e.1.same key

/-- The entries `es` with `key` set to `value` unless it is there. -/
def putNew (key value : Value) (es : Entries) : Entries :=
  if (get? key es).isSome then es else es ++ [(key, value)]

/-- The entries `es` with each of `more` put in turn. -/
def putAll (es more : Entries) : Entries := more.foldl (fun acc e => put e.1 e.2 acc) es

/-- The entries of the sequence `pairs` of keys and values, where equal keys fall together. -/
def ofPairs (pairs : List (Value × Value)) : Entries := putAll [] pairs

/-- The value of `key`, a text, if it is there. -/
def getText? (key : String) (es : Entries) : Option Value := get? (.text key) es

/-- The entries `es` with the text `key` set to `value`. -/
def putText (key : String) (value : Value) (es : Entries) : Entries := put (.text key) value es

/-- The entries `es` without the text `key`. -/
def eraseText (key : String) (es : Entries) : Entries := erase (.text key) es

/-- The `items` without those equal to an earlier one. -/
def distinct (items : List Value) : List Value :=
  (items.foldl (fun acc x => if acc.any (·.same x) then acc else x :: acc) []).reverse

/-- `get? key [] = none`: there is nothing in an empty mapping. -/
@[simp] theorem get?_nil (key : Value) : get? key [] = none := rfl

/-- `getText? key ((.text k, v) :: es)`: A text is looked up by its characters: the first entry with
that key answers. -/
theorem getText?_cons_text (key k : String) (v : Value) (es : Entries) :
    getText? key ((.text k, v) :: es) = if k = key then some v else getText? key es := by
  simp [getText?, get?]

/-- `put key value [] = [(key, value)]`: an empty mapping gets one entry. -/
@[simp] theorem put_nil (key value : Value) : put key value [] = [(key, value)] := rfl

/-- `erase key [] = []`: nothing is taken out of an empty mapping. -/
@[simp] theorem erase_nil (key : Value) : erase key [] = [] := rfl

end ObjectStore.Entries
