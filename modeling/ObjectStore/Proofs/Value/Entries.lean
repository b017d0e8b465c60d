import Mathlib
import ObjectStore.Value.Entries

/-! # Entries of mappings

A text is equal to no key but itself, so what is read, written and erased under a text key is told
by the keys that are that text. Writing to a key keeps the entries before it and behind it; a key
that is not there comes last.

* `Entries.eraseText_eq_filter`: what is left when a key is erased,
  `Entries.getText?_eraseText_of_ne`: the values of the other keys.
* `Entries.putText_of_forall_ne`, `Entries.putText_append_cons`: a key that is written to.
* `Entries.exists_eq_append_cons_or_forall_ne`: where a key stands, if it is there. -/

namespace ObjectStore

namespace Value

/-- `v.text? = some s ↔ v = .text s`. -/
theorem text?_eq_some_iff {v : Value} {s : String} : v.text? = some s ↔ v = .text s := by
  cases v <;> simp [text?]

/-- `k.same (text key) = true ↔ k = text key`: only a text is the same as a text. -/
theorem same_text_eq_true {k : Value} {key : String} : k.same (text key) = true ↔ k = text key := by
  cases k with
  | text s => simp
  | _ => simp [same, number?]

/-- `k.same (text key) = false`: A value other than a text is not equal to any. -/
theorem same_text_eq_false {k : Value} {key : String} (h : k ≠ text key) :
    k.same (text key) = false :=
  Bool.eq_false_iff.mpr fun hsame => h (same_text_eq_true.mp hsame)

end Value

namespace Entries

variable {key : String} {v w : Value} {es front back : Entries}

/-- `eraseText key es`: what is left when a key is erased. -/
theorem eraseText_eq_filter (key : String) (es : Entries) :
    eraseText key es = es.filter fun e => e.1.text? ≠ some key := by
  refine List.filter_congr fun e _ => ?_
  by_cases h : e.1 = .text key
  · simp [h, Value.text?]
  · rw [Value.same_text_eq_false h]
    simpa [Value.text?_eq_some_iff] using h

/-- `get? key es = some v`: the value of a key is that of one of the entries. -/
theorem exists_mem_of_get? {key : Value} (h : get? key es = some v) :
    ∃ e ∈ es, e.2 = v := by
  induction es with
  | nil => cases h
  | cons e es ih =>
    obtain ⟨k, w⟩ := e
    rw [get?] at h
    split at h
    · exact ⟨(k, w), List.mem_cons_self, Option.some.inj h⟩
    · obtain ⟨e, he, hv⟩ := ih h
      exact ⟨e, List.mem_cons_of_mem _ he, hv⟩

/-- `getText? key (eraseText other es) = getText? key es`: erasing a key keeps the values of the
others. -/
theorem getText?_eraseText_of_ne {other : String} (h : other ≠ key) (es : Entries) :
    getText? key (eraseText other es) = getText? key es := by
  induction es with
  | nil => rfl
  | cons e es ih =>
    obtain ⟨k, v⟩ := e
    by_cases hk : k = .text key
    · -- The entry of the key: it is found, and the other key does not erase it.
      subst hk
      have hkept : Value.same (.text key) (.text other) = false :=
        Value.same_text_eq_false (by simpa using h.symm)
      simp [eraseText, erase, hkept, getText?, get?]
    · -- Another entry: it is passed over, whether it was erased or not.
      have hskip : ∀ es' : Entries,
          getText? key ((k, v) :: es') = getText? key es' := by
        intro es'
        simp [getText?, get?, Value.same_text_eq_false hk]
      rw [hskip, ← ih, eraseText, erase, List.filter_cons]
      split
      · exact hskip _
      · rfl

/-- `putText key v (e :: es) = e :: putText key v es`: an entry with another key stays where it
is. -/
theorem putText_cons_of_ne {e : Value × Value} (h : e.1 ≠ .text key) :
    putText key v (e :: es) = e :: putText key v es := by
  obtain ⟨k, w⟩ := e
  rw [putText, put, if_neg (by simpa using Value.same_text_eq_false h)]
  rfl

/-- `putText key v es = es ++ [(.text key, v)]`: A key that is not there comes last. -/
theorem putText_of_forall_ne (h : ∀ e ∈ es, e.1 ≠ .text key) :
    putText key v es = es ++ [(.text key, v)] := by
  induction es with
  | nil => rfl
  | cons e es ih =>
    obtain ⟨he, hes⟩ := List.forall_mem_cons.mp h
    rw [putText_cons_of_ne he, ih hes, List.cons_append]

/-- `putText key v`: a key that is there keeps its place. -/
theorem putText_append_cons (h : ∀ e ∈ front, e.1 ≠ .text key) :
    putText key v (front ++ (.text key, w) :: back) = front ++ (.text key, v) :: back := by
  induction front with
  | nil => simp [putText, put]
  | cons e front ih =>
    obtain ⟨he, hfront⟩ := List.forall_mem_cons.mp h
    rw [List.cons_append, putText_cons_of_ne he, ih hfront, List.cons_append]

/-- A key has a first place, or none at all. -/
theorem exists_eq_append_cons_or_forall_ne (key : String) (es : Entries) :
    (∃ front w back, es = front ++ (.text key, w) :: back ∧ ∀ e ∈ front, e.1 ≠ .text key) ∨
      ∀ e ∈ es, e.1 ≠ .text key := by
  induction es with
  | nil => exact .inr fun _ he => nomatch he
  | cons e es ih =>
    obtain ⟨k, w⟩ := e
    by_cases hk : k = .text key
    · subst hk
      exact .inl ⟨[], w, es, rfl, fun _ he => nomatch he⟩
    · rcases ih with ⟨front, w', back, rfl, hfront⟩ | hes
      · exact .inl ⟨(k, w) :: front, w', back, rfl, List.forall_mem_cons.mpr ⟨hk, hfront⟩⟩
      · exact .inr (List.forall_mem_cons.mpr ⟨hk, hes⟩)

end Entries

end ObjectStore
