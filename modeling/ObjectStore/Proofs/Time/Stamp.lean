import Mathlib
import ObjectStore.Proofs.Text.Digits
import ObjectStore.Time.DateTime

/-! # Stamps of readings

A stamp determines its reading, up to what it leaves out: a naive reading has the stamp of the aware
one at offset zero. Every field is a run of digits that something else follows, so the fields are
recovered one by one from the front; an offset is put together again from its hours, minutes,
seconds and microseconds.

* `offsetText_inj`: the text of an offset determines it.
* `stamp_inj`: the stamp of a reading determines it as read at offset zero. -/

namespace ObjectStore.DateTime

/-- `fractionText n` begins with no digit. -/
theorem head_fractionText_not_digit (n : Nat) :
    ∀ c ∈ (fractionText n).head?, c.isDigit = false := by
  unfold fractionText
  split <;> simp

/-- The seconds of an offset, with their colon, begin with no digit. -/
theorem head_secondsText_not_digit (n : Nat) :
    ∀ c ∈ (if n % 60000000 = 0 then []
      else ':' :: (Text.decimal 2 (n / 1000000 % 60) ++ fractionText (n % 1000000))).head?,
      c.isDigit = false := by
  split <;> simp

/-- `fractionText m ++ r = fractionText n ++ s`: fractions are taken off a text that goes on neither
with a digit nor with a point. -/
theorem fractionText_append_inj {m n : Nat} {r s : List Char}
    (hr : ∀ c ∈ r.head?, c.isDigit = false ∧ c ≠ '.')
    (hs : ∀ c ∈ s.head?, c.isDigit = false ∧ c ≠ '.')
    (h : fractionText m ++ r = fractionText n ++ s) : m = n ∧ r = s := by
  unfold fractionText at h
  split at h
  · next hm =>
    split at h
    · next hn => exact ⟨hm.trans hn.symm, h⟩
    · rw [List.nil_append] at h
      exact absurd rfl (hr '.' (by rw [h]; rfl)).2
  · split at h
    · rw [List.nil_append] at h
      exact absurd rfl (hs '.' (by rw [← h]; rfl)).2
    · rw [List.cons_append, List.cons_append, List.cons.injEq] at h
      exact Text.decimal_append_inj (fun c hc => (hr c hc).1) (fun c hc => (hs c hc).1) h.2

/-- The seconds and microseconds of an offset, if it has any, determine them. -/
theorem secondsText_inj {m n : Nat}
    (h : (if m % 60000000 = 0 then []
        else ':' :: Text.decimal 2 (m / 1000000 % 60) ++ fractionText (m % 1000000)) =
      if n % 60000000 = 0 then []
        else ':' :: Text.decimal 2 (n / 1000000 % 60) ++ fractionText (n % 1000000)) :
    m % 60000000 = n % 60000000 := by
  split at h
  · next hm =>
    split at h
    · next hn => exact hm.trans hn.symm
    · exact absurd h (List.cons_ne_nil _ _).symm
  · split at h
    · exact absurd h (List.cons_ne_nil _ _)
    · rw [List.cons_append, List.cons_append, List.cons.injEq] at h
      obtain ⟨hsecond, hrest⟩ := Text.decimal_append_inj (head_fractionText_not_digit _)
        (head_fractionText_not_digit _) h.2
      have hrest' : fractionText (m % 1000000) ++ [] = fractionText (n % 1000000) ++ [] := by
        rw [hrest]
      obtain ⟨hmicro, -⟩ := fractionText_append_inj (by simp) (by simp) hrest'
      omega

/-- `offsetText m = offsetText n`: the text of an offset determines it. -/
theorem offsetText_inj {m n : Int} (h : offsetText m = offsetText n) : m = n := by
  simp only [offsetText, List.cons_append, List.append_assoc, List.cons.injEq] at h
  obtain ⟨hsign, htext⟩ := h
  obtain ⟨hhour, htext⟩ := Text.decimal_append_inj (by simp) (by simp) htext
  rw [List.cons.injEq] at htext
  obtain ⟨hminute, hseconds⟩ := Text.decimal_append_inj (head_secondsText_not_digit _)
    (head_secondsText_not_digit _) htext.2
  have hspan := secondsText_inj hseconds
  have hnatAbs : m.natAbs = n.natAbs := by omega
  -- The first characters are the signs.
  have hnegative : m < 0 ↔ n < 0 := by
    by_cases hm : m < 0
    · by_cases hn : n < 0
      · exact iff_of_true hm hn
      · simp [hm, hn] at hsign
    · by_cases hn : n < 0
      · simp [hm, hn] at hsign
      · exact iff_of_false hm hn
  omega

/-- `offsetText n` begins neither with a digit nor with a point. -/
theorem head_offsetText (n : Int) :
    ∀ c ∈ (offsetText n).head?, c.isDigit = false ∧ c ≠ '.' := by
  intro c hc
  simp only [offsetText, List.cons_append, List.head?_cons, Option.mem_some_iff] at hc
  subst hc
  split <;> exact ⟨rfl, by decide⟩

/-- Behind the seconds no digit follows, whether they have a fraction or not. -/
theorem head_fractionText_append {n : Nat} {r : List Char}
    (hr : ∀ c ∈ r.head?, c.isDigit = false) :
    ∀ c ∈ (fractionText n ++ r).head?, c.isDigit = false := by
  unfold fractionText
  split
  · simpa using hr
  · simp

/-- `t.stamp` is the date and the time of day joined by `T`, and the offset, or zero for a naive
reading. -/
theorem stamp_eq (t : DateTime) :
    t.stamp = t.date.text ++ 'T' :: t.timeText ++ offsetText (t.offset.getD 0) := rfl

/-- `s.stamp = t.stamp → s.assumeUtc = t.assumeUtc`: the stamp of a reading determines it, with its
offset for a zone, or at offset zero if it is naive. -/
theorem stamp_inj {s t : DateTime} (h : s.stamp = t.stamp) : s.assumeUtc = t.assumeUtc := by
  rw [stamp_eq, stamp_eq] at h
  rw [assumeUtc, assumeUtc]
  -- Of a zone nothing but the offset is left.
  generalize s.offset.getD 0 = offset at h ⊢
  generalize t.offset.getD 0 = offset' at h ⊢
  obtain ⟨⟨year, month, day⟩, hour, minute, second, microsecond, _, _⟩ := s
  obtain ⟨⟨year', month', day'⟩, hour', minute', second', microsecond', _, _⟩ := t
  simp only [Date.text, timeText, List.append_assoc, List.cons_append] at h
  -- The fields are taken off from the front, each with the character that ends it.
  obtain ⟨hyear, hmonths⟩ := Text.decimal_append_inj (by simp) (by simp) h
  obtain ⟨hmonth, hdays⟩ := Text.decimal_append_inj (by simp) (by simp)
    (List.tail_eq_of_cons_eq hmonths)
  obtain ⟨hday, hhours⟩ := Text.decimal_append_inj (by simp) (by simp)
    (List.tail_eq_of_cons_eq hdays)
  obtain ⟨hhour, hminutes⟩ := Text.decimal_append_inj (by simp) (by simp)
    (List.tail_eq_of_cons_eq hhours)
  obtain ⟨hminute, hseconds⟩ := Text.decimal_append_inj (by simp) (by simp)
    (List.tail_eq_of_cons_eq hminutes)
  have hoffset := fun c hc => (head_offsetText offset c hc).1
  have hoffset' := fun c hc => (head_offsetText offset' c hc).1
  obtain ⟨hsecond, hfractions⟩ := Text.decimal_append_inj (head_fractionText_append hoffset)
    (head_fractionText_append hoffset') (List.tail_eq_of_cons_eq hseconds)
  obtain ⟨hmicrosecond, hoffsets⟩ := fractionText_append_inj (head_offsetText _)
    (head_offsetText _) hfractions
  simp only [hyear, hmonth, hday, hhour, hminute, hsecond, hmicrosecond, offsetText_inj hoffsets]

end ObjectStore.DateTime
