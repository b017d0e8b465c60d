import Mathlib
import ObjectStore.Proofs.Filter.WhereText
import ObjectStore.Proofs.Json.StringLiteral
import ObjectStore.Proofs.Number.DecimalText
import ObjectStore.Proofs.Time.Stamp

/-! # The text of a filter determines the filter

Two filters that are written alike are the same, once naive points in time are read at offset zero.
Each part of the text ends where it can be seen to end: string literals at their closing quote,
numbers and truth values at the comma or the bracket that follows them, names at a comma or a colon.
So equal texts have equal first parts and equal rests, and the filters are compared from the front,
node by node.

* `Literal.whereChars_inj`, `Operand.whereChars_inj`: literals and operands of one kind.
* `Filter.whereChars_inj`: filters, by induction on the tree.
* `Filter.whereText_eq_iff`: constructible filters have the same text exactly if they are the same,
  read at offset zero. -/

namespace ObjectStore

/-! ## Readings at offset zero -/

/-- A literal in which a naive point in time is read at offset zero. -/
def Literal.assumeUtc : Literal → Literal
  | date t => date t.assumeUtc
  | v => v

/-- An operand in which naive points in time are read at offset zero. -/
def Operand.assumeUtc : Operand → Operand
  | single v => single v.assumeUtc
  | many vs => many (vs.map Literal.assumeUtc)

namespace Filter

mutual

/-- A filter in which naive points in time are read at offset zero. -/
def assumeUtc : Filter → Filter
  | bare => bare
  | comparison p op v => comparison p op v.assumeUtc
  | nullCheck p b => nullCheck p b
  | conjunction k fs => conjunction k (assumeUtcAll fs)

/-- Filters in which naive points in time are read at offset zero. -/
def assumeUtcAll : List Filter → List Filter
  | [] => []
  | f :: fs => assumeUtc f :: assumeUtcAll fs

end

/-- `assumeUtcAll fs = fs.map assumeUtc`. -/
theorem assumeUtcAll_eq_map (fs : List Filter) : assumeUtcAll fs = fs.map assumeUtc := by
  induction fs with
  | nil => rw [assumeUtcAll, List.map_nil]
  | cons f fs ih => rw [assumeUtcAll, ih, List.map_cons]

end Filter

/-! ## Where parts end -/

/-- Whether `c` ends a number or a truth value. -/
def isClosing (c : Char) : Bool := c == ',' || c == ']' || c == '\x7d'

/-- That `r` begins with a character that ends a number or a truth value. -/
def Closes (r : List Char) : Prop := ∃ c cs, r = c :: cs ∧ isClosing c = true

/-- `Closes (c :: cs)` if `c` ends a number. -/
theorem closes_cons {c : Char} {cs : List Char} (h : isClosing c = true) : Closes (c :: cs) :=
  ⟨c, cs, rfl, h⟩

/-- No character of a number ends one. -/
theorem isClosing_of_isNumeralChar {c : Char} (h : Text.isNumeralChar c = true) :
    isClosing c = false := by
  by_contra hclosing
  rw [Bool.not_eq_false, isClosing] at hclosing
  simp only [Bool.or_eq_true, beq_iff_eq] at hclosing
  rcases hclosing with (rfl | rfl) | rfl <;> exact absurd h (by decide)

/-- `a ++ r = b ++ s`: two texts without such characters are equal if the texts that they begin
are. -/
theorem append_inj_of_closes {a b r s : List Char} (ha : ∀ c ∈ a, isClosing c = false)
    (hb : ∀ c ∈ b, isClosing c = false) (hr : Closes r) (hs : Closes s) (h : a ++ r = b ++ s) :
    a = b ∧ r = s := by
  have hhead : ∀ {x : List Char}, Closes x → ∀ c ∈ x.head?, (!isClosing c) = false := by
    rintro x ⟨d, ds, rfl, hd⟩ c hc
    cases hc
    rw [hd]
    rfl
  exact Text.append_inj_of_stop (p := fun c => !isClosing c) (by simpa using ha) (by simpa using hb)
    (hhead hr) (hhead hs) h

/-- `a ++ r = b ++ s`: the same for numerals, in which no such character stands. -/
theorem numeral_append_inj {a b r s : List Char} (ha : ∀ c ∈ a, Text.isNumeralChar c = true)
    (hb : ∀ c ∈ b, Text.isNumeralChar c = true) (hr : Closes r) (hs : Closes s)
    (h : a ++ r = b ++ s) : a = b ∧ r = s :=
  append_inj_of_closes (fun c hc => isClosing_of_isNumeralChar (ha c hc))
    (fun c hc => isClosing_of_isNumeralChar (hb c hc)) hr hs h

/-! ## Items of a list -/

/-- That `r` begins with a comma or with `close`, the bracket that closes a list. -/
def EndsItem (close : Char) (r : List Char) : Prop := ∃ c cs, r = c :: cs ∧ (c = ',' ∨ c = close)

/-- What follows an item ends a number, if the closing bracket does. -/
theorem EndsItem.closes {close : Char} {r : List Char} (h : EndsItem close r)
    (hclose : isClosing close = true) : Closes r := by
  obtain ⟨c, cs, rfl, rfl | rfl⟩ := h
  · exact closes_cons rfl
  · exact closes_cons hclose

/-- What stands behind an item of a list: `close`, the bracket that closes the list, or the next
items. -/
def afterItem (close : Char) (r : List Char) : List (List Char) → List Char
  | [] => close :: r
  | item :: items => ',' :: ' ' :: (GraphQL.commaJoin (item :: items) ++ close :: r)

/-- `EndsItem close (afterItem close r items)`. -/
theorem endsItem_afterItem (close : Char) (r : List Char) (items : List (List Char)) :
    EndsItem close (afterItem close r items) := by
  cases items with
  | nil => exact ⟨close, r, rfl, .inr rfl⟩
  | cons item items => exact ⟨',', _, rfl, .inl rfl⟩

/-- Behind the first item of a joined list stands `afterItem close r items`. -/
theorem commaJoin_cons_append (close : Char) (r item : List Char) (items : List (List Char)) :
    GraphQL.commaJoin (item :: items) ++ close :: r = item ++ afterItem close r items := by
  cases items with
  | nil => rfl
  | cons next items =>
    rw [afterItem, GraphQL.commaJoin, List.append_assoc, List.cons_append, List.cons_append]
    exact List.cons_ne_nil _ _

/-- `commaJoin`: items between brackets are equal one by one, if each of them ends where it can be
seen to. -/
theorem commaJoin_inj {α β : Type} {chars : α → List Char} {norm : α → β} {xs ys : List α}
    {close : Char} (hclose : close ≠ ',')
    (hitem : ∀ x ∈ xs, ∀ y ∈ ys, ∀ r s, EndsItem close r → EndsItem close s →
      chars x ++ r = chars y ++ s → norm x = norm y ∧ r = s)
    (hxs : xs ≠ []) (hys : ys ≠ []) {r s : List Char}
    (h : GraphQL.commaJoin (xs.map chars) ++ close :: r =
      GraphQL.commaJoin (ys.map chars) ++ close :: s) :
    xs.map norm = ys.map norm ∧ r = s := by
  induction xs generalizing ys with
  | nil => exact absurd rfl hxs
  | cons x xs ih =>
    cases ys with
    | nil => exact absurd rfl hys
    | cons y ys =>
      rw [List.map_cons, List.map_cons, commaJoin_cons_append, commaJoin_cons_append] at h
      obtain ⟨hxy, hrest⟩ := hitem x List.mem_cons_self y List.mem_cons_self _ _
        (endsItem_afterItem _ _ _) (endsItem_afterItem _ _ _) h
      rw [List.map_cons, List.map_cons, hxy]
      -- One list cannot be closed where the other goes on: a bracket is no comma.
      cases xs with
      | nil =>
        cases ys with
        | nil => exact ⟨rfl, List.tail_eq_of_cons_eq hrest⟩
        | cons y' ys => exact absurd (List.head_eq_of_cons_eq hrest) hclose
      | cons x' xs =>
        cases ys with
        | nil => exact absurd (List.head_eq_of_cons_eq hrest).symm hclose
        | cons y' ys =>
          have htail := List.tail_eq_of_cons_eq (List.tail_eq_of_cons_eq hrest)
          obtain ⟨hmap, hrs⟩ := @ih (y' :: ys)
            (fun a ha b hb => hitem a (List.mem_cons_of_mem _ ha) b (List.mem_cons_of_mem _ hb))
            (List.cons_ne_nil _ _) (List.cons_ne_nil _ _) htail
          exact ⟨congrArg _ hmap, hrs⟩

/-! ## Literals and operands -/

/-- `v.whereChars ++ r = w.whereChars ++ s`: literals of one kind are told apart by their
characters. -/
theorem Literal.whereChars_inj {v w : Literal} (hv : v.IsFinite) (hw : w.IsFinite)
    (htag : v.tag = w.tag) {r s : List Char} (hr : Closes r) (hs : Closes s)
    (h : v.whereChars ++ r = w.whereChars ++ s) : v.assumeUtc = w.assumeUtc ∧ r = s := by
  cases v with
  | bool a =>
    cases w with
    | bool b =>
      have hword : ∀ b : Bool, ∀ c ∈ (Literal.bool b).whereChars, isClosing c = false := by
        intro b
        cases b <;> simp [whereChars, isClosing]
      -- `true` or `false`: a word ends where `r` closes the literal.
      obtain ⟨hchars, hrest⟩ := append_inj_of_closes (hword a) (hword b) hr hs h
      refine ⟨?_, hrest⟩
      cases a <;> cases b <;> first | rfl | exact absurd hchars (by decide)
    | _ => cases htag
  | int m =>
    cases w with
    | int n =>
      -- A numeral ends at the first character that cannot be in one.
      obtain ⟨hchars, hrest⟩ := numeral_append_inj (Text.isNumeralChar_toString_int m)
        (Text.isNumeralChar_toString_int n) hr hs h
      rw [Text.toString_int_inj hchars]
      exact ⟨rfl, hrest⟩
    | _ => cases htag
  | double x =>
    cases w with
    | double y =>
      -- Finite doubles only: the others are written as words.
      have htext : ∀ z : Double, z.isFinite = true → GraphQL.doubleText z = z.text.toList := by
        intro z hz
        cases z <;> first | rfl | cases hz
      rw [whereChars, whereChars, htext x hv, htext y hw] at h
      obtain ⟨hchars, hrest⟩ := numeral_append_inj (Double.isNumeralChar_text hv)
        (Double.isNumeralChar_text hw) hr hs h
      rw [Double.text_inj hv hw (String.toList_inj.1 hchars)]
      exact ⟨rfl, hrest⟩
    | _ => cases htag
  | text a =>
    cases w with
    | text b =>
      -- A text is quoted, and ends at its closing quote.
      obtain ⟨hchars, hrest⟩ := Json.literal_append_inj h
      rw [String.toList_inj.1 hchars]
      exact ⟨rfl, hrest⟩
    | _ => cases htag
  | date t =>
    cases w with
    | date u =>
      -- A reading is quoted as its stamp, which is taken at offset zero if it is naive.
      obtain ⟨hstamp, hrest⟩ := Json.literal_append_inj h
      rw [assumeUtc, assumeUtc, DateTime.stamp_inj hstamp]
      exact ⟨rfl, hrest⟩
    | _ => cases htag

/-- `v.whereChars ++ r = w.whereChars ++ s`: operands of one operator and one kind are told apart by
their characters. -/
theorem Operand.whereChars_inj {op : Operator} {v w : Operand} (hv : v.Fits op) (hw : w.Fits op)
    (htag : v.tag = w.tag) {r s : List Char} (hr : Closes r) (hs : Closes s)
    (h : v.whereChars ++ r = w.whereChars ++ s) : v.assumeUtc = w.assumeUtc ∧ r = s := by
  cases hv with
  | @single _ v hop hlike hv =>
    cases hw with
    | @single _ w _ _ hw =>
      obtain ⟨hvw, hrest⟩ := Literal.whereChars_inj hv hw htag hr hs h
      rw [assumeUtc, assumeUtc, hvw]
      exact ⟨rfl, hrest⟩
    | many => exact absurd rfl hop
  | @many vs t hne ht hvs =>
    cases hw with
    | single hop => exact absurd rfl hop
    | @many ws u hne' hu hws =>
      obtain rfl : t = u := by
        rwa [tag_many hne ht, tag_many hne' hu] at htag
      simp only [whereChars, List.cons_append, List.append_assoc, List.nil_append] at h
      -- Item by item, each up to the comma or the bracket behind it.
      have hitem : ∀ v ∈ vs, ∀ w ∈ ws, ∀ r s, EndsItem ']' r → EndsItem ']' s →
          v.whereChars ++ r = w.whereChars ++ s → v.assumeUtc = w.assumeUtc ∧ r = s :=
        fun v hv w hw r s hr hs h =>
          Literal.whereChars_inj (hvs v hv) (hws w hw) ((ht v hv).trans (hu w hw).symm)
            (hr.closes rfl) (hs.closes rfl) h
      obtain ⟨hvw, hrest⟩ := commaJoin_inj (by decide) hitem hne hne' (List.tail_eq_of_cons_eq h)
      rw [assumeUtc, assumeUtc, hvw]
      exact ⟨rfl, hrest⟩

/-- `v.assumeUtc.tag = v.tag`: a literal read at offset zero keeps its kind. -/
theorem Literal.tag_assumeUtc (v : Literal) : v.assumeUtc.tag = v.tag := by
  cases v <;> rfl

/-- `v.assumeUtc.whereChars = v.whereChars`: naive readings are written as those at offset zero. -/
theorem Literal.whereChars_assumeUtc (v : Literal) : v.assumeUtc.whereChars = v.whereChars := by
  cases v <;> rfl

/-- `v.assumeUtc.tag = v.tag`, for operands. -/
theorem Operand.tag_assumeUtc (v : Operand) : v.assumeUtc.tag = v.tag := by
  cases v with
  | single v => exact v.tag_assumeUtc
  | many vs =>
    cases vs with
    | nil => rfl
    | cons v vs => exact v.tag_assumeUtc

/-- `v.assumeUtc.whereChars = v.whereChars`, for operands. -/
theorem Operand.whereChars_assumeUtc (v : Operand) : v.assumeUtc.whereChars = v.whereChars := by
  cases v with
  | single v => exact v.whereChars_assumeUtc
  | many vs =>
    have hmap : (vs.map Literal.assumeUtc).map Literal.whereChars = vs.map Literal.whereChars := by
      rw [List.map_map]
      exact List.map_congr_left fun v _ => v.whereChars_assumeUtc
    rw [assumeUtc, whereChars, whereChars, hmap]

/-- `v.assumeUtc.wire = v.wire`: the same is sent for naive readings and for those at offset
zero. -/
theorem Operand.wire_assumeUtc (v : Operand) : v.assumeUtc.wire = v.wire := by
  have hliteral : ∀ l : Literal, l.assumeUtc.wire = l.wire := by
    intro l
    cases l <;> rfl
  cases v with
  | single v => exact hliteral v
  | many vs =>
    have hmap : (vs.map Literal.assumeUtc).map Literal.wire = vs.map Literal.wire := by
      rw [List.map_map]
      exact List.map_congr_left fun v _ => hliteral v
    rw [assumeUtc, wire, wire, hmap]

/-! ## Filters -/

namespace Filter

/-- Two names that are ended by a character that no name has are equal if the texts that they begin
are. -/
theorem name_append_inj {stop : Char} {a b : String} {r s : List Char}
    (ha : stop ∉ a.toList) (hb : stop ∉ b.toList)
    (h : a.toList ++ stop :: r = b.toList ++ stop :: s) : a = b ∧ r = s := by
  have hne : ∀ {x : String}, stop ∉ x.toList → ∀ c ∈ x.toList, (c != stop) = true := by
    intro x hx c hc
    rw [bne_iff_ne]
    rintro rfl
    exact hx hc
  obtain ⟨hchars, hrest⟩ := Text.append_inj_of_stop (p := fun c => c != stop) (hne ha) (hne hb)
    (by simp) (by simp) h
  exact ⟨String.toList_inj.1 hchars, List.tail_eq_of_cons_eq hrest⟩

/-- `leafChars` tells leaves apart by the texts of their parts. -/
theorem leafChars_inj {p q : String} {op oq : Operator} {t u : Tag} {v w r s : List Char}
    (h : leafChars p op t v ++ r = leafChars q oq u w ++ s) :
    p = q ∧ op = oq ∧ t = u ∧ v ++ '\x7d' :: r = w ++ '\x7d' :: s := by
  have hop : ∀ op : Operator, ',' ∉ op.wireName.toList := by
    intro op
    cases op <;> decide
  have htag : ∀ t : Tag, ':' ∉ t.name.toList := by
    intro t
    cases t <;> decide
  simp only [leafChars, fieldChars, GraphQL.commaJoin, List.append_assoc, List.cons_append,
    List.nil_append, List.cons.injEq, true_and, List.append_cancel_left_eq] at h
  -- The path ends at its quote, the operator at a comma, the key at a colon.
  obtain ⟨hpath, hoperator⟩ := Json.literal_append_inj h
  simp only [List.cons.injEq, true_and, List.append_cancel_left_eq] at hoperator
  obtain ⟨hwire, hkey⟩ := name_append_inj (hop op) (hop oq) hoperator
  rw [List.cons.injEq] at hkey
  obtain ⟨hname, hvalue⟩ := name_append_inj (htag t) (htag u) hkey.2
  exact ⟨String.toList_inj.1 hpath, Operator.wireName_inj hwire, Tag.name_inj hname,
    List.tail_eq_of_cons_eq hvalue⟩

/-- `joinChars` tells inner nodes apart by their connectives and their operands. -/
theorem joinChars_inj {k l : Connective} {as bs : List (List Char)} {r s : List Char}
    (h : joinChars k as ++ r = joinChars l bs ++ s) :
    k = l ∧ GraphQL.commaJoin as ++ ']' :: '\x7d' :: r =
      GraphQL.commaJoin bs ++ ']' :: '\x7d' :: s := by
  have hkind : ∀ k : Connective, ',' ∉ k.wireName.toList := by
    intro k
    cases k <;> decide
  simp only [joinChars, fieldChars, GraphQL.commaJoin, List.append_assoc, List.cons_append,
    List.nil_append, List.cons.injEq, true_and, List.append_cancel_left_eq] at h
  obtain ⟨hwire, hoperands⟩ := name_append_inj (hkind k) (hkind l) h
  simp only [List.cons.injEq, true_and, List.append_cancel_left_eq] at hoperands
  refine ⟨?_, hoperands⟩
  cases k <;> cases l <;> first | rfl | exact absurd hwire (by decide)

/-- `leafChars p op t v ≠ joinChars k as`, whatever follows. -/
theorem leafChars_ne_joinChars {p : String} {op : Operator} {t : Tag} {v r s : List Char}
    {k : Connective} {as : List (List Char)} : leafChars p op t v ++ r ≠ joinChars k as ++ s := by
  intro h
  -- behind the brace one begins with the path, the other with the operator
  have htail := List.tail_eq_of_cons_eq h
  exact absurd (List.head_eq_of_cons_eq htail) (by decide)

/-- `f.whereChars ++ r = g.whereChars ++ s`: the characters of a filter determine it, read at offset
zero, and where it ends. -/
theorem whereChars_inj {f g : Filter} (hf : f.WellFormed) (hg : g.WellFormed) {r s : List Char}
    (h : f.whereChars ++ r = g.whereChars ++ s) : f.assumeUtc = g.assumeUtc ∧ r = s := by
  -- The induction is on how the first filter was built; the second one is compared node by node.
  induction hf generalizing g r s with
  | @comparison p op v hop hv =>
    cases hg with
    | @comparison q oq w _ hw =>
      rw [whereChars, whereChars] at h
      obtain ⟨rfl, rfl, htag, hvalue⟩ := leafChars_inj h
      obtain ⟨hvw, hrest⟩ := Operand.whereChars_inj hv hw htag (closes_cons rfl) (closes_cons rfl)
        hvalue
      rw [assumeUtc, assumeUtc, hvw]
      exact ⟨rfl, List.tail_eq_of_cons_eq hrest⟩
    | nullCheck q b =>
      rw [whereChars, whereChars] at h
      exact absurd (leafChars_inj h).2.1 hop
    | conjunction l hne hgs =>
      rw [whereChars, whereChars] at h
      exact absurd h leafChars_ne_joinChars
  | nullCheck p a =>
    cases hg with
    | @comparison q oq w hoq hw =>
      rw [whereChars, whereChars] at h
      exact absurd (leafChars_inj h).2.1.symm hoq
    | nullCheck q b =>
      rw [whereChars, whereChars] at h
      obtain ⟨rfl, -, -, hvalue⟩ := leafChars_inj h
      have hfinite : ∀ b, (Literal.bool b).IsFinite := fun _ => trivial
      obtain ⟨hab, hrest⟩ := Literal.whereChars_inj (hfinite a) (hfinite b) rfl (closes_cons rfl)
        (closes_cons rfl) hvalue
      cases hab
      exact ⟨rfl, List.tail_eq_of_cons_eq hrest⟩
    | conjunction l hne hgs =>
      rw [whereChars, whereChars] at h
      exact absurd h leafChars_ne_joinChars
  | @conjunction k fs hne hfs ih =>
    cases hg with
    | comparison q hoq hw =>
      rw [whereChars, whereChars] at h
      exact absurd h.symm leafChars_ne_joinChars
    | nullCheck q b =>
      rw [whereChars, whereChars] at h
      exact absurd h.symm leafChars_ne_joinChars
    | @conjunction l gs hne' hgs =>
      rw [whereChars, whereChars, whereCharsAll_eq_map, whereCharsAll_eq_map] at h
      obtain ⟨rfl, hoperands⟩ := joinChars_inj h
      obtain ⟨hmap, hrest⟩ := commaJoin_inj (by decide)
        (fun f hf g hg r s _ _ hfg => ih f hf (hgs g hg) hfg) hne hne' hoperands
      rw [assumeUtc, assumeUtc, assumeUtcAll_eq_map, assumeUtcAll_eq_map, hmap]
      exact ⟨rfl, List.tail_eq_of_cons_eq hrest⟩

/-- `f.assumeUtc.whereChars = f.whereChars`: reading naive points in time at offset zero does not
change what is written. -/
theorem whereChars_assumeUtc {f : Filter} (hf : f.WellFormed) :
    f.assumeUtc.whereChars = f.whereChars := by
  induction hf with
  | @comparison p op v hop hv => rw [assumeUtc, whereChars, whereChars, v.tag_assumeUtc,
      v.whereChars_assumeUtc]
  | nullCheck p b => rw [assumeUtc]
  | @conjunction k fs hne hfs ih =>
    have hmap : fs.map (fun f => f.assumeUtc.whereChars) = fs.map whereChars :=
      List.map_congr_left ih
    rw [assumeUtc, whereChars, whereChars, assumeUtcAll_eq_map, whereCharsAll_eq_map,
      whereCharsAll_eq_map, List.map_map]
    exact congrArg (joinChars k) hmap

mutual

/-- `f.assumeUtc.wire = f.wire`: nor does it change what is sent. -/
theorem wire_assumeUtc : ∀ f : Filter, f.assumeUtc.wire = f.wire
  | bare => by rw [assumeUtc]
  | comparison p op v => by rw [assumeUtc, wire, wire, v.tag_assumeUtc, v.wire_assumeUtc]
  | nullCheck p b => by rw [assumeUtc]
  | conjunction k fs => by rw [assumeUtc, wire, wire, wireAll_assumeUtc fs]

/-- `wireAll (assumeUtcAll fs) = wireAll fs`. -/
theorem wireAll_assumeUtc : ∀ fs : List Filter, wireAll (assumeUtcAll fs) = wireAll fs
  | [] => by rw [assumeUtcAll]
  | f :: fs => by rw [assumeUtcAll, wireAll, wireAll, wire_assumeUtc f, wireAll_assumeUtc fs]

end

/-- Every filter that the constructors make has a text if its numbers can be written, and two of
them have the same one exactly if they are the same filter once naive points in time are read at
offset zero: `s = t ↔ f.assumeUtc = g.assumeUtc`. -/
theorem whereText_eq_iff {f g : Filter} (hf : f.Constructible) (hg : g.Constructible)
    (hfw : f.isWritable = true) (hgw : g.isWritable = true) :
    ∃ s t, f.whereText = .ok s ∧ g.whereText = .ok t ∧ (s = t ↔ f.assumeUtc = g.assumeUtc) := by
  refine ⟨_, _, (whereText_eq hf.wellFormed).trans (by rw [hfw, writtenIf_true]),
    (whereText_eq hg.wellFormed).trans (by rw [hgw, writtenIf_true]), ?_⟩
  rw [String.ofList_inj]
  constructor
  · intro h
    have happend : f.whereChars ++ [] = g.whereChars ++ [] := by rw [h]
    exact (whereChars_inj hf.wellFormed hg.wellFormed happend).1
  · intro h
    rw [← whereChars_assumeUtc hf.wellFormed, h, whereChars_assumeUtc hg.wellFormed]

/-- Noon of a day, read with `offset`, if there is one. -/
def bornAtNoon (offset : Option Int) : Filter :=
  comparison "born" .equal (.single (.date ⟨⟨1815, 12, 10⟩, 12, 0, 0, 0, offset.map .fixed, false⟩))

/-- `bornAtNoon` is a filter that the constructors make. -/
theorem bornAtNoon_constructible (offset : Option Int) : (bornAtNoon offset).Constructible := by
  have hcompare : Filter.compare (.text "born") (.text Operator.equal.name)
      (.datetime ⟨⟨1815, 12, 10⟩, 12, 0, 0, 0, offset.map .fixed, false⟩) =
        .ok (bornAtNoon offset) := rfl
  exact .compare hcompare

/-- A naive reading and the same reading at offset zero are written alike. -/
theorem whereText_eq_iff_bornAtNoon :
    (bornAtNoon none).Constructible ∧ (bornAtNoon (some 0)).Constructible ∧
      ∃ s, (bornAtNoon none).whereText = .ok s ∧ (bornAtNoon (some 0)).whereText = .ok s := by
  have hnaive := bornAtNoon_constructible none
  have haware := bornAtNoon_constructible (some 0)
  obtain ⟨s, t, hs, ht, hst⟩ := whereText_eq_iff hnaive haware rfl rfl
  obtain rfl := hst.2 rfl
  exact ⟨hnaive, haware, s, hs, ht⟩

end Filter

end ObjectStore
