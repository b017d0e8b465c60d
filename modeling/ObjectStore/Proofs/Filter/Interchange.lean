import Mathlib
import ObjectStore.Proofs.Filter.Equality
import ObjectStore.Proofs.Filter.Words
import ObjectStore.Proofs.Time.Calendar

/-! # Texts of equal filters

The text of a filter is made of pieces: the operands, each under the key of its kind, and the fixed
pieces between them. The texts of equal filters have the same fixed pieces in the same places, and
their operands differ at most in the way in which literals are written: readings of one instant at
other offsets, readings of one zone that differ in the fold, equal numbers of other kinds, zeros of
the other sign. Of two equal filters both are written or neither is, as no number of another kind is
equal to a whole number of too many digits.

* `Literal.Variant`: two ways of writing a literal.
* `Filter.pieces`: the text of a filter, piece by piece.
* `Piece.Variant.isWritable_eq`: of two ways of writing a piece both can be written or neither can.
* `Filter.same_pieces`: the pieces of equal filters. -/

namespace ObjectStore

/-! ## Ways of writing a literal -/

/-- That two literals are the same, or readings of one instant, or one reading with either fold, or
equal numbers of two kinds, or two zeros. -/
inductive Literal.Variant : Literal → Literal → Prop
  | refl (l : Literal) : Variant l l
  | offset {s t : DateTime} {i : Int} (hs : s.instant? = some i) (ht : t.instant? = some i) :
    Variant (.date s) (.date t)
  | fold (t : DateTime) (fold : Bool) : Variant (.date { t with fold := fold }) (.date t)
  | kind {a b : Literal} {m n : Number} (htag : a.tag ≠ b.tag) (hm : a.number? = some m)
    (hn : b.number? = some n) (hequal : m.quantity = n.quantity) : Variant a b
  | zero {x y : Double} (hx : x.isZero = true) (hy : y.isZero = true) :
    Variant (.double x) (.double y)

/-- That two operands are literals, or lists of literals, written in such ways. -/
inductive Operand.Variant : Operand → Operand → Prop
  | single {a b : Literal} (h : a.Variant b) : Variant (.single a) (.single b)
  | many {as bs : List Literal} (h : List.Forall₂ Literal.Variant as bs) :
    Variant (.many as) (.many bs)

/-- That a literal is finite if it is a double, and exists if it is a reading. -/
def Literal.Exists : Literal → Prop
  | double x => x.isFinite = true
  | date t => t.Exists
  | _ => True

/-- `l.Exists`: a literal exists if it is finite and, as a reading, exists. -/
theorem Literal.exists_iff {l : Literal} : l.Exists ↔ l.IsFinite ∧ ∀ t, l = date t → t.Exists := by
  cases l with
  | date t =>
    constructor
    · intro ht
      refine ⟨trivial, fun t' h => ?_⟩
      cases h
      exact ht
    · exact fun h => h.2 t rfl
  | double x => exact ⟨fun hx => ⟨hx, nofun⟩, And.left⟩
  | _ => exact ⟨fun _ => ⟨trivial, nofun⟩, fun _ => trivial⟩

/-- `Quantity.ofDouble x = Quantity.ofDouble y`: finite doubles of one quantity are the same or
zeros. -/
theorem Double.eq_or_isZero {x y : Double} (hx : x.isFinite = true) (hy : y.isFinite = true)
    (h : Quantity.ofDouble x = Quantity.ofDouble y) :
    x = y ∨ x.isZero = true ∧ y.isZero = true := by
  cases x with
  | finite s u hu =>
    cases y with
    | finite s' u' hu' =>
      simp only [Quantity.ofDouble, Quantity.exact.injEq, signed] at h
      by_cases hzero : u = 0
      · obtain rfl : u' = 0 := by cases s <;> cases s' <;> simp at h <;> omega
        subst hzero
        exact .inr ⟨rfl, rfl⟩
      · obtain rfl : s = s' := by cases s <;> cases s' <;> simp at h ⊢ <;> omega
        obtain rfl : u = u' := by cases s <;> simp at h <;> omega
        exact .inl rfl
    | _ => cases hy
  | _ => cases hx

namespace Literal

variable {a b : Literal}

/-- `Quantity.ofInt m = Quantity.ofInt n`: whole numbers of one quantity are the same. -/
theorem eq_of_ofInt_eq {m n : Int} (h : Quantity.ofInt m = Quantity.ofInt n) : m = n := by
  rw [Quantity.ofInt, Quantity.ofInt, Quantity.exact.injEq] at h
  exact Int.eq_of_mul_eq_mul_right (Int.natCast_ne_zero.mpr Double.one_pos.ne') h

/-- `m.quantity = n.quantity`: numbers of one quantity are the same, or of two kinds, or zeros. -/
theorem variant_of_numbers {m n : Number} (ha : a.Exists) (hb : b.Exists)
    (hm : a.number? = some m) (hn : b.number? = some n) (h : m.quantity = n.quantity) :
    a.Variant b := by
  by_cases htag : a.tag = b.tag
  · -- Within a kind the quantity leaves no choice but the sign of a zero.
    cases a with
    | bool c =>
      cases b with
      | bool d =>
        cases hm
        cases hn
        have hsame := eq_of_ofInt_eq h
        cases c <;> cases d <;> first | exact .refl _ | cases hsame
      | _ => cases htag
    | int k =>
      cases b with
      | int l =>
        cases hm
        cases hn
        obtain rfl := eq_of_ofInt_eq h
        exact .refl _
      | _ => cases htag
    | double x =>
      cases b with
      | double y =>
        cases hm
        cases hn
        rcases Double.eq_or_isZero ha hb h with rfl | ⟨hx, hy⟩
        · exact .refl _
        · exact .zero hx hy
      | _ => cases htag
    | _ => cases hm
  · exact .kind htag hm hn h

/-- `s.same t = true`: equal readings are the same, or readings of one instant, or one reading with
either fold. -/
theorem variant_of_dates {s t : DateTime} (hs : s.Exists) (ht : t.Exists)
    (h : s.same t = true) : (date s).Variant (date t) := by
  rw [DateTime.same] at h
  split at h
  · next hzone =>
    rw [DateTime.wallClock_inj hs ht hzone (beq_iff_eq.mp h)]
    exact .fold t s.fold
  · split at h
    · next i j hsi htj =>
      rw [Bool.and_eq_true, beq_iff_eq] at h
      rw [h.2] at hsi
      exact .offset hsi htj
    · cases h

/-- `a.gist = b.gist`: literals that are compared by the same are ways of writing one literal. -/
theorem variant_of_gist_eq (ha : a.Exists) (hb : b.Exists) (h : a.gist = b.gist) :
    a.Variant b := by
  -- The gist of a number is a quantity, that of a text a text, that of a reading an instant or a
  -- clock, so that `b` is of the same sort as `a`.
  cases hm : a.number? with
  | some m =>
    rw [gist_of_number? hm] at h
    cases hn : b.number? with
    | some n =>
      rw [gist_of_number? hn] at h
      exact variant_of_numbers ha hb hm hn (Gist.quantity.inj h)
    | none =>
      cases b with
      | text t => cases h
      | date t => exact absurd h.symm DateTime.gist_ne_quantity
      | _ => cases hn
  | none =>
    cases a with
    | text s =>
      cases b with
      | text t =>
        obtain rfl := Gist.text.inj h
        exact .refl _
      | date t => exact absurd h.symm DateTime.gist_ne_text
      | _ => cases h
    | date s =>
      cases b with
      | date t => exact variant_of_dates ha hb (DateTime.same_iff.mpr h)
      | text t => exact absurd h DateTime.gist_ne_text
      | _ => exact absurd h DateTime.gist_ne_quantity
    | _ => cases hm

end Literal

/-- `as.map gist = bs.map gist`: lists of existing literals that are equal differ only in how their
literals are written. -/
theorem Literal.forall₂_variant {as bs : List Literal} (has : ∀ l ∈ as, l.Exists)
    (hbs : ∀ l ∈ bs, l.Exists) (h : as.map gist = bs.map gist) : List.Forall₂ Variant as bs := by
  induction as generalizing bs with
  | nil =>
    rw [List.map_eq_nil_iff.mp h.symm]
    exact .nil
  | cons a as ih =>
    cases bs with
    | nil => cases h
    | cons b bs =>
      rw [List.map_cons, List.map_cons, List.cons.injEq] at h
      obtain ⟨ha, has⟩ := List.forall_mem_cons.mp has
      obtain ⟨hb, hbs⟩ := List.forall_mem_cons.mp hbs
      exact .cons (variant_of_gist_eq ha hb h.1) (ih has hbs h.2)

/-- `v.gist = w.gist`: operands that are compared by the same are ways of writing one operand. -/
theorem Operand.variant_of_gist_eq {v w : Operand} (hv : ∀ l ∈ v.literals, l.Exists)
    (hw : ∀ l ∈ w.literals, l.Exists) (h : v.gist = w.gist) : v.Variant w := by
  cases v with
  | single a =>
    cases w with
    | single b =>
      exact .single (Literal.variant_of_gist_eq (hv a List.mem_cons_self) (hw b List.mem_cons_self)
        (Gist.single.inj h))
    | many bs => cases h
  | many as =>
    cases w with
    | single b => cases h
    | many bs => exact .many (Literal.forall₂_variant hv hw (Gist.many.inj h))

/-! ## Variants that can be written -/

/-- `m.quantity = Quantity.ofInt n`: A whole number that is equal to a truth value or a double can
be written: the doubles end long before the numbers of too many digits begin. -/
theorem Text.isWritable_of_quantity_eq {n : Int} {m : Number} (hm : ∀ k, m ≠ .int k)
    (h : m.quantity = Quantity.ofInt n) : Text.isWritable n = true := by
  have hbound : Double.bound ≤ Text.firstUnwritten * Double.one := by decide +kernel
  rw [Text.isWritable, decide_eq_true_eq]
  cases m with
  | int k => exact absurd rfl (hm k)
  | bool b =>
    obtain rfl := Literal.eq_of_ofInt_eq h
    have htwo : 2 ≤ Text.firstUnwritten := by decide +kernel
    cases b <;> exact lt_of_lt_of_le (by decide) htwo
  | double x =>
    cases x with
    | finite s u hu =>
      simp only [Number.quantity, Quantity.ofDouble, Quantity.ofInt, Quantity.exact.injEq] at h
      -- The magnitude of the double is that of the whole number, and below the bound of doubles.
      have habs : u = n.natAbs * Double.one := by
        rw [← Int.natAbs_natCast Double.one, ← Int.natAbs_mul, ← h]
        cases s <;> simp [Double.signed]
      exact lt_of_mul_lt_mul_right (habs ▸ hu.1.trans_le hbound) (Nat.zero_le _)
    | _ => cases h

/-- `a.isWritable = b.isWritable` for two ways of writing a literal. -/
theorem Literal.Variant.isWritable_eq {a b : Literal} (h : a.Variant b) :
    a.isWritable = b.isWritable := by
  cases h with
  | @kind _ _ m n htag hm hn hequal =>
    -- Whole numbers are of one kind, so at most one of the two is a whole number.
    cases a with
    | int k =>
      cases hm
      cases b with
      | int l => exact absurd rfl htag
      | bool d =>
        cases hn
        exact Text.isWritable_of_quantity_eq (m := .bool d) nofun hequal.symm
      | double y =>
        cases hn
        exact Text.isWritable_of_quantity_eq (m := .double y) nofun hequal.symm
      | _ => cases hn
    | bool c =>
      cases hm
      cases b with
      | int l =>
        cases hn
        exact (Text.isWritable_of_quantity_eq (m := .bool c) nofun hequal).symm
      | _ => rfl
    | double x =>
      cases hm
      cases b with
      | int l =>
        cases hn
        exact (Text.isWritable_of_quantity_eq (m := .double x) nofun hequal).symm
      | _ => rfl
    | _ => cases hm
  | _ => rfl

/-- `xs.all p = ys.all p` for lists whose items are related pairwise, if `p` is the same of related
items. -/
theorem all_eq_of_forall₂ {α : Type} {R : α → α → Prop} {p : α → Bool}
    {xs ys : List α} (h : List.Forall₂ R xs ys) (hp : ∀ x y, R x y → p x = p y) :
    xs.all p = ys.all p := by
  induction h with
  | nil => rfl
  | cons hxy _ ih => rw [List.all_cons, List.all_cons, hp _ _ hxy, ih]

/-- `v.Variant w`: of two ways of writing an operand both can be written or neither can. -/
theorem Operand.Variant.all_isWritable_eq {v w : Operand} (h : v.Variant w) :
    v.literals.all Literal.isWritable = w.literals.all Literal.isWritable := by
  cases h with
  | single h => exact all_eq_of_forall₂ (.cons h .nil) fun _ _ => Literal.Variant.isWritable_eq
  | many h => exact all_eq_of_forall₂ h fun _ _ => Literal.Variant.isWritable_eq

namespace Filter

/-! ## Pieces of texts -/

/-- A piece of the text of a filter: the same in every filter that is built alike, or an operand. -/
inductive Piece
  | fixed (cs : List Char)
  | operand (v : Operand)

/-- The characters of a piece: those of an operand come under the key of its kind. -/
def Piece.chars : Piece → List Char
  | fixed cs => cs
  | operand v => fieldChars v.tag.name v.whereChars

/-- Whether a piece can be written. -/
def Piece.isWritable : Piece → Bool
  | fixed _ => true
  | operand v => v.literals.all Literal.isWritable

/-- That two pieces are the same, or operands that are written in two ways. -/
inductive Piece.Variant : Piece → Piece → Prop
  | fixed (cs : List Char) : Variant (.fixed cs) (.fixed cs)
  | operand {v w : Operand} (h : v.Variant w) : Variant (.operand v) (.operand w)

/-- What a leaf on `property` by `op` has before its operand. -/
def leafHead (property : String) (op : Operator) : List Char :=
  '\x7b' :: (fieldChars "path" ('[' :: (Text.literal property.toList ++ [']'])) ++ ',' :: ' ' ::
    (fieldChars "operator" op.wireName.toList ++ [',', ' ']))

/-- What an inner node of `kind` has before its operands. -/
def joinHead (kind : Connective) : List Char :=
  '\x7b' :: (fieldChars "operator" kind.wireName.toList ++ ',' :: ' ' ::
    fieldChars "operands" ['['])

/-- Lists of pieces, with commas between them. -/
def commaPieces : List (List Piece) → List Piece
  | [] => []
  | [ps] => ps
  | ps :: pss => ps ++ .fixed [',', ' '] :: commaPieces pss

mutual

/-- The pieces of the text of a filter. -/
def pieces : Filter → List Piece
  | bare => []
  | comparison p op v => [.fixed (leafHead p op), .operand v, .fixed ['\x7d']]
  | nullCheck p b => [.fixed (leafChars p .isNull .boolean (Literal.bool b).whereChars)]
  | conjunction k fs =>
    .fixed (joinHead k) :: (commaPieces (piecesAll fs) ++ [.fixed [']', '\x7d']])

/-- The pieces of the texts of some filters. -/
def piecesAll : List Filter → List (List Piece)
  | [] => []
  | f :: fs => pieces f :: piecesAll fs

end

/-- `leafChars property op tag cs` with what stands before the operand in front. -/
theorem leafChars_eq (property : String) (op : Operator) (tag : Tag) (cs : List Char) :
    leafChars property op tag cs =
      leafHead property op ++ (fieldChars tag.name cs ++ ['\x7d']) := by
  simp [leafChars, leafHead, GraphQL.commaJoin]

/-- `joinChars kind css` with what stands before the operands in front. -/
theorem joinChars_eq (kind : Connective) (css : List (List Char)) :
    joinChars kind css = joinHead kind ++ (GraphQL.commaJoin css ++ [']', '\x7d']) := by
  simp [joinChars, joinHead, GraphQL.commaJoin, fieldChars]

/-- The characters of `commaPieces pss` are the joined characters of the lists in `pss`. -/
theorem flatMap_commaPieces (pss : List (List Piece)) :
    (commaPieces pss).flatMap Piece.chars =
      GraphQL.commaJoin (pss.map fun ps => ps.flatMap Piece.chars) := by
  induction pss with
  | nil => rfl
  | cons ps pss ih =>
    cases pss with
    | nil => rfl
    | cons qs pss =>
      have hpieces : commaPieces (ps :: qs :: pss) =
        ps ++ .fixed [',', ' '] :: commaPieces (qs :: pss) := rfl
      rw [hpieces, List.flatMap_append, List.flatMap_cons, ih]
      rfl

mutual

/-- `f.pieces.flatMap Piece.chars = f.whereChars`: the text of a filter is made of its pieces. -/
theorem flatMap_pieces : ∀ f : Filter, f.pieces.flatMap Piece.chars = f.whereChars
  | bare => by rw [pieces, whereChars, List.flatMap_nil]
  | comparison p op v => by
    rw [pieces, whereChars, leafChars_eq]
    simp [Piece.chars]
  | nullCheck p b => by
    rw [pieces, whereChars]
    simp [Piece.chars]
  | conjunction k fs => by
    rw [pieces, whereChars, joinChars_eq, ← flatMap_piecesAll fs]
    simp [Piece.chars, flatMap_commaPieces]

/-- The characters of the pieces of some filters are `whereCharsAll fs`. -/
theorem flatMap_piecesAll : ∀ fs : List Filter,
    (piecesAll fs).map (fun ps => ps.flatMap Piece.chars) = whereCharsAll fs
  | [] => by rw [piecesAll, whereCharsAll, List.map_nil]
  | f :: fs => by
    rw [piecesAll, whereCharsAll, List.map_cons, flatMap_pieces f, flatMap_piecesAll fs]

end

/-- `commaPieces pss` can be written if all the pieces can: the commas can be. -/
theorem all_commaPieces (pss : List (List Piece)) :
    (commaPieces pss).all Piece.isWritable = pss.all fun ps => ps.all Piece.isWritable := by
  induction pss with
  | nil => rfl
  | cons ps pss ih =>
    cases pss with
    | nil => simp [commaPieces]
    | cons qs pss =>
      have hpieces : commaPieces (ps :: qs :: pss) =
        ps ++ .fixed [',', ' '] :: commaPieces (qs :: pss) := rfl
      rw [hpieces, List.all_append, List.all_cons, ih]
      rfl

mutual

/-- `f.pieces.all Piece.isWritable = f.isWritable`: a filter can be written if its pieces can. -/
theorem all_pieces : ∀ f : Filter, f.pieces.all Piece.isWritable = f.isWritable
  | bare => rfl
  | comparison p op v => by simp [pieces, isWritable, Piece.isWritable]
  | nullCheck p b => by simp [pieces, isWritable, Piece.isWritable]
  | conjunction k fs => by
    rw [pieces, isWritable, ← all_piecesAll fs]
    simp [Piece.isWritable, all_commaPieces]

/-- Some filters can be written if the pieces of all of them can. -/
theorem all_piecesAll : ∀ fs : List Filter,
    ((piecesAll fs).all fun ps => ps.all Piece.isWritable) = allWritable fs
  | [] => rfl
  | f :: fs => by
    rw [piecesAll, List.all_cons, allWritable, all_pieces f, all_piecesAll fs]

end

/-! ## Equal filters -/

/-- `p.Variant q`: of two ways of writing a piece both can be written or neither can. -/
theorem Piece.Variant.isWritable_eq {p q : Piece} (h : p.Variant q) :
    p.isWritable = q.isWritable := by
  cases h with
  | fixed cs => rfl
  | operand h => exact h.all_isWritable_eq

/-- `f.isWritable = g.isWritable` for filters whose pieces are written in two ways. -/
theorem isWritable_eq_of_pieces {f g : Filter}
    (h : List.Forall₂ Piece.Variant f.pieces g.pieces) : f.isWritable = g.isWritable := by
  rw [← all_pieces f, ← all_pieces g]
  exact all_eq_of_forall₂ h fun _ _ => Piece.Variant.isWritable_eq

/-- `commaPieces`: pieces that are written in two ways, with commas between them. -/
theorem forall₂_commaPieces {pss qss : List (List Piece)}
    (h : List.Forall₂ (List.Forall₂ Piece.Variant) pss qss) :
    List.Forall₂ Piece.Variant (commaPieces pss) (commaPieces qss) := by
  induction h with
  | nil => exact .nil
  | cons hps hpss ih =>
    cases hpss with
    | nil => exact hps
    | cons => exact List.rel_append hps (.cons (.fixed _) ih)

variable {f g : Filter}

/-- The pieces of each of some filters, given those of one. -/
theorem forall₂_piecesAll {fs gs : List Filter}
    (hfs : ∀ f ∈ fs, ∀ g : Filter, (∀ l ∈ g.literals, l.Exists) → f.gist = g.gist →
      List.Forall₂ Piece.Variant f.pieces g.pieces)
    (hgs : ∀ l ∈ literalsAll gs, l.Exists) (h : gists fs = gists gs) :
    List.Forall₂ (List.Forall₂ Piece.Variant) (piecesAll fs) (piecesAll gs) := by
  induction fs generalizing gs with
  | nil =>
    cases gs with
    | nil => exact .nil
    | cons g gs => cases h
  | cons f fs ih =>
    cases gs with
    | nil => cases h
    | cons g gs =>
      rw [gists, gists, List.cons.injEq] at h
      obtain ⟨hf, hfs⟩ := List.forall_mem_cons.mp hfs
      rw [literalsAll, List.forall_mem_append] at hgs
      rw [piecesAll, piecesAll]
      exact .cons (hf g hgs.1 h.1) (ih hfs hgs.2 h.2)

/-- `f.gist = g.gist`: filters that are compared by the same have the same fixed pieces, and their
operands are ways of writing one operand. -/
theorem forall₂_pieces (hf : f.WellFormed) (hfl : ∀ l ∈ f.literals, l.Exists)
    (hgl : ∀ l ∈ g.literals, l.Exists) (h : f.gist = g.gist) :
    List.Forall₂ Piece.Variant f.pieces g.pieces := by
  -- The other filter has nodes of the same kinds, as its gist is the same.
  induction hf generalizing g with
  | @comparison property op v hop hv =>
    cases g with
    | comparison q oq w =>
      rw [gist, gist, Gist.comparison.injEq] at h
      obtain ⟨rfl, rfl, hoperand⟩ := h
      rw [literals] at hfl hgl
      rw [pieces, pieces]
      exact .cons (.fixed _) (.cons (.operand (Operand.variant_of_gist_eq hfl hgl hoperand))
        (.cons (.fixed _) .nil))
    | _ => cases h
  | nullCheck property isNull =>
    cases g with
    | nullCheck q c =>
      rw [gist, gist, Gist.nullCheck.injEq] at h
      obtain ⟨rfl, rfl⟩ := h
      rw [pieces]
      exact .cons (.fixed _) .nil
    | _ => cases h
  | @conjunction kind fs hne hfs ih =>
    cases g with
    | conjunction l gs =>
      rw [gist, gist, Gist.conjunction.injEq] at h
      obtain ⟨rfl, hgists⟩ := h
      rw [literals, literalsAll_eq_flatMap] at hfl
      rw [literals] at hgl
      have hoperands := forall₂_piecesAll (fun f hf g hg h => ih f hf
        (fun l hl => hfl l (List.mem_flatMap.mpr ⟨f, hf, hl⟩)) hg h) hgl hgists
      rw [pieces, pieces]
      exact .cons (.fixed _) (List.rel_append (forall₂_commaPieces hoperands)
        (.cons (.fixed _) .nil))
    | _ => cases h

/-- That the readings among the literals of `f` exist. -/
def ReadingsExist (f : Filter) : Prop := ∀ t, .date t ∈ f.literals → t.Exists

/-- In a well-formed filter whose readings exist all literals exist. -/
theorem ReadingsExist.exists (h : f.ReadingsExist) (hf : f.WellFormed) :
    ∀ l ∈ f.literals, l.Exists := by
  intro l hl
  refine Literal.exists_iff.mpr ⟨hf.isFinite l hl, ?_⟩
  rintro t rfl
  exact h t hl

/-- Equal filters are both written or both not, for a number of too many digits. Their texts have
the same fixed `pieces`, and their operands differ at most in the way in which literals are
written. -/
theorem same_pieces (hf : f.Constructible) (hg : g.Constructible) (hfr : f.ReadingsExist)
    (hgr : g.ReadingsExist) (h : f.same g = true) :
    f.isWritable = g.isWritable ∧
      f.whereText = writtenIf f.isWritable (String.ofList (f.pieces.flatMap Piece.chars)) ∧
      g.whereText = writtenIf g.isWritable (String.ofList (g.pieces.flatMap Piece.chars)) ∧
      List.Forall₂ Piece.Variant f.pieces g.pieces := by
  have hpieces := forall₂_pieces hf.wellFormed (hfr.exists hf.wellFormed)
    (hgr.exists hg.wellFormed) (hf.wellFormed.same_iff.mp h)
  refine ⟨isWritable_eq_of_pieces hpieces, ?_, ?_, hpieces⟩
  · rw [flatMap_pieces, whereText_eq hf.wellFormed]
  · rw [flatMap_pieces, whereText_eq hg.wellFormed]

/-- The ratings one and true are equal, and alike but for the number. -/
theorem same_pieces_ratings :
    (rated (.int 1)).Constructible ∧ (rated (.bool true)).Constructible ∧
      (rated (.int 1)).same (rated (.bool true)) = true ∧
      List.Forall₂ Piece.Variant (rated (.int 1)).pieces (rated (.bool true)).pieces := by
  have hone : (rated (.int 1)).Constructible := rated_constructible trivial
  have htrue : (rated (.bool true)).Constructible := rated_constructible trivial
  have hdates : ∀ {l : Literal}, l.tag ≠ .date → (rated l).ReadingsExist := by
    intro l hl t ht
    rw [rated, literals, Operand.literals, List.mem_singleton] at ht
    exact absurd (congrArg Literal.tag ht).symm hl
  have hsame : (rated (.int 1)).same (rated (.bool true)) = true := by decide +kernel
  exact ⟨hone, htrue, hsame,
    (same_pieces hone htrue (hdates (by decide)) (hdates (by decide)) hsame).2.2.2⟩

/-- The ratings one and true are equal, and so are the ratings zero and zero below zero; the texts
of each pair differ, and no reading is written in them. -/
theorem whereText_ratings :
    (rated (.int 1)).Constructible ∧ (rated (.bool true)).Constructible ∧
      (rated (.int 1)).same (rated (.bool true)) = true ∧
      (rated (.int 1)).whereText =
        .ok "\x7bpath: [\"rating\"], operator: Equal, valueInt: 1\x7d" ∧
      (rated (.bool true)).whereText =
        .ok "\x7bpath: [\"rating\"], operator: Equal, valueBoolean: true\x7d" ∧
      (rated (.double (Double.zeroOf false))).Constructible ∧
      (rated (.double (Double.zeroOf true))).Constructible ∧
      (rated (.double (Double.zeroOf false))).same (rated (.double (Double.zeroOf true))) = true ∧
      (rated (.double (Double.zeroOf false))).whereText =
        .ok "\x7bpath: [\"rating\"], operator: Equal, valueNumber: 0.0\x7d" ∧
      (rated (.double (Double.zeroOf true))).whereText =
        .ok "\x7bpath: [\"rating\"], operator: Equal, valueNumber: -0.0\x7d" ∧
      ∀ l ∈ [.int 1, .bool true, .double (Double.zeroOf false), .double (Double.zeroOf true)],
        ∀ l' ∈ (rated l).literals, l'.tag ≠ .date := by
  have hone : (rated (.int 1)).Constructible := rated_constructible trivial
  have htrue : (rated (.bool true)).Constructible := rated_constructible trivial
  have hzero : ∀ s, (rated (.double (Double.zeroOf s))).Constructible := fun s =>
    rated_constructible rfl
  have htext : ∀ {l : Literal} {s : String}, (rated l).Constructible → l.isWritable = true →
      String.ofList (rated l).whereChars = s → (rated l).whereText = .ok s := by
    intro l s hl hwritable hs
    rw [whereText_eq hl.wellFormed, hs]
    exact writtenIf_eq_ok_iff.mpr ⟨by simp [rated, isWritable, Operand.literals, hwritable], rfl⟩
  exact ⟨hone, htrue, by decide +kernel, htext hone (by decide +kernel) (by decide +kernel),
    htext htrue rfl (by decide +kernel), hzero false, hzero true, by decide +kernel,
    htext (hzero false) rfl (by decide +kernel), htext (hzero true) rfl (by decide +kernel),
    by decide +kernel⟩

end Filter

end ObjectStore
