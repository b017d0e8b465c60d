import Mathlib
import ObjectStore.Filter.Hash
import ObjectStore.Proofs.Filter.Candidates

/-! # Equality of filters

Two filters are equal if they are built in the same way and their literals are equal, which is
looser than being the same: a truth value and a number may be equal, and readings at different
offsets. What equal filters have in common is their *gist*: the tree with each literal put down to
the quantity, the text, the instant or the clock that it is compared by. An aware reading is
compared by its instant unless its offset depends on the fold; then it is compared by the clock of
its zone. Filters that can be built are equal exactly if their gists are, and so equality is an
equivalence between them.

* `DateTime.gist`, `Literal.gist`, `Operand.gist`, `Filter.gist`: what is compared.
* `Filter.WellFormed.same_iff`: equality is equality of gists. -/

namespace ObjectStore

/-! ## Gists of literals -/

/-- `a.eq b = true ↔ a = b`: A quantity that is a number is equal to itself alone. -/
theorem Quantity.eq_iff {a b : Quantity} (ha : a ≠ .nan) : a.eq b = true ↔ a = b := by
  cases a <;> cases b <;> simp [Quantity.eq] at ha ⊢

/-- What a literal is compared by. -/
inductive Literal.Gist
  | quantity (q : Quantity)
  | text (s : String)
  | instant (i : Int)
  | wallClock (zone : Option Zone) (w : Int)
deriving DecidableEq, Repr

namespace DateTime

/-- What the reading `t` is compared by: its instant, if it has a zone and the fold makes no
difference to it, or else the clock. -/
def gist (t : DateTime) : Literal.Gist :=
  match t.zone with
  | none => .wallClock none t.wallClock
  | some z =>
    if z.isSteady t.wallClock then .instant (t.wallClock - z.offsetAt false t.wallClock)
    else .wallClock (some z) t.wallClock

variable {s t : DateTime} {z : Zone}

/-- `t.gist = .wallClock none t.wallClock`: the gist of a naive reading is the clock. -/
theorem gist_of_zone_eq_none (h : t.zone = none) : t.gist = .wallClock none t.wallClock := by
  rw [gist, h]

/-- `t.gist = .instant (t.wallClock - z.offsetAt false t.wallClock)`: the gist of a reading outside
the folds is its instant. -/
theorem gist_of_steady (h : t.zone = some z) (hsteady : z.isSteady t.wallClock = true) :
    t.gist = .instant (t.wallClock - z.offsetAt false t.wallClock) := by
  rw [gist, h]
  exact if_pos hsteady

/-- `t.gist = .wallClock (some z) t.wallClock`: the gist of a reading whose offset depends on the
fold is the clock of its zone. -/
theorem gist_of_not_steady (h : t.zone = some z) (hsteady : z.isSteady t.wallClock = false) :
    t.gist = .wallClock (some z) t.wallClock := by
  rw [gist, h]
  exact if_neg (by rw [hsteady]; exact Bool.false_ne_true)

/-- `t.instant? = some (t.wallClock - z.offsetAt t.fold t.wallClock)`: an aware reading has an
instant: the clock, less the offset of its zone. -/
theorem instant?_of_zone (h : t.zone = some z) :
    t.instant? = some (t.wallClock - z.offsetAt t.fold t.wallClock) := by
  rw [instant?, offset, h, Option.map_some, Option.map_some]

/-- `t.isSteady = z.isSteady t.wallClock` for a reading of the zone `z`. -/
theorem isSteady_of_zone (h : t.zone = some z) : t.isSteady = z.isSteady t.wallClock := by
  rw [isSteady, h, Option.all_some]

/-- `t.gist ≠ .wallClock none w`: the gist of an aware reading names no missing zone. -/
theorem gist_ne_naive (h : t.zone = some z) {w : Int} : t.gist ≠ .wallClock none w := by
  cases hsteady : z.isSteady t.wallClock with
  | true =>
    rw [gist_of_steady h hsteady]
    exact nofun
  | false =>
    rw [gist_of_not_steady h hsteady]
    exact nofun

/-- `s.gist = t.gist ↔ s.wallClock = t.wallClock`: readings of one zone have one gist exactly if the
clock shows the same. -/
theorem gist_eq_iff_of_zone_eq (hs : s.zone = some z) (ht : t.zone = some z) :
    s.gist = t.gist ↔ s.wallClock = t.wallClock := by
  constructor
  · intro h
    -- A steady reading is compared by its instant, any other by the clock, and the two are never
    -- mixed.
    cases hsteady : z.isSteady s.wallClock with
    | true =>
      cases hsteady' : z.isSteady t.wallClock with
      | true =>
        rw [gist_of_steady hs hsteady, gist_of_steady ht hsteady', Literal.Gist.instant.injEq] at h
        exact Zone.eq_of_instant_eq hsteady hsteady' h
      | false =>
        rw [gist_of_steady hs hsteady, gist_of_not_steady ht hsteady'] at h
        cases h
    | false =>
      cases hsteady' : z.isSteady t.wallClock with
      | true =>
        rw [gist_of_not_steady hs hsteady, gist_of_steady ht hsteady'] at h
        cases h
      | false =>
        rw [gist_of_not_steady hs hsteady, gist_of_not_steady ht hsteady',
          Literal.Gist.wallClock.injEq] at h
        exact h.2
  · intro h
    rw [gist, gist, hs, ht, h]

/-- `s.same t = true ↔ s.gist = t.gist`: aware readings of two zones are equal if neither depends on
the fold and their instants are. -/
theorem same_iff_gist_of_zone_ne {y : Zone} (hs : s.zone = some y) (ht : t.zone = some z)
    (hne : y ≠ z) : s.same t = true ↔ s.gist = t.gist := by
  have hzone : s.zone ≠ t.zone := by
    rw [hs, ht]
    exact fun h => hne (Option.some.inj h)
  rw [same, if_neg hzone, isSteady_of_zone hs, isSteady_of_zone ht, instant?_of_zone hs,
    instant?_of_zone ht]
  cases hsteady : y.isSteady s.wallClock with
  | true =>
    rw [gist_of_steady hs hsteady, Zone.offsetAt_of_isSteady hsteady]
    cases hsteady' : z.isSteady t.wallClock with
    | true => simp [gist_of_steady ht hsteady', Zone.offsetAt_of_isSteady hsteady']
    | false => simp [gist_of_not_steady ht hsteady']
  | false =>
    rw [gist_of_not_steady hs hsteady]
    cases hsteady' : z.isSteady t.wallClock with
    | true => simp [gist_of_steady ht hsteady']
    | false => simp [gist_of_not_steady ht hsteady', hne]

/-- `t.instant? = none`: A naive reading has no instant. -/
theorem instant?_of_zone_eq_none (h : t.zone = none) : t.instant? = none := by
  rw [instant?, offset, h, Option.map_none, Option.map_none]

/-- `s.same t = false` if one of the readings is naive and the other aware. -/
theorem same_of_isNone_ne (h : s.zone.isNone ≠ t.zone.isNone) : s.same t = false := by
  rw [same, if_neg fun hzone => h (by rw [hzone])]
  cases hs : s.zone with
  | none => rw [instant?_of_zone_eq_none hs]
  | some y =>
    cases ht : t.zone with
    | none =>
      rw [instant?_of_zone_eq_none ht]
      cases s.instant? <;> rfl
    | some z =>
      rw [hs, ht] at h
      exact absurd rfl h

/-- `s.same t = true ↔ s.gist = t.gist`: readings are equal if they are compared by the same. -/
theorem same_iff : s.same t = true ↔ s.gist = t.gist := by
  cases hs : s.zone with
  | none =>
    cases ht : t.zone with
    | none =>
      rw [same, if_pos (hs.trans ht.symm), gist_of_zone_eq_none hs, gist_of_zone_eq_none ht]
      simp
    | some z =>
      rw [same_of_isNone_ne (by simp [hs, ht]), gist_of_zone_eq_none hs]
      exact iff_of_false Bool.false_ne_true fun h => gist_ne_naive ht h.symm
  | some y =>
    cases ht : t.zone with
    | none =>
      rw [same_of_isNone_ne (by simp [hs, ht]), gist_of_zone_eq_none ht]
      exact iff_of_false Bool.false_ne_true (gist_ne_naive hs)
    | some z =>
      -- One zone: the clock decides. Two zones: the instants do.
      by_cases hne : y = z
      · subst hne
        rw [same, if_pos (hs.trans ht.symm), beq_iff_eq, gist_eq_iff_of_zone_eq hs ht]
      · exact same_iff_gist_of_zone_ne hs ht hne

/-- `t.gist ≠ .quantity q`: the gist of a reading is no quantity. -/
theorem gist_ne_quantity {q : Quantity} : t.gist ≠ .quantity q := by
  rw [gist]
  split
  · exact nofun
  · split <;> exact nofun

/-- `t.gist ≠ .text s`: the gist of a reading is no text. -/
theorem gist_ne_text {s : String} : t.gist ≠ .text s := by
  rw [gist]
  split
  · exact nofun
  · split <;> exact nofun

end DateTime

namespace Literal

variable {a b : Literal}

def gist : Literal → Gist
  | bool b => .quantity (Number.bool b).quantity
  | int n => .quantity (Number.int n).quantity
  | double x => .quantity (Number.double x).quantity
  | text s => .text s
  | date t => t.gist

/-- `a.gist = .quantity m.quantity`: the gist of a number is its quantity. -/
theorem gist_of_number? {m : Number} (hm : a.number? = some m) : a.gist = .quantity m.quantity := by
  cases a <;> cases hm <;> rfl

/-- `a.same b = true ↔ a.gist = b.gist`: A number is equal to the literals that have its
quantity. -/
theorem same_of_number? {m : Number} (hm : a.number? = some m) (ha : a.IsFinite) :
    a.same b = true ↔ a.gist = b.gist := by
  have hsame : a.same b = (b.number?.map m.eq).getD false := by
    cases a <;> cases hm <;> cases b <;> rfl
  rw [hsame, gist_of_number? hm]
  cases hn : b.number? with
  | some n =>
    rw [gist_of_number? hn, Gist.quantity.injEq]
    refine Quantity.eq_iff ?_
    rw [(quantity_of_number? hm ha).1]
    exact nofun
  | none =>
    cases b with
    | text t => exact ⟨nofun, nofun⟩
    | date t => exact ⟨nofun, fun h => absurd h.symm DateTime.gist_ne_quantity⟩
    | _ => cases hn

/-- `a.same b = true ↔ a.gist = b.gist`: literals are equal if they are compared by the same. -/
theorem same_iff (ha : a.IsFinite) : a.same b = true ↔ a.gist = b.gist := by
  cases a with
  | text s =>
    cases b with
    | text t => simp [same, gist]
    | date t => exact ⟨nofun, fun h => absurd h.symm DateTime.gist_ne_text⟩
    | _ => exact ⟨nofun, nofun⟩
  | date s =>
    cases b with
    | date t => exact DateTime.same_iff
    | text t => exact ⟨nofun, fun h => absurd h DateTime.gist_ne_text⟩
    | _ => exact ⟨nofun, fun h => absurd h DateTime.gist_ne_quantity⟩
  | _ => exact same_of_number? rfl ha

end Literal

/-! ## Gists of operands and of filters -/

/-- What an operand is compared by: the gist of a literal, or those of a list. -/
inductive Operand.Gist
  | single (k : Literal.Gist)
  | many (ks : List Literal.Gist)
deriving DecidableEq, Repr

namespace Operand

def gist : Operand → Gist
  | single v => .single v.gist
  | many vs => .many (vs.map Literal.gist)

/-- Literals are equal pairwise exactly if their gists are the same in the same places. -/
theorem all_zip_same_iff {as bs : List Literal} (has : ∀ a ∈ as, a.IsFinite) :
    (as.length == bs.length && (as.zip bs).all fun (a, b) => a.same b) = true ↔
      as.map Literal.gist = bs.map Literal.gist := by
  induction as generalizing bs with
  | nil => cases bs <;> simp
  | cons a as ih =>
    cases bs with
    | nil => simp
    | cons b bs =>
      obtain ⟨ha, has⟩ := List.forall_mem_cons.mp has
      rw [List.map_cons, List.map_cons, List.cons.injEq, ← ih has, ← Literal.same_iff ha]
      simp only [List.length_cons, List.zip_cons_cons, List.all_cons, Bool.and_eq_true, beq_iff_eq,
        Nat.add_right_cancel_iff]
      tauto

/-- `v.same w = true ↔ v.gist = w.gist`: the operand of a filter that can be built is equal to
another one if their gists are. -/
theorem Fits.same_iff {op : Operator} {v w : Operand} (hv : v.Fits op) :
    v.same w = true ↔ v.gist = w.gist := by
  cases hv with
  | single hop hlike hfinite =>
    cases w with
    | single b =>
      rw [gist, gist, Gist.single.injEq]
      exact Literal.same_iff hfinite
    | many bs => exact ⟨nofun, nofun⟩
  | many tag hne htag hfinite =>
    cases w with
    | single b => exact ⟨nofun, nofun⟩
    | many bs =>
      rw [gist, gist, Gist.many.injEq]
      exact all_zip_same_iff hfinite

end Operand

/-- What a filter is compared by: its tree, with the gists of its operands. -/
inductive Filter.Gist
  | bare
  | comparison (property : String) (operator : Operator) (operand : Operand.Gist)
  | nullCheck (property : String) (isNull : Bool)
  | conjunction (kind : Connective) (operands : List Gist)
deriving Repr

namespace Filter

mutual

def gist : Filter → Gist
  | bare => .bare
  | comparison p op v => .comparison p op v.gist
  | nullCheck p b => .nullCheck p b
  | conjunction k fs => .conjunction k (gists fs)

/-- The gists of some filters. -/
def gists : List Filter → List Gist
  | [] => []
  | f :: fs => gist f :: gists fs

end

variable {f g : Filter} {fs gs : List Filter}

/-- `sameAll fs gs = true ↔ gists fs = gists gs`: filters are equal pairwise exactly if their gists
are, if this is so of each. -/
theorem sameAll_iff (hfs : ∀ f ∈ fs, ∀ g, f.same g = true ↔ f.gist = g.gist) :
    sameAll fs gs = true ↔ gists fs = gists gs := by
  induction fs generalizing gs with
  | nil => cases gs <;> simp [sameAll, gists]
  | cons f fs ih =>
    cases gs with
    | nil => simp [sameAll, gists]
    | cons g gs =>
      obtain ⟨hf, hfs⟩ := List.forall_mem_cons.mp hfs
      rw [sameAll, gists, gists, Bool.and_eq_true, hf, ih hfs, List.cons.injEq]

/-- `f.same g = true ↔ f.gist = g.gist`: filters that can be built are equal if their gists are. -/
theorem WellFormed.same_iff (hf : f.WellFormed) : f.same g = true ↔ f.gist = g.gist := by
  -- Nodes of two kinds are not equal, and have no gist in common.
  induction hf generalizing g with
  | comparison property hop hv =>
    cases g with
    | comparison q oq w =>
      simp only [same, gist, Gist.comparison.injEq, Bool.and_eq_true, beq_iff_eq, hv.same_iff,
        and_assoc]
    | _ => simp [same, gist]
  | nullCheck property isNull =>
    cases g with
    | nullCheck q c => simp [same, gist]
    | _ => simp [same, gist]
  | conjunction kind hne hfs ih =>
    cases g with
    | conjunction l gs =>
      rw [same, gist, gist, Gist.conjunction.injEq, Bool.and_eq_true, beq_iff_eq,
        sameAll_iff fun f hf g => ih f hf]
      exact and_comm
    | _ => simp [same, gist]

/-- `f.same f = true`. -/
theorem WellFormed.same_refl (hf : f.WellFormed) : f.same f = true := hf.same_iff.mpr rfl

/-- `f.same g = true` gives `g.same f = true`. -/
theorem WellFormed.same_symm (hf : f.WellFormed) (hg : g.WellFormed) (h : f.same g = true) :
    g.same f = true :=
  hg.same_iff.mpr (hf.same_iff.mp h).symm

/-- `e.same f = true` and `f.same g = true` give `e.same g = true`. -/
theorem WellFormed.same_trans {e : Filter} (he : e.WellFormed) (hf : f.WellFormed)
    (hef : e.same f = true) (hfg : f.same g = true) : e.same g = true :=
  he.same_iff.mpr ((he.same_iff.mp hef).trans (hf.same_iff.mp hfg))

/-! ## Ratings -/

/-- A rating that is equal to `l`. -/
def rated (l : Literal) : Filter := comparison "rating" .equal (.single l)

/-- `(rated l).Constructible` for a finite literal. -/
theorem rated_constructible {l : Literal} (hl : l.IsFinite) : (rated l).Constructible := by
  have hcompare : Filter.compare (.text "rating") (.text Operator.equal.name) (.ofLiteral l) =
      .ok (rated l) := by
    cases l with
    | double x =>
      cases x with
      | finite s u h => rfl
      | _ => cases hl
    | _ => rfl
  exact .compare hcompare

end Filter

end ObjectStore
