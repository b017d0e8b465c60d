import Mathlib
import ObjectStore.Proofs.Filter.Equality

/-! # Hashes of filters

Every filter that can be built has a hash, as its operands are literals or tuples of literals and
never lists or sets, and the hash depends on no more than what filters are compared by. So a hash
table, which compares only entries of equal hashes, finds a filter exactly if it was given an equal
one, and equal filters are removed by it as by comparing them all.

* `Hashing.exists_filter?`, `Hashing.filter?_congr`: the filters that can be built have a hash, and
  it depends on their gists alone.
* `HashTable.Holds`: that a table holds some filters up to equality.
* `Filter.same_equivalence_respects_hash`: equality is an equivalence that hashes respect, and hash
  tables keep the same filters as comparisons. -/

namespace ObjectStore

namespace Hashing

variable (h : Hashing)

/-! ## Hashes depend on gists -/

/-- The hash of what a literal is compared by. -/
def literalGist : Literal.Gist → Int
  | .quantity q => h.quantity q
  | .text s => h.text s
  | .instant i => h.instant i
  | .wallClock none w => h.wallClock w
  | .wallClock (some z) w => h.instant (w - z.offsetAt false w)

/-- The hash of what an operand is compared by. -/
def operandGist : Operand.Gist → Int
  | .single k => h.literalGist k
  | .many ks => h.sequence (ks.map h.literalGist)

/-- `h.reading t = h.literalGist t.gist`: a reading is hashed by what it is compared by. -/
theorem reading_eq (t : DateTime) : h.reading t = h.literalGist t.gist := by
  rw [reading]
  cases hz : t.zone with
  | none =>
    -- A naive reading is hashed by its clock.
    have hinstant : t.first.instant? = none := by
      rw [DateTime.instant?, DateTime.offset, DateTime.first, hz]
      rfl
    rw [hinstant, DateTime.gist_of_zone_eq_none hz]
    rfl
  | some z =>
    -- An aware one is hashed as the first of its two readings, whatever its fold.
    have hinstant : t.first.instant? =
        some (t.wallClock - z.offsetAt false t.wallClock) := DateTime.instant?_of_zone hz
    rw [hinstant]
    cases hsteady : z.isSteady t.wallClock with
    | true =>
      rw [DateTime.gist_of_steady hz hsteady]
      rfl
    | false =>
      rw [DateTime.gist_of_not_steady hz hsteady]
      rfl

/-- `h.value? (.ofLiteral l) = some (h.literalGist l.gist)`: the hash of a literal as a value is a
hash of its gist. -/
theorem value?_ofLiteral (l : Literal) : h.value? (.ofLiteral l) = some (h.literalGist l.gist) := by
  cases l with
  | date t => rw [Value.ofLiteral, value?, reading_eq, Literal.gist]
  | _ =>
    rw [Value.ofLiteral, value?]
    rfl

/-- `h.values?`: literals as values have the hashes of their gists, in turn. -/
theorem values?_map_ofLiteral (ls : List Literal) :
    h.values? (ls.map .ofLiteral) = some (ls.map fun l => h.literalGist l.gist) := by
  induction ls with
  | nil => rw [List.map_nil, values?, List.map_nil]
  | cons l ls ih =>
    rw [List.map_cons, values?, value?_ofLiteral, ih]
    rfl

/-- `h.value? (.ofOperand v) = some (h.operandGist v.gist)`: the hash of an operand as a value is a
hash of its gist. -/
theorem value?_ofOperand (v : Operand) : h.value? (.ofOperand v) = some (h.operandGist v.gist) := by
  cases v with
  | single l => exact h.value?_ofLiteral l
  | many ls =>
    rw [Value.ofOperand, value?, values?_map_ofLiteral, Operand.gist, operandGist, List.map_map]
    rfl

variable {f g : Filter}

/-- `h.filters? fs = some ns`: each of some filters has a hash if they can be built. -/
theorem exists_filters? {fs : List Filter} (hfs : ∀ f ∈ fs, ∃ n, h.filter? f = some n) :
    ∃ ns, h.filters? fs = some ns := by
  induction fs with
  | nil => exact ⟨[], by rw [filters?]⟩
  | cons f fs ih =>
    obtain ⟨⟨n, hn⟩, hfs⟩ := List.forall_mem_cons.mp hfs
    obtain ⟨ns, hns⟩ := ih hfs
    refine ⟨n :: ns, ?_⟩
    rw [filters?, hn, hns]
    rfl

/-- `h.filter? f = some n`: A filter that can be built has a hash. -/
theorem exists_filter? (hf : f.WellFormed) : ∃ n, h.filter? f = some n := by
  induction hf with
  | @comparison property op v hop hv =>
    refine ⟨h.sequence [h.text property, h.text op.name, h.operandGist v.gist], ?_⟩
    rw [filter?, value?_ofOperand]
    rfl
  | nullCheck property isNull => exact ⟨_, by rw [filter?]⟩
  | conjunction kind hne hfs ih =>
    obtain ⟨ns, hns⟩ := h.exists_filters? ih
    refine ⟨h.sequence [h.sequence ns, h.text kind.name], ?_⟩
    rw [filter?, hns]
    rfl

/-- `h.filters? fs = h.filters? gs`: filters with the same gists have the same hashes, if this is so
of each. -/
theorem filters?_congr {fs gs : List Filter}
    (hfs : ∀ f ∈ fs, ∀ g, f.gist = g.gist → h.filter? f = h.filter? g)
    (hgists : Filter.gists fs = Filter.gists gs) : h.filters? fs = h.filters? gs := by
  induction fs generalizing gs with
  | nil =>
    cases gs with
    | nil => rfl
    | cons g gs => cases hgists
  | cons f fs ih =>
    cases gs with
    | nil => cases hgists
    | cons g gs =>
      rw [Filter.gists, Filter.gists, List.cons.injEq] at hgists
      obtain ⟨hf, hfs⟩ := List.forall_mem_cons.mp hfs
      rw [filters?, filters?, hf g hgists.1, ih hfs hgists.2]

/-- `h.filter? f = h.filter? g`: the hash of a filter depends on what it is compared by alone. -/
theorem filter?_congr (hf : f.WellFormed) (hgist : f.gist = g.gist) :
    h.filter? f = h.filter? g := by
  -- By induction on `f`; a filter with the same gist is built by the same constructor.
  induction hf generalizing g with
  | @comparison property op v hop hv =>
    cases g with
    | comparison q oq w =>
      rw [Filter.gist, Filter.gist, Filter.Gist.comparison.injEq] at hgist
      obtain ⟨rfl, rfl, hoperand⟩ := hgist
      rw [filter?, filter?, value?_ofOperand, value?_ofOperand, hoperand]
    | _ => cases hgist
  | nullCheck property isNull =>
    cases g with
    | nullCheck q c =>
      cases hgist
      rfl
    | _ => cases hgist
  | conjunction kind hne hfs ih =>
    cases g with
    | conjunction l gs =>
      rw [Filter.gist, Filter.gist, Filter.Gist.conjunction.injEq] at hgist
      obtain ⟨rfl, hgists⟩ := hgist
      rw [filter?, filter?, h.filters?_congr (fun f hf g => ih f hf) hgists]
    | _ => cases hgist

end Hashing

/-! ## Tables -/

namespace HashTable

variable {h : Hashing} {slot : Int → Nat} {t : HashTable} {earlier : List Filter} {f : Filter}
  {n : Int}

/-- That the entries of `t` are some of the filters that came `earlier`, each with its hash, and
that each of these is equal to an entry in its slot. -/
structure Holds (h : Hashing) (slot : Int → Nat) (t : HashTable) (earlier : List Filter) :
    Prop where
  entries : ∀ i, ∀ entry ∈ t i, entry.2 ∈ earlier ∧ h.filter? entry.2 = some entry.1
  found : ∀ g ∈ earlier, ∀ n, h.filter? g = some n →
    ∃ entry ∈ t (slot n), entry.1 = n ∧ entry.2.same g = true

/-- `Holds h slot empty []`: an empty table holds no filter. -/
theorem holds_empty : Holds h slot empty [] := ⟨nofun, nofun⟩

/-- `t.has slot n f`: a table has an entry for a filter if one equal to it came earlier. -/
theorem Holds.has_iff (ht : Holds h slot t earlier) (hearlier : ∀ g ∈ earlier, g.WellFormed)
    (hf : f.WellFormed) (hn : h.filter? f = some n) :
    t.has slot n f = true ↔ ∃ g ∈ earlier, f.same g = true := by
  rw [has, List.any_eq_true]
  constructor
  · rintro ⟨entry, hentry, hsame⟩
    rw [Bool.and_eq_true] at hsame
    obtain ⟨hmem, -⟩ := ht.entries _ entry hentry
    exact ⟨entry.2, hmem, (hearlier _ hmem).same_symm hf hsame.2⟩
  · rintro ⟨g, hg, hsame⟩
    -- An equal filter has the same hash, so its entry is in the slot that is looked at.
    have hgn : h.filter? g = some n := by
      rw [← hn]
      exact (h.filter?_congr hf (hf.same_iff.mp hsame)).symm
    obtain ⟨entry, hentry, hhash, hequal⟩ := ht.found g hg n hgn
    have hwell := hearlier _ (ht.entries _ entry hentry).1
    refine ⟨entry, hentry, ?_⟩
    rw [Bool.and_eq_true, beq_iff_eq]
    exact ⟨hhash, hwell.same_trans (hearlier g hg) hequal (hf.same_symm (hearlier g hg) hsame)⟩

/-- A table holds one filter more once that is equal to an entry in its slot. -/
theorem Holds.concat (ht : Holds h slot t earlier) (hn : h.filter? f = some n) {t' : HashTable}
    (hnew : ∃ entry ∈ t' (slot n), entry.1 = n ∧ entry.2.same f = true)
    (hold : ∀ i, t i ⊆ t' i)
    (hentries : ∀ i, ∀ entry ∈ t' i, entry ∈ t i ∨ entry = (n, f)) :
    Holds h slot t' (earlier ++ [f]) where
  entries i entry hentry := by
    rcases hentries i entry hentry with hmem | rfl
    · obtain ⟨hmem, hhash⟩ := ht.entries i entry hmem
      exact ⟨List.mem_append_left _ hmem, hhash⟩
    · exact ⟨List.mem_append_right _ List.mem_cons_self, hn⟩
  found g hg m hm := by
    rcases List.mem_append.mp hg with hg | hg
    · obtain ⟨entry, hentry, hfound⟩ := ht.found g hg m hm
      exact ⟨entry, hold _ hentry, hfound⟩
    · obtain rfl := List.mem_singleton.mp hg
      obtain rfl := Option.some.inj (hn.symm.trans hm)
      exact hnew

/-- One filter that is come to: if it is in the table, the table holds it already, and otherwise
does so once it is added. -/
theorem Holds.step (ht : Holds h slot t earlier) (hf : f.WellFormed) (hn : h.filter? f = some n) :
    Holds h slot (if t.has slot n f then t else t.add slot n f) (earlier ++ [f]) := by
  split
  · next hhas =>
    -- An equal filter is there: the table stays, and that one stands for `f`.
    rw [has, List.any_eq_true] at hhas
    obtain ⟨entry, hentry, hsame⟩ := hhas
    rw [Bool.and_eq_true, beq_iff_eq] at hsame
    exact ht.concat hn ⟨entry, hentry, hsame⟩ (fun _ => List.Subset.refl _) fun _ _ => .inl
  · -- There is none: `f` is put in front of the slot of its hash, and the other slots stay.
    refine ht.concat hn ⟨(n, f), ?_, rfl, hf.same_refl⟩ (fun i => ?_) fun i entry hentry => ?_
    · rw [add, if_pos rfl]
      exact List.mem_cons_self
    · by_cases hi : i = slot n
      · rw [add, if_pos hi]
        exact List.subset_cons_self _ _
      · rw [add, if_neg hi]
        exact List.Subset.refl _
    · by_cases hi : i = slot n
      · rw [add, if_pos hi, List.mem_cons] at hentry
        exact hentry.symm
      · rw [add, if_neg hi] at hentry
        exact .inl hentry

/-- `t.keep?`: a table that holds the earlier filters keeps those of the later ones that are equal
to none before them. -/
theorem Holds.keep?_eq (ht : Holds h slot t earlier) (hearlier : ∀ g ∈ earlier, g.WellFormed)
    {fs : List Filter} (hfs : ∀ f ∈ fs, f.WellFormed) :
    t.keep? slot h earlier.length fs = some (Filter.distinctAfter earlier fs) := by
  -- The filters that are still to come get fewer; that the table holds the earlier ones is kept.
  induction fs generalizing t earlier with
  | nil => rw [keep?, Filter.distinctAfter]
  | cons f fs ih =>
    obtain ⟨hf, hfs⟩ := List.forall_mem_cons.mp hfs
    obtain ⟨n, hn⟩ := h.exists_filter? hf
    have hnext := ih (ht.step hf hn)
      (List.forall_mem_append.mpr ⟨hearlier, List.forall_mem_singleton.mpr hf⟩) hfs
    have hhas : t.has slot n f = earlier.any (f.same ·) := by
      rw [Bool.eq_iff_iff, ht.has_iff hearlier hf hn, List.any_eq_true]
    rw [List.length_append, List.length_singleton, hhas] at hnext
    rw [keep?, Filter.distinctAfter, hn, Option.bind_eq_bind, Option.bind_some, hhas]
    by_cases hany : earlier.any (f.same ·) = true
    · rw [if_pos hany] at hnext ⊢
      rw [if_pos hany]
      exact hnext
    · rw [if_neg hany] at hnext ⊢
      rw [if_neg hany, hnext]
      rfl

end HashTable

/-! ## The filters that can be built -/

namespace Filter

/-- Between the filters that can be built `same` is an equivalence. Each of them has a hash, and
equal ones have the same. Where equal filters of a list are removed, a hash table keeps the same
positions as comparing them all. -/
theorem same_equivalence_respects_hash (h : Hashing) (slot : Int → Nat) :
    Equivalence (fun f g : {f : Filter // f.Constructible} => f.1.same g.1 = true) ∧
      (∀ f : Filter, f.Constructible → ∃ n, h.filter? f = some n) ∧
      (∀ f g : Filter, f.Constructible → g.Constructible → f.same g = true →
        h.filter? f = h.filter? g) ∧
      ∀ fs : List Filter, (∀ f ∈ fs, f.Constructible) →
        hashedPositions? h slot fs = some (distinctPositions fs) := by
  refine ⟨⟨fun f => f.2.wellFormed.same_refl,
      fun {f g} hfg => f.2.wellFormed.same_symm g.2.wellFormed hfg,
      fun {e f g} hef hfg => e.2.wellFormed.same_trans f.2.wellFormed hef hfg⟩,
    fun f hf => h.exists_filter? hf.wellFormed, fun f g hf hg hfg => ?_, fun fs hfs => ?_⟩
  · exact h.filter?_congr hf.wellFormed (hf.wellFormed.same_iff.mp hfg)
  · exact HashTable.holds_empty.keep?_eq nofun fun f hf => (hfs f hf).wellFormed

/-- One and true are equal, so a table keeps one of the two ratings. -/
theorem same_equivalence_respects_hash_ratings :
    ∃ (h : Hashing) (slot : Int → Nat),
      hashedPositions? h slot [rated (.int 1), rated (.bool true), rated (.int 2)] =
        some [0, 2] := by
  let h : Hashing :=
    { quantity := fun q => match q with
        | .exact units => units.sign * (units.natAbs * 2 ^ 24 % (2 ^ 61 - 1))
        | _ => 0
      text := fun s => s.length
      instant := id
      wallClock := id
      other := fun _ => 0
      sequence := fun ns => ns.foldl (fun acc n => 31 * acc + n) 7 }
  have hbuilt : ∀ f ∈ [rated (.int 1), rated (.bool true), rated (.int 2)], f.Constructible := by
    intro f hf
    simp only [List.mem_cons, List.not_mem_nil, or_false] at hf
    rcases hf with rfl | rfl | rfl <;> exact rated_constructible trivial
  refine ⟨h, fun n => n.natAbs % 8, ?_⟩
  rw [(same_equivalence_respects_hash h fun n => n.natAbs % 8).2.2.2 _ hbuilt]
  exact congrArg some (by decide +kernel)

end Filter

end ObjectStore
