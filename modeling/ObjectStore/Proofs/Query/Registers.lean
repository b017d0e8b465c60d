import Mathlib
import ObjectStore.Proofs.Except
import ObjectStore.Query.Step

/-! # The registers of a query

The four settings of a query are registers: a value is accepted or refused whatever the query
holds, an accepted one replaces what its register held, and the other registers keep theirs. So what
a query in use holds after some steps is, for each register, what the last accepted setting gave it,
or what it held at first; refused settings and all readings change nothing.

* `Register.Content`, `get`, `put`: the registers and what they hold.
* `set_eq`: a setting is a check that does not look at the query, then a `put`.
* `get_foldl_apply`: a register after some settings, by the last of them.
* `lasts`: the settings that are not overwritten by a later one. -/

namespace ObjectStore.Query

/-! ## Contents of registers -/

/-- What a register holds. -/
def Register.Content : Register → Type
  | filter => Option Filter
  | limit => Option Int
  | selection => List String
  | defaults => List Value

/-- What a value is for a register, or the objection to it. -/
def Register.check : (r : Register) → Value → Except Failure r.Content
  | filter, .null => .ok none
  | filter, .filter f => .ok (some f)
  | filter, v => .error (.invalid (.notFilter v.typeName))
  | limit, .null => .ok none
  | limit, v => (Validate.limit v).map some
  | selection, v => Fields.selectionOf v
  | defaults, v => Fields.fieldsOf v

variable {q q' : Query} {r t : Register}

/-- What a register of `q` holds. -/
def get (q : Query) : (r : Register) → r.Content
  | .filter => q.filter
  | .limit => q.limit
  | .selection => q.selected
  | .defaults => q.defaults

/-- The query `q`, in which a register holds something. -/
def put (q : Query) : (r : Register) → r.Content → Query
  | .filter, f => { q with filter := f }
  | .limit, n => { q with limit := n }
  | .selection, names => { q with selected := names }
  | .defaults, fields => { q with defaults := fields }

/-- What was given when `q` was made and is in no register. -/
def construction (q : Query) : String × Option String × EmptySelection :=
  (q.collection, q.tenant, q.emptySelection)

/-- `(q.put r x).get r = x`. -/
@[simp] theorem get_put (q : Query) (r : Register) (x : r.Content) : (q.put r x).get r = x := by
  cases r <;> rfl

/-- `(q.put r x).get t = q.get t` for another register `t`. -/
theorem get_put_of_ne (h : r ≠ t) (x : r.Content) : (q.put r x).get t = q.get t := by
  cases r <;> cases t <;> first | rfl | exact absurd rfl h

/-- `(q.put r x).construction = q.construction`. -/
@[simp] theorem construction_put (q : Query) (r : Register) (x : r.Content) :
    (q.put r x).construction = q.construction := by
  cases r <;> rfl

/-- Queries are told apart by their construction and their registers. -/
theorem ext_get (hconstruction : q.construction = q'.construction)
    (hget : ∀ r, q.get r = q'.get r) : q = q' := by
  obtain ⟨hcollection, htenant, hempty⟩ : q.collection = q'.collection ∧ q.tenant = q'.tenant ∧
      q.emptySelection = q'.emptySelection := by simpa [construction] using hconstruction
  have hfilter : q.filter = q'.filter := hget .filter
  have hlimit : q.limit = q'.limit := hget .limit
  have hselected : q.selected = q'.selected := hget .selection
  have hdefaults : q.defaults = q'.defaults := hget .defaults
  cases q
  cases q'
  simp_all

/-- `q.set s = (s.register.check s.value).map (q.put s.register)`: A setting is checked without a
look at the query, then put into its register. -/
theorem set_eq (q : Query) (s : Setting) :
    q.set s = (s.register.check s.value).map (q.put s.register) := by
  obtain ⟨r, v⟩ := s
  cases r with
  | filter => cases v <;> rfl
  | limit =>
    -- Unlike the others a limit is checked by a function of its own, which may fail.
    have hlimit : (Validate.limit v).map (fun n => { q with limit := some n }) =
        ((Validate.limit v).map some).map (q.put .limit) := by
      cases Validate.limit v <;> rfl
    cases v <;> first | rfl | exact hlimit
  | selection => rfl
  | defaults => rfl

/-! ## Settings in turn -/

/-- That `s` is accepted. -/
def Setting.Accepted (s : Setting) : Prop := ∃ x, s.register.check s.value = .ok x

/-- The query `q` after `s`, which is left out if it is refused. -/
def apply (q : Query) (s : Setting) : Query :=
  match s.register.check s.value with
  | .ok x => q.put s.register x
  | .error _ => q

/-- `q.set s = .ok (q.apply s)` for an accepted setting. -/
theorem set_of_accepted {s : Setting} (h : s.Accepted) (q : Query) : q.set s = .ok (q.apply s) := by
  obtain ⟨x, hx⟩ := h
  rw [set_eq, apply, hx]
  rfl

/-- A setting that goes through is accepted. -/
theorem accepted_of_set_eq_ok {s : Setting} (h : q.set s = .ok q') : s.Accepted := by
  rw [set_eq] at h
  cases hx : s.register.check s.value with
  | ok x => exact ⟨x, hx⟩
  | error e =>
    rw [hx] at h
    cases h

/-- A setting leaves `construction` as it was. -/
theorem construction_of_set_eq_ok {s : Setting} (h : q.set s = .ok q') :
    q'.construction = q.construction := by
  rw [set_eq] at h
  obtain ⟨x, -, rfl⟩ := map_eq_ok h
  exact construction_put _ _ _

/-- Settings one after the other leave `construction` as it was. -/
theorem construction_of_foldlM_set {ss : List Setting} (h : ss.foldlM set q = .ok q') :
    q'.construction = q.construction := by
  induction ss generalizing q with
  | nil =>
    cases h
    rfl
  | cons s ss ih =>
    rw [List.foldlM_cons] at h
    obtain ⟨p, hp, h⟩ := bind_eq_ok h
    rw [ih h, construction_of_set_eq_ok hp]

/-- `ss.foldlM set q = .ok (ss.foldl apply q)` for accepted settings. -/
theorem foldlM_set {ss : List Setting} (h : ∀ s ∈ ss, s.Accepted) (q : Query) :
    ss.foldlM set q = .ok (ss.foldl apply q) := by
  induction ss generalizing q with
  | nil => rfl
  | cons s ss ih =>
    rw [List.foldlM_cons, set_of_accepted (h s List.mem_cons_self), List.foldl_cons]
    exact ih (fun t ht => h t (List.mem_cons_of_mem _ ht)) _

/-- The last of the settings `ss` of the register `r`. -/
def lastOf (r : Register) (ss : List Setting) : Option Setting :=
  (ss.filter (·.register = r)).getLast?

/-- `(ss.foldl apply q).construction = q.construction`. -/
theorem construction_foldl_apply (ss : List Setting) (q : Query) :
    (ss.foldl apply q).construction = q.construction := by
  induction ss generalizing q with
  | nil => rfl
  | cons s ss ih =>
    rw [List.foldl_cons, ih, apply]
    split
    · exact construction_put _ _ _
    · rfl

/-- `lastOf r (ss ++ [s])` is `s`, if it is of the register `r`. -/
theorem lastOf_concat (r : Register) (ss : List Setting) (s : Setting) :
    lastOf r (ss ++ [s]) = if s.register = r then some s else lastOf r ss := by
  by_cases h : s.register = r <;> simp [lastOf, h]

/-- `(ss.foldl apply q).get r`: a register holds what the last of its settings gave it, or what it
held at first. -/
theorem get_foldl_apply (q : Query) (r : Register) {ss : List Setting} (h : ∀ s ∈ ss, s.Accepted) :
    (ss.foldl apply q).get r = ((lastOf r ss).toList.foldl apply q).get r := by
  -- From the end: the last setting decides its own register and leaves the others alone.
  induction ss using List.reverseRecOn with
  | nil => rfl
  | append_singleton ss s ih =>
    obtain ⟨x, hx⟩ := h s (by simp)
    have ih := ih fun t ht => h t (List.mem_append_left _ ht)
    have happly : ∀ p : Query, p.apply s = p.put s.register x := fun p => by rw [apply, hx]
    rw [List.foldl_append, lastOf_concat]
    by_cases hr : s.register = r
    · subst hr
      simp [happly]
    · rw [if_neg hr, ← ih]
      simp [happly, get_put_of_ne hr]

/-- `ss.foldl apply q = ts.foldl apply q`: settings that are the same as far as the last one of each
register goes lead to one query. -/
theorem foldl_apply_eq (q : Query) {ss ts : List Setting} (hss : ∀ s ∈ ss, s.Accepted)
    (hts : ∀ s ∈ ts, s.Accepted) (h : ∀ r, lastOf r ss = lastOf r ts) :
    ss.foldl apply q = ts.foldl apply q := by
  refine ext_get ?_ fun r => ?_
  · rw [construction_foldl_apply, construction_foldl_apply]
  · rw [get_foldl_apply q r hss, get_foldl_apply q r hts, h r]

/-! ## The settings that last -/

/-- The settings that are not overwritten: for each register, the last of its settings. -/
def lasts : List Setting → List Setting
  | [] => []
  | s :: ss => if ss.any (·.register = s.register) then lasts ss else s :: lasts ss

/-- `s ∈ lasts ss`: the last settings are among the settings. -/
theorem mem_of_mem_lasts {s : Setting} {ss : List Setting} (h : s ∈ lasts ss) : s ∈ ss := by
  induction ss with
  | nil => exact h
  | cons t ss ih =>
    rw [lasts] at h
    split at h
    · exact List.mem_cons_of_mem _ (ih h)
    · rcases List.mem_cons.mp h with rfl | h
      · exact List.mem_cons_self
      · exact List.mem_cons_of_mem _ (ih h)

/-- `lastOf r (s :: ss)` is `s` only if no later setting is of the register `r`. -/
theorem lastOf_cons (r : Register) (s : Setting) (ss : List Setting) :
    lastOf r (s :: ss) = if s.register = r then some ((lastOf r ss).getD s) else lastOf r ss := by
  by_cases h : s.register = r <;> simp [lastOf, h, List.getLast?_cons]

/-- `lastOf r ss = none` if no setting is of the register `r`. -/
theorem lastOf_eq_none {r : Register} {ss : List Setting} :
    lastOf r ss = none ↔ ss.any (·.register = r) = false := by
  simp [lastOf]

/-- `(lasts ss).filter (·.register = r) = (lastOf r ss).toList`: each register that is set has one
setting that lasts, which is the last of its settings. -/
theorem filter_lasts (r : Register) (ss : List Setting) :
    (lasts ss).filter (·.register = r) = (lastOf r ss).toList := by
  induction ss with
  | nil => rfl
  | cons s ss ih =>
    rw [lastOf_cons, lasts]
    by_cases h : s.register = r
    · subst h
      rw [if_pos rfl]
      -- The first setting lasts only if no other one of its register follows.
      cases hany : ss.any (·.register = s.register) with
      | true =>
        obtain ⟨t, ht⟩ := Option.ne_none_iff_exists'.mp fun hnone =>
          Bool.false_ne_true ((lastOf_eq_none.mp hnone).symm.trans hany)
        rw [if_pos rfl, ih, ht]
        rfl
      | false =>
        rw [if_neg Bool.false_ne_true, List.filter_cons_of_pos (by simp), ih,
          lastOf_eq_none.mpr hany]
        rfl
    · rw [if_neg h]
      split
      · exact ih
      · rw [List.filter_cons_of_neg (by simpa using h), ih]

/-- `lastOf r order = lastOf r ss`: in whatever order the lasting settings are made, the last one of
each register is the same. -/
theorem lastOf_of_perm_lasts {order ss : List Setting} (h : order.Perm (lasts ss)) (r : Register) :
    lastOf r order = lastOf r ss := by
  have hperm : (order.filter (·.register = r)).Perm (lastOf r ss).toList :=
    filter_lasts r ss ▸ h.filter _
  rw [lastOf]
  -- One setting of the register lasts at most, so that there is nothing to reorder.
  cases hlast : lastOf r ss with
  | none => rw [hlast] at hperm; rw [hperm.eq_nil]; rfl
  | some s => rw [hlast] at hperm; rw [List.perm_singleton.mp hperm]; rfl

/-! ## Queries in use -/

/-- That a step sets no register. -/
def Step.Reads : Step → Prop
  | set _ => False
  | _ => True

/-- The settings among some steps that were not refused, given what each step came to. -/
def settingsMade : List Step → List (Except Failure Answer) → List Setting
  | .set s :: steps, .ok _ :: answers => s :: settingsMade steps answers
  | _ :: steps, _ :: answers => settingsMade steps answers
  | _, _ => []

section

variable {σ : Type} (fx : Effects σ) (connection : Option (Connection σ)) (u : InUse σ)

/-- An accepted setting is made, and the query itself is the answer. -/
theorem Step.run_set_of_accepted {s : Setting} (h : s.Accepted) :
    (Step.set s).run fx connection u = (.ok .itself, { u with query := u.query.apply s }) := by
  have hchange : InUse.change (·.set s) u = (.ok (), { u with query := u.query.apply s }) := by
    rw [InUse.change, Action.bind_run_ok (Action.get_run u), set_of_accepted h]
    rfl
  exact Action.bind_run_ok hchange

/-- A refused setting fails and leaves all as it was. -/
theorem Step.run_set_of_refused {s : Setting} (h : ¬ s.Accepted) :
    ∃ e, (Step.set s).run fx connection u = (.error e, u) := by
  cases hset : u.query.set s with
  | ok q => exact absurd (accepted_of_set_eq_ok hset) h
  | error e =>
    have hchange : InUse.change (·.set s) u = (.error e, u) := by
      rw [InUse.change, Action.bind_run_ok (Action.get_run u), hset]
      rfl
    exact ⟨e, Action.bind_run_error hchange⟩

/-- A step that only reads leaves the query as it was. -/
theorem Step.query_run_of_reads {step : Step} (h : step.Reads) :
    (step.run fx connection u).2.query = u.query := by
  cases step with
  | set s => exact h.elim
  | _ => rfl

/-- A step that fails leaves the query as it was. -/
theorem Step.query_run_of_error {step : Step} {e : Failure}
    (h : (step.run fx connection u).1 = .error e) :
    (step.run fx connection u).2.query = u.query := by
  cases step with
  | set s =>
    by_cases hs : s.Accepted
    · rw [run_set_of_accepted fx connection u hs] at h
      cases h
    · obtain ⟨e', he'⟩ := run_set_of_refused fx connection u hs
      rw [he']
  | _ => rfl

/-- `Step.compile.run`: A compilation is answered by what the query compiles to, whatever the
state. -/
theorem Step.answer_compile :
    (Step.compile.run fx connection u).1 = u.query.compile.map .compiled := by
  show ((u.query.compileLogged fx >>= fun c => pure (Answer.compiled c)) u.state).1 = _
  cases hcompile : u.query.compile with
  | ok c => rw [Action.bind_run_ok (compileLogged_of_ok hcompile fx u.state)]; rfl
  | error e => rw [Action.bind_run_error (compileLogged_of_error hcompile fx u.state)]; rfl

/-- What is in use after some steps is the query with the settings that were made. -/
theorem query_runSteps (steps : List Step) :
    let (answers, after) := runSteps fx connection steps u
    (∀ s ∈ settingsMade steps answers, s.Accepted) ∧
      after.query = (settingsMade steps answers).foldl apply u.query := by
  induction steps generalizing u with
  | nil => simp [runSteps, settingsMade]
  | cons step steps ih =>
    -- The remaining steps are made on what this one leaves in use.
    have ih := ih (step.run fx connection u).2
    have hreads (h : step.Reads) := Step.query_run_of_reads fx connection u h
    rw [runSteps]
    cases step with
    | set s =>
      by_cases hs : s.Accepted
      · rw [Step.run_set_of_accepted fx connection u hs] at ih ⊢
        exact ⟨List.forall_mem_cons.mpr ⟨hs, ih.1⟩, ih.2⟩
      · obtain ⟨e, he⟩ := Step.run_set_of_refused fx connection u hs
        rw [he] at ih ⊢
        exact ih
    | _ => exact ⟨ih.1, hreads trivial ▸ ih.2⟩

/-- After any steps, some of which may fail, a query compiles to what it compiles to when for each
register only the last setting that was not refused is made, in any `order`. Steps that fail and
steps that read change nothing of the query. -/
theorem compile_runSteps (fresh : Query) (state : σ) (steps : List Step) :
    let (answers, after) := runSteps fx connection steps ⟨fresh, state⟩
    (∀ order : List Setting, order.Perm (lasts (settingsMade steps answers)) →
      ∃ q, order.foldlM set fresh = .ok q ∧
        ∀ other, (Step.compile.run fx connection after).1 =
          (Step.compile.run fx connection ⟨q, other⟩).1) ∧
    ∀ (step : Step) (u : InUse σ),
      step.Reads ∨ (∃ e, (step.run fx connection u).1 = .error e) →
      (step.run fx connection u).2.query = u.query := by
  obtain ⟨haccepted, hquery⟩ := query_runSteps fx connection ⟨fresh, state⟩ steps
  refine ⟨fun order horder => ?_, ?_⟩
  · -- What was accepted on one query is so on any, in any order.
    have horderAccepted : ∀ s ∈ order, s.Accepted := fun s hs =>
      haccepted s (mem_of_mem_lasts (horder.subset hs))
    refine ⟨_, foldlM_set horderAccepted fresh, fun other => ?_⟩
    have hsame := foldl_apply_eq fresh haccepted horderAccepted
      fun r => (lastOf_of_perm_lasts horder r).symm
    rw [Step.answer_compile, Step.answer_compile, ← hsame, hquery]
  · rintro step u (h | ⟨e, h⟩)
    · exact Step.query_run_of_reads fx connection u h
    · exact Step.query_run_of_error fx connection u h

end

end ObjectStore.Query
