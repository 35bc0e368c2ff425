import GridQuery.Proofs.Constraint
import GridQuery.Proofs.Store.Survivors
import Mathlib

/-!
# Criteria are an unordered conjunction

Lists of criteria that can be asked separately can be asked together, and every part of a list can be
asked too.  What survives is then decided member by member: order and repetition do not matter, more
criteria leave fewer rows, and those that come to nothing leave all of them.
-/

namespace GridQuery

namespace Criterion
variable {setting : Setting} {schema : Schema} {criterion : Criterion}

/-- A criterion that is dropped, or that resolves and puts no condition on rows. -/
inductive Inert (setting : Setting) (schema : Schema) (criterion : Criterion) : Prop
  | dropped (dropped : Dropped)
      (h : criterion.resolve setting.zone schema = .ok (.dropped dropped))
  | unconstrained (resolved : Resolved)
      (h : criterion.resolve setting.zone schema = .ok (.resolved resolved))
      (hnone : Constraints.standard.condition? setting resolved = .ok none)

theorem Inert.builds (inert : criterion.Inert setting schema) :
    criterion.Builds .standard setting schema := by
  cases inert with
  | dropped dropped h => exact ⟨⟨_, h⟩, by simp [resolved?, h]⟩
  | unconstrained resolved h hnone =>
    refine ⟨⟨_, h⟩, ?_⟩
    intro other hother
    simp only [resolved?, h, Option.some.injEq] at hother
    exact ⟨none, hother ▸ hnone⟩

theorem Inert.condition?_eq_none (inert : criterion.Inert setting schema) :
    criterion.condition? .standard setting schema = none := by
  cases inert with
  | dropped dropped h => simp [condition?, resolved?, h]
  | unconstrained resolved h hnone =>
    simp [condition?, resolved?, h, Constraints.compiled?, hnone]

theorem Inert.keeps (inert : criterion.Inert setting schema) (row : Row) :
    setting.capabilities.engine.keeps setting.zone schema row criterion := by
  cases inert with
  | dropped dropped h => simp [ResidualEngine.keeps, resolved?, h]
  | unconstrained resolved h hnone =>
    have hnot : setting.capabilities.engine.concerns resolved = false := by
      rw [Bool.eq_false_iff]
      intro hconcerns
      obtain ⟨⟨_, hoperator⟩, _⟩ := by
        simpa only [ResidualEngine.concerns, Bool.and_eq_true, decide_eq_true_eq] using hconcerns
      exact (ResidualEngine.concerns_iff_condition? h hoperator).mp hconcerns hnone
    simp [ResidualEngine.keeps, resolved?, h, hnot]

theorem inert_of_unfit (h : criterion.unfit setting.zone schema ≠ []) :
    criterion.Inert setting schema := by
  refine .dropped ⟨criterion, (criterion.unfit setting.zone schema).map .unfit⟩ ?_
  unfold resolve
  split
  · rename_i hunfit _
    exact absurd hunfit h
  · rfl

theorem criterion_of_resolved? {zone : Zone} {resolved : Resolved}
    (h : criterion.resolved? zone schema = some resolved) : resolved.criterion = criterion := by
  obtain ⟨_, _, _, values, _, heq⟩ := resolve_eq_resolved (resolved?_eq_some_iff.mp h)
  rw [heq]

theorem criterion_of_dropped? {zone : Zone} {dropped : Dropped}
    (h : criterion.dropped? zone schema = some dropped) : dropped.criterion = criterion := by
  have h := dropped?_eq_some_iff.mp h
  unfold resolve at h
  split at h
  · split at h
    · cases h
      rfl
    · obtain ⟨outcome, _, h⟩ := Steps.bind_eq_ok_iff.mp h
      cases outcome <;> cases h
      rfl
  · cases h
    rfl

end Criterion

theorem filterMap_map_eq_filter {α β : Type} {f : α → Option β} {g : β → α} {l : List α}
    (h : ∀ a ∈ l, ∀ b, f a = some b → g b = a) :
    (l.filterMap f).map g = l.filter fun a => (f a).isSome := by
  induction l with
  | nil => rfl
  | cons a l ih =>
    have ih := ih fun a ha => h a (List.mem_cons_of_mem _ ha)
    cases hf : f a with
    | none => simp [hf, ih]
    | some b => simp [hf, ih, h a List.mem_cons_self b hf]

namespace Predicate
variable {constraints : Constraints} {setting : Setting} {schema : Schema} {tableId : Int}
  {criteria : List Criterion} {search : String} {predicate : Predicate}

/-- The criteria of a predicate and those dropped divide the given ones, in their order. -/
theorem criteria_and_dropped (h : ofCriteria constraints setting schema tableId criteria search =
      .ok predicate) :
    predicate.criteria.map (·.criterion) =
        criteria.filter (fun c => (c.resolved? setting.zone schema).isSome) ∧
      predicate.dropped.map (·.criterion) =
        criteria.filter (fun c => !(c.resolved? setting.zone schema).isSome) := by
  obtain ⟨builds, rfl⟩ := ofCriteria_eq_ok_iff.mp h
  constructor
  · exact filterMap_map_eq_filter fun _ _ _ => Criterion.criterion_of_resolved?
  · rw [built, filterMap_map_eq_filter fun _ _ _ => Criterion.criterion_of_dropped?]
    apply List.filter_congr
    intro criterion hmem
    rw [Criterion.resolved?_isSome_eq (builds criterion hmem).1, Bool.not_not]

end Predicate

namespace Store
variable {store : Store} {setting : Setting} {schema : Schema} {tableId : Int} {search : String}
  {order : RowOrder} {cs ds : List Criterion}

theorem Runs.append (hcs : store.Runs setting schema tableId search cs)
    (hds : store.Runs setting schema tableId search ds) :
    store.Runs setting schema tableId search (cs ++ ds) := by
  refine ⟨?_, ?_, hcs.rows, hcs.integers, ?_⟩
  · exact List.forall_mem_append.mpr ⟨hcs.builds, hds.builds⟩
  · exact List.forall_mem_append.mpr ⟨hcs.instants, hds.instants⟩
  · rcases hcs.cells with hcells | ⟨hsearch, hnone, hempty⟩
    · exact .inl hcells
    · rcases hds.cells with hcells | ⟨_, hnone', _⟩
      · exact .inl hcells
      · exact .inr ⟨hsearch, List.forall_mem_append.mpr ⟨hnone, hnone'⟩, hempty⟩

theorem Runs.subset (h : cs ⊆ ds) (hds : store.Runs setting schema tableId search ds) :
    store.Runs setting schema tableId search cs := by
  refine ⟨fun c hc => hds.builds c (h hc), fun c hc => hds.instants c (h hc), hds.rows,
    hds.integers, ?_⟩
  rcases hds.cells with hcells | ⟨hsearch, hnone, hempty⟩
  · exact .inl hcells
  · exact .inr ⟨hsearch, fun c hc => hnone c (h hc), hempty⟩

theorem runs_cons_iff {c : Criterion} (inert : c.Inert setting schema) :
    store.Runs setting schema tableId search (c :: cs) ↔
      store.Runs setting schema tableId search cs := by
  constructor
  · exact Runs.subset (List.subset_cons_self c cs)
  · intro runs
    refine ⟨List.forall_mem_cons.mpr ⟨inert.builds, runs.builds⟩,
      List.forall_mem_cons.mpr ⟨?_, runs.instants⟩, runs.rows, runs.integers, ?_⟩
    · intro condition hcondition
      rw [inert.condition?_eq_none] at hcondition
      cases hcondition
    · rcases runs.cells with hcells | ⟨hsearch, hnone, hempty⟩
      · exact .inl hcells
      · exact .inr ⟨hsearch, List.forall_mem_cons.mpr ⟨inert.condition?_eq_none, hnone⟩, hempty⟩

theorem admits_inert {c : Criterion} (inert : c.Inert setting schema) (row : StoredRow) :
    store.admits setting schema row c := by
  simp only [admits, inert.condition?_eq_none, Option.all_none, inert.keeps, Bool.and_self]

/-- A row of the table survives if and only if its id is one of those that survive. -/
theorem id_mem_survivors_iff {rows : List Row} {row : StoredRow}
    (h : store.survivors setting schema tableId search order cs = .ok rows)
    (hrow : row ∈ store.listing (searched setting schema tableId search) order) :
    row.id ∈ rows.map (·.id) ↔ cs.all (store.admits setting schema row) := by
  obtain ⟨_, rfl⟩ := survivors_eq_ok_iff.mp h
  rw [List.map_map, List.mem_map]
  constructor
  · rintro ⟨other, hother, hid⟩
    rw [admits_congr (show row.id = other.id from hid.symm)]
    exact (List.mem_filter.mp hother).2
  · intro hall
    exact ⟨row, List.mem_filter.mpr ⟨hrow, hall⟩, rfl⟩

theorem survivors_append {rc rd : List Row}
    (hcs : store.survivors setting schema tableId search order cs = .ok rc)
    (hds : store.survivors setting schema tableId search order ds = .ok rd) :
    store.survivors setting schema tableId search order (cs ++ ds) =
      .ok (rc.filter fun row => row.id ∈ rd.map (·.id)) := by
  obtain ⟨runsC, hrc⟩ := survivors_eq_ok_iff.mp hcs
  have runsD := (survivors_eq_ok_iff.mp hds).1
  refine survivors_eq_ok_iff.mpr ⟨runsC.append runsD, ?_⟩
  rw [hrc, List.filter_map, List.filter_filter]
  congr 1
  apply List.filter_congr
  intro row hrow
  have hid : decide (row.id ∈ rd.map (·.id)) = ds.all (store.admits setting schema row) := by
    rw [Bool.eq_iff_iff, decide_eq_true_iff, id_mem_survivors_iff hds hrow]
  rw [List.all_append, Bool.and_comm]
  exact congrArg _ hid

theorem mem_survivors_append {rc rd rows : List Row} {row : Row}
    (hcs : store.survivors setting schema tableId search order cs = .ok rc)
    (hds : store.survivors setting schema tableId search order ds = .ok rd)
    (hboth : store.survivors setting schema tableId search order (cs ++ ds) = .ok rows) :
    row ∈ rows ↔ row ∈ rc ∧ row ∈ rd := by
  obtain ⟨_, hrc⟩ := survivors_eq_ok_iff.mp hcs
  obtain ⟨_, hrd⟩ := survivors_eq_ok_iff.mp hds
  rw [survivors_append hcs hds, Except.ok.injEq] at hboth
  rw [← hboth, List.mem_filter, decide_eq_true_iff]
  constructor
  · rintro ⟨hmem, hid⟩
    refine ⟨hmem, ?_⟩
    rw [hrc] at hmem
    obtain ⟨stored, hstored, rfl⟩ := List.mem_map.mp hmem
    have hlisted := (List.mem_filter.mp hstored).1
    rw [hrd]
    exact List.mem_map_of_mem (List.mem_filter.mpr ⟨hlisted, (id_mem_survivors_iff hds hlisted).mp hid⟩)
  · rintro ⟨hmem, hother⟩
    exact ⟨hmem, List.mem_map_of_mem hother⟩

/-- What is asked for more often, or in another order, is not asked for otherwise. -/
theorem survivors_congr {rows : List Row} (same : ∀ c, c ∈ cs ↔ c ∈ ds)
    (h : store.survivors setting schema tableId search order cs = .ok rows) :
    store.survivors setting schema tableId search order ds = .ok rows := by
  obtain ⟨runs, rfl⟩ := survivors_eq_ok_iff.mp h
  refine survivors_eq_ok_iff.mpr ⟨runs.subset fun c hc => (same c).mpr hc, ?_⟩
  congr 1
  apply List.filter_congr
  intro row _
  rw [Bool.eq_iff_iff, List.all_eq_true, List.all_eq_true]
  exact forall_congr' fun c => by rw [same c]

/-- Whatever part of the criteria is asked for alone leaves at least the same rows. -/
theorem survivors_sublist {rows : List Row} (h : cs ⊆ ds)
    (hds : store.survivors setting schema tableId search order ds = .ok rows) :
    ∃ more, store.survivors setting schema tableId search order cs = .ok more ∧
      rows.Sublist more := by
  obtain ⟨runs, rfl⟩ := survivors_eq_ok_iff.mp hds
  refine ⟨_, survivors_eq_ok_iff.mpr ⟨runs.subset h, rfl⟩, ?_⟩
  apply List.Sublist.map
  apply List.monotone_filter_right
  intro row hall
  rw [List.all_eq_true] at hall ⊢
  exact fun c hc => hall c (h hc)

theorem survivors_cons_inert {c : Criterion} {rows : List Row} (inert : c.Inert setting schema) :
    store.survivors setting schema tableId search order (c :: cs) = .ok rows ↔
      store.survivors setting schema tableId search order cs = .ok rows := by
  rw [survivors_eq_ok_iff, survivors_eq_ok_iff, runs_cons_iff inert]
  simp only [List.all_cons, admits_inert inert, Bool.true_and]

theorem survivors_insert_inert {c : Criterion} {rows : List Row} (inert : c.Inert setting schema) :
    store.survivors setting schema tableId search order (cs ++ c :: ds) = .ok rows ↔
      store.survivors setting schema tableId search order (cs ++ ds) = .ok rows := by
  refine Iff.trans ?_ (survivors_cons_inert inert)
  constructor
  · exact survivors_congr fun d => List.perm_middle.mem_iff
  · exact survivors_congr fun d => List.perm_middle.symm.mem_iff

/-- Criteria are an unordered conjunction in which those that come to nothing do not count, and a
predicate sorts them into its own and those that it drops.  The store is assumed to take any number of
conditions. -/
theorem survivors_isConjunction (store : Store) (setting : Setting) (schema : Schema) (tableId : Int)
    (search : String) (order : RowOrder) :
    (∀ cs ds rc rd,
      store.survivors setting schema tableId search order cs = .ok rc →
      store.survivors setting schema tableId search order ds = .ok rd →
        ∃ both, store.survivors setting schema tableId search order (cs ++ ds) = .ok both ∧
          both = rc.filter (fun row => row.id ∈ rd.map (·.id)) ∧
          ∀ row, row ∈ both ↔ row ∈ rc ∧ row ∈ rd) ∧
    (∀ cs ds rows, (∀ c, c ∈ cs ↔ c ∈ ds) →
      store.survivors setting schema tableId search order cs = .ok rows →
        store.survivors setting schema tableId search order ds = .ok rows) ∧
    (∀ cs ds rows, cs ⊆ ds →
      store.survivors setting schema tableId search order ds = .ok rows →
        ∃ more, store.survivors setting schema tableId search order cs = .ok more ∧
          rows.Sublist more) ∧
    (∀ before c after rows, c.Inert setting schema →
      (store.survivors setting schema tableId search order (before ++ c :: after) = .ok rows ↔
        store.survivors setting schema tableId search order (before ++ after) = .ok rows)) ∧
    (∀ c : Criterion, c.unfit setting.zone schema ≠ [] → c.Inert setting schema) ∧
    ∀ cs predicate, Predicate.ofCriteria .standard setting schema tableId cs search = .ok predicate →
      predicate.criteria.map (·.criterion) =
          cs.filter (fun c => (c.resolved? setting.zone schema).isSome) ∧
        predicate.dropped.map (·.criterion) =
          cs.filter (fun c => !(c.resolved? setting.zone schema).isSome) ∧
        (predicate.criteria.map (·.criterion) ++ predicate.dropped.map (·.criterion)).Perm cs := by
  refine ⟨?_, fun cs ds rows => survivors_congr, fun cs ds rows => survivors_sublist,
    fun before c after rows => survivors_insert_inert, fun c => Criterion.inert_of_unfit, ?_⟩
  · intro cs ds rc rd hcs hds
    have hboth := survivors_append hcs hds
    exact ⟨_, hboth, rfl, fun row => mem_survivors_append hcs hds hboth⟩
  · intro cs predicate h
    obtain ⟨hcriteria, hdropped⟩ := Predicate.criteria_and_dropped h
    refine ⟨hcriteria, hdropped, ?_⟩
    rw [hcriteria, hdropped]
    exact List.filter_append_perm _ cs

def guests : Store :=
  ((empty.addTable 7).addColumn 7 ⟨1, "name", "text", 0, none⟩).insertRow .utc
    ⟨1, 7, ⟨0, Reading.zero_lt⟩⟩ [(1, .text "Anna")]

def guestsLeft (criteria : List Criterion) : Except ServingFault (List Row) :=
  guests.survivors ⟨.utc, ⟨⟨0, Reading.zero_lt⟩, none⟩, ⟨true⟩⟩ ⟨[⟨1, "name", "text", 0, none⟩]⟩ 7 ""
    ⟨.id, false⟩ criteria

theorem survivors_isConjunction_guests :
    let contains : Criterion := ⟨1, "contains", .text "N", .null, none, none, by decide, by decide⟩
    let ends : Criterion := ⟨1, "ends_with", .text "a", .null, none, none, by decide, by decide⟩
    let above : Criterion := ⟨1, "greater_than", .text "A", .null, none, none, by decide, by decide⟩
    let anna := guests.rowView (guests.cells.getD []) ⟨1, 7, ⟨0, by decide⟩⟩
    (∃ both, guestsLeft ([contains] ++ [ends]) = .ok both ∧ ∀ row, row ∈ both ↔ row ∈ [anna]) ∧
      guestsLeft [ends, contains, ends] = .ok [anna] ∧
      (∃ more, guestsLeft [ends] = .ok more ∧ [anna].Sublist more) ∧
      guestsLeft ([contains] ++ above :: [ends]) = .ok [anna] := by
  intro contains ends above anna
  obtain ⟨together, same, part, inert, unfit, _⟩ := survivors_isConjunction guests
    ⟨.utc, ⟨⟨0, by decide⟩, none⟩, ⟨true⟩⟩ ⟨[⟨1, "name", "text", 0, none⟩]⟩ 7 "" ⟨.id, false⟩
  have hcontains : guestsLeft [contains] = .ok [anna] := by cbv
  have hends : guestsLeft [ends] = .ok [anna] := by cbv
  have hboth : guestsLeft [contains, ends] = .ok [anna] := by cbv
  refine ⟨?_, ?_, ?_, ?_⟩
  · obtain ⟨both, h, _, hmem⟩ := together [contains] [ends] [anna] [anna] hcontains hends
    exact ⟨both, h, fun row => (hmem row).trans and_self_iff⟩
  · exact same [contains, ends] [ends, contains, ends] [anna] (by simp [or_comm]) hboth
  · exact part [ends] [contains, ends] [anna] (by simp) hboth
  · exact (inert [contains] above [ends] [anna] (unfit above (by cbv; simp))).mpr hboth

end Store

end GridQuery
