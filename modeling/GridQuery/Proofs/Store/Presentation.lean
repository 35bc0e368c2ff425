import GridQuery.Proofs.Paging
import GridQuery.Store.Serving

/-!
# Rows with and without their cells

Whether a request wants cells decides what its rows look like and nothing else: the residual pass has
the cells that it needs either way.  So the two envelopes have the same rows in the same order, and
all blocks beside them are equal.
-/

namespace GridQuery

namespace PageChoice

def showing (choice : PageChoice) (includeCells : Bool) : PageChoice :=
  { choice with includeCells }

end PageChoice

namespace RowRequest

def showing (request : RowRequest) (includeCells : Bool) : RowRequest :=
  { request with includeCells }

end RowRequest

namespace Store
variable {store : Store}

def cellsOfRow (store : Store) (rowId : Int) : List Cell :=
  ((store.cells.getD []).filter (·.rowId == rowId)).map store.cellView

def envelope (store : Store) (setting : Setting) (request : RowRequest) :
    Except ServingFault Value := do
  let response ← store.serve setting request
  response.toValue.mapError .quotient

theorem shown_true_cells {schema : Schema} {row : StoredRow} :
    (store.shown schema true row).cells.Perm (store.cellsOfRow row.id) := by
  apply List.mergeSort_perm

section Assembly
variable {engine : ResidualEngine} {predicate : Predicate} {schema : Schema} {choice : PageChoice}
  {zone : Zone} {criteria : List Criterion}

theorem assemble_of_fetch {total : Nat} {rows : List Row} (hpage : 1 ≤ choice.page)
    (hsize : 1 ≤ choice.pageSize) (all : AllResolve zone schema criteria)
    (hcount : store.count predicate = .ok total)
    (hfetch : store.fetch predicate choice.order choice.offset (some choice.pageSize)
      (needsCells engine zone schema criteria choice.includeCells) = .ok rows) :
    store.assemble engine zone predicate criteria schema choice =
      .ok ⟨arranged schema choice.includeCells
        (rows.filter fun row => criteria.all (engine.keeps zone schema row)), total, choice.page,
        choice.pageSize⟩ := by
  rw [assemble_eq hpage hsize all, hcount]
  simp only [hfetch, bind, Except.bind]
  rfl

/-- A store that has a page with cells has it without cells, and both are pages of the same rows. -/
theorem assemble_showing (hpage : 1 ≤ choice.page) (hsize : 1 ≤ choice.pageSize)
    (all : AllResolve zone schema criteria)
    (nofault : ∀ fault, store.assemble engine zone predicate criteria schema (choice.showing true) ≠
      .error (.store fault)) :
    ∃ total : Nat, ∃ listed : List StoredRow, ∀ includeCells,
      store.assemble engine zone predicate criteria schema (choice.showing includeCells) =
        .ok ⟨listed.map (store.shown schema includeCells), total, choice.page, choice.pageSize⟩ := by
  have hpage' (includeCells : Bool) : 1 ≤ (choice.showing includeCells).page := hpage
  have hsize' (includeCells : Bool) : 1 ≤ (choice.showing includeCells).pageSize := hsize
  obtain ⟨total, _, hcount, hfetch, _⟩ := assemble_eq_ok (hpage' true) (hsize' true) all nofault
  obtain ⟨accepts, hcells, _⟩ := fetch_eq_ok_iff.mp hfetch
  refine ⟨total, (window choice.offset (some choice.pageSize)
    (store.listing predicate choice.order)).filter (store.survives engine zone schema criteria), ?_⟩
  intro includeCells
  have hfetch := fetch_eq_ok_iff.mpr
    ⟨accepts, fun _ => hcells (Bool.true_or _), Eq.refl ((window choice.offset
      (some choice.pageSize) (store.listing predicate choice.order)).map (store.rowView
        (store.loaded (needsCells engine zone schema criteria includeCells))))⟩
  rw [assemble_of_fetch (hpage' includeCells) (hsize' includeCells) all hcount hfetch,
    ← arranged_filter_keeps]
  rfl

end Assembly

variable {setting : Setting} {request : RowRequest}

/-- With and without cells, a request that the store does not fail on is refused for the same reason
or answered by the same rows. -/
theorem serve_showing
    (nofault : ∀ fault, store.serve setting (request.showing true) ≠ .error (.ofStore fault)) :
    (∃ fault, ∀ includeCells,
      store.serve setting (request.showing includeCells) = .error fault) ∨
    ∃ schema, ∃ listed : List StoredRow, ∃ total validFilters tableSize : Nat, ∀ includeCells,
      store.serve setting (request.showing includeCells) =
        .ok ⟨request.showing includeCells, ⟨listed.map (store.shown schema includeCells), total,
          request.page, request.pageSize⟩, validFilters, tableSize, none⟩ := by
  simp only [serve, RowRequest.showing] at nofault ⊢
  cases hschema : store.schema request.tableId with
  | error fault =>
    rw [hschema] at nofault
    exact absurd rfl (nofault fault)
  | ok schema =>
    simp only [hschema, Except.mapError, bind, Except.bind] at nofault ⊢
    cases hresolve : resolveAll setting.zone schema request.filters with
    | error impasse => exact Or.inl ⟨.impasse impasse, fun _ => rfl⟩
    | ok outcome =>
      obtain ⟨resolved, dropped⟩ := outcome
      have all := allResolve_of_resolveAll hresolve
      simp only [hresolve] at nofault ⊢
      cases hpredicate : Predicate.ofResolved .standard setting request.tableId resolved
        request.search with
      | error fault => exact Or.inl ⟨.period fault, fun _ => rfl⟩
      | ok predicate =>
        simp only [hpredicate] at nofault ⊢
        have hchoice (includeCells : Bool) : (request.showing includeCells).choice =
          request.choice.showing includeCells := rfl
        have hpages : ∀ fault, store.assemble setting.capabilities.engine setting.zone predicate
            request.filters schema (request.choice.showing true) ≠ .error (.store fault) := by
          intro fault hfault
          rw [← hchoice, RowRequest.showing] at hfault
          rw [hfault] at nofault
          exact nofault fault rfl
        obtain ⟨total, listed, hassemble⟩ :=
          assemble_showing request.page_pos request.pageSize_pos all hpages
        simp only [← hchoice, RowRequest.showing] at hassemble
        simp only [hassemble] at nofault ⊢
        cases hsize : store.countTable request.tableId with
        | error fault =>
          rw [hsize] at nofault
          exact absurd rfl (nofault fault)
        | ok tableSize =>
          exact Or.inr ⟨schema, listed, total, resolved.length, tableSize, fun _ => rfl⟩

theorem field?_cons {name other : String} {value : Value} {fields : List (String × Value)}
    (hne : name ≠ other) :
    (Value.object ((other, value) :: fields)).field? name = (Value.object fields).field? name := by
  have hother : (other == name) = false := by simpa using hne.symm
  simp only [Value.field?, List.find?_cons, hother]

theorem field?_shown {schema : Schema} {row : StoredRow} {name : String} (hne : name ≠ "cells") :
    ((store.shown schema false row).toValue false).field? name =
      ((store.shown schema true row).toValue true).field? name := by
  have hcells : ("cells" == name) = false := by simpa using hne.symm
  simp only [Row.toValue, shown, Row.orderedBy, Row.withCells, rowView, Value.field?,
    List.find?_cons, List.cons_append, List.nil_append, List.find?_nil, hcells, if_true,
    Bool.false_eq_true, if_false]

/-- Whether cells are wanted affects the presentation only.  Where the store does not fail, both
requests are refused for the same reason, or they are answered by two envelopes whose rows differ in
nothing but their cells and whose other blocks are equal.  Without cells no row carries any, and with
cells each row carries all cells that the store has of it. -/
theorem envelope_showing (request : RowRequest)
    (nofault : ∀ fault, store.envelope setting (request.showing true) ≠ .error (.ofStore fault)) :
    (∃ fault, store.envelope setting (request.showing true) = .error fault ∧
      store.envelope setting (request.showing false) = .error fault) ∨
    ∃ full bare fullRows bareRows,
      store.envelope setting (request.showing true) = .ok full ∧
      store.envelope setting (request.showing false) = .ok bare ∧
      (∀ name, name ≠ "data" → bare.field? name = full.field? name) ∧
      full.field? "data" = some (.list fullRows) ∧ bare.field? "data" = some (.list bareRows) ∧
      (∀ name, name ≠ "cells" → bareRows.map (·.field? name) = fullRows.map (·.field? name)) ∧
      (∀ row ∈ bareRows, row.field? "cells" = none) ∧
      (∀ row ∈ fullRows, ∃ id, ∃ cells : List Cell, row.field? "id" = some (.int id) ∧
        row.field? "cells" = some (.list (cells.map Cell.toValue)) ∧
        cells.Perm (store.cellsOfRow id)) := by
  have nofault : ∀ fault, store.serve setting (request.showing true) ≠ .error (.ofStore fault) := by
    intro fault hfault
    apply nofault fault
    rw [envelope, hfault]
    rfl
  rcases serve_showing nofault with ⟨fault, hserve⟩ |
    ⟨schema, listed, total, validFilters, tableSize, hserve⟩
  · refine Or.inl ⟨fault, ?_, ?_⟩
    · rw [envelope, hserve]
      rfl
    · rw [envelope, hserve]
      rfl
  · simp only [envelope, hserve, bind, Except.bind, Response.toValue, Page.toValue,
      Page.totalPages]
    cases hpages : ceilQuotient total request.pageSize with
    | error fault => exact Or.inl ⟨.quotient fault, rfl, rfl⟩
    | ok totalPages =>
      refine Or.inr ⟨_, _, _, _, rfl, rfl, ?_, rfl, rfl, ?_, ?_, ?_⟩
      · intro name hne
        rw [field?_cons hne, field?_cons hne]
        rfl
      · intro name hne
        simp only [List.map_map]
        apply List.map_congr_left
        intro row _
        exact field?_shown hne
      · intro row hmem
        simp only [List.map_map] at hmem
        obtain ⟨stored, _, rfl⟩ := List.mem_map.mp hmem
        rfl
      · intro row hmem
        simp only [List.map_map] at hmem
        obtain ⟨stored, _, rfl⟩ := List.mem_map.mp hmem
        exact ⟨stored.id, _, rfl, rfl, shown_true_cells⟩

/-- The guests whose names have an n, the last two of them. -/
theorem envelope_showing_arrivals :
    let setting : Setting := ⟨.utc, ⟨⟨0, by decide⟩, none⟩, ⟨true⟩⟩
    let request : RowRequest :=
      ⟨7, 1, 2, true, "", [⟨1, "contains", .text "n", .null, none, none, by decide, by decide⟩],
        "createdAt", true, by decide, by decide, by decide⟩
    ∃ full bare fullRows bareRows,
      arrivals.envelope setting (request.showing true) = .ok full ∧
      arrivals.envelope setting (request.showing false) = .ok bare ∧
      bare.field? "pagination" = full.field? "pagination" ∧
      full.field? "data" = some (.list fullRows) ∧ bare.field? "data" = some (.list bareRows) ∧
      bareRows.map (·.field? "id") = fullRows.map (·.field? "id") := by
  intro setting request
  have hcounts : (arrivals.serve setting (request.showing true)).map
      (fun response => (response.page.total, response.page.pageSize)) = .ok (3, 2) := by cbv
  have hpages : ceilQuotient 3 2 = .ok 2 := by decide +kernel
  have hanswers : (arrivals.envelope setting (request.showing true)).isOk := by
    obtain ⟨response, hserve, heq⟩ := Steps.map_eq_ok_iff.mp hcounts
    obtain ⟨htotal, hsize⟩ := Prod.mk.inj heq
    simp only [envelope, hserve, Response.toValue, Page.toValue, Page.totalPages, ← htotal, ← hsize,
      hpages, bind, Except.bind]
    rfl
  have nofault : ∀ fault, arrivals.envelope setting (request.showing true) ≠
      .error (.ofStore fault) := by
    intro fault hfault
    rw [hfault] at hanswers
    cases hanswers
  rcases @envelope_showing arrivals setting request nofault with
    ⟨fault, hfault, _⟩ | ⟨full, bare, fullRows, bareRows, hfull, hbare, hblocks, hfullRows,
      hbareRows, hfields, _⟩
  · rw [hfault] at hanswers
    cases hanswers
  · exact ⟨full, bare, fullRows, bareRows, hfull, hbare, hblocks _ (by decide), hfullRows, hbareRows,
      hfields _ (by decide)⟩

end Store

end GridQuery
