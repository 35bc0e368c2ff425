import GridQuery.Proofs.Number.Quotient
import GridQuery.Proofs.Store.Presentation

/-!
# Pages behind the last one

A page that begins behind all rows is empty, and tells as many rows as any other page of the same request.
A store can be asked for it as long as its place and its size have at most 64 bits; a page beyond that makes
the store fail instead.
-/

namespace GridQuery

namespace RowRequest

/-- Two requests ask for the same rows, on any two pages, in any order and with or without cells. -/
structure SelectsAs (request other : RowRequest) : Prop where
  tableId : request.tableId = other.tableId
  filters : request.filters = other.filters
  search : request.search = other.search

end RowRequest

namespace Store
variable {store : Store} {setting : Setting} {request other : RowRequest} {schema : Schema}
  {resolved : List Resolved} {predicate : Predicate} {tableSize total : Nat}

/-- What a request is served from, whichever page it asks for. -/
structure Serves (store : Store) (setting : Setting) (request : RowRequest) (schema : Schema)
    (resolved : List Resolved) (predicate : Predicate) (tableSize : Nat) : Prop where
  table : store.schema request.tableId = .ok schema
  filters : ∃ dropped, resolveAll setting.zone schema request.filters = .ok (resolved, dropped)
  rows : Predicate.ofResolved .standard setting request.tableId resolved request.search = .ok predicate
  size : store.countTable request.tableId = .ok tableSize

theorem Serves.of_selectsAs (serves : store.Serves setting other schema resolved predicate tableSize)
    (alike : request.SelectsAs other) : store.Serves setting request schema resolved predicate tableSize := by
  obtain ⟨hschema, hresolved, hpredicate, hsize⟩ := serves
  obtain ⟨htable, hfilters, hsearch⟩ := alike
  constructor
  · rwa [htable]
  · rwa [hfilters]
  · rwa [htable, hsearch]
  · rwa [htable]

theorem Serves.serve_eq (serves : store.Serves setting request schema resolved predicate tableSize) :
    store.serve setting request =
      match store.assemble setting.capabilities.engine setting.zone predicate request.filters schema
        request.choice with
      | .error fault => .error (.assembly fault)
      | .ok page => .ok ⟨request, page, resolved.length, tableSize, none⟩ := by
  obtain ⟨hschema, ⟨dropped, hresolved⟩, hpredicate, hsize⟩ := serves
  simp only [serve, hschema, hresolved, hpredicate, hsize, Except.mapError, bind, Except.bind]
  cases store.assemble setting.capabilities.engine setting.zone predicate request.filters schema
    request.choice with
  | error fault => rfl
  | ok page => rfl

theorem exists_serves {response : Response} (h : store.serve setting request = .ok response) :
    ∃ schema resolved predicate tableSize,
      store.Serves setting request schema resolved predicate tableSize ∧
        store.assemble setting.capabilities.engine setting.zone predicate request.filters schema
          request.choice = .ok response.page := by
  rw [serve] at h
  obtain ⟨schema, hschema, h⟩ := Steps.bind_eq_ok_iff.mp h
  obtain ⟨⟨resolved, dropped⟩, hresolved, h⟩ := Steps.bind_eq_ok_iff.mp h
  obtain ⟨predicate, hpredicate, h⟩ := Steps.bind_eq_ok_iff.mp h
  obtain ⟨page, hpage, h⟩ := Steps.bind_eq_ok_iff.mp h
  obtain ⟨tableSize, hsize, h⟩ := Steps.bind_eq_ok_iff.mp h
  rw [Steps.mapError_eq_ok_iff] at hschema hresolved hpredicate hpage hsize
  rw [Steps.pure_eq_ok_iff] at h
  rw [h]
  exact ⟨schema, resolved, predicate, tableSize, ⟨hschema, ⟨dropped, hresolved⟩, hpredicate, hsize⟩, hpage⟩

theorem Serves.allResolve (serves : store.Serves setting request schema resolved predicate tableSize) :
    AllResolve setting.zone schema request.filters := by
  obtain ⟨dropped, hresolved⟩ := serves.filters
  exact allResolve_of_resolveAll hresolved

/-- The rows of a page come with the number of all rows that the predicate asks for. -/
theorem count_of_assemble {engine : ResidualEngine} {zone : Zone} {criteria : List Criterion}
    {choice : PageChoice} {page : Page}
    (h : store.assemble engine zone predicate criteria schema choice = .ok page) :
    ∃ total : Nat, store.count predicate = .ok total ∧ page.total = total := by
  unfold assemble at h
  split at h
  · cases h
  · obtain ⟨total, hcount, h⟩ := Steps.bind_eq_ok_iff.mp h
    obtain ⟨selected, -, h⟩ := Steps.bind_eq_ok_iff.mp h
    obtain ⟨rows, -, h⟩ := Steps.bind_eq_ok_iff.mp h
    obtain ⟨kept, -, h⟩ := Steps.bind_eq_ok_iff.mp h
    rw [Steps.mapError_eq_ok_iff] at hcount
    rw [Steps.pure_eq_ok_iff] at h
    exact ⟨total, hcount, by rw [h]⟩

theorem Accepts.with_numbers (accepts : store.Accepts predicate []) {numbers : List Int}
    (h : ∀ n ∈ numbers, fitsStore n) : store.Accepts predicate numbers := by
  obtain ⟨hinstants, hrows, hcells, hintegers⟩ := accepts
  refine ⟨hinstants, hrows, hcells, fun n hn => ?_⟩
  rcases List.mem_cons.mp hn with rfl | hn
  · exact hintegers _ List.mem_cons_self
  · exact h n hn

theorem select_eq_integerTooLarge (accepts : store.Accepts predicate []) {numbers : List Int}
    (h : ¬ ∀ n ∈ numbers, fitsStore n) : store.select predicate numbers = .error .integerTooLarge := by
  obtain ⟨hinstants, hrows, hcells, -⟩ := accepts
  obtain ⟨rows, hrows⟩ := Option.isSome_iff_exists.mp hrows
  have hall : predicate.instants.all (·.toUtc?.isSome) = true := List.all_eq_true.mpr hinstants
  have hlarge : checkIntegers (predicate.tableId :: numbers) = .error .integerTooLarge := by
    have hnot : ¬ (predicate.tableId :: numbers).all fitsStore = true := by
      rw [List.all_eq_true]
      exact fun hfit => h fun n hn => hfit n (List.mem_cons_of_mem _ hn)
    rw [checkIntegers, if_neg hnot]
  simp only [select, hall, hrows, part, hlarge, Bool.not_true, Bool.false_eq_true, if_false, bind, Except.bind]
  by_cases hnone : predicate.conditions = []
  · rw [hnone]
    rfl
  · obtain ⟨cells, hcells⟩ := Option.isSome_iff_exists.mp (hcells hnone)
    rw [hcells, if_neg (by simpa using hnone)]

theorem window_eq_nil {α : Type} {offset : Int} {limit : Option Int} {items : List α}
    (h : (items.length : Int) ≤ offset) : window offset limit items = [] := by
  have hdrop : items.drop offset.toNat = [] := List.drop_eq_nil_of_le (by omega)
  unfold window
  rw [hdrop]
  cases limit with
  | none => rfl
  | some n => simp

section Assembly
variable {engine : ResidualEngine} {zone : Zone} {criteria : List Criterion} {choice : PageChoice}
  (hpage : 1 ≤ choice.page) (hsize : 1 ≤ choice.pageSize) (all : AllResolve zone schema criteria)
  (hcount : store.count predicate = .ok total)
include hpage hsize all hcount

theorem assemble_eq_integerTooLarge (h : ¬ (fitsStore choice.offset ∧ fitsStore choice.pageSize)) :
    store.assemble engine zone predicate criteria schema choice = .error (.store .integerTooLarge) := by
  have hlarge : ¬ ∀ n ∈ choice.offset :: (some choice.pageSize).toList, fitsStore n := by simpa using h
  have hselect := select_eq_integerTooLarge (count_eq_ok_iff.mp hcount).1 hlarge
  rw [assemble_eq hpage hsize all, hcount]
  simp only [fetch, hselect, bind, Except.bind]
  rfl

theorem assemble_eq_nil (hoffset : fitsStore choice.offset) (hfits : fitsStore choice.pageSize)
    (hpast : (total : Int) ≤ choice.offset) :
    store.assemble engine zone predicate criteria schema choice =
      .ok ⟨[], total, choice.page, choice.pageSize⟩ := by
  obtain ⟨accepts, htotal⟩ := count_eq_ok_iff.mp hcount
  have hwindow : window choice.offset (some choice.pageSize) (store.listing predicate choice.order) = [] := by
    apply window_eq_nil
    rwa [listing, List.length_mergeSort, ← htotal]
  have hfit : ∀ n ∈ choice.offset :: (some choice.pageSize).toList, fitsStore n := by
    simpa using ⟨hoffset, hfits⟩
  have hfetch := fetch_eq_ok_iff.mpr ⟨accepts.with_numbers hfit, fun _ hne => absurd hwindow hne,
    Eq.refl ((window choice.offset (some choice.pageSize) (store.listing predicate choice.order)).map
      (store.rowView (store.loaded (needsCells engine zone schema criteria choice.includeCells))))⟩
  rw [hwindow] at hfetch
  rw [assemble_of_fetch hpage hsize all hcount hfetch]
  rfl

end Assembly

theorem ceil_lt_iff {total size page : Int} (hsize : 1 ≤ size) :
    ⌈(total : ℚ) / size⌉ < page ↔ total ≤ (page - 1) * size := by
  have hpos : (0 : ℚ) < size := by exact_mod_cast hsize
  rw [← Int.le_sub_one_iff, Int.ceil_le, div_le_iff₀ hpos]
  exact_mod_cast Iff.rfl

theorem ceilQuotient_lt {page size : Int} (hsize : 1 ≤ size) (hpage : 1 ≤ page) (htotal : total < 2 ^ 53)
    (hpast : (total : Int) ≤ (page - 1) * size) :
    ∃ pages, ceilQuotient total size = .ok pages ∧ pages < page := by
  obtain ⟨count, rfl⟩ := Int.eq_ofNat_of_zero_le (Int.le_trans Int.one_nonneg hsize)
  obtain ⟨before, hbefore⟩ := Int.eq_ofNat_of_zero_le (Int.sub_nonneg.mpr hpage)
  have hcount : 0 < count := by omega
  have hbehind : total ≤ before * count := by
    rw [hbefore] at hpast
    exact_mod_cast hpast
  have henough : total ≤ min before total * count := by
    rcases Nat.le_total before total with hle | hle
    · rwa [Nat.min_eq_left hle]
    · rw [Nat.min_eq_right hle]
      exact Nat.le_mul_of_pos_right total hcount
  obtain ⟨pages, hpages, hle⟩ := ceilQuotient_le hcount (Nat.lt_of_le_of_lt (Nat.min_le_right _ _) htotal) henough
  have hleft := Nat.min_le_left before total
  exact ⟨pages, hpages, by omega⟩

theorem total_of_envelope {answer pagination : Value} {n : Int}
    (hanswer : store.envelope setting request = .ok answer)
    (hpagination : answer.field? "pagination" = some pagination)
    (htotal : pagination.field? "totalRows" = some (.int n)) :
    ∃ response, store.serve setting request = .ok response ∧ response.page.total = n := by
  obtain ⟨response, hserve, hvalue⟩ := Steps.bind_eq_ok_iff.mp hanswer
  rw [Steps.mapError_eq_ok_iff] at hvalue
  obtain ⟨described, hpage, hvalue⟩ := Steps.bind_eq_ok_iff.mp hvalue
  obtain ⟨pages, -, hpage⟩ := Steps.bind_eq_ok_iff.mp hpage
  rw [Steps.pure_eq_ok_iff] at hvalue hpage
  subst hvalue hpage
  cases hpagination
  cases htotal
  exact ⟨response, hserve, rfl⟩

theorem envelope_eq_integerTooLarge {response : Response} (alike : request.SelectsAs other)
    (hserve : store.serve setting other = .ok response)
    (hlarge : ¬ (fitsStore request.offset ∧ fitsStore request.pageSize)) :
    store.envelope setting request = .error (.ofStore .integerTooLarge) := by
  obtain ⟨schema, resolved, predicate, tableSize, serves, hassemble⟩ := exists_serves hserve
  obtain ⟨total, hcount, -⟩ := count_of_assemble hassemble
  have hfault : store.assemble setting.capabilities.engine setting.zone predicate request.filters schema
      request.choice = .error (.store .integerTooLarge) :=
    assemble_eq_integerTooLarge request.page_pos request.pageSize_pos
      (serves.of_selectsAs alike).allResolve hcount hlarge
  rw [envelope, (serves.of_selectsAs alike).serve_eq, hfault]
  rfl

/-- A page behind the last one is empty: it tells the number of rows that the other pages of the request
tell, that there are pages before it, and none after it while the number of rows is less than `2 ^ 53`.
That takes a page whose place and size have at most 64 bits; the store fails on any other one. -/
theorem envelope_past_end {answer pagination : Value} {total : Int} (alike : request.SelectsAs other)
    (hanswer : store.envelope setting other = .ok answer)
    (hpagination : answer.field? "pagination" = some pagination)
    (htotal : pagination.field? "totalRows" = some (.int total))
    (hpast : ⌈(total : ℚ) / request.pageSize⌉ < request.page) :
    (¬ (fitsStore request.offset ∧ fitsStore request.pageSize) →
      store.envelope setting request = .error (.ofStore .integerTooLarge)) ∧
    (fitsStore request.offset → fitsStore request.pageSize →
      ∀ pages, ceilQuotient total request.pageSize = .ok pages → ∃ empty described,
        store.envelope setting request = .ok empty ∧ empty.field? "data" = some (.list []) ∧
        empty.field? "pagination" = some described ∧
        described.field? "totalRows" = some (.int total) ∧
        described.field? "hasNext" = some (.bool (request.page < pages)) ∧
        described.field? "hasPrev" = some (.bool (1 < request.page))) ∧
    (total < 2 ^ 53 →
      ∃ pages, ceilQuotient total request.pageSize = .ok pages ∧ pages < request.page) := by
  obtain ⟨response, hserve, rfl⟩ := total_of_envelope hanswer hpagination htotal
  obtain ⟨schema, resolved, predicate, tableSize, serves, hassemble⟩ := exists_serves hserve
  obtain ⟨count, hcount, hpage⟩ := count_of_assemble hassemble
  rw [hpage] at hpast ⊢
  rw [ceil_lt_iff request.pageSize_pos] at hpast
  refine ⟨envelope_eq_integerTooLarge alike hserve, fun hoffset hfits pages hpages => ?_, fun htotal => ?_⟩
  · have hempty : store.assemble setting.capabilities.engine setting.zone predicate request.filters schema
        request.choice = .ok ⟨[], count, request.page, request.pageSize⟩ :=
      assemble_eq_nil request.page_pos request.pageSize_pos (serves.of_selectsAs alike).allResolve hcount
        hoffset hfits hpast
    rw [envelope, (serves.of_selectsAs alike).serve_eq, hempty]
    simp only [Response.toValue, Page.toValue, Page.totalPages, hpages, bind, Except.bind, pure,
      Except.pure, Except.mapError]
    exact ⟨_, _, rfl, rfl, rfl, rfl, rfl, rfl⟩
  · exact ceilQuotient_lt request.pageSize_pos request.page_pos (by exact_mod_cast htotal) hpast

def arrivalsAsked (tableId page pageSize : Int) (htable : 0 < tableId) (hpage : 1 ≤ page)
    (hsize : 1 ≤ pageSize) : RowRequest where
  tableId
  page
  pageSize
  includeCells := true
  search := ""
  filters := arrivalsNamed.criteria.map (·.criterion)
  sortBy := "createdAt"
  descending := true
  tableId_pos := htable
  page_pos := hpage
  pageSize_pos := hsize

theorem answer_arrivalsAsked :
    let setting : Setting := ⟨.utc, ⟨⟨0, by decide⟩, none⟩, ⟨true⟩⟩
    let request : RowRequest := arrivalsAsked 7 1 2 (by decide) (by decide) (by decide)
    ∃ response answer pagination, arrivals.serve setting request = .ok response ∧
      arrivals.envelope setting request = .ok answer ∧
      answer.field? "pagination" = some pagination ∧ pagination.field? "totalRows" = some (.int 3) := by
  intro setting request
  have hcounts : (arrivals.serve setting request).map
      (fun response => (response.page.total, response.page.pageSize)) = .ok (3, 2) := by cbv
  obtain ⟨response, hserve, heq⟩ := Steps.map_eq_ok_iff.mp hcounts
  obtain ⟨htotal, hsize⟩ := Prod.mk.inj heq
  have hquotient : ceilQuotient 3 2 = .ok 2 := by decide +kernel
  simp only [envelope, hserve, Response.toValue, Page.toValue, Page.totalPages, ← htotal, ← hsize,
    hquotient, bind, Except.bind, pure, Except.pure, Except.mapError]
  exact ⟨response, _, _, rfl, rfl, rfl, rfl⟩

theorem envelope_past_end_arrivals :
    let setting : Setting := ⟨.utc, ⟨⟨0, by decide⟩, none⟩, ⟨true⟩⟩
    let request : RowRequest := arrivalsAsked 7 3 2 (by decide) (by decide) (by decide)
    ∃ empty described, arrivals.envelope setting request = .ok empty ∧
      empty.field? "data" = some (.list []) ∧ empty.field? "pagination" = some described ∧
      described.field? "totalRows" = some (.int 3) ∧ described.field? "hasNext" = some (.bool false) := by
  intro setting request
  obtain ⟨response, answer, pagination, -, hanswer, hpagination, hrows⟩ := answer_arrivalsAsked
  have alike : request.SelectsAs (arrivalsAsked 7 1 2 (by decide) (by decide) (by decide)) := ⟨rfl, rfl, rfl⟩
  have hpast : ⌈((3 : Int) : ℚ) / request.pageSize⌉ < request.page :=
    (ceil_lt_iff (by decide)).mpr (by decide)
  obtain ⟨-, hempty, -⟩ := envelope_past_end alike hanswer hpagination hrows hpast
  have hquotient : ceilQuotient 3 2 = .ok 2 := by decide +kernel
  obtain ⟨empty, described, hanswer, hdata, hdescribed, hrows, hnext, -⟩ :=
    hempty (by decide) (by decide) 2 hquotient
  exact ⟨empty, described, hanswer, hdata, hdescribed, hrows, hnext⟩

/-- The store fails on a page that begins beyond 64 bits. -/
theorem envelope_past_end_fails_arrivals :
    let setting : Setting := ⟨.utc, ⟨⟨0, by decide⟩, none⟩, ⟨true⟩⟩
    let first : RowRequest := arrivalsAsked 7 1 2 (by decide) (by decide) (by decide)
    let request : RowRequest := arrivalsAsked 7 (10 ^ 20) 2 (by decide) (by decide) (by decide)
    (∃ answer pagination, arrivals.envelope setting first = .ok answer ∧
      answer.field? "pagination" = some pagination ∧ pagination.field? "totalRows" = some (.int 3)) ∧
    ⌈((3 : Int) : ℚ) / request.pageSize⌉ < request.page ∧
      arrivals.envelope setting request = .error (.ofStore .integerTooLarge) := by
  intro setting first request
  obtain ⟨response, answer, pagination, hserve, hanswer, hpagination, hrows⟩ := answer_arrivalsAsked
  have alike : request.SelectsAs first := ⟨rfl, rfl, rfl⟩
  refine ⟨⟨answer, pagination, hanswer, hpagination, hrows⟩, (ceil_lt_iff (by decide)).mpr (by decide), ?_⟩
  exact envelope_eq_integerTooLarge alike hserve (by decide)

end Store

end GridQuery
