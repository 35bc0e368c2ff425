import GridQuery.Request.Basic
import Mathlib

/-!
# Requests made from texts

`Text.LeadsWith` says how a text starts with a whole number, without reading it.  The numbers that a
request takes from its parameters are put within their limits, so that texts of any kind make a request and
only the table id is judged; a number with more digits than can be read makes none.
-/

namespace GridQuery

namespace Text

inductive Sign : Bool → List Char → Prop
  | none : Sign false []
  | plus : Sign false ['+']
  | minus : Sign true ['-']

/-- A text starts with a whole number: behind blanks and a sign come digits of any script, up to a character
that is none. -/
inductive LeadsWith : List Char → Bool → List Char → Prop
  | intro {blanks sign digits rest : List Char} {negative : Bool}
      (hblanks : ∀ c ∈ blanks, isBlank c = true) (hsign : Sign negative sign) (hne : digits ≠ [])
      (hdigits : ∀ c ∈ digits, isDigit c = true) (hrest : ∀ c ∈ rest.head?, isDigit c = false) :
      LeadsWith (blanks ++ (sign ++ (digits ++ rest))) negative digits

def signedNumber (negative : Bool) (digits : List Char) : Int :=
  let size : Int := ofDigits (digits.filterMap digitValue?)
  if negative then -size else size

variable {text rest digits sign : List Char} {negative : Bool} {c : Char}

theorem isDigit_iff : isDigit c = true ↔ ∃ first ∈ zeros, first ≤ c.toNat ∧ c.toNat < first + 10 := by
  rw [isDigit, digitValue?, List.findSome?_isSome_iff]
  simp

theorem not_isBlank_of_isDigit (h : isDigit c = true) : isBlank c = false := by
  have hapart : ∀ first ∈ zeros, ∀ range ∈ blankRanges, range.2 < first ∨ first + 10 ≤ range.1 := by decide
  obtain ⟨first, hfirst, hlow, hhigh⟩ := isDigit_iff.mp h
  rw [isBlank, within, List.any_eq_false]
  intro range hrange hin
  have hrange := hapart first hfirst range hrange
  simp only [Bool.and_eq_true, decide_eq_true_eq] at hin
  omega

theorem splitSign_eq_iff (hne : rest ≠ []) (hdigit : ∀ c ∈ rest.head?, isDigit c = true) :
    Numeral.splitSign text = (negative, rest) ↔ ∃ sign, Sign negative sign ∧ text = sign ++ rest := by
  unfold Numeral.splitSign
  constructor
  · intro h
    split at h
    · obtain ⟨rfl, rfl⟩ := Prod.mk.inj h
      exact ⟨_, .minus, rfl⟩
    · obtain ⟨rfl, rfl⟩ := Prod.mk.inj h
      exact ⟨_, .plus, rfl⟩
    · obtain ⟨rfl, rfl⟩ := Prod.mk.inj h
      exact ⟨_, .none, rfl⟩
  · rintro ⟨sign, hsign, rfl⟩
    cases hsign with
    | minus => rfl
    | plus => rfl
    | none =>
      obtain ⟨c, rest, rfl⟩ := List.exists_cons_of_ne_nil hne
      have hfirst : isDigit c = true := hdigit c rfl
      rw [List.nil_append]
      split
      case h_1 heq =>
        obtain ⟨rfl, -⟩ := List.cons.inj heq
        cases hfirst
      case h_2 heq =>
        obtain ⟨rfl, -⟩ := List.cons.inj heq
        cases hfirst
      case h_3 => rfl

/-- Reading passes over the blanks and a sign, and takes the digits behind them. -/
theorem leadsWith_iff : LeadsWith text negative digits ↔
    digits ≠ [] ∧ ∃ rest, Numeral.splitSign (text.dropWhile isBlank) = (negative, rest) ∧
      rest.takeWhile isDigit = digits := by
  constructor
  · rintro @⟨blanks, sign, digits, rest, negative, hblanks, hsign, hne, hdigits, hrest⟩
    have hdigit : ∀ c ∈ (digits ++ rest).head?, isDigit c = true := by
      rw [List.head?_append_of_ne_nil _ hne]
      exact fun c hc => hdigits c (List.mem_of_head? hc)
    have hdrop : (blanks ++ (sign ++ (digits ++ rest))).dropWhile isBlank = sign ++ (digits ++ rest) := by
      rw [List.dropWhile_append_of_pos hblanks]
      obtain ⟨c, behind, hbehind⟩ := List.exists_cons_of_ne_nil (List.append_ne_nil_of_left_ne_nil hne rest)
      rw [hbehind] at hdigit ⊢
      cases hsign with
      | none => exact List.dropWhile_cons_of_neg (by simp [not_isBlank_of_isDigit (hdigit c rfl)])
      | plus => exact List.dropWhile_cons_of_neg (by decide)
      | minus => exact List.dropWhile_cons_of_neg (by decide)
    have htake : (digits ++ rest).takeWhile isDigit = digits := by
      rw [List.takeWhile_append_of_pos hdigits]
      cases rest with
      | nil => exact List.append_nil digits
      | cons c rest => rw [List.takeWhile_cons_of_neg (by simp [hrest c rfl]), List.append_nil]
    refine ⟨hne, digits ++ rest, ?_, htake⟩
    rw [hdrop, splitSign_eq_iff (List.append_ne_nil_of_left_ne_nil hne rest) hdigit]
    exact ⟨sign, hsign, rfl⟩
  · rintro ⟨hne, rest, hsplit, rfl⟩
    have hrest : rest ≠ [] := fun h => hne (by rw [h]; rfl)
    have hdigit : ∀ c ∈ rest.head?, isDigit c = true := by
      intro c hc
      obtain ⟨behind, rfl⟩ := List.head?_eq_some_iff.mp hc
      by_contra hother
      exact hne (List.takeWhile_cons_of_neg hother)
    obtain ⟨sign, hsign, hbehind⟩ := (splitSign_eq_iff hrest hdigit).mp hsplit
    have htext : text = text.takeWhile isBlank ++
        (sign ++ (rest.takeWhile isDigit ++ rest.dropWhile isDigit)) := by
      rw [List.takeWhile_append_dropWhile, ← hbehind, List.takeWhile_append_dropWhile]
    rw [htext]
    refine .intro (fun c => List.mem_takeWhile_imp) hsign hne (fun c => List.mem_takeWhile_imp) ?_
    intro c hc
    have h := List.head?_dropWhile_not isDigit rest
    rwa [Option.mem_def.mp hc] at h

theorem LeadsWith.unique {negative' : Bool} {digits' : List Char} (h : LeadsWith text negative digits)
    (h' : LeadsWith text negative' digits') : negative = negative' ∧ digits = digits' := by
  obtain ⟨-, rest, hsplit, rfl⟩ := leadsWith_iff.mp h
  obtain ⟨-, rest', hsplit', rfl⟩ := leadsWith_iff.mp h'
  obtain ⟨rfl, rfl⟩ := Prod.mk.inj (hsplit.symm.trans hsplit')
  exact ⟨rfl, rfl⟩

end Text

variable {text digits : List Char} {negative : Bool}

theorem leadingInt?_of_leadsWith (h : Text.LeadsWith text negative digits) :
    leadingInt? text =
      if maxDigits < digits.length then .error digits.length
      else .ok (some (Text.signedNumber negative digits)) := by
  obtain ⟨hne, rest, hsplit, rfl⟩ := Text.leadsWith_iff.mp h
  have hempty : (rest.takeWhile Text.isDigit).isEmpty = false := by simpa using hne
  rw [leadingInt?, hsplit]
  simp only [hempty, Bool.false_eq_true, if_false, Text.signedNumber]

theorem leadingInt?_of_not_leadsWith (h : ∀ negative digits, ¬ Text.LeadsWith text negative digits) :
    leadingInt? text = .ok none := by
  cases hsplit : Numeral.splitSign (text.dropWhile Text.isBlank) with | mk negative rest
  have hempty : (rest.takeWhile Text.isDigit).isEmpty = true := by
    rw [List.isEmpty_iff]
    by_contra hne
    exact h negative _ (Text.leadsWith_iff.mpr ⟨hne, rest, hsplit, rfl⟩)
  rw [leadingInt?, hsplit]
  simp only [hempty, if_true]

namespace Value
variable {value : Value} {count : Nat} {number : Option Int}

/-- The number that a parameter stands for: the one that its text starts with, if it is given and starts
with one. -/
inductive Leading : Value → Option Int → Prop
  | number {s : String} {negative : Bool} {digits : List Char}
      (h : Text.LeadsWith s.toList negative digits) :
      Leading (.text s) (some (Text.signedNumber negative digits))
  | other {s : String} (h : ∀ negative digits, ¬ Text.LeadsWith s.toList negative digits) :
      Leading (.text s) none
  | missing : Leading .null none

/-- The text of a parameter starts with a number of more digits than can be read. -/
inductive LeadingLong : Value → Nat → Prop
  | intro {s : String} {negative : Bool} {digits : List Char}
      (h : Text.LeadsWith s.toList negative digits) (hlong : maxDigits < digits.length) :
      LeadingLong (.text s) digits.length

theorem leadingInt?_of_leadingLong (h : value.LeadingLong count) : value.leadingInt? = .error count := by
  obtain ⟨h, hlong⟩ := h
  exact (leadingInt?_of_leadsWith h).trans (if_pos hlong)

theorem leadingInt?_of_leading (h : value.Leading number) (hshort : ∀ count, ¬ value.LeadingLong count) :
    value.leadingInt? = .ok number := by
  cases h with
  | number h => exact (leadingInt?_of_leadsWith h).trans (if_neg fun hlong => hshort _ (.intro h hlong))
  | other h => exact leadingInt?_of_not_leadsWith h
  | missing => rfl

theorem exists_leading (h : value = .null ∨ ∃ s, value = .text s) : ∃ number, value.Leading number := by
  rcases h with rfl | ⟨s, rfl⟩
  · exact ⟨none, .missing⟩
  · by_cases h : ∃ negative digits, Text.LeadsWith s.toList negative digits
    · obtain ⟨negative, digits, h⟩ := h
      exact ⟨_, .number h⟩
    · exact ⟨none, .other fun negative digits hleads => h ⟨negative, digits, hleads⟩⟩

theorem Leading.unique {number' : Option Int} (h : value.Leading number) (h' : value.Leading number') :
    number = number' := by
  cases h with
  | number h =>
    cases h' with
    | number h' =>
      obtain ⟨rfl, rfl⟩ := h.unique h'
      rfl
    | other h' => exact absurd h (h' _ _)
  | other h =>
    cases h' with
    | number h' => exact absurd h' (h _ _)
    | other => rfl
  | missing =>
    cases h'
    rfl

end Value

namespace RowRequest
variable {parameters : List (String × Value)} {limits : PageLimits} {tableId : Value}

/-- Parameters as a client sends them, without filters. -/
structure Plain (parameters : List (String × Value)) : Prop where
  texts : ∀ entry ∈ parameters, ∃ s, entry.2 = .text s
  unfiltered : ∀ entry ∈ parameters, entry.1 ≠ "filters"

theorem Plain.parameter_cases (h : Plain parameters) (name : String) :
    parameter parameters name = .null ∨ ∃ s, parameter parameters name = .text s := by
  rw [parameter, Value.field?]
  cases hfind : parameters.find? (·.1 == name) with
  | none => exact .inl rfl
  | some entry => exact .inr (h.texts entry (List.mem_of_find?_eq_some hfind))

theorem Plain.parameter_filters (h : Plain parameters) : parameter parameters "filters" = .null := by
  have hnone : parameters.find? (·.1 == "filters") = none := by
    simpa using h.unfiltered
  rw [parameter, Value.field?, hnone]
  rfl

theorem numberOf_of_leading {value : Value} {number : Option Int} (h : value.Leading number)
    (hshort : ∀ count, ¬ value.LeadingLong count) : numberOf value = .ok (number.filter (· ≠ 0)) := by
  rw [numberOf, Value.leadingInt?_of_leading h hshort]

theorem numberOf_of_leadingLong {value : Value} {count : Nat} (h : value.LeadingLong count) :
    numberOf value = .error (.longNumber count) := by
  rw [numberOf, Value.leadingInt?_of_leadingLong h]

theorem Plain.searchOf (h : Plain parameters) (name : String) :
    ∃ search, searchOf (parameter parameters name) = .ok search := by
  rcases h.parameter_cases name with hvalue | ⟨s, hvalue⟩
  · exact ⟨"", by rw [hvalue]; rfl⟩
  · exact ⟨trimmed s, by rw [hvalue]; rfl⟩

theorem Plain.sortFieldOf (h : Plain parameters) (name : String) :
    ∃ sortBy, sortFieldOf (parameter parameters name) = .ok sortBy := by
  rcases h.parameter_cases name with hvalue | ⟨s, hvalue⟩
  · exact ⟨"id", by rw [hvalue]; rfl⟩
  · exact ⟨if s.isEmpty then "id" else s, by rw [hvalue]; rfl⟩

theorem field_of_toTableId {e : FieldError} (h : tableId.toTableId = .error e) : e.field = "table_id" := by
  unfold Value.toTableId at h
  split at h
  · split at h
    · cases h
    · cases h
      rfl
  · cases h
    rfl

theorem offset_nonneg (request : RowRequest) : 0 ≤ request.offset :=
  Int.mul_nonneg (Int.sub_nonneg.mpr request.page_pos) (Int.le_trans Int.one_nonneg request.pageSize_pos)

theorem sortOrder_cases (request : RowRequest) : request.sortOrder = "asc" ∨ request.sortOrder = "desc" := by
  unfold sortOrder
  split
  · exact .inr rfl
  · exact .inl rfl

theorem max_one_filter (number : Option Int) :
    max 1 ((number.filter (· ≠ 0)).getD 1) = if 1 ≤ number.getD 0 then number.getD 0 else 1 := by
  cases number with
  | none => rfl
  | some n =>
    by_cases h : n = 0
    · rw [h]
      rfl
    · simp only [Option.filter_some, h, ne_eq, not_false_eq_true, decide_true, if_true, Option.getD_some]
      split <;> omega

theorem pageSizeOf_filter (limits : PageLimits) (amount : Option Int) :
    pageSizeOf limits (amount.filter (· ≠ 0)) =
      if amount.getD 0 = 0 then limits.usual else max 1 (min (amount.getD 0) limits.most) := by
  have hpos := limits.usual_pos
  have hle := limits.usual_le_most
  have husual : min (max 1 limits.usual) limits.most = limits.usual := by omega
  cases amount with
  | none => exact husual
  | some n =>
    by_cases h : n = 0
    · rw [h]
      exact husual
    · simp only [pageSizeOf, Option.filter_some, h, ne_eq, not_false_eq_true, decide_true, if_true, if_false,
        Option.getD_some]
      omega

section Steps
variable {fault : RequestFault} {page size : Option Int}

theorem ofParameters_of_page_error (h : numberOf (parameter parameters "page") = .error fault) :
    ofParameters limits tableId parameters = .error fault := by
  rw [ofParameters, h]
  rfl

theorem ofParameters_of_size_error (hpage : numberOf (parameter parameters "page") = .ok page)
    (h : numberOf (parameter parameters "pageSize") = .error fault) :
    ofParameters limits tableId parameters = .error fault := by
  rw [ofParameters, hpage, h]
  rfl

variable (plain : Plain parameters) (hpage : numberOf (parameter parameters "page") = .ok page)
  (hsize : numberOf (parameter parameters "pageSize") = .ok size)
include plain hpage hsize

theorem ofParameters_of_tableId_error {e : FieldError} (h : tableId.toTableId = .error e) :
    ofParameters limits tableId parameters = .error (.invalid [e]) := by
  obtain ⟨search, hsearch⟩ := plain.searchOf "globalSearch"
  obtain ⟨sortBy, hsortBy⟩ := plain.sortFieldOf "sortBy"
  rw [ofParameters, hpage, hsize, hsearch, plain.parameter_filters, h, hsortBy]
  rfl

theorem ofParameters_of_tableId (limits : PageLimits) {id : { id : Int // 0 < id }}
    (h : tableId.toTableId = .ok id) :
    ∃ request, ofParameters limits tableId parameters = .ok request ∧ request.tableId = id.1 ∧
      request.page = max 1 (page.getD 1) ∧ request.pageSize = pageSizeOf limits size := by
  obtain ⟨search, hsearch⟩ := plain.searchOf "globalSearch"
  obtain ⟨sortBy, hsortBy⟩ := plain.sortFieldOf "sortBy"
  rw [ofParameters, hpage, hsize, hsearch, plain.parameter_filters, h, hsortBy]
  exact ⟨_, rfl, rfl, rfl, rfl⟩

end Steps

/-- Texts of any kind make a request if the table id is one, and the numbers among them are put within the
limits; only a number with more digits than can be read stops them. -/
theorem ofParameters_plain (limits : PageLimits) (tableId : Value) (plain : Plain parameters) :
    let page := parameter parameters "page"
    let size := parameter parameters "pageSize"
    let answer := ofParameters limits tableId parameters
    (∀ count, page.LeadingLong count → answer = .error (.longNumber count)) ∧
    ((∀ count, ¬ page.LeadingLong count) →
      (∀ count, size.LeadingLong count → answer = .error (.longNumber count)) ∧
      ((∀ count, ¬ size.LeadingLong count) →
        (∀ e, tableId.toTableId = .error e → e.field = "table_id" ∧ answer = .error (.invalid [e])) ∧
        ∀ id, tableId.toTableId = .ok id → ∃ request number amount, answer = .ok request ∧
          page.Leading number ∧ size.Leading amount ∧ request.tableId = id.1 ∧
          request.page = (if 1 ≤ number.getD 0 then number.getD 0 else 1) ∧
          request.pageSize =
            (if amount.getD 0 = 0 then limits.usual else max 1 (min (amount.getD 0) limits.most)) ∧
          request.offset = (request.page - 1) * request.pageSize ∧ 0 ≤ request.offset ∧
          (request.sortOrder = "asc" ∨ request.sortOrder = "desc"))) := by
  intro page size answer
  obtain ⟨number, hnumber⟩ := Value.exists_leading (plain.parameter_cases "page")
  obtain ⟨amount, hamount⟩ := Value.exists_leading (plain.parameter_cases "pageSize")
  refine ⟨fun count hlong => ofParameters_of_page_error (numberOf_of_leadingLong hlong), fun hshort => ?_⟩
  have hpage := numberOf_of_leading hnumber hshort
  refine ⟨fun count hlong => ofParameters_of_size_error hpage (numberOf_of_leadingLong hlong),
    fun hshort => ?_⟩
  have hsize := numberOf_of_leading hamount hshort
  refine ⟨fun e he => ⟨field_of_toTableId he, ofParameters_of_tableId_error plain hpage hsize he⟩, ?_⟩
  intro id hid
  obtain ⟨request, hrequest, htableId, hrequestPage, hrequestSize⟩ :=
    ofParameters_of_tableId plain hpage hsize limits hid
  rw [max_one_filter] at hrequestPage
  rw [pageSizeOf_filter] at hrequestSize
  exact ⟨request, number, amount, hrequest, hnumber, hamount, htableId, hrequestPage, hrequestSize, rfl,
    request.offset_nonneg, request.sortOrder_cases⟩

/-- A sign, a digit of another script and letters behind it make a page number; a size above the limit is
the greatest one. -/
theorem ofParameters_plain_arabic :
    let parameters := [("page", Value.text " +\u0663xyz"), ("pageSize", .text "500"), ("sortBy", .text "")]
    ∃ request, ofParameters .standard (.text "5") parameters = .ok request ∧ request.tableId = 5 ∧
      request.page = 3 ∧ request.pageSize = 100 ∧ request.offset = 200 := by
  intro parameters
  have plain : Plain parameters := by
    constructor
    · simp [parameters]
    · simp [parameters]
  have hpage : (parameter parameters "page").leadingInt? = .ok (some 3) := by cbv
  have hsize : (parameter parameters "pageSize").leadingInt? = .ok (some 500) := by cbv
  have hshort {value : Value} {n : Option Int} (h : value.leadingInt? = .ok n) :
      ∀ count, ¬ value.LeadingLong count := by
    intro count hlong
    rw [Value.leadingInt?_of_leadingLong hlong] at h
    cases h
  obtain ⟨-, hanswer⟩ := ofParameters_plain .standard (.text "5") plain
  obtain ⟨-, hanswer⟩ := hanswer (hshort hpage)
  obtain ⟨-, hanswer⟩ := hanswer (hshort hsize)
  have hid : (Value.text "5").toTableId = .ok ⟨5, by decide⟩ := by cbv
  obtain ⟨request, number, amount, hrequest, hnumber, hamount, htableId, hpageIs, hsizeIs, hoffset, -⟩ :=
    hanswer _ hid
  rw [Value.leadingInt?_of_leading hnumber (hshort hpage), Except.ok.injEq] at hpage
  rw [Value.leadingInt?_of_leading hamount (hshort hsize), Except.ok.injEq] at hsize
  have hthree : request.page = 3 := by
    rw [hpageIs, hpage]
    rfl
  have hhundred : request.pageSize = 100 := by
    rw [hsizeIs, hsize]
    rfl
  refine ⟨request, hrequest, htableId, hthree, hhundred, ?_⟩
  rw [hoffset, hthree, hhundred]
  rfl

theorem plain_page (s : String) : Plain [("page", .text s)] := ⟨by simp, by simp⟩

theorem leadingLong_replicate {count : Nat} (h : maxDigits < count) :
    (Value.text (String.ofList (List.replicate count '1'))).LeadingLong count := by
  have hne : List.replicate count '1' ≠ [] := by
    rw [Ne, List.replicate_eq_nil_iff]
    omega
  have hleads : Text.LeadsWith ([] ++ ([] ++ (List.replicate count '1' ++ []))) false
      (List.replicate count '1') := by
    refine .intro nofun .none hne (fun c hc => ?_) nofun
    rw [List.eq_of_mem_replicate hc]
    decide
  rw [List.append_nil, List.nil_append, List.nil_append] at hleads
  have htext := Value.LeadingLong.intro (s := String.ofList (List.replicate count '1'))
    (by rwa [String.toList_ofList]) (by rwa [List.length_replicate])
  rwa [List.length_replicate] at htext

/-- No request is made of a page number with too many digits, though the table id is one. -/
theorem ofParameters_fails_long :
    let parameters := [("page", Value.text (String.ofList (List.replicate 4301 '1')))]
    Plain parameters ∧ (Value.int 1).toTableId = .ok ⟨1, by decide⟩ ∧
      ofParameters .standard (.int 1) parameters = .error (.longNumber 4301) := by
  have hpage (s : String) : parameter [("page", .text s)] "page" = .text s := rfl
  have hlong := @leadingLong_replicate 4301 (by decide)
  rw [← hpage] at hlong
  exact ⟨plain_page _, rfl, ofParameters_of_page_error (numberOf_of_leadingLong hlong)⟩

end RowRequest

end GridQuery
