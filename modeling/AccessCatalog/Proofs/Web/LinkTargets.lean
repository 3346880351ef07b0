import AccessCatalog.Proofs.Web.Link

/-! Links to the next page among others. The entries may have any targets without angle brackets,
and stand in any number of headers: the cursor is that of the first link to the next page among
the entries that are read, and these are the ones whose target holds no comma and no semicolon. -/
namespace AccessCatalog.Web

/-- The link headers hold these entries in this order, with any blanks around them. -/
def Spread (headers : Headers) (entries : List LinkEntry) : Prop :=
  ∃ values : List (List PaddedLink), headers.values "link" = values.map linkValue ∧
    (∀ l ∈ values.flatten, l.Bracketed) ∧ values.flatten.map (·.entry) = entries

theorem spread_of_check {headers : Headers} (values : List (List PaddedLink))
    (written : headers.values "link" = values.map linkValue)
    (checked : values.flatten.all PaddedLink.isBracketed = true) :
    Spread headers (values.flatten.map (·.entry)) := by
  refine ⟨values, written, fun l member => ?_, rfl⟩
  exact PaddedLink.bracketed_of_check (List.all_eq_true.mp checked l member)

def firstNext? (entries : List LinkEntry) : Option LinkEntry := entries.find? LinkEntry.isNext

section Whole

variable {entries : List LinkEntry}

/-- Entries in front of the first link to the next page do not matter, read or not. -/
theorem firstNext?_filter {first : LinkEntry} (found : firstNext? entries = some first)
    (whole : first.isWhole = true) : firstNext? (entries.filter LinkEntry.isWhole) = some first := by
  obtain ⟨next, front, back, cut, others⟩ := List.find?_eq_some_iff_append.mp found
  have absent : (front.filter LinkEntry.isWhole).find? LinkEntry.isNext = none := by
    refine List.find?_eq_none.mpr fun e kept => ?_
    have other := others e (List.mem_filter.mp kept).1
    simpa using other
  rw [cut, firstNext?, List.filter_append, List.find?_append, absent, List.filter_cons_of_pos whole,
    List.find?_cons_of_pos next]
  rfl

theorem firstNext?_filter_none (broken : ∀ e ∈ entries, e.isNext = true → e.isWhole = false) :
    firstNext? (entries.filter LinkEntry.isWhole) = none := by
  refine List.find?_eq_none.mpr fun e kept next => ?_
  obtain ⟨member, whole⟩ := List.mem_filter.mp kept
  have cut := broken e member next
  rw [whole] at cut
  cases cut

end Whole

theorem nextCursor_of_spread {headers : Headers} {entries : List LinkEntry}
    (spread : Spread headers entries) :
    nextCursor headers = ((firstNext? (entries.filter LinkEntry.isWhole)).bind
      fun e => afterParam? e.target).getD "" := by
  obtain ⟨values, written, bracketed, rfl⟩ := spread
  exact nextCursor_of_values written bracketed

/-- The cursor is what the first link to the next page has under `after`, if that link has a whole
target; a link to the next page with a comma or a semicolon in its target is passed over. -/
theorem next_link_found {headers : Headers} {entries : List LinkEntry}
    (spread : Spread headers entries) :
    (∀ first, firstNext? entries = some first → first.isWhole = true →
      nextCursor headers = (afterParam? first.target).getD "" ∧
      ∀ cursor, CursorLink first.target cursor → cursor ≠ "" → nextCursor headers = cursor) ∧
    (firstNext? entries = none → nextCursor headers = "") ∧
    nextCursor headers = ((firstNext? (entries.filter LinkEntry.isWhole)).bind
      fun e => afterParam? e.target).getD "" ∧
    ((∀ e ∈ entries, e.isNext = true → e.isWhole = false) → nextCursor headers = "") := by
  have cursor_eq := nextCursor_of_spread spread
  have lost (broken : ∀ e ∈ entries, e.isNext = true → e.isWhole = false) :
      nextCursor headers = "" := by
    rw [cursor_eq, firstNext?_filter_none broken]
    rfl
  refine ⟨fun first found whole => ?_, fun absent => ?_, cursor_eq, lost⟩
  · have read : nextCursor headers = (afterParam? first.target).getD "" := by
      rw [cursor_eq, firstNext?_filter found whole]
      rfl
    refine ⟨read, fun cursor link filled => ?_⟩
    rw [read, afterParam?_of_link link filled]
    rfl
  · refine lost fun e member next => ?_
    exact absurd next (List.find?_eq_none.mp absent e member)

/-! Two headers with a link to the page itself, which has commas and a semicolon in its target,
and links to two next pages; and a header whose only link leads to a cursor with a comma. -/

def PaddedLink.ofTexts (target relation : String) (before : List Char := []) : PaddedLink :=
  ⟨before, ⟨target.toList, relation.toList⟩, []⟩

def pageLinks : List (List PaddedLink) :=
  [[.ofTexts "/api/v1/users?filter=a,b;c" "self",
      .ofTexts "https://acme.okta.com/?after=c+1" "next" [' ']],
    [.ofTexts "https://acme.okta.com/?after=c+2" "next"]]

def pageHeaders : Headers :=
  [("link", "</api/v1/users?filter=a,b;c>; rel=\"self\", " ++
      "<https://acme.okta.com/?after=c+1>; rel=\"next\""),
    ("date", "Thu, 01 Jan 1970 00:00:00 GMT"),
    ("Link", "<https://acme.okta.com/?after=c+2>; rel=\"next\"")]

theorem next_link_found_of_page :
    Spread pageHeaders (pageLinks.flatten.map (·.entry)) ∧ nextCursor pageHeaders = "c 1" := by
  have spread : Spread pageHeaders (pageLinks.flatten.map (·.entry)) :=
    spread_of_check pageLinks (by decide +kernel) (by decide +kernel)
  obtain ⟨first, _⟩ := next_link_found spread
  obtain ⟨cursor, _⟩ :=
    first ⟨"https://acme.okta.com/?after=c+1".toList, "next".toList⟩ (by decide +kernel) (by decide)
  refine ⟨spread, cursor.trans ?_⟩
  decide +kernel

def commaLink : PaddedLink := .ofTexts "https://acme.okta.com/api/v1/users?after=a,b" "next"

def commaHeaders : Headers :=
  [("link", "<https://acme.okta.com/api/v1/users?after=a,b>; rel=\"next\"")]

/-- The first link to the next page has a cursor, and it is not found. -/
theorem comma_hides_link :
    Spread commaHeaders [commaLink.entry] ∧ firstNext? [commaLink.entry] = some commaLink.entry ∧
      afterParam? commaLink.entry.target = some "a,b" ∧ nextCursor commaHeaders = "" := by
  refine ⟨?_, by decide, by decide +kernel, by decide +kernel⟩
  exact spread_of_check [[commaLink]] (by decide +kernel) (by decide +kernel)

end AccessCatalog.Web
