import AccessCatalog.Proofs.Web.LinkEntries

/-! Links that are found again. Entries that a server writes into its headers are read as they
are, in any number of headers, and the cursor in the query of the one link to the next page comes
out of the address as the text that was encoded there. -/
namespace AccessCatalog.Web

/-- The link headers hold plain entries, and these are the targets of those for the next page. -/
def NextLinks (headers : Headers) (targets : List (List Char)) : Prop :=
  ∃ values : List (List PaddedLink), headers.values "link" = values.map linkValue ∧
    (∀ l ∈ values.flatten, l.Plain) ∧
    (values.flatten.filter fun l => l.entry.relation = "next".toList).map (·.entry.target) = targets

/-- The cursor of the headers is that of the first link to the next page. -/
theorem nextCursor_of_links {headers : Headers} {targets : List (List Char)}
    (links : NextLinks headers targets) :
    nextCursor headers = ((targets.head?.bind afterParam?).getD "") := by
  obtain ⟨values, written, plain, rfl⟩ := links
  have whole : (values.flatten.map (·.entry)).filter LinkEntry.isWhole =
      values.flatten.map (·.entry) := by
    refine List.filter_eq_self.mpr fun e member => ?_
    obtain ⟨l, inValues, rfl⟩ := List.mem_map.mp member
    exact (LinkEntry.plain_iff.mp (plain l inValues).entry).2
  have first : (values.flatten.map (·.entry)).find? LinkEntry.isNext =
      (values.flatten.find? fun l => decide (l.entry.relation = "next".toList)).map (·.entry) :=
    List.find?_map
  rw [nextCursor_of_values written fun l member => (plain l member).bracketed, whole, first,
    List.head?_map, List.head?_filter]
  cases values.flatten.find? fun l => decide (l.entry.relation = "next".toList) <;> rfl

/-! The cursor in an address. -/

/-- A web address whose first parameter of this name is the encoding of a cursor. -/
def CursorLink (target : List Char) (cursor : String) : Prop :=
  ∃ (u : Url) (front back : List (List Char)) (name : List Char),
    Url.parse none target = .ok u ∧ u.isWeb = true ∧
    u.query = some (['&'].intercalate
      (front ++ (name ++ '=' :: Form.encodeText cursor) :: back)) ∧
    (∀ c ∈ name, c.toNat < 128 ∧ c ≠ '&' ∧ c ≠ '=') ∧ Form.decodeText (Text.utf8 name) = "after" ∧
    ∀ piece ∈ front, ∀ pair ∈ Form.decode piece, pair.1 ≠ "after"

namespace Url

/-- A text after a scheme, with fewer than two slashes, is one more path of the base. -/
theorem relative_query (base : Url) {cs : List Char}
    (few : (cs.takeWhile (isSlash true)).length < 2) (q : List Char) :
    ∃ u, relative base cs (some q) = .ok u ∧ u.query = some q := by
  unfold relative
  split
  · exact ⟨_, rfl, rfl⟩
  · rename_i rest
    have two : ('/' :: '/' :: rest).takeWhile (isSlash true) =
        '/' :: '/' :: rest.takeWhile (isSlash true) := rfl
    rw [two, List.length_cons, List.length_cons] at few
    omega
  · rename_i c rest _
    split
    · rename_i slash
      split
      · rename_i again
        cases rest with
        | nil => simp at again
        | cons d rest =>
          have second : isSlash true d = true := by simpa using again
          rw [List.takeWhile_cons_of_pos slash, List.takeWhile_cons_of_pos second,
            List.length_cons, List.length_cons] at few
          omega
      · exact ⟨_, rfl, rfl⟩
    · exact ⟨_, rfl, rfl⟩

/-- An address that can be read by itself has the same query when it is taken from a base. -/
theorem parse_some_query {text q : List Char} {u : Url} (read : parse none text = .ok u)
    (query : u.query = some q) (base : Url) :
    ∃ v, parse (some base) text = .ok v ∧ v.query = some q := by
  obtain ⟨⟨address, fragment⟩, address_eq⟩ : ∃ p, cut '#' (clean text) = p := ⟨_, rfl⟩
  obtain ⟨⟨front, rawQuery⟩, front_eq⟩ : ∃ p, cut '?' address = p := ⟨_, rfl⟩
  obtain ⟨scheme, rest, v, taken, found, rfl⟩ := parse_none_ok address_eq front_eq read
  unfold parse
  dsimp only at query
  simp only [address_eq, front_eq, taken, query]
  split
  · rename_i short
    obtain ⟨w, read, same⟩ := relative_query base short.2 q
    rw [read]
    exact ⟨_, rfl, same⟩
  · rw [found]
    exact ⟨_, rfl, rfl⟩

end Url

namespace Form

theorem decode_intercalate (pieces : List (List Char)) :
    decode (['&'].intercalate pieces) = pieces.flatMap decode := by
  induction pieces with
  | nil => rfl
  | cons piece rest ih =>
    cases rest with
    | nil => simp [List.intercalate]
    | cons next rest =>
      rw [List.intercalate_cons_cons, List.append_assoc, List.singleton_append, decode_append, ih]
      rfl

end Form

/-- The cursor that was encoded in an address is the one that is found there. -/
theorem afterParam?_of_link {target : List Char} {cursor : String}
    (link : CursorLink target cursor) (some_cursor : cursor ≠ "") :
    afterParam? target = some cursor := by
  obtain ⟨u, front, back, name, read, _, query, plain, named, others⟩ := link
  obtain ⟨v, again, same⟩ := Url.parse_some_query read query linkBase
  have piece : Form.decode (name ++ '=' :: Form.encodeText cursor) = [("after", cursor)] := by
    rw [Form.decode_piece (fun c member => (plain c member).1) (Form.encodeText_ascii cursor)
      ⟨fun member => (plain '&' member).2.1 rfl, fun member => (plain '=' member).2.2 rfl⟩
      (Form.not_mem_encodeText Form.ampersand_not_encoded cursor), named,
      Form.decodeText_encodeText]
  have absent : (front.flatMap Form.decode).find? (fun p => decide (p.1 = "after")) = none := by
    rw [List.find?_eq_none]
    intro pair member
    obtain ⟨piece, inFront, inPiece⟩ := List.mem_flatMap.mp member
    simpa using others piece inFront pair inPiece
  have pairs : v.queryPairs =
      front.flatMap Form.decode ++ (("after", cursor) :: back.flatMap Form.decode) := by
    rw [Url.queryPairs, same, Option.getD_some, Form.decode_intercalate, List.flatMap_append,
      List.flatMap_cons, piece]
    rfl
  have filled : cursor.isEmpty = false := by simpa using some_cursor
  simp [afterParam?, again, pairs, List.find?_append, absent, filled]

end AccessCatalog.Web
