import AccessCatalog.Proofs.Okta.Lookups
import AccessCatalog.Proofs.Okta.Traffic
import AccessCatalog.Proofs.Web.Segments

/-! Requests for the flags of users. Whatever the base of the tenant is, no two users are looked up
by the same request, and no look-up is taken for a request for a page of users. -/
namespace AccessCatalog

namespace Web.Url

/-- Behind a base, a path is part of the query of every address, and otherwise of none. -/
theorem parse_query (base : List Char) :
    (∃ query, ∀ path u, IsPath path → parse none (base ++ path) = .ok u → u.query = query) ∨
    ∃ front, ∃ special : Bool, ∀ path u, IsPath path → parse none (base ++ path) = .ok u →
      u.query = some (percentEncode (if special then inSpecialQuery else inQuery)
        (front ++ path)) := by
  obtain ⟨front, cleaned⟩ := clean_path base
  by_cases hash : '#' ∈ front
  · obtain ⟨address, rest, rfl, absent⟩ := List.eq_append_cons_of_mem hash
    left
    refine ⟨(takeScheme? (cut '?' address).1).bind fun taken => (cut '?' address).2.map
      (percentEncode (if isSpecial taken.1 then inSpecialQuery else inQuery)), ?_⟩
    intro path u isPath read
    have inFragment : cut '#' (clean (base ++ path)) = (address, some (rest ++ path)) := by
      rw [cleaned path isPath, List.append_assoc, List.cons_append]
      exact cut_at absent (rest ++ path)
    have parts : cut '?' address = ((cut '?' address).1, (cut '?' address).2) := rfl
    obtain ⟨scheme, behind, v, taken, _, rfl⟩ := parse_none_ok inFragment parts read
    rw [taken]
    rfl
  · have noHash : ∀ path, IsPath path → cut '#' (clean (base ++ path)) = (front ++ path, none) := by
      intro path isPath
      rw [cleaned path isPath]
      apply cut_of_not_mem
      intro member
      exact (List.mem_append.mp member).elim hash isPath.not_mem.1
    by_cases mark : '?' ∈ front
    · obtain ⟨address, rest, rfl, absent⟩ := List.eq_append_cons_of_mem mark
      right
      refine ⟨rest, ((takeScheme? address).map fun taken => isSpecial taken.1).getD false, ?_⟩
      intro path u isPath read
      have inQuery : cut '?' (address ++ '?' :: rest ++ path) = (address, some (rest ++ path)) := by
        rw [List.append_assoc, List.cons_append]
        exact cut_at absent (rest ++ path)
      obtain ⟨scheme, behind, v, taken, _, rfl⟩ :=
        parse_none_ok (noHash path isPath) inQuery read
      rw [taken]
      rfl
    · left
      refine ⟨none, fun path u isPath read => ?_⟩
      have noMark : cut '?' (front ++ path) = (front ++ path, none) := by
        apply cut_of_not_mem
        intro member
        exact (List.mem_append.mp member).elim mark isPath.not_mem.2
      obtain ⟨scheme, behind, v, _, _, rfl⟩ := parse_none_ok (noHash path isPath) noMark read
      rfl

end Web.Url

theorem Web.Form.append_extends (query : List Char) (pairs : List (String × String)) :
    ∃ behind, Form.append query pairs = query ++ behind := by
  induction pairs generalizing query with
  | nil => exact ⟨[], (List.append_nil query).symm⟩
  | cons pair pairs ih =>
    obtain ⟨behind, extended⟩ :=
      ih ((if query.isEmpty then [] else query ++ ['&']) ++ encodePair pair)
    refine ⟨(if query.isEmpty then [] else ['&']) ++ (encodePair pair ++ behind), ?_⟩
    refine extended.trans ?_
    cases query <;> simp

namespace Okta

variable {σ : Type}

theorem flagsRequest_inj {t : Tenant} {u v : String} (same : flagsRequest t u = flagsRequest t v) :
    u = v := by
  have pairs := congrArg (fun r : Web.Request => r.url.queryPairs) same
  simp only [flagsRequest, Tenant.query, Tenant.request, Web.Url.appendPairs_queryPairs,
    List.append_cancel_left_eq] at pairs
  by_cases empty : u = "" <;> by_cases empty' : v = "" <;> simp_all

def assigneesRequest (t : Tenant) (limit : Nat) (cursor : String) : Web.Request :=
  t.query jsonType Roles.assigneesPath [("limit", Nat.repr limit), ("after", cursor)]

theorem Tenant.address_parsed_of_query {t : Tenant} {path : String} {query : List Char}
    (queried : (t.address path).query = some query) :
    Web.Url.parse none (t.apiBaseUrl.toList ++ path.toList) = .ok (t.address path) := by
  cases found : t.url path [] with
  | ok url => exact address_parsed found
  | error e =>
    rw [Tenant.address, found] at queried
    cases queried

/-- The two paths differ where the second one is encoded in a query. -/
theorem administratorsPath_ne_extended (special : Bool) (behind : List Char) :
    Web.percentEncode (if special then Web.Url.inSpecialQuery else Web.Url.inQuery)
        Roles.administratorsPath.toList ≠
      Web.percentEncode (if special then Web.Url.inSpecialQuery else Web.Url.inQuery)
        Roles.assigneesPath.toList ++ behind := by
  have kept : ∀ special : Bool, ∀ path ∈ [Roles.administratorsPath, Roles.assigneesPath],
      Web.percentEncode (if special then Web.Url.inSpecialQuery else Web.Url.inQuery)
        path.toList = path.toList := by decide
  rw [kept special _ (by simp), kept special _ (by simp)]
  intro same
  have fifth := congrArg (fun cs => cs[5]?) same
  simp [Roles.administratorsPath, Roles.assigneesPath] at fifth

theorem assigneesRequest_ne {t : Tenant} {limit : Nat} {cursor : String}
    (found : ∃ url, t.url Roles.assigneesPath [("limit", Nat.repr limit), ("after", cursor)] =
      .ok url) (u : String) : assigneesRequest t limit cursor ≠ flagsRequest t u := by
  intro same
  obtain ⟨_, found⟩ := found
  have urls := congrArg Web.Request.url same
  have queries := congrArg Web.Url.queryPairs urls
  simp only [assigneesRequest, flagsRequest, Tenant.query, Tenant.request] at urls queries
  rw [Web.Url.appendPairs_queryPairs, Web.Url.appendPairs_queryPairs] at queries
  by_cases named : u = ""
  · -- The pairs of the page would have to be in the query of the base already.
    subst named
    have whole : (t.address Roles.administratorsPath).query = some (Web.Form.append
        ((t.address Roles.assigneesPath).query.getD [])
        ([("limit", Nat.repr limit), ("after", cursor)].filter fun p => !p.2.isEmpty)) := by
      have query := congrArg Web.Url.query urls
      simpa [Web.Url.appendPairs] using query.symm
    have read := Tenant.address_parsed found
    have read' := Tenant.address_parsed_of_query whole
    have isPath : Web.IsPath Roles.assigneesPath.toList := ⟨_, rfl, Web.forall_of_all (by decide)⟩
    rcases Web.Url.parse_query t.apiBaseUrl.toList with ⟨query, same⟩ | ⟨front, special, inQuery⟩
    · have pairs : (t.address Roles.assigneesPath).queryPairs =
          (t.address Roles.administratorsPath).queryPairs := by
        rw [Web.Url.queryPairs, Web.Url.queryPairs, same _ _ isPath read,
          same _ _ Roles.administratorsPath_isPath read']
      rw [pairs] at queries
      simp at queries
    · obtain ⟨behind, extended⟩ := Web.Form.append_extends
        ((t.address Roles.assigneesPath).query.getD [])
        ([("limit", Nat.repr limit), ("after", cursor)].filter fun p => !p.2.isEmpty)
      rw [extended, inQuery _ _ isPath read, inQuery _ _ Roles.administratorsPath_isPath read',
        Option.getD_some] at whole
      have encoded := Option.some.inj whole
      simp only [Web.percentEncode, List.flatMap_append, List.append_assoc,
        List.append_cancel_left_eq] at encoded
      exact administratorsPath_ne_extended special behind encoded
  · -- The last pair of a look-up is the user.
    have last := congrArg (fun ps => (List.getLast? ps).map Prod.fst) queries
    by_cases start : cursor = "" <;> simp [named, start] at last

end Okta
end AccessCatalog
