import AccessCatalog.Proofs.Okta.Traffic
import AccessCatalog.Proofs.Web.Rereading

/-! Queries of the addresses that a tenant builds. The pairs that are asked for are read back from
every one of them, and its cursor comes out again wherever its text is accepted as a link. Not every
text is: a path that begins with two slashes is taken for an authority, and has to be one. -/
namespace AccessCatalog.Okta

open Web (Url IsLink afterParam?)

/-- A text with which neither a query nor a fragment begins. -/
def HasNoMarks (text : String) : Prop := ∀ c ∈ text.toList, c ≠ '?' ∧ c ≠ '#'

/-- The pairs that have a value. -/
def filledPairs (pairs : List (String × String)) : List (String × String) :=
  pairs.filter fun p => !p.2.isEmpty

/-- Whether this is the first cursor that the pairs have, empty ones left out. -/
def HasCursor (pairs : List (String × String)) (cursor : String) : Prop :=
  (filledPairs pairs).find? (fun p => p.1 = "after") = some ("after", cursor)

/-- A slash begins the text, and no other one of either kind follows it. -/
def HasOneSlash (text : List Char) : Prop :=
  ∃ rest, text = '/' :: rest ∧ ∀ c ∈ rest.head?, c ≠ '/' ∧ c ≠ '\\'

theorem HasCursor.filled {pairs : List (String × String)} {cursor : String}
    (has : HasCursor pairs cursor) : filledPairs pairs ≠ [] ∧ cursor ≠ "" := by
  have member := List.mem_of_find?_eq_some has
  refine ⟨List.ne_nil_of_mem member, ?_⟩
  simpa using (List.mem_filter.mp member).2

theorem isBehind_pairs (pairs : List (String × String)) {front : List Char}
    (clear : ∀ c ∈ front, Web.IsClear c) : Url.IsBehind front (Web.Form.append [] pairs) :=
  ⟨fun c member => (clear c member).2,
    fun c member => (Web.Form.append_chars pairs (by simp) c member).facts⟩

theorem isLink_target {v : Url} (written : v.IsWritten) {q : List Char}
    (behind : Url.IsBehind v.target q) (slash : HasOneSlash (v.target ++ '?' :: q)) :
    IsLink (v.target ++ '?' :: q) := by
  obtain ⟨rest, begun, single⟩ := slash
  have clear := written.target_clear
  cases target : v.target with
  | nil =>
    rw [target] at begun
    exact absurd (List.cons.inj begun).1 (by decide)
  | cons c path =>
    rw [target] at begun behind clear
    obtain ⟨rfl, rfl⟩ := List.cons.inj begun
    refine Url.parse_single_slash _ clear ?_ behind
    cases path with
    | nil => rfl
    | cons d path => simpa [Url.isSlash] using single d rfl

namespace Tenant

variable {t : Tenant} {path : String}

/-- The name of a host that is written in ASCII, without percent signs, is its own form. -/
theorem root_own (ascii : ∀ c ∈ t.apiBaseUrl.toList, c.toNat < 128 ∧ c ≠ '%') {root : Url}
    (read : Url.parse none (t.apiBaseUrl ++ "/").toList = .ok root) (web : root.isWeb = true) :
    root.HasOwnName := by
  have whole : ∀ c ∈ (t.apiBaseUrl ++ "/").toList, c.toNat < 128 ∧ c ≠ '%' := by
    intro c member
    rw [String.toList_append] at member
    rcases List.mem_append.mp member with inBase | slash
    · exact ascii c inBase
    · rw [List.mem_singleton.mp slash]
      decide
  obtain ⟨special, noFile⟩ := Url.isWeb_scheme web
  obtain ⟨h, cs, host, hostRead, subset⟩ := Url.parse_host_read read special noFile
  intro name same
  rw [host] at same
  cases same
  exact Web.Host.parse_ascii (fun c member => (whole c (subset c member)).1)
    (fun percent => (whole '%' (subset _ percent)).2 rfl) hostRead

section Marks

variable (base : HasNoMarks t.apiBaseUrl) (plain : HasNoMarks path)

include base plain

theorem noMarks_append : '?' ∉ (t.apiBaseUrl ++ path).toList ∧
    '#' ∉ (t.apiBaseUrl ++ path).toList := by
  rw [String.toList_append]
  constructor <;> intro member <;> rcases List.mem_append.mp member with inBase | inPath
  · exact (base _ inBase).1 rfl
  · exact (plain _ inPath).1 rfl
  · exact (base _ inBase).2 rfl
  · exact (plain _ inPath).2 rfl

/-- An address that is built is one without a query, or has the pairs behind it. -/
theorem url_written {pairs : List (String × String)} {u : Url} (found : t.url path pairs = .ok u) :
    ∃ v, Url.parse none (t.apiBaseUrl ++ path).toList = .ok v ∧ v.IsWritten ∧
      (filledPairs pairs = [] ∧ u = v ∨ filledPairs pairs ≠ [] ∧
        u = { v with query := some (Web.Form.append [] (filledPairs pairs)) }) := by
  have read := Tenant.address_parsed found
  rw [← String.toList_append] at read
  obtain ⟨noMark, noHash⟩ := noMarks_append base plain
  have written := Url.parse_written read noMark noHash
  refine ⟨t.address path, read, written, ?_⟩
  have pairsBehind : u = (t.address path).appendPairs (filledPairs pairs) := Tenant.url_eq found
  rw [pairsBehind]
  cases filled : filledPairs pairs with
  | nil => exact .inl ⟨rfl, rfl⟩
  | cons pair others =>
    refine .inr ⟨by simp, ?_⟩
    rw [Url.appendPairs, written.query]
    rfl

theorem url_query {pairs : List (String × String)} {u : Url} (found : t.url path pairs = .ok u) :
    u.queryPairs = filledPairs pairs ∧ (u.query = none ↔ filledPairs pairs = []) ∧
      ('?' ∈ u.text ↔ filledPairs pairs ≠ []) := by
  obtain ⟨v, _, written, ⟨none, rfl⟩ | ⟨some, rfl⟩⟩ := url_written base plain found
  · refine ⟨?_, iff_of_true written.query none, iff_of_false (fun mark => ?_) (by simp [none])⟩
    · rw [Url.queryPairs, written.query, none]
      rfl
    · exact (written.text_clear '?' mark).2.1 rfl
  · refine ⟨?_, iff_of_false (by simp) some, iff_of_true ?_ some⟩
    · exact Web.Form.decode_append_pairs [] (filledPairs pairs)
    · rw [written.text_query]
      simp

theorem url_cursor {pairs : List (String × String)} {u : Url} (found : t.url path pairs = .ok u)
    {cursor : String} (has : HasCursor pairs cursor) :
    (afterParam? u.text = some cursor ↔ IsLink u.text) ∧
      (afterParam? u.target = some cursor ↔ IsLink u.target) ∧
      (u.isWeb = true →
        (IsLink u.text ↔ u.HostReadAgain) ∧ (u.HasOwnName → u.HostReadAgain)) ∧
      (HasOneSlash u.target → IsLink u.target) := by
  obtain ⟨filled, some_cursor⟩ := has.filled
  obtain ⟨v, read, written, ⟨none, _⟩ | ⟨_, rfl⟩⟩ := url_written base plain found
  · exact absurd none filled
  · have inText := isBehind_pairs (filledPairs pairs) written.text_clear
    have inTarget := isBehind_pairs (filledPairs pairs) written.target_clear
    have first : (Web.Form.decode (Web.Form.append [] (filledPairs pairs))).find?
        (fun p => p.1 = "after") = some ("after", cursor) := by
      rw [Web.Form.decode_append_pairs]
      exact has
    rw [written.text_query, written.target_query]
    exact ⟨Url.afterParam?_behind inText some_cursor first,
      Url.afterParam?_behind inTarget some_cursor first,
      fun web => ⟨Url.isLink_text_iff read written web inText,
        fun own => Url.hostReadAgain_of_own (u := v) read web own⟩,
      isLink_target written inTarget⟩

theorem url_behind {root : Url} (read : Url.parse none (t.apiBaseUrl ++ "/").toList = .ok root)
    (web : root.isWeb = true) (rooted : ∃ rest, path.toList = '/' :: rest)
    (pairs : List (String × String)) : ∃ u, t.url path pairs = .ok u ∧ u.isWeb = true ∧
      u.host = root.host := by
  obtain ⟨rest, begun⟩ := rooted
  have slash : HasNoMarks "/" := Web.forall_of_all (by decide)
  have marks := noMarks_append base slash
  have written := Url.parse_written read marks.1 marks.2
  rw [String.toList_append] at read
  obtain ⟨between, behind⟩ :=
    Url.parse_behind_cleaned read web written.query written.fragment
  have found := behind rest (fun mark => (plain '?' (begun ▸ List.mem_cons_of_mem _ mark)).1 rfl)
    fun hash => (plain '#' (begun ▸ List.mem_cons_of_mem _ hash)).2 rfl
  rw [← begun, ← String.toList_append] at found
  refine ⟨_, by rw [Tenant.url, found], ?_, ?_⟩
  · exact (Url.appendPairs_isWeb _ _).trans web
  · exact Url.appendPairs_host _ _

/-- The query of any address that is built is read back as it was asked for. Its cursor comes out of
the address, be that whole or path and query only, just if the text is accepted as a link. A whole
address of the web is accepted just if its host is read again as it is written: only a name that is
not its own form in ASCII may fail there, and no base in ASCII gives one. A path with its query is
accepted if it begins with one slash. -/
theorem queries_read_back (rooted : ∃ rest, path.toList = '/' :: rest)
    (pairs : List (String × String)) :
    (∀ root, Url.parse none (t.apiBaseUrl ++ "/").toList = .ok root → root.isWeb = true →
      ∃ u, t.url path pairs = .ok u ∧ u.isWeb = true ∧
        ((∀ c ∈ t.apiBaseUrl.toList, c.toNat < 128 ∧ c ≠ '%') → u.HasOwnName)) ∧
    ∀ u, t.url path pairs = .ok u →
      (u.queryPairs = filledPairs pairs ∧ (u.query = none ↔ filledPairs pairs = []) ∧
        ('?' ∈ u.text ↔ filledPairs pairs ≠ [])) ∧
      ∀ cursor, HasCursor pairs cursor →
        (afterParam? u.text = some cursor ↔ IsLink u.text) ∧
        (afterParam? u.target = some cursor ↔ IsLink u.target) ∧
        (u.isWeb = true →
          (IsLink u.text ↔ u.HostReadAgain) ∧ (u.HasOwnName → u.HostReadAgain)) ∧
        (HasOneSlash u.target → IsLink u.target) := by
  refine ⟨fun root read web => ?_, fun u found => ?_⟩
  · obtain ⟨u, found, isWeb, host⟩ := url_behind base plain read web rooted pairs
    refine ⟨u, found, isWeb, fun ascii name same => ?_⟩
    exact root_own ascii read web name (host ▸ same)
  · exact ⟨url_query base plain found, fun cursor has => url_cursor base plain found has⟩

end Marks

/-- Users with signs of every kind in what is asked for, one pair left empty. -/
def signedPairs : List (String × String) :=
  [("limit", ""), ("search", "profile.city eq \"Kraków & Łódź\"?#"), ("after", "c+/=%26 ü"),
    ("after", "d")]

theorem queries_read_back_of_acme : HasNoMarks Tenant.acme.apiBaseUrl ∧ HasNoMarks "/api/v1/users" ∧
    (∃ rest, "/api/v1/users".toList = '/' :: rest) ∧ HasCursor signedPairs "c+/=%26 ü" ∧
    ∃ u, Tenant.acme.url "/api/v1/users" signedPairs = .ok u ∧ u.queryPairs =
        [("search", "profile.city eq \"Kraków & Łódź\"?#"), ("after", "c+/=%26 ü"), ("after", "d")] ∧
      afterParam? u.text = some "c+/=%26 ü" ∧ afterParam? u.target = some "c+/=%26 ü" := by
  have base : HasNoMarks Tenant.acme.apiBaseUrl := Web.forall_of_all (by decide)
  have plain : HasNoMarks "/api/v1/users" := Web.forall_of_all (by decide)
  have rooted : ∃ rest, "/api/v1/users".toList = '/' :: rest := ⟨_, rfl⟩
  have cursor : HasCursor signedPairs "c+/=%26 ü" := by
    unfold HasCursor
    decide
  obtain ⟨built, read⟩ := queries_read_back base plain rooted signedPairs
  obtain ⟨root, rootRead, web, _⟩ := Tenant.acme_reachable.root
  obtain ⟨u, found, isWeb, ofAscii⟩ := built root rootRead web
  obtain ⟨⟨pairs, _⟩, cursors⟩ := read u found
  obtain ⟨inText, inTarget, ofText, ofTarget⟩ := cursors _ cursor
  have own := ofAscii (Web.forall_of_all (by decide))
  have begun : (Tenant.acme.url "/api/v1/users" signedPairs).toOption.map (·.target.take 2) =
      some "/a".toList := by decide +kernel
  rw [found] at begun
  have slash : HasOneSlash u.target := by
    refine ⟨'a' :: u.target.drop 2, ?_, by simp⟩
    have front : u.target.take 2 = "/a".toList := Option.some.inj begun
    rw [← List.take_append_drop 2 u.target, front]
    rfl
  exact ⟨base, plain, rooted, cursor, u, found, pairs,
    inText.mpr ((ofText isWeb).1.mpr ((ofText isWeb).2 own)), inTarget.mpr (ofTarget slash)⟩

/-- A tenant whose paths begin with two slashes, and no host behind them. -/
def doubled : Tenant := { Tenant.acme with baseUrl := some "https://acme.okta.com//%20" }

/-- Behind such a base the cursor is written, and does not come out of the path and query. -/
theorem doubled_slash_hides_cursor : doubled.validate = .ok () ∧ HasNoMarks doubled.apiBaseUrl ∧
    HasNoMarks "/api/v1/users" ∧ HasCursor [("after", "c")] "c" ∧
    ∃ u, doubled.url "/api/v1/users" [("after", "c")] = .ok u ∧ u.isWeb = true ∧
      u.target = "//%20/api/v1/users?after=c".toList ∧ afterParam? u.target = none := by
  have base : HasNoMarks doubled.apiBaseUrl := Web.forall_of_all (by decide +kernel)
  have plain : HasNoMarks "/api/v1/users" := Web.forall_of_all (by decide)
  have cursor : HasCursor [("after", "c")] "c" := by
    unfold HasCursor
    decide
  have built : ∀ u, (doubled.url "/api/v1/users" [("after", "c")]).toOption = some u →
      doubled.url "/api/v1/users" [("after", "c")] = .ok u := by
    intro u read
    cases found : doubled.url "/api/v1/users" [("after", "c")] with
    | error e => simp [found, Except.toOption] at read
    | ok v => simpa [found, Except.toOption] using read
  let u : Url :=
    { scheme := "https".toList, host := some (.name "acme.okta.com".toList)
      path := .segments [[], "%20".toList, "api".toList, "v1".toList, "users".toList]
      query := some "after=c".toList }
  exact ⟨by rfl, base, plain, cursor, u, built u (by decide +kernel), by decide, by decide,
    by decide +kernel⟩

end Tenant
end AccessCatalog.Okta
