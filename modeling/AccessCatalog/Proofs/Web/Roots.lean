import AccessCatalog.Proofs.Web.Site

/-! Roots. Whatever stands between the host of a web address and the path behind it comes to a
directory. It is the root just if the address of the base alone has no other path, and then the
segments behind the base are the path of the address. -/
namespace AccessCatalog.Web

theorem Form.decode_ne_nil {query : List Char} {b : UInt8} (member : b ∈ Text.utf8 query)
    (other : b ≠ 38) : decode query ≠ [] := by
  intro nothing
  have empty : ∀ piece ∈ splitAt 38 (Text.utf8 query), piece = [] := by
    have filtered := List.map_eq_nil_iff.mp nothing
    simpa [List.filter_eq_nil_iff] using filtered
  have pieces := flatMap_splitAt 38 (Text.utf8 query)
  have inPieces : b ∈ (splitAt 38 (Text.utf8 query)).flatMap (38 :: ·) :=
    pieces ▸ List.mem_cons_of_mem _ member
  obtain ⟨piece, inSplit, here⟩ := List.mem_flatMap.mp inPieces
  rw [empty piece inSplit, List.mem_singleton] at here
  exact other here

namespace Url

/-! Directories. -/

/-- Segments in front lead to a directory, whatever is behind them. -/
theorem follow_append (front directory : List (List Char)) :
    ∃ reached, ∀ segments, segments ≠ [] →
      follow directory (front ++ segments) = follow reached segments := by
  induction front generalizing directory with
  | nil => exact ⟨directory, fun _ _ => rfl⟩
  | cons s rest ih =>
    have step : ∃ next, ∀ segments, segments ≠ [] →
        follow directory (s :: segments) = follow next segments := by
      by_cases double : isDoubleDot s = true
      · refine ⟨directory.dropLast, fun segments some => ?_⟩
        obtain ⟨t, others, rfl⟩ := List.exists_cons_of_ne_nil some
        simp [follow, double]
      · by_cases single : isSingleDot s = true
        · refine ⟨directory, fun segments some => ?_⟩
          obtain ⟨t, others, rfl⟩ := List.exists_cons_of_ne_nil some
          simp [follow, double, single]
        · refine ⟨directory ++ [s], fun segments some => ?_⟩
          obtain ⟨t, others, rfl⟩ := List.exists_cons_of_ne_nil some
          simp [follow, double, single]
    obtain ⟨next, stepped⟩ := step
    obtain ⟨reached, walked⟩ := ih next
    refine ⟨reached, fun segments some => ?_⟩
    rw [List.cons_append, stepped _ (by simp [some]), walked segments some]

theorem splitSlashes_append (special : Bool) (front rest : List Char) :
    splitSlashes special (front ++ '/' :: rest) =
      splitSlashes special front ++ splitSlashes special rest := by
  have slash : isSlash special '/' = true := by simp [isSlash]
  rw [splitSlashes, List.map_append, List.map_cons, slash, if_pos rfl, Form.splitAt_append]
  rfl

theorem splitSlashes_ne_nil (special : Bool) (cs : List Char) : splitSlashes special cs ≠ [] :=
  Form.splitAt_ne_nil _ _

theorem pathStart_behind (between : List Char) :
    ∃ directory, ∀ rest, pathStart true (between ++ '/' :: rest) =
      pathAfter true directory rest := by
  have behind : ∀ front : List Char, ∃ directory, ∀ rest,
      pathAfter true [] (front ++ '/' :: rest) = pathAfter true directory rest := by
    intro front
    obtain ⟨reached, walked⟩ := follow_append
      ((splitSlashes true front).map (percentEncode inPath)) []
    refine ⟨reached, fun rest => ?_⟩
    rw [pathAfter, splitSlashes_append, List.map_append,
      walked _ (by simp [splitSlashes_ne_nil]), pathAfter]
  cases between with
  | nil => exact ⟨[], fun rest => by simp [pathStart, isSlash]⟩
  | cons c front =>
    by_cases slash : isSlash true c = true
    · obtain ⟨directory, found⟩ := behind front
      exact ⟨directory, fun rest => by simp [pathStart, slash, found]⟩
    · obtain ⟨directory, found⟩ := behind (c :: front)
      refine ⟨directory, fun rest => ?_⟩
      rw [← found rest]
      simp [pathStart, slash]

theorem pathText_directory (directory : List (List Char)) :
    pathText (pathAfter true directory []) = directory.flatMap ('/' :: ·) ++ ['/'] := by
  have last : follow directory [[]] = directory ++ [[]] := by
    simp [follow, isDoubleDot, isSingleDot]
  have written : pathAfter true directory [] = .segments (follow directory [[]]) := rfl
  rw [written, last]
  simp [pathText]

/-! Roots. -/

/-- Whether an address is that of a host, without anything else. -/
structure IsRoot (root : Url) : Prop where
  web : root.isWeb = true
  credentials : root.credentials = none
  query : root.query = none
  fragment : root.fragment = none
  path : pathText root.path = ['/']

/-- Whether these are segments as they are written in a path, and none of them stands for a
directory. -/
def ArePlain (segments : List (List Char)) : Prop :=
  ∀ s ∈ segments, isDots s = false ∧ ∀ c ∈ s, IsSegmentChar c

theorem arePlain_names {names : List String} (noDots : NoDots names) :
    ArePlain (names.map segmentOf) := by
  intro s member
  obtain ⟨name, inNames, rfl⟩ := List.mem_map.mp member
  have other := noDots name inNames
  refine ⟨?_, pathSegment_segmentChar name⟩
  rw [← Bool.not_eq_true, isDots_segmentOf]
  exact fun same => same.elim other.1 other.2

theorem ArePlain.isPath {first : List Char} {segments : List (List Char)}
    (plain : ArePlain (first :: segments)) :
    IsPath (pathText (.segments (first :: segments))) := by
  refine ⟨first ++ segments.flatMap ('/' :: ·), by simp [pathText], fun c member => ?_⟩
  rcases List.mem_append.mp member with inFirst | behind
  · exact ((plain first List.mem_cons_self).2 c inFirst).visible
  · obtain ⟨s, inSegments, inside⟩ := List.mem_flatMap.mp behind
    rcases List.mem_cons.mp inside with rfl | inSegment
    · decide
    · exact ((plain s (List.mem_cons_of_mem _ inSegments)).2 c inSegment).visible

/-- Behind a root, plain segments are the path of the address. -/
theorem IsRoot.parse_segments {base : List Char} {root : Url} (isRoot : root.IsRoot)
    (read : parse none (base ++ ['/']) = .ok root) {segments : List (List Char)}
    (some : segments ≠ []) (plain : ArePlain segments) :
    parse none (base ++ pathText (.segments segments)) =
      .ok { root with path := .segments segments } := by
  obtain ⟨between, found⟩ := parse_behind read isRoot.web isRoot.query isRoot.fragment
  obtain ⟨directory, begun⟩ := pathStart_behind between
  have atRoot : directory = [] := by
    have same := (found [] IsPath.root).symm.trans read
    have path := isRoot.path
    rw [← Except.ok.inj same, begun, pathText_directory] at path
    have empty := List.flatMap_eq_nil_iff.mp (List.append_left_eq_self.mp path)
    exact List.eq_nil_iff_forall_not_mem.mpr fun s member => List.cons_ne_nil _ _ (empty s member)
  obtain ⟨first, others, rfl⟩ := List.exists_cons_of_ne_nil some
  have text : pathText (.segments (first :: others)) =
      '/' :: (first ++ others.flatMap ('/' :: ·)) := by simp [pathText]
  have isPath := plain.isPath
  rw [text] at isPath ⊢
  rw [found _ isPath, begun, pathAfter_joined (fun s member => (plain s member).2), atRoot,
    follow_plain (fun s member => (plain s member).1), List.nil_append]

/-- Behind a root, a path changes nothing but the path. -/
theorem IsRoot.parse_path {base : List Char} {root : Url} (isRoot : root.IsRoot)
    (read : parse none (base ++ ['/']) = .ok root) {path : List Char} (isPath : IsPath path) :
    ∃ p, parse none (base ++ path) = .ok { root with path := p } := by
  obtain ⟨between, found⟩ := parse_behind read isRoot.web isRoot.query isRoot.fragment
  obtain ⟨rest, rfl, plain⟩ := isPath
  exact ⟨_, found rest ⟨rest, rfl, plain⟩⟩

/-- An address that ends in a slash has pairs in its query if it has a query. -/
theorem query_eq_none {base : List Char} {u : Url} (read : parse none (base ++ ['/']) = .ok u)
    (noFragment : u.fragment = none) (noPairs : u.queryPairs = []) : u.query = none := by
  obtain ⟨front, cleaned⟩ := clean_path base
  have noHash : '#' ∉ front ++ ['/'] := fun member => (List.mem_append.mp member).elim
    (fun hash => fragment_front read cleaned hash noFragment) IsPath.root.not_mem.1
  have rootCut : cut '#' (clean (base ++ ['/'])) = (front ++ ['/'], none) := by
    rw [cleaned _ IsPath.root]
    exact cut_of_not_mem noHash
  by_cases mark : '?' ∈ front
  · obtain ⟨address, rest, rfl, absent⟩ := List.eq_append_cons_of_mem mark
    rw [List.append_assoc, List.cons_append] at rootCut
    obtain ⟨scheme, _, _, _, _, rfl⟩ := parse_none_ok rootCut (cut_at absent _) read
    let keep := if isSpecial scheme then inSpecialQuery else inQuery
    have kept : keep '/' = true := by
      simp only [keep]
      split <;> decide
    have written : percentEncode keep (rest ++ ['/']) = percentEncode keep rest ++ ['/'] := by
      simp [percentEncode, percentChar, kept]
    have slash : (47 : UInt8) ∈ Text.utf8 (percentEncode keep (rest ++ ['/'])) := by
      rw [written, Text.utf8_append]
      exact List.mem_append_right _ (by decide)
    exact absurd noPairs (Form.decode_ne_nil slash (by decide))
  · have noMark : '?' ∉ front ++ ['/'] := fun member =>
      (List.mem_append.mp member).elim mark IsPath.root.not_mem.2
    obtain ⟨_, _, _, _, _, rfl⟩ := parse_none_ok rootCut (cut_of_not_mem noMark) read
    rfl

theorem takeScheme?_https (cs : List Char) :
    takeScheme? ("https:".toList ++ cs) = some ("https".toList, cs) :=
  rfl

theorem clean_https (domain : List Char) :
    clean ("https://".toList ++ domain ++ ['/']) = "https:".toList ++ ("//".toList ++
      (domain.filter (fun c => c != '\t' && c != '\n' && c != '\r') ++ ['/'])) := by
  rw [clean_append _ IsPath.root]
  rfl

/-- What begins as an address of the web is one, if it is an address at all. -/
theorem isWeb_of_https {domain : List Char} {u : Url}
    (read : parse none ("https://".toList ++ domain ++ ['/']) = .ok u) : u.isWeb = true := by
  have scheme : u.scheme = "https".toList := by
    have address := (congrArg (cut '#') (clean_https domain)).trans (cut_front (by decide) _)
    obtain ⟨scheme, rest, v, taken, found, rfl⟩ :=
      parse_none_ok address (cut_front (by decide) _) read
    rw [takeScheme?_https] at taken
    cases taken
    have named : v.scheme = "https".toList := absolute_scheme found
    exact named
  have host := parse_host read (by rw [scheme]; decide) (by rw [scheme]; decide)
  simp [isWeb, scheme, host]

theorem takeCredentials_absent {isLast : Bool} {cs : List Char} (absent : '@' ∉ cs) :
    takeCredentials isLast cs = .ok (none, cs) := by
  simp [takeCredentials, takeLast_of_not_mem absent]

/-- Behind an authority without credentials the path begins. -/
theorem authority_root {isWhole : Bool} {scheme host : List Char} {u : Url}
    (special : isSpecial scheme = true) (inHost : ∀ c ∈ host, c ∉ "/\\@".toList)
    (read : authority isWhole scheme (host ++ ['/']) = .ok u) :
    u.credentials = none ∧ pathText u.path = ['/'] := by
  have noSlash : ∀ c ∈ host, (!isSlash true c) = true := by
    intro c member
    have other := inHost c member
    simp only [String.reduceToList, List.mem_cons, not_or] at other
    simp [isSlash, other.1, other.2.1]
  have slash : (!isSlash true '/') = false := by decide
  have front : (host ++ ['/']).takeWhile (fun c => !isSlash true c) = host := by
    rw [List.takeWhile_append_of_pos noSlash, List.takeWhile_cons_of_neg (by simp [slash]),
      List.append_nil]
  have behind : (host ++ ['/']).dropWhile (fun c => !isSlash true c) = ['/'] := by
    rw [List.dropWhile_append_of_pos noSlash, List.dropWhile_cons_of_neg (by simp [slash])]
  have noSign : '@' ∉ host := fun member => inHost _ member (by decide)
  have noBackslash : '\\' ∉ (splitPort false host).2.getD [] := fun member =>
    inHost _ (splitPort_subset _ member) (by decide)
  unfold authority at read
  simp only [special, front, behind, takeCredentials_absent noSign] at read
  obtain ⟨_, same, read⟩ := bind_ok read
  cases same
  dsimp only at read
  split at read
  · simp at read
  · obtain ⟨found, _, read⟩ := bind_ok read
    obtain ⟨⟨number, rest⟩, numbered, read⟩ := bind_ok read
    cases takePort_rest noBackslash numbered
    cases read
    exact ⟨rfl, rfl⟩

/-- The address of a domain without the signs that end a host, or that credentials end with, is a
root, if it is an address at all. -/
theorem isRoot_of_host {domain : List Char} {u : Url} (inDomain : ∀ c ∈ domain, c ∉ "/\\?#@".toList)
    (read : parse none ("https://".toList ++ domain ++ ['/']) = .ok u) : u.IsRoot := by
  have web := isWeb_of_https read
  let host := domain.filter fun c => c != '\t' && c != '\n' && c != '\r'
  have inHost : ∀ c ∈ host, c ≠ '/' ∧ c ≠ '\\' ∧ c ≠ '?' ∧ c ≠ '#' ∧ c ≠ '@' := by
    intro c member
    simpa using inDomain c (List.mem_filter.mp member).1
  have whole : ∀ mark ∈ ['?', '#'],
      mark ∉ "https:".toList ++ ("//".toList ++ (host ++ ['/'])) := by
    intro mark isMark member
    have inText : mark ∈ host := by
      simp only [List.mem_cons, List.not_mem_nil, or_false] at isMark
      rcases isMark with rfl | rfl <;> simpa using member
    have other := inHost mark inText
    simp [other] at isMark
  have address := (congrArg (cut '#') (clean_https domain)).trans
    (cut_of_not_mem (whole '#' (by decide)))
  obtain ⟨scheme, rest, v, taken, found, rfl⟩ :=
    parse_none_ok address (cut_of_not_mem (whole '?' (by decide))) read
  rw [takeScheme?_https] at taken
  cases taken
  have special : isSpecial "https".toList = true := by decide
  have noFile : ¬isFile "https".toList = true := by decide
  unfold absolute at found
  rw [if_neg noFile, if_pos special] at found
  have skipped : ("//".toList ++ (host ++ ['/'])).dropWhile (isSlash true) =
      (host ++ ['/']).dropWhile (isSlash true) := rfl
  rw [skipped] at found
  cases text : host with
  | nil =>
    rw [text] at found
    exact absurd ((authority_nil _ special).symm.trans found) (by simp)
  | cons c others =>
    have noSlash : ¬isSlash true c = true := by
      have other := inHost c (text ▸ List.mem_cons_self)
      simp [isSlash, other.1, other.2.1]
    rw [text, List.cons_append, List.dropWhile_cons_of_neg noSlash, ← List.cons_append,
      ← text] at found
    obtain ⟨credentials, path⟩ := authority_root special (fun c member => by
      simp [inHost c member]) found
    exact ⟨web, credentials, rfl, rfl, path⟩

end Url
end AccessCatalog.Web
