import AccessCatalog.Proofs.Web.Segments

/-! Sites: a scheme and an authority. What an address of a site has besides its path is the same for
every path, so names behind it become the segments of its path, and other names another address. -/
namespace AccessCatalog.Web.Url

/-! Sites. -/

/-- A scheme and an authority, with nothing behind them. -/
def IsSite (base : List Char) : Prop :=
  ∃ scheme authority, base = scheme ++ "://".toList ++ authority ∧
    (∀ c ∈ scheme, isSchemeChar c = true) ∧ authority ≠ [] ∧
      ∀ c ∈ authority, 0x20 < c.toNat ∧ c ∉ "/\\?#".toList

theorem splitPort_subset {bracket : Bool} {cs : List Char} :
    ∀ c ∈ (splitPort bracket cs).2.getD [], c ∈ cs := by
  fun_induction splitPort bracket cs with
  | case1 => simp
  | case2 bracket c rest _ => exact fun d member => List.mem_cons_of_mem c member
  | case3 bracket c rest _ host digits split ih =>
    intro d member
    rw [split] at ih
    exact List.mem_cons_of_mem c (ih d member)

theorem takeCredentials_subset {isLast : Bool} {cs front : List Char}
    {credentials : Option (List Char × List Char)}
    (taken : takeCredentials isLast cs = .ok (credentials, front)) : ∀ c ∈ front, c ∈ cs := by
  have inRest : ∀ c ∈ (cs.reverse.takeWhile (· != '@')).reverse, c ∈ cs := by
    intro c member
    exact List.mem_reverse.mp ((List.takeWhile_sublist _).subset (List.mem_reverse.mp member))
  unfold takeCredentials at taken
  dsimp only at taken
  split at taken
  · cases taken
    exact fun c member => member
  · split at taken
    · contradiction
    · cases taken
      exact inRest
  · cases taken
    exact inRest

theorem takePort_rest {scheme cs rest : List Char} {number : Option Nat}
    (noBackslash : '\\' ∉ cs) (taken : takePort scheme cs = .ok (number, rest)) : rest = [] := by
  unfold takePort at taken
  dsimp only at taken
  split at taken
  · contradiction
  · rename_i accepted
    cases taken
    cases behind : cs.dropWhile Char.isDigit with
    | nil => rfl
    | cons c others =>
      have inText : c ∈ cs :=
        (List.dropWhile_sublist _).subset (behind ▸ List.mem_cons_self)
      have other : c ≠ '\\' := fun same => noBackslash (same ▸ inText)
      simp [behind, other] at accepted

/-- What a site makes of a path: all but the path is the same for every path. -/
def AtPath (site : Except UrlError Url) (special : Bool) (directory : List (List Char))
    (path : List Char) : Except UrlError Url :=
  site.map fun u => { u with path := pathAfter special directory path }

/-- A drive is the first segment of a path, and no dot. -/
theorem pathStart_drive {letters : List Char} (drive : isDriveLetter letters = true)
    (path : List Char) :
    pathStart true (letters ++ '/' :: path) = pathAfter true [letters] path := by
  unfold isDriveLetter at drive
  split at drive
  · rename_i letter mark
    obtain ⟨alpha, sign⟩ := Bool.and_eq_true_iff.mp drive
    simp only [Bool.or_eq_true, beq_iff_eq] at sign
    have ascii : letter.toNat < 128 :=
      Form.isPlain_ascii (by simp [Form.isPlain, Char.isAlphanum, alpha])
    have ofAlpha : ∀ c : Char, c.toNat < 128 → c.isAlpha = true →
        inPath c = true ∧ c ≠ '/' ∧ c ≠ '\\' := forall_ascii (by decide)
    have plainLetter := ofAlpha letter ascii alpha
    have plain : ∀ c ∈ [letter, mark], IsSegmentChar c := by
      intro c member
      simp only [List.mem_cons, List.not_mem_nil, or_false] at member
      rcases member with rfl | rfl
      · exact ⟨ascii, plainLetter⟩
      · rcases sign with rfl | rfl <;> exact ⟨by decide, by decide, by decide, by decide⟩
    have noDots : isDots [letter, mark] = false := by
      rcases sign with rfl | rfl <;> simp [isDots, isSingleDot, isDoubleDot]
    have noSlash : isSlash true letter = false := by simp [isSlash, plainLetter.2]
    have start : pathStart true ([letter, mark] ++ '/' :: path) =
        pathAfter true [] ([letter, mark] ++ '/' :: path) := by
      simp [pathStart, noSlash]
    exact start.trans (pathAfter_cons plain noDots true [] path)
  · contradiction

/-! All but the path. -/

section Site

variable {authorityText : List Char}
  (plain : ∀ c ∈ authorityText, 0x20 < c.toNat ∧ c ∉ "/\\?#".toList)

include plain

theorem no_slash (special : Bool) : ∀ c ∈ authorityText, (!isSlash special c) = true := by
  intro c member
  have other := (plain c member).2
  simp only [String.reduceToList, List.mem_cons, not_or] at other
  simp [isSlash, other.1, other.2.1]

theorem takeWhile_authority (special : Bool) (path : List Char) :
    (authorityText ++ '/' :: path).takeWhile (fun c => !isSlash special c) = authorityText ∧
      (authorityText ++ '/' :: path).dropWhile (fun c => !isSlash special c) = '/' :: path := by
  have inside := no_slash plain special
  have outside : (!isSlash special '/') = false := by simp [isSlash]
  constructor
  · rw [List.takeWhile_append_of_pos inside, List.takeWhile_cons_of_neg (by simp [outside]),
      List.append_nil]
  · rw [List.dropWhile_append_of_pos inside, List.dropWhile_cons_of_neg (by simp [outside])]

theorem authority_site (isWhole : Bool) (scheme : List Char) :
    ∃ site, ∀ path, authority isWhole scheme (authorityText ++ '/' :: path) =
      AtPath site (isSpecial scheme) [] path := by
  have start : ∀ path, pathStart (isSpecial scheme) ('/' :: path) =
      pathAfter (isSpecial scheme) [] path := by
    simp [pathStart, isSlash]
  simp only [authority, takeWhile_authority plain (isSpecial scheme), List.isEmpty_cons,
    Bool.and_false]
  cases named : takeCredentials false authorityText with
  | error e => exact ⟨.error e, fun path => rfl⟩
  | ok taken =>
    obtain ⟨credentials, front⟩ := taken
    have noBackslash : '\\' ∉ (splitPort false front).2.getD [] := by
      intro member
      have inText := takeCredentials_subset named _ (splitPort_subset _ member)
      exact (plain _ inText).2 (by decide)
    by_cases empty : (splitPort false front).1 = []
    · by_cases refused : isSpecial scheme = true ∨ (splitPort false front).2.isSome = true ∨
          credentials.isSome = true
      · refine ⟨.error .emptyHost, fun path => ?_⟩
        simp [bind, Except.bind, empty, refused, AtPath, Except.map]
      · refine ⟨.ok { scheme, host := some (.name []), path := .segments [] }, fun path => ?_⟩
        simp [bind, Except.bind, empty, refused, AtPath, Except.map, start]
    · -- Either way to read the host fails for every path, or gives the same host for every path.
      have readHost : ∀ hosts : List Char → Except UrlError Host,
          ∃ site, ∀ path, (hosts (splitPort false front).1).bind (fun host =>
            (takePort scheme ((splitPort false front).2.getD [])).bind fun numbered =>
              .ok { scheme, credentials, host := some host, portNumber := numbered.1
                    path := pathStart (isSpecial scheme) (numbered.2 ++ '/' :: path) }) =
            AtPath site (isSpecial scheme) [] path := by
        intro hosts
        cases hosts (splitPort false front).1 with
        | error e => exact ⟨.error e, fun path => rfl⟩
        | ok host =>
          cases port : takePort scheme ((splitPort false front).2.getD []) with
          | error e => exact ⟨.error e, fun path => rfl⟩
          | ok numbered =>
            obtain ⟨portNumber, rest⟩ := numbered
            rw [takePort_rest noBackslash port]
            let site : Url :=
              { scheme, credentials, host := some host, portNumber, path := .segments [] }
            refine ⟨.ok site, fun path => ?_⟩
            simp only [Except.bind, List.nil_append, start]
            rfl
      by_cases special : isSpecial scheme = true
      · simpa [bind, Except.bind.eq_2, empty, special] using readHost Host.parse
      · simpa [bind, Except.bind.eq_2, empty, special] using readHost Host.parseOpaque

theorem file_site (filled : authorityText ≠ []) :
    ∃ site directory, ∀ path, file ('/' :: '/' :: (authorityText ++ '/' :: path)) =
      AtPath site true directory path := by
  have slash : isSlash true '/' = true := by decide
  have start : ∀ path, pathStart true ('/' :: path) = pathAfter true [] path := by
    simp [pathStart, isSlash]
  simp only [file, slash, Bool.and_self, if_true, takeWhile_authority plain true]
  by_cases drive : isDriveLetter authorityText = true
  · refine ⟨.ok { scheme := "file".toList, path := .segments [] }, [authorityText], fun path => ?_⟩
    rw [if_pos (by rw [drive, Bool.or_true]), pathStart_drive drive]
    rfl
  · have noDrive : ¬(authorityText.isEmpty || isDriveLetter authorityText) = true := by
      simp [filled, drive]
    cases Host.parse authorityText with
    | error e =>
      refine ⟨.error e, [], fun path => ?_⟩
      rw [if_neg noDrive]
      rfl
    | ok host =>
      refine ⟨.ok { scheme := "file".toList, path := .segments []
                    host := if host = .name "localhost".toList then none else some host }, [],
        fun path => ?_⟩
      rw [if_neg noDrive, start]
      rfl

theorem absolute_site (filled : authorityText ≠ []) (isWhole : Bool) (scheme : List Char) :
    ∃ site directory, (directory ≠ [] → isFile scheme = true) ∧
      ∀ path, absolute isWhole scheme ('/' :: '/' :: (authorityText ++ '/' :: path)) =
        AtPath site (isSpecial scheme) directory path := by
  by_cases file : isFile scheme = true
  · have special : isSpecial scheme = true := by simp [isSpecial, file]
    obtain ⟨site, directory, found⟩ := file_site plain filled
    refine ⟨site, directory, fun _ => file, fun path => ?_⟩
    rw [special, ← found]
    unfold absolute
    rw [if_pos file]
  · obtain ⟨site, found⟩ := authority_site plain isWhole scheme
    refine ⟨site, [], fun none => absurd rfl none, fun path => ?_⟩
    rw [← found]
    unfold absolute
    rw [if_neg file]
    by_cases special : isSpecial scheme = true
    · obtain ⟨first, others, rfl⟩ := List.exists_cons_of_ne_nil filled
      have noSlash := no_slash plain true first List.mem_cons_self
      rw [if_pos special]
      have skipped : ('/' :: '/' :: (first :: others ++ '/' :: path)).dropWhile (isSlash true) =
          first :: others ++ '/' :: path := by
        have slash : isSlash true '/' = true := by decide
        rw [Bool.not_eq_true'] at noSlash
        rw [List.dropWhile_cons_of_pos slash, List.dropWhile_cons_of_pos slash, List.cons_append,
          List.dropWhile_cons_of_neg (by simp [noSlash])]
      rw [skipped]
    · rw [if_neg special]
      rfl

end Site

theorem isSchemeChar_ascii {c : Char} (inScheme : isSchemeChar c = true) : c.toNat < 128 := by
  simp only [isSchemeChar, Bool.or_eq_true, beq_iff_eq] at inScheme
  rcases inScheme with ((letter | rfl) | rfl) | rfl
  · exact Form.isPlain_ascii (by simp [Form.isPlain, letter])
  all_goals decide

theorem isSchemeChar_visible : ∀ c : Char, isSchemeChar c = true →
    0x20 < c.toNat ∧ c ≠ '#' ∧ c ≠ '?' ∧ c ≠ ':' := by
  intro c inScheme
  exact forall_ascii (P := fun c => isSchemeChar c = true →
    0x20 < c.toNat ∧ c ≠ '#' ∧ c ≠ '?' ∧ c ≠ ':') (by decide) c (isSchemeChar_ascii inScheme)
      inScheme

theorem takeScheme?_site {scheme : List Char} (inScheme : ∀ c ∈ scheme, isSchemeChar c = true)
    (behind : List Char) :
    takeScheme? (scheme ++ ':' :: behind) =
      if (scheme.head?.map Char.isAlpha).getD false then some (scheme.map Char.toLower, behind)
      else none := by
  have outside : isSchemeChar ':' = false := by decide
  have name : (scheme ++ ':' :: behind).takeWhile isSchemeChar = scheme := by
    rw [List.takeWhile_append_of_pos inScheme, List.takeWhile_cons_of_neg (by simp [outside]),
      List.append_nil]
  have rest : (scheme ++ ':' :: behind).dropWhile isSchemeChar = ':' :: behind := by
    rw [List.dropWhile_append_of_pos inScheme, List.dropWhile_cons_of_neg (by simp [outside])]
  rw [takeScheme?, name, rest]
  cases scheme <;> rfl

section Text

variable {scheme authorityText path : List Char}
  (inScheme : ∀ c ∈ scheme, isSchemeChar c = true)
  (plain : ∀ c ∈ authorityText, 0x20 < c.toNat ∧ c ∉ "/\\?#".toList)
  (isPath : IsPath ('/' :: path))

include inScheme plain isPath

theorem site_visible : ∀ c ∈ scheme ++ "://".toList ++ authorityText ++ '/' :: path,
    0x20 < c.toNat ∧ c ≠ '#' ∧ c ≠ '?' := by
  intro c member
  have mark : ∀ c ∈ "://".toList, 0x20 < c.toNat ∧ c ≠ '#' ∧ c ≠ '?' :=
    forall_of_all (by decide)
  obtain ⟨_, same, inPath⟩ := isPath
  cases same
  simp only [List.mem_append, List.mem_cons] at member
  rcases member with ((member | member) | member) | rfl | member
  · have facts := isSchemeChar_visible c (inScheme c member)
    exact ⟨facts.1, facts.2.1, facts.2.2.1⟩
  · exact mark c member
  · obtain ⟨above, other⟩ := plain c member
    simp only [String.reduceToList, List.mem_cons, not_or] at other
    exact ⟨above, other.2.2.2.1, other.2.2.1⟩
  · decide
  · have facts := inPath c member
    exact ⟨facts.1, facts.2.2, facts.2.1⟩

theorem parse_scheme_authority :
    parse none (scheme ++ "://".toList ++ authorityText ++ '/' :: path) =
      if (scheme.head?.map Char.isAlpha).getD false then
        (absolute true (scheme.map Char.toLower)
          ('/' :: '/' :: (authorityText ++ '/' :: path))).map fun u =>
            { u with query := none, fragment := none }
      else .error .relativeWithoutBase := by
  have visible := site_visible inScheme plain isPath
  have noHash : '#' ∉ scheme ++ "://".toList ++ authorityText ++ '/' :: path :=
    fun member => (visible _ member).2.1 rfl
  have noMark : '?' ∉ scheme ++ "://".toList ++ authorityText ++ '/' :: path :=
    fun member => (visible _ member).2.2 rfl
  have cleaned := clean_visible fun c member => (visible c member).1
  rw [parse_none ((congrArg _ cleaned).trans (cut_of_not_mem noHash)) (cut_of_not_mem noMark)]
  have text : scheme ++ "://".toList ++ authorityText ++ '/' :: path =
      scheme ++ ':' :: '/' :: '/' :: (authorityText ++ '/' :: path) := by simp
  rw [text, takeScheme?_site inScheme]
  cases (scheme.head?.map Char.isAlpha).getD false <;> rfl

end Text

/-- What an address of a site has besides its path is the same for every path. Only the address of
a file may have a directory in front of the path. -/
theorem parse_site {base : List Char} (isSite : IsSite base) :
    ∃ site special directory,
      (∀ u, site = .ok u → u.query = none ∧ u.fragment = none ∧
        (u.isWeb = true → directory = [])) ∧
      ∀ path, IsPath ('/' :: path) →
        parse none (base ++ '/' :: path) = AtPath site special directory path := by
  obtain ⟨scheme, authorityText, rfl, inScheme, filled, plain⟩ := isSite
  obtain ⟨site, directory, isFile, found⟩ :=
    absolute_site plain filled true (scheme.map Char.toLower)
  by_cases begun : (scheme.head?.map Char.isAlpha).getD false = true
  · refine ⟨site.map fun u => { u with query := none, fragment := none },
      isSpecial (scheme.map Char.toLower), directory, ?_, fun path isPath => ?_⟩
    · intro u same
      cases site with
      | error e => cases same
      | ok v =>
        cases same
        -- A directory comes from a drive, and only a file has one, which is not on the web.
        refine ⟨rfl, rfl, fun web => Classical.byContradiction fun some => ?_⟩
        have named : ({ v with path := pathAfter _ directory [] } : Url).scheme =
            scheme.map Char.toLower := absolute_scheme (found [])
        have noFile := (isWeb_scheme web).2
        dsimp only at noFile named
        rw [named, isFile some] at noFile
        cases noFile
    · rw [parse_scheme_authority inScheme plain isPath, if_pos begun, found]
      cases site <;> rfl
  · refine ⟨.error .relativeWithoutBase, true, [], ?_, fun path isPath => ?_⟩
    · exact fun u same => nomatch same
    · rw [parse_scheme_authority inScheme plain isPath, if_neg begun]
      rfl

/-! Names behind a site. -/

def namesPath (names : List String) : List Char := pathText (.segments (names.map segmentOf))

theorem namesPath_isPath (first : String) (names : List String) :
    IsPath (namesPath (first :: names)) := by
  have visible : ∀ c ∈ segmentOf first ++ (names.map segmentOf).flatMap ('/' :: ·),
      0x20 < c.toNat ∧ c ≠ '?' ∧ c ≠ '#' := by
    intro c member
    rcases List.mem_append.mp member with inFirst | behind
    · exact pathSegment_plain first c inFirst
    · obtain ⟨s, inSegments, inside⟩ := List.mem_flatMap.mp behind
      obtain ⟨name, _, rfl⟩ := List.mem_map.mp inSegments
      rcases List.mem_cons.mp inside with rfl | inSegment
      · decide
      · exact pathSegment_plain name c inSegment
  exact ⟨_, by simp [namesPath, pathText], visible⟩

theorem IsSite.read_names {base : List Char} (isSite : IsSite base) :
    ∃ (site : Except UrlError Url) (directory : List (List Char)),
      (∀ u, site = .ok u → u.query = none ∧ u.fragment = none ∧
        (u.isWeb = true → directory = [])) ∧
      ∀ first names, parse none (base ++ namesPath (first :: names)) = site.map fun u =>
        { u with path := .segments (follow directory ((first :: names).map segmentOf)) } := by
  obtain ⟨site, special, directory, facts, found⟩ := parse_site isSite
  refine ⟨site, directory, facts, fun first names => ?_⟩
  have isPath := namesPath_isPath first names
  have text : namesPath (first :: names) =
      '/' :: (segmentOf first ++ (names.map segmentOf).flatMap ('/' :: ·)) := by
    simp [namesPath, pathText]
  have plain : ∀ s ∈ segmentOf first :: names.map segmentOf, ∀ c ∈ s, IsSegmentChar c := by
    intro s member
    obtain ⟨name, _, rfl⟩ := List.mem_map.mp ((List.map_cons (f := segmentOf)).symm ▸ member)
    exact pathSegment_segmentChar name
  rw [text] at isPath ⊢
  rw [found _ isPath, AtPath, pathAfter_joined plain]
  rfl

/-- The segments of a web address behind a site are those names, with the dots followed. -/
theorem IsSite.segments_of_names {base : List Char} (isSite : IsSite base) {first : String}
    {names : List String} {u : Url}
    (read : parse none (base ++ namesPath (first :: names)) = .ok u) (web : u.isWeb = true) :
    u.query = none ∧ u.path = .segments (follow [] ((first :: names).map segmentOf)) := by
  obtain ⟨site, directory, facts, found⟩ := isSite.read_names
  rw [found] at read
  cases site with
  | error e => contradiction
  | ok v =>
    cases read
    obtain ⟨noQuery, _, noDirectory⟩ := facts v rfl
    rw [noDirectory web]
    exact ⟨noQuery, rfl⟩

theorem flatMap_segments_inj {segments others : List (List Char)}
    (noSlash : ∀ s ∈ segments, '/' ∉ s) (noSlash' : ∀ s ∈ others, '/' ∉ s)
    (same : segments.flatMap ('/' :: ·) = others.flatMap ('/' :: ·)) : segments = others := by
  have split := splitAt_joined List.not_mem_nil noSlash
  have split' := splitAt_joined List.not_mem_nil noSlash'
  rw [List.nil_append] at split split'
  rw [same, split'] at split
  exact (List.cons.inj split).2.symm

def NoDots (names : List String) : Prop := ∀ name ∈ names, name ≠ "." ∧ name ≠ ".."

theorem NoDots.follow {names : List String} (noDots : NoDots names)
    (directory : List (List Char)) :
    follow directory (names.map segmentOf) = directory ++ names.map segmentOf := by
  refine follow_plain (fun s member => ?_) directory
  obtain ⟨name, inNames, rfl⟩ := List.mem_map.mp member
  have other := noDots name inNames
  rw [← Bool.not_eq_true, isDots_segmentOf]
  exact fun same => same.elim other.1 other.2

theorem target_path (u : Url) (p q : Path) :
    ({ u with path := p } : Url).target = ({ u with path := q } : Url).target ↔
      pathText p = pathText q := by
  simp [target]

theorem text_path (u : Url) (p q : Path) :
    ({ u with path := p } : Url).text = ({ u with path := q } : Url).text ↔
      pathText p = pathText q := by
  simp [text, target]

theorem noSlash_names (names : List String) : ∀ s ∈ names.map segmentOf, '/' ∉ s := by
  intro s member
  obtain ⟨name, _, rfl⟩ := List.mem_map.mp member
  exact slash_not_mem (pathSegment_segmentChar name)

/-- Web addresses of one text behind a site have the same segments, once the dots are followed. -/
theorem IsSite.follow_inj {base : List Char} (isSite : IsSite base) {first first' : String}
    {names names' : List String} {u u' : Url}
    (read : parse none (base ++ namesPath (first :: names)) = .ok u)
    (read' : parse none (base ++ namesPath (first' :: names')) = .ok u') (web : u.isWeb = true)
    (same : u.text = u'.text) :
    follow [] ((first :: names).map segmentOf) = follow [] ((first' :: names').map segmentOf) := by
  have noSlash : ∀ ns : List String, ∀ s ∈ follow [] (ns.map segmentOf), '/' ∉ s := by
    intro ns s member
    rcases mem_follow member with old | ⟨inNames, _⟩ | rfl
    · cases old
    · exact noSlash_names ns s inNames
    · exact List.not_mem_nil
  obtain ⟨site, directory, facts, found⟩ := isSite.read_names
  rw [found] at read read'
  cases site with
  | error e => contradiction
  | ok v =>
    cases read
    cases read'
    rw [(facts v rfl).2.2 web, text_path] at same
    exact flatMap_segments_inj (noSlash _) (noSlash _) same

/-- Behind a site, other names without dots make another target and another text. -/
theorem IsSite.names_inj {base : List Char} (isSite : IsSite base) {first first' : String}
    {names names' : List String} {u u' : Url} (noDots : NoDots (first :: names))
    (noDots' : NoDots (first' :: names'))
    (read : parse none (base ++ namesPath (first :: names)) = .ok u)
    (read' : parse none (base ++ namesPath (first' :: names')) = .ok u')
    (same : u.target = u'.target ∨ u.text = u'.text) : first :: names = first' :: names' := by
  obtain ⟨site, directory, _, found⟩ := isSite.read_names
  rw [found] at read read'
  cases site with
  | error e => contradiction
  | ok v =>
    cases read
    cases read'
    rw [target_path, text_path, or_self, noDots.follow, noDots'.follow] at same
    simp only [pathText, List.flatMap_append, List.append_cancel_left_eq] at same
    have segments := flatMap_segments_inj (noSlash_names _) (noSlash_names _) same
    exact (List.map_inj_right fun _ _ => segmentOf_inj).mp segments

/-! The text of an address begins with its scheme, and that says whether it is of the web. -/

theorem takeScheme?_colon {cs scheme rest : List Char}
    (taken : takeScheme? cs = some (scheme, rest)) : ':' ∉ scheme := by
  have lowered : ∀ c : Char, isSchemeChar c = true → c.toLower ≠ ':' := fun c inScheme =>
    forall_ascii (P := fun c => isSchemeChar c = true → c.toLower ≠ ':') (by decide) c
      (isSchemeChar_ascii inScheme) inScheme
  unfold takeScheme? at taken
  dsimp only at taken
  split at taken
  · split at taken
    · cases taken
      intro member
      obtain ⟨c, inName, same⟩ := List.mem_map.mp member
      exact lowered c (List.all_eq_true.mp List.all_takeWhile c inName) same
    · cases taken
  · cases taken

theorem parse_scheme {text : List Char} {u : Url} (read : parse none text = .ok u) :
    ':' ∉ u.scheme := by
  obtain ⟨scheme, rest, v, taken, found, rfl⟩ := parse_none_ok rfl rfl read
  dsimp only
  rw [absolute_scheme found]
  exact takeScheme?_colon taken

theorem authority_host {isWhole : Bool} {scheme cs : List Char} {u : Url}
    (read : authority isWhole scheme cs = .ok u) : u.host.isSome = true := by
  obtain ⟨named, _, read⟩ := bind_ok read
  dsimp only at read
  split at read
  · split at read
    · contradiction
    · cases read
      rfl
  · split at read
    all_goals
      obtain ⟨host, _, read⟩ := bind_ok read
      obtain ⟨port, _, read⟩ := bind_ok read
      cases read
      rfl

theorem parse_host {text : List Char} {u : Url} (read : parse none text = .ok u)
    (special : isSpecial u.scheme = true) (noFile : isFile u.scheme = false) :
    u.host.isSome = true := by
  obtain ⟨scheme, rest, v, _, found, rfl⟩ := parse_none_ok rfl rfl read
  dsimp only at special noFile ⊢
  rw [absolute_scheme found] at special noFile
  simp only [absolute, special, noFile, if_true] at found
  exact authority_host found

/-- An address that reads like one of the web is one of the web. -/
theorem isWeb_of_text {text text' : List Char} {u u' : Url} (read : parse none text = .ok u)
    (read' : parse none text' = .ok u') (same : u.text = u'.text) (web : u.isWeb = true) :
    u'.isWeb = true := by
  have scheme : u.scheme = u'.scheme := by
    have begun := congrArg (cut ':') same
    rw [Url.text, Url.text, cut_at (parse_scheme read), cut_at (parse_scheme read')] at begun
    exact congrArg Prod.fst begun
  obtain ⟨special, noFile⟩ := isWeb_scheme web
  rw [scheme] at special noFile
  have host := parse_host read' special noFile
  simp only [isWeb, Bool.and_eq_true] at web ⊢
  rw [← scheme]
  exact ⟨web.1, host⟩

end AccessCatalog.Web.Url
