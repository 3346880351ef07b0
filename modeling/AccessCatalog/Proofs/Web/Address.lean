import AccessCatalog.Proofs.Web.Query

/-! Paths behind an address. Where the root of a site is a web address without a query, every path
put in its place is one too, whatever the segments of the path were made of. -/
namespace AccessCatalog.Web

/-- A path as text: a slash, then visible characters that begin neither a query nor a fragment. -/
def IsPath (cs : List Char) : Prop :=
  ∃ rest, cs = '/' :: rest ∧ ∀ c ∈ rest, 0x20 < c.toNat ∧ c ≠ '?' ∧ c ≠ '#'

theorem IsPath.root : IsPath ['/'] := ⟨[], rfl, by simp⟩

theorem IsPath.append {cs behind : List Char} (path : IsPath cs)
    (visible : ∀ c ∈ behind, 0x20 < c.toNat ∧ c ≠ '?' ∧ c ≠ '#') : IsPath (cs ++ behind) := by
  obtain ⟨rest, rfl, plain⟩ := path
  refine ⟨rest ++ behind, rfl, fun c member => ?_⟩
  rcases List.mem_append.mp member with inRest | inBehind
  · exact plain c inRest
  · exact visible c inBehind

theorem IsPath.not_mem {path : List Char} (isPath : IsPath path) : '#' ∉ path ∧ '?' ∉ path := by
  obtain ⟨rest, rfl, plain⟩ := isPath
  constructor
  · intro member
    rcases List.mem_cons.mp member with same | member
    · exact absurd same (by decide)
    · exact (plain '#' member).2.2 rfl
  · intro member
    rcases List.mem_cons.mp member with same | member
    · exact absurd same (by decide)
    · exact (plain '?' member).2.1 rfl

/-- A character that a path takes as it is, and that is no slash of either kind. -/
def IsSegmentChar (c : Char) : Prop :=
  c.toNat < 128 ∧ Url.inPath c = true ∧ c ≠ '/' ∧ c ≠ '\\'

theorem IsSegmentChar.visible {c : Char} (plain : IsSegmentChar c) :
    0x20 < c.toNat ∧ c ≠ '?' ∧ c ≠ '#' :=
  forall_ascii (P := fun c => Url.inPath c = true → 0x20 < c.toNat ∧ c ≠ '?' ∧ c ≠ '#')
    (by decide) c plain.1 plain.2.1

theorem pathSegment_segmentChar (s : String) : ∀ c ∈ (pathSegment s).toList, IsSegmentChar c := by
  have ofClass : ∀ c : Char, c.toNat < 128 →
      isUnreserved c = true ∨ c = '%' ∨ Form.isPlain c = true →
        Url.inPath c = true ∧ c ≠ '/' ∧ c ≠ '\\' := forall_ascii (by decide)
  intro c member
  simp only [pathSegment, String.toList_ofList, percentEncode] at member
  obtain ⟨d, _, inChar⟩ := List.mem_flatMap.mp member
  rcases percentChar_written inChar with ⟨ascii, kept⟩ | percent | plain
  · exact ⟨ascii, ofClass c ascii (.inl kept)⟩
  · exact ⟨percent ▸ by decide, ofClass c (percent ▸ by decide) (.inr (.inl percent))⟩
  · have ascii := Form.isPlain_ascii plain
    exact ⟨ascii, ofClass c ascii (.inr (.inr plain))⟩

theorem pathSegment_plain (s : String) :
    ∀ c ∈ (pathSegment s).toList, 0x20 < c.toNat ∧ c ≠ '?' ∧ c ≠ '#' := fun c member =>
  (pathSegment_segmentChar s c member).visible

section Stop

variable {α : Type} {p : α → Bool} {stop : α}

/-! A character outside the class ends what is taken, whatever stands behind it. -/

theorem takeWhile_stop (outside : p stop = false) (xs ys : List α) :
    (xs ++ stop :: ys).takeWhile p = xs.takeWhile p := by
  induction xs with
  | nil => simp [outside]
  | cons x xs ih =>
    cases inside : p x with
    | true => simp [inside, ih]
    | false => simp [inside]

theorem dropWhile_stop (outside : p stop = false) (xs ys : List α) :
    (xs ++ stop :: ys).dropWhile p = xs.dropWhile p ++ stop :: ys := by
  induction xs with
  | nil => simp [outside]
  | cons x xs ih =>
    cases inside : p x with
    | true => simp [inside, ih]
    | false => simp [inside]

theorem takeWhile_all {xs : List α} (all : ∀ x ∈ xs, p x = true) : xs.takeWhile p = xs := by
  rw [← List.append_nil xs, List.takeWhile_append_of_pos (by simpa using all), List.takeWhile_nil]

theorem dropWhile_all {xs : List α} (all : ∀ x ∈ xs, p x = true) : xs.dropWhile p = [] := by
  rw [← List.append_nil xs, List.dropWhile_append_of_pos all, List.dropWhile_nil]

end Stop

/-! The last place of a mark. -/

section Last

variable {α : Type} {mark : α}

theorem take_front (front back : List α) :
    (front ++ mark :: back).take ((front ++ mark :: back).length - back.length) =
      front ++ [mark] := by
  rw [List.append_cons, List.length_append, Nat.add_sub_cancel, List.take_left]

/-- A text with a mark in it is cut at the last one. -/
theorem exists_last {xs : List α} (member : mark ∈ xs) :
    ∃ front back, xs = front ++ mark :: back ∧ mark ∉ back := by
  obtain ⟨back, front, same, absent⟩ :=
    List.eq_append_cons_of_mem (List.mem_reverse.mpr member)
  refine ⟨front.reverse, back.reverse, ?_, fun inBack => absent (List.mem_reverse.mp inBack)⟩
  rw [← List.reverse_reverse xs, same]
  simp

variable [BEq α] [LawfulBEq α]

theorem takeLast_of_not_mem {xs : List α} (absent : mark ∉ xs) :
    (xs.reverse.takeWhile (· != mark)).reverse = xs := by
  rw [takeWhile_all (Form.all_other fun member => absent (List.mem_reverse.mp member)),
    List.reverse_reverse]

theorem takeLast_at {back : List α} (absent : mark ∉ back) (front : List α) :
    ((front ++ mark :: back).reverse.takeWhile (· != mark)).reverse = back := by
  rw [List.reverse_append, List.reverse_cons, List.append_assoc, List.singleton_append,
    Form.takeWhile_other fun member => absent (List.mem_reverse.mp member), List.reverse_reverse]

end Last

namespace Url

theorem ok_of_toOption {x : Except UrlError Url} {u : Url} (read : x.toOption = some u) :
    x = .ok u := by
  cases x with
  | error e => cases read
  | ok v => exact congrArg Except.ok (Option.some.inj read)

/-! Cutting, where the mark is and where it is not. -/

section Cut

variable {mark : Char} {front : List Char}

theorem cut_of_not_mem (absent : mark ∉ front) : cut mark front = (front, none) := by
  simp [cut, dropWhile_all (Form.all_other absent)]

theorem cut_at (absent : mark ∉ front) (rest : List Char) :
    cut mark (front ++ mark :: rest) = (front, some rest) := by
  simp only [cut, Form.takeWhile_other absent, Form.dropWhile_other absent]

theorem cut_front (absent : mark ∉ front) (rest : List Char) :
    cut mark (front ++ rest) = (front ++ (cut mark rest).1, (cut mark rest).2) := by
  have inside := Form.all_other absent
  rw [cut, cut, List.dropWhile_append_of_pos inside, List.takeWhile_append_of_pos inside]
  cases rest.dropWhile (· != mark) <;> rfl

end Cut

/-! Cleaning. A visible character keeps what is in front of it from what is behind it. -/

section Visible

variable {cs : List Char} (visible : ∀ c ∈ cs, 0x20 < c.toNat)

include visible

theorem dropWhile_visible : cs.dropWhile (fun c => decide (c.toNat ≤ 0x20)) = cs := by
  cases cs with
  | nil => rfl
  | cons c rest =>
    have first := visible c List.mem_cons_self
    exact List.dropWhile_cons_of_neg (by simpa using first)

theorem filter_visible : cs.filter (fun c => c != '\t' && c != '\n' && c != '\r') = cs := by
  refine List.filter_eq_self.mpr fun c member => ?_
  have above := visible c member
  have other : ∀ d : Char, d.toNat ≤ 0x20 → c ≠ d := by
    intro d blank same
    subst same
    omega
  simp [other '\t' (by decide), other '\n' (by decide), other '\r' (by decide)]

theorem reverse_visible : ∀ c ∈ cs.reverse, 0x20 < c.toNat := fun c member =>
  visible c (List.mem_reverse.mp member)

theorem clean_visible : clean cs = cs := by
  simp only [clean, dropWhile_visible visible, dropWhile_visible (reverse_visible visible),
    List.reverse_reverse, filter_visible visible]

end Visible

/-- What is cleaned of a text in front of a visible character. -/
def cleanBase (base : List Char) : List Char :=
  (base.dropWhile fun c => decide (c.toNat ≤ 0x20)).filter
    fun c => c != '\t' && c != '\n' && c != '\r'

/-- What is cleaned of a text behind a visible character. -/
def cleanEnd (back : List Char) : List Char :=
  (back.reverse.dropWhile fun c => decide (c.toNat ≤ 0x20)).reverse.filter
    fun c => c != '\t' && c != '\n' && c != '\r'

theorem cleanBase_subset {base : List Char} : ∀ c ∈ cleanBase base, c ∈ base := by
  intro c member
  exact (List.dropWhile_sublist _).subset (List.mem_filter.mp member).1

theorem cleanEnd_subset {back : List Char} : ∀ c ∈ cleanEnd back, c ∈ back := by
  intro c member
  have kept := List.mem_reverse.mp (List.mem_filter.mp member).1
  exact List.mem_reverse.mp ((List.dropWhile_sublist _).subset kept)

theorem not_mem_cleaned {base back : List Char} {mark : Char} (noSlash : mark ≠ '/')
    (inBase : mark ∉ cleanBase base) (inBack : mark ∉ back) :
    mark ∉ cleanBase base ++ '/' :: cleanEnd back := by
  intro member
  rcases List.mem_append.mp member with front | path
  · exact inBase front
  · rcases List.mem_cons.mp path with slash | behind
    · exact noSlash slash
    · exact inBack (cleanEnd_subset mark behind)

theorem clean_subset {cs : List Char} : ∀ c ∈ clean cs, c ∈ cs := by
  intro c member
  have inner := List.mem_reverse.mp (List.mem_filter.mp member).1
  have outer := List.mem_reverse.mp ((List.dropWhile_sublist _).subset inner)
  exact (List.dropWhile_sublist _).subset outer

theorem cleanEnd_visible {back : List Char} (visible : ∀ c ∈ back, 0x20 < c.toNat) :
    cleanEnd back = back := by
  rw [cleanEnd, dropWhile_visible (reverse_visible visible), List.reverse_reverse,
    filter_visible visible]

theorem clean_at (base back : List Char) {c : Char} (visible : 0x20 < c.toNat) :
    clean (base ++ c :: back) = cleanBase base ++ c :: cleanEnd back := by
  have outside : decide (c.toNat ≤ 0x20) = false := by simpa using visible
  have stopped := dropWhile_stop (p := fun c : Char => decide (c.toNat ≤ 0x20)) outside
  have kept : ∀ ys : List Char, (c :: ys).filter (fun c => c != '\t' && c != '\n' && c != '\r') =
      c :: ys.filter (fun c => c != '\t' && c != '\n' && c != '\r') := by
    intro ys
    rw [← List.singleton_append, List.filter_append, filter_visible (by simpa using visible),
      List.singleton_append]
  have ends : ∀ xs : List Char,
      ((xs ++ c :: back).reverse.dropWhile fun c => decide (c.toNat ≤ 0x20)).reverse =
        xs ++ [c] ++ (back.reverse.dropWhile fun c => decide (c.toNat ≤ 0x20)).reverse := by
    intro xs
    rw [List.reverse_append, List.reverse_cons, List.append_assoc, List.singleton_append, stopped]
    simp
  simp only [clean, stopped, ends, List.filter_append, kept, cleanBase, cleanEnd,
    List.append_assoc, List.singleton_append]

theorem clean_append (base : List Char) {path : List Char} (isPath : IsPath path) :
    clean (base ++ path) = cleanBase base ++ path := by
  obtain ⟨rest, rfl, plain⟩ := isPath
  rw [clean_at base rest (by decide), cleanEnd_visible fun c member => (plain c member).1]

/-- What is cleaned of an address does not depend on the path behind it. -/
theorem clean_path (base : List Char) :
    ∃ front, ∀ path, IsPath path → clean (base ++ path) = front ++ path :=
  ⟨cleanBase base, fun _ isPath => clean_append base isPath⟩

/-! A slash ends the scheme and the authority, and leaves what is behind it to the path. -/

theorem takeScheme?_slash (front rest : List Char) :
    takeScheme? (front ++ '/' :: rest) =
      (takeScheme? front).map fun read => (read.1, read.2 ++ '/' :: rest) := by
  have outside : isSchemeChar '/' = false := by decide
  unfold takeScheme?
  rw [takeWhile_stop outside, dropWhile_stop outside]
  cases name : front.takeWhile isSchemeChar with
  | nil => simp
  | cons c cs =>
    cases behind : front.dropWhile isSchemeChar with
    | nil => simp
    | cons d ds =>
      by_cases colon : d = ':'
      · subst colon
        by_cases letter : c.isAlpha = true <;> simp [letter]
      · simp [colon]

theorem authority_nil (isWhole : Bool) {scheme : List Char} (special : isSpecial scheme = true) :
    authority isWhole scheme [] = .error .emptyHost := by
  simp [authority, special, takeCredentials, splitPort, bind, Except.bind]

theorem authority_slash {isWhole : Bool} {scheme front rest : List Char} {u : Url}
    (special : isSpecial scheme = true)
    (read : authority isWhole scheme (front ++ '/' :: rest) = .ok u) :
    ∃ between, ∀ other, authority isWhole scheme (front ++ '/' :: other) =
      .ok { u with path := pathStart true (between ++ '/' :: other) } := by
  have outside : (!isSlash true '/') = false := by decide
  have before := takeWhile_stop (p := fun c => !isSlash true c) outside front
  have behind := dropWhile_stop (p := fun c => !isSlash true c) outside front
  have inside : ∀ ys : List Char,
      (isWhole && (front.dropWhile (fun c => !isSlash true c) ++ '/' :: ys).isEmpty) = false := by
    simp
  unfold authority at read ⊢
  simp only [special, before, behind, inside] at read ⊢
  cases named : takeCredentials false (front.takeWhile fun c => !isSlash true c) with
  | error e => simp [named, bind, Except.bind] at read
  | ok taken =>
    by_cases empty : (splitPort false taken.2).1.isEmpty = true
    · simp [named, bind, Except.bind, empty] at read
    · cases host : Host.parse (splitPort false taken.2).1 with
      | error e => simp [named, bind, Except.bind, empty, host] at read
      | ok host' =>
        cases port : takePort scheme ((splitPort false taken.2).2.getD []) with
        | error e => simp [named, bind, Except.bind, empty, host, port] at read
        | ok numbered =>
          simp only [named, bind, Except.bind, empty, host, port, if_true] at read ⊢
          cases read
          refine ⟨numbered.2 ++ front.dropWhile (fun c => !isSlash true c), fun other => ?_⟩
          rw [List.append_assoc]
          rfl

theorem bind_ok {α β : Type} {x : Except UrlError α} {f : α → Except UrlError β} {b : β}
    (h : (x >>= f) = .ok b) : ∃ a, x = .ok a ∧ f a = .ok b := by
  cases x with
  | error e => contradiction
  | ok a => exact ⟨a, rfl, h⟩

theorem authority_scheme {isWhole : Bool} {scheme cs : List Char} {u : Url}
    (read : authority isWhole scheme cs = .ok u) : u.scheme = scheme := by
  obtain ⟨named, _, read⟩ := bind_ok read
  dsimp only at read
  split at read
  · split at read
    · contradiction
    · cases read
      rfl
  · split at read
    all_goals
      obtain ⟨host, _, read⟩ := bind_ok read
      obtain ⟨port, _, read⟩ := bind_ok read
      cases read
      rfl

theorem file_scheme {cs : List Char} {u : Url} (read : file cs = .ok u) :
    u.scheme = "file".toList := by
  unfold file at read
  dsimp only at read
  split at read
  · split at read
    · split at read
      · cases read
        rfl
      · obtain ⟨host, _, read⟩ := bind_ok read
        cases read
        rfl
    · cases read
      rfl
  · cases read
    rfl

theorem absolute_scheme {isWhole : Bool} {scheme cs : List Char} {u : Url}
    (read : absolute isWhole scheme cs = .ok u) : u.scheme = scheme := by
  unfold absolute at read
  split at read
  · rename_i isFile
    exact (file_scheme read).trans (eq_of_beq isFile).symm
  · split at read
    · exact authority_scheme read
    · split at read
      · exact authority_scheme read
      · cases read
        rfl
      · cases read
        rfl

theorem isWeb_scheme {u : Url} (web : u.isWeb = true) :
    isSpecial u.scheme = true ∧ isFile u.scheme = false := by
  simp only [isWeb, Bool.and_eq_true, Bool.or_eq_true, beq_iff_eq] at web
  rcases web.1 with http | https
  · rw [http]
    decide
  · rw [https]
    decide

theorem absolute_slash {isWhole : Bool} {scheme front : List Char} {root : Url}
    (read : absolute isWhole scheme (front ++ ['/']) = .ok root) (web : root.isWeb = true) :
    ∃ between, ∀ other, absolute isWhole scheme (front ++ '/' :: other) =
      .ok { root with path := pathStart true (between ++ '/' :: other) } := by
  obtain ⟨special, noFile⟩ := isWeb_scheme web
  rw [absolute_scheme read] at special noFile
  simp only [absolute, special, noFile, if_true] at read ⊢
  cases behind : front.dropWhile (isSlash true) with
  | nil =>
    rw [List.dropWhile_append, behind] at read
    exact absurd ((authority_nil isWhole special).symm.trans read) (by simp)
  | cons c cs =>
    rw [List.dropWhile_append, behind] at read
    obtain ⟨between, found⟩ := authority_slash special read
    refine ⟨between, fun other => ?_⟩
    rw [List.dropWhile_append, behind]
    exact found other

theorem parse_none {text address front : List Char} {query fragment : Option (List Char)}
    (address_eq : cut '#' (clean text) = (address, fragment))
    (front_eq : cut '?' address = (front, query)) :
    parse none text = match takeScheme? front with
      | none => .error .relativeWithoutBase
      | some (scheme, rest) =>
        (absolute (query.isNone && fragment.isNone) scheme rest).map fun u =>
          { u with
            query := query.map
              (percentEncode (if isSpecial scheme then inSpecialQuery else inQuery))
            fragment := fragment.map (percentEncode inFragment) } := by
  unfold parse
  simp only [address_eq, front_eq]
  cases takeScheme? front with
  | none => rfl
  | some read =>
    obtain ⟨scheme, rest⟩ := read
    dsimp only
    cases absolute (query.isNone && fragment.isNone) scheme rest <;> rfl

theorem parse_none_ok {text address front : List Char} {query fragment : Option (List Char)}
    {u : Url} (address_eq : cut '#' (clean text) = (address, fragment))
    (front_eq : cut '?' address = (front, query)) (read : parse none text = .ok u) :
    ∃ scheme rest v, takeScheme? front = some (scheme, rest) ∧
      absolute (query.isNone && fragment.isNone) scheme rest = .ok v ∧
      u = { v with
        query := query.map (percentEncode (if isSpecial scheme then inSpecialQuery else inQuery))
        fragment := fragment.map (percentEncode inFragment) } := by
  rw [parse_none address_eq front_eq] at read
  split at read
  · contradiction
  · rename_i scheme rest taken
    cases found : absolute (query.isNone && fragment.isNone) scheme rest with
    | error e =>
      rw [found] at read
      contradiction
    | ok v =>
      rw [found] at read
      exact ⟨scheme, rest, v, taken, found, (Except.ok.inj read).symm⟩

section Root

variable {base : List Char} {root : Url} (read : parse none (base ++ ['/']) = .ok root)
  (web : root.isWeb = true) (noQuery : root.query = none)

include read

/-- Whatever is cleaned of a base that takes the path into its fragment has a number sign. -/
theorem fragment_front {front : List Char}
    (cleaned : ∀ path, IsPath path → clean (base ++ path) = front ++ path) (hash : '#' ∈ front) :
    root.fragment ≠ none := by
  obtain ⟨address, rest, rfl, absent⟩ := List.eq_append_cons_of_mem hash
  have inFragment : cut '#' (clean (base ++ ['/'])) = (address, some (rest ++ ['/'])) := by
    rw [cleaned _ IsPath.root, List.append_assoc, List.cons_append]
    exact cut_at absent _
  obtain ⟨_, _, _, _, _, rfl⟩ := parse_none_ok inFragment rfl read
  simp

include web noQuery

/-- Behind a root without a fragment an address differs from it in the path alone. -/
theorem parse_behind_cleaned (noFragment : root.fragment = none) :
    ∃ between, ∀ rest : List Char, '?' ∉ rest → '#' ∉ rest → parse none (base ++ '/' :: rest) =
      .ok { root with path := pathStart true (between ++ '/' :: cleanEnd rest) } := by
  have noHash : '#' ∉ cleanBase base := fun hash =>
    fragment_front read (fun _ isPath => clean_append base isPath) hash noFragment
  have cleaned : ∀ rest : List Char, '#' ∉ rest →
      cut '#' (clean (base ++ '/' :: rest)) = (cleanBase base ++ '/' :: cleanEnd rest, none) := by
    intro rest absent
    rw [clean_at base rest (by decide)]
    exact cut_of_not_mem (not_mem_cleaned (by decide) noHash absent)
  have rootCut := cleaned [] List.not_mem_nil
  by_cases mark : '?' ∈ cleanBase base
  · -- A query of the base would be one of the root.
    obtain ⟨address, behind, same, absent⟩ := List.eq_append_cons_of_mem mark
    rw [same, List.append_assoc, List.cons_append] at rootCut
    obtain ⟨_, _, _, _, _, rfl⟩ := parse_none_ok rootCut (cut_at absent _) read
    contradiction
  · have noMark : ∀ rest : List Char, '?' ∉ rest →
        cut '?' (cleanBase base ++ '/' :: cleanEnd rest) =
          (cleanBase base ++ '/' :: cleanEnd rest, none) := fun rest absent =>
      cut_of_not_mem (not_mem_cleaned (by decide) mark absent)
    obtain ⟨scheme, behind, v, taken, found, rfl⟩ :=
      parse_none_ok rootCut (noMark [] List.not_mem_nil) read
    rw [takeScheme?_slash] at taken
    cases begun : takeScheme? (cleanBase base) with
    | none => simp [begun] at taken
    | some named =>
      rw [begun] at taken
      cases taken
      obtain ⟨between, other⟩ := absolute_slash found web
      refine ⟨between, fun rest mark hash => ?_⟩
      rw [parse_none (cleaned rest hash) (noMark rest mark), takeScheme?_slash, begun,
        Option.map_some]
      dsimp only
      exact congrArg (Except.map _) (other (cleanEnd rest))

theorem parse_behind (noFragment : root.fragment = none) :
    ∃ between, ∀ rest, IsPath ('/' :: rest) → parse none (base ++ '/' :: rest) =
      .ok { root with path := pathStart true (between ++ '/' :: rest) } := by
  obtain ⟨between, found⟩ := parse_behind_cleaned read web noQuery noFragment
  refine ⟨between, fun rest isPath => ?_⟩
  have absent := isPath.not_mem
  rw [found rest (fun mark => absent.2 (List.mem_cons_of_mem _ mark))
    fun hash => absent.1 (List.mem_cons_of_mem _ hash)]
  obtain ⟨_, same, plain⟩ := isPath
  cases same
  rw [cleanEnd_visible fun c member => (plain c member).1]

/-- Where the root of a site is a web address without a query, so is every path of it. -/
theorem parse_path {path : List Char} (isPath : IsPath path) :
    ∃ u, parse none (base ++ path) = .ok u ∧ u.isWeb = true ∧ u.query = none := by
  obtain ⟨front, cleaned⟩ := clean_path base
  by_cases hash : '#' ∈ front
  · -- The path becomes part of the fragment, and nothing else changes.
    obtain ⟨address, rest, rfl, absent⟩ := List.eq_append_cons_of_mem hash
    have inFragment : ∀ cs, IsPath cs →
        cut '#' (clean (base ++ cs)) = (address, some (rest ++ cs)) := by
      intro cs path
      rw [cleaned cs path, List.append_assoc, List.cons_append]
      exact cut_at absent (rest ++ cs)
    have rootCut := inFragment ['/'] IsPath.root
    have pathCut := inFragment path isPath
    obtain ⟨scheme, behind, v, taken, found, rfl⟩ := parse_none_ok rootCut rfl read
    rw [parse_none pathCut rfl, taken]
    dsimp only at found ⊢
    exact ⟨_, congrArg _ found, web, noQuery⟩
  · have noHash : '#' ∉ clean (base ++ ['/']) := by
      rw [cleaned _ IsPath.root]
      exact fun member => (List.mem_append.mp member).elim hash IsPath.root.not_mem.1
    have noFragment : root.fragment = none := by
      obtain ⟨_, _, _, _, _, rfl⟩ := parse_none_ok (cut_of_not_mem noHash) rfl read
      rfl
    obtain ⟨between, behind⟩ := parse_behind read web noQuery noFragment
    obtain ⟨rest, rfl, plain⟩ := isPath
    exact ⟨_, behind rest ⟨rest, rfl, plain⟩, web, noQuery⟩

end Root

end Url
end AccessCatalog.Web
