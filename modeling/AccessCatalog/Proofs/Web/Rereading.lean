import AccessCatalog.Proofs.Web.Link
import AccessCatalog.Proofs.Web.Written

/-! Addresses that are read again. A query written behind the text of an address is read wherever
that text is accepted: a path with one slash in front always is, and so is an address of the web
whose host is read again from its own text. -/
namespace AccessCatalog.Web

/-- Whether a text is accepted as a link. -/
def IsLink (text : List Char) : Prop := ∃ u, Url.parse (some linkBase) text = .ok u

/-- Whether an address has a host, and that is accepted again as it is written. -/
def Url.HostReadAgain (u : Url) : Prop :=
  ∃ h found, u.host = some h ∧ Host.parse h.text = .ok found

/-- Whether the name of the host, if it has one, is its own form in ASCII. -/
def Url.HasOwnName (u : Url) : Prop :=
  ∀ name, u.host = some (.name name) → Name.toAscii? name = some name

/-! What queries are made of. -/

namespace Form

def IsQueryChar (c : Char) : Prop := IsEncoded c ∨ c = '&' ∨ c = '='

theorem encodePair_chars (pair : String × String) : ∀ c ∈ encodePair pair, IsQueryChar c := by
  intro c member
  rcases List.mem_append.mp member with inName | member
  · exact .inl (encodeText_encoded _ c inName)
  · rcases List.mem_cons.mp member with rfl | inValue
    · exact .inr (.inr rfl)
    · exact .inl (encodeText_encoded _ c inValue)

theorem append_chars (pairs : List (String × String)) {query : List Char}
    (plain : ∀ c ∈ query, IsQueryChar c) : ∀ c ∈ append query pairs, IsQueryChar c := by
  induction pairs generalizing query with
  | nil => exact plain
  | cons pair pairs ih =>
    have longer : ∀ c ∈ (if query.isEmpty then [] else query ++ ['&']) ++ encodePair pair,
        IsQueryChar c := by
      intro c member
      rcases List.mem_append.mp member with front | inPair
      · split at front
        · cases front
        · rcases List.mem_append.mp front with inQuery | mark
          · exact plain c inQuery
          · exact .inr (.inl (List.mem_singleton.mp mark))
      · exact encodePair_chars pair c inPair
    exact ih longer

theorem IsQueryChar.facts {c : Char} (plain : IsQueryChar c) :
    c.toNat < 128 ∧ 0x20 < c.toNat ∧ c ≠ '#' ∧ Url.inSpecialQuery c = true := by
  have ofPlain : ∀ c : Char, c.toNat < 128 → isPlain c = true →
      0x20 < c.toNat ∧ c ≠ '#' ∧ Url.inSpecialQuery c = true := forall_ascii (by decide +kernel)
  rcases plain with (plain | rfl | rfl) | rfl | rfl
  · exact ⟨isPlain_ascii plain, ofPlain c (isPlain_ascii plain) plain⟩
  all_goals decide

end Form

namespace Url

/-! Queries behind an address. -/

theorem map_ok {α β : Type} {x : Except UrlError α} {f : α → β} {b : β} (read : x.map f = .ok b) :
    ∃ a, x = .ok a ∧ f a = b := by
  cases x with
  | error e => cases read
  | ok a => exact ⟨a, rfl, Except.ok.inj read⟩

theorem relative_query_eq {base u : Url} {cs q : List Char}
    (read : relative base cs (some q) = .ok u) : u.query = some q := by
  unfold relative at read
  split at read
  · cases read
    rfl
  · obtain ⟨v, _, rfl⟩ := map_ok read
    rfl
  · split at read
    · split at read
      · obtain ⟨v, _, rfl⟩ := map_ok read
        rfl
      · cases read
        rfl
    · cases read
      rfl

/-- A query that is read back as it is written, from a text where no other query begins. -/
structure IsBehind (front q : List Char) : Prop where
  front : ∀ c ∈ front, c ≠ '?' ∧ c ≠ '#'
  query : ∀ c ∈ q, c.toNat < 128 ∧ 0x20 < c.toNat ∧ c ≠ '#' ∧ inSpecialQuery c = true

section Behind

variable {front q : List Char} (behind : IsBehind front q)

include behind

theorem cut_behind : cut '#' (clean (front ++ '?' :: q)) = (cleanBase front ++ '?' :: q, none) ∧
    cut '?' (cleanBase front ++ '?' :: q) = (cleanBase front, some q) := by
  have cleaned : clean (front ++ '?' :: q) = cleanBase front ++ '?' :: q := by
    rw [clean_at front q (by decide), cleanEnd_visible fun c member => (behind.query c member).2.1]
  rw [cleaned]
  refine ⟨cut_of_not_mem fun hash => ?_, cut_at (fun mark => ?_) q⟩
  · rcases List.mem_append.mp hash with inFront | hash
    · exact (behind.front '#' (cleanBase_subset _ inFront)).2 rfl
    · rcases List.mem_cons.mp hash with mark | inQuery
      · exact absurd mark (by decide)
      · exact (behind.query '#' inQuery).2.2.1 rfl
  · exact (behind.front '?' (cleanBase_subset _ mark)).1 rfl

theorem percentEncode_behind (special : Bool) :
    percentEncode (if special then inSpecialQuery else inQuery) q = q := by
  refine percentEncode_kept fun c member => ?_
  obtain ⟨ascii, _, _, kept⟩ := behind.query c member
  have both : inQuery c = true := (Bool.and_eq_true_iff.mp kept).1
  cases special <;> simp [ascii, kept, both]

/-- Wherever an address with a query is accepted, it has that query. -/
theorem parse_behind_query {base w : Url} (read : parse (some base) (front ++ '?' :: q) = .ok w) :
    w.query = some q := by
  obtain ⟨address, mark⟩ := cut_behind behind
  unfold parse at read
  simp only [address, mark, Option.map_some, percentEncode_behind behind] at read
  split at read
  · split at read
    all_goals obtain ⟨v, found, read⟩ := bind_ok read
    · have same := relative_query_eq found
      cases read
      exact same
    · obtain ⟨_, _, rfl⟩ := map_ok found
      cases read
      rfl
  all_goals obtain ⟨v, found, read⟩ := bind_ok read
  · obtain ⟨_, _, rfl⟩ := map_ok found
    cases read
    rfl
  · have same := relative_query_eq found
    cases read
    exact same
  · contradiction

/-- What comes out of an accepted address is the first cursor of its query. -/
theorem afterParam?_behind {cursor : String} (filled : cursor ≠ "")
    (first : (Form.decode q).find? (fun p => p.1 = "after") = some ("after", cursor)) :
    afterParam? (front ++ '?' :: q) = some cursor ↔ IsLink (front ++ '?' :: q) := by
  have some_cursor : cursor.isEmpty = false := by simpa using filled
  unfold afterParam?
  cases read : parse (some linkBase) (front ++ '?' :: q) with
  | error e =>
    refine iff_of_false (by simp) ?_
    rintro ⟨u, accepted⟩
    rw [read] at accepted
    contradiction
  | ok w =>
    refine iff_of_true ?_ ⟨w, read⟩
    have query := parse_behind_query behind read
    simp [queryPairs, query, first, some_cursor]

end Behind

theorem cleanBase_clear {c : Char} {rest : List Char} (visible : 0x20 < c.toNat)
    (clear : ∀ d ∈ c :: rest, IsClear d) : cleanBase (c :: rest) = c :: rest := by
  have first : (c :: rest).dropWhile (fun c => decide (c.toNat ≤ 0x20)) = c :: rest :=
    List.dropWhile_cons_of_neg (by simpa using visible)
  rw [cleanBase, first]
  refine List.filter_eq_self.mpr fun d member => ?_
  have above := (clear d member).1
  have other : ∀ e : Char, e.toNat < 0x20 → d ≠ e := by
    intro e control same
    subst same
    omega
  simp [other '\t' (by decide), other '\n' (by decide), other '\r' (by decide)]

/-- A path with one slash in front is accepted wherever it is read. -/
theorem parse_single_slash (base : Url) {rest q : List Char} (clear : ∀ c ∈ '/' :: rest, IsClear c)
    (single : (rest.head?.map (isSlash true)).getD false = false)
    (behind : IsBehind ('/' :: rest) q) :
    ∃ w, parse (some base) ('/' :: rest ++ '?' :: q) = .ok w := by
  obtain ⟨address, mark⟩ := cut_behind behind
  rw [cleanBase_clear (by decide) clear] at address mark
  have noScheme : takeScheme? ('/' :: rest) = none := by
    simp [takeScheme?, isSchemeChar]
  have accepted : ∃ w, relative base ('/' :: rest) (some q) = .ok w := by
    unfold relative
    split
    · contradiction
    · rename_i others same
      cases same
      simp [isSlash] at single
    · rename_i same
      cases same
      rw [if_pos (by decide), if_neg (by simp [single])]
      exact ⟨_, rfl⟩
  obtain ⟨w, accepted⟩ := accepted
  unfold parse
  simp only [address, mark, noScheme, Option.map_some, percentEncode_behind behind, accepted]
  exact ⟨_, rfl⟩

/-! Addresses of the web. -/

theorem takeCredentials_again {u : Url} (written : u.IsWritten) (isLast : Bool) {rest : List Char}
    (absent : '@' ∉ rest) : ∃ credentials,
      takeCredentials isLast (credentialsText u.credentials ++ rest) = .ok (credentials, rest) := by
  have signed : ∀ front : List Char, front ≠ [] → ∃ credentials,
      takeCredentials isLast (front ++ '@' :: rest) = .ok (credentials, rest) := by
    intro front some
    obtain ⟨c, others, rfl⟩ := List.exists_cons_of_ne_nil some
    obtain ⟨d, tail, same⟩ := List.exists_cons_of_ne_nil (show others ++ ['@'] ≠ [] by simp)
    unfold takeCredentials
    dsimp only
    rw [takeLast_at absent, take_front, List.cons_append, same]
    exact ⟨_, rfl⟩
  rcases credentials : u.credentials with _ | ⟨name, _ | ⟨c, password⟩⟩
  · exact ⟨none, takeCredentials_absent absent⟩
  · have filled := (written.credentials name [] credentials).1
    simpa [credentialsText] using signed name (by simpa using filled)
  · simpa [credentialsText] using signed (name ++ ':' :: c :: password) (by simp)

theorem splitPort_plain {cs : List Char} (plain : ∀ c ∈ cs, c ≠ ':' ∧ c ≠ '[')
    (rest : List Char) : splitPort false (cs ++ rest) =
      (cs ++ (splitPort false rest).1, (splitPort false rest).2) := by
  induction cs with
  | nil => rfl
  | cons c cs ih =>
    have other := plain c List.mem_cons_self
    have tail := ih fun d member => plain d (List.mem_cons_of_mem _ member)
    rw [List.cons_append, splitPort]
    simp [other, tail]

theorem splitPort_bracket {inner : List Char} (plain : ∀ c ∈ inner, c ≠ ']') (rest : List Char) :
    splitPort true (inner ++ ']' :: rest) =
      (inner ++ ']' :: (splitPort false rest).1, (splitPort false rest).2) := by
  induction inner with
  | nil => simp [splitPort]
  | cons c cs ih =>
    have other := plain c List.mem_cons_self
    have tail := ih fun d member => plain d (List.mem_cons_of_mem _ member)
    rw [List.cons_append, splitPort]
    simp [other, tail]

theorem splitPort_host {cs : List Char} {h : Host} (read : Host.parse cs = .ok h)
    (rest : List Char) : splitPort false (h.text ++ rest) =
      (h.text ++ (splitPort false rest).1, (splitPort false rest).2) := by
  rcases Host.parse_shape read with plain | ⟨inner, same, plain⟩
  · refine splitPort_plain (fun c member => ?_) rest
    have allowed := plain c member
    constructor <;> (rintro rfl; exact absurd allowed (by decide))
  · have noBracket : ∀ c ∈ inner, c ≠ ']' := by
      rintro c member rfl
      rcases plain _ member with same | label
      · exact absurd same (by decide)
      · exact absurd label.2.1 (by decide)
    rw [same, List.cons_append, List.append_assoc, List.singleton_append, splitPort]
    simp [splitPort_bracket noBracket rest]

theorem takePort_portText (scheme : List Char) {number : Option Nat}
    (small : ∀ n, number = some n → n ≤ 65535) : ∃ read,
      takePort scheme ((splitPort false (portText number)).2.getD []) = .ok read := by
  cases number with
  | none => exact ⟨_, rfl⟩
  | some n =>
    have digits : ∀ c ∈ Nat.toDigits 10 n, c.isDigit = true := fun c member =>
      Nat.isDigit_of_mem_toDigits (by decide) (by decide) member
    have value : (Nat.toDigits 10 n).foldl (fun n c => n * 10 + (c.toNat - 48)) 0 = n := by
      have read := Nat.ofDigitChars_toDigits (b := 10) (n := n) (by decide) (by decide)
      rw [Nat.ofDigitChars_eq_foldl] at read
      simpa [Nat.mul_comm] using read
    simp only [portText, splitPort, Nat.toList_repr, takePort]
    simp [takeWhile_all digits, dropWhile_all digits, value, Nat.not_lt.mpr (small n rfl)]

theorem cut_subset (mark : Char) {cs : List Char} : ∀ c ∈ (cut mark cs).1, c ∈ cs := by
  intro c member
  unfold cut at member
  split at member
  · exact member
  · exact (List.takeWhile_sublist _).subset member

/-- The host of an address of the web is read from characters of its text. -/
theorem parse_host_read {text : List Char} {u : Url} (read : parse none text = .ok u)
    (special : isSpecial u.scheme = true) (noFile : isFile u.scheme = false) :
    ∃ h cs, u.host = some h ∧ Host.parse cs = .ok h ∧ ∀ c ∈ cs, c ∈ text := by
  obtain ⟨⟨address, fragment⟩, address_eq⟩ : ∃ p, cut '#' (clean text) = p := ⟨_, rfl⟩
  obtain ⟨⟨front, query⟩, front_eq⟩ : ∃ p, cut '?' address = p := ⟨_, rfl⟩
  obtain ⟨scheme, rest, v, taken, found, rfl⟩ := parse_none_ok address_eq front_eq read
  have inText : ∀ c ∈ rest, c ∈ text := by
    intro c member
    have inFront := (takeScheme?_written taken).2 c member
    have inAddress : c ∈ address := cut_subset '?' c (by rw [front_eq]; exact inFront)
    exact clean_subset c (cut_subset '#' c (by rw [address_eq]; exact inAddress))
  dsimp only at special noFile ⊢
  rw [absolute_scheme found] at special noFile
  simp only [absolute, special, noFile, if_true] at found
  obtain ⟨_, _, _, _, ⟨other, _⟩ | ⟨_, _, authority, host, _, taken, inRest, some, hostRead, _⟩⟩ :=
    authority_cases found
  · rw [special] at other
    contradiction
  · rw [if_pos special] at hostRead
    refine ⟨host, _, some, hostRead, fun c member => inText c ?_⟩
    have inFront := inRest c (takeCredentials_subset taken c (splitPort_host_subset c member))
    exact (List.dropWhile_sublist _).subset inFront

/-! What is written of an address of the web is taken apart as it was put together. -/

/-- Two slashes are taken from a text, and no more if what follows does not begin with one. -/
theorem slashes_at {front : List Char} (filled : front ≠ [])
    (noSlash : ∀ c ∈ front, ¬isSlash true c = true) (rest : List Char) :
    (('/' :: '/' :: (front ++ rest)).takeWhile (isSlash true)).length = 2 ∧
      ('/' :: '/' :: (front ++ rest)).dropWhile (isSlash true) = front ++ rest := by
  obtain ⟨c, cs, rfl⟩ := List.exists_cons_of_ne_nil filled
  have slash : isSlash true '/' = true := by decide
  have other := noSlash c List.mem_cons_self
  constructor
  · rw [List.takeWhile_cons_of_pos slash, List.takeWhile_cons_of_pos slash, List.cons_append,
      List.takeWhile_cons_of_neg other]
    rfl
  · rw [List.dropWhile_cons_of_pos slash, List.dropWhile_cons_of_pos slash, List.cons_append,
      List.dropWhile_cons_of_neg other]

section Again

variable {u : Url} {h : Host} {cs q : List Char} (written : u.IsWritten) (host : u.host = some h)
  (read : Host.parse cs = .ok h) (special : isSpecial u.scheme = true)
  (noFile : isFile u.scheme = false) (behind : IsBehind u.text q)

include written host

theorem cleanBase_text : cleanBase u.text = u.text := by
  have clear := written.text_clear
  obtain ⟨letter, others, scheme⟩ : ∃ c cs, u.scheme = c :: cs :=
    List.exists_cons_of_ne_nil fun none => by simpa [none] using written.scheme.letter
  rw [text_of_host host written.fragment, scheme, List.cons_append] at clear ⊢
  have visible := isSchemeChar_visible letter
    (written.scheme.plain letter (scheme ▸ List.mem_cons_self))
  exact cleanBase_clear visible.1 clear

theorem authorityText_noSlash : ∀ c ∈ authorityText u h, (!isSlash true c) = true := by
  refine written.authorityText_forall host (fun c inside => ?_) (by decide)
  have other := inside.2
  simp only [String.reduceToList, List.mem_cons, not_or] at other
  simp [isSlash, other.1, other.2.1]

include read special

theorem authority_again (path : List Char) : ∃ site : Host → Url,
    authority false u.scheme (authorityText u h ++ '/' :: path) =
      (Host.parse h.text).map site := by
  have noSlash := authorityText_noSlash written host
  have slash : (!isSlash true '/') = false := by decide
  have front : (authorityText u h ++ '/' :: path).takeWhile (fun c => !isSlash true c) =
      authorityText u h := by
    rw [List.takeWhile_append_of_pos noSlash, List.takeWhile_cons_of_neg (by simp [slash]),
      List.append_nil]
  have behind : (authorityText u h ++ '/' :: path).dropWhile (fun c => !isSlash true c) =
      '/' :: path := by
    rw [List.dropWhile_append_of_pos noSlash, List.dropWhile_cons_of_neg (by simp [slash])]
  have noSign : '@' ∉ h.text ++ portText u.portNumber := by
    intro member
    rcases List.mem_append.mp member with inHost | inPort
    · exact (Host.parse_inside read '@' inHost).2 (by decide)
    · rcases mem_portText inPort with same | inside
      · exact absurd same (by decide)
      · exact inside.2 (by decide)
  obtain ⟨credentials, taken⟩ : ∃ credentials, takeCredentials false (authorityText u h) =
      .ok (credentials, h.text ++ portText u.portNumber) :=
    takeCredentials_again written false noSign
  have split := splitPort_host read (portText u.portNumber)
  obtain ⟨⟨portNumber, rest⟩, port⟩ := takePort_portText u.scheme written.portNumber
  have first : (splitPort false (portText u.portNumber)).1 = [] := by
    cases u.portNumber <;> simp [portText, splitPort]
  rw [first, List.append_nil] at split
  have filled : h.text.isEmpty = false := List.isEmpty_eq_false_iff.mpr (Host.text_ne_nil read)
  refine ⟨fun found => { scheme := u.scheme, credentials, host := some found, portNumber
                         path := pathStart true (rest ++ '/' :: path) }, ?_⟩
  unfold authority
  simp only [special, front, behind, Bool.false_and, taken, bind, Except.bind, split, filled, port]
  cases Host.parse h.text <;> rfl

include noFile behind

/-- The text of a web address with a query behind it is accepted just if its host is. -/
theorem parse_text_again (base : Url) : ∃ site : Host → Url,
    parse (some base) (u.text ++ '?' :: q) = (Host.parse h.text).map site := by
  obtain ⟨address, mark⟩ := cut_behind behind
  obtain ⟨path, root⟩ := written.root special
  have text := text_of_host host written.fragment
  rw [written.target_eq, root] at text
  rw [cleanBase_text written host] at address mark
  have taken : takeScheme? u.text =
      some (u.scheme, '/' :: '/' :: (authorityText u h ++ '/' :: path)) := by
    rw [text, takeScheme?_site written.scheme.plain, if_pos written.scheme.letter,
      written.scheme.lower]
  have filled : authorityText u h ≠ [] := by simp [authorityText, Host.text_ne_nil read]
  have noSlash : ∀ c ∈ authorityText u h, ¬isSlash true c = true := fun c member => by
    simpa using authorityText_noSlash written host c member
  obtain ⟨two, skipped⟩ := slashes_at filled noSlash ('/' :: path)
  obtain ⟨site, accepted⟩ := authority_again written host read special path
  have absolutely : absolute false u.scheme
      ('/' :: '/' :: (authorityText u h ++ '/' :: path)) = (Host.parse h.text).map site := by
    unfold absolute
    rw [if_neg (by simp [noFile]), if_pos special, skipped, accepted]
  refine ⟨fun found => { site found with query := some q, fragment := none }, ?_⟩
  unfold parse
  simp only [address, mark, taken, Option.map_some, percentEncode_behind behind]
  rw [if_neg fun short => absurd short.2 (by rw [two]; decide)]
  simp only [Option.isNone_some, Bool.false_and, absolutely]
  cases Host.parse h.text <;> rfl

end Again

/-- An address of the web is accepted as a link just if its host is read again from its own text. -/
theorem isLink_text_iff {text q : List Char} {u : Url} (read : parse none text = .ok u)
    (written : u.IsWritten) (web : u.isWeb = true) (behind : IsBehind u.text q) :
    IsLink (u.text ++ '?' :: q) ↔ u.HostReadAgain := by
  obtain ⟨special, noFile⟩ := isWeb_scheme web
  obtain ⟨h, cs, host, hostRead, _⟩ := parse_host_read read special noFile
  obtain ⟨site, accepted⟩ :=
    parse_text_again written host hostRead special noFile behind linkBase
  rw [IsLink, accepted]
  constructor
  · rintro ⟨w, same⟩
    obtain ⟨found, again, _⟩ := map_ok same
    exact ⟨h, found, host, again⟩
  · rintro ⟨_, found, same, again⟩
    rw [host] at same
    cases same
    rw [again]
    exact ⟨_, rfl⟩

/-- Only a name that is not its own form in ASCII may fail to be read again. -/
theorem hostReadAgain_of_own {text : List Char} {u : Url} (read : parse none text = .ok u)
    (web : u.isWeb = true) (own : u.HasOwnName) : u.HostReadAgain := by
  obtain ⟨special, noFile⟩ := isWeb_scheme web
  obtain ⟨h, cs, host, hostRead, _⟩ := parse_host_read read special noFile
  exact ⟨h, h, host, Host.parse_again hostRead fun name same => own name (same ▸ host)⟩

end Url
end AccessCatalog.Web
