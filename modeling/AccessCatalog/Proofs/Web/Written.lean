import AccessCatalog.Proofs.Web.HostTexts
import AccessCatalog.Proofs.Web.Roots

/-! The texts of addresses. Whatever an address without a query was read from, none of its parts has
a sign with which a query or a fragment begins, and of what parts an authority a host has colons in
brackets alone. -/
namespace AccessCatalog.Web

/-- A character with which neither a query nor a fragment begins, and no control. -/
def IsClear (c : Char) : Prop := 0x20 ≤ c.toNat ∧ c ≠ '?' ∧ c ≠ '#'

/-- A character that ends no authority either. -/
def IsInside (c : Char) : Prop := 0x20 < c.toNat ∧ c ∉ "/\\?#@".toList

instance (c : Char) : Decidable (IsClear c) := inferInstanceAs (Decidable (_ ∧ _))
instance (c : Char) : Decidable (IsInside c) := inferInstanceAs (Decidable (_ ∧ _))

theorem IsInside.clear {c : Char} (inside : IsInside c) : IsClear c := by
  obtain ⟨above, other⟩ := inside
  refine ⟨by omega, fun same => ?_, fun same => ?_⟩ <;> simp [same] at other

theorem percentEncode_forall {P : Char → Prop} {keep : Char → Bool} {cs : List Char}
    (kept : ∀ c ∈ cs, c.toNat < 128 → keep c = true → P c) (percent : P '%')
    (plain : ∀ c, c.toNat < 128 → Form.isPlain c = true → P c) :
    ∀ c ∈ percentEncode keep cs, P c := by
  intro c member
  obtain ⟨d, inText, inChar⟩ := List.mem_flatMap.mp member
  rcases percentChar_cases inChar with ⟨rfl, ascii, keeps⟩ | rfl | digit
  · exact kept c inText ascii keeps
  · exact percent
  · exact plain c (Form.isPlain_ascii digit) digit

theorem isInside_plain : ∀ c : Char, c.toNat < 128 → Form.isPlain c = true → IsInside c :=
  forall_ascii (by decide)

theorem isInside_of_label {c : Char} (allowed : Name.isForbidden c = false) : IsInside c := by
  have signs : ∀ d ∈ "/\\?#@".toList, Name.isForbidden d = true := forall_of_all (by decide)
  refine ⟨?_, fun member => ?_⟩
  · simp only [Name.isForbidden, Bool.or_eq_false_iff, decide_eq_false_iff_not] at allowed
    omega
  · rw [signs c member] at allowed
    contradiction

namespace Host

theorem mem_hexText {ps : List Nat} : ∀ c ∈ hexText ps, c = ':' ∨ Name.IsLabelChar c := by
  intro c member
  rcases mem_intercalate member with same | ⟨piece, inPieces, inside⟩
  · exact .inl same
  · obtain ⟨p, _, rfl⟩ := List.mem_map.mp inPieces
    exact .inr (toDigits_plain (by decide) (by decide) c inside).1

/-- The text of an address of version 6 has brackets around digits and colons. -/
theorem text_address6 (ps : List Nat) : ∃ inner, (address6 ps).text = '[' :: (inner ++ [']']) ∧
    ∀ c ∈ inner, c = ':' ∨ Name.IsLabelChar c := by
  obtain ⟨⟨start, count⟩, run⟩ : ∃ found, zeroRun ps = found := ⟨_, rfl⟩
  rw [text, run]
  refine ⟨_, rfl, fun c member => ?_⟩
  split at member
  · exact mem_hexText c member
  · simp only [List.mem_append, List.mem_cons, List.not_mem_nil, or_false, or_self] at member
    rcases member with (before | colon) | after
    · exact mem_hexText c before
    · exact .inl colon
    · exact mem_hexText c after

theorem text_address4_plain (n : Nat) :
    ∀ c ∈ (address4 n).text, Name.isForbidden c = false := by
  rw [text_address4]
  intro c member
  rcases mem_intercalate member with rfl | ⟨part, inParts, inside⟩
  · decide
  · obtain ⟨b, _, rfl⟩ := List.mem_map.mp inParts
    exact (toDigits_plain (by decide) (by decide) c inside).1.2.1

/-- The text of a host of the web has none of the characters that part an address, but for an
address in brackets. -/
theorem parse_shape {cs : List Char} {h : Host} (read : parse cs = .ok h) :
    (∀ c ∈ h.text, Name.isForbidden c = false) ∨
      ∃ inner, h.text = '[' :: (inner ++ [']']) ∧ ∀ c ∈ inner, c = ':' ∨ Name.IsLabelChar c := by
  rcases parse_cases read with ⟨_, ascii, _, found, _, _, rfl⟩ | ⟨_, n, _, rfl⟩ | ⟨_, ps, _, rfl⟩
  · exact .inl (Name.toAscii?_plain found)
  · exact .inl (text_address4_plain n)
  · exact .inr (text_address6 ps)

theorem bracketed_inside {inner : List Char} (plain : ∀ c ∈ inner, c = ':' ∨ Name.IsLabelChar c) :
    ∀ c ∈ '[' :: (inner ++ [']']), IsInside c := by
  simp only [List.mem_cons, List.mem_append, List.not_mem_nil, or_false]
  rintro c (rfl | member | rfl)
  · decide
  · rcases plain c member with rfl | label
    · decide
    · exact isInside_of_label label.2.1
  · decide

theorem parse_inside {cs : List Char} {h : Host} (read : parse cs = .ok h) :
    ∀ c ∈ h.text, IsInside c := by
  rcases parse_shape read with plain | ⟨inner, same, plain⟩
  · exact fun c member => isInside_of_label (plain c member)
  · rw [same]
    exact bracketed_inside plain

theorem parseOpaque_inside {cs : List Char} {h : Host} (read : parseOpaque cs = .ok h) :
    ∀ c ∈ h.text, IsInside c := by
  unfold parseOpaque at read
  split at read
  · rename_i bracket
    -- In brackets a host is read as one of the web.
    have web : parse cs = .ok h := by rw [parse, if_pos bracket, read]
    exact parse_inside web
  · split at read
    · contradiction
    · rename_i allowed
      cases read
      have kept : ∀ c : Char, c.toNat < 128 → isForbiddenAnywhere c = false →
          (!isControl c) = true → IsInside c := forall_ascii (by decide +kernel)
      refine percentEncode_forall (fun c member ascii => kept c ascii ?_) (by decide)
        isInside_plain
      simpa using List.any_eq_false.mp (Bool.not_eq_true _ ▸ allowed) c member

end Host

namespace Url

/-! What an address is read to. -/

theorem splitPort_host_subset {bracket : Bool} {cs : List Char} :
    ∀ c ∈ (splitPort bracket cs).1, c ∈ cs := by
  fun_induction splitPort bracket cs with
  | case1 => simp
  | case2 bracket c rest _ => simp
  | case3 bracket c rest _ host digits split ih =>
    intro d member
    rw [split] at ih
    rcases List.mem_cons.mp member with rfl | inHost
    · exact List.mem_cons_self
    · exact List.mem_cons_of_mem c (ih d inHost)

theorem takeCredentials_written {isLast : Bool} {cs rest name password : List Char}
    (taken : takeCredentials isLast cs = .ok (some (name, password), rest)) :
    (name ≠ [] ∨ password ≠ []) ∧ ∀ c ∈ name ++ password, IsInside c := by
  have userinfo : ∀ c : Char, c.toNat < 128 → inUserinfo c = true → IsInside c :=
    forall_ascii (by decide +kernel)
  have encoded : ∀ cs, ∀ c ∈ percentEncode inUserinfo cs, IsInside c := fun cs =>
    percentEncode_forall (fun c _ => userinfo c) (by decide) isInside_plain
  unfold takeCredentials at taken
  dsimp only at taken
  split at taken
  · cases taken
  · split at taken
    · cases taken
    · cases taken
  · split at taken
    · cases taken
    · rename_i filled
      cases taken
      refine ⟨?_, fun c member => (List.mem_append.mp member).elim (encoded _ c) (encoded _ c)⟩
      simpa [Decidable.or_iff_not_imp_left] using filled

theorem takePort_le {scheme cs rest : List Char} {n : Nat}
    (taken : takePort scheme cs = .ok (some n, rest)) : n ≤ 65535 := by
  unfold takePort at taken
  dsimp only at taken
  split at taken
  · contradiction
  · rename_i allowed
    have pair := Except.ok.inj taken
    have number := congrArg Prod.fst pair
    dsimp only at number
    split at number
    · contradiction
    · cases number
      omega

/-- What is read of an authority: no host where that is allowed, or one from the characters of the
authority. -/
theorem authority_cases {isWhole : Bool} {scheme cs : List Char} {u : Url}
    (read : authority isWhole scheme cs = .ok u) : ∃ path, u.path = pathStart (isSpecial scheme) path ∧
      u.query = none ∧ u.fragment = none ∧
      ((isSpecial scheme = false ∧ u.host = some (.name []) ∧ u.credentials = none ∧
          u.portNumber = none) ∨
        ∃ isLast front text host rest, takeCredentials isLast front = .ok (u.credentials, text) ∧
          (∀ c ∈ front, c ∈ cs) ∧ u.host = some host ∧
          (if isSpecial scheme = true then Host.parse (splitPort false text).1
            else Host.parseOpaque (splitPort false text).1) = .ok host ∧
          takePort scheme ((splitPort false text).2.getD []) = .ok (u.portNumber, rest)) := by
  have front : ∀ c ∈ cs.takeWhile fun c => !isSlash (isSpecial scheme) c, c ∈ cs :=
    (List.takeWhile_sublist _).subset
  obtain ⟨⟨credentials, text⟩, taken, read⟩ := bind_ok read
  dsimp only at read
  split at read
  · split at read
    · contradiction
    · rename_i refused
      cases read
      simp only [not_or] at refused
      exact ⟨_, rfl, rfl, rfl, .inl ⟨by simpa using refused.1, rfl, rfl, rfl⟩⟩
  · split at read
    all_goals
      rename_i special
      obtain ⟨host, found, read⟩ := bind_ok read
      obtain ⟨⟨number, rest⟩, numbered, read⟩ := bind_ok read
      cases read
      refine ⟨_, rfl, rfl, rfl, .inr ⟨_, _, _, _, rest, taken, front, rfl, ?_, numbered⟩⟩
    · rw [if_pos special, found]
    · rw [if_neg special, found]

/-- A scheme in small letters. -/
structure IsScheme (scheme : List Char) : Prop where
  plain : ∀ c ∈ scheme, isSchemeChar c = true
  letter : (scheme.head?.map Char.isAlpha).getD false = true
  lower : scheme.map Char.toLower = scheme

theorem takeScheme?_written {cs scheme rest : List Char}
    (taken : takeScheme? cs = some (scheme, rest)) : IsScheme scheme ∧ ∀ c ∈ rest, c ∈ cs := by
  have lowered : ∀ c : Char, c.toNat < 128 → isSchemeChar c = true →
      isSchemeChar c.toLower = true ∧ c.toLower.toLower = c.toLower ∧
        (c.isAlpha = true → c.toLower.isAlpha = true) := forall_ascii (by decide +kernel)
  have inName : ∀ c ∈ cs.takeWhile isSchemeChar, isSchemeChar c = true :=
    List.all_eq_true.mp List.all_takeWhile
  unfold takeScheme? at taken
  dsimp only at taken
  split at taken
  · rename_i c tail behind named begun
    split at taken
    · rename_i letter
      cases taken
      have each : ∀ d ∈ c :: tail, isSchemeChar d.toLower = true ∧
          d.toLower.toLower = d.toLower ∧ (d.isAlpha = true → d.toLower.isAlpha = true) := by
        intro d member
        have inScheme := inName d (named ▸ member)
        exact lowered d (isSchemeChar_ascii inScheme) inScheme
      refine ⟨⟨fun d member => ?_, ?_, ?_⟩, fun d member => ?_⟩
      · rw [named] at member
        obtain ⟨e, inTail, rfl⟩ := List.mem_map.mp member
        exact (each e inTail).1
      · rw [named]
        simpa using (each c List.mem_cons_self).2.2 letter
      · rw [named, List.map_map]
        exact List.map_congr_left fun d member => (each d member).2.1
      · exact (List.dropWhile_sublist _).subset (begun ▸ List.mem_cons_of_mem _ member)
    · cases taken
  · cases taken

/-- An address as it is read from a text without a query and a fragment. -/
structure IsWritten (u : Url) : Prop where
  scheme : IsScheme u.scheme
  query : u.query = none
  fragment : u.fragment = none
  credentials : ∀ name password, u.credentials = some (name, password) →
    (name ≠ [] ∨ password ≠ []) ∧ ∀ c ∈ name ++ password, IsInside c
  host : ∀ h, u.host = some h → ∀ c ∈ h.text, IsInside c
  portNumber : ∀ n, u.portNumber = some n → n ≤ 65535
  path : ∀ c ∈ pathText u.path, IsClear c
  root : isSpecial u.scheme = true → ∃ rest, pathText u.path = '/' :: rest

theorem pathAfter_clear (special : Bool) (cs : List Char) :
    ∀ c ∈ pathText (pathAfter special [] cs), IsClear c := by
  have inClass : ∀ c : Char, c.toNat < 128 → inPath c = true → IsClear c :=
    forall_ascii (by decide +kernel)
  intro c member
  obtain ⟨segment, inPath, inside⟩ := List.mem_flatMap.mp member
  rcases List.mem_cons.mp inside with rfl | inSegment
  · decide
  · rcases mem_follow inPath with old | ⟨new, _⟩ | rfl
    · cases old
    · obtain ⟨piece, _, rfl⟩ := List.mem_map.mp new
      exact percentEncode_forall (fun c _ => inClass c) (by decide)
        (fun c ascii plain => (isInside_plain c ascii plain).clear) c inSegment
    · cases inSegment

theorem pathStart_clear (special : Bool) (cs : List Char) :
    ∀ c ∈ pathText (pathStart special cs), IsClear c := by
  unfold pathStart
  split
  · split <;> simp [pathText, IsClear]
  · exact pathAfter_clear special _

theorem follow_ne_nil {segments : List (List Char)} (some : segments ≠ [])
    (directory : List (List Char)) : follow directory segments ≠ [] := by
  fun_induction follow directory segments with
  | case1 => contradiction
  | case2 | case3 | case4 => simp
  | case5 directory s rest behind _ ih | case6 directory s rest behind _ _ ih
  | case7 directory s rest behind _ _ ih =>
    exact ih fun none => behind none

theorem pathStart_root (cs : List Char) : ∃ rest, pathText (pathStart true cs) = '/' :: rest := by
  have ofSegments : ∀ segments : List (List Char), segments ≠ [] →
      ∃ rest, pathText (.segments segments) = '/' :: rest := by
    intro segments some
    obtain ⟨s, others, rfl⟩ := List.exists_cons_of_ne_nil some
    exact ⟨_, rfl⟩
  unfold pathStart
  split
  · exact ofSegments [[]] (by simp)
  · exact ofSegments _ (follow_ne_nil (by simp [splitSlashes_ne_nil]) _)

theorem authority_written {isWhole : Bool} {scheme cs : List Char} {u : Url}
    (isScheme : IsScheme scheme) (read : authority isWhole scheme cs = .ok u) : u.IsWritten := by
  have named := authority_scheme read
  obtain ⟨path, pathRead, query, fragment, noHost | someHost⟩ := authority_cases read
  all_goals
    have clear := pathRead ▸ pathStart_clear (isSpecial scheme) path
    have root : isSpecial u.scheme = true → ∃ rest, pathText u.path = '/' :: rest := by
      intro special
      rw [named] at special
      rw [pathRead, special]
      exact pathStart_root path
    rw [← named] at isScheme
  · obtain ⟨_, host, credentials, port⟩ := noHost
    exact ⟨isScheme, query, fragment, by simp [credentials], by simp [host, Host.text],
      by simp [port], clear, root⟩
  · obtain ⟨isLast, front, text, host, rest, taken, _, hostRead, found, numbered⟩ := someHost
    refine ⟨isScheme, query, fragment, fun name password same => ?_, fun h same => ?_,
      fun n same => ?_, clear, root⟩
    · exact takeCredentials_written (same ▸ taken)
    · cases hostRead.symm.trans same
      split at found
      · exact Host.parse_inside found
      · exact Host.parseOpaque_inside found
    · exact takePort_le (same ▸ numbered)

theorem file_written {cs : List Char} {u : Url} (read : file cs = .ok u) : u.IsWritten := by
  have isScheme : IsScheme "file".toList := ⟨forall_of_all (by decide), by decide, by decide⟩
  have ofPath : ∀ path, ({ scheme := "file".toList, path := pathStart true path } : Url).IsWritten :=
    fun path => ⟨isScheme, rfl, rfl, by simp, by simp, by simp, pathStart_clear _ _,
      fun _ => pathStart_root path⟩
  unfold file at read
  dsimp only at read
  split at read
  · split at read
    · split at read
      · cases read
        exact ofPath _
      · obtain ⟨host, found, read⟩ := bind_ok read
        cases read
        refine ⟨isScheme, rfl, rfl, by simp, fun h same => ?_, by simp, pathStart_clear _ _,
          fun _ => pathStart_root _⟩
        split at same
        · cases same
        · cases same
          exact Host.parse_inside found
    · cases read
      exact ofPath _
  · cases read
    exact ofPath _

theorem absolute_written {isWhole : Bool} {scheme cs : List Char} {u : Url}
    (isScheme : IsScheme scheme) (clear : ∀ c ∈ cs, c ≠ '?' ∧ c ≠ '#')
    (read : absolute isWhole scheme cs = .ok u) : u.IsWritten := by
  unfold absolute at read
  split at read
  · exact file_written read
  · split at read
    · exact authority_written isScheme read
    · rename_i notSpecial
      split at read
      · exact authority_written isScheme read
      · cases read
        exact ⟨isScheme, rfl, rfl, by simp, by simp, by simp, pathAfter_clear _ _,
          fun special => absurd special notSpecial⟩
      · cases read
        have noControl : ∀ c : Char, c.toNat < 128 → inControls c = true → 0x20 ≤ c.toNat :=
          forall_ascii (by decide)
        refine ⟨isScheme, rfl, rfl, by simp, by simp, by simp, ?_,
          fun special => absurd special notSpecial⟩
        exact percentEncode_forall
          (fun c member ascii kept => ⟨noControl c ascii kept, clear c member⟩) (by decide)
          fun c ascii plain => (isInside_plain c ascii plain).clear

/-- An address that is read without a query and a fragment is written without them. -/
theorem parse_written {text : List Char} {u : Url} (read : parse none text = .ok u)
    (noMark : '?' ∉ text) (noHash : '#' ∉ text) : u.IsWritten := by
  have clear : ∀ c ∈ clean text, c ≠ '?' ∧ c ≠ '#' := by
    intro c member
    have inText := clean_subset c member
    exact ⟨fun same => noMark (same ▸ inText), fun same => noHash (same ▸ inText)⟩
  have address := cut_of_not_mem fun member => (clear '#' member).2 rfl
  have front := cut_of_not_mem fun member => (clear '?' member).1 rfl
  obtain ⟨scheme, rest, v, taken, found, rfl⟩ := parse_none_ok address front read
  obtain ⟨isScheme, subset⟩ := takeScheme?_written taken
  have written := absolute_written isScheme (fun c member => clear c (subset c member)) found
  exact ⟨written.scheme, rfl, rfl, written.credentials, written.host, written.portNumber,
    written.path, written.root⟩

/-! Its text. -/

def credentialsText : Option (List Char × List Char) → List Char
  | some (name, []) => name ++ ['@']
  | some (name, password) => name ++ ':' :: (password ++ ['@'])
  | none => []

def portText : Option Nat → List Char
  | some n => ':' :: (Nat.repr n).toList
  | none => []

def authorityText (u : Url) (h : Host) : List Char :=
  credentialsText u.credentials ++ (h.text ++ portText u.portNumber)

theorem text_of_host {u : Url} {h : Host} (host : u.host = some h) (fragment : u.fragment = none) :
    u.text = u.scheme ++ ':' :: '/' :: '/' :: (authorityText u h ++ u.target) := by
  unfold text authorityText
  rw [host, fragment]
  rcases u.credentials with _ | ⟨name, _ | ⟨c, password⟩⟩ <;> rcases u.portNumber with _ | n <;>
    simp [credentialsText, portText]

theorem text_of_none {u : Url} (host : u.host = none) (fragment : u.fragment = none) :
    u.text = u.scheme ++ ':' :: ((if isFile u.scheme then ['/', '/'] else []) ++ u.target) := by
  unfold text
  rw [host, fragment]
  simp

section Written

variable {u : Url} (written : u.IsWritten)

include written

theorem IsWritten.target_eq : u.target = pathText u.path := by
  rw [target, written.query]
  simp

theorem IsWritten.target_query (q : List Char) :
    ({ u with query := some q } : Url).target = u.target ++ '?' :: q := by
  rw [written.target_eq]
  rfl

theorem IsWritten.text_query (q : List Char) :
    ({ u with query := some q } : Url).text = u.text ++ '?' :: q := by
  rw [text, text, written.target_query q]
  dsimp only
  rw [written.fragment]
  simp

theorem IsWritten.credentialsText_forall {P : Char → Prop} (inside : ∀ c, IsInside c → P c)
    (signs : P ':' ∧ P '@') : ∀ c ∈ credentialsText u.credentials, P c := by
  intro c member
  rcases credentials : u.credentials with _ | ⟨name, password⟩
  · rw [credentials] at member
    cases member
  · have plain := (written.credentials name password credentials).2
    rw [credentials] at member
    have cases : c ∈ name ++ password ∨ c = ':' ∨ c = '@' := by
      cases password with
      | nil =>
        simp only [credentialsText, List.mem_append, List.mem_singleton] at member
        exact member.imp (List.mem_append_left _) .inr
      | cons d password =>
        simp only [credentialsText, List.mem_append, List.mem_cons, List.not_mem_nil,
          or_false] at member ⊢
        grind
    rcases cases with member | rfl | rfl
    · exact inside c (plain c member)
    · exact signs.1
    · exact signs.2

omit written in
theorem mem_portText {number : Option Nat} {c : Char} (member : c ∈ portText number) :
    c = ':' ∨ IsInside c := by
  cases number with
  | none => cases member
  | some n =>
    rw [portText, Nat.toList_repr] at member
    refine (List.mem_cons.mp member).imp_right fun digit => ?_
    exact isInside_of_label (Host.toDigits_plain (by decide) (by decide) c digit).1.2.1

theorem IsWritten.authorityText_forall {h : Host} (host : u.host = some h) {P : Char → Prop}
    (inside : ∀ c, IsInside c → P c) (signs : P ':' ∧ P '@') : ∀ c ∈ authorityText u h, P c := by
  intro c member
  rcases List.mem_append.mp member with inCredentials | member
  · exact written.credentialsText_forall inside signs c inCredentials
  · rcases List.mem_append.mp member with inHost | inPort
    · exact inside c (written.host h host c inHost)
    · rcases mem_portText inPort with rfl | plain
      · exact signs.1
      · exact inside c plain

theorem IsWritten.text_clear : ∀ c ∈ u.text, IsClear c := by
  have target : ∀ c ∈ u.target, IsClear c := written.target_eq ▸ written.path
  have scheme : ∀ c ∈ u.scheme, IsClear c := by
    intro c member
    obtain ⟨above, hash, mark, _⟩ := isSchemeChar_visible c (written.scheme.plain c member)
    exact ⟨by omega, mark, hash⟩
  have signs : IsClear ':' ∧ IsClear '@' ∧ IsClear '/' := by decide
  intro c member
  cases host : u.host with
  | none =>
    rw [text_of_none host written.fragment] at member
    simp only [List.mem_append, List.mem_cons] at member
    rcases member with inScheme | rfl | slashes | inTarget
    · exact scheme c inScheme
    · exact signs.1
    · split at slashes
      · simp only [List.mem_cons, List.not_mem_nil, or_false, or_self] at slashes
        exact slashes ▸ signs.2.2
      · cases slashes
    · exact target c inTarget
  | some h =>
    rw [text_of_host host written.fragment] at member
    simp only [List.mem_append, List.mem_cons] at member
    rcases member with inScheme | rfl | rfl | rfl | inAuthority | inTarget
    · exact scheme c inScheme
    · exact signs.1
    · exact signs.2.2
    · exact signs.2.2
    · exact written.authorityText_forall host (fun _ inside => inside.clear)
        ⟨signs.1, signs.2.1⟩ c inAuthority
    · exact target c inTarget

theorem IsWritten.target_clear : ∀ c ∈ u.target, IsClear c := written.target_eq ▸ written.path

end Written

end Url
end AccessCatalog.Web
