import AccessCatalog.Text.Blank
import AccessCatalog.Text.Lowercase
import Mathlib.Data.List.TakeWhile

/-! Small letters of a text. A sign below the small letters, such as an at sign or an underscore, is
its own small letter and no other character has it. Casing does not look across an at sign, so what
stands behind it is put into small letters as if it stood alone. And a text has the same small
letters in any case of its ASCII letters. -/
namespace AccessCatalog.Text

/-! Signs. -/

/-- A character of ASCII that comes before the small letters. -/
def IsSign (c : Char) : Prop := 0 < c.toNat ∧ c.toNat ≤ 96

instance (c : Char) : Decidable (IsSign c) :=
  inferInstanceAs (Decidable (0 < c.toNat ∧ c.toNat ≤ 96))

theorem smallLetters_above : ∀ r ∈ smallLetters, 96 < (r.first : Int) + r.delta := by
  decide +kernel

theorem meetsCased_at (cs before : List Char) :
    meetsCased (cs ++ '@' :: before) = meetsCased cs := by
  have stops : isCaseIgnorable '@' = false := by decide +kernel
  have uncased : isCased '@' = false := by decide +kernel
  unfold meetsCased
  rw [List.dropWhile_append]
  cases met : cs.dropWhile isCaseIgnorable with
  | nil => simp [stops, uncased]
  | cons c rest => rfl

theorem ofNat_not_sign {n : Nat} (above : 96 < n) : ¬ IsSign (Char.ofNat n) := by
  rintro ⟨positive, low⟩
  by_cases valid : n.isValidChar
  · rw [Char.ofNat, dif_pos valid] at low
    have number : n ≤ 96 := low
    omega
  · rw [Char.ofNat, dif_neg valid] at positive
    exact absurd positive (by decide)

theorem lowerChar_sign {sign c : Char} (low : IsSign sign) (member : sign ∈ lowerChar c) :
    c = sign := by
  unfold lowerChar at member
  split at member
  · rename_i ascii
    have small : ∀ n : Nat, n < 128 → IsSign (Char.ofNat n).toLower →
        (Char.ofNat n).toLower = Char.ofNat n := by decide
    have result := small c.toNat ascii
    rw [Char.ofNat_toNat] at result
    have same := List.mem_singleton.mp member
    rw [same] at low
    rw [same, result low]
  · split at member
    · have letter : ¬ IsSign 'i' := by decide
      have dot : ¬ IsSign '\u0307' := by decide
      rcases List.mem_cons.mp member with rfl | member
      · exact absurd low letter
      · exact absurd (List.mem_singleton.mp member ▸ low) dot
    · split at member
      · rename_i r found
        have inTable := List.mem_of_find?_eq_some found
        have covered := List.find?_some found
        simp only [CaseRun.covers, decide_eq_true_eq] at covered
        have above := smallLetters_above r inTable
        have other : 96 < ((c.toNat : Int) + r.delta).toNat := by omega
        exact absurd (List.mem_singleton.mp member ▸ low) (ofNat_not_sign other)
      · exact (List.mem_singleton.mp member).symm

theorem lowerChar_ne_nil (c : Char) : lowerChar c ≠ [] := by
  unfold lowerChar
  split
  · simp
  · split
    · simp
    · split <;> simp

/-- A character of a text has some letters of its own, among them a sign only if it is the sign. -/
theorem lowerFrom_cons (before : List Char) (c : Char) (rest : List Char) :
    ∃ own, lowerFrom before (c :: rest) = own ++ lowerFrom (c :: before) rest ∧ own ≠ [] ∧
      ∀ sign ∈ own, IsSign sign → c = sign := by
  rw [lowerFrom]
  refine ⟨_, rfl, ?_⟩
  split
  · refine ⟨List.cons_ne_nil _ _, fun sign member low => ?_⟩
    rw [List.mem_singleton.mp member] at low
    split at low <;> exact absurd low (by decide)
  · exact ⟨lowerChar_ne_nil c, fun sign member low => lowerChar_sign low member⟩

/-! Texts around an at sign. -/

theorem lowerFrom_behind (rest cs before : List Char) :
    lowerFrom (cs ++ '@' :: before) rest = lowerFrom cs rest := by
  induction rest generalizing cs with
  | nil => rfl
  | cons c rest ih =>
    have tail := ih (c :: cs)
    rw [List.cons_append] at tail
    simp only [lowerFrom, meetsCased_at, tail]

theorem lowerFrom_at (before rest : List Char) :
    lowerFrom before ('@' :: rest) = '@' :: lowerFrom [] rest := by
  have small : lowerChar '@' = ['@'] := by decide
  have behind := lowerFrom_behind rest [] before
  rw [List.nil_append] at behind
  rw [lowerFrom, if_neg (by decide), small, behind]
  rfl

theorem lowerFrom_append_at (before front back : List Char) :
    ∃ small, lowerFrom before (front ++ '@' :: back) = small ++ '@' :: lowerFrom [] back := by
  induction front generalizing before with
  | nil => exact ⟨[], lowerFrom_at before back⟩
  | cons c front ih =>
    obtain ⟨small, written⟩ := ih (c :: before)
    rw [List.cons_append, lowerFrom, written]
    exact ⟨_, (List.append_assoc _ small _).symm⟩

theorem at_of_lowerFrom {before cs small back : List Char}
    (written : lowerFrom before cs = small ++ '@' :: back) :
    ∃ front behind, cs = front ++ '@' :: behind ∧ lowerFrom [] behind = back := by
  -- The letters of one character hold the sign only if the character is the sign.
  induction cs generalizing before small with
  | nil => simp [lowerFrom] at written
  | cons c cs ih =>
    by_cases sign : c = '@'
    · subst sign
      rw [lowerFrom_at] at written
      cases small with
      | nil => exact ⟨[], cs, rfl, (List.cons.inj written).2⟩
      | cons d small =>
        have tail : lowerFrom ['@'] cs = small ++ '@' :: back := by
          exact (lowerFrom_behind cs [] []).trans (List.cons.inj written).2
        obtain ⟨front, behind, rfl, lowered⟩ := ih tail
        exact ⟨'@' :: front, behind, rfl, lowered⟩
    · obtain ⟨own, letters, _, without⟩ := lowerFrom_cons before c cs
      rw [letters] at written
      rcases List.append_eq_append_iff.mp written with ⟨more, _, tail⟩ | ⟨more, ownParts, tail⟩
      · obtain ⟨front, behind, rfl, lowered⟩ := ih tail
        exact ⟨c :: front, behind, rfl, lowered⟩
      · cases more with
        | nil =>
          have next : lowerFrom (c :: before) cs = [] ++ '@' :: back := tail.symm
          obtain ⟨front, behind, rfl, lowered⟩ := ih next
          exact ⟨c :: front, behind, rfl, lowered⟩
        | cons d more =>
          have head := (List.cons.inj tail).1
          have member : '@' ∈ own := by simp [ownParts, ← head]
          exact absurd (without '@' member (by decide)) sign

/-- The small letters of a text end in an at sign and a domain exactly when the text ends in an at
sign and something whose small letters are the domain. -/
theorem suffix_lowercase_iff (domain : List Char) (address : String) :
    ('@' :: domain) <:+ (lowercase address).toList ↔
      ∃ name behind : String, address = name ++ "@" ++ behind ∧
        (lowercase behind).toList = domain := by
  rw [lowercase, String.toList_ofList]
  constructor
  · rintro ⟨small, written⟩
    obtain ⟨front, behind, cut, lowered⟩ := at_of_lowerFrom written.symm
    refine ⟨String.ofList front, String.ofList behind, ?_, ?_⟩
    · apply String.toList_inj.mp
      simp [cut]
    · simpa [lowercase] using lowered
  · rintro ⟨name, behind, rfl, lowered⟩
    obtain ⟨small, written⟩ := lowerFrom_append_at [] name.toList behind.toList
    rw [lowercase, String.toList_ofList] at lowered
    refine ⟨small, ?_⟩
    rw [← lowered, ← written]
    simp

/-! Signs and ASCII letters in a text. -/

theorem mem_lowerFrom {sign : Char} (low : IsSign sign) (small : sign.toLower = sign)
    (before cs : List Char) : sign ∈ lowerFrom before cs ↔ sign ∈ cs := by
  have own_eq : lowerChar sign = [sign] := by
    have ascii : sign.toNat < 128 := by
      have bound := low.2
      omega
    rw [lowerChar, if_pos ascii, small]
  have ascii : sign ≠ '\u03a3' := by
    rintro rfl
    exact absurd low (by decide)
  induction cs generalizing before with
  | nil => simp [lowerFrom]
  | cons c cs ih =>
    obtain ⟨own, letters, _, only⟩ := lowerFrom_cons before c cs
    constructor
    · intro member
      rw [letters] at member
      rcases List.mem_append.mp member with here | later
      · exact only sign here low ▸ List.mem_cons_self
      · exact List.mem_cons_of_mem _ ((ih (c :: before)).mp later)
    · intro member
      rw [lowerFrom]
      rcases List.mem_cons.mp member with rfl | later
      · rw [if_neg ascii, own_eq]
        exact List.mem_append_left _ List.mem_cons_self
      · exact List.mem_append_right _ ((ih (c :: before)).mpr later)

theorem toLower_of_not_capital {c : Char} (other : ¬ (65 ≤ c.toNat ∧ c.toNat ≤ 90)) :
    c.toLower = c := by
  have beyond : ¬ (c.val ≥ 'A'.val ∧ c.val ≤ 'Z'.val) := other
  exact dif_neg beyond

/-- What the capitals of ASCII share with their small letters, every character does. -/
theorem toLower_of_capitals {α : Type} {f : Char → α}
    (capitals : ∀ n < 26, f (Char.ofNat (n + 97)) = f (Char.ofNat (n + 65))) (c : Char) :
    f c.toLower = f c := by
  by_cases capital : 65 ≤ c.toNat ∧ c.toNat ≤ 90
  · obtain ⟨n, number⟩ : ∃ n, c.toNat = n + 65 := ⟨c.toNat - 65, by omega⟩
    have letter : c = Char.ofNat (n + 65) := by
      rw [← number, Char.ofNat_toNat]
    have small : ∀ n < 26, (Char.ofNat (n + 65)).toLower = Char.ofNat (n + 97) := by decide
    have below : n < 26 := by omega
    rw [letter, small n below, capitals n below]
  · rw [toLower_of_not_capital capital]

theorem caseIgnorable_spares_letters :
    ∀ r ∈ caseIgnorable, r.2 < 65 ∨ (90 < r.1 ∧ r.2 < 97) ∨ 122 < r.1 := by
  decide +kernel

theorem isCaseIgnorable_letter {c : Char}
    (letter : (65 ≤ c.toNat ∧ c.toNat ≤ 90) ∨ (97 ≤ c.toNat ∧ c.toNat ≤ 122)) :
    isCaseIgnorable c = false := by
  rw [isCaseIgnorable, inRanges, List.any_eq_false]
  intro r member
  have apart := caseIgnorable_spares_letters r member
  simp only [decide_eq_true_eq]
  omega

theorem isCaseIgnorable_small : isCaseIgnorable ∘ Char.toLower = isCaseIgnorable := by
  have letters : ∀ n < 26, (Char.ofNat (n + 97)).toNat = n + 97 ∧
      (Char.ofNat (n + 65)).toNat = n + 65 := by decide
  refine funext (toLower_of_capitals (f := isCaseIgnorable) fun n below => ?_)
  obtain ⟨small, capital⟩ := letters n below
  rw [isCaseIgnorable_letter (.inr (by omega)), isCaseIgnorable_letter (.inl (by omega))]

theorem meetsCased_small (cs : List Char) : meetsCased (cs.map Char.toLower) = meetsCased cs := by
  unfold meetsCased
  rw [List.dropWhile_map, isCaseIgnorable_small]
  cases cs.dropWhile isCaseIgnorable with
  | nil => rfl
  | cons c rest => exact toLower_of_capitals (f := isCased) (by decide +kernel) c

theorem lowerFrom_small (before cs : List Char) :
    lowerFrom (before.map Char.toLower) (cs.map Char.toLower) = lowerFrom before cs := by
  induction cs generalizing before with
  | nil => rfl
  | cons c cs ih =>
    have tail := ih (c :: before)
    have letters : lowerChar c.toLower = lowerChar c :=
      toLower_of_capitals (f := lowerChar) (by decide +kernel) c
    have sigma : c.toLower = '\u03a3' ↔ c = '\u03a3' := decide_eq_decide.mp
      (toLower_of_capitals (f := fun d => decide (d = '\u03a3')) (by decide +kernel) c)
    rw [List.map_cons] at tail
    simp only [List.map_cons, lowerFrom, letters, sigma, meetsCased_small, tail]

/-- Texts that differ in the case of their ASCII letters only have the same small letters. -/
theorem lowercase_eq_of_ascii_case {s t : String}
    (same : s.toList.map Char.toLower = t.toList.map Char.toLower) : lowercase s = lowercase t := by
  have first := lowerFrom_small [] s.toList
  have second := lowerFrom_small [] t.toList
  rw [List.map_nil] at first second
  rw [lowercase, lowercase, ← first, ← second, same]

/-- Without a capital sigma each character is put into small letters on its own. -/
theorem lowerFrom_eq_flatMap {cs : List Char} (plain : '\u03a3' ∉ cs) (before : List Char) :
    lowerFrom before cs = cs.flatMap lowerChar := by
  induction cs generalizing before with
  | nil => rfl
  | cons c cs ih =>
    have here : c ≠ '\u03a3' := fun same => plain (same ▸ List.mem_cons_self)
    have later : '\u03a3' ∉ cs := fun member => plain (List.mem_cons_of_mem _ member)
    rw [lowerFrom, if_neg here, ih later, List.flatMap_cons]

/-! Texts that are blank. -/

theorem lowercase_eq_empty {s : String} : lowercase s = "" ↔ s = "" := by
  constructor
  · intro nothing
    have lowered : lowerFrom [] s.toList = [] := by
      simpa [lowercase] using congrArg String.toList nothing
    cases chars : s.toList with
    | nil => exact String.toList_eq_nil_iff.mp chars
    | cons c cs =>
      obtain ⟨own, letters, some, _⟩ := lowerFrom_cons [] c cs
      rw [chars, letters] at lowered
      exact absurd (List.append_eq_nil_iff.mp lowered).1 some
  · rintro rfl
    rfl

theorem trim_eq_empty {s : String} : trim s = "" ↔ ∀ c ∈ s.toList, isBlank c = true := by
  have whole : trim s = "" ↔ trimBoth isBlank s.toList = [] := by
    rw [trim, ← String.toList_eq_nil_iff, String.toList_ofList]
  rw [whole, trimBoth, trimEnd, List.reverse_eq_nil_iff, List.dropWhile_eq_nil_iff]
  constructor
  · intro ends c member
    by_cases kept : c ∈ s.toList.dropWhile isBlank
    · exact ends c (List.mem_reverse.mpr kept)
    · rw [← List.takeWhile_append_dropWhile (p := isBlank) (l := s.toList)] at member
      rcases List.mem_append.mp member with dropped | inside
      · exact List.mem_takeWhile_imp dropped
      · exact absurd inside kept
  · intro blank c member
    exact blank c ((List.dropWhile_suffix isBlank).subset (List.mem_reverse.mp member))

end AccessCatalog.Text
