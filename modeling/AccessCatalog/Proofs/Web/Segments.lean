import AccessCatalog.Proofs.Web.Address

/-! Segments of paths. A name that is written as a segment is read back as that name, and segments
that are put behind a directory stay as they are. The exceptions are the two names that consist of
one dot or of two, which stand for directories. -/
namespace AccessCatalog.Web

/-! Names as segments. -/

def segmentName (segment : List Char) : String :=
  String.ofList (Text.ofUtf8Lossy (percentDecode (Text.utf8 segment)))

def segmentOf (name : String) : List Char := (pathSegment name).toList

theorem percentDecode_escaped (bytes rest : List UInt8) :
    percentDecode (Text.utf8 (bytes.flatMap percentByte) ++ rest) =
      bytes ++ percentDecode rest := by
  induction bytes with
  | nil => rfl
  | cons b bytes ih =>
    rw [List.flatMap_cons, Text.utf8_append, List.append_assoc, percentDecode_percentByte, ih,
      List.cons_append]

theorem percentDecode_percentChar {keep : Char → Bool} (noPercent : keep '%' = false) (c : Char)
    (rest : List UInt8) :
    percentDecode (Text.utf8 (percentChar keep c) ++ rest) =
      String.utf8EncodeChar c ++ percentDecode rest := by
  unfold percentChar
  split
  · rename_i kept
    obtain ⟨small, inClass⟩ := Bool.and_eq_true_iff.mp kept
    have ascii : c.toNat < 128 := of_decide_eq_true small
    have notPercent : byteOf c ≠ 37 := by
      intro same
      have percent : c = '%' := byteOf_inj (d := '%') ascii (by decide) same
      rw [percent, noPercent] at inClass
      contradiction
    rw [Text.utf8_cons, utf8EncodeChar_ascii ascii]
    exact percentDecode_plain notPercent rest
  · exact percentDecode_escaped _ rest

theorem percentDecode_percentEncode {keep : Char → Bool} (noPercent : keep '%' = false)
    (cs : List Char) : percentDecode (Text.utf8 (percentEncode keep cs)) = Text.utf8 cs := by
  induction cs with
  | nil => rfl
  | cons c cs ih =>
    have step : percentEncode keep (c :: cs) = percentChar keep c ++ percentEncode keep cs := rfl
    rw [step, Text.utf8_append, percentDecode_percentChar noPercent, ih, Text.utf8_cons]

@[simp]
theorem segmentName_segmentOf (name : String) : segmentName (segmentOf name) = name := by
  have bytes : percentDecode (Text.utf8 (segmentOf name)) = Text.utf8 name.toList := by
    rw [segmentOf, pathSegment, String.toList_ofList]
    exact percentDecode_percentEncode (by decide) _
  rw [segmentName, bytes, Text.ofUtf8Lossy_utf8, String.ofList_toList]

theorem segmentOf_inj {a b : String} (same : segmentOf a = segmentOf b) : a = b := by
  rw [← segmentName_segmentOf a, same, segmentName_segmentOf]

namespace Url

/-! Dots. -/

def isDots (segment : List Char) : Bool := isSingleDot segment || isDoubleDot segment

section Dots

variable {segment : List Char} (ascii : ∀ c ∈ segment, c.toNat < 128)

include ascii

theorem singleDot_forms (lower : segment.map Char.toLower = ".".toList ∨
      segment.map Char.toLower = "%2e".toList) :
    segment = ".".toList ∨ segment = "%2e".toList ∨ segment = "%2E".toList := by
  -- Of the four characters of a dot and its escaped form, only the letter has another case.
  have cases : ∀ c : Char, c.toNat < 128 →
      (c.toLower = '.' → c = '.') ∧ (c.toLower = '%' → c = '%') ∧ (c.toLower = '2' → c = '2') ∧
        (c.toLower = 'e' → c = 'e' ∨ c = 'E') :=
    forall_ascii (by decide)
  simp only [String.reduceToList, List.map_eq_cons_iff, List.map_eq_nil_iff] at lower
  rcases lower with ⟨c, _, rfl, dot, rfl⟩ |
    ⟨a, _, rfl, percent, b, _, rfl, two, c, _, rfl, letter, rfl⟩
  · have same := (cases c (ascii c (by simp))).1 dot
    exact .inl (by rw [same]; rfl)
  · have first := (cases a (ascii a (by simp))).2.1 percent
    have second := (cases b (ascii b (by simp))).2.2.1 two
    have third := (cases c (ascii c (by simp))).2.2.2 letter
    rw [first, second]
    rcases third with rfl | rfl
    · exact .inr (.inl rfl)
    · exact .inr (.inr rfl)

theorem percentDecode_singleDot (lower : segment.map Char.toLower = ".".toList ∨
      segment.map Char.toLower = "%2e".toList) (rest : List UInt8) :
    percentDecode (Text.utf8 segment ++ rest) = 46 :: percentDecode rest := by
  rcases singleDot_forms ascii lower with rfl | rfl | rfl
  · exact percentDecode_plain (by decide) rest
  · rfl
  · rfl

theorem percentDecode_isDots (dots : isDots segment = true) :
    percentDecode (Text.utf8 segment) = [46] ∨ percentDecode (Text.utf8 segment) = [46, 46] := by
  have single : ∀ cs : List Char, (∀ c ∈ cs, c.toNat < 128) → cs.map Char.toLower = ".".toList ∨
      cs.map Char.toLower = "%2e".toList → percentDecode (Text.utf8 cs) = [46] := by
    intro cs small lower
    have decoded := percentDecode_singleDot small lower []
    rwa [List.append_nil] at decoded
  -- Each form of two dots is a form of one behind another.
  have double : ∀ front back : List Char, (front = ".".toList ∨ front = "%2e".toList) →
      (back = ".".toList ∨ back = "%2e".toList) → segment.map Char.toLower = front ++ back →
        percentDecode (Text.utf8 segment) = [46, 46] := by
    intro front back isFront isBack lower
    obtain ⟨xs, ys, rfl, rfl, rfl⟩ := List.map_eq_append_iff.mp lower
    have inFront : ∀ c ∈ xs, c.toNat < 128 := fun c member =>
      ascii c (List.mem_append_left ys member)
    have inBack : ∀ c ∈ ys, c.toNat < 128 := fun c member =>
      ascii c (List.mem_append_right xs member)
    rw [Text.utf8_append, percentDecode_singleDot inFront isFront, single ys inBack isBack]
  simp only [isDots, isSingleDot, isDoubleDot, Bool.or_eq_true, beq_iff_eq] at dots
  rcases dots with (rfl | lower) | ((lower | lower) | lower) | lower
  · exact .inl (single _ ascii (.inl rfl))
  · exact .inl (single _ ascii (.inr lower))
  · exact .inr (double ".".toList ".".toList (.inl rfl) (.inl rfl) lower)
  · exact .inr (double "%2e".toList ".".toList (.inr rfl) (.inl rfl) lower)
  · exact .inr (double ".".toList "%2e".toList (.inl rfl) (.inr rfl) lower)
  · exact .inr (double "%2e".toList "%2e".toList (.inr rfl) (.inr rfl) lower)

end Dots

theorem isDots_segmentOf {name : String} :
    isDots (segmentOf name) = true ↔ name = "." ∨ name = ".." := by
  have ascii : ∀ c ∈ segmentOf name, c.toNat < 128 := fun c member =>
    (pathSegment_segmentChar name c member).1
  constructor
  · intro dots
    have back := segmentName_segmentOf name
    unfold segmentName at back
    rcases percentDecode_isDots ascii dots with one | two
    · rw [one] at back
      exact .inl (back.symm.trans (by decide +kernel))
    · rw [two] at back
      exact .inr (back.symm.trans (by decide +kernel))
  · rintro (rfl | rfl) <;> decide

/-! Paths from segments. -/

theorem follow_cons {directory rest : List (List Char)} {segment : List Char}
    (plain : isDots segment = false) :
    follow directory (segment :: rest) = follow (directory ++ [segment]) rest := by
  obtain ⟨notSingle, notDouble⟩ := Bool.or_eq_false_iff.mp plain
  cases rest <;> simp [follow, notSingle, notDouble]

/-- Segments without dots go behind a directory as they are. -/
theorem follow_plain {segments : List (List Char)} (plain : ∀ s ∈ segments, isDots s = false)
    (directory : List (List Char)) : follow directory segments = directory ++ segments := by
  induction segments generalizing directory with
  | nil => simp [follow]
  | cons segment rest ih =>
    rw [follow_cons (plain segment List.mem_cons_self),
      ih fun s member => plain s (List.mem_cons_of_mem _ member), List.append_assoc]
    rfl

/-- What remains of segments has no dots, and nothing is added but empty segments. -/
theorem mem_follow {segments directory : List (List Char)} {segment : List Char}
    (member : segment ∈ follow directory segments) :
    segment ∈ directory ∨ segment ∈ segments ∧ isDots segment = false ∨ segment = [] := by
  have front : ∀ {directory : List (List Char)}, segment ∈ directory.dropLast →
      segment ∈ directory := fun old => List.dropLast_subset _ old
  have behind : ∀ {s : List Char} {rest : List (List Char)},
      segment ∈ rest ∧ isDots segment = false ∨ segment = [] →
        segment ∈ s :: rest ∧ isDots segment = false ∨ segment = [] :=
    Or.imp_left fun ⟨inRest, plain⟩ => ⟨List.mem_cons_of_mem _ inRest, plain⟩
  have plain : ∀ {s : List Char}, ¬isDoubleDot s = true → ¬isSingleDot s = true →
      isDots s = false := by
    intro s notDouble notSingle
    simp [isDots, notDouble, notSingle]
  fun_induction follow directory segments with
  | case1 => exact .inl member
  | case2 directory s double =>
    exact (List.mem_append.mp member).imp front fun new => .inr (List.mem_singleton.mp new)
  | case3 directory s _ single =>
    exact (List.mem_append.mp member).imp id fun new => .inr (List.mem_singleton.mp new)
  | case4 directory s notDouble notSingle =>
    refine (List.mem_append.mp member).imp id fun new => ?_
    rw [List.mem_singleton.mp new]
    exact .inl ⟨List.mem_singleton_self s, plain notDouble notSingle⟩
  | case5 directory s rest _ double ih => exact (ih member).imp front behind
  | case6 directory s rest _ _ single ih => exact (ih member).imp id behind
  | case7 directory s rest _ notDouble notSingle ih =>
    rcases ih member with old | new
    · refine (List.mem_append.mp old).imp id fun here => ?_
      rw [List.mem_singleton.mp here]
      exact .inl ⟨List.mem_cons_self, plain notDouble notSingle⟩
    · exact .inr (behind new)

theorem length_follow_le (directory segments : List (List Char)) :
    (follow directory segments).length ≤ directory.length + segments.length := by
  fun_induction follow directory segments with
  | case1 => simp
  | case2 directory s double | case3 directory s _ single | case4 directory s _ _ =>
    simp
  | case5 directory s rest _ double ih =>
    simp only [List.length_dropLast, List.length_cons] at ih ⊢
    omega
  | case6 directory s rest _ _ single ih =>
    simp only [List.length_cons]
    omega
  | case7 directory s rest _ notDouble notSingle ih =>
    simp only [List.length_append, List.length_cons, List.length_nil] at ih ⊢
    omega

/-- Dots with something behind them take no place of their own. -/
theorem length_follow_dots {rest : List (List Char)} {segment : List Char}
    (dots : isDots segment = true) (behind : rest ≠ []) (directory : List (List Char)) :
    (follow directory (segment :: rest)).length ≤ directory.length + rest.length := by
  obtain ⟨next, others, rfl⟩ := List.exists_cons_of_ne_nil behind
  by_cases double : isDoubleDot segment = true
  · have bound := length_follow_le directory.dropLast (next :: others)
    rw [List.length_dropLast] at bound
    simp only [follow, double, if_true]
    omega
  · have single : isSingleDot segment = true := by simpa [isDots, double] using dots
    simp only [follow, double, single, if_true]
    exact length_follow_le directory (next :: others)

theorem splitAt_joined {α : Type} [BEq α] [LawfulBEq α] {mark : α} {first : List α}
    {segments : List (List α)} (noMark : mark ∉ first) (absent : ∀ s ∈ segments, mark ∉ s) :
    Form.splitAt mark (first ++ segments.flatMap (mark :: ·)) = first :: segments := by
  induction segments generalizing first with
  | nil => rw [List.flatMap_nil, List.append_nil, Form.splitAt_of_not_mem noMark]
  | cons s rest ih =>
    rw [List.flatMap_cons, List.cons_append, Form.splitAt_append, Form.splitAt_of_not_mem noMark,
      ih (absent s List.mem_cons_self) fun t member => absent t (List.mem_cons_of_mem _ member)]
    rfl

theorem percentEncode_kept {keep : Char → Bool} {cs : List Char}
    (kept : ∀ c ∈ cs, c.toNat < 128 ∧ keep c = true) : percentEncode keep cs = cs := by
  induction cs with
  | nil => rfl
  | cons c cs ih =>
    have step : percentEncode keep (c :: cs) = percentChar keep c ++ percentEncode keep cs := rfl
    obtain ⟨ascii, inClass⟩ := kept c List.mem_cons_self
    rw [step, ih fun d member => kept d (List.mem_cons_of_mem _ member)]
    simp [percentChar, ascii, inClass]

theorem map_slashes {special : Bool} {cs : List Char}
    (only : ∀ c ∈ cs, c = '/' ∨ IsSegmentChar c) :
    cs.map (fun c => if isSlash special c then '/' else c) = cs := by
  refine (List.map_congr_left fun c member => ?_).trans (List.map_id cs)
  rcases only c member with rfl | ⟨_, _, noSlash, noBackslash⟩
  · simp
  · simp [isSlash, noSlash, noBackslash]

theorem percentEncode_segment {segment : List Char} (plain : ∀ c ∈ segment, IsSegmentChar c) :
    percentEncode inPath segment = segment :=
  percentEncode_kept fun c member => ⟨(plain c member).1, (plain c member).2.1⟩

theorem slash_not_mem {segment : List Char} (plain : ∀ c ∈ segment, IsSegmentChar c) :
    '/' ∉ segment := fun member => (plain '/' member).2.2.1 rfl

theorem pathAfter_joined {first : List Char} {segments : List (List Char)}
    (plain : ∀ s ∈ first :: segments, ∀ c ∈ s, IsSegmentChar c) (special : Bool)
    (directory : List (List Char)) :
    pathAfter special directory (first ++ segments.flatMap ('/' :: ·)) =
      .segments (follow directory (first :: segments)) := by
  have only : ∀ c ∈ first ++ segments.flatMap ('/' :: ·), c = '/' ∨ IsSegmentChar c := by
    intro c member
    rcases List.mem_append.mp member with inFirst | behind
    · exact .inr (plain first List.mem_cons_self c inFirst)
    · obtain ⟨s, inSegments, inside⟩ := List.mem_flatMap.mp behind
      exact (List.mem_cons.mp inside).imp id (plain s (List.mem_cons_of_mem _ inSegments) c)
  have encoded : (first :: segments).map (percentEncode inPath) = first :: segments :=
    (List.map_congr_left fun s member => percentEncode_segment (plain s member)).trans
      (List.map_id _)
  have split := splitAt_joined (slash_not_mem (plain first List.mem_cons_self))
    fun s member => slash_not_mem (plain s (List.mem_cons_of_mem _ member))
  rw [pathAfter, splitSlashes, map_slashes only, split, encoded]

theorem pathAfter_cons {first : List Char} (plain : ∀ c ∈ first, IsSegmentChar c)
    (noDots : isDots first = false) (special : Bool) (directory : List (List Char))
    (path : List Char) : pathAfter special directory (first ++ '/' :: path) =
      pathAfter special (directory ++ [first]) path := by
  have split : splitSlashes special (first ++ '/' :: path) =
      first :: splitSlashes special path := by
    have slash : isSlash special '/' = true := by simp [isSlash]
    rw [splitSlashes, List.map_append, map_slashes fun c member => .inr (plain c member),
      List.map_cons, slash, if_pos rfl, Form.splitAt_append,
      Form.splitAt_of_not_mem (slash_not_mem plain)]
    rfl
  rw [pathAfter, split, List.map_cons, percentEncode_segment plain, follow_cons noDots, pathAfter]

end Url
end AccessCatalog.Web
