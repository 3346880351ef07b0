import AccessCatalog.Proofs.Web.Address
import AccessCatalog.Web.Link

/-! The entries of link headers. The text of a header is cut at its commas and its semicolons
before the brackets of a target are looked at, so that an entry is read as it was written if its
target has neither of these signs, and is not read at all if it has one. -/
namespace AccessCatalog.Web

/-- The characters that a header may have, so that it can be read. -/
def IsReadable (c : Char) : Prop := c = '\t' ∨ (' ' ≤ c ∧ c < '\x7f')

instance (c : Char) : Decidable (IsReadable c) :=
  inferInstanceAs (Decidable (c = '\t' ∨ (' ' ≤ c ∧ c < '\x7f')))

def LinkEntry.text (e : LinkEntry) : List Char :=
  '<' :: (e.target ++ ">; rel=\"".toList ++ e.relation ++ ['"'])

/-- An entry whose parts hold none of the signs that its text is cut at. -/
structure LinkEntry.Plain (e : LinkEntry) : Prop where
  target : ∀ c ∈ e.target, IsReadable c ∧ c ∉ [',', ';', '<', '>']
  relation : ∀ c ∈ e.relation, IsReadable c ∧ c ∉ [',', ';', '"']

/-- An entry as the grammar of links has it: an address without angle brackets, and a token. -/
structure LinkEntry.Bracketed (e : LinkEntry) : Prop where
  target : ∀ c ∈ e.target, IsReadable c ∧ c ∉ ['<', '>']
  relation : ∀ c ∈ e.relation, IsReadable c ∧ c ∉ [',', ';', '"']

/-- The same as a check. -/
def LinkEntry.isBracketed (e : LinkEntry) : Bool :=
  (e.target.all fun c => decide (IsReadable c ∧ c ∉ ['<', '>'])) &&
    e.relation.all fun c => decide (IsReadable c ∧ c ∉ [',', ';', '"'])

theorem LinkEntry.bracketed_of_check {e : LinkEntry} (checked : e.isBracketed = true) :
    e.Bracketed := by
  rw [isBracketed, Bool.and_eq_true] at checked
  exact ⟨forall_of_all checked.1, forall_of_all checked.2⟩

/-- Whether the target holds none of the signs that a header is cut at. -/
def LinkEntry.isWhole (e : LinkEntry) : Bool := e.target.all fun c => c != ',' && c != ';'

theorem LinkEntry.isWhole_iff {e : LinkEntry} :
    e.isWhole = true ↔ ',' ∉ e.target ∧ ';' ∉ e.target := by
  simp only [isWhole, List.all_eq_true, Bool.and_eq_true, bne_iff_ne]
  constructor
  · intro other
    exact ⟨fun member => (other ',' member).1 rfl, fun member => (other ';' member).2 rfl⟩
  · rintro ⟨comma, semicolon⟩ c member
    exact ⟨fun same => comma (same ▸ member), fun same => semicolon (same ▸ member)⟩

theorem LinkEntry.plain_iff {e : LinkEntry} : e.Plain ↔ e.Bracketed ∧ e.isWhole = true := by
  rw [isWhole_iff]
  constructor
  · intro plain
    refine ⟨⟨fun c member => ?_, plain.relation⟩, fun member => ?_, fun member => ?_⟩
    · obtain ⟨readable, other⟩ := plain.target c member
      exact ⟨readable, fun bracket => other (List.mem_cons_of_mem _ (List.mem_cons_of_mem _ bracket))⟩
    · exact (plain.target ',' member).2 (by decide)
    · exact (plain.target ';' member).2 (by decide)
  · rintro ⟨bracketed, comma, semicolon⟩
    refine ⟨fun c member => ?_, bracketed.relation⟩
    obtain ⟨readable, other⟩ := bracketed.target c member
    refine ⟨readable, fun sign => ?_⟩
    rcases List.mem_cons.mp sign with rfl | sign
    · exact comma member
    · rcases List.mem_cons.mp sign with rfl | sign
      · exact semicolon member
      · exact other sign

structure PaddedLink where
  before : List Char
  entry : LinkEntry
  after : List Char

namespace PaddedLink

def text (l : PaddedLink) : List Char := l.before ++ (l.entry.text ++ l.after)

structure Plain (l : PaddedLink) : Prop where
  before : ∀ c ∈ l.before, c = ' ' ∨ c = '\t'
  entry : l.entry.Plain
  after : ∀ c ∈ l.after, c = ' ' ∨ c = '\t'

structure Bracketed (l : PaddedLink) : Prop where
  before : ∀ c ∈ l.before, c = ' ' ∨ c = '\t'
  entry : l.entry.Bracketed
  after : ∀ c ∈ l.after, c = ' ' ∨ c = '\t'

/-- The same as a check. -/
def isBracketed (l : PaddedLink) : Bool :=
  (l.before.all fun c => c == ' ' || c == '\t') && l.entry.isBracketed &&
    l.after.all fun c => c == ' ' || c == '\t'

theorem bracketed_of_check {l : PaddedLink} (checked : l.isBracketed = true) : l.Bracketed := by
  simp only [isBracketed, Bool.and_eq_true, List.all_eq_true, Bool.or_eq_true, beq_iff_eq]
    at checked
  obtain ⟨⟨before, entry⟩, after⟩ := checked
  exact ⟨before, LinkEntry.bracketed_of_check entry, after⟩

theorem Plain.bracketed {l : PaddedLink} (plain : l.Plain) : l.Bracketed :=
  ⟨plain.before, (LinkEntry.plain_iff.mp plain.entry).1, plain.after⟩

end PaddedLink

section Trim

variable {drop : Char → Bool} {before core after : List Char}

theorem dropWhile_front (dropped : ∀ c ∈ before, drop c = true)
    (kept : ∀ c ∈ core.head?, drop c = false) :
    (before ++ core).dropWhile drop = core := by
  rw [List.dropWhile_append_of_pos dropped]
  cases core with
  | nil => rfl
  | cons c cs => simp [kept c rfl]

/-- Trimming takes away what is to be dropped, and nothing of a text that ends in other signs. -/
theorem trimBoth_padded (droppedBefore : ∀ c ∈ before, drop c = true)
    (droppedAfter : ∀ c ∈ after, drop c = true) (keptFirst : ∀ c ∈ core.head?, drop c = false)
    (keptLast : ∀ c ∈ core.getLast?, drop c = false) :
    Text.trimBoth drop (before ++ (core ++ after)) = core := by
  cases core with
  | nil =>
    have nothing : (before ++ ([] ++ after) ++ []).dropWhile drop = [] := by
      refine List.dropWhile_append_of_pos fun c member => ?_
      rcases List.mem_append.mp member with inBefore | inAfter
      · exact droppedBefore c inBefore
      · exact droppedAfter c inAfter
    rw [List.append_nil] at nothing
    rw [Text.trimBoth, nothing]
    rfl
  | cons c cs =>
    have front : (before ++ (c :: cs ++ after)).dropWhile drop = c :: cs ++ after :=
      dropWhile_front droppedBefore keptFirst
    have back : (after.reverse ++ (c :: cs).reverse).dropWhile drop = (c :: cs).reverse := by
      refine dropWhile_front (fun d member => droppedAfter d (List.mem_reverse.mp member)) ?_
      rw [List.head?_reverse]
      exact keptLast
    rw [Text.trimBoth, front, Text.trimEnd, List.reverse_append, back, List.reverse_reverse]

end Trim

section Cut

variable {α : Type} [BEq α] [LawfulBEq α] {mark : α}

theorem splitAt_intercalate {pieces : List (List α)} (some : pieces ≠ []) :
    Form.splitAt mark ([mark].intercalate pieces) = pieces.flatMap (Form.splitAt mark) := by
  induction pieces with
  | nil => contradiction
  | cons piece rest ih =>
    cases rest with
    | nil => simp [List.intercalate]
    | cons next rest =>
      have tail := ih (by simp)
      rw [List.intercalate_cons_cons, List.append_assoc, List.singleton_append,
        Form.splitAt_append, tail]
      rfl

/-- What stands behind a text without the mark goes to the last of its pieces. -/
theorem splitAt_append_of_not_mem (xs : List α) {ys : List α} (absent : mark ∉ ys) :
    ∃ pieces last, Form.splitAt mark xs = pieces ++ [last] ∧
      Form.splitAt mark (xs ++ ys) = pieces ++ [last ++ ys] := by
  induction xs with
  | nil => exact ⟨[], [], rfl, Form.splitAt_of_not_mem absent⟩
  | cons x xs ih =>
    obtain ⟨pieces, last, front, whole⟩ := ih
    by_cases hit : (x == mark) = true
    · refine ⟨[] :: pieces, last, ?_, ?_⟩
      · simp [Form.splitAt, hit, front]
      · simp [Form.splitAt, hit, whole]
    · cases pieces with
      | nil => exact ⟨[], x :: last, by simp [Form.splitAt, hit, front], by
          simp [Form.splitAt, hit, whole]⟩
      | cons piece pieces =>
        refine ⟨(x :: piece) :: pieces, last, ?_, ?_⟩
        · simp [Form.splitAt, hit, front]
        · simp [Form.splitAt, hit, whole]

/-- The pieces that a text is cut into are made of what the text is made of. -/
theorem mem_of_splitAt {xs piece : List α} {x : α} (cut : piece ∈ Form.splitAt mark xs)
    (member : x ∈ piece) (other : x ≠ mark) : x ∈ xs := by
  have inside : x ∈ (Form.splitAt mark xs).flatMap (mark :: ·) :=
    List.mem_flatMap.mpr ⟨piece, cut, List.mem_cons_of_mem _ member⟩
  rw [Form.flatMap_splitAt] at inside
  exact (List.mem_cons.mp inside).resolve_left other

end Cut

namespace PaddedLink

theorem isBlank_of_padding {padding : List Char} (blank : ∀ c ∈ padding, c = ' ' ∨ c = '\t') :
    ∀ c ∈ padding, Text.isBlank c = true := by
  intro c member
  rcases blank c member with rfl | rfl <;> decide

theorem not_mem_padding (mark : Char) {padding : List Char}
    (blank : ∀ c ∈ padding, c = ' ' ∨ c = '\t') (visible : mark ≠ ' ' ∧ mark ≠ '\t') :
    mark ∉ padding := by
  intro member
  exact (blank mark member).elim visible.1 visible.2

theorem unwrap?_brackets (target : List Char) :
    unwrap? '<' '>' ('<' :: (target ++ ['>'])) = some target := by
  simp [unwrap?]

theorem splitAt_text {l : PaddedLink} (plain : l.Plain) :
    Form.splitAt ';' l.text = [l.before ++ ('<' :: (l.entry.target ++ ['>']) ++ []),
      [' '] ++ ("rel=".toList ++ (['"'] ++ (l.entry.relation ++ ['"'])) ++ l.after)] := by
  have inFront : ';' ∉ l.before ++ ('<' :: (l.entry.target ++ ['>']) ++ []) := by
    have inTarget : ';' ∉ l.entry.target := fun member =>
      (plain.entry.target ';' member).2 (by decide)
    simp [not_mem_padding ';' plain.before (by decide), inTarget]
  have inBack : ';' ∉
      [' '] ++ ("rel=".toList ++ (['"'] ++ (l.entry.relation ++ ['"'])) ++ l.after) := by
    have inRelation : ';' ∉ l.entry.relation := fun member =>
      (plain.entry.relation ';' member).2 (by decide)
    simp [not_mem_padding ';' plain.after (by decide), inRelation]
  have cut : l.text = (l.before ++ ('<' :: (l.entry.target ++ ['>']) ++ [])) ++
      ';' :: ([' '] ++ ("rel=".toList ++ (['"'] ++ (l.entry.relation ++ ['"'])) ++ l.after)) := by
    simp [text, LinkEntry.text]
  rw [cut, Form.splitAt_append, Form.splitAt_of_not_mem inFront, Form.splitAt_of_not_mem inBack]
  rfl

theorem parse?_text {l : PaddedLink} (plain : l.Plain) :
    LinkEntry.parse? l.text = some l.entry := by
  have target : Text.trimBoth Text.isBlank (l.before ++ ('<' :: (l.entry.target ++ ['>']) ++ [])) =
      '<' :: (l.entry.target ++ ['>']) := by
    apply trimBoth_padded (isBlank_of_padding plain.before) (by simp)
    · intro c first
      cases first
      decide
    · intro c last
      rw [← List.cons_append, List.getLast?_concat] at last
      cases last
      decide
  have parameter : Text.trimBoth Text.isBlank
      ([' '] ++ ("rel=".toList ++ (['"'] ++ (l.entry.relation ++ ['"'])) ++ l.after)) =
        "rel=".toList ++ (['"'] ++ (l.entry.relation ++ ['"'])) := by
    apply trimBoth_padded (forall_of_all (by decide)) (isBlank_of_padding plain.after)
    · intro c first
      cases first
      decide
    · intro c last
      rw [← List.append_assoc, ← List.append_assoc, List.getLast?_concat] at last
      cases last
      decide
  have relation : Text.trimBoth (· == '"') (['"'] ++ (l.entry.relation ++ ['"'])) =
      l.entry.relation := by
    have kept : ∀ c ∈ l.entry.relation, (c == '"') = false := by
      intro c member
      have other := (plain.entry.relation c member).2
      simp only [List.mem_cons, not_or] at other
      simpa using other.2.2.1
    apply trimBoth_padded (forall_of_all (by decide)) (forall_of_all (by decide))
    · exact fun c first => kept c (List.mem_of_mem_head? first)
    · exact fun c last => kept c (List.mem_of_mem_getLast? last)
  have stripped : ∀ cs, stripFront? "rel=".toList ("rel=".toList ++ cs) = some cs := fun _ => rfl
  simp only [LinkEntry.parse?, splitAt_text plain, target, unwrap?_brackets, List.filterMap_cons,
    List.filterMap_nil, parameter, stripped, List.head?_cons, Option.bind_eq_bind,
    Option.bind_some, relation]

theorem not_mem_text {l : PaddedLink} (plain : l.Plain) : ',' ∉ l.text := by
  have inTarget : ',' ∉ l.entry.target := fun member =>
    (plain.entry.target ',' member).2 (by decide)
  have inRelation : ',' ∉ l.entry.relation := fun member =>
    (plain.entry.relation ',' member).2 (by decide)
  simp [text, LinkEntry.text, inTarget, inRelation,
    not_mem_padding ',' plain.before (by decide),
    not_mem_padding ',' plain.after (by decide)]

theorem text_readable {l : PaddedLink} (bracketed : l.Bracketed) :
    ∀ c ∈ l.text, IsReadable c := by
  have padding : ∀ c : Char, c = ' ' ∨ c = '\t' → IsReadable c := by
    rintro c (rfl | rfl)
    · exact .inr (by decide)
    · exact .inl rfl
  have sign : ∀ c ∈ "<>; rel=\"".toList, IsReadable c := forall_of_all (by decide)
  have parts : l.text = l.before ++ (['<'] ++ (l.entry.target ++ (">; rel=\"".toList ++
      (l.entry.relation ++ (['"'] ++ l.after))))) := by
    simp [text, LinkEntry.text]
  rw [parts]
  simp only [List.forall_mem_append]
  refine ⟨fun c h => padding c (bracketed.before c h), ?_,
    fun c h => (bracketed.entry.target c h).1, ?_, fun c h => (bracketed.entry.relation c h).1, ?_,
    fun c h => padding c (bracketed.after c h)⟩
  · exact fun c h => sign c (List.mem_of_mem_take (i := 1) h)
  · exact fun c h => sign c (List.mem_of_mem_drop (i := 1) h)
  · exact fun c h => sign c (List.mem_of_mem_drop (i := 8) h)

/-! Texts that are cut inside their target. -/

theorem mem_of_unwrap? {first last : Char} {cs inner : List Char}
    (wrapped : unwrap? first last cs = some inner) : first ∈ cs ∧ last ∈ cs := by
  cases cs with
  | nil => cases wrapped
  | cons c rest =>
    simp only [unwrap?] at wrapped
    split at wrapped
    · rename_i ends
      obtain ⟨rfl, isLast⟩ := ends
      exact ⟨List.mem_cons_self, List.mem_cons_of_mem _ (List.mem_of_getLast? isLast)⟩
    · cases wrapped

theorem mem_of_trimBoth {drop : Char → Bool} {cs : List Char} {c : Char}
    (member : c ∈ Text.trimBoth drop cs) : c ∈ cs := by
  have kept := (List.dropWhile_sublist drop).mem (List.mem_reverse.mp member)
  exact (List.dropWhile_sublist drop).mem (List.mem_reverse.mp kept)

/-- What stands in front of the first semicolon of an entry that is read has both brackets. -/
theorem brackets_of_parse? {cs : List Char} {e : LinkEntry} (parsed : LinkEntry.parse? cs = some e) :
    ∃ front ∈ (Form.splitAt ';' cs).head?, '<' ∈ front ∧ '>' ∈ front := by
  simp only [LinkEntry.parse?] at parsed
  split at parsed
  · rename_i front parameters cut
    simp only [Option.bind_eq_bind, Option.bind_eq_some_iff] at parsed
    obtain ⟨target, wrapped, _⟩ := parsed
    obtain ⟨opened, closed⟩ := mem_of_unwrap? wrapped
    exact ⟨front, by rw [cut]; rfl, mem_of_trimBoth opened, mem_of_trimBoth closed⟩
  · cases parsed

/-- No entry is read if the text in front of its first semicolon is a piece of one that lacks a
bracket. -/
theorem parse?_unbracketed {cs whole : List Char} (missing : '<' ∉ whole ∨ '>' ∉ whole)
    (piece : ∀ front ∈ (Form.splitAt ';' cs).head?, front ∈ Form.splitAt ';' whole) :
    LinkEntry.parse? cs = none := by
  cases parsed : LinkEntry.parse? cs with
  | none => rfl
  | some e =>
    obtain ⟨front, first, opened, closed⟩ := brackets_of_parse? parsed
    have cut := piece front first
    rcases missing with noOpening | noClosing
    · exact absurd (mem_of_splitAt cut opened (by decide)) noOpening
    · exact absurd (mem_of_splitAt cut closed (by decide)) noClosing

/-- A bracket that is missing in front of some semicolon is missing in front of the first. -/
theorem parse?_cut {front : List Char} (missing : '<' ∉ front ∨ '>' ∉ front) (back : List Char) :
    LinkEntry.parse? (front ++ ';' :: back) = none := by
  refine parse?_unbracketed missing fun piece first => ?_
  rw [Form.splitAt_append, List.head?_append, Option.mem_def] at first
  rcases Option.or_eq_some_iff.mp first with here | ⟨nothing, _⟩
  · exact List.mem_of_mem_head? here
  · exact absurd (List.head?_eq_none_iff.mp nothing) (Form.splitAt_ne_nil ';' front)

/-- The part of an entry behind its target. -/
def rest (l : PaddedLink) : List Char :=
  ' ' :: ("rel=\"".toList ++ (l.entry.relation ++ '"' :: l.after))

theorem text_eq (l : PaddedLink) :
    l.text = (l.before ++ '<' :: l.entry.target) ++ '>' :: ';' :: l.rest := by
  have signs : ">; rel=\"".toList = '>' :: ';' :: ' ' :: "rel=\"".toList := by decide
  simp only [text, LinkEntry.text, rest, signs, List.append_assoc, List.cons_append,
    List.nil_append]

variable {l : PaddedLink} (bracketed : l.Bracketed)
include bracketed

theorem comma_not_mem_rest : ',' ∉ l.rest := by
  have inRelation : ',' ∉ l.entry.relation := fun member =>
    (bracketed.entry.relation ',' member).2 (by decide)
  simp [rest, inRelation, not_mem_padding ',' bracketed.after (by decide)]

theorem bracket_not_mem_target : '<' ∉ l.entry.target ∧ '>' ∉ l.entry.target :=
  ⟨fun member => (bracketed.entry.target '<' member).2 (by decide),
    fun member => (bracketed.entry.target '>' member).2 (by decide)⟩

/-- A semicolon in the target cuts the entry before its target is closed. -/
theorem parse?_semicolon (inside : ';' ∈ l.entry.target) : LinkEntry.parse? l.text = none := by
  obtain ⟨start, rest, cut⟩ := List.append_of_mem inside
  have unclosed : '>' ∉ l.before ++ '<' :: start := by
    have inStart : '>' ∉ start := fun member =>
      (bracket_not_mem_target bracketed).2 (cut ▸ List.mem_append_left _ member)
    simp [not_mem_padding '>' bracketed.before (by decide), inStart]
  have parts : l.text = (l.before ++ '<' :: start) ++ ';' :: (rest ++ '>' :: ';' :: l.rest) := by
    rw [text_eq, cut]
    simp
  rw [parts]
  exact parse?_cut (.inr unclosed) _

/-- A comma in the target cuts the entry into pieces of which none has both brackets. -/
theorem parse?_comma (inside : ',' ∈ l.entry.target) :
    ∀ piece ∈ Form.splitAt ',' l.text, LinkEntry.parse? piece = none := by
  obtain ⟨start, rest, cut⟩ := List.append_of_mem inside
  obtain ⟨noOpening, noClosing⟩ := bracket_not_mem_target bracketed
  have unopened : '<' ∉ rest := fun member =>
    noOpening (cut ▸ List.mem_append_right _ (List.mem_cons_of_mem _ member))
  have unclosed : '>' ∉ l.before ++ '<' :: l.entry.target := by
    simp [not_mem_padding '>' bracketed.before (by decide), noClosing]
  have noComma : ',' ∉ '>' :: ';' :: l.rest := by
    simp [comma_not_mem_rest bracketed]
  obtain ⟨pieces, last, inFront, whole⟩ :=
    splitAt_append_of_not_mem (l.before ++ '<' :: l.entry.target) noComma
  have isLast : last ∈ Form.splitAt ',' rest := by
    have parts : l.before ++ '<' :: l.entry.target = (l.before ++ '<' :: start) ++ ',' :: rest := by
      simp [cut]
    have ends := congrArg List.getLast? inFront
    rw [parts, Form.splitAt_append, List.getLast?_concat, List.getLast?_append] at ends
    rcases Option.or_eq_some_iff.mp ends with here | ⟨nothing, _⟩
    · exact List.mem_of_getLast? here
    · exact absurd (List.getLast?_eq_none_iff.mp nothing) (Form.splitAt_ne_nil ',' rest)
  intro piece member
  rw [text_eq, whole] at member
  rcases List.mem_append.mp member with inside | isEnd
  · have cutOff : piece ∈ Form.splitAt ',' (l.before ++ '<' :: l.entry.target) :=
      inFront ▸ List.mem_append_left _ inside
    have unclosedPiece : '>' ∉ piece := fun closed =>
      unclosed (mem_of_splitAt cutOff closed (by decide))
    exact parse?_unbracketed (.inr unclosedPiece) fun _ first => List.mem_of_mem_head? first
  · have unopenedLast : '<' ∉ last ++ ['>'] := by
      have inLast : '<' ∉ last := fun opened => unopened (mem_of_splitAt isLast opened (by decide))
      simp [inLast]
    have parts : piece = (last ++ ['>']) ++ ';' :: l.rest := by
      simpa using isEnd
    rw [parts]
    exact parse?_cut (.inl unopenedLast) _

theorem entries_text : (Form.splitAt ',' l.text).filterMap LinkEntry.parse? =
    [l.entry].filter LinkEntry.isWhole := by
  by_cases whole : l.entry.isWhole = true
  · have plain : l.Plain := ⟨bracketed.before, LinkEntry.plain_iff.mpr ⟨bracketed.entry, whole⟩,
      bracketed.after⟩
    rw [Form.splitAt_of_not_mem (not_mem_text plain)]
    simp [parse?_text plain, whole]
  · have dropped : (Form.splitAt ',' l.text).filterMap LinkEntry.parse? = [] := by
      rw [List.filterMap_eq_nil_iff]
      by_cases comma : ',' ∈ l.entry.target
      · exact parse?_comma bracketed comma
      · have semicolon : ';' ∈ l.entry.target := Decidable.byContradiction fun absent =>
          whole (LinkEntry.isWhole_iff.mpr ⟨comma, absent⟩)
        have uncut : ',' ∉ l.text := by
          rw [text_eq]
          simp [not_mem_padding ',' bracketed.before (by decide), comma,
            comma_not_mem_rest bracketed]
        rw [Form.splitAt_of_not_mem uncut]
        simpa using parse?_semicolon bracketed semicolon
    simp [dropped, whole]

end PaddedLink

def linkValue (links : List PaddedLink) : String :=
  String.ofList ([','].intercalate (links.map PaddedLink.text))

/-- The entries that are read from a header are those with a whole target. -/
theorem entries_linkValue {links : List PaddedLink} (bracketed : ∀ l ∈ links, l.Bracketed) :
    (Form.splitAt ',' (linkValue links).toList).filterMap LinkEntry.parse? =
      (links.map (·.entry)).filter LinkEntry.isWhole := by
  cases links with
  | nil => rfl
  | cons l rest =>
    have pieces : Form.splitAt ',' (linkValue (l :: rest)).toList =
        ((l :: rest).map PaddedLink.text).flatMap (Form.splitAt ',') := by
      rw [linkValue, String.toList_ofList]
      exact splitAt_intercalate (by simp)
    rw [pieces]
    clear pieces
    generalize l :: rest = links at bracketed
    induction links with
    | nil => rfl
    | cons k links ih =>
      have here := PaddedLink.entries_text (bracketed k List.mem_cons_self)
      have tail := ih fun m member => bracketed m (List.mem_cons_of_mem _ member)
      rw [List.map_cons, List.flatMap_cons, List.filterMap_append, here, tail, List.map_cons,
        ← List.filter_append]
      rfl

theorem linkValue_readable {links : List PaddedLink} (bracketed : ∀ l ∈ links, l.Bracketed) :
    Headers.isReadable (linkValue links) = true := by
  have pieces : ∀ c ∈ [','].intercalate (links.map PaddedLink.text), IsReadable c := by
    induction links with
    | nil => simp [List.intercalate]
    | cons l rest ih =>
      have here := PaddedLink.text_readable (bracketed l List.mem_cons_self)
      have tail := ih fun k member => bracketed k (List.mem_cons_of_mem _ member)
      cases rest with
      | nil => simpa [List.intercalate] using here
      | cons k rest =>
        rw [List.map_cons, List.map_cons, List.intercalate_cons_cons, List.append_assoc]
        simp only [List.forall_mem_append]
        exact ⟨here, fun c comma => List.mem_singleton.mp comma ▸ .inr (by decide), tail⟩
  rw [Headers.isReadable, linkValue, String.toList_ofList, List.all_eq_true]
  intro c member
  rcases pieces c member with tab | ⟨low, high⟩
  · simp [tab]
  · simp [low, high]

def LinkEntry.isNext (e : LinkEntry) : Bool := e.relation = "next".toList

/-- The cursor of the headers is that of the first link to the next page among those with a whole
target, however the links are spread over the headers. -/
theorem nextCursor_of_values {headers : Headers} {values : List (List PaddedLink)}
    (written : headers.values "link" = values.map linkValue)
    (bracketed : ∀ l ∈ values.flatten, l.Bracketed) :
    nextCursor headers = ((((values.flatten.map (·.entry)).filter LinkEntry.isWhole).find?
      LinkEntry.isNext).bind fun e => afterParam? e.target).getD "" := by
  have readable : (headers.values "link").filter Headers.isReadable = values.map linkValue := by
    rw [written]
    refine List.filter_eq_self.mpr fun value member => ?_
    obtain ⟨links, inValues, rfl⟩ := List.mem_map.mp member
    exact linkValue_readable fun l inLinks =>
      bracketed l (List.mem_flatten_of_mem inValues inLinks)
  have entries : ((values.map linkValue).flatMap fun v => Form.splitAt ',' v.toList).filterMap
      LinkEntry.parse? = (values.flatten.map (·.entry)).filter LinkEntry.isWhole := by
    clear written readable
    induction values with
    | nil => rfl
    | cons links rest ih =>
      have here := entries_linkValue fun l member =>
        bracketed l (List.mem_flatten_of_mem List.mem_cons_self member)
      have tail := ih fun l member => bracketed l (by
        rw [List.flatten_cons]
        exact List.mem_append_right links member)
      rw [List.map_cons, List.flatMap_cons, List.filterMap_append, here, tail, List.flatten_cons,
        List.map_append, List.filter_append]
  have next : (fun e : LinkEntry => decide (e.relation = "next".toList)) = LinkEntry.isNext := rfl
  simp only [nextCursor, readable, entries, next]
  cases ((values.flatten.map (·.entry)).filter LinkEntry.isWhole).find? LinkEntry.isNext <;> rfl

end AccessCatalog.Web
