import Concordance.Proofs.Html.Target

/-!
Contract: the links of documents whose tags have attributes in double quotes.

The link of an anchor is the value of its first attribute `href`. The search for it knows no
attributes: it takes the first place at which the name `href` begins behind a character that
continues no word, and an equals sign follows. Such a place may be the end of a longer name with
a hyphen in it, or inside a value.

Owns:
- attributes, tags and documents made of them, and their own links;
- the attributes that mislead the search;
- that the links of documents are their own exactly if nothing misleads the search.

Does not own: the search itself (`Concordance.Proofs.Html.Target`).
-/

set_option autoImplicit false

namespace Concordance.Html

open Concordance.Text (isBlank isWordlike)

/-! ## Documents -/

/-- An attribute: the blanks in front of it, its name, and its value without the quotes. -/
structure Attribute where
  gap : Text
  name : Text
  value : Text
deriving DecidableEq, Repr

namespace Attribute

/-- An attribute as it is written. -/
def source (entry : Attribute) : Text :=
  entry.gap ++ (entry.name ++ ("=\"".toList ++ (entry.value ++ "\"".toList)))

def isHref (entry : Attribute) : Bool := Text.lowerAscii entry.name = "href".toList

/-- A name is made of characters that continue words, and hyphens. -/
structure WellFormed (entry : Attribute) : Prop where
  parted : entry.gap ≠ []
  blank : ∀ character ∈ entry.gap, isBlank character = true
  named : ∀ character ∈ entry.name, isWordlike character = true ∨ character = '-'
  enclosed : '"' ∉ entry.value
  unopened : '<' ∉ entry.value
  unclosed : '>' ∉ entry.value

/-- An attribute misleads the search for another one if the name `href` stands in it behind a
character that continues no word, and in front of an equals sign. -/
def Misleads (entry : Attribute) : Prop := HoldsTarget entry.source

end Attribute

/-- A tag: its name and its attributes. -/
structure Tag where
  name : Text
  attributes : List Attribute
deriving DecidableEq, Repr

namespace Tag

def body (tag : Tag) : Text := tag.name ++ tag.attributes.flatMap Attribute.source

def isAnchor (tag : Tag) : Bool := Text.lowerAscii tag.name = "a".toList

/-- The attributes of an anchor in front of the first that is an `href`. -/
def leading (tag : Tag) : List Attribute :=
  if tag.isAnchor then tag.attributes.takeWhile fun entry => !entry.isHref else []

/-- The value of the first `href` of an anchor. -/
def href? (tag : Tag) : Option Text :=
  if tag.isAnchor then (tag.attributes.find? Attribute.isHref).map Attribute.value else none

/-- The name of a tag is made of characters that continue words. -/
structure WellFormed (tag : Tag) : Prop where
  named : ∀ character ∈ tag.name, isWordlike character = true
  attributes : ∀ entry ∈ tag.attributes, entry.WellFormed

end Tag

/-- A part of a document: text, or a tag. -/
inductive Part where
  | text (characters : Text)
  | tag (marked : Tag)
deriving DecidableEq, Repr

namespace Part

/-- A part as it is written. -/
def source : Part → Text
  | text characters => characters
  | tag marked => (Item.tag marked.body).source

/-- The attributes in front of the `href` of a part that is an anchor. -/
def leading : Part → List Attribute
  | text _ => []
  | tag marked => marked.leading

def href? : Part → Option Text
  | text _ => none
  | tag marked => marked.href?

inductive WellFormed : Part → Prop
  | text {characters : Text} (free : '<' ∉ characters) : WellFormed (.text characters)
  | tag {marked : Tag} (wellFormed : marked.WellFormed) : WellFormed (.tag marked)

end Part

/-- The document that a sequence of parts is. -/
def document (parts : List Part) : Text := parts.flatMap Part.source

/-- The links of the anchors of a document: the values of their own `href` attributes without
the blanks at their ends and with references decoded. Empty ones are left out. -/
def ownLinks (parts : List Part) : List Text :=
  ((parts.filterMap Part.href?).map fun value => decode value.trimmed).filter
    fun link => !link.isEmpty

/-! ## Names -/

/-- Names without the letters that have further forms are compared like ASCII names. -/
theorem map_foldCase_eq_iff {name : Text}
    (plain : (name.all fun letter => letter ∉ ['s', 'k', 'ſ', '\u212A']) = true) (text : Text) :
    text.map foldCase = name ↔ Text.lowerAscii text = name := by
  induction text generalizing name with
  | nil => rfl
  | cons character others inductionHypothesis =>
      cases name with
      | nil => simp [Text.lowerAscii]
      | cons letter rest =>
          have first : foldCase character = letter ↔ character.toLower = letter := by
            have apart := of_decide_eq_true (List.all_eq_true.mp plain letter List.mem_cons_self)
            simp only [List.mem_cons, List.not_mem_nil, or_false, not_or] at apart
            unfold foldCase
            split
            · rename_i long
              rw [long]
              exact iff_of_false (Ne.symm apart.1) (Ne.symm apart.2.2.1)
            · split
              · rename_i kelvin
                rw [kelvin]
                exact iff_of_false (Ne.symm apart.2.1) (Ne.symm apart.2.2.2)
              · rfl
          rw [List.all_cons, Bool.and_eq_true] at plain
          have later := inductionHypothesis plain.2
          simp only [Text.lowerAscii, List.map_cons, List.cons.injEq] at later ⊢
          rw [first, later]

theorem Attribute.isHref_iff (entry : Attribute) :
    entry.isHref = true ↔ entry.name.map foldCase = "href" := by
  rw [map_foldCase_eq_iff (by decide)]
  exact decide_eq_true_iff

theorem Tag.isAnchor_iff (tag : Tag) :
    tag.isAnchor = true ↔ tag.name.map foldCase = "a" := by
  rw [map_foldCase_eq_iff (by decide)]
  exact decide_eq_true_iff

/-! ## Attributes -/

namespace Attribute

variable {entry : Attribute}

theorem WellFormed.exists_cons (wellFormed : entry.WellFormed) :
    ∃ first others, entry.source = first :: others ∧ isBlank first = true := by
  obtain ⟨first, others, gap⟩ := List.exists_cons_of_ne_nil wellFormed.parted
  refine ⟨first, _, by rw [source, gap, List.cons_append], ?_⟩
  apply wellFormed.blank
  rw [gap]
  exact List.mem_cons_self

/-- No bracket stands in a name, among blanks, or in a value. -/
theorem WellFormed.bracket_notMem (wellFormed : entry.WellFormed) {mark : Char}
    (isMark : mark = '<' ∨ mark = '>') : mark ∉ entry.source := by
  have bracket : mark ∈ marks := by rcases isMark with rfl | rfl <;> decide
  have inGap : mark ∉ entry.gap := notMem_of_isBlank wellFormed.blank bracket
  have inName : mark ∉ entry.name := by
    intro member
    rcases wellFormed.named mark member with word | hyphen
    · rw [isWordlike_of_mem_marks bracket] at word
      cases word
    · rcases isMark with rfl | rfl <;> exact absurd hyphen (by decide)
  have inValue : mark ∉ entry.value := by
    rcases isMark with rfl | rfl
    · exact wellFormed.unopened
    · exact wellFormed.unclosed
  rcases isMark with rfl | rfl <;> simp [source, inGap, inName, inValue]

/-- Behind its gap, an attribute `href` opens a target, which is its value. -/
theorem WellFormed.target?_href (wellFormed : entry.WellFormed) (named : entry.isHref = true)
    (back : Text) :
    target? (entry.name ++ ("=\"".toList ++ (entry.value ++ "\"".toList)) ++ back)
      = some (entry.value, back) := by
  apply target?_eq_some_iff.mpr
  refine ⟨entry.name, [], '"' :: (entry.value ++ '"' :: back), by simp, entry.isHref_iff.mp named,
    fun _ none => absurd none List.not_mem_nil, ?_⟩
  have quoted : quoted? '"' (entry.value ++ '"' :: back) = some (entry.value, back) :=
    quoted?_eq_some_iff.mpr ⟨rfl, wellFormed.enclosed⟩
  rw [List.dropWhile_cons_of_neg (by simp [isBlank_of_mem_marks (by decide : '"' ∈ marks)])]
  exact value?_quote (.inl rfl) quoted

/-- No target opens among blanks. -/
theorem WellFormed.target?_gap (wellFormed : entry.WellFormed) {ahead behind : Text}
    (split : entry.gap = ahead ++ behind) (nonempty : behind ≠ []) (back : Text) :
    target? (behind ++ back) = none := by
  obtain ⟨first, others, rfl⟩ := List.exists_cons_of_ne_nil nonempty
  have blank : isBlank first = true := wellFormed.blank first (by simp [split])
  exact target?_cons_of_isWordlike (Text.isWordlike_eq_false_of_isBlank blank) _

theorem WellFormed.isWordlike_getLastD (wellFormed : entry.WellFormed) (previous : Char) :
    isWordlike (entry.gap.getLastD previous) = false := by
  rw [List.getLastD_eq_getLast?, List.getLast?_eq_getLast_of_ne_nil wellFormed.parted,
    Option.getD_some]
  exact Text.isWordlike_eq_false_of_isBlank
    (wellFormed.blank _ (List.getLast_mem wellFormed.parted))

/-- An attribute `href` is found behind its gap. -/
theorem WellFormed.targetInTag?_href (wellFormed : entry.WellFormed) (named : entry.isHref = true)
    (previous : Char) (back : Text) :
    targetInTag? previous (entry.source ++ back) = some (entry.value, back) := by
  have unclosed : '>' ∉ entry.gap := by
    intro member
    exact wellFormed.bracket_notMem (.inr rfl) (by simp [source, member])
  rw [source, List.append_assoc, targetInTag?_append unclosed]
  · apply targetInTag?_of_target? (wellFormed.isWordlike_getLastD previous)
    exact wellFormed.target?_href named back
  · intro before last behind split nonempty _
    obtain ⟨ahead, split, _⟩ := exists_of_cons_eq split
    exact wellFormed.target?_gap split nonempty _

/-- A suffix of an attribute has the closing quote, so that a target that opens there with
anything behind it opens in the suffix itself. -/
theorem opensTarget_of_target? {front back : Text} {found : Text × Text}
    (opened : target? (front ++ '"' :: back) = some found) : OpensTarget (front ++ ['"']) := by
  obtain ⟨written, blanks, between, rfl, spelled, blank, _⟩ := exists_of_target? (.inl rfl) opened
  exact ⟨written, blanks, between ++ ['"'], by simp, spelled, blank, '"', by simp,
    isBlank_of_mem_marks (by decide)⟩

/-- An attribute ends with a quote. -/
theorem getLast?_source (entry : Attribute) : entry.source.getLast? = some '"' := by
  have closed : entry.source
      = (entry.gap ++ (entry.name ++ ("=\"".toList ++ entry.value))) ++ ['"'] := by
    simp [source]
  rw [closed, List.getLast?_concat]

/-- So does whatever an attribute ends with. -/
theorem exists_concat_quote {ahead behind : Text} (split : entry.source = ahead ++ behind)
    (nonempty : behind ≠ []) : ∃ front, behind = front ++ ['"'] := by
  have closing := entry.getLast?_source
  rw [split, List.getLast?_append_of_ne_nil ahead nonempty] at closing
  exact List.getLast?_eq_some_iff.mp closing

/-- An attribute that does not mislead the search is passed. -/
theorem WellFormed.targetInTag?_skip (wellFormed : entry.WellFormed) (plain : ¬entry.Misleads)
    (previous : Char) (back : Text) :
    targetInTag? previous (entry.source ++ back) = targetInTag? '"' back := by
  have closing : entry.source.getLastD previous = '"' := by
    rw [List.getLastD_eq_getLast?, getLast?_source, Option.getD_some]
  rw [targetInTag?_append (wellFormed.bracket_notMem (.inr rfl)), closing]
  intro before last behind split nonempty border
  cases before with
  | nil =>
      obtain ⟨first, others, written, blank⟩ := wellFormed.exists_cons
      obtain ⟨_, rfl⟩ := List.cons.inj split
      rw [written]
      exact target?_cons_of_isWordlike (Text.isWordlike_eq_false_of_isBlank blank) _
  | cons first others =>
      obtain ⟨_, inside⟩ := List.cons.inj split
      obtain ⟨front, rfl⟩ := exists_concat_quote
        (inside.trans (List.append_cons others last behind)) nonempty
      rw [List.append_assoc, Option.eq_none_iff_forall_ne_some]
      intro found opened
      exact plain ⟨others, last, front ++ ['"'], inside, border, opensTarget_of_target? opened⟩

end Attribute

/-! ## Tags -/

/-- The search of a list of attributes ends with the first that is an `href`, unless one in
front of it misleads. -/
theorem targetInTag?_attributes {attributes : List Attribute}
    (wellFormed : ∀ entry ∈ attributes, entry.WellFormed)
    (plain : ∀ entry ∈ attributes.takeWhile fun entry => !entry.isHref, ¬entry.Misleads)
    (previous : Char) (rest : Text) :
    ∃ behind, '<' ∉ behind ∧
      targetInTag? previous (attributes.flatMap Attribute.source ++ '>' :: rest)
        = (attributes.find? Attribute.isHref).map
            fun entry => (entry.value, behind ++ '>' :: rest) := by
  induction attributes generalizing previous with
  | nil => exact ⟨[], List.not_mem_nil, targetInTag?_closing previous rest⟩
  | cons entry others inductionHypothesis =>
      have first := wellFormed entry List.mem_cons_self
      have later := fun other member => wellFormed other (List.mem_cons_of_mem _ member)
      by_cases named : entry.isHref = true
      · refine ⟨others.flatMap Attribute.source, ?_, ?_⟩
        · intro member
          obtain ⟨other, among, inside⟩ := List.mem_flatMap.mp member
          exact (later other among).bracket_notMem (.inl rfl) inside
        · rw [List.flatMap_cons, List.append_assoc, first.targetInTag?_href named,
            List.find?_cons_of_pos named]
          rfl
      · rw [List.takeWhile_cons_of_pos (by simp [named]), List.forall_mem_cons] at plain
        obtain ⟨behind, free, found⟩ := inductionHypothesis later plain.2 '"'
        refine ⟨behind, free, ?_⟩
        rw [List.flatMap_cons, List.append_assoc, first.targetInTag?_skip plain.1,
          List.find?_cons_of_neg named, found]

namespace Tag

variable {tag : Tag}

/-- Behind the name of a tag, either an attribute or the end of the tag begins. -/
theorem WellFormed.exists_cons (wellFormed : tag.WellFormed) (rest : Text) :
    ∃ first others, tag.attributes.flatMap Attribute.source ++ '>' :: rest = first :: others ∧
      isWordlike first = false := by
  cases opening : tag.attributes with
  | nil => exact ⟨'>', rest, rfl, isWordlike_of_mem_marks (by decide)⟩
  | cons entry entries =>
      obtain ⟨first, others, written, blank⟩ :=
        (wellFormed.attributes entry (by simp [opening])).exists_cons
      refine ⟨first, others ++ (entries.flatMap Attribute.source ++ '>' :: rest), ?_,
        Text.isWordlike_eq_false_of_isBlank blank⟩
      rw [List.flatMap_cons, written, List.append_assoc, List.cons_append]

theorem WellFormed.bracket_notMem (wellFormed : tag.WellFormed) {mark : Char}
    (isMark : mark = '<' ∨ mark = '>') : mark ∉ tag.body := by
  rw [body, List.mem_append, not_or]
  constructor
  · intro member
    have named := wellFormed.named mark member
    have bracket : mark ∈ marks := by rcases isMark with rfl | rfl <;> decide
    rw [isWordlike_of_mem_marks bracket] at named
    cases named
  · intro member
    obtain ⟨entry, among, inside⟩ := List.mem_flatMap.mp member
    exact (wellFormed.attributes entry among).bracket_notMem isMark inside

/-- An anchor is searched for a target behind its name, and no other tag is. -/
theorem WellFormed.anchor?_body (wellFormed : tag.WellFormed) (rest : Text) :
    anchor? (tag.body ++ '>' :: rest)
      = if tag.isAnchor then
          targetInTag? 'a' (tag.attributes.flatMap Attribute.source ++ '>' :: rest)
        else none := by
  obtain ⟨first, others, behind, border⟩ := wellFormed.exists_cons rest
  rw [body, List.append_assoc, behind]
  split
  · rename_i anchor
    obtain ⟨letter, name, spelled⟩ := List.map_eq_singleton_iff.mp (tag.isAnchor_iff.mp anchor)
    rw [name]
    exact anchor?_cons spelled (by simp [endsWord, border])
  · rename_i other
    rw [Option.eq_none_iff_forall_ne_some]
    intro found anchored
    obtain ⟨letter, inside, split, spelled, ends, _⟩ := exists_of_anchor? anchored
    cases name : tag.name with
    | nil =>
        rw [name] at split
        cases split
        rw [← isWordlike_foldCase, spelled] at border
        cases (isWordlike_of_mem_alphabet (by decide)).symm.trans border
    | cons only more =>
        cases more with
        | nil =>
            rw [name] at split
            cases split
            exact other (tag.isAnchor_iff.mpr (by rw [name]; simp [spelled]))
        | cons another more =>
            rw [name] at split
            cases split
            have word := wellFormed.named another (by simp [name])
            simp [endsWord, word] at ends

/-- A tag in which nothing misleads the search has the link of its own `href`. -/
theorem WellFormed.targets_tag (wellFormed : tag.WellFormed)
    (plain : ∀ entry ∈ tag.leading, ¬entry.Misleads) (rest : Text) :
    targets ((Item.tag tag.body).source ++ rest) = tag.href?.toList ++ targets rest := by
  have written : (Item.tag tag.body).source ++ rest = '<' :: (tag.body ++ '>' :: rest) := by
    simp [Item.source]
  rw [written]
  by_cases anchor : tag.isAnchor = true
  · rw [leading, if_pos anchor] at plain
    obtain ⟨behind, free, searched⟩ :=
      targetInTag?_attributes wellFormed.attributes plain 'a' rest
    have anchored := wellFormed.anchor?_body rest
    rw [if_pos anchor, searched] at anchored
    rw [href?, if_pos anchor]
    cases found : tag.attributes.find? Attribute.isHref with
    | none =>
        rw [found] at anchored
        rw [targets_opening anchored, targets_append (wellFormed.bracket_notMem (.inl rfl)),
          targets_cons_of_ne (by decide)]
        rfl
    | some entry =>
        rw [found] at anchored
        rw [targets_anchor anchored]
        simp only [Option.map_some, Option.toList_some, List.singleton_append]
        rw [targets_append free, targets_cons_of_ne (by decide)]
  · have anchored := wellFormed.anchor?_body rest
    rw [if_neg anchor] at anchored
    rw [targets_opening anchored, targets_append (wellFormed.bracket_notMem (.inl rfl)),
      targets_cons_of_ne (by decide), href?, if_neg anchor]
    rfl

end Tag

/-! ## Documents without misleading attributes -/

theorem targets_document {parts : List Part} (wellFormed : ∀ part ∈ parts, part.WellFormed)
    (plain : ∀ part ∈ parts, ∀ entry ∈ part.leading, ¬entry.Misleads) :
    targets (document parts) = parts.filterMap Part.href? := by
  induction parts with
  | nil => exact targets_nil
  | cons part others inductionHypothesis =>
      rw [List.forall_mem_cons] at wellFormed plain
      have later := inductionHypothesis wellFormed.2 plain.2
      rw [document] at later
      rw [document, List.flatMap_cons]
      cases part with
      | text characters =>
          cases wellFormed.1 with
          | text free =>
              rw [Part.source, targets_append free, later]
              rfl
      | tag marked =>
          cases wellFormed.1 with
          | tag tagged =>
              rw [Part.source, tagged.targets_tag plain.1, later, List.filterMap_cons]
              cases href : marked.href? <;> simp [Part.href?, href]

/-! ## Misleading attributes -/

/-- The value of a target that opens in front of an `href` does not depend on the value of that
attribute. -/
theorem exists_target? {text : Text} (unclosed : '>' ∉ text) (opens : OpensTarget text) :
    ∃ value, ∀ link, '\'' ∉ link → ∃ behind,
      target? (text ++ ' ' :: ("href=\"".toList ++ link)) = some (value, behind) := by
  obtain ⟨written, blanks, after, rfl, spelled, blank, visible⟩ := opens
  obtain ⟨first, others, member, solid, dropped⟩ := exists_dropWhile_isBlank visible
  suffices valued : ∃ value, ∀ link, '\'' ∉ link → ∃ behind,
      value? (first :: (others ++ ' ' :: ("href=\"".toList ++ link))) = some (value, behind) by
    obtain ⟨value, independent⟩ := valued
    refine ⟨value, fun link single => ?_⟩
    obtain ⟨behind, taken⟩ := independent link single
    refine ⟨behind, target?_eq_some_iff.mpr
      ⟨written, blanks, after ++ ' ' :: ("href=\"".toList ++ link), by simp, spelled, blank, ?_⟩⟩
    rw [dropped]
    exact taken
  by_cases double : first = '"'
  · subst double
    have closed : '"' ∈ others ++ ' ' :: "href=\"".toList := by simp
    obtain ⟨value, behind, _, independent⟩ := exists_value?_quoted (.inl rfl) closed
    exact ⟨value, fun link _ => ⟨behind ++ link, by simpa using independent link⟩⟩
  by_cases single : first = '\'' ∧ '\'' ∈ others
  · obtain ⟨rfl, closed⟩ := single
    obtain ⟨value, behind, _, independent⟩ := exists_value?_quoted (.inr rfl) closed
    exact ⟨value, fun link _ => ⟨_, independent _⟩⟩
  · have plain : isUnquoted first = true := by
      have different : first ≠ '>' := by
        rintro rfl
        exact unclosed (by simp [member])
      simp [isUnquoted, solid, different]
    refine ⟨first :: others.takeWhile isUnquoted, fun link free =>
      ⟨_, value?_unquoted plain (by simp [isUnquoted, isBlank_space]) ?_⟩⟩
    rintro (quote | quote)
    · exact absurd quote double
    · have inside : '\'' ∉ others := fun closed => single ⟨quote, closed⟩
      simp [quote, inside, free]

/-- Nor does the value that is found in a text that holds a target. -/
theorem exists_targetInTag? {text : Text} (unclosed : '>' ∉ text)
    (closing : text.getLast? = some '"') {previous : Char}
    (holds : HoldsTarget (previous :: text)) :
    ∃ value, ∀ link, '\'' ∉ link → ∃ behind,
      targetInTag? previous (text ++ ' ' :: ("href=\"".toList ++ link))
        = some (value, behind) := by
  induction text generalizing previous with
  | nil => cases closing
  | cons character others inductionHypothesis =>
      by_cases here : isWordlike previous = false ∧ OpensTarget (character :: others)
      · obtain ⟨value, independent⟩ := exists_target? unclosed here.2
        refine ⟨value, fun link single => ?_⟩
        obtain ⟨behind, opened⟩ := independent link single
        exact ⟨behind, targetInTag?_of_target? here.1 opened⟩
      · obtain ⟨front, ends⟩ := List.getLast?_eq_some_iff.mp closing
        have missing : ∀ back, isWordlike previous = false →
            target? (character :: (others ++ back)) = none := by
          intro back border
          rw [Option.eq_none_iff_forall_ne_some]
          intro found opened
          rw [← List.cons_append, ends, List.append_assoc] at opened
          apply here
          rw [ends]
          exact ⟨border, Attribute.opensTarget_of_target? opened⟩
        have later := holds.of_cons.resolve_left here
        have nonempty : others ≠ [] := by
          rintro rfl
          exact not_holdsTarget_singleton character later
        rw [List.mem_cons, not_or] at unclosed
        rw [List.getLast?_cons_of_ne_nil nonempty] at closing
        obtain ⟨value, independent⟩ := inductionHypothesis unclosed.2 closing later
        refine ⟨value, fun link single => ?_⟩
        obtain ⟨behind, searched⟩ := independent link single
        refine ⟨behind, ?_⟩
        rw [List.cons_append, targetInTag?_cons (Ne.symm unclosed.1) (missing _)]
        exact searched

/-- A link in which no quote and no bracket stands. -/
def isBare (link : Text) : Bool := link.all fun character => character ∉ ['"', '\'', '<', '>']

theorem notMem_of_isBare {link : Text} (bare : isBare link = true) {mark : Char}
    (isMark : mark ∈ ['"', '\'', '<', '>']) : mark ∉ link := by
  intro member
  exact of_decide_eq_true (List.all_eq_true.mp bare mark member) isMark

namespace Attribute

/-- Letters and hyphens may stand in a name. -/
theorem named_of_all {name : Text}
    (written : (name.all fun character => character ∈ alphabet || character = '-') = true) :
    ∀ character ∈ name, isWordlike character = true ∨ character = '-' := by
  intro character member
  have one := List.all_eq_true.mp written character member
  rw [Bool.or_eq_true, decide_eq_true_eq, decide_eq_true_eq] at one
  exact one.imp_left isWordlike_of_mem_alphabet

/-- The attribute that gives an anchor its target. -/
def href (link : Text) : Attribute := ⟨" ".toList, "href".toList, link⟩

@[simp] theorem isHref_href (link : Text) : (href link).isHref = true := rfl

@[simp] theorem value_href (link : Text) : (href link).value = link := rfl

theorem wellFormed_href {link : Text} (bare : isBare link = true) : (href link).WellFormed where
  parted := show " ".toList ≠ [] by decide
  blank := List.forall_mem_singleton.mpr isBlank_space
  named := show ∀ character ∈ "href".toList, isWordlike character = true ∨ character = '-' from
    named_of_all (by decide)
  enclosed := notMem_of_isBare bare (by decide)
  unopened := notMem_of_isBare bare (by decide)
  unclosed := notMem_of_isBare bare (by decide)

end Attribute

namespace Tag

/-- An anchor in which one attribute stands in front of an `href`. -/
def guarded (entry : Attribute) (link : Text) : Tag := ⟨"a".toList, [entry, .href link]⟩

variable {entry : Attribute}

theorem wellFormed_guarded (wellFormed : entry.WellFormed) {link : Text}
    (bare : isBare link = true) : (guarded entry link).WellFormed where
  named := List.forall_mem_singleton.mpr (isWordlike_of_mem_alphabet (by decide))
  attributes := by
    simp only [guarded, List.forall_mem_cons]
    exact ⟨wellFormed, Attribute.wellFormed_href bare, fun _ none => absurd none List.not_mem_nil⟩

theorem isAnchor_guarded (link : Text) : (guarded entry link).isAnchor = true := rfl

theorem leading_guarded (other : entry.isHref = false) (link : Text) :
    (guarded entry link).leading = [entry] := by
  rw [leading, if_pos (isAnchor_guarded link)]
  simp [guarded, other]

theorem href?_guarded (other : entry.isHref = false) (link : Text) :
    (guarded entry link).href? = some link := by
  rw [href?, if_pos (isAnchor_guarded link)]
  simp [guarded, other]

/-- A misleading attribute has the search find one value, whatever the `href` behind it is. -/
theorem exists_targets_guarded (wellFormed : entry.WellFormed) (misleads : entry.Misleads) :
    ∃ value, ∀ link, isBare link = true →
      targets (document [.tag (guarded entry link)]) = [value] := by
  obtain ⟨before, last, held, split, border, opens⟩ := misleads
  have holds : HoldsTarget ('a' :: entry.source) :=
    ⟨'a' :: before, last, held, by rw [split, List.cons_append], border, opens⟩
  obtain ⟨value, independent⟩ := exists_targetInTag? (wellFormed.bracket_notMem (.inr rfl))
    entry.getLast?_source holds
  refine ⟨value, fun link bare => ?_⟩
  obtain ⟨behind, searched⟩ :=
    independent (link ++ "\">".toList) (by simp [notMem_of_isBare bare])
  have written : document [.tag (guarded entry link)]
      = '<' :: 'a' :: (entry.source ++ ' ' :: ("href=\"".toList ++ (link ++ "\">".toList))) := by
    simp [document, Part.source, Item.source, guarded, body, Attribute.source, Attribute.href]
  obtain ⟨first, others, opening, blank⟩ := wellFormed.exists_cons
  have ends : endsWord (entry.source ++ ' ' :: ("href=\"".toList ++ (link ++ "\">".toList)))
      = true := by
    simp [opening, endsWord, Text.isWordlike_eq_false_of_isBlank blank]
  have anchored := anchor?_cons (by decide : foldCase 'a' = 'a') ends
  rw [searched] at anchored
  obtain ⟨taken, whole, _⟩ := takenOff_of_targetInTag? searched
  have unopened : '<' ∉ behind := by
    intro member
    have inside : '<' ∈ entry.source ++ ' ' :: ("href=\"".toList ++ (link ++ "\">".toList)) := by
      rw [whole]
      exact List.mem_append_right _ member
    simp [wellFormed.bracket_notMem (.inl rfl), notMem_of_isBare bare] at inside
  rw [written, targets_anchor anchored, targets_eq_nil unopened]

end Tag

/-! ## The links of documents -/

/-- Documents whose anchors have only allowed attributes in front of their `href` have just
their own links if, and only if, no allowed attribute misleads the search. -/
theorem links_document_iff {allowed : Attribute → Prop}
    (wellFormed : ∀ entry, allowed entry → entry.WellFormed ∧ entry.isHref = false) :
    (∀ entry, allowed entry → ¬entry.Misleads) ↔
      ∀ parts : List Part, (∀ part ∈ parts, part.WellFormed) →
        (∀ part ∈ parts, ∀ entry ∈ part.leading, allowed entry) →
          (content (document parts)).links = ownLinks parts := by
  constructor
  · intro plain parts each guards
    rw [content, links, ownLinks, targets_document each]
    exact fun part member entry among => plain entry (guards part member entry among)
  · intro own entry permitted misleads
    obtain ⟨formed, other⟩ := wellFormed entry permitted
    obtain ⟨value, found⟩ := Tag.exists_targets_guarded formed misleads
    have links_eq : ∀ link : Text, isBare link = true →
        [decode value.trimmed].filter (fun link => !link.isEmpty)
          = [decode link.trimmed].filter (fun link => !link.isEmpty) := by
      intro link bare
      have same := own [.tag (Tag.guarded entry link)]
      rw [content, links, found link bare] at same
      simp only [ownLinks, List.filterMap_cons, Part.href?, Tag.href?_guarded other] at same
      apply same
      · rw [List.forall_mem_singleton]
        exact .tag (Tag.wellFormed_guarded formed bare)
      · simp only [List.forall_mem_singleton, Part.leading, Tag.leading_guarded other]
        exact permitted
    -- two documents with different links cannot both have the link that is found in both
    have one := links_eq "y".toList (by decide)
    have other := links_eq "z".toList (by decide)
    exact absurd (one.symm.trans other) (by decide +kernel)

/-- An attribute in which the name of the target stands without an equals sign. -/
def classed : Attribute := ⟨" ", "class", "nav href"⟩

theorem wellFormed_classed : classed.WellFormed where
  parted := by decide
  blank := List.forall_mem_singleton.mpr isBlank_space
  named := Attribute.named_of_all (by decide)
  enclosed := by decide
  unopened := by decide
  unclosed := by decide

theorem links_document_classed :
    (∀ entry, entry = classed → entry.WellFormed ∧ entry.isHref = false) ∧
      (content "see <a class=\"nav href\" href=\"r&amp;d.html \">").links = ["r&d.html"] := by
  have wellFormed : ∀ entry, entry = classed → entry.WellFormed ∧ entry.isHref = false := by
    rintro entry rfl
    exact ⟨wellFormed_classed, by decide⟩
  have plain : ∀ entry, entry = classed → ¬entry.Misleads := by
    rintro entry rfl
    have unclosed : '>' ∉ "class=\"nav href\"".toList := by decide
    have searched := targetInTag?_isSome_iff unclosed ' ' []
    exact searched.not.mp (by decide +kernel)
  let parts : List Part := [.text "see ", .tag (.guarded classed "r&amp;d.html ")]
  have written : document parts = "see <a class=\"nav href\" href=\"r&amp;d.html \">" := by decide
  have each : ∀ part ∈ parts, part.WellFormed := by
    simp only [parts, List.forall_mem_cons]
    refine ⟨.text (by decide), .tag (Tag.wellFormed_guarded wellFormed_classed (by decide)), ?_⟩
    exact fun _ none => absurd none List.not_mem_nil
  have guards : ∀ part ∈ parts, ∀ entry ∈ part.leading, entry = classed := by decide +kernel
  refine ⟨wellFormed, ?_⟩
  rw [← written, (links_document_iff wellFormed).mp plain parts each guards]
  decide +kernel

/-- An attribute whose name ends like that of the target, in an anchor with a target. -/
def previewed : Attribute := ⟨" ", "data-href", "x"⟩

theorem wellFormed_previewed : previewed.WellFormed where
  parted := by decide
  blank := List.forall_mem_singleton.mpr isBlank_space
  named := Attribute.named_of_all (by decide)
  enclosed := by decide
  unopened := by decide
  unclosed := by decide

/-- The value of another attribute is taken for the link of an anchor. -/
theorem links_previewed :
    (∀ part ∈ [Part.tag (.guarded previewed "y"), .text "go"], part.WellFormed) ∧
      ownLinks [.tag (.guarded previewed "y"), .text "go"] = ["y"] ∧
      (content (document [.tag (.guarded previewed "y"), .text "go"])).links = ["x"] := by
  refine ⟨?_, by decide +kernel, ?_⟩
  · simp only [List.forall_mem_cons]
    refine ⟨.tag (Tag.wellFormed_guarded wellFormed_previewed (by decide)), .text (by decide), ?_⟩
    exact fun _ none => absurd none List.not_mem_nil
  · have written : document [.tag (.guarded previewed "y"), .text "go"]
        = '<' :: "a data-href=\"x\" href=\"y\">go".toList := by decide
    have anchored : anchor? "a data-href=\"x\" href=\"y\">go"
        = some ("x".toList, " href=\"y\">go".toList) := by decide +kernel
    rw [content, links, written, targets_anchor anchored, targets_eq_nil (by decide)]
    decide +kernel

end Concordance.Html
