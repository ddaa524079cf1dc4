import Concordance.Html.Content
import Concordance.Proofs.Html.Reference
import Concordance.Proofs.Html.Target

/-!
Contract: the links of comments, scripts and style sheets.

Blocks are dropped from the text of a document, and the links are looked for in all of it. What
a tag adds to the links does not depend on what stands around it, if its quotes are closed. What
a block adds does not either, if it adds nothing when it stands alone: a value that goes on
behind the block is a link of the block, too.

Owns:
- anchors whose value is settled in front of the end of their tag;
- what tags and silent blocks add to the links of a document;
- that blocks add no links to any document exactly if none of them has a link.

Does not own: the text of documents with blocks (`Concordance.Proofs.Html.Chunks`).
-/

set_option autoImplicit false

namespace Concordance.Html

open Concordance.Text (isBlank isWordlike)

/-! ## Open values -/

/-- A text ends in front of the value of a target: it ends with the name `href` and an equals
sign, and blanks may stand on both sides of the sign. -/
def OpensValue (text : Text) : Prop :=
  ∃ ahead written blanks gap, text = ahead ++ (written ++ (blanks ++ '=' :: gap)) ∧
    written.map foldCase = "href" ∧ (∀ character ∈ blanks, isBlank character = true) ∧
      ∀ character ∈ gap, isBlank character = true

/-- In a tag, each quote that opens the value of a target is closed. -/
def ClosesTargets (body : Text) : Prop :=
  ∀ front quote behind, body = front ++ quote :: behind → (quote = '"' ∨ quote = '\'') →
    OpensValue front → quote ∈ behind

namespace Item

def isHidden : Item → Bool
  | comment _ => true
  | element _ _ _ _ => true
  | _ => false

/-- An item that is no tag, or in which each quote that opens the value of a target is closed. -/
inductive Closed : Item → Prop
  | text {characters : Text} : Closed (.text characters)
  | tag {body : Text} (closes : ClosesTargets body) : Closed (.tag body)
  | comment {body : Text} : Closed (.comment body)
  | element {name attributes body closing : Text} : Closed (.element name attributes body closing)

end Item

theorem OpensValue.behind {text : Text} (opens : OpensValue text) (front : Text) :
    OpensValue (front ++ text) := by
  obtain ⟨ahead, written, blanks, gap, rfl, spelled, blank, spaced⟩ := opens
  exact ⟨front ++ ahead, written, blanks, gap, by rw [List.append_assoc], spelled, blank, spaced⟩

/-! ## Settled values -/

/-- A text that opens a target is read up to the first character of the value. -/
theorem exists_value_of_opensTarget {front : Text} (unclosed : '>' ∉ front)
    (opens : OpensTarget front) :
    ∃ opening first others, front = opening ++ first :: others ∧ OpensValue opening ∧
      isUnquoted first = true ∧
        ∀ rest, target? (front ++ '>' :: rest) = value? (first :: (others ++ '>' :: rest)) := by
  obtain ⟨written, blanks, after, rfl, spelled, blank, visible⟩ := opens
  obtain ⟨first, others, member, solid, dropped⟩ := exists_dropWhile_isBlank visible
  have plain : isUnquoted first = true := by
    have different : first ≠ '>' := by
      rintro rfl
      exact unclosed (by simp [member])
    simp [isUnquoted, solid, different]
  obtain ⟨gap, spaced, split⟩ : ∃ gap, (∀ character ∈ gap, isBlank character = true) ∧
      after = gap ++ first :: others := by
    have alone := dropped []
    rw [List.append_nil, List.append_nil] at alone
    refine ⟨after.takeWhile isBlank, fun _ member => List.mem_takeWhile_imp member, ?_⟩
    rw [← alone, List.takeWhile_append_dropWhile]
  refine ⟨written ++ (blanks ++ '=' :: gap), first, others, ?_, ?_, plain, ?_⟩
  · rw [split]
    simp
  · exact ⟨[], written, blanks, gap, rfl, spelled, blank, spaced⟩
  · intro rest
    obtain ⟨found, valued⟩ := exists_value? plain (others ++ '>' :: rest)
    rw [valued]
    apply target?_eq_some_iff.mpr
    refine ⟨written, blanks, after ++ '>' :: rest, by simp, spelled, blank, ?_⟩
    rw [dropped]
    exact valued

/-- Where the value of a target in a tag begins is settled in front of the end of the tag. -/
theorem exists_value_of_holdsTarget {front : Text} (unclosed : '>' ∉ front) {previous : Char}
    (holds : HoldsTarget (previous :: front)) :
    ∃ opening first others, front = opening ++ first :: others ∧ OpensValue opening ∧
      isUnquoted first = true ∧
        ∀ rest, targetInTag? previous (front ++ '>' :: rest)
          = value? (first :: (others ++ '>' :: rest)) := by
  induction front generalizing previous with
  | nil => exact absurd holds (not_holdsTarget_singleton previous)
  | cons character others inductionHypothesis =>
      by_cases here : isWordlike previous = false ∧ OpensTarget (character :: others)
      · obtain ⟨opening, first, behind, split, value, plain, opened⟩ :=
          exists_value_of_opensTarget unclosed here.2
        refine ⟨opening, first, behind, split, value, plain, fun rest => ?_⟩
        obtain ⟨found, valued⟩ := exists_value? plain (behind ++ '>' :: rest)
        rw [valued]
        exact targetInTag?_of_target? here.1 ((opened rest).trans valued)
      · have missing : ∀ rest, isWordlike previous = false →
            target? (character :: (others ++ '>' :: rest)) = none := by
          intro rest border
          rw [← List.cons_append, ← Option.not_isSome_iff_eq_none, target?_isSome_iff unclosed]
          exact fun opens => here ⟨border, opens⟩
        rw [List.mem_cons, not_or] at unclosed
        obtain ⟨opening, first, behind, split, value, plain, searched⟩ :=
          inductionHypothesis unclosed.2 (holds.of_cons.resolve_left here)
        refine ⟨character :: opening, first, behind, by rw [split, List.cons_append],
          value.behind [character], plain, fun rest => ?_⟩
        rw [List.cons_append, targetInTag?_cons (Ne.symm unclosed.1) (missing rest)]
        exact searched rest

/-- A tag is no anchor, whatever follows it, or an anchor with a value that begins at one place,
whatever follows it. -/
theorem anchor?_cases {front : Text} (unclosed : '>' ∉ front) :
    (∀ rest, anchor? (front ++ '>' :: rest) = none) ∨
      ∃ opening first others, front = opening ++ first :: others ∧ OpensValue opening ∧
        isUnquoted first = true ∧
          ∀ rest, anchor? (front ++ '>' :: rest) = value? (first :: (others ++ '>' :: rest)) := by
  by_cases named : ∃ letter inside, front = letter :: inside ∧ foldCase letter = 'a' ∧
      endsWord inside = true ∧ HoldsTarget ('a' :: inside)
  · right
    obtain ⟨letter, inside, rfl, letter_eq, ends, holds⟩ := named
    rw [List.mem_cons, not_or] at unclosed
    obtain ⟨opening, first, others, split, value, plain, searched⟩ :=
      exists_value_of_holdsTarget unclosed.2 holds
    refine ⟨letter :: opening, first, others, by rw [split, List.cons_append],
      value.behind [letter], plain, fun rest => ?_⟩
    have border : endsWord (inside ++ '>' :: rest) = true := by
      cases inside with
      | nil => simp [endsWord, isWordlike_of_mem_marks (by decide : '>' ∈ marks)]
      | cons next more => exact ends
    rw [List.cons_append, anchor?_cons letter_eq border]
    exact searched rest
  · left
    intro rest
    rw [Option.eq_none_iff_forall_ne_some]
    intro found anchored
    obtain ⟨letter, behind, split, letter_eq, border, searched⟩ := exists_of_anchor? anchored
    apply named
    cases front with
    | nil =>
        obtain ⟨rfl, _⟩ := List.cons.inj split
        exact absurd letter_eq (by decide)
    | cons character inside =>
        obtain ⟨rfl, rfl⟩ := List.cons.inj split
        rw [List.mem_cons, not_or] at unclosed
        refine ⟨character, inside, rfl, letter_eq, ?_, ?_⟩
        · cases inside with
          | nil => rfl
          | cons next more => exact border
        · apply (targetInTag?_isSome_iff unclosed.2 'a' rest).mp
          exact Option.isSome_iff_exists.mpr ⟨found, searched⟩

/-- A value that is closed, or that no quote begins, ends in front of the end of the tag. -/
theorem exists_value?_closed {first : Char} {others : Text} (plain : isUnquoted first = true)
    (closes : first = '"' ∨ first = '\'' → first ∈ others) :
    ∃ value behind, (∀ character ∈ behind, character ∈ others) ∧
      ∀ rest, value? (first :: (others ++ '>' :: rest)) = some (value, behind ++ '>' :: rest) := by
  by_cases isQuote : first = '"' ∨ first = '\''
  · obtain ⟨value, behind, within, valued⟩ := exists_value?_quoted isQuote (closes isQuote)
    exact ⟨value, behind, within, fun rest => valued _⟩
  · refine ⟨first :: others.takeWhile isUnquoted, others.dropWhile isUnquoted, ?_, fun rest => ?_⟩
    · exact fun character member => (List.dropWhile_sublist isUnquoted).subset member
    · exact value?_unquoted plain (by decide) fun quote => absurd quote isQuote

/-! ## Tags -/

/-- What a tag adds to the targets of a document does not depend on what follows. -/
theorem exists_targets_tag {body : Text} (unopened : '<' ∉ body) (unclosed : '>' ∉ body)
    (closes : ClosesTargets body) :
    ∃ found, ∀ rest, targets ((Item.tag body).source ++ rest) = found ++ targets rest := by
  have written : ∀ rest, (Item.tag body).source ++ rest = '<' :: (body ++ '>' :: rest) := by
    simp [Item.source]
  rcases anchor?_cases unclosed with none | ⟨opening, first, others, rfl, value, plain, begins⟩
  · refine ⟨[], fun rest => ?_⟩
    rw [written, targets_opening (none rest), targets_append unopened,
      targets_cons_of_ne (by decide), List.nil_append]
  · obtain ⟨found, behind, within, valued⟩ := exists_value?_closed plain
      fun isQuote => closes opening first others rfl isQuote value
    refine ⟨[found], fun rest => ?_⟩
    have free : '<' ∉ behind := by
      intro member
      apply unopened
      simp [within _ member]
    rw [written, targets_anchor ((begins rest).trans (valued rest)), targets_append free,
      targets_cons_of_ne (by decide), List.singleton_append]

/-! ## Blocks -/

/-- The links that targets are. -/
def linksOf (found : List Text) : List Text :=
  (found.map fun target => decode target.trimmed).filter fun link => !link.isEmpty

theorem links_eq (document : Text) : links document = linksOf (targets document) := rfl

theorem linksOf_append (front back : List Text) :
    linksOf (front ++ back) = linksOf front ++ linksOf back := by
  simp [linksOf]

theorem decode_eq_nil_iff (text : Text) : decode text = [] ↔ text = [] := by
  constructor
  · intro none
    cases text with
    | nil => rfl
    | cons character rest =>
        rw [decode] at none
        split at none
        · split at none <;> cases none
        · cases none
  · rintro rfl
    exact decode_nil

theorem trimmed_eq_nil_iff (text : Text) :
    text.trimmed = [] ↔ ∀ character ∈ text, isBlank character = true := by
  rw [Text.trimmed, List.reverse_eq_nil_iff, List.dropWhile_eq_nil_iff]
  simp only [List.mem_reverse]
  constructor
  · intro each
    by_contra visible
    obtain ⟨first, others, _, solid, dropped⟩ := exists_dropWhile_isBlank (by simpa using visible)
    have alone := dropped []
    rw [List.append_nil] at alone
    have blank := each first (by simp [alone])
    simp [solid] at blank
  · intro each character member
    exact each character ((List.dropWhile_sublist isBlank).subset member)

theorem linksOf_cons_eq_nil_iff (target : Text) (others : List Text) :
    linksOf (target :: others) = [] ↔
      (∀ character ∈ target, isBlank character = true) ∧ linksOf others = [] := by
  have first : linksOf [target] = [] ↔ ∀ character ∈ target, isBlank character = true := by
    rw [← trimmed_eq_nil_iff, ← decode_eq_nil_iff]
    simp [linksOf]
  rw [← List.singleton_append, linksOf_append, List.append_eq_nil_iff, first]

/-- A value of blanks alone is quoted, and the quote is closed. -/
theorem exists_of_value?_of_isBlank {first : Char} {text value behind : Text}
    (plain : isUnquoted first = true) (valued : value? (first :: text) = some (value, behind))
    (blank : ∀ character ∈ value, isBlank character = true) :
    (first = '"' ∨ first = '\'') ∧ text = value ++ first :: behind ∧ first ∉ value := by
  have notUnquoted : unquoted? (first :: text) ≠ some (value, behind) := by
    rw [exists_unquoted? plain]
    intro same
    obtain ⟨rfl, _⟩ := Prod.mk.inj (Option.some.inj same)
    have spaced := blank first List.mem_cons_self
    simp [isUnquoted, spaced] at plain
  rw [value?] at valued
  split at valued
  · rename_i isQuote
    split at valued
    · rename_i closed
      cases valued
      exact ⟨by simpa using isQuote, quoted?_eq_some_iff.mp closed⟩
    · exact absurd valued notUnquoted
  · exact absurd valued notUnquoted

/-- What stands behind a character of a text ends as the text does. -/
theorem getLast?_behind (front : Text) {behind : Text} {first : Char}
    (ends : (front ++ first :: behind).getLast? = some '>') (notEnd : first ≠ '>') :
    behind.getLast? = some '>' := by
  have nonempty : behind ≠ [] := by
    rintro rfl
    rw [List.getLast?_concat] at ends
    exact notEnd (Option.some.inj ends)
  rw [← List.singleton_append, ← List.append_assoc, List.getLast?_append_of_ne_nil _ nonempty]
    at ends
  exact ends

/-- A text that ends with the end of a tag and begins with no anchor does so whatever follows. -/
theorem anchor?_append_eq_none {inside : Text} (ends : inside.getLast? = some '>')
    (missing : anchor? inside = none) (rest : Text) : anchor? (inside ++ rest) = none := by
  obtain ⟨front, more, rfl, unclosed⟩ := List.eq_append_cons_of_mem (List.mem_of_getLast? ends)
  rw [List.append_assoc, List.cons_append]
  rcases anchor?_cases unclosed with none | ⟨_, first, others, rfl, _, plain, begins⟩
  · exact none _
  · obtain ⟨found, valued⟩ := exists_value? plain (others ++ '>' :: more)
    cases missing.symm.trans ((begins more).trans valued)

/-- An anchor with a value of blanks alone is the same whatever follows it. -/
theorem anchor?_append_of_isBlank {inside value behind : Text} (ends : inside.getLast? = some '>')
    (anchored : anchor? inside = some (value, behind))
    (blank : ∀ character ∈ value, isBlank character = true) :
    behind.getLast? = some '>' ∧ ∀ rest, anchor? (inside ++ rest) = some (value, behind ++ rest) := by
  obtain ⟨front, more, rfl, unclosed⟩ := List.eq_append_cons_of_mem (List.mem_of_getLast? ends)
  rcases anchor?_cases unclosed with none | ⟨opening, first, others, rfl, _, plain, begins⟩
  · cases (none more).symm.trans anchored
  · obtain ⟨isQuote, split, free⟩ :=
      exists_of_value?_of_isBlank plain ((begins more).symm.trans anchored) blank
    have notEnd : first ≠ '>' := by rcases isQuote with rfl | rfl <;> decide
    constructor
    · rw [List.append_assoc, List.cons_append, split] at ends
      exact getLast?_behind (opening ++ first :: value) (by simpa using ends) notEnd
    · intro rest
      rw [List.append_assoc, List.cons_append, begins]
      apply value?_quote isQuote
      refine quoted?_eq_some_iff.mpr ⟨?_, free⟩
      have longer := congrArg (· ++ rest) split
      simpa using longer

/-- A text that ends with the end of a tag adds no links to what follows if it has none by itself:
a value that is open where the text ends would be one of its own links. -/
theorem linksOf_targets_append {text : Text} (ends : text.getLast? = some '>')
    (silent : linksOf (targets text) = []) (rest : Text) :
    linksOf (targets (text ++ rest)) = linksOf (targets rest) := by
  induction text using targets.induct with
  | case1 => cases ends
  | case2 inside value behind anchored inductionHypothesis =>
      have within := getLast?_behind [] ends (by decide)
      rw [targets_anchor anchored, linksOf_cons_eq_nil_iff] at silent
      obtain ⟨later, extended⟩ := anchor?_append_of_isBlank within anchored silent.1
      have blank : linksOf [value] = [] := (linksOf_cons_eq_nil_iff value []).mpr ⟨silent.1, rfl⟩
      rw [List.cons_append, targets_anchor (extended rest), ← List.singleton_append,
        linksOf_append, blank, List.nil_append, inductionHypothesis later silent.2]
  | case3 inside missing inductionHypothesis =>
      have within := getLast?_behind [] ends (by decide)
      rw [targets_opening missing] at silent
      rw [List.cons_append, targets_opening (anchor?_append_eq_none within missing rest),
        inductionHypothesis within silent]
  | case4 character others notOpening inductionHypothesis =>
      rw [targets_cons_of_ne notOpening] at silent
      rw [List.cons_append, targets_cons_of_ne notOpening]
      by_cases last : others = []
      · rw [last, List.nil_append]
      · apply inductionHypothesis _ silent
        rwa [List.getLast?_cons_of_ne_nil last] at ends

/-! ## Documents -/

theorem Item.WellFormed.getLast?_source {item : Item} (wellFormed : item.WellFormed)
    (hidden : item.isHidden = true) : item.source.getLast? = some '>' := by
  cases wellFormed with
  | text free => cases hidden
  | tag unopened unclosed notComment notElement => cases hidden
  | @comment body free =>
      exact List.getLast?_eq_some_iff.mpr ⟨"<!--".toList ++ (body ++ "--".toList), by simp [source]⟩
  | @element plain name attributes body closing known named parted unclosed closes free =>
      obtain ⟨written, blanks, rfl, _, _⟩ := closes
      exact List.getLast?_eq_some_iff.mpr ⟨"<".toList ++ (name ++ (attributes ++ (">".toList
        ++ (body ++ ("</".toList ++ (written ++ blanks)))))), by simp [source]⟩

theorem Item.closed_of_isHidden {item : Item} (hidden : item.isHidden = true) : item.Closed := by
  cases item with
  | text characters => cases hidden
  | tag body => cases hidden
  | comment body => exact .comment
  | element name attributes body closing => exact .element

/-- A document whose hidden items have no links by themselves has the links of what is shown. -/
theorem links_markup {items : List Item}
    (each : ∀ item ∈ items, item.WellFormed ∧ item.Closed)
    (silent : ∀ item ∈ items, item.isHidden = true → links item.source = []) :
    links (markup items) = links (items.flatMap Item.shown) := by
  induction items with
  | nil => rfl
  | cons item others inductionHypothesis =>
      rw [List.forall_mem_cons] at each silent
      have later := inductionHypothesis each.2 silent.2
      simp only [links_eq] at later silent ⊢
      rw [markup] at later
      have hidden : item.isHidden = true → item.shown = " " →
          linksOf (targets (markup (item :: others)))
            = linksOf (targets ((item :: others).flatMap Item.shown)) := by
        intro isHidden shown
        have closing := each.1.1.getLast?_source isHidden
        rw [markup, List.flatMap_cons, List.flatMap_cons, shown,
          linksOf_targets_append closing (silent.1 isHidden), later,
          targets_append (by decide : '<' ∉ " ".toList)]
      obtain ⟨wellFormed, closed⟩ := each.1
      cases wellFormed with
      | text free =>
          rw [markup, List.flatMap_cons, List.flatMap_cons, Item.source, Item.shown,
            targets_append free, targets_append free, later]
      | tag unopened unclosed notComment notElement =>
          cases closed with
          | tag closes =>
              obtain ⟨found, added⟩ := exists_targets_tag unopened unclosed closes
              rw [markup, List.flatMap_cons, List.flatMap_cons, Item.shown, added, added,
                linksOf_append, linksOf_append, later]
      | comment free => exact hidden rfl rfl
      | element known named parted unclosed closes free => exact hidden rfl rfl

/-- Blocks add no links to any document if, and only if, none of them has a link by itself. -/
theorem links_markup_iff {allowed : Item → Prop}
    (wellFormed : ∀ block, allowed block → block.WellFormed ∧ block.isHidden = true) :
    (∀ block, allowed block → (content block.source).links = []) ↔
      ∀ items : List Item, (∀ item ∈ items, item.WellFormed ∧ item.Closed) →
        (∀ item ∈ items, item.isHidden = true → allowed item) →
          (content (markup items)).links = (content (items.flatMap Item.shown)).links := by
  constructor
  · intro silent items each permitted
    exact links_markup each fun item member hidden => silent item (permitted item member hidden)
  · intro same block permitted
    obtain ⟨formed, hidden⟩ := wellFormed block permitted
    have alone := same [block]
    simp only [List.forall_mem_singleton, markup, List.flatMap_singleton] at alone
    rw [alone ⟨formed, block.closed_of_isHidden hidden⟩ fun _ => permitted]
    have blank : block.shown = " " := by
      cases block with
      | text characters => cases hidden
      | tag body => cases hidden
      | comment body => rfl
      | element name attributes body closing => rfl
    rw [blank, content, links_eq, targets_eq_nil (by decide)]
    rfl

/-- A remark with a tag in it that is no anchor. -/
def remark : Item := .comment " <b> "

theorem links_markup_remark :
    (∀ block, block = remark → block.WellFormed ∧ block.isHidden = true) ∧
      (content "<a href=x><!-- <b> -->go").links = (content "<a href=x> go").links := by
  have wellFormed : ∀ block, block = remark → block.WellFormed ∧ block.isHidden = true := by
    rintro block rfl
    exact ⟨.comment (by decide), rfl⟩
  have silent : ∀ block, block = remark → (content block.source).links = [] := by
    rintro block rfl
    have written : remark.source = '<' :: ("!-- ".toList ++ '<' :: "b> -->".toList) := by decide
    rw [content, links_eq, written, targets_opening (by decide +kernel), targets_append (by decide),
      targets_opening (by decide +kernel), targets_eq_nil (by decide)]
    rfl
  have tag : (Item.tag "a href=x").WellFormed ∧ (Item.tag "a href=x").Closed := by
    refine ⟨.tag (by decide) (by decide) (by decide) (by decide +kernel), .tag ?_⟩
    rintro front quote behind split (rfl | rfl) _
    · exact absurd (by simp [split]) (by decide : '"' ∉ "a href=x".toList)
    · exact absurd (by simp [split]) (by decide : '\'' ∉ "a href=x".toList)
  refine ⟨wellFormed, ?_⟩
  refine (links_markup_iff wellFormed).mp silent [.tag "a href=x", remark, .text "go"] ?_ ?_
  · simp only [List.forall_mem_cons]
    exact ⟨tag, ⟨.comment (by decide), .comment⟩, ⟨.text (by decide), .text⟩,
      fun _ none => absurd none List.not_mem_nil⟩
  · simp [Item.isHidden]

/-- An anchor that is commented out. -/
def withdrawn : Item := .comment "<a href=\"x\">"

/-- The link of an anchor in a comment is a link of the document. -/
theorem links_withdrawn :
    withdrawn.WellFormed ∧ (content (markup [withdrawn])).links = ["x"] ∧
      (content ([withdrawn].flatMap Item.shown)).links = [] := by
  refine ⟨.comment (by decide), ?_, ?_⟩
  · have written : markup [withdrawn]
        = '<' :: ("!--".toList ++ '<' :: "a href=\"x\">-->".toList) := by
      decide
    have anchored : anchor? "a href=\"x\">-->" = some ("x".toList, ">-->".toList) := by
      decide +kernel
    rw [content, links, written, targets_opening (by decide +kernel), targets_append (by decide),
      targets_anchor anchored, targets_eq_nil (by decide)]
    decide +kernel
  · have written : [withdrawn].flatMap Item.shown = " ".toList := rfl
    rw [content, links, written, targets_eq_nil (by decide)]
    rfl

end Concordance.Html
