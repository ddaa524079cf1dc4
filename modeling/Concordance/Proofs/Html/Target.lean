import Concordance.Html.Content
import Concordance.Proofs.Html.Visible
import Concordance.Proofs.Text.Recasing

/-!
Contract: where the targets of anchors are found.

The rest of a tag is searched for the first place at which the name `href` begins, an equals
sign follows and a value is there. Whether a place is one is settled in front of the end of
the tag; where the value ends may be behind it.

Owns:
- the marks around tags and values, which are no blanks and continue no words, and the letters
  of names, which continue words;
- texts that open or hold a target, and that the search finds just these;
- what is taken off the front of a text with a value;
- searching a document for anchors, step by step.

Does not own: tags with attributes (`Concordance.Proofs.Html.Attribute`) and hidden content
(`Concordance.Proofs.Html.Hidden`).
-/

set_option autoImplicit false

namespace Concordance.Html

open Concordance.Text (isBlank isWordlike)

/-! ## Marks and letters -/

/-- The characters at which tags, names and values end. -/
def marks : Text := ['<', '>', '"', '\'', '=']

theorem isBlank_of_mem_marks {mark : Char} (member : mark ∈ marks) : isBlank mark = false := by
  have each : marks.all (fun mark => !isBlank mark) = true := by decide +kernel
  simpa using List.all_eq_true.mp each mark member

theorem isWordlike_of_mem_marks {mark : Char} (member : mark ∈ marks) :
    isWordlike mark = false := by
  have each : marks.all (fun mark => !isWordlike mark) = true := by decide +kernel
  simpa using List.all_eq_true.mp each mark member

theorem isBlank_space : isBlank ' ' = true := by
  decide +kernel

/-- The letters of ASCII, and the two further forms that such letters have. -/
def alphabet : Text := (List.range' 97 26).map Char.ofNat ++ (Text.capitals ++ ['ſ', '\u212A'])

theorem isWordlike_of_mem_alphabet {letter : Char} (member : letter ∈ alphabet) :
    isWordlike letter = true := by
  have each : alphabet.all isWordlike = true := by decide +kernel
  exact List.all_eq_true.mp each letter member

/-- Letters continue words in either case. -/
theorem isWordlike_foldCase (character : Char) :
    isWordlike (foldCase character) = isWordlike character := by
  by_cases letter : character ∈ alphabet
  · have folded : (alphabet.all fun letter => foldCase letter ∈ alphabet) = true := by
      decide +kernel
    have among := of_decide_eq_true (List.all_eq_true.mp folded character letter)
    rw [isWordlike_of_mem_alphabet among, isWordlike_of_mem_alphabet letter]
  · have capital : character ∉ Text.capitals := by
      intro member
      exact letter (List.mem_append_right _ (List.mem_append_left _ member))
    have same : foldCase character = character := by
      rw [foldCase, if_neg, if_neg]
      · exact (Text.toLower_eq_self_or_mem character).resolve_right capital
      · rintro rfl
        exact letter (by decide)
      · rintro rfl
        exact letter (by decide)
    rw [same]

/-- No mark stands among blanks. -/
theorem notMem_of_isBlank {text : Text} (blank : ∀ character ∈ text, isBlank character = true)
    {mark : Char} (isMark : mark ∈ marks) : mark ∉ text := by
  intro member
  have solid := isBlank_of_mem_marks isMark
  simp [blank mark member] at solid

/-- Blanks in front of a mark are dropped, and no more. -/
theorem dropWhile_isBlank_append {gap : Text} (blank : ∀ character ∈ gap, isBlank character = true)
    {mark : Char} (isMark : mark ∈ marks) (rest : Text) :
    (gap ++ mark :: rest).dropWhile isBlank = mark :: rest := by
  rw [List.dropWhile_append_of_pos blank,
    List.dropWhile_cons_of_neg (by simp [isBlank_of_mem_marks isMark])]

/-! ## Places where targets are -/

/-- A text opens a target: it begins with the name `href`, in letters of either case, an equals
sign and something that is no blank. Blanks may stand on both sides of the sign. -/
def OpensTarget (text : Text) : Prop :=
  ∃ written blanks after, text = written ++ (blanks ++ '=' :: after) ∧
    written.map foldCase = "href" ∧ (∀ character ∈ blanks, isBlank character = true) ∧
      ∃ character ∈ after, isBlank character = false

/-- A text holds a target: it opens one behind a character that continues no word. -/
def HoldsTarget (text : Text) : Prop :=
  ∃ before last behind, text = before ++ last :: behind ∧ isWordlike last = false ∧
    OpensTarget behind

theorem not_holdsTarget_singleton (last : Char) : ¬HoldsTarget [last] := by
  rintro ⟨before, border, behind, split, _, written, blanks, after, rfl, _⟩
  have length := congrArg List.length split
  simp at length
  omega

/-- A target opens right behind the first character of a text, or further on. -/
theorem HoldsTarget.of_cons {previous : Char} {text : Text}
    (holds : HoldsTarget (previous :: text)) :
    isWordlike previous = false ∧ OpensTarget text ∨ HoldsTarget text := by
  obtain ⟨before, last, behind, split, border, opens⟩ := holds
  cases before with
  | nil =>
      obtain ⟨rfl, rfl⟩ := List.cons.inj split
      exact .inl ⟨border, opens⟩
  | cons _ before =>
      exact .inr ⟨before, last, behind, (List.cons.inj split).2, border, opens⟩

/-! ## Values -/

theorem value?_closing (rest : Text) : value? ('>' :: rest) = none := by
  simp [value?, unquoted?, isUnquoted]

theorem exists_unquoted? {first : Char} (plain : isUnquoted first = true) (rest : Text) :
    unquoted? (first :: rest)
      = some (first :: rest.takeWhile isUnquoted, rest.dropWhile isUnquoted) := by
  simp [unquoted?, plain]

/-- A quoted value goes up to the next quote of its kind. -/
theorem quoted?_eq_some_iff {quote : Char} {text value behind : Text} :
    quoted? quote text = some (value, behind) ↔
      text = value ++ quote :: behind ∧ quote ∉ value := by
  constructor
  · intro closed
    obtain ⟨rest, found, same⟩ := Option.map_eq_some_iff.mp closed
    obtain ⟨rfl, rfl⟩ := Prod.mk.inj same
    constructor
    · unfold afterChar? at found
      split at found
      · cases found
      · rename_i last others dropped
        cases found
        have nonempty : text.dropWhile (· ≠ quote) ≠ [] := by
          rw [dropped]
          exact List.cons_ne_nil _ _
        have head := List.head_dropWhile_not (· ≠ quote) (l := text) nonempty
        simp only [dropped, List.head_cons, decide_eq_false_iff_not, not_not] at head
        subst head
        rw [← dropped, List.takeWhile_append_dropWhile]
    · intro member
      have different := List.mem_takeWhile_imp member
      simp at different
  · rintro ⟨rfl, free⟩
    have others : ∀ character ∈ value, decide (character ≠ quote) = true := by
      intro character member
      exact decide_eq_true (ne_of_mem_of_not_mem member free)
    rw [quoted?, afterChar?_append free, Option.map_some, List.takeWhile_append_of_pos others,
      List.takeWhile_cons_of_neg (by simp), List.append_nil]

theorem value?_quote {quote : Char} (isQuote : quote = '"' ∨ quote = '\'') {text : Text}
    {found : Text × Text} (closed : quoted? quote text = some found) :
    value? (quote :: text) = some found := by
  have double : (quote = '"' || quote = '\'') = true := by simpa using isQuote
  rw [value?, if_pos double, closed]

/-- A value begins with anything but a blank and the end of the tag. -/
theorem exists_value? {first : Char} (plain : isUnquoted first = true) (rest : Text) :
    ∃ found, value? (first :: rest) = some found := by
  rw [value?]
  split
  · cases quoted? first rest with
    | some found => exact ⟨found, rfl⟩
    | none => exact ⟨_, exists_unquoted? plain rest⟩
  · exact ⟨_, exists_unquoted? plain rest⟩

/-- A quoted value that is closed does not depend on what follows. -/
theorem exists_value?_quoted {quote : Char} (isQuote : quote = '"' ∨ quote = '\'') {text : Text}
    (closed : quote ∈ text) :
    ∃ value behind, (∀ character ∈ behind, character ∈ text) ∧
      ∀ rest, value? (quote :: (text ++ rest)) = some (value, behind ++ rest) := by
  obtain ⟨value, others, rfl, free⟩ := List.eq_append_cons_of_mem closed
  refine ⟨value, others, fun character member => by simp [member], fun rest => ?_⟩
  apply value?_quote isQuote
  exact quoted?_eq_some_iff.mpr ⟨by simp, free⟩

/-- A value that no quote begins, or none that is closed, ends where it must. -/
theorem value?_unquoted {first stop : Char} {text rest : Text} (plain : isUnquoted first = true)
    (stops : isUnquoted stop = false)
    (unclosed : first = '"' ∨ first = '\'' → first ∉ text ++ stop :: rest) :
    value? (first :: (text ++ stop :: rest))
      = some (first :: text.takeWhile isUnquoted, text.dropWhile isUnquoted ++ stop :: rest) := by
  have taken : (text ++ stop :: rest).takeWhile isUnquoted = text.takeWhile isUnquoted := by
    have none : (stop :: rest).takeWhile isUnquoted = [] :=
      List.takeWhile_cons_of_neg (by simp [stops])
    rw [List.takeWhile_append, none, List.append_nil]
    split
    · rename_i whole
      have front : text.takeWhile isUnquoted <+: text := List.takeWhile_prefix isUnquoted
      exact (front.eq_of_length whole).symm
    · rfl
  have dropped : (text ++ stop :: rest).dropWhile isUnquoted
      = text.dropWhile isUnquoted ++ stop :: rest := by
    rw [List.dropWhile_append]
    split
    · rename_i none
      rw [List.isEmpty_iff.mp none, List.dropWhile_cons_of_neg (by simp [stops]), List.nil_append]
    · rfl
  have valued := exists_unquoted? plain (text ++ stop :: rest)
  rw [taken, dropped] at valued
  rw [value?]
  split
  · rename_i isQuote
    have none : quoted? first (text ++ stop :: rest) = none := by
      rw [Option.eq_none_iff_forall_ne_some]
      intro found closed
      have split := (quoted?_eq_some_iff.mp closed).1
      apply unclosed (by simpa using isQuote)
      rw [split]
      exact List.mem_append_right _ List.mem_cons_self
    rw [none]
    exact valued
  · exact valued

/-- Blanks in front of a character that is none are dropped, and no more, whatever follows. -/
theorem exists_dropWhile_isBlank {text : Text}
    (visible : ∃ character ∈ text, isBlank character = false) :
    ∃ first others, first ∈ text ∧ isBlank first = false ∧
      ∀ rest, (text ++ rest).dropWhile isBlank = first :: (others ++ rest) := by
  have some : text.dropWhile isBlank ≠ [] := by
    intro none
    obtain ⟨character, member, solid⟩ := visible
    have blank := List.dropWhile_eq_nil_iff.mp none character member
    simp [solid] at blank
  obtain ⟨first, others, dropped⟩ := List.exists_cons_of_ne_nil some
  have solid : isBlank first = false := by
    have head := List.head_dropWhile_not isBlank (l := text) some
    simpa [dropped] using head
  refine ⟨first, others, ?_, solid, ?_⟩
  · apply (List.dropWhile_sublist isBlank).subset
    rw [dropped]
    exact List.mem_cons_self
  · intro rest
    rw [List.dropWhile_append, dropped]
    simp

/-! ## Opening a target -/

theorem target?_eq_some_iff {text : Text} {found : Text × Text} :
    target? text = some found ↔
      ∃ written blanks after, text = written ++ (blanks ++ '=' :: after) ∧
        written.map foldCase = "href" ∧ (∀ character ∈ blanks, isBlank character = true) ∧
          value? (after.dropWhile isBlank) = some found := by
  simp only [target?, Option.bind_eq_some_iff, afterName?_eq_some_iff, afterText?_eq_some_iff]
  constructor
  · rintro ⟨behind, ⟨written, rfl, spelled⟩, after, sign, valued⟩
    refine ⟨written, behind.takeWhile isBlank, after, ?_, spelled, ?_, valued⟩
    · have whole : behind.takeWhile isBlank ++ behind.dropWhile isBlank = behind :=
        List.takeWhile_append_dropWhile
      rw [sign] at whole
      exact congrArg (written ++ ·) whole.symm
    · intro character member
      exact List.mem_takeWhile_imp member
  · rintro ⟨written, blanks, after, rfl, spelled, blank, valued⟩
    refine ⟨_, ⟨written, rfl, spelled⟩, after, ?_, valued⟩
    rw [dropWhile_isBlank_append blank (by decide)]
    rfl

/-- A quote or a closing bracket is no part of what stands in front of a value. -/
theorem exists_of_target? {mark : Char} (isMark : mark = '"' ∨ mark = '>') {front back : Text}
    {found : Text × Text} (opened : target? (front ++ mark :: back) = some found) :
    ∃ written blanks between, front = written ++ (blanks ++ '=' :: between) ∧
      written.map foldCase = "href" ∧ (∀ character ∈ blanks, isBlank character = true) ∧
        value? ((between ++ mark :: back).dropWhile isBlank) = some found := by
  obtain ⟨written, blanks, after, same, spelled, blank, valued⟩ := target?_eq_some_iff.mp opened
  have missing : mark ∉ written ++ (blanks ++ ['=']) := by
    have inName : mark ∉ written := by
      rcases isMark with rfl | rfl <;>
        exact notMem_of_map_foldCase spelled (by decide) (by decide)
    have inBlanks : mark ∉ blanks := by
      apply notMem_of_isBlank blank
      rcases isMark with rfl | rfl <;> decide
    rcases isMark with rfl | rfl <;> simp [inName, inBlanks]
  have whole : (written ++ (blanks ++ ['='])) ++ after = front ++ mark :: back := by
    rw [same]
    simp
  obtain ⟨between, inFront, behind⟩ := prefix_of_append_eq missing whole
  refine ⟨written, blanks, between, ?_, spelled, blank, ?_⟩
  · rw [inFront]
    simp
  · rw [← behind]
    exact valued

/-- Whether a target opens is settled in front of the end of a tag. -/
theorem target?_isSome_iff {front : Text} (unclosed : '>' ∉ front) (rest : Text) :
    (target? (front ++ '>' :: rest)).isSome ↔ OpensTarget front := by
  rw [Option.isSome_iff_exists]
  constructor
  · rintro ⟨found, opened⟩
    obtain ⟨written, blanks, between, split, spelled, blank, valued⟩ :=
      exists_of_target? (.inr rfl) opened
    refine ⟨written, blanks, between, split, spelled, blank, ?_⟩
    by_contra none
    have all : ∀ character ∈ between, isBlank character = true := by simpa using none
    rw [dropWhile_isBlank_append all (by decide), value?_closing] at valued
    cases valued
  · rintro ⟨written, blanks, after, rfl, spelled, blank, visible⟩
    obtain ⟨first, others, member, solid, dropped⟩ := exists_dropWhile_isBlank visible
    have plain : isUnquoted first = true := by
      have different : first ≠ '>' := by
        rintro rfl
        exact unclosed (by simp [member])
      simp [isUnquoted, solid, different]
    obtain ⟨found, valued⟩ := exists_value? plain (others ++ '>' :: rest)
    refine ⟨found, target?_eq_some_iff.mpr ⟨written, blanks, after ++ '>' :: rest, ?_, spelled,
      blank, ?_⟩⟩
    · simp
    · rw [dropped]
      exact valued

theorem target?_cons_of_ne {first : Char} (other : foldCase first ≠ 'h') (rest : Text) :
    target? (first :: rest) = none := by
  have missing : afterName? "href" (first :: rest) = none := if_neg other
  rw [target?, missing]
  rfl

/-- A character that continues no word opens nothing. -/
theorem target?_cons_of_isWordlike {first : Char} (apart : isWordlike first = false)
    (rest : Text) : target? (first :: rest) = none := by
  apply target?_cons_of_ne
  intro spelled
  rw [← isWordlike_foldCase, spelled, isWordlike_of_mem_alphabet (by decide)] at apart
  cases apart

/-! ## Searching a tag -/

/-- A character at which nothing opens is passed. -/
theorem targetInTag?_cons {previous character : Char} {rest : Text} (inside : character ≠ '>')
    (missing : isWordlike previous = false → target? (character :: rest) = none) :
    targetInTag? previous (character :: rest) = targetInTag? character rest := by
  have here : (if isWordlike previous then none else target? (character :: rest)) = none := by
    split
    · rfl
    · rename_i border
      exact missing (eq_false_of_ne_true border)
  simp only [targetInTag?, here, if_neg inside]

/-- A text in which nothing opens is passed. -/
theorem targetInTag?_append {front back : Text} {previous : Char} (unclosed : '>' ∉ front)
    (apart : ∀ before last behind, previous :: front = before ++ last :: behind → behind ≠ [] →
      isWordlike last = false → target? (behind ++ back) = none) :
    targetInTag? previous (front ++ back)
      = targetInTag? (front.getLastD previous) back := by
  induction front generalizing previous with
  | nil => rfl
  | cons character others inductionHypothesis =>
      rw [List.mem_cons, not_or] at unclosed
      have missing : isWordlike previous = false → target? (character :: (others ++ back)) = none :=
        apart [] previous (character :: others) rfl (List.cons_ne_nil _ _)
      rw [List.cons_append, targetInTag?_cons (Ne.symm unclosed.1) missing, List.getLastD_cons]
      apply inductionHypothesis unclosed.2
      · intro before last behind split nonempty border
        exact apart (previous :: before) last behind (by rw [split, List.cons_append]) nonempty
          border

theorem targetInTag?_closing (previous : Char) (rest : Text) :
    targetInTag? previous ('>' :: rest) = none := by
  have none : target? ('>' :: rest) = none := target?_cons_of_ne (by decide) rest
  simp [targetInTag?, none]

/-- What opens behind a border is found. -/
theorem targetInTag?_of_target? {previous : Char} {text : Text} {found : Text × Text}
    (border : isWordlike previous = false) (opened : target? text = some found) :
    targetInTag? previous text = some found := by
  cases text with
  | nil => cases opened
  | cons character rest => simp [targetInTag?, border, opened]

/-- What opens behind a border further on is found, or something in front of it. -/
theorem targetInTag?_isSome {front back : Text} {previous : Char} (unclosed : '>' ∉ front)
    (border : isWordlike (front.getLastD previous) = false)
    (opened : (target? back).isSome) : (targetInTag? previous (front ++ back)).isSome := by
  induction front generalizing previous with
  | nil =>
      obtain ⟨found, here⟩ := Option.isSome_iff_exists.mp opened
      exact Option.isSome_iff_exists.mpr ⟨found, targetInTag?_of_target? border here⟩
  | cons character others inductionHypothesis =>
      have inside : character ≠ '>' := by
        rintro rfl
        exact unclosed List.mem_cons_self
      rw [List.getLastD_cons] at border
      rw [List.cons_append]
      simp only [targetInTag?, if_neg inside]
      split
      · rfl
      · exact inductionHypothesis (fun member => unclosed (List.mem_cons_of_mem _ member)) border

/-- Where a text with one more character in front is split behind a character, the text is
split at the same place. -/
theorem exists_of_cons_eq {previous last : Char} {front before behind : Text}
    (split : previous :: front = before ++ last :: behind) :
    ∃ ahead, front = ahead ++ behind ∧ ahead.getLastD previous = last := by
  cases before with
  | nil =>
      obtain ⟨rfl, rfl⟩ := List.cons.inj split
      exact ⟨[], rfl, rfl⟩
  | cons first others =>
      obtain ⟨rfl, rfl⟩ := List.cons.inj split
      exact ⟨others ++ [last], by simp, by simp [List.getLastD_eq_getLast?]⟩

/-- A search of the rest of a tag finds something exactly if the rest holds a target. -/
theorem targetInTag?_isSome_iff {front : Text} (unclosed : '>' ∉ front) (previous : Char)
    (rest : Text) :
    (targetInTag? previous (front ++ '>' :: rest)).isSome ↔ HoldsTarget (previous :: front) := by
  constructor
  · intro found
    by_contra free
    have apart : ∀ before last behind, previous :: front = before ++ last :: behind →
        behind ≠ [] → isWordlike last = false → target? (behind ++ '>' :: rest) = none := by
      intro before last behind split _ border
      obtain ⟨ahead, rfl, _⟩ := exists_of_cons_eq split
      have within : '>' ∉ behind := fun member => unclosed (List.mem_append_right _ member)
      rw [← Option.not_isSome_iff_eq_none, target?_isSome_iff within]
      exact fun opens => free ⟨before, last, behind, split, border, opens⟩
    rw [targetInTag?_append unclosed apart, targetInTag?_closing] at found
    cases found
  · rintro ⟨before, last, behind, split, border, opens⟩
    obtain ⟨ahead, rfl, ends⟩ := exists_of_cons_eq split
    rw [List.mem_append, not_or] at unclosed
    rw [List.append_assoc]
    apply targetInTag?_isSome unclosed.1
    · rw [ends]
      exact border
    · exact (target?_isSome_iff unclosed.2 rest).mpr opens

/-! ## Anchors -/

theorem anchor?_cons {first : Char} (named : foldCase first = 'a') {rest : Text}
    (ends : endsWord rest = true) : anchor? (first :: rest) = targetInTag? 'a' rest := by
  have spelled : [first].map foldCase = "a" := by simp [named]
  have found : afterName? "a" (first :: rest) = some rest := afterName?_append spelled rest
  rw [anchor?, found, Option.bind_some, if_pos ends]

/-- Only a tag with the name `a` is an anchor. -/
theorem exists_of_anchor? {text : Text} {found : Text × Text}
    (anchored : anchor? text = some found) :
    ∃ first rest, text = first :: rest ∧ foldCase first = 'a' ∧ endsWord rest = true ∧
      targetInTag? 'a' rest = some found := by
  obtain ⟨rest, named, inside⟩ := Option.bind_eq_some_iff.mp anchored
  obtain ⟨written, rfl, spelled⟩ := afterName?_eq_some_iff.mp named
  obtain ⟨first, rfl, letter⟩ := List.map_eq_singleton_iff.mp spelled
  split at inside
  · rename_i ends
    exact ⟨first, rest, rfl, letter, ends, inside⟩
  · cases inside

/-! ## What is taken -/

/-- A value has been taken off the front of a text with what stands around it. The end of a tag
is passed in the value only. -/
def TakenOff (text : Text) (found : Text × Text) : Prop :=
  ∃ taken, text = taken ++ found.2 ∧ (∀ character ∈ found.1, character ∈ taken) ∧
    ('>' ∈ taken → '>' ∈ found.1)

theorem TakenOff.behind {text : Text} {found : Text × Text} (taken : TakenOff text found)
    {front : Text} (unclosed : '>' ∉ front) : TakenOff (front ++ text) found := by
  obtain ⟨off, rfl, within, closed⟩ := taken
  refine ⟨front ++ off, by rw [List.append_assoc], ?_, ?_⟩
  · exact fun character member => List.mem_append_right _ (within character member)
  · intro member
    exact closed ((List.mem_append.mp member).resolve_left unclosed)

theorem takenOff_of_unquoted? {text : Text} {found : Text × Text}
    (valued : unquoted? text = some found) : TakenOff text found := by
  unfold unquoted? at valued
  split at valued
  · cases valued
  · rename_i first others run
    cases valued
    refine ⟨first :: others, ?_, fun _ member => member, id⟩
    rw [← run, List.takeWhile_append_dropWhile]

theorem takenOff_of_quoted? {quote : Char} (notEnd : quote ≠ '>') {rest : Text}
    {found : Text × Text} (valued : quoted? quote rest = some found) :
    TakenOff (quote :: rest) found := by
  obtain ⟨value, behind⟩ := found
  obtain ⟨rfl, _⟩ := quoted?_eq_some_iff.mp valued
  refine ⟨quote :: (value ++ [quote]), by simp, ?_, ?_⟩
  · intro character member
    simp [show character ∈ value from member]
  · intro member
    simpa [notEnd.symm] using member

theorem takenOff_of_value? {text : Text} {found : Text × Text}
    (valued : value? text = some found) : TakenOff text found := by
  cases text with
  | nil => cases valued
  | cons first rest =>
      rw [value?] at valued
      split at valued
      · rename_i isQuote
        have notEnd : first ≠ '>' := by
          rintro rfl
          exact absurd isQuote (by decide)
        split at valued
        · rename_i closed
          cases valued
          exact takenOff_of_quoted? notEnd closed
        · exact takenOff_of_unquoted? valued
      · exact takenOff_of_unquoted? valued

theorem takenOff_of_target? {text : Text} {found : Text × Text}
    (opened : target? text = some found) : TakenOff text found := by
  obtain ⟨written, blanks, after, rfl, spelled, blank, valued⟩ := target?_eq_some_iff.mp opened
  have inName : '>' ∉ written := notMem_of_map_foldCase spelled (by decide) (by decide)
  have unclosed : '>' ∉ written ++ (blanks ++ '=' :: after.takeWhile isBlank) := by
    have inFront : '>' ∉ blanks := notMem_of_isBlank blank (by decide)
    have behind : '>' ∉ after.takeWhile isBlank :=
      notMem_of_isBlank (fun _ member => List.mem_takeWhile_imp member) (by decide)
    simp [inName, inFront, behind]
  have whole : written ++ (blanks ++ '=' :: after)
      = (written ++ (blanks ++ '=' :: after.takeWhile isBlank)) ++ after.dropWhile isBlank := by
    simp
  rw [whole]
  exact (takenOff_of_value? valued).behind unclosed

theorem takenOff_of_targetInTag? {previous : Char} {text : Text} {found : Text × Text}
    (searched : targetInTag? previous text = some found) : TakenOff text found := by
  induction text generalizing previous with
  | nil => cases searched
  | cons character rest inductionHypothesis =>
      simp only [targetInTag?] at searched
      split at searched
      · rename_i here
        cases searched
        split at here
        · cases here
        · exact takenOff_of_target? here
      · split at searched
        · cases searched
        · rename_i inside
          have unclosed : '>' ∉ [character] := by simpa using Ne.symm inside
          exact (inductionHypothesis searched).behind unclosed

/-! ## Searching a document -/

theorem targets_nil : targets [] = [] := by
  rw [targets]

theorem targets_cons_of_ne {character : Char} (notOpening : character ≠ '<') (rest : Text) :
    targets (character :: rest) = targets rest := by
  rw [targets, if_neg notOpening]

theorem targets_anchor {text : Text} {found : Text × Text} (anchored : anchor? text = some found) :
    targets ('<' :: text) = found.1 :: targets found.2 := by
  rw [targets, if_pos rfl]
  split
  · rename_i other
    cases anchored.symm.trans other
    rfl
  · rename_i other
    cases anchored.symm.trans other

theorem targets_opening {text : Text} (missing : anchor? text = none) :
    targets ('<' :: text) = targets text := by
  rw [targets, if_pos rfl]
  split
  · rename_i other
    cases missing.symm.trans other
  · rfl

theorem targets_append {text : Text} (free : '<' ∉ text) (rest : Text) :
    targets (text ++ rest) = targets rest := by
  induction text with
  | nil => rfl
  | cons character others inductionHypothesis =>
      rw [List.mem_cons, not_or] at free
      rw [List.cons_append, targets_cons_of_ne (Ne.symm free.1), inductionHypothesis free.2]

theorem targets_eq_nil {text : Text} (free : '<' ∉ text) : targets text = [] := by
  have passed := targets_append free []
  rwa [List.append_nil, targets_nil] at passed

end Concordance.Html
