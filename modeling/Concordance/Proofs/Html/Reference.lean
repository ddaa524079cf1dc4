import Concordance.Html.Reference
import Concordance.Proofs.Text.Recasing

/-!
Contract: decoding undoes every way of writing a character.

A character can be written as itself, unless it is the ampersand, by the number of its
code point in either number system, or by its name if it has one. Each way ends where the
next begins, so that a text is read back whatever is chosen for each of its characters.

Owns:
- the ways of writing a character;
- what `decode` reads back.

Does not own: references that stand for no character, which stay as they are
(`Concordance.Html.Reference`).
-/

set_option autoImplicit false

namespace Concordance.Html

open Concordance.Text (hexDigit? isHexDigit numberOf ofNumber?)

/-! ## Ways of writing a character -/

/-- The characters that have a name of their own. -/
def names : List (Text × Char) :=
  [("amp", '&'), ("lt", '<'), ("gt", '>'), ("quot", '"'), ("apos", '\'')]

/-- A text is one way of writing a character. Zeros may stand in front of a number, and
the digits and the mark of a hexadecimal number may be of either case. -/
inductive Writes : Char → Text → Prop
  | plain {character : Char} (notMark : character ≠ '&') : Writes character [character]
  | decimal (character : Char) (zeros : Nat) :
      Writes character
        ('&' :: '#' :: (List.replicate zeros '0' ++ Text.decimal character.toNat ++ [';']))
  | hexadecimal (character mark : Char) (zeros : Nat) (digits : Text)
      (marked : mark = 'x' ∨ mark = 'X')
      (spelled : Text.lowerAscii digits
        = List.replicate zeros '0' ++ Text.hexadecimal character.toNat) :
      Writes character ('&' :: '#' :: mark :: (digits ++ [';']))
  | named (name : Text) {character : Char} (known : (name, character) ∈ names) :
      Writes character ('&' :: (name ++ [';']))

/-- The text with every ampersand written by its name and all else as itself. -/
def escaped (text : Text) : Text :=
  text.flatMap fun character => if character = '&' then "&amp;".toList else [character]

/-! ## Numbers -/

section Numbers

variable {base : Nat}

theorem numberOf_append (base : Nat) (front back : Text) :
    numberOf base (front ++ back)
      = back.foldl (fun number digit => number * base + (hexDigit? digit).getD 0)
          (numberOf base front) :=
  List.foldl_append

theorem numberOf_concat (base : Nat) (front : Text) (digit : Char) :
    numberOf base (front ++ [digit]) = numberOf base front * base + (hexDigit? digit).getD 0 :=
  numberOf_append base front [digit]

/-- A digit has the value that it is written for, and its number system has it. -/
theorem digitChar_spec : ∀ value < 16,
    hexDigit? (Nat.digitChar value) = some value ∧
      isHexDigit (Nat.digitChar value) = true ∧
      (value < 10 → (Nat.digitChar value).isDigit = true) := by
  decide

/-- A numeral denotes the number that it was written for. -/
theorem numberOf_toDigits (atLeastTwo : 1 < base) (atMost : base ≤ 16) (number : Nat) :
    numberOf base (Nat.toDigits base number) = number := by
  induction number using Nat.strongRecOn with
  | ind number inductionHypothesis =>
      by_cases small : number < base
      · rw [Nat.toDigits_of_lt_base small]
        have value := (digitChar_spec number (by omega)).1
        simp [numberOf, value]
      · have shorter : number / base < number := Nat.div_lt_self (by omega) atLeastTwo
        have last : number % base < base := Nat.mod_lt _ (by omega)
        have value := (digitChar_spec (number % base) (by omega)).1
        rw [Nat.toDigits_of_base_le atLeastTwo (by omega), numberOf_concat,
          inductionHypothesis _ shorter, value, Nat.mul_comm]
        exact Nat.div_add_mod number base

theorem mem_toDigits {member : Char → Bool} (atLeastTwo : 1 < base)
    (digits : ∀ value < base, member (Nat.digitChar value) = true) (number : Nat) :
    ∀ digit ∈ Nat.toDigits base number, member digit = true := by
  induction number using Nat.strongRecOn with
  | ind number inductionHypothesis =>
      intro digit isDigit
      by_cases small : number < base
      · rw [Nat.toDigits_of_lt_base small, List.mem_singleton] at isDigit
        rw [isDigit]
        exact digits number small
      · rw [Nat.toDigits_of_base_le atLeastTwo (by omega), List.mem_append,
          List.mem_singleton] at isDigit
        rcases isDigit with earlier | last
        · exact inductionHypothesis _ (Nat.div_lt_self (by omega) atLeastTwo) digit earlier
        · rw [last]
          exact digits _ (Nat.mod_lt _ (by omega))

/-- Zeros in front of a numeral do not change what it denotes. -/
theorem numberOf_numeral (atLeastTwo : 1 < base) (atMost : base ≤ 16) (zeros number : Nat) :
    numberOf base (List.replicate zeros '0' ++ Nat.toDigits base number) = number := by
  have none : numberOf base (List.replicate zeros '0') = 0 := by
    induction zeros with
    | zero => rfl
    | succ fewer inductionHypothesis =>
        rw [List.replicate_succ', numberOf_concat, inductionHypothesis, Nat.zero_mul]
        rfl
  rw [numberOf_append, none]
  exact numberOf_toDigits atLeastTwo atMost number

theorem mem_numeral {member : Char → Bool} (atLeastTwo : 1 < base)
    (digits : ∀ value < base, member (Nat.digitChar value) = true) (zeros number : Nat) :
    ∀ digit ∈ List.replicate zeros '0' ++ Nat.toDigits base number, member digit = true := by
  intro digit isDigit
  rcases List.mem_append.mp isDigit with zero | later
  · rw [List.eq_of_mem_replicate zero]
    exact digits 0 (by omega)
  · exact mem_toDigits atLeastTwo digits number digit later

theorem numeral_ne_nil (base zeros number : Nat) :
    List.replicate zeros '0' ++ Nat.toDigits base number ≠ [] :=
  List.append_ne_nil_of_right_ne_nil _ Nat.toDigits_ne_nil

end Numbers

/-! ## Digits of either case -/

theorem hexDigit?_toLower (digit : Char) : hexDigit? digit.toLower = hexDigit? digit :=
  Text.apply_toLower hexDigit? (by decide) digit

theorem isHexDigit_toLower (digit : Char) : isHexDigit digit.toLower = isHexDigit digit := by
  rw [isHexDigit, isHexDigit, hexDigit?_toLower]

theorem numberOf_lowerAscii (base : Nat) (digits : Text) :
    numberOf base (Text.lowerAscii digits) = numberOf base digits := by
  simp only [numberOf, Text.lowerAscii, List.foldl_map, hexDigit?_toLower]

theorem isHexDigit_of_lowerAscii {digits : Text}
    (lowered : ∀ digit ∈ Text.lowerAscii digits, isHexDigit digit = true) :
    ∀ digit ∈ digits, isHexDigit digit = true := by
  intro digit member
  rw [← isHexDigit_toLower]
  exact lowered digit.toLower (List.mem_map_of_mem member)

/-! ## Reading one reference -/

/-- A run is read up to the first semicolon, whatever follows it. -/
theorem run?_append {member : Char → Bool} (read : Text → Option Char) {digits : Text}
    (nonempty : digits ≠ []) (each : ∀ digit ∈ digits, member digit = true)
    (ends : member ';' = false) (rest : Text) :
    run? member read (digits ++ ';' :: rest) = (read digits).map (·, rest) := by
  have stops : ¬member ';' = true := by simp [ends]
  obtain ⟨first, others, rfl⟩ := List.exists_cons_of_ne_nil nonempty
  unfold run?
  rw [List.takeWhile_append_of_pos each, List.dropWhile_append_of_pos each,
    List.takeWhile_cons_of_neg stops, List.dropWhile_cons_of_neg stops, List.append_nil]
  rfl

theorem ofNumber?_toNat (character : Char) : ofNumber? character.toNat = some character := by
  have isValid : character.toNat.isValidChar := character.valid
  rw [ofNumber?, if_pos isValid, Char.ofNat_toNat]

theorem named?_of_mem {name : Text} {character : Char} (known : (name, character) ∈ names) :
    named? name = some character := by
  have all : ∀ entry ∈ names, named? entry.1 = some entry.2 := by decide
  exact all (name, character) known

theorem isAlpha_of_mem {name : Text} {character : Char}
    (known : (name, character) ∈ names) :
    name ≠ [] ∧ ∀ letter ∈ name, letter.isAlpha = true := by
  have all : ∀ entry ∈ names, entry.1 ≠ [] ∧ entry.1.all Char.isAlpha = true := by decide
  obtain ⟨nonempty, letters⟩ := all (name, character) known
  exact ⟨nonempty, List.all_eq_true.mp letters⟩

theorem reference?_decimal {digits : Text} (nonempty : digits ≠ [])
    (each : ∀ digit ∈ digits, digit.isDigit = true) (rest : Text) :
    reference? ('#' :: (digits ++ ';' :: rest))
      = (ofNumber? (numberOf 10 digits)).map (·, rest) := by
  have run := run?_append (fun digits => ofNumber? (numberOf 10 digits)) nonempty each (by decide)
    rest
  obtain ⟨first, others, rfl⟩ := List.exists_cons_of_ne_nil nonempty
  have digit : first.isDigit = true := each first List.mem_cons_self
  unfold reference?
  -- The mark of a hexadecimal number is no decimal digit.
  split
  · rename_i shape
    cases shape
    exact absurd digit (by decide)
  · rename_i shape
    cases shape
    exact absurd digit (by decide)
  · rename_i shape
    cases shape
    exact run
  · rename_i notNumber
    exact absurd rfl (notNumber _)

theorem reference?_hexadecimal {mark : Char} {digits : Text} (marked : mark = 'x' ∨ mark = 'X')
    (nonempty : digits ≠ []) (each : ∀ digit ∈ digits, isHexDigit digit = true)
    (rest : Text) :
    reference? ('#' :: mark :: (digits ++ ';' :: rest))
      = (ofNumber? (numberOf 16 digits)).map (·, rest) := by
  have run := run?_append (fun digits => ofNumber? (numberOf 16 digits)) nonempty each (by decide)
    rest
  rcases marked with rfl | rfl
  · exact run
  · exact run

theorem reference?_named {name : Text} (nonempty : name ≠ [])
    (each : ∀ letter ∈ name, letter.isAlpha = true) (rest : Text) :
    reference? (name ++ ';' :: rest) = (named? name).map (·, rest) := by
  have run := run?_append named? nonempty each (by decide) rest
  obtain ⟨first, others, rfl⟩ := List.exists_cons_of_ne_nil nonempty
  have letter : Char.isAlpha first = true := each first List.mem_cons_self
  have notMark : first ≠ '#' := by
    rintro rfl
    exact absurd letter (by decide)
  unfold reference?
  split
  · rename_i shape
    exact absurd (List.cons.inj shape).1 notMark
  · rename_i shape
    exact absurd (List.cons.inj shape).1 notMark
  · rename_i shape
    exact absurd (List.cons.inj shape).1 notMark
  · exact run

/-! ## Reading texts -/

theorem decode_nil : decode [] = [] := by
  rw [decode]

theorem decode_cons_of_ne {character : Char} (notMark : character ≠ '&') (rest : Text) :
    decode (character :: rest) = character :: decode rest := by
  rw [decode, if_neg notMark]

/-- A text without ampersands stands for itself. -/
theorem decode_eq_self {text : Text} (plain : '&' ∉ text) : decode text = text := by
  induction text with
  | nil => exact decode_nil
  | cons character others inductionHypothesis =>
      rw [List.mem_cons, not_or] at plain
      rw [decode_cons_of_ne (Ne.symm plain.1), inductionHypothesis plain.2]

theorem decode_reference {text rest : Text} {character : Char}
    (found : reference? text = some (character, rest)) :
    decode ('&' :: text) = character :: decode rest := by
  rw [decode, if_pos rfl]
  split
  · rename_i other
    cases found.symm.trans other
    rfl
  · rename_i other
    cases found.symm.trans other

theorem decode_decimal (character : Char) (zeros : Nat) (rest : Text) :
    decode ('&' :: '#' :: (List.replicate zeros '0' ++ Text.decimal character.toNat ++ ';' :: rest))
      = character :: decode rest := by
  have each : ∀ digit ∈ List.replicate zeros '0' ++ Text.decimal character.toNat,
      digit.isDigit = true :=
    mem_numeral (by decide) (fun value small => (digitChar_spec value (by omega)).2.2 small) _ _
  have value : numberOf 10 (List.replicate zeros '0' ++ Text.decimal character.toNat)
      = character.toNat := numberOf_numeral (by decide) (by decide) _ _
  have nonempty : List.replicate zeros '0' ++ Text.decimal character.toNat ≠ [] :=
    numeral_ne_nil 10 zeros character.toNat
  apply decode_reference
  rw [reference?_decimal nonempty each, value, ofNumber?_toNat, Option.map_some]

/-- The digits of a hexadecimal number are read like those of its lower-case form. -/
theorem decode_hexadecimal (character : Char) {mark : Char} (zeros : Nat) {digits : Text}
    (marked : mark = 'x' ∨ mark = 'X')
    (spelled : Text.lowerAscii digits
      = List.replicate zeros '0' ++ Text.hexadecimal character.toNat) (rest : Text) :
    decode ('&' :: '#' :: mark :: (digits ++ ';' :: rest)) = character :: decode rest := by
  have each : ∀ digit ∈ digits, isHexDigit digit = true := by
    apply isHexDigit_of_lowerAscii
    rw [spelled]
    exact mem_numeral (by decide) (fun value small => (digitChar_spec value small).2.1) _ _
  have nonempty : digits ≠ [] := by
    rintro rfl
    exact numeral_ne_nil 16 zeros character.toNat spelled.symm
  have value : numberOf 16 digits = character.toNat := by
    rw [← numberOf_lowerAscii, spelled]
    exact numberOf_numeral (by decide) (by decide) _ _
  apply decode_reference
  rw [reference?_hexadecimal marked nonempty each, value, ofNumber?_toNat, Option.map_some]

theorem decode_named {name : Text} {character : Char} (known : (name, character) ∈ names)
    (rest : Text) : decode ('&' :: (name ++ ';' :: rest)) = character :: decode rest := by
  obtain ⟨nonempty, each⟩ := isAlpha_of_mem known
  apply decode_reference
  rw [reference?_named nonempty each, named?_of_mem known, Option.map_some]

/-- However a character is written, it is read back, and reading goes on behind it. -/
theorem decode_writes {character : Char} {written : Text} (writes : Writes character written)
    (rest : Text) : decode (written ++ rest) = character :: decode rest := by
  cases writes with
  | plain notMark => exact decode_cons_of_ne notMark rest
  | decimal _ zeros =>
      rw [List.cons_append, List.cons_append, List.append_assoc _ [';']]
      exact decode_decimal character zeros rest
  | hexadecimal _ mark zeros digits marked spelled =>
      rw [List.cons_append, List.cons_append, List.cons_append, List.append_assoc]
      exact decode_hexadecimal character zeros marked spelled rest
  | named name known =>
      rw [List.cons_append, List.append_assoc]
      exact decode_named known rest

theorem decode_flatten {text : Text} {parts : List Text}
    (written : List.Forall₂ Writes text parts) : decode parts.flatten = text := by
  induction written with
  | nil => exact decode_nil
  | cons writes _ inductionHypothesis =>
      rw [List.flatten_cons, decode_writes writes, inductionHypothesis]

theorem writes_escaped (character : Char) :
    Writes character (if character = '&' then "&amp;".toList else [character]) := by
  by_cases mark : character = '&'
  · rw [if_pos mark, mark]
    exact .named "amp" (by decide)
  · rw [if_neg mark]
    exact .plain mark

/-- Decoding undoes every way of writing a text, chosen for each character by itself, and so
the writing of ampersands by their name. What has been decoded is not decoded again. -/
theorem decode_written (text : Text) :
    (∀ parts, List.Forall₂ Writes text parts → decode parts.flatten = text) ∧
      decode (escaped text) = text := by
  refine ⟨fun parts written => decode_flatten written, ?_⟩
  apply decode_flatten
  exact List.forall₂_map_right_iff.mpr
    (List.forall₂_same.mpr fun character _ => writes_escaped character)

/-- What is decoded first looks like the beginning of a reference, and zeros and digits of
either case stand in the numbers. -/
theorem decode_written_reference :
    List.Forall₂ Writes ['&', 'l', 't', ';', Char.ofNat 0x10FFFF, '<']
        ["&#0038;".toList, "l".toList, "&#x74;".toList, ";".toList, "&#X010FfFf;".toList,
          "&lt;".toList] ∧
      decode "&#0038;l&#x74;;&#X010FfFf;&lt;".toList
        = ['&', 'l', 't', ';', Char.ofNat 0x10FFFF, '<'] := by
  have written : List.Forall₂ Writes ['&', 'l', 't', ';', Char.ofNat 0x10FFFF, '<']
      ["&#0038;".toList, "l".toList, "&#x74;".toList, ";".toList, "&#X010FfFf;".toList,
        "&lt;".toList] :=
    .cons (.decimal '&' 2) <|
    .cons (.plain (by decide)) <|
    .cons (.hexadecimal 't' 'x' 0 "74" (.inl rfl) (by decide)) <|
    .cons (.plain (by decide)) <|
    .cons (.hexadecimal (Char.ofNat 0x10FFFF) 'X' 1 "010FfFf" (.inr rfl) (by decide)) <|
    .cons (.named "lt" (by decide)) .nil
  exact ⟨written, (decode_written _).1 _ written⟩

end Concordance.Html
