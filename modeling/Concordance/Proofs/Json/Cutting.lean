import Concordance.Proofs.Json.Composite
import Concordance.Proofs.Json.Numeral
import Concordance.Proofs.Json.Refusing

/-!
Contract: written values that are cut off are unfinished, and nothing else.

A reader that has met no fault in a front part of a written value can only miss what was
cut off. What it says then depends on the value: strings, lists and objects show by their
last byte that they are over, and every shorter part of them is unfinished. A number does
not, and a part of its digits is taken as a smaller number, behind which the list or the
object around it is unfinished.

Owns:
- parts of byte strings, and readers that await the rest of what they are given;
- cut strings, numbers, lists and objects.

Does not own: whole documents (`Concordance.Proofs.Storage.Cutting`).
-/

set_option autoImplicit false

namespace Concordance.Json

open Reader (Delimited Recovers Takes)

variable {α β σ : Type}

/-! ## Parts of byte strings -/

/-- A front part that leaves something out. -/
def IsCut (front bytes : Bytes) : Prop := front <+: bytes ∧ front ≠ bytes

theorem not_isCut_nil (front : Bytes) : ¬IsCut front [] :=
  fun cut => cut.2 (List.prefix_nil.mp cut.1)

theorem isCut_cons {front bytes : Bytes} {first : UInt8} :
    IsCut front (first :: bytes) ↔
      front = [] ∨ ∃ others, front = first :: others ∧ IsCut others bytes := by
  rw [IsCut, List.prefix_cons_iff]
  constructor
  · rintro ⟨rfl | ⟨others, rfl, isPrefix⟩, different⟩
    · exact .inl rfl
    · exact .inr ⟨others, rfl, isPrefix, fun same => different (by rw [same])⟩
  · rintro (rfl | ⟨others, rfl, isPrefix, different⟩)
    · exact ⟨.inl rfl, (List.cons_ne_nil _ _).symm⟩
    · exact ⟨.inr ⟨others, rfl, isPrefix⟩, fun same => different (List.cons.inj same).2⟩

theorem isCut_singleton {front : Bytes} {byte : UInt8} : IsCut front [byte] ↔ front = [] := by
  rw [isCut_cons]
  exact ⟨fun cut => cut.resolve_right fun ⟨others, _, inner⟩ => not_isCut_nil others inner, .inl⟩

/-- A cut is in the first of two byte strings or in the second. -/
theorem IsCut.of_append {front first second : Bytes} (cut : IsCut front (first ++ second)) :
    IsCut front first ∨ ∃ back, front = first ++ back ∧ IsCut back second := by
  induction first generalizing front with
  | nil => exact .inr ⟨front, rfl, cut⟩
  | cons byte rest inductionHypothesis =>
      rcases isCut_cons.mp cut with rfl | ⟨others, rfl, inner⟩
      · exact .inl (isCut_cons.mpr (.inl rfl))
      · rcases inductionHypothesis inner with within | ⟨back, rfl, behind⟩
        · exact .inl (isCut_cons.mpr (.inr ⟨others, rfl, within⟩))
        · exact .inr ⟨back, rfl, behind⟩

theorem IsCut.length_lt {front bytes : Bytes} (cut : IsCut front bytes) :
    front.length < bytes.length := by
  obtain ⟨isPrefix, different⟩ := cut
  have bound := isPrefix.length_le
  have unequal : front.length ≠ bytes.length := fun same =>
    different (isPrefix.eq_of_length same)
  omega

namespace Reader

/-- What may stand behind a value may be cut. -/
theorem Delimited.of_isCut {front bytes : Bytes} (delimited : Delimited bytes)
    (cut : IsCut front bytes) : Delimited front := by
  intro next member
  obtain ⟨back, rfl⟩ := cut.1
  apply delimited
  cases front with
  | nil => cases member
  | cons first others => exact member

/-- A reader finds every shorter front part of some bytes unfinished. -/
def Awaits (reader : Reader α) (bytes : Bytes) : Prop :=
  ∀ front, IsCut front bytes → reader front = .error .unfinished

/-- A reader finds every shorter front part of some bytes unfinished or takes all of it. -/
def Follows (reader : Reader α) (bytes : Bytes) : Prop :=
  ∀ front, IsCut front bytes →
    reader front = .error .unfinished ∨ ∃ value, reader.Takes front value []

section Rules

variable {reader : Reader α} {bytes front : Bytes}

theorem Awaits.follows (awaits : reader.Awaits bytes) : reader.Follows bytes :=
  fun front cut => .inl (awaits front cut)

theorem Awaits.refine (awaits : reader.Awaits bytes) (change : α → Except Fault β) :
    (reader.refine change).Awaits bytes :=
  fun front cut => refine_error (awaits front cut) change

theorem Awaits.map (awaits : reader.Awaits bytes) (change : α → β) :
    (reader.map change).Awaits bytes :=
  awaits.refine _

theorem Follows.map (follows : reader.Follows bytes) (change : α → β) :
    (reader.map change).Follows bytes := by
  intro front cut
  rcases follows front cut with unfinished | ⟨value, taken⟩
  · exact .inl (map_error unfinished change)
  · exact .inr ⟨change value, taken.map change⟩

/-- The colon in front of a value may be the end. -/
theorem Follows.assigned (follows : reader.Follows bytes) :
    (assigned reader).Follows (0x3A :: bytes) := by
  intro front cut
  rcases isCut_cons.mp cut with rfl | ⟨others, rfl, inner⟩
  · exact .inl (assigned_nil reader)
  · rcases follows others inner with unfinished | ⟨value, taken⟩
    · exact .inl (assigned_error unfinished)
    · exact .inr ⟨value, takes_assigned taken⟩

theorem Awaits.opened {opening : UInt8} (solid : isBlank opening = false)
    (awaits : reader.Awaits bytes) : (opened opening reader).Awaits (opening :: bytes) := by
  intro front cut
  rcases isCut_cons.mp cut with rfl | ⟨others, rfl, inner⟩
  · exact opened_nil opening reader
  · exact opened_error solid (awaits others inner)

end Rules

end Reader

/-! ## Strings -/

section Strings

variable {units : Reader Bytes} {bytes escaped piece : Bytes}

theorem awaits_quote (units : Reader Bytes) : Reader.Awaits (quotedBytes units) [0x22] := by
  intro front cut
  rw [isCut_singleton.mp cut, quotedBytes]

theorem awaits_plain {byte : UInt8} (plain : isPlain byte = true)
    (awaits : Reader.Awaits (quotedBytes units) bytes) :
    Reader.Awaits (quotedBytes units) (byte :: bytes) := by
  intro front cut
  simp only [isPlain, ne_eq, Bool.and_eq_true, decide_eq_true_eq, decide_not,
    Bool.not_eq_true', decide_eq_false_iff_not] at plain
  rcases isCut_cons.mp cut with rfl | ⟨others, rfl, inner⟩
  · rw [quotedBytes]
  · rw [quotedBytes, if_neg plain.1.1, if_neg (by simpa using plain.1.2), if_neg plain.2]
    simp only [awaits others inner]

theorem awaits_plains {front : Bytes} (plain : ∀ byte ∈ front, isPlain byte = true)
    (awaits : Reader.Awaits (quotedBytes units) bytes) :
    Reader.Awaits (quotedBytes units) (front ++ bytes) := by
  induction front with
  | nil => exact awaits
  | cons byte others inductionHypothesis =>
      exact awaits_plain (plain byte List.mem_cons_self)
        (inductionHypothesis fun other member => plain other (List.mem_cons_of_mem _ member))

theorem awaits_escaped (first : (escape units).Awaits escaped)
    (takes : ∀ rest, (escape units).Takes (escaped ++ rest) piece rest)
    (awaits : Reader.Awaits (quotedBytes units) bytes) :
    Reader.Awaits (quotedBytes units) (0x5C :: escaped ++ bytes) := by
  intro front cut
  rcases isCut_cons.mp cut with rfl | ⟨others, rfl, inner⟩
  · rw [quotedBytes]
  rw [quotedBytes, if_neg (by decide), if_neg (by decide), if_pos rfl]
  rcases inner.of_append with within | ⟨back, rfl, behind⟩
  · simp only [first others within]
  · obtain ⟨shorter, read⟩ := takes back
    simp only [read, awaits back behind]

theorem awaits_letter (units : Reader Bytes) (letter : UInt8) :
    (escape units).Awaits [letter] := by
  intro front cut
  rw [isCut_singleton.mp cut]
  rfl

theorem awaits_units (awaits : units.Awaits bytes) : (escape units).Awaits (0x75 :: bytes) := by
  intro front cut
  rcases isCut_cons.mp cut with rfl | ⟨others, rfl, inner⟩
  · rfl
  · rw [escape, if_pos rfl]
    simp only [awaits others inner]

/-- All four digits of a code unit have to be there. -/
theorem awaits_codePoint {digits : Bytes} (four : digits.length = 4) :
    codePoint.Awaits digits := by
  intro front cut
  have short := cut.length_lt
  have unit : codeUnit front = .error .unfinished := by
    rcases front with _ | ⟨first, _ | ⟨second, _ | ⟨third, _ | ⟨fourth, others⟩⟩⟩⟩
    iterate 4 rfl
    simp only [List.length_cons] at short
    omega
  simp only [codePoint, unit]

theorem awaits_short {letter : Char} {byte : UInt8} (ascii : letter.toNat < 0x80)
    (known : escapedByte? (UInt8.ofNat letter.toNat) = some byte)
    (awaits : Reader.Awaits (quotedBytes codePoint) bytes) :
    Reader.Awaits (quotedBytes codePoint) (Utf8.encode ['\\', letter] ++ bytes) := by
  rw [encode_short ascii]
  exact awaits_escaped (awaits_letter codePoint _) (takes_letter known) awaits

theorem awaits_control {code : Nat} (control : code < 0x20)
    (awaits : Reader.Awaits (quotedBytes codePoint) bytes) :
    Reader.Awaits (quotedBytes codePoint)
      (Utf8.encode ['\\', 'u', '0', '0', Nat.digitChar (code / 16), Nat.digitChar (code % 16)]
        ++ bytes) := by
  rw [encode_control control]
  exact awaits_escaped (awaits_units (awaits_codePoint rfl))
    (fun rest => takes_units (takes_codePoint control rest)) awaits

/-- No character is refused because a part of it is missing. -/
theorem awaits_escapedChar (character : Char)
    (awaits : Reader.Awaits (quotedBytes codePoint) bytes) :
    Reader.Awaits (quotedBytes codePoint) (Utf8.encode (escapedChar character) ++ bytes) := by
  unfold escapedChar
  -- Seven characters have a letter of their own.
  iterate 7
    split
    · exact awaits_short (by decide) (by rfl) awaits
  split
  · rename_i control
    exact awaits_control control awaits
  · rename_i notQuote notBackslash _ _ _ _ _ printable
    rw [Utf8.encode_cons, Utf8.encode, List.flatMap_nil, List.append_nil]
    exact awaits_plains (fun byte => isPlain_of_mem_encodeChar notQuote notBackslash
      (Nat.le_of_not_lt printable)) awaits

theorem awaits_quotedBytes (text : Text) :
    Reader.Awaits (quotedBytes codePoint)
      (Utf8.encode (text.flatMap escapedChar) ++ [0x22]) := by
  induction text with
  | nil => exact awaits_quote codePoint
  | cons character others inductionHypothesis =>
      rw [List.flatMap_cons, Utf8.encode_append, List.append_assoc]
      exact awaits_escapedChar character inductionHypothesis

/-- A name shows by its closing quote that it is over. -/
theorem awaits_memberName (name : Text) : memberName.Awaits (Utf8.encode (string name)) := by
  have written := encode_string_append name []
  rw [List.append_nil] at written
  rw [written]
  intro front cut
  rcases isCut_cons.mp cut with rfl | ⟨others, rfl, inner⟩
  · rfl
  · refine (Reader.takes_exactly 0x22 others).andThen_error ?_
    exact Reader.refine_error (awaits_quotedBytes name others inner) _

end Strings

/-! ## Numbers -/

/-- Further digits do not make a number smaller. -/
theorem le_foldl_digits (digits : Bytes) (value : Nat) :
    value ≤ digits.foldl (fun value digit => value * 10 + digitValue digit) value := by
  induction digits generalizing value with
  | nil => exact Nat.le_refl _
  | cons digit others inductionHypothesis =>
      have later := inductionHypothesis (value * 10 + digitValue digit)
      rw [List.foldl_cons]
      omega

theorem digitsValue_pos {first : UInt8} (digit : isDigit first = true) (nonzero : first ≠ 0x30)
    (others : Bytes) : 0 < digitsValue (first :: others) := by
  simp only [isDigit, Bool.and_eq_true, decide_eq_true_eq, UInt8.le_iff_toNat_le] at digit
  have different : first.toNat ≠ 0x30 := fun same => nonzero (UInt8.toNat_inj.mp same)
  have positive : 0 < digitValue first := by
    have least : 0x30 ≤ first.toNat := digit.1
    rw [digitValue]
    omega
  have bound := le_foldl_digits others (0 * 10 + digitValue first)
  rw [digitsValue, List.foldl_cons]
  omega

/-- The first digits of a number denote a number that is not larger. -/
theorem Denotes.of_append {front back : Bytes} {value : Nat}
    (denotes : Denotes (front ++ back) value) (nonempty : front ≠ []) :
    ∃ smaller ≤ value, Denotes front smaller := by
  have bound : digitsValue front ≤ value := by
    have whole := denotes.denoted
    rw [digitsValue, List.foldl_append] at whole
    exact whole ▸ le_foldl_digits back _
  obtain ⟨first, others, rfl⟩ := List.exists_cons_of_ne_nil nonempty
  have each : ∀ byte ∈ first :: others, isDigit byte = true :=
    fun byte member => denotes.each byte (List.mem_append_left back member)
  refine ⟨digitsValue (first :: others), bound, nonempty, each, rfl, ?_, ?_⟩
  · intro positive
    exact denotes.leading (Nat.lt_of_lt_of_le positive bound)
  · intro zero
    rcases Nat.eq_zero_or_pos value with none | positive
    · -- The number nought has no other digits.
      have one := denotes.zero none
      rw [List.cons_append, List.length_cons, List.length_append] at one
      rw [List.length_cons]
      omega
    · have nonzero : first ≠ 0x30 := fun isZero =>
        denotes.leading positive (congrArg some isZero)
      have positive := digitsValue_pos (each first List.mem_cons_self) nonzero others
      omega

/-- The first digits of a number are taken as a number of their own. -/
theorem follows_natural {bound value : Nat} (below : value < bound)
    (narrow : bound ≤ wholeBound) :
    (Reader.natural bound).Follows (Utf8.encode (Text.decimal value)) := by
  intro front cut
  have denotes := denotes_decimal value
  obtain ⟨back, digits⟩ := cut.1
  by_cases empty : front = []
  · rw [empty]
    exact .inl rfl
  · rw [← digits] at denotes
    obtain ⟨smaller, bounded, part⟩ := denotes.of_append empty
    have taken := takes_natural part (Nat.lt_of_le_of_lt bounded below) narrow
      Reader.delimited_nil
    rw [List.append_nil] at taken
    exact .inr ⟨smaller, taken⟩

/-! ## Lists -/

section Lists

variable {element : Reader α} {item : α} {items : List α} {written : α → Text}
  {bytes front part rest : Bytes}

theorem elements_nil (element : Reader α) (isFirst : Bool) :
    elements element isFirst [] = .error .unfinished :=
  elements_border_error (border_nil 0x5D isFirst)

/-- A list is unfinished behind a border if what follows, an element and the rest of the
list, is cut. -/
theorem elements_unfinished {isFirst : Bool} (recovers : Recovers element item part)
    (follows : element.Follows part) (delimited : Delimited rest)
    (others : Reader.Awaits (elements element false) rest) (cut : IsCut front (part ++ rest))
    (here : ∃ bound, border 0x5D isFirst bytes = .ok (.part front bound)) :
    elements element isFirst bytes = .error .unfinished := by
  rcases cut.of_append with within | ⟨back, rfl, behind⟩
  · rcases follows front within with unfinished | ⟨value, taken⟩
    · exact elements_element_error here unfinished
    · exact elements_others_error here taken (elements_nil element false)
  · exact elements_others_error here (recovers.takes back (delimited.of_isCut behind))
      (others back behind)

theorem awaits_elements
    (each : ∀ item ∈ items, Recovers element item (Utf8.encode (written item)))
    (follows : ∀ item ∈ items, element.Follows (Utf8.encode (written item))) :
    Reader.Awaits (elements element false)
      (followers ((items.map written).map Utf8.encode) ++ [0x5D]) := by
  induction items with
  | nil =>
      intro front cut
      rw [isCut_singleton.mp cut]
      exact elements_nil element false
  | cons item others inductionHypothesis =>
      have recovers := each item List.mem_cons_self
      obtain ⟨first, tail, begins, solid, opens, _⟩ := recovers.begins
      have later := inductionHypothesis
        (fun other member => each other (List.mem_cons_of_mem _ member))
        (fun other member => follows other (List.mem_cons_of_mem _ member))
      intro front cut
      rw [List.map_cons, List.map_cons, followers_cons, List.append_assoc,
        List.cons_append] at cut
      rcases isCut_cons.mp cut with rfl | ⟨inside, rfl, inner⟩
      · exact elements_nil element false
      · have shape := inner
        rw [begins, List.cons_append] at shape
        rcases isCut_cons.mp shape with rfl | ⟨behind, rfl, _⟩
        · exact elements_border_error (border_comma (by decide))
        · exact elements_unfinished recovers (follows item List.mem_cons_self)
            (delimited_followers _ (.inl rfl) []) later inner
            (border_next solid opens (by decide) behind)

/-- A list shows by its closing bracket that it is over. -/
theorem awaits_list
    (each : ∀ item ∈ items, Recovers element item (Utf8.encode (written item)))
    (follows : ∀ item ∈ items, element.Follows (Utf8.encode (written item))) :
    (Reader.list element).Awaits (Utf8.encode (list (items.map written))) := by
  rw [encode_list]
  cases items with
  | nil =>
      refine Reader.Awaits.opened (by decide) fun front cut => ?_
      rw [isCut_singleton.mp cut]
      exact elements_nil element true
  | cons item others =>
      have recovers := each item List.mem_cons_self
      obtain ⟨first, tail, begins, solid, opens, _⟩ := recovers.begins
      have later := awaits_elements
        (fun other member => each other (List.mem_cons_of_mem _ member))
        (fun other member => follows other (List.mem_cons_of_mem _ member))
      rw [List.map_cons, List.map_cons, bracketed, List.append_assoc, List.cons_append]
      refine Reader.Awaits.opened (by decide) fun front cut => ?_
      have shape := cut
      rw [begins, List.cons_append] at shape
      rcases isCut_cons.mp shape with rfl | ⟨behind, rfl, _⟩
      · exact elements_nil element true
      · exact elements_unfinished recovers (follows item List.mem_cons_self)
          (delimited_followers _ (.inl rfl) []) later cut (border_first solid opens behind)

end Lists

/-! ## Objects -/

/-- Members that lead from one state to another, none of which is refused in part. -/
inductive LeadsSteadily (reader : σ → Text → Reader σ) :
    σ → List (Text × Text) → σ → Prop where
  | nil (state : σ) : LeadsSteadily reader state [] state
  | cons {state next last : σ} {name value : Text} {others : List (Text × Text)}
      (takes : ∀ rest, Delimited rest →
        (reader state name).Takes (0x3A :: Utf8.encode value ++ rest) next rest)
      (follows : (reader state name).Follows (0x3A :: Utf8.encode value))
      (leads : LeadsSteadily reader next others last) :
      LeadsSteadily reader state ((name, value) :: others) last

section Objects

variable {reader : σ → Text → Reader σ} {state next last : σ} {name value : Text}
  {entries : List (Text × Text)} {bytes front rest : Bytes}

theorem LeadsSteadily.leads (steadily : LeadsSteadily reader state entries last) :
    Leads reader state entries last := by
  induction steadily with
  | nil state => exact .nil state
  | cons takes _ _ inductionHypothesis => exact .cons takes inductionHypothesis

theorem members_nil (reader : σ → Text → Reader σ) (state : σ) (isFirst : Bool) :
    members reader state isFirst [] = .error .unfinished :=
  members_border_error (border_nil 0x7D isFirst)

/-- An object is unfinished behind a border if what follows, a member and the rest of the
object, is cut. -/
theorem members_unfinished {isFirst : Bool}
    (takes : ∀ rest, Delimited rest →
      (reader state name).Takes (0x3A :: Utf8.encode value ++ rest) next rest)
    (follows : (reader state name).Follows (0x3A :: Utf8.encode value))
    (delimited : Delimited rest) (others : Reader.Awaits (members reader next false) rest)
    (cut : IsCut front (Utf8.encode (member name value) ++ rest))
    (here : ∃ bound, border 0x7D isFirst bytes = .ok (.part front bound)) :
    members reader state isFirst bytes = .error .unfinished := by
  rw [encode_member_append] at cut
  rcases cut.of_append with within | ⟨behindName, rfl, cutValue⟩
  · exact members_name_error here (awaits_memberName name front within)
  have named := takes_memberName name behindName
  rcases cutValue.of_append with within | ⟨back, rfl, behind⟩
  · rcases follows behindName within with unfinished | ⟨state, taken⟩
    · exact members_member_error here named unfinished
    · exact members_others_error here named taken (members_nil reader state false)
  · exact members_others_error here named (takes back (delimited.of_isCut behind))
      (others back behind)

theorem awaits_members (steadily : LeadsSteadily reader state entries last) :
    Reader.Awaits (members reader state false) (followers (memberBytes entries) ++ [0x7D]) := by
  induction steadily with
  | nil state =>
      intro front cut
      rw [isCut_singleton.mp cut]
      exact members_nil reader state false
  | @cons state next last name value others takes follows _ inductionHypothesis =>
      obtain ⟨tail, begins⟩ := exists_encode_string name
      intro front cut
      rw [memberBytes_cons, followers_cons, List.append_assoc, List.cons_append] at cut
      rcases isCut_cons.mp cut with rfl | ⟨inside, rfl, inner⟩
      · exact members_nil reader state false
      · have shape := inner
        rw [encode_member_append, begins, List.cons_append] at shape
        rcases isCut_cons.mp shape with rfl | ⟨behind, rfl, _⟩
        · exact members_border_error (border_comma (by decide))
        · exact members_unfinished takes follows (delimited_followers _ (.inr rfl) [])
            inductionHypothesis inner (border_next (by decide) (by decide) (by decide) behind)

/-- An object shows by its closing brace that it is over. -/
theorem awaits_record (steadily : LeadsSteadily reader state entries last) :
    (Reader.record reader state).Awaits (Utf8.encode (object entries)) := by
  rw [encode_object]
  change (Reader.record reader state).Awaits (bracketed 0x7B 0x7D (memberBytes entries))
  cases steadily with
  | nil =>
      refine Reader.Awaits.opened (by decide) fun front cut => ?_
      rw [isCut_singleton.mp cut]
      exact members_nil reader state true
  | @cons _ next _ name value others takes follows steadily =>
      obtain ⟨tail, begins⟩ := exists_encode_string name
      rw [memberBytes_cons, bracketed, List.append_assoc, List.cons_append]
      refine Reader.Awaits.opened (by decide) fun front cut => ?_
      have shape := cut
      rw [encode_member_append, begins, List.cons_append] at shape
      rcases isCut_cons.mp shape with rfl | ⟨behind, rfl, _⟩
      · exact members_nil reader state true
      · exact members_unfinished takes follows (delimited_followers _ (.inr rfl) [])
          (awaits_members steadily) cut (border_first (by decide) (by decide) behind)

/-- A table is unfinished in part if its values are not refused in part. -/
theorem awaits_table {value : Reader α} {written : α → Text} {items : List (Text × α)}
    (each : ∀ item ∈ items, Recovers value item.2 (Utf8.encode (written item.2)))
    (follows : ∀ item ∈ items, value.Follows (Utf8.encode (written item.2))) :
    (Reader.table value).Awaits
      (Utf8.encode (object (items.map fun item => (item.1, written item.2)))) := by
  have steadily : ∀ earlier, LeadsSteadily
      (fun (taken : List (Text × α)) name =>
        (Reader.assigned value).map fun item => (name, item) :: taken)
      earlier (items.map fun item => (item.1, written item.2)) (items.reverse ++ earlier) := by
    induction items with
    | nil => exact fun earlier => .nil earlier
    | cons item others inductionHypothesis =>
        intro earlier
        have later := inductionHypothesis
          (fun other member => each other (List.mem_cons_of_mem _ member))
          (fun other member => follows other (List.mem_cons_of_mem _ member)) (item :: earlier)
        rw [List.reverse_cons, List.append_assoc]
        exact .cons (fun rest delimited => (Reader.takes_assigned
          ((each item List.mem_cons_self).takes rest delimited)).map _)
          ((follows item List.mem_cons_self).assigned.map _) later
  exact (awaits_record (steadily [])).map List.reverse

end Objects

/-- A document is unfinished where its value is. -/
theorem document_unfinished {value : Reader α} {bytes front : Bytes}
    (awaits : value.Awaits bytes) (cut : IsCut front bytes) :
    document value front = .error .unfinished := by
  simp only [document, awaits front cut]

end Concordance.Json
