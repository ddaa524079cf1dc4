import Concordance.Proofs.Json.Quotation

/-!
Contract: written lists and objects are read back.

A part stands in front of a comma or a closing mark, so that it may be a number. Lists
and objects with and without parts are read back where their parts are.

Owns:
- lists and objects in bytes, and the borders between their parts;
- lists, objects whose members lead from state to state, and tables.

Does not own: the members of any particular object.
-/

set_option autoImplicit false

namespace Concordance.Json

open Reader (Begins Delimited Recovers Takes)

variable {α σ : Type}

/-! ## Written forms -/

/-- Parts with a comma in front of each. -/
def followers (parts : List Bytes) : Bytes := parts.flatMap (0x2C :: ·)

theorem encode_joined (part : Text) (others : List Text) :
    Utf8.encode (Text.joined [','] (part :: others))
      = Utf8.encode part ++ followers (others.map Utf8.encode) := by
  induction others generalizing part with
  | nil => rw [Text.joined, List.intercalate_singleton]; exact (List.append_nil _).symm
  | cons next rest inductionHypothesis =>
      have later := inductionHypothesis next
      unfold Text.joined at later ⊢
      rw [List.intercalate_cons_cons, Utf8.encode_append, Utf8.encode_append, later,
        List.append_assoc]
      rfl

/-- A list or an object in bytes: its parts between an opening and a closing mark. -/
def bracketed (opening closing : UInt8) (parts : List Bytes) : Bytes :=
  match parts with
  | [] => [opening, closing]
  | part :: others => opening :: part ++ followers others ++ [closing]

theorem encode_list (items : List Text) :
    Utf8.encode (list items) = bracketed 0x5B 0x5D (items.map Utf8.encode) := by
  cases items with
  | nil => decide
  | cons item others =>
      rw [list, List.cons_append, Utf8.encode_cons, Utf8.encode_append, encode_joined]
      rfl

theorem encode_object (entries : List (Text × Text)) :
    Utf8.encode (object entries)
      = bracketed 0x7B 0x7D (entries.map fun entry => Utf8.encode (member entry.1 entry.2)) := by
  cases entries with
  | nil => decide
  | cons entry others =>
      rw [object, List.cons_append, Utf8.encode_cons, Utf8.encode_append, List.map_cons,
        encode_joined, List.map_map]
      rfl

theorem exists_encode_object (entries : List (Text × Text)) :
    ∃ others, Utf8.encode (object entries) = 0x7B :: others := by
  rw [object, List.cons_append, Utf8.encode_cons]
  exact ⟨_, rfl⟩

theorem encode_member_append (name value : Text) (rest : Bytes) :
    Utf8.encode (member name value) ++ rest
      = Utf8.encode (string name) ++ (0x3A :: Utf8.encode value ++ rest) := by
  rw [member, Utf8.encode_append, List.append_assoc, Utf8.encode_cons]
  rfl

theorem exists_encode_string (name : Text) :
    ∃ others, Utf8.encode (string name) = 0x22 :: others := by
  rw [string, List.cons_append, Utf8.encode_cons]
  exact ⟨_, rfl⟩

/-! ## Borders -/

section Borders

variable {closing first : UInt8}

theorem border_closed (solid : isBlank closing = false) (isFirst : Bool) (rest : Bytes) :
    ∃ shorter, border closing isFirst (closing :: rest) = .ok (.closed rest shorter) := by
  refine ⟨Nat.lt_succ_self _, ?_⟩
  unfold border
  split
  · rename_i start
    cases (dropBlanks_cons solid rest).symm.trans start
  · rename_i start
    cases (dropBlanks_cons solid rest).symm.trans start
    exact if_pos rfl

/-- The first part of a list or an object. -/
theorem border_first (solid : isBlank first = false) (opens : first ≠ closing)
    (rest : Bytes) :
    ∃ bound, border closing true (first :: rest) = .ok (.part (first :: rest) bound) := by
  refine ⟨Nat.le_refl _, ?_⟩
  unfold border
  split
  · rename_i start
    cases (dropBlanks_cons solid rest).symm.trans start
  · rename_i start
    cases (dropBlanks_cons solid rest).symm.trans start
    exact (if_neg opens).trans (if_pos rfl)

/-- A further part, behind a comma. -/
theorem border_next (solid : isBlank first = false) (opens : first ≠ closing)
    (notComma : closing ≠ 0x2C) (rest : Bytes) :
    ∃ bound,
      border closing false (0x2C :: first :: rest) = .ok (.part (first :: rest) bound) := by
  refine ⟨Nat.le_succ _, ?_⟩
  have comma : isBlank 0x2C = false := by decide
  unfold border
  split
  · rename_i start
    cases (dropBlanks_cons comma (first :: rest)).symm.trans start
  · rename_i start
    cases (dropBlanks_cons comma (first :: rest)).symm.trans start
    refine (if_neg notComma.symm).trans ((if_neg (by decide)).trans ((if_pos rfl).trans ?_))
    split
    · rename_i behind
      cases (dropBlanks_cons solid rest).symm.trans behind
    · rename_i behind
      cases (dropBlanks_cons solid rest).symm.trans behind
      exact if_neg opens

end Borders

theorem followers_cons (part : Bytes) (others : List Bytes) :
    followers (part :: others) = 0x2C :: part ++ followers others := rfl

/-- Behind a part stands a comma or the closing mark. -/
theorem delimited_followers (parts : List Bytes) {closing : UInt8}
    (closes : closing = 0x5D ∨ closing = 0x7D) (rest : Bytes) :
    Delimited (followers parts ++ closing :: rest) := by
  cases parts with
  | nil => exact Reader.delimited_cons (.inr closes) rest
  | cons part others => exact Reader.delimited_cons (.inl rfl) _

/-! ## Lists -/

section Lists

variable {element : Reader α} {bytes front behind rest : Bytes} {item : α} {items : List α}

theorem takes_elements_nil (element : Reader α) (isFirst : Bool) (rest : Bytes) :
    Takes (elements element isFirst) (0x5D :: rest) [] rest := by
  obtain ⟨shorter, closed⟩ := border_closed (by decide : isBlank 0x5D = false) isFirst rest
  refine ⟨shorter, ?_⟩
  rw [elements]
  simp only [closed]

theorem takes_elements_cons {isFirst : Bool}
    (part : ∃ bound, border 0x5D isFirst bytes = .ok (.part front bound))
    (taken : element.Takes front item behind)
    (others : Takes (elements element false) behind items rest) :
    Takes (elements element isFirst) bytes (item :: items) rest := by
  obtain ⟨bound, border⟩ := part
  obtain ⟨shorter, read⟩ := taken
  obtain ⟨later, readOthers⟩ := others
  refine ⟨Nat.lt_trans later (Nat.lt_of_lt_of_le shorter bound), ?_⟩
  rw [elements]
  simp only [border, read, readOthers]

variable {written : α → Text}

theorem takes_elements
    (each : ∀ item ∈ items, Recovers element item (Utf8.encode (written item)))
    (rest : Bytes) :
    Takes (elements element false)
      (followers ((items.map written).map Utf8.encode) ++ 0x5D :: rest) items rest := by
  induction items with
  | nil => exact takes_elements_nil element false rest
  | cons item others inductionHypothesis =>
      obtain ⟨⟨first, tail, bytes, solid, opens, _⟩, takes⟩ := each item List.mem_cons_self
      have later := inductionHypothesis fun other member =>
        each other (List.mem_cons_of_mem _ member)
      rw [List.map_cons, List.map_cons, followers_cons, List.append_assoc, List.cons_append]
      refine takes_elements_cons ?_ (takes _ (delimited_followers _ (.inl rfl) rest)) later
      rw [bytes]
      exact border_next solid opens (by decide) _

/-- A list is read back if its elements are. -/
theorem recovers_list
    (each : ∀ item ∈ items, Recovers element item (Utf8.encode (written item))) :
    Recovers (Reader.list element) items (Utf8.encode (list (items.map written))) := by
  rw [encode_list]
  cases items with
  | nil =>
      exact ⟨⟨0x5B, [0x5D], rfl, by decide, by decide, by decide⟩, fun rest _ =>
        Reader.takes_opened (by decide) (takes_elements_nil element true rest)⟩
  | cons item others =>
      obtain ⟨⟨first, tail, bytes, solid, opens, _⟩, takes⟩ := each item List.mem_cons_self
      refine ⟨⟨0x5B, _, rfl, by decide, by decide, by decide⟩, fun rest _ => ?_⟩
      have later := takes_elements
        (fun other member => each other (List.mem_cons_of_mem _ member)) rest
      rw [List.map_cons, List.map_cons, bracketed, List.append_assoc, List.append_assoc, List.cons_append]
      refine Reader.takes_opened (by decide)
        (takes_elements_cons ?_ (takes _ (delimited_followers _ (.inl rfl) rest)) later)
      rw [bytes]
      exact border_first solid opens _

end Lists

/-! ## Objects -/

/-- Members lead from one state to another if each of them is taken in the state to
which those before it have led. -/
inductive Leads (reader : σ → Text → Reader σ) : σ → List (Text × Text) → σ → Prop where
  | nil (state : σ) : Leads reader state [] state
  | cons {state next last : σ} {name value : Text} {others : List (Text × Text)}
      (takes : ∀ rest, Delimited rest →
        (reader state name).Takes (0x3A :: Utf8.encode value ++ rest) next rest)
      (leads : Leads reader next others last) :
      Leads reader state ((name, value) :: others) last

section Objects

variable {reader : σ → Text → Reader σ} {state next last : σ} {name : Text}
  {bytes front behind middle rest : Bytes} {entries : List (Text × Text)}

theorem takes_members_nil (reader : σ → Text → Reader σ) (state : σ) (isFirst : Bool)
    (rest : Bytes) : Takes (members reader state isFirst) (0x7D :: rest) state rest := by
  obtain ⟨shorter, closed⟩ := border_closed (by decide : isBlank 0x7D = false) isFirst rest
  refine ⟨shorter, ?_⟩
  rw [members]
  simp only [closed]

theorem takes_members_cons {isFirst : Bool}
    (part : ∃ bound, border 0x7D isFirst bytes = .ok (.part front bound))
    (named : memberName.Takes front name middle)
    (taken : (reader state name).Takes middle next behind)
    (others : Takes (members reader next false) behind last rest) :
    Takes (members reader state isFirst) bytes last rest := by
  obtain ⟨bound, border⟩ := part
  obtain ⟨less, readName⟩ := named
  obtain ⟨shorter, read⟩ := taken
  obtain ⟨later, readOthers⟩ := others
  refine ⟨Nat.lt_trans later (Nat.lt_trans shorter (Nat.lt_of_lt_of_le less bound)), ?_⟩
  rw [members]
  simp only [border, readName, read, readOthers]

/-- The members of an object with their names, in bytes. -/
def memberBytes (entries : List (Text × Text)) : List Bytes :=
  entries.map fun entry => Utf8.encode (member entry.1 entry.2)

theorem memberBytes_cons (entry : Text × Text) (others : List (Text × Text)) :
    memberBytes (entry :: others)
      = Utf8.encode (member entry.1 entry.2) :: memberBytes others := rfl

theorem takes_members (leads : Leads reader state entries last) (rest : Bytes) :
    Takes (members reader state false) (followers (memberBytes entries) ++ 0x7D :: rest)
      last rest := by
  induction leads with
  | nil state => exact takes_members_nil reader state false rest
  | @cons state next last name value others takes _ inductionHypothesis =>
      obtain ⟨tail, begins⟩ := exists_encode_string name
      have taken := takes _ (delimited_followers (memberBytes others) (.inr rfl) rest)
      rw [memberBytes_cons, followers_cons, List.append_assoc, List.cons_append,
        encode_member_append]
      refine takes_members_cons ?_ (takes_memberName name _) taken inductionHypothesis
      rw [begins]
      exact border_next (by decide) (by decide) (by decide) _

/-- An object is taken whatever follows it. -/
theorem takes_record (leads : Leads reader state entries last) (rest : Bytes) :
    (Reader.record reader state).Takes (Utf8.encode (object entries) ++ rest) last rest := by
  rw [encode_object]
  change Takes _ (bracketed 0x7B 0x7D (memberBytes entries) ++ rest) _ _
  cases leads with
  | nil => exact Reader.takes_opened (by decide) (takes_members_nil reader state true rest)
  | @cons _ next _ name value others takes leads =>
      obtain ⟨tail, begins⟩ := exists_encode_string name
      have taken := takes _ (delimited_followers (memberBytes others) (.inr rfl) rest)
      rw [memberBytes_cons, bracketed, List.append_assoc, List.append_assoc, List.cons_append,
        encode_member_append]
      refine Reader.takes_opened (by decide)
        (takes_members_cons ?_ (takes_memberName name _) taken (takes_members leads rest))
      rw [begins]
      exact border_first (by decide) (by decide) _

/-- An object is read back if its members lead from the initial state to its value. -/
theorem recovers_record (leads : Leads reader state entries last) :
    Recovers (Reader.record reader state) last (Utf8.encode (object entries)) := by
  obtain ⟨others, bytes⟩ := exists_encode_object entries
  exact ⟨⟨0x7B, others, bytes, by decide, by decide, by decide⟩,
    fun rest _ => takes_record leads rest⟩

/-- An object whose names are data is read back if its values are, in their order and
whether or not names repeat. -/
theorem recovers_table {value : Reader α} {written : α → Text} {items : List (Text × α)}
    (each : ∀ item ∈ items, Recovers value item.2 (Utf8.encode (written item.2))) :
    Recovers (Reader.table value) items
      (Utf8.encode (object (items.map fun item => (item.1, written item.2)))) := by
  -- The entries are collected in reverse.
  have leads : ∀ earlier, Leads
      (fun (taken : List (Text × α)) name =>
        (Reader.assigned value).map fun item => (name, item) :: taken)
      earlier (items.map fun item => (item.1, written item.2)) (items.reverse ++ earlier) := by
    induction items with
    | nil => exact fun earlier => .nil earlier
    | cons item others inductionHypothesis =>
        intro earlier
        have later := inductionHypothesis
          (fun other member => each other (List.mem_cons_of_mem _ member)) (item :: earlier)
        rw [List.reverse_cons, List.append_assoc]
        exact .cons (fun rest delimited => (Reader.takes_assigned
          ((each item List.mem_cons_self).takes rest delimited)).map _) later
  obtain ⟨begins, takes⟩ := recovers_record (leads [])
  refine ⟨begins, fun rest delimited => ?_⟩
  have taken := (takes rest delimited).map List.reverse
  rwa [List.append_nil, List.reverse_reverse] at taken

end Objects

/-- A value that is read back makes up a whole document. -/
theorem document_eq_ok {value : Reader α} {item : α} {bytes : Bytes}
    (recovers : Recovers value item bytes) : document value bytes = .ok item := by
  obtain ⟨shorter, read⟩ := (List.append_nil bytes) ▸ recovers.takes [] Reader.delimited_nil
  unfold document
  simp only [read]
  rfl

end Concordance.Json
