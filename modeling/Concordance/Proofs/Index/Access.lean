import Concordance.Index.Lookup
import Concordance.Index.Merge

/-!
Contract: what is found in an index after each way of changing it.

Every change of an index is described by two equations, one for the cursor of a
document and one for the positions of a word in it. They hold for all indexes,
sound or not, and later modules use them instead of the definitions.

Owns:
- folding the entries of one map into another;
- the two equations for `addDocument`, `addWord` and `merge`;
- adding a text as adding its words one by one;
- membership in sets of documents, those an index answers with among them.

Does not own: what texts an index stands for (`Concordance.Proofs.Index.Corpus`).
-/

set_option autoImplicit false

namespace Concordance

open Std (ExtTreeMap)

/-! ## Folding one map into another -/

theorem getElem?_alter {α : Type} (entries : ExtTreeMap Text α) (key other : Text)
    (change : Option α → Option α) :
    (entries.alter key change)[other]? =
      if key = other then change entries[key]? else entries[other]? := by
  rw [ExtTreeMap.getElem?_alter]
  simp only [Std.compare_eq_iff_eq]

/-- One entry brought into a map, where it is combined with what is there. -/
def bring {α : Type} (combine : Text → Option α → α → α) (merged : ExtTreeMap Text α)
    (entry : Text × α) : ExtTreeMap Text α :=
  merged.alter entry.1 fun found => some (combine entry.1 found entry.2)

theorem getElem?_bring {α : Type} (combine : Text → Option α → α → α)
    (merged : ExtTreeMap Text α) (entry : Text × α) (key : Text) :
    (bring combine merged entry)[key]? =
      if entry.1 = key then some (combine entry.1 merged[entry.1]? entry.2)
      else merged[key]? := by
  rw [bring, getElem?_alter]

private theorem getElem?_foldl_bring_of_ne {α : Type}
    (combine : Text → Option α → α → α) (key : Text) (entries : List (Text × α))
    (own : ExtTreeMap Text α) (absent : ∀ entry ∈ entries, entry.1 ≠ key) :
    (entries.foldl (bring combine) own)[key]? = own[key]? := by
  induction entries generalizing own with
  | nil => rfl
  | cons entry rest inductionHypothesis =>
      rw [List.foldl_cons, inductionHypothesis (bring combine own entry)
        fun other member => absent other (List.mem_cons_of_mem _ member)]
      rw [getElem?_bring, if_neg (absent entry List.mem_cons_self)]

/-- An entry whose key no other entry has is combined exactly once. -/
private theorem getElem?_foldl_bring_of_mem {α : Type}
    (combine : Text → Option α → α → α) (key : Text) (value : α)
    (entries : List (Text × α)) (own : ExtTreeMap Text α)
    (distinct : (entries.map Prod.fst).Nodup) (member : (key, value) ∈ entries) :
    (entries.foldl (bring combine) own)[key]? = some (combine key own[key]? value) := by
  induction entries generalizing own with
  | nil => cases member
  | cons entry rest inductionHypothesis =>
      rw [List.map_cons, List.nodup_cons] at distinct
      rw [List.foldl_cons]
      rcases List.mem_cons.mp member with first | later
      · subst first
        rw [getElem?_foldl_bring_of_ne combine key rest, getElem?_bring, if_pos rfl]
        intro other otherMember same
        exact distinct.1 (List.mem_map.mpr ⟨other, otherMember, same⟩)
      · have different : entry.1 ≠ key := by
          intro same
          exact distinct.1 (List.mem_map.mpr ⟨(key, value), later, same.symm⟩)
        rw [inductionHypothesis (bring combine own entry) distinct.2 later]
        rw [getElem?_bring, if_neg different]

/-- Folding a map into another one combines the values of common keys, keeps the
other values of the first map and takes over those of the second. -/
theorem getElem?_foldl_bring {α : Type} (combine : Text → Option α → α → α)
    (own other : ExtTreeMap Text α) (key : Text) :
    (other.toList.foldl (bring combine) own)[key]? =
      (other[key]?).elim own[key]? fun value => some (combine key own[key]? value) := by
  cases found : other[key]? with
  | none =>
      apply getElem?_foldl_bring_of_ne
      intro entry member same
      have present := ExtTreeMap.mem_toList_iff_getElem?_eq_some.mp member
      rw [same, found] at present
      cases present
  | some value =>
      apply getElem?_foldl_bring_of_mem
      · rw [ExtTreeMap.map_fst_toList_eq_keys]
        exact ExtTreeMap.nodup_keys
      · exact ExtTreeMap.mem_toList_iff_getElem?_eq_some.mpr found

/-! ## Sets of documents -/

namespace DocumentSet

theorem mem_ofList (documents : List Text) (document : Text) :
    document ∈ ofList documents ↔ document ∈ documents := by
  simp [ofList, Std.ExtTreeSet.mem_ofList]

theorem mem_filter (set : DocumentSet) (keep : Text → Bool) (document : Text) :
    document ∈ set.filter keep ↔ document ∈ set ∧ keep document = true := by
  rw [Std.ExtTreeSet.mem_filter]
  simp

theorem mem_extend (set : DocumentSet) (documents : List Text) (document : Text) :
    document ∈ set.extend documents ↔ document ∈ set ∨ document ∈ documents := by
  rw [extend]
  induction documents generalizing set with
  | nil => simp
  | cons added rest inductionHypothesis =>
      rw [List.foldl_cons, inductionHypothesis, Std.ExtTreeSet.mem_insert, Std.compare_eq_iff_eq,
        List.mem_cons, or_comm (a := added = document), or_assoc, eq_comm (a := added)]

variable (left right : DocumentSet)

theorem mem_union (document : Text) :
    document ∈ left.union right ↔ document ∈ left ∨ document ∈ right := by
  rw [union]
  split
  · rw [mem_extend, Std.ExtTreeSet.mem_toList]
  · rw [mem_extend, Std.ExtTreeSet.mem_toList, or_comm]

theorem mem_intersection (document : Text) :
    document ∈ left.intersection right ↔ document ∈ left ∧ document ∈ right := by
  rw [intersection]
  split
  · rw [mem_filter, Std.ExtTreeSet.contains_iff_mem]
  · rw [mem_filter, Std.ExtTreeSet.contains_iff_mem, and_comm]

theorem mem_difference (document : Text) :
    document ∈ left.difference right ↔ document ∈ left ∧ document ∉ right := by
  rw [difference, mem_filter, Bool.not_eq_true', ← Bool.not_eq_true,
    Std.ExtTreeSet.contains_iff_mem]

end DocumentSet

/-! ## Postings -/

theorem Postings.getElem?_record (postings : Postings) (document other : Text)
    (position : Nat) :
    (postings.record document position)[other]? =
      if document = other then some ((postings[document]?).getD [] ++ [position])
      else postings[other]? := by
  rw [Postings.record, getElem?_alter]

theorem Postings.getElem?_append (own other : Postings) (shift : Text → Nat)
    (document : Text) :
    (own.append other shift)[document]? =
      (other[document]?).elim own[document]? fun positions =>
        some ((own[document]?).getD [] ++ positions.map (· + shift document)) :=
  getElem?_foldl_bring
    (fun key found added => found.getD [] ++ added.map (· + shift key)) own other document

namespace Index

/-! ## The empty index -/

@[simp] theorem cursor?_empty (document : Text) : empty.cursor? document = none := by
  simp [cursor?, empty]

@[simp] theorem postings?_empty (word : Text) : empty.postings? word = none := by
  simp [postings?, empty]

@[simp] theorem positions?_empty (word document : Text) :
    empty.positions? word document = none := by
  simp [positions?]

/-! ## Adding documents and words -/

theorem hasDocument_eq_isSome_cursor? (index : Index) (document : Text) :
    index.hasDocument document = (index.cursor? document).isSome :=
  ExtTreeMap.contains_eq_isSome_getElem?

theorem cursor?_addDocument (index : Index) (document other : Text) :
    (index.addDocument document).cursor? other =
      if document = other then some ((index.cursor? document).getD 0)
      else index.cursor? other := by
  unfold addDocument
  rw [hasDocument_eq_isSome_cursor?]
  by_cases same : document = other
  · subst same
    cases found : index.cursor? document with
    | none => simp [cursor?]
    | some cursor => simp [found]
  · rw [if_neg same]
    split
    · rfl
    · simp [cursor?, ExtTreeMap.getElem?_insert, same]

@[simp] theorem postings?_addDocument (index : Index) (document word : Text) :
    (index.addDocument document).postings? word = index.postings? word := by
  unfold addDocument
  split <;> rfl

@[simp] theorem positions?_addDocument (index : Index) (document word other : Text) :
    (index.addDocument document).positions? word other = index.positions? word other := by
  simp only [positions?, postings?_addDocument]

section AddWord

variable {index : Index} {document : Text} {cursor : Nat}

theorem cursor?_addWord (known : index.cursor? document = some cursor)
    (word other : Text) :
    (index.addWord document word).cursor? other =
      if document = other then some (cursor + 1) else index.cursor? other := by
  simp only [addWord, known]
  simp [cursor?, ExtTreeMap.getElem?_insert]

theorem postings?_addWord (known : index.cursor? document = some cursor)
    (word other : Text) :
    (index.addWord document word).postings? other =
      if word = other then
        some (((index.postings? word).getD ∅).record document (cursor + 1))
      else index.postings? other := by
  simp only [addWord, known, postings?]
  rw [getElem?_alter]

/-- One more word puts one more position at the end of its list, and no other list
changes. -/
theorem positions?_addWord (known : index.cursor? document = some cursor)
    (word other inspected : Text) :
    (index.addWord document word).positions? other inspected =
      if word = other ∧ document = inspected then
        some ((index.positions? word document).getD [] ++ [cursor + 1])
      else index.positions? other inspected := by
  unfold positions?
  rw [postings?_addWord known]
  by_cases sameWord : word = other
  · subst sameWord
    rw [if_pos rfl, Option.bind_some, Postings.getElem?_record]
    by_cases sameDocument : document = inspected
    · subst sameDocument
      cases index.postings? word <;> simp
    · cases index.postings? word <;> simp [sameDocument]
  · simp [sameWord]

end AddWord

/-! ## Adding texts -/

/-- The words of a text are added one by one, and counted. -/
theorem addText_eq (index : Index) (document text : Text) :
    index.addText document text
      = (text.words.foldl (fun grown word => grown.addWord document word.text)
          (index.addDocument document), text.words.length) := by
  have added : ∀ (words : List Text.Word) (start : Index) (count : Nat),
      words.foldl (fun state word => (state.1.addWord document word.text, state.2 + 1))
          (start, count)
        = (words.foldl (fun grown word => grown.addWord document word.text) start,
            count + words.length) := by
    intro words
    induction words with
    | nil => exact fun _ _ => rfl
    | cons word rest inductionHypothesis =>
        intro start count
        rw [List.foldl_cons, inductionHypothesis, List.foldl_cons, List.length_cons,
          Nat.add_assoc, Nat.add_comm 1]
  rw [addText, added, Nat.zero_add]

theorem snd_addText (index : Index) (document text : Text) :
    (index.addText document text).2 = text.words.length := by
  rw [addText_eq]

theorem addText_nil (index : Index) (document : Text) :
    index.addText document [] = (index.addDocument document, 0) := by
  simp [addText, Text.words, Text.wordsFrom]

/-! ## Merging -/

/-- In a document that the second side knows, its positions are moved past all words that the
first side has there. -/
theorem shiftFor_of_isSome (index : Index) {other : Index} {document : Text}
    (known : (other.cursor? document).isSome) :
    index.shiftFor other document = (index.cursor? document).getD 0 := by
  rw [shiftFor, hasDocument_eq_isSome_cursor?, if_pos known]

/-- In a merge every document has the words of both sides. -/
theorem cursor?_merge (index other : Index) (document : Text) :
    (index.merge other).cursor? document =
      (other.cursor? document).elim (index.cursor? document) fun cursor =>
        some ((index.cursor? document).getD 0 + cursor) :=
  getElem?_foldl_bring (fun _ found added => found.getD 0 + added) index.documents
    other.documents document

theorem postings?_merge (index other : Index) (word : Text) :
    (index.merge other).postings? word =
      (other.postings? word).elim (index.postings? word) fun postings =>
        some (((index.postings? word).getD ∅).append postings (index.shiftFor other)) :=
  getElem?_foldl_bring
    (fun _ (found : Option Postings) (added : Postings) =>
      (found.getD ∅).append added (index.shiftFor other))
    index.terms other.terms word

/-- In a merge the positions of the second side follow those of the first, moved
past the words the first has for the document. -/
theorem positions?_merge (index other : Index) (word document : Text) :
    (index.merge other).positions? word document =
      (other.positions? word document).elim (index.positions? word document)
        fun positions =>
          some ((index.positions? word document).getD []
            ++ positions.map (· + index.shiftFor other document)) := by
  unfold positions?
  rw [postings?_merge]
  cases other.postings? word with
  | none => rfl
  | some added =>
      rw [Option.elim_some, Option.bind_some, Option.bind_some, Postings.getElem?_append]
      cases index.postings? word <;> cases added[document]? <;> simp

/-! ## The sets an index answers with -/

theorem mem_allDocuments (index : Index) (document : Text) :
    document ∈ index.allDocuments ↔ (index.cursor? document).isSome := by
  rw [allDocuments, DocumentSet.mem_ofList, ExtTreeMap.mem_keys,
    ExtTreeMap.mem_iff_isSome_getElem?]
  rfl

theorem mem_documentsWith (index : Index) (word document : Text) :
    document ∈ index.documentsWith word ↔ (index.positions? word document).isSome := by
  unfold documentsWith positions?
  cases index.postings? word with
  | none => simp
  | some postings =>
      dsimp only
      rw [DocumentSet.mem_ofList, ExtTreeMap.mem_keys, ExtTreeMap.mem_iff_isSome_getElem?,
        Option.bind_some]

theorem mem_complement (index : Index) (set : DocumentSet) (document : Text) :
    document ∈ index.complement set ↔ document ∈ index.allDocuments ∧ document ∉ set := by
  rw [complement, DocumentSet.mem_filter, Bool.not_eq_true', ← Bool.not_eq_true,
    Std.ExtTreeSet.contains_iff_mem]

/-- The direct look-up of the documents without a word gives what a complement gives. -/
theorem documentsWithout_eq (index : Index) (word : Text) :
    index.documentsWithout word = index.complement (index.documentsWith word) := by
  apply Std.ExtTreeSet.ext_mem
  intro document
  rw [mem_complement, mem_documentsWith, positions?, documentsWithout]
  cases index.postings? word with
  | none => simp
  | some postings =>
      dsimp only
      rw [DocumentSet.mem_filter, Option.bind_some, ← ExtTreeMap.contains_eq_isSome_getElem?,
        Bool.not_eq_true', ← Bool.not_eq_true]

end Index

end Concordance
