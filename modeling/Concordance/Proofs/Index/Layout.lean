import Concordance.Index.Lookup
import Concordance.Proofs.Index.Counting
import Concordance.Proofs.Index.Sound
import Mathlib.Order.Interval.Finset.Nat

/-!
Contract: indexes that describe a text.

A text has one word at each of its positions. An index may be sound and know less: some
positions may be unused. It may also say more than any text does, for nothing compares the
positions of different words: two words may claim the same position, and then there may be
more occurrences than words indexed. And it may have an entry for a word that no document
has.

Owns:
- layouts, which are texts with gaps, and the indexes that have one;
- the bound on the occurrences of words that claim no position together;
- the words that have documents, and their number;
- which sound indexes describe a text.

Does not own: indexes that have been loaded (`Concordance.Proofs.Storage.Foreign`).
-/

set_option autoImplicit false

namespace Concordance.Index

open Std (ExtTreeMap)

variable {index : Index}

/-- No position of a document is claimed by two words. -/
def ClaimsOnce (index : Index) : Prop :=
  ∀ first second document position, index.StandsAt first document position →
    index.StandsAt second document position → first = second

/-- Every word that has an entry has a document. -/
def IsInhabited (index : Index) : Prop :=
  ∀ word, (index.postings? word).isSome → index.documentsWith word ≠ ∅

/-- Number of words indexed for all documents together. -/
def cursorTotal (index : Index) : Nat := total (index.documents.toList.map Prod.snd)

/-- What an index says of its documents can be said of texts with gaps. -/
structure DescribesText (index : Index) : Prop where
  claimsOnce : index.ClaimsOnce
  inhabited : index.IsInhabited
  occurrences : index.statistics.positions ≤ index.cursorTotal
  words : index.termCount = {word | index.documentsWith word ≠ ∅}.ncard

/-- An index holds the words that a layout has at its places. A layout gives for every
document of the index as many places as there are positions, some of which may be empty. -/
structure LaidOut (index : Index) (layout : Text → Option (List (Option Text))) : Prop where
  cursor : ∀ document, index.cursor? document = (layout document).map List.length
  stands : ∀ word document position, index.StandsAt word document position ↔
    1 ≤ position ∧ ((layout document).getD [])[position - 1]? = some (some word)

/-! ## Layouts -/

theorem Sound.within_of_standsAt (sound : index.Sound) {word document : Text} {position : Nat}
    (stands : index.StandsAt word document position) :
    ∃ cursor, index.cursor? document = some cursor ∧ 1 ≤ position ∧ position ≤ cursor := by
  unfold StandsAt at stands
  cases found : index.positions? word document with
  | none => simp [found] at stands
  | some positions =>
      rw [found, Option.getD_some] at stands
      obtain ⟨cursor, known⟩ := Option.isSome_iff_exists.mp (sound.known found)
      exact ⟨cursor, known, sound.positive found position stands,
        sound.bounded found known position stands⟩

theorem mem_keys_of_standsAt {word document : Text} {position : Nat}
    (stands : index.StandsAt word document position) : word ∈ index.terms.keys := by
  rw [ExtTreeMap.mem_keys, ExtTreeMap.mem_iff_isSome_getElem?]
  show (index.postings? word).isSome
  unfold StandsAt positions? at stands
  cases found : index.postings? word with
  | none => simp [found] at stands
  | some postings => rfl

instance (index : Index) (word document : Text) (position : Nat) :
    Decidable (index.StandsAt word document position) :=
  inferInstanceAs (Decidable (position ∈ (index.positions? word document).getD []))

/-- The first word that claims a position of a document. -/
def wordAt (index : Index) (document : Text) (position : Nat) : Option Text :=
  index.terms.keys.find? fun word => index.StandsAt word document position

theorem standsAt_of_wordAt {word document : Text} {position : Nat}
    (found : index.wordAt document position = some word) :
    index.StandsAt word document position := by
  rw [wordAt] at found
  simpa using List.find?_some found

theorem ClaimsOnce.wordAt_eq_some_iff (once : index.ClaimsOnce) (word document : Text)
    (position : Nat) :
    index.wordAt document position = some word ↔ index.StandsAt word document position := by
  refine ⟨standsAt_of_wordAt, fun stands => ?_⟩
  have claimed : (index.wordAt document position).isSome := by
    rw [wordAt, List.find?_isSome]
    exact ⟨word, mem_keys_of_standsAt stands, decide_eq_true stands⟩
  obtain ⟨other, found⟩ := Option.isSome_iff_exists.mp claimed
  rw [found, once other word document position (standsAt_of_wordAt found) stands]

/-- The words that claim the positions of each document, one after another. -/
def layout (index : Index) (document : Text) : Option (List (Option Text)) :=
  (index.cursor? document).map fun cursor =>
    (List.range cursor).map fun offset => index.wordAt document (offset + 1)

theorem Sound.laidOut_layout (sound : index.Sound) (once : index.ClaimsOnce) :
    index.LaidOut index.layout where
  cursor document := by
    rw [layout]
    cases index.cursor? document with
    | none => rfl
    | some cursor => simp
  stands word document position := by
    rw [← once.wordAt_eq_some_iff]
    constructor
    · intro found
      obtain ⟨cursor, known, positive, bounded⟩ :=
        sound.within_of_standsAt (standsAt_of_wordAt found)
      have inside : position - 1 < cursor := by omega
      have whole : position - 1 + 1 = position := by omega
      refine ⟨positive, ?_⟩
      simp only [layout, known, Option.map_some, Option.getD_some, List.getElem?_map,
        List.getElem?_range inside, whole, found]
    · rintro ⟨positive, found⟩
      have whole : position - 1 + 1 = position := by omega
      rw [layout] at found
      cases known : index.cursor? document with
      | none => simp [known] at found
      | some cursor =>
          rw [known, Option.map_some, Option.getD_some, List.getElem?_map] at found
          obtain ⟨offset, place, taken⟩ := Option.map_eq_some_iff.mp found
          obtain ⟨_, rfl⟩ := List.getElem?_eq_some_iff.mp place
          rw [List.getElem_range, whole] at taken
          exact taken

theorem LaidOut.claimsOnce {layout : Text → Option (List (Option Text))}
    (laidOut : index.LaidOut layout) : index.ClaimsOnce := by
  intro first second document position firstStands secondStands
  have one := ((laidOut.stands ..).mp firstStands).2
  have other := ((laidOut.stands ..).mp secondStands).2
  exact Option.some.inj (Option.some.inj (one.symm.trans other))

theorem Sound.claimsOnce_iff (sound : index.Sound) :
    index.ClaimsOnce ↔ ∃ layout, index.LaidOut layout :=
  ⟨fun once => ⟨index.layout, sound.laidOut_layout once⟩, fun ⟨_, laidOut⟩ => laidOut.claimsOnce⟩

/-! ## Occurrences -/

theorem cursorTotal_eq (index : Index) :
    index.cursorTotal = ∑ document ∈ index.knownDocuments, (index.cursor? document).getD 0 := by
  refine (total_map_toList index.documents id).trans ?_
  apply Finset.sum_congr rfl
  intro document _
  rw [cursor?]
  cases index.documents[document]? <;> rfl

/-- Words that claim no position of a document together have at most as many occurrences in
it as it has positions. -/
theorem Sound.sum_length_positions_le (sound : index.Sound) {words : Finset Text}
    {document : Text} {cursor : Nat} (known : index.cursor? document = some cursor)
    (apart : ∀ first ∈ words, ∀ second ∈ words, ∀ position,
      index.StandsAt first document position → index.StandsAt second document position →
        first = second) :
    ∑ word ∈ words, ((index.positions? word document).getD []).length ≤ cursor := by
  have claimed : ∀ word, ((index.positions? word document).getD []).length
      = ((index.positions? word document).getD []).toFinset.card := by
    intro word
    refine (List.toFinset_card_of_nodup ?_).symm
    cases found : index.positions? word document with
    | none => exact List.nodup_nil
    | some positions => exact (sound.ascending found).imp Nat.ne_of_lt
  calc
    ∑ word ∈ words, ((index.positions? word document).getD []).length
        = ∑ word ∈ words, ((index.positions? word document).getD []).toFinset.card :=
        Finset.sum_congr rfl fun word _ => claimed word
    _ = (words.biUnion fun word =>
          ((index.positions? word document).getD []).toFinset).card := by
        refine (Finset.card_biUnion fun first member second otherMember different => ?_).symm
        refine Finset.disjoint_left.mpr fun position stands otherStands => different ?_
        exact apart first member second otherMember position (List.mem_toFinset.mp stands)
          (List.mem_toFinset.mp otherStands)
    _ ≤ (Finset.Icc 1 cursor).card := by
        refine Finset.card_le_card (Finset.biUnion_subset.mpr fun word _ position stands => ?_)
        obtain ⟨actual, same, positive, bounded⟩ :=
          sound.within_of_standsAt (List.mem_toFinset.mp stands)
        cases known.symm.trans same
        exact Finset.mem_Icc.mpr ⟨positive, bounded⟩
    _ = cursor := by rw [Nat.card_Icc, Nat.add_sub_cancel]

/-- Words that claim no position together have at most as many occurrences as there are
words indexed. -/
theorem Sound.sum_occurrences_le (sound : index.Sound) {words : Finset Text}
    (apart : ∀ first ∈ words, ∀ second ∈ words, ∀ document position,
      index.StandsAt first document position → index.StandsAt second document position →
        first = second) :
    ∑ word ∈ words, ∑ document ∈ index.documentsOf word,
        ((index.positions? word document).getD []).length ≤ index.cursorTotal := by
  -- A word has no occurrences in the other documents of the index.
  have spread : ∀ word, ∑ document ∈ index.documentsOf word,
        ((index.positions? word document).getD []).length
      = ∑ document ∈ index.knownDocuments, ((index.positions? word document).getD []).length := by
    intro word
    apply Finset.sum_subset
    · intro document member
      obtain ⟨positions, found⟩ :=
        Option.isSome_iff_exists.mp ((mem_documentsOf index word document).mp member)
      exact (mem_knownDocuments index document).mpr (sound.known found)
    · intro document _ absent
      rw [mem_documentsOf, Option.not_isSome_iff_eq_none] at absent
      rw [absent]
      rfl
  rw [Finset.sum_congr rfl fun word _ => spread word, Finset.sum_comm, cursorTotal_eq]
  apply Finset.sum_le_sum
  intro document member
  obtain ⟨cursor, known⟩ :=
    Option.isSome_iff_exists.mp ((mem_knownDocuments index document).mp member)
  rw [known, Option.getD_some]
  exact sound.sum_length_positions_le known fun first isFirst second isSecond =>
    apart first isFirst second isSecond document

theorem Sound.occurrences_le (sound : index.Sound) (once : index.ClaimsOnce) :
    index.statistics.positions ≤ index.cursorTotal := by
  calc
    index.statistics.positions
        = ∑ word ∈ index.knownWords, ∑ document ∈ index.documentsOf word,
            ((index.positions? word document).getD []).length := by rw [statistics_eq]
    _ ≤ index.cursorTotal := sound.sum_occurrences_le fun first _ second _ => once first second

/-- One word never has more occurrences than there are words indexed. -/
theorem Sound.occurrences_of_word_le (sound : index.Sound) (word : Text) :
    ∑ document ∈ index.documentsOf word, ((index.positions? word document).getD []).length
      ≤ index.cursorTotal := by
  rw [← Finset.sum_singleton (fun word => ∑ document ∈ index.documentsOf word,
    ((index.positions? word document).getD []).length) word]
  refine sound.sum_occurrences_le fun first isFirst second isSecond _ _ _ _ => ?_
  rw [Finset.mem_singleton.mp isFirst, Finset.mem_singleton.mp isSecond]

/-! ## Words with documents -/

theorem documentsWith_ne_empty_iff (index : Index) (word : Text) :
    index.documentsWith word ≠ ∅ ↔ ∃ document, (index.positions? word document).isSome := by
  rw [ne_eq, Std.ExtTreeSet.ext_mem_iff]
  simp only [mem_documentsWith, Std.ExtTreeSet.not_mem_empty, iff_false, not_forall, not_not]

/-- The words that have documents are among those that have an entry. -/
theorem setOf_documentsWith_subset (index : Index) :
    {word | index.documentsWith word ≠ ∅} ⊆ (index.knownWords : Set Text) := by
  intro word listed
  obtain ⟨document, found⟩ := (documentsWith_ne_empty_iff index word).mp listed
  exact (mem_knownWords index word).mpr (Option.isSome_of_isSome_bind found)

theorem ncard_documentsWith_le (index : Index) :
    {word | index.documentsWith word ≠ ∅}.ncard ≤ index.termCount := by
  have bound := Set.ncard_le_ncard index.setOf_documentsWith_subset
  rwa [Set.ncard_coe_finset, knownWords, ← size_eq_card] at bound

/-- The entries are as many as the words that have documents if all of them have some. -/
theorem termCount_eq_ncard_iff (index : Index) :
    index.termCount = {word | index.documentsWith word ≠ ∅}.ncard ↔ index.IsInhabited := by
  have within := index.setOf_documentsWith_subset
  have entries : index.termCount = (index.knownWords : Set Text).ncard := by
    rw [Set.ncard_coe_finset, knownWords, ← size_eq_card, termCount]
  constructor
  · intro same word listed
    have all := Set.eq_of_subset_of_ncard_le within (entries.symm.trans same).le
    have member : word ∈ (index.knownWords : Set Text) := (mem_knownWords index word).mpr listed
    rwa [← all] at member
  · intro inhabited
    have all : {word | index.documentsWith word ≠ ∅} = (index.knownWords : Set Text) :=
      Set.Subset.antisymm within fun word member =>
        inhabited word ((mem_knownWords index word).mp member)
    rw [all, entries]

/-! ## Texts -/

/-- Of the laws of texts, a sound index meets all if words claim no position together and
have documents. -/
theorem Sound.describesText_iff (sound : index.Sound) :
    index.DescribesText ↔ index.ClaimsOnce ∧ index.IsInhabited :=
  ⟨fun describes => ⟨describes.claimsOnce, describes.inhabited⟩,
    fun ⟨once, inhabited⟩ => ⟨once, inhabited, sound.occurrences_le once,
      index.termCount_eq_ncard_iff.mpr inhabited⟩⟩

end Concordance.Index
