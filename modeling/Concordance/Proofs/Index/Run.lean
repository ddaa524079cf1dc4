import Concordance.Index.Phrase
import Concordance.Proofs.Index.Growth

/-!
Contract: the check for a contiguous run of words finds every run and no other.

The check tries only the positions of one word of the run. Any word would do: a run
from some start puts each word at its own distance, so the positions of one of them
name every start there can be. The other positions are looked for by halving, which
finds them because the positions of a word ascend.

Owns:
- what looking for one position decides;
- what the steps of the check decide, and `hasPhrase_iff`;
- that the check does not depend on the word whose positions are tried.

Does not own: sets of documents (`Concordance.Proofs.Query.Meaning`).
-/

set_option autoImplicit false

namespace Concordance.Index

/-! ## Looking for one position -/

/-- A list that is cut in the middle, at an entry that all entries in front of it are
below and all entries behind it are above. -/
theorem ascending_around {list after : List Nat} {middle : Nat}
    (ascending : list.Pairwise (· < ·))
    (split : list.drop (list.length / 2) = middle :: after) :
    list = list.take (list.length / 2) ++ middle :: after ∧
      (∀ earlier ∈ list.take (list.length / 2), earlier < middle) ∧
        ∀ later ∈ after, middle < later := by
  have whole : list = list.take (list.length / 2) ++ middle :: after := by
    rw [← split, List.take_append_drop]
  have parts := ascending
  rw [whole, List.pairwise_append, List.pairwise_cons] at parts
  obtain ⟨_, ⟨behind, _⟩, across⟩ := parts
  exact ⟨whole, fun earlier member => across earlier member middle List.mem_cons_self, behind⟩

/-- Halving finds every position of an ascending list: the half that is given up holds
only positions on the other side of the one in the middle. -/
theorem probe_iff {list : List Nat} (ascending : list.Pairwise (· < ·)) (position : Nat) :
    probe position list = true ↔ position ∈ list := by
  fun_induction probe position list with
  | case1 list empty =>
      have short := List.drop_eq_nil_iff.mp empty
      have none : list = [] := List.eq_nil_of_length_eq_zero (by omega)
      rw [none]
      simp
  | case2 list after split =>
      refine iff_of_true rfl (List.mem_of_mem_drop (i := list.length / 2) ?_)
      rw [split]
      exact List.mem_cons_self
  | case3 list middle after split different below inductionHypothesis =>
      obtain ⟨whole, _, behind⟩ := ascending_around ascending split
      rw [inductionHypothesis (ascending.sublist (List.take_sublist _ _))]
      constructor
      · exact List.mem_of_mem_take
      · intro member
        rw [whole, List.mem_append, List.mem_cons] at member
        rcases member with earlier | rfl | later
        · exact earlier
        · exact absurd rfl different
        · have above := behind position later
          omega
  | case4 list middle after split different notBelow inductionHypothesis =>
      obtain ⟨whole, before, _⟩ := ascending_around ascending split
      have upper : (middle :: after).Sublist list := by
        rw [← split]
        exact List.drop_sublist _ _
      rw [inductionHypothesis (ascending.sublist ((List.sublist_cons_self _ _).trans upper))]
      constructor
      · intro member
        exact upper.subset (List.mem_cons_of_mem _ member)
      · intro member
        rw [whole, List.mem_append, List.mem_cons] at member
        rcases member with earlier | rfl | later
        · have under := before position earlier
          omega
        · exact absurd rfl different
        · exact later

/-! ## The steps of the check -/

/-- The chosen list stands at the place it is chosen with. -/
theorem getElem?_of_shortestFrom {place chosen : Nat} {lists : List (List Nat)}
    {list : List Nat} (found : shortestFrom place lists = some (chosen, list)) :
    place ≤ chosen ∧ lists[chosen - place]? = some list := by
  induction lists generalizing place chosen list with
  | nil => cases found
  | cons first rest inductionHypothesis =>
      rw [shortestFrom] at found
      cases later : shortestFrom (place + 1) rest with
      | none =>
          rw [later] at found
          cases found
          exact ⟨Nat.le_refl _, by rw [Nat.sub_self]; rfl⟩
      | some best =>
          obtain ⟨behind, stands⟩ := inductionHypothesis later
          rw [later] at found
          dsimp only at found
          split at found
          · cases found
            refine ⟨by omega, ?_⟩
            have behindFirst : best.1 - place = best.1 - (place + 1) + 1 := by omega
            rw [behindFirst, List.getElem?_cons_succ]
            exact stands
          · cases found
            exact ⟨Nat.le_refl _, by rw [Nat.sub_self]; rfl⟩

theorem eq_nil_of_shortestFrom {place : Nat} {lists : List (List Nat)}
    (missing : shortestFrom place lists = none) : lists = [] := by
  cases lists with
  | nil => rfl
  | cons first rest =>
      rw [shortestFrom] at missing
      cases later : shortestFrom (place + 1) rest with
      | none => simp [later] at missing
      | some best =>
          rw [later] at missing
          dsimp only at missing
          split at missing <;> cases missing

theorem runsFrom_iff {lists : List (List Nat)}
    (ascending : ∀ list ∈ lists, list.Pairwise (· < ·)) (start : Nat) :
    runsFrom start lists = true ↔
      ∀ offset list, lists[offset]? = some list → start + offset ∈ list := by
  induction lists generalizing start with
  | nil => simp [runsFrom]
  | cons first rest inductionHypothesis =>
      obtain ⟨firstAscending, restAscending⟩ := List.forall_mem_cons.mp ascending
      rw [runsFrom, Bool.and_eq_true, probe_iff firstAscending,
        inductionHypothesis restAscending]
      constructor
      · rintro ⟨here, later⟩ offset list found
        cases offset with
        | zero =>
            cases found
            exact here
        | succ offset =>
            rw [List.getElem?_cons_succ] at found
            have member := later offset list found
            rwa [Nat.add_right_comm, Nat.add_assoc] at member
      · intro all
        refine ⟨all 0 first rfl, fun offset list found => ?_⟩
        have member := all (offset + 1) list (by rw [List.getElem?_cons_succ]; exact found)
        rwa [Nat.add_right_comm, Nat.add_assoc]

/-- Trying the positions of the list at one place finds a run wherever there is one. -/
theorem runsThrough_iff {lists : List (List Nat)} {place : Nat} {anchors : List Nat}
    (ascending : ∀ list ∈ lists, list.Pairwise (· < ·))
    (found : lists[place]? = some anchors) :
    runsThrough lists place anchors = true ↔ ∃ start, runsFrom start lists = true := by
  rw [runsThrough, List.any_eq_true]
  constructor
  · rintro ⟨anchor, _, runs⟩
    rw [Bool.and_eq_true] at runs
    exact ⟨anchor - place, runs.2⟩
  · rintro ⟨start, runs⟩
    have anchor : start + place ∈ anchors :=
      (runsFrom_iff ascending start).mp runs place anchors found
    refine ⟨start + place, anchor, ?_⟩
    rw [Nat.add_sub_cancel, runs, Bool.and_true]
    exact decide_eq_true (Nat.le_add_left place start)

/-! ## Collecting the lists -/

/-- The positions of words in a document, none for a word that the document has not
got. -/
def positionLists (index : Index) (document : Text) (words : List Text) : List (List Nat) :=
  words.map fun word => (index.positions? word document).getD []

theorem Sound.ascending_positionLists {index : Index} (sound : index.Sound)
    (document : Text) (words : List Text) :
    ∀ list ∈ index.positionLists document words, list.Pairwise (· < ·) := by
  intro list member
  obtain ⟨word, _, rfl⟩ := List.mem_map.mp member
  exact (sound.fits word document).ascending

/-- The lists hold a run from some position on just where the words stand one behind the
other. -/
theorem Sound.exists_runsFrom_iff {index : Index} (sound : index.Sound) (document : Text)
    (words : List Text) :
    (∃ start, runsFrom start (index.positionLists document words) = true) ↔
      ∃ start, ∀ offset word, words[offset]? = some word →
        index.StandsAt word document (start + offset) := by
  simp only [runsFrom_iff (sound.ascending_positionLists document words)]
  refine exists_congr fun start => ?_
  simp only [positionLists, List.getElem?_map, Option.map_eq_some_iff, StandsAt]
  constructor
  · intro runs offset word here
    exact runs offset _ ⟨word, here, rfl⟩
  · rintro stands offset _ ⟨word, here, rfl⟩
    exact stands offset word here

theorem eq_positionLists {index : Index} {document : Text} {words : List Text}
    {lists : List (List Nat)}
    (collected : words.mapM (fun word => index.positions? word document) = some lists) :
    lists = index.positionLists document words := by
  induction words generalizing lists with
  | nil =>
      cases collected
      rfl
  | cons word rest inductionHypothesis =>
      rw [List.mapM_cons] at collected
      obtain ⟨positions, found, collected⟩ := Option.bind_eq_some_iff.mp collected
      obtain ⟨others, later, collected⟩ := Option.bind_eq_some_iff.mp collected
      cases collected
      rw [positionLists, List.map_cons, found, Option.getD_some, inductionHypothesis later]
      rfl

theorem exists_of_mapM_positions? {index : Index} {document : Text} {words : List Text}
    (stopped : words.mapM (fun word => index.positions? word document) = none) :
    ∃ word ∈ words, index.positions? word document = none := by
  induction words with
  | nil => cases stopped
  | cons word rest inductionHypothesis =>
      rw [List.mapM_cons] at stopped
      cases found : index.positions? word document with
      | none => exact ⟨word, List.mem_cons_self, found⟩
      | some positions =>
          cases later : rest.mapM fun word => index.positions? word document with
          | none =>
              obtain ⟨missing, member, absent⟩ := inductionHypothesis later
              exact ⟨missing, List.mem_cons_of_mem _ member, absent⟩
          | some others => simp [found, later] at stopped

/-! ## The check -/

section Check

variable {index : Index} {words : List Text}

/-- A document of a sound index has words as a run if, from some position on, each stands
one position after the one before it. -/
theorem hasPhrase_iff (sound : index.Sound) (document : Text) (nonempty : words ≠ []) :
    index.hasPhrase document words = true ↔
      ∃ start, ∀ offset word, words[offset]? = some word →
        index.StandsAt word document (start + offset) := by
  unfold hasPhrase
  cases collected : words.mapM fun word => index.positions? word document with
  | none =>
      obtain ⟨missing, member, absent⟩ := exists_of_mapM_positions? collected
      obtain ⟨offset, here⟩ := List.mem_iff_getElem?.mp member
      constructor
      · intro impossible
        cases impossible
      · rintro ⟨start, stands⟩
        have position := stands offset missing here
        rw [StandsAt, absent] at position
        cases position
  | some lists =>
      have same := eq_positionLists collected
      dsimp only
      cases chosen : shortestFrom 0 lists with
      | none =>
          rw [eq_nil_of_shortestFrom chosen, positionLists, eq_comm, List.map_eq_nil_iff] at same
          exact absurd same nonempty
      | some best =>
          obtain ⟨_, found⟩ := getElem?_of_shortestFrom chosen
          rw [Nat.sub_zero] at found
          dsimp only
          rw [← sound.exists_runsFrom_iff document words, ← same]
          refine runsThrough_iff ?_ found
          rw [same]
          exact sound.ascending_positionLists document words

/-- In a valid index the check finds words as a run exactly if there is a position from
which on they stand one behind the other, and it finds the same when it tries the
positions of any other word of the run in place of those of the rarest. -/
theorem hasPhrase_eq_true_iff (valid : index.isValid = true) (document : Text)
    (nonempty : words ≠ []) :
    (index.hasPhrase document words = true ↔
      ∃ start, ∀ offset word, words[offset]? = some word →
        index.StandsAt word document (start + offset)) ∧
    ∀ place word, words[place]? = some word →
      runsThrough (index.positionLists document words) place
          ((index.positions? word document).getD [])
        = index.hasPhrase document words := by
  have sound := (isValid_iff index).mp valid
  have decided := hasPhrase_iff sound document nonempty
  refine ⟨decided, fun place word here => Bool.eq_iff_iff.mpr ?_⟩
  have listed : (index.positionLists document words)[place]?
      = some ((index.positions? word document).getD []) := by
    rw [positionLists, List.getElem?_map, here]
    rfl
  rw [decided, runsThrough_iff (sound.ascending_positionLists document words) listed]
  exact sound.exists_runsFrom_iff document words

end Check

/-- Two documents with the same words, which go on and on in the one and not in the
other. -/
def refrainIndex : Index :=
  Index.ofTexts [("card", "and on"), ("song", "Off and on, and on and on.")]

/-- The words of the run repeat, so that their lists overlap. Any of them may be tried. -/
theorem hasPhrase_refrain :
    let words : List Text := ["on", "and", "on", "and"]
    refrainIndex.isValid = true ∧ words ≠ [] ∧
      (∃ start, ∀ offset word, words[offset]? = some word →
        refrainIndex.StandsAt word "song" (start + offset)) ∧
      (¬∃ start, ∀ offset word, words[offset]? = some word →
        refrainIndex.StandsAt word "card" (start + offset)) ∧
      runsThrough (refrainIndex.positionLists "song" words) 3
        ((refrainIndex.positions? "and" "song").getD []) = true := by
  intro words
  have valid : refrainIndex.isValid = true := by decide +kernel
  have nonempty : words ≠ [] := List.cons_ne_nil _ _
  obtain ⟨inSong, anywhere⟩ := hasPhrase_eq_true_iff valid "song" nonempty
  obtain ⟨inCard, _⟩ := hasPhrase_eq_true_iff valid "card" nonempty
  have sung : refrainIndex.hasPhrase "song" words = true := by decide +kernel
  refine ⟨valid, nonempty, inSong.mp sung, ?_, (anywhere 3 "and" rfl).trans sung⟩
  rw [← inCard]
  decide +kernel

end Concordance.Index
