import Concordance.Proofs.Index.Counting

/-!
Contract: programs that build indexes, compared with what they do to corpora.

A program works on registers, all empty at first. It adds texts, copies registers
and merges them, a register into itself included. The same program runs on indexes
and on corpora, and after each of its steps every register answers alike.

Owns:
- programs and their traces over any values with the three operations;
- the simulation of one such trace by another;
- `Answers`, the agreement of an index with a corpus in all that can be asked.

Does not own: why single operations agree (`Concordance.Proofs.Index.Corpus`).
-/

set_option autoImplicit false

namespace Concordance.Program

/-- What a program does with the values in its registers. -/
structure Operations (α : Type) where
  empty : α
  addText : α → Text → Text → α × Nat
  merge : α → α → α

/-- One step of a program. -/
inductive Step where
  | addText (register document text : Text)
  | copy (source target : Text)
  | merge (register source : Text)
deriving DecidableEq, Repr

/-- The registers after a step, and the number it answers with if it adds a text. -/
def Step.apply {α : Type} (operations : Operations α) (registers : Text → α) :
    Step → (Text → α) × Option Nat
  | addText register document text =>
      let added := operations.addText (registers register) document text
      (Function.update registers register added.1, some added.2)
  | copy source target => (Function.update registers target (registers source), none)
  | merge register source =>
      (Function.update registers register
        (operations.merge (registers register) (registers source)), none)

/-- What every step of a program leaves and answers, in order. -/
def traceFrom {α : Type} (operations : Operations α) (registers : Text → α) :
    List Step → List ((Text → α) × Option Nat)
  | [] => []
  | step :: rest =>
      step.apply operations registers
        :: traceFrom operations (step.apply operations registers).1 rest

/-- The trace of a program whose registers are empty at first. -/
def trace {α : Type} (operations : Operations α) (steps : List Step) :
    List ((Text → α) × Option Nat) :=
  traceFrom operations (fun _ => operations.empty) steps

/-! ## Simulation -/

/-- A relation between two kinds of values that every operation keeps, with equal
answers. -/
structure Simulation {α β : Type} (left : Operations α) (right : Operations β)
    (related : α → β → Prop) : Prop where
  empty : related left.empty right.empty
  addText : ∀ {value expected} (document text : Text), related value expected →
    related (left.addText value document text).1 (right.addText expected document text).1 ∧
      (left.addText value document text).2 = (right.addText expected document text).2
  merge : ∀ {value expected added addedExpected}, related value expected →
    related added addedExpected →
    related (left.merge value added) (right.merge expected addedExpected)

namespace Simulation

variable {α β : Type} {left : Operations α} {right : Operations β}
  {related : α → β → Prop}

private theorem update {values : Text → α} {expected : Text → β}
    (all : ∀ register, related (values register) (expected register))
    (register : Text) {value : α} {wanted : β} (new : related value wanted) :
    ∀ other, related (Function.update values register value other)
      (Function.update expected register wanted other) := by
  intro other
  by_cases same : other = register
  · subst same
    rw [Function.update_self, Function.update_self]
    exact new
  · rw [Function.update_of_ne same, Function.update_of_ne same]
    exact all other

/-- One step keeps all registers related and answers the same. -/
theorem apply (simulation : Simulation left right related) {values : Text → α}
    {expected : Text → β} (all : ∀ register, related (values register) (expected register))
    (step : Step) :
    (step.apply left values).2 = (step.apply right expected).2 ∧
      ∀ register, related ((step.apply left values).1 register)
        ((step.apply right expected).1 register) := by
  cases step with
  | addText register document text =>
      obtain ⟨added, counted⟩ := simulation.addText document text (all register)
      exact ⟨congrArg some counted, update all register added⟩
  | copy source target => exact ⟨rfl, update all target (all source)⟩
  | merge register source =>
      exact ⟨rfl, update all register (simulation.merge (all register) (all source))⟩

/-- Every step of a run keeps all registers related and answers the same. -/
theorem traceFrom (simulation : Simulation left right related) (steps : List Step)
    {values : Text → α} {expected : Text → β}
    (all : ∀ register, related (values register) (expected register)) :
    List.Forall₂
      (fun reached wanted =>
        reached.2 = wanted.2 ∧ ∀ register, related (reached.1 register) (wanted.1 register))
      (Program.traceFrom left values steps) (Program.traceFrom right expected steps) := by
  induction steps generalizing values expected with
  | nil => exact .nil
  | cons step rest inductionHypothesis =>
      have next := simulation.apply all step
      exact .cons next (inductionHypothesis next.2)

end Simulation

/-! ## Indexes and corpora -/

/-- Programs that build indexes. -/
def onIndexes : Operations Index := ⟨Index.empty, Index.addText, Index.merge⟩

/-- Programs that append words to documents. -/
def onCorpora : Operations Corpus := ⟨Corpus.empty, Corpus.addText, Corpus.merge⟩

theorem simulation_represents : Simulation onIndexes onCorpora Index.Represents where
  empty := Index.Represents.empty
  addText := fun document text represents => represents.addText document text
  merge := Index.Represents.merge

/-- An index answers every question as a corpus of finitely many documents does: which
documents there are, how many words each has, at which places, counted from one, a
word occurs in a document, and how much there is of everything. -/
structure Answers (index : Index) (corpus : Corpus) : Prop where
  finite : {document | (corpus document).isSome}.Finite
  documents : ∀ document, document ∈ index.allDocuments ↔ (corpus document).isSome
  cursor : ∀ document, index.cursor? document = (corpus document).map List.length
  positions : ∀ word document, index.positions? word document =
    if word ∈ corpus.wordsOf document then
      some (List.idxsOf word (corpus.wordsOf document) 1)
    else none
  statistics : index.statistics = corpus.statistics

theorem answers_of_represents {index : Index} {corpus : Corpus}
    (represents : index.Represents corpus) : Answers index corpus where
  finite := represents.finite
  documents := fun document => by
    rw [Index.mem_allDocuments, represents.cursor, Option.isSome_map]
  cursor := represents.cursor
  positions := represents.positions
  statistics := represents.statistics_eq

/-- After every step of a program every register holds an index that answers as the
corpus in the register of the same name, and adding a text answers with the number of
words it appended. -/
theorem trace_index_answers_corpus (steps : List Step) :
    List.Forall₂
      (fun reached expected =>
        reached.2 = expected.2 ∧
          ∀ register, Answers (reached.1 register) (expected.1 register))
      (trace onIndexes steps) (trace onCorpora steps) := by
  have run := simulation_represents.traceFrom steps fun _ => simulation_represents.empty
  apply run.imp
  rintro reached expected ⟨answered, represented⟩
  exact ⟨answered, fun register => answers_of_represents (represented register)⟩

/-- A register merged into itself holds every word twice. -/
example : ((trace onIndexes [.addText "one" "a" "red fish", .merge "one" "one"]).map
    fun reached => (reached.1 "one".toList).positions? "fish" "a")
      = [some [2], some [2, 4]] := by
  decide +kernel

end Concordance.Program
