import Concordance.Proofs.Storage.Listing
import Concordance.Storage.Packed

/-!
Contract: packed values are read back.

Every value is read back from its bytes whatever follows them, and the bytes that follow
are left. Lengths are kept in at most eight bytes, so that this holds of values with
fewer than 2^64 bytes.

Owns:
- integers, texts, lists and pairs that are read back;
- packed listings that are read back.

Does not own: the header around the packed form (`Concordance.Proofs.Storage.Binary`).
-/

set_option autoImplicit false

namespace Concordance.Storage

/-! ## Integers -/

namespace Integer

theorem length_littleEndian (count value : Nat) :
    (littleEndian count value).length = count := by
  induction count generalizing value with
  | zero => rfl
  | succ count inductionHypothesis =>
      rw [littleEndian, List.length_cons, inductionHypothesis]

theorem ofLittleEndian_littleEndian {count value : Nat} (fits : value < Nat.pow 256 count) :
    ofLittleEndian (littleEndian count value) = value := by
  induction count generalizing value with
  | zero =>
      have zero : value = 0 := Nat.lt_one_iff.mp fits
      rw [zero]
      rfl
  | succ count inductionHypothesis =>
      have higher : value / 256 < Nat.pow 256 count :=
        Nat.div_lt_of_lt_mul (Nat.mul_comm _ _ ▸ fits)
      rw [littleEndian, ofLittleEndian, inductionHypothesis higher, UInt8.toNat_ofNat']
      omega

theorem readFixed_littleEndian {count value : Nat} (rest : Bytes)
    (fits : value < Nat.pow 256 count) :
    readFixed count (littleEndian count value ++ rest) = some (value, rest) := by
  have length := length_littleEndian count value
  unfold readFixed
  rw [if_pos (by rw [List.length_append, length]; omega), List.take_left' length,
    List.drop_left' length, ofLittleEndian_littleEndian fits]

theorem encode_ne_nil (value : Nat) : encode value ≠ [] := by
  unfold encode
  repeat' split
  all_goals exact List.cons_ne_nil _ _

/-- The least number that a width has no room for. -/
def Width.bound : Width → Nat
  | fourBytes => 0x100000000
  | eightBytes => 0x10000000000000000

theorem decode_one (width : Width) {value : Nat} (one : value < 251) (rest : Bytes) :
    decode width (UInt8.ofNat value :: rest) = some (value, rest) := by
  have byte : (UInt8.ofNat value).toNat = value := by
    rw [UInt8.toNat_ofNat']
    omega
  rw [decode, byte, if_pos one]

theorem decode_two (width : Width) (rest : Bytes) :
    decode width (251 :: rest) = readFixed 2 rest := by
  rw [decode, if_neg (by decide), if_pos rfl]

theorem decode_four (width : Width) (rest : Bytes) :
    decode width (252 :: rest) = readFixed 4 rest := by
  rw [decode, if_neg (by decide), if_neg (by decide), if_pos rfl]

theorem decode_eight (rest : Bytes) :
    decode .eightBytes (253 :: rest) = readFixed 8 rest := by
  rw [decode, if_neg (by decide), if_neg (by decide), if_neg (by decide),
    if_pos ⟨rfl, rfl⟩]

/-- Every number that fits is read back, one byte or several. -/
theorem decode_encode (width : Width) {value : Nat} (fits : value < width.bound)
    (rest : Bytes) : decode width (encode value ++ rest) = some (value, rest) := by
  unfold encode
  split
  · rename_i one
    exact decode_one width one rest
  · split
    · rename_i two
      rw [List.cons_append, decode_two, readFixed_littleEndian rest (Nat.lt_of_lt_of_eq two (by decide))]
    · split
      · rename_i four
        rw [List.cons_append, decode_four,
          readFixed_littleEndian rest (Nat.lt_of_lt_of_eq four (by decide))]
      · rename_i eight
        cases width with
        | fourBytes => exact absurd fits eight
        | eightBytes =>
            rw [List.cons_append, decode_eight,
              readFixed_littleEndian rest (Nat.lt_of_lt_of_eq fits (by decide))]

end Integer

/-! ## Values -/

namespace Packed

variable {α β : Type}

/-- A reader takes a value back from its bytes, of which there are not too many,
whatever follows them. -/
def Recovers (reader : Reader α) (encodeOne : α → Bytes) (value : α) : Prop :=
  (encodeOne value).length < 0x10000000000000000 →
    ∀ rest, reader (encodeOne value ++ rest) = some (value, rest)

theorem recovers_readPosition {position : Nat} (narrow : position < 0x100000000) :
    Recovers readPosition Integer.encode position :=
  fun _ rest => Integer.decode_encode .fourBytes narrow rest

theorem recovers_readText (text : Text) : Recovers readText encodeText text := by
  intro short rest
  rw [encodeText, List.length_append] at short
  have count : (Utf8.encode text).length < Integer.Width.eightBytes.bound :=
    Nat.lt_of_le_of_lt (Nat.le_add_left _ _) short
  unfold readText encodeText
  rw [List.append_assoc, Integer.decode_encode .eightBytes count]
  simp only [List.length_append, Nat.le_add_right, if_true, List.take_left, List.drop_left,
    Utf8.decode?_encode, Option.map_some]

theorem length_le_length_flatMap {encodeOne : α → Bytes}
    (nonempty : ∀ item, encodeOne item ≠ []) (items : List α) :
    items.length ≤ (items.flatMap encodeOne).length := by
  induction items with
  | nil => exact Nat.le_refl _
  | cons item others inductionHypothesis =>
      have some := List.length_pos_iff.mpr (nonempty item)
      rw [List.flatMap_cons, List.length_append, List.length_cons]
      omega

theorem recovers_readMany {readOne : Reader α} {encodeOne : α → Bytes} {items : List α}
    (each : ∀ item ∈ items, Recovers readOne encodeOne item)
    (short : (items.flatMap encodeOne).length < 0x10000000000000000) (rest : Bytes) :
    readMany readOne items.length (items.flatMap encodeOne ++ rest) = some (items, rest) := by
  induction items with
  | nil => rfl
  | cons item others inductionHypothesis =>
      rw [List.flatMap_cons, List.length_append] at short
      have first := each item List.mem_cons_self (by omega) (others.flatMap encodeOne ++ rest)
      have later := inductionHypothesis
        (fun other member => each other (List.mem_cons_of_mem _ member)) (by omega)
      rw [List.flatMap_cons, List.append_assoc, List.length_cons, readMany, first]
      simp only [later, Option.map_some]

theorem recovers_readList {readOne : Reader α} {encodeOne : α → Bytes}
    (nonempty : ∀ item, encodeOne item ≠ []) {items : List α}
    (each : ∀ item ∈ items, Recovers readOne encodeOne item) :
    Recovers (readList readOne) (encodeList encodeOne) items := by
  intro short rest
  rw [encodeList, List.length_append] at short
  have least := length_le_length_flatMap nonempty items
  have count : items.length < Integer.Width.eightBytes.bound :=
    Nat.lt_of_le_of_lt (Nat.le_trans least (Nat.le_add_left _ _)) short
  unfold readList encodeList
  rw [List.append_assoc, Integer.decode_encode .eightBytes count]
  exact recovers_readMany each (by omega) rest

theorem recovers_readPair {readFirst : Reader α} {readSecond : Reader β}
    {encodeFirst : α → Bytes} {encodeSecond : β → Bytes} {pair : α × β}
    (first : Recovers readFirst encodeFirst pair.1)
    (second : Recovers readSecond encodeSecond pair.2) :
    Recovers (readPair readFirst readSecond)
      (fun pair => encodeFirst pair.1 ++ encodeSecond pair.2) pair := by
  intro short rest
  rw [List.length_append] at short
  unfold readPair
  rw [List.append_assoc, first (by omega)]
  simp only [second (by omega), Option.map_some]

/-! ## Listings -/

theorem encodeText_ne_nil (text : Text) : encodeText text ≠ [] :=
  List.append_ne_nil_of_left_ne_nil (Integer.encode_ne_nil _) _

theorem encodePosting_ne_nil (posting : Text × List Nat) : encodePosting posting ≠ [] :=
  List.append_ne_nil_of_left_ne_nil (encodeText_ne_nil posting.1) _

theorem encodeTerm_ne_nil (term : Text × List (Text × List Nat)) : encodeTerm term ≠ [] :=
  List.append_ne_nil_of_left_ne_nil (encodeText_ne_nil term.1) _

theorem encodeCursor_ne_nil (entry : Text × Nat) : encodeCursor entry ≠ [] :=
  List.append_ne_nil_of_left_ne_nil (encodeText_ne_nil entry.1) _

theorem recovers_posting {posting : Text × List Nat}
    (narrow : ∀ position ∈ posting.2, position < 0x100000000) :
    Recovers (readPair readText (readList readPosition)) encodePosting posting :=
  recovers_readPair (recovers_readText posting.1)
    (recovers_readList Integer.encode_ne_nil fun position member =>
      recovers_readPosition (narrow position member))

theorem recovers_term {term : Text × List (Text × List Nat)}
    (narrow : ∀ posting ∈ term.2, ∀ position ∈ posting.2, position < 0x100000000) :
    Recovers (readPair readText (readList (readPair readText (readList readPosition))))
      encodeTerm term :=
  recovers_readPair (recovers_readText term.1)
    (recovers_readList encodePosting_ne_nil fun posting member =>
      recovers_posting (narrow posting member))

theorem recovers_cursor {entry : Text × Nat} (narrow : entry.2 < 0x100000000) :
    Recovers (readPair readText readPosition) encodeCursor entry :=
  recovers_readPair (recovers_readText entry.1) (recovers_readPosition narrow)

/-- A packed listing is read back if its positions and cursors fit into four bytes. -/
theorem decode_encode {listing : Listing}
    (positions : ∀ term ∈ listing.terms, ∀ posting ∈ term.2, ∀ position ∈ posting.2,
      position < 0x100000000)
    (cursors : ∀ entry ∈ listing.documents, entry.2 < 0x100000000)
    (short : (encode listing).length < 0x10000000000000000) :
    decode (encode listing) = some listing := by
  have terms : Recovers readTerms (encodeList encodeTerm) listing.terms :=
    recovers_readList encodeTerm_ne_nil fun term member =>
      recovers_term (positions term member)
  have documents : Recovers readDocuments (encodeList encodeCursor) listing.documents :=
    recovers_readList encodeCursor_ne_nil fun entry member =>
      recovers_cursor (cursors entry member)
  have parts : Recovers (readPair readTerms readDocuments)
      (fun parts => encodeList encodeTerm parts.1 ++ encodeList encodeCursor parts.2)
      (listing.terms, listing.documents) :=
    recovers_readPair terms documents
  have read := parts short []
  rw [List.append_nil] at read
  unfold decode encode
  rw [read]
  rfl

end Packed

end Concordance.Storage
