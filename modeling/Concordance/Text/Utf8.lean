import Concordance.Text.Basic

/-!
Contract: UTF-8.

Owns:
- `encode`, the bytes of a text;
- `decode?`, which accepts exactly the well-formed byte strings and takes back what
  `encode` writes;
- `decodeLossy`, which puts one replacement character in the place of every
  maximal ill-formed piece.

Does not own: byte offsets into a text (`Concordance.Text.Offset`).
-/

set_option autoImplicit false

namespace Concordance.Utf8

/-- The bytes of a text. -/
def encode (text : Text) : Bytes := text.flatMap String.utf8EncodeChar

/-- Whether a byte continues a sequence and lies between the two bounds. -/
private def between (low high : Nat) (byte : UInt8) : Bool :=
  low ≤ byte.toNat && byte.toNat ≤ high

/-- The six bits a continuation byte carries. -/
private def payload (byte : UInt8) : Nat := byte.toNat % 64

/-- Bounds of the second byte of a sequence with the given lead byte. The bounds
leave out overlong forms, surrogates and code points past the last plane. -/
private def secondBounds (lead : Nat) : Nat × Nat :=
  if lead = 0xE0 then (0xA0, 0xBF)
  else if lead = 0xED then (0x80, 0x9F)
  else if lead = 0xF0 then (0x90, 0xBF)
  else if lead = 0xF4 then (0x80, 0x8F)
  else (0x80, 0xBF)

/-- Reads one character from a byte string that starts with `first`. The number
counts the bytes of `rest` that belong to the character, or, where there is none,
to the ill-formed piece. -/
def readChar (first : UInt8) (rest : Bytes) : Option Char × Nat :=
  let lead := first.toNat
  let bounds := secondBounds lead
  if lead < 0x80 then (some (Char.ofNat lead), 0)
  else if lead < 0xC2 then (none, 0)
  else if lead < 0xE0 then
    match rest with
    | second :: _ =>
        if between 0x80 0xBF second then
          (some (Char.ofNat ((lead - 0xC0) * 64 + payload second)), 1)
        else (none, 0)
    | [] => (none, 0)
  else if lead < 0xF0 then
    match rest with
    | second :: third :: _ =>
        if !between bounds.1 bounds.2 second then (none, 0)
        else if !between 0x80 0xBF third then (none, 1)
        else
          (some (Char.ofNat
            (((lead - 0xE0) * 64 + payload second) * 64 + payload third)), 2)
    | [second] => (none, if between bounds.1 bounds.2 second then 1 else 0)
    | [] => (none, 0)
  else if lead < 0xF5 then
    match rest with
    | second :: third :: fourth :: _ =>
        if !between bounds.1 bounds.2 second then (none, 0)
        else if !between 0x80 0xBF third then (none, 1)
        else if !between 0x80 0xBF fourth then (none, 2)
        else
          (some (Char.ofNat
            ((((lead - 0xF0) * 64 + payload second) * 64 + payload third) * 64
              + payload fourth)), 3)
    | [second, third] =>
        (none,
          if !between bounds.1 bounds.2 second then 0
          else if between 0x80 0xBF third then 2 else 1)
    | [second] => (none, if between bounds.1 bounds.2 second then 1 else 0)
    | [] => (none, 0)
  else (none, 0)

/-- The text with these bytes, if they are well formed. -/
def decode? : Bytes → Option Text
  | [] => some []
  | first :: rest =>
      match readChar first rest with
      | (some character, used) => (decode? (rest.drop used)).map (character :: ·)
      | (none, _) => none
termination_by bytes => bytes.length
decreasing_by simp only [List.length_drop, List.length_cons]; omega

/-- The text with these bytes, ill-formed pieces replaced. -/
def decodeLossy : Bytes → Text
  | [] => []
  | first :: rest =>
      match readChar first rest with
      | (character?, used) =>
          character?.getD '\uFFFD' :: decodeLossy (rest.drop used)
termination_by bytes => bytes.length
decreasing_by simp only [List.length_drop, List.length_cons]; omega

/-! ## Bytes of characters -/

theorem encode_cons (character : Char) (text : Text) :
    encode (character :: text) = String.utf8EncodeChar character ++ encode text :=
  List.flatMap_cons

theorem encode_append (first second : Text) :
    encode (first ++ second) = encode first ++ encode second :=
  List.flatMap_append

/-- A character of the ASCII range is its one byte. -/
theorem encodeChar_of_lt {character : Char} (ascii : character.toNat < 0x80) :
    String.utf8EncodeChar character = [UInt8.ofNat character.toNat] :=
  if_pos (Nat.le_of_lt_succ ascii)

/-- Bytes of the ASCII range belong to no other character. -/
theorem le_of_mem_encodeChar {character : Char} (beyond : 0x80 ≤ character.toNat)
    {byte : UInt8} (member : byte ∈ String.utf8EncodeChar character) : 0x80 ≤ byte.toNat := by
  obtain ⟨code, same⟩ : ∃ code, code = character.val.toNat := ⟨_, rfl⟩
  have beyond : 0x80 ≤ code := same ▸ beyond
  unfold String.utf8EncodeChar at member
  rw [← same] at member
  dsimp only at member
  repeat' split at member
  all_goals
    simp only [List.mem_cons, List.not_mem_nil, or_false] at member
    rcases member with rfl | rfl | rfl | rfl
  all_goals
    rw [UInt8.toNat_ofNat']
    omega

/-! ## Reading what was written -/

private theorem between_ofNat {low high code : Nat} (above : low ≤ code)
    (below : code ≤ high) (small : code < 256) : between low high (UInt8.ofNat code) = true := by
  rw [between, UInt8.toNat_ofNat', Nat.mod_eq_of_lt small, Bool.and_eq_true]
  exact ⟨decide_eq_true above, decide_eq_true below⟩

private theorem payload_ofNat {code : Nat} (small : code < 64) :
    payload (UInt8.ofNat (code + 0x80)) = code := by
  rw [payload, UInt8.toNat_ofNat']
  omega

private theorem readChar_two {head second : Nat} (rest : Bytes) (long : 2 ≤ head)
    (bound : head < 32) (six : second < 64) :
    readChar (UInt8.ofNat (head + 0xC0)) (UInt8.ofNat (second + 0x80) :: rest)
      = (some (Char.ofNat (head * 64 + second)), 1) := by
  have lead : (UInt8.ofNat (head + 0xC0)).toNat = head + 0xC0 := by
    rw [UInt8.toNat_ofNat']
    omega
  unfold readChar
  dsimp only
  rw [lead, if_neg (by omega), if_neg (by omega), if_pos (by omega),
    if_pos (between_ofNat (by omega) (by omega) (by omega)), payload_ofNat six,
    Nat.add_sub_cancel]

private theorem readChar_three {head second third : Nat} (rest : Bytes)
    (bound : head < 16) (six : second < 64) (last : third < 64)
    (long : head = 0 → 32 ≤ second) (surrogate : head = 13 → second < 32) :
    readChar (UInt8.ofNat (head + 0xE0))
        (UInt8.ofNat (second + 0x80) :: UInt8.ofNat (third + 0x80) :: rest)
      = (some (Char.ofNat ((head * 64 + second) * 64 + third)), 2) := by
  have lead : (UInt8.ofNat (head + 0xE0)).toNat = head + 0xE0 := by
    rw [UInt8.toNat_ofNat']
    omega
  have bounds : (secondBounds (head + 0xE0)).1 ≤ second + 0x80 ∧
      second + 0x80 ≤ (secondBounds (head + 0xE0)).2 := by
    unfold secondBounds
    repeat' split
    all_goals omega
  unfold readChar
  dsimp only
  rw [lead, if_neg (by omega), if_neg (by omega), if_neg (by omega), if_pos (by omega),
    between_ofNat bounds.1 bounds.2 (by omega),
    between_ofNat (by omega) (by omega) (by omega), payload_ofNat six, payload_ofNat last,
    Nat.add_sub_cancel]
  rfl

private theorem readChar_four {head second third fourth : Nat} (rest : Bytes)
    (bound : head < 5) (six : second < 64) (next : third < 64) (last : fourth < 64)
    (long : head = 0 → 16 ≤ second) (large : head = 4 → second < 16) :
    readChar (UInt8.ofNat (head + 0xF0))
        (UInt8.ofNat (second + 0x80) :: UInt8.ofNat (third + 0x80)
          :: UInt8.ofNat (fourth + 0x80) :: rest)
      = (some (Char.ofNat (((head * 64 + second) * 64 + third) * 64 + fourth)), 3) := by
  have lead : (UInt8.ofNat (head + 0xF0)).toNat = head + 0xF0 := by
    rw [UInt8.toNat_ofNat']
    omega
  have bounds : (secondBounds (head + 0xF0)).1 ≤ second + 0x80 ∧
      second + 0x80 ≤ (secondBounds (head + 0xF0)).2 := by
    unfold secondBounds
    repeat' split
    all_goals omega
  unfold readChar
  dsimp only
  rw [lead, if_neg (by omega), if_neg (by omega), if_neg (by omega), if_neg (by omega),
    if_pos (by omega), between_ofNat bounds.1 bounds.2 (by omega),
    between_ofNat (by omega) (by omega) (by omega),
    between_ofNat (by omega) (by omega) (by omega), payload_ofNat six, payload_ofNat next,
    payload_ofNat last, Nat.add_sub_cancel]
  rfl

/-- A character is read back from its bytes, whatever follows them. -/
theorem readChar_encodeChar (character : Char) (rest : Bytes) :
    ∃ first others, String.utf8EncodeChar character = first :: others ∧
      readChar first (others ++ rest) = (some character, others.length) := by
  obtain ⟨code, same⟩ : ∃ code, code = character.val.toNat := ⟨_, rfl⟩
  have whole : Char.ofNat code = character := same ▸ Char.ofNat_toNat character
  have valid : code < 0xD800 ∨ 0xDFFF < code ∧ code < 0x110000 := same ▸ character.valid
  unfold String.utf8EncodeChar
  rw [← same]
  dsimp only
  by_cases one : code ≤ 0x7F
  · have lead : (UInt8.ofNat code).toNat = code := by
      rw [UInt8.toNat_ofNat']
      omega
    rw [if_pos one]
    refine ⟨_, _, rfl, ?_⟩
    unfold readChar
    dsimp only
    rw [lead, if_pos (by omega), whole]
    rfl
  · rw [if_neg one]
    by_cases two : code ≤ 0x7FF
    · rw [if_pos two]
      refine ⟨_, _, rfl, (readChar_two rest ?_ ?_ ?_).trans ?_⟩
      iterate 3 omega
      rw [show code / 64 % 32 * 64 + code % 64 = code by omega, whole]
      rfl
    · rw [if_neg two]
      by_cases three : code ≤ 0xFFFF
      · rw [if_pos three]
        refine ⟨_, _, rfl, (readChar_three rest ?_ ?_ ?_ ?_ ?_).trans ?_⟩
        iterate 5 omega
        rw [show (code / 4096 % 16 * 64 + code / 64 % 64) * 64 + code % 64 = code by omega,
          whole]
        rfl
      · rw [if_neg three]
        refine ⟨_, _, rfl, (readChar_four rest ?_ ?_ ?_ ?_ ?_ ?_).trans ?_⟩
        iterate 6 omega
        rw [show ((code / 262144 % 8 * 64 + code / 4096 % 64) * 64 + code / 64 % 64) * 64
          + code % 64 = code by omega, whole]
        rfl

/-- The bytes of a text are those of that text only. -/
theorem decode?_encode (text : Text) : decode? (encode text) = some text := by
  induction text with
  | nil => rw [encode, List.flatMap_nil, decode?]
  | cons character others inductionHypothesis =>
      obtain ⟨first, tail, bytes, read⟩ := readChar_encodeChar character (encode others)
      rw [encode_cons, bytes, List.cons_append, decode?, read]
      simp only [List.drop_left, inductionHypothesis, Option.map_some]

end Concordance.Utf8
