import Concordance.Proofs.Text.Recasing
import Concordance.Proofs.Url.Percent
import Mathlib.Data.List.TakeWhile

/-!
Contract: reading back the URL of a file.

A name is written with characters that neither end a segment nor are left out, and only the
two names that no entry has are written like steps. Followed from the top, the segments of a
path are its names again, unless the first one is taken for a drive.

Owns:
- the characters that names are written with;
- segments that are entered as they stand;
- the written path that the URL of a path leads to.

Does not own: names in segments (`Concordance.Proofs.Url.Percent`).
-/

set_option autoImplicit false

namespace Concordance.Url

open Concordance.Disk (Name Path)

namespace Percent

/-! ## Characters -/

/-- A printable character other than a blank that ends neither a segment nor a path. -/
def isWritten (character : Char) : Bool :=
  '!' ≤ character && character ≤ '~' && !isSlash character && !endsPath character

theorem isWritten_iff {character : Char} :
    isWritten character = true ↔ ('!' ≤ character ∧ character ≤ '~') ∧
      isSlash character = false ∧ endsPath character = false := by
  simp only [isWritten, Bool.and_eq_true, decide_eq_true_eq, Bool.not_eq_true', and_assoc]

theorem isWritten_of_mem_encodeByte {byte : UInt8} {character : Char}
    (member : character ∈ encodeByte byte) : isWritten character = true := by
  have all : ∀ code < 256, (encodeByte (UInt8.ofNat code)).all isWritten = true := by
    decide +kernel
  have each := all byte.toNat byte.toNat_lt
  rw [UInt8.ofNat_toNat] at each
  exact List.all_eq_true.mp each character member

theorem isWritten_of_mem_encode {name : Bytes} {character : Char}
    (member : character ∈ encode name) : isWritten character = true := by
  obtain ⟨byte, _, written⟩ := List.mem_flatMap.mp member
  exact isWritten_of_mem_encodeByte written

/-! ## Dots -/

/-- A text in lower case that is neither a dot nor an escaped one: a single character, or an
escape. -/
def isApart : Text → Bool
  | [character] => character ≠ '.' && character ≠ '%'
  | ['%', high, low] => high ≠ '2' || low ≠ 'e'
  | _ => false

theorem isApart_encodeByte {byte : UInt8} (other : byte ≠ 0x2E) :
    isApart (Text.lowerAscii (encodeByte byte)) = true := by
  have all : ∀ code < 256, code ≠ 0x2E →
      isApart (Text.lowerAscii (encodeByte (UInt8.ofNat code))) = true := by
    decide +kernel
  have each := all byte.toNat byte.toNat_lt fun same => other (UInt8.toNat_inj.mp same)
  rwa [UInt8.ofNat_toNat] at each

theorem ne_of_isApart {lowered behind rest : Text} (apart : isApart lowered = true) :
    lowered ++ behind ≠ '.' :: rest ∧ lowered ++ behind ≠ '%' :: '2' :: 'e' :: rest := by
  unfold isApart at apart
  split at apart
  · refine ⟨fun same => ?_, fun same => ?_⟩
    · cases same
      cases apart
    · cases same
      cases apart
  · refine ⟨fun same => ?_, fun same => ?_⟩
    · cases same
    · cases same
      cases apart
  · cases apart

/-- Only a dot is written like one, in whatever case. -/
theorem exists_of_lowerAscii_encode {name : Bytes} {rest : Text}
    (written : Text.lowerAscii (encode name) = '.' :: rest) :
    ∃ others, name = 0x2E :: others ∧ Text.lowerAscii (encode others) = rest := by
  cases name with
  | nil => cases written
  | cons byte others =>
      rw [encode, List.flatMap_cons, Text.lowerAscii_append] at written
      by_cases dot : byte = 0x2E
      · subst dot
        exact ⟨others, rfl, (List.cons.inj written).2⟩
      · exact absurd written (ne_of_isApart (isApart_encodeByte dot)).1

/-- No name is written like an escaped dot. -/
theorem lowerAscii_encode_ne {name : Bytes} {rest : Text} :
    Text.lowerAscii (encode name) ≠ '%' :: '2' :: 'e' :: rest := by
  cases name with
  | nil => exact List.cons_ne_nil _ _ ∘ Eq.symm
  | cons byte others =>
      rw [encode, List.flatMap_cons, Text.lowerAscii_append]
      by_cases dot : byte = 0x2E
      · subst dot
        intro written
        exact absurd (List.cons.inj written).1 (by decide)
      · exact (ne_of_isApart (isApart_encodeByte dot)).2

theorem eq_nil_of_lowerAscii_encode {name : Bytes}
    (written : Text.lowerAscii (encode name) = []) : name = [] :=
  encode_injective (List.map_eq_nil_iff.mp written)

theorem isHere_encode {name : Bytes} (notHere : name ≠ [0x2E]) :
    isHere (encode name) = false := by
  refine Bool.eq_false_iff.mpr fun here => ?_
  unfold isHere at here
  simp only [Bool.or_eq_true, decide_eq_true_eq] at here
  rcases here with dot | escaped
  · obtain ⟨others, rfl, rest⟩ := exists_of_lowerAscii_encode dot
    exact notHere (congrArg (0x2E :: ·) (eq_nil_of_lowerAscii_encode rest))
  · exact lowerAscii_encode_ne escaped

theorem isUp_encode {name : Bytes} (notUp : name ≠ [0x2E, 0x2E]) :
    isUp (encode name) = false := by
  refine Bool.eq_false_iff.mpr fun up => ?_
  unfold isUp at up
  simp only [Bool.or_eq_true, decide_eq_true_eq] at up
  rcases up with ((dots | half) | escaped) | escaped
  · obtain ⟨others, rfl, dot⟩ := exists_of_lowerAscii_encode dots
    obtain ⟨more, rfl, rest⟩ := exists_of_lowerAscii_encode dot
    exact notUp (congrArg (0x2E :: 0x2E :: ·) (eq_nil_of_lowerAscii_encode rest))
  · obtain ⟨others, rfl, escaped⟩ := exists_of_lowerAscii_encode half
    exact lowerAscii_encode_ne escaped
  · exact lowerAscii_encode_ne escaped
  · exact lowerAscii_encode_ne escaped

/-! ## Drives -/

theorem toNat_of_isAlpha {character : Char} (letter : character.isAlpha = true) :
    character.toNat < 0x80 ∧ character ≠ '%' := by
  constructor
  · rcases Bool.or_eq_true_iff.mp letter with upper | lower
    · obtain ⟨_, bound⟩ := of_decide_eq_true upper
      exact Nat.lt_of_le_of_lt (UInt32.le_iff_toNat_le.mp bound) (by decide)
    · have bound := of_decide_eq_true (Bool.and_eq_true_iff.mp lower).2
      exact Nat.lt_of_le_of_lt (UInt32.le_iff_toNat_le.mp bound) (by decide)
  · rintro rfl
    cases letter

/-- An ASCII character other than the percent sign is the byte that it stands for. -/
theorem decode_cons_of_ne {character : Char} (ascii : character.toNat < 0x80)
    (notSign : character ≠ '%') (rest : Text) :
    decode (character :: rest) = UInt8.ofNat character.toNat :: decode rest := by
  have other : UInt8.ofNat character.toNat ≠ 0x25 := by
    intro same
    have code := congrArg UInt8.toNat same
    rw [UInt8.toNat_ofNat', Nat.mod_eq_of_lt (by omega)] at code
    exact notSign (Char.toNat_inj.mp code)
  unfold decode
  rw [Utf8.encode_cons, Utf8.encodeChar_of_lt ascii, List.singleton_append,
    decodeBytes_cons_of_ne other]

theorem ofNat_toNat_of_lt {character : Char} (ascii : character.toNat < 0x80) :
    Char.ofNat (UInt8.ofNat character.toNat).toNat = character := by
  rw [UInt8.toNat_ofNat', Nat.mod_eq_of_lt (by omega), Char.ofNat_toNat]

/-- Only a drive is written like one. -/
theorem isDrive_encode {name : Bytes} (drive : isDrive (encode name) = true) :
    isDrive (name.map fun byte => Char.ofNat byte.toNat) = true := by
  have read := decode_encode name
  unfold isDrive at drive
  split at drive
  · rename_i letter mark written
    simp only [Bool.and_eq_true, Bool.or_eq_true, decide_eq_true_eq] at drive
    obtain ⟨isLetter, isMark⟩ := drive
    obtain ⟨ascii, notSign⟩ := toNat_of_isAlpha isLetter
    have markAscii : mark.toNat < 0x80 ∧ mark ≠ '%' := by
      rcases isMark with rfl | rfl <;> decide
    rw [written, decode_cons_of_ne ascii notSign, decode_cons_of_ne markAscii.1 markAscii.2,
      decode, Utf8.encode, List.flatMap_nil, decodeBytes] at read
    rw [← read, List.map_cons, List.map_singleton, ofNat_toNat_of_lt ascii,
      ofNat_toNat_of_lt markAscii.1]
    simp [isDrive, isLetter, isMark]
  · cases drive

end Percent

/-! ## Segments -/

/-- Whether a name is a drive, which is a letter and a colon or a bar. -/
def isDriveName (name : Name) : Bool := isDrive (name.map fun byte => Char.ofNat byte.toNat)

/-- A segment that is entered as it stands, unless it is a drive at the top. -/
structure IsPlain (segment : Text) : Prop where
  nonempty : segment ≠ []
  notHere : isHere segment = false
  notUp : isUp segment = false

theorem isPlain_encode {name : Name} (isName : Disk.IsName name) :
    IsPlain (Percent.encode name) where
  nonempty := fun none => isName.1 (Percent.encode_injective none)
  notHere := Percent.isHere_encode isName.2.2.1
  notUp := Percent.isUp_encode isName.2.2.2

theorem step_of_isPlain {segment : Text} (plain : IsPlain segment) (slash : Bool)
    (trail : Trail) : trail.step slash segment = trail.enter slash segment := by
  rw [Trail.step, plain.notUp, plain.notHere]
  rfl

/-- Plain segments are entered one below the other. -/
theorem follow_of_isPlain {segments : Segments} (plain : ∀ segment ∈ segments, IsPlain segment)
    (nonempty : segments ≠ []) {last : Text} {done : Trail} :
    Trail.follow ([] :: last :: done) segments = segments.reverse ++ last :: done := by
  induction segments generalizing last done with
  | nil => exact absurd rfl nonempty
  | cons segment others inductionHypothesis =>
      have here := plain segment List.mem_cons_self
      cases others with
      | nil =>
          rw [Trail.follow, step_of_isPlain here]
          rfl
      | cons next later =>
          rw [Trail.follow, step_of_isPlain here]
          · change Trail.follow ([] :: segment :: last :: done) (next :: later) = _
            rw [inductionHypothesis
              (fun other member => plain other (List.mem_cons_of_mem _ member))
              (List.cons_ne_nil next later), List.reverse_cons (a := segment),
              List.append_assoc, List.singleton_append]
          · exact fun none => List.cons_ne_nil next later none

theorem segments_reverse {first : Text} (nonempty : first ≠ []) (others : Segments) :
    Trail.segments (first :: others).reverse = first :: others := by
  have stops : ¬first.isEmpty = true := by simpa using nonempty
  rw [Trail.segments, List.reverse_reverse, List.dropWhile_cons_of_neg stops]

/-- Plain segments of which the first is no drive are those of the trail to them. -/
theorem segments_follow_top {first : Text} {others : Segments}
    (plain : ∀ segment ∈ first :: others, IsPlain segment) (notDrive : isDrive first = false) :
    (Trail.top.follow (first :: others)).segments = first :: others := by
  have here := plain first List.mem_cons_self
  have name : Trail.driveName first = first := if_neg (Bool.eq_false_iff.mp notDrive)
  have entered : ∀ slash, Trail.top.step slash first = Trail.close slash [first] := by
    intro slash
    rw [step_of_isPlain here]
    change Trail.close slash [Trail.driveName first] = _
    rw [name]
  cases others with
  | nil =>
      rw [Trail.follow, entered]
      exact segments_reverse here.nonempty []
  | cons next later =>
      rw [Trail.follow, entered]
      · change (Trail.follow [[], first] (next :: later)).segments = _
        rw [follow_of_isPlain
          (fun other member => plain other (List.mem_cons_of_mem _ member))
          (List.cons_ne_nil next later), ← List.reverse_cons]
        exact segments_reverse here.nonempty (next :: later)
      · exact fun none => List.cons_ne_nil next later none

/-! ## URLs -/

/-- A text of printable characters is read as it stands. -/
theorem cleaned_eq_self {text : Text} (printable : ∀ character ∈ text, '!' ≤ character) :
    cleaned text = text := by
  have edge : ∀ character : Char, '!' ≤ character → ¬character ≤ ' ' := fun character above below =>
    absurd (Char.le_trans above below) (by decide)
  have kept : ∀ other : Text, (∀ character ∈ other, '!' ≤ character) →
      other.dropWhile (fun character => decide (character ≤ ' ')) = other := by
    intro other each
    cases other with
    | nil => rfl
    | cons first rest =>
        have stops := edge first (each first List.mem_cons_self)
        exact List.dropWhile_cons_of_neg (by simpa using stops)
  unfold cleaned
  dsimp only
  rw [kept text printable,
    kept text.reverse fun character member => printable character (List.mem_reverse.mp member),
    List.reverse_reverse]
  refine List.filter_eq_self.mpr fun character member => ?_
  have other : ∀ dropped : Char, ¬('!' ≤ dropped) → character ≠ dropped := by
    rintro dropped small rfl
    exact small (printable character member)
  simp [other '\t' (by decide), other '\n' (by decide), other '\r' (by decide)]

theorem scheme?_render (segments : Segments) :
    scheme? (render segments)
      = some ("file".toList, "//".toList ++ segments.flatMap fun segment => '/' :: segment) :=
  rfl

/-- Behind three slashes there is no host. -/
theorem relative?_path (base : Option Segments) (path : Text) :
    relative? base ("///".toList ++ path) = some (Trail.top.follow (segmentsOf path)).segments :=
  rfl

/-- The segments of a text are what stands between its slashes. -/
theorem segmentsOf_flatMap {first : Text} {others : Segments}
    (written : ∀ segment ∈ first :: others, ∀ character ∈ segment,
      Percent.isWritten character = true) :
    segmentsOf (first ++ others.flatMap fun segment => '/' :: segment) = first :: others := by
  obtain ⟨here, later⟩ := List.forall_mem_cons.mp written
  have whole : ∀ character ∈ first ++ others.flatMap fun segment => '/' :: segment,
      (!endsPath character) = true := by
    intro character member
    rw [List.mem_append, List.mem_flatMap] at member
    rcases member with within | ⟨segment, listed, within⟩
    · rw [(Percent.isWritten_iff.mp (here character within)).2.2]
      rfl
    · rcases List.mem_cons.mp within with rfl | inside
      · rfl
      · rw [(Percent.isWritten_iff.mp (later segment listed character inside)).2.2]
        rfl
  rw [segmentsOf, List.takeWhile_eq_self_iff.mpr whole]
  exact Disk.splitOnP_flatMap_cons rfl
    (fun segment listed character inside =>
      (Percent.isWritten_iff.mp (later segment listed character inside)).2.1)
    fun character inside => (Percent.isWritten_iff.mp (here character inside)).2.1

theorem mem_render {segments : Segments} {character : Char}
    (member : character ∈ render segments)
    (written : ∀ segment ∈ segments, ∀ character ∈ segment,
      Percent.isWritten character = true) : '!' ≤ character ∧ character ≤ '~' := by
  rcases List.mem_append.mp member with front | path
  · have all : "file://".toList.all (fun other => decide ('!' ≤ other ∧ other ≤ '~')) = true := by
      decide
    exact of_decide_eq_true (List.all_eq_true.mp all character front)
  · obtain ⟨segment, listed, within⟩ := List.mem_flatMap.mp path
    rcases List.mem_cons.mp within with rfl | inside
    · decide
    · exact (Percent.isWritten_iff.mp (written segment listed character inside)).1

/-- The URL of a path is read as the names in it. -/
theorem resolve?_render {first : Text} {others : Segments}
    (written : ∀ segment ∈ first :: others, ∀ character ∈ segment,
      Percent.isWritten character = true)
    (plain : ∀ segment ∈ first :: others, IsPlain segment) (notDrive : isDrive first = false) :
    resolve? none (render (first :: others)) = some (first :: others) := by
  have clean : cleaned (render (first :: others)) = render (first :: others) :=
    cleaned_eq_self fun character member => (mem_render member written).1
  rw [resolve?, clean, scheme?_render]
  change relative? none ("///".toList ++ (first ++ others.flatMap fun segment => '/' :: segment))
    = _
  rw [relative?_path, segmentsOf_flatMap written, segments_follow_top plain notDrive]

/-! ## Written paths -/

/-- Whether the last name of a path ends like a drive. -/
def endsLikeDrive (path : Path) : Bool :=
  match path.getLast?.map List.reverse with
  | some (mark :: letter :: _) => isDrive [Char.ofNat letter.toNat, Char.ofNat mark.toNat]
  | _ => false

/-- Segments that names are written with stand for the written path of these names, at the end
of which a slash follows what looks like a drive. -/
theorem filePath_encode {path : Path} (nonempty : path ≠ [])
    (names : ∀ name ∈ path, Disk.IsName name) :
    filePath (path.map Percent.encode)
      = Disk.Path.bytes path ++ if endsLikeDrive path then [Disk.separator] else [] := by
  have whole : (path.map Percent.encode).flatMap (fun segment => 0x2F :: Percent.decode segment)
      = path.flatMap fun name => Disk.separator :: name := by
    rw [List.flatMap_map]
    exact congrArg (path.flatMap ·) (funext fun name => by rw [Percent.decode_encode]; rfl)
  have bytes : Disk.Path.bytes path = path.flatMap fun name => Disk.separator :: name :=
    if_neg (by simpa using nonempty)
  obtain ⟨above, name, rfl⟩ := (List.eq_nil_or_concat' path).resolve_left nonempty
  obtain ⟨before, last, split⟩ := (List.eq_nil_or_concat' name).resolve_left
    (names name (List.mem_append_right _ List.mem_cons_self)).1
  subst split
  have reversed : ((above ++ [before ++ [last]]).flatMap fun name => Disk.separator :: name).reverse
      = last :: (before.reverse ++ Disk.separator
          :: (above.flatMap fun name => Disk.separator :: name).reverse) := by
    simp
  rw [bytes]
  unfold filePath endsLikeDrive
  dsimp only
  rw [whole, reversed, List.getLast?_append_of_ne_nil _ (List.cons_ne_nil _ _),
    List.getLast?_singleton, Option.map_some, List.reverse_append]
  cases before.reverse with
  | nil =>
      -- A slash in front of a mark is no letter.
      have drive : isDrive [Char.ofNat Disk.separator.toNat, Char.ofNat last.toNat] = false := rfl
      cases (above.flatMap fun name => Disk.separator :: name).reverse with
      | nil => simp
      | cons next more => simp [drive]
  | cons letter rest =>
      obtain ⟨third, more, shape⟩ := List.exists_cons_of_ne_nil
        (List.append_ne_nil_of_right_ne_nil rest
          (List.cons_ne_nil Disk.separator
            (above.flatMap fun name => Disk.separator :: name).reverse))
      rw [List.cons_append, shape]
      cases drive : isDrive [Char.ofNat letter.toNat, Char.ofNat last.toNat]
      · simp [drive]
      · simp [drive, Disk.separator]

end Concordance.Url
