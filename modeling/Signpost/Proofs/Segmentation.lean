import Signpost.Proofs.BarePath
import Signpost.Proofs.Machine.Mentions

/-!
# Segments as stretches of bytes

A path can be cut by one scan over its bytes: at every slash the piece that has been read ends, and it is
noted by its offsets unless it is empty. No other character has the byte of a slash in it, so the offsets
lie between characters, and the slices are the segments. They are the longest stretches without a slash,
and nothing but their order and the slashes around them is needed to put the path together again.
-/
namespace Signpost.Text

/-! ### Bytes of a text -/

namespace Utf8

theorem encode_append (front rest : List Char) : encode (front ++ rest) = encode front ++ encode rest :=
  List.flatMap_append

theorem length_encode (text : List Char) :
    (encode text).length = (String.ofList text).utf8ByteSize := by
  induction text with
  | nil => rfl
  | cons c rest ih =>
    rw [encode, List.flatMap_cons, List.length_append, String.length_utf8EncodeChar,
      String.ofList_cons, String.utf8ByteSize_append, ← ih, encode]
    simp

/-- Only a character below 0x80 is written with a byte below 0x80. -/
theorem toNat_of_mem {c : Char} {byte : UInt8} (member : byte ∈ String.utf8EncodeChar c)
    (low : byte.toNat < 0x80) : byte.toNat = c.toNat := by
  -- every byte of a longer form has its highest bit set
  have high (n : Nat) (large : 0x80 ≤ n) (small : n < 0x100) (same : byte = UInt8.ofNat n) :
      byte.toNat = c.toNat := by
    rw [same, UInt8.toNat_ofNat', Nat.mod_eq_of_lt small] at low
    exact absurd low (Nat.not_lt.mpr large)
  simp only [String.utf8EncodeChar] at member
  split at member
  next single =>
    rw [List.mem_singleton.mp member, UInt8.toNat_ofNat', Nat.mod_eq_of_lt (by omega)]
    rfl
  · repeat' split at member
    all_goals
      simp only [List.mem_cons, List.not_mem_nil, or_false] at member
      rcases member with same | member
      · exact high _ (by omega) (by omega) same
    · exact high _ (by omega) (by omega) member
    · rcases member with same | same
      · exact high _ (by omega) (by omega) same
      · exact high _ (by omega) (by omega) same
    · rcases member with same | same | same
      · exact high _ (by omega) (by omega) same
      · exact high _ (by omega) (by omega) same
      · exact high _ (by omega) (by omega) same

end Utf8

/-- The byte of a slash. -/
def slash : UInt8 := 0x2F

theorem slash_mem_encode_iff (text : List Char) : slash ∈ Utf8.encode text ↔ '/' ∈ text := by
  rw [Utf8.encode, List.mem_flatMap]
  constructor
  · rintro ⟨c, member, byte⟩
    have code : slash.toNat = c.toNat := Utf8.toNat_of_mem byte (by decide)
    have same : c = '/' := Char.toNat_inj.mp code.symm
    exact same ▸ member
  · intro member
    exact ⟨'/', member, by decide⟩

/-- The text between two offsets in bytes, if both lie between characters. -/
def slice? (text : String) (start stop : Nat) : Option String :=
  if valid : String.Pos.Raw.IsValid text ⟨start⟩ ∧ String.Pos.Raw.IsValid text ⟨stop⟩ ∧ start ≤ stop then
    some (text.extract ⟨_, valid.1⟩ ⟨_, valid.2.1⟩)
  else none

theorem slice?_middle (front piece back : String) :
    slice? (front ++ piece ++ back) front.utf8ByteSize (front ++ piece).utf8ByteSize = some piece := by
  have first : String.Pos.Raw.IsValid (front ++ piece ++ back) ⟨front.utf8ByteSize⟩ :=
    String.Pos.Raw.isValid_iff_exists_append.mpr ⟨front, piece ++ back, String.append_assoc, rfl⟩
  have last : String.Pos.Raw.IsValid (front ++ piece ++ back) ⟨(front ++ piece).utf8ByteSize⟩ :=
    String.Pos.Raw.isValid_iff_exists_append.mpr ⟨front ++ piece, back, rfl, rfl⟩
  have order : front.utf8ByteSize ≤ (front ++ piece).utf8ByteSize := by
    rw [String.utf8ByteSize_append]
    exact Nat.le_add_right _ _
  have bytes : (front ++ piece ++ back).toByteArray.extract front.utf8ByteSize
      (front ++ piece).utf8ByteSize = piece.toByteArray := by
    rw [String.toByteArray_append, String.toByteArray_append, ByteArray.append_assoc,
      String.utf8ByteSize_append, ← String.size_toByteArray, ← String.size_toByteArray]
    exact (@ByteArray.extract_append_size_add _ _ 0 _).trans (ByteArray.extract_append_eq_left rfl)
  rw [slice?, dif_pos ⟨first, last, order⟩]
  exact congrArg some (String.toByteArray_inj.mp bytes)

/-! ### The scan -/

/-- A span, unless it is empty. -/
def span (start stop : Nat) : List (Nat × Nat) := if start < stop then [(start, stop)] else []

theorem mem_span_iff {start stop first last : Nat} :
    (first, last) ∈ span start stop ↔ start < stop ∧ first = start ∧ last = stop := by
  rw [span]
  split
  next filled => simp [filled]
  next empty => simp [empty]

/-- The spans between slashes, found byte by byte: `start` is where the piece begins that is being read,
and `here` is the position of the next byte. -/
def spansFrom (start here : Nat) : List UInt8 → List (Nat × Nat)
  | [] => span start here
  | byte :: rest =>
    if byte = slash then span start here ++ spansFrom (here + 1) (here + 1) rest
    else spansFrom start (here + 1) rest

def spans (path : String) : List (Nat × Nat) := spansFrom 0 0 (Utf8.encode path.toList)

theorem spansFrom_plain {front : List UInt8} (plain : slash ∉ front) (start here : Nat)
    (rest : List UInt8) :
    spansFrom start here (front ++ rest) = spansFrom start (here + front.length) rest := by
  induction front generalizing here with
  | nil => rfl
  | cons byte more ih =>
    rw [List.mem_cons, not_or] at plain
    rw [List.cons_append, spansFrom, if_neg (Ne.symm plain.1), ih plain.2, List.length_cons,
      Nat.add_right_comm]
    rfl

theorem spansFrom_start {start here : Nat} (behind : start ≤ here) (bytes : List UInt8) :
    ∀ span ∈ spansFrom start here bytes, start ≤ span.1 := by
  induction bytes generalizing start here with
  | nil =>
    rintro ⟨first, last⟩ member
    exact Nat.le_of_eq (mem_span_iff.mp member).2.1.symm
  | cons byte rest ih =>
    rw [spansFrom]
    split
    · rintro ⟨first, last⟩ member
      rcases List.mem_append.mp member with here | later
      · exact Nat.le_of_eq (mem_span_iff.mp here).2.1.symm
      · have := ih (Nat.le_refl _) _ later
        omega
    · exact ih (Nat.le_succ_of_le behind)

theorem span_ordered (start stop : Nat) :
    (span start stop).Pairwise fun early late => early.2 < late.1 := by
  rw [span]
  split
  · exact List.pairwise_singleton _ _
  · exact .nil

/-- Spans are found from left to right, and there is something between two of them. -/
theorem spansFrom_ordered (start here : Nat) (bytes : List UInt8) :
    (spansFrom start here bytes).Pairwise fun early late => early.2 < late.1 := by
  induction bytes generalizing start here with
  | nil => exact span_ordered start here
  | cons byte rest ih =>
    rw [spansFrom]
    split
    · refine List.pairwise_append.mpr ⟨span_ordered start here, ih _ _, ?_⟩
      rintro ⟨first, last⟩ early late member
      rw [(mem_span_iff.mp early).2.2]
      exact spansFrom_start (Nat.le_refl (here + 1)) rest late member
    · exact ih _ _

/-! ### Slices -/

theorem components_plain {piece : List Char} (plain : '/' ∉ piece) :
    components piece = [piece].filter fun piece => !piece.isEmpty := by
  rw [components, pieces_whole]
  intro c member
  exact beq_eq_false_iff_ne.mpr (ne_of_mem_of_not_mem member plain)

theorem span_slice (front piece back : List Char) :
    (span (Utf8.encode front).length (Utf8.encode (front ++ piece)).length).mapM
        (fun span => slice? (String.ofList (front ++ piece ++ back)) span.1 span.2)
      = some (([piece].filter fun piece => !piece.isEmpty).map String.ofList) := by
  cases piece with
  | nil => simp [span]
  | cons c rest =>
    have written : Utf8.encode (c :: rest) ≠ [] := fun none => by cases Utf8.encode_eq_nil none
    have order : (Utf8.encode front).length < (Utf8.encode (front ++ c :: rest)).length := by
      rw [Utf8.encode_append, List.length_append]
      exact Nat.lt_add_of_pos_right (List.length_pos_iff.mpr written)
    have slice := slice?_middle (String.ofList front) (String.ofList (c :: rest)) (String.ofList back)
    rw [← String.ofList_append, ← String.ofList_append, ← Utf8.length_encode,
      ← Utf8.length_encode] at slice
    rw [span, if_pos order, List.mapM_cons, slice]
    rfl

/-- From behind `front` and `opened`, of which `opened` belongs to the piece that is being read, the scan
finds the components that are left. -/
theorem spansFrom_slices (front opened : List Char) (plain : '/' ∉ opened)
    (rest : List Char) :
    (spansFrom (Utf8.encode front).length (Utf8.encode (front ++ opened)).length
        (Utf8.encode rest)).mapM
        (fun span => slice? (String.ofList (front ++ opened ++ rest)) span.1 span.2)
      = some ((components (opened ++ rest)).map String.ofList) := by
  induction rest generalizing front opened with
  | nil =>
    rw [List.append_nil opened, components_plain plain]
    exact span_slice front opened []
  | cons c rest ih =>
    have bytes : Utf8.encode (c :: rest) = Utf8.encode [c] ++ Utf8.encode rest :=
      Utf8.encode_append [c] rest
    by_cases separator : c = '/'
    · subst separator
      -- behind the slash the scan is as if nothing had been opened
      have later := ih (front ++ opened ++ ['/']) [] (by simp)
      have length : (Utf8.encode (front ++ opened ++ ['/'])).length
          = (Utf8.encode (front ++ opened)).length + 1 := by
        rw [Utf8.encode_append, List.length_append]
        rfl
      rw [List.append_nil, length, List.append_assoc, List.singleton_append, List.nil_append]
        at later
      change (spansFrom _ _ (slash :: Utf8.encode rest)).mapM _ = _
      rw [spansFrom, if_pos rfl, List.mapM_append, span_slice, later, components_slash,
        components_plain plain, List.map_append]
      rfl
    · have own : slash ∉ Utf8.encode [c] := by
        rw [slash_mem_encode_iff]
        simp [Ne.symm separator]
      have later := ih front (opened ++ [c]) (by simp [plain, Ne.symm separator])
      rw [bytes, spansFrom_plain own, ← List.length_append, ← Utf8.encode_append]
      simpa using later

/-! ### Stretches -/

/-- A stretch of bytes without a slash that is not empty and cannot be extended. -/
structure Stretch (bytes : List UInt8) (start stop : Nat) : Prop where
  filled : start < stop
  inside : stop ≤ bytes.length
  plain : ∀ index : Nat, start ≤ index → index < stop → bytes[index]? ≠ some slash
  before : start = 0 ∨ bytes[start - 1]? = some slash
  behind : stop = bytes.length ∨ bytes[stop]? = some slash

/-- Where a scan stands: behind `front`, which is empty or ends with a slash, and behind `opened`, which
belongs to the piece that is being read. -/
structure Scanned (bytes front opened rest : List UInt8) : Prop where
  split : bytes = front ++ opened ++ rest
  edge : front.length = 0 ∨ bytes[front.length - 1]? = some slash
  plain : slash ∉ opened

namespace Scanned

variable {bytes front opened rest : List UInt8} {start stop : Nat}

theorem inner (scanned : Scanned bytes front opened rest) {index : Nat} (late : front.length ≤ index)
    (early : index < (front ++ opened).length) : bytes[index]? ≠ some slash := by
  rw [scanned.split, List.getElem?_append_left early, List.getElem?_append_right late]
  intro found
  exact scanned.plain (List.mem_of_getElem? found)

theorem next (scanned : Scanned bytes front opened (slash :: rest)) :
    bytes[(front ++ opened).length]? = some slash := by
  rw [scanned.split, List.getElem?_append_right (Nat.le_refl _), Nat.sub_self]
  rfl

/-- A stretch that is still to be found begins where the piece does, or behind what has been read. -/
theorem stretch_start (scanned : Scanned bytes front opened rest)
    (stretch : Stretch bytes start stop) (late : front.length ≤ start) :
    start = front.length ∨ (front ++ opened).length < start := by
  rcases stretch.before with zero | slashed
  · exact .inl (by omega)
  · by_contra between
    exact scanned.inner (by omega) (by omega) slashed

theorem stretch_stop (scanned : Scanned bytes front opened rest)
    (stretch : Stretch bytes front.length stop) : (front ++ opened).length ≤ stop := by
  rcases stretch.behind with whole | slashed
  · rw [whole, scanned.split]
    simp
  · by_contra early
    exact scanned.inner (Nat.le_of_lt stretch.filled) (Nat.lt_of_not_le early) slashed

/-- Where the piece ends, it is a stretch unless it is empty. -/
theorem mem_span_iff (scanned : Scanned bytes front opened rest)
    (ends : (front ++ opened).length = bytes.length ∨
      bytes[(front ++ opened).length]? = some slash) :
    (start, stop) ∈ span front.length (front ++ opened).length
      ↔ start = front.length ∧ Stretch bytes start stop := by
  rw [Text.mem_span_iff]
  constructor
  · rintro ⟨filled, rfl, rfl⟩
    have inside : (front ++ opened).length ≤ bytes.length := by
      rw [scanned.split]
      simp
    exact ⟨rfl, filled, inside, fun index late early => scanned.inner late early, scanned.edge, ends⟩
  · rintro ⟨rfl, stretch⟩
    have reach := scanned.stretch_stop stretch
    have filled := stretch.filled
    have last : stop = (front ++ opened).length := by
      rcases ends with whole | slashed
      · exact Nat.le_antisymm (whole ▸ stretch.inside) reach
      · by_contra beyond
        exact stretch.plain _ (by simp) (by omega) slashed
    exact ⟨last ▸ filled, rfl, last⟩

/-- The scan finds the stretches that begin with the piece that is being read, or behind it. -/
theorem mem_spansFrom_iff (scanned : Scanned bytes front opened rest) :
    (start, stop) ∈ spansFrom front.length (front ++ opened).length rest ↔
      front.length ≤ start ∧ Stretch bytes start stop := by
  -- The induction is on what is still to be read; `opened` is what has been read of the span that
  -- is open.
  induction rest generalizing front opened with
  | nil =>
    have length : (front ++ opened).length = bytes.length := by
      rw [scanned.split, List.append_nil]
    rw [spansFrom, scanned.mem_span_iff (.inl length)]
    constructor
    · rintro ⟨rfl, stretch⟩
      exact ⟨Nat.le_refl _, stretch⟩
    · rintro ⟨late, stretch⟩
      have filled := stretch.filled
      have inside := stretch.inside
      exact ⟨(scanned.stretch_start stretch late).resolve_right (by omega), stretch⟩
  | cons byte rest ih =>
    rw [spansFrom]
    split
    next separator =>
      subst separator
      have slashed := scanned.next
      have behind : Scanned bytes (front ++ opened ++ [slash]) [] rest :=
        ⟨by simp [scanned.split], .inr (by simpa using slashed), by simp⟩
      have later := ih behind
      rw [List.append_nil, List.length_append, List.length_singleton] at later
      rw [List.mem_append, scanned.mem_span_iff (.inr slashed), later]
      constructor
      · rintro (⟨rfl, stretch⟩ | ⟨late, stretch⟩)
        · exact ⟨Nat.le_refl _, stretch⟩
        · rw [List.length_append] at late
          exact ⟨by omega, stretch⟩
      · rintro ⟨late, stretch⟩
        rcases scanned.stretch_start stretch late with begins | beyond
        · exact .inl ⟨begins, stretch⟩
        · exact .inr ⟨beyond, stretch⟩
    next other =>
      have longer : Scanned bytes front (opened ++ [byte]) rest :=
        ⟨by simp [scanned.split], scanned.edge, by simp [scanned.plain, Ne.symm other]⟩
      have later := ih longer
      rwa [← List.append_assoc, @List.length_append _ _ [byte]] at later

end Scanned

/-! ### Joining -/

/-- A path of texts: the texts in their order with slashes around them, at least one between two of
them. -/
inductive Joined : List String → List Char → Prop
  | nil : Joined [] []
  | slash {texts : List String} {path : List Char} (rest : Joined texts path) :
    Joined texts ('/' :: path)
  | text {text : String} {texts : List String} {path : List Char} (filled : text ≠ "")
    (plain : '/' ∉ text.toList) (apart : ∀ c ∈ path.head?, c = '/') (rest : Joined texts path) :
    Joined (text :: texts) (text.toList ++ path)

theorem components_text {piece rest : List Char} (filled : piece ≠ []) (plain : '/' ∉ piece)
    (apart : ∀ c ∈ rest.head?, c = '/') : components (piece ++ rest) = piece :: components rest := by
  have own : components piece = [piece] := by
    rw [components_plain plain, List.filter_cons_of_pos (by simpa using filled), List.filter_nil]
  cases rest with
  | nil => rw [List.append_nil, own]; rfl
  | cons c more =>
    obtain rfl : c = '/' := apart c rfl
    have behind : components ('/' :: more) = components more := components_slash [] more
    rw [components_slash, own, behind]
    rfl

theorem components_joined {texts : List String} {path : List Char} (joined : Joined texts path) :
    (components path).map String.ofList = texts := by
  induction joined with
  | nil => rfl
  | @slash texts path _ ih => rwa [← List.nil_append ('/' :: path), components_slash]
  | @text text texts path filled plain apart rest ih =>
    rw [components_text (by simpa using filled) plain apart, List.map_cons, ih, String.ofList_toList]

/-- Every path is put together from its components. -/
theorem joined_components (path : List Char) :
    Joined ((components path).map String.ofList) path := by
  induction length : path.length using Nat.strongRecOn generalizing path with
  | ind length ih =>
    subst length
    cases path with
    | nil => exact .nil
    | cons c rest =>
      by_cases separator : c = '/'
      · subst separator
        have behind : components ('/' :: rest) = components rest := components_slash [] rest
        rw [behind]
        exact .slash (ih rest.length (by simp) rest rfl)
      · -- the first component goes up to the next slash
        let piece := c :: rest.takeWhile (· ≠ '/')
        let others := rest.dropWhile (· ≠ '/')
        have split : c :: rest = piece ++ others :=
          congrArg (c :: ·) (List.takeWhile_append_dropWhile).symm
        have plain : '/' ∉ piece := by
          rw [List.mem_cons, not_or]
          exact ⟨Ne.symm separator, fun member => by simpa using List.mem_takeWhile_imp member⟩
        have apart : ∀ c ∈ others.head?, c = '/' := by
          intro c first
          have stops := List.head?_dropWhile_not (fun c => decide (c ≠ '/')) rest
          rw [Option.mem_def.mp first] at stops
          simpa using stops
        have shorter : others.length < (c :: rest).length :=
          Nat.lt_succ_of_le (List.dropWhile_suffix _).length_le
        have filled : String.ofList piece ≠ "" := by simp [piece]
        have joined := Joined.text filled (by simpa using plain) apart (ih _ shorter others rfl)
        rw [split, components_text (by simp [piece]) plain apart, List.map_cons]
        simpa using joined

/-- The segments of a path are the texts that it is put together from. -/
theorem segments_eq_iff_joined {path : String} {texts : List String} :
    segments path = texts ↔ Joined texts path.toList := by
  constructor
  · rintro rfl
    exact joined_components path.toList
  · exact components_joined

/-- The segments of a path are the slices at the offsets that a scan over its bytes notes, which are those
of its longest stretches without a slash, in order. The offsets lie between characters. The same comes of
cutting the path at every slash and leaving out what is empty. A path has the same segments exactly if it
consists of them and of slashes, and a slash between two paths puts their segments one behind the other. -/
theorem segments_stretches (path : String) :
    (spans path).mapM (fun span => slice? path span.1 span.2) = some (segments path) ∧
    (∀ start stop,
      (start, stop) ∈ spans path ↔ Stretch (Utf8.encode path.toList) start stop) ∧
    (spans path).Pairwise (fun early late => early.2 < late.1) ∧
    segments path = parts '/' path ∧
    (∀ other, segments other = segments path ↔ Joined (segments path) other.toList) ∧
    ∀ rest, segments (path ++ "/" ++ rest) = segments path ++ segments rest := by
  refine ⟨?_, ?_, spansFrom_ordered _ _ _, segments_eq path, fun _ => segments_eq_iff_joined, ?_⟩
  · have slices := spansFrom_slices [] [] (by simp) path.toList
    rw [List.append_nil, List.nil_append, String.ofList_toList] at slices
    exact slices
  · intro start stop
    have begun : Scanned (Utf8.encode path.toList) [] [] (Utf8.encode path.toList) :=
      ⟨rfl, .inl rfl, by simp⟩
    have found : (start, stop) ∈ spans path ↔ 0 ≤ start ∧ Stretch _ start stop :=
      begun.mem_spansFrom_iff
    rwa [and_iff_right (Nat.zero_le start)] at found
  · intro rest
    have cut := components_slash path.toList rest.toList
    simpa [segments, components, String.toList_append] using congrArg (List.map String.ofList) cut

example : spans "/é//b" = [(1, 3), (5, 6)] := by decide

end Signpost.Text
