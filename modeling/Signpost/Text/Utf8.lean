/-!
# UTF-8

The decoder reads one byte at a time and keeps at most one unfinished character: the bits read so
far, how many bytes it still needs, and the range of the next one. A byte outside that range ends
the unfinished character as one error and is then read afresh, so each maximal ill-formed stretch
is reported once and nothing after it is lost.
-/
namespace Signpost.Text.Utf8

def encode (text : List Char) : List UInt8 := text.flatMap String.utf8EncodeChar

theorem encode_eq_nil {text : List Char} (none : encode text = []) : text = [] := by
  cases text with
  | nil => rfl
  | cons first rest =>
    rw [encode, List.flatMap_cons, List.append_eq_nil_iff] at none
    exact absurd none.1 String.utf8EncodeChar_ne_nil

/-- A character whose last `owed` bytes are still to come, the next one between `low` and `high`. -/
structure Unfinished where
  bits : Nat
  owed : Nat
  low : Nat
  high : Nat
  deriving DecidableEq, Repr

/-- What a byte that starts a character yields: the characters read (`none` for an error) and the
character it leaves unfinished. -/
def start (byte : Nat) : List (Option Char) × Option Unfinished :=
  if byte < 0x80 then ([some (Char.ofNat byte)], none)
  else if byte < 0xC2 then ([none], none)
  else if byte < 0xE0 then ([], some ⟨byte - 0xC0, 1, 0x80, 0xBF⟩)
  else if byte = 0xE0 then ([], some ⟨0, 2, 0xA0, 0xBF⟩)
  else if byte = 0xED then ([], some ⟨0xD, 2, 0x80, 0x9F⟩)
  else if byte < 0xF0 then ([], some ⟨byte - 0xE0, 2, 0x80, 0xBF⟩)
  else if byte = 0xF0 then ([], some ⟨0, 3, 0x90, 0xBF⟩)
  else if byte < 0xF4 then ([], some ⟨byte - 0xF0, 3, 0x80, 0xBF⟩)
  else if byte = 0xF4 then ([], some ⟨4, 3, 0x80, 0x8F⟩)
  else ([none], none)

def step (pending : Option Unfinished) (byte : Nat) : List (Option Char) × Option Unfinished :=
  match pending with
  | none => start byte
  | some u =>
    if u.low ≤ byte ∧ byte ≤ u.high then
      let bits := u.bits * 64 + byte % 64
      if u.owed ≤ 1 then ([some (Char.ofNat bits)], none)
      else ([], some ⟨bits, u.owed - 1, 0x80, 0xBF⟩)
    else
      let (read, next) := start byte
      (none :: read, next)

/-- The characters of a byte sequence, with `none` for every maximal ill-formed stretch. -/
def decodeFrom (pending : Option Unfinished) : List UInt8 → List (Option Char)
  | [] => if pending.isSome then [none] else []
  | byte :: rest =>
    let (read, next) := step pending byte.toNat
    read ++ decodeFrom next rest

theorem start_unfinished {byte : Nat} (silent : (start byte).1 = []) :
    (start byte).2.isSome = true := by
  revert silent
  rw [start]
  repeat' split
  all_goals simp

/-- A byte that yields nothing leaves a character unfinished. -/
theorem step_unfinished {pending : Option Unfinished} {byte : Nat}
    (silent : (step pending byte).1 = []) : (step pending byte).2.isSome = true := by
  cases pending with
  | none => exact start_unfinished silent
  | some u =>
    revert silent
    rw [step]
    dsimp only
    repeat' split
    all_goals simp

theorem decodeFrom_eq_nil {pending : Option Unfinished} {bytes : List UInt8}
    (none : decodeFrom pending bytes = []) : pending.isSome = false ∧ bytes = [] := by
  induction bytes generalizing pending with
  | nil =>
    rw [decodeFrom] at none
    split at none
    · cases none
    next finished => exact ⟨Bool.eq_false_iff.mpr finished, rfl⟩
  | cons byte rest ih =>
    have apart : (step pending byte.toNat).1 ++ decodeFrom (step pending byte.toNat).2 rest = [] :=
      none
    obtain ⟨silent, later⟩ := List.append_eq_nil_iff.mp apart
    -- the character that is left unfinished yields something later
    have unfinished := step_unfinished silent
    rw [(ih later).1] at unfinished
    cases unfinished

/-- The text, if the bytes are well formed. -/
def decode? (bytes : List UInt8) : Option (List Char) := (decodeFrom none bytes).mapM id

theorem decode?_eq_nil {bytes : List UInt8} (decoded : decode? bytes = some []) : bytes = [] := by
  rw [decode?] at decoded
  cases reads : decodeFrom none bytes with
  | nil => exact (decodeFrom_eq_nil reads).2
  | cons first rest =>
    rw [reads, List.mapM_cons] at decoded
    obtain ⟨_, -, later⟩ := Option.bind_eq_some_iff.mp decoded
    obtain ⟨_, -, only⟩ := Option.bind_eq_some_iff.mp later
    cases only

/-- The text with U+FFFD in place of every maximal ill-formed stretch. -/
def decodeLossy (bytes : List UInt8) : List Char :=
  (decodeFrom none bytes).map fun read => read.getD (Char.ofNat 0xFFFD)

end Signpost.Text.Utf8
