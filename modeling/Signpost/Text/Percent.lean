import Signpost.Text.Hex
import Signpost.Text.Utf8

/-!
# Percent coding

Letters, digits and `- . _ ~` of ASCII stand for themselves; every other byte of the UTF-8 form is
written as a percent sign and two hexadecimal digits. Reading accepts digits of either case and
leaves a percent sign alone that is not followed by two of them.
-/
namespace Signpost.Text.Percent

def unreserved (byte : UInt8) : Bool :=
  let n := byte.toNat
  (0x41 ≤ n && n ≤ 0x5A) || (0x61 ≤ n && n ≤ 0x7A) || (0x30 ≤ n && n ≤ 0x39)
    || n == 0x2D || n == 0x2E || n == 0x5F || n == 0x7E

def escapeByte (byte : UInt8) : List Char :=
  if unreserved byte then [Char.ofNat byte.toNat]
  else ['%', Hex.upper (byte.toNat / 16), Hex.upper (byte.toNat % 16)]

def encode (text : String) : String :=
  String.ofList ((Utf8.encode text.toList).flatMap escapeByte)

/-- An escaped byte leaves some text, and none of it ends a segment or a path. -/
theorem escapeByte_inner (byte : UInt8) :
    escapeByte byte ≠ [] ∧ ∀ c ∈ escapeByte byte, c ≠ '/' ∧ c ≠ '?' := by
  have all : (List.range 256).all (fun n =>
      !(escapeByte (UInt8.ofNat n)).isEmpty &&
        (escapeByte (UInt8.ofNat n)).all fun c => c != '/' && c != '?') = true := by decide +kernel
  have own := List.all_eq_true.mp all byte.toNat (List.mem_range.mpr byte.toNat_lt)
  simpa using own

theorem encode_inner (text : String) : ∀ c ∈ (encode text).toList, c ≠ '/' ∧ c ≠ '?' := by
  intro c member
  rw [encode, String.toList_ofList] at member
  obtain ⟨byte, -, inside⟩ := List.mem_flatMap.mp member
  exact (escapeByte_inner byte).2 c inside

theorem encode_ne_empty {text : String} (filled : text ≠ "") : encode text ≠ "" := by
  intro empty
  have none : (Utf8.encode text.toList).flatMap escapeByte = [] := by
    rw [encode, ← String.toList_eq_nil_iff, String.toList_ofList] at empty
    exact empty
  cases chars : text.toList with
  | nil => exact filled (String.toList_eq_nil_iff.mp chars)
  | cons first rest =>
    rw [chars, Utf8.encode, List.flatMap_eq_nil_iff] at none
    obtain ⟨byte, among⟩ := List.exists_mem_of_ne_nil _ (@String.utf8EncodeChar_ne_nil first)
    exact (escapeByte_inner byte).1
      (none byte (List.mem_flatMap.mpr ⟨first, List.mem_cons_self, among⟩))

/-- Replaces every percent sign that two hexadecimal digits follow. -/
def unescape : List UInt8 → List UInt8
  | [] => []
  | byte :: high :: low :: rest =>
    if byte = 0x25 then
      match Hex.value? high.toNat, Hex.value? low.toNat with
      | some h, some l => UInt8.ofNat (h * 16 + l) :: unescape rest
      | _, _ => byte :: unescape (high :: low :: rest)
    else byte :: unescape (high :: low :: rest)
  | byte :: rest => byte :: unescape rest

theorem unescape_eq_nil {bytes : List UInt8} (none : unescape bytes = []) : bytes = [] := by
  unfold unescape at none
  split at none
  · rfl
  · split at none
    · split at none <;> cases none
    · cases none
  · cases none

/-- The decoded text, or the text itself where the decoded bytes are not UTF-8. -/
def decode (text : String) : String :=
  match Utf8.decode? (unescape (Utf8.encode text.toList)) with
  | some decoded => String.ofList decoded
  | none => text

theorem decode_ne_empty {text : String} (filled : text ≠ "") : decode text ≠ "" := by
  rw [decode]
  split
  next decoded read =>
    intro empty
    rw [← String.toList_eq_nil_iff, String.toList_ofList] at empty
    rw [empty] at read
    have none := unescape_eq_nil (Utf8.decode?_eq_nil read)
    exact filled (String.toList_eq_nil_iff.mp (Utf8.encode_eq_nil none))
  next => exact filled

end Signpost.Text.Percent
