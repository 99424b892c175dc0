import Mathlib.Data.List.Basic
import Mathlib.Algebra.Order.Ring.Int

/-!
# Framed bytes

Numbers of a fixed width and texts behind their length. A sequence of framed parts
can be read off its bytes, so that two sequences with the same bytes are one.
-/

namespace GraphHelm

abbrev Bytes := List UInt8

def newline : UInt8 := 10

/-!
## Numbers
-/

/-- A number in `width` bytes, the highest first. -/
def bigEndian : Nat -> Nat -> List UInt8
  | 0, _ => []
  | width + 1, value => bigEndian width (value / 256) ++ [UInt8.ofNat value]

@[simp] theorem bigEndian_length (width value : Nat) : (bigEndian width value).length = width := by
  induction width generalizing value with
  | zero => rfl
  | succ width ih =>
      rw [bigEndian, List.length_append, ih]
      rfl

theorem uint8_ofNat_eq {a b : Nat} (h : UInt8.ofNat a = UInt8.ofNat b) : a % 256 = b % 256 := by
  have hnat := congrArg UInt8.toNat h
  simpa using hnat

/-- A number that fits is told by its bytes. -/
theorem bigEndian_injective {width a b : Nat} (ha : a < 256 ^ width) (hb : b < 256 ^ width)
    (h : bigEndian width a = bigEndian width b) : a = b := by
  induction width generalizing a b with
  | zero =>
      rw [Nat.pow_zero] at ha hb
      omega
  | succ width ih =>
      rcases List.append_inj' h rfl with ⟨hhigh, hlow⟩
      have hmod : a % 256 = b % 256 := uint8_ofNat_eq (List.singleton_inj.mp hlow)
      have hdiv : a / 256 = b / 256 := by
        apply ih
        · rw [Nat.pow_succ] at ha
          exact Nat.div_lt_of_lt_mul (by omega)
        · rw [Nat.pow_succ] at hb
          exact Nat.div_lt_of_lt_mul (by omega)
        · exact hhigh
      omega

/-- A number in front of other bytes is read off them. -/
theorem bigEndian_append {width a b : Nat} {x y : List UInt8} (ha : a < 256 ^ width)
    (hb : b < 256 ^ width) (h : bigEndian width a ++ x = bigEndian width b ++ y) :
    a = b ∧ x = y := by
  rcases List.append_inj h (by simp) with ⟨hnumber, hrest⟩
  exact And.intro (bigEndian_injective ha hb hnumber) hrest

/-!
## Framed parts
-/

/-- Bytes behind their number, which takes four bytes itself. -/
def framed (bytes : List UInt8) : List UInt8 :=
  bigEndian 4 bytes.length ++ bytes

def Frames (bytes : List UInt8) : Prop :=
  bytes.length < 256 ^ 4

theorem framed_append {a b x y : List UInt8} (ha : Frames a) (hb : Frames b)
    (h : framed a ++ x = framed b ++ y) : a = b ∧ x = y := by
  unfold framed at h
  rw [List.append_assoc, List.append_assoc] at h
  rcases bigEndian_append ha hb h with ⟨hlength, hrest⟩
  exact List.append_inj hrest hlength

theorem framed_injective {a b : List UInt8} (ha : Frames a) (hb : Frames b)
    (h : framed a = framed b) : a = b := by
  apply (framed_append ha hb (x := []) (y := []) ?_).left
  rw [h]

theorem length_framed (bytes : List UInt8) : (framed bytes).length = 4 + bytes.length := by
  unfold framed
  rw [List.length_append, bigEndian_length]

/-- Parts one behind another are read off their bytes, however many there are. -/
theorem flatMap_framed_injective {xs ys : List (List UInt8)} (hx : forall x, x ∈ xs -> Frames x)
    (hy : forall y, y ∈ ys -> Frames y) (h : xs.flatMap framed = ys.flatMap framed) : xs = ys := by
  induction xs generalizing ys with
  | nil =>
      cases ys with
      | nil => rfl
      | cons y rest =>
          have hlength := congrArg List.length h
          rw [List.flatMap_nil, List.flatMap_cons, List.length_append, length_framed] at hlength
          simp at hlength
          omega
  | cons x rest ih =>
      cases ys with
      | nil =>
          have hlength := congrArg List.length h
          rw [List.flatMap_nil, List.flatMap_cons, List.length_append, length_framed] at hlength
          simp at hlength
      | cons y later =>
          rw [List.flatMap_cons, List.flatMap_cons] at h
          rcases framed_append (hx x List.mem_cons_self) (hy y List.mem_cons_self) h with
            ⟨heq, hrest⟩
          rw [heq, ih (fun z hz => hx z (List.mem_cons_of_mem x hz))
            (fun z hz => hy z (List.mem_cons_of_mem y hz)) hrest]

/-!
## Texts
-/

def utf8 (text : String) : List UInt8 :=
  text.toList.flatMap String.utf8EncodeChar

theorem utf8_injective {a b : String} (h : utf8 a = utf8 b) : a = b := by
  have hencoded : a.toList.utf8Encode = b.toList.utf8Encode := by
    unfold List.utf8Encode
    exact congrArg List.toByteArray h
  apply String.toByteArray_inj.mp
  rw [← String.utf8Encode_toList, ← String.utf8Encode_toList, hencoded]

theorem length_utf8 (text : String) : (utf8 text).length = text.utf8ByteSize := by
  have hencoded : text.toList.utf8Encode.size = (utf8 text).length := by
    unfold List.utf8Encode
    exact List.size_toByteArray
  rw [← hencoded, String.utf8Encode_toList, String.size_toByteArray]

/-- `std::str::from_utf8` accepts the bytes. -/
def validUtf8 (bytes : Bytes) : Bool :=
  bytes.toByteArray.validateUTF8

theorem validUtf8_utf8 (text : String) : validUtf8 (utf8 text) = true := by
  apply ByteArray.validateUTF8_eq_true_iff.mpr
  exact ⟨text.toList, rfl⟩

/-!
## Hexadecimal
-/

def hexDigits (byte : UInt8) : List Char :=
  [Nat.digitChar (byte.toNat / 16), Nat.digitChar (byte.toNat % 16)]

/-- `hex::encode`. -/
def hexEncode (bytes : Bytes) : String :=
  String.ofList (bytes.flatMap hexDigits)

def hexValue (c : Char) : Option Nat :=
  if '0' <= c ∧ c <= '9' then some (c.toNat - 48)
  else if 'a' <= c ∧ c <= 'f' then some (c.toNat - 87)
  else if 'A' <= c ∧ c <= 'F' then some (c.toNat - 55)
  else none

def hexDecodeChars : List Char -> Option Bytes
  | [] => some []
  | [_] => none
  | high :: low :: rest => do
      let high <- hexValue high
      let low <- hexValue low
      let bytes <- hexDecodeChars rest
      some (UInt8.ofNat (high * 16 + low) :: bytes)

/-- `hex::decode`. -/
def hexDecode (text : String) : Option Bytes :=
  hexDecodeChars text.toList

theorem hexValue_digitChar :
    forall value, value < 16 -> hexValue (Nat.digitChar value) = some value := by
  decide

theorem hexDecodeChars_hexDigits (bytes : Bytes) :
    hexDecodeChars (bytes.flatMap hexDigits) = some bytes := by
  induction bytes with
  | nil =>
      rfl
  | cons byte rest ih =>
      have hbyte : byte.toNat < 256 := byte.toNat_lt
      change hexDecodeChars (Nat.digitChar (byte.toNat / 16) :: Nat.digitChar (byte.toNat % 16) ::
        rest.flatMap hexDigits) = _
      unfold hexDecodeChars
      rw [hexValue_digitChar _ (by omega), hexValue_digitChar _ (by omega), ih]
      change some (UInt8.ofNat (byte.toNat / 16 * 16 + byte.toNat % 16) :: rest) = _
      rw [Nat.div_add_mod', UInt8.ofNat_toNat]

@[simp] theorem hexDecode_hexEncode (bytes : Bytes) : hexDecode (hexEncode bytes) = some bytes := by
  unfold hexDecode hexEncode
  rw [String.toList_ofList]
  exact hexDecodeChars_hexDigits bytes

theorem length_hexEncode (bytes : Bytes) : (hexEncode bytes).toList.length = 2 * bytes.length := by
  unfold hexEncode
  rw [String.toList_ofList]
  induction bytes with
  | nil =>
      rfl
  | cons byte rest ih =>
      rw [List.flatMap_cons, List.length_append, ih, List.length_cons]
      change 2 + 2 * rest.length = 2 * (rest.length + 1)
      omega

theorem digitChar_graphic :
    forall value, value < 16 ->
      32 <= (Nat.digitChar value).toNat ∧ (Nat.digitChar value).toNat < 128 := by
  decide

theorem mem_hexEncode {bytes : Bytes} {c : Char} (h : c ∈ (hexEncode bytes).toList) :
    32 <= c.toNat ∧ c.toNat < 128 := by
  unfold hexEncode at h
  rw [String.toList_ofList] at h
  rcases List.mem_flatMap.mp h with ⟨byte, _, hmem⟩
  have hbyte : byte.toNat < 256 := byte.toNat_lt
  rcases List.mem_cons.mp hmem with heq | hmem
  · rw [heq]
    exact digitChar_graphic _ (by omega)
  · rw [List.mem_singleton.mp hmem]
    exact digitChar_graphic _ (by omega)

end GraphHelm
