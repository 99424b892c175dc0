import GraphHelm.Library.Framing
import Mathlib.Tactic.IntervalCases

/-!
# Base64 for URLs, without padding

Three bytes are four digits of six bits; one byte left over is two digits and two are three,
whose unused bits are zero.
-/

namespace GraphHelm
namespace Base64Url

def alphabet : List Char :=
  "ABCDEFGHIJKLMNOPQRSTUVWXYZabcdefghijklmnopqrstuvwxyz0123456789-_".toList

def digit (sextet : UInt8) : Char := alphabet.getD sextet.toNat 'A'

def readDigit (c : Char) : Option UInt8 :=
  if 'A' <= c ∧ c <= 'Z' then some (UInt8.ofNat (c.toNat - 65))
  else if 'a' <= c ∧ c <= 'z' then some (UInt8.ofNat (c.toNat - 97 + 26))
  else if '0' <= c ∧ c <= '9' then some (UInt8.ofNat (c.toNat - 48 + 52))
  else if c = '-' then some 62
  else if c = '_' then some 63
  else none

/-!
## Encoding
-/

def secondSextet (first second : UInt8) : UInt8 :=
  ((first &&& 0x03) <<< 4) ||| (second >>> 4)

def thirdSextet (second third : UInt8) : UInt8 :=
  ((second &&& 0x0f) <<< 2) ||| (third >>> 6)

/-- The digits of one byte and the two that may follow it. -/
def chunkSextets (first : UInt8) (second third : Option UInt8) : List UInt8 :=
  [first >>> 2, secondSextet first (second.getD 0)] ++
    (second.toList.map fun second => thirdSextet second (third.getD 0)) ++
    third.toList.map fun third => third &&& 0x3f

def sextets : Bytes -> List UInt8
  | [] => []
  | [first] => chunkSextets first none none
  | [first, second] => chunkSextets first (some second) none
  | first :: second :: third :: rest =>
      chunkSextets first (some second) (some third) ++ sextets rest

def encode (bytes : Bytes) : List Char := (sextets bytes).map digit

/-!
## Decoding
-/

def bytesOf : List UInt8 -> Bytes
  | first :: second :: third :: fourth :: rest =>
      ((first <<< 2) ||| (second >>> 4)) :: ((second <<< 4) ||| (third >>> 2)) ::
        ((third <<< 6) ||| fourth) :: bytesOf rest
  | [first, second, third] => [(first <<< 2) ||| (second >>> 4), (second <<< 4) ||| (third >>> 2)]
  | [first, second] => [(first <<< 2) ||| (second >>> 4)]
  | _ => []

/-- The bits of the last digit that stand for nothing. -/
def unusedBits (read : List UInt8) : UInt8 :=
  match read.length % 4 with
  | 2 => read.getLastD 0 &&& 0x0f
  | 3 => read.getLastD 0 &&& 0x03
  | _ => 0

def bytesOfSextets (read : List UInt8) : Option Bytes :=
  if read.length % 4 = 1 || unusedBits read != 0 then none else some (bytesOf read)

def decode (text : List Char) : Option Bytes :=
  (text.mapM readDigit).bind bytesOfSextets

/-!
## What was encoded is decoded
-/

variable {sextet : UInt8}

theorem readDigit_digit (h : sextet.toNat < 64) :
    readDigit (digit sextet) = some sextet := by
  have hall : forall value : Fin 64,
      readDigit (digit (UInt8.ofNat value)) = some (UInt8.ofNat value) := by decide +kernel
  have hone := hall ⟨sextet.toNat, h⟩
  rw [show UInt8.ofNat sextet.toNat = sextet from UInt8.ofNat_toNat] at hone
  exact hone

section Bits

theorem eq_of_bits {a b : UInt8}
    (h : forall i, i < 8 -> a.toBitVec.getLsbD i = b.toBitVec.getLsbD i) : a = b :=
  UInt8.eq_of_toBitVec_eq (BitVec.eq_of_getLsbD_eq h)

variable (first second third : UInt8)

theorem first_byte : ((first >>> 2) <<< 2) ||| (secondSextet first second >>> 4) = first := by
  apply eq_of_bits
  intro i hi
  unfold secondSextet
  interval_cases i <;> simp

theorem second_byte :
    (secondSextet first second <<< 4) ||| (thirdSextet second third >>> 2) = second := by
  apply eq_of_bits
  intro i hi
  unfold secondSextet thirdSextet
  interval_cases i <;> simp

theorem third_byte : (thirdSextet second third <<< 6) ||| (third &&& 0x3f) = third := by
  apply eq_of_bits
  intro i hi
  unfold thirdSextet
  interval_cases i <;> simp

theorem secondSextet_unused : secondSextet first 0 &&& 0x0f = 0 := by
  apply eq_of_bits
  intro i hi
  unfold secondSextet
  interval_cases i <;> simp

theorem thirdSextet_unused : thirdSextet second 0 &&& 0x03 = 0 := by
  apply eq_of_bits
  intro i hi
  unfold thirdSextet
  interval_cases i <;> simp

theorem sextet_bits :
    (first >>> 2) &&& (0x3f : UInt8) = first >>> 2 ∧
      secondSextet first second &&& 0x3f = secondSextet first second ∧
      thirdSextet second third &&& 0x3f = thirdSextet second third ∧
      (third &&& 0x3f) &&& 0x3f = third &&& 0x3f := by
  unfold secondSextet thirdSextet
  refine ⟨?_, ?_, ?_, ?_⟩
  · apply eq_of_bits
    intro i hi
    interval_cases i <;> simp
  · apply eq_of_bits
    intro i hi
    interval_cases i <;> simp
  · apply eq_of_bits
    intro i hi
    interval_cases i <;> simp
  · apply eq_of_bits
    intro i hi
    interval_cases i <;> simp

end Bits

theorem toNat_lt_of_bits (h : sextet &&& 0x3f = sextet) :
    sextet.toNat < 64 := by
  rw [<- h, UInt8.toNat_and]
  exact Nat.lt_of_le_of_lt Nat.and_le_right (by decide)

theorem chunkSextets_lt {first : UInt8} {second third : Option UInt8}
    (h : sextet ∈ chunkSextets first second third) : sextet.toNat < 64 := by
  unfold chunkSextets at h
  simp only [List.mem_append, List.mem_cons, List.not_mem_nil, or_false, List.mem_map] at h
  rcases h with ((h | h) | ⟨value, _, h⟩) | ⟨value, _, h⟩
  · rw [h]
    exact toNat_lt_of_bits (sextet_bits first 0 0).left
  · rw [h]
    exact toNat_lt_of_bits (sextet_bits first (second.getD 0) 0).right.left
  · rw [<- h]
    exact toNat_lt_of_bits (sextet_bits 0 value (third.getD 0)).right.right.left
  · rw [<- h]
    exact toNat_lt_of_bits (sextet_bits 0 0 value).right.right.right

theorem sextets_lt {bytes : Bytes} (h : sextet ∈ sextets bytes) :
    sextet.toNat < 64 := by
  induction bytes using sextets.induct with
  | case1 => cases h
  | case2 first => exact chunkSextets_lt h
  | case3 first second => exact chunkSextets_lt h
  | case4 first second third rest ih =>
      rcases List.mem_append.mp h with h | h
      · exact chunkSextets_lt h
      · exact ih h

theorem length_sextets (bytes : Bytes) :
    (sextets bytes).length = (4 * bytes.length + 2) / 3 := by
  induction bytes using sextets.induct with
  | case1 => rfl
  | case2 first => simp [sextets, chunkSextets]
  | case3 first second => simp [sextets, chunkSextets]
  | case4 first second third rest ih =>
      rw [sextets, List.length_append, ih]
      simp only [chunkSextets, Option.toList_some, List.map_cons, List.map_nil, List.length_append,
        List.length_cons, List.length_nil]
      omega

theorem unusedBits_append {four read : List UInt8} (h : four.length = 4) :
    unusedBits (four ++ read) = unusedBits read := by
  have hlength : (four ++ read).length % 4 = read.length % 4 := by
    rw [List.length_append, h]
    omega
  unfold unusedBits
  rw [hlength]
  cases read with
  | nil => rfl
  | cons first rest =>
      have hlast : (four ++ first :: rest).getLastD 0 = (first :: rest).getLastD 0 := by
        simp [List.getLastD_eq_getLast?, List.getLast?_cons]
      rw [hlast]

theorem sextets_spec (bytes : Bytes) :
    bytesOf (sextets bytes) = bytes ∧ unusedBits (sextets bytes) = 0 := by
  induction bytes using sextets.induct with
  | case1 => exact And.intro rfl rfl
  | case2 first =>
      constructor
      · show [((first >>> 2) <<< 2) ||| (secondSextet first 0 >>> 4)] = [first]
        rw [first_byte]
      · exact secondSextet_unused first
  | case3 first second =>
      constructor
      · show [((first >>> 2) <<< 2) ||| (secondSextet first second >>> 4),
          (secondSextet first second <<< 4) ||| (thirdSextet second 0 >>> 2)] = [first, second]
        rw [first_byte, second_byte]
      · exact thirdSextet_unused second
  | case4 first second third rest ih =>
      constructor
      · show (((first >>> 2) <<< 2) ||| (secondSextet first second >>> 4)) ::
          ((secondSextet first second <<< 4) ||| (thirdSextet second third >>> 2)) ::
            ((thirdSextet second third <<< 6) ||| (third &&& 0x3f)) :: bytesOf (sextets rest) =
              first :: second :: third :: rest
        rw [first_byte, second_byte, third_byte, ih.left]
      · rw [sextets, unusedBits_append (by simp [chunkSextets]), ih.right]

theorem decode_encode (bytes : Bytes) : decode (encode bytes) = some bytes := by
  have hread : forall read : List UInt8, (forall sextet, sextet ∈ read -> sextet.toNat < 64) ->
      (read.map digit).mapM readDigit = some read := by
    intro read hsmall
    induction read with
    | nil => rfl
    | cons first rest ih =>
        rw [List.map_cons, List.mapM_cons, readDigit_digit (hsmall first List.mem_cons_self),
          ih fun sextet hmem => hsmall sextet (List.mem_cons_of_mem first hmem)]
        rfl
  rcases sextets_spec bytes with ⟨hbytes, hunused⟩
  have hlength : (sextets bytes).length % 4 ≠ 1 := by
    rw [length_sextets]
    omega
  unfold decode encode bytesOfSextets
  rw [hread _ fun sextet => sextets_lt, Option.bind_some, hunused, hbytes,
    if_neg (by simpa using hlength)]

theorem mem_alphabet {bytes : Bytes} {c : Char} (h : c ∈ encode bytes) : c ∈ alphabet := by
  rcases List.mem_map.mp h with ⟨sextet, hsextet, heq⟩
  have hlt : sextet.toNat < alphabet.length := sextets_lt hsextet
  rw [<- heq, digit, List.getD_eq_getElem?_getD, List.getElem?_eq_getElem hlt, Option.getD_some]
  exact List.getElem_mem hlt

theorem length_encode (bytes : Bytes) : (encode bytes).length = (4 * bytes.length + 2) / 3 := by
  rw [encode, List.length_map, length_sextets]

end Base64Url
end GraphHelm
