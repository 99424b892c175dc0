import GraphHelm.Library.FlatObjects

/-!
# Encodings that say where they end

An encoding is self-delimiting when what follows an encoded value cannot be taken
for a part of it. Pairs and counted lists of such values are self-delimiting
again. A text of any bytes is made so by its decimal length in front.
-/

namespace GraphHelm

section SelfDelimiting

variable {α β B : Type}

/-- What follows an encoded value is told apart from it. -/
def SelfDelimiting (encode : α -> List B) : Prop :=
  forall {a b : α} {x y : List B}, encode a ++ x = encode b ++ y -> a = b ∧ x = y

variable {encode : α -> List B} {other : β -> List B}

theorem SelfDelimiting.injective (h : SelfDelimiting encode) {a b : α}
    (heq : encode a = encode b) : a = b := by
  have hempty : encode a ++ [] = encode b ++ [] := by rw [heq]
  exact (h hempty).left

theorem SelfDelimiting.comp (h : SelfDelimiting encode) {f : β -> α}
    (hinjective : forall {b b' : β}, f b = f b' -> b = b') :
    SelfDelimiting fun b => encode (f b) := by
  intro b b' x y heq
  rcases h heq with ⟨hsame, hrest⟩
  exact And.intro (hinjective hsame) hrest

theorem SelfDelimiting.pair (h : SelfDelimiting encode) (hother : SelfDelimiting other) :
    SelfDelimiting fun pair : α × β => encode pair.1 ++ other pair.2 := by
  intro p q x y heq
  rw [List.append_assoc, List.append_assoc] at heq
  rcases h heq with ⟨hfirst, hlater⟩
  rcases hother hlater with ⟨hsecond, hrest⟩
  exact And.intro (Prod.ext hfirst hsecond) hrest

theorem SelfDelimiting.flatMap_append (h : SelfDelimiting encode) {as bs : List α}
    (hlength : as.length = bs.length) {x y : List B}
    (heq : as.flatMap encode ++ x = bs.flatMap encode ++ y) : as = bs ∧ x = y := by
  induction as generalizing bs with
  | nil =>
      rw [List.eq_nil_of_length_eq_zero hlength.symm] at heq ⊢
      exact And.intro rfl heq
  | cons a rest ih =>
      cases bs with
      | nil =>
          cases hlength
      | cons b later =>
          rw [List.flatMap_cons, List.flatMap_cons, List.append_assoc,
            List.append_assoc] at heq
          rcases h heq with ⟨hfirst, hlater⟩
          rcases ih (Nat.succ.inj hlength) hlater with ⟨hsame, hrest⟩
          exact And.intro (by rw [hfirst, hsame]) hrest

theorem SelfDelimiting.counted (h : SelfDelimiting encode) {count : Nat -> List B}
    (hcount : SelfDelimiting count) :
    SelfDelimiting fun as : List α => count as.length ++ as.flatMap encode := by
  intro as bs x y heq
  rw [List.append_assoc, List.append_assoc] at heq
  rcases hcount heq with ⟨hlength, hlater⟩
  exact h.flatMap_append hlength hlater

end SelfDelimiting

/-!
## Segments
-/

def decimal (value : Nat) : Bytes :=
  utf8 (toString value)

def colon : UInt8 := 58

/-- `<byte-len>:<value>`. -/
def segment (bytes : Bytes) : Bytes :=
  decimal bytes.length ++ colon :: bytes

theorem toList_toString (value : Nat) : (toString value).toList = Nat.toDigits 10 value := by
  rw [Nat.toString_eq_ofList_toDigits, String.toList_ofList]

theorem decimal_eq (value : Nat) :
    decimal value = (Nat.toDigits 10 value).map fun c => UInt8.ofNat c.toNat := by
  unfold decimal
  rw [utf8_of_graphic (by rw [toList_toString]; exact graphic_toDigits value), toList_toString]

theorem length_decimal (value : Nat) :
    (decimal value).length = (Nat.toDigits 10 value).length := by
  rw [decimal_eq, List.length_map]

theorem decimal_injective {a b : Nat} (h : decimal a = decimal b) : a = b := by
  have htext := congrArg String.toList (utf8_injective h)
  rw [toList_toString, toList_toString] at htext
  calc
    a = Nat.ofDigitChars 10 (Nat.toDigits 10 a) 0 := Nat.ofDigitChars_ten_toDigits.symm
    _ = Nat.ofDigitChars 10 (Nat.toDigits 10 b) 0 := by rw [htext]
    _ = b := Nat.ofDigitChars_ten_toDigits

theorem colon_not_mem_decimal (value : Nat) : colon ∉ decimal value := by
  rw [decimal_eq]
  intro hmem
  rcases List.mem_map.mp hmem with ⟨c, hc, hbyte⟩
  have hdigit := isDigit_toDigits value c hc
  unfold Char.isDigit at hdigit
  simp only [ge_iff_le, Bool.and_eq_true, decide_eq_true_eq] at hdigit
  have hhigh : c.toNat <= 57 := hdigit.right
  have hnat := congrArg UInt8.toNat hbyte
  rw [UInt8.toNat_ofNat'] at hnat
  have hcolon : colon.toNat = 58 := rfl
  omega

/-- What stands in front of the first `mark` is told apart from what follows it. -/
theorem append_cons_inj {α : Type} {mark : α} {a b x y : List α} (ha : mark ∉ a) (hb : mark ∉ b)
    (h : a ++ mark :: x = b ++ mark :: y) : a = b ∧ x = y := by
  induction a generalizing b with
  | nil =>
      cases b with
      | nil =>
          exact And.intro rfl (List.cons.inj h).right
      | cons c later =>
          exact absurd ((List.cons.inj h).left ▸ List.mem_cons_self) hb
  | cons c rest ih =>
      cases b with
      | nil =>
          exact absurd ((List.cons.inj h).left.symm ▸ List.mem_cons_self) ha
      | cons d later =>
          rcases List.cons.inj h with ⟨hhead, htail⟩
          have hrest := ih (fun hmem => ha (List.mem_cons_of_mem c hmem))
            (fun hmem => hb (List.mem_cons_of_mem d hmem)) htail
          exact And.intro (by rw [hhead, hrest.left]) hrest.right

theorem segment_selfDelimiting : SelfDelimiting segment := by
  intro a b x y heq
  unfold segment at heq
  rw [List.append_assoc, List.append_assoc, List.cons_append, List.cons_append] at heq
  rcases append_cons_inj (colon_not_mem_decimal _) (colon_not_mem_decimal _) heq with
    ⟨hlength, hrest⟩
  exact List.append_inj hrest (decimal_injective hlength)

theorem length_segment (bytes : Bytes) :
    (segment bytes).length = (decimal bytes.length).length + 1 + bytes.length := by
  unfold segment
  rw [List.length_append, List.length_cons]
  omega

theorem length_lt_length_segment (bytes : Bytes) : bytes.length < (segment bytes).length := by
  rw [length_segment]
  omega

theorem segment_decimal_selfDelimiting : SelfDelimiting fun value => segment (decimal value) :=
  segment_selfDelimiting.comp decimal_injective

theorem segment_utf8_selfDelimiting : SelfDelimiting fun text => segment (utf8 text) :=
  segment_selfDelimiting.comp utf8_injective

/-- A larger number has no fewer digits. -/
theorem length_decimal_le {a b : Nat} (h : a <= b) :
    (decimal a).length <= (decimal b).length := by
  rw [length_decimal, length_decimal]
  have hpos : 0 < (Nat.toDigits 10 b).length := Nat.length_toDigits_pos
  apply (Nat.length_toDigits_le_iff (by decide) hpos).mpr
  exact Nat.lt_of_le_of_lt h ((Nat.length_toDigits_le_iff (by decide) hpos).mp (Nat.le_refl _))

theorem length_segment_decimal_le {a b : Nat} (h : a <= b) :
    (segment (decimal a)).length <= (segment (decimal b)).length := by
  have hdigits := length_decimal_le h
  rw [length_segment, length_segment]
  have hlength := length_decimal_le hdigits
  omega

end GraphHelm
